import Tierflow.Billing.TextQuota

/-! Requests that are admitted with the ratio of one group and served by the channel of another. -/
namespace Tierflow
namespace Billing
open Rounding

/-- The quota that a request is settled with when it was admitted with one ratio and served with another. -/
def settledAcross (S : PriceSettings) (f : PreConsumption) (r : TextRequest) (admission serving : GroupRatioInfo)
    (usage : Option TextUsage) : Except PriceError ℤ :=
  (admitRequest S f r admission).map fun info => settledQuota S (info.refresh serving) usage

/-- Whether a request is settled by an expression: that of its model, or one of the channel that served it. -/
structure Priced (S : PriceSettings) (r : TextRequest) (tiered override : Bool) : Prop where
  mode : S.tieredExpr r.originModelName = tiered
  selling : (S.channelBillingExpr r.channelId r.originModelName).isSome = override

/-! ## One ratio -/

section OneRatio
variable {S : PriceSettings} {f : PreConsumption} {r : TextRequest} {usage : Option TextUsage}

/-- Without an expression the settlement reads the prices and the current ratio. -/
lemma settledQuota_noSnapshot (h : S.channelBillingExpr r.channelId r.originModelName = none) (p : PriceData) (n : ℤ) :
    settledQuota S ⟨r,p,none,n⟩ usage = (calculateTextQuotaSummary S ⟨r,p,none,n⟩ usage).quota := by
  unfold settledQuota reResolveTieredSnapshotForChannel
  simp only [h]
  cases usage with
  | none => rfl
  | some u => rfl

lemma settledAcross_ratio (hp : Priced S r false false) (admission serving : GroupRatioInfo) :
    settledAcross S f r admission serving usage = settledAcross S f r serving serving usage := by
  have hsell : S.channelBillingExpr r.channelId r.originModelName = none := by
    have h := hp.selling
    rwa [Option.isSome_eq_false_iff,Option.isNone_iff_eq_none] at h
  unfold settledAcross admitRequest modelPriceHelper
  simp only [hp.mode,Bool.false_eq_true,if_false]
  cases S.modelPrice r.originModelName with
  | none =>
    simp only
    split_ifs
    · rfl
    · simp only [Except.map,RelayInfo.refresh,settledQuota_noSnapshot hsell]
      rfl
  | some price =>
    simp only [Except.map,RelayInfo.refresh,settledQuota_noSnapshot hsell]
    rfl

/-- The admission reads the ratio and nothing else of the group. -/
lemma settledAcross_congr {admission admission' : GroupRatioInfo} (h : admission.groupRatio = admission'.groupRatio)
    (serving : GroupRatioInfo) :
    settledAcross S f r admission serving usage = settledAcross S f r admission' serving usage := by
  unfold settledAcross admitRequest modelPriceHelper
  cases S.tieredExpr r.originModelName with
  | true =>
    simp only [if_true,modelPriceHelperTiered]
    cases S.billingExpr r.originModelName with
    | none => rfl
    | some exprStr =>
      simp only [h]
      split
      · rfl
      · rfl
  | false =>
    simp only [Bool.false_eq_true,if_false]
    cases S.modelPrice r.originModelName with
    | none =>
      simp only [h]
      split_ifs
      · rfl
      · rfl
    | some price =>
      simp only [h]
      rfl

end OneRatio

/-! ## Two ratios -/

/-- A model with an expression of constant cost, or none of whose expressions can be run; tools are free. -/
def probeSettings (tiered override : Bool) (run : Except String (ℚ×String)) (price : ℚ) : PriceSettings where
  quotaPerUnit := 1000000
  preConsumedQuota := 0
  enableFreeModelPreConsume := true
  tieredExpr _ := tiered
  billingExpr _ := some "e"
  channelBillingExpr _ _ := if override then some "e" else none
  compile _ := ⟨fun _ => false,fun _ => run,fun _ _ _ => rfl⟩
  modelPrice _ := some price
  modelRatio _ := (1,true)
  defaultModelRatio _ := none
  completionRatio _ := 1
  cacheRatio _ := 1
  createCacheRatio _ := 1
  imageRatio _ := 1
  toolPriceForModel _ _ := 0
  gptImage1PriceOnceCall _ _ := 0
  geminiInputAudioPricePerMillionTokens _ := 0

def probeRequest : TextRequest where
  originModelName := "m"
  acceptUnsetRatioModel := false
  estimatePromptTokens := 1
  maxTokens := 0
  imagePriceRatio := 0
  channelId := 1
  channelIsOpenRouter := false
  finalFormatIsClaude := false
  responsesUsageInfo := none
  claudeWebSearchRequests := 0
  imageGenerationCall := none

def probeUsage : TextUsage := ⟨⟨1,1,"",⟨0,0,0,0⟩,⟨0,0⟩,0,0⟩,"",none⟩

section Probe
variable {tiered override : Bool} {cost price : ℚ} {admission serving : GroupRatioInfo}

lemma surcharge_probe (run : Except String (ℚ×String)) (g : ℚ) :
    calculateTextToolCallSurcharge (probeSettings tiered override run price) probeRequest g = 0 := by
  have h0 : quotient 0 1000 = 0 := by norm_num [quotient,roundTo,nearest]
  simp [calculateTextToolCallSurcharge,probeRequest,probeSettings,h0]

/-- A snapshot settles a request without tools by itself. -/
lemma settledQuota_probe {run : Except String (ℚ×String)} {p : PriceData} {frozen : Option TieredSnapshot}
    {n q : ℤ} {result : Option TieredResult} (snap : TieredSnapshot)
    (hsnap : reResolveTieredSnapshotForChannel (probeSettings tiered override run price) ⟨probeRequest,p,frozen,n⟩ =
      ⟨probeRequest,p,some snap,n⟩)
    (hrun : ∀ params, tryTieredSettle ⟨probeRequest,p,some snap,n⟩ params = some (q,result)) :
    settledQuota (probeSettings tiered override run price) ⟨probeRequest,p,frozen,n⟩ (some probeUsage) = q := by
  unfold settledQuota
  simp only [hsnap,hrun,composeTieredTextQuota]
  exact if_pos (surcharge_probe run _)

/-- The cost of the expression, with the ratio of the admission. -/
lemma settledAcross_probe :
    settledAcross (probeSettings true override (.ok (cost,"t")) price) .wallet probeRequest admission serving
      (some probeUsage) = .ok (nearest (cost*admission.groupRatio)) := by
  have hcost : cost/1000000*1000000 = cost := by ring
  have hs : settledAcross (probeSettings true override (.ok (cost,"t")) price) .wallet probeRequest admission serving
      (some probeUsage) = .ok (nearest (cost/1000000*1000000*admission.groupRatio)) := by
    unfold settledAcross
    show Except.ok _ = _
    congr 1
    apply settledQuota_probe (freeze (probeSettings true override (.ok (cost,"t")) price) "e" admission.groupRatio
      (quotaRound (cost/1000000*1000000*admission.groupRatio)) "t")
    · cases override <;> rfl
    · intro params
      rfl
  rwa [hcost] at hs

/-- An expression that cannot be run leaves the request with what was consumed in advance. -/
lemma settledAcross_failing :
    settledAcross (probeSettings false true (.error "e") price) .wallet probeRequest admission serving
      (some probeUsage) = .ok (max (intPart (price*1000000*admission.groupRatio)) 0) := by
  unfold settledAcross
  show Except.ok _ = _
  congr 1
  apply settledQuota_probe (freeze (probeSettings false true (.error "e") price) "e" serving.groupRatio 0 "")
  · rfl
  · intro params
    show some (if intPart (price*1000000*admission.groupRatio)≤0 then 0
      else intPart (price*1000000*admission.groupRatio),_) = _
    split_ifs with hq
    · rw [max_eq_right hq]
    · rw [max_eq_left (not_le.mp hq).le]

end Probe

/-- Amounts that are more than a unit apart round differently. -/
lemma nearest_ne {x y : ℚ} (h : x-y = 2) : nearest x ≠ nearest y := by
  intro he
  have hx := abs_le.mp (abs_nearest_sub_le x)
  have hy := abs_le.mp (abs_nearest_sub_le y)
  rw [he] at hx
  linarith [hx.1,hy.2]

/-- Two amounts at a distance of two, the greater at least one, are taken in advance as different ones. -/
lemma max_intPart_ne {x y : ℚ} (h : x-y = 2) (hx : 1≤x) : max (intPart x) 0 ≠ max (intPart y) 0 := by
  have hpos : intPart x = ⌊x⌋ := if_pos (by linarith)
  have hone : 1≤⌊x⌋ := Int.le_floor.mpr (by exact_mod_cast hx)
  by_cases hy : 0≤y
  · have hfloor : ⌊x⌋ = ⌊y⌋+2 := by
      have he : x = y+(2 : ℤ) := by push_cast; linarith
      rw [he,Int.floor_add_intCast]
    have hy' : intPart y = ⌊y⌋ := if_pos hy
    have hy0 : 0≤⌊y⌋ := Int.floor_nonneg.mpr hy
    rw [hpos,hy']
    omega
  · have hy' : intPart y = ⌈y⌉ := if_neg hy
    have hy0 : ⌈y⌉≤0 := Int.ceil_le.mpr (by push_cast; linarith)
    rw [hpos,hy']
    omega

/-- A request that was moved from a group to another is settled wholly with the ratio of the one that served it,
whatever its prices, its usage and its expression are, exactly if no expression settles it or the two ratios are
the same. -/
theorem settledAcross_iff (tiered override : Bool) (admission serving : GroupRatioInfo) :
    (∀ S f r usage, Priced S r tiered override →
      settledAcross S f r admission serving usage = settledAcross S f r serving serving usage) ↔
    tiered = false ∧ override = false ∨ admission.groupRatio = serving.groupRatio := by
  constructor
  · intro h
    by_contra hcon
    push Not at hcon
    obtain ⟨hmode,hratio⟩ := hcon
    have hd : admission.groupRatio-serving.groupRatio ≠ 0 := sub_ne_zero.mpr hratio
    cases tiered with
    | true =>
      have hs := h (probeSettings true override (.ok (2/(admission.groupRatio-serving.groupRatio),"t")) 1) .wallet
        probeRequest (some probeUsage) ⟨rfl,by cases override <;> rfl⟩
      rw [settledAcross_probe,settledAcross_probe] at hs
      refine nearest_ne ?_ (Except.ok.inj hs)
      field_simp
    | false =>
      have hover : override = true := by simpa using hmode rfl
      subst hover
      have hs : ∀ price : ℚ, max (intPart (price*1000000*admission.groupRatio)) 0 =
          max (intPart (price*1000000*serving.groupRatio)) 0 := by
        intro price
        have hs := h (probeSettings false true (.error "e") price) .wallet probeRequest (some probeUsage) ⟨rfl,rfl⟩
        rw [settledAcross_failing,settledAcross_failing] at hs
        exact Except.ok.inj hs
      -- the sign of the price makes the greater of the two amounts positive
      by_cases hx : 1 ≤ 2/(admission.groupRatio-serving.groupRatio)*admission.groupRatio
      · refine max_intPart_ne ?_ ?_ (hs (2/(admission.groupRatio-serving.groupRatio)/1000000))
        · field_simp
        · have he : 2/(admission.groupRatio-serving.groupRatio)/1000000*1000000*admission.groupRatio =
              2/(admission.groupRatio-serving.groupRatio)*admission.groupRatio := by ring
          rw [he]
          exact hx
      · refine max_intPart_ne ?_ ?_ (hs (-(2/(admission.groupRatio-serving.groupRatio))/1000000)).symm
        · field_simp
          ring
        · have he : -(2/(admission.groupRatio-serving.groupRatio))/1000000*1000000*serving.groupRatio =
              2-2/(admission.groupRatio-serving.groupRatio)*admission.groupRatio := by
            field_simp
            ring
          rw [he]
          linarith [not_le.mp hx]
  · rintro (⟨rfl,rfl⟩ | hratio) S f r usage hp
    · exact settledAcross_ratio hp admission serving
    · exact settledAcross_congr hratio serving

end Billing
end Tierflow
