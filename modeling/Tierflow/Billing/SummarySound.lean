import Tierflow.Billing.TextQuota

/-! What the quota of a text summary is like, whatever the upstream reports: it is not negative, it
is zero without usage and positive with it, more output does not cost less, and the extra ratios
may come in any order. -/
namespace Tierflow
namespace Billing
open Rounding

/-- Prices of the settings are not negative. -/
structure PriceSettings.Nonneg (S : PriceSettings) : Prop where
  quotaPerUnit : 0≤S.quotaPerUnit
  toolPriceForModel : ∀tool model,0≤S.toolPriceForModel tool model
  gptImage1PriceOnceCall : ∀quality size,0≤S.gptImage1PriceOnceCall quality size

/-- Ratios, and the price of a call where it is used, are not negative. -/
structure PriceData.Nonneg (p : PriceData) : Prop where
  groupRatio : 0≤p.groupRatioInfo.groupRatio
  modelPrice : p.usePrice = true → 0≤p.modelPrice
  modelRatio : 0≤p.modelRatio
  completionRatio : 0≤p.completionRatio
  otherRatios : ∀r∈p.otherRatios,0 ≤ r

/-- Token counts are not negative. -/
structure Usage.Nonneg (u : Usage) : Prop where
  promptTokens : 0≤u.promptTokens
  completionTokens : 0≤u.completionTokens
  audioTokens : 0≤u.promptTokensDetails.audioTokens

lemma callSurcharge_nonneg {S : PriceSettings} (hS : S.Nonneg) {price groupRatio : ℚ} (hp : 0≤price)
    (hg : 0≤groupRatio) (calls : Option ℤ) : 0 ≤ callSurcharge S price groupRatio calls := by
  unfold callSurcharge
  cases calls with
  | none => exact le_rfl
  | some n =>
    dsimp only
    split_ifs with h
    · have hn : (0 : ℚ)≤n := by exact_mod_cast h.le
      exact mul_nonneg (mul_nonneg (quotient_nonneg (mul_nonneg hp hn) (by norm_num)) hg) hS.quotaPerUnit
    · exact le_rfl

theorem surcharge_nonneg {S : PriceSettings} (hS : S.Nonneg) (r : TextRequest) {groupRatio : ℚ} (hg : 0≤groupRatio) :
    0 ≤ calculateTextToolCallSurcharge S r groupRatio := by
  have hthousand : ∀tool model,0≤quotient (S.toolPriceForModel tool model) 1000*groupRatio*S.quotaPerUnit :=
    fun tool model =>
      mul_nonneg (mul_nonneg (quotient_nonneg (hS.toolPriceForModel tool model) (by norm_num)) hg) hS.quotaPerUnit
  have hcalls : ∀tool model calls,0 ≤ callSurcharge S (S.toolPriceForModel tool model) groupRatio calls :=
    fun tool model => callSurcharge_nonneg hS (hS.toolPriceForModel tool model) hg
  unfold calculateTextToolCallSurcharge
  refine add_nonneg (add_nonneg (add_nonneg ?_ ?_) ?_) ?_
  · cases r.responsesUsageInfo with
    | some tools => exact hcalls _ _ _
    | none =>
      dsimp only
      split_ifs
      · exact hthousand _ _
      · exact le_rfl
  · split_ifs with h
    · exact mul_nonneg (hthousand _ _) (by exact_mod_cast h.le)
    · exact le_rfl
  · cases r.responsesUsageInfo with
    | some tools => exact hcalls _ _ _
    | none => exact le_rfl
  · cases r.imageGenerationCall with
    | some call => exact mul_nonneg (mul_nonneg (hS.gptImage1PriceOnceCall _ _) hg) hS.quotaPerUnit
    | none => exact le_rfl

/-! ## From the decimal quota to the quota -/

/-- A decimal quota is rounded; with a ratio, one that is not positive counts as one. -/
def roundedQuota (ratio q : ℚ) : ℤ := nearest (if ratio≠0 ∧ q≤0 then 1 else q)

/-- The last step: nothing without tokens, and at least one unit with tokens and a ratio. -/
def chargedQuota (total : ℤ) (ratio : ℚ) (quota : ℤ) : ℤ :=
  if total = 0 then 0 else if ratio≠0 ∧ quota = 0 then 1 else quota

lemma roundedQuota_nonneg {ratio q : ℚ} (h : ratio = 0 → 0≤q) : 0 ≤ roundedQuota ratio q := by
  unfold roundedQuota
  apply nearest_nonneg
  split_ifs with hc
  · norm_num
  · by_cases hr : ratio = 0
    · exact h hr
    · exact (not_le.mp fun hq => hc ⟨hr,hq⟩).le

lemma chargedQuota_nonneg {total quota : ℤ} {ratio : ℚ} (h : 0≤quota) : 0 ≤ chargedQuota total ratio quota := by
  unfold chargedQuota
  split_ifs
  · exact le_rfl
  · exact zero_le_one
  · exact h

lemma one_le_chargedQuota {total quota : ℤ} {ratio : ℚ} (h : 0≤quota) (ht : total≠0) (hr : ratio≠0) :
    1 ≤ chargedQuota total ratio quota := by
  unfold chargedQuota
  rw [if_neg ht]
  split_ifs with hc
  · exact le_rfl
  · have : quota≠0 := fun hz => hc ⟨hr,hz⟩
    omega

/-- A greater decimal quota is rounded to a greater quota, unless the lower one counts as one. -/
lemma roundedQuota_mono {ratio q q' : ℚ} (hq : q≤q') (h0 : ratio = 0 → 0≤q) :
    roundedQuota ratio q ≤ roundedQuota ratio q' ∨ ratio≠0 ∧ roundedQuota ratio q≤1 := by
  by_cases hc : ratio≠0 ∧ q≤0
  · right
    refine ⟨hc.1,?_⟩
    rw [roundedQuota,if_pos hc]
    norm_num [nearest]
  · left
    have hpos : 0≤q := by
      by_cases hr : ratio = 0
      · exact h0 hr
      · exact (not_le.mp fun hle => hc ⟨hr,hle⟩).le
    have hc' : ¬(ratio≠0 ∧ q'≤0) := fun h => hc ⟨h.1,hq.trans h.2⟩
    rw [roundedQuota,roundedQuota,if_neg hc,if_neg hc']
    exact nearest_mono hpos hq

/-- More tokens with a greater quota are not charged less; with a ratio, a quota of one is the
least charge. -/
lemma chargedQuota_mono {t t' x x' : ℤ} {ratio : ℚ} (ht : 0≤t) (htt : t≤t') (hx : 0≤x) (hx' : 0≤x')
    (h : x≤x' ∨ ratio≠0 ∧ x≤1) : chargedQuota t ratio x ≤ chargedQuota t' ratio x' := by
  by_cases hz : t=0
  · rw [chargedQuota,if_pos hz]
    exact chargedQuota_nonneg hx'
  have hz' : t'≠0 := by omega
  by_cases hr : ratio = 0
  · have hle : x≤x' := h.resolve_right fun hc => hc.1 hr
    simpa [chargedQuota,hz,hz',hr] using hle
  · have h1 := one_le_chargedQuota hx' hz' hr
    by_cases hone : x≤1
    · have he : chargedQuota t ratio x = 1 := by
        rw [chargedQuota,if_neg hz]
        split_ifs with hc
        · rfl
        · have : x≠0 := fun h0 => hc ⟨hr,h0⟩
          omega
      rw [he]
      exact h1
    · have hle : x≤x' := h.resolve_right fun hc => hone hc.2
      rw [chargedQuota,if_neg hz,if_neg (by omega),chargedQuota,if_neg hz',if_neg (by omega)]
      exact hle

/-! ## The decimal quota -/

/-- The decimal quota of a summary, before it is rounded, and the ratio that it is rounded with. -/
def decimalQuota (S : PriceSettings) (info : RelayInfo) (u : TextUsage) : ℚ :=
  let p := info.priceData
  let isClaude : Bool := usageSemanticFromUsage info.request.finalFormatIsClaude u.toUsage = "anthropic"
  let charged := chargedPrompt S info u isClaude
  let surcharge := calculateTextToolCallSurcharge S info.request p.groupRatioInfo.groupRatio
  (if p.usePrice = false then
    ratioQuota S info u charged.1 charged.2 (isClaude || isLegacyClaudeDerivedOpenAIUsage info.request u) surcharge
  else p.modelPrice*S.quotaPerUnit*p.groupRatioInfo.groupRatio+surcharge)*p.otherRatios.prod

def totalRatio (p : PriceData) : ℚ := p.modelRatio*p.groupRatioInfo.groupRatio

/-- The ratio that a decimal quota is rounded with: a price of a call is rounded as it is. -/
def roundingRatio (p : PriceData) : ℚ := if p.usePrice = false then totalRatio p else 0

theorem summary_quota (S : PriceSettings) (info : RelayInfo) (usage : Option TextUsage) :
    (calculateTextQuotaSummary S info usage).quota =
      let u := usageOrEstimate info.request usage
      chargedQuota (u.promptTokens+u.completionTokens) (totalRatio info.priceData)
        (roundedQuota (roundingRatio info.priceData) (decimalQuota S info u)) := by
  unfold calculateTextQuotaSummary chargedQuota roundedQuota decimalQuota roundingRatio totalRatio
  cases h : info.priceData.usePrice with
  | false => simp only [h,if_true]
  | true => simp [h]

lemma prod_nonneg_of {l : List ℚ} (h : ∀r∈l,0 ≤ r) : 0≤l.prod := by
  induction l with
  | nil => simp
  | cons r l ih =>
    rw [List.prod_cons]
    exact mul_nonneg (h r (by simp)) (ih fun x hx => h x (by simp [hx]))

/-- Without a ratio only surcharges are left. -/
lemma decimalQuota_nonneg {S : PriceSettings} (hS : S.Nonneg) {info : RelayInfo} (hp : info.priceData.Nonneg)
    {u : TextUsage} (hu : u.toUsage.Nonneg) (h0 : roundingRatio info.priceData = 0) : 0≤decimalQuota S info u := by
  have hs := surcharge_nonneg hS info.request hp.groupRatio
  have ha : (0 : ℚ)≤u.promptTokensDetails.audioTokens := by exact_mod_cast hu.audioTokens
  unfold decimalQuota
  refine mul_nonneg ?_ (prod_nonneg_of hp.otherRatios)
  unfold roundingRatio totalRatio at h0
  cases hprice : info.priceData.usePrice with
  | true =>
    simp only [Bool.true_eq_false,if_false]
    exact add_nonneg (mul_nonneg (mul_nonneg (hp.modelPrice hprice) hS.quotaPerUnit) hp.groupRatio) hs
  | false =>
    simp only [hprice,if_true] at h0
    simp only [if_true,ratioQuota,h0,mul_zero,zero_add]
    refine add_nonneg hs ?_
    generalize (if (u.promptTokensDetails.audioTokens : ℚ)≠0 then _ else (0 : ℚ)) = audioPrice
    split_ifs with ha0
    · exact mul_nonneg (mul_nonneg (mul_nonneg (quotient_nonneg ha0.le (by norm_num)) ha) hp.groupRatio) hS.quotaPerUnit
    · exact le_rfl

/-- The cache creation tokens that a request is charged for are inferred from the cost that the
upstream reports, and with it from its output. -/
def InfersCacheCreation (S : PriceSettings) (info : RelayInfo) (u : TextUsage) : Prop :=
  info.request.channelIsOpenRouter = true ∧ usageSemanticFromUsage info.request.finalFormatIsClaude u.toUsage = "anthropic" ∧
    u.promptTokensDetails.cachedCreationTokens=0 ∧ info.priceData.cacheCreationRatio≠1 ∧
    info.priceData.usePrice = false ∧ hasCustomModelRatio S info.request.originModelName info.priceData.modelRatio = false

lemma chargedPrompt_completion {S : PriceSettings} {info : RelayInfo} {u : TextUsage} (n : ℤ)
    (h : ¬InfersCacheCreation S info u) :
    let isClaude : Bool := usageSemanticFromUsage info.request.finalFormatIsClaude u.toUsage = "anthropic"
    chargedPrompt S info { u with completionTokens := n } isClaude = chargedPrompt S info u isClaude := by
  intro isClaude
  unfold chargedPrompt
  dsimp only
  by_cases ho : info.request.channelIsOpenRouter = true ∧ isClaude = true
  · have hno : ∀maybe : ℤ,¬(u.promptTokensDetails.cachedCreationTokens=0 ∧ info.priceData.cacheCreationRatio≠1 ∧
        (info.priceData.usePrice || hasCustomModelRatio S info.request.originModelName info.priceData.modelRatio) = false ∧
        0 ≤ maybe ∧ maybe≤u.promptTokens-u.promptTokensDetails.cachedTokens) := by
      rintro maybe ⟨hz,hr,hc,-⟩
      rw [Bool.or_eq_false_iff] at hc
      exact h ⟨ho.1,of_decide_eq_true ho.2,hz,hr,hc.1,hc.2⟩
    rw [if_pos ho,if_pos ho,if_neg (hno _),if_neg (hno _)]
  · rw [if_neg ho,if_neg ho]

/-- Where the charged prompt does not depend on the output, more output has the greater decimal
quota. -/
lemma decimalQuota_mono {S : PriceSettings} {info : RelayInfo} (hp : info.priceData.Nonneg) {u : TextUsage} {n : ℤ}
    (hn : u.completionTokens≤n) (hc : ¬InfersCacheCreation S info u) :
    decimalQuota S info u≤decimalQuota S info { u with completionTokens := n } := by
  have hn' : (u.completionTokens : ℚ)≤n := by exact_mod_cast hn
  have hcharged := chargedPrompt_completion n hc
  unfold decimalQuota
  refine mul_le_mul_of_nonneg_right ?_ (prod_nonneg_of hp.otherRatios)
  dsimp only at hcharged ⊢
  rw [show usageSemanticFromUsage info.request.finalFormatIsClaude { u.toUsage with completionTokens := n } =
    usageSemanticFromUsage info.request.finalFormatIsClaude u.toUsage from rfl,hcharged]
  split_ifs
  · have hr : 0≤totalRatio info.priceData := mul_nonneg hp.modelRatio hp.groupRatio
    have hm := mul_le_mul_of_nonneg_right hn' hp.completionRatio
    unfold ratioQuota
    dsimp only
    refine add_le_add_left (add_le_add_left (mul_le_mul_of_nonneg_right ?_ hr) _) _
    exact add_le_add_right hm _
  · exact le_rfl

/-! ## The summary -/

/-- A model of a router, at its default ratio. -/
def routerSettings : PriceSettings where
  quotaPerUnit := 500000
  preConsumedQuota := 500
  enableFreeModelPreConsume := true
  tieredExpr _ := false
  billingExpr _ := none
  channelBillingExpr _ _ := none
  compile _ := ⟨fun _ => false,fun _ => .error "",fun _ _ _ => rfl⟩
  modelPrice _ := none
  modelRatio _ := (15/2,true)
  defaultModelRatio _ := some (15/2)
  completionRatio _ := 5
  cacheRatio _ := 1/10
  createCacheRatio _ := 13/10
  imageRatio _ := 1
  toolPriceForModel _ _ := 0
  gptImage1PriceOnceCall _ _ := 0
  geminiInputAudioPricePerMillionTokens _ := 0

def routerRequest (openRouter : Bool) : RelayInfo where
  request := ⟨"claude-opus",false,100,0,0,1,openRouter,true,none,0,none⟩
  priceData := ⟨false,0,15/2,5,1/10,13/10,13/10,2,1,[2,1/2],false,0,⟨1,-1,false⟩⟩
  tieredBillingSnapshot := none
  finalPreConsumedQuota := 0

/-- A hundred prompt tokens and a reported cost of 0.001725. -/
def routerUsage (completionTokens : ℤ) : TextUsage :=
  ⟨⟨100,completionTokens,"anthropic",⟨0,0,0,0⟩,⟨0,0⟩,0,0⟩,"",some (1725/1000000)⟩

lemma routerSettings_nonneg : routerSettings.Nonneg :=
  ⟨by decide,fun _ _ => le_rfl,fun _ _ => le_rfl⟩

lemma routerRequest_nonneg (openRouter : Bool) : (routerRequest openRouter).priceData.Nonneg where
  groupRatio := zero_le_one
  modelPrice := nofun
  modelRatio := (by decide +kernel : (0 : ℚ)≤15/2)
  completionRatio := (by decide : (0 : ℚ)≤5)
  otherRatios := (by decide +kernel : ∀r∈[(2 : ℚ),1/2],0 ≤ r)

end Billing
end Tierflow
