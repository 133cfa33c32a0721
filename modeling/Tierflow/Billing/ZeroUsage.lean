import Tierflow.Billing.ServingRatio

/-! What a request without any token is settled with on the three paths for text, audio and realtime
sessions. The text path applies its zero rule before the billing expression, the other two after
it and to the total that the upstream reports. -/
namespace Tierflow
namespace Billing
open Rounding

/-! ## Audio and realtime -/

/-- The ratios of audio tokens, by model. -/
structure AudioRatios where
  audioRatio : String → ℚ
  audioCompletionRatio : String → ℚ

/-- A usage with its total and its text tokens. -/
structure AudioUsage extends Usage where
  totalTokens : ℤ
  inputTextTokens : ℤ
  outputTextTokens : ℤ

structure RealtimeUsage where
  totalTokens : ℤ
  inputTokens : ℤ
  outputTokens : ℤ
  inputTextTokens : ℤ
  inputAudioTokens : ℤ
  outputTextTokens : ℤ
  outputAudioTokens : ℤ

/-- The text and audio tokens of input and output. -/
structure TokenDetails where
  inputText : ℤ
  outputText : ℤ
  inputAudio : ℤ
  outputAudio : ℤ

def AudioUsage.details (u : AudioUsage) : TokenDetails :=
  ⟨u.inputTextTokens,u.outputTextTokens,u.promptTokensDetails.audioTokens,u.completionTokenDetails.audioTokens⟩

def RealtimeUsage.details (u : RealtimeUsage) : TokenDetails :=
  ⟨u.inputTextTokens,u.outputTextTokens,u.inputAudioTokens,u.outputAudioTokens⟩

/-- The tokens weighted by their ratios. -/
def weightedTokens (S : PriceSettings) (A : AudioRatios) (modelName : String) (d : TokenDetails) : ℚ :=
  d.inputText+d.outputText*S.completionRatio modelName+d.inputAudio*A.audioRatio modelName+
    d.outputAudio*A.audioRatio modelName*A.audioCompletionRatio modelName

def calculateAudioQuota (S : PriceSettings) (A : AudioRatios) (modelName : String) (p : PriceData)
    (d : TokenDetails) : ℤ :=
  if p.usePrice then intPart (p.modelPrice*S.quotaPerUnit*p.groupRatioInfo.groupRatio)
  else
    let ratio := p.groupRatioInfo.groupRatio*p.modelRatio
    let quota := weightedTokens S A modelName d*ratio
    nearest (if ratio≠0 ∧ quota≤0 then 1 else quota)

/-- The variables that the expression of a request uses. -/
def RelayInfo.usedVars (info : RelayInfo) : TokenVar → Bool :=
  (info.tieredBillingSnapshot.map (fun s => s.expr.usedVars)).getD (fun _ => false)

/-- The end of the two paths: the expression counts before the ratios, a total of zero before both. -/
def audioPathQuota (tiered : Option (ℤ × Option TieredResult)) (quota totalTokens : ℤ) : ℤ :=
  if totalTokens = 0 then 0
  else match tiered with
    | none => quota
    | some (q,_) => q

/-- The quota that `PostAudioConsumeQuota` settles a request with. -/
def settledAudioQuota (S : PriceSettings) (A : AudioRatios) (info : RelayInfo) (u : AudioUsage) : ℤ :=
  let info := reResolveTieredSnapshotForChannel S info
  audioPathQuota (tryTieredSettle info (buildTieredTokenParams u.toUsage false info.usedVars))
    (calculateAudioQuota S A info.request.originModelName info.priceData u.details) u.totalTokens

/-- The parameters of a realtime session; its categories are never told apart. -/
def realtimeParams (u : RealtimeUsage) : TokenParams := ⟨u.inputTokens,u.outputTokens,u.inputTokens,0,0,0,0,0,0,0⟩

/-- The quota that `PostWssConsumeQuota` settles a session with. -/
def settledRealtimeQuota (S : PriceSettings) (A : AudioRatios) (info : RelayInfo) (modelName : String)
    (u : RealtimeUsage) : ℤ :=
  let info := reResolveTieredSnapshotForChannel S info
  audioPathQuota (tryTieredSettle info (realtimeParams u))
    (calculateAudioQuota S A modelName info.priceData u.details) u.totalTokens

/-! ## When nothing is charged -/

lemma nearest_eq_zero_iff {q : ℚ} : nearest q = 0 ↔ |q|<1/2 := by
  rw [abs_lt,nearest]
  split_ifs with h
  · rw [Int.floor_eq_iff]
    push_cast
    constructor <;> rintro ⟨h1,h2⟩ <;> constructor <;> linarith
  · rw [neg_eq_zero,Int.floor_eq_iff]
    push_cast
    constructor <;> rintro ⟨h1,h2⟩ <;> constructor <;> linarith

lemma intPart_eq_zero_iff {q : ℚ} : intPart q = 0 ↔ |q|<1 := by
  rw [abs_lt,intPart]
  split_ifs with h
  · rw [Int.floor_eq_iff]
    push_cast
    constructor <;> rintro ⟨h1,h2⟩ <;> constructor <;> linarith
  · rw [Int.ceil_eq_iff]
    push_cast
    constructor <;> rintro ⟨h1,h2⟩ <;> constructor <;> linarith

/-- What a failed expression is replaced by: the quota consumed in advance, else the estimate. -/
def fallbackQuota (info : RelayInfo) (snap : TieredSnapshot) : ℤ :=
  if info.finalPreConsumedQuota≤0 then snap.estimatedQuotaAfterGroup else info.finalPreConsumedQuota

/-- A request is free by its expression: its cost together with the surcharge of the tools is less
than half a unit, or it fails, and neither the quota consumed in advance, the estimate nor the
surcharge leaves anything. Where no expression settles the request, `otherwise` decides. -/
def FreeByExpression (info : RelayInfo) (params : TokenParams) (surcharge : ℚ) (otherwise : Prop) : Prop :=
  match info.tieredBillingSnapshot with
  | none => otherwise
  | some snap =>
    if snap.billingMode≠"tiered_expr" then otherwise
    else match snap.expr.run params.env with
      | .error _ => fallbackQuota info snap+nearest surcharge = 0
      | .ok (cost,_) => |cost/1000000*snap.quotaPerUnit*snap.groupRatio+surcharge|<1/2

lemma nearest_zero : nearest 0 = 0 := nearest_eq_zero_iff.mpr (by norm_num)

/-- The quota of the expression and of the tools is zero exactly for a free request. -/
lemma composeTiered_free_iff (info : RelayInfo) (params : TokenParams) (summary : TextQuotaSummary) (quota : ℤ) :
    (match tryTieredSettle info params with
      | none => quota
      | some (q,result) => composeTieredTextQuota info summary q result) = 0 ↔
      FreeByExpression info params summary.toolCallSurchargeQuota (quota=0) := by
  unfold tryTieredSettle FreeByExpression composeTieredTextQuota computeTieredQuotaWithRequest quotaConversion quotaRound
    fallbackQuota
  cases info.tieredBillingSnapshot with
  | none => rfl
  | some snap =>
    dsimp only
    by_cases hm : snap.billingMode≠"tiered_expr"
    · rw [if_pos hm,if_pos hm]
    · rw [if_neg hm,if_neg hm]
      cases snap.expr.run params.env with
      | error err =>
        dsimp only
        by_cases hs : summary.toolCallSurchargeQuota = 0
        · rw [if_pos hs,hs,nearest_zero,add_zero]
        · rw [if_neg hs]
      | ok r =>
        dsimp only
        by_cases hs : summary.toolCallSurchargeQuota = 0
        · rw [if_pos hs,hs,add_zero,nearest_eq_zero_iff]
        · rw [if_neg hs,nearest_eq_zero_iff]

/-- The same without tools. -/
lemma tiered_free_iff {info : RelayInfo} {params : TokenParams} {quota : ℤ} :
    (match tryTieredSettle info params with
      | none => quota
      | some (q,_) => q) = 0 ↔ FreeByExpression info params 0 (quota=0) := by
  rw [←composeTiered_free_iff info params ⟨0,false,0,0,0⟩ quota]
  cases tryTieredSettle info params with
  | none => rfl
  | some r => simp [composeTieredTextQuota]

/-- Without an expression, audio is free at a price of less than a unit, at a ratio of zero, or
when the weighted tokens come to less than half a unit. -/
def FreeByRatios (S : PriceSettings) (A : AudioRatios) (modelName : String) (p : PriceData) (d : TokenDetails) : Prop :=
  if p.usePrice then |p.modelPrice*S.quotaPerUnit*p.groupRatioInfo.groupRatio|<1
  else
    let ratio := p.groupRatioInfo.groupRatio*p.modelRatio
    ratio = 0 ∨ 0 < weightedTokens S A modelName d*ratio ∧ weightedTokens S A modelName d*ratio<1/2

lemma calculateAudioQuota_eq_zero_iff {S : PriceSettings} {A : AudioRatios} {modelName : String} {p : PriceData}
    {d : TokenDetails} : calculateAudioQuota S A modelName p d = 0 ↔ FreeByRatios S A modelName p d := by
  unfold calculateAudioQuota FreeByRatios
  by_cases hp : p.usePrice = true
  · rw [if_pos hp,if_pos hp,intPart_eq_zero_iff]
  · rw [if_neg hp,if_neg hp]
    dsimp only
    by_cases hr : p.groupRatioInfo.groupRatio*p.modelRatio = 0
    · simp [hr,nearest_zero]
    · by_cases hq : weightedTokens S A modelName d*(p.groupRatioInfo.groupRatio*p.modelRatio)≤0
      · rw [if_pos ⟨hr,hq⟩]
        constructor
        · intro h
          norm_num [nearest] at h
        · rintro (h | h)
          · exact absurd h hr
          · exact absurd h.1 (not_lt.mpr hq)
      · rw [if_neg (fun h => hq h.2),nearest_eq_zero_iff,abs_of_pos (not_le.mp hq)]
        constructor
        · exact fun h => .inr ⟨not_le.mp hq,h⟩
        · rintro (h | h)
          · exact absurd h hr
          · exact h.2

/-! ## The three paths -/

/-- A usage without tokens is free on the text path if no expression settles the request, or if it
is free by its expression. -/
def TextFree (S : PriceSettings) (info : RelayInfo) : Option TextUsage → Prop
  | none => True
  | some u =>
    let info := reResolveTieredSnapshotForChannel S info
    let isClaude : Bool := usageSemanticFromUsage info.request.finalFormatIsClaude u.toUsage = "anthropic"
    FreeByExpression info (buildTieredTokenParams u.toUsage isClaude info.usedVars)
      (calculateTextToolCallSurcharge S info.request info.priceData.groupRatioInfo.groupRatio) True

def AudioFree (S : PriceSettings) (A : AudioRatios) (info : RelayInfo) (u : AudioUsage) : Prop :=
  let info := reResolveTieredSnapshotForChannel S info
  u.totalTokens=0 ∨ FreeByExpression info (buildTieredTokenParams u.toUsage false info.usedVars) 0
    (FreeByRatios S A info.request.originModelName info.priceData u.details)

def RealtimeFree (S : PriceSettings) (A : AudioRatios) (info : RelayInfo) (modelName : String)
    (u : RealtimeUsage) : Prop :=
  let info := reResolveTieredSnapshotForChannel S info
  u.totalTokens=0 ∨ FreeByExpression info (realtimeParams u) 0 (FreeByRatios S A modelName info.priceData u.details)

lemma audioPathQuota_eq_zero_iff {info : RelayInfo} {params : TokenParams} {quota totalTokens : ℤ} :
    audioPathQuota (tryTieredSettle info params) quota totalTokens = 0 ↔
      totalTokens=0 ∨ FreeByExpression info params 0 (quota=0) := by
  unfold audioPathQuota
  by_cases ht : totalTokens=0
  · simp [ht]
  · rw [if_neg ht,tiered_free_iff,or_iff_right ht]

section
variable {S : PriceSettings} {A : AudioRatios} {info : RelayInfo}

lemma settledAudio_eq_zero_iff (u : AudioUsage) : settledAudioQuota S A info u = 0 ↔ AudioFree S A info u := by
  unfold settledAudioQuota AudioFree
  dsimp only
  rw [audioPathQuota_eq_zero_iff]
  simp only [calculateAudioQuota_eq_zero_iff]

lemma settledRealtime_eq_zero_iff (modelName : String) (u : RealtimeUsage) :
    settledRealtimeQuota S A info modelName u = 0 ↔ RealtimeFree S A info modelName u := by
  unfold settledRealtimeQuota RealtimeFree
  dsimp only
  rw [audioPathQuota_eq_zero_iff]
  simp only [calculateAudioQuota_eq_zero_iff]

lemma settledText_eq_zero_iff {usage : Option TextUsage} (hp : (usageOrEstimate info.request usage).promptTokens=0)
    (hc : (usageOrEstimate info.request usage).completionTokens=0) :
    settledQuota S info usage = 0 ↔ TextFree S info usage := by
  have hreq : (reResolveTieredSnapshotForChannel S info).request=info.request := by
    unfold reResolveTieredSnapshotForChannel
    split
    · rfl
    · split_ifs <;> rfl
  unfold settledQuota TextFree
  generalize reResolveTieredSnapshotForChannel S info = info' at *
  have hq : (calculateTextQuotaSummary S info' usage).quota=0 := by
    unfold calculateTextQuotaSummary
    dsimp only
    rw [hreq,hp,hc,add_zero,if_pos rfl]
  cases usage with
  | none => exact iff_of_true hq trivial
  | some u =>
    refine (composeTiered_free_iff info' _ (calculateTextQuotaSummary S info' (some u)) _).trans ?_
    simp only [hq]
    rfl

end

/-- A request whose expression fails, with 500 units consumed in advance. -/
def timedOutRequest (tiered : Bool) : RelayInfo where
  request := probeRequest
  priceData := ⟨false,1,0,0,0,0,0,0,0,[],true,500,⟨1,-1,false⟩⟩
  tieredBillingSnapshot :=
    if tiered then some (freeze (probeSettings true false (.error "e") 1) "e" 1 500 "t") else none
  finalPreConsumedQuota := 500

/-- The usage of an upstream that timed out. -/
def noUsage : AudioUsage := ⟨⟨0,0,"",⟨0,0,0,0⟩,⟨0,0⟩,0,0⟩,0,0,0⟩

end Billing
end Tierflow
