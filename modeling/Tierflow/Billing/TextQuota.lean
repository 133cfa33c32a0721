import Tierflow.Billing.TieredExpr
import Tierflow.Foundation.Text

/-! The price data of a text request at its admission, and the quota it is settled with: by ratios, by a price
per call, or by a billing expression frozen at the admission. -/
namespace Tierflow
namespace Billing
open Rounding

/-! ## Group ratios -/

structure GroupRatioInfo where
  groupRatio : ℚ
  groupSpecialRatio : ℚ
  hasSpecialRatio : Bool
  deriving DecidableEq, Repr

/-- The ratios of groups, and those that users of one group have in another. -/
structure GroupRatios where
  groupGroupRatio : String → String → Option ℚ
  groupRatio : String → ℚ

def groupRatioInfo (R : GroupRatios) (userGroup usingGroup : String) : GroupRatioInfo :=
  match R.groupGroupRatio userGroup usingGroup with
  | some ratio => ⟨ratio,ratio,true⟩
  | none => ⟨R.groupRatio usingGroup,-1,false⟩

/-! ## Prices -/

/-- What the settings say of models, channels and tools; `compile` is what an expression's text means. -/
structure PriceSettings where
  quotaPerUnit : ℚ
  preConsumedQuota : ℤ
  enableFreeModelPreConsume : Bool
  tieredExpr : String → Bool
  billingExpr : String → Option String
  channelBillingExpr : ℕ → String → Option String
  compile : String → BillingExpr
  modelPrice : String → Option ℚ
  /-- The ratio, and whether it is one that was set. -/
  modelRatio : String → ℚ × Bool
  defaultModelRatio : String → Option ℚ
  completionRatio : String → ℚ
  cacheRatio : String → ℚ
  createCacheRatio : String → ℚ
  imageRatio : String → ℚ
  toolPriceForModel : String → String → ℚ
  gptImage1PriceOnceCall : String → String → ℚ
  geminiInputAudioPricePerMillionTokens : String → ℚ

structure PriceData where
  freeModel : Bool
  modelPrice : ℚ
  modelRatio : ℚ
  completionRatio : ℚ
  cacheRatio : ℚ
  cacheCreationRatio : ℚ
  cacheCreation5mRatio : ℚ
  cacheCreation1hRatio : ℚ
  imageRatio : ℚ
  otherRatios : List ℚ
  usePrice : Bool
  quotaToPreConsume : ℤ
  groupRatioInfo : GroupRatioInfo

/-- The snapshot of a request together with the text of its expression. -/
structure TieredSnapshot extends BillingSnapshot where
  exprString : String

/-- The calls of built-in tools in a response of the Responses API. -/
structure ResponsesUsageInfo where
  webSearchPreview : Option ℤ
  fileSearch : Option ℤ
  deriving DecidableEq, Repr

/-- What a request is priced by, apart from its usage. -/
structure TextRequest where
  originModelName : String
  acceptUnsetRatioModel : Bool
  estimatePromptTokens : ℤ
  maxTokens : ℤ
  imagePriceRatio : ℚ
  channelId : ℕ
  channelIsOpenRouter : Bool
  finalFormatIsClaude : Bool
  responsesUsageInfo : Option ResponsesUsageInfo
  claudeWebSearchRequests : ℤ
  /-- Quality and size. -/
  imageGenerationCall : Option (String × String)

structure RelayInfo where
  request : TextRequest
  priceData : PriceData
  tieredBillingSnapshot : Option TieredSnapshot
  finalPreConsumedQuota : ℤ

/-- The usage with what concerns its origin. The cost is any JSON value; only a number counts. -/
structure TextUsage extends Usage where
  usageSource : String
  cost : Option ℚ
  deriving DecidableEq, Repr

/-! ## Admission -/

inductive PriceError
  | notConfigured
  | noBillingExpression
  | exprRunFailed (err : String)
  deriving DecidableEq, Repr

/-- `claudeCacheCreation1hMultiplier`. -/
def claudeCacheCreation1hMultiplier : ℚ := 6/3.75

/-- The quota to consume in advance, and whether the request is free of that. -/
def preConsume (S : PriceSettings) (ratio : ℚ) (free : Bool) (quota : ℤ) : ℤ × Bool :=
  if S.enableFreeModelPreConsume then (quota,false)
  else if ratio = 0 ∨ free = true then (0,true) else (quota,false)

def freeze (S : PriceSettings) (exprStr : String) (groupRatio : ℚ) (estimatedQuotaAfterGroup : ℤ)
    (estimatedTier : String) : TieredSnapshot where
  billingMode := "tiered_expr"
  expr := S.compile exprStr
  groupRatio := groupRatio
  estimatedQuotaAfterGroup := estimatedQuotaAfterGroup
  estimatedTier := estimatedTier
  quotaPerUnit := S.quotaPerUnit
  exprString := exprStr

def modelPriceHelperTiered (S : PriceSettings) (r : TextRequest) (g : GroupRatioInfo) :
    Except PriceError (PriceData × Option TieredSnapshot) :=
  match S.billingExpr r.originModelName with
  | none => .error .noBillingExpression
  | some exprStr =>
    let params : TokenParams := ⟨r.estimatePromptTokens,r.maxTokens,r.estimatePromptTokens,0,0,0,0,0,0,0⟩
    match (S.compile exprStr).run params.env with
    | .error err => .error (.exprRunFailed err)
    | .ok (rawCost,tier) =>
      let quotaBeforeGroup := rawCost/1000000*S.quotaPerUnit
      let pre := preConsume S g.groupRatio false (quotaRound (quotaBeforeGroup*g.groupRatio))
      .ok (⟨pre.2,0,0,0,0,0,0,0,0,[],false,pre.1,g⟩,some (freeze S exprStr g.groupRatio pre.1 tier))

def modelPriceHelper (S : PriceSettings) (r : TextRequest) (g : GroupRatioInfo) :
    Except PriceError (PriceData × Option TieredSnapshot) :=
  if S.tieredExpr r.originModelName then modelPriceHelperTiered S r g
  else
    match S.modelPrice r.originModelName with
    | none =>
      let preConsumedTokens := max r.estimatePromptTokens S.preConsumedQuota+r.maxTokens
      let modelRatio := S.modelRatio r.originModelName
      if modelRatio.2 = false ∧ r.acceptUnsetRatioModel = false then .error .notConfigured
      else
        let cacheCreationRatio := S.createCacheRatio r.originModelName
        let pre := preConsume S g.groupRatio (modelRatio.1 = 0)
          (intPart (preConsumedTokens*(modelRatio.1*g.groupRatio)))
        .ok (⟨pre.2,-1,modelRatio.1,S.completionRatio r.originModelName,S.cacheRatio r.originModelName,
          cacheCreationRatio,cacheCreationRatio,cacheCreationRatio*claudeCacheCreation1hMultiplier,
          S.imageRatio r.originModelName,[],false,pre.1,g⟩,none)
    | some price =>
      let modelPrice := if r.imagePriceRatio≠0 then price*r.imagePriceRatio else price
      let pre := preConsume S g.groupRatio (modelPrice = 0) (intPart (modelPrice*S.quotaPerUnit*g.groupRatio))
      .ok (⟨pre.2,modelPrice,0,0,0,0,0,0,0,[],true,pre.1,g⟩,none)

/-- Who pays for a request, as far as it decides on the quota that is consumed in advance. -/
inductive PreConsumption
  | trusted
  | wallet
  | premium
  | basic
  deriving DecidableEq, Repr

/-- `FinalPreConsumedQuota`: a subscription consumes at least one unit, the basic bucket counts tokens. -/
def finalPreConsumedQuota (f : PreConsumption) (r : TextRequest) (p : PriceData) : ℤ :=
  if p.freeModel then 0
  else
    match f with
    | .trusted => 0
    | .wallet => p.quotaToPreConsume
    | .premium => if p.quotaToPreConsume≤0 then 1 else p.quotaToPreConsume
    | .basic => if r.estimatePromptTokens≤0 then 1 else r.estimatePromptTokens

/-- A request that is admitted with the ratio of a group. -/
def admitRequest (S : PriceSettings) (f : PreConsumption) (r : TextRequest) (g : GroupRatioInfo) :
    Except PriceError RelayInfo :=
  (modelPriceHelper S r g).map fun p => ⟨r,p.1,p.2,finalPreConsumedQuota f r p.1⟩

/-- `info.PriceData.GroupRatioInfo = helper.HandleGroupRatio(c, info)` on a retry. -/
def RelayInfo.refresh (info : RelayInfo) (g : GroupRatioInfo) : RelayInfo :=
  { info with priceData := { info.priceData with groupRatioInfo := g } }

/-! ## Settlement -/

structure TextQuotaSummary where
  totalTokens : ℤ
  isClaudeUsageSemantic : Bool
  groupRatio : ℚ
  toolCallSurchargeQuota : ℚ
  quota : ℤ
  deriving DecidableEq, Repr

/-- A price of a thousand calls. -/
def callSurcharge (S : PriceSettings) (price groupRatio : ℚ) (calls : Option ℤ) : ℚ :=
  match calls with
  | none => 0
  | some n => if 0 < n then quotient (price*n) 1000*groupRatio*S.quotaPerUnit else 0

def calculateTextToolCallSurcharge (S : PriceSettings) (r : TextRequest) (groupRatio : ℚ) : ℚ :=
  let webSearchPrice := S.toolPriceForModel "web_search_preview" r.originModelName
  let webSearch := match r.responsesUsageInfo with
    | some tools => callSurcharge S webSearchPrice groupRatio tools.webSearchPreview
    | none => if (Text.cutSuffix r.originModelName "search-preview").isSome
        then quotient webSearchPrice 1000*groupRatio*S.quotaPerUnit else 0
  let claudeWebSearch := if 0 < r.claudeWebSearchRequests
    then quotient (S.toolPriceForModel "web_search" "") 1000*groupRatio*S.quotaPerUnit*r.claudeWebSearchRequests
    else 0
  let fileSearch := match r.responsesUsageInfo with
    | some tools => callSurcharge S (S.toolPriceForModel "file_search" "") groupRatio tools.fileSearch
    | none => 0
  let image := match r.imageGenerationCall with
    | some (quality,size) => S.gptImage1PriceOnceCall quality size*groupRatio*S.quotaPerUnit
    | none => 0
  webSearch+claudeWebSearch+fileSearch+image

def isLegacyClaudeDerivedOpenAIUsage (r : TextRequest) (u : TextUsage) : Bool :=
  !r.finalFormatIsClaude && u.usageSource = "" && u.usageSemantic = "" &&
    (decide (0 < u.claudeCacheCreation5mTokens) || decide (0 < u.claudeCacheCreation1hTokens))

def hasCustomModelRatio (S : PriceSettings) (modelName : String) (currentRatio : ℚ) : Bool :=
  match S.defaultModelRatio modelName with
  | none => true
  | some ratio => currentRatio≠ratio

def calcOpenRouterCacheCreateTokens (S : PriceSettings) (u : TextUsage) (p : PriceData) : ℤ :=
  if p.cacheCreationRatio = 1 then 0
  else
    let quotaPrice := p.modelRatio/S.quotaPerUnit
    nearest ((u.cost.getD 0-u.promptTokens*quotaPrice+
      u.promptTokensDetails.cachedTokens*(quotaPrice-quotaPrice*p.cacheRatio)-
      u.completionTokens*(quotaPrice*p.completionRatio))/(quotaPrice*p.cacheCreationRatio-quotaPrice))

/-- The prompt tokens and the cache creation tokens that are charged. -/
def chargedPrompt (S : PriceSettings) (info : RelayInfo) (u : TextUsage) (isClaude : Bool) : ℤ × ℤ :=
  let creation := u.promptTokensDetails.cachedCreationTokens
  if info.request.channelIsOpenRouter ∧ isClaude = true then
    let prompt := u.promptTokens-u.promptTokensDetails.cachedTokens
    let custom := info.priceData.usePrice || hasCustomModelRatio S info.request.originModelName info.priceData.modelRatio
    -- `usage.Cost != 0` compares a JSON value with an integer and always holds
    let maybe := calcOpenRouterCacheCreateTokens S u info.priceData
    let creation := if creation = 0 ∧ info.priceData.cacheCreationRatio≠1 ∧ custom = false ∧ 0 ≤ maybe ∧ maybe≤prompt
      then maybe else creation
    (prompt-creation,creation)
  else (u.promptTokens,creation)

/-- The decimal quota in ratio pricing, before the other ratios; `plain` says that cached tokens are not part of
the prompt. -/
def ratioQuota (S : PriceSettings) (info : RelayInfo) (u : TextUsage) (prompt creation : ℤ) (plain : Bool)
    (surcharge : ℚ) : ℚ :=
  let p := info.priceData
  let groupRatio := p.groupRatioInfo.groupRatio
  let cache : ℚ := u.promptTokensDetails.cachedTokens
  let image : ℚ := u.promptTokensDetails.imageTokens
  let audio : ℚ := u.promptTokensDetails.audioTokens
  let fiveMinutes := u.claudeCacheCreation5mTokens
  let oneHour := u.claudeCacheCreation1hTokens
  let audioPrice := if audio≠0 then S.geminiInputAudioPricePerMillionTokens info.request.originModelName else 0
  let split := decide (0 < fiveMinutes) || decide (0 < oneHour)
  let base : ℚ := prompt-(if plain then 0 else cache)-
    (if (creation≠0 ∨ split = true) ∧ plain = false then creation else 0)-image-(if 0<audioPrice then audio else 0)
  let creationWithRatio : ℚ := if creation≠0 ∨ split = true then
      if plain then (max (creation-fiveMinutes-oneHour) 0 : ℤ)*p.cacheCreationRatio+
        fiveMinutes*p.cacheCreation5mRatio+oneHour*p.cacheCreation1hRatio
      else creation*p.cacheCreationRatio
    else 0
  let audioQuota := if 0<audioPrice then quotient audioPrice 1000000*audio*groupRatio*S.quotaPerUnit else 0
  (base+cache*p.cacheRatio+image*p.imageRatio+creationWithRatio+u.completionTokens*p.completionRatio)*
    (p.modelRatio*groupRatio)+surcharge+audioQuota

def usageOrEstimate (r : TextRequest) : Option TextUsage → TextUsage
  | some u => u
  | none => ⟨⟨r.estimatePromptTokens,0,"",⟨0,0,0,0⟩,⟨0,0⟩,0,0⟩,"",none⟩

def calculateTextQuotaSummary (S : PriceSettings) (info : RelayInfo) (usage : Option TextUsage) : TextQuotaSummary :=
  let u := usageOrEstimate info.request usage
  let p := info.priceData
  let isClaude : Bool := usageSemanticFromUsage info.request.finalFormatIsClaude u.toUsage = "anthropic"
  let charged := chargedPrompt S info u isClaude
  let surcharge := calculateTextToolCallSurcharge S info.request p.groupRatioInfo.groupRatio
  let ratio := p.modelRatio*p.groupRatioInfo.groupRatio
  let total := u.promptTokens+u.completionTokens
  let quota := if p.usePrice = false then
      let plain := isClaude || isLegacyClaudeDerivedOpenAIUsage info.request u
      let q := ratioQuota S info u charged.1 charged.2 plain surcharge*p.otherRatios.prod
      nearest (if ratio≠0 ∧ q≤0 then 1 else q)
    else nearest ((p.modelPrice*S.quotaPerUnit*p.groupRatioInfo.groupRatio+surcharge)*p.otherRatios.prod)
  { totalTokens := total
    isClaudeUsageSemantic := isClaude
    groupRatio := p.groupRatioInfo.groupRatio
    toolCallSurchargeQuota := surcharge
    quota := if total = 0 then 0 else if ratio≠0 ∧ quota = 0 then 1 else quota }

/-- `reResolveTieredSnapshotForChannel`: the selling price of the channel that served the request. -/
def reResolveTieredSnapshotForChannel (S : PriceSettings) (info : RelayInfo) : RelayInfo :=
  match S.channelBillingExpr info.request.channelId info.request.originModelName with
  | none => info
  | some exprStr =>
    if info.tieredBillingSnapshot.any (fun s => s.billingMode = "tiered_expr" ∧ s.exprString = exprStr) then info
    else
      { info with
        tieredBillingSnapshot := some (freeze S exprStr info.priceData.groupRatioInfo.groupRatio 0 "") }

/-- The quota by the snapshot, and the result of its expression if that did not fail. -/
def tryTieredSettle (info : RelayInfo) (params : TokenParams) : Option (ℤ × Option TieredResult) :=
  match info.tieredBillingSnapshot with
  | none => none
  | some snap =>
    if snap.billingMode≠"tiered_expr" then none
    else
      match computeTieredQuotaWithRequest snap.toBillingSnapshot params with
      | .error _ => some (if info.finalPreConsumedQuota≤0 then snap.estimatedQuotaAfterGroup
          else info.finalPreConsumedQuota,none)
      | .ok tr => some (tr.actualQuotaAfterGroup,some tr)

def composeTieredTextQuota (info : RelayInfo) (summary : TextQuotaSummary) (tieredQuota : ℤ)
    (tieredResult : Option TieredResult) : ℤ :=
  if summary.toolCallSurchargeQuota = 0 then tieredQuota
  else
    match tieredResult,info.tieredBillingSnapshot with
    | some tr,some snap => nearest (tr.actualQuotaBeforeGroup*snap.groupRatio+summary.toolCallSurchargeQuota)
    | _,_ => tieredQuota+nearest summary.toolCallSurchargeQuota

/-- The quota that `PostTextConsumeQuota` settles a request with. -/
def settledQuota (S : PriceSettings) (info : RelayInfo) (usage : Option TextUsage) : ℤ :=
  let info := reResolveTieredSnapshotForChannel S info
  let summary := calculateTextQuotaSummary S info usage
  match usage with
  | none => summary.quota
  | some u =>
    let usedVars := (info.tieredBillingSnapshot.map (fun s => s.expr.usedVars)).getD (fun _ => false)
    match tryTieredSettle info (buildTieredTokenParams u.toUsage summary.isClaudeUsageSemantic usedVars) with
    | none => summary.quota
    | some (quota,result) => composeTieredTextQuota info summary quota result

end Billing
end Tierflow
