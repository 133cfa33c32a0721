import Tierflow.Billing.TieredExpr
import Tierflow.Foundation.Text

/-! What the upstream of a request is paid, in quota: by a cost expression for the channel and the model, or by the
flat rates of the model. The two conventions for cached tokens meet in the flat rates, which are not told which one
a usage follows. -/
namespace Tierflow
namespace Billing
open Rounding

/-! ## Settings -/

/-- Rates of a million tokens, or the price of a call. -/
structure ProviderModelCost where
  input : ℚ
  output : ℚ
  cachedInput : ℚ
  perRequest : ℚ
  deriving DecidableEq, Repr

/-- `compile` is what an expression's text means for the request at hand. -/
structure ProviderCostSettings where
  providerModelCost : String → Option ProviderModelCost
  costExpr : String → Option String
  compile : String → BillingExpr
  quotaPerUnit : ℚ

/-- Who served a request. -/
structure ServedBy where
  channelId : ℤ
  upstreamModelName : String
  originModelName : String
  deriving DecidableEq, Repr

def channelKey (channelId : ℤ) (model : String) : String :=
  if channelId≤0 then model else Text.printInt channelId++"|"++model

/-- The expression of the channel before that of the model; blank ones do not count. -/
def getCostExpr (S : ProviderCostSettings) (channelId : ℤ) (model : String) : Option String :=
  let set := fun key => (S.costExpr key).filter (fun e => Text.trimSpace e≠"")
  if 0 < channelId then (set (channelKey channelId model)).or (set model) else set model

def settlementCostModel (info : ServedBy) : String :=
  if info.upstreamModelName≠"" then info.upstreamModelName else info.originModelName

/-! ## Costs -/

/-- Cached input without a rate of its own is not free. -/
def ProviderModelCost.cachedRate (cost : ProviderModelCost) : ℚ :=
  if cost.cachedInput≤0 then cost.input else cost.cachedInput

/-- The convention is guessed: a negative remainder tells that the prompt excludes the cached tokens. -/
def nonCachedTokens (promptTokens cacheReadTokens cacheWriteTokens : ℤ) : ℤ :=
  let nonCached := promptTokens-cacheReadTokens-cacheWriteTokens
  max (if nonCached<0 then promptTokens else nonCached) 0

def computeProviderCost (S : ProviderCostSettings) (modelName : String)
    (promptTokens completionTokens cacheReadTokens cacheWriteTokens : ℤ) : Option ℤ :=
  (S.providerModelCost modelName).map (fun cost =>
    if 0 < cost.perRequest then max (quotaRound (cost.perRequest*S.quotaPerUnit)) 0
    else
      let nonCached := nonCachedTokens promptTokens cacheReadTokens cacheWriteTokens
      let currency : ℚ := (nonCached*cost.input+cacheReadTokens*cost.cachedRate+cacheWriteTokens*cost.input+
        completionTokens*cost.output)/1000000
      max (intPart (currency*S.quotaPerUnit)) 0)

/-- An expression that fails leaves the cost to the flat rates. -/
def computeProviderCostExpr (S : ProviderCostSettings) (channelId : ℤ) (modelName : String) (params : TokenParams)
    (promptTokens completionTokens cacheReadTokens cacheWriteTokens : ℤ) : Option ℤ :=
  match (getCostExpr S channelId modelName).bind (fun e => ((S.compile e).run params.env).toOption) with
  | some (cost,_) => some (max (quotaRound (cost/1000000*S.quotaPerUnit)) 0)
  | none => computeProviderCost S modelName promptTokens completionTokens cacheReadTokens cacheWriteTokens

/-- Without any cost the request is taken to cost what it is sold for. -/
def resolveProviderCostFromParams (S : ProviderCostSettings) (info : ServedBy) (params : TokenParams) (quota : ℤ)
    (promptTokens completionTokens cacheReadTokens cacheWriteTokens : ℤ) : ℤ :=
  (computeProviderCostExpr S info.channelId (settlementCostModel info) params promptTokens completionTokens
    cacheReadTokens cacheWriteTokens).getD quota

def resolveProviderCostFromUsage (S : ProviderCostSettings) (info : ServedBy) (usage : Option Usage)
    (isClaudeUsageSemantic : Bool) (quota : ℤ) : ℤ :=
  match usage with
  | none => quota
  | some usage =>
    let usedVars := ((getCostExpr S info.channelId (settlementCostModel info)).map
      (fun e => (S.compile e).usedVars)).getD (fun _ => false)
    resolveProviderCostFromParams S info (buildTieredTokenParams usage isClaudeUsageSemantic usedVars) quota
      usage.promptTokens usage.completionTokens usage.promptTokensDetails.cachedTokens
      usage.promptTokensDetails.cachedCreationTokens

/-! ## Each token once -/

/-- The tokens of a usage, each in one category. -/
structure TokenCategories where
  fresh : ℤ
  cacheRead : ℤ
  cacheWrite : ℤ
  output : ℤ
  deriving DecidableEq, Repr

/-- The categories of a usage in the convention that it follows. -/
def Usage.categories (u : Usage) (isClaude : Bool) : TokenCategories where
  fresh := if isClaude then u.promptTokens
    else u.promptTokens-u.promptTokensDetails.cachedTokens-u.promptTokensDetails.cachedCreationTokens
  cacheRead := u.promptTokensDetails.cachedTokens
  cacheWrite := u.promptTokensDetails.cachedCreationTokens
  output := u.completionTokens

/-- A usage follows a convention if no category has fewer than no tokens. -/
def Usage.Follows (u : Usage) (isClaude : Bool) : Prop :=
  0≤(u.categories isClaude).fresh ∧ 0≤(u.categories isClaude).cacheRead ∧ 0≤(u.categories isClaude).cacheWrite ∧
    0≤(u.categories isClaude).output

/-- The sum over the categories of tokens times rate, in quota. -/
def TokenCategories.price (t : TokenCategories) (cost : ProviderModelCost) (quotaPerUnit : ℚ) : ℚ :=
  (([(t.fresh,cost.input),(t.cacheRead,cost.cachedRate),(t.cacheWrite,cost.input),(t.output,cost.output)].map
    (fun c : ℤ × ℚ => c.1*c.2)).sum)/1000000*quotaPerUnit

/-- A model that is paid by the token. -/
structure ProviderModelCost.PerToken (cost : ProviderModelCost) : Prop where
  input : 0 ≤ cost.input
  output : 0 ≤ cost.output
  cachedInput : 0 ≤ cost.cachedInput
  perRequest : cost.perRequest≤0

/-- The quota that the cached tokens come to at the rate of fresh input. -/
def Usage.cachedAtInputRate (u : Usage) (cost : ProviderModelCost) (quotaPerUnit : ℚ) : ℚ :=
  ((u.promptTokensDetails.cachedTokens+u.promptTokensDetails.cachedCreationTokens : ℤ) : ℚ)*cost.input/1000000*
    quotaPerUnit

section
variable {u : Usage} {isClaude : Bool} {cost : ProviderModelCost} {unit : ℚ}

lemma ProviderModelCost.PerToken.cachedRate_nonneg (h : cost.PerToken) : 0 ≤ cost.cachedRate := by
  unfold ProviderModelCost.cachedRate
  split_ifs with hc
  · exact h.input
  · exact h.cachedInput

lemma price_nonneg (h : cost.PerToken) (hunit : 0≤unit) {t : TokenCategories} (hf : 0≤t.fresh) (hr : 0≤t.cacheRead)
    (hw : 0≤t.cacheWrite) (ho : 0≤t.output) : 0 ≤ t.price cost unit := by
  have hcached := h.cachedRate_nonneg
  have hin := h.input
  have hout := h.output
  have hf' : (0 : ℚ)≤t.fresh := Int.cast_nonneg hf
  have hr' : (0 : ℚ)≤t.cacheRead := Int.cast_nonneg hr
  have hw' : (0 : ℚ)≤t.cacheWrite := Int.cast_nonneg hw
  have ho' : (0 : ℚ)≤t.output := Int.cast_nonneg ho
  unfold TokenCategories.price
  simp only [List.map_cons,List.map_nil,List.sum_cons,List.sum_nil,add_zero]
  positivity

/-- The categories that the flat rates see. -/
def Usage.guessed (u : Usage) : TokenCategories where
  fresh := nonCachedTokens u.promptTokens u.promptTokensDetails.cachedTokens u.promptTokensDetails.cachedCreationTokens
  cacheRead := u.promptTokensDetails.cachedTokens
  cacheWrite := u.promptTokensDetails.cachedCreationTokens
  output := u.completionTokens

lemma intPart_of_nonneg {q : ℚ} (h : 0≤q) : intPart q = ⌊q⌋ := if_pos h

/-- The cost by the flat rates is the price of the guessed categories. -/
lemma computeProviderCost_eq {S : ProviderCostSettings} {modelName : String} (hcost : S.providerModelCost modelName = some cost)
    (hrates : cost.PerToken) (hunit : 0≤S.quotaPerUnit) (hu : u.Follows isClaude) :
    computeProviderCost S modelName u.promptTokens u.completionTokens u.promptTokensDetails.cachedTokens
      u.promptTokensDetails.cachedCreationTokens = some ⌊u.guessed.price cost S.quotaPerUnit⌋ := by
  have hprice : 0 ≤ u.guessed.price cost S.quotaPerUnit :=
    price_nonneg hrates hunit (le_max_right _ _) hu.2.1 hu.2.2.1 hu.2.2.2
  have hfloor : 0≤⌊u.guessed.price cost S.quotaPerUnit⌋ := Int.floor_nonneg.mpr hprice
  unfold computeProviderCost
  rw [hcost,Option.map_some,if_neg (not_lt.mpr hrates.perRequest)]
  have hsum : ∀ a b c d : ℚ, (a+b+c+d)/1000000*S.quotaPerUnit = ([a,b,c,d].sum)/1000000*S.quotaPerUnit := by
    intro a b c d
    simp only [List.sum_cons,List.sum_nil]
    ring
  dsimp only
  rw [hsum]
  change some (max (intPart (u.guessed.price cost S.quotaPerUnit)) 0) = _
  rw [intPart_of_nonneg hprice,max_eq_left hfloor]

/-- The guess is right for the OpenAI convention, and for the Claude convention if the cached tokens outnumber the
prompt. -/
lemma guessed_eq (hu : u.Follows isClaude) (h : isClaude = false ∨
    u.promptTokens<u.promptTokensDetails.cachedTokens+u.promptTokensDetails.cachedCreationTokens) :
    u.guessed = u.categories isClaude := by
  obtain ⟨hf,hr,hw,-⟩ := hu
  have hfresh : u.guessed.fresh = (u.categories isClaude).fresh := by
    unfold Usage.guessed nonCachedTokens
    unfold Usage.categories at hf hr hw ⊢
    dsimp only at hf hr hw ⊢
    cases isClaude with
    | false =>
      simp only [Bool.false_eq_true,if_false] at hf ⊢
      rw [if_neg (not_lt.mpr hf),max_eq_left hf]
    | true =>
      simp only [if_true] at hf ⊢
      have hlt := h.resolve_left (by decide)
      rw [if_pos (by omega),max_eq_left hf]
  unfold Usage.guessed at hfresh ⊢
  unfold Usage.categories at hfresh ⊢
  dsimp only at hfresh
  rw [hfresh]

/-- Otherwise the cached tokens are taken out of a prompt that excludes them. -/
lemma price_guessed (h : u.promptTokensDetails.cachedTokens+u.promptTokensDetails.cachedCreationTokens≤u.promptTokens) :
    u.guessed.price cost unit = (u.categories true).price cost unit-u.cachedAtInputRate cost unit := by
  have hfresh : u.guessed.fresh =
      u.promptTokens-(u.promptTokensDetails.cachedTokens+u.promptTokensDetails.cachedCreationTokens) := by
    unfold Usage.guessed nonCachedTokens
    dsimp only
    rw [if_neg (by omega)]
    omega
  unfold TokenCategories.price
  rw [hfresh]
  simp only [Usage.guessed,Usage.categories,Usage.cachedAtInputRate,List.map_cons,List.map_nil,List.sum_cons,
    List.sum_nil,if_true]
  push_cast
  ring

end

/-- What is taken off is within what the floor cuts off anyway. -/
lemma floor_sub_eq_iff {q d : ℚ} (h : 0≤d) : ⌊q-d⌋ = ⌊q⌋ ↔ d ≤ Int.fract q := by
  rw [Int.floor_eq_iff,Int.fract]
  have hlt := Int.lt_floor_add_one q
  constructor
  · intro hd
    linarith [hd.1]
  · intro hd
    constructor <;> linarith

/-- A model that costs two for a million tokens of input, eight for output and half of one for cached input. -/
def chatRates : ProviderModelCost := ⟨2,8,1/2,0⟩

def chatCosts : ProviderCostSettings where
  providerModelCost model := if model = "chat" then some chatRates else none
  costExpr _ := none
  compile _ := flatPrice
  quotaPerUnit := 500000

def chatServer : ServedBy := ⟨3,"chat","assistant"⟩

lemma chatRates_perToken : chatRates.PerToken := ⟨by decide +kernel,by decide +kernel,by decide +kernel,by decide +kernel⟩

end Billing
end Tierflow
