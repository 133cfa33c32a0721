import Tierflow.Foundation.Rounding

/-! Billing expressions over the token counts of a usage, and the normalization of the counts
before an expression is run. -/
namespace Tierflow
namespace Billing

/-! ## Token counts -/

/-- The variables of a billing expression. -/
inductive TokenVar
  | p | c | len | cr | cc | cc1h | img | imgO | ai | ao
  deriving DecidableEq, Repr

structure InputTokenDetails where
  cachedTokens : ℤ
  cachedCreationTokens : ℤ
  audioTokens : ℤ
  imageTokens : ℤ
  deriving DecidableEq, Repr

structure OutputTokenDetails where
  audioTokens : ℤ
  imageTokens : ℤ
  deriving DecidableEq, Repr

/-- What an upstream reports of a response. -/
structure Usage where
  promptTokens : ℤ
  completionTokens : ℤ
  usageSemantic : String
  promptTokensDetails : InputTokenDetails
  completionTokenDetails : OutputTokenDetails
  claudeCacheCreation5mTokens : ℤ
  claudeCacheCreation1hTokens : ℤ
  deriving DecidableEq, Repr

structure TokenParams where
  p : ℚ
  c : ℚ
  len : ℚ
  cr : ℚ
  cc : ℚ
  cc1h : ℚ
  img : ℚ
  imgO : ℚ
  ai : ℚ
  ao : ℚ
  deriving DecidableEq, Repr

/-- The environment of a run of an expression. -/
def TokenParams.env (t : TokenParams) : TokenVar → ℚ
  | .p => t.p
  | .c => t.c
  | .len => t.len
  | .cr => t.cr
  | .cc => t.cc
  | .cc1h => t.cc1h
  | .img => t.img
  | .imgO => t.imgO
  | .ai => t.ai
  | .ao => t.ao

/-- What is left of a total when the tokens of a kind are taken out of it. -/
def takeOut (used : Bool) (tokens total : ℚ) : ℚ := if used then total-tokens else total

/-- `BuildTieredTokenParams`: in the OpenAI convention the kinds that the expression prices by
variables of their own leave the base variables, in the Claude convention nothing does. -/
def buildTieredTokenParams (usage : Usage) (isClaudeUsageSemantic : Bool) (usedVars : TokenVar → Bool) :
    TokenParams :=
  let p : ℚ := usage.promptTokens
  let c : ℚ := usage.completionTokens
  let cr : ℚ := usage.promptTokensDetails.cachedTokens
  let anthropic := usage.usageSemantic = "anthropic"
  let cc5m : ℚ := if anthropic then usage.claudeCacheCreation5mTokens
    else usage.promptTokensDetails.cachedCreationTokens
  let cc1h : ℚ := if anthropic then usage.claudeCacheCreation1hTokens else 0
  let img : ℚ := usage.promptTokensDetails.imageTokens
  let ai : ℚ := usage.promptTokensDetails.audioTokens
  let imgO : ℚ := usage.completionTokenDetails.imageTokens
  let ao : ℚ := usage.completionTokenDetails.audioTokens
  let inputLen := if isClaudeUsageSemantic then p+cr+cc5m+cc1h else p
  let p' := if isClaudeUsageSemantic then p else
    takeOut (usedVars .ai) ai (takeOut (usedVars .img) img (takeOut (usedVars .cc1h) cc1h
      (takeOut (usedVars .cc) cc5m (takeOut (usedVars .cr) cr p))))
  let c' := if isClaudeUsageSemantic then c else
    takeOut (usedVars .ao) ao (takeOut (usedVars .imgO) imgO c)
  { p := max p' 0, c := max c' 0, len := inputLen, cr := cr, cc := cc5m, cc1h := cc1h,
    img := img, imgO := imgO, ai := ai, ao := ao }

/-! ## Expressions -/

/-- An expression as a function of its variables: its cost and the tier that the run matched, or
an error of the run. The headers and the body of the request are part of the function. -/
structure BillingExpr where
  usedVars : TokenVar → Bool
  run : (TokenVar → ℚ) → Except String (ℚ×String)
  run_congr : ∀ a b : TokenVar → ℚ, (∀ v, usedVars v = true → a v = b v) → run a = run b

/-- `BillingSnapshot`: what was frozen when the request was admitted. -/
structure BillingSnapshot where
  billingMode : String
  expr : BillingExpr
  groupRatio : ℚ
  estimatedQuotaAfterGroup : ℤ
  estimatedTier : String
  quotaPerUnit : ℚ

structure TieredResult where
  actualQuotaBeforeGroup : ℚ
  actualQuotaAfterGroup : ℤ
  matchedTier : String
  crossedTier : Bool
  deriving DecidableEq, Repr

/-- `QuotaRound`. -/
def quotaRound (q : ℚ) : ℤ := Rounding.nearest q

/-- `quotaConversion`: coefficients are prices of a million tokens. -/
def quotaConversion (exprOutput : ℚ) (snap : BillingSnapshot) : ℚ := exprOutput/1000000*snap.quotaPerUnit

/-- `ComputeTieredQuotaWithRequest`. -/
def computeTieredQuotaWithRequest (snap : BillingSnapshot) (params : TokenParams) :
    Except String TieredResult :=
  match snap.expr.run params.env with
  | .error err => .error err
  | .ok (cost,matchedTier) =>
    let quotaBeforeGroup := quotaConversion cost snap
    .ok { actualQuotaBeforeGroup := quotaBeforeGroup
          actualQuotaAfterGroup := quotaRound (quotaBeforeGroup*snap.groupRatio)
          matchedTier := matchedTier
          crossedTier := matchedTier≠snap.estimatedTier }

/-- `usageSemanticFromUsage`: what the usage says of itself, else the format of the request that
was sent upstream. -/
def usageSemanticFromUsage (finalFormatIsClaude : Bool) (usage : Usage) : String :=
  if usage.usageSemantic≠"" then usage.usageSemantic
  else if finalFormatIsClaude then "anthropic" else "openai"

/-- The token parameters that the settlement of a request runs its expression with. -/
def settledParams (finalFormatIsClaude : Bool) (usage : Usage) (usedVars : TokenVar → Bool) : TokenParams :=
  buildTieredTokenParams usage (usageSemanticFromUsage finalFormatIsClaude usage="anthropic") usedVars

/-! ## The two conventions -/

/-- Input that was not cached, cache reads, cache writes of five minutes, and output. -/
structure Breakdown where
  fresh : ℕ
  cacheRead : ℕ
  cacheWrite : ℕ
  output : ℕ
  deriving DecidableEq, Repr

/-- The OpenAI convention: the prompt includes the cached tokens. -/
def Breakdown.openAI (b : Breakdown) : Usage where
  promptTokens := b.fresh+b.cacheRead+b.cacheWrite
  completionTokens := b.output
  usageSemantic := ""
  promptTokensDetails := ⟨b.cacheRead,b.cacheWrite,0,0⟩
  completionTokenDetails := ⟨0,0⟩
  claudeCacheCreation5mTokens := 0
  claudeCacheCreation1hTokens := 0

/-- The Claude convention: the prompt excludes the cached tokens. -/
def Breakdown.claude (b : Breakdown) : Usage where
  promptTokens := b.fresh
  completionTokens := b.output
  usageSemantic := "anthropic"
  promptTokensDetails := ⟨b.cacheRead,b.cacheWrite,0,0⟩
  completionTokenDetails := ⟨0,0⟩
  claudeCacheCreation5mTokens := b.cacheWrite
  claudeCacheCreation1hTokens := 0

/-- The parameters of a breakdown, given the tokens that are charged at the base price. -/
def Breakdown.params (b : Breakdown) (p : ℚ) : TokenParams where
  p := p
  c := b.output
  len := b.fresh+b.cacheRead+b.cacheWrite
  cr := b.cacheRead
  cc := b.cacheWrite
  cc1h := 0
  img := 0
  imgO := 0
  ai := 0
  ao := 0

/-- The cached tokens that no variable of their own prices. -/
def Breakdown.unpriced (b : Breakdown) (V : TokenVar → Bool) : ℕ :=
  (if V .cr then 0 else b.cacheRead)+(if V .cc then 0 else b.cacheWrite)

lemma takeOut_zero (used : Bool) (q : ℚ) : takeOut used 0 q = q := by
  cases used <;> simp [takeOut]

lemma settledParams_openAI (b : Breakdown) (V : TokenVar → Bool) :
    settledParams false b.openAI V = b.params (b.fresh+b.unpriced V) := by
  have hp : takeOut (V .cc) b.cacheWrite (takeOut (V .cr) b.cacheRead (b.fresh+b.cacheRead+b.cacheWrite)) =
      ((b.fresh+b.unpriced V : ℕ) : ℚ) := by
    unfold Breakdown.unpriced takeOut
    push_cast
    cases V .cr <;> cases V .cc <;> simp <;> ring
  have h0 : (0 : ℚ)≤(b.fresh+b.unpriced V : ℕ) := Nat.cast_nonneg _
  have hc : (0 : ℚ)≤b.output := Nat.cast_nonneg _
  simp [settledParams,buildTieredTokenParams,usageSemanticFromUsage,Breakdown.openAI,Breakdown.params,
    takeOut_zero]
  simp only [hp,max_eq_left h0]
  push_cast
  rfl

lemma settledParams_claude (b : Breakdown) (V : TokenVar → Bool) :
    settledParams true b.claude V = b.params b.fresh := by
  simp [settledParams,buildTieredTokenParams,usageSemanticFromUsage,Breakdown.claude,Breakdown.params]

/-- Both conventions report the same length of the context. -/
theorem len_agrees (b : Breakdown) (V : TokenVar → Bool) :
    (settledParams false b.openAI V).len = (settledParams true b.claude V).len := by
  rw [settledParams_openAI,settledParams_claude]
  rfl

/-- No token is charged differently: the expression does not use the base variable, or it prices
every kind of cached token of the breakdown by a variable of its own. -/
def Covered (V : TokenVar → Bool) (b : Breakdown) : Prop :=
  V .p = false ∨ (V .cr = true ∨ b.cacheRead = 0) ∧ (V .cc = true ∨ b.cacheWrite = 0)

instance (V : TokenVar → Bool) (b : Breakdown) : Decidable (Covered V b) :=
  inferInstanceAs (Decidable (_∨_))

lemma covered_iff (V : TokenVar → Bool) (b : Breakdown) :
    Covered V b ↔ V .p = false ∨ b.unpriced V = 0 := by
  unfold Covered Breakdown.unpriced
  cases V .cr <;> cases V .cc <;> simp

/-- The environments of the two conventions differ in the base variable only. -/
lemma params_env_congr (b : Breakdown) {p q : ℚ} {V : TokenVar → Bool} (h : V .p = false ∨ p = q) :
    ∀ v, V v = true → (b.params p).env v = (b.params q).env v := by
  intro v hv
  cases v with
  | p =>
    cases h with
    | inl h => simp [h] at hv
    | inr h => exact h
  | _ => rfl

/-- The expression tells any two amounts of base tokens apart. -/
def PricesBase (e : BillingExpr) : Prop :=
  ∀ (b : Breakdown) (p q : ℚ), e.run (b.params p).env = e.run (b.params q).env → p = q

/-- An expression that does price the base tokens costs the same in both conventions exactly when
its variables cover the cached tokens. -/
theorem cost_agrees_iff_of_pricesBase {e : BillingExpr} (he : PricesBase e) (b : Breakdown) :
    e.run (settledParams false b.openAI e.usedVars).env = e.run (settledParams true b.claude e.usedVars).env ↔
      b.unpriced e.usedVars = 0 := by
  rw [settledParams_openAI,settledParams_claude]
  constructor
  · intro h
    have hq := he b _ _ h
    have hz : ((b.unpriced e.usedVars : ℕ) : ℚ)=0 := by linarith
    exact_mod_cast hz
  · intro h
    rw [h,Nat.cast_zero,add_zero]

/-- The base tokens at a price of one, by an expression that mentions a given set of variables. -/
def baseTokens (V : TokenVar → Bool) (h : V .p = true) : BillingExpr where
  usedVars := V
  run a := .ok (a .p,"base")
  run_congr a b hab := by rw [hab .p h]

lemma pricesBase_baseTokens (V : TokenVar → Bool) (h : V .p = true) : PricesBase (baseTokens V h) := by
  intro b p q hpq
  have hp := Except.ok.inj hpq
  exact congrArg Prod.fst hp

/-- The expressions over a set of variables see the same length and cost in both conventions exactly
when the set covers the cached tokens of the breakdown. -/
theorem upstream_agnostic_iff (V : TokenVar → Bool) (b : Breakdown) :
    (∀ e : BillingExpr, e.usedVars = V →
      (settledParams false b.openAI V).len = (settledParams true b.claude V).len ∧
      e.run (settledParams false b.openAI V).env = e.run (settledParams true b.claude V).env) ↔
    Covered V b := by
  rw [covered_iff]
  constructor
  · intro h
    cases hp : V .p with
    | false => exact .inl rfl
    | true =>
      right
      have hb := (h (baseTokens V hp) rfl).2
      exact (cost_agrees_iff_of_pricesBase (pricesBase_baseTokens V hp) b).mp hb
  · intro h e he
    refine ⟨len_agrees b V,?_⟩
    rw [settledParams_openAI,settledParams_claude]
    apply e.run_congr
    rw [he]
    refine params_env_congr b (h.imp id ?_)
    intro hz
    rw [hz,Nat.cast_zero,add_zero]

/-- `p * 3 + c * 15`, which leaves cached tokens to the base price. -/
def flatPrice : BillingExpr where
  usedVars v := v = .p ∨ v = .c
  run a := .ok (a .p*3+a .c*15,"base")
  run_congr a b hab := by rw [hab .p (by decide),hab .c (by decide)]

/-- A thousand input tokens of which two hundred came from the cache: in the Claude convention those
two hundred are free. -/
theorem flatPrice_disagrees :
    let b : Breakdown := ⟨800,200,0,500⟩
    flatPrice.run (settledParams false b.openAI flatPrice.usedVars).env = .ok (10500,"base") ∧
    flatPrice.run (settledParams true b.claude flatPrice.usedVars).env = .ok (9900,"base") := by
  decide +kernel

end Billing
end Tierflow
