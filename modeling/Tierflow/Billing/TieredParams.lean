import Tierflow.Billing.SummarySound

/-! The token parameters of a billing expression against the usage that they come from: every input
and output token is in the base count or in a category that the expression prices, and the cache
creation is what pricing by ratios charges. -/
namespace Tierflow
namespace Billing

/-! ## Categories -/

/-- The categories of the prompt that can have a price of their own. -/
def inputVars : List TokenVar := [.cr,.cc,.cc1h,.img,.ai]

/-- The categories of the completion that can have a price of their own. -/
def outputVars : List TokenVar := [.imgO,.ao]

/-- The tokens of a category in a usage; cache creation is split only in usages that call
themselves Claude's. -/
def Usage.tokens (u : Usage) : TokenVar → ℤ
  | .p => u.promptTokens
  | .c => u.completionTokens
  | .len => u.promptTokens
  | .cr => u.promptTokensDetails.cachedTokens
  | .cc => if u.usageSemantic = "anthropic" then u.claudeCacheCreation5mTokens else u.promptTokensDetails.cachedCreationTokens
  | .cc1h => if u.usageSemantic = "anthropic" then u.claudeCacheCreation1hTokens else 0
  | .img => u.promptTokensDetails.imageTokens
  | .imgO => u.completionTokenDetails.imageTokens
  | .ai => u.promptTokensDetails.audioTokens
  | .ao => u.completionTokenDetails.audioTokens

/-- The tokens of the categories that an expression refers to. -/
def Usage.referenced (u : Usage) (V : TokenVar → Bool) (vars : List TokenVar) : ℤ := ((vars.filter V).map u.tokens).sum

/-- The tokens of all categories. -/
def Usage.categorized (u : Usage) (vars : List TokenVar) : ℤ := (vars.map u.tokens).sum

/-- Without negative counts, what an expression refers to is a part of the whole. -/
theorem Usage.referenced_le {u : Usage} {vars : List TokenVar} (h : ∀v∈vars,0≤u.tokens v) (V : TokenVar → Bool) :
    u.referenced V vars≤u.categorized vars := by
  unfold Usage.referenced Usage.categorized
  induction vars with
  | nil => simp
  | cons v vars ih =>
    have hv := h v (by simp)
    have hrest := ih fun w hw => h w (by simp [hw])
    by_cases hV : V v = true
    · simp only [List.filter_cons_of_pos hV,List.map_cons,List.sum_cons]
      omega
    · simp only [List.filter_cons_of_neg hV,List.map_cons,List.sum_cons]
      omega

section
variable (u : Usage) (V : TokenVar → Bool)

/-- The parameters of the categories are the counts of the usage, in both conventions. -/
lemma env_inputVars (isClaude : Bool) : ∀v∈inputVars++outputVars,
    (buildTieredTokenParams u isClaude V).env v = u.tokens v := by
  intro v hv
  simp only [inputVars,outputVars,List.cons_append,List.nil_append,List.mem_cons,List.not_mem_nil,or_false] at hv
  rcases hv with rfl | rfl | rfl | rfl | rfl | rfl | rfl
  · rfl
  · simp only [TokenParams.env,buildTieredTokenParams,Usage.tokens]
    split_ifs <;> rfl
  · simp only [TokenParams.env,buildTieredTokenParams,Usage.tokens]
    split_ifs <;> simp
  · rfl
  · rfl
  · rfl
  · rfl

lemma sum_env (isClaude : Bool) {vars : List TokenVar} (h : vars⊆inputVars++outputVars) :
    (vars.map (buildTieredTokenParams u isClaude V).env).sum = ((vars.map u.tokens).sum : ℤ) := by
  induction vars with
  | nil => simp
  | cons v vars ih =>
    rw [List.map_cons,List.sum_cons,List.map_cons,List.sum_cons,ih fun w hw => h (by simp [hw]),
      env_inputVars u V isClaude v (h (by simp))]
    push_cast
    rfl

@[simp] lemma referenced_nil : u.referenced V [] = 0 := rfl

lemma referenced_cons (v : TokenVar) (vars : List TokenVar) :
    u.referenced V (v::vars) = (if V v then u.tokens v else 0)+u.referenced V vars := by
  unfold Usage.referenced
  by_cases h : V v = true <;> simp [h]

lemma takeOut_eq (b : Bool) (n : ℤ) (q : ℚ) : takeOut b n q = q-((if b then n else 0 : ℤ) : ℚ) := by
  cases b <;> simp [takeOut]

/-- In the OpenAI convention the base counts are what the referenced categories leave. -/
lemma base_counts :
    (buildTieredTokenParams u false V).p = (max (u.promptTokens-u.referenced V inputVars) 0 : ℤ) ∧
    (buildTieredTokenParams u false V).c = (max (u.completionTokens-u.referenced V outputVars) 0 : ℤ) := by
  have hcc : (if u.usageSemantic = "anthropic" then (u.claudeCacheCreation5mTokens : ℚ)
      else u.promptTokensDetails.cachedCreationTokens) = (u.tokens .cc : ℤ) := by
    unfold Usage.tokens
    split_ifs <;> rfl
  have hcc1h : (if u.usageSemantic = "anthropic" then (u.claudeCacheCreation1hTokens : ℚ) else 0) =
      (u.tokens .cc1h : ℤ) := by
    unfold Usage.tokens
    split_ifs
    · rfl
    · simp
  constructor
  · simp only [buildTieredTokenParams,Bool.false_eq_true,if_false,hcc,hcc1h,takeOut_eq,inputVars,referenced_cons,
      referenced_nil]
    push_cast
    congr 1
    simp only [Usage.tokens]
    ring
  · simp only [buildTieredTokenParams,Bool.false_eq_true,if_false,takeOut_eq,outputVars,referenced_cons,referenced_nil]
    push_cast
    congr 1
    simp only [Usage.tokens]
    ring

end

/-! ## Cache creation -/

/-- `cacheWriteTokensTotal`. -/
def cacheWriteTokensTotal (creation fiveMinutes oneHour : ℤ) : ℤ :=
  if 0<fiveMinutes ∨ 0<oneHour then
    if fiveMinutes+oneHour < creation then creation else fiveMinutes+oneHour
  else creation

/-- The cache creation tokens that pricing by ratios charges in the Claude convention: those of each
split and what the splits leave of the whole. -/
def creationCharged (creation fiveMinutes oneHour : ℤ) : ℤ :=
  if creation≠0 ∨ 0<fiveMinutes ∨ 0<oneHour then max (creation-fiveMinutes-oneHour) 0+fiveMinutes+oneHour else 0

theorem creationCharged_eq_total {creation fiveMinutes oneHour : ℤ} (h5 : 0≤fiveMinutes) (h1 : 0≤oneHour) :
    creationCharged creation fiveMinutes oneHour = max (cacheWriteTokensTotal creation fiveMinutes oneHour) 0 := by
  unfold creationCharged cacheWriteTokensTotal
  split_ifs <;> omega

/-- With one ratio for all cache creation, the decimal quota of a prompt grows by that ratio for
every charged token. -/
theorem ratioQuota_creation (S : PriceSettings) (info : RelayInfo) (u : TextUsage) (prompt creation : ℤ) (s c : ℚ) :
    let price := fun c : ℚ => { info with priceData := { info.priceData with
      cacheCreationRatio := c, cacheCreation5mRatio := c, cacheCreation1hRatio := c } }
    ratioQuota S (price c) u prompt creation true s = ratioQuota S (price 0) u prompt creation true s+
      c*creationCharged creation u.claudeCacheCreation5mTokens u.claudeCacheCreation1hTokens*
        (info.priceData.modelRatio*info.priceData.groupRatioInfo.groupRatio) := by
  intro price
  unfold ratioQuota creationCharged
  by_cases h : creation≠0 ∨ 0 < u.claudeCacheCreation5mTokens ∨ 0 < u.claudeCacheCreation1hTokens
  · have h' : creation≠0 ∨ (decide (0 < u.claudeCacheCreation5mTokens) || decide (0 < u.claudeCacheCreation1hTokens)) = true := by
      simpa using h
    simp only [price,if_pos h,if_pos h',if_true]
    push_cast
    ring
  · have h' : ¬(creation≠0 ∨ (decide (0 < u.claudeCacheCreation5mTokens) || decide (0 < u.claudeCacheCreation1hTokens)) = true) := by
      simpa using h
    simp only [price,if_neg h,if_neg h',if_true]
    push_cast
    ring

/-! ## Conservation -/

/-- The base counts and the referenced categories make up the prompt and the completion; in the
Claude convention, the cache creation variables make up what pricing by ratios charges. -/
structure ConservesTokens (S : PriceSettings) (info : RelayInfo) (u : TextUsage) (isClaude : Bool) (V : TokenVar → Bool) :
    Prop where
  prompt : isClaude = false → u.categorized inputVars≤u.promptTokens →
    let t := buildTieredTokenParams u.toUsage isClaude V
    t.p+((inputVars.filter V).map t.env).sum = u.promptTokens
  completion : isClaude = false → u.categorized outputVars≤u.completionTokens →
    let t := buildTieredTokenParams u.toUsage isClaude V
    t.c+((outputVars.filter V).map t.env).sum = u.completionTokens
  creation : isClaude = true →
    let t := buildTieredTokenParams u.toUsage isClaude V
    t.cc+t.cc1h = creationCharged (chargedPrompt S info u true).2 u.claudeCacheCreation5mTokens
      u.claudeCacheCreation1hTokens

/-- The condition for it. The first two always hold without negative counts. A usage that calls
itself Claude's must report the whole cache creation in its splits; in any other usage the splits
must not exceed the whole. -/
structure SplitsComplete (S : PriceSettings) (info : RelayInfo) (u : TextUsage) (isClaude : Bool) (V : TokenVar → Bool) :
    Prop where
  prompt : isClaude = false → u.categorized inputVars≤u.promptTokens → u.referenced V inputVars≤u.promptTokens
  completion : isClaude = false → u.categorized outputVars≤u.completionTokens →
    u.referenced V outputVars≤u.completionTokens
  splits : isClaude = true → u.usageSemantic = "anthropic" →
    (chargedPrompt S info u true).2≤u.claudeCacheCreation5mTokens+u.claudeCacheCreation1hTokens
  whole : isClaude = true → u.usageSemantic≠"anthropic" →
    (chargedPrompt S info u true).2=u.promptTokensDetails.cachedCreationTokens ∧
      u.claudeCacheCreation5mTokens+u.claudeCacheCreation1hTokens≤u.promptTokensDetails.cachedCreationTokens

section
variable (S : PriceSettings) (info : RelayInfo) (u : TextUsage) (V : TokenVar → Bool)

/-- What is inferred instead of missing cache creation is not negative. -/
lemma chargedPrompt_creation : (chargedPrompt S info u true).2=u.promptTokensDetails.cachedCreationTokens ∨
    u.promptTokensDetails.cachedCreationTokens=0 ∧ 0≤(chargedPrompt S info u true).2 := by
  unfold chargedPrompt
  dsimp only
  split_ifs with ho hm
  · exact .inr ⟨hm.1,hm.2.2.2.1⟩
  · exact .inl rfl
  · exact .inl rfl

/-- The cache creation variables against the charge for a count of cache creation. -/
lemma creation_iff {creation : ℤ} (h : creation=u.promptTokensDetails.cachedCreationTokens ∨
      u.promptTokensDetails.cachedCreationTokens=0 ∧ 0 ≤ creation) :
    u.tokens .cc+u.tokens .cc1h =
        creationCharged creation u.claudeCacheCreation5mTokens u.claudeCacheCreation1hTokens ↔
      (u.usageSemantic = "anthropic" → creation≤u.claudeCacheCreation5mTokens+u.claudeCacheCreation1hTokens) ∧
      (u.usageSemantic≠"anthropic" → creation=u.promptTokensDetails.cachedCreationTokens ∧
        u.claudeCacheCreation5mTokens+u.claudeCacheCreation1hTokens≤u.promptTokensDetails.cachedCreationTokens) := by
  unfold Usage.tokens creationCharged
  by_cases ha : u.usageSemantic = "anthropic"
  · simp only [ha,if_true,forall_const,ne_eq,not_true_eq_false,false_implies,and_true]
    split_ifs <;> omega
  · simp only [ha,if_false,forall_const,ne_eq,not_false_eq_true,false_implies,true_and]
    split_ifs <;> omega

lemma sum_referenced (isClaude : Bool) {vars : List TokenVar} (h : vars⊆inputVars++outputVars) :
    ((vars.filter V).map (buildTieredTokenParams u.toUsage isClaude V).env).sum = (u.referenced V vars : ℤ) := by
  rw [sum_env u.toUsage V isClaude fun v hv => h (List.mem_of_mem_filter hv)]
  rfl

theorem conservesTokens_iff (isClaude : Bool) :
    ConservesTokens S info u isClaude V ↔ SplitsComplete S info u isClaude V := by
  have hmax : ∀ a b : ℤ,((max (a-b) 0 : ℤ) : ℚ)+(b : ℤ) = (a : ℤ) ↔ b≤a := by
    intro a b
    norm_cast
    omega
  cases isClaude with
  | false =>
    have hin : inputVars⊆inputVars++outputVars := List.subset_append_left _ _
    have hout : outputVars⊆inputVars++outputVars := List.subset_append_right _ _
    obtain ⟨hp,hc⟩ := base_counts u.toUsage V
    constructor
    · intro h
      refine ⟨fun _ hs => ?_,fun _ hs => ?_,nofun,nofun⟩
      · have := h.prompt rfl hs
        dsimp only at this
        rwa [hp,sum_referenced u V false hin,hmax] at this
      · have := h.completion rfl hs
        dsimp only at this
        rwa [hc,sum_referenced u V false hout,hmax] at this
    · intro h
      refine ⟨fun _ hs => ?_,fun _ hs => ?_,nofun⟩
      · dsimp only
        rw [hp,sum_referenced u V false hin,hmax]
        exact h.prompt rfl hs
      · dsimp only
        rw [hc,sum_referenced u V false hout,hmax]
        exact h.completion rfl hs
  | true =>
    have hcc : (buildTieredTokenParams u.toUsage true V).cc+(buildTieredTokenParams u.toUsage true V).cc1h =
        ((u.tokens .cc+u.tokens .cc1h : ℤ) : ℚ) := by
      have h1 := env_inputVars u.toUsage V true .cc (by decide)
      have h2 := env_inputVars u.toUsage V true .cc1h (by decide)
      push_cast
      exact congrArg₂ (·+·) h1 h2
    have hiff := creation_iff u (chargedPrompt_creation S info u)
    constructor
    · intro h
      have hc := h.creation rfl
      dsimp only at hc
      rw [hcc] at hc
      have := hiff.mp (by exact_mod_cast hc)
      exact ⟨nofun,nofun,fun _ => this.1,fun _ => this.2⟩
    · intro h
      refine ⟨nofun,nofun,fun _ => ?_⟩
      dsimp only
      rw [hcc]
      exact_mod_cast hiff.mpr ⟨h.splits rfl,h.whole rfl⟩

end

/-- A Claude usage that reports a hundred cache creation tokens and no splits of them. -/
def unsplitUsage : TextUsage := ⟨⟨10,1,"anthropic",⟨0,100,0,0⟩,⟨0,0⟩,0,0⟩,"",none⟩

/-- Pricing by ratios charges the hundred tokens, a billing expression sees none of them. -/
theorem unsplitCreation_lost :
    let t := buildTieredTokenParams unsplitUsage.toUsage true (fun _ => true)
    t.cc+t.cc1h=0 ∧ creationCharged (chargedPrompt routerSettings (routerRequest false) unsplitUsage true).2
      unsplitUsage.claudeCacheCreation5mTokens unsplitUsage.claudeCacheCreation1hTokens=100 := by
  decide +kernel

end Billing
end Tierflow
