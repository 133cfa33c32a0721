import Tierflow.Convert.Stream

/-! Token counts of a Claude response, shown as OpenAI usage and turned back. Prompt tokens of OpenAI include what
was read from the cache and what was written to it; input tokens of Claude do not. -/
namespace Tierflow
namespace Convert

/-- The counts with the fields that tell how they are to be read. -/
structure UsageRecord extends Usage where
  totalTokens : ℤ
  inputTokens : ℤ
  usageSemantic : String
  usageSource : String
  deriving DecidableEq, Repr

def UsageRecord.zero : UsageRecord := ⟨⟨0,0,0,0,0,0⟩,0,0,"",""⟩

def ClaudeUsage.getCacheCreation5mTokens (u : ClaudeUsage) : ℤ := u.cacheCreation.elim 0 Prod.fst

def ClaudeUsage.getCacheCreation1hTokens (u : ClaudeUsage) : ℤ := u.cacheCreation.elim 0 Prod.snd

/-- The record that is kept of the usage of a Claude response. -/
def UsageRecord.ofClaude (u : ClaudeUsage) : UsageRecord where
  promptTokens := u.inputTokens
  completionTokens := u.outputTokens
  cachedCreationTokens := u.cacheCreationInputTokens
  cachedTokens := u.cacheReadInputTokens
  claudeCacheCreation5mTokens := u.getCacheCreation5mTokens
  claudeCacheCreation1hTokens := u.getCacheCreation1hTokens
  totalTokens := u.inputTokens+u.outputTokens
  inputTokens := 0
  usageSemantic := "anthropic"
  usageSource := ""

/-- The tokens written to the cache: the total or the sum of the split, whichever is greater. -/
def cacheCreationTokensForOpenAIUsage (usage : Option UsageRecord) : ℤ :=
  match usage with
  | none => 0
  | some u =>
    let splitCacheCreationTokens := u.claudeCacheCreation5mTokens+u.claudeCacheCreation1hTokens
    if splitCacheCreationTokens = 0 then u.cachedCreationTokens
    else if splitCacheCreationTokens < u.cachedCreationTokens then u.cachedCreationTokens
    else splitCacheCreationTokens

def buildOpenAIStyleUsageFromClaudeUsage (usage : Option UsageRecord) : UsageRecord :=
  match usage with
  | none => UsageRecord.zero
  | some u =>
    let (cacheCreation5m,cacheCreation1h) := normalizeCacheCreationSplit u.cachedCreationTokens
      u.claudeCacheCreation5mTokens u.claudeCacheCreation1hTokens
    let totalInputTokens := u.promptTokens+u.cachedTokens+cacheCreationTokensForOpenAIUsage (some u)
    { u with
      claudeCacheCreation5mTokens := cacheCreation5m
      claudeCacheCreation1hTokens := cacheCreation1h
      promptTokens := totalInputTokens
      inputTokens := totalInputTokens
      totalTokens := totalInputTokens+u.completionTokens
      usageSemantic := "openai"
      usageSource := "anthropic" }

/-! ## Counting the input -/

structure UsageRecord.Nonneg (u : UsageRecord) : Prop where
  promptTokens : 0≤u.promptTokens
  completionTokens : 0≤u.completionTokens
  cachedCreationTokens : 0≤u.cachedCreationTokens
  cachedTokens : 0≤u.cachedTokens
  claudeCacheCreation5mTokens : 0≤u.claudeCacheCreation5mTokens
  claudeCacheCreation1hTokens : 0≤u.claudeCacheCreation1hTokens

/-- All input of a record of Claude: input and cached tokens are counted apart. -/
def UsageRecord.claudeTotal (u : UsageRecord) : ℤ := u.promptTokens+u.cachedTokens+u.cachedCreationTokens

/-- All input of a record of OpenAI: the prompt tokens are the whole. -/
def UsageRecord.openAITotal (u : UsageRecord) : ℤ := u.promptTokens

def ClaudeUsage.total (u : ClaudeUsage) : ℤ := u.inputTokens+u.cacheReadInputTokens+u.cacheCreationInputTokens

def UsageRecord.uncached (u : UsageRecord) : Prop :=
  u.cachedTokens = 0 ∧ u.cachedCreationTokens = 0 ∧ u.claudeCacheCreation5mTokens = 0 ∧
    u.claudeCacheCreation1hTokens = 0

section
variable {u : UsageRecord}

lemma UsageRecord.Nonneg.ofClaude {c : ClaudeUsage} (hinput : 0 ≤ c.inputTokens) (houtput : 0 ≤ c.outputTokens)
    (hcreation : 0 ≤ c.cacheCreationInputTokens) (hread : 0 ≤ c.cacheReadInputTokens)
    (hsplit : ∀ p∈c.cacheCreation, 0≤p.1 ∧ 0≤p.2) : (UsageRecord.ofClaude c).Nonneg := by
  refine ⟨hinput,houtput,hcreation,hread,?_,?_⟩
  · cases hc : c.cacheCreation with
    | none => simp [UsageRecord.ofClaude,ClaudeUsage.getCacheCreation5mTokens,hc]
    | some p => simpa [UsageRecord.ofClaude,ClaudeUsage.getCacheCreation5mTokens,hc] using (hsplit p hc).1
  · cases hc : c.cacheCreation with
    | none => simp [UsageRecord.ofClaude,ClaudeUsage.getCacheCreation1hTokens,hc]
    | some p => simpa [UsageRecord.ofClaude,ClaudeUsage.getCacheCreation1hTokens,hc] using (hsplit p hc).2

lemma cacheCreationTokens_eq_max (h : u.Nonneg) : cacheCreationTokensForOpenAIUsage (some u) =
    max u.cachedCreationTokens (u.claudeCacheCreation5mTokens+u.claudeCacheCreation1hTokens) := by
  have hcreation := h.cachedCreationTokens
  unfold cacheCreationTokensForOpenAIUsage
  simp only
  split_ifs with hzero hless
  · rw [hzero,max_eq_left hcreation]
  · rw [max_eq_left hless.le]
  · rw [max_eq_right (not_lt.mp hless)]

lemma promptTokens_openAIStyle (u : UsageRecord) : (buildOpenAIStyleUsageFromClaudeUsage (some u)).promptTokens =
    u.promptTokens+u.cachedTokens+cacheCreationTokensForOpenAIUsage (some u) := rfl

/-- The OpenAI record counts as much input as Claude's, if the split of the cached tokens is within their total. -/
lemma openAITotal_eq_iff (h : u.Nonneg) :
    (buildOpenAIStyleUsageFromClaudeUsage (some u)).openAITotal = u.claudeTotal ↔
      u.claudeCacheCreation5mTokens+u.claudeCacheCreation1hTokens≤u.cachedCreationTokens := by
  unfold UsageRecord.openAITotal UsageRecord.claudeTotal
  rw [promptTokens_openAIStyle,cacheCreationTokens_eq_max h,add_right_inj,max_eq_left_iff]

/-- Back in Claude's format the cached tokens are counted once more. -/
lemma total_back (v : UsageRecord) : (buildClaudeUsageFromOpenAIUsage v.toUsage).total =
    v.openAITotal+v.cachedTokens+v.cachedCreationTokens := rfl

lemma cacheCreationTokens_eq_zero_iff (h : u.Nonneg) : u.cachedTokens+cacheCreationTokensForOpenAIUsage (some u) = 0 ↔
    u.uncached := by
  rw [cacheCreationTokens_eq_max h]
  obtain ⟨-,-,h1,h2,h3,h4⟩ := h
  unfold UsageRecord.uncached
  omega

end

/-- The counts that come back are the counts of the record, and all three records count the same input. -/
structure UsageConserved (u : UsageRecord) (v : UsageRecord) (w : ClaudeUsage) : Prop where
  input : w.inputTokens = u.promptTokens
  cacheRead : w.cacheReadInputTokens = u.cachedTokens
  cacheCreation : w.cacheCreationInputTokens = u.cachedCreationTokens
  output : w.outputTokens = u.completionTokens
  shown : v.openAITotal = u.claudeTotal
  back : w.total = v.openAITotal

/-- The counts come back exactly when no token was cached. -/
theorem usageConserved_iff (u : UsageRecord) (h : u.Nonneg) :
    UsageConserved u (buildOpenAIStyleUsageFromClaudeUsage (some u))
      (buildClaudeUsageFromOpenAIUsage (buildOpenAIStyleUsageFromClaudeUsage (some u)).toUsage) ↔ u.uncached := by
  constructor
  · intro hc
    have hinput : u.promptTokens+u.cachedTokens+cacheCreationTokensForOpenAIUsage (some u) = u.promptTokens := hc.input
    rw [add_assoc,add_eq_left] at hinput
    exact (cacheCreationTokens_eq_zero_iff h).mp hinput
  · intro hu
    have hzero := (cacheCreationTokens_eq_zero_iff h).mpr hu
    obtain ⟨hread,hcreation,h5m,h1h⟩ := hu
    constructor
    case input =>
      change u.promptTokens+u.cachedTokens+cacheCreationTokensForOpenAIUsage (some u) = u.promptTokens
      rw [add_assoc,hzero,add_zero]
    case cacheRead => rfl
    case cacheCreation => rfl
    case output => rfl
    case shown =>
      rw [openAITotal_eq_iff h,h5m,h1h,hcreation,add_zero]
    case back =>
      rw [total_back]
      change _+u.cachedTokens+u.cachedCreationTokens = _
      rw [hread,hcreation,add_zero,add_zero]

def cachedUsage : UsageRecord := UsageRecord.ofClaude ⟨100,20,0,900,none⟩

def plainUsage : UsageRecord := UsageRecord.ofClaude ⟨100,20,0,0,none⟩

theorem plainUsage_conserved : UsageConserved plainUsage (buildOpenAIStyleUsageFromClaudeUsage (some plainUsage))
    (buildClaudeUsageFromOpenAIUsage (buildOpenAIStyleUsageFromClaudeUsage (some plainUsage)).toUsage) :=
  (usageConserved_iff plainUsage (.ofClaude (by decide) (by decide) (by decide) (by decide) (by decide))).mpr
    ⟨by decide,by decide,by decide,by decide⟩

/-- 100 tokens of input beside 900 from the cache come back as 1000 beside 900. -/
theorem cachedUsage_not_conserved : ¬∀ u : UsageRecord, u.Nonneg →
    UsageConserved u (buildOpenAIStyleUsageFromClaudeUsage (some u))
      (buildClaudeUsageFromOpenAIUsage (buildOpenAIStyleUsageFromClaudeUsage (some u)).toUsage) := by
  intro h
  have hinput := (h cachedUsage (.ofClaude (by decide) (by decide) (by decide) (by decide) (by decide))).input
  exact absurd hinput (by decide)

end Convert
end Tierflow
