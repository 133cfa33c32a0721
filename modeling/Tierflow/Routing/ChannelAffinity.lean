import Tierflow.Foundation.Keyed
import Tierflow.Foundation.Pieces
import Tierflow.Foundation.Segments

/-! Requests that come back to the channel that served them. The first rule that a request fits gives it a key, made of
what the rule includes and of a value of the request, and the channel is kept under that key. -/
namespace Tierflow
namespace Routing
namespace Affinity
open Text

/-! ## Keys of a cache -/

def trimLeftColons (s : String) : String := String.ofList (s.toList.dropWhile (fun c => c = ':'))

def trimRightColons (s : String) : String :=
  String.ofList (s.toList.reverse.dropWhile (fun c => c = ':')).reverse

/-- The prefix of a namespace. -/
def namespacePrefix (n : String) : String :=
  let ns := trimRightColons (trimSpace n)
  if ns = "" then "" else ns++":"

def fullKey (n key : String) : String :=
  let key := trimSpace key
  if key = "" then ""
  else
    let p := namespacePrefix n
    if p = "" then trimLeftColons key
    else if hasPrefix key p then key
    else p++trimLeftColons key

/-- Channels and the seconds that they are kept. -/
abbrev HybridCache := Keyed String (ℤ × ℤ)

def HybridCache.get (cache : HybridCache) (n key : String) : Option ℤ :=
  if fullKey n key = "" then none else (cache.find? (fullKey n key)).map Prod.fst

def HybridCache.setWithTTL (cache : HybridCache) (n key : String) (v ttlSeconds : ℤ) : HybridCache :=
  if fullKey n key = "" then cache else cache.put (fullKey n key) (v,ttlSeconds)

def channelAffinityCacheNamespace : String := "tierflow:channel_affinity:v1"

/-! ## Rules -/

structure ChannelAffinityKeySource where
  type : String
  key : String
  path : String
  deriving DecidableEq, Repr

structure ChannelAffinityRule where
  name : String
  modelRegex : List String
  pathRegex : List String
  userAgentInclude : List String
  keySources : List ChannelAffinityKeySource
  valueRegex : String
  ttlSeconds : ℤ
  includeUsingGroup : Bool
  includeModelName : Bool
  includeRuleName : Bool
  deriving DecidableEq, Repr

structure ChannelAffinitySetting where
  enabled : Bool
  switchOnSuccess : Bool
  defaultTTLSeconds : ℤ
  rules : List ChannelAffinityRule
  deriving DecidableEq, Repr

/-- What a request brings along; a path of the body has no text where it leads to nothing. -/
structure AffinityRequest where
  path : String
  userAgent : String
  contextInt : String → ℤ
  contextString : String → String
  header : String → String
  bodyText : String → Option String

/-- Regular expressions and small letters. A pattern that does not compile matches nothing. -/
structure Matching where
  matchString : String → String → Bool
  toLower : String → String

section Matches
variable (lib : Matching)

def matchAnyRegexCached (patterns : List String) (s : String) : Bool :=
  s≠"" && patterns.any (fun pattern => pattern≠"" && lib.matchString pattern s)

def matchAnyIncludeFold (patterns : List String) (s : String) : Bool :=
  s≠"" && patterns.any (fun p => trimSpace p≠"" && contains (lib.toLower s) (lib.toLower (trimSpace p)))

def extractChannelAffinityValue (c : AffinityRequest) (src : ChannelAffinityKeySource) : String :=
  if src.type = "context_int" then
    if src.key = "" ∨ c.contextInt src.key ≤ 0 then "" else printInt (c.contextInt src.key)
  else if src.type = "context_string" then
    if src.key = "" then "" else trimSpace (c.contextString src.key)
  else if src.type = "request_header" then
    if src.key = "" then "" else trimSpace (c.header src.key)
  else if src.type = "gjson" then
    if src.path = "" then "" else ((c.bodyText src.path).map trimSpace).getD ""
  else ""

/-- The first source with a value counts. -/
def affinityValue (c : AffinityRequest) : List ChannelAffinityKeySource → String
  | [] => ""
  | src::keySources =>
    if extractChannelAffinityValue c src≠"" then extractChannelAffinityValue c src else affinityValue c keySources

def fits (c : AffinityRequest) (modelName : String) (rule : ChannelAffinityRule) : Bool :=
  matchAnyRegexCached lib rule.modelRegex modelName &&
    (rule.pathRegex = [] || matchAnyRegexCached lib rule.pathRegex c.path) &&
    (rule.userAgentInclude = [] || matchAnyIncludeFold lib rule.userAgentInclude c.userAgent) &&
    affinityValue c rule.keySources≠"" &&
    (rule.valueRegex = "" || matchAnyRegexCached lib [rule.valueRegex] (affinityValue c rule.keySources))

end Matches

/-- The parts of a key. -/
inductive Component
  | ruleName
  | modelName
  | usingGroup
  | affinityValue
  deriving DecidableEq, Repr

def components : List Component := [.ruleName,.modelName,.usingGroup,.affinityValue]

/-- What the rule puts in; nothing where it does not include the component. -/
def included (rule : ChannelAffinityRule) (modelName usingGroup affinityValue : String) : Component → String
  | .ruleName => if rule.includeRuleName then rule.name else ""
  | .modelName => if rule.includeModelName then modelName else ""
  | .usingGroup => if rule.includeUsingGroup then usingGroup else ""
  | .affinityValue => affinityValue

def buildChannelAffinityCacheKeySuffix (rule : ChannelAffinityRule) (modelName usingGroup affinityValue : String) :
    String :=
  let parts := []
  let parts := if rule.includeRuleName ∧ rule.name≠"" then parts++[rule.name] else parts
  let parts := if rule.includeModelName ∧ modelName≠"" then parts++[modelName] else parts
  let parts := if rule.includeUsingGroup ∧ usingGroup≠"" then parts++[usingGroup] else parts
  ":".intercalate (parts++[affinityValue])

/-! ## Calls -/

/-- What a request leaves for the recording of its channel. -/
structure AffinityContext where
  cacheKey : String
  ttlSeconds : ℤ
  deriving DecidableEq, Repr

/-- A call for the channel that a request prefers. -/
structure AffinityCall where
  setting : ChannelAffinitySetting
  request : AffinityRequest
  modelName : String
  usingGroup : String

section Calls
variable (lib : Matching) (a : AffinityCall)

/-- The rule that applies; there is none when the setting is off. -/
def AffinityCall.rule? : Option ChannelAffinityRule :=
  if a.setting.enabled then a.setting.rules.find? (fits lib a.request a.modelName) else none

def AffinityCall.suffix (rule : ChannelAffinityRule) : String :=
  buildChannelAffinityCacheKeySuffix rule a.modelName a.usingGroup (affinityValue a.request rule.keySources)

def getPreferredChannelByAffinity (cache : HybridCache) (c : Option AffinityContext) :
    Option AffinityContext × Option ℤ :=
  match a.rule? lib with
  | none => (c,none)
  | some rule =>
    let ttlSeconds := if rule.ttlSeconds ≤ 0 then a.setting.defaultTTLSeconds else rule.ttlSeconds
    let cacheKeySuffix := a.suffix rule
    let cacheKeyFull := channelAffinityCacheNamespace++":"++cacheKeySuffix
    (some ⟨cacheKeyFull,ttlSeconds⟩,cache.get channelAffinityCacheNamespace cacheKeySuffix)

end Calls

/-- The channel of a request that was served. -/
def recordChannelAffinity (setting : ChannelAffinitySetting) (c : Option AffinityContext)
    (successChannelID channelID : ℤ) (cache : HybridCache) : HybridCache :=
  if channelID ≤ 0 ∨ setting.enabled = false then cache
  else
    let channelID := if setting.switchOnSuccess = true ∧ 0 < successChannelID then successChannelID else channelID
    match c.filter (fun c => c.cacheKey≠"") with
    | none => cache
    | some c =>
      let ttlSeconds := if c.ttlSeconds ≤ 0 then setting.defaultTTLSeconds else c.ttlSeconds
      let ttlSeconds := if ttlSeconds ≤ 0 then 3600 else ttlSeconds
      cache.setWithTTL channelAffinityCacheNamespace c.cacheKey channelID ttlSeconds

/-! ## The two keys of a call -/

section TwoKeys
variable (lib : Matching) (a : AffinityCall) (rule : ChannelAffinityRule)

/-- The key under which the channel of a call is looked up. -/
def AffinityCall.keyRead : Option String :=
  (a.rule? lib).map (fun rule => fullKey channelAffinityCacheNamespace (a.suffix rule))

/-- The key under which its channel is recorded. -/
def AffinityCall.keyWritten : Option String :=
  (a.rule? lib).map (fun rule =>
    fullKey channelAffinityCacheNamespace (channelAffinityCacheNamespace++":"++a.suffix rule))

def AffinityCall.component : Component → String :=
  included rule a.modelName a.usingGroup (affinityValue a.request rule.keySources)

/-- What stands between the colons of the components. -/
def AffinityCall.pieces : List String := components.flatMap (fun c => Text.pieces ':' (a.component rule c))

/-- The first piece begins with a character that is no blank, and the pieces do not begin with the namespace. -/
def Plain (pieces : List String) : Prop :=
  (∃ p∈pieces.head?, ∃ c∈p.toList.head?, isSpace c = false) ∧
    ¬∃ rest, rest≠[] ∧ pieces = ["tierflow","channel_affinity","v1"]++rest

end TwoKeys

/-! ## Trimming -/

section Trimming
variable {p : Char → Bool} {l : List Char}

lemma dropWhile_eq_self_iff : l.dropWhile p = l ↔ ∀ c∈l.head?, p c = false := by
  cases l with
  | nil => simp
  | cons c l =>
    rw [List.dropWhile_cons]
    split_ifs with hc
    · constructor
      · intro h
        have hle := (List.dropWhile_suffix p (l := l)).length_le
        rw [h,List.length_cons] at hle
        omega
      · intro h
        rw [h c rfl] at hc
        exact absurd hc Bool.false_ne_true
    · simpa using hc

lemma getLast?_dropWhile (hne : l.dropWhile p≠[]) : (l.dropWhile p).getLast? = l.getLast? := by
  obtain ⟨t,ht⟩ := List.dropWhile_suffix p (l := l)
  have h := List.getLast?_append_of_ne_nil t hne
  rw [ht] at h
  exact h.symm

/-- A text that ends without a blank is trimmed at its front only. -/
lemma trimChars_eq (hlast : ∀ c∈l.getLast?, isSpace c = false) : trimChars l = l.dropWhile isSpace := by
  rw [trimChars,dropWhile_eq_self_iff.mpr,List.reverse_reverse]
  intro c hc
  rw [List.head?_reverse] at hc
  by_cases hne : l.dropWhile isSpace = []
  · rw [hne] at hc
    cases hc
  · rw [getLast?_dropWhile hne] at hc
    exact hlast c hc

lemma getLast?_trimChars {c : Char} (hc : c∈(trimChars l).getLast?) : isSpace c = false := by
  rw [trimChars,List.getLast?_reverse] at hc
  exact head?_dropWhile_isSpace hc

end Trimming

/-! ## Values -/

section Values
variable {lib : Matching} {a : AffinityCall} {rule : ChannelAffinityRule}

lemma trimSpace_ite {P : Prop} [Decidable P] {s t : String} (hs : trimSpace s = s) (ht : trimSpace t = t) :
    trimSpace (if P then s else t) = if P then s else t := by
  split_ifs
  · exact hs
  · exact ht

lemma trimSpace_printInt {v : ℤ} (h : 0<v) : trimSpace (printInt v) = printInt v := by
  refine trimSpace_word ⟨?_,fun c hc => ?_⟩
  · rw [toList_printInt_of_nonneg h.le]
    exact Nat.toDigits_ne_nil
  · rw [printInt,if_neg (by omega)] at hc
    exact printNat_noSpace _ c hc

lemma trimSpace_extract (c : AffinityRequest) (src : ChannelAffinityKeySource) :
    trimSpace (extractChannelAffinityValue c src) = extractChannelAffinityValue c src := by
  have hint : trimSpace (if src.key = "" ∨ c.contextInt src.key ≤ 0 then "" else printInt (c.contextInt src.key)) =
      if src.key = "" ∨ c.contextInt src.key ≤ 0 then "" else printInt (c.contextInt src.key) := by
    split_ifs with h
    · exact trimSpace_empty
    · rw [not_or,not_le] at h
      exact trimSpace_printInt h.2
  have hbody : trimSpace (((c.bodyText src.path).map trimSpace).getD "") =
      ((c.bodyText src.path).map trimSpace).getD "" := by
    cases c.bodyText src.path with
    | none => exact trimSpace_empty
    | some text => exact trimSpace_idem text
  unfold extractChannelAffinityValue
  refine trimSpace_ite hint (trimSpace_ite ?_ (trimSpace_ite ?_ (trimSpace_ite ?_ trimSpace_empty)))
  · exact trimSpace_ite trimSpace_empty (trimSpace_idem _)
  · exact trimSpace_ite trimSpace_empty (trimSpace_idem _)
  · exact trimSpace_ite trimSpace_empty hbody

lemma trimSpace_affinityValue (c : AffinityRequest) (keySources : List ChannelAffinityKeySource) :
    trimSpace (affinityValue c keySources) = affinityValue c keySources := by
  induction keySources with
  | nil => exact trimSpace_empty
  | cons src keySources ih =>
    rw [affinityValue]
    split_ifs
    · exact trimSpace_extract c src
    · exact ih

lemma affinityValue_ne_empty (h : a.rule? lib = some rule) : affinityValue a.request rule.keySources≠"" := by
  rw [AffinityCall.rule?,Option.ite_none_right_eq_some] at h
  have hfits := List.find?_some h.2
  rw [fits] at hfits
  simp only [Bool.and_eq_true,decide_eq_true_eq] at hfits
  exact hfits.1.2

lemma suffix_eq_joinFilled (h : a.rule? lib = some rule) :
    a.suffix rule = joinFilled ':' (components.map (a.component rule)) := by
  have hv := affinityValue_ne_empty h
  unfold AffinityCall.suffix buildChannelAffinityCacheKeySuffix joinFilled
  refine congrArg (":".intercalate) ?_
  simp only [components,List.map_cons,List.map_nil,AffinityCall.component,included,List.filter_cons,List.filter_nil]
  cases rule.includeRuleName <;> cases rule.includeModelName <;> cases rule.includeUsingGroup <;>
    by_cases hn : rule.name = "" <;> by_cases hm : a.modelName = "" <;> by_cases hg : a.usingGroup = "" <;>
    simp [hn,hm,hg,hv]

lemma exists_component_ne_empty (h : a.rule? lib = some rule) : ∃ s∈components.map (a.component rule), s≠"" :=
  ⟨a.component rule .affinityValue,List.mem_map_of_mem (by decide),affinityValue_ne_empty h⟩

/-- A suffix falls into the pieces of its components. -/
lemma split_suffix (h : a.rule? lib = some rule) : split (a.suffix rule) ':' = a.pieces rule := by
  rw [suffix_eq_joinFilled h,split_joinFilled (exists_component_ne_empty h),List.flatMap_map]
  rfl

lemma suffix_ends (a : AffinityCall) (rule : ChannelAffinityRule) :
    ∃ t, (a.suffix rule).toList = t++(affinityValue a.request rule.keySources).toList :=
  intercalate_ends _ _ _

lemma suffix_ne_empty (h : a.rule? lib = some rule) : a.suffix rule≠"" := by
  intro h0
  obtain ⟨t,ht⟩ := suffix_ends a rule
  rw [h0] at ht
  exact affinityValue_ne_empty h (String.toList_eq_nil_iff.mp (List.append_eq_nil_iff.mp ht.symm).2)

lemma getLast?_suffix (h : a.rule? lib = some rule) : ∀ c∈(a.suffix rule).toList.getLast?, isSpace c = false := by
  intro c hc
  obtain ⟨t,ht⟩ := suffix_ends a rule
  rw [ht,List.getLast?_append_of_ne_nil t (by simpa using affinityValue_ne_empty h),
    ←trimSpace_affinityValue a.request rule.keySources,trimSpace,String.toList_ofList] at hc
  exact getLast?_trimChars hc

end Values

/-! ## Full keys -/

section FullKeys
variable {s : String}

lemma namespacePrefix_affinity :
    namespacePrefix channelAffinityCacheNamespace = channelAffinityCacheNamespace++":" := by decide +kernel

lemma trimSpace_of_last (hlast : ∀ c∈s.toList.getLast?, isSpace c = false) :
    trimSpace s = String.ofList (s.toList.dropWhile isSpace) := by
  rw [trimSpace,trimChars_eq hlast]

/-- A text with the prefix is its own key. -/
lemma fullKey_prefixed (hne : s≠"") (hlast : ∀ c∈s.toList.getLast?, isSpace c = false) :
    fullKey channelAffinityCacheNamespace (channelAffinityCacheNamespace++":"++s) =
      channelAffinityCacheNamespace++":"++s := by
  have htrim : trimSpace (channelAffinityCacheNamespace++":"++s) = channelAffinityCacheNamespace++":"++s := by
    rw [trimSpace_of_last,dropWhile_eq_self_iff.mpr,String.ofList_toList]
    · intro c hc
      have hhead : (channelAffinityCacheNamespace++":"++s).toList.head? = some 't' := by
        rw [String.toList_append,List.head?_append]
        rfl
      obtain rfl : 't' = c := Option.some.inj (hhead.symm.trans hc)
      decide
    · rw [String.toList_append,List.getLast?_append_of_ne_nil _ (by simpa using hne)]
      exact hlast
  rw [fullKey,htrim,namespacePrefix_affinity]
  dsimp only
  rw [if_neg (by simp),if_neg (by decide +kernel),if_pos (hasPrefix_iff.mpr ⟨s,rfl⟩)]

lemma trimSpace_ne_empty (hne : s≠"") (hlast : ∀ c∈s.toList.getLast?, isSpace c = false) : trimSpace s≠"" := by
  intro h
  rw [trimSpace_of_last hlast,String.ofList_eq_empty_iff,List.dropWhile_eq_nil_iff] at h
  have hl : s.toList≠[] := by simpa using hne
  have hblank := h (s.toList.getLast hl) (List.getLast_mem hl)
  rw [hlast _ (List.getLast?_eq_getLast_of_ne_nil hl)] at hblank
  exact Bool.false_ne_true hblank

/-- What is left behind the colons is the whole text only when nothing was trimmed. -/
lemma trimLeftColons_eq_iff (hlast : ∀ c∈s.toList.getLast?, isSpace c = false) :
    trimLeftColons (trimSpace s) = s ↔ ∀ c∈s.toList.head?, isSpace c = false ∧ c≠ ':' := by
  have hblanks := List.dropWhile_suffix isSpace (l := s.toList)
  have hcolons := List.dropWhile_suffix (fun c => decide (c = ':')) (l := s.toList.dropWhile isSpace)
  rw [trimSpace_of_last hlast,trimLeftColons,String.toList_ofList]
  constructor
  · intro h
    have h := congrArg String.toList h
    rw [String.toList_ofList] at h
    have hle := hblanks.length_le
    have hs : s.toList.dropWhile isSpace = s.toList :=
      hblanks.eq_of_length (le_antisymm hle ((congrArg List.length h).symm.trans_le hcolons.length_le))
    rw [hs] at h
    exact fun c hc => ⟨dropWhile_eq_self_iff.mp hs c hc,of_decide_eq_false (dropWhile_eq_self_iff.mp h c hc)⟩
  · intro h
    rw [dropWhile_eq_self_iff.mpr (fun c hc => (h c hc).1),
      dropWhile_eq_self_iff.mpr (fun c hc => decide_eq_false (h c hc).2),String.ofList_toList]

lemma trimSpace_of_begin (hlast : ∀ c∈s.toList.getLast?, isSpace c = false) (h : trimLeftColons (trimSpace s) = s) :
    trimSpace s = s := by
  rw [trimSpace_of_last hlast,dropWhile_eq_self_iff.mpr,String.ofList_toList]
  exact fun c hc => ((trimLeftColons_eq_iff hlast).mp h c hc).1

/-- A text without the prefix has the same key if it begins neither with the prefix nor with what is trimmed. -/
theorem fullKey_eq_iff (hne : s≠"") (hlast : ∀ c∈s.toList.getLast?, isSpace c = false) :
    fullKey channelAffinityCacheNamespace s = channelAffinityCacheNamespace++":"++s ↔
      (∀ c∈s.toList.head?, isSpace c = false ∧ c≠ ':') ∧
        hasPrefix s (channelAffinityCacheNamespace++":") = false := by
  rw [fullKey,namespacePrefix_affinity]
  dsimp only
  rw [if_neg (trimSpace_ne_empty hne hlast),if_neg (by decide +kernel),←trimLeftColons_eq_iff hlast]
  cases hp : hasPrefix (trimSpace s) (channelAffinityCacheNamespace++":") with
  | true =>
    rw [if_pos rfl]
    constructor
    · intro h
      have hlen := (List.dropWhile_suffix isSpace (l := s.toList)).length_le
      have hh := congrArg (fun s => s.toList.length) h
      rw [trimSpace_of_last hlast] at hh
      simp [channelAffinityCacheNamespace] at hh hlen
      omega
    · rintro ⟨h,hs⟩
      rw [trimSpace_of_begin hlast h,hs] at hp
      exact absurd hp Bool.false_ne_true
  | false =>
    rw [if_neg Bool.false_ne_true]
    constructor
    · intro h
      have hs : trimLeftColons (trimSpace s) = s := by
        exact (String.append_right_inj _).mp h
      exact ⟨hs,(trimSpace_of_begin hlast hs) ▸ hp⟩
    · rintro ⟨h,-⟩
      rw [h]

end FullKeys

/-! ## Keys and pieces -/

section KeyPieces
variable {lib : Matching} {a b : AffinityCall} {rule rule' : ChannelAffinityRule}

lemma keyWritten_eq (h : a.rule? lib = some rule) :
    a.keyWritten lib = some (channelAffinityCacheNamespace++":"++a.suffix rule) := by
  rw [AffinityCall.keyWritten,h,Option.map_some,fullKey_prefixed (suffix_ne_empty h) (getLast?_suffix h)]

/-- Two calls share the key that is written when the same pieces stand between their colons. -/
lemma keyWritten_eq_iff (ha : a.rule? lib = some rule) (hb : b.rule? lib = some rule') :
    a.keyWritten lib = b.keyWritten lib ↔ a.pieces rule = b.pieces rule' := by
  rw [keyWritten_eq ha,keyWritten_eq hb,Option.some_inj,String.append_right_inj,←split_suffix ha,←split_suffix hb]
  exact (split_injective ':').eq_iff.symm

/-- The beginning of a text is that of its first piece. -/
lemma head?_split {s : String} (hne : s≠"") :
    (∃ p∈(split s ':').head?, ∃ c∈p.toList.head?, isSpace c = false) ↔
      ∀ c∈s.toList.head?, isSpace c = false ∧ c≠ ':' := by
  cases hl : s.toList with
  | nil => exact absurd (String.toList_eq_nil_iff.mp hl) hne
  | cons c cs =>
    obtain ⟨w,ws,hw⟩ := List.exists_cons_of_ne_nil (splitChars_ne_nil ':' cs)
    rw [split,hl,splitChars,hw]
    by_cases hc : c = ':'
    · simp [hc]
    · simp [hc]

lemma plain_of_head {l : List String} {p : String} (h : l.head? = some p)
    (hc : ∃ c∈p.toList.head?, isSpace c = false) (hp : p≠"tierflow") : Plain l := by
  refine ⟨⟨p,h,hc⟩,?_⟩
  rintro ⟨rest,-,rfl⟩
  exact hp (Option.some.inj h).symm

lemma hasPrefix_namespace_iff {s : String} : hasPrefix s (channelAffinityCacheNamespace++":") = true ↔
    ∃ rest, rest≠[] ∧ split s ':' = ["tierflow","channel_affinity","v1"]++rest := by
  have h := hasPrefix_sep_iff ':' (s := s) (t := channelAffinityCacheNamespace)
  rwa [show split channelAffinityCacheNamespace ':' = ["tierflow","channel_affinity","v1"] by decide +kernel] at h

/-- The key that is read is the one that is written. -/
theorem keyRead_eq_iff (h : a.rule? lib = some rule) : a.keyRead lib = a.keyWritten lib ↔ Plain (a.pieces rule) := by
  rw [keyWritten_eq h,AffinityCall.keyRead,h,Option.map_some,Option.some_inj,
    fullKey_eq_iff (suffix_ne_empty h) (getLast?_suffix h),←head?_split (suffix_ne_empty h),split_suffix h,
    ←Bool.not_eq_true,hasPrefix_namespace_iff,split_suffix h,Plain]

/-- Calls with the same pieces agree if they deal them out in the same way. -/
lemma component_eq_of_lengths
    (hlen : ∀ c, (Text.pieces ':' (a.component rule c)).length = (Text.pieces ':' (b.component rule' c)).length)
    (h : a.pieces rule = b.pieces rule') (c : Component) : a.component rule c = b.component rule' c := by
  have hall := (Segments.flatMap_eq_iff (fun c _ => (hlen c).le)).mp h
  exact pieces_injective ':' (hall c (by cases c <;> decide))

end KeyPieces

/-! ## Recording and looking up -/

section Recording
variable {lib : Matching} {a b : AffinityCall} {rule : ChannelAffinityRule}

lemma fullKey_written_ne_empty (h : a.rule? lib = some rule) :
    fullKey channelAffinityCacheNamespace (channelAffinityCacheNamespace++":"++a.suffix rule)≠"" := by
  rw [fullKey_prefixed (suffix_ne_empty h) (getLast?_suffix h)]
  simp [suffix_ne_empty h]

lemma HybridCache.find?_setWithTTL {n key : String} (hkey : fullKey n key≠"") (cache : HybridCache)
    (v ttlSeconds : ℤ) (k : String) : ((cache.setWithTTL n key v ttlSeconds).find? k).map Prod.fst =
      if k = fullKey n key then some v else (cache.find? k).map Prod.fst := by
  rw [HybridCache.setWithTTL,if_neg hkey,Keyed.find?_put]
  by_cases hk : k = fullKey n key
  · rw [if_pos hk,hk,beq_self_eq_true]
    rfl
  · rw [if_neg hk,beq_false_of_ne hk]
    rfl

lemma getPreferred_eq (hb : b.rule? lib = some rule) (cache : HybridCache) (c : Option AffinityContext) :
    (getPreferredChannelByAffinity lib b cache c).2 =
      ((b.keyRead lib).filter (fun k => k≠"")).bind (fun k => (cache.find? k).map Prod.fst) := by
  rw [getPreferredChannelByAffinity,hb,AffinityCall.keyRead,hb,Option.map_some,Option.filter_some]
  dsimp only
  rw [HybridCache.get]
  by_cases hk : fullKey channelAffinityCacheNamespace (b.suffix rule) = ""
  · rw [if_pos hk,if_neg (by simpa using hk)]
    rfl
  · rw [if_neg hk,if_pos (decide_eq_true hk)]
    rfl

/-- A request that a channel has served. -/
structure ServedCall where
  call : AffinityCall
  successChannelID : ℤ
  channelID : ℤ

namespace ServedCall

/-- The channel that is recorded for the request. -/
def recorded (x : ServedCall) : ℤ :=
  if x.call.setting.switchOnSuccess = true ∧ 0 < x.successChannelID then x.successChannelID else x.channelID

def writes (lib : Matching) (x : ServedCall) (k : String) : Bool :=
  decide (0 < x.channelID) && x.call.keyWritten lib == some k

/-- The request looks its channel up on the way in, and its channel is recorded on the way out. -/
def serve (lib : Matching) (x : ServedCall) (cache : HybridCache) : HybridCache :=
  recordChannelAffinity x.call.setting (getPreferredChannelByAffinity lib x.call cache none).1 x.successChannelID
    x.channelID cache

lemma find?_serve (lib : Matching) (x : ServedCall) (cache : HybridCache) (k : String) :
    ((x.serve lib cache).find? k).map Prod.fst =
      if x.writes lib k then some x.recorded else (cache.find? k).map Prod.fst := by
  unfold serve writes
  rw [recordChannelAffinity]
  cases ha : x.call.rule? lib with
  | none =>
    rw [AffinityCall.keyWritten,ha,getPreferredChannelByAffinity,ha]
    simp
  | some rule =>
    have henabled : x.call.setting.enabled≠false := by
      intro h
      rw [AffinityCall.rule?,if_neg (by rw [h]; decide)] at ha
      cases ha
    have hkey : channelAffinityCacheNamespace++":"++x.call.suffix rule≠"" := by
      simp [suffix_ne_empty ha]
    by_cases hc : x.channelID≤0
    · rw [if_pos (.inl hc),decide_eq_false (not_lt.mpr hc),Bool.false_and,if_neg Bool.false_ne_true]
    rw [if_neg (not_or.mpr ⟨hc,henabled⟩),getPreferredChannelByAffinity,ha,AffinityCall.keyWritten,ha]
    dsimp only
    rw [Option.filter_some,if_pos (decide_eq_true hkey)]
    dsimp only
    rw [HybridCache.find?_setWithTTL (fullKey_written_ne_empty ha),Option.map_some,decide_eq_true (not_le.mp hc),
      Bool.true_and]
    simp only [beq_iff_eq,Option.some_inj,eq_comm (b := k),recorded]

end ServedCall

end Recording

/-! ## Apart -/

/-- The keys of two requests are read as they are written, and shared only where the requests agree on what their rules
include, exactly if both requests begin plainly and, where they have the same pieces between colons, deal them out to
the components in the same way. -/
theorem affinityKeys_apart_iff (lib : Matching) (a b : AffinityCall) {rule rule' : ChannelAffinityRule}
    (ha : a.rule? lib = some rule) (hb : b.rule? lib = some rule') :
    (a.keyRead lib = a.keyWritten lib ∧ b.keyRead lib = b.keyWritten lib ∧
        (a.keyWritten lib = b.keyWritten lib → ∀ c, a.component rule c = b.component rule' c)) ↔
      Plain (a.pieces rule) ∧ Plain (b.pieces rule') ∧
        (a.pieces rule = b.pieces rule' → ∀ c,
          (Text.pieces ':' (a.component rule c)).length = (Text.pieces ':' (b.component rule' c)).length) := by
  rw [keyRead_eq_iff ha,keyRead_eq_iff hb,keyWritten_eq_iff ha hb]
  refine and_congr_right fun _ => and_congr_right fun _ => ⟨fun h hp c => ?_,fun h hp => ?_⟩
  · rw [h hp c]
  · exact component_eq_of_lengths (h hp) hp

def familyRule : ChannelAffinityRule :=
  ⟨"family",["^gpt-.*$"],[],[],[⟨"request_header","X-Affinity-Key",""⟩],"",0,false,true,true⟩

/-- Requests of one group for models of one family, with the value in a header. -/
def headerCall (modelName value : String) : AffinityCall where
  setting := ⟨true,true,3600,[familyRule]⟩
  request := ⟨"/v1/responses","cli",fun _ => 0,fun _ => "",fun k => if k = "X-Affinity-Key" then value else "",
    fun _ => none⟩
  modelName := modelName
  usingGroup := "default"

def familyMatching : Matching := ⟨fun pattern s => pattern = "^gpt-.*$" && hasPrefix s "gpt-",String.toLower⟩

theorem family_apart : (headerCall "gpt-5" "tenant-1").keyRead familyMatching =
      (headerCall "gpt-5" "tenant-1").keyWritten familyMatching ∧
    (headerCall "gpt-5" "tenant-2").keyRead familyMatching =
      (headerCall "gpt-5" "tenant-2").keyWritten familyMatching ∧
    ((headerCall "gpt-5" "tenant-1").keyWritten familyMatching =
        (headerCall "gpt-5" "tenant-2").keyWritten familyMatching →
      ∀ c, (headerCall "gpt-5" "tenant-1").component familyRule c =
        (headerCall "gpt-5" "tenant-2").component familyRule c) :=
  (affinityKeys_apart_iff familyMatching (headerCall "gpt-5" "tenant-1") (headerCall "gpt-5" "tenant-2")
    (by decide +kernel) (by decide +kernel)).mpr
    ⟨plain_of_head (p := "family") (by decide +kernel) ⟨'f',by decide +kernel,by decide⟩ (by decide),
      plain_of_head (p := "family") (by decide +kernel) ⟨'f',by decide +kernel,by decide⟩ (by decide),
      fun h => absurd h (by decide +kernel)⟩

/-- A model name with a colon and a value with one share a key. -/
theorem tagged_models_share : ¬∀ (lib : Matching) (a b : AffinityCall) (rule rule' : ChannelAffinityRule),
    a.rule? lib = some rule → b.rule? lib = some rule' → a.keyRead lib = a.keyWritten lib ∧
      (a.keyWritten lib = b.keyWritten lib → ∀ c, a.component rule c = b.component rule' c) := by
  intro h
  have hshared := (h familyMatching (headerCall "gpt-oss:20b" "t") (headerCall "gpt-oss" "20b:t") familyRule familyRule
    (by decide +kernel) (by decide +kernel)).2 (by decide +kernel) .modelName
  exact absurd hshared (by decide +kernel)

end Affinity
end Routing
end Tierflow
