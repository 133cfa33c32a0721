import Mathlib.Data.List.AList
import Tierflow.Foundation.Machine
import Tierflow.Foundation.Text
import Tierflow.Foundation.Transaction

/-! The circuit breaker of upstream routing: failures of a channel, or of one key of a multi-key
channel, are counted in a window; at the threshold the entry cools down, longer at each consecutive
trip, and is probed again afterwards. Times are Unix nanoseconds. -/
namespace Tierflow
namespace RouteHealth

inductive BreakerState
  | stateClosed
  | stateOpen
  | stateHalfOpen
  deriving DecidableEq, Repr

inductive Scope
  | channel
  | key
  deriving DecidableEq, Repr

/-- An inclusive range of status codes. -/
structure IntRange where
  start : ℤ
  stop : ℤ
  deriving DecidableEq, Repr

structure BreakerConfig where
  enabled : Bool
  keyLevelEnabled : Bool
  failureThreshold : ℤ
  windowSeconds : ℤ
  cooldownSeconds : ℤ
  maxCooldownSecs : ℤ
  tripStatusCodes : List IntRange
  deriving DecidableEq, Repr

/-- A configuration as the breaker holds it, after its values were sanitised. -/
structure ActiveConfig extends BreakerConfig where
  one_le_threshold : 1≤failureThreshold
  one_le_window : 1≤windowSeconds
  one_le_cooldown : 1 ≤ cooldownSeconds
  cooldown_le_max : cooldownSeconds ≤ maxCooldownSecs
  deriving DecidableEq

def defaultConfig : ActiveConfig where
  enabled := true
  keyLevelEnabled := true
  failureThreshold := 3
  windowSeconds := 60
  cooldownSeconds := 30
  maxCooldownSecs := 300
  tripStatusCodes := [⟨429,429⟩,⟨500,504⟩,⟨520,599⟩]
  one_le_threshold := by decide
  one_le_window := by decide
  one_le_cooldown := by decide
  cooldown_le_max := by decide

/-- Any values may be given; the ones that make no sense are replaced. -/
def configure (c : BreakerConfig) : ActiveConfig :=
  let cooldown := if c.cooldownSeconds<1 then 30 else c.cooldownSeconds
  { c with
    failureThreshold := if c.failureThreshold<1 then 1 else c.failureThreshold
    windowSeconds := if c.windowSeconds<1 then 60 else c.windowSeconds
    cooldownSeconds := cooldown
    maxCooldownSecs := if c.maxCooldownSecs < cooldown then cooldown else c.maxCooldownSecs
    one_le_threshold := by split_ifs <;> omega
    one_le_window := by split_ifs <;> omega
    one_le_cooldown := by dsimp only [cooldown]; split_ifs <;> omega
    cooldown_le_max := by split_ifs <;> omega }

/-- What is tracked for a channel or a key; the half-open state is derived, never stored. -/
structure BreakerEntry where
  scope : Scope
  channelId : ℤ
  keyIndex : ℤ
  state : BreakerState
  failCount : ℕ
  windowStart : ℤ
  openUntil : ℤ
  tripCount : ℕ
  lastChange : ℤ
  stored : state≠.stateHalfOpen
  deriving DecidableEq

def BreakerEntry.fresh (scope : Scope) (channelId keyIndex : ℤ) : BreakerEntry where
  scope := scope
  channelId := channelId
  keyIndex := keyIndex
  state := .stateClosed
  failCount := 0
  windowStart := 0
  openUntil := 0
  tripCount := 0
  lastChange := 0
  stored := by decide

/-- The tracked entries, the configuration in force and the clock. -/
structure Manager where
  entries : AList (fun _ : String => BreakerEntry)
  cfg : ActiveConfig
  now : ℕ

def pruneThreshold : ℕ := 10000

def second : ℤ := 10^9

def hour : ℤ := 3600*second

def channelCacheKey (id : ℤ) : String := "ch:"++Text.printInt id

def keyCacheKey (id idx : ℤ) : String := "ch:"++Text.printInt id++":k:"++Text.printInt idx

/-! ## Entries -/

/-- The doubling loop of the cooling time, with the machine's multiplication. -/
def backoffLoop (maxSecs : ℤ) : ℕ → ℤ → ℤ
  | 0,secs => secs
  | n+1,secs =>
    let doubled := wrap64 (secs*2)
    if maxSecs≤doubled then maxSecs else backoffLoop maxSecs n doubled

def backoffNanos (cfg : ActiveConfig) (tripCount : ℕ) : ℤ :=
  let secs := backoffLoop cfg.maxCooldownSecs (tripCount-1) cfg.cooldownSeconds
  wrap64 ((if cfg.maxCooldownSecs < secs then cfg.maxCooldownSecs else secs)*second)

namespace BreakerEntry

/-- The failures of this entry are counted from here on. -/
def restarts (e : BreakerEntry) (cfg : ActiveConfig) (now : ℕ) : Bool :=
  let windowNs := wrap64 (cfg.windowSeconds*second)
  e.windowStart = 0 ∨ windowNs<now-e.windowStart

def recordFailure (e : BreakerEntry) (cfg : ActiveConfig) (now : ℕ) : BreakerEntry :=
  if e.state = .stateOpen then
    if now<e.openUntil then e
    else { e with
      tripCount := e.tripCount+1
      openUntil := wrap64 (now+backoffNanos cfg (e.tripCount+1))
      lastChange := now }
  else
    let windowStart := if e.restarts cfg now then (now : ℤ) else e.windowStart
    let failCount := (if e.restarts cfg now then 0 else e.failCount)+1
    if cfg.failureThreshold≤failCount then { e with
      windowStart := windowStart
      tripCount := 1
      state := .stateOpen
      openUntil := wrap64 (now+backoffNanos cfg 1)
      failCount := 0
      lastChange := now
      stored := by decide }
    else { e with
      windowStart := windowStart
      failCount := failCount }

def recordSuccess (e : BreakerEntry) (now : ℕ) : BreakerEntry :=
  if e.state = .stateOpen ∧ now<e.openUntil then e
  else { e with
    state := .stateClosed
    failCount := 0
    windowStart := 0
    openUntil := 0
    tripCount := 0
    lastChange := now
    stored := by decide }

def availableAt (e : BreakerEntry) (now : ℕ) : Bool := e.state = .stateClosed ∨ e.openUntil≤now

/-- An open entry whose cooling time is over reads as half open. -/
def stateAt (e : BreakerEntry) (now : ℕ) : BreakerState :=
  if e.state = .stateOpen ∧ e.openUntil≤now then .stateHalfOpen else e.state

end BreakerEntry

/-! ## The manager -/

def codeInRanges (code : ℤ) (ranges : List IntRange) : Bool :=
  ranges.any (fun r => r.start ≤ code && code ≤ r.stop)

namespace Manager

def peek (m : Manager) (k : String) : Option BreakerEntry := m.entries.lookup k

def idle (now : ℕ) (e : BreakerEntry) : Bool := e.state = .stateClosed ∧ hour<now-e.lastChange

/-- Closed entries that did not change for an hour are dropped. -/
def prune (m : Manager) : Manager :=
  { m with entries :=
    ⟨m.entries.entries.filter (fun r => !idle m.now r.2),
      m.entries.nodupKeys.sublist List.filter_sublist⟩ }

/-- The entry of a cache key, together with a manager that has it; many entries are pruned first. -/
def get (m : Manager) (k : String) (scope : Scope) (channelId keyIndex : ℤ) : Manager × BreakerEntry :=
  match m.peek k with
  | some e => (m,e)
  | none =>
    let m := if pruneThreshold ≤ m.entries.keys.length then m.prune else m
    let e := BreakerEntry.fresh scope channelId keyIndex
    ({ m with entries := m.entries.insert k e },e)

def put (m : Manager) (k : String) (e : BreakerEntry) : Manager :=
  { m with entries := m.entries.insert k e }

def recordFailure (m : Manager) (channelId keyIndex statusCode : ℤ) : Manager :=
  if !m.cfg.enabled then m
  else if !codeInRanges statusCode m.cfg.tripStatusCodes then m
  else if 0≤keyIndex ∧ m.cfg.keyLevelEnabled then
    let k := keyCacheKey channelId keyIndex
    let r := m.get k .key channelId keyIndex
    r.1.put k (r.2.recordFailure m.cfg m.now)
  else
    let k := channelCacheKey channelId
    let r := m.get k .channel channelId (-1)
    r.1.put k (r.2.recordFailure m.cfg m.now)

/-- A success reaches an entry only when there is one. -/
def recordSuccessEntry (m : Manager) (k : String) : Manager :=
  match m.peek k with
  | none => m
  | some e => m.put k (e.recordSuccess m.now)

def recordSuccess (m : Manager) (channelId keyIndex : ℤ) : Manager :=
  if !m.cfg.enabled then m
  else
    let m' := if 0≤keyIndex then m.recordSuccessEntry (keyCacheKey channelId keyIndex) else m
    m'.recordSuccessEntry (channelCacheKey channelId)

def isAvailable (m : Manager) (channelId keyIndex : ℤ) : Bool :=
  if !m.cfg.enabled then true
  else if 0≤keyIndex ∧ !m.cfg.keyLevelEnabled then true
  else
    let k := if 0≤keyIndex then keyCacheKey channelId keyIndex else channelCacheKey channelId
    match m.peek k with
    | none => true
    | some e => e.availableAt m.now

def stateOf (m : Manager) (channelId keyIndex : ℤ) : BreakerState :=
  let k := if 0≤keyIndex then keyCacheKey channelId keyIndex else channelCacheKey channelId
  match m.peek k with
  | none => .stateClosed
  | some e => e.stateAt m.now

def cooldownRemainingSeconds (m : Manager) (channelId keyIndex : ℤ) : ℤ :=
  let k := if 0≤keyIndex then keyCacheKey channelId keyIndex else channelCacheKey channelId
  match m.peek k with
  | none => 0
  | some e => if e.state≠.stateOpen ∨ e.openUntil ≤ m.now then 0 else (e.openUntil-m.now).tdiv second

end Manager

structure SnapshotEntry where
  scope : Scope
  channelId : ℤ
  keyIndex : ℤ
  state : BreakerState
  openUntil : ℤ
  recentFailures : ℕ
  tripCount : ℕ
  deriving DecidableEq, Repr

def Manager.snapshot (m : Manager) : List SnapshotEntry :=
  m.entries.entries.map fun r =>
    let e := r.2
    { scope := e.scope
      channelId := e.channelId
      keyIndex := e.keyIndex
      state := e.stateAt m.now
      openUntil := if e.state = .stateOpen then e.openUntil.tdiv second else 0
      recentFailures := e.failCount
      tripCount := e.tripCount }

def Manager.reset (m : Manager) : Manager := { m with entries := ∅, cfg := defaultConfig }

/-! ## Targets -/

/-- What an entry is kept for: a channel as a whole or one of its keys. -/
inductive Target
  | channel (id : ℤ)
  | key (id : ℤ) (idx : ℕ)
  deriving DecidableEq, Repr

/-- A negative key index names the channel. -/
def targetOf (channelId keyIndex : ℤ) : Target :=
  if 0≤keyIndex then .key channelId keyIndex.toNat else .channel channelId

namespace Target

def scope : Target → Scope
  | channel _ => .channel
  | key _ _ => .key

def channelId : Target → ℤ
  | channel id => id
  | key id _ => id

def keyIndex : Target → ℤ
  | channel _ => -1
  | key _ idx => idx

def cacheKey : Target → String
  | channel id => channelCacheKey id
  | key id idx => keyCacheKey id idx

@[simp] lemma targetOf_self (t : Target) : targetOf t.channelId t.keyIndex = t := by
  cases t <;> simp [targetOf,channelId,keyIndex]

@[simp] lemma channelId_targetOf (c k : ℤ) : (targetOf c k).channelId = c := by
  unfold targetOf
  split_ifs <;> rfl

lemma keyIndex_targetOf (c k : ℤ) : (targetOf c k).keyIndex = if 0≤k then k else -1 := by
  unfold targetOf
  split_ifs with h
  · exact Int.toNat_of_nonneg h
  · rfl

lemma cacheKey_targetOf (c k : ℤ) :
    (targetOf c k).cacheKey = if 0≤k then keyCacheKey c k else channelCacheKey c := by
  unfold targetOf
  split_ifs with h
  · rw [cacheKey,Int.toNat_of_nonneg h]
  · rfl

/-- A numeral ends where the colon stands. -/
lemma numeral_append_inj {y z : ℤ} {r r' : List Char} (hr : ∀ c∈r.head?, c = ':')
    (hr' : ∀ c∈r'.head?, c = ':') (h : (Text.printInt y).toList++r = (Text.printInt z).toList++r') :
    y = z ∧ r = r' := by
  have hfree : ∀ (x : ℤ), ∀ c∈(Text.printInt x).toList, c ≠ ':' := by
    rintro x c hc rfl
    rcases Text.mem_printInt hc with h | h <;> contradiction
  obtain ⟨hd,hrest⟩ := Text.append_sep_inj (hfree y) (hfree z) hr hr' h
  exact ⟨Text.printInt_injective (String.toList_inj.mp hd),hrest⟩

/-- Two targets never share an entry. -/
theorem cacheKey_injective : Function.Injective cacheKey := by
  have hch : ∀ id, (channelCacheKey id).toList = ['c','h',':']++((Text.printInt id).toList++[]) := by
    intro id
    rw [channelCacheKey,String.toList_append,List.append_nil]
    rfl
  have hkey : ∀ id idx, (keyCacheKey id idx).toList =
      ['c','h',':']++((Text.printInt id).toList++(':' :: 'k' :: ':' :: (Text.printInt idx).toList)) := by
    intro id idx
    rw [keyCacheKey,String.toList_append,String.toList_append,String.toList_append,List.append_assoc,
      List.append_assoc]
    rfl
  intro s t h
  have hl := congrArg String.toList h
  cases s with
  | channel i =>
    cases t with
    | channel j =>
      rw [cacheKey,cacheKey,hch,hch] at hl
      rw [(numeral_append_inj (by simp) (by simp) (List.append_cancel_left hl)).1]
    | key j n =>
      rw [cacheKey,cacheKey,hch,hkey] at hl
      exact nomatch (numeral_append_inj (by simp) (by simp) (List.append_cancel_left hl)).2
  | key i m =>
    cases t with
    | channel j =>
      rw [cacheKey,cacheKey,hkey,hch] at hl
      exact nomatch (numeral_append_inj (by simp) (by simp) (List.append_cancel_left hl)).2
    | key j n =>
      rw [cacheKey,cacheKey,hkey,hkey] at hl
      have hn := numeral_append_inj (by simp) (by simp) (List.append_cancel_left hl)
      have hi := Text.printInt_injective (String.toList_inj.mp
        (List.cons.inj (List.cons.inj (List.cons.inj hn.2).2).2).2)
      rw [hn.1,Int.ofNat_inj.mp hi]

end Target

namespace Manager

def entryOf (m : Manager) (t : Target) : Option BreakerEntry := m.peek t.cacheKey

/-- The entry of a target, a fresh one when there is none yet. -/
def tracked (m : Manager) (t : Target) : BreakerEntry :=
  (m.entryOf t).getD (.fresh t.scope t.channelId t.keyIndex)

/-- The target that a failure is counted for, if it is counted at all. -/
def failureTarget (m : Manager) (channelId keyIndex statusCode : ℤ) : Option Target :=
  if m.cfg.enabled ∧ codeInRanges statusCode m.cfg.tripStatusCodes then
    some (if m.cfg.keyLevelEnabled then targetOf channelId keyIndex else .channel channelId)
  else none

def recordFailureAt (m : Manager) (t : Target) : Manager :=
  let r := m.get t.cacheKey t.scope t.channelId t.keyIndex
  r.1.put t.cacheKey (r.2.recordFailure m.cfg m.now)

/-- The targets that a success closes: the key, if one is named, and the channel in any case. -/
def successTargets (m : Manager) (channelId keyIndex : ℤ) : List Target :=
  if m.cfg.enabled then
    (if 0≤keyIndex then [targetOf channelId keyIndex] else [])++[.channel channelId]
  else []

lemma recordFailure_eq (m : Manager) (c k code : ℤ) :
    m.recordFailure c k code = match m.failureTarget c k code with
      | none => m
      | some t => m.recordFailureAt t := by
  unfold recordFailure failureTarget
  by_cases he : m.cfg.enabled <;> by_cases hc : codeInRanges code m.cfg.tripStatusCodes <;>
    simp only [he,hc,Bool.not_true,Bool.not_false,Bool.false_eq_true,if_true,if_false,and_true,
      and_false]
  by_cases hk : 0≤k <;> by_cases hl : m.cfg.keyLevelEnabled <;>
    simp [hk,hl,recordFailureAt,targetOf,Target.cacheKey,Target.scope,Target.channelId,Target.keyIndex]

lemma recordSuccess_eq (m : Manager) (c k : ℤ) :
    m.recordSuccess c k =
      (m.successTargets c k).foldl (fun m' t => m'.recordSuccessEntry t.cacheKey) m := by
  unfold recordSuccess successTargets
  by_cases he : m.cfg.enabled <;> by_cases hk : 0≤k <;> simp [he,hk,Target.cacheKey_targetOf] <;> rfl

@[simp] lemma peek_put_self (m : Manager) (k : String) (e : BreakerEntry) :
    (m.put k e).peek k = some e := AList.lookup_insert _

lemma peek_put_ne (m : Manager) {k k' : String} (e : BreakerEntry) (h : k'≠k) :
    (m.put k e).peek k' = m.peek k' := AList.lookup_insert_ne h

lemma peek_prune (m : Manager) (k : String) :
    m.prune.peek k = (m.peek k).filter (fun e => !idle m.now e) := by
  apply Option.ext
  intro e
  have hl : m.prune.peek k = some e ↔ (⟨k,e⟩ : Sigma fun _ : String => BreakerEntry)∈m.prune.entries.entries :=
    AList.mem_lookup_iff
  have hr : m.peek k = some e ↔ (⟨k,e⟩ : Sigma fun _ : String => BreakerEntry)∈m.entries.entries :=
    AList.mem_lookup_iff
  rw [Option.filter_eq_some_iff,hl,hr]
  exact List.mem_filter

/-- Creating one entry costs the others nothing, except that a closed one may be dropped. -/
def Kept (m m' : Manager) (k : String) : Prop :=
  m'.peek k = m.peek k ∨ ∃ e, m.peek k = some e ∧ e.state = .stateClosed ∧ m'.peek k = none

lemma kept_prune (m : Manager) (k : String) : Kept m m.prune k := by
  unfold Kept
  rw [peek_prune]
  cases h : m.peek k with
  | none => exact .inl rfl
  | some e =>
    by_cases hi : idle m.now e = true
    · right
      have hs := of_decide_eq_true hi
      exact ⟨e,rfl,hs.1,by simp [hi]⟩
    · left
      simp [hi]

structure GetSpec (m : Manager) (k : String) (fresh : BreakerEntry) (r : Manager × BreakerEntry) : Prop where
  entry : r.2 = (m.peek k).getD fresh
  cfg : r.1.cfg = m.cfg
  now : r.1.now = m.now
  others : ∀ k', k'≠k → Kept m r.1 k'

lemma get_spec (m : Manager) (k : String) (scope : Scope) (c i : ℤ) :
    GetSpec m k (.fresh scope c i) (m.get k scope c i) := by
  unfold get
  cases h : m.peek k with
  | some e =>
    exact ⟨by rw [h]; rfl,rfl,rfl,fun k' _ => .inl rfl⟩
  | none =>
    by_cases hp : pruneThreshold ≤ m.entries.keys.length
    · simp only [hp,if_true]
      refine ⟨by rw [h]; rfl,rfl,rfl,?_⟩
      intro k' hk
      have hpk := peek_put_ne m.prune (.fresh scope c i) hk
      have hkept := kept_prune m k'
      unfold Kept at hkept ⊢
      rw [←hpk] at hkept
      exact hkept
    · simp only [hp,if_false]
      exact ⟨by rw [h]; rfl,rfl,rfl,fun k' hk => .inl (peek_put_ne m _ hk)⟩

@[simp] lemma cfg_recordFailureAt (m : Manager) (t : Target) : (m.recordFailureAt t).cfg = m.cfg :=
  (get_spec m t.cacheKey t.scope t.channelId t.keyIndex).cfg

@[simp] lemma now_recordFailureAt (m : Manager) (t : Target) : (m.recordFailureAt t).now = m.now :=
  (get_spec m t.cacheKey t.scope t.channelId t.keyIndex).now

@[simp] lemma cfg_recordFailure (m : Manager) (c k code : ℤ) : (m.recordFailure c k code).cfg = m.cfg := by
  rw [recordFailure_eq]
  split
  · rfl
  · exact m.cfg_recordFailureAt _

@[simp] lemma now_recordFailure (m : Manager) (c k code : ℤ) : (m.recordFailure c k code).now = m.now := by
  rw [recordFailure_eq]
  split
  · rfl
  · exact m.now_recordFailureAt _

lemma entryOf_recordFailureAt_self (m : Manager) (t : Target) :
    (m.recordFailureAt t).entryOf t = some ((m.tracked t).recordFailure m.cfg m.now) := by
  rw [recordFailureAt,entryOf,peek_put_self,(get_spec m t.cacheKey t.scope t.channelId t.keyIndex).entry]
  rfl

lemma peek_recordFailureAt_ne (m : Manager) (t : Target) {k : String} (h : k≠t.cacheKey) :
    Kept m (m.recordFailureAt t) k := by
  have hg := (get_spec m t.cacheKey t.scope t.channelId t.keyIndex).others k h
  unfold Kept at hg ⊢
  rwa [recordFailureAt,peek_put_ne _ _ h]

lemma peek_recordSuccessEntry (m : Manager) (k k' : String) :
    (m.recordSuccessEntry k).peek k' =
      if k' = k then (m.peek k').map (fun e => e.recordSuccess m.now) else m.peek k' := by
  unfold recordSuccessEntry
  cases h : m.peek k with
  | none =>
    split_ifs with hk
    · rw [hk,h]
      rfl
    · rfl
  | some e =>
    split_ifs with hk
    · rw [hk,h,Option.map_some,peek_put_self]
    · exact peek_put_ne m _ hk

@[simp] lemma cfg_recordSuccessEntry (m : Manager) (k : String) : (m.recordSuccessEntry k).cfg = m.cfg := by
  unfold recordSuccessEntry
  split <;> rfl

@[simp] lemma now_recordSuccessEntry (m : Manager) (k : String) : (m.recordSuccessEntry k).now = m.now := by
  unfold recordSuccessEntry
  split <;> rfl

lemma BreakerEntry.recordSuccess_idem (e : BreakerEntry) (now : ℕ) :
    (e.recordSuccess now).recordSuccess now = e.recordSuccess now := by
  unfold BreakerEntry.recordSuccess
  by_cases h : e.state = .stateOpen ∧ now<e.openUntil
  · rw [if_pos h,if_pos h]
  · simp only [if_neg h,reduceCtorEq,false_and,if_false]

/-- What a success does to the whole map. -/
lemma foldl_recordSuccessEntry (ts : List Target) (m : Manager) :
    let m' := ts.foldl (fun m t => m.recordSuccessEntry t.cacheKey) m
    m'.cfg = m.cfg ∧ m'.now = m.now ∧ ∀ k, m'.peek k =
      if k∈ts.map Target.cacheKey then (m.peek k).map (fun e => e.recordSuccess m.now) else m.peek k := by
  induction ts generalizing m with
  | nil => exact ⟨rfl,rfl,fun k => rfl⟩
  | cons t ts ih =>
    obtain ⟨hc,hn,hp⟩ := ih (m.recordSuccessEntry t.cacheKey)
    refine ⟨hc.trans (cfg_recordSuccessEntry m _),hn.trans (now_recordSuccessEntry m _),?_⟩
    intro k
    rw [List.foldl_cons,hp k,peek_recordSuccessEntry,now_recordSuccessEntry,List.map_cons]
    by_cases hk : k = t.cacheKey
    · by_cases hm : k∈ts.map Target.cacheKey
      · rw [if_pos hm,if_pos hk,if_pos (List.mem_cons_of_mem _ hm),Option.map_map]
        congr 1
        funext e
        exact BreakerEntry.recordSuccess_idem e m.now
      · rw [if_neg hm,if_pos hk,if_pos (List.mem_cons.mpr (.inl hk))]
    · by_cases hm : k∈ts.map Target.cacheKey
      · rw [if_pos hm,if_neg hk,if_pos (List.mem_cons_of_mem _ hm)]
      · rw [if_neg hm,if_neg hk,if_neg (by simp only [List.mem_cons,not_or]; exact ⟨hk,hm⟩)]

lemma recordSuccess_spec (m : Manager) (c k : ℤ) :
    (m.recordSuccess c k).cfg = m.cfg ∧ (m.recordSuccess c k).now = m.now ∧
      ∀ s, (m.recordSuccess c k).peek s = if s∈(m.successTargets c k).map Target.cacheKey then
        (m.peek s).map (fun e => e.recordSuccess m.now) else m.peek s := by
  rw [recordSuccess_eq]
  exact foldl_recordSuccessEntry _ _

lemma entryOf_recordSuccess (m : Manager) (c k : ℤ) (t : Target) :
    (m.recordSuccess c k).entryOf t = if t∈m.successTargets c k then
      (m.entryOf t).map (fun e => e.recordSuccess m.now) else m.entryOf t := by
  have hm := List.mem_map_of_injective (l := m.successTargets c k) (a := t) Target.cacheKey_injective
  rw [entryOf,(recordSuccess_spec m c k).2.2]
  by_cases ht : t∈m.successTargets c k
  · rw [if_pos ht,if_pos (hm.mpr ht)]
    rfl
  · rw [if_neg ht,if_neg (fun h => ht (hm.mp h))]
    rfl

end Manager

/-! ## Runs -/

/-- The calls that report outcomes, the reset, and the passing of time; the queries change nothing. -/
inductive BreakerOp
  | recordFailure (channelId keyIndex statusCode : ℤ)
  | recordSuccess (channelId keyIndex : ℤ)
  | reset
  | elapse (nanos : ℕ)
  deriving DecidableEq, Repr

/-- What is logged of a run: failures with a trip code and successes at the targets they concern,
trips, and successes that end a chain of trips. -/
inductive BreakerEvent
  | failed (t : Target) (now : ℕ)
  | tripped (t : Target) (now : ℕ)
  | succeeded (t : Target)
  | recovered (t : Target)
  | reset
  deriving DecidableEq, Repr

/-- A failure now trips the entry, or trips it again when it is a failed probe. -/
def BreakerEntry.trips (e : BreakerEntry) (cfg : ActiveConfig) (now : ℕ) : Bool :=
  if e.state = .stateOpen then e.openUntil≤now
  else cfg.failureThreshold≤(if e.restarts cfg now then 0 else e.failCount)+1

def failureEvents (m : Manager) : Option Target → List BreakerEvent
  | none => []
  | some t => if (m.tracked t).trips m.cfg m.now then [.tripped t m.now,.failed t m.now] else [.failed t m.now]

def successEvents (m : Manager) (t : Target) : List BreakerEvent :=
  if ∃ e∈m.entryOf t, ¬(e.state = .stateOpen ∧ m.now<e.openUntil) then [.recovered t,.succeeded t]
  else [.succeeded t]

def breakerSystem : TxSystem Manager BreakerOp BreakerEvent where
  step m op := some (match op with
    | .recordFailure c k code => (m.recordFailure c k code,failureEvents m (m.failureTarget c k code))
    | .recordSuccess c k => (m.recordSuccess c k,(m.successTargets c k).flatMap (successEvents m))
    | .reset => (m.reset,[.reset])
    | .elapse d => ({ m with now := m.now+d },[]))

/-- The breaker right after it was configured, nothing being tracked yet. -/
def configured (c : BreakerConfig) (now : ℕ) : TxSystem.Config Manager BreakerEvent :=
  ⟨⟨∅,configure c,now⟩,[]⟩

end RouteHealth
end Tierflow
