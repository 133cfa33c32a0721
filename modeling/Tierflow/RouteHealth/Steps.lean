import Tierflow.RouteHealth.Breaker

/-! What one call does to one target: to its entry, to its chain of trips and to the failures counted
since its last success. Every property of whole runs below is an induction over these steps. -/
namespace Tierflow
namespace RouteHealth

/-- The times of the consecutive trips of a target, the latest first. -/
def tripTimes (t : Target) : List BreakerEvent → List ℕ
  | [] => []
  | .tripped s n::h => if s = t then n::tripTimes t h else tripTimes t h
  | .recovered s::h => if s = t then [] else tripTimes t h
  | .reset::_ => []
  | .failed _ _::h | .succeeded _::h => tripTimes t h

/-- The times of the failures of a target since the last success recorded for it. -/
def streak (t : Target) : List BreakerEvent → List ℕ
  | [] => []
  | .failed s n::h => if s = t then n::streak t h else streak t h
  | .succeeded s::h => if s = t then [] else streak t h
  | .reset::_ => []
  | .tripped _ _::h | .recovered _::h => streak t h

/-- A success is too early for an entry that is still cooling. -/
def BreakerEntry.Cooling (e : BreakerEntry) (now : ℕ) : Prop := e.state = .stateOpen ∧ now<e.openUntil

instance (e : BreakerEntry) (now : ℕ) : Decidable (e.Cooling now) := instDecidableAnd

lemma BreakerEntry.state_cases (e : BreakerEntry) : e.state = .stateClosed ∨ e.state = .stateOpen := by
  cases h : e.state with
  | stateClosed => exact .inl rfl
  | stateOpen => exact .inr rfl
  | stateHalfOpen => exact absurd h e.stored

/-! ## Events -/

section Events
variable (m : Manager) (t : Target) (h : List BreakerEvent)

lemma tripTimes_failureEvents (s : Target) : tripTimes t (failureEvents m (some s)++h) =
    if s = t ∧ (m.tracked t).trips m.cfg m.now then m.now::tripTimes t h else tripTimes t h := by
  by_cases hs : s = t
  · subst hs
    by_cases ht : (m.tracked s).trips m.cfg m.now <;> simp [failureEvents,ht,tripTimes]
  · by_cases ht : (m.tracked s).trips m.cfg m.now <;> simp [failureEvents,ht,tripTimes,hs]

lemma streak_failureEvents (s : Target) :
    streak t (failureEvents m (some s)++h) = if s = t then m.now::streak t h else streak t h := by
  by_cases ht : (m.tracked s).trips m.cfg m.now <;> simp [failureEvents,ht,streak]

lemma tripTimes_successEvents (ts : List Target) : tripTimes t (ts.flatMap (successEvents m)++h) =
    if t∈ts ∧ ∃ e∈m.entryOf t, ¬e.Cooling m.now then [] else tripTimes t h := by
  induction ts with
  | nil => simp
  | cons s ts ih =>
    rw [List.flatMap_cons,List.append_assoc]
    by_cases hs : s = t
    · subst hs
      by_cases he : ∃ e∈m.entryOf s, ¬(e.state = .stateOpen ∧ m.now<e.openUntil)
      · rw [successEvents,if_pos he,if_pos ⟨List.mem_cons_self,he⟩]
        simp [tripTimes]
      · rw [successEvents,if_neg he,if_neg (fun hc => he hc.2)]
        rw [if_neg (fun hc => he hc.2)] at ih
        exact ih
    · have hskip : ∀ l, tripTimes t (successEvents m s++l) = tripTimes t l := by
        intro l
        unfold successEvents
        split_ifs <;> simp [tripTimes,hs]
      have hmem : t∈s::ts ↔ t∈ts := by simp [List.mem_cons,Ne.symm hs]
      rw [hskip,ih]
      simp only [hmem]

lemma streak_successEvents (ts : List Target) : streak t (ts.flatMap (successEvents m)++h) =
    if t∈ts then [] else streak t h := by
  induction ts with
  | nil => simp
  | cons s ts ih =>
    rw [List.flatMap_cons,List.append_assoc]
    have hstep : ∀ l, streak t (successEvents m s++l) = if s = t then [] else streak t l := by
      intro l
      unfold successEvents
      split_ifs <;> simp_all [streak]
    rw [hstep,ih]
    by_cases hs : s = t
    · rw [if_pos hs,if_pos (by simp [hs])]
    · have hmem : t∈s::ts ↔ t∈ts := by simp [List.mem_cons,Ne.symm hs]
      rw [if_neg hs]
      simp only [hmem]

end Events

/-! ## One entry -/

/-- The ways a failure can go at an entry. -/
inductive FailureOutcome (e : BreakerEntry) (cfg : ActiveConfig) (now : ℕ) : BreakerEntry → Prop
  | ignored (hc : e.Cooling now) (ht : e.trips cfg now = false) : FailureOutcome e cfg now e
  | probeFailed {e'} (ho : e.state = .stateOpen) (ht : e.trips cfg now = true)
      (hs : e'.state = .stateOpen) (hn : e'.tripCount = e.tripCount+1)
      (hu : e'.openUntil = wrap64 (now+backoffNanos cfg (e.tripCount+1))) : FailureOutcome e cfg now e'
  | tripped {e'} (hc : e.state = .stateClosed) (ht : e.trips cfg now = true)
      (hf : cfg.failureThreshold≤(if e.restarts cfg now then 0 else e.failCount)+1)
      (hs : e'.state = .stateOpen) (hn : e'.tripCount = 1)
      (hu : e'.openUntil = wrap64 (now+backoffNanos cfg 1)) : FailureOutcome e cfg now e'
  | counted {e'} (hc : e.state = .stateClosed) (ht : e.trips cfg now = false)
      (hs : e'.state = .stateClosed) (hlt : (e'.failCount : ℤ) < cfg.failureThreshold)
      (hn : e'.failCount = (if e.restarts cfg now then 0 else e.failCount)+1)
      (hw : e'.windowStart = if e.restarts cfg now then (now : ℤ) else e.windowStart) :
      FailureOutcome e cfg now e'

lemma failureOutcome (e : BreakerEntry) (cfg : ActiveConfig) (now : ℕ) :
    FailureOutcome e cfg now (e.recordFailure cfg now) := by
  rcases e.state_cases with hc | ho
  · have hne : e.state≠.stateOpen := by rw [hc]; decide
    have htrips : e.trips cfg now =
        decide (cfg.failureThreshold≤(if e.restarts cfg now then 0 else e.failCount)+1) := if_neg hne
    rw [BreakerEntry.recordFailure,if_neg hne]
    by_cases hf : cfg.failureThreshold≤(if e.restarts cfg now then 0 else e.failCount)+1
    · have hf' : cfg.failureThreshold≤(((if e.restarts cfg now then 0 else e.failCount)+1 : ℕ) : ℤ) := by
        push_cast at hf ⊢
        exact hf
      simp only [hf',if_true]
      exact .tripped hc (htrips.trans (decide_eq_true hf)) hf rfl rfl rfl
    · have hf' : ¬cfg.failureThreshold≤(((if e.restarts cfg now then 0 else e.failCount)+1 : ℕ) : ℤ) := by
        push_cast at hf ⊢
        exact hf
      simp only [hf',if_false]
      exact .counted hc (htrips.trans (decide_eq_false hf)) hc (not_le.mp hf') rfl rfl
  · unfold BreakerEntry.recordFailure
    rw [if_pos ho]
    by_cases hn : now<e.openUntil
    · rw [if_pos hn]
      exact .ignored ⟨ho,hn⟩ (by rw [BreakerEntry.trips,if_pos ho]; exact decide_eq_false (not_le.mpr hn))
    · rw [if_neg hn]
      exact .probeFailed ho (by rw [BreakerEntry.trips,if_pos ho]; exact decide_eq_true (not_lt.mp hn)) ho rfl rfl

namespace BreakerEntry

/-- An entry stays with its target. -/
def IsFor (e : BreakerEntry) (t : Target) : Prop :=
  e.scope = t.scope ∧ e.channelId = t.channelId ∧ e.keyIndex = t.keyIndex

lemma isFor_recordFailure {e : BreakerEntry} {t : Target} (h : e.IsFor t) (cfg : ActiveConfig) (now : ℕ) :
    (e.recordFailure cfg now).IsFor t := by
  unfold recordFailure
  simp only
  split_ifs <;> exact h

lemma isFor_recordSuccess {e : BreakerEntry} {t : Target} (h : e.IsFor t) (now : ℕ) :
    (e.recordSuccess now).IsFor t := by
  unfold recordSuccess
  split_ifs <;> exact h

lemma recordSuccess_of_cooling {e : BreakerEntry} {now : ℕ} (h : e.Cooling now) :
    e.recordSuccess now = e := if_pos h

lemma recordSuccess_of_not_cooling {e : BreakerEntry} {now : ℕ} (h : ¬e.Cooling now) :
    (e.recordSuccess now).state = .stateClosed ∧ (e.recordSuccess now).failCount = 0 := by
  have hn : ¬(e.state = .stateOpen ∧ now<e.openUntil) := h
  rw [recordSuccess,if_neg hn]
  exact ⟨rfl,rfl⟩

end BreakerEntry

/-! ## One target -/

/-- What a report does to one target. -/
inductive TargetStep (m : Manager) (h : List BreakerEvent) (t : Target) :
    Option BreakerEntry → List BreakerEvent → Prop
  | same {h'} (ht : tripTimes t h' = tripTimes t h) (hs : streak t h' = streak t h) :
      TargetStep m h t (m.entryOf t) h'
  | dropped {h' e} (he : m.entryOf t = some e) (hc : e.state = .stateClosed)
      (ht : tripTimes t h' = tripTimes t h) (hs : streak t h' = streak t h) : TargetStep m h t none h'
  | failed {h'} (hon : m.cfg.enabled = true) (hkey : t.scope = .key → m.cfg.keyLevelEnabled = true)
      (ht : tripTimes t h' =
        if (m.tracked t).trips m.cfg m.now then m.now::tripTimes t h else tripTimes t h)
      (hs : streak t h' = m.now::streak t h) :
      TargetStep m h t (some ((m.tracked t).recordFailure m.cfg m.now)) h'
  | succeeded {h'}
      (ht : tripTimes t h' = if ∃ e∈m.entryOf t, ¬e.Cooling m.now then [] else tripTimes t h)
      (hs : streak t h' = []) :
      TargetStep m h t ((m.entryOf t).map (fun e => e.recordSuccess m.now)) h'

namespace Manager

lemma failureTarget_eq_some {m : Manager} {c k code : ℤ} {t : Target} (h : m.failureTarget c k code = some t) :
    m.cfg.enabled = true ∧ (t.scope = .key → m.cfg.keyLevelEnabled = true) ∧
      (t = targetOf c k ∨ t = .channel c) := by
  unfold failureTarget at h
  split_ifs at h with ha hk
  · obtain rfl := Option.some.inj h
    exact ⟨ha.1,fun _ => hk,.inl rfl⟩
  · obtain rfl := Option.some.inj h
    exact ⟨ha.1,(fun hs => nomatch hs),.inr rfl⟩

lemma mem_successTargets {m : Manager} {c k : ℤ} {t : Target} (h : t∈m.successTargets c k) :
    t = targetOf c k ∨ t = .channel c := by
  unfold successTargets at h
  split_ifs at h with he hk <;> simp at h
  · exact h
  · exact .inr h

end Manager

lemma targetStep_recordFailure (m : Manager) (h : List BreakerEvent) (t : Target) (c k code : ℤ) :
    TargetStep m h t ((m.recordFailure c k code).entryOf t)
      (failureEvents m (m.failureTarget c k code)++h) := by
  rw [Manager.recordFailure_eq]
  cases hf : m.failureTarget c k code with
  | none => exact .same rfl rfl
  | some s =>
    obtain ⟨hon,hkey,-⟩ := Manager.failureTarget_eq_some hf
    have htrips := tripTimes_failureEvents m t h s
    have hstreak := streak_failureEvents m t h s
    by_cases hs : s = t
    · subst hs
      rw [if_pos rfl] at hstreak
      simp only [true_and] at htrips
      rw [Manager.entryOf_recordFailureAt_self]
      exact .failed hon hkey htrips hstreak
    · rw [if_neg hs] at hstreak
      rw [if_neg (fun hc => hs hc.1)] at htrips
      have hne : t.cacheKey≠s.cacheKey := fun hc => hs (Target.cacheKey_injective hc.symm)
      rcases m.peek_recordFailureAt_ne s hne with hk | ⟨e,he,hc,hk⟩
      · have hsame : (m.recordFailureAt s).entryOf t = m.entryOf t := hk
        rw [hsame]
        exact .same htrips hstreak
      · have hnone : (m.recordFailureAt s).entryOf t = none := hk
        rw [hnone]
        exact .dropped he hc htrips hstreak

lemma targetStep_recordSuccess (m : Manager) (h : List BreakerEvent) (t : Target) (c k : ℤ) :
    TargetStep m h t ((m.recordSuccess c k).entryOf t)
      ((m.successTargets c k).flatMap (successEvents m)++h) := by
  have htrips := tripTimes_successEvents m t h (m.successTargets c k)
  have hstreak := streak_successEvents m t h (m.successTargets c k)
  rw [Manager.entryOf_recordSuccess]
  by_cases hm : t∈m.successTargets c k
  · rw [if_pos hm] at hstreak ⊢
    simp only [hm,true_and] at htrips
    exact .succeeded htrips hstreak
  · rw [if_neg hm] at hstreak ⊢
    rw [if_neg (fun hc => hm hc.1)] at htrips
    exact .same htrips hstreak

/-! ## Tracked entries -/

/-- What holds of the entry of a target at any time. -/
structure SoundEntry (cfg : ActiveConfig) (t : Target) (e : BreakerEntry) : Prop where
  isFor : e.IsFor t
  enabled : cfg.enabled = true
  keyLevel : t.scope = .key → cfg.keyLevelEnabled = true
  closed : e.state = .stateClosed → (e.failCount : ℤ) < cfg.failureThreshold
  opened : e.state = .stateOpen → 1≤e.tripCount

structure Sound (m : Manager) : Prop where
  keyed : ∀ k e, m.peek k = some e → ∃ t : Target, k = t.cacheKey
  entry : ∀ t e, m.entryOf t = some e → SoundEntry m.cfg t e

lemma sound_empty (cfg : ActiveConfig) (now : ℕ) : Sound ⟨∅,cfg,now⟩ :=
  ⟨(fun _ _ h => nomatch h),(fun _ _ h => nomatch h)⟩

lemma soundEntry_fresh {cfg : ActiveConfig} {t : Target} (hon : cfg.enabled = true)
    (hkey : t.scope = .key → cfg.keyLevelEnabled = true) :
    SoundEntry cfg t (.fresh t.scope t.channelId t.keyIndex) where
  isFor := ⟨rfl,rfl,rfl⟩
  enabled := hon
  keyLevel := hkey
  closed := fun _ => by
    have := cfg.one_le_threshold
    simp only [BreakerEntry.fresh]
    omega
  opened := fun h => nomatch h

lemma SoundEntry.recordFailure {cfg : ActiveConfig} {t : Target} {e : BreakerEntry} (h : SoundEntry cfg t e)
    (now : ℕ) : SoundEntry cfg t (e.recordFailure cfg now) := by
  have ho := failureOutcome e cfg now
  refine ⟨BreakerEntry.isFor_recordFailure h.isFor cfg now,h.enabled,h.keyLevel,?_,?_⟩
  · intro hs
    generalize e.recordFailure cfg now = e' at hs ho
    cases ho with
    | ignored hc ht => exact h.closed hs
    | probeFailed _ _ ho => rw [ho] at hs; contradiction
    | tripped _ _ _ ho => rw [ho] at hs; contradiction
    | counted _ _ _ hlt => exact hlt
  · intro hs
    generalize e.recordFailure cfg now = e' at hs ho
    cases ho with
    | ignored hc ht => exact h.opened hs
    | probeFailed _ _ _ hn => omega
    | tripped _ _ _ _ hn => omega
    | counted _ _ hc => rw [hc] at hs; contradiction

lemma SoundEntry.recordSuccess {cfg : ActiveConfig} {t : Target} {e : BreakerEntry} (h : SoundEntry cfg t e)
    (now : ℕ) : SoundEntry cfg t (e.recordSuccess now) := by
  by_cases hc : e.Cooling now
  · rwa [BreakerEntry.recordSuccess_of_cooling hc]
  · obtain ⟨hs,hf⟩ := BreakerEntry.recordSuccess_of_not_cooling hc
    refine ⟨BreakerEntry.isFor_recordSuccess h.isFor now,h.enabled,h.keyLevel,?_,?_⟩
    · intro _
      have := cfg.one_le_threshold
      omega
    · intro ho
      rw [hs] at ho
      contradiction

lemma isAvailable_of_entry {m : Manager} {ch k : ℤ} {e : BreakerEntry} (hm : Sound m)
    (he : m.entryOf (targetOf ch k) = some e) (x : ℕ) :
    { m with now := x }.isAvailable ch k = e.availableAt x := by
  have hs := hm.entry _ e he
  have hkey : ¬(0≤k ∧ (!m.cfg.keyLevelEnabled) = true) := by
    rintro ⟨h0,hl⟩
    have := hs.keyLevel (by rw [targetOf,if_pos h0]; rfl)
    simp [this] at hl
  rw [Manager.entryOf,Target.cacheKey_targetOf] at he
  have hp : Manager.peek { m with now := x } (if 0≤k then keyCacheKey ch k else channelCacheKey ch) = some e := he
  unfold Manager.isAvailable
  simp only [hs.enabled,Bool.not_true,Bool.false_eq_true,if_false,if_neg hkey,hp]

lemma isAvailable_of_no_entry {m : Manager} {ch k : ℤ} (he : m.entryOf (targetOf ch k) = none) (x : ℕ) :
    { m with now := x }.isAvailable ch k = true := by
  rw [Manager.entryOf,Target.cacheKey_targetOf] at he
  have hp : Manager.peek { m with now := x } (if 0≤k then keyCacheKey ch k else channelCacheKey ch) = none := he
  unfold Manager.isAvailable
  simp only [hp]
  split_ifs <;> rfl

lemma TargetStep.sound {m : Manager} {h h' : List BreakerEvent} {t : Target} {o : Option BreakerEntry}
    (hs : TargetStep m h t o h') (hm : ∀ e, m.entryOf t = some e → SoundEntry m.cfg t e) :
    ∀ e, o = some e → SoundEntry m.cfg t e := by
  intro e he
  cases hs with
  | same => exact hm e he
  | dropped => contradiction
  | failed hon hkey =>
    obtain rfl := Option.some.inj he
    apply SoundEntry.recordFailure
    unfold Manager.tracked
    cases hf : m.entryOf t with
    | none => exact soundEntry_fresh hon hkey
    | some e => exact hm e hf
  | succeeded =>
    obtain ⟨e',he',rfl⟩ := Option.map_eq_some_iff.mp he
    exact (hm e' he').recordSuccess m.now

lemma Sound.recordFailure {m : Manager} (hm : Sound m) (c k code : ℤ) : Sound (m.recordFailure c k code) := by
  constructor
  · intro s e he
    rw [Manager.recordFailure_eq] at he
    cases hf : m.failureTarget c k code with
    | none =>
      rw [hf] at he
      exact hm.keyed s e he
    | some t =>
      rw [hf] at he
      by_cases hs : s = t.cacheKey
      · exact ⟨t,hs⟩
      · rcases m.peek_recordFailureAt_ne t hs with hk | ⟨_,_,_,hk⟩
        · rw [hk] at he
          exact hm.keyed s e he
        · rw [hk] at he
          contradiction
  · intro t e he
    rw [m.cfg_recordFailure]
    exact (targetStep_recordFailure m [] t c k code).sound (hm.entry t) e he

lemma Sound.recordSuccess {m : Manager} (hm : Sound m) (c k : ℤ) : Sound (m.recordSuccess c k) := by
  constructor
  · intro s e he
    rw [(m.recordSuccess_spec c k).2.2] at he
    split_ifs at he
    · obtain ⟨e',he',-⟩ := Option.map_eq_some_iff.mp he
      exact hm.keyed s e' he'
    · exact hm.keyed s e he
  · intro t e he
    rw [(m.recordSuccess_spec c k).1]
    exact (targetStep_recordSuccess m [] t c k).sound (hm.entry t) e he

lemma sound_step {c : TxSystem.Config Manager BreakerEvent} {op : BreakerOp} {m : Manager}
    {es : List BreakerEvent} (hc : Sound c.state) (h : breakerSystem.step c.state op = some (m,es)) : Sound m := by
  obtain ⟨rfl,-⟩ := Prod.mk.inj (Option.some.inj h)
  cases op with
  | recordFailure ch k code => exact hc.recordFailure ch k code
  | recordSuccess ch k => exact hc.recordSuccess ch k
  | reset => exact sound_empty defaultConfig c.state.now
  | elapse d => exact ⟨hc.keyed,hc.entry⟩

theorem always_sound (c : BreakerConfig) (now : ℕ) (ops : List BreakerOp) :
    breakerSystem.Always (fun d => Sound d.state) (configured c now) ops :=
  TxSystem.always_of_step (sound_empty _ _) (fun _ _ _ _ hd hs => sound_step hd hs) ops

end RouteHealth
end Tierflow
