import Tierflow.RouteHealth.Steps

/-! Pruning. A target without an entry is answered for like one with a fresh entry, so an entry may be dropped when
its next failure would begin a new window anyway. The breaker drops by the last change of state instead, and an
entry on its way to the threshold has not changed yet. -/
namespace Tierflow
namespace RouteHealth
open TxSystem

namespace Manager

/-- `get` with another way to prune. -/
def getWith (prune : Manager → Manager) (m : Manager) (k : String) (scope : Scope) (channelId keyIndex : ℤ) :
    Manager × BreakerEntry :=
  match m.peek k with
  | some e => (m,e)
  | none =>
    let m := if pruneThreshold ≤ m.entries.keys.length then prune m else m
    let e := BreakerEntry.fresh scope channelId keyIndex
    ({ m with entries := m.entries.insert k e },e)

def recordFailureWith (prune : Manager → Manager) (m : Manager) (channelId keyIndex statusCode : ℤ) : Manager :=
  match m.failureTarget channelId keyIndex statusCode with
  | none => m
  | some t =>
    let r := m.getWith prune t.cacheKey t.scope t.channelId t.keyIndex
    r.1.put t.cacheKey (r.2.recordFailure m.cfg m.now)

lemma recordFailureWith_prune : recordFailureWith prune = recordFailure := by
  funext m c k code
  rw [recordFailure_eq]
  rfl

/-- A failure of this target makes room for a new entry first. -/
def Prunes (m : Manager) (t : Target) : Prop := m.entryOf t = none ∧ pruneThreshold ≤ m.entries.keys.length

instance (m : Manager) (t : Target) : Decidable (m.Prunes t) := instDecidableAnd

/-- A way to prune that changes entries only. -/
structure Pruner (prune : Manager → Manager) : Prop where
  cfg : ∀ m, (prune m).cfg = m.cfg
  now : ∀ m, (prune m).now = m.now

lemma pruner_prune : Pruner prune := ⟨fun _ => rfl,fun _ => rfl⟩

lemma pruner_id : Pruner id := ⟨fun _ => rfl,fun _ => rfl⟩

section Failure
variable (prune : Manager → Manager) (m : Manager) {c k code : ℤ} {t : Target}

lemma getWith_of_some {key : String} {e : BreakerEntry} (h : m.peek key = some e) (scope : Scope) (i j : ℤ) :
    m.getWith prune key scope i j = (m,e) := by
  unfold getWith
  rw [h]

/-- What a new entry is added to. -/
def room : Manager := if pruneThreshold ≤ m.entries.keys.length then prune m else m

lemma getWith_of_none {key : String} (h : m.peek key = none) (scope : Scope) (i j : ℤ) :
    m.getWith prune key scope i j =
      ((m.room prune).put key (.fresh scope i j),.fresh scope i j) := by
  unfold getWith
  rw [h]
  rfl

lemma entryOf_recordFailureWith (ht : m.failureTarget c k code = some t) (s : Target) :
    (m.recordFailureWith prune c k code).entryOf s =
      if s = t then some ((m.tracked t).recordFailure m.cfg m.now)
      else if m.Prunes t then (prune m).entryOf s else m.entryOf s := by
  unfold recordFailureWith
  simp only [ht]
  cases he : m.peek t.cacheKey with
  | some e =>
    have htracked : m.tracked t = e := by
      rw [tracked,entryOf,he]
      rfl
    have hno : ¬m.Prunes t := by
      intro h
      rw [Prunes,entryOf,he] at h
      exact absurd h.1 (Option.some_ne_none e)
    rw [getWith_of_some prune m he,if_neg hno,htracked]
    split_ifs with hs
    · rw [hs]
      exact peek_put_self m t.cacheKey _
    · exact peek_put_ne m _ (fun h => hs (Target.cacheKey_injective h))
  | none =>
    have htracked : m.tracked t = .fresh t.scope t.channelId t.keyIndex := by
      rw [tracked,entryOf,he]
      rfl
    rw [getWith_of_none prune m he,htracked]
    split_ifs with hs hp
    · rw [hs]
      exact peek_put_self _ t.cacheKey _
    · have hkey : s.cacheKey≠t.cacheKey := fun h => hs (Target.cacheKey_injective h)
      rw [entryOf,peek_put_ne _ _ hkey,peek_put_ne _ _ hkey,room,if_pos hp.2]
      rfl
    · have hkey : s.cacheKey≠t.cacheKey := fun h => hs (Target.cacheKey_injective h)
      rw [entryOf,peek_put_ne _ _ hkey,peek_put_ne _ _ hkey,room,if_neg (fun h => hp ⟨he,h⟩)]
      rfl

variable {prune}

lemma recordFailureWith_keeps (hprune : Pruner prune) (c k code : ℤ) :
    (m.recordFailureWith prune c k code).cfg = m.cfg ∧ (m.recordFailureWith prune c k code).now = m.now := by
  have hroom : (m.room prune).cfg = m.cfg ∧ (m.room prune).now = m.now := by
    unfold room
    split_ifs
    · exact ⟨hprune.cfg m,hprune.now m⟩
    · exact ⟨rfl,rfl⟩
  unfold recordFailureWith
  cases m.failureTarget c k code with
  | none => exact ⟨rfl,rfl⟩
  | some t =>
    dsimp only
    cases he : m.peek t.cacheKey with
    | some e =>
      rw [getWith_of_some prune m he]
      exact ⟨rfl,rfl⟩
    | none =>
      rw [getWith_of_none prune m he]
      exact hroom

end Failure

/-- The breaker with another way to prune. -/
def breakerWith (prune : Manager → Manager) : TxSystem Manager BreakerOp BreakerEvent where
  step m op := some (match op with
    | .recordFailure c k code => (m.recordFailureWith prune c k code,failureEvents m (m.failureTarget c k code))
    | .recordSuccess c k => (m.recordSuccess c k,(m.successTargets c k).flatMap (successEvents m))
    | .reset => (m.reset,[.reset])
    | .elapse d => ({ m with now := m.now+d },[]))

lemma breakerWith_prune : breakerWith prune = breakerSystem := by
  refine congrArg TxSystem.mk ?_
  funext m op
  cases op with
  | recordFailure c k code => rw [recordFailureWith_prune]
  | recordSuccess c k => rfl
  | reset => rfl
  | elapse d => rfl

end Manager

/-! ## Entries that answer alike -/

/-- Two entries from which the same will be heard: closed, with the same failures in the same window or none in
either, or open alike. -/
structure Alike (cfg : ActiveConfig) (now : ℕ) (e e' : BreakerEntry) : Prop where
  state : e.state = e'.state
  opened : e.state = .stateOpen → e.openUntil = e'.openUntil ∧ e.tripCount = e'.tripCount
  closed : e.state = .stateClosed → (e.restarts cfg now = true ∧ e'.restarts cfg now = true) ∨
    (e.failCount = e'.failCount ∧ e.windowStart = e'.windowStart)

section Alike
variable {cfg : ActiveConfig} {now : ℕ} {e e' e'' : BreakerEntry}

lemma restarts_congr (h : e.windowStart = e'.windowStart) : e.restarts cfg now = e'.restarts cfg now := by
  unfold BreakerEntry.restarts
  rw [h]

lemma restarts_mono (h : e.restarts cfg now = true) (d : ℕ) : e.restarts cfg (now+d) = true := by
  unfold BreakerEntry.restarts at h ⊢
  simp only [decide_eq_true_eq] at h ⊢
  push_cast
  omega

@[simp] lemma restarts_fresh (scope : Scope) (c k : ℤ) :
    (BreakerEntry.fresh scope c k).restarts cfg now = true := by
  simp [BreakerEntry.restarts,BreakerEntry.fresh]

lemma Alike.refl (e : BreakerEntry) : Alike cfg now e e := ⟨rfl,fun _ => ⟨rfl,rfl⟩,fun _ => .inr ⟨rfl,rfl⟩⟩

lemma Alike.symm (h : Alike cfg now e e') : Alike cfg now e' e where
  state := h.state.symm
  opened ho := by
    have hs := h.opened (h.state.trans ho)
    exact ⟨hs.1.symm,hs.2.symm⟩
  closed hc := by
    rcases h.closed (h.state.trans hc) with hr | hs
    · exact .inl ⟨hr.2,hr.1⟩
    · exact .inr ⟨hs.1.symm,hs.2.symm⟩

lemma Alike.trans (h : Alike cfg now e e') (h' : Alike cfg now e' e'') : Alike cfg now e e'' where
  state := h.state.trans h'.state
  opened ho := by
    have hs := h.opened ho
    have hs' := h'.opened (h.state.symm.trans ho)
    exact ⟨hs.1.trans hs'.1,hs.2.trans hs'.2⟩
  closed hc := by
    rcases h.closed hc with hr | hs
    · rcases h'.closed (h.state.symm.trans hc) with hr' | hs'
      · exact .inl ⟨hr.1,hr'.2⟩
      · exact .inl ⟨hr.1,by rw [←restarts_congr hs'.2]; exact hr.2⟩
    · rcases h'.closed (h.state.symm.trans hc) with hr' | hs'
      · exact .inl ⟨by rw [restarts_congr hs.2]; exact hr'.1,hr'.2⟩
      · exact .inr ⟨hs.1.trans hs'.1,hs.2.trans hs'.2⟩

/-- An entry that begins a new window with its next failure is as good as none. -/
lemma alike_of_restarts (hc : e.state = .stateClosed) (hr : e.restarts cfg now = true)
    (hc' : e'.state = .stateClosed) (hr' : e'.restarts cfg now = true) : Alike cfg now e e' where
  state := hc.trans hc'.symm
  opened ho := by
    rw [hc] at ho
    contradiction
  closed _ := .inl ⟨hr,hr'⟩

/-- What the next failure counts from. -/
lemma Alike.counted (h : Alike cfg now e e') (hc : e.state = .stateClosed) :
    (if e.restarts cfg now then 0 else e.failCount) = (if e'.restarts cfg now then 0 else e'.failCount) ∧
      (if e.restarts cfg now then (now : ℤ) else e.windowStart) =
        if e'.restarts cfg now then (now : ℤ) else e'.windowStart := by
  rcases h.closed hc with hr | hs
  · simp [hr.1,hr.2]
  · rw [restarts_congr hs.2,hs.1,hs.2]
    exact ⟨rfl,rfl⟩

lemma Alike.trips (h : Alike cfg now e e') : e.trips cfg now = e'.trips cfg now := by
  have hclosed : ∀ x : BreakerEntry, x.state = .stateClosed → x.trips cfg now =
      decide (cfg.failureThreshold≤((if x.restarts cfg now then 0 else x.failCount : ℕ) : ℤ)+1) := by
    intro x hx
    rw [BreakerEntry.trips,if_neg (by rw [hx]; decide),Nat.cast_ite,Nat.cast_zero]
  rcases e.state_cases with hc | ho
  · rw [hclosed e hc,hclosed e' (h.state.symm.trans hc),(h.counted hc).1]
  · rw [BreakerEntry.trips,BreakerEntry.trips,if_pos ho,if_pos (h.state.symm.trans ho),(h.opened ho).1]

lemma Alike.recordFailure (h : Alike cfg now e e') :
    Alike cfg now (e.recordFailure cfg now) (e'.recordFailure cfg now) := by
  unfold BreakerEntry.recordFailure
  rcases e.state_cases with hc | ho
  · obtain ⟨hn,hw⟩ := h.counted hc
    have hne : e.state≠.stateOpen := by
      rw [hc]
      decide
    have hne' : e'.state≠.stateOpen := by
      rw [←h.state]
      exact hne
    rw [if_neg hne,if_neg hne']
    simp only [hn,hw]
    generalize (if e'.restarts cfg now then 0 else e'.failCount) = n
    generalize (if e'.restarts cfg now then (now : ℤ) else e'.windowStart) = w
    split_ifs
    · exact ⟨rfl,fun _ => ⟨rfl,rfl⟩,fun _ => .inr ⟨rfl,rfl⟩⟩
    · exact ⟨h.state,fun ho => absurd ho hne,fun _ => .inr ⟨rfl,rfl⟩⟩
  · have ho' : e'.state = .stateOpen := h.state.symm.trans ho
    obtain ⟨hu,hn⟩ := h.opened ho
    rw [if_pos ho,if_pos ho',hu,hn]
    split_ifs
    · exact h
    · refine ⟨h.state,fun _ => ⟨rfl,rfl⟩,fun hc => ?_⟩
      rw [show e.state = .stateOpen from ho] at hc
      contradiction

lemma Alike.recordSuccess (h : Alike cfg now e e') :
    Alike cfg now (e.recordSuccess now) (e'.recordSuccess now) := by
  unfold BreakerEntry.recordSuccess
  by_cases hcool : e.state = .stateOpen ∧ now<e.openUntil
  · have hcool' : e'.state = .stateOpen ∧ now<e'.openUntil := by
      rw [←h.state,←(h.opened hcool.1).1]
      exact hcool
    rw [if_pos hcool,if_pos hcool']
    exact h
  · have hcool' : ¬(e'.state = .stateOpen ∧ now<e'.openUntil) := by
      intro hc
      apply hcool
      have ho := h.state.trans hc.1
      rw [(h.opened ho).1]
      exact ⟨ho,hc.2⟩
    rw [if_neg hcool,if_neg hcool']
    exact ⟨rfl,fun _ => ⟨rfl,rfl⟩,fun _ => .inr ⟨rfl,rfl⟩⟩

lemma Alike.elapse (h : Alike cfg now e e') (d : ℕ) : Alike cfg (now+d) e e' where
  state := h.state
  opened := h.opened
  closed hc := by
    rcases h.closed hc with hr | hs
    · exact .inl ⟨restarts_mono hr.1 d,restarts_mono hr.2 d⟩
    · exact .inr hs

lemma Alike.availableAt (h : Alike cfg now e e') : e.availableAt now = e'.availableAt now := by
  unfold BreakerEntry.availableAt
  rw [←h.state]
  rcases e.state_cases with hc | ho
  · simp [hc]
  · rw [(h.opened ho).1]

end Alike

/-! ## Managers that answer alike -/

namespace Manager

lemma tracked_of_none {m : Manager} {t : Target} (h : m.entryOf t = none) :
    m.tracked t = .fresh t.scope t.channelId t.keyIndex := by
  rw [tracked,h]
  rfl

lemma tracked_of_some {m : Manager} {t : Target} {e : BreakerEntry} (h : m.entryOf t = some e) :
    m.tracked t = e := by
  rw [tracked,h]
  rfl

/-- The queries see a target without an entry as one with a fresh entry. -/
lemma isAvailable_eq (m : Manager) (ch k : ℤ) : m.isAvailable ch k =
    if !m.cfg.enabled then true
    else if 0≤k ∧ !m.cfg.keyLevelEnabled then true
    else (m.tracked (targetOf ch k)).availableAt m.now := by
  have hpeek : m.peek (if 0≤k then keyCacheKey ch k else channelCacheKey ch) = m.entryOf (targetOf ch k) := by
    rw [entryOf,Target.cacheKey_targetOf]
  unfold isAvailable
  simp only [hpeek]
  cases h : m.entryOf (targetOf ch k) with
  | none =>
    rw [tracked_of_none h]
    rfl
  | some e => rw [tracked_of_some h]

lemma tracked_recordFailureWith (prune : Manager → Manager) (m : Manager) {c k code : ℤ} {t : Target}
    (ht : m.failureTarget c k code = some t) (s : Target) :
    (m.recordFailureWith prune c k code).tracked s =
      if s = t then (m.tracked t).recordFailure m.cfg m.now
      else if m.Prunes t then (prune m).tracked s else m.tracked s := by
  rw [tracked,entryOf_recordFailureWith prune m ht s]
  split_ifs <;> rfl

/-- A success leaves a target that is not tracked as it is, which is like closing a fresh entry. -/
lemma alike_recordSuccess (m : Manager) (c k : ℤ) (t : Target) : Alike m.cfg m.now ((m.recordSuccess c k).tracked t)
    (if t∈m.successTargets c k then (m.tracked t).recordSuccess m.now else m.tracked t) := by
  have hent := m.entryOf_recordSuccess c k t
  split_ifs at hent ⊢
  · cases h : m.entryOf t with
    | none =>
      rw [h] at hent
      rw [tracked_of_none hent,tracked_of_none h]
      apply alike_of_restarts rfl (restarts_fresh t.scope t.channelId t.keyIndex) rfl
      simp [BreakerEntry.restarts,BreakerEntry.recordSuccess,BreakerEntry.fresh]
    | some e =>
      rw [h] at hent
      rw [tracked_of_some hent,tracked_of_some h]
      exact .refl _
  · rw [tracked,hent]
    exact .refl _

end Manager

/-- Two managers that answer alike about every target. -/
structure Matches (m u : Manager) : Prop where
  cfg : m.cfg = u.cfg
  now : m.now = u.now
  tracked : ∀ t, Alike m.cfg m.now (m.tracked t) (u.tracked t)

section Matches
variable {m u : Manager}

lemma Matches.failureTarget (h : Matches m u) (c k code : ℤ) :
    m.failureTarget c k code = u.failureTarget c k code := by
  unfold Manager.failureTarget
  rw [h.cfg]

lemma Matches.successTargets (h : Matches m u) (c k : ℤ) : m.successTargets c k = u.successTargets c k := by
  unfold Manager.successTargets
  rw [h.cfg]

lemma Matches.isAvailable (h : Matches m u) (ch k : ℤ) : m.isAvailable ch k = u.isAvailable ch k := by
  rw [m.isAvailable_eq,u.isAvailable_eq,(h.tracked (targetOf ch k)).availableAt,h.cfg,h.now]

/-- Whatever is dropped on either side must be of no consequence. -/
lemma Matches.recordFailure {prune prune' : Manager → Manager} (hprune : Manager.Pruner prune)
    (hprune' : Manager.Pruner prune') (h : Matches m u) {c k code : ℤ}
    (hm : ∀ t, m.failureTarget c k code = some t → m.Prunes t →
      ∀ s, Alike m.cfg m.now ((prune m).tracked s) (m.tracked s))
    (hu : ∀ t, u.failureTarget c k code = some t → u.Prunes t →
      ∀ s, Alike u.cfg u.now ((prune' u).tracked s) (u.tracked s)) :
    Matches (m.recordFailureWith prune c k code) (u.recordFailureWith prune' c k code) := by
  obtain ⟨hcfg,hnow⟩ := m.recordFailureWith_keeps hprune c k code
  obtain ⟨hcfg',hnow'⟩ := u.recordFailureWith_keeps hprune' c k code
  refine ⟨by rw [hcfg,hcfg',h.cfg],by rw [hnow,hnow',h.now],?_⟩
  rw [hcfg,hnow]
  intro s
  cases ht : m.failureTarget c k code with
  | none =>
    have ht' := (h.failureTarget c k code).symm.trans ht
    unfold Manager.recordFailureWith
    simp only [ht,ht']
    exact h.tracked s
  | some t =>
    have ht' := (h.failureTarget c k code).symm.trans ht
    rw [m.tracked_recordFailureWith prune ht s,u.tracked_recordFailureWith prune' ht' s]
    by_cases hs : s = t
    · rw [if_pos hs,if_pos hs,←h.cfg,←h.now]
      exact (h.tracked t).recordFailure
    · rw [if_neg hs,if_neg hs]
      have hleft : Alike m.cfg m.now (if m.Prunes t then (prune m).tracked s else m.tracked s) (m.tracked s) := by
        split_ifs with hp
        · exact hm t ht hp s
        · exact .refl _
      have hright : Alike m.cfg m.now (u.tracked s) (if u.Prunes t then (prune' u).tracked s else u.tracked s) := by
        rw [h.cfg,h.now]
        split_ifs with hp
        · exact (hu t ht' hp s).symm
        · exact .refl _
      exact (hleft.trans (h.tracked s)).trans hright

lemma Matches.recordSuccess (h : Matches m u) (c k : ℤ) : Matches (m.recordSuccess c k) (u.recordSuccess c k) := by
  obtain ⟨hcfg,hnow,-⟩ := m.recordSuccess_spec c k
  obtain ⟨hcfg',hnow',-⟩ := u.recordSuccess_spec c k
  refine ⟨by rw [hcfg,hcfg',h.cfg],by rw [hnow,hnow',h.now],?_⟩
  rw [hcfg,hnow]
  intro t
  have hm := m.alike_recordSuccess c k t
  have hu := u.alike_recordSuccess c k t
  rw [←h.cfg,←h.now,←h.successTargets] at hu
  refine (hm.trans ?_).trans hu.symm
  split_ifs
  · exact (h.tracked t).recordSuccess
  · exact h.tracked t

lemma Matches.elapse (h : Matches m u) (d : ℕ) : Matches { m with now := m.now+d } { u with now := u.now+d } where
  cfg := h.cfg
  now := by rw [h.now]
  tracked t := (h.tracked t).elapse d

end Matches

/-! ## Runs with and without pruning -/

def tripOf : BreakerEvent → Option (Target × ℕ)
  | .tripped t now => some (t,now)
  | _ => none

/-- All trips of a run, the latest first. -/
def trips (h : List BreakerEvent) : List (Target × ℕ) := h.filterMap tripOf

/-- The answers that two runs give now, and all their trips so far. -/
structure SameAnswers (d d' : Config Manager BreakerEvent) : Prop where
  available : ∀ ch k, d.state.isAvailable ch k = d'.state.isAvailable ch k
  trips : trips d.history = trips d'.history

/-- The entry has failures that the next one would be added to. -/
def BreakerEntry.Counting (e : BreakerEntry) (cfg : ActiveConfig) (now : ℕ) : Prop :=
  e.state = .stateClosed ∧ e.restarts cfg now = false

/-- When a failure makes room for a new entry, no entry that is idle by its last change has failures counted in a
window that is still running. -/
def SparesCounting (d : Config Manager BreakerEvent) : BreakerOp → Prop
  | .recordFailure c k code => ∀ t∈d.state.failureTarget c k code, d.state.Prunes t →
      ∀ r∈d.state.entries.entries, Manager.idle d.state.now r.2 = true →
        r.2.restarts d.state.cfg d.state.now = true
  | _ => True

instance (d : Config Manager BreakerEvent) : ∀ op, Decidable (SparesCounting d op)
  | .recordFailure c k code => inferInstanceAs (Decidable (∀ t∈d.state.failureTarget c k code, d.state.Prunes t →
      ∀ r∈d.state.entries.entries, Manager.idle d.state.now r.2 = true →
        r.2.restarts d.state.cfg d.state.now = true))
  | .recordSuccess _ _ | .reset | .elapse _ => instDecidableTrue

/-- No entry goes that failures are being counted for; the reset forgets everything. -/
def KeepsCounting (d : Config Manager BreakerEvent) (op : BreakerOp) (d' : Config Manager BreakerEvent) : Prop :=
  op≠.reset → ∀ t e, d.state.entryOf t = some e → e.Counting d.state.cfg d.state.now → d'.state.entryOf t≠none

lemma alike_prune {m : Manager} (h : ∀ r∈m.entries.entries, Manager.idle m.now r.2 = true →
    r.2.restarts m.cfg m.now = true) (s : Target) : Alike m.cfg m.now (m.prune.tracked s) (m.tracked s) := by
  have hent : m.prune.entryOf s = (m.entryOf s).filter (fun e => !Manager.idle m.now e) := m.peek_prune s.cacheKey
  cases he : m.entryOf s with
  | none =>
    rw [he] at hent
    rw [Manager.tracked_of_none hent,Manager.tracked_of_none he]
    exact .refl _
  | some e =>
    rw [he] at hent
    by_cases hi : Manager.idle m.now e = true
    · rw [Option.filter_some,hi] at hent
      rw [Manager.tracked_of_none hent,Manager.tracked_of_some he]
      have hmem : (⟨s.cacheKey,e⟩ : Sigma fun _ : String => BreakerEntry)∈m.entries.entries :=
        AList.mem_lookup_iff.mp he
      exact alike_of_restarts rfl (restarts_fresh _ _ _) (of_decide_eq_true hi).1 (h _ hmem hi)
    · rw [Bool.not_eq_true] at hi
      rw [Option.filter_some,hi] at hent
      rw [Manager.tracked_of_some hent,Manager.tracked_of_some he]
      exact .refl _

lemma trips_failureEvents {m u : Manager} (h : Matches m u) (o : Option Target) :
    trips (failureEvents m o) = trips (failureEvents u o) := by
  cases o with
  | none => rfl
  | some t =>
    dsimp only [failureEvents]
    rw [(h.tracked t).trips,h.cfg,h.now]

lemma trips_successEvents (m : Manager) (ts : List Target) : trips (ts.flatMap (successEvents m)) = [] := by
  induction ts with
  | nil => rfl
  | cons t ts ih =>
    rw [List.flatMap_cons,trips,List.filterMap_append]
    have hone : (successEvents m t).filterMap tripOf = [] := by
      unfold successEvents
      split_ifs <;> rfl
    rw [hone]
    exact ih

/-- What one operation does to two runs that agree so far. -/
lemma matches_exec {d d' : Config Manager BreakerEvent} {op : BreakerOp} (h : Matches d.state d'.state)
    (ht : trips d.history = trips d'.history) (hop : SparesCounting d op) :
    Matches (breakerSystem.exec d op).state ((Manager.breakerWith id).exec d' op).state ∧
      trips (breakerSystem.exec d op).history = trips ((Manager.breakerWith id).exec d' op).history := by
  have happend : ∀ es es' : List BreakerEvent, trips es = trips es' →
      trips (es++d.history) = trips (es'++d'.history) := by
    intro es es' he
    unfold trips at he ht ⊢
    rw [List.filterMap_append,List.filterMap_append,he,ht]
  rw [←Manager.breakerWith_prune]
  cases op with
  | recordFailure c k code =>
    constructor
    · apply h.recordFailure Manager.pruner_prune Manager.pruner_id
      · exact fun t hf hp => alike_prune (hop t hf hp)
      · exact fun t _ _ s => .refl _
    · apply happend
      rw [h.failureTarget]
      exact trips_failureEvents h _
  | recordSuccess c k =>
    refine ⟨h.recordSuccess c k,happend _ _ ?_⟩
    rw [trips_successEvents,trips_successEvents]
  | reset =>
    refine ⟨⟨rfl,h.now,fun t => .refl _⟩,happend _ _ rfl⟩
  | elapse n => exact ⟨h.elapse n,happend [] [] rfl⟩

lemma matches_run {d d' : Config Manager BreakerEvent} (h : Matches d.state d'.state)
    (ht : trips d.history = trips d'.history) {ops : List BreakerOp}
    (hops : breakerSystem.Guarded SparesCounting d ops) :
    Matches (breakerSystem.run d ops).state ((Manager.breakerWith id).run d' ops).state ∧
      trips (breakerSystem.run d ops).history = trips ((Manager.breakerWith id).run d' ops).history := by
  induction ops generalizing d d' with
  | nil => exact ⟨h,ht⟩
  | cons op ops ih =>
    obtain ⟨h',ht'⟩ := matches_exec h ht hops.1
    exact ih h' ht' hops.2

lemma keepsCounting_exec {d : Config Manager BreakerEvent} {op : BreakerOp} (hop : SparesCounting d op) :
    KeepsCounting d op (breakerSystem.exec d op) := by
  intro hreset t e he hcount
  cases op with
  | recordFailure c k code =>
    have hex : (breakerSystem.exec d (.recordFailure c k code)).state =
        d.state.recordFailureWith Manager.prune c k code := by
      rw [Manager.recordFailureWith_prune]
      rfl
    rw [hex]
    cases hf : d.state.failureTarget c k code with
    | none =>
      unfold Manager.recordFailureWith
      simp only [hf]
      rw [he]
      exact Option.some_ne_none e
    | some s =>
      rw [Manager.entryOf_recordFailureWith Manager.prune d.state hf]
      split_ifs with hs hp
      · exact Option.some_ne_none _
      · have hmem : (⟨t.cacheKey,e⟩ : Sigma fun _ : String => BreakerEntry)∈d.state.entries.entries :=
          AList.mem_lookup_iff.mp he
        have hidle : Manager.idle d.state.now e = false := by
          by_contra hi
          rw [Bool.not_eq_false] at hi
          have hr := hop s hf hp _ hmem hi
          rw [hcount.2] at hr
          contradiction
        have hkept : d.state.prune.entryOf t = some e := by
          rw [Manager.entryOf,Manager.peek_prune]
          rw [Manager.entryOf] at he
          rw [he,Option.filter_some,hidle]
          rfl
        rw [hkept]
        exact Option.some_ne_none e
      · rw [he]
        exact Option.some_ne_none e
  | recordSuccess c k =>
    have hent := d.state.entryOf_recordSuccess c k t
    rw [he] at hent
    have hsome : (d.state.recordSuccess c k).entryOf t≠none := by
      rw [hent]
      split_ifs <;> simp
    exact hsome
  | reset => exact absurd rfl hreset
  | elapse n =>
    rw [show (breakerSystem.exec d (.elapse n)).state.entryOf t = d.state.entryOf t from rfl,he]
    exact Option.some_ne_none e

/-- As long as nothing is dropped that is being counted, a run gives at every point the answers, and has had the
trips, of the run without any pruning. -/
theorem pruning_invisible (c : BreakerConfig) (now : ℕ) (ops : List BreakerOp)
    (h : breakerSystem.Guarded SparesCounting (configured c now) ops) :
    (∀ before, before<+:ops → SameAnswers (breakerSystem.run (configured c now) before)
      ((Manager.breakerWith id).run (configured c now) before)) ∧
      breakerSystem.Transitions KeepsCounting (configured c now) ops := by
  constructor
  · intro before hbefore
    have hstart : Matches (configured c now).state (configured c now).state := ⟨rfl,rfl,fun t => .refl _⟩
    obtain ⟨hm,ht⟩ := matches_run hstart rfl (h.of_prefix hbefore)
    exact ⟨hm.isAvailable,ht⟩
  · generalize configured c now = d at h
    induction ops generalizing d with
    | nil => trivial
    | cons op ops ih => exact ⟨keepsCounting_exec h.1,ih _ h.2⟩

/-- Three failures trip a channel, whatever is done with its entry. -/
theorem pruning_invisible_trip : SameAnswers
    (breakerSystem.run (configured defaultConfig.toBreakerConfig (10^18)) (List.replicate 3 (.recordFailure 1 (-1) 500)))
    ((Manager.breakerWith id).run (configured defaultConfig.toBreakerConfig (10^18))
      (List.replicate 3 (.recordFailure 1 (-1) 500))) :=
  (pruning_invisible defaultConfig.toBreakerConfig (10^18) (List.replicate 3 (.recordFailure 1 (-1) 500))
    (by decide)).1 _ (List.prefix_rfl)

/-! ## A table that is full -/

section Churn

def failing (id : ℤ) : BreakerOp := .recordFailure id (-1) 500

/-- Two failures of one channel, one of each of many others, and the third of the first. -/
def churn : List BreakerOp :=
  [failing 0,failing 0]++(((List.range 9999).map (fun i : ℕ => (i : ℤ)+1)++[10000]).map failing++[failing 0])

/-- A breaker with so many entries. -/
structure Filled (n : ℕ) (m : Manager) : Prop where
  cfg : m.cfg = defaultConfig
  now : m.now = 10^18
  size : m.entries.keys.length = n

lemma length_keys_put_new {m : Manager} {k : String} (h : m.peek k = none) (e e' : BreakerEntry) :
    ((m.put k e).put k e').entries.keys.length = m.entries.keys.length+1 := by
  have hk : k∉m.entries.keys := by
    have := AList.lookup_eq_none.mp h
    exact this
  simp only [Manager.put,AList.keys_insert,List.erase_cons_head,List.length_cons]
  rw [List.erase_of_not_mem hk]

variable {m : Manager} {n : ℕ} {i : ℤ}

lemma failureTarget_failing (hcfg : m.cfg = defaultConfig) (i : ℤ) :
    m.failureTarget i (-1) 500 = some (.channel i) := by
  unfold Manager.failureTarget
  rw [hcfg]
  rfl

lemma Filled.add (h : Filled n m) (hn : n < pruneThreshold) (hi : m.entryOf (.channel i) = none) :
    Filled (n+1) (m.recordFailure i (-1) 500) ∧
      ∀ j, j≠i → (m.recordFailure i (-1) 500).entryOf (.channel j) = m.entryOf (.channel j) := by
  have hf := failureTarget_failing h.cfg i
  have hno : ¬m.Prunes (.channel i) := by
    intro hp
    have := hp.2
    rw [h.size] at this
    omega
  rw [←Manager.recordFailureWith_prune]
  obtain ⟨hcfg,hnow⟩ := m.recordFailureWith_keeps Manager.pruner_prune i (-1) 500
  have hent := Manager.entryOf_recordFailureWith Manager.prune m hf
  constructor
  · have hpeek : m.peek (Target.channel i).cacheKey = none := hi
    have hroom : m.room Manager.prune = m := by
      rw [Manager.room,h.size,if_neg (by omega)]
    refine ⟨hcfg.trans h.cfg,hnow.trans h.now,?_⟩
    unfold Manager.recordFailureWith
    simp only [hf]
    rw [Manager.getWith_of_none Manager.prune m hpeek,hroom,length_keys_put_new hpeek,h.size]
  · intro j hj
    rw [hent,if_neg (fun hc => hj (Target.channel.inj hc)),if_neg hno]

/-- Failures of many new channels fill the table and leave the other entries as they are. -/
lemma Filled.fill {d : Config Manager BreakerEvent} (h : Filled n d.state) (ids : List ℤ) (hids : ids.Nodup)
    (hnew : ∀ i∈ids, d.state.entryOf (.channel i) = none) (hn : n+ids.length ≤ pruneThreshold) :
    Filled (n+ids.length) (breakerSystem.run d (ids.map failing)).state ∧
      ∀ j, j∉ids → (breakerSystem.run d (ids.map failing)).state.entryOf (.channel j) =
        d.state.entryOf (.channel j) := by
  induction ids generalizing d n with
  | nil => exact ⟨h,fun _ _ => rfl⟩
  | cons i ids ih =>
    rw [List.length_cons] at hn ⊢
    obtain ⟨hi,hids⟩ := List.nodup_cons.mp hids
    obtain ⟨hstep,hothers⟩ := h.add (by omega) (hnew i List.mem_cons_self)
    have hexec : (breakerSystem.exec d (failing i)).state = d.state.recordFailure i (-1) 500 := rfl
    rw [←hexec] at hstep hothers
    have hnew' : ∀ j∈ids, (breakerSystem.exec d (failing i)).state.entryOf (.channel j) = none := by
      intro j hj
      rw [hothers j (fun hc => hi (hc ▸ hj))]
      exact hnew j (List.mem_cons_of_mem i hj)
    obtain ⟨hfill,hrest⟩ := ih hstep hids hnew' (by omega)
    refine ⟨by rw [show n+(ids.length+1) = n+1+ids.length by omega]; exact hfill,?_⟩
    intro j hj
    rw [List.mem_cons,not_or] at hj
    rw [List.map_cons,run,hrest j hj.2,hothers j hj.1]

/-- Without pruning the entry of another channel stays as it is, however many there are. -/
lemma entryOf_unpruned {d : Config Manager BreakerEvent} (hcfg : d.state.cfg = defaultConfig) (ids : List ℤ) {j : ℤ}
    (hj : j∉ids) : let m := ((Manager.breakerWith id).run d (ids.map failing)).state
    m.entryOf (.channel j) = d.state.entryOf (.channel j) ∧ m.cfg = defaultConfig ∧ m.now = d.state.now := by
  induction ids generalizing d with
  | nil => exact ⟨rfl,hcfg,rfl⟩
  | cons i ids ih =>
    rw [List.mem_cons,not_or] at hj
    have hexec : ((Manager.breakerWith id).exec d (failing i)).state = d.state.recordFailureWith id i (-1) 500 := rfl
    obtain ⟨hkeep,hnow⟩ := d.state.recordFailureWith_keeps Manager.pruner_id i (-1) 500
    have hent := Manager.entryOf_recordFailureWith id d.state (failureTarget_failing hcfg i) (.channel j)
    rw [if_neg (fun hc => hj.1 (Target.channel.inj hc)),id,ite_self] at hent
    rw [←hexec] at hkeep hnow hent
    obtain ⟨he,hc,hn⟩ := ih (d := (Manager.breakerWith id).exec d (failing i)) (hkeep.trans hcfg) hj.2
    exact ⟨he.trans hent,hc,hn.trans hnow⟩

/-- The third failure trips the channel if its entry is still there. A table that is full drops the entry on the
way, and the channel stays available. -/
theorem churn_forgets_failures : ¬SameAnswers
    (breakerSystem.run (configured defaultConfig.toBreakerConfig (10^18)) churn)
    ((Manager.breakerWith id).run (configured defaultConfig.toBreakerConfig (10^18)) churn) := by
  intro hsame
  set ids : List ℤ := (List.range 9999).map (fun i : ℕ => (i : ℤ)+1) with hids
  have hmem : ∀ j, j∈ids ↔ 1≤j ∧ j≤9999 := by
    intro j
    rw [hids,List.mem_map]
    constructor
    · rintro ⟨i,hi,rfl⟩
      rw [List.mem_range] at hi
      omega
    · intro hj
      exact ⟨(j-1).toNat,List.mem_range.mpr (by omega),by omega⟩
  have hnodup : ids.Nodup := List.nodup_range.map (fun i j hij => by
    have : (i : ℤ)+1 = j+1 := hij
    omega)
  have hlength : ids.length = 9999 := by
    rw [hids,List.length_map,List.length_range]
  set start := configured defaultConfig.toBreakerConfig (10^18) with hstart
  -- With pruning: the table fills up, the next new channel drops every entry, and the count begins again.
  have hpruned : (breakerSystem.run start churn).state.isAvailable 0 (-1) = true := by
    set d := breakerSystem.run start [failing 0,failing 0] with hd
    have hfilled : Filled 1 d.state := ⟨rfl,rfl,rfl⟩
    have hnone : ∀ i : ℤ, i≠0 → d.state.entryOf (.channel i) = none := by
      intro i hi
      apply AList.lookup_eq_none.mpr
      intro hmem
      have hkeys : (Target.channel i).cacheKey∈[(Target.channel 0).cacheKey] := hmem
      exact hi (Target.channel.inj (Target.cacheKey_injective (List.mem_singleton.mp hkeys)))
    obtain ⟨hfull,hkept⟩ := hfilled.fill ids hnodup (fun i hi => hnone i (by have := (hmem i).mp hi; omega))
      (by rw [hlength]; decide)
    set d' := breakerSystem.run d (ids.map failing) with hd'
    rw [hlength] at hfull
    have hlast : d'.state.entryOf (.channel 10000) = none := by
      rw [hkept 10000 (by rw [hmem]; omega)]
      exact hnone 10000 (by decide)
    have hprunes : d'.state.Prunes (.channel 10000) := ⟨hlast,by rw [hfull.size]; decide⟩
    have hzero : (d'.state.recordFailure 10000 (-1) 500).entryOf (.channel 0) = none := by
      rw [←Manager.recordFailureWith_prune,
        Manager.entryOf_recordFailureWith Manager.prune d'.state (failureTarget_failing hfull.cfg 10000),
        if_neg (by decide),if_pos hprunes,Manager.entryOf,Manager.peek_prune,hfull.now,←Manager.entryOf,
        hkept 0 (by rw [hmem]; omega)]
      decide
    have hcfg := (d'.state.cfg_recordFailure 10000 (-1) 500).trans hfull.cfg
    have hlast2 : ∀ c : Config Manager BreakerEvent, (breakerSystem.run c [failing 10000,failing 0]).state =
        (c.state.recordFailure 10000 (-1) 500).recordFailure 0 (-1) 500 := fun _ => rfl
    have hsplit : churn = [failing 0,failing 0]++(ids.map failing++[failing 10000,failing 0]) := by
      rw [churn,List.map_append,List.append_assoc]
      rfl
    have hrun : (breakerSystem.run start churn).state =
        (d'.state.recordFailure 10000 (-1) 500).recordFailure 0 (-1) 500 := by
      rw [hsplit,run_append,run_append,hlast2]
    have hnow := (d'.state.now_recordFailure 10000 (-1) 500).trans hfull.now
    rw [hrun]
    generalize d'.state.recordFailure 10000 (-1) 500 = m at hzero hcfg hnow
    have htarget : targetOf 0 (-1) = .channel 0 := rfl
    rw [Manager.isAvailable_eq,m.cfg_recordFailure,m.now_recordFailure,←Manager.recordFailureWith_prune,
      Manager.tracked_recordFailureWith Manager.prune m (failureTarget_failing hcfg 0),hcfg,hnow,htarget,if_pos rfl,
      Manager.tracked_of_none hzero]
    decide
  -- Without: the first two failures are still counted.
  have hunpruned : ((Manager.breakerWith id).run start churn).state.isAvailable 0 (-1) = false := by
    set d := (Manager.breakerWith id).run start [failing 0,failing 0] with hd
    have hnot : 0∉ids++[10000] := by
      rw [List.mem_append,not_or,hmem]
      exact ⟨by omega,by decide⟩
    obtain ⟨hent,hcfg,hnow⟩ := entryOf_unpruned (d := d) rfl (ids++[10000]) hnot
    have hlast : ∀ c : Config Manager BreakerEvent, ((Manager.breakerWith id).run c [failing 0]).state =
        c.state.recordFailureWith id 0 (-1) 500 := fun _ => rfl
    have hrun : ((Manager.breakerWith id).run start churn).state =
        (((Manager.breakerWith id).run d ((ids++[10000]).map failing)).state).recordFailureWith id 0 (-1) 500 := by
      rw [churn,run_append,run_append,hlast]
    rw [hrun]
    generalize ((Manager.breakerWith id).run d ((ids++[10000]).map failing)).state = m at hent hcfg hnow
    have htarget : targetOf 0 (-1) = .channel 0 := rfl
    obtain ⟨hkeep,hkeep'⟩ := m.recordFailureWith_keeps Manager.pruner_id 0 (-1) 500
    rw [Manager.isAvailable_eq,hkeep,hkeep',Manager.tracked_recordFailureWith id m (failureTarget_failing hcfg 0),hcfg,
      hnow,htarget,if_pos rfl,Manager.tracked,hent]
    decide
  have hanswer := (hsame.available 0 (-1)).symm.trans hpruned
  exact Bool.false_ne_true (hunpruned.symm.trans hanswer)

end Churn

end RouteHealth
end Tierflow
