import Tierflow.RouteHealth.Steps

/-! When an entry trips, what the queries say of it, and whom an operation concerns. The counter of a
closed entry never exceeds the failures that the history holds since its window began, so a trip has
that many failures behind it. -/
namespace Tierflow
namespace RouteHealth
open TxSystem

/-! ## Queries -/

lemma stateOf_eq (m : Manager) (ch k : ℤ) : m.stateOf ch k = match m.entryOf (targetOf ch k) with
    | none => .stateClosed
    | some e => e.stateAt m.now := by
  rw [Manager.entryOf,Target.cacheKey_targetOf]
  rfl

lemma stateAt_eq_closed_iff {e : BreakerEntry} {now : ℕ} : e.stateAt now = .stateClosed ↔ e.state = .stateClosed := by
  unfold BreakerEntry.stateAt
  split_ifs with h
  · rw [h.1]
    exact iff_of_false (by decide) (by decide)
  · exact Iff.rfl

lemma stateAt_eq_open_iff {e : BreakerEntry} {now : ℕ} :
    e.stateAt now = .stateOpen ↔ e.state = .stateOpen ∧ now<e.openUntil := by
  unfold BreakerEntry.stateAt
  split_ifs with h
  · exact iff_of_false (by decide) (fun hc => absurd hc.2 (not_lt.mpr h.2))
  · constructor
    · intro ho
      exact ⟨ho,by simpa [ho] using h⟩
    · exact fun ho => ho.1

lemma availableAt_iff {e : BreakerEntry} {now : ℕ} : e.availableAt now = true ↔ e.stateAt now≠.stateOpen := by
  rw [Ne,stateAt_eq_open_iff]
  rcases e.state_cases with hc | ho
  · simp [BreakerEntry.availableAt,hc]
  · simp [BreakerEntry.availableAt,ho]

/-- The queries about one target agree, and the snapshot lists every target that is not closed, with
the state that the queries give. -/
structure QueriesAgree (m : Manager) : Prop where
  available : ∀ ch k, m.isAvailable ch k = true ↔ m.stateOf ch k≠.stateOpen
  listed : ∀ s∈m.snapshot, m.stateOf s.channelId s.keyIndex = s.state
  lists : ∀ ch k, m.stateOf ch k≠.stateClosed →
    ∃ s∈m.snapshot, s.channelId = ch ∧ s.keyIndex = (if 0≤k then k else -1) ∧ s.state = m.stateOf ch k

/-- Open entries have tripped, closed ones have not yet counted enough failures. -/
structure CountsSound (m : Manager) : Prop where
  opened : ∀ s∈m.snapshot, s.state≠.stateClosed → 1 ≤ s.tripCount
  closed : ∀ s∈m.snapshot, s.state = .stateClosed → (s.recentFailures : ℤ) < m.cfg.failureThreshold

lemma mem_snapshot {m : Manager} (hm : Sound m) {s : SnapshotEntry} (hs : s∈m.snapshot) :
    ∃ t e, m.entryOf t = some e ∧ s.channelId = t.channelId ∧ s.keyIndex = t.keyIndex ∧
      s.state = e.stateAt m.now ∧ s.recentFailures = e.failCount ∧ s.tripCount = e.tripCount := by
  obtain ⟨⟨k,e⟩,hr,rfl⟩ := List.mem_map.mp hs
  have hp : m.peek k = some e := AList.mem_lookup_iff.mpr hr
  obtain ⟨t,rfl⟩ := hm.keyed k e hp
  have hfor := (hm.entry t e hp).isFor
  exact ⟨t,e,hp,hfor.2.1,hfor.2.2,rfl,rfl,rfl⟩

lemma snapshot_of_entry {m : Manager} (hm : Sound m) {t : Target} {e : BreakerEntry} (he : m.entryOf t = some e) :
    ∃ s∈m.snapshot, s.channelId = t.channelId ∧ s.keyIndex = t.keyIndex ∧ s.state = e.stateAt m.now := by
  have hr : (⟨t.cacheKey,e⟩ : Sigma fun _ : String => BreakerEntry)∈m.entries.entries :=
    AList.mem_lookup_iff.mp he
  have hfor := (hm.entry t e he).isFor
  exact ⟨_,List.mem_map_of_mem hr,hfor.2.1,hfor.2.2,rfl⟩

lemma isAvailable_iff {m : Manager} (hm : Sound m) (ch k : ℤ) :
    m.isAvailable ch k = true ↔ m.stateOf ch k≠.stateOpen := by
  rw [stateOf_eq]
  cases he : m.entryOf (targetOf ch k) with
  | none =>
    rw [isAvailable_of_no_entry he m.now]
    simp
  | some e =>
    rw [←availableAt_iff]
    exact (congrArg (· = true) (isAvailable_of_entry hm he m.now)).to_iff

lemma queriesAgree {m : Manager} (hm : Sound m) : QueriesAgree m where
  available := isAvailable_iff hm
  listed := by
    intro s hs
    obtain ⟨t,e,he,hc,hk,hst,-⟩ := mem_snapshot hm hs
    rw [stateOf_eq,hc,hk,Target.targetOf_self,he,hst]
  lists := by
    intro ch k hne
    rw [stateOf_eq] at hne ⊢
    cases he : m.entryOf (targetOf ch k) with
    | none =>
      rw [he] at hne
      contradiction
    | some e =>
      obtain ⟨s,hs,hc,hk,hst⟩ := snapshot_of_entry hm he
      exact ⟨s,hs,hc.trans (Target.channelId_targetOf ch k),hk.trans (Target.keyIndex_targetOf ch k),hst⟩

lemma countsSound {m : Manager} (hm : Sound m) : CountsSound m := by
  constructor
  · intro s hs hne
    obtain ⟨t,e,he,_,_,hst,_,hn⟩ := mem_snapshot hm hs
    rw [hst,Ne,stateAt_eq_closed_iff] at hne
    rw [hn]
    exact (hm.entry t e he).opened (e.state_cases.resolve_left hne)
  · intro s hs hc
    obtain ⟨t,e,he,_,_,hst,hf,-⟩ := mem_snapshot hm hs
    rw [hst,stateAt_eq_closed_iff] at hc
    rw [hf]
    exact (hm.entry t e he).closed hc

/-! ## Counted failures -/

/-- The failures counted by a closed entry are in the history, at or after the start of its window. -/
structure CountKnown (now : ℕ) (o : Option BreakerEntry) (times : List ℕ) : Prop where
  past : ∀ τ∈times, τ≤now
  start : ∀ e∈o, e.windowStart≤now
  count : ∀ e∈o, e.state = .stateClosed → e.failCount≤times.countP (fun τ : ℕ => e.windowStart≤τ)

/-- The failures at most a window back. -/
def recentFailures (cfg : ActiveConfig) (now : ℕ) (times : List ℕ) : ℕ :=
  times.countP (fun τ => τ≤now ∧ (now : ℤ)≤τ+cfg.windowSeconds*second)

lemma windowNs_le (cfg : ActiveConfig) : wrap64 (cfg.windowSeconds*second) ≤ cfg.windowSeconds*second := by
  have := cfg.one_le_window
  unfold wrap64 second
  omega

lemma recentFailures_now (cfg : ActiveConfig) (now : ℕ) (times : List ℕ) :
    recentFailures cfg now (now::times) = recentFailures cfg now times+1 := by
  have hw := cfg.one_le_window
  unfold recentFailures
  rw [List.countP_cons_of_pos]
  have hs : 0 ≤ cfg.windowSeconds*second := by
    unfold second
    omega
  simp [hs]

/-- Unless the window starts anew, everything that was counted is recent. -/
lemma CountKnown.recent {now : ℕ} {e : BreakerEntry} {times : List ℕ} (cfg : ActiveConfig)
    (h : CountKnown now (some e) times) (hc : e.state = .stateClosed) :
    (if e.restarts cfg now then 0 else e.failCount) ≤ recentFailures cfg now times := by
  by_cases hr : e.restarts cfg now = true
  · rw [if_pos hr]
    exact Nat.zero_le _
  · rw [if_neg hr]
    refine (h.count e rfl hc).trans (List.countP_mono_left ?_)
    intro τ hτ hs
    have hpast := h.past τ hτ
    have hstart : e.windowStart≤τ := of_decide_eq_true hs
    have hw := windowNs_le cfg
    have hwin : ¬(e.windowStart = 0 ∨ wrap64 (cfg.windowSeconds*second)<now-e.windowStart) := by
      intro hc
      exact hr (decide_eq_true hc)
    push Not at hwin
    apply decide_eq_true
    exact ⟨hpast,by omega⟩

lemma windowStart_recordFailure_le {e : BreakerEntry} {cfg : ActiveConfig} {now : ℕ} (h : e.windowStart≤now) :
    (e.recordFailure cfg now).windowStart≤now := by
  unfold BreakerEntry.recordFailure
  simp only
  split_ifs <;> first | exact h | exact le_rfl

lemma windowStart_recordSuccess_le {e : BreakerEntry} {now : ℕ} (h : e.windowStart≤now) :
    (e.recordSuccess now).windowStart≤now := by
  unfold BreakerEntry.recordSuccess
  split_ifs
  · exact h
  · exact Int.natCast_nonneg now

lemma CountKnown.fresh {now : ℕ} {times : List ℕ} (hp : ∀ τ∈times, τ≤now) (s : Scope) (c i : ℤ) :
    CountKnown now (some (.fresh s c i)) times where
  past := hp
  start := by
    intro e he
    obtain rfl := Option.some.inj he
    exact Int.natCast_nonneg now
  count := by
    intro e he _
    obtain rfl := Option.some.inj he
    exact Nat.zero_le _

lemma CountKnown.recordFailure {cfg : ActiveConfig} {now : ℕ} {e : BreakerEntry} {times : List ℕ}
    (h : CountKnown now (some e) times) :
    CountKnown now (some (e.recordFailure cfg now)) (now::times) := by
  have hpast : ∀ τ∈now::times, τ≤now := by
    intro τ hτ
    rcases List.mem_cons.mp hτ with rfl | hτ
    · exact le_rfl
    · exact h.past τ hτ
  refine ⟨hpast,?_,?_⟩
  · intro e' he
    obtain rfl := Option.some.inj he
    exact windowStart_recordFailure_le (h.start e rfl)
  · intro e' he hs
    obtain rfl := Option.some.inj he
    have ho := failureOutcome e cfg now
    generalize e.recordFailure cfg now = e' at ho hs
    cases ho with
    | ignored hc _ => rw [hc.1] at hs; contradiction
    | probeFailed _ _ ho => rw [ho] at hs; contradiction
    | tripped _ _ _ ho => rw [ho] at hs; contradiction
    | counted hc _ _ _ hn hw =>
      by_cases hr : e.restarts cfg now = true
      · rw [if_pos hr] at hn hw
        rw [hn,hw,List.countP_cons_of_pos (by simp)]
        omega
      · rw [if_neg hr] at hn hw
        have hstart := h.start e rfl
        rw [hn,hw,List.countP_cons_of_pos (by simpa using hstart)]
        have hcount := h.count e rfl hc
        omega

lemma CountKnown.recordSuccess {now : ℕ} {o : Option BreakerEntry} {times : List ℕ}
    (h : CountKnown now o times) : CountKnown now (o.map (fun e => e.recordSuccess now)) [] := by
  refine ⟨fun _ hτ => absurd hτ List.not_mem_nil,?_,?_⟩
  · intro e' he
    obtain ⟨e,ho,rfl⟩ := Option.map_eq_some_iff.mp he
    exact windowStart_recordSuccess_le (h.start e ho)
  · intro e' he hs
    obtain ⟨e,ho,rfl⟩ := Option.map_eq_some_iff.mp he
    by_cases hc : e.Cooling now
    · rw [BreakerEntry.recordSuccess_of_cooling hc,hc.1] at hs
      contradiction
    · rw [(BreakerEntry.recordSuccess_of_not_cooling hc).2]
      exact Nat.zero_le _

lemma CountKnown.mono {now now' : ℕ} {o : Option BreakerEntry} {times : List ℕ} (hn : now≤now')
    (h : CountKnown now o times) : CountKnown now' o times where
  past := fun τ hτ => (h.past τ hτ).trans hn
  start := fun e he => (h.start e he).trans (Int.ofNat_le.mpr hn)
  count := h.count

/-- What is tracked of a target whose history is known, a fresh entry included. -/
lemma CountKnown.tracked {m : Manager} {t : Target} {times : List ℕ}
    (h : CountKnown m.now (m.entryOf t) times) : CountKnown m.now (some (m.tracked t)) times := by
  unfold Manager.tracked
  cases he : m.entryOf t with
  | none => exact .fresh h.past t.scope t.channelId t.keyIndex
  | some e =>
    rw [he] at h
    exact h

lemma TargetStep.countKnown {m : Manager} {h h' : List BreakerEvent} {t : Target} {o : Option BreakerEntry}
    (hs : TargetStep m h t o h') (hm : CountKnown m.now (m.entryOf t) (streak t h)) :
    CountKnown m.now o (streak t h') := by
  cases hs with
  | same _ hstreak => rwa [hstreak]
  | dropped _ _ _ hstreak =>
    rw [hstreak]
    exact ⟨hm.past,(fun _ he => nomatch he),(fun _ he => nomatch he)⟩
  | failed _ _ _ hstreak =>
    rw [hstreak]
    exact hm.tracked.recordFailure
  | succeeded _ hstreak =>
    rw [hstreak]
    exact hm.recordSuccess

def CountsKnown (c : Config Manager BreakerEvent) : Prop :=
  ∀ t, CountKnown c.state.now (c.state.entryOf t) (streak t c.history)

lemma countsKnown_step {c : Config Manager BreakerEvent} {op : BreakerOp} {m : Manager}
    {es : List BreakerEvent} (hc : CountsKnown c) (h : breakerSystem.step c.state op = some (m,es)) :
    CountsKnown ⟨m,es++c.history⟩ := by
  obtain ⟨rfl,rfl⟩ := Prod.mk.inj (Option.some.inj h)
  intro t
  cases op with
  | recordFailure ch k code =>
    have hs := (targetStep_recordFailure c.state c.history t ch k code).countKnown (hc t)
    rwa [←c.state.now_recordFailure ch k code] at hs
  | recordSuccess ch k =>
    have hs := (targetStep_recordSuccess c.state c.history t ch k).countKnown (hc t)
    rwa [←(c.state.recordSuccess_spec ch k).2.1] at hs
  | reset =>
    exact ⟨(fun _ hτ => absurd hτ List.not_mem_nil),(fun _ he => nomatch he),(fun _ he => nomatch he)⟩
  | elapse d => exact (hc t).mono (Nat.le_add_right _ _)

/-! ## Trips -/

/-- A closed target stops being closed only when enough failures were recorded for it, none of them
more than a window ago and no success since. -/
def TripsEarned (c d : Config Manager BreakerEvent) : Prop :=
  ∀ ch k, c.state.stateOf ch k = .stateClosed → d.state.stateOf ch k≠.stateClosed →
    d.state.cfg.failureThreshold ≤ recentFailures d.state.cfg d.state.now (streak (targetOf ch k) d.history)

lemma TargetStep.earned {m : Manager} {h h' : List BreakerEvent} {t : Target} {o : Option BreakerEntry}
    (hs : TargetStep m h t o h') (hm : CountKnown m.now (m.entryOf t) (streak t h))
    (hbefore : ∀ e∈m.entryOf t, e.state = .stateClosed) (hafter : ∃ e∈o, e.state≠.stateClosed) :
    m.cfg.failureThreshold ≤ recentFailures m.cfg m.now (streak t h') := by
  obtain ⟨e,he,hne⟩ := hafter
  cases hs with
  | same => exact absurd (hbefore e he) hne
  | dropped => contradiction
  | failed _ _ _ hstreak =>
    have hc : (m.tracked t).state = .stateClosed := by
      unfold Manager.tracked
      cases ho : m.entryOf t with
      | none => rfl
      | some e => exact hbefore e ho
    obtain rfl := Option.some.inj he
    have ho := failureOutcome (m.tracked t) m.cfg m.now
    generalize (m.tracked t).recordFailure m.cfg m.now = e' at ho hne
    cases ho with
    | ignored hcool _ => rw [hcool.1] at hc; contradiction
    | probeFailed hopen => rw [hopen] at hc; contradiction
    | tripped _ _ hf =>
      have hr := hm.tracked.recent m.cfg hc
      rw [hstreak,recentFailures_now]
      push_cast
      omega
    | counted _ _ hcl => exact absurd hcl hne
  | succeeded =>
    obtain ⟨e',he',rfl⟩ := Option.map_eq_some_iff.mp he
    have hcl := hbefore e' he'
    have hcool : ¬e'.Cooling m.now := by
      intro hc
      rw [hc.1] at hcl
      contradiction
    exact absurd (BreakerEntry.recordSuccess_of_not_cooling hcool).1 hne

lemma stateOf_closed_iff (m : Manager) (ch k : ℤ) :
    m.stateOf ch k = .stateClosed ↔ ∀ e∈m.entryOf (targetOf ch k), e.state = .stateClosed := by
  rw [stateOf_eq]
  cases m.entryOf (targetOf ch k) with
  | none => exact iff_of_true rfl (fun _ he => nomatch he)
  | some e =>
    rw [stateAt_eq_closed_iff]
    simp

lemma earned_of_step {m m' : Manager} {h h' : List BreakerEvent} {ch k : ℤ}
    (hs : TargetStep m h (targetOf ch k) (m'.entryOf (targetOf ch k)) h')
    (hm : CountKnown m.now (m.entryOf (targetOf ch k)) (streak (targetOf ch k) h))
    (hcl : m.stateOf ch k = .stateClosed) (hne : m'.stateOf ch k≠.stateClosed) :
    m.cfg.failureThreshold ≤ recentFailures m.cfg m.now (streak (targetOf ch k) h') := by
  apply hs.earned hm ((stateOf_closed_iff m ch k).mp hcl)
  rw [Ne,stateOf_closed_iff] at hne
  push Not at hne
  exact hne

lemma tripsEarned_step {c : Config Manager BreakerEvent} {op : BreakerOp} {m : Manager}
    {es : List BreakerEvent} (hc : CountsKnown c) (h : breakerSystem.step c.state op = some (m,es)) :
    TripsEarned c ⟨m,es++c.history⟩ := by
  obtain ⟨rfl,rfl⟩ := Prod.mk.inj (Option.some.inj h)
  intro ch k hcl hne
  cases op with
  | recordFailure ch' k' code =>
    have he := earned_of_step (targetStep_recordFailure c.state c.history _ ch' k' code) (hc _) hcl hne
    simpa only [Manager.cfg_recordFailure,Manager.now_recordFailure] using he
  | recordSuccess ch' k' =>
    have he := earned_of_step (targetStep_recordSuccess c.state c.history _ ch' k') (hc _) hcl hne
    simpa only [(c.state.recordSuccess_spec ch' k').1,(c.state.recordSuccess_spec ch' k').2.1] using he
  | reset =>
    refine absurd ((stateOf_closed_iff _ ch k).mpr ?_) hne
    exact fun _ he => nomatch he
  | elapse d =>
    rw [stateOf_closed_iff] at hcl
    exact absurd ((stateOf_closed_iff { c.state with now := c.state.now+d } ch k).mpr hcl) hne

/-! ## Isolation -/

/-- A report concerns the target it names and the channel of that target; a reset and the passing of
time concern everything. -/
def BreakerOp.Concerns (op : BreakerOp) (t : Target) : Prop :=
  match op with
  | .recordFailure ch k _ | .recordSuccess ch k => t = targetOf ch k ∨ t = .channel ch
  | .reset | .elapse _ => True

/-- Everything that can be asked about a target. -/
def answers (m : Manager) (ch k : ℤ) : BreakerState × Bool × ℤ :=
  (m.stateOf ch k,m.isAvailable ch k,m.cooldownRemainingSeconds ch k)

def Isolated (c : Config Manager BreakerEvent) (op : BreakerOp) (d : Config Manager BreakerEvent) : Prop :=
  ∀ ch k, ¬op.Concerns (targetOf ch k) → answers d.state ch k = answers c.state ch k

/-- A closed entry that is dropped answers as before. -/
lemma answers_kept {m m' : Manager} {ch k : ℤ} (hcfg : m'.cfg = m.cfg) (hnow : m'.now = m.now)
    (hk : Manager.Kept m m' (targetOf ch k).cacheKey) : answers m' ch k = answers m ch k := by
  rw [Target.cacheKey_targetOf] at hk
  unfold answers Manager.stateOf Manager.isAvailable Manager.cooldownRemainingSeconds
  rcases hk with hk | ⟨e,he,hc,hk⟩
  · simp only [hk,hcfg,hnow]
  · have hst : e.stateAt m.now = .stateClosed := stateAt_eq_closed_iff.mpr hc
    have hav : e.availableAt m.now = true := availableAt_iff.mpr (by rw [hst]; decide)
    have hopen : e.state≠.stateOpen ∨ e.openUntil ≤ m.now := .inl (by rw [hc]; decide)
    simp only [hk,he,hcfg,hst,hav,if_pos hopen]

lemma isolated_step {c : Config Manager BreakerEvent} {op : BreakerOp} {m : Manager}
    {es : List BreakerEvent} (h : breakerSystem.step c.state op = some (m,es)) :
    Isolated c op ⟨m,es++c.history⟩ := by
  obtain ⟨rfl,rfl⟩ := Prod.mk.inj (Option.some.inj h)
  intro ch k hno
  cases op with
  | recordFailure ch' k' code =>
    apply answers_kept (c.state.cfg_recordFailure ch' k' code) (c.state.now_recordFailure ch' k' code)
    rw [Manager.recordFailure_eq]
    cases hf : c.state.failureTarget ch' k' code with
    | none => exact .inl rfl
    | some t =>
      apply c.state.peek_recordFailureAt_ne t
      intro hkey
      have ht := Target.cacheKey_injective hkey
      exact hno (by rw [ht]; exact (Manager.failureTarget_eq_some hf).2.2)
  | recordSuccess ch' k' =>
    have hspec := c.state.recordSuccess_spec ch' k'
    apply answers_kept hspec.1 hspec.2.1
    have hnot : targetOf ch k∉c.state.successTargets ch' k' := fun ht => hno (Manager.mem_successTargets ht)
    have hent := c.state.entryOf_recordSuccess ch' k' (targetOf ch k)
    rw [if_neg hnot] at hent
    exact .inl hent
  | reset => exact absurd trivial hno
  | elapse d => exact absurd trivial hno

/-- In every run trips are earned, the counters stay in their bounds, the queries agree, and reports
about one target change nothing for any other, its channel apart. -/
theorem breaker_sound (c : BreakerConfig) (now : ℕ) (ops : List BreakerOp) :
    breakerSystem.Always (fun d => CountsSound d.state ∧ QueriesAgree d.state) (configured c now) ops ∧
      breakerSystem.Transitions (fun d op d' => TripsEarned d d' ∧ Isolated d op d') (configured c now) ops := by
  have hsound := always_sound c now ops
  have hcounts : breakerSystem.Always CountsKnown (configured c now) ops := by
    apply always_of_step
    · exact fun _ =>
        ⟨(fun _ hτ => absurd hτ List.not_mem_nil),(fun _ he => nomatch he),(fun _ he => nomatch he)⟩
    · exact fun _ _ _ _ hd hs => countsKnown_step hd hs
  constructor
  · exact hsound.mono (fun d hd => ⟨countsSound hd,queriesAgree hd⟩)
  · apply transitions_of_step hcounts
    · intro d op _ hnone
      exact nomatch hnone
    · exact fun d op m es hd hs => ⟨tripsEarned_step hd hs,isolated_step hs⟩

/-- A success of a key closes the channel's own entry too: reports about one key do change what is
answered about another. -/
theorem keySuccess_closes_channel :
    ¬∀ (ops : List BreakerOp) (ch k ch' k' : ℤ), targetOf ch k≠targetOf ch' k' →
      let m := (breakerSystem.run (configured defaultConfig.toBreakerConfig (10^18)) ops).state
      (m.recordSuccess ch k).stateOf ch' k' = m.stateOf ch' k' := by
  intro h
  have ht : targetOf 1 0≠targetOf 1 (-1) := by decide
  have hsame := h [.recordFailure 1 (-1) 500,.recordFailure 1 (-1) 500,.recordFailure 1 (-1) 500,
    .elapse (30*10^9)] 1 0 1 (-1) ht
  revert hsame
  decide

end RouteHealth
end Tierflow
