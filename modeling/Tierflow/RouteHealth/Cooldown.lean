import Tierflow.RouteHealth.Steps

/-! The cooling times of whole chains of trips. A chain is known by the times of its trips; the entry
holds the clock reading at which it is available again. That reading is a machine integer, so it is
the right one as long as trip time and cooling time together fit. -/
namespace Tierflow
namespace RouteHealth
open TxSystem

/-- The cooling time that is due at a trip: doubled at each consecutive trip, up to the maximum. -/
def coolingSeconds (cfg : ActiveConfig) (trips : ℕ) : ℤ :=
  min (cfg.cooldownSeconds*2^(trips-1)) cfg.maxCooldownSecs

lemma coolingSeconds_le (cfg : ActiveConfig) (n : ℕ) : coolingSeconds cfg n ≤ cfg.maxCooldownSecs :=
  min_le_right _ _

lemma coolingSeconds_pos (cfg : ActiveConfig) (n : ℕ) : 0 < coolingSeconds cfg n := by
  have h1 := cfg.one_le_cooldown
  have h2 := cfg.cooldown_le_max
  apply lt_min
  · have h : (0 : ℤ)<2^(n-1) := by positivity
    nlinarith
  · omega

/-- The loop doubles up to the maximum unless the result is out of the machine's reach. -/
lemma backoffLoop_eq {maxSecs : ℤ} (n : ℕ) {secs : ℤ} (h0 : 0 < secs) (hm : secs ≤ maxSecs)
    (hfit : min (secs*2^n) maxSecs<2^62) : backoffLoop maxSecs n secs = min (secs*2^n) maxSecs := by
  induction n generalizing secs with
  | zero => simpa [backoffLoop] using hm
  | succ n ih =>
    have hpow : (1 : ℤ)≤2^n := one_le_pow₀ (by norm_num)
    have hgrow : secs*2 ≤ secs*2^(n+1) := by
      rw [pow_succ]
      nlinarith
    have hsmall : secs<2^62 := by
      have : secs ≤ min (secs*2^(n+1)) maxSecs := le_min (by omega) hm
      omega
    have hexact : wrap64 (secs*2) = secs*2 := wrap64_of_range (by omega) (by omega)
    have hnext : secs*2*2^n = secs*2^(n+1) := by ring
    rw [backoffLoop,hexact]
    by_cases hc : maxSecs ≤ secs*2
    · simp only [hc,if_true]
      exact (min_eq_right (hc.trans hgrow)).symm
    · simp only [hc,if_false]
      rw [ih (by omega) (not_le.mp hc).le (by rw [hnext]; exact hfit),hnext]

lemma backoffNanos_eq {cfg : ActiveConfig} {n : ℕ} (h : coolingSeconds cfg n*second<2^63) :
    backoffNanos cfg n = coolingSeconds cfg n*second := by
  have h1 := cfg.one_le_cooldown
  have hpos := coolingSeconds_pos cfg n
  have hloop : backoffLoop cfg.maxCooldownSecs (n-1) cfg.cooldownSeconds = coolingSeconds cfg n := by
    apply backoffLoop_eq (n-1) (by omega) cfg.cooldown_le_max
    unfold second at h
    unfold coolingSeconds at h
    omega
  have hcap : ¬cfg.maxCooldownSecs < coolingSeconds cfg n := not_lt.mpr (coolingSeconds_le cfg n)
  unfold backoffNanos
  rw [hloop]
  simp only [hcap,if_false]
  unfold second at h ⊢
  exact wrap64_of_range (by omega) h

/-- The clock reading that a trip stores is the due one exactly when that one fits. -/
lemma openUntil_iff (cfg : ActiveConfig) (τ n : ℕ) :
    (∀ x : ℕ, wrap64 (τ+backoffNanos cfg n)≤x ↔ τ+coolingSeconds cfg n*second≤x) ↔
      τ+coolingSeconds cfg n*second<2^63 := by
  have hpos := coolingSeconds_pos cfg n
  constructor
  · intro h
    by_contra hlarge
    have hlt := wrap64_lt (τ+backoffNanos cfg n)
    have hx := (h (wrap64 (τ+backoffNanos cfg n)).toNat).mp (Int.self_le_toNat _)
    omega
  · intro h x
    have hfit : coolingSeconds cfg n*second<2^63 := by
      have : (0 : ℤ)≤τ := Int.natCast_nonneg τ
      omega
    have hs : 0 ≤ coolingSeconds cfg n*second := by
      unfold second
      omega
    rw [backoffNanos_eq hfit,wrap64_of_range (by omega) h]

/-! ## Chains of trips -/

/-- An open entry holds what its last trip stored, and no other target is in a chain of trips. -/
def ChainKnown (cfg : ActiveConfig) (o : Option BreakerEntry) (trips : List ℕ) : Prop :=
  match trips with
  | [] => ∀ e∈o, e.state = .stateClosed
  | τ::rest => ∃ e∈o, e.state = .stateOpen ∧ e.tripCount = rest.length+1 ∧
      e.openUntil = wrap64 (τ+backoffNanos cfg (rest.length+1))

lemma ChainKnown.closed {cfg : ActiveConfig} {e : BreakerEntry} {trips : List ℕ}
    (h : ChainKnown cfg (some e) trips) (hc : e.state = .stateClosed) : trips = [] := by
  cases trips with
  | nil => rfl
  | cons τ rest =>
    obtain ⟨e',he,ho,-⟩ := h
    obtain rfl := Option.some.inj he
    rw [hc] at ho
    contradiction

lemma ChainKnown.opened {cfg : ActiveConfig} {e : BreakerEntry} {trips : List ℕ}
    (h : ChainKnown cfg (some e) trips) (ho : e.state = .stateOpen) : e.tripCount = trips.length := by
  cases trips with
  | nil =>
    have hc := h e rfl
    rw [ho] at hc
    contradiction
  | cons τ rest =>
    obtain ⟨e',he,_,hn,-⟩ := h
    obtain rfl := Option.some.inj he
    exact hn

lemma ChainKnown.recordFailure {cfg : ActiveConfig} {e : BreakerEntry} {trips : List ℕ} (now : ℕ)
    (h : ChainKnown cfg (some e) trips) :
    ChainKnown cfg (some (e.recordFailure cfg now)) (if e.trips cfg now then now::trips else trips) := by
  have ho := failureOutcome e cfg now
  generalize e.recordFailure cfg now = e' at ho
  cases ho with
  | ignored _ ht => simpa [ht] using h
  | probeFailed hopen ht hs hn hu =>
    rw [if_pos ht]
    have hcount := h.opened hopen
    exact ⟨e',rfl,hs,by omega,by rw [hu,hcount]⟩
  | tripped hc ht _ hs hn hu =>
    rw [if_pos ht,h.closed hc]
    exact ⟨e',rfl,hs,hn,hu⟩
  | counted hc ht hs =>
    rw [if_neg (by simp [ht]),h.closed hc]
    intro e'' he
    obtain rfl := Option.some.inj he
    exact hs

lemma ChainKnown.recordSuccess {cfg : ActiveConfig} {o : Option BreakerEntry} {trips : List ℕ} (now : ℕ)
    (h : ChainKnown cfg o trips) : ChainKnown cfg (o.map (fun e => e.recordSuccess now))
      (if ∃ e∈o, ¬e.Cooling now then [] else trips) := by
  cases o with
  | none => simpa using h
  | some e =>
    by_cases hc : e.Cooling now
    · rw [if_neg (by simpa using hc),Option.map_some,BreakerEntry.recordSuccess_of_cooling hc]
      exact h
    · rw [if_pos ⟨e,rfl,hc⟩]
      intro e' he
      obtain rfl := Option.some.inj he
      exact (BreakerEntry.recordSuccess_of_not_cooling hc).1

lemma TargetStep.chainKnown {m : Manager} {h h' : List BreakerEvent} {t : Target} {o : Option BreakerEntry}
    (hs : TargetStep m h t o h') (hm : ChainKnown m.cfg (m.entryOf t) (tripTimes t h)) :
    ChainKnown m.cfg o (tripTimes t h') := by
  cases hs with
  | same ht => rwa [ht]
  | dropped he hc ht =>
    rw [he] at hm
    rw [ht,hm.closed hc]
    exact fun _ he => nomatch he
  | failed _ _ ht =>
    rw [ht]
    apply ChainKnown.recordFailure
    unfold Manager.tracked
    cases he : m.entryOf t with
    | none =>
      rw [he] at hm
      cases htr : tripTimes t h with
      | nil =>
        intro e he
        obtain rfl := Option.some.inj he
        rfl
      | cons τ rest =>
        rw [htr] at hm
        obtain ⟨e,he,-⟩ := hm
        contradiction
    | some e =>
      rw [he] at hm
      exact hm
  | succeeded ht =>
    rw [ht]
    exact hm.recordSuccess m.now

def ChainsKnown (c : Config Manager BreakerEvent) : Prop :=
  ∀ t, ChainKnown c.state.cfg (c.state.entryOf t) (tripTimes t c.history)

lemma chainsKnown_step {c : Config Manager BreakerEvent} {op : BreakerOp} {m : Manager}
    {es : List BreakerEvent} (hc : ChainsKnown c) (h : breakerSystem.step c.state op = some (m,es)) :
    ChainsKnown ⟨m,es++c.history⟩ := by
  obtain ⟨rfl,rfl⟩ := Prod.mk.inj (Option.some.inj h)
  intro t
  cases op with
  | recordFailure ch k code =>
    have hs := (targetStep_recordFailure c.state c.history t ch k code).chainKnown (hc t)
    rwa [←c.state.cfg_recordFailure ch k code] at hs
  | recordSuccess ch k =>
    have hs := (targetStep_recordSuccess c.state c.history t ch k).chainKnown (hc t)
    rwa [←(c.state.recordSuccess_spec ch k).1] at hs
  | reset => exact fun _ he => nomatch he
  | elapse d => exact hc t

/-- At every clock reading an entry is available or not as its trips demand: without a trip always;
after a trip not at once, again when the due cooling time is over, and at the latest when the
maximum is. -/
def NoWedge (c : Config Manager BreakerEvent) : Prop :=
  ∀ channelId keyIndex, match tripTimes (targetOf channelId keyIndex) c.history with
    | [] => ∀ x, { c.state with now := x }.isAvailable channelId keyIndex = true
    | τ::rest =>
      { c.state with now := τ }.isAvailable channelId keyIndex = false ∧
      (∀ x : ℕ, { c.state with now := x }.isAvailable channelId keyIndex = true ↔
        τ+coolingSeconds c.state.cfg (rest.length+1)*second≤x) ∧
      ∀ x : ℕ, τ+c.state.cfg.maxCooldownSecs*second≤x →
        { c.state with now := x }.isAvailable channelId keyIndex = true

/-- The clock reading at the end of the cooling time that is due at a trip is a machine integer. -/
def CoolingFits (cfg : ActiveConfig) : List ℕ → Prop
  | [] => True
  | τ::rest => τ+coolingSeconds cfg (rest.length+1)*second<2^63

lemma availableAt_of_open {e : BreakerEntry} (h : e.state = .stateOpen) (x : ℕ) :
    e.availableAt x = true ↔ e.openUntil≤x := by
  simp [BreakerEntry.availableAt,h]

/-- A target is never wedged exactly when the cooling time of its last trip fits. -/
lemma noWedge_iff {c : Config Manager BreakerEvent} (hm : Sound c.state) (hc : ChainsKnown c) :
    NoWedge c ↔ ∀ t, CoolingFits c.state.cfg (tripTimes t c.history) := by
  constructor
  · intro h t
    have ht := h t.channelId t.keyIndex
    have hk := hc t
    rw [Target.targetOf_self] at ht
    cases htr : tripTimes t c.history with
    | nil => trivial
    | cons τ rest =>
      rw [htr] at ht hk
      obtain ⟨e,he,ho,-,hu⟩ := hk
      apply (openUntil_iff c.state.cfg τ (rest.length+1)).mp
      intro x
      rw [←hu,←availableAt_of_open ho,←isAvailable_of_entry hm (by rw [Target.targetOf_self]; exact he) x]
      exact ht.2.1 x
  · intro h ch k
    have hf := h (targetOf ch k)
    have hk := hc (targetOf ch k)
    cases htr : tripTimes (targetOf ch k) c.history with
    | nil =>
      rw [htr] at hk
      intro x
      cases he : c.state.entryOf (targetOf ch k) with
      | none => exact isAvailable_of_no_entry he x
      | some e =>
        rw [isAvailable_of_entry hm he]
        simp [BreakerEntry.availableAt,hk e he]
    | cons τ rest =>
      rw [htr] at hk hf
      obtain ⟨e,he,ho,-,hu⟩ := hk
      have hiff : ∀ x : ℕ, { c.state with now := x }.isAvailable ch k = true ↔
          τ+coolingSeconds c.state.cfg (rest.length+1)*second≤x := by
        intro x
        rw [isAvailable_of_entry hm he,availableAt_of_open ho,hu]
        exact (openUntil_iff c.state.cfg τ (rest.length+1)).mpr hf x
      have hpos := coolingSeconds_pos c.state.cfg (rest.length+1)
      have hle := coolingSeconds_le c.state.cfg (rest.length+1)
      refine ⟨?_,hiff,?_⟩
      · rw [←Bool.not_eq_true,hiff τ]
        unfold second
        omega
      · intro x hx
        rw [hiff x]
        unfold second at hx ⊢
        omega

/-! ## Runs -/

/-- Every failure that trips an entry does so while the due cooling time still fits the clock. -/
def TripFits (c : Config Manager BreakerEvent) : BreakerOp → Prop
  | .recordFailure ch k code => ∀ t∈c.state.failureTarget ch k code,
      (c.state.tracked t).trips c.state.cfg c.state.now = true →
        c.state.now+coolingSeconds c.state.cfg ((tripTimes t c.history).length+1)*second<2^63
  | _ => True

instance (c : Config Manager BreakerEvent) (op : BreakerOp) : Decidable (TripFits c op) := by
  cases op <;> unfold TripFits <;> infer_instance

lemma coolingFits_exec_iff {c : Config Manager BreakerEvent} (op : BreakerOp)
    (hc : ∀ t, CoolingFits c.state.cfg (tripTimes t c.history)) :
    (∀ t, CoolingFits (breakerSystem.exec c op).state.cfg (tripTimes t (breakerSystem.exec c op).history)) ↔
      TripFits c op := by
  cases op with
  | recordFailure ch k code =>
    rw [exec_of_some (M := breakerSystem) (i := .recordFailure ch k code) rfl]
    simp only [c.state.cfg_recordFailure]
    cases hf : c.state.failureTarget ch k code with
    | none =>
      refine iff_of_true hc ?_
      intro t ht
      rw [hf] at ht
      contradiction
    | some s =>
      have htrips := fun t => tripTimes_failureEvents c.state t c.history s
      constructor
      · intro h t ht htrip
        rw [hf] at ht
        obtain rfl := Option.some.inj ht
        have hfit := h s
        rw [htrips s,if_pos ⟨rfl,htrip⟩] at hfit
        exact hfit
      · intro h t
        rw [htrips t]
        by_cases ht : s = t ∧ (c.state.tracked t).trips c.state.cfg c.state.now = true
        · obtain ⟨rfl,htrip⟩ := ht
          rw [if_pos ⟨rfl,htrip⟩]
          exact h s hf htrip
        · rw [if_neg ht]
          exact hc t
  | recordSuccess ch k =>
    rw [exec_of_some (M := breakerSystem) (i := .recordSuccess ch k) rfl]
    simp only [(c.state.recordSuccess_spec ch k).1]
    refine iff_of_true ?_ trivial
    intro t
    rw [tripTimes_successEvents]
    split_ifs
    · trivial
    · exact hc t
  | reset => exact iff_of_true (fun _ => trivial) trivial
  | elapse d => exact iff_of_true hc trivial

/-- For any values given to the configuration and any run: trips cool as long as they should, and no
longer, exactly in the runs in which no trip comes when its cooling time does not fit any more. -/
theorem no_wedge_iff (c : BreakerConfig) (now : ℕ) (ops : List BreakerOp) :
    breakerSystem.Always NoWedge (configured c now) ops ↔
      breakerSystem.Guarded TripFits (configured c now) ops := by
  have hsound := always_sound c now ops
  have hchains : breakerSystem.Always ChainsKnown (configured c now) ops :=
    always_of_step (fun _ _ he => nomatch he) (fun _ _ _ _ hd hs => chainsKnown_step hd hs) ops
  apply always_iff_guarded (hsound.and hchains)
  · exact (noWedge_iff hsound.head hchains.head).mpr (fun _ => trivial)
  · rintro d op ⟨hd,hk⟩ hq
    have hd' : Sound (breakerSystem.exec d op).state := sound_step hd rfl
    have hk' : ChainsKnown (breakerSystem.exec d op) := chainsKnown_step hk rfl
    rw [noWedge_iff hd' hk']
    exact coolingFits_exec_iff op ((noWedge_iff hd hk).mp hq)

/-- A configuration for which the cooling time in nanoseconds is out of the machine's reach. -/
def hugeCooldown : BreakerConfig where
  enabled := true
  keyLevelEnabled := true
  failureThreshold := 1
  windowSeconds := 60
  cooldownSeconds := 9223372037
  maxCooldownSecs := 9223372037
  tripStatusCodes := [⟨429,429⟩,⟨500,504⟩,⟨520,599⟩]

/-- The channel trips and is available at the same instant: it never cools. -/
theorem hugeCooldown_never_cools :
    ¬breakerSystem.Always NoWedge (configured hugeCooldown (10^18)) [.recordFailure 1 (-1) 500] := by
  intro h
  set c := breakerSystem.run (configured hugeCooldown (10^18)) [.recordFailure 1 (-1) 500] with hc
  have hl : NoWedge c := h.last
  have htrips : tripTimes (targetOf 1 (-1)) c.history = [10^18] := by
    rw [hc]
    decide
  have hopen : { c.state with now := 10^18 }.isAvailable 1 (-1) = true := by
    rw [hc]
    decide
  have hcool := hl 1 (-1)
  rw [htrips] at hcool
  rw [hcool.1] at hopen
  contradiction

end RouteHealth
end Tierflow
