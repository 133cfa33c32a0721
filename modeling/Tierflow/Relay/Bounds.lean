import Tierflow.Relay.Loop

/-! The relay loop ends within its attempts, whatever the upstreams answer and however the tables change
meanwhile. The retry counter is no measure for it, the attempts are; tried keys and counted rotations
are remembered for the whole request. -/
namespace Tierflow
namespace Relay
open Routing

/-- The multi-key channel and the key index of an attempt. -/
def Attempt.keyPair (a : Attempt) : Option (ℕ × ℕ) := a.key.map (fun i => (a.channelId,i))

def rotationsOn (id : ℕ) (trail : List Attempt) : ℕ :=
  trail.countP (fun a => a.rotation ∧ a.channelId = id)

/-- What holds of the trail of a request at any time. -/
structure Bounded (S : RelaySettings) (s : RelayState) : Prop where
  attempts : s.attempts = s.trail.length
  atMost : s.attempts≤(maxTotalAttempts S).toNat
  distinct : (s.trail.filterMap Attempt.keyPair).Nodup
  rotations : ∀ id, rotationsOn id s.trail≤S.routeKeyRotationMaxPerChannel.toNat

lemma Bounded.congr {S : RelaySettings} {s s' : RelayState} (h : Bounded S s) (ha : s'.attempts = s.attempts)
    (ht : s'.trail = s.trail) : Bounded S s' := by
  constructor
  · rw [ha,ht]
    exact h.attempts
  · rw [ha]
    exact h.atMost
  · rw [ht]
    exact h.distinct
  · rw [ht]
    exact h.rotations

/-- The rotation that the next attempt will be. -/
def RelayState.pending (s : RelayState) (id : ℕ) : ℕ := if s.stickyChannel.map Prod.fst = some id then 1 else 0

/-- What the loop remembers covers its trail. -/
structure Remembered (S : RelaySettings) (s : RelayState) : Prop where
  attempts : s.attempts = s.trail.length
  atMost : s.attempts≤(maxTotalAttempts S).toNat
  distinct : (s.trail.filterMap Attempt.keyPair).Nodup
  tried : ∀ k∈s.trail.filterMap Attempt.keyPair, k∈s.param.triedKeys
  counted : ∀ id, rotationsOn id s.trail+s.pending id ≤ s.param.keyRotationsUsed id
  used : ∀ id, s.param.keyRotationsUsed id≤S.routeKeyRotationMaxPerChannel.toNat

lemma Remembered.bounded {S : RelaySettings} {s : RelayState} (h : Remembered S s) : Bounded S s where
  attempts := h.attempts
  atMost := h.atMost
  distinct := h.distinct
  rotations := fun id => by
    have h1 := h.counted id
    have h2 := h.used id
    omega

/-- The state at the head of a pass. -/
structure Ready (S : RelaySettings) (s : RelayState) : Prop extends Remembered S s where
  first : s.ctx.channelMeta = false → s.trail = [] ∧ s.stickyChannel = none

/-! ## What the parts of a pass leave alone -/

/-- The tried keys and the counted rotations are as they were. -/
def SameMemory (p q : RetryParam) : Prop := q.triedKeys = p.triedKeys ∧ q.keyRotationsUsed = p.keyRotationsUsed

lemma SameMemory.trans {p q r : RetryParam} (h : SameMemory p q) (h' : SameMemory q r) : SameMemory p r :=
  ⟨h'.1.trans h.1,h'.2.trans h.2⟩

lemma sameMemory_increaseRetry (p : RetryParam) : SameMemory p p.increaseRetry := by
  unfold RetryParam.increaseRetry
  split_ifs <;> exact ⟨rfl,rfl⟩

/-- Only the trail and what is remembered of it matter. -/
lemma Remembered.congr {S : RelaySettings} {s s' : RelayState} (h : Remembered S s) (ha : s'.attempts = s.attempts)
    (ht : s'.trail = s.trail) (hp : SameMemory s.param s'.param) (hs : s'.stickyChannel = s.stickyChannel) :
    Remembered S s' := by
  constructor
  · rw [ha,ht]
    exact h.attempts
  · rw [ha]
    exact h.atMost
  · rw [ht]
    exact h.distinct
  · rw [ht,hp.1]
    exact h.tried
  · intro id
    rw [ht,hp.2,RelayState.pending,hs]
    exact h.counted id
  · rw [hp.2]
    exact h.used

lemma sameMemory_advance (w : Surroundings) (c : Context) (p : RetryParam) :
    SameMemory p (advanceModelGroupMemberForAttempt w c p) := by
  unfold advanceModelGroupMemberForAttempt
  split <;> exact ⟨rfl,rfl⟩

lemma sameMemory_prepare (w : Surroundings) (s : RelayState) : SameMemory s.param (prepare w s) := by
  unfold prepare
  split
  · exact ⟨rfl,rfl⟩
  · simp only
    split_ifs
    · exact SameMemory.trans ⟨rfl,rfl⟩ (sameMemory_advance w s.ctx _)
    · exact ⟨rfl,rfl⟩

lemma autoGroupLoop_keeps (S : RelaySettings) (w : Surroundings) (groups : List String) (started : Bool)
    (i : ℕ) (p : RetryParam) (c : Context) :
    SameMemory p (autoGroupLoop S w started i groups p c).2.1 ∧
      (autoGroupLoop S w started i groups p c).2.2.channelMeta = c.channelMeta := by
  induction groups generalizing started i p c with
  | nil => exact ⟨⟨rfl,rfl⟩,rfl⟩
  | cons g groups ih =>
    rw [autoGroupLoop]
    split
    · split_ifs <;> exact ⟨⟨rfl,rfl⟩,rfl⟩
    · have hrest := ih true (i+1) { p with retry := 0 } { c with autoGroupIndex := some (i+1) }
      exact ⟨SameMemory.trans ⟨rfl,rfl⟩ hrest.1,hrest.2⟩

lemma cacheGet_keeps (S : RelaySettings) (w : Surroundings) (p : RetryParam) (c : Context) :
    SameMemory p (cacheGetRandomSatisfiedChannel S w p c).2.1 ∧
      (cacheGetRandomSatisfiedChannel S w p c).2.2.channelMeta = c.channelMeta := by
  unfold cacheGetRandomSatisfiedChannel
  split_ifs
  · exact ⟨⟨rfl,rfl⟩,rfl⟩
  · exact autoGroupLoop_keeps S w _ false _ p c
  · split <;> exact ⟨⟨rfl,rfl⟩,rfl⟩

/-- The key put into the context was not tried on the channel before. -/
lemma setupContext_spec {w : Surroundings} {c c' : Context} {id : ℕ} {channel : Channel} {exclude : List ℕ}
    (h : setupContextForSelectedChannelExcluding w c id channel exclude = .ok c') :
    c'.channelMeta = c.channelMeta ∧ (c'.channelIsMultiKey = true → c'.channelMultiKeyIndex∉exclude) := by
  unfold setupContextForSelectedChannelExcluding at h
  simp only at h
  split at h
  · contradiction
  · rename_i index hk
    split_ifs at h with hm
    · obtain rfl := Except.ok.inj h
      refine ⟨rfl,fun _ => ?_⟩
      exact (Channel.mem_untriedKeys.mp (Channel.nextKey_untried hm hk)).2.1
    · obtain rfl := Except.ok.inj h
      exact ⟨rfl,fun hc => absurd hc Bool.false_ne_true⟩

lemma mem_triedKeysFor {p : RetryParam} {id i : ℕ} : i∈p.triedKeysFor id ↔ (id,i)∈p.triedKeys := by
  unfold RetryParam.triedKeysFor
  simp only [List.mem_map,List.mem_filter,decide_eq_true_eq]
  constructor
  · rintro ⟨⟨j,i⟩,⟨hm,rfl⟩,rfl⟩
    exact hm
  · exact fun h => ⟨(id,i),⟨h,rfl⟩,rfl⟩

/-- The channel of an attempt: the one in the context at first; later the sticky one, if there is
one, and in any case with a key that was not tried. -/
structure Chosen (p : RetryParam) (c : Context) (sticky : Option (ℕ × Channel)) (id : ℕ) (p' : RetryParam)
    (c' : Context) : Prop where
  memory : SameMemory p p'
  channelMeta : c'.channelMeta = c.channelMeta
  sticky : c.channelMeta = true → ∀ ch∈sticky, ch.1 = id
  untried : c.channelMeta = true → c'.channelIsMultiKey = true → (id,c'.channelMultiKeyIndex)∉p.triedKeys

lemma getChannel_spec {S : RelaySettings} {w : Surroundings} {p p' : RetryParam} {c c' : Context}
    {sticky : Option (ℕ × Channel)} {id : ℕ} (h : getChannel S w p c sticky = .ok (id,p',c')) :
    Chosen p c sticky id p' c' := by
  unfold getChannel at h
  cases hm : c.channelMeta with
  | false =>
    rw [hm] at h
    obtain ⟨rfl,h'⟩ := Prod.mk.inj (Except.ok.inj h)
    obtain ⟨rfl,rfl⟩ := Prod.mk.inj h'
    exact ⟨⟨rfl,rfl⟩,rfl,(fun ht => by simp [hm] at ht),(fun ht => by simp [hm] at ht)⟩
  | true =>
    simp only [hm,Bool.not_true,Bool.false_eq_true,if_false] at h
    cases sticky with
    | some ch =>
      obtain ⟨c2,hset,he⟩ := bind_eq_ok.mp h
      obtain ⟨rfl,h'⟩ := Prod.mk.inj (Except.ok.inj he)
      obtain ⟨rfl,rfl⟩ := Prod.mk.inj h'
      have hspec := setupContext_spec hset
      refine ⟨⟨rfl,rfl⟩,hspec.1,?_,?_⟩
      · intro _ ch' hch
        rw [Option.mem_some.mp hch]
      · exact fun _ hmulti hk => hspec.2 hmulti (mem_triedKeysFor.mpr hk)
    | none =>
      simp only at h
      have hkeeps := cacheGet_keeps S w p c
      revert h hkeeps
      generalize cacheGetRandomSatisfiedChannel S w p c = r
      obtain ⟨o,p2,c2⟩ := r
      intro h hkeeps
      cases o with
      | error e => contradiction
      | ok ch =>
        obtain ⟨c3,hset,he⟩ := bind_eq_ok.mp h
        obtain ⟨rfl,h'⟩ := Prod.mk.inj (Except.ok.inj he)
        obtain ⟨rfl,rfl⟩ := Prod.mk.inj h'
        have hspec := setupContext_spec hset
        refine ⟨hkeeps.1,hspec.1.trans hkeeps.2,?_,?_⟩
        · exact fun _ ch' hch => nomatch hch
        · intro _ hmulti hk
          apply hspec.2 hmulti
          rw [mem_triedKeysFor,hkeeps.1.1]
          exact hk

/-! ## One pass -/

/-- The state of a pass after its attempt was entered in the trail. -/
def attempted (s : RelayState) (id : ℕ) (p : RetryParam) (c : Context) : RelayState :=
  { s with
    param := if c.channelIsMultiKey then p.markKeyTried id (breakerKeyIndex c) else p
    ctx := c
    attempts := s.attempts+1
    trail := ⟨id,if c.channelIsMultiKey then some c.channelMultiKeyIndex else none,
      s.stickyChannel.isSome⟩::s.trail }

lemma triedKeys_attempted (p : RetryParam) (id : ℕ) (c : Context) :
    (if c.channelIsMultiKey then p.markKeyTried id (breakerKeyIndex c) else p).triedKeys =
      if c.channelIsMultiKey then (id,c.channelMultiKeyIndex)::p.triedKeys else p.triedKeys := by
  unfold RetryParam.markKeyTried breakerKeyIndex
  split_ifs with hm hneg
  · omega
  · simp
  · rfl

lemma keyRotationsUsed_attempted (p : RetryParam) (id : ℕ) (c : Context) :
    (if c.channelIsMultiKey then p.markKeyTried id (breakerKeyIndex c) else p).keyRotationsUsed =
      p.keyRotationsUsed := by
  unfold RetryParam.markKeyTried
  split_ifs <;> rfl

lemma rotationsOn_cons (a : Attempt) (trail : List Attempt) (id : ℕ) :
    rotationsOn id (a::trail) = rotationsOn id trail+if a.rotation ∧ a.channelId = id then 1 else 0 := by
  unfold rotationsOn
  rw [List.countP_cons]
  simp

/-- On the first attempt nothing was tried, and later the key is chosen among the untried ones. -/
lemma Ready.key_new {S : RelaySettings} {s : RelayState} {p p' : RetryParam} {c : Context} {id : ℕ} (h : Ready S s)
    (hp : SameMemory s.param p) (hc : Chosen p s.ctx s.stickyChannel id p' c) (hm : c.channelIsMultiKey = true) :
    (id,c.channelMultiKeyIndex)∉s.trail.filterMap Attempt.keyPair := by
  intro hk
  cases hmeta : s.ctx.channelMeta with
  | false =>
    rw [(h.first hmeta).1] at hk
    exact absurd hk List.not_mem_nil
  | true =>
    apply hc.untried hmeta hm
    rw [hp.1]
    exact h.tried _ hk

lemma Ready.sticky_id {S : RelaySettings} {s : RelayState} {p p' : RetryParam} {c : Context} {id : ℕ} (h : Ready S s)
    (hc : Chosen p s.ctx s.stickyChannel id p' c) (hs : s.stickyChannel.isSome = true) :
    s.stickyChannel.map Prod.fst = some id := by
  obtain ⟨ch,hch⟩ := Option.isSome_iff_exists.mp hs
  cases hmeta : s.ctx.channelMeta with
  | false =>
    rw [(h.first hmeta).2] at hch
    contradiction
  | true => rw [hch,Option.map_some,hc.sticky hmeta ch hch]

/-- An attempt uses up the pending rotation and enters a key that is new. -/
lemma Ready.attempt {S : RelaySettings} {s : RelayState} {p p' : RetryParam} {c : Context} {id : ℕ}
    (h : Ready S s) (hlt : (s.attempts : ℤ) < maxTotalAttempts S) (hp : SameMemory s.param p)
    (hc : Chosen p s.ctx s.stickyChannel id p' c) :
    Remembered S { attempted s id p' c with stickyChannel := none } := by
  have hmem : SameMemory s.param p' := hp.trans hc.memory
  have htried : (attempted s id p' c).param.triedKeys =
      if c.channelIsMultiKey then (id,c.channelMultiKeyIndex)::s.param.triedKeys else s.param.triedKeys := by
    unfold attempted
    rw [triedKeys_attempted,hmem.1]
  have hused : (attempted s id p' c).param.keyRotationsUsed = s.param.keyRotationsUsed := by
    unfold attempted
    rw [keyRotationsUsed_attempted,hmem.2]
  constructor
  · exact congrArg (· + 1) h.attempts
  · change s.attempts+1≤_
    omega
  · change ((_::s.trail).filterMap Attempt.keyPair).Nodup
    cases hm : c.channelIsMultiKey with
    | false => exact h.distinct
    | true => exact List.nodup_cons.mpr ⟨h.key_new hp hc hm,h.distinct⟩
  · intro k hk
    change k∈(attempted s id p' c).param.triedKeys
    rw [htried]
    cases hm : c.channelIsMultiKey with
    | false =>
      simp only [attempted,hm] at hk
      exact h.tried k hk
    | true =>
      simp only [attempted,hm] at hk
      rcases List.mem_cons.mp hk with rfl | hk
      · exact List.mem_cons_self
      · exact List.mem_cons_of_mem _ (h.tried k hk)
  · intro j
    change rotationsOn j (_::s.trail)+0≤(attempted s id p' c).param.keyRotationsUsed j
    rw [hused,rotationsOn_cons]
    have hcount := h.counted j
    unfold RelayState.pending at hcount
    by_cases hrotation : s.stickyChannel.isSome = true ∧ id = j
    · rw [if_pos (by rw [h.sticky_id hc hrotation.1,hrotation.2])] at hcount
      rw [if_pos hrotation]
      omega
    · rw [if_neg hrotation]
      omega
  · intro j
    change (attempted s id p' c).param.keyRotationsUsed j≤_
    rw [hused]
    exact h.used j

lemma rotateTo_eq_some {S : RelaySettings} {w : Surroundings} {s : RelayState} {id : ℕ} {e : RelayError}
    {ch : ℕ × Channel} (h : rotateTo S w s id e = some ch) :
    ch.1 = id ∧ (s.param.keyRotationsUsed id : ℤ)<S.routeKeyRotationMaxPerChannel := by
  unfold rotateTo at h
  split_ifs at h with hc
  split at h
  · split_ifs at h
    rw [←Option.some.inj h]
    exact ⟨rfl,hc.2.2.2.2.1⟩
  · contradiction

/-- A rotation is counted before it is made. -/
lemma Remembered.rotate {S : RelaySettings} {s : RelayState} {ch : ℕ × Channel} {p : RetryParam}
    (h : Remembered S { s with stickyChannel := none }) (htried : p.triedKeys = s.param.triedKeys)
    (hused : p.keyRotationsUsed = Function.update s.param.keyRotationsUsed ch.1 (s.param.keyRotationsUsed ch.1+1))
    (hless : (s.param.keyRotationsUsed ch.1 : ℤ)<S.routeKeyRotationMaxPerChannel) :
    Remembered S { s with param := p, stickyChannel := some ch } := by
  refine ⟨h.attempts,h.atMost,h.distinct,?_,?_,?_⟩
  · intro k hk
    rw [htried]
    exact h.tried k hk
  · intro j
    have hcount := h.counted j
    simp only [RelayState.pending,Option.map_some,hused,Option.some.injEq,Function.update_apply,
      Option.map_none,reduceCtorEq,if_false] at hcount ⊢
    by_cases hj : j = ch.1
    · subst hj
      simp only [if_true]
      omega
    · rw [if_neg (Ne.symm hj),if_neg hj]
      exact hcount
  · intro j
    have huse := h.used j
    simp only [hused,Function.update_apply]
    split_ifs with hj
    · omega
    · exact huse

/-- After a failure the request is ready for another attempt, or it ends. -/
lemma afterFailure_spec {S : RelaySettings} (w : Surroundings) {s : RelayState} (id : ℕ) (e : RelayError)
    (h : Remembered S { s with stickyChannel := none }) (hmeta : s.ctx.channelMeta = true) :
    (∀ s', afterFailure S w s id e = .next s' → Ready S s' ∧ s'.attempts = s.attempts) ∧
      ∀ s', afterFailure S w s id e = .done s' → Bounded S s' := by
  have hmeta' : s.ctx.channelMeta≠false := ne_of_eq_of_ne hmeta (by decide)
  unfold afterFailure
  cases hr : rotateTo S w s id e with
  | some ch =>
    obtain ⟨rfl,hless⟩ := rotateTo_eq_some hr
    constructor
    · intro s' hs
      obtain rfl := Pass.next.inj hs
      have hrotate := h.rotate (p := { s.param with
        keyRotationsUsed := Function.update s.param.keyRotationsUsed ch.1 (s.param.keyRotationsUsed ch.1+1)
        resetNextTry := true }) rfl rfl hless
      exact ⟨⟨hrotate.congr rfl rfl (sameMemory_increaseRetry _) rfl,fun hf => absurd hf hmeta'⟩,rfl⟩
    · intro s' hs
      contradiction
  | none =>
    simp only
    constructor
    · intro s' hs
      split_ifs at hs
      obtain rfl := Pass.next.inj hs
      exact ⟨⟨h.congr rfl rfl (sameMemory_increaseRetry _) rfl,fun hf => absurd hf hmeta'⟩,rfl⟩
    · intro s' hs
      split_ifs at hs
      obtain rfl := Pass.done.inj hs
      apply Remembered.bounded
      exact h.congr rfl rfl ⟨rfl,rfl⟩ rfl

/-- A pass that does not end the request uses up one more of the allowed attempts. -/
lemma relayPass_spec {S : RelaySettings} {w : Surroundings} {s : RelayState} (h : Ready S s) :
    (∀ s', relayPass S w s = .next s' → Ready S s' ∧
      (maxTotalAttempts S).toNat-s'.attempts<(maxTotalAttempts S).toNat-s.attempts) ∧
      ∀ s', relayPass S w s = .done s' → Bounded S s' := by
  have ends : ∀ {t : RelayState}, Bounded S t → (∀ s', Pass.done t = .next s' → Ready S s' ∧
      (maxTotalAttempts S).toNat-s'.attempts<(maxTotalAttempts S).toNat-s.attempts) ∧
      ∀ s', Pass.done t = .done s' → Bounded S s' := by
    intro t ht
    constructor
    · intro s' hs
      contradiction
    · intro s' hs
      rw [←Pass.done.inj hs]
      exact ht
  have hstop : Bounded S s := h.bounded
  unfold relayPass
  by_cases hr : s.param.retry≤S.retryTimes
  swap
  · rw [if_pos hr]
    exact ends hstop
  rw [if_neg (not_not.mpr hr)]
  by_cases hm : maxTotalAttempts S ≤ s.attempts
  · rw [if_pos hm]
    exact ends hstop
  rw [if_neg hm]
  cases hget : getChannel S w (prepare w s) s.ctx s.stickyChannel with
  | error e =>
    simp only [hget]
    exact ends (hstop.congr rfl rfl)
  | ok r =>
    obtain ⟨id,p,c⟩ := r
    have hmem := h.attempt (not_le.mp hm) (sameMemory_prepare w s) (getChannel_spec hget)
    have hb := hmem.bounded
    simp only [hget]
    cases hbody : w.bodyError with
    | some e => exact ends (hb.congr rfl rfl)
    | none =>
      cases hout : w.outcome with
      | none => exact ends (hb.congr rfl rfl)
      | some e =>
        have hafter := afterFailure_spec w id e
          (s := { attempted s id p c with ctx := { c with channelMeta := true }, newAPIError := some e })
          (hmem.congr rfl rfl ⟨rfl,rfl⟩ rfl) rfl
        refine ⟨?_,hafter.2⟩
        intro s' hs
        obtain ⟨hready,hatt⟩ := hafter.1 s' hs
        refine ⟨hready,?_⟩
        rw [hatt]
        change (maxTotalAttempts S).toNat-(s.attempts+1)<_
        omega

/-! ## The whole request -/

lemma ready_initialState (S : RelaySettings) (tokenGroup modelName : String) (c : Context) :
    Ready S (initialState tokenGroup modelName c) where
  attempts := rfl
  atMost := Nat.zero_le _
  distinct := List.nodup_nil
  tried := fun _ hk => absurd hk List.not_mem_nil
  counted := fun _ => le_rfl
  used := fun _ => Nat.zero_le _
  first := fun _ => ⟨rfl,rfl⟩

/-- Every request ends, after at most the allowed number of attempts; no key of a multi-key channel
is tried twice; and on no channel are there more rotations to another key than allowed. -/
theorem relay_loop_bounded (S : RelaySettings) (world : ℕ → Surroundings) (tokenGroup modelName : String)
    (c : Context) :
    ∃ s, relayLoop S world ((maxTotalAttempts S).toNat+1) (initialState tokenGroup modelName c) = some s ∧
      s.trail.length≤(maxTotalAttempts S).toNat ∧ (s.trail.filterMap Attempt.keyPair).Nodup ∧
        ∀ id, rotationsOn id s.trail≤S.routeKeyRotationMaxPerChannel.toNat := by
  have hends : ∃ s, relayLoop S world ((maxTotalAttempts S).toNat+1) (initialState tokenGroup modelName c) =
      some s ∧ Bounded S s := by
    apply runLoop_spec (I := Ready S) (fun s => (maxTotalAttempts S).toNat-s.attempts)
    · exact fun k s s' hs => (relayPass_spec hs).1 s'
    · exact fun k s s' hs => (relayPass_spec hs).2 s'
    · exact ready_initialState S tokenGroup modelName c
    · omega
  obtain ⟨s,hs,hb⟩ := hends
  exact ⟨s,hs,hb.attempts ▸ hb.atMost,hb.distinct,hb.rotations⟩

end Relay
end Tierflow
