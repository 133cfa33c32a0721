import Tierflow.Relay.Bounds
import Tierflow.Relay.FirstChannel
import Tierflow.Routing.Agreement

/-! The attempts of a request that is addressed to a model group. From the second channel on an attempt is
pinned to a member of the group, channel and model together; for the first channel only the model is a
member's, and the channel is any that the distributor comes to. -/
namespace Tierflow
namespace Relay
open Routing

/-! ## The attempts of a run -/

/-- The channel and the model of the upstream attempt that a pass makes, if it makes one. -/
def upstreamAttempt (S : RelaySettings) (w : Surroundings) (s : RelayState) : Option (ℕ × String) :=
  let s' := (relayPass S w s).state
  if w.bodyError = none ∧ s.trail.length < s'.trail.length then
    s'.trail.head?.map (fun a => (a.channelId,s'.param.modelName))
  else none

lemma modelName_markKeyTried (p : RetryParam) (id : ℕ) (c : Context) :
    (if c.channelIsMultiKey then p.markKeyTried id (breakerKeyIndex c) else p).modelName = p.modelName := by
  unfold RetryParam.markKeyTried
  split_ifs <;> rfl

lemma modelName_increaseRetry (p : RetryParam) : p.increaseRetry.modelName = p.modelName := by
  unfold RetryParam.increaseRetry
  split_ifs <;> rfl

lemma afterFailure_state (S : RelaySettings) (w : Surroundings) (s : RelayState) (id : ℕ) (e : RelayError) :
    (afterFailure S w s id e).state.trail = s.trail ∧
      (afterFailure S w s id e).state.param.modelName = s.param.modelName := by
  unfold afterFailure
  cases rotateTo S w s id e with
  | some ch => exact ⟨rfl,modelName_increaseRetry _⟩
  | none =>
    simp only
    split_ifs
    · exact ⟨rfl,modelName_increaseRetry _⟩
    · exact ⟨rfl,rfl⟩

/-- The pass goes on to an attempt on the channel. -/
structure Attempts (S : RelaySettings) (w : Surroundings) (s : RelayState) (id : ℕ) (p : RetryParam) (c : Context) :
    Prop where
  retries : s.param.retry≤S.retryTimes
  budget : s.attempts < maxTotalAttempts S
  channel : getChannel S w (prepare w s) s.ctx s.stickyChannel = .ok (id,p,c)

lemma relayPass_of_attempts {S : RelaySettings} {w : Surroundings} {s : RelayState} {id : ℕ} {p : RetryParam}
    {c : Context} (h : Attempts S w s id p c) : relayPass S w s =
      match w.bodyError with
      | some e => .done { attempted s id p c with newAPIError := some e }
      | none =>
        let t := { attempted s id p c with ctx := { c with channelMeta := true }, newAPIError := w.outcome }
        match w.outcome with
        | none => .done t
        | some e => afterFailure S w t id e := by
  unfold relayPass
  rw [if_neg (not_not.mpr h.retries),if_neg (not_le.mpr h.budget)]
  simp only [h.channel]
  rfl

/-- An attempt goes to the channel that the pass gets, with the model that it is looking for. -/
lemma upstreamAttempt_eq_some {S : RelaySettings} {w : Surroundings} {s : RelayState} {id : ℕ} {model : String} :
    upstreamAttempt S w s = some (id,model) ↔
      w.bodyError = none ∧ ∃ p c, Attempts S w s id p c ∧ p.modelName = model := by
  have hattempt : ∀ {j p c}, Attempts S w s j p c → w.bodyError = none →
      upstreamAttempt S w s = some (j,p.modelName) := by
    intro j p c h hbody
    have hstate : (relayPass S w s).state.trail = (attempted s j p c).trail ∧
        (relayPass S w s).state.param.modelName = p.modelName := by
      have hname : (attempted s j p c).param.modelName = p.modelName := modelName_markKeyTried p j c
      rw [relayPass_of_attempts h,hbody]
      simp only
      cases w.outcome with
      | none => exact ⟨rfl,hname⟩
      | some e =>
        have hafter := afterFailure_state S w
          { attempted s j p c with ctx := { c with channelMeta := true }, newAPIError := some e } j e
        exact ⟨hafter.1,hafter.2.trans hname⟩
    unfold upstreamAttempt
    simp only [hstate.1,hstate.2]
    rw [if_pos ⟨hbody,Nat.lt_succ_self _⟩]
    rfl
  have hstop : ∀ t, relayPass S w s = .done t → t.trail = s.trail → upstreamAttempt S w s = none := by
    intro t ht htrail
    unfold upstreamAttempt
    simp only [ht,Pass.state,htrail]
    exact if_neg (fun h => lt_irrefl _ h.2)
  constructor
  · intro h
    by_cases hbody : w.bodyError = none
    swap
    · unfold upstreamAttempt at h
      simp only at h
      rw [if_neg (fun hc => hbody hc.1)] at h
      contradiction
    refine ⟨hbody,?_⟩
    by_cases hr : s.param.retry≤S.retryTimes
    swap
    · rw [hstop s (by unfold relayPass; rw [if_pos hr]) rfl] at h
      contradiction
    by_cases hm : maxTotalAttempts S ≤ s.attempts
    · rw [hstop s (by unfold relayPass; rw [if_neg (not_not.mpr hr),if_pos hm]) rfl] at h
      contradiction
    cases hget : getChannel S w (prepare w s) s.ctx s.stickyChannel with
    | error e =>
      have hdone : relayPass S w s = .done { s with param := prepare w s, newAPIError := some e } := by
        unfold relayPass
        rw [if_neg (not_not.mpr hr),if_neg hm]
        simp only [hget]
      rw [hstop _ hdone rfl] at h
      contradiction
    | ok r =>
      obtain ⟨j,p,c⟩ := r
      have hatt : Attempts S w s j p c := ⟨hr,not_le.mp hm,hget⟩
      rw [hattempt hatt hbody] at h
      obtain ⟨rfl,rfl⟩ := Prod.mk.inj (Option.some.inj h)
      exact ⟨p,c,hatt,rfl⟩
  · rintro ⟨hbody,p,c,h,rfl⟩
    exact hattempt h hbody

/-- A pass after which the loop goes on has made an attempt that failed. -/
lemma relayPass_eq_next {S : RelaySettings} {w : Surroundings} {s s' : RelayState} (h : relayPass S w s = .next s') :
    ∃ id p c e, Attempts S w s id p c ∧ afterFailure S w
      { attempted s id p c with ctx := { c with channelMeta := true }, newAPIError := some e } id e = .next s' := by
  have horig := h
  unfold relayPass at h
  by_cases hr : s.param.retry≤S.retryTimes
  swap
  · rw [if_pos hr] at h
    contradiction
  rw [if_neg (not_not.mpr hr)] at h
  by_cases hm : maxTotalAttempts S ≤ s.attempts
  · rw [if_pos hm] at h
    contradiction
  rw [if_neg hm] at h
  cases hget : getChannel S w (prepare w s) s.ctx s.stickyChannel with
  | error e =>
    simp only [hget] at h
    contradiction
  | ok r =>
    obtain ⟨id,p,c⟩ := r
    have hatt : Attempts S w s id p c := ⟨hr,not_le.mp hm,hget⟩
    rw [relayPass_of_attempts hatt] at horig
    cases hbody : w.bodyError with
    | some e =>
      rw [hbody] at horig
      contradiction
    | none =>
      cases hout : w.outcome with
      | none =>
        rw [hbody,hout] at horig
        contradiction
      | some e =>
        rw [hbody,hout] at horig
        exact ⟨id,p,c,e,hatt,horig⟩

/-! ## Where the search is pinned -/

/-- The model and the allowed channels are as they were, and so are the members of the group. -/
def SameTarget (p q : RetryParam) (c d : Context) : Prop :=
  q.modelName = p.modelName ∧ q.allowedChannelIds = p.allowedChannelIds ∧ d.modelGroupMembers = c.modelGroupMembers

lemma MayDraw.allows {w : Surroundings} {r : Request} {c : ℕ × Channel} (h : MayDraw w r c) : r.allows c.1 = true := by
  unfold MayDraw at h
  split_ifs at h
  · have hmem := Selection.relax_subset _ _ h.2.1
    unfold targetChannels allowedChannels at hmem
    exact (List.mem_filter.mp (mem_rowsOf.mp (List.mem_filter.mp hmem).1).1).2
  · obtain ⟨-,a,ha,hid⟩ := h
    have hmem := Selection.relax_subset _ _ ha
    unfold targetAbilities at hmem
    rw [←hid]
    exact (List.mem_filter.mp hmem).2

lemma autoGroupLoop_target (S : RelaySettings) (w : Surroundings) (groups : List String) (started : Bool)
    (i : ℕ) (p : RetryParam) (c : Context) :
    SameTarget p (autoGroupLoop S w started i groups p c).2.1 c (autoGroupLoop S w started i groups p c).2.2 ∧
      ∀ ch, (autoGroupLoop S w started i groups p c).1 = some ch → ∀ ids, p.allowedChannelIds = some ids →
        ch.1∈ids := by
  induction groups generalizing started i p c with
  | nil => exact ⟨⟨rfl,rfl,rfl⟩,fun ch h => nomatch h⟩
  | cons g groups ih =>
    rw [autoGroupLoop]
    split
    · rename_i channel hdraw
      have hmem : ∀ ids, p.allowedChannelIds = some ids → channel.1∈ids := by
        intro ids hids
        have hallow := MayDraw.allows ((exists_draw_iff w _ channel).mp ⟨_,hdraw⟩)
        simpa [Request.allows,RetryParam.request,hids] using hallow
      split_ifs <;> exact ⟨⟨rfl,rfl,rfl⟩,fun ch h => Option.some.inj h ▸ hmem⟩
    · exact ih true (i+1) { p with retry := 0 } { c with autoGroupIndex := some (i+1) }

/-- A fresh channel is one of the allowed ones. -/
lemma cacheGet_target (S : RelaySettings) (w : Surroundings) (p : RetryParam) (c : Context) :
    SameTarget p (cacheGetRandomSatisfiedChannel S w p c).2.1 c (cacheGetRandomSatisfiedChannel S w p c).2.2 ∧
      ∀ ch, (cacheGetRandomSatisfiedChannel S w p c).1 = .ok ch → ∀ ids, p.allowedChannelIds = some ids →
        ch.1∈ids := by
  unfold cacheGetRandomSatisfiedChannel
  split_ifs
  · exact ⟨⟨rfl,rfl,rfl⟩,fun ch h => nomatch h⟩
  · have hloop := autoGroupLoop_target S w (w.userAutoGroup.drop (c.autoGroupIndex.getD 0)) false
      (c.autoGroupIndex.getD 0) p c
    exact ⟨hloop.1,fun ch h => hloop.2 ch (orFail_eq_ok.mp h)⟩
  · split
    · rename_i channel hdraw
      refine ⟨⟨rfl,rfl,rfl⟩,fun ch h ids hids => ?_⟩
      obtain rfl := Except.ok.inj h
      have hallow := MayDraw.allows ((exists_draw_iff w _ channel).mp ⟨_,hdraw⟩)
      simpa [Request.allows,RetryParam.request,hids] using hallow
    · exact ⟨⟨rfl,rfl,rfl⟩,fun ch h => nomatch h⟩

lemma setupContext_members {w : Surroundings} {c c' : Context} {id : ℕ} {channel : Channel} {exclude : List ℕ}
    (h : setupContextForSelectedChannelExcluding w c id channel exclude = .ok c') :
    c'.modelGroupMembers = c.modelGroupMembers := by
  unfold setupContextForSelectedChannelExcluding at h
  simp only at h
  split at h
  · contradiction
  · split_ifs at h <;> rw [←Except.ok.inj h]

/-- The channel of an attempt after the first: the sticky one, or one of the allowed ones. -/
lemma getChannel_target {S : RelaySettings} {w : Surroundings} {p p' : RetryParam} {c c' : Context}
    {sticky : Option (ℕ × Channel)} {id : ℕ} (h : getChannel S w p c sticky = .ok (id,p',c')) :
    SameTarget p p' c c' ∧ (c.channelMeta = false → id = c.channelId ∧ p' = p) ∧
      (c.channelMeta = true → (∀ ch, sticky = some ch → id = ch.1 ∧ p' = p) ∧
        (sticky = none → ∀ ids, p.allowedChannelIds = some ids → id∈ids)) := by
  unfold getChannel at h
  cases hm : c.channelMeta with
  | false =>
    rw [hm] at h
    obtain ⟨rfl,h'⟩ := Prod.mk.inj (Except.ok.inj h)
    obtain ⟨rfl,rfl⟩ := Prod.mk.inj h'
    exact ⟨⟨rfl,rfl,rfl⟩,fun _ => ⟨rfl,rfl⟩,fun ht => nomatch ht⟩
  | true =>
    simp only [hm,Bool.not_true,Bool.false_eq_true,if_false] at h
    cases sticky with
    | some ch =>
      obtain ⟨c2,hset,he⟩ := bind_eq_ok.mp h
      obtain ⟨rfl,h'⟩ := Prod.mk.inj (Except.ok.inj he)
      obtain ⟨rfl,rfl⟩ := Prod.mk.inj h'
      refine ⟨⟨rfl,rfl,setupContext_members hset⟩,(fun hf => nomatch hf),fun _ => ⟨?_,fun hnone => nomatch hnone⟩⟩
      intro ch' hch
      obtain rfl := Option.some.inj hch
      exact ⟨rfl,rfl⟩
    | none =>
      have htarget := cacheGet_target S w p c
      simp only at h
      revert h htarget
      generalize cacheGetRandomSatisfiedChannel S w p c = found
      obtain ⟨o,p2,c2⟩ := found
      intro h htarget
      cases o with
      | error e => contradiction
      | ok ch =>
        obtain ⟨c3,hset,he⟩ := bind_eq_ok.mp h
        obtain ⟨rfl,h'⟩ := Prod.mk.inj (Except.ok.inj he)
        obtain ⟨rfl,rfl⟩ := Prod.mk.inj h'
        refine ⟨⟨htarget.1.1,htarget.1.2.1,(setupContext_members hset).trans htarget.1.2.2⟩,
          (fun hf => nomatch hf),fun _ => ⟨(fun ch' hch => nomatch hch),fun _ => htarget.2 ch rfl⟩⟩

/-! ## Every attempt of a run -/

section
variable (members : List ModelGroupMember) (e : Endpoint)

/-- The pair is a member's: its channel, asked for its upstream model. -/
def Fits (id : ℕ) (model : String) : Prop :=
  ∃ member∈members, member.channelId = id ∧ upstreamModel e member.modelName = upstreamModel e model

/-- The search is confined to a member. -/
def Pinned (p : RetryParam) : Prop :=
  ∃ member∈members, p.modelName = member.modelName ∧ p.allowedChannelIds = some [member.channelId]

/-- The head of a pass after the first. Before a retry has pinned the search, a channel is left to be rotated or
the next pass is a retry. -/
structure Placed (s : RelayState) : Prop where
  taken : s.ctx.channelMeta = true
  group : s.ctx.modelGroupMembers = members
  sticky : ∀ ch∈s.stickyChannel, Fits members e ch.1 s.param.modelName
  pinned : Pinned members s.param ∨ s.param.resetNextTry = false ∧ (s.stickyChannel = none → 0 < s.param.retry)

/-- The start of a run whose first channel fits. -/
structure Starts (s : RelayState) : Prop where
  fresh : s.ctx.channelMeta = false
  group : s.ctx.modelGroupMembers = members
  sticky : s.stickyChannel = none
  retry : s.param.retry = 0
  resetNextTry : s.param.resetNextTry = false
  fits : Fits members e s.ctx.channelId s.param.modelName

/-- What is known of the attempt of a pass. -/
structure Fitting (id : ℕ) (p : RetryParam) (c : Context) : Prop where
  fits : Fits members e id p.modelName
  group : c.modelGroupMembers = members
  pinned : Pinned members p ∨ p.resetNextTry = false

variable {members e}

lemma pinned_advance {w : Surroundings} {c : Context} (p : RetryParam) (hc : c.modelGroupMembers = members)
    (hne : members≠[]) : Pinned members (advanceModelGroupMemberForAttempt w c p) := by
  unfold advanceModelGroupMemberForAttempt
  obtain ⟨member,hpick⟩ := exists_pickModelGroupMember w.breaker c.abandonedChannel hne
  rw [hc,hpick]
  exact ⟨member,pickModelGroupMember_mem hpick,rfl,rfl⟩

lemma Starts.attempt {S : RelaySettings} {w : Surroundings} {s : RelayState} {id : ℕ} {p : RetryParam} {c : Context}
    (h : Starts members e s) (ha : Attempts S w s id p c) : Fitting members e id p c := by
  obtain ⟨htarget,hfirst,-⟩ := getChannel_target ha.channel
  obtain ⟨rfl,rfl⟩ := hfirst h.fresh
  have hprepare : prepare w s = { s.param with excludeChannelIds := s.ctx.abandonedChannel } := by
    unfold prepare
    rw [h.sticky]
    simp only
    rw [if_neg (by rw [h.retry]; exact lt_irrefl 0)]
  rw [hprepare] at ha ⊢
  refine ⟨h.fits,?_,.inr h.resetNextTry⟩
  rw [htarget.2.2]
  exact h.group

lemma Placed.attempt {S : RelaySettings} {w : Surroundings} {s : RelayState} {id : ℕ} {p : RetryParam} {c : Context}
    (h : Placed members e s) (hne : members≠[]) (ha : Attempts S w s id p c) : Fitting members e id p c := by
  obtain ⟨htarget,-,hlater⟩ := getChannel_target ha.channel
  obtain ⟨hsticky,hfree⟩ := hlater h.taken
  have hmembers : c.modelGroupMembers = members := htarget.2.2.trans h.group
  cases hs : s.stickyChannel with
  | some ch =>
    have hprepare : prepare w s = s.param := by
      unfold prepare
      rw [hs]
    obtain ⟨rfl,hp⟩ := hsticky ch hs
    rw [hprepare] at hp
    obtain rfl := hp
    exact ⟨h.sticky ch hs,hmembers,h.pinned.imp_right And.left⟩
  | none =>
    have hpinned : Pinned members (prepare w s) := by
      unfold prepare
      rw [hs]
      simp only
      split_ifs with hretry
      · exact pinned_advance _ h.group hne
      · exact h.pinned.resolve_right (fun hr => hretry (hr.2 hs))
    obtain ⟨member,hmem,hname,hallowed⟩ := hpinned
    have hid : member.channelId = id := (List.mem_singleton.mp (hfree hs _ hallowed)).symm
    have hname' : p.modelName = member.modelName := htarget.1.trans hname
    refine ⟨⟨member,hmem,hid,by rw [hname']⟩,hmembers,.inl ⟨member,hmem,hname',?_⟩⟩
    rw [htarget.2.1,hallowed]

/-- A failed attempt that fits leaves the run in place. -/
lemma Fitting.afterFailure {S : RelaySettings} {w : Surroundings} {s s' : RelayState} {id : ℕ} {p : RetryParam}
    {c : Context} {err : RelayError} (h : Fitting members e id p c)
    (hnext : afterFailure S w
      { attempted s id p c with ctx := { c with channelMeta := true }, newAPIError := some err } id err = .next s') :
    Placed members e s' := by
  have hname : (attempted s id p c).param.modelName = p.modelName := modelName_markKeyTried p id c
  have hallowed : (attempted s id p c).param.allowedChannelIds = p.allowedChannelIds := by
    change (if c.channelIsMultiKey then p.markKeyTried id (breakerKeyIndex c) else p).allowedChannelIds = _
    unfold RetryParam.markKeyTried
    split_ifs <;> rfl
  have hreset : (attempted s id p c).param.resetNextTry = p.resetNextTry := by
    change (if c.channelIsMultiKey then p.markKeyTried id (breakerKeyIndex c) else p).resetNextTry = _
    unfold RetryParam.markKeyTried
    split_ifs <;> rfl
  have hpinned : Pinned members p → ∀ q : RetryParam, q.modelName = (attempted s id p c).param.modelName →
      q.allowedChannelIds = (attempted s id p c).param.allowedChannelIds → Pinned members q.increaseRetry := by
    rintro ⟨member,hmem,hm,ha⟩ q hqn hqa
    refine ⟨member,hmem,?_,?_⟩
    · rw [modelName_increaseRetry,hqn,hname,hm]
    · unfold RetryParam.increaseRetry
      split_ifs <;> rw [hqa,hallowed,ha]
  unfold Relay.afterFailure at hnext
  revert hnext
  cases hr : rotateTo S w
      { attempted s id p c with ctx := { c with channelMeta := true }, newAPIError := some err } id err with
  | some ch =>
    intro hnext
    obtain rfl := Pass.next.inj hnext
    obtain ⟨rfl,-⟩ := rotateTo_eq_some hr
    refine ⟨rfl,h.group,?_,?_⟩
    · intro ch' hch
      obtain rfl := Option.mem_some.mp hch
      simp only [modelName_increaseRetry]
      rw [hname]
      exact h.fits
    · rcases h.pinned with hp | -
      · exact .inl (hpinned hp _ rfl rfl)
      · exact .inr ⟨rfl,fun hnone => nomatch hnone⟩
  | none =>
    intro hnext
    simp only at hnext
    split_ifs at hnext
    obtain rfl := Pass.next.inj hnext
    refine ⟨rfl,h.group,(fun ch hch => nomatch hch),?_⟩
    rcases h.pinned with hp | hp
    · exact .inl (hpinned hp _ rfl rfl)
    · refine .inr ?_
      simp only [RetryParam.increaseRetry,hreset,hp,Bool.false_eq_true,if_false,Nat.succ_pos,imp_true_iff,and_self]

/-- In a run whose first channel fits every attempt does. -/
lemma Starts.attempts_fit {S : RelaySettings} {w : Surroundings} {s t : RelayState} {id : ℕ} {model : String}
    (h : Starts members e s) (hrun : Reaches (relayPass S) s t) (ha : upstreamAttempt S w t = some (id,model)) :
    Fits members e id model := by
  have hne : members≠[] := by
    obtain ⟨member,hmem,-⟩ := h.fits
    exact List.ne_nil_of_mem hmem
  have hfitting : ∀ {w s id p c}, Starts members e s ∨ Placed members e s → Attempts S w s id p c →
      Fitting members e id p c := by
    intro w s id p c hs hatt
    rcases hs with hs | hs
    · exact hs.attempt hatt
    · exact hs.attempt hne hatt
  have hinv : Starts members e t ∨ Placed members e t := by
    apply hrun.invariant (I := fun s => Starts members e s ∨ Placed members e s) ?_ (.inl h)
    intro w s s' hs hpass
    obtain ⟨id,p,c,err,hatt,hafter⟩ := relayPass_eq_next hpass
    exact .inr ((hfitting hs hatt).afterFailure hafter)
  obtain ⟨-,p,c,hatt,rfl⟩ := upstreamAttempt_eq_some.mp ha
  exact (hfitting hinv hatt).fits

end

/-! ## Requests to a group -/

lemma context_distribute {S : RelaySettings} {w : Surroundings} {q : RelayRequest} {r : RoutedRequest} {c : Context}
    (h : distribute S w q r = .ok c) : c.channelMeta = false ∧ c.modelGroupMembers = r.modelGroupMembers := by
  have hsetup : ∀ d : Context, ∀ ch, d.channelMeta = false ∧ d.modelGroupMembers = r.modelGroupMembers →
      (setupContextForSelectedChannel w d ch).channelMeta = false ∧
        (setupContextForSelectedChannel w d ch).modelGroupMembers = r.modelGroupMembers := by
    intro d ch hd
    unfold setupContextForSelectedChannel
    split
    · rename_i c' hc
      exact ⟨(setupContext_spec hc).1.trans hd.1,(setupContext_members hc).trans hd.2⟩
    · exact hd
  unfold distribute at h
  obtain ⟨_,-,h⟩ := bind_eq_ok.mp h
  obtain ⟨⟨ch,d⟩,hchoose,h⟩ := bind_eq_ok.mp h
  obtain rfl := Except.ok.inj h
  apply hsetup
  unfold chooseChannel at hchoose
  simp only at hchoose
  split at hchoose
  · obtain ⟨_,-,hchoose⟩ := bind_eq_ok.mp hchoose
    obtain ⟨_,-,hchoose⟩ := bind_eq_ok.mp hchoose
    obtain ⟨-,rfl⟩ := Prod.mk.inj (Except.ok.inj hchoose)
    exact ⟨rfl,rfl⟩
  · obtain ⟨_,-,hchoose⟩ := bind_eq_ok.mp hchoose
    obtain ⟨_,-,hchoose⟩ := bind_eq_ok.mp hchoose
    obtain ⟨o,-,hchoose⟩ := bind_eq_ok.mp hchoose
    cases o with
    | some channel =>
      obtain ⟨-,rfl⟩ := Prod.mk.inj (Except.ok.inj hchoose)
      exact ⟨rfl,rfl⟩
    | none =>
      have htarget := cacheGet_target S w (selectionParam q r (getModelRequest q.endpoint r.model)) (requestContext q r)
      have hkeeps := cacheGet_keeps S w (selectionParam q r (getModelRequest q.endpoint r.model)) (requestContext q r)
      simp only at hchoose
      split at hchoose
      · rename_i channel p c' hsearch
        obtain ⟨-,rfl⟩ := Prod.mk.inj (Except.ok.inj hchoose)
        rw [hsearch] at htarget hkeeps
        exact ⟨hkeeps.2,htarget.1.2.2⟩
      · contradiction

/-- A run of a request after the distributor has let it pass, from the first attempt on. -/
def RunReaches (S : RelaySettings) (w : Surroundings) (q : RelayRequest) (r : RoutedRequest) (s : RelayState) : Prop :=
  ∃ rolls c, distribute S (w.rolled rolls) q r = .ok c ∧
    Reaches (relayPass S) (initialState q.tokenGroup (getModelRequest q.endpoint r.model) c) s

/-- The first attempt goes to the channel in the context. -/
lemma upstreamAttempt_first {S : RelaySettings} (hretry : 0≤S.retryTimes) (w : Surroundings) (hbody : w.bodyError = none)
    (tokenGroup modelName : String) {c : Context} (hc : c.channelMeta = false) :
    upstreamAttempt S w (initialState tokenGroup modelName c) = some (c.channelId,modelName) := by
  have hbudget : (0 : ℤ) < maxTotalAttempts S := by
    unfold maxTotalAttempts
    split_ifs <;> omega
  have hprepare : (prepare w (initialState tokenGroup modelName c)).modelName = modelName := rfl
  refine upstreamAttempt_eq_some.mpr ⟨hbody,_,c,⟨hretry,hbudget,?_⟩,hprepare⟩
  unfold getChannel
  rw [if_pos (by rw [Bool.not_eq_true']; exact hc)]
  rfl

/-- The attempts of a request to a group all go to members of the group exactly if every channel that its first
attempt may go to is that of a member with the routed model; or if the settings allow no attempt at all. -/
theorem attempts_in_group_iff (S : RelaySettings) (t : GroupTables) (m : RouteHealth.Manager) (bodyWritten : Bool)
    (requestedModel : String) (groupId : ℕ) (w : Surroundings) (q : RelayRequest) :
    let r := routeToGroup t m bodyWritten requestedModel groupId
    (∀ s, RunReaches S w q r s → ∀ w' id model, upstreamAttempt S w' s = some (id,model) →
      Fits (getOrderedModelGroupMembers t groupId) q.endpoint id model) ↔
      (S.retryTimes<0 ∨ ∀ id, FirstChannel w q r id →
        Fits (getOrderedModelGroupMembers t groupId) q.endpoint id (getModelRequest q.endpoint r.model)) := by
  intro r
  have hmembers : r.modelGroupMembers = getOrderedModelGroupMembers t groupId :=
    members_routeToGroup m bodyWritten requestedModel
  simp only [←exists_distribute_iff S]
  constructor
  · intro h
    by_cases hretry : S.retryTimes<0
    · exact .inl hretry
    refine .inr ?_
    rintro id ⟨rolls,c,hdistribute,rfl⟩
    exact h _ ⟨rolls,c,hdistribute,.refl⟩ { w with bodyError := none } _ _
      (upstreamAttempt_first (not_lt.mp hretry) _ rfl _ _ (context_distribute hdistribute).1)
  · rintro h s ⟨rolls,c,hdistribute,hrun⟩ w' id model ha
    obtain ⟨hfresh,hcm⟩ := context_distribute hdistribute
    rcases h with hretry | h
    · -- no pass gets to an attempt, and none goes on
      have hnever : ∀ {w s id p c}, s.param.retry = 0 → ¬Attempts S w s id p c := by
        intro w s id p c hs hatt
        have hle := hatt.retries
        rw [hs] at hle
        omega
      have hzero : s.param.retry = 0 := by
        apply hrun.invariant (I := fun s => s.param.retry = 0) ?_ rfl
        intro w s s' hs hpass
        obtain ⟨id,p,c,err,hatt,-⟩ := relayPass_eq_next hpass
        exact absurd hatt (hnever hs)
      obtain ⟨-,p,c,hatt,-⟩ := upstreamAttempt_eq_some.mp ha
      exact absurd hatt (hnever hzero)
    · have hstart : Starts (getOrderedModelGroupMembers t groupId) q.endpoint
          (initialState q.tokenGroup (getModelRequest q.endpoint r.model) c) := by
        refine ⟨hfresh,hcm.trans hmembers,rfl,rfl,rfl,?_⟩
        exact h c.channelId ⟨rolls,c,hdistribute,rfl⟩
      exact hstart.attempts_fit hrun ha

/-- A group of two members: channel 1 with one model and channel 2 with another. -/
def twoMembers : GroupTables where
  modelGroups := Table.empty.insert ⟨true⟩
  modelGroupMembers := (Table.empty.insert ⟨1,1,"m-a",some 2⟩).insert ⟨1,2,"m-b",some 1⟩

/-- Channel 2 offers the model of the first member too, and comes before channel 1. -/
def sharedModel : Surroundings where
  memoryCacheEnabled := false
  tables := withChannel (withChannel ⟨.empty,[]⟩ { plainChannel 5 1 with models := "m-a" })
    { plainChannel 10 1 with models := "m-a,m-b" }
  cache := ⟨fun _ _ => [],fun _ => none⟩
  breaker := quietBreaker
  autoGroups := []
  userAutoGroup := []
  channelRoll := fun _ => 0
  keyRoll := 0
  bodyError := none
  outcome := none
  skipRetryAfterChannelAffinityFailure := false

def groupRequest : RelayRequest where
  endpoint := .body ""
  usingGroup := "default"
  tokenGroup := "default"
  tokenSpecificChannelId := none
  tokenModelLimitEnabled := false
  tokenModelLimit := none
  tokenCrossGroupRetry := false
  restrictDirectModelCall := true
  routingAliases := ["auto"]
  preferredChannelId := none

/-- The first attempt of a request may ask the channel of one member for the model of another. -/
theorem sharedModel_mixes_members :
    ¬∀ (S : RelaySettings) (t : GroupTables) (m : RouteHealth.Manager) (bodyWritten : Bool) (requestedModel : String)
      (groupId : ℕ) (w : Surroundings) (q : RelayRequest) (s : RelayState),
        RunReaches S w q (routeToGroup t m bodyWritten requestedModel groupId) s → ∀ w' id model,
          upstreamAttempt S w' s = some (id,model) →
            Fits (getOrderedModelGroupMembers t groupId) q.endpoint id model := by
  intro h
  have hchannel : (distribute ⟨1,0,false,0,[],[]⟩ (sharedModel.rolled (fun _ => 0)) groupRequest
      (routeToGroup twoMembers quietBreaker true "auto" 1)).toOption.map Context.channelId = some 2 := by
    decide
  obtain ⟨c,hc,hid⟩ := Option.map_eq_some_iff.mp hchannel
  have hdistribute := toOption_eq_some.mp hc
  have hfits := h ⟨1,0,false,0,[],[]⟩ twoMembers quietBreaker true "auto" 1 sharedModel groupRequest _
    ⟨_,c,hdistribute,.refl⟩ sharedModel _ _
    (upstreamAttempt_first (by decide) sharedModel rfl _ _ (context_distribute hdistribute).1)
  rw [hid] at hfits
  unfold Fits at hfits
  revert hfits
  decide

end Relay
end Tierflow
