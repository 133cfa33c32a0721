import Tierflow.Foundation.Turns
import Tierflow.Relay.GroupAttempts

/-! The members of a group that the attempts of one request are addressed to, one after another. What a failed attempt
gives up on is its channel, so that members on one channel have one turn together. -/
namespace Tierflow
namespace Relay
open Routing
open RouteHealth (Manager)

/-- The member that a pass advances to, if it does. -/
def chosenMember (S : RelaySettings) (w : Surroundings) (s : RelayState) : Option ModelGroupMember :=
  if s.param.retry≤S.retryTimes ∧ s.attempts < maxTotalAttempts S ∧ s.stickyChannel.isNone ∧ 0 < s.param.retry then
    pickModelGroupMember w.breaker s.ctx.modelGroupMembers s.ctx.abandonedChannel
  else none

/-- A run with the members that it came to, the last one first. -/
def choosing (S : RelaySettings) : Surroundings → RelayState × List ModelGroupMember →
    Pass (RelayState × List ModelGroupMember) :=
  recording (fun w s => (chosenMember S w s).toList) (relayPass S)

/-! ## What is picked -/

/-- Whether a member is passed over depends on its channel alone. -/
lemma find?_channel {p : ModelGroupMember → Bool} (hp : ∀ a b : ModelGroupMember, a.channelId = b.channelId → p a = p b)
    {members : List ModelGroupMember} {a : ModelGroupMember} (h : members.find? p = some a) :
    members.find? (fun b => b.channelId = a.channelId) = some a := by
  rw [List.find?_eq_some_iff_append] at h ⊢
  obtain ⟨ha,as,bs,hl,has⟩ := h
  refine ⟨decide_eq_true rfl,as,bs,hl,?_⟩
  intro b hb
  have hbp := has b hb
  rw [Bool.not_eq_true',decide_eq_false_iff_not]
  intro hchannel
  rw [hp b a hchannel,ha] at hbp
  contradiction

/-- The first member of a channel that is not excluded, or the first of all when none is left. -/
lemma pickModelGroupMember_spec {m : Manager} {members : List ModelGroupMember} {exclude : List ℕ}
    {a : ModelGroupMember} (h : pickModelGroupMember m members exclude = some a) :
    (a.channelId∉exclude ∧ members.find? (fun b => b.channelId = a.channelId) = some a) ∨
      ((∀ b∈members, b.channelId∈exclude) ∧ members.head? = some a) := by
  unfold pickModelGroupMember at h
  simp only [Selection.relax] at h
  split_ifs at h with havailable huntried
  · right
    refine ⟨?_,h⟩
    intro b hb
    by_contra hnot
    exact absurd (List.filter_eq_nil_iff.mp huntried b hb) (by simpa using hnot)
  · left
    rw [List.head?_filter] at h
    have hsome := List.find?_some h
    exact ⟨of_decide_eq_true hsome,find?_channel (fun b c hbc => by rw [hbc]) h⟩
  · left
    rw [List.head?_filter] at h
    have hsome := List.find?_some h
    exact ⟨(of_decide_eq_true hsome).1,find?_channel (fun b c hbc => by rw [hbc]) h⟩

/-! ## What a pass leaves alone -/

lemma abandoned_autoGroupLoop (S : RelaySettings) (w : Surroundings) (groups : List String) (started : Bool)
    (i : ℕ) (p : RetryParam) (c : Context) :
    (autoGroupLoop S w started i groups p c).2.2.abandonedChannel = c.abandonedChannel := by
  induction groups generalizing started i p c with
  | nil => rfl
  | cons g groups ih =>
    rw [autoGroupLoop]
    split
    · split_ifs <;> rfl
    · exact ih true (i+1) { p with retry := 0 } { c with autoGroupIndex := some (i+1) }

lemma abandoned_cacheGet (S : RelaySettings) (w : Surroundings) (p : RetryParam) (c : Context) :
    (cacheGetRandomSatisfiedChannel S w p c).2.2.abandonedChannel = c.abandonedChannel := by
  unfold cacheGetRandomSatisfiedChannel
  split_ifs
  · rfl
  · exact abandoned_autoGroupLoop S w _ false _ p c
  · split <;> rfl

lemma abandoned_setupContext {w : Surroundings} {c c' : Context} {id : ℕ} {channel : Channel} {exclude : List ℕ}
    (h : setupContextForSelectedChannelExcluding w c id channel exclude = .ok c') :
    c'.abandonedChannel = c.abandonedChannel := by
  unfold setupContextForSelectedChannelExcluding at h
  simp only at h
  split at h
  · contradiction
  · split_ifs at h <;> rw [←Except.ok.inj h]

lemma abandoned_getChannel {S : RelaySettings} {w : Surroundings} {p p' : RetryParam} {c c' : Context}
    {sticky : Option (ℕ × Channel)} {id : ℕ} (h : getChannel S w p c sticky = .ok (id,p',c')) :
    c'.abandonedChannel = c.abandonedChannel := by
  unfold getChannel at h
  by_cases hm : c.channelMeta = false
  · rw [hm] at h
    obtain ⟨-,h'⟩ := Prod.mk.inj (Except.ok.inj h)
    rw [←(Prod.mk.inj h').2]
  · simp only [Bool.eq_true_of_not_eq_false hm,Bool.not_true,Bool.false_eq_true,if_false] at h
    cases sticky with
    | some ch =>
      obtain ⟨c2,hset,he⟩ := bind_eq_ok.mp h
      obtain ⟨-,h'⟩ := Prod.mk.inj (Except.ok.inj he)
      rw [←(Prod.mk.inj h').2]
      exact abandoned_setupContext hset
    | none =>
      have hkeep := abandoned_cacheGet S w p c
      simp only at h
      revert h hkeep
      generalize cacheGetRandomSatisfiedChannel S w p c = found
      obtain ⟨o,p2,c2⟩ := found
      intro h hkeep
      cases o with
      | error e => contradiction
      | ok ch =>
        obtain ⟨c3,hset,he⟩ := bind_eq_ok.mp h
        obtain ⟨-,h'⟩ := Prod.mk.inj (Except.ok.inj he)
        rw [←(Prod.mk.inj h').2]
        exact (abandoned_setupContext hset).trans hkeep

/-! ## The turns of a run -/

section
variable {members chosen : List ModelGroupMember} {cur a : ModelGroupMember} {S : RelaySettings} {w : Surroundings}
  {s s' : RelayState} {id : ℕ} {p : RetryParam} {c : Context}

/-- The start of a run whose first channel is that of the member that was picked. -/
structure AtFirst (cur : ModelGroupMember) (s : RelayState) : Prop where
  fresh : s.ctx.channelMeta = false
  channel : s.ctx.channelId = cur.channelId
  sticky : s.stickyChannel = none
  retry : s.param.retry = 0
  resetNextTry : s.param.resetNextTry = false
  abandoned : s.ctx.abandonedChannel = []

/-- The head of a later pass: the channels given up on are those of the chosen members, but for the one whose keys
are still being tried. -/
structure AtNext (cur : ModelGroupMember) (chosen : List ModelGroupMember) (s : RelayState) : Prop where
  taken : s.ctx.channelMeta = true
  sticky : ∀ ch∈s.stickyChannel, ch.1 = cur.channelId
  pinned : s.param.allowedChannelIds = some [cur.channelId] ∨
    s.param.resetNextTry = false ∧ (s.stickyChannel = none → 0 < s.param.retry)
  used : ∀ j, j∈s.ctx.abandonedChannel ∨ j = cur.channelId ↔ j∈chosen.map ModelGroupMember.channelId
  abandoned : s.stickyChannel = none → cur.channelId∈s.ctx.abandonedChannel

structure Turning (members : List ModelGroupMember) (s : RelayState) (chosen : List ModelGroupMember) : Prop where
  turns : Turns ModelGroupMember.channelId members chosen
  group : s.ctx.modelGroupMembers = members
  current : ∃ cur, (chosen = [cur] ∧ AtFirst cur s) ∨ AtNext cur chosen s

lemma chosenMember_eq_some (h : chosenMember S w s = some a) : s.stickyChannel = none ∧ 0 < s.param.retry ∧
    pickModelGroupMember w.breaker s.ctx.modelGroupMembers s.ctx.abandonedChannel = some a := by
  unfold chosenMember at h
  split_ifs at h with hc
  exact ⟨Option.isNone_iff_eq_none.mp hc.2.2.1,hc.2.2.2,h⟩

lemma AtNext.abandoned_iff (h : AtNext cur chosen s) (hs : s.stickyChannel = none) (j : ℕ) :
    j∈s.ctx.abandonedChannel ↔ j∈chosen.map ModelGroupMember.channelId := by
  rw [←h.used j]
  constructor
  · exact .inl
  · rintro (hj | rfl)
    · exact hj
    · exact h.abandoned hs

/-- Who is chosen has a turn, whatever comes of the pass. -/
lemma Turning.turns_chosen (h : Turning members s chosen) :
    Turns ModelGroupMember.channelId members ((chosenMember S w s).toList++chosen) := by
  cases ha : chosenMember S w s with
  | none => exact h.turns
  | some a =>
    obtain ⟨hs,hretry,hpick⟩ := chosenMember_eq_some ha
    obtain ⟨cur,⟨-,hfirst⟩ | hnext⟩ := h.current
    · exact absurd hfirst.retry hretry.ne'
    · rw [h.group] at hpick
      rcases pickModelGroupMember_spec hpick with ⟨hfresh,hfirst⟩ | ⟨hall,hhead⟩
      · exact .fresh h.turns hfirst (fun hm => hfresh ((hnext.abandoned_iff hs _).mpr hm))
      · exact .again h.turns (fun b hb => (hnext.abandoned_iff hs _).mp (hall b hb)) hhead

/-- The member that an attempt belongs to. -/
structure Belongs (cur : ModelGroupMember) (chosen : List ModelGroupMember) (id : ℕ) (p : RetryParam) (c : Context) :
    Prop where
  channel : id = cur.channelId
  pinned : p.allowedChannelIds = some [cur.channelId] ∨ p.resetNextTry = false
  used : ∀ j, j∈c.abandonedChannel ∨ j = cur.channelId ↔ j∈chosen.map ModelGroupMember.channelId

lemma AtFirst.attempt (h : AtFirst cur s) (ha : Attempts S w s id p c) :
    chosenMember S w s = none ∧ Belongs cur [cur] id p c := by
  obtain ⟨-,hfirst,-⟩ := getChannel_target ha.channel
  obtain ⟨rfl,rfl⟩ := hfirst h.fresh
  have hnone : chosenMember S w s = none := if_neg (fun hc => absurd h.retry hc.2.2.2.ne')
  have hprepare : prepare w s = { s.param with excludeChannelIds := s.ctx.abandonedChannel } := by
    unfold prepare
    rw [h.sticky]
    simp only
    rw [if_neg (by rw [h.retry]; exact lt_irrefl 0)]
  refine ⟨hnone,h.channel,.inr ?_,?_⟩
  · rw [hprepare]
    exact h.resetNextTry
  · intro j
    rw [abandoned_getChannel ha.channel,h.abandoned]
    simp

/-- A pass that advances searches the channel of the member it comes to. -/
lemma prepare_chosen (h : chosenMember S w s = some a) : (prepare w s).allowedChannelIds = some [a.channelId] := by
  obtain ⟨hs,hretry,hpick⟩ := chosenMember_eq_some h
  unfold prepare
  rw [hs]
  simp only
  rw [if_pos hretry]
  unfold advanceModelGroupMemberForAttempt
  rw [hpick]

lemma AtNext.attempt (h : AtNext cur chosen s) (hne : s.ctx.modelGroupMembers≠[]) (ha : Attempts S w s id p c) :
    Belongs ((chosenMember S w s).getD cur) ((chosenMember S w s).toList++chosen) id p c := by
  obtain ⟨htarget,-,hlater⟩ := getChannel_target ha.channel
  obtain ⟨hsticky,hfree⟩ := hlater h.taken
  have habandoned := abandoned_getChannel ha.channel
  cases hs : s.stickyChannel with
  | some ch =>
    have hnone : chosenMember S w s = none := if_neg (fun hc => by simp [hs] at hc)
    obtain ⟨rfl,hp⟩ := hsticky ch hs
    have hprepare : prepare w s = s.param := by
      unfold prepare
      rw [hs]
    rw [hprepare] at hp
    obtain rfl := hp
    rw [hnone]
    refine ⟨h.sticky ch hs,h.pinned.imp_right And.left,?_⟩
    intro j
    rw [habandoned]
    exact h.used j
  | none =>
    cases hchosen : chosenMember S w s with
    | some a =>
      have hallowed := prepare_chosen hchosen
      refine ⟨List.mem_singleton.mp (hfree hs _ hallowed),.inl (htarget.2.1.trans hallowed),?_⟩
      intro j
      rw [habandoned,h.abandoned_iff hs j]
      simp [or_comm]
    | none =>
      have hretry : ¬0 < s.param.retry := by
        intro hretry
        obtain ⟨a,ha'⟩ := exists_pickModelGroupMember w.breaker s.ctx.abandonedChannel hne
        have hsome : chosenMember S w s = some a := by
          unfold chosenMember
          rw [if_pos ⟨ha.retries,ha.budget,by rw [hs]; rfl,hretry⟩,ha']
        rw [hchosen] at hsome
        contradiction
      have hallowed : (prepare w s).allowedChannelIds = some [cur.channelId] := by
        unfold prepare
        rw [hs]
        simp only
        rw [if_neg hretry]
        exact h.pinned.resolve_right (fun hr => hretry (hr.2 hs))
      refine ⟨List.mem_singleton.mp (hfree hs _ hallowed),.inl (htarget.2.1.trans hallowed),?_⟩
      intro j
      rw [habandoned]
      exact h.used j

/-- A failed attempt leaves its channel behind or tries its next key. -/
lemma Belongs.afterFailure {err : RelayError} (h : Belongs cur chosen id p c)
    (hnext : afterFailure S w
      { attempted s id p c with ctx := { c with channelMeta := true }, newAPIError := some err } id err = .next s') :
    AtNext cur chosen s' := by
  have hallowed : (attempted s id p c).param.allowedChannelIds = p.allowedChannelIds := by
    change (if c.channelIsMultiKey then p.markKeyTried id (breakerKeyIndex c) else p).allowedChannelIds = _
    unfold RetryParam.markKeyTried
    split_ifs <;> rfl
  have hreset : (attempted s id p c).param.resetNextTry = p.resetNextTry := by
    change (if c.channelIsMultiKey then p.markKeyTried id (breakerKeyIndex c) else p).resetNextTry = _
    unfold RetryParam.markKeyTried
    split_ifs <;> rfl
  have hpinned : ∀ q : RetryParam, q.allowedChannelIds = (attempted s id p c).param.allowedChannelIds →
      p.allowedChannelIds = some [cur.channelId] → q.increaseRetry.allowedChannelIds = some [cur.channelId] := by
    intro q hq hp
    unfold RetryParam.increaseRetry
    split_ifs <;> rw [hq,hallowed,hp]
  unfold Relay.afterFailure at hnext
  revert hnext
  cases hr : rotateTo S w
      { attempted s id p c with ctx := { c with channelMeta := true }, newAPIError := some err } id err with
  | some ch =>
    intro hnext
    obtain rfl := Pass.next.inj hnext
    obtain ⟨rfl,-⟩ := rotateTo_eq_some hr
    refine ⟨rfl,?_,?_,h.used,fun hnone => nomatch hnone⟩
    · intro ch' hch
      obtain rfl := Option.mem_some.mp hch
      exact h.channel
    · rcases h.pinned with hp | -
      · exact .inl (hpinned _ rfl hp)
      · exact .inr ⟨rfl,fun hnone => nomatch hnone⟩
  | none =>
    intro hnext
    simp only at hnext
    split_ifs at hnext
    obtain rfl := Pass.next.inj hnext
    refine ⟨rfl,(fun ch hch => nomatch hch),?_,?_,?_⟩
    · rcases h.pinned with hp | hp
      · exact .inl (hpinned _ rfl hp)
      · refine .inr ?_
        simp only [RetryParam.increaseRetry,hreset,hp,Bool.false_eq_true,if_false,Nat.succ_pos,imp_true_iff,and_self]
    · intro j
      rw [←h.used j,h.channel]
      simp [or_comm]
    · intro _
      rw [h.channel]
      exact List.mem_cons_self

lemma members_afterFailure {err : RelayError} (hnext : afterFailure S w s id err = .next s') :
    s'.ctx.modelGroupMembers = s.ctx.modelGroupMembers := by
  unfold afterFailure at hnext
  cases hr : rotateTo S w s id err with
  | some ch =>
    rw [hr] at hnext
    rw [←Pass.next.inj hnext]
  | none =>
    rw [hr] at hnext
    simp only at hnext
    split_ifs at hnext
    rw [←Pass.next.inj hnext]

lemma members_relayPass (hpass : relayPass S w s = .next s') :
    s'.ctx.modelGroupMembers = s.ctx.modelGroupMembers := by
  obtain ⟨id,p,c,err,hatt,hafter⟩ := relayPass_eq_next hpass
  rw [members_afterFailure hafter]
  exact (getChannel_target hatt.channel).1.2.2

lemma Turning.next (h : Turning members s chosen) (hpass : relayPass S w s = .next s') :
    Turning members s' ((chosenMember S w s).toList++chosen) := by
  obtain ⟨id,p,c,err,hatt,hafter⟩ := relayPass_eq_next hpass
  refine ⟨h.turns_chosen,(members_relayPass hpass).trans h.group,?_⟩
  obtain ⟨cur,⟨rfl,hfirst⟩ | hnext⟩ := h.current
  · obtain ⟨hnone,hbelongs⟩ := hfirst.attempt hatt
    rw [hnone]
    exact ⟨cur,.inr (hbelongs.afterFailure hafter)⟩
  · have hne : s.ctx.modelGroupMembers≠[] := by
      rw [h.group]
      obtain ⟨a,ha,-⟩ := List.mem_map.mp ((hnext.used cur.channelId).mp (.inr rfl))
      exact List.ne_nil_of_mem (h.turns.mem ha)
    exact ⟨_,.inr ((hnext.attempt hne hatt).afterFailure hafter)⟩

/-- The members of every pass of a run that starts with the channel of the picked member. -/
lemma Turning.run {start q : RelayState × List ModelGroupMember} (h : Turning members start.1 start.2)
    (hrun : Reaches (choosing S) start q) : Turning members q.1 q.2 := by
  apply hrun.invariant (I := fun q => Turning members q.1 q.2) ?_ h
  intro w q q' hq hpass
  obtain ⟨hbody,hlist⟩ := recording_eq_next hpass
  rw [hlist]
  exact hq.next hbody

/-- Only members of the group are chosen. -/
structure InGroup (members : List ModelGroupMember) (s : RelayState) (chosen : List ModelGroupMember) : Prop where
  group : s.ctx.modelGroupMembers = members
  chosen : ∀ a∈chosen, a∈members

lemma InGroup.chosenMember (h : InGroup members s chosen) (S : RelaySettings) (w : Surroundings) :
    ∀ a∈(Relay.chosenMember S w s).toList++chosen, a∈members := by
  intro a ha
  rcases List.mem_append.mp ha with ha | ha
  · have hpick := (chosenMember_eq_some (Option.mem_toList.mp ha)).2.2
    rw [h.group] at hpick
    exact pickModelGroupMember_mem hpick
  · exact h.chosen a ha

lemma InGroup.run {start q : RelayState × List ModelGroupMember} (h : InGroup members start.1 start.2)
    (hrun : Reaches (choosing S) start q) : InGroup members q.1 q.2 := by
  apply hrun.invariant (I := fun q => InGroup members q.1 q.2) ?_ h
  intro w q q' hq hpass
  obtain ⟨hbody,hlist⟩ := recording_eq_next hpass
  rw [hlist]
  exact ⟨(members_relayPass hbody).trans hq.group,hq.chosenMember S w⟩

end

/-! ## Requests to a group -/

lemma abandoned_distribute {S : RelaySettings} {w : Surroundings} {q : RelayRequest} {r : RoutedRequest} {c : Context}
    (h : distribute S w q r = .ok c) : c.abandonedChannel = [] := by
  have hsetup : ∀ d : Context, ∀ ch, d.abandonedChannel = [] →
      (setupContextForSelectedChannel w d ch).abandonedChannel = [] := by
    intro d ch hd
    unfold setupContextForSelectedChannel
    split
    · rename_i c' hc
      exact (abandoned_setupContext hc).trans hd
    · exact hd
  unfold distribute at h
  obtain ⟨_,-,h⟩ := bind_eq_ok.mp h
  obtain ⟨⟨ch,d⟩,hchoose,h⟩ := bind_eq_ok.mp h
  obtain rfl := Except.ok.inj h
  apply hsetup
  unfold chooseChannel at hchoose
  simp only at hchoose
  split at hchoose
  · obtain ⟨_,-,hchoose⟩ := bind_eq_ok.mp hchoose
    obtain ⟨_,-,hchoose⟩ := bind_eq_ok.mp hchoose
    obtain ⟨-,rfl⟩ := Prod.mk.inj (Except.ok.inj hchoose)
    rfl
  · obtain ⟨_,-,hchoose⟩ := bind_eq_ok.mp hchoose
    obtain ⟨_,-,hchoose⟩ := bind_eq_ok.mp hchoose
    obtain ⟨o,-,hchoose⟩ := bind_eq_ok.mp hchoose
    cases o with
    | some channel =>
      obtain ⟨-,rfl⟩ := Prod.mk.inj (Except.ok.inj hchoose)
      rfl
    | none =>
      have hkeep := abandoned_cacheGet S w
        (selectionParam q r (getModelRequest q.endpoint r.model)) (requestContext q r)
      simp only at hchoose
      split at hchoose
      · rename_i channel p c' hsearch
        obtain ⟨-,rfl⟩ := Prod.mk.inj (Except.ok.inj hchoose)
        rw [hsearch] at hkeep
        exact hkeep
      · contradiction

/-- A row of an enabled group. -/
def EnabledMember (t : GroupTables) (groupId : ℕ) (a : ModelGroupMember) : Prop :=
  (∃ g, t.modelGroups.find? groupId = some g ∧ g.enabled = true) ∧
    ∃ id row, t.modelGroupMembers.find? id = some row ∧ row.groupId = groupId ∧ row.member = a

lemma enabledMember_of_mem {t : GroupTables} {groupId : ℕ} {a : ModelGroupMember}
    (h : a∈getOrderedModelGroupMembers t groupId) : EnabledMember t groupId a := by
  obtain ⟨row,hrow,rfl⟩ := mem_getOrderedModelGroupMembers.mp h
  obtain ⟨hg,hid,id,hf⟩ := mem_getModelGroupMembers.mp hrow
  exact ⟨hg,id,row,hf,hid,rfl⟩

/-- Whatever fails, only members of the enabled group are chosen. If the first attempt went to the channel of the
member picked for it, nobody has a second turn before everyone has had one exactly if no two members share a channel,
or if there are no more turns than channels. -/
theorem member_turns (S : RelaySettings) (t : GroupTables) (m : Manager) (bodyWritten : Bool) (requestedModel : String)
    (groupId : ℕ) (w : Surroundings) (q : RelayRequest) (c : Context) (first : ModelGroupMember)
    (hfirst : pickModelGroupMember m (getOrderedModelGroupMembers t groupId) [] = some first)
    (hdistribute : distribute S w q (routeToGroup t m bodyWritten requestedModel groupId) = .ok c)
    (head : RelayState × List ModelGroupMember)
    (hrun : Reaches (choosing S) (initialState q.tokenGroup
      (getModelRequest q.endpoint (routeToGroup t m bodyWritten requestedModel groupId).model) c,[first]) head)
    (w' : Surroundings) :
    let members := getOrderedModelGroupMembers t groupId
    let chosen := (choosing S w' head).state.2
    (∀ a∈chosen, EnabledMember t groupId a) ∧
      (c.channelId = first.channelId → (FairTurns members chosen ↔
        Set.InjOn ModelGroupMember.channelId {a | a∈members} ∨
          chosen.length≤(members.map ModelGroupMember.channelId).dedup.length)) := by
  intro members chosen
  have hchosen : chosen = (chosenMember S w' head.1).toList++head.2 := recording_recorded
  obtain ⟨hfresh,hgroup⟩ := context_distribute hdistribute
  have hmembers : c.modelGroupMembers = members := hgroup.trans (members_routeToGroup m bodyWritten requestedModel)
  rw [hchosen]
  constructor
  · intro a ha
    have hstart : InGroup members (initialState q.tokenGroup (getModelRequest q.endpoint
        (routeToGroup t m bodyWritten requestedModel groupId).model) c) [first] := by
      refine ⟨hmembers,?_⟩
      intro b hb
      rw [List.mem_singleton.mp hb]
      exact pickModelGroupMember_mem hfirst
    have hin : InGroup members head.1 head.2 := hstart.run hrun
    exact enabledMember_of_mem (hin.chosenMember S w' a ha)
  · intro hserved
    have hturns : Turns ModelGroupMember.channelId members [first] := by
      rcases pickModelGroupMember_spec hfirst with ⟨-,hfind⟩ | ⟨hall,hhead⟩
      · exact .fresh .nil hfind List.not_mem_nil
      · exact absurd (hall first (List.mem_of_head? hhead)) List.not_mem_nil
    have hstart : Turning members (initialState q.tokenGroup (getModelRequest q.endpoint
        (routeToGroup t m bodyWritten requestedModel groupId).model) c) [first] :=
      ⟨hturns,hmembers,first,.inl ⟨rfl,hfresh,hserved,rfl,rfl,rfl,abandoned_distribute hdistribute⟩⟩
    have hturning : Turning members head.1 head.2 := hstart.run hrun
    exact (hturning.turns_chosen (S := S) (w := w')).fair_iff

/-! ## A channel with two members -/

/-- Two members on the first channel and one on the second. -/
def threeMembers : GroupTables where
  modelGroups := Table.empty.insert ⟨true⟩
  modelGroupMembers := ((Table.empty.insert ⟨1,1,"m-a",some 3⟩).insert ⟨1,1,"m-b",some 2⟩).insert ⟨1,2,"m-c",some 1⟩

/-- Every upstream fails. -/
def failingUpstreams : Surroundings where
  memoryCacheEnabled := false
  tables := withChannel (withChannel ⟨.empty,[]⟩ { plainChannel 5 1 with models := "m-a,m-b" })
    { plainChannel 5 1 with models := "m-c" }
  cache := ⟨fun _ _ => [],fun _ => none⟩
  breaker := quietBreaker
  autoGroups := []
  userAutoGroup := []
  channelRoll := fun _ => 0
  keyRoll := 0
  bodyError := none
  outcome := some ⟨500,"bad_response_status_code",false⟩
  skipRetryAfterChannelAffinityFailure := false

def retrying : RelaySettings := ⟨3,0,false,0,[],[⟨100,599⟩]⟩

/-- The request to the group, routed and distributed. -/
def distributed : Option Context :=
  (distribute retrying failingUpstreams groupRequest (routeToGroup threeMembers quietBreaker true "auto" 1)).toOption

lemma isSome_distributed : distributed.isSome = true := by decide

def groupRun : ℕ → RelayState × List ModelGroupMember
  | 0 => (initialState "default" "m-a" (distributed.get isSome_distributed),[⟨1,"m-a"⟩])
  | n+1 => (choosing retrying failingUpstreams (groupRun n)).state

theorem member_turns_first : FairTurns (getOrderedModelGroupMembers threeMembers 1)
    (choosing retrying failingUpstreams (groupRun 0)).state.2 := by
  have hdistribute := toOption_eq_some.mp (Option.some_get isSome_distributed).symm
  have hturns := (member_turns retrying threeMembers quietBreaker true "auto" 1 failingUpstreams groupRequest _
    ⟨1,"m-a"⟩ (by decide) hdistribute (groupRun 0) .refl failingUpstreams).2 (by decide)
  exact hturns.mpr (.inr (by decide))

/-- The second member of the first channel is passed over, and the first one has another turn. -/
theorem sharedChannel_passes_over : Reaches (choosing retrying) (groupRun 0) (groupRun 2) ∧
    ¬FairTurns (getOrderedModelGroupMembers threeMembers 1)
      (choosing retrying failingUpstreams (groupRun 2)).state.2 := by
  constructor
  · have hgoes : ∀ n < 2, (choosing retrying failingUpstreams (groupRun n)).goesOn = true := by decide
    exact .next failingUpstreams (.next failingUpstreams .refl (Pass.eq_next (hgoes 0 (by decide))))
      (Pass.eq_next (hgoes 1 (by decide)))
  · have hchosen : (choosing retrying failingUpstreams (groupRun 2)).state.2 =
        [⟨1,"m-a"⟩,⟨2,"m-c"⟩,⟨1,"m-a"⟩] := by decide
    rw [hchosen]
    intro h
    have hall := h _ _ (List.suffix_refl _) (by decide) ⟨1,"m-b"⟩ (by decide)
    revert hall
    decide

end Relay
end Tierflow
