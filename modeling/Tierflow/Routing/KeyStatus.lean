import Tierflow.Routing.Keys

/-! The status of a channel and of its keys is kept twice, in the memory cache and in the channel's row. A
call changes the cached channel first and its row afterwards, and leaves the row alone when the row has the
requested status already. -/
namespace Tierflow
open TxSystem
namespace Routing

/-! ## Status lists -/

section StatusList
variable {α : Type*}

def deleteKey (l : List (ℕ × α)) (i : ℕ) : List (ℕ × α) := l.filter (fun e => e.1 != i)

def setKey (l : List (ℕ × α)) (i : ℕ) (a : α) : List (ℕ × α) := (i,a)::deleteKey l i

lemma lookup_deleteKey (l : List (ℕ × α)) (i j : ℕ) :
    (deleteKey l i).lookup j = if j=i then none else l.lookup j := by
  induction l with
  | nil => simp [deleteKey]
  | cons e l ih =>
    obtain ⟨k,a⟩ := e
    unfold deleteKey at ih ⊢
    rw [List.filter_cons,List.lookup_cons]
    by_cases hk : k=i
    · subst k
      have hi : (i != i) = false := bne_self_eq_false i
      simp only [hi,Bool.false_eq_true,if_false]
      rw [ih]
      split_ifs with hj
      · rfl
      · rw [beq_false_of_ne hj]
    · have hi : (k != i) = true := bne_iff_ne.mpr hk
      simp only [hi,if_true]
      rw [List.lookup_cons,ih]
      by_cases hj : j=k
      · subst j
        simp only [beq_self_eq_true,if_neg hk]
      · rw [beq_false_of_ne hj]

lemma lookup_setKey (l : List (ℕ × α)) (i j : ℕ) (a : α) :
    (setKey l i a).lookup j = if j=i then some a else l.lookup j := by
  unfold setKey
  rw [List.lookup_cons]
  by_cases hj : j=i
  · rw [if_pos hj,hj,beq_self_eq_true]
  · rw [if_neg hj,beq_false_of_ne hj]
    exact (lookup_deleteKey l i j).trans (if_neg hj)

end StatusList

/-! ## Channels and calls -/

/-- A channel with the notes on why and when it, or one of its keys, was disabled. -/
structure StatusChannel extends Channel where
  multiKeyDisabledReason : List (ℕ × String)
  multiKeyDisabledTime : List (ℕ × ℤ)
  statusReason : Option String
  statusTime : Option ℤ
  deriving DecidableEq, Repr

/-- A call, with the times at which it notes its change in the cache and in the row. -/
structure StatusCall where
  channelId : ℕ
  usingKey : String
  status : ChannelStatus
  reason : String
  cacheTime : ℤ
  rowTime : ℤ
  deriving DecidableEq, Repr

structure StatusState where
  group2model2channels : String → String → List ℕ
  channelsIDM : ℕ → Option StatusChannel
  channels : Table StatusChannel
  abilities : List Ability

def hasEnabledMultiKey (keys : List String) (statusOf : ℕ → Option ChannelStatus) : Bool :=
  (List.range keys.length).any (fun i => (statusOf i).getD .enabled = .enabled)

namespace StatusChannel

def setStatus (c : StatusChannel) (status : ChannelStatus) : StatusChannel := { c with status := status }

def noteStatus (c : StatusChannel) (reason : String) (now : ℤ) : StatusChannel :=
  { c with statusReason := some reason, statusTime := some now }

def setStatusList (c : StatusChannel) (l : List (ℕ × ChannelStatus)) : StatusChannel :=
  { c with channelInfo := { c.channelInfo with multiKeyStatusList := l } }

def noteKey (c : StatusChannel) (i : ℕ) (reason : String) (now : ℤ) : StatusChannel :=
  { c with
    multiKeyDisabledReason := setKey c.multiKeyDisabledReason i reason
    multiKeyDisabledTime := setKey c.multiKeyDisabledTime i now }

/-- The status list, read as a map. -/
def statusOf (c : StatusChannel) : ℕ → Option ChannelStatus := fun i => List.lookup i c.channelInfo.multiKeyStatusList

/-- The key of an index takes over a status; an enabled key has no entry. -/
def updateKey (c : StatusChannel) (i : ℕ) (status : ChannelStatus) (reason : String) (now : ℤ) : StatusChannel :=
  if status = .enabled then c.setStatusList (deleteKey c.channelInfo.multiKeyStatusList i)
  else (c.setStatusList (setKey c.channelInfo.multiKeyStatusList i status)).noteKey i reason now

/-- The status of a channel follows when a key was given a status. -/
def settleStatus (c : StatusChannel) (status : ChannelStatus) (now : ℤ) : StatusChannel :=
  if !hasEnabledMultiKey c.keys c.statusOf then (c.setStatus .autoDisabled).noteStatus "All keys are disabled" now
  else if status = .enabled then c.setStatus .enabled
  else c

def handlerMultiKeyUpdate (c : StatusChannel) (usingKey : String) (status : ChannelStatus) (reason : String)
    (now : ℤ) : StatusChannel :=
  if c.keys = [] then c.setStatus status
  else
    match c.keys.idxOf? usingKey with
    | none => if usingKey≠"" then c else (c.setStatus status).noteStatus reason now
    | some i => (c.updateKey i status reason now).settleStatus status now

end StatusChannel

/-! ## The update of cache and row -/

namespace StatusState

/-- A channel that is not enabled is taken out of all pools. -/
def cacheUpdateChannelStatus (s : StatusState) (id : ℕ) (status : ChannelStatus) : StatusState :=
  { s with
    channelsIDM := Function.update s.channelsIDM id ((s.channelsIDM id).map (fun c => c.setStatus status))
    group2model2channels := fun group model =>
      if status = .enabled then s.group2model2channels group model
      else (s.group2model2channels group model).erase id }

/-- The change of the cache; no state when the call ends here. -/
def updateCache (s : StatusState) (i : StatusCall) : Option StatusState :=
  match s.channelsIDM i.channelId with
  | none => none
  | some c =>
    if c.channelInfo.isMultiKey then
      let c' := c.handlerMultiKeyUpdate i.usingKey i.status i.reason i.cacheTime
      let s := { s with channelsIDM := Function.update s.channelsIDM i.channelId (some c') }
      some (if c.status≠c'.status then s.cacheUpdateChannelStatus i.channelId c'.status else s)
    else if c.status = i.status then none
    else some (s.cacheUpdateChannelStatus i.channelId i.status)

/-- The abilities follow the requested status, not the one that the channel got. -/
def updateAbilityStatus (s : StatusState) (id : ℕ) (enabled : Bool) : StatusState :=
  { s with abilities := s.abilities.map (fun a => if a.channelId = id then { a with enabled := enabled } else a) }

/-- The change of the row, and whether it was written. -/
def updateRow (s : StatusState) (i : StatusCall) : StatusState × Bool :=
  match s.channels.find? i.channelId with
  | none => (s,false)
  | some r =>
    if r.status = i.status then (s,false)
    else
      let r' :=
        if r.channelInfo.isMultiKey then r.handlerMultiKeyUpdate i.usingKey i.status i.reason i.rowTime
        else (r.noteStatus i.reason i.rowTime).setStatus i.status
      let s := { s with channels := s.channels.set i.channelId r' }
      (if !r.channelInfo.isMultiKey || r.status≠r'.status then
        s.updateAbilityStatus i.channelId (i.status = .enabled) else s,true)

def updateChannelStatus (s : StatusState) (i : StatusCall) : StatusState × Bool :=
  match s.updateCache i with
  | none => (s,false)
  | some s => s.updateRow i

end StatusState

/-- Every call leads to a next state and returns whether a row was written. -/
def statusSystem : TxSystem StatusState StatusCall Bool where
  step s i := some ((s.updateChannelStatus i).1,[(s.updateChannelStatus i).2])

/-! ## What the calls do to a status and a status map -/

/-- The status of a channel and the statuses recorded for its keys. -/
@[ext] structure KeyView where
  status : ChannelStatus
  statusOf : ℕ → Option ChannelStatus

def StatusChannel.view (c : StatusChannel) : KeyView := ⟨c.status,c.statusOf⟩

namespace KeyView

/-- An enabled key is not recorded. -/
def entry (status : ChannelStatus) : Option ChannelStatus := if status = .enabled then none else some status

/-- The status of a channel once one of its keys was given a status. -/
def settle (v : KeyView) (keys : List String) (status : ChannelStatus) : KeyView :=
  if !hasEnabledMultiKey keys v.statusOf then ⟨.autoDisabled,v.statusOf⟩
  else if status = .enabled then ⟨.enabled,v.statusOf⟩
  else v

def update (v : KeyView) (keys : List String) (usingKey : String) (status : ChannelStatus) : KeyView :=
  if keys = [] then ⟨status,v.statusOf⟩
  else
    match keys.idxOf? usingKey with
    | none => if usingKey≠"" then v else ⟨status,v.statusOf⟩
    | some i => KeyView.settle ⟨v.status,Function.update v.statusOf i (entry status)⟩ keys status

end KeyView

namespace StatusChannel
variable (c : StatusChannel) (i : ℕ) (usingKey : String) (status : ChannelStatus) (reason : String) (now : ℤ)

@[simp] lemma view_setStatus : (c.setStatus status).view = ⟨status,c.statusOf⟩ := rfl
@[simp] lemma view_noteStatus : (c.noteStatus reason now).view = c.view := rfl
@[simp] lemma keys_updateKey : (c.updateKey i status reason now).keys = c.keys := by
  unfold updateKey
  split_ifs <;> rfl

@[simp] lemma status_updateKey : (c.updateKey i status reason now).status = c.status := by
  unfold updateKey
  split_ifs <;> rfl

@[simp] lemma isMultiKey_updateKey :
    (c.updateKey i status reason now).channelInfo.isMultiKey = c.channelInfo.isMultiKey := by
  unfold updateKey
  split_ifs <;> rfl

@[simp] lemma statusOf_updateKey :
    (c.updateKey i status reason now).statusOf = Function.update c.statusOf i (KeyView.entry status) := by
  funext j
  unfold updateKey KeyView.entry
  split_ifs with h
  · change (deleteKey _ i).lookup j = _
    rw [lookup_deleteKey,Function.update_apply]
    rfl
  · change (setKey _ i status).lookup j = _
    rw [lookup_setKey,Function.update_apply]
    rfl

lemma view_settleStatus : (c.settleStatus status now).view = c.view.settle c.keys status := by
  unfold settleStatus KeyView.settle
  rw [apply_ite view,apply_ite view]
  rfl

lemma view_updateKey : (c.updateKey i status reason now).view =
    ⟨c.status,Function.update c.statusOf i (KeyView.entry status)⟩ :=
  KeyView.ext (c.status_updateKey i status reason now) (c.statusOf_updateKey i status reason now)

/-- The handler changes what is compared as the view says. -/
lemma view_handlerMultiKeyUpdate :
    (c.handlerMultiKeyUpdate usingKey status reason now).view = c.view.update c.keys usingKey status := by
  unfold handlerMultiKeyUpdate KeyView.update
  by_cases hk : c.keys = []
  · rw [if_pos hk,if_pos hk]
    rfl
  · rw [if_neg hk,if_neg hk]
    cases c.keys.idxOf? usingKey with
    | none =>
      simp only
      split_ifs <;> rfl
    | some i =>
      simp only
      rw [view_settleStatus,view_updateKey,keys_updateKey]
      rfl

lemma keys_handlerMultiKeyUpdate : (c.handlerMultiKeyUpdate usingKey status reason now).keys = c.keys := by
  unfold handlerMultiKeyUpdate settleStatus
  split
  · rfl
  · split
    · split_ifs <;> rfl
    · split_ifs <;> simp [setStatus,noteStatus]

lemma isMultiKey_handlerMultiKeyUpdate :
    (c.handlerMultiKeyUpdate usingKey status reason now).channelInfo.isMultiKey = c.channelInfo.isMultiKey := by
  unfold handlerMultiKeyUpdate settleStatus
  split
  · rfl
  · split
    · split_ifs <;> rfl
    · split_ifs <;> simp [setStatus,noteStatus]

end StatusChannel
namespace KeyView
variable {v : KeyView} {keys : List String} {usingKey : String} {status : ChannelStatus}

/-- A call for a channel: in multi-key mode it may be about a key. -/
def called (v : KeyView) (isMultiKey : Bool) (keys : List String) (i : StatusCall) : KeyView :=
  if isMultiKey then v.update keys i.usingKey i.status else ⟨i.status,v.statusOf⟩

/-- What a call for a key asks for is the case already. -/
def Settled (v : KeyView) (keys : List String) (usingKey : String) (status : ChannelStatus) : Prop :=
  ∀ n, keys.idxOf? usingKey = some n → v.statusOf n = entry status ∧
    (hasEnabledMultiKey keys v.statusOf = true ∨ status = .autoDisabled)

lemma settle_eq_self_iff (h : v.status = status) :
    v.settle keys status = v ↔ hasEnabledMultiKey keys v.statusOf = true ∨ status = .autoDisabled := by
  unfold settle
  cases ha : hasEnabledMultiKey keys v.statusOf with
  | true =>
    simp only [Bool.not_true,Bool.false_eq_true,if_false,true_or,iff_true]
    split_ifs with he
    · exact KeyView.ext (he ▸ h).symm rfl
    · rfl
  | false =>
    simp only [Bool.not_false,if_true,Bool.false_eq_true,false_or]
    rw [←h]
    constructor
    · exact fun hv => (congrArg KeyView.status hv).symm
    · exact fun hv => KeyView.ext hv.symm rfl

lemma settle_statusOf (v : KeyView) (keys : List String) (status : ChannelStatus) :
    (v.settle keys status).statusOf = v.statusOf := by
  unfold settle
  split_ifs <;> rfl

/-- When a channel has the requested status, a call changes nothing exactly when it is settled. -/
lemma update_eq_self_iff (h : v.status = status) :
    v.update keys usingKey status = v ↔ v.Settled keys usingKey status := by
  unfold update Settled
  by_cases hk : keys = []
  · subst keys
    simp only [if_true,List.idxOf?_nil]
    exact iff_of_true (KeyView.ext h.symm rfl) (fun n hn => by contradiction)
  · rw [if_neg hk]
    cases keys.idxOf? usingKey with
    | none =>
      refine iff_of_true ?_ (fun n hn => by contradiction)
      simp only
      split_ifs
      · rfl
      · exact KeyView.ext h.symm rfl
    | some i =>
      simp only [Option.some.injEq,forall_eq']
      constructor
      · intro hv
        have hmap : Function.update v.statusOf i (entry status) = v.statusOf := by
          have := congrArg KeyView.statusOf hv
          rwa [settle_statusOf] at this
        rw [hmap] at hv
        exact ⟨(Function.update_eq_self_iff.mp hmap).symm,(settle_eq_self_iff h).mp hv⟩
      · rintro ⟨hi,hs⟩
        rw [←hi,Function.update_eq_self]
        exact (settle_eq_self_iff h).mpr hs

end KeyView

/-! ## Agreement -/

namespace StatusChannel
variable (c : StatusChannel) (i : StatusCall)

/-- The cached channel after a call that reaches it. -/
def updatedCache : StatusChannel :=
  if c.channelInfo.isMultiKey then c.handlerMultiKeyUpdate i.usingKey i.status i.reason i.cacheTime
  else c.setStatus i.status

/-- The row after a call that writes it. -/
def updatedRow : StatusChannel :=
  if c.channelInfo.isMultiKey then c.handlerMultiKeyUpdate i.usingKey i.status i.reason i.rowTime
  else (c.noteStatus i.reason i.rowTime).setStatus i.status

/-- Two records of one channel. -/
structure SameKeys (c r : StatusChannel) : Prop where
  keys : c.keys = r.keys
  isMultiKey : c.channelInfo.isMultiKey = r.channelInfo.isMultiKey

lemma view_updatedCache : (c.updatedCache i).view = c.view.called c.channelInfo.isMultiKey c.keys i := by
  unfold updatedCache KeyView.called
  split_ifs
  · exact c.view_handlerMultiKeyUpdate i.usingKey i.status i.reason i.cacheTime
  · rfl

lemma view_updatedRow : (c.updatedRow i).view = c.view.called c.channelInfo.isMultiKey c.keys i := by
  unfold updatedRow KeyView.called
  split_ifs
  · exact c.view_handlerMultiKeyUpdate i.usingKey i.status i.reason i.rowTime
  · rfl

lemma sameKeys_updatedCache : (c.updatedCache i).SameKeys c := by
  unfold updatedCache
  split_ifs
  · exact ⟨c.keys_handlerMultiKeyUpdate _ _ _ _,c.isMultiKey_handlerMultiKeyUpdate _ _ _ _⟩
  · exact ⟨rfl,rfl⟩

lemma sameKeys_updatedRow : (c.updatedRow i).SameKeys c := by
  unfold updatedRow
  split_ifs
  · exact ⟨c.keys_handlerMultiKeyUpdate _ _ _ _,c.isMultiKey_handlerMultiKeyUpdate _ _ _ _⟩
  · exact ⟨rfl,rfl⟩

end StatusChannel

namespace StatusState
variable {s t : StatusState} {i : StatusCall}

/-- Whenever a cached channel has a row, the two are related. -/
def Pairs (R : StatusChannel → StatusChannel → Prop) (s : StatusState) : Prop :=
  ∀ id c r, s.channelsIDM id = some c → s.channels.find? id = some r → R c r

/-- A cached channel has the status of its row, and its keys have the statuses of the row's keys. -/
def Agree : StatusState → Prop := Pairs (fun c r => c.view = r.view)

def SameKeys : StatusState → Prop := Pairs StatusChannel.SameKeys

/-- A call about a key of a channel that has the requested status already asks for what is the case. -/
def Settled (s : StatusState) (i : StatusCall) : Prop :=
  ∀ c, s.channelsIDM i.channelId = some c → (s.channels.find? i.channelId).isSome →
    c.channelInfo.isMultiKey = true → c.status = i.status → c.view.Settled c.keys i.usingKey i.status

/-- The call goes on to the row: the cache knows the channel, and knows something to change. -/
def Reaches (c : StatusChannel) (i : StatusCall) : Prop :=
  c.channelInfo.isMultiKey = true ∨ c.status≠i.status

instance (c : StatusChannel) (i : StatusCall) : Decidable (Reaches c i) := instDecidableOr

/-- A call that goes on has updated the cached channel and nothing else that is compared. -/
lemma updateCache_of_reaches {c : StatusChannel} (hc : s.channelsIDM i.channelId = some c) (hr : Reaches c i) :
    ∃ t, s.updateCache i = some t ∧ t.channels = s.channels ∧
      t.channelsIDM = Function.update s.channelsIDM i.channelId (some (c.updatedCache i)) := by
  unfold updateCache StatusChannel.updatedCache
  rw [hc]
  simp only
  cases hm : c.channelInfo.isMultiKey with
  | true =>
    simp only [if_true]
    split_ifs
    · refine ⟨_,rfl,rfl,?_⟩
      unfold cacheUpdateChannelStatus
      simp only [Function.update_self,Option.map_some,Function.update_idem]
      rfl
    · exact ⟨_,rfl,rfl,rfl⟩
  | false =>
    have hne : c.status≠i.status := hr.resolve_left (by simp [hm])
    simp only [Bool.false_eq_true,if_false,hne]
    refine ⟨_,rfl,rfl,?_⟩
    unfold cacheUpdateChannelStatus
    rw [hc]
    rfl

lemma updateCache_of_not_reaches {c : StatusChannel} (hc : s.channelsIDM i.channelId = some c)
    (hr : ¬Reaches c i) : s.updateCache i = none := by
  unfold Reaches at hr
  push Not at hr
  unfold updateCache
  rw [hc]
  simp only
  rw [if_neg hr.1,if_pos hr.2]

@[simp] lemma channelsIDM_updateRow : (s.updateRow i).1.channelsIDM = s.channelsIDM := by
  unfold updateRow
  split
  · rfl
  · split
    · rfl
    · simp only
      split_ifs <;> rfl

lemma channels_updateRow {r : StatusChannel} (hr : s.channels.find? i.channelId = some r) :
    (s.updateRow i).1.channels =
      if r.status = i.status then s.channels else s.channels.set i.channelId (r.updatedRow i) := by
  unfold updateRow StatusChannel.updatedRow
  rw [hr]
  simp only
  split_ifs <;> rfl

/-- A row that has the requested status stays as it is. -/
lemma find?_updateRow (j : ℕ) : (s.updateRow i).1.channels.find? j = (s.channels.find? j).map (fun r =>
    if j = i.channelId ∧ r.status≠i.status then r.updatedRow i else r) := by
  cases hr : s.channels.find? i.channelId with
  | none =>
    unfold updateRow
    rw [hr]
    simp only
    by_cases hj : j = i.channelId
    · rw [hj,hr]
      rfl
    · simp [hj]
  | some r =>
    rw [channels_updateRow hr]
    by_cases hs : r.status = i.status
    · rw [if_pos hs]
      by_cases hj : j = i.channelId
      · simp [hj,hr,hs]
      · simp [hj]
    · rw [if_neg hs,Table.find?_set,hr]
      by_cases hj : j = i.channelId
      · simp [hj,hr,hs]
      · simp [hj]

/-- What a call makes of a cached channel and of its row. -/
lemma updateChannelStatus_of_reaches {c : StatusChannel} (hc : s.channelsIDM i.channelId = some c)
    (hr : Reaches c i) :
    (s.updateChannelStatus i).1.channelsIDM = Function.update s.channelsIDM i.channelId (some (c.updatedCache i)) ∧
    ∀ j, (s.updateChannelStatus i).1.channels.find? j = (s.channels.find? j).map (fun r =>
      if j = i.channelId ∧ r.status≠i.status then r.updatedRow i else r) := by
  obtain ⟨t,ht,hrows,hcache⟩ := updateCache_of_reaches hc hr
  unfold updateChannelStatus
  rw [ht]
  refine ⟨channelsIDM_updateRow.trans hcache,?_⟩
  intro j
  rw [←hrows]
  exact find?_updateRow j

/-- A call that ends in the cache changes nothing. -/
lemma updateChannelStatus_of_ends (h : ∀ c, s.channelsIDM i.channelId = some c → ¬Reaches c i) :
    (s.updateChannelStatus i).1 = s := by
  unfold updateChannelStatus
  cases hc : s.channelsIDM i.channelId with
  | none =>
    have hn : s.updateCache i = none := by rw [updateCache,hc]
    rw [hn]
  | some c => rw [updateCache_of_not_reaches hc (h c hc)]

/-- A relation between the two records holds after a call if the change of the one it concerns keeps it. -/
lemma pairs_updateChannelStatus {R : StatusChannel → StatusChannel → Prop} (h : s.Pairs R)
    (hstep : ∀ c r, s.channelsIDM i.channelId = some c → s.channels.find? i.channelId = some r → Reaches c i →
      R (c.updatedCache i) (if r.status≠i.status then r.updatedRow i else r)) :
    (s.updateChannelStatus i).1.Pairs R := by
  by_cases hex : ∃ c, s.channelsIDM i.channelId = some c ∧ Reaches c i
  · obtain ⟨c,hc,hr⟩ := hex
    obtain ⟨hcache,hrows⟩ := updateChannelStatus_of_reaches hc hr
    intro id c' r' hc' hr'
    rw [hcache,Function.update_apply] at hc'
    rw [hrows] at hr'
    obtain ⟨r,hr0,rfl⟩ := Option.map_eq_some_iff.mp hr'
    by_cases hid : id = i.channelId
    · subst id
      rw [if_pos rfl] at hc'
      obtain rfl := Option.some.inj hc'
      simp only [true_and]
      exact hstep c r hc hr0 hr
    · rw [if_neg hid] at hc'
      simp only [hid,false_and,if_false]
      exact h id c' r hc' hr0
  · rw [updateChannelStatus_of_ends (fun c hc hr => hex ⟨c,hc,hr⟩)]
    exact h

lemma sameKeys_updateChannelStatus (h : s.SameKeys) : (s.updateChannelStatus i).1.SameKeys := by
  apply pairs_updateChannelStatus h
  intro c r hc hr _
  have hcr := h i.channelId c r hc hr
  have hc' := c.sameKeys_updatedCache i
  split_ifs
  · have hr' := r.sameKeys_updatedRow i
    exact ⟨hc'.keys.trans (hcr.keys.trans hr'.keys.symm),
      hc'.isMultiKey.trans (hcr.isMultiKey.trans hr'.isMultiKey.symm)⟩
  · exact ⟨hc'.keys.trans hcr.keys,hc'.isMultiKey.trans hcr.isMultiKey⟩

/-- Cache and rows agree after a call exactly when the call was settled or its row was written. -/
lemma agree_updateChannelStatus_iff (hk : s.SameKeys) (h : s.Agree) :
    (s.updateChannelStatus i).1.Agree ↔ s.Settled i := by
  constructor
  · intro ha c hc hsome hm hs
    obtain ⟨r,hr⟩ := Option.isSome_iff_exists.mp hsome
    have hv : c.view = r.view := h i.channelId c r hc hr
    have hrs : r.status = i.status := (congrArg KeyView.status hv).symm.trans hs
    obtain ⟨hcache,hrows⟩ := updateChannelStatus_of_reaches hc (.inl hm)
    have hview : (c.updatedCache i).view = r.view :=
      ha i.channelId _ r (by rw [hcache,Function.update_self]) (by rw [hrows,hr]; simp [hrs])
    rw [c.view_updatedCache,KeyView.called,if_pos hm,←hv] at hview
    exact (KeyView.update_eq_self_iff hs).mp hview
  · intro hset
    apply pairs_updateChannelStatus h
    intro c r hc hr hreach
    have hv : c.view = r.view := h i.channelId c r hc hr
    have hkr := hk i.channelId c r hc hr
    have hst : c.status = r.status := congrArg KeyView.status hv
    rw [c.view_updatedCache]
    split_ifs with hs
    · rw [r.view_updatedRow,hkr.keys,hkr.isMultiKey,hv]
    · -- The row is not written: the cached channel must not change either.
      have hcs : c.status = i.status := hst.trans (not_not.mp hs)
      have hm := hreach.resolve_right (not_not.mpr hcs)
      rw [KeyView.called,if_pos hm,←hv]
      exact (KeyView.update_eq_self_iff hcs).mpr (hset c hc (by simp [hr]) hm hcs)

end StatusState

lemma exec_statusSystem (d : Config StatusState Bool) (i : StatusCall) :
    (statusSystem.exec d i).state = (d.state.updateChannelStatus i).1 := rfl

/-- Cache and rows stay in agreement exactly as long as no call about a key is taken for one about the
channel: a call that finds the row's status in place must ask for nothing new about the key. -/
theorem agree_iff_settled {s : StatusState} (hk : s.SameKeys) (h : s.Agree) (is : List StatusCall) :
    statusSystem.Always (fun d => d.state.Agree) ⟨s,[]⟩ is ↔
      statusSystem.Guarded (fun d i => d.state.Settled i) ⟨s,[]⟩ is := by
  have hP : statusSystem.Always (fun d => d.state.SameKeys) ⟨s,[]⟩ is := by
    apply always_of_step hk
    intro d i t es hd hstep
    obtain ⟨rfl,-⟩ := Prod.mk.inj (Option.some.inj hstep)
    exact StatusState.sameKeys_updateChannelStatus hd
  apply always_iff_guarded hP h
  intro d i hd ha
  exact StatusState.agree_updateChannelStatus_iff hd ha

/-- The cache right after it was loaded from the table. -/
def StatusState.loaded (channels : Table StatusChannel) (abilities : List Ability) : StatusState :=
  ⟨fun _ _ => [],channels.find?,channels,abilities⟩

lemma StatusState.pairs_loaded {R : StatusChannel → StatusChannel → Prop} (hR : ∀ c, R c c)
    (channels : Table StatusChannel) (abilities : List Ability) : (loaded channels abilities).Pairs R := by
  intro id c r hc hr
  obtain rfl := Option.some.inj (hc.symm.trans hr)
  exact hR c

lemma StatusState.sameKeys_loaded (channels : Table StatusChannel) (abilities : List Ability) :
    (loaded channels abilities).SameKeys := pairs_loaded (fun _ => ⟨rfl,rfl⟩) channels abilities

lemma StatusState.agree_loaded (channels : Table StatusChannel) (abilities : List Ability) :
    (loaded channels abilities).Agree := by
  apply pairs_loaded
  intro c
  rfl

/-- An enabled channel with two keys, the first of which is disabled. -/
def twoKeys : Table StatusChannel := Table.empty.insert
  { status := .enabled
    weight := none
    models := "m"
    group := "g"
    priority := none
    keys := ["a","b"]
    channelInfo := ⟨true,[(0,.autoDisabled)],0,.random⟩
    multiKeyDisabledReason := [(0,"expired")]
    multiKeyDisabledTime := [(0,5)]
    statusReason := none
    statusTime := none }

/-- Disabling the second key as well closes the channel in both places. -/
theorem agree_iff_settled_lastKey : statusSystem.Always (fun d => d.state.Agree)
    ⟨.loaded twoKeys [],[]⟩ [⟨1,"b",.autoDisabled,"quota",7,8⟩] := by
  apply (agree_iff_settled (StatusState.sameKeys_loaded _ _) (StatusState.agree_loaded _ _) _).mpr
  refine ⟨?_,trivial⟩
  intro c hc _ _ hs
  obtain rfl := Option.some.inj hc
  exact absurd hs (by decide)

/-- Once the channel is closed as a whole, disabling a key reaches the cache only: the row has the requested
status already. -/
theorem closedChannel_disagrees :
    (StatusState.loaded twoKeys []).SameKeys ∧ (StatusState.loaded twoKeys []).Agree ∧
    ¬statusSystem.Always (fun d => d.state.Agree) ⟨.loaded twoKeys [],[]⟩
      [⟨1,"",.autoDisabled,"node is starting",7,8⟩,⟨1,"b",.autoDisabled,"quota",9,9⟩] := by
  refine ⟨StatusState.sameKeys_loaded _ _,StatusState.agree_loaded _ _,?_⟩
  intro h
  have hview := h.last 1 _ _ rfl rfl
  exact absurd (congrFun (congrArg KeyView.statusOf hview) 1) (by decide)

end Routing
end Tierflow
