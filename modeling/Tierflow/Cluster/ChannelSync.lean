import Tierflow.Cluster.Draining

/-! A channel follows the nodes that report it: with no operation in progress it is enabled just when a node
reports it active and healthy, and one that was disabled by hand stays disabled until its model is started. -/
namespace Tierflow
open TxSystem TaskSystem
namespace Cluster
open Routing (ChannelStatus)

/-! ## What the nodes report -/

/-- An online node that does not drain reports the channel active and healthy. -/
def ClusterNode.reports (n : ClusterNode) (c : ℤ) : Bool :=
  decide (0 < c) && n.models.any (fun m => decide (m.channelId = c) && m.available n.online n.draining)

def ClusterState.wanted (s : ClusterState) (c : ℤ) : Bool := s.nodes.rows.any (fun r => r.2.reports c)

/-- A channel that is not manually disabled is enabled just when some node reports it. -/
def Agrees (s : ClusterState) (c : ℤ) : Prop :=
  ∀ status∈s.channels c, status ≠ .manuallyDisabled → (status = .enabled ↔ s.wanted c = true)

/-- An administrator disabled the channel, and its model has not been started since; `b` is how it was at the
beginning. -/
def blocked (c : ℤ) (b : Bool) : List ClusterEvent → Bool
  | [] => b
  | e::h => if e = .manuallyDisabled c then true else if e = .started c then false else blocked c b h

def Enables (c : ℤ) : ClusterEvent → Bool
  | .channelEnabled _ c' => decide (c' = c)
  | _ => false

/-- The channel is never enabled while it is blocked. -/
def StaysDisabled (c : ℤ) (b : Bool) : List ClusterEvent → Prop
  | [] => True
  | e::h => (Enables c e = true → blocked c b h = false) ∧ StaysDisabled c b h

instance decidableStaysDisabled (c : ℤ) (b : Bool) : ∀ h, Decidable (StaysDisabled c b h)
  | [] => instDecidableTrue
  | _::h => @instDecidableAnd _ _ _ (decidableStaysDisabled c b h)

/-- A heartbeat that has not been delivered is no operation in progress. -/
def ClusterTask.undelivered (t : ClusterTask) : Bool :=
  match t.todo with
  | [.readPrevious _] => true
  | _ => false

instance (s : ClusterState) (c : ℤ) : Decidable (Agrees s c) := by
  unfold Agrees
  infer_instance

def FollowsNodes (c : ℤ) (b : Bool) (k : ClusterConfig) : Prop :=
  StaysDisabled c b k.history ∧ ((∀ t∈k.state.tasks, t.undelivered = true) → Agrees k.state.shared c)

instance (c : ℤ) (b : Bool) (k : ClusterConfig) : Decidable (FollowsNodes c b k) := by
  unfold FollowsNodes
  infer_instance

/-! ## Statements that still look at a channel -/

/-- A heartbeat decides on the channels that it lists and on those that the row listed before. -/
def decides (hb : Heartbeat) (previous : List ModelStatus) (c : ℤ) : Bool :=
  decide (0 < c) && (hb.models++previous).any (fun m => decide (m.channelId = c))

/-- The statement decides on the status of the channel, or leads to one that does; a row that is to be deleted
may change what is reported of any channel. -/
def Statement.looksAt (c : ℤ) : Statement → Bool
  | .findExisting hb previous _ | .createRow hb previous _ | .updateRow _ hb previous _ | .readBack _ hb previous =>
    decides hb previous c
  | .syncRead c' _ | .statusCache c' _ _ | .statusRead c' _ _ | .statusSave c' _ _ => decide (c' = c)
  | .deleteRow _ => true
  | _ => false

def Settled (c : ℤ) (ts : List ClusterTask) : Prop := ∃ t∈ts, ∃ st∈t.todo, st.looksAt c = true

instance (c : ℤ) (ts : List ClusterTask) : Decidable (Settled c ts) := by
  unfold Settled
  infer_instance

/-- The channel follows the nodes, or a statement that is still to be taken looks at it. -/
abbrev Sound (c : ℤ) (s : ClusterState) (ts : List ClusterTask) : Prop := Agrees s c ∨ Settled c ts

/-- A change of a row changes what it reports of the channel only while a statement still looks at it. -/
abbrev Followed (c : ℤ) (s : ClusterState) (ts : List ClusterTask) (id : ℕ)
    (f : ClusterNode → ClusterNode) : Prop :=
  ∀ n∈s.nodes.find? id, (f n).reports c = n.reports c ∨ Settled c ts

/-- The condition on a statement of the channel. It leaves the channel as it is, or drops what it was to do,
only while the channel is sound without it; a change of a row is followed; and a status is saved that the nodes
ask for, on a channel that is not manually disabled unless the model is started. -/
def Decided (E : ClusterSettings) (c : ℤ) (s : ClusterState) (us : List ClusterTask) : Statement → Prop
  | .createRow hb previous _ => (s.byName hb.nodeName).isSome = true → decides hb previous c = true → Sound c s us
  | .updateRow id hb previous _ =>
    ∀ n∈s.nodes.find? id, n.reports c = true → decides hb previous c = true ∨ Settled c us
  | .readBack id hb previous => s.nodes.find? id = none → decides hb previous c = true → Sound c s us
  | .syncRead c' available =>
    c' = c → s.channels c ≠ some (if available then .autoDisabled else .enabled) → Sound c s us
  | .statusCache c' status _ => c' = c → (status = .enabled → s.channels c ≠ some .manuallyDisabled) ∧
    (E.memoryCacheEnabled = true → s.cache c = none ∨ E.isMultiKey c = false ∧ s.cache c = some status →
      Sound c s us)
  | .statusRead c' status _ => c' = c → s.channels c = none ∨ s.channels c = some status → Sound c s us
  | .statusSave c' status byAction => c' = c →
    (s.channels c = some .manuallyDisabled → byAction = true ∧ status ≠ .enabled) ∧
    ((status = .enabled ↔ s.wanted c = true) ∨ Settled c us)
  | .drainRow id draining | .updateNodeRow id draining => Followed c s us id (fun n => { n with draining := draining })
  | .markOffline id => Followed c s us id (fun n => { n with online := false })
  | .deleteRow id => Sound c { s with nodes := s.nodes.delete id } us
  | _ => True

instance (E : ClusterSettings) (c : ℤ) (s : ClusterState) (us : List ClusterTask) (st : Statement) :
    Decidable (Decided E c s us st) := by
  cases st <;> unfold Decided <;> infer_instance

/-- The condition on the task that takes its next statement, beside the other tasks. -/
def DecidedFor (E : ClusterSettings) (c : ℤ) (s : ClusterState) (ts : List ClusterTask) (t : ClusterTask) : Prop :=
  match t.todo with
  | [] => True
  | st::rest => Decided E c s (⟨t.node,rest⟩::ts) st

instance (E : ClusterSettings) (c : ℤ) (s : ClusterState) (ts : List ClusterTask) (t : ClusterTask) :
    Decidable (DecidedFor E c s ts t) :=
  match t with
  | ⟨_,[]⟩ => .isTrue trivial
  | ⟨node,st::rest⟩ => instDecidableDecided E c s (⟨node,rest⟩::ts) st

/-! ## Rows -/

section Rows
variable {s : ClusterState} {c : ℤ}

lemma wanted_iff : s.wanted c = true ↔ ∃ k n, s.nodes.find? k = some n ∧ n.reports c = true := by
  unfold ClusterState.wanted
  rw [List.any_eq_true]
  constructor
  · rintro ⟨r,hr,hc⟩
    exact ⟨r.1,r.2,(Table.mem_rows_iff s.nodes r).mp hr,hc⟩
  · rintro ⟨k,n,hk,hc⟩
    exact ⟨(k,n),(Table.find?_eq_some_iff s.nodes k n).mp hk,hc⟩

lemma Agrees.congr {s' : ClusterState} (h : Agrees s c) (hch : s'.channels c = s.channels c)
    (hw : s'.wanted c = true ↔ s.wanted c = true) : Agrees s' c := by
  unfold Agrees
  rw [hch]
  intro status hs hm
  rw [h status hs hm,hw]

lemma wanted_updateNode {id : ℕ} {f : ClusterNode → ClusterNode}
    (h : ∀ n∈s.nodes.find? id, (f n).reports c = n.reports c) :
    (s.updateNode id f).wanted c = true ↔ s.wanted c = true := by
  have hrow : ∀ k n, s.nodes.find? k = some n →
      (if k = id then f n else n).reports c = n.reports c := by
    intro k n hn
    split_ifs with hk
    · subst hk
      exact h n hn
    · rfl
  simp only [wanted_iff,ClusterState.updateNode,Table.find?_updateWhere,Option.map_eq_some_iff,decide_eq_true_eq]
  constructor
  · rintro ⟨k,m,⟨n,hn,rfl⟩,hc⟩
    exact ⟨k,n,hn,by rwa [hrow k n hn] at hc⟩
  · rintro ⟨k,n,hn,hc⟩
    exact ⟨k,_,⟨n,hn,rfl⟩,by rwa [hrow k n hn]⟩

lemma wanted_insert {n : ClusterNode} (h : n.reports c = false) :
    ({ s with nodes := s.nodes.insert n } : ClusterState).wanted c = true ↔ s.wanted c = true := by
  simp [ClusterState.wanted,Table.insert,h]

lemma reports_row {hb : Heartbeat} {previous : List ModelStatus} {seenAt : ℤ} {n : String}
    (h : decides hb previous c = false) : ({ hb.row seenAt with name := n }).reports c = false := by
  cases hr : ({ hb.row seenAt with name := n }).reports c with
  | false => rfl
  | true =>
    have hd : decides hb previous c = true := by
      simp only [ClusterNode.reports,Bool.and_eq_true,List.any_eq_true] at hr
      obtain ⟨hc,m,hm,he,-⟩ := hr
      simp only [decides,Bool.and_eq_true,List.any_eq_true]
      exact ⟨hc,m,List.mem_append_left _ hm,he⟩
    rw [h] at hd
    contradiction

/-- Every channel that a heartbeat decides on is read afterwards. -/
lemma looksAt_heartbeatSyncs {hb : Heartbeat} {previous : List ModelStatus} (h : decides hb previous c = true) :
    ∃ st∈heartbeatSyncs hb previous, st.looksAt c = true := by
  simp only [decides,Bool.and_eq_true,List.any_eq_true,decide_eq_true_eq,List.mem_append] at h
  obtain ⟨hc,m,hm,rfl⟩ := h
  by_cases hcur : m.channelId∈hb.models.map ModelStatus.channelId
  · obtain ⟨m',hm',he⟩ := List.mem_map.mp hcur
    refine ⟨.syncRead m'.channelId (m'.available true hb.draining),?_,by simp [Statement.looksAt,he]⟩
    apply List.mem_append_right
    exact List.mem_map.mpr ⟨m',List.mem_filter.mpr ⟨hm',by simpa [he] using hc⟩,rfl⟩
  · refine ⟨.syncRead m.channelId false,?_,by simp [Statement.looksAt]⟩
    apply List.mem_append_left
    have hp : m∈previous := hm.resolve_left (fun hm => hcur (List.mem_map_of_mem hm))
    have hdrop : decide (0 < m.channelId ∧ m.channelId∉hb.models.map ModelStatus.channelId) = true :=
      decide_eq_true ⟨hc,hcur⟩
    exact List.mem_map.mpr ⟨m,List.mem_filter.mpr ⟨hp,hdrop⟩,rfl⟩

end Rows

/-! ## Steps -/

section Settled
variable {c : ℤ} {ts us : List ClusterTask} {node : String} {todo : List Statement}

lemma Settled.mono (h : Settled c ts) (hsub : ∀ t∈ts, t∈us) : Settled c us := by
  obtain ⟨t,ht,hst⟩ := h
  exact ⟨t,hsub t ht,hst⟩

lemma settled_append : Settled c (ts++us) ↔ Settled c ts ∨ Settled c us := by
  simp only [Settled,List.mem_append,or_and_right,exists_or]

lemma settled_cons : Settled c (⟨node,todo⟩::ts) ↔ (∃ st∈todo, st.looksAt c = true) ∨ Settled c ts := by
  simp only [Settled,List.mem_cons,exists_eq_or_imp]

lemma settled_taskOf : Settled c (taskOf node todo) ↔ ∃ st∈todo, st.looksAt c = true := by
  unfold taskOf
  split_ifs with h
  · subst h
    simp [Settled]
  · simp [Settled]

/-- Undelivered heartbeats settle nothing. -/
lemma not_settled (h : ∀ t∈ts, t.undelivered = true) : ¬Settled c ts := by
  rintro ⟨t,ht,st,hst,hl⟩
  have hu := h t ht
  unfold ClusterTask.undelivered at hu
  split at hu
  · next htodo =>
    rw [htodo] at hst
    obtain rfl := List.mem_singleton.mp hst
    simp [Statement.looksAt] at hl
  · contradiction

end Settled

/-- After a statement the channel follows the nodes, or what the statement left to do or another task still
looks at it. -/
def Carried (c : ℤ) (us : List ClusterTask) (r : StatementOutcome) : Prop :=
  Agrees r.1 c ∨ (∃ st∈r.2.1, st.looksAt c = true) ∨ Settled c us

section Steps
variable {E : ClusterSettings} {c : ℤ} {s s' : ClusterState} {us : List ClusterTask} {node : String}
  {todo : List Statement} {es : List ClusterEvent}

/-- A statement that touches neither the status of the channel nor what is reported of it. -/
lemma Sound.carried (h : Sound c s us) (hch : s'.channels c = s.channels c)
    (hw : s'.wanted c = true ↔ s.wanted c = true) : Carried c us (s',todo,es) := by
  cases h with
  | inl ha => exact .inl (ha.congr hch hw)
  | inr hs => exact .inr (.inr hs)

lemma carried_of_mem {st : Statement} (hm : st∈todo) (hl : st.looksAt c = true) : Carried c us (s',todo,es) :=
  .inr (.inl ⟨st,hm,hl⟩)

lemma carried_updateNode {id : ℕ} {f : ClusterNode → ClusterNode} (h : Sound c s us) (hf : Followed c s us id f) :
    Carried c us (s.updateNode id f,todo,es) := by
  by_cases hs : Settled c us
  · exact .inr (.inr hs)
  · have hw : (s.updateNode id f).wanted c = true ↔ s.wanted c = true := by
      apply wanted_updateNode
      intro n hn
      exact (hf n hn).resolve_right hs
    exact h.carried rfl hw

lemma carried_createRow {hb : Heartbeat} {previous : List ModelStatus} {seenAt : ℤ}
    (h : decides hb previous c = true ∨ Sound c s us)
    (hd : Decided E c s us (.createRow hb previous seenAt)) :
    Carried c us (execStatement E s node (.createRow hb previous seenAt)) := by
  simp only [execStatement]
  split_ifs with he
  · have hs : Sound c s us := h.elim (hd he) (fun hs => hs)
    exact hs.carried rfl Iff.rfl
  · cases hl : decides hb previous c with
    | true =>
      obtain ⟨st,hm,hst⟩ := looksAt_heartbeatSyncs hl
      exact carried_of_mem hm hst
    | false =>
      have hs : Sound c s us := h.resolve_left (by simp [hl])
      exact hs.carried rfl (wanted_insert (reports_row (n := hb.nodeName) hl))

lemma carried_updateRow {id : ℕ} {hb : Heartbeat} {previous : List ModelStatus} {seenAt : ℤ}
    (h : decides hb previous c = true ∨ Sound c s us)
    (hd : Decided E c s us (.updateRow id hb previous seenAt)) :
    Carried c us (execStatement E s node (.updateRow id hb previous seenAt)) := by
  cases hl : decides hb previous c with
  | true => exact carried_of_mem (List.mem_singleton_self _) hl
  | false =>
    apply carried_updateNode (h.resolve_left (by simp [hl]))
    intro n hn
    cases hr : n.reports c with
    | false => exact .inl (reports_row hl)
    | true => exact .inr ((hd n hn hr).resolve_left (by simp [hl]))

lemma carried_readBack {id : ℕ} {hb : Heartbeat} {previous : List ModelStatus}
    (h : decides hb previous c = true ∨ Sound c s us) (hd : Decided E c s us (.readBack id hb previous)) :
    Carried c us (execStatement E s node (.readBack id hb previous)) := by
  simp only [execStatement]
  split
  · next hn =>
    have hs : Sound c s us := h.elim (hd hn) (fun hs => hs)
    exact hs.carried rfl Iff.rfl
  · cases h with
    | inl hl =>
      obtain ⟨st,hm,hst⟩ := looksAt_heartbeatSyncs hl
      exact carried_of_mem hm hst
    | inr hs => exact hs.carried rfl Iff.rfl

lemma carried_syncRead {c' : ℤ} {available : Bool} (h : c' = c ∨ Sound c s us)
    (hd : Decided E c s us (.syncRead c' available)) :
    Carried c us (execStatement E s node (.syncRead c' available)) := by
  have hkept : Sound c s us ∨ c' = c ∧
      s.channels c = some (if available then .autoDisabled else .enabled) := by
    cases h with
    | inl hc =>
      by_cases hs : s.channels c = some (if available then .autoDisabled else .enabled)
      · exact .inr ⟨hc,hs⟩
      · exact .inl (hd hc hs)
    | inr hs => exact .inl hs
  obtain hs | ⟨rfl,hs⟩ := hkept
  · simp only [execStatement]
    split
    · exact hs.carried rfl Iff.rfl
    · split_ifs <;> exact hs.carried rfl Iff.rfl
  · have hl : ∀ status, (Statement.statusCache c' status false).looksAt c' = true := by simp [Statement.looksAt]
    cases available with
    | true =>
      simp only [execStatement,hs]
      exact carried_of_mem (List.mem_singleton_self _) (hl .enabled)
    | false =>
      simp only [execStatement,hs]
      exact carried_of_mem (List.mem_singleton_self _) (hl .autoDisabled)

lemma carried_statusCache {c' : ℤ} {status : ChannelStatus} {byAction : Bool} (h : c' = c ∨ Sound c s us)
    (hd : Decided E c s us (.statusCache c' status byAction)) :
    Carried c us (execStatement E s node (.statusCache c' status byAction)) := by
  by_cases hc : c' = c
  · subst hc
    obtain ⟨-,hd⟩ := hd rfl
    simp only [execStatement,statusCache]
    split_ifs with hE
    · split
      · next hn => exact (hd hE (.inl hn)).carried rfl Iff.rfl
      · next cached hn =>
        split_ifs with hi
        · exact (hd hE (.inr ⟨hi.1,by rw [hn,hi.2]⟩)).carried rfl Iff.rfl
        · exact carried_of_mem (List.mem_singleton_self _) (by simp [Statement.looksAt])
        · exact carried_of_mem (List.mem_singleton_self _) (by simp [Statement.looksAt])
    · exact carried_of_mem (List.mem_singleton_self _) (by simp [Statement.looksAt])
  · have hs : Sound c s us := h.resolve_left hc
    simp only [execStatement,statusCache]
    split_ifs
    · split
      · exact hs.carried rfl Iff.rfl
      · split_ifs <;> exact hs.carried rfl Iff.rfl
    · exact hs.carried rfl Iff.rfl

lemma carried_statusRead {c' : ℤ} {status : ChannelStatus} {byAction : Bool} (h : c' = c ∨ Sound c s us)
    (hd : Decided E c s us (.statusRead c' status byAction)) :
    Carried c us (execStatement E s node (.statusRead c' status byAction)) := by
  by_cases hc : c' = c
  · subst hc
    simp only [execStatement]
    split
    · next hn => exact (hd rfl (.inl hn)).carried rfl Iff.rfl
    · next old hn =>
      split_ifs with he
      · exact (hd rfl (.inr (by rw [hn,he]))).carried rfl Iff.rfl
      · exact carried_of_mem (List.mem_singleton_self _) (by simp [Statement.looksAt])
  · have hs : Sound c s us := h.resolve_left hc
    simp only [execStatement]
    split
    · exact hs.carried rfl Iff.rfl
    · split_ifs <;> exact hs.carried rfl Iff.rfl

lemma carried_statusSave {c' : ℤ} {status : ChannelStatus} {byAction : Bool} (h : c' = c ∨ Sound c s us)
    (hd : Decided E c s us (.statusSave c' status byAction)) :
    Carried c us (execStatement E s node (.statusSave c' status byAction)) := by
  by_cases hc : c' = c
  · subst hc
    cases (hd rfl).2 with
    | inl hw =>
      left
      intro st hst _
      have he : status = st := by simpa [execStatement] using hst
      rw [← he]
      exact hw
    | inr hs => exact .inr (.inr hs)
  · apply (h.resolve_left hc).carried
    · exact Function.update_of_ne (Ne.symm hc) _ _
    · exact Iff.rfl

/-- What one statement preserves. -/
lemma carried_exec (st : Statement) (h : st.looksAt c = true ∨ Sound c s us) (hd : Decided E c s us st) :
    Carried c us (execStatement E s node st) := by
  cases st with
  | readPrevious hb => exact (h.resolve_left Bool.false_ne_true).carried rfl Iff.rfl
  | findExisting hb previous seenAt =>
    simp only [execStatement]
    split
    all_goals
      cases h with
      | inl hl => exact carried_of_mem (List.mem_singleton_self _) hl
      | inr hs => exact hs.carried rfl Iff.rfl
  | createRow hb previous seenAt => exact carried_createRow h hd
  | updateRow id hb previous seenAt => exact carried_updateRow h hd
  | readBack id hb previous => exact carried_readBack h hd
  | syncRead c' available => exact carried_syncRead (by simpa [Statement.looksAt] using h) hd
  | statusCache c' status byAction => exact carried_statusCache (by simpa [Statement.looksAt] using h) hd
  | statusRead c' status byAction => exact carried_statusRead (by simpa [Statement.looksAt] using h) hd
  | statusSave c' status byAction => exact carried_statusSave (by simpa [Statement.looksAt] using h) hd
  | agentDrain id draining models outcome =>
    have hs := h.resolve_left Bool.false_ne_true
    cases outcome <;> exact hs.carried rfl Iff.rfl
  | drainRow id draining => exact carried_updateNode (h.resolve_left Bool.false_ne_true) hd
  | reportDrain draining => exact (h.resolve_left Bool.false_ne_true).carried rfl Iff.rfl
  | updateNodeRow id draining => exact carried_updateNode (h.resolve_left Bool.false_ne_true) hd
  | agentAction models modelId action runs =>
    have hs := h.resolve_left Bool.false_ne_true
    simp only [execStatement]
    split_ifs <;> exact hs.carried rfl Iff.rfl
  | markOffline id => exact carried_updateNode (h.resolve_left Bool.false_ne_true) hd
  | deleteRow id =>
    cases hd with
    | inl ha => exact .inl ha
    | inr hs => exact .inr (.inr hs)
  | reloadCache => exact (h.resolve_left Bool.false_ne_true).carried rfl Iff.rfl

/-- A channel that is blocked is manually disabled, and was not enabled while it was. -/
structure Kept (c : ℤ) (b : Bool) (s : ClusterState) (h : List ClusterEvent) : Prop where
  stays : StaysDisabled c b h
  held : blocked c b h = true → s.channels c = some .manuallyDisabled

/-- An event of another channel, or of no channel. -/
def Neutral (c : ℤ) : ClusterEvent → Bool
  | .channelEnabled _ c' | .manuallyDisabled c' | .started c' => decide (c' ≠ c)
  | _ => true

variable {b : Bool} {h : List ClusterEvent}

lemma blocked_neutral {e : ClusterEvent} (he : Neutral c e = true) : blocked c b (e::h) = blocked c b h := by
  cases e <;> simp_all [Neutral,blocked]

lemma Kept.neutral (hk : Kept c b s h) (hes : ∀ e∈es, Neutral c e = true)
    (hch : s'.channels c = s.channels c) : Kept c b s' (es++h) := by
  induction es with
  | nil => exact ⟨hk.stays,fun hb => hch.trans (hk.held hb)⟩
  | cons e es ih =>
    have he := hes e (by simp)
    have hrest := ih (fun e' he' => hes e' (by simp [he']))
    constructor
    · refine ⟨?_,hrest.stays⟩
      intro hen
      cases e <;> simp_all [Neutral,Enables]
    · intro hb
      exact hrest.held ((blocked_neutral he).symm.trans hb)

lemma blocked_announce (c' : ℤ) (status : ChannelStatus) :
    blocked c b (announce node c' status++h) = blocked c b h := by
  unfold announce
  split_ifs
  · simp [blocked]
  · rfl

lemma Kept.announce {status : ChannelStatus} (hk : Kept c b s h)
    (hoff : status = .enabled → s.channels c ≠ some .manuallyDisabled) :
    Kept c b s (announce node c status++h) := by
  constructor
  · unfold Cluster.announce
    split_ifs with he
    · refine ⟨?_,hk.stays⟩
      intro _
      show blocked c b h = false
      cases hb : blocked c b h with
      | false => rfl
      | true => exact absurd (hk.held hb) (hoff he)
    · exact hk.stays
  · rw [blocked_announce]
    exact hk.held

lemma neutral_announce {c' : ℤ} (hc : c' ≠ c) {status : ChannelStatus} :
    ∀ e∈announce node c' status, Neutral c e = true := by
  unfold announce
  split_ifs <;> simp [Neutral,hc]

lemma Kept.unblocked (hs : StaysDisabled c b h) (hb : blocked c b h = false) : Kept c b s h := by
  refine ⟨hs,?_⟩
  rw [hb]
  exact fun h => absurd h Bool.false_ne_true

lemma kept_statusCache {c' : ℤ} {status : ChannelStatus} {byAction : Bool} (hk : Kept c b s h)
    (hd : Decided E c s us (.statusCache c' status byAction)) :
    Kept c b (statusCache E s node c' status byAction).1
      ((statusCache E s node c' status byAction).2.2++h) := by
  have ha : Kept c b s (announce node c' status++h) := by
    by_cases hc : c' = c
    · subst hc
      exact hk.announce (hd rfl).1
    · exact hk.neutral (neutral_announce hc) rfl
  unfold statusCache
  split_ifs
  · split
    · exact hk
    · split_ifs
      · exact hk
      · exact ⟨hk.stays,hk.held⟩
      · exact ⟨ha.stays,ha.held⟩
  · exact hk

lemma kept_statusSave {c' : ℤ} {status : ChannelStatus} {byAction : Bool} (hk : Kept c b s h)
    (hd : Decided E c s us (.statusSave c' status byAction)) :
    Kept c b (execStatement E s node (.statusSave c' status byAction)).1
      ((execStatement E s node (.statusSave c' status byAction)).2.2++h) := by
  by_cases hc : c' = c
  · subst hc
    have hman := (hd rfl).1
    have ha : Kept c' b s (announce node c' status++h) := hk.announce (fun he hm => (hman hm).2 he)
    apply Kept.unblocked
    · cases byAction with
      | true => exact ⟨fun he => absurd he Bool.false_ne_true,ha.stays⟩
      | false => exact ha.stays
    · cases byAction with
      | true => simp [execStatement,blocked]
      | false =>
        show blocked c' b (announce node c' status++h) = false
        rw [blocked_announce]
        cases hb : blocked c' b h with
        | false => rfl
        | true => exact absurd (hman (hk.held hb)).1 Bool.false_ne_true
  · apply hk.neutral
    · intro e he
      obtain he | he := List.mem_append.mp he
      · cases byAction <;> simp_all [Neutral]
      · exact neutral_announce hc e he
    · exact Function.update_of_ne (Ne.symm hc) _ _

lemma kept_exec (st : Statement) (hk : Kept c b s h) (hd : Decided E c s us st) :
    Kept c b (execStatement E s node st).1 ((execStatement E s node st).2.2++h) := by
  cases st with
  | readPrevious hb => exact hk
  | findExisting hb previous seenAt =>
    simp only [execStatement]
    split <;> exact hk
  | createRow hb previous seenAt =>
    simp only [execStatement]
    split_ifs
    · exact hk
    · exact ⟨hk.stays,hk.held⟩
  | updateRow id hb previous seenAt => exact ⟨hk.stays,hk.held⟩
  | readBack id hb previous =>
    simp only [execStatement]
    split <;> exact hk
  | syncRead c' available =>
    simp only [execStatement]
    split
    · exact hk
    · split_ifs <;> exact hk
  | statusCache c' status byAction => exact kept_statusCache hk hd
  | statusRead c' status byAction =>
    simp only [execStatement]
    split
    · exact hk
    · split_ifs <;> exact hk
  | statusSave c' status byAction => exact kept_statusSave hk hd
  | agentDrain id draining models outcome =>
    cases outcome
    all_goals exact hk.neutral (by simp [execStatement,agentDrain,Neutral]) rfl
  | drainRow id draining => exact ⟨hk.stays,hk.held⟩
  | reportDrain draining => exact hk.neutral (by simp [execStatement,Neutral]) rfl
  | updateNodeRow id draining => exact hk.neutral (by simp [execStatement,Neutral]) rfl
  | agentAction models modelId action runs =>
    simp only [execStatement]
    split_ifs <;> exact hk
  | markOffline id => exact ⟨hk.stays,hk.held⟩
  | deleteRow id => exact ⟨hk.stays,hk.held⟩
  | reloadCache => exact ⟨hk.stays,hk.held⟩

/-- What holds of a channel throughout a run. -/
structure FollowInv (c : ℤ) (b : Bool) (s : ClusterState) (ts : List ClusterTask) (h : List ClusterEvent) :
    Prop where
  kept : Kept c b s h
  sound : Sound c s ts

variable {ts : List ClusterTask}

lemma FollowInv.withNode {id : ℕ} {todo : ClusterNode → List Statement} (hi : FollowInv c b s ts h) :
    FollowInv c b (withNode s id todo).1 (ts++(withNode s id todo).2.1) ((withNode s id todo).2.2++h) := by
  unfold Cluster.withNode
  split
  all_goals exact ⟨hi.kept,hi.sound.imp_right (fun hs => hs.mono (fun t ht => List.mem_append_left _ ht))⟩

lemma followInv_start (i : ClusterRequest) (hi : FollowInv c b s ts h) :
    FollowInv c b (startCluster E s i).1 (ts++(startCluster E s i).2.1) ((startCluster E s i).2.2++h) := by
  have hmore : ∀ us, Sound c s (ts++us) := fun us =>
    hi.sound.imp_right (fun hs => hs.mono (fun t ht => List.mem_append_left _ ht))
  cases i with
  | collectStatus name models => exact ⟨hi.kept,hmore _⟩
  | clusterNodeDrain id draining outcome => exact hi.withNode
  | updateClusterNode id draining => exact hi.withNode
  | clusterNodeModelAction id modelId action runs => exact hi.withNode
  | deleteClusterNode id => exact hi.withNode
  | markStaleClusterNodes => exact ⟨hi.kept,hmore _⟩
  | manualDisable c' =>
    simp only [startCluster]
    split
    · exact ⟨hi.kept,hmore _⟩
    · by_cases hc : c' = c
      · subst hc
        refine ⟨⟨⟨fun he => absurd he Bool.false_ne_true,hi.kept.stays⟩,fun _ => by simp⟩,.inl ?_⟩
        intro status hs hm
        have he : .manuallyDisabled = status := by simpa using hs
        exact absurd he.symm hm
      · have hch : Function.update s.channels c' (some .manuallyDisabled) c = s.channels c :=
          Function.update_of_ne (Ne.symm hc) _ _
        refine ⟨hi.kept.neutral (by simp [Neutral,hc]) hch,?_⟩
        exact (hmore _).imp_left (fun ha => ha.congr hch Iff.rfl)
  | syncChannelCache => exact ⟨⟨hi.kept.stays,hi.kept.held⟩,hmore _⟩
  | tick d => exact ⟨⟨hi.kept.stays,hi.kept.held⟩,hmore _⟩

lemma followInv_exec {l r : List ClusterTask} {st : Statement} {rest : List Statement}
    (hi : FollowInv c b s (l++⟨node,st::rest⟩::r) h) (hd : Decided E c s (⟨node,rest⟩::(l++r)) st) :
    FollowInv c b (execStatement E s node st).1 (l++r++taskOf node ((execStatement E s node st).2.1++rest))
      ((execStatement E s node st).2.2++h) := by
  refine ⟨kept_exec st hi.kept hd,?_⟩
  have hbefore : st.looksAt c = true ∨ Sound c s (⟨node,rest⟩::(l++r)) := by
    have hs := hi.sound
    simp only [Sound,settled_append,settled_cons,List.mem_cons,exists_eq_or_imp] at hs ⊢
    obtain ha | hl | (hst | hrest) | hr := hs
    · exact .inr (.inl ha)
    · exact .inr (.inr (.inr (.inl hl)))
    · exact .inl hst
    · exact .inr (.inr (.inl hrest))
    · exact .inr (.inr (.inr (.inr hr)))
  have hafter : Carried c _ (execStatement E _ node st) := carried_exec st hbefore hd
  simp only [Carried,settled_cons,settled_append] at hafter
  simp only [Sound,settled_append,settled_taskOf,List.mem_append,or_and_right,exists_or]
  obtain ha | hnew | hrest | hlr := hafter
  · exact .inl ha
  · exact .inr (.inr (.inl hnew))
  · exact .inr (.inr (.inr hrest))
  · exact .inr (.inl hlr)

end Steps

/-- A second node serves the channel 7. -/
def twoNodes : ClusterState :=
  { oneNode .enabled with nodes := (oneNode .enabled).nodes.insert ⟨"spare",true,false,[servedModel],100⟩ }

/-- No node has been seen. -/
def noNodes : ClusterState := { oneNode .autoDisabled with nodes := Table.empty }

/-- An administrator disables the channel between the read of a heartbeat and its save. -/
def disabledMeanwhile : List (Op ClusterRequest) :=
  .start (.collectStatus "spark" [servedModel])::List.replicate 4 (.proceed 0)++
    [.start (.manualDisable 7),.proceed 0,.proceed 1,.proceed 1]

end Cluster
end Tierflow
