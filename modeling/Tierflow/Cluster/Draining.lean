import Tierflow.Cluster.Nodes

/-! Draining a node. The flag lives in the memory of the agent, in its file and in the row of the controller;
a drain sticks as long as what is reported and what is delivered is still what the agent holds. -/
namespace Tierflow
open TxSystem TaskSystem
namespace Cluster

/-- The newest event that decides it is a drain of the node that was reported successful, and no change back
has been asked for since. -/
def drained (node : String) : List ClusterEvent → Bool
  | [] => false
  | e::h => if e = .drainSucceeded node true then true
    else if e = .drainAsked node false then false
    else drained node h

/-- No channel is enabled for a drained node, and a failed change leaves the flags alone. -/
def Respects (e : ClusterEvent) (h : List ClusterEvent) : Prop :=
  match e with
  | .channelEnabled node _ => drained node h = false
  | .drainFailed _ before after => before = after
  | _ => True

/-- The newest event comes first in a history. -/
def DrainingSticks : List ClusterEvent → Prop
  | [] => True
  | e::h => Respects e h ∧ DrainingSticks h

instance (e : ClusterEvent) (h : List ClusterEvent) : Decidable (Respects e h) := by
  unfold Respects
  cases e <;> infer_instance

instance decidableDrainingSticks : ∀ h, Decidable (DrainingSticks h)
  | [] => instDecidableTrue
  | _::h => @instDecidableAnd _ _ _ (decidableDrainingSticks h)

/-- The condition on a statement: a channel is enabled for a node while the flag in the agent's memory is off;
a drain change is reported as successful while that flag is what was asked for; and a state file fails to be
written only for the value that the flag has already. -/
def HeldByAgent (s : ClusterState) (_ : List ClusterTask) (t : ClusterTask) : Prop :=
  match t.todo with
  | .statusCache _ .enabled _::_ | .statusSave _ .enabled _::_ => (s.agents t.node).draining = false
  | .reportDrain draining::_ | .updateNodeRow _ draining::_ | .agentDrain _ draining _ .writeFailed::_ =>
    (s.agents t.node).draining = draining
  | _ => True

instance (s : ClusterState) (ts : List ClusterTask) (t : ClusterTask) : Decidable (HeldByAgent s ts t) := by
  unfold HeldByAgent
  split <;> infer_instance

/-! ## Steps -/

/-- A drain that sticks has set the flag of the agent. -/
structure DrainInv (s : ClusterState) (h : List ClusterEvent) : Prop where
  sticks : DrainingSticks h
  held : ∀ node, drained node h = true → (s.agents node).draining = true

section Steps
variable {E : ClusterSettings} {s s' : ClusterState} {h es : List ClusterEvent} {node : String}

/-- An event that says nothing about draining or enabling. -/
def Silent : ClusterEvent → Bool
  | .manuallyDisabled _ | .started _ => true
  | _ => false

lemma drained_silent {e : ClusterEvent} (he : Silent e = true) (node : String) :
    drained node (e::h) = drained node h := by
  cases e <;> simp_all [Silent,drained]

lemma DrainInv.silent {e : ClusterEvent} (hi : DrainInv s h) (he : Silent e = true) : DrainInv s (e::h) := by
  constructor
  · refine ⟨?_,hi.sticks⟩
    cases e <;> simp_all [Silent,Respects]
  · intro node hd
    rw [drained_silent he] at hd
    exact hi.held node hd

lemma DrainInv.sameAgents (hi : DrainInv s h) (ha : s'.agents = s.agents) : DrainInv s' h := by
  refine ⟨hi.sticks,?_⟩
  rw [ha]
  exact hi.held

/-- A channel is enabled for a node whose agent is not draining. -/
lemma DrainInv.enabled (hi : DrainInv s h) (hoff : (s.agents node).draining = false) (c : ℤ) :
    DrainInv s (.channelEnabled node c::h) := by
  constructor
  · refine ⟨?_,hi.sticks⟩
    show drained node h = false
    cases hd : drained node h with
    | false => rfl
    | true =>
      have hon := hi.held node hd
      rw [hoff] at hon
      exact absurd hon Bool.false_ne_true
  · intro n hd
    exact hi.held n (by simpa [drained] using hd)

lemma DrainInv.announce {status : Routing.ChannelStatus} (hi : DrainInv s h)
    (hoff : status = .enabled → (s.agents node).draining = false) (c : ℤ) :
    DrainInv s (announce node c status++h) := by
  unfold Cluster.announce
  split_ifs with he
  · exact hi.enabled (hoff he) c
  · exact hi

/-- A success is reported while the agent holds the value. -/
lemma DrainInv.succeeded {draining : Bool} (hi : DrainInv s h) (hheld : (s.agents node).draining = draining) :
    DrainInv s (.drainSucceeded node draining::h) := by
  refine ⟨⟨trivial,hi.sticks⟩,?_⟩
  intro n hd
  by_cases hn : n = node ∧ draining = true
  · rw [hn.1,hheld]
    exact hn.2
  · apply hi.held n
    have hne : ClusterEvent.drainSucceeded node draining ≠ .drainSucceeded n true := by
      intro he
      cases he
      exact hn ⟨rfl,rfl⟩
    simpa [drained,hne] using hd

/-- A change is asked for, and the agent takes the value or keeps it. -/
lemma DrainInv.asked {draining : Bool} (hi : DrainInv s h)
    (hheld : ∀ n, (s.agents n).draining = true → (s'.agents n).draining = true ∨ n = node ∧ draining = false) :
    DrainInv s' (.drainAsked node draining::h) := by
  refine ⟨⟨trivial,hi.sticks⟩,?_⟩
  intro n hd
  by_cases hn : n = node ∧ draining = false
  · obtain ⟨rfl,rfl⟩ := hn
    simp [drained] at hd
  · have hne : ClusterEvent.drainAsked node draining ≠ .drainAsked n false := by
      intro he
      cases he
      exact hn ⟨rfl,rfl⟩
    have hd' : drained n h = true := by simpa [drained,hne] using hd
    exact (hheld n (hi.held n hd')).resolve_right hn

/-- A failed change that leaves the flag of the agent as it was. -/
lemma DrainInv.failed {flags : Bool × Option Bool} (hi : DrainInv s h)
    (hheld : ∀ n, (s'.agents n).draining = (s.agents n).draining) :
    DrainInv s' (.drainFailed node flags flags::h) := by
  refine ⟨⟨rfl,hi.sticks⟩,?_⟩
  intro n hd
  rw [hheld n]
  exact hi.held n (by simpa [drained] using hd)

lemma drainInv_agentDrain {id : ℕ} {draining : Bool} {models : List ModelStatus} {outcome : AgentOutcome}
    (hi : DrainInv s h) (hg : outcome = .writeFailed → (s.agents node).draining = draining) :
    DrainInv (agentDrain s node id draining models outcome).1
      ((agentDrain s node id draining models outcome).2.2++h) := by
  cases outcome with
  | written =>
    apply hi.asked
    intro n hn
    by_cases he : n = node
    · subst he
      cases draining with
      | true => exact .inl (by simp [agentDrain])
      | false => exact .inr ⟨rfl,rfl⟩
    · exact .inl (by simpa [agentDrain,Function.update_of_ne he] using hn)
  | writeFailed =>
    have hsame := hg rfl
    simp only [agentDrain,hsame]
    apply hi.failed
    intro n
    by_cases he : n = node
    · subst he
      simp [hsame]
    · simp [Function.update_of_ne he]
  | unreachable => exact hi.failed (fun _ => rfl)

lemma drainInv_statusCache {c : ℤ} {status : Routing.ChannelStatus} {byAction : Bool} (hi : DrainInv s h)
    (hoff : status = .enabled → (s.agents node).draining = false) :
    DrainInv (statusCache E s node c status byAction).1 ((statusCache E s node c status byAction).2.2++h) := by
  unfold statusCache
  split_ifs
  · cases s.cache c with
    | none => exact hi
    | some cached =>
      simp only
      split_ifs
      · exact hi
      · exact hi.sameAgents rfl
      · exact (hi.announce hoff c).sameAgents rfl
  · exact hi

lemma drainInv_exec {rest : List Statement} {ts : List ClusterTask} (st : Statement) (hi : DrainInv s h)
    (hg : HeldByAgent s ts ⟨node,st::rest⟩) :
    DrainInv (execStatement E s node st).1 ((execStatement E s node st).2.2++h) := by
  cases st with
  | readPrevious hb => exact hi
  | findExisting hb previous seenAt =>
    simp only [execStatement]
    split <;> exact hi
  | createRow hb previous seenAt =>
    simp only [execStatement]
    split_ifs
    · exact hi
    · exact hi.sameAgents rfl
  | updateRow id hb previous seenAt => exact hi.sameAgents rfl
  | readBack id hb previous =>
    simp only [execStatement]
    split <;> exact hi
  | syncRead c available =>
    simp only [execStatement]
    split
    · exact hi
    · split_ifs <;> exact hi
  | statusCache c status byAction =>
    apply drainInv_statusCache hi
    rintro rfl
    exact hg
  | statusRead c status byAction =>
    simp only [execStatement]
    split
    · exact hi
    · split_ifs <;> exact hi
  | statusSave c status byAction =>
    have ha : DrainInv s (announce node c status++h) := by
      apply hi.announce
      rintro rfl
      exact hg
    cases byAction with
    | true => exact (ha.silent (e := .started c) rfl).sameAgents rfl
    | false => exact ha.sameAgents rfl
  | agentDrain id draining models outcome =>
    apply drainInv_agentDrain hi
    rintro rfl
    exact hg
  | drainRow id draining => exact hi.sameAgents rfl
  | reportDrain draining => exact hi.succeeded hg
  | updateNodeRow id draining =>
    have ha : DrainInv s (.drainAsked node draining::h) := by
      apply hi.asked
      intro n hn
      by_cases he : n = node ∧ draining = false
      · exact .inr he
      · exact .inl hn
    exact (ha.succeeded hg).sameAgents rfl
  | agentAction models modelId action runs =>
    simp only [execStatement]
    split_ifs <;> exact hi
  | markOffline id => exact hi.sameAgents rfl
  | deleteRow id => exact hi.sameAgents rfl
  | reloadCache => exact hi.sameAgents rfl

lemma drainInv_withNode {id : ℕ} {todo : ClusterNode → List Statement} (hi : DrainInv s h) :
    DrainInv (withNode s id todo).1 ((withNode s id todo).2.2++h) := by
  unfold withNode
  split <;> exact hi

lemma drainInv_start (i : ClusterRequest) (hi : DrainInv s h) :
    DrainInv (startCluster E s i).1 ((startCluster E s i).2.2++h) := by
  cases i with
  | collectStatus name models => exact hi
  | clusterNodeDrain id draining outcome => exact drainInv_withNode hi
  | updateClusterNode id draining => exact drainInv_withNode hi
  | clusterNodeModelAction id modelId action runs => exact drainInv_withNode hi
  | deleteClusterNode id => exact drainInv_withNode hi
  | markStaleClusterNodes => exact hi
  | manualDisable c =>
    simp only [startCluster]
    split
    · exact hi
    · exact (hi.silent (e := .manuallyDisabled c) rfl).sameAgents rfl
  | syncChannelCache => exact hi.sameAgents rfl
  | tick d => exact hi.sameAgents rfl

end Steps

/-- In every run whose statements meet the condition, draining sticks: after a drain was reported successful
no channel of the node is enabled until a change back is asked for, and a change that is reported as failed
leaves both flags as they were. -/
theorem draining_sticks_of_heldByAgent (E : ClusterSettings) (s : ClusterState) (ops : List (Op ClusterRequest))
    (hheld : (clusterSystem E).toTx.Guarded (Each (fun _ _ => True) HeldByAgent) (initial s) ops) :
    (clusterSystem E).toTx.Always (fun c => DrainingSticks c.history) (initial s) ops := by
  have hinv : (clusterSystem E).toTx.Always (fun c => DrainInv c.state.shared c.history) (initial s) ops := by
    apply always_of_each ?_ ?_ ?_ hheld
    · exact ⟨trivial,fun node hd => by simp [initial,drained] at hd⟩
    · intro s ts h i hi _
      exact drainInv_start i hi
    · rintro s l ⟨node,todo⟩ r h hi hg
      cases todo with
      | nil => exact hi
      | cons st rest => exact drainInv_exec st hi hg
  exact hinv.mono (fun c hc => hc.sticks)

/-! ## Runs -/

def plainCluster : ClusterSettings := ⟨false,fun _ => false,45⟩

/-- The one model of the node `spark`, active and healthy. -/
def servedModel : ModelStatus := ⟨"m",7,"active",true⟩

/-- A node that serves the channel 7, as its first heartbeat left it, but for the channel's status. -/
def oneNode (status : Routing.ChannelStatus) : ClusterState where
  now := 100
  nodes := Table.empty.insert ⟨"spark",true,false,[servedModel],100⟩
  channels := Function.update (fun _ => none) 7 (some status)
  cache _ := none
  agents _ := ⟨false,false⟩

/-- A drain, a heartbeat, the change back and another heartbeat, one after the other. -/
theorem oneByOne_sticks :
    (clusterSystem plainCluster).toTx.Always (fun c => DrainingSticks c.history) (initial (oneNode .enabled))
      ([.start (.clusterNodeDrain 1 true .written)]++List.replicate 7 (.proceed 0)++
        [.start (.collectStatus "spark" [servedModel])]++List.replicate 5 (.proceed 0)++
        [.start (.clusterNodeDrain 1 false .written)]++List.replicate 7 (.proceed 0)++
        [.start (.collectStatus "spark" [servedModel])]++List.replicate 5 (.proceed 0)) :=
  draining_sticks_of_heldByAgent plainCluster (oneNode .enabled) _ (by decide +kernel)

/-- A heartbeat that was collected before a drain is delivered after it. -/
def lateHeartbeat : List (Op ClusterRequest) :=
  [.start (.collectStatus "spark" [servedModel]),.start (.clusterNodeDrain 1 true .written)]++
    List.replicate 7 (.proceed 1)++List.replicate 8 (.proceed 0)

/-- The row alone is set to draining, and the next heartbeat comes. -/
def rowOnly : List (Op ClusterRequest) :=
  [.start (.updateClusterNode 1 true),.proceed 0,.start (.collectStatus "spark" [servedModel])]++
    List.replicate 8 (.proceed 0)

/-- The state file cannot be written. -/
def failedWrite : List (Op ClusterRequest) := [.start (.clusterNodeDrain 1 true .writeFailed),.proceed 0]

/-- A drain is undone by a heartbeat that was under way or by the first heartbeat after a change of the row
alone, and a failed change leaves the agent draining. -/
theorem draining_undone :
    ¬DrainingSticks ((clusterSystem plainCluster).toTx.run (initial (oneNode .enabled)) lateHeartbeat).history ∧
    ¬DrainingSticks ((clusterSystem plainCluster).toTx.run (initial (oneNode .autoDisabled)) rowOnly).history ∧
    ¬DrainingSticks ((clusterSystem plainCluster).toTx.run (initial (oneNode .enabled)) failedWrite).history := by
  decide +kernel

end Cluster
end Tierflow
