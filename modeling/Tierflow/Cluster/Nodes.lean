import Tierflow.Foundation.Table
import Tierflow.Foundation.Tasks
import Tierflow.Routing.Channels

/-! The nodes of a cluster, their agents, and the status of the channels that the controller manages for
them. Every request of the controller is a list of statements that are taken one at a time. -/
namespace Tierflow
open TxSystem TaskSystem
namespace Cluster
open Routing (ChannelStatus)

/-! ## Nodes and channels -/

/-- What an agent reports of one of its models. -/
structure ModelStatus where
  id : String
  channelId : ℤ
  state : String
  endpointHealthy : Bool
  deriving DecidableEq, Repr

structure ClusterNode where
  name : String
  online : Bool
  draining : Bool
  models : List ModelStatus
  lastSeenAt : ℤ
  deriving DecidableEq, Repr

/-- The flag in an agent's memory and the one in its state file. -/
structure Agent where
  draining : Bool
  file : Bool
  deriving DecidableEq, Repr

structure Heartbeat where
  nodeName : String
  draining : Bool
  models : List ModelStatus
  deriving DecidableEq, Repr

structure ClusterSettings where
  memoryCacheEnabled : Bool
  isMultiKey : ℤ → Bool
  nodeTimeout : ℤ

/-- The rows of the nodes, the status of each channel in the database and in the memory of the controller,
and the agents by the names of their nodes. -/
structure ClusterState where
  now : ℤ
  nodes : Table ClusterNode
  channels : ℤ → Option ChannelStatus
  cache : ℤ → Option ChannelStatus
  agents : String → Agent

/-! ## Statements -/

inductive ModelAction
  | start | stop | restart
  deriving DecidableEq, Repr

/-- What comes of a drain request to an agent. -/
inductive AgentOutcome
  | written | writeFailed | unreachable
  deriving DecidableEq, Repr

inductive Statement
  /-- The statements of a heartbeat; `previous` is what the row listed at the first of them, and `seenAt` the
  moment of the next. -/
  | readPrevious (hb : Heartbeat)
  | findExisting (hb : Heartbeat) (previous : List ModelStatus) (seenAt : ℤ)
  | createRow (hb : Heartbeat) (previous : List ModelStatus) (seenAt : ℤ)
  | updateRow (id : ℕ) (hb : Heartbeat) (previous : List ModelStatus) (seenAt : ℤ)
  | readBack (id : ℕ) (hb : Heartbeat) (previous : List ModelStatus)
  /-- The read of `SyncClusterManagedChannelStatus`. -/
  | syncRead (channelId : ℤ) (available : Bool)
  /-- `UpdateChannelStatus` in memory, its read and its save; a model action has it for itself. -/
  | statusCache (channelId : ℤ) (status : ChannelStatus) (byAction : Bool)
  | statusRead (channelId : ℤ) (status : ChannelStatus) (byAction : Bool)
  | statusSave (channelId : ℤ) (status : ChannelStatus) (byAction : Bool)
  /-- `handleDrain` of the agent, and what the controller does when it has answered. -/
  | agentDrain (id : ℕ) (draining : Bool) (models : List ModelStatus) (outcome : AgentOutcome)
  | drainRow (id : ℕ) (draining : Bool)
  | reportDrain (draining : Bool)
  /-- `UpdateClusterNode` with a draining value. -/
  | updateNodeRow (id : ℕ) (draining : Bool)
  | agentAction (models : List ModelStatus) (modelId : String) (action : ModelAction) (runs : Bool)
  | markOffline (id : ℕ)
  | deleteRow (id : ℕ)
  | reloadCache
  deriving DecidableEq, Repr

/-- The statements that a request has still to take, and the node that it is about. -/
structure ClusterTask where
  node : String
  todo : List Statement
  deriving DecidableEq, Repr

inductive ClusterEvent
  | drainAsked (node : String) (draining : Bool)
  | drainSucceeded (node : String) (draining : Bool)
  /-- The flags of the agent and of the row before and after a change that is reported as failed. -/
  | drainFailed (node : String) (before after : Bool × Option Bool)
  | channelEnabled (node : String) (channelId : ℤ)
  | manuallyDisabled (channelId : ℤ)
  /-- A start or a restart hands the channel over to the controller. -/
  | started (channelId : ℤ)
  deriving DecidableEq, Repr

/-- `status.State == "active" && status.EndpointHealthy` on a node in the given state. -/
def ModelStatus.available (m : ModelStatus) (online draining : Bool) : Bool :=
  online && !draining && decide (m.state = "active") && m.endpointHealthy

/-- `syncClusterModelChannels`; a model without a channel is passed over. -/
def syncClusterModelChannels (models : List ModelStatus) (online draining : Bool) : List Statement :=
  (models.filter (fun m => 0 < m.channelId)).map (fun m => .syncRead m.channelId (m.available online draining))

/-- `syncRemovedClusterModelChannels`. -/
def syncRemovedClusterModelChannels (previous current : List ModelStatus) : List Statement :=
  (previous.filter (fun m => decide (0 < m.channelId ∧ m.channelId∉current.map ModelStatus.channelId))).map
    (fun m => .syncRead m.channelId false)

def heartbeatSyncs (hb : Heartbeat) (previous : List ModelStatus) : List Statement :=
  syncRemovedClusterModelChannels previous hb.models++syncClusterModelChannels hb.models true hb.draining

/-- The row of a name. -/
def ClusterState.byName (s : ClusterState) (name : String) : Option (ℕ × ClusterNode) :=
  s.nodes.first? (fun r => r.2.name = name)

def ClusterState.rowDraining (s : ClusterState) (name : String) : Option Bool :=
  (s.byName name).map (fun r => r.2.draining)

def ClusterState.updateNode (s : ClusterState) (id : ℕ) (f : ClusterNode → ClusterNode) : ClusterState :=
  { s with nodes := s.nodes.updateWhere (fun r => r.1 = id) f }

/-- The row that a heartbeat writes. -/
def Heartbeat.row (hb : Heartbeat) (seenAt : ℤ) : ClusterNode :=
  ⟨hb.nodeName,true,hb.draining,hb.models,seenAt⟩

/-- What a statement leaves: the state, the statements that come next, and the events. A statement that can
fail is the last of its request as yet, so that the request ends when it does. -/
abbrev StatementOutcome := ClusterState × List Statement × List ClusterEvent

/-- Announce that a channel becomes enabled. -/
def announce (node : String) (channelId : ℤ) (status : ChannelStatus) : List ClusterEvent :=
  if status = .enabled then [.channelEnabled node channelId] else []

/-- The part of `UpdateChannelStatus` that concerns the memory cache. The lock that one process holds around
it and the statements that follow is left out, so that several controllers are covered too. -/
def statusCache (E : ClusterSettings) (s : ClusterState) (node : String) (c : ℤ) (status : ChannelStatus)
    (byAction : Bool) : StatementOutcome :=
  if E.memoryCacheEnabled then
    match s.cache c with
    | none => (s,[],[])
    | some cached =>
      if E.isMultiKey c = false ∧ cached = status then (s,[],[])
      else ({ s with cache := Function.update s.cache c (some status) },[.statusRead c status byAction],
        if cached = status then [] else announce node c status)
  else (s,[.statusRead c status byAction],[])

/-- `handleDrain`: the flag in memory is set before the file is written. -/
def agentDrain (s : ClusterState) (node : String) (id : ℕ) (draining : Bool) (models : List ModelStatus) :
    AgentOutcome → StatementOutcome
  | .written =>
    ({ s with agents := Function.update s.agents node ⟨draining,draining⟩ },
      .drainRow id draining::syncClusterModelChannels models true draining++[.reportDrain draining],
      [.drainAsked node draining])
  | .writeFailed =>
    ({ s with agents := Function.update s.agents node { s.agents node with draining := draining } },[],
      [.drainFailed node ((s.agents node).draining,s.rowDraining node) (draining,s.rowDraining node)])
  | .unreachable =>
    (s,[],[.drainFailed node ((s.agents node).draining,s.rowDraining node)
      ((s.agents node).draining,s.rowDraining node)])

/-- What the controller does after an agent has started, restarted or stopped a model: the first listed model
of that name with a channel. -/
def afterAction (models : List ModelStatus) (modelId : String) (action : ModelAction) : List Statement :=
  match models.find? (fun m => m.id = modelId ∧ 0 < m.channelId) with
  | none => []
  | some m => if action = .stop then [.syncRead m.channelId false]
    else [.statusCache m.channelId .autoDisabled true]

def execStatement (E : ClusterSettings) (s : ClusterState) (node : String) : Statement → StatementOutcome
  | .readPrevious hb =>
    (s,[.findExisting hb ((s.byName hb.nodeName).elim [] (fun r => r.2.models)) s.now],[])
  | .findExisting hb previous seenAt =>
    match s.byName hb.nodeName with
    | none => (s,[.createRow hb previous seenAt],[])
    | some r => (s,[.updateRow r.1 hb previous seenAt],[])
  | .createRow hb previous seenAt =>
    -- the name is unique
    if (s.byName hb.nodeName).isSome then (s,[],[])
    else ({ s with nodes := s.nodes.insert (hb.row seenAt) },heartbeatSyncs hb previous,[])
  | .updateRow id hb previous seenAt =>
    (s.updateNode id (fun n => { hb.row seenAt with name := n.name }),[.readBack id hb previous],[])
  | .readBack id hb previous =>
    match s.nodes.find? id with
    | none => (s,[],[])
    | some _ => (s,heartbeatSyncs hb previous,[])
  | .syncRead c available =>
    match s.channels c with
    | none => (s,[],[])
    | some status =>
      if available then
        if status = .autoDisabled then (s,[.statusCache c .enabled false],[]) else (s,[],[])
      else if status = .enabled then (s,[.statusCache c .autoDisabled false],[]) else (s,[],[])
  | .statusCache c status byAction => statusCache E s node c status byAction
  | .statusRead c status byAction =>
    match s.channels c with
    | none => (s,[],[])
    | some old => if old = status then (s,[],[]) else (s,[.statusSave c status byAction],[])
  | .statusSave c status byAction =>
    ({ s with channels := Function.update s.channels c (some status) },[],
      (if byAction then [.started c] else [])++announce node c status)
  | .agentDrain id draining models outcome => agentDrain s node id draining models outcome
  | .drainRow id draining => (s.updateNode id (fun n => { n with draining := draining }),[],[])
  | .reportDrain draining => (s,[],[.drainSucceeded node draining])
  | .updateNodeRow id draining => (s.updateNode id (fun n => { n with draining := draining }),[],
      [.drainSucceeded node draining,.drainAsked node draining])
  | .agentAction models modelId action runs =>
    if runs = false ∨ (s.agents node).draining = true ∧ action ≠ .stop then (s,[],[])
    else (s,afterAction models modelId action,[])
  | .markOffline id => (s.updateNode id (fun n => { n with online := false }),[],[])
  | .deleteRow id => ({ s with nodes := s.nodes.delete id },[],[])
  | .reloadCache => ({ s with cache := s.channels },[],[])

/-- The task that is left of a list of statements. -/
def taskOf (node : String) (todo : List Statement) : List ClusterTask :=
  if todo = [] then [] else [⟨node,todo⟩]

def advanceCluster (E : ClusterSettings) (s : ClusterState) (t : ClusterTask) :
    ClusterState × List ClusterTask × List ClusterEvent :=
  match t.todo with
  | [] => (s,[],[])
  | st::rest =>
    let r := execStatement E s t.node st
    (r.1,taskOf t.node (r.2.1++rest),r.2.2)

/-! ## Requests -/

inductive ClusterRequest
  /-- An agent collects its status, to be delivered later. -/
  | collectStatus (nodeName : String) (models : List ModelStatus)
  | clusterNodeDrain (id : ℕ) (draining : Bool) (outcome : AgentOutcome)
  | updateClusterNode (id : ℕ) (draining : Bool)
  | clusterNodeModelAction (id : ℕ) (modelId : String) (action : ModelAction) (runs : Bool)
  | deleteClusterNode (id : ℕ)
  | markStaleClusterNodes
  /-- An administrator disables a channel by hand. -/
  | manualDisable (channelId : ℤ)
  | syncChannelCache
  | tick (d : ℕ)
  deriving DecidableEq, Repr

/-- The rows that `GetStaleClusterNodes` finds. -/
def staleNodes (E : ClusterSettings) (s : ClusterState) : List (ℕ × ClusterNode) :=
  s.nodes.select (fun r => decide (0 < r.2.lastSeenAt ∧ r.2.lastSeenAt < s.now-E.nodeTimeout ∧ r.2.online = true))

/-- A request that begins with the read of a row. -/
def withNode (s : ClusterState) (id : ℕ) (todo : ClusterNode → List Statement) :
    ClusterState × List ClusterTask × List ClusterEvent :=
  match s.nodes.find? id with
  | none => (s,[],[])
  | some n => (s,taskOf n.name (todo n),[])

def startCluster (E : ClusterSettings) (s : ClusterState) :
    ClusterRequest → ClusterState × List ClusterTask × List ClusterEvent
  | .collectStatus name models => (s,[⟨name,[.readPrevious ⟨name,(s.agents name).draining,models⟩]⟩],[])
  | .clusterNodeDrain id draining outcome => withNode s id (fun n => [.agentDrain id draining n.models outcome])
  | .updateClusterNode id draining => withNode s id (fun _ => [.updateNodeRow id draining])
  | .clusterNodeModelAction id modelId action runs =>
    withNode s id (fun n => [.agentAction n.models modelId action runs])
  | .deleteClusterNode id =>
    withNode s id (fun n => syncClusterModelChannels n.models false n.draining++[.deleteRow id])
  | .markStaleClusterNodes => (s,taskOf "" ((staleNodes E s).flatMap fun r =>
      .markOffline r.1::syncClusterModelChannels r.2.models false r.2.draining),[])
  | .manualDisable c =>
    match s.channels c with
    | none => (s,[],[])
    | some _ => ({ s with channels := Function.update s.channels c (some .manuallyDisabled) },
        [⟨"",[.reloadCache]⟩],[.manuallyDisabled c])
  | .syncChannelCache => ({ s with cache := s.channels },[],[])
  | .tick d => ({ s with now := s.now+d },[],[])

def clusterSystem (E : ClusterSettings) : TaskSystem ClusterState ClusterTask ClusterRequest ClusterEvent where
  start := startCluster E
  advance := advanceCluster E

/-- The configuration of a cluster: its state, the requests in progress and the events so far. -/
abbrev ClusterConfig := Config ClusterState ClusterTask ClusterEvent

end Cluster
end Tierflow
