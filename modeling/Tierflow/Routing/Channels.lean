import Tierflow.Foundation.Selection
import Tierflow.Foundation.Table
import Tierflow.Foundation.Text
import Tierflow.Foundation.Transaction
import Tierflow.RouteHealth.Breaker

/-! Channels and their abilities, the memory cache built from them, and the two ways to pick the
channel of a request: from the cache or from the abilities table. -/
namespace Tierflow
namespace Routing
open RouteHealth (Manager)

inductive ChannelStatus
  | unknown
  | enabled
  | manuallyDisabled
  | autoDisabled
  deriving DecidableEq, Repr

inductive MultiKeyMode
  | random
  | polling
  | unknown
  deriving DecidableEq, Repr

structure ChannelInfo where
  isMultiKey : Bool
  multiKeyStatusList : List (ℕ × ChannelStatus)
  multiKeyPollingIndex : ℤ
  multiKeyMode : MultiKeyMode
  deriving DecidableEq, Repr

/-- A channel row; `keys` are the keys that its key text consists of. -/
structure Channel where
  status : ChannelStatus
  weight : Option ℕ
  models : String
  group : String
  priority : Option ℤ
  keys : List String
  channelInfo : ChannelInfo
  deriving DecidableEq, Repr

def Channel.getPriority (c : Channel) : ℤ := c.priority.getD 0

def Channel.getWeight (c : Channel) : ℕ := c.weight.getD 0

/-- A channel offers a model in a group. -/
structure Ability where
  group : String
  model : String
  channelId : ℕ
  enabled : Bool
  priority : ℤ
  weight : ℕ
  deriving DecidableEq, Repr

structure Tables where
  channels : Table Channel
  abilities : List Ability

/-- The cache: the enabled channels of every group and model, and all channels by id. -/
structure ChannelCache where
  group2model2channels : String → String → List ℕ
  channelsIDM : ℕ → Option Channel

inductive SelectError
  | inconsistent (id : ℕ)
  | noChannelFound
  | channelNotFound
  | brokenPriorities
  | recordNotFound
  deriving DecidableEq, Repr

/-! ## The cache -/

/-- How often a channel is listed under a group and a model. -/
def Channel.listings (c : Channel) (group model : String) : ℕ :=
  (Text.split c.group ',').count group*(Text.split c.models ',').count model

def cachedPool (t : Tables) (group model : String) : List ℕ :=
  let enabled := t.channels.rows.filter (fun r => r.2.status = .enabled)
  let listed := enabled.flatMap (fun r => List.replicate (r.2.listings group model) r)
  (listed.insertionSort (fun r s => s.2.getPriority ≤ r.2.getPriority)).map Prod.fst

/-- There is no inner map for a group without abilities, and writing to it stops the program. -/
def initChannelCache (t : Tables) : Option ChannelCache :=
  if ∀ r∈t.channels.rows, r.2.status = .enabled → ∀ g∈Text.split r.2.group ',', ∃ a∈t.abilities, a.group = g then
    some ⟨cachedPool t,t.channels.find?⟩
  else none

def handleThinkingBudgetModel (name p wildcard : String) : String :=
  if Text.hasPrefix name p ∧ Text.contains name "-thinking-" then wildcard else name

def formatMatchingModelName (name : String) : String :=
  let name :=
    if Text.hasPrefix name "gemini-2.5-flash-lite" then
      handleThinkingBudgetModel name "gemini-2.5-flash-lite" "gemini-2.5-flash-lite-thinking-*"
    else if Text.hasPrefix name "gemini-2.5-flash" then
      handleThinkingBudgetModel name "gemini-2.5-flash" "gemini-2.5-flash-thinking-*"
    else if Text.hasPrefix name "gemini-2.5-pro" then
      handleThinkingBudgetModel name "gemini-2.5-pro" "gemini-2.5-pro-thinking-*"
    else name
  let name := if Text.hasPrefix name "gpt-4-gizmo" then "gpt-4-gizmo-*" else name
  if Text.hasPrefix name "gpt-4o-gizmo" then "gpt-4o-gizmo-*" else name

/-! ## Selection -/

/-- What a request asks for: the channels that it gave up on and, perhaps, those it is confined to. -/
structure Request where
  group : String
  model : String
  retry : ℕ
  exclude : List ℕ
  allow : Option (List ℕ)
  deriving DecidableEq, Repr

def Request.allows (r : Request) (id : ℕ) : Bool :=
  match r.allow with
  | none => true
  | some ids => id∈ids

/-- Neither given up on nor cooling down; then, not given up on; then, anything. -/
def filterSelectable {α : Type*} (m : Manager) (exclude : List ℕ) (id : α → ℕ) (l : List α) : List α :=
  Selection.relax [fun a => id a∉exclude ∧ m.isAvailable (id a) (-1),fun a => id a∉exclude] l

def filterSelectableChannels (m : Manager) (exclude : List ℕ) (l : List (ℕ × Channel)) : List (ℕ × Channel) :=
  filterSelectable m exclude Prod.fst l

def filterSelectableAbilities (m : Manager) (exclude : List ℕ) (l : List Ability) : List Ability :=
  filterSelectable m exclude Ability.channelId l

/-- The sum, the factor and the adjustment that smooth the weights. -/
def smoothing (l : List (ℕ × Channel)) : ℕ × ℕ × ℕ :=
  let sumWeight := (l.map (fun c => c.2.getWeight)).sum
  if sumWeight = 0 then (l.length*100,1,100)
  else if sumWeight/l.length<10 then (sumWeight,100,0)
  else (sumWeight,1,0)

def weightedPickChannel (l : List (ℕ × Channel)) (roll : ℕ) : Except SelectError (ℕ × Channel) :=
  match l with
  | [] => .error .channelNotFound
  | [c] => .ok c
  | l =>
    let (sumWeight,smoothingFactor,smoothingAdjustment) := smoothing l
    let totalWeight := sumWeight*smoothingFactor
    orFail .channelNotFound (Selection.drawBelow
      (fun c => c.2.getWeight*smoothingFactor+smoothingAdjustment) l (roll%totalWeight : ℕ))

/-- The cached rows of a pool; a missing one is an error. -/
def loadChannels (cache : ChannelCache) : List ℕ → Except SelectError (List (ℕ × Channel))
  | [] => .ok []
  | id::ids => do
    let c ← orFail (.inconsistent id) (cache.channelsIDM id)
    let cs ← loadChannels cache ids
    return (id,c)::cs

/-- The pool of the exact model name, or else of the normalized one. -/
def requestPool (cache : ChannelCache) (r : Request) : List ℕ :=
  let channels := cache.group2model2channels r.group r.model
  if channels = [] then cache.group2model2channels r.group (formatMatchingModelName r.model) else channels

def getCachedChannel (cache : ChannelCache) (m : Manager) (r : Request) (roll : ℕ) :
    Except SelectError (Option (ℕ × Channel)) :=
  match (requestPool cache r).filter r.allows with
  | [] => .ok none
  | [id] => do
    let c ← orFail (.inconsistent id) (cache.channelsIDM id)
    return some (id,c)
  | channels => do
    let loaded ← loadChannels cache channels
    let priorities := Selection.tiers (loaded.map (fun c => c.2.getPriority))
    let retry := if priorities.length ≤ r.retry then priorities.length-1 else r.retry
    let targetPriority ← orFail .noChannelFound priorities[retry]?
    let targetChannels := loaded.filter (fun c => c.2.getPriority = targetPriority)
    require .noChannelFound (targetChannels≠[])
    let c ← weightedPickChannel (filterSelectableChannels m r.exclude targetChannels) roll
    return some c

/-! ## Selection from the database -/

def enabledAbilities (t : Tables) (r : Request) : List Ability :=
  t.abilities.filter (fun a => a.group = r.group ∧ a.model = r.model ∧ a.enabled)

def getPriority (t : Tables) (r : Request) : Except SelectError ℤ :=
  let priorities := Selection.tiers ((enabledAbilities t r).map Ability.priority)
  if priorities = [] then .error .brokenPriorities
  else if priorities.length ≤ r.retry then orFail .brokenPriorities priorities.getLast?
  else orFail .brokenPriorities priorities[r.retry]?

/-- The rows of the greatest priority on the first try, of the tier of the retry number later. -/
def channelQuery (t : Tables) (r : Request) : Except SelectError (List Ability) :=
  if r.retry≠0 then do
    let priority ← getPriority t r
    return (enabledAbilities t r).filter (fun a => a.priority = priority)
  else
    let maxPriority := ((enabledAbilities t r).map Ability.priority).max?
    .ok ((enabledAbilities t r).filter (fun a => maxPriority = some a.priority))

def getChannelConstrained (t : Tables) (m : Manager) (r : Request) (roll : ℕ) :
    Except SelectError (Option (ℕ × Channel)) := do
  let rows ← channelQuery t r
  let abilities := (rows.insertionSort (fun a b => b.weight≤a.weight)).filter (fun a => r.allows a.channelId)
  match filterSelectableAbilities m r.exclude abilities with
  | [] => return none
  | abilities =>
    let weightSum := (abilities.map (fun a => a.weight+10)).sum
    let id := ((Selection.drawUpTo (fun a => a.weight+10) abilities (roll%weightSum : ℕ)).map
      Ability.channelId).getD 0
    let c ← orFail .recordNotFound (t.channels.find? id)
    return some (id,c)

end Routing
end Tierflow
