import Tierflow.Foundation.Keyed
import Tierflow.Routing.Abilities
import Tierflow.Routing.KeyStatus

/-! Everything that writes the channels and their abilities. Some operations write the abilities of a channel
anew, others change them in place, by channel or by tag. Statements that the database is asked to run are
taken to succeed unless a key is in their way. -/
namespace Tierflow
namespace Routing

/-- A channel with its tag; `none` is the tag that is not set. -/
structure TaggedChannel extends StatusChannel where
  tag : Option String
  deriving DecidableEq, Repr

/-- What an ability says about its group, model and channel. -/
@[ext] structure AbilityRow where
  enabled : Bool
  priority : ℤ
  weight : ℕ
  tag : Option String
  deriving DecidableEq, Repr

/-- The two tables, with the channels that upstream model updates have read and still hold. -/
structure TaggedTables where
  channels : Keyed ℕ TaggedChannel
  abilities : Keyed (String × String × ℕ) AbilityRow
  held : List (ℕ × TaggedChannel)

/-! ## Channels -/

namespace TaggedChannel

/-- All groups and models of a channel, paired. -/
def pairs (c : TaggedChannel) : List (String × String) :=
  (Text.split c.models ',').flatMap (fun model => (Text.split c.group ',').map (fun group => (group,model)))

def abilityRow (c : TaggedChannel) : AbilityRow where
  enabled := c.status = .enabled
  priority := c.getPriority
  weight := c.getWeight
  tag := c.tag

def abilityRows (c : TaggedChannel) (id : ℕ) : List ((String × String × ℕ) × AbilityRow) :=
  (abilitySet [] c.pairs).map (fun p => ((p.1,p.2,id),c.abilityRow))

/-- The row that is created for a channel: a column with a default takes it for a field that is not set. -/
def created (c : TaggedChannel) : TaggedChannel :=
  { c with
    status := if c.status = .unknown then .enabled else c.status
    weight := some c.getWeight
    priority := some c.getPriority
    group := if c.group = "" then "default" else c.group }

/-- A struct without any field set. -/
def zero : TaggedChannel where
  status := .unknown
  weight := none
  models := ""
  group := ""
  priority := none
  keys := []
  channelInfo := ⟨false,[],0,.unknown⟩
  multiKeyDisabledReason := []
  multiKeyDisabledTime := []
  statusReason := none
  statusTime := none
  tag := none

/-- The columns of multi-key mode are one field. -/
def InfoUnset (c : TaggedChannel) : Prop :=
  c.channelInfo = zero.channelInfo ∧ c.multiKeyDisabledReason = [] ∧ c.multiKeyDisabledTime = []

instance (c : TaggedChannel) : Decidable c.InfoUnset := instDecidableAnd

/-- A row updated by a struct: fields that are not set are left alone, a pointer is set even to zero. -/
def updates (r c : TaggedChannel) : TaggedChannel where
  status := if c.status = .unknown then r.status else c.status
  weight := c.weight.or r.weight
  models := if c.models = "" then r.models else c.models
  group := if c.group = "" then r.group else c.group
  priority := c.priority.or r.priority
  keys := if c.keys = [] then r.keys else c.keys
  channelInfo := if c.InfoUnset then r.channelInfo else c.channelInfo
  multiKeyDisabledReason := if c.InfoUnset then r.multiKeyDisabledReason else c.multiKeyDisabledReason
  multiKeyDisabledTime := if c.InfoUnset then r.multiKeyDisabledTime else c.multiKeyDisabledTime
  statusReason := if c.statusReason = none ∧ c.statusTime = none then r.statusReason else c.statusReason
  statusTime := if c.statusReason = none ∧ c.statusTime = none then r.statusTime else c.statusTime
  tag := c.tag.or r.tag

/-- In multi-key mode the statuses of keys that are no longer there are dropped. -/
def cleanStatusList (c : TaggedChannel) (keys : List String) : TaggedChannel :=
  if c.channelInfo.isMultiKey then
    { c with toStatusChannel :=
        c.setStatusList (c.channelInfo.multiKeyStatusList.filter (fun e => e.1<keys.length)) }
  else c

/-- The names in the models column; a comma at either end is no name. -/
def modelNames (c : TaggedChannel) : List String :=
  let isComma : Char → Bool := fun x => x = ','
  if c.models = "" then []
  else Text.split (String.ofList ((c.models.toList.dropWhile isComma).rdropWhile isComma)) ','

end TaggedChannel

/-! ## The operations -/

namespace TaggedTables

def empty : TaggedTables := ⟨.empty,.empty,[]⟩

/-- An ability that is there already is not written. -/
def addAbilities (s : TaggedTables) (id : ℕ) (c : TaggedChannel) : TaggedTables :=
  { s with abilities := s.abilities.insertAll (c.abilityRows id) }

def updateAbilities (s : TaggedTables) (id : ℕ) (c : TaggedChannel) : TaggedTables :=
  { s with abilities := s.abilities.deleteWhere (fun a => a.1.2.2 = id) }.addAbilities id c

def updateAllAbilities (s : TaggedTables) (rows : List (ℕ × TaggedChannel)) : TaggedTables :=
  rows.foldl (fun s r => s.updateAbilities r.1 r.2) s

/-- A channel is created under an id that is free, its own or the next one. -/
def insert (s : TaggedTables) (id : ℕ) (c : TaggedChannel) : Option TaggedTables :=
  if 0 < id ∧ s.channels.find? id = none then
    some ({ s with channels := s.channels.insertNew (id,c.created) }.addAbilities id c.created)
  else none

/-- All of the channels are created, or none. -/
def batchInsertChannels (s : TaggedTables) : List (ℕ × TaggedChannel) → Option TaggedTables
  | [] => some s
  | r::rows => (s.insert r.1 r.2).bind (fun s => s.batchInsertChannels rows)

def batchDeleteChannels (s : TaggedTables) (ids : List ℕ) : TaggedTables :=
  { s with
    channels := s.channels.deleteWhere (fun r => r.1∈ids)
    abilities := s.abilities.deleteWhere (fun a => a.1.2.2∈ids) }

/-- A deletion without an id is refused. -/
def delete (s : TaggedTables) (id : ℕ) : Option TaggedTables :=
  if id = 0 then none else some (s.batchDeleteChannels [id])

def deleteDisabledChannel (s : TaggedTables) : TaggedTables :=
  { s with channels := s.channels.deleteWhere (fun r => r.2.status = .autoDisabled ∨ r.2.status = .manuallyDisabled) }

/-- A struct that a row is updated by, with its status list cut to the keys of the struct or of the row. -/
def cleaned (s : TaggedTables) (id : ℕ) (c : TaggedChannel) : TaggedChannel :=
  c.cleanStatusList (if c.keys = [] then ((s.channels.find? id).map (fun r => r.keys)).getD [] else c.keys)

/-- The update of a row that is not there finds nothing to change, and no row is read back over `c`. -/
def update (s : TaggedTables) (id : ℕ) (c : TaggedChannel) : Option TaggedTables :=
  let c := s.cleaned id c
  let channels := s.channels.mapRows (fun j r => if j = id then r.updates c else r)
  if id = 0 then none
  else some ({ s with channels := channels }.updateAbilities id ((channels.find? id).getD c))

/-- Whether a call goes on from the memory cache to the row; `cached` is `none` without a memory cache, and
otherwise what the cache holds for the channel. -/
def reachesRow (cached : Option (Option StatusChannel)) (status : ChannelStatus) : Bool :=
  match cached with
  | none => true
  | some none => false
  | some (some c) => c.channelInfo.isMultiKey || c.status≠status

/-- The row after a call. -/
def calledChannel (r : TaggedChannel) (i : StatusCall) : TaggedChannel :=
  { r with toStatusChannel :=
      if r.channelInfo.isMultiKey then r.handlerMultiKeyUpdate i.usingKey i.status i.reason i.rowTime
      else (r.noteStatus i.reason i.rowTime).setStatus i.status }

def updateAbilityStatus (s : TaggedTables) (id : ℕ) (enabled : Bool) : TaggedTables :=
  { s with abilities := s.abilities.mapRows (fun k a => if k.2.2 = id then { a with enabled := enabled } else a) }

def updateChannelStatus (s : TaggedTables) (i : StatusCall) (cached : Option (Option StatusChannel)) : TaggedTables :=
  match s.channels.find? i.channelId with
  | none => s
  | some r =>
    if !reachesRow cached i.status || r.status = i.status then s
    else
      let r' := calledChannel r i
      let s := { s with channels := s.channels.mapRows (fun j c => if j = i.channelId then r' else c) }
      if !r.channelInfo.isMultiKey || r.status≠r'.status then s.updateAbilityStatus i.channelId (i.status = .enabled)
      else s

def setStatusByTag (s : TaggedTables) (tag : String) (status : ChannelStatus) : TaggedTables :=
  { s with
    channels := s.channels.mapRows (fun _ c => if c.tag = some tag then { c with status := status } else c)
    abilities := s.abilities.mapRows (fun _ a =>
      if a.tag = some tag then { a with enabled := status = .enabled } else a) }

def enableChannelByTag (s : TaggedTables) (tag : String) : TaggedTables := s.setStatusByTag tag .enabled

def disableChannelByTag (s : TaggedTables) (tag : String) : TaggedTables := s.setStatusByTag tag .manuallyDisabled

end TaggedTables

/-- The changes to all channels of a tag; what is `none` is not changed. -/
structure TagEdit where
  newTag : Option String
  models : Option String
  group : Option String
  priority : Option ℤ
  weight : Option ℕ
  deriving DecidableEq, Repr

namespace TagEdit

def recreates (e : TagEdit) : Bool := e.models.getD ""≠"" || e.group.getD ""≠""

def updatedTag (e : TagEdit) (tag : String) : String := e.newTag.getD tag

def updateData (e : TagEdit) (tag : String) : TaggedChannel :=
  { TaggedChannel.zero with
    tag := if e.newTag = some tag then none else e.newTag
    models := e.models.getD ""
    group := e.group.getD ""
    priority := e.priority
    weight := e.weight }

def editChannel (e : TagEdit) (tag : String) (c : TaggedChannel) : TaggedChannel :=
  if c.tag = some tag then c.updates (e.updateData tag) else c

/-- The weight of an ability is no pointer, and a weight of zero is not set. -/
def editAbility (e : TagEdit) (tag : String) (a : AbilityRow) : AbilityRow :=
  if a.tag = some tag then
    { a with
      tag := e.newTag.or a.tag
      priority := e.priority.getD a.priority
      weight := if e.weight.getD 0 = 0 then a.weight else e.weight.getD 0 }
  else a

end TagEdit

namespace TaggedTables

/-- Only groups or models to change make that abilities are written anew. -/
def editChannelByTag (s : TaggedTables) (tag : String) (e : TagEdit) : TaggedTables :=
  let s := { s with channels := s.channels.mapRows (fun _ c => e.editChannel tag c) }
  if e.recreates then s.updateAllAbilities (s.channels.rows.filter (fun r => r.2.tag = some (e.updatedTag tag)))
  else { s with abilities := s.abilities.mapRows (fun _ a => e.editAbility tag a) }

/-- The tags are written in a transaction, and the channels are read outside of it: their tags are still
the old ones. -/
def batchSetChannelTag (s : TaggedTables) (ids : List ℕ) (tag : Option String) : TaggedTables :=
  let committed := s.channels.rows.filter (fun r => r.1∈ids)
  let s := { s with channels := s.channels.mapRows (fun id c => if id∈ids then { c with tag := tag } else c) }
  s.updateAllAbilities committed

def fixAbility (s : TaggedTables) : TaggedTables :=
  { s with abilities := .empty }.updateAllAbilities s.channels.rows

end TaggedTables

/-! ## Upstream model updates -/

def normalizeModelNames (models : List String) : List String :=
  ((models.map Text.trimSpace).filter (fun model => model≠"")).eraseDups

def mergeModelNames (base appended : List String) : List String :=
  let merged := normalizeModelNames base
  merged++(normalizeModelNames appended).filter (fun model => model∉merged)

def subtractModelNames (base removed : List String) : List String :=
  (normalizeModelNames base).filter (fun model => model∉normalizeModelNames removed)

def intersectModelNames (base allowed : List String) : List String :=
  (normalizeModelNames base).filter (fun model => model∈normalizeModelNames allowed)

/-- A model that is added is not removed. -/
def applySelectedModelChanges (originModels addModels removeModels : List String) : List String :=
  let normalizedAdd := normalizeModelNames addModels
  let normalizedRemove := subtractModelNames (normalizeModelNames removeModels) normalizedAdd
  subtractModelNames (mergeModelNames originModels normalizedAdd) normalizedRemove

/-- The models to add and to remove, and those that were found upstream before. -/
structure UpstreamSelection where
  addModels : List String
  removeModels : List String
  lastDetectedModels : List String
  lastRemovedModels : List String
  deriving DecidableEq, Repr

namespace TaggedChannel

/-- The models column after models that were found upstream are added, when there are new ones. -/
def autoAddedModels (c : TaggedChannel) (pendingAddModels : List String) : Option String :=
  let originModels := normalizeModelNames c.modelNames
  let mergedModels := mergeModelNames originModels pendingAddModels
  if originModels.length < mergedModels.length then some (String.intercalate "," mergedModels) else none

/-- The models column after a selection is applied, when it changes. -/
def appliedModels (c : TaggedChannel) (q : UpstreamSelection) : Option String :=
  let addModels := intersectModelNames q.addModels (normalizeModelNames q.lastDetectedModels)
  let removeModels := intersectModelNames q.removeModels (normalizeModelNames q.lastRemovedModels)
  let originModels := normalizeModelNames c.modelNames
  let nextModels := applySelectedModelChanges originModels addModels (subtractModelNames removeModels addModels)
  if nextModels = originModels then none else some (String.intercalate "," nextModels)

def setModels (c : TaggedChannel) (models : String) : TaggedChannel := { c with models := models }

end TaggedChannel

namespace TaggedTables

def hold (s : TaggedTables) (ids : List ℕ) : TaggedTables :=
  { s with held := s.channels.rows.filter (fun r => r.1∈ids)++s.held }

/-- The models column is written to the row, the abilities are those of the channel that is held. -/
def writeModels (s : TaggedTables) (id : ℕ) (c : TaggedChannel) : Option String → TaggedTables
  | none => s
  | some models =>
    let channels := s.channels.mapRows (fun j r => if j = id then r.setModels models else r)
    { s with channels := channels }.updateAbilities id (c.setModels models)

end TaggedTables

/-! ## Runs -/

inductive ChannelOp
  | batchInsertChannels (channels : List (ℕ × TaggedChannel))
  | insert (id : ℕ) (c : TaggedChannel)
  | update (id : ℕ) (c : TaggedChannel)
  | delete (id : ℕ)
  | batchDeleteChannels (ids : List ℕ)
  | deleteDisabledChannel
  | updateChannelStatus (i : StatusCall) (cached : Option (Option StatusChannel))
  | enableChannelByTag (tag : String)
  | disableChannelByTag (tag : String)
  | editChannelByTag (tag : String) (e : TagEdit)
  | batchSetChannelTag (ids : List ℕ) (tag : Option String)
  | holdChannels (ids : List ℕ)
  | addUpstreamModels (held : ℕ × TaggedChannel) (pendingAddModels : List String)
  | applyUpstreamModels (held : ℕ × TaggedChannel) (q : UpstreamSelection)
  | fixAbility
  deriving DecidableEq, Repr

namespace TaggedTables

/-- The tables after an operation that succeeds. -/
def after (s : TaggedTables) : ChannelOp → Option TaggedTables
  | .batchInsertChannels channels => s.batchInsertChannels channels
  | .insert id c => s.insert id c
  | .update id c => s.update id c
  | .delete id => s.delete id
  | .batchDeleteChannels ids => some (s.batchDeleteChannels ids)
  | .deleteDisabledChannel => some s.deleteDisabledChannel
  | .updateChannelStatus i cached => some (s.updateChannelStatus i cached)
  | .enableChannelByTag tag => some (s.enableChannelByTag tag)
  | .disableChannelByTag tag => some (s.disableChannelByTag tag)
  | .editChannelByTag tag e => some (s.editChannelByTag tag e)
  | .batchSetChannelTag ids tag => some (s.batchSetChannelTag ids tag)
  | .holdChannels ids => some (s.hold ids)
  | .addUpstreamModels c pendingAddModels =>
    if c∈s.held then some (s.writeModels c.1 c.2 (c.2.autoAddedModels pendingAddModels)) else none
  | .applyUpstreamModels c q =>
    if c∈s.held then some (s.writeModels c.1 c.2 (c.2.appliedModels q)) else none
  | .fixAbility => some s.fixAbility

end TaggedTables

/-- No operation emits anything. -/
def channelSystem : TxSystem TaggedTables ChannelOp Unit where
  step s op := (s.after op).map (fun s => (s,[]))

end Routing
end Tierflow
