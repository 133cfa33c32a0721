import Tierflow.Relay.ModelGroups

/-! The distributor: it chooses the channel of the first attempt. The token may name the channel; an earlier
request may have left a preferred one; otherwise one of the channels that offer the model is drawn. -/
namespace Tierflow
namespace Relay
open RouteHealth (Manager)
open Routing

/-! ## The model of a request -/

/-- Where an endpoint has its model: in the body, with a fallback where there is one, or in the path. -/
inductive Endpoint
  | body (fallback : String)
  | modelPath (model : String)
  | compact
  deriving DecidableEq, Repr

def compactModelSuffix : String := "-openai-compact"

def withCompactModelSuffix (modelName : String) : String :=
  if (Text.cutSuffix modelName compactModelSuffix).isSome then modelName else modelName++compactModelSuffix

def getStringIfEmpty (s fallback : String) : String := if s = "" then fallback else s

/-- The model that the distributor reads off a request with the given model in its body. -/
def getModelRequest : Endpoint → String → String
  | .body fallback,model => getStringIfEmpty model fallback
  | .modelPath name,_ => name
  | .compact,model => if model = "" then model else withCompactModelSuffix model

/-- The model that a channel is asked for; the channel may still rename it. -/
def upstreamModel : Endpoint → String → String
  | .compact,model => (Text.cutSuffix model compactModelSuffix).getD model
  | _,model => model

/-! ## The channel of the first attempt -/

/-- What the distributor finds in the context of a request. -/
structure RelayRequest where
  endpoint : Endpoint
  usingGroup : String
  tokenGroup : String
  tokenSpecificChannelId : Option ℕ
  tokenModelLimitEnabled : Bool
  tokenModelLimit : Option (List String)
  tokenCrossGroupRetry : Bool
  restrictDirectModelCall : Bool
  routingAliases : List String
  preferredChannelId : Option ℕ

inductive DistributeError
  | directModelCall
  | invalidChannelId
  | channelDisabled
  | tokenNoModelAccess
  | tokenModelForbidden (model : String)
  | modelNameRequired
  | affinityChannelDisabled
  | noAvailableChannel
  deriving DecidableEq, Repr

/-- The channel is listed under the group and the model, or under the model's normalized name. -/
def isChannelEnabledForGroupModel (w : Surroundings) (group modelName : String) (channelId : ℕ) : Bool :=
  let listed := fun name => if w.memoryCacheEnabled then decide (channelId∈w.cache.group2model2channels group name)
    else w.tables.abilities.any (fun a => a.group = group ∧ a.model = name ∧ a.channelId = channelId ∧ a.enabled)
  let normalized := formatMatchingModelName modelName
  group≠"" && modelName≠"" && channelId≠0 &&
    (listed modelName || (normalized≠"" && normalized≠modelName && listed normalized))

/-- A preferred channel is used if one of the groups of the request offers the model on it. -/
def servesPreferred (w : Surroundings) (usingGroup modelName : String) (channelId : ℕ) : Bool :=
  if usingGroup = "auto" then w.userAutoGroup.any (fun g => isChannelEnabledForGroupModel w g modelName channelId)
  else isChannelEnabledForGroupModel w usingGroup modelName channelId

/-- The channel that an earlier request left as preferred, if this one may use it. -/
def preferredChannel (w : Surroundings) (q : RelayRequest) (modelName : String) :
    Except DistributeError (Option (ℕ × Channel)) :=
  match q.preferredChannelId with
  | none => .ok none
  | some id =>
    match cacheGetChannel w id with
    | none => .ok none
    | some channel =>
      if channel.status≠.enabled then
        if w.skipRetryAfterChannelAffinityFailure then .error .affinityChannelDisabled else .ok none
      else if servesPreferred w q.usingGroup modelName id then .ok (some (id,channel))
      else .ok none

/-- The limit of a token is a limit of the names that its user asks for. -/
def checkTokenModelLimit (q : RelayRequest) (requestedModel : String) : Except DistributeError Unit :=
  if !q.tokenModelLimitEnabled then .ok ()
  else
    match q.tokenModelLimit with
    | none => .error .tokenNoModelAccess
    | some names =>
      if formatMatchingModelName requestedModel∈names then .ok () else .error (.tokenModelForbidden requestedModel)

def requestContext (q : RelayRequest) (r : RoutedRequest) : Context where
  channelId := 0
  channelIsMultiKey := false
  channelMultiKeyIndex := 0
  channelMeta := false
  autoGroupIndex := none
  abandonedChannel := []
  tokenCrossGroupRetry := q.tokenCrossGroupRetry
  specificChannelId := q.tokenSpecificChannelId.isSome
  modelGroupMembers := r.modelGroupMembers

def selectionParam (q : RelayRequest) (r : RoutedRequest) (modelName : String) : RetryParam where
  tokenGroup := q.usingGroup
  modelName := modelName
  retry := 0
  excludeChannelIds := []
  allowedChannelIds := r.allowedChannelIds
  triedKeys := []
  keyRotationsUsed := fun _ => 0
  resetNextTry := false

/-- The distributor ignores it when the channel has no key left. -/
def setupContextForSelectedChannel (w : Surroundings) (c : Context) (channel : ℕ × Channel) : Context :=
  match setupContextForSelectedChannelExcluding w c channel.1 channel.2 [] with
  | .ok c => c
  | .error _ => { c with channelId := channel.1 }

def chooseChannel (S : RelaySettings) (w : Surroundings) (q : RelayRequest) (r : RoutedRequest) (modelName : String) :
    Except DistributeError ((ℕ × Channel) × Context) :=
  let c := requestContext q r
  match q.tokenSpecificChannelId with
  | some id => do
    let channel ← orFail .invalidChannelId (w.tables.channels.find? id)
    require .channelDisabled (channel.status = .enabled)
    return ((id,channel),c)
  | none => do
    checkTokenModelLimit q (r.autoRouteAlias.getD modelName)
    require .modelNameRequired (modelName≠"")
    match ← preferredChannel w q modelName with
    | some channel => return (channel,c)
    | none =>
      match cacheGetRandomSatisfiedChannel S w (selectionParam q r modelName) c with
      | (.ok channel,_,c) => return (channel,c)
      | (.error _,_) => .error .noAvailableChannel

/-- A user who is restricted to routing aliases may ask for a model only through one of them. -/
def isDirectModelCall (q : RelayRequest) (r : RoutedRequest) (modelName : String) : Bool :=
  modelName≠"" && r.autoRouteAlias.isNone && q.restrictDirectModelCall && decide (modelName∉q.routingAliases)

def distribute (S : RelaySettings) (w : Surroundings) (q : RelayRequest) (r : RoutedRequest) :
    Except DistributeError Context := do
  let modelName := getModelRequest q.endpoint r.model
  require .directModelCall (isDirectModelCall q r modelName = false)
  let (channel,c) ← chooseChannel S w q r modelName
  return setupContextForSelectedChannel w c channel

end Relay
end Tierflow
