import Tierflow.Billing.Session
import Tierflow.Relay.Distribute

/-! The gate of a subscription's own key. It looks at the two buckets of the subscription before the request is
routed to a model group, and may send the request to another group than its tier names. The billing session
comes to a bucket later, from what the gate left behind. -/
namespace Tierflow
namespace Relay
open RouteHealth (Manager)

/-! ## Plan model sets -/

/-- The id of a model group as a set stores it. -/
structure GroupRef where
  id : ℕ
  pos : 0 < id
  fits : id < 2^63
  deriving DecidableEq, Repr

structure PlanModelSet where
  enabled : Bool
  deriving DecidableEq, Repr

structure PlanModelSetMember where
  setId : ℕ
  modelGroupId : GroupRef
  deriving DecidableEq, Repr

/-- The rows from which the caches of sets and groups were last built. -/
structure SetTables extends GroupTables where
  planModelSets : Table PlanModelSet
  planModelSetMembers : Table PlanModelSetMember

/-- The sets of a plan; a plan that has none of a kind names set zero. -/
structure PlanSets where
  premiumSetId : ℕ
  basicSetId : ℕ
  deriving DecidableEq, Repr

/-- Only enabled sets are cached. -/
def planSetGroupIds (t : SetTables) (setId : ℕ) : List ℕ :=
  match t.planModelSets.find? setId with
  | none => []
  | some s =>
    if s.enabled then
      ((t.planModelSetMembers.rows.map Prod.snd).filter (fun r => r.setId = setId)).map (fun r => r.modelGroupId.id)
    else []

/-- The least id of the set, zero for an empty set. -/
def planSetMinGroupId (t : SetTables) (setId : ℕ) : ℕ :=
  (planSetGroupIds t setId).foldl (fun best gid => if best = 0 ∨ gid<best then gid else best) 0

def pickSetModelGroup (t : SetTables) (setId : ℕ) : Option ℕ :=
  let best := planSetMinGroupId t setId
  if 0<best then some best else none

/-- A group is looked up by its id, a model by the members of the groups of the set. -/
def setContainsModel (t : SetTables) (setId modelGroupId : ℕ) (modelName : String) : Bool :=
  if setId = 0 then false
  else if 0 < modelGroupId then decide (modelGroupId∈planSetGroupIds t setId)
  else
    let name := Text.trimSpace modelName
    if name = "" then false
    else (planSetGroupIds t setId).any (fun gid =>
      (getModelGroupMembers t.toGroupTables gid).any (fun r => r.modelName = name))

/-- What no basic set contains is premium. -/
def resolveModelBucket (t : SetTables) (plan : PlanSets) (modelGroupId : ℕ) (modelName : String) : Bucket :=
  if setContainsModel t plan.basicSetId modelGroupId modelName then .basic else .premium

/-! ## The context of a request -/

structure ContentPart where
  type : String
  fields : List (String × String)

/-- The content of a message is a text or a list of parts. -/
inductive MessageContent
  | text
  | parts (l : List ContentPart)

structure RequestBody where
  size : ℕ
  messages : Option (List MessageContent)
  input : Option (List MessageContent)

def attachmentTypes : List String :=
  ["image_url","input_image","input_audio","audio","file","input_file","video_url","input_video"]

def attachmentPayloadFields : List String :=
  ["image_url.url","image_url","file.file_data","file_data","input_audio.data","data","video_url.url"]

/-- The bytes of the first field that carries a payload. -/
def ContentPart.payload (p : ContentPart) : ℕ :=
  ((attachmentPayloadFields.findSome? (fun field => p.fields.lookup field)).map String.utf8ByteSize).getD 0

def attachments (b : RequestBody) : List ContentPart :=
  (b.messages.getD []++b.input.getD []).flatMap (fun
    | .text => []
    | .parts l => l.filter (fun p => p.type∈attachmentTypes))

structure GateSettings where
  basicContextSwitchTokens : ℤ
  tokensPerAttachment : ℤ

/-- Three bytes of text are a token; an attachment counts as a fixed number of tokens. -/
def estimateContextTokens (cfg : GateSettings) (b : RequestBody) : ℤ :=
  ((b.size-((attachments b).map ContentPart.payload).sum)/3 : ℕ)+(attachments b).length*cfg.tokensPerAttachment

def longContext (cfg : GateSettings) (b : RequestBody) : Bool :=
  cfg.basicContextSwitchTokens<estimateContextTokens cfg b

/-! ## The gate -/

structure SubscriptionBucketBalances where
  premiumRemaining : ℤ
  premiumUnlimited : Bool
  basicRemaining : ℤ
  basicUnlimited : Bool
  basicConfigured : Bool

namespace SubscriptionBucketBalances

def premiumAvailable (b : SubscriptionBucketBalances) : Bool := b.premiumUnlimited || 0 < b.premiumRemaining

def basicAvailable (b : SubscriptionBucketBalances) : Bool :=
  b.basicConfigured && (b.basicUnlimited || 0 < b.basicRemaining)

end SubscriptionBucketBalances

def getSubscriptionBucketBalances (sub : UserSubscription) : SubscriptionBucketBalances where
  premiumRemaining := sub.amountTotal-sub.amountUsed
  premiumUnlimited := sub.amountTotal≤0
  basicRemaining := sub.basicTokenTotal-sub.basicTokenUsed
  basicUnlimited := sub.basicTokenTotal = BasicTokenUnlimited
  basicConfigured := sub.basicTokenTotal≠0

/-- What can be read of a subscription; a read that fails gives nothing. -/
structure SubscriptionReads where
  planId : Option ℕ
  plan : Option PlanSets
  balances : Option SubscriptionBucketBalances

/-- The plan of the subscription, where both reads that lead to it succeed. -/
def SubscriptionReads.planSets (r : SubscriptionReads) : Option PlanSets :=
  match r.planId with
  | none => none
  | some id => if id = 0 then none else r.plan

structure GateResult where
  tierValue : String
  bucket : Bucket
  degradeReason : String
  aborted : Bool
  resolved : Bool
  deriving DecidableEq, Repr

/-- The bucket of a tier: a reference is looked up by group, a model by name. -/
def tierBucket (t : SetTables) (plan : PlanSets) (tierValue : String) : Bucket :=
  match parseModelGroupRef tierValue with
  | some groupId => resolveModelBucket t plan groupId ""
  | none => resolveModelBucket t plan 0 tierValue

/-- The gate's decision once it knows the plan and the balances. -/
def gateDecision (t : SetTables) (plan : PlanSets) (balances : SubscriptionBucketBalances) (isLong : Bool)
    (tierValue : String) : GateResult :=
  let bucket := tierBucket t plan tierValue
  let kept : GateResult := ⟨tierValue,bucket,"",false,true⟩
  if isLong then
    if balances.premiumAvailable then
      if bucket≠.premium then
        match pickSetModelGroup t plan.premiumSetId with
        | some gid => ⟨formatModelGroupRef gid,.premium,"long_context",false,true⟩
        | none => kept
      else kept
    else { kept with aborted := true }
  else if bucket = .premium ∧ !balances.premiumAvailable then
    if balances.basicAvailable then
      match pickSetModelGroup t plan.basicSetId with
      | some gid => ⟨formatModelGroupRef gid,.basic,"premium_exhausted",false,true⟩
      | none => kept
    else kept
  else kept

/-- Without plan or balances the gate leaves the request alone. -/
def applySubscriptionGate (cfg : GateSettings) (t : SetTables) (reads : SubscriptionReads) (tierValue : String)
    (body : RequestBody) : GateResult :=
  match reads.planSets,reads.balances with
  | some plan,some balances => gateDecision t plan balances (longContext cfg body) tierValue
  | _,_ => ⟨tierValue,.premium,"",false,false⟩

/-- A gated request as it is routed, with the bucket that the gate leaves in the context. -/
structure GatedRequest where
  routed : RoutedRequest
  subscriptionBucket : String

/-- The router of a subscription's request; a request that the gate refuses is not routed. -/
def autoRoute (cfg : GateSettings) (t : SetTables) (m : Manager) (bodyWritten : Bool) (reads : SubscriptionReads)
    (requestedModel tierValue : String) (body : RequestBody) : Option GatedRequest :=
  let gate := applySubscriptionGate cfg t reads tierValue body
  if gate.aborted then none
  else some
    { routed := routeToTier t.toGroupTables m bodyWritten requestedModel gate.tierValue
      subscriptionBucket := if gate.resolved then gate.bucket.name else "" }

def resolveBucketForUserSubscription (t : SetTables) (reads : SubscriptionReads) (modelName : String) : Bucket :=
  match reads.planSets with
  | none => .premium
  | some plan => resolveModelBucket t plan 0 modelName

/-- The bucket that the session of a gated request charges. -/
def chargedBucket (t : SetTables) (reads : SubscriptionReads) (endpoint : Endpoint) (g : GatedRequest)
    (env : BillingEnv) (info : RelayInfo) : Bucket :=
  sessionBucket { env with
    resolveBucketForUserSubscription :=
      resolveBucketForUserSubscription t reads (getModelRequest endpoint g.routed.model) }
    { info with gateBucket := g.subscriptionBucket }

end Relay
end Tierflow
