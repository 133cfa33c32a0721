import Tierflow.Subscription.Pricing
import Tierflow.Bucket.Operations

/-! The life of a user subscription: it is created from a plan together with its key and raises the
user's group, and it ends by upgrade, invalidation, deletion or expiry. Beside the new store, ends
return the group that the user falls back to, empty when the group stays. -/
namespace Tierflow

def invalidSubscriptionIdMessage : String := "invalid userSubscriptionId"
def invalidBindMessage : String := "invalid userId or planId"
def invalidUserIdMessage : String := "invalid userId"
def invalidPlanMessage : String := "invalid plan"
def invalidSubscriptionUserMessage : String := "invalid user id"

def userGroup (users : Table User) (userId : ℕ) : Option String := (users.find? userId).map User.group

/-- The group of a missing user reads as empty. -/
def getUserGroupByIdTx (s : Store) (userId : ℕ) : Except TxError String := do
  require (.message invalidUserIdMessage) (userId≠0)
  .ok ((userGroup s.users userId).getD "")

def setUserGroup (users : Table User) (userId : ℕ) (group : String) : Table User :=
  users.updateWhere (fun r => r.1=userId) (fun u => { u with group := group })

/-- An active subscription of a user that has raised his group, other than the subscription `id`. -/
def activeUpgraded (s : Store) (userId id : ℕ) (now : ℤ) : Option (ℕ × UserSubscription) :=
  s.subscriptions.first? (fun r => r.2.userId=userId ∧ r.2.status = .active ∧ now < r.2.endTime ∧ r.1≠id ∧
    r.2.upgradeGroup≠"")

def downgradeUserGroupForSubscriptionTx (s : Store) (id : ℕ) (sub : UserSubscription) (now : ℤ) :
    Except TxError (Store × String) :=
  let upgradeGroup := Text.trimSpace sub.upgradeGroup
  let prevGroup := Text.trimSpace sub.prevUserGroup
  if upgradeGroup = "" then .ok (s,"")
  else do
    let currentGroup ← getUserGroupByIdTx s sub.userId
    if currentGroup≠upgradeGroup then .ok (s,"")
    else if (activeUpgraded s sub.userId id now).isSome then .ok (s,"")
    else if prevGroup = "" ∨ prevGroup = currentGroup then .ok (s,"")
    else .ok ({ s with users := setUserGroup s.users sub.userId prevGroup },prevGroup)

def disableTokensBySubscriptionIdsTx (s : Store) (ids : List ℕ) : Store :=
  { s with tokens := s.tokens.updateWhere (fun r => r.2.userSubscriptionId∈ids) (fun t => { t with status := .disabled }) }

/-! ## Creation -/

/-- Raise the group of a user. The group that he had is returned when it changes. -/
def raiseUserGroup (s : Store) (userId : ℕ) (upgradeGroup : String) : Except TxError (Table User × String) :=
  if upgradeGroup = "" then .ok (s.users,"")
  else do
    let currentGroup ← getUserGroupByIdTx s userId
    if currentGroup≠upgradeGroup then .ok (setUserGroup s.users userId upgradeGroup,currentGroup)
    else .ok (s.users,"")

/-- The key that is issued with a subscription. Its quota is no limit, the buckets are. -/
def subscriptionToken (userId id : ℕ) (endTime : ℤ) : Token where
  userId := userId
  status := .enabled
  expiredTime := endTime
  remainQuota := 0
  usedQuota := 0
  unlimitedQuota := true
  userSubscriptionId := id

/-- Subscriptions of a plan that count towards its purchase limit. -/
def purchaseCount (s : Store) (userId planId : ℕ) : ℕ :=
  s.subscriptions.count (fun r => r.2.userId=userId ∧ r.2.planId=planId ∧ r.2.source≠.upgrade)

def purchaseLimitReached (s : Store) (userId planId : ℕ) (plan : SubscriptionPlan) (source : SubscriptionSource) : Prop :=
  0<plan.maxPurchasePerUser ∧ source≠.upgrade ∧ plan.maxPurchasePerUser≤purchaseCount s userId planId

instance (s : Store) (userId planId : ℕ) (plan : SubscriptionPlan) (source : SubscriptionSource) :
    Decidable (purchaseLimitReached s userId planId plan source) := by
  unfold purchaseLimitReached; infer_instance

/-- The row of a subscription that starts now. -/
def newUserSubscription (tz now : ℤ) (userId planId : ℕ) (plan : SubscriptionPlan) (source : SubscriptionSource)
    (endTime : ℤ) (prevGroup : String) : UserSubscription where
  userId := userId
  planId := planId
  amountTotal := plan.totalAmount
  amountUsed := 0
  basicTokenTotal := plan.basicTokenTotal
  basicTokenUsed := 0
  paidMoney := plan.priceAmount
  startTime := now
  endTime := endTime
  status := .active
  source := source
  lastResetTime := if 0 < calcNextResetTime tz now plan endTime then now else 0
  nextResetTime := calcNextResetTime tz now plan endTime
  upgradeGroup := Text.trimSpace plan.upgradeGroup
  prevUserGroup := prevGroup

/-- A subscription starts with its key; both are written in one transaction. The new subscription
receives the key that is returned. -/
def createUserSubscriptionFromPlanTx (tz : ℤ) (s : Store) (userId planId : ℕ) (plan : SubscriptionPlan)
    (source : SubscriptionSource) : Except TxError (Store × ℕ) := do
  require (.message invalidPlanMessage) (planId≠0)
  require (.message invalidSubscriptionUserMessage) (userId≠0)
  require .subscriptionPurchaseLimitReached (¬ purchaseLimitReached s userId planId plan source)
  let endTime ← calcPlanEndTime tz s.dbTime plan
  let (users,prevGroup) ← raiseUserGroup s userId (Text.trimSpace plan.upgradeGroup)
  let id := s.subscriptions.next
  .ok ({ s with
    users := users
    subscriptions := s.subscriptions.insert (newUserSubscription tz s.dbTime userId planId plan source endTime prevGroup)
    tokens := s.tokens.insert (subscriptionToken userId id endTime) },id)

/-- The guard of new purchases: without an active subscription, or for a plan that the user already
has, they pass; a dearer plan is refused in favour of an upgrade, any other plan altogether. -/
def checkActivePurchaseAllowedTx (s : Store) (userId planId : ℕ) (plan : SubscriptionPlan) (now : ℤ) :
    Except TxError Unit := do
  let _ ← orFail .recordNotFound (s.users.find? userId)
  let actives := s.subscriptions.select (fun r => r.2.userId=userId ∧ r.2.status = .active ∧ now < r.2.endTime)
  let maxPaid := actives.foldl (fun m r => max m r.2.paidMoney) 0
  if actives = [] ∨ ∃ r∈actives, r.2.planId=planId then .ok ()
  else if maxPaid<plan.priceAmount then .error .subscriptionUpgradeOnly
  else .error .subscriptionNotUpgradable

/-! ## Ends -/

def cancelSubscription (s : Store) (id : ℕ) (now : ℤ) : Store :=
  { s with
    subscriptions := s.subscriptions.updateWhere (fun r => r.1=id)
      (fun sub => { sub with status := .cancelled, endTime := now }) }

/-- An upgrade ends its source without falling back to the former group. -/
def performUpgradeTx (tz : ℤ) (s : Store) (now : ℤ) (userId id planId : ℕ) (plan : SubscriptionPlan) :
    Except TxError (Store × ℕ) :=
  createUserSubscriptionFromPlanTx tz (disableTokensBySubscriptionIdsTx (cancelSubscription s id now) [id])
    userId planId plan .upgrade

def invalidateUserSubscriptionTx (s : Store) (id : ℕ) (sub : UserSubscription) (now : ℤ) :
    Except TxError (Store × String) := do
  let (s',group) ← downgradeUserGroupForSubscriptionTx (cancelSubscription s id now) id sub now
  .ok (disableTokensBySubscriptionIdsTx s' [id],group)

def adminInvalidateUserSubscription (s : Store) (id : ℕ) (now : ℤ) : Except TxError (Store × String) := do
  require (.message invalidSubscriptionIdMessage) (id≠0)
  let sub ← orFail .recordNotFound (s.subscriptions.find? id)
  invalidateUserSubscriptionTx s id sub now

def adminDeleteUserSubscription (s : Store) (id : ℕ) (now : ℤ) : Except TxError (Store × String) := do
  require (.message invalidSubscriptionIdMessage) (id≠0)
  let sub ← orFail .recordNotFound (s.subscriptions.find? id)
  let (s',group) ← downgradeUserGroupForSubscriptionTx s id sub now
  .ok (disableTokensBySubscriptionIdsTx { s' with subscriptions := s'.subscriptions.delete id } [id],group)

/-- A subscription of a user that has run out and is still marked active. -/
def isDue (userId : ℕ) (now : ℤ) (r : ℕ × UserSubscription) : Bool :=
  decide (r.2.userId=userId ∧ r.2.status = .active ∧ 0 < r.2.endTime ∧ r.2.endTime≤now)

/-- The expired subscription that decides which group a user falls back to: the last to end. -/
def lastExpired (s : Store) (userId : ℕ) : Option (ℕ × UserSubscription) :=
  Table.latest? (s.subscriptions.select
    (fun r => r.2.userId=userId ∧ r.2.status = .expired ∧ r.2.upgradeGroup≠"")) UserSubscription.endTime

def expireDueRows (s : Store) (now : ℤ) (userId : ℕ) : Store :=
  disableTokensBySubscriptionIdsTx
    { s with subscriptions := s.subscriptions.updateWhere (isDue userId now) (fun sub => { sub with status := .expired }) }
    ((s.subscriptions.select (isDue userId now)).map Prod.fst)

/-- One round of `ExpireDueSubscriptions`: the due subscriptions of one user, in one transaction.
No row has the key zero. -/
def expireDueSubscriptionsOfUser (s : Store) (now : ℤ) (userId : ℕ) : Except TxError (Store × String) :=
  let s1 := expireDueRows s now userId
  if (activeUpgraded s1 userId 0 now).isSome then .ok (s1,"")
  else match lastExpired s1 userId with
    | none => .ok (s1,"")
    | some (_,last) =>
      let upgradeGroup := Text.trimSpace last.upgradeGroup
      let prevGroup := Text.trimSpace last.prevUserGroup
      if upgradeGroup = "" ∨ prevGroup = "" then .ok (s1,"")
      else do
        let currentGroup ← getUserGroupByIdTx s1 userId
        if currentGroup≠upgradeGroup ∨ currentGroup=prevGroup then .ok (s1,"")
        else .ok ({ s1 with users := setUserGroup s1.users userId prevGroup },prevGroup)

/-- Operators bind a plan to a user without payment. The plan is read before the transaction, from
the store `seen`. -/
def adminBindSubscription (tz : ℤ) (seen s : Store) (userId planId : ℕ) : Except TxError (Store × ℕ) := do
  require (.message invalidBindMessage) (userId≠0 ∧ planId≠0)
  let plan ← getSubscriptionPlanByIdTx seen planId
  createUserSubscriptionFromPlanTx tz s userId planId plan .admin

end Tierflow
