import Tierflow.Foundation.Transaction
import Tierflow.Subscription.Period
import Mathlib.Data.List.Sort

/-! The two metered buckets of a subscription: pre-consumption by request id, settlement
deltas, refunds and period resets. Each function is one transaction on the store; beside the new
store it returns, newest first, what it did to the buckets. -/
namespace Tierflow

def BasicTokenUnlimited : ℤ := -1

inductive BucketEvent
  | consumed (requestId : String) (sub : ℕ) (bucket : Bucket) (amount : ℤ)
  | adjusted (requestId : String) (sub : ℕ) (bucket : Bucket) (delta : ℤ)
  | refunded (requestId : String) (sub : ℕ) (bucket : Bucket) (amount : ℤ)
  | reset (sub : ℕ)
  deriving DecidableEq, Repr

structure SubscriptionPreConsumeResult where
  userSubscriptionId : ℕ
  bucket : Bucket
  preConsumed : ℤ
  amountTotal : ℤ
  amountUsedBefore : ℤ
  amountUsedAfter : ℤ
  deriving DecidableEq, Repr

namespace UserSubscription

def total (sub : UserSubscription) : Bucket → ℤ
  | .basic => sub.basicTokenTotal
  | .premium => sub.amountTotal

def used (sub : UserSubscription) : Bucket → ℤ
  | .basic => sub.basicTokenUsed
  | .premium => sub.amountUsed

def setUsed (sub : UserSubscription) (v : ℤ) : Bucket → UserSubscription
  | .basic => { sub with basicTokenUsed := v }
  | .premium => { sub with amountUsed := v }

@[simp] theorem used_setUsed (sub : UserSubscription) (v : ℤ) (b c : Bucket) :
    (sub.setUsed v b).used c = if c=b then v else sub.used c := by cases b <;> cases c <;> rfl

@[simp] theorem total_setUsed (sub : UserSubscription) (v : ℤ) (b c : Bucket) :
    (sub.setUsed v b).total c = sub.total c := by cases b <;> cases c <;> rfl

end UserSubscription

/-- The total and the used amount of a bucket. -/
def bucketBalance (sub : UserSubscription) (bucket : Bucket) : ℤ × ℤ := (sub.total bucket,sub.used bucket)

/-- A premium total of zero means no limit; a basic total of zero means that there is no such bucket. -/
def bucketHasCapacity (sub : UserSubscription) (bucket : Bucket) (amount : ℤ) : Bool :=
  match bucket with
  | .basic =>
    if sub.total .basic = BasicTokenUnlimited then true
    else if sub.total .basic ≤ 0 then false
    else decide (amount ≤ sub.total .basic - sub.used .basic)
  | .premium =>
    if sub.total .premium ≤ 0 then true
    else decide (amount ≤ sub.total .premium - sub.used .premium)

def addBucketUsed (sub : UserSubscription) (bucket : Bucket) (delta : ℤ) : UserSubscription :=
  sub.setUsed (sub.used bucket+delta) bucket

/-- A bucket with a finite total has room for what it admits. -/
theorem bucketHasCapacity_le {sub : UserSubscription} {bucket : Bucket} {amount : ℤ}
    (h : bucketHasCapacity sub bucket amount = true) (ht : 0 < sub.total bucket) :
    sub.used bucket+amount ≤ sub.total bucket := by
  cases bucket with
  | basic =>
    have hu : sub.total .basic≠BasicTokenUnlimited := by unfold BasicTokenUnlimited; omega
    simp only [bucketHasCapacity,if_neg hu,if_neg (not_le.mpr ht),decide_eq_true_eq] at h
    omega
  | premium =>
    simp only [bucketHasCapacity,if_neg (not_le.mpr ht),decide_eq_true_eq] at h
    omega

/-- Plans are read through a cache. Filling the cache is no part of the transaction. -/
def getSubscriptionPlanByIdTx (s : Store) (id : ℕ) : Except TxError SubscriptionPlan :=
  if id=0 then .error (.message "invalid plan id")
  else match s.planCache id with
    | some plan => .ok plan.normalizeDefaults
    | none => (orFail .recordNotFound (s.plans.find? id)).map SubscriptionPlan.normalizeDefaults

/-- Write back what a due check leaves of the subscription `id`. -/
def maybeResetUserSubscriptionWithPlanTx (tz : ℤ) (s : Store) (id : ℕ) (sub : UserSubscription)
    (plan : SubscriptionPlan) (now : ℤ) : Store × UserSubscription × List BucketEvent :=
  match resetRow tz sub plan now with
  | none => (s,sub,[])
  | some (sub',reset) =>
    ({ s with subscriptions := s.subscriptions.set id sub' },sub',if reset then [.reset id] else [])

/-- The active subscriptions that a request may be charged to, the one that ends first leading. -/
def preConsumeCandidates (s : Store) (userId : ℕ) (directedSubscriptionId : ℕ) (now : ℤ) :
    List (ℕ × UserSubscription) :=
  (s.subscriptions.select (fun r => r.2.userId=userId ∧ r.2.status = .active ∧ now < r.2.endTime ∧
    (directedSubscriptionId=0 ∨ r.1=directedSubscriptionId))).insertionSort
    (fun a b => a.2.endTime<b.2.endTime ∨ (a.2.endTime=b.2.endTime ∧ a.1≤b.1))

section PreConsume
variable (tz now : ℤ) (requestId : String) (userId : ℕ) (bucket : Bucket) (amount : ℤ)

/-- Record the request and charge it to one subscription. -/
def chargeCandidate (s : Store) (id : ℕ) (sub : UserSubscription) : Store × SubscriptionPreConsumeResult :=
  let record : SubscriptionPreConsumeRecord := ⟨requestId,userId,id,amount,bucket.name,.consumed⟩
  let sub' := addBucketUsed sub bucket amount
  ({ s with records := s.records.insert record, subscriptions := s.subscriptions.set id sub' },
    ⟨id,bucket,amount,sub'.total bucket,sub.used bucket,sub'.used bucket⟩)

/-- Walk the candidates until one has room. Candidates passed over keep their resets. -/
def preConsumeLoop : Store → List BucketEvent → List (ℕ × UserSubscription) →
    Except TxError (Store × List BucketEvent × SubscriptionPreConsumeResult)
  | _,_,[] => .error (.subscriptionQuotaInsufficient bucket.name amount)
  | s,es,(id,sub)::rest => do
    let plan ← getSubscriptionPlanByIdTx s sub.planId
    let r := maybeResetUserSubscriptionWithPlanTx tz s id sub plan now
    if bucketHasCapacity r.2.1 bucket amount then
      let c := chargeCandidate requestId userId bucket amount r.1 id r.2.1
      .ok (c.1,.consumed requestId id bucket amount::(r.2.2++es),c.2)
    else preConsumeLoop r.1 (r.2.2++es) rest

end PreConsume

/-- The pre-consume record of a request; the request id is a unique key. -/
def recordOf (s : Store) (requestId : String) : Option (ℕ × SubscriptionPreConsumeRecord) :=
  s.records.first? (fun r => r.2.requestId=requestId)

def preConsumeUserSubscription (tz : ℤ) (s : Store) (now : ℤ) (requestId : String) (userId : ℕ)
    (bucketName : String) (amount : ℤ) (directedSubscriptionId : ℕ) :
    Except TxError (Store × List BucketEvent × SubscriptionPreConsumeResult) := do
  require (.message "invalid userId") (userId≠0)
  require (.message "requestId is empty") (Text.trimSpace requestId ≠ "")
  require (.message "amount must be > 0") (0<amount)
  let bucket := Bucket.ofName bucketName
  match recordOf s requestId with
  | some (_,existing) =>
    -- a replay reports the recorded charge and writes nothing
    if existing.status = .refunded then .error .subscriptionPreConsumeRefunded
    else do
      let sub ← orFail .recordNotFound (s.subscriptions.find? existing.userSubscriptionId)
      let b := existing.recordBucket
      .ok (s,[],⟨existing.userSubscriptionId,b,existing.preConsumed,sub.total b,sub.used b,sub.used b⟩)
  | none =>
    match preConsumeCandidates s userId directedSubscriptionId now with
    | [] => .error .noActiveSubscription
    | subs => preConsumeLoop tz now requestId userId bucket amount s [] subs

/-- A used amount never falls below zero. -/
def clampedUsed (sub : UserSubscription) (bucket : Bucket) (delta : ℤ) : ℤ := max 0 (sub.used bucket+delta)

/-- Finite buckets refuse to exceed their total. -/
def exceedsTotal (sub : UserSubscription) (bucket : Bucket) (delta : ℤ) : Prop :=
  0 < sub.total bucket ∧ sub.total bucket < clampedUsed sub bucket delta

instance (sub : UserSubscription) (bucket : Bucket) (delta : ℤ) : Decidable (exceedsTotal sub bucket delta) := by
  unfold exceedsTotal; infer_instance

def usedExceedsTotalMessage (sub : UserSubscription) (bucket : Bucket) (delta : ℤ) : String :=
  "subscription used exceeds total, bucket="++bucket.name++" used="++
    Text.printInt (clampedUsed sub bucket delta)++" total="++Text.printInt (sub.total bucket)

/-- Add a delta to the used amount of one bucket. -/
def postConsumeUserSubscriptionDeltaTx (s : Store) (userSubscriptionId : ℕ) (bucket : Bucket) (delta : ℤ) :
    Except TxError Store := do
  require (.message "invalid userSubscriptionId") (userSubscriptionId≠0)
  if delta=0 then .ok s
  else do
    let sub ← orFail .recordNotFound (s.subscriptions.find? userSubscriptionId)
    require (.message (usedExceedsTotalMessage sub bucket delta)) (¬ exceedsTotal sub bucket delta)
    .ok { s with subscriptions :=
      s.subscriptions.set userSubscriptionId (sub.setUsed (clampedUsed sub bucket delta) bucket) }

def postConsumeUserSubscriptionDelta (s : Store) (userSubscriptionId : ℕ) (bucketName : String) (delta : ℤ) :
    Except TxError Store :=
  postConsumeUserSubscriptionDeltaTx s userSubscriptionId (Bucket.ofName bucketName) delta

/-- Give back what the record of a request says was taken, once. -/
def refundSubscriptionPreConsume (s : Store) (requestId : String) : Except TxError (Store × List BucketEvent) := do
  require (.message "requestId is empty") (Text.trimSpace requestId ≠ "")
  let (id,record) ← orFail .recordNotFound (recordOf s requestId)
  if record.status = .refunded then .ok (s,[])
  else do
    let s ← if record.preConsumed≤0 then .ok s
      else postConsumeUserSubscriptionDeltaTx s record.userSubscriptionId record.recordBucket (-record.preConsumed)
    .ok ({ s with records := s.records.set id { record with status := .refunded } },
      [.refunded requestId record.userSubscriptionId record.recordBucket record.preConsumed])

/-- One row of the reset task: the plan and the time were read before the row was locked. -/
def resetDueSubscription (tz : ℤ) (s : Store) (id : ℕ) (plan : SubscriptionPlan) (now : ℤ) :
    Store × List BucketEvent :=
  match s.subscriptions.find? id with
  | none => (s,[])
  | some sub =>
    if 0 < sub.nextResetTime ∧ sub.nextResetTime≤now then
      let r := maybeResetUserSubscriptionWithPlanTx tz s id sub plan now
      (r.1,r.2.2)
    else (s,[])

end Tierflow
