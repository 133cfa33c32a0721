import Tierflow.Foundation.Table
import Tierflow.Foundation.Text

/-! The database rows of the subscription, wallet and token tables, and the store that
transactions act on. Amounts of quota and tokens are integers, prices are exact rationals. -/
namespace Tierflow

/-- What a transaction can fail with; `message` carries the text of an error that is no sentinel. -/
inductive TxError
  | recordNotFound
  | subscriptionOrderNotFound
  | subscriptionOrderStatusInvalid
  | paymentMethodMismatch
  | subscriptionNotUpgradable
  | subscriptionUpgradeOnly
  | subscriptionPurchaseLimitReached
  | noActiveSubscription
  | subscriptionQuotaInsufficient (bucket : String) (need : ℤ)
  | subscriptionPreConsumeRefunded
  | redemptionPlanMissing
  | redemptionPlanDisabled
  | message (text : String)
  deriving DecidableEq, Repr

/-- The lifecycle of subscription orders; top-ups use the same values except `manualReview`. -/
inductive OrderStatus
  | pending | success | failed | expired | refunded | manualReview
  deriving DecidableEq, Repr

inductive OrderType
  | new | upgrade
  deriving DecidableEq, Repr

inductive PaymentProvider
  | unset | epay | balance | redemption | stripe | creem | waffo | waffoPancake
  | other (name : String)
  deriving DecidableEq, Repr

def paymentMethodBalance : String := "balance"
def paymentMethodRedemption : String := "redemption"

inductive DurationUnit
  | year | month | day | hour | custom | other (name : String)
  deriving DecidableEq, Repr

inductive SubscriptionStatus
  | active | expired | cancelled
  deriving DecidableEq, Repr

inductive SubscriptionSource
  | order | admin | balance | upgrade | redemption
  deriving DecidableEq, Repr

inductive TokenStatus
  | enabled | disabled | expired | exhausted
  deriving DecidableEq, Repr

structure User where
  quota : ℤ
  group : String

structure SubscriptionPlan where
  priceAmount : ℚ
  durationUnit : DurationUnit
  durationValue : ℤ
  customSeconds : ℤ
  enabled : Bool
  allowBalancePay : Option Bool
  maxPurchasePerUser : ℤ
  upgradeGroup : String
  totalAmount : ℤ
  basicTokenTotal : ℤ
  quotaResetPeriod : String
  quotaResetCustomSeconds : ℤ

def SubscriptionPlan.normalizeDefaults (p : SubscriptionPlan) : SubscriptionPlan :=
  { p with allowBalancePay := some (p.allowBalancePay.getD true) }

structure SubscriptionOrder where
  userId : ℕ
  planId : ℕ
  money : ℚ
  tradeNo : String
  paymentMethod : String
  paymentProvider : PaymentProvider
  status : OrderStatus
  orderType : OrderType
  userSubscriptionId : ℕ
  fromSubscriptionId : ℕ
  createTime : ℤ
  completeTime : ℤ
  providerPayload : String

structure TopUp where
  userId : ℕ
  amount : ℤ
  money : ℚ
  tradeNo : String
  paymentMethod : String
  paymentProvider : PaymentProvider
  createTime : ℤ
  completeTime : ℤ
  status : OrderStatus

structure UserSubscription where
  userId : ℕ
  planId : ℕ
  amountTotal : ℤ
  amountUsed : ℤ
  basicTokenTotal : ℤ
  basicTokenUsed : ℤ
  paidMoney : ℚ
  startTime : ℤ
  endTime : ℤ
  status : SubscriptionStatus
  source : SubscriptionSource
  lastResetTime : ℤ
  nextResetTime : ℤ
  upgradeGroup : String
  prevUserGroup : String

structure Token where
  userId : ℕ
  status : TokenStatus
  expiredTime : ℤ
  remainQuota : ℤ
  usedQuota : ℤ
  unlimitedQuota : Bool
  userSubscriptionId : ℕ

/-- The two quota buckets of a subscription. -/
inductive Bucket
  | premium | basic
  deriving DecidableEq, Repr

def bucketBasic : String := "basic"
def bucketPremium : String := "premium"

/-- Any bucket name other than `basic` means the premium bucket. -/
def Bucket.ofName (name : String) : Bucket := if name=bucketBasic then .basic else .premium

def Bucket.name : Bucket → String
  | .premium => bucketPremium
  | .basic => bucketBasic

@[simp] theorem Bucket.ofName_name (b : Bucket) : Bucket.ofName b.name = b := by cases b <;> decide

inductive RecordStatus
  | consumed | refunded
  deriving DecidableEq, Repr

structure SubscriptionPreConsumeRecord where
  requestId : String
  userId : ℕ
  userSubscriptionId : ℕ
  preConsumed : ℤ
  bucket : String
  status : RecordStatus

def SubscriptionPreConsumeRecord.recordBucket (r : SubscriptionPreConsumeRecord) : Bucket :=
  Bucket.ofName r.bucket

/-- Operator settings that stay fixed during a run. `timeZone` is the server's offset in seconds. -/
structure Settings where
  usdExchangeRate : ℚ
  quotaPerUnit : ℚ
  timeZone : ℤ

/-- The shared database, the plan cache in front of it and the database clock. -/
structure Store where
  users : Table User
  plans : Table SubscriptionPlan
  orders : Table SubscriptionOrder
  topUps : Table TopUp
  subscriptions : Table UserSubscription
  tokens : Table Token
  records : Table SubscriptionPreConsumeRecord
  planCache : ℕ → Option SubscriptionPlan
  dbTime : ℤ

/-- A database without any rows. -/
def Store.empty : Store := ⟨.empty,.empty,.empty,.empty,.empty,.empty,.empty,fun _ => none,0⟩

end Tierflow
