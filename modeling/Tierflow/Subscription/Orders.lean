import Tierflow.Subscription.Lifecycle

/-! Subscription orders: how they are created, paid, delivered, closed and refunded. Each function
is one transaction; beside the new store it returns, newest first, what it delivered and moved. -/
namespace Tierflow

inductive SubscriptionEvent
  /-- An order created a subscription, in place of the subscription `source` unless that is zero. -/
  | delivered (order sub source : ℕ)
  | charged (order userId : ℕ) (quota : ℤ)
  | credited (order userId : ℕ) (quota : ℤ)
  deriving DecidableEq, Repr

inductive SubscriptionOrderOutcome
  | delivered | alreadyDone | manualReview
  deriving DecidableEq, Repr

def subscriptionUpgradeOrderTTLSeconds : ℤ := 30*60

def tradeNoEmptyMessage : String := "tradeNo is empty"
def invalidOrderIdMessage : String := "invalid order id"
def tradeNoTakenMessage : String := "duplicate trade_no"
def planNotEnabledMessage : String := "套餐未启用"
def planPriceNegativeMessage : String := "套餐价格不能为负数"
def planNoBalancePayMessage : String := "该套餐不允许使用余额兑换"
def planPriceTooLowMessage : String := "套餐金额过低"
def balanceInsufficientMessage : String := "余额不足"
def invalidArgumentMessage : String := "参数非法"
def subscriptionMissingMessage : String := "订阅不存在"
def targetPlanMissingMessage : String := "目标套餐不存在"
def targetPlanNotEnabledMessage : String := "目标套餐未启用"
def targetPlanNoBalancePayMessage : String := "目标套餐不允许使用余额支付"
def upgradeBalanceInsufficientMessage : String := "余额不足以支付升级差价"
def upgradeDueZeroMessage : String := "升级差价为 0,请直接使用余额升级"
def deliverStatusMessage : String := "仅转人工状态的订单可以补发"
def deliverPlanDeletedMessage : String := "目标套餐已被删除,无法补发,请关闭订单并线下退款"
def deliverSourceInactiveMessage : String := "源订阅已失效,无法按升级补发;请关单退款或先处理源订阅"
def closeStatusMessage : String := "仅转人工状态的订单可以关闭"
def expireStatusMessage : String := "仅待支付状态的订单可以作废"
def refundStatusMessage : String := "仅成功订单可标记退款"
def refundRedemptionMessage : String :=
  "该订单由兑换码开通,无资金可退且兑换码不会返还。如需收回套餐请使用「作废用户订阅」,如需补偿请另行发放兑换码"
def refundChargeUnknownMessage (payload : String) : String :=
  "该余额订单未记录实扣额度(provider_payload="++payload.quote++"),无法自动退款,请人工核对后手工调整额度"
def refundValueUnknownMessage (payload : String) : String :=
  "该升级订单未记录被抵扣的剩余价值(provider_payload="++payload.quote++
    "),无法自动退款;请人工核算「差价 + 源订阅剩余价值」后手工处理"

/-! ## Rows -/

/-- Trade numbers are unique. -/
def orderByTradeNo (s : Store) (tradeNo : String) : Option (ℕ × SubscriptionOrder) :=
  s.orders.first? (fun r => r.2.tradeNo=tradeNo)

def insertOrder (s : Store) (order : SubscriptionOrder) : Except TxError Store := do
  require (.message tradeNoTakenMessage) (orderByTradeNo s order.tradeNo = none)
  .ok { s with orders := s.orders.insert order }

def mirrorMethod (topUp : TopUp) (order : SubscriptionOrder) (allowMethodRebind : Bool) : Except TxError String :=
  if topUp.paymentMethod = "" ∨ allowMethodRebind then .ok order.paymentMethod
  else if topUp.paymentMethod≠order.paymentMethod then .error .paymentMethodMismatch
  else .ok topUp.paymentMethod

/-- Carry an order over to its row in the top-up table, which has the same trade number. -/
def upsertSubscriptionTopUpTx (s : Store) (order : SubscriptionOrder) (status : OrderStatus) (now : ℤ)
    (allowMethodRebind : Bool) : Except TxError Store :=
  match s.topUps.first? (fun r => r.2.tradeNo=order.tradeNo) with
  | none => .ok { s with
      topUps := s.topUps.insert {
        userId := order.userId
        amount := 0
        money := order.money
        tradeNo := order.tradeNo
        paymentMethod := order.paymentMethod
        paymentProvider := .unset
        createTime := order.createTime
        completeTime := now
        status := status } }
  | some (id,topUp) => do
    let method ← mirrorMethod topUp order allowMethodRebind
    .ok { s with
      topUps := s.topUps.set id { topUp with
        money := order.money
        paymentMethod := method
        createTime := if topUp.createTime=0 then order.createTime else topUp.createTime
        completeTime := now
        status := status } }

/-- Save an order and its mirror. -/
def saveOrderTx (s : Store) (id : ℕ) (order : SubscriptionOrder) (mirrorStatus : OrderStatus) (now : ℤ)
    (allowMethodRebind : Bool) : Except TxError Store := do
  let s' ← upsertSubscriptionTopUpTx s order mirrorStatus now allowMethodRebind
  .ok { s' with orders := s'.orders.set id order }

/-! ## Payment callbacks -/

/-- The active subscription that an upgrade replaces. -/
def upgradeSource (s : Store) (userId id : ℕ) (now : ℤ) : Option UserSubscription :=
  (s.subscriptions.find? id).filter (fun sub => sub.userId=userId ∧ sub.status = .active ∧ now < sub.endTime)

section Complete
variable (tz : ℤ) (s : Store) (now : ℤ) (id : ℕ) (order : SubscriptionOrder) (providerPayload : String)
  (actualPaymentMethod : String)

/-- The order with what the gateway reported; empty reports are ignored. -/
def paidOrder (status : OrderStatus) (sub : ℕ) : SubscriptionOrder :=
  { order with
    status := status
    userSubscriptionId := sub
    completeTime := now
    providerPayload := if providerPayload≠"" then providerPayload else order.providerPayload
    paymentMethod := if actualPaymentMethod≠"" then actualPaymentMethod else order.paymentMethod }

/-- The money was received, but nothing can be delivered automatically. -/
def toManualReview : Except TxError (Store × List SubscriptionEvent × SubscriptionOrderOutcome) := do
  let s' ← saveOrderTx s id
    (paidOrder now order providerPayload actualPaymentMethod .manualReview order.userSubscriptionId) .pending now false
  .ok (s',[],.manualReview)

/-- An upgrade is delivered while its quote is fresh and its source active. -/
def completeUpgradeOrder (plan : SubscriptionPlan) :
    Except TxError (Store × List SubscriptionEvent × SubscriptionOrderOutcome) :=
  if subscriptionUpgradeOrderTTLSeconds < s.dbTime-order.createTime then
    toManualReview s now id order providerPayload actualPaymentMethod
  else match upgradeSource s order.userId order.fromSubscriptionId s.dbTime with
    | none => toManualReview s now id order providerPayload actualPaymentMethod
    | some _ => do
      let (s1,sub) ← performUpgradeTx tz s s.dbTime order.userId order.fromSubscriptionId order.planId plan
      let s2 ← saveOrderTx s1 id (paidOrder now order providerPayload actualPaymentMethod .success sub) .success now false
      .ok (s2,[.delivered id sub order.fromSubscriptionId],.delivered)

/-- A new purchase passes the guard once more when it is paid. -/
def completeNewOrder (plan : SubscriptionPlan) :
    Except TxError (Store × List SubscriptionEvent × SubscriptionOrderOutcome) :=
  match checkActivePurchaseAllowedTx s order.userId order.planId plan s.dbTime with
  | .error .subscriptionNotUpgradable | .error .subscriptionUpgradeOnly =>
    toManualReview s now id order providerPayload actualPaymentMethod
  | .error e => .error e
  | .ok _ =>
    match createUserSubscriptionFromPlanTx tz s order.userId order.planId plan .order with
    | .error .subscriptionPurchaseLimitReached =>
      toManualReview s now id order providerPayload actualPaymentMethod
    | .error e => .error e
    | .ok (s1,sub) => do
      let s2 ← saveOrderTx s1 id (paidOrder now order providerPayload actualPaymentMethod .success sub) .success now false
      .ok (s2,[.delivered id sub 0],.delivered)

end Complete

/-- An unset expected provider skips the check. -/
def providerMatches (expected : PaymentProvider) (order : SubscriptionOrder) : Prop :=
  expected = .unset ∨ order.paymentProvider=expected

instance (expected : PaymentProvider) (order : SubscriptionOrder) : Decidable (providerMatches expected order) := by
  unfold providerMatches; infer_instance

def completeSubscriptionOrder (tz : ℤ) (s : Store) (now : ℤ) (tradeNo providerPayload : String)
    (expectedPaymentProvider : PaymentProvider) (actualPaymentMethod : String) :
    Except TxError (Store × List SubscriptionEvent × SubscriptionOrderOutcome) := do
  require (.message tradeNoEmptyMessage) (tradeNo≠"")
  let (id,order) ← orFail .subscriptionOrderNotFound (orderByTradeNo s tradeNo)
  require .paymentMethodMismatch (providerMatches expectedPaymentProvider order)
  match order.status with
  | .success => .ok (s,[],.alreadyDone)
  | .manualReview => .ok (s,[],.manualReview)
  | .expired => toManualReview s now id order providerPayload actualPaymentMethod
  | .pending =>
    match getSubscriptionPlanByIdTx s order.planId with
    | .error .recordNotFound => toManualReview s now id order providerPayload actualPaymentMethod
    | .error e => .error e
    | .ok plan =>
      if order.orderType = .upgrade then completeUpgradeOrder tz s now id order providerPayload actualPaymentMethod plan
      else completeNewOrder tz s now id order providerPayload actualPaymentMethod plan
  | .failed | .refunded => .error .subscriptionOrderStatusInvalid

def expireSubscriptionOrder (s : Store) (now : ℤ) (tradeNo : String) (expectedPaymentProvider : PaymentProvider) :
    Except TxError Store := do
  require (.message tradeNoEmptyMessage) (tradeNo≠"")
  let (id,order) ← orFail .subscriptionOrderNotFound (orderByTradeNo s tradeNo)
  require .paymentMethodMismatch (providerMatches expectedPaymentProvider order)
  if order.status≠.pending then .ok s
  else .ok { s with orders := s.orders.set id { order with status := .expired, completeTime := now } }

/-! ## Administration -/

/-- Read a plan, reporting a deleted one as `missing`. -/
def planOrMissing (s : Store) (planId : ℕ) (missing : TxError) : Except TxError SubscriptionPlan :=
  match getSubscriptionPlanByIdTx s planId with
  | .error .recordNotFound => .error missing
  | r => r

def adminDeliverSubscriptionOrder (tz : ℤ) (s : Store) (now : ℤ) (id : ℕ) :
    Except TxError (Store × List SubscriptionEvent) := do
  require (.message invalidOrderIdMessage) (id≠0)
  let order ← orFail .subscriptionOrderNotFound (s.orders.find? id)
  require (.message deliverStatusMessage) (order.status = .manualReview)
  let plan ← planOrMissing s order.planId (.message deliverPlanDeletedMessage)
  if order.orderType = .upgrade then do
    let _ ← orFail (.message deliverSourceInactiveMessage)
      (upgradeSource s order.userId order.fromSubscriptionId s.dbTime)
    let (s1,sub) ← performUpgradeTx tz s s.dbTime order.userId order.fromSubscriptionId order.planId plan
    let s2 ← saveOrderTx s1 id { order with status := .success, userSubscriptionId := sub, completeTime := now }
      .success now true
    .ok (s2,[.delivered id sub order.fromSubscriptionId])
  else do
    let _ ← checkActivePurchaseAllowedTx s order.userId order.planId plan s.dbTime
    let (s1,sub) ← createUserSubscriptionFromPlanTx tz s order.userId order.planId plan .order
    let s2 ← saveOrderTx s1 id { order with status := .success, userSubscriptionId := sub, completeTime := now }
      .success now true
    .ok (s2,[.delivered id sub 0])

def adminCloseSubscriptionOrder (s : Store) (now : ℤ) (id : ℕ) : Except TxError Store := do
  require (.message invalidOrderIdMessage) (id≠0)
  let order ← orFail .subscriptionOrderNotFound (s.orders.find? id)
  if order.status = .failed then .ok s
  else do
    require (.message closeStatusMessage) (order.status = .manualReview)
    saveOrderTx s id { order with status := .failed, completeTime := now } .failed now true

def adminExpireSubscriptionOrder (s : Store) (now : ℤ) (id : ℕ) : Except TxError Store := do
  require (.message invalidOrderIdMessage) (id≠0)
  let order ← orFail .subscriptionOrderNotFound (s.orders.find? id)
  if order.status = .expired then .ok s
  else do
    require (.message expireStatusMessage) (order.status = .pending)
    .ok { s with orders := s.orders.set id { order with status := .expired, completeTime := now } }

/-- The subscription of an order is revoked while it is marked active. -/
def revokeOrderSubscription (s : Store) (order : SubscriptionOrder) (now : ℤ) : Except TxError (Store × Bool) :=
  match s.subscriptions.find? order.userSubscriptionId with
  | none => .ok (s,false)
  | some sub =>
    if sub.status = .active then do
      let (s',_) ← invalidateUserSubscriptionTx s order.userSubscriptionId sub now
      .ok (s',true)
    else .ok (s,false)

/-- What a refund returns of a payment from the wallet. -/
def balanceCredit (order : SubscriptionOrder) : Except TxError ℤ :=
  if order.paymentProvider = .balance then do
    require (.message (refundChargeUnknownMessage order.providerPayload)) (0<parseChargedQuota order.providerPayload)
    .ok (parseChargedQuota order.providerPayload)
  else .ok 0

/-- What a refund of an upgrade returns for the subscription that the upgrade replaced. -/
def upgradeCredit (S : Settings) (order : SubscriptionOrder) : Except TxError ℤ :=
  if order.orderType = .upgrade then do
    let value ← orFail (.message (refundValueUnknownMessage order.providerPayload))
      (parseRemainingValue order.providerPayload)
    calcSubscriptionBalanceQuota S value
  else .ok 0

def creditUser (s : Store) (userId : ℕ) (quota : ℤ) : Store :=
  { s with users := s.users.updateWhere (fun r => r.1=userId) (fun u => { u with quota := u.quota+quota }) }

def adminRefundSubscriptionOrder (S : Settings) (s : Store) (now : ℤ) (id : ℕ) :
    Except TxError (Store × List SubscriptionEvent) := do
  require (.message invalidOrderIdMessage) (id≠0)
  let order ← orFail .subscriptionOrderNotFound (s.orders.find? id)
  if order.status = .refunded then .ok (s,[])
  else do
    require (.message refundStatusMessage) (order.status = .success)
    require (.message refundRedemptionMessage) (order.paymentProvider≠.redemption)
    let (s1,_) ← revokeOrderSubscription s order now
    let charge ← balanceCredit order
    let value ← upgradeCredit S order
    let credit := charge+value
    let s2 := if 0 < credit then creditUser s1 order.userId credit else s1
    let s3 ← saveOrderTx s2 id { order with status := .refunded, completeTime := now } .refunded now true
    .ok (s3,if 0 < credit then [.credited id order.userId credit] else [])

/-! ## Purchases -/

/-- Unlike `purchaseCount`, subscriptions that came from upgrades count as well. -/
def countUserSubscriptionsByPlan (s : Store) (userId planId : ℕ) : ℕ :=
  s.subscriptions.count (fun r => r.2.userId=userId ∧ r.2.planId=planId)

/-- A gateway order for a new subscription. The checks are made outside any transaction, on an
earlier store `seen`. -/
def subscriptionRequestEpay (seen s : Store) (now : ℤ) (tradeNo paymentMethod : String) (userId planId : ℕ) :
    Except TxError Store := do
  let plan ← getSubscriptionPlanByIdTx seen planId
  require (.message planNotEnabledMessage) (plan.enabled = true)
  require (.message planPriceTooLowMessage) (1/100≤plan.priceAmount)
  require .subscriptionPurchaseLimitReached
    (¬(0<plan.maxPurchasePerUser ∧ plan.maxPurchasePerUser ≤ countUserSubscriptionsByPlan seen userId planId))
  let _ ← checkActivePurchaseAllowedTx seen userId planId plan seen.dbTime
  insertOrder s {
    userId := userId
    planId := planId
    money := plan.priceAmount
    tradeNo := tradeNo
    paymentMethod := paymentMethod
    paymentProvider := .epay
    status := .pending
    orderType := .new
    userSubscriptionId := 0
    fromSubscriptionId := 0
    createTime := now
    completeTime := 0
    providerPayload := "" }

/-- At most one upgrade of a subscription waits for its payment. -/
def expirePendingUpgradeOrdersTx (s : Store) (fromSubscriptionId : ℕ) (now : ℤ) : Store :=
  { s with
    orders := s.orders.updateWhere
      (fun r => r.2.fromSubscriptionId=fromSubscriptionId ∧ r.2.orderType = .upgrade ∧ r.2.status = .pending)
      (fun order => { order with status := .expired, completeTime := now }) }

def deductUser (s : Store) (userId : ℕ) (quota : ℤ) : Store :=
  { s with users := s.users.updateWhere (fun r => r.1=userId) (fun u => { u with quota := u.quota-quota }) }

/-- The wallet pays a price. -/
def payFromBalance (s : Store) (userId : ℕ) (quota : ℤ) (insufficient : String) : Except TxError Store := do
  let user ← orFail .recordNotFound (s.users.find? userId)
  require (.message insufficient) (¬(0<quota ∧ user.quota<quota))
  .ok (if 0<quota then deductUser s userId quota else s)

def allowsBalancePay (plan : SubscriptionPlan) : Prop := plan.allowBalancePay≠some false

instance (plan : SubscriptionPlan) : Decidable (allowsBalancePay plan) := by unfold allowsBalancePay; infer_instance

def purchaseOrder (now : ℤ) (tradeNo : String) (userId planId : ℕ) (money : ℚ) (quota : ℤ) : SubscriptionOrder where
  userId := userId
  planId := planId
  money := money
  tradeNo := tradeNo
  paymentMethod := paymentMethodBalance
  paymentProvider := .balance
  status := .success
  orderType := .new
  userSubscriptionId := 0
  fromSubscriptionId := 0
  createTime := now
  completeTime := now
  providerPayload := purchasePayload quota

def purchaseSubscriptionWithBalance (S : Settings) (s : Store) (now : ℤ) (tradeNo : String) (userId planId : ℕ) :
    Except TxError (Store × List SubscriptionEvent) := do
  require (.message invalidBindMessage) (userId≠0 ∧ planId≠0)
  let plan ← getSubscriptionPlanByIdTx s planId
  require (.message planNotEnabledMessage) (plan.enabled = true)
  require (.message planPriceNegativeMessage) (0≤plan.priceAmount)
  require (.message planNoBalancePayMessage) (allowsBalancePay plan)
  let _ ← checkActivePurchaseAllowedTx s userId planId plan s.dbTime
  let quota ← calcSubscriptionBalanceQuota S plan.priceAmount
  let s1 ← payFromBalance s userId quota balanceInsufficientMessage
  let (s2,sub) ← createUserSubscriptionFromPlanTx S.timeZone s1 userId planId plan .balance
  let order := purchaseOrder now tradeNo userId planId plan.priceAmount quota
  let s3 ← insertOrder s2 order
  let s4 ← upsertSubscriptionTopUpTx s3 order .success now false
  .ok (s4,[.charged s.orders.next userId quota,.delivered s.orders.next sub 0])

def upgradeOrder (now : ℤ) (tradeNo : String) (userId planId sub source : ℕ) (quote : SubscriptionUpgradeQuote)
    (quota : ℤ) : SubscriptionOrder where
  userId := userId
  planId := planId
  money := quote.amountDue
  tradeNo := tradeNo
  paymentMethod := paymentMethodBalance
  paymentProvider := .balance
  status := .success
  orderType := .upgrade
  userSubscriptionId := sub
  fromSubscriptionId := source
  createTime := now
  completeTime := now
  providerPayload := upgradePayload source quote.remainingValue quota

/-- The source and the target of an upgrade that a user asks for, and its price. -/
def quoteUpgradeTx (s : Store) (userId id planId : ℕ) (balance : Bool) :
    Except TxError (SubscriptionPlan × SubscriptionUpgradeQuote) := do
  let sub ← orFail (.message subscriptionMissingMessage)
    ((s.subscriptions.find? id).filter (fun sub => sub.userId=userId))
  let plan ← orFail (.message targetPlanMissingMessage) (getSubscriptionPlanByIdTx s planId).toOption
  require (.message targetPlanNotEnabledMessage) (plan.enabled = true)
  require (.message targetPlanNoBalancePayMessage) (balance = true → allowsBalancePay plan)
  let quote ← quoteUpgradeLocked id sub planId plan s.dbTime
  .ok (plan,quote)

def upgradeSubscriptionWithBalance (S : Settings) (s : Store) (now : ℤ) (tradeNo : String) (userId id planId : ℕ) :
    Except TxError (Store × List SubscriptionEvent) := do
  require (.message invalidArgumentMessage) (userId≠0 ∧ id≠0 ∧ planId≠0)
  let s1 := expirePendingUpgradeOrdersTx s id now
  let (plan,quote) ← quoteUpgradeTx s1 userId id planId true
  let quota ← calcSubscriptionBalanceQuota S quote.amountDue
  let s2 ← payFromBalance s1 userId quota upgradeBalanceInsufficientMessage
  let (s3,sub) ← performUpgradeTx S.timeZone s2 s.dbTime userId id planId plan
  let order := upgradeOrder now tradeNo userId planId sub id quote quota
  let s4 ← insertOrder s3 order
  let s5 ← upsertSubscriptionTopUpTx s4 order .success now false
  .ok (s5,[.charged s.orders.next userId quota,.delivered s.orders.next sub id])

def upgradeQuotePayload (quote : SubscriptionUpgradeQuote) : String :=
  "quote: remaining_days="++Text.printInt quote.remainingDays++" "++remainingValueField quote.remainingValue++
    " target_price="++Text.printFixed2 quote.targetPrice

/-- A gateway order for the price of an upgrade. -/
def createSubscriptionUpgradeEpayOrder (s : Store) (now : ℤ) (tradeNo paymentMethod : String) (userId id planId : ℕ) :
    Except TxError Store := do
  require (.message invalidArgumentMessage) (userId≠0 ∧ id≠0 ∧ planId≠0 ∧ tradeNo≠"")
  let s1 := expirePendingUpgradeOrdersTx s id now
  let (_,quote) ← quoteUpgradeTx s1 userId id planId false
  require (.message upgradeDueZeroMessage) (1/100≤quote.amountDue)
  insertOrder s1 {
    userId := userId
    planId := planId
    money := quote.amountDue
    tradeNo := tradeNo
    paymentMethod := paymentMethod
    paymentProvider := .epay
    status := .pending
    orderType := .upgrade
    userSubscriptionId := 0
    fromSubscriptionId := id
    createTime := s.dbTime
    completeTime := 0
    providerPayload := upgradeQuotePayload quote }

def redemptionOrder (s : Store) (tradeNo : String) (userId planId sub redemptionId : ℕ) : SubscriptionOrder where
  userId := userId
  planId := planId
  money := 0
  tradeNo := tradeNo
  paymentMethod := paymentMethodRedemption
  paymentProvider := .redemption
  status := .success
  orderType := .new
  userSubscriptionId := sub
  fromSubscriptionId := 0
  createTime := s.dbTime
  completeTime := s.dbTime
  providerPayload := "redemption_id="++Text.printNat redemptionId

/-- The part of a redemption that opens a subscription. -/
def redeemSubscriptionTx (tz : ℤ) (s : Store) (now : ℤ) (tradeNo : String) (userId planId redemptionId : ℕ) :
    Except TxError (Store × List SubscriptionEvent) := do
  let plan ← planOrMissing s planId .redemptionPlanMissing
  require .redemptionPlanDisabled (plan.enabled = true)
  let _ ← checkActivePurchaseAllowedTx s userId planId plan s.dbTime
  let (s1,sub) ← createUserSubscriptionFromPlanTx tz s userId planId plan .redemption
  let order := redemptionOrder s tradeNo userId planId sub redemptionId
  let s2 ← insertOrder s1 order
  let s3 ← upsertSubscriptionTopUpTx s2 order .success now false
  .ok (s3,[.delivered s.orders.next sub 0])

end Tierflow
