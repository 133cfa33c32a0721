import Tierflow.Billing.Accounts
import Tierflow.Bucket.Operations

/-! The billing session of one request: pre-consumption, reservation, settlement and refund over
a funding source, either the wallet or a subscription, and a token. Every single funding or token
operation may fail without effect, as the environment of a call decides. -/
namespace Tierflow

/-- The single operations of a session. -/
inductive SessionOp
  | preConsumeToken | preConsumeFunding | rollbackToken
  | reserveFunding | reserveToken | rollbackFunding
  | settleFunding | settleToken
  | refundFunding | refundExtra | refundToken
  deriving DecidableEq, Repr

inductive SessionEvent
  | failed (op : SessionOp)
  /-- A settlement of the whole quota was completed. -/
  | settled (actualQuota : ℤ)
  /-- A refund took effect. -/
  | refunded
  deriving DecidableEq, Repr

/-- The store as a session sees it: which of the next operations fail, and what happened so far. -/
structure Desk where
  store : Store
  faults : List Bool
  log : List SessionEvent

namespace Desk
universe u
variable {α : Type u}

def note (d : Desk) (e : SessionEvent) : Desk := { d with log := e::d.log }

/-- One operation, which fails when the next fault says so or when it is refused. -/
def tryOnce (d : Desk) (f : Store → Except TxError (Store × α)) : Desk × Except TxError α :=
  if d.faults.headD false then ({ d with faults := d.faults.tail },.error (.message "database error"))
  else match f d.store with
    | .error e => ({ d with faults := d.faults.tail },.error e)
    | .ok (s,a) => ({ d with faults := d.faults.tail, store := s },.ok a)

/-- At most `n+1` tries. -/
def retry (f : Store → Except TxError (Store × α)) : ℕ → Desk → Desk × Except TxError α
  | 0,d => d.tryOnce f
  | n+1,d => match d.tryOnce f with
    | (d',.error _) => retry f n d'
    | (d',.ok a) => (d',.ok a)

def attempts (n : ℕ) (d : Desk) (op : SessionOp) (f : Store → Except TxError (Store × α)) :
    Desk × Except TxError α :=
  match d.retry f n with
  | (d',.error e) => (d'.note (.failed op),.error e)
  | (d',.ok a) => (d',.ok a)

def attempt (d : Desk) (op : SessionOp) (f : Store → Except TxError Store) : Desk × Except TxError Unit :=
  d.attempts 0 op (fun s => (f s).map (fun s' => (s',())))

/-- `refundWithRetry` tries three times. -/
def attemptRefund (d : Desk) (op : SessionOp) (f : Store → Except TxError Store) : Desk × Except TxError Unit :=
  d.attempts 2 op (fun s => (f s).map (fun s' => (s',())))

end Desk

structure RelayInfo where
  userId : ℕ
  tokenId : ℕ
  tokenUnlimited : Bool
  tokenQuota : ℤ
  userQuota : ℤ
  requestId : String
  forcePreConsume : Bool
  tokenSubscriptionId : ℕ
  gateBucket : String
  estimatePromptTokens : ℤ
  /-- Copied from the funding source after each pre-consumption and reservation. -/
  subscriptionId : ℕ

structure SubscriptionFunding where
  requestId : String
  userId : ℕ
  amount : ℤ
  bucket : Bucket
  targetSubscriptionId : ℕ
  subscriptionId : ℕ
  preConsumed : ℤ
  amountTotal : ℤ
  amountUsedAfter : ℤ

inductive FundingSource
  | wallet (userId : ℕ) (consumed : ℤ)
  | subscription (f : SubscriptionFunding)

structure BillingSession where
  relayInfo : RelayInfo
  funding : FundingSource
  preConsumedQuota : ℤ
  tokenConsumed : ℤ
  extraReserved : ℤ
  trusted : Bool
  fundingSettled : Bool
  settled : Bool
  refunded : Bool

/-- What a session reads besides the request: deployment mode, trust threshold, server time zone,
database time, and the bucket that the model of the request resolves to. -/
structure BillingEnv where
  applianceMode : Bool
  trustQuota : ℤ
  timeZone : ℤ
  now : ℤ
  resolveBucketForUserSubscription : Bucket

inductive BillingError
  | preConsumeTokenQuotaFailed | noActiveSubscription | insufficientSubscriptionQuota
  | insufficientUserQuota | updateDataError | queryDataError
  deriving DecidableEq, Repr

def subscriptionQuotaAPIError : TxError → Option BillingError
  | .noActiveSubscription => some .noActiveSubscription
  | .subscriptionQuotaInsufficient _ _ => some .insufficientSubscriptionQuota
  | _ => none

def preConsumeTokenQuota (info : RelayInfo) (quota : ℤ) (s : Store) : Except TxError Store := do
  require (.message negativeQuotaMessage) (0≤quota)
  let token ← orFail .recordNotFound (s.tokens.find? info.tokenId)
  require (.message "token quota is not enough") (info.tokenUnlimited = true ∨ quota≤token.remainQuota)
  decreaseTokenQuota s info.tokenId quota

/-! ## Funding sources -/

namespace FundingSource

/-- Charge the source for a new request; a subscription charges its own amount. -/
def preConsume (env : BillingEnv) (f : FundingSource) (amount : ℤ) (d : Desk) : Desk × Except TxError FundingSource :=
  match f with
  | .wallet userId consumed =>
    if amount≤0 then (d,.ok (.wallet userId consumed))
    else
      match d.attempt .preConsumeFunding (fun s => decreaseUserQuota s userId amount) with
      | (d',.error e) => (d',.error e)
      | (d',.ok _) => (d',.ok (.wallet userId amount))
  | .subscription sf =>
    match d.attempts 0 .preConsumeFunding (fun s =>
        (preConsumeUserSubscription env.timeZone s env.now sf.requestId sf.userId sf.bucket.name sf.amount
          sf.targetSubscriptionId).map (fun o => (o.1,o.2.2))) with
    | (d',.error e) => (d',.error e)
    | (d',.ok res) => (d',.ok (.subscription { sf with
        subscriptionId := res.userSubscriptionId, preConsumed := res.preConsumed
        amountTotal := res.amountTotal, amountUsedAfter := res.amountUsedAfter }))

/-- Adjust the source by the difference to the actual quota. The basic bucket is settled in tokens. -/
def settle (f : FundingSource) (delta settledTotalTokens : ℤ) (d : Desk) : Desk × Except TxError Unit :=
  match f with
  | .wallet userId _ =>
    if delta=0 then (d,.ok ())
    else if 0<delta then d.attempt .settleFunding (fun s => decreaseUserQuota s userId delta)
    else d.attempt .settleFunding (fun s => increaseUserQuota s userId (-delta))
  | .subscription sf =>
    match sf.bucket with
    | .basic =>
      if settledTotalTokens≤0 then (d,.ok ())
      else if settledTotalTokens-sf.preConsumed=0 then (d,.ok ())
      else d.attempt .settleFunding (fun s =>
        postConsumeUserSubscriptionDelta s sf.subscriptionId sf.bucket.name (settledTotalTokens-sf.preConsumed))
    | .premium =>
      if delta=0 then (d,.ok ())
      else d.attempt .settleFunding (fun s =>
        postConsumeUserSubscriptionDelta s sf.subscriptionId sf.bucket.name delta)

/-- A wallet refund is not idempotent and is tried once; a subscription refund is retried. -/
def refund (f : FundingSource) (d : Desk) : Desk × Except TxError Unit :=
  match f with
  | .wallet userId consumed =>
    if consumed≤0 then (d,.ok ())
    else d.attempt .refundFunding (fun s => increaseUserQuota s userId consumed)
  | .subscription sf =>
    if sf.preConsumed≤0 then (d,.ok ())
    else d.attemptRefund .refundFunding (fun s => (refundSubscriptionPreConsume s sf.requestId).map Prod.fst)

def reserve (f : FundingSource) (delta : ℤ) (d : Desk) : Desk × Except TxError FundingSource :=
  match f with
  | .wallet userId consumed =>
    match d.attempt .reserveFunding (fun s => decreaseUserQuota s userId delta) with
    | (d',.error e) => (d',.error e)
    | (d',.ok _) => (d',.ok (.wallet userId (consumed+delta)))
  | .subscription sf =>
    match d.attempt .reserveFunding (fun s =>
        postConsumeUserSubscriptionDelta s sf.subscriptionId sf.bucket.name delta) with
    | (d',.error e) => (d',.error e)
    | (d',.ok _) => (d',.ok (.subscription sf))

/-- Take back a reservation. A failure is only logged; the wallet then still counts as charged. -/
def rollbackReserve (f : FundingSource) (delta : ℤ) (d : Desk) : Desk × FundingSource :=
  match f with
  | .wallet userId consumed =>
    match d.attempt .rollbackFunding (fun s => increaseUserQuota s userId delta) with
    | (d',.error _) => (d',.wallet userId consumed)
    | (d',.ok _) => (d',.wallet userId (consumed-delta))
  | .subscription sf =>
    ((d.attempt .rollbackFunding (fun s =>
      postConsumeUserSubscriptionDelta s sf.subscriptionId sf.bucket.name (-delta))).1,.subscription sf)

end FundingSource

namespace BillingSession

def syncRelayInfo (b : BillingSession) : BillingSession :=
  { b with relayInfo := { b.relayInfo with
      subscriptionId := match b.funding with
        | .wallet _ _ => 0
        | .subscription sf => sf.subscriptionId } }

def shouldTrust (env : BillingEnv) (b : BillingSession) : Bool :=
  if b.relayInfo.forcePreConsume then false
  else if env.trustQuota≤0 then false
  else if b.relayInfo.tokenUnlimited || decide (env.trustQuota<b.relayInfo.tokenQuota) then
    match b.funding with
    | .wallet _ _ => decide (env.trustQuota<b.relayInfo.userQuota)
    | .subscription _ => false
  else false

/-- Charge the token, then the funding source, and give the token back when the source refuses. -/
def preConsume (env : BillingEnv) (b : BillingSession) (quota : ℤ) (d : Desk) :
    Desk × Except BillingError BillingSession :=
  let trusted := b.shouldTrust env
  let effectiveQuota := if trusted then 0 else quota
  let r := if 0<effectiveQuota then d.attempt .preConsumeToken (preConsumeTokenQuota b.relayInfo effectiveQuota)
    else (d,.ok ())
  let tokenConsumed := if 0<effectiveQuota then effectiveQuota else 0
  match r with
  | (d',.error _) => (d',.error .preConsumeTokenQuotaFailed)
  | (d',.ok _) =>
    match b.funding.preConsume env effectiveQuota d' with
    | (d'',.error e) =>
      let d3 := if 0<tokenConsumed then
          (d''.attempt .rollbackToken (fun s => increaseTokenQuota s b.relayInfo.tokenId tokenConsumed)).1
        else d''
      (d3,.error ((subscriptionQuotaAPIError e).getD .updateDataError))
    | (d'',.ok f) =>
      (d'',.ok ({ b with trusted := trusted, tokenConsumed := tokenConsumed, funding := f,
                         preConsumedQuota := effectiveQuota } : BillingSession).syncRelayInfo)

def ofFunding (info : RelayInfo) (f : FundingSource) : BillingSession where
  relayInfo := info
  funding := f
  preConsumedQuota := 0
  tokenConsumed := 0
  extraReserved := 0
  trusted := false
  fundingSettled := false
  settled := false
  refunded := false

end BillingSession

/-- The bucket of a subscription session: the gate's verdict, or else the model's own. -/
def sessionBucket (env : BillingEnv) (info : RelayInfo) : Bucket :=
  if info.gateBucket=bucketPremium then .premium
  else if info.gateBucket=bucketBasic then .basic
  else env.resolveBucketForUserSubscription

/-- A subscription is charged at least one unit: quota in the premium bucket, an estimate of the
prompt tokens in the basic one. -/
def subConsume (env : BillingEnv) (info : RelayInfo) (preConsumedQuota : ℕ) : ℤ :=
  let n := match sessionBucket env info with
    | .basic => info.estimatePromptTokens
    | .premium => preConsumedQuota
  if n≤0 then 1 else n

/-- The key decides the source: a key issued with a subscription charges that subscription and
never falls back to the wallet. -/
def newBillingSession (env : BillingEnv) (info : RelayInfo) (preConsumedQuota : ℕ) (d : Desk) :
    Desk × Except BillingError BillingSession :=
  if env.applianceMode then
    (d,.ok ({ BillingSession.ofFunding info (.wallet info.userId 0) with trusted := true }).syncRelayInfo)
  else if 0 < info.tokenSubscriptionId then
    (BillingSession.ofFunding info (.subscription
      { requestId := info.requestId, userId := info.userId, amount := subConsume env info preConsumedQuota
        bucket := sessionBucket env info, targetSubscriptionId := info.tokenSubscriptionId
        subscriptionId := 0, preConsumed := 0, amountTotal := 0, amountUsedAfter := 0 })).preConsume
      env (subConsume env info preConsumedQuota) d
  else
    match d.store.users.find? info.userId with
    | none => (d,.error .queryDataError)
    | some u =>
      if u.quota≤0 then (d,.error .insufficientUserQuota)
      else if u.quota-preConsumedQuota<0 then (d,.error .insufficientUserQuota)
      else (BillingSession.ofFunding { info with userQuota := u.quota } (.wallet info.userId 0)).preConsume
        env preConsumedQuota d

namespace BillingSession

/-- Raise the pre-consumed quota to a target before the request is sent. -/
def reserve (env : BillingEnv) (b : BillingSession) (targetQuota : ℤ) (d : Desk) :
    Desk × BillingSession × Except TxError Unit :=
  if env.applianceMode then (d,b,.ok ())
  else if b.settled ∨ b.refunded ∨ b.trusted ∨ targetQuota≤b.preConsumedQuota then (d,b,.ok ())
  else
    let delta := targetQuota-b.preConsumedQuota
    match b.funding.reserve delta d with
    | (d1,.error e) => (d1,b,.error e)
    | (d1,.ok f) =>
      match d1.attempt .reserveToken (preConsumeTokenQuota b.relayInfo delta) with
      | (d2,.error e) =>
        let r := f.rollbackReserve delta d2
        (r.1,{ b with funding := r.2 },.error e)
      | (d2,.ok _) =>
        (d2,({ b with funding := f, preConsumedQuota := b.preConsumedQuota+delta,
                      tokenConsumed := b.tokenConsumed+delta,
                      extraReserved := b.extraReserved+delta } : BillingSession).syncRelayInfo,.ok ())

/-- Settle with the actual quota. Once the funding source is adjusted the session counts as
settled, even when the token adjustment fails. -/
def settle (env : BillingEnv) (b : BillingSession) (actualQuota settledTotalTokens : ℤ) (d : Desk) :
    Desk × BillingSession × Except TxError Unit :=
  if b.settled then (d,b,.ok ())
  else if env.applianceMode then (d,{ b with settled := true },.ok ())
  else
    let delta := actualQuota-b.preConsumedQuota
    if delta=0 then (d.note (.settled actualQuota),{ b with settled := true },.ok ())
    else
      let r := if b.fundingSettled then (d,.ok ()) else b.funding.settle delta settledTotalTokens d
      match r with
      | (d1,.error e) => (d1,b,.error e)
      | (d1,.ok _) =>
        let t := if 0<delta then
            d1.attempt .settleToken (fun s => decreaseTokenQuota s b.relayInfo.tokenId delta)
          else d1.attempt .settleToken (fun s => increaseTokenQuota s b.relayInfo.tokenId (-delta))
        (t.1.note (.settled actualQuota),{ b with fundingSettled := true, settled := true },t.2)

def needsRefund (b : BillingSession) : Bool :=
  if b.settled || b.refunded || b.fundingSettled then false
  else if 0<b.tokenConsumed then true
  else match b.funding with
    | .wallet _ _ => false
    | .subscription sf => decide (0 < sf.preConsumed)

/-- Reservations on a subscription have no record and are given back by a delta of their own. -/
def refundExtraReserved (b : BillingSession) (d : Desk) : Desk :=
  match b.funding with
  | .wallet _ _ => d
  | .subscription sf =>
    if 0<b.extraReserved ∧ 0<b.relayInfo.subscriptionId then
      (d.attempt .refundExtra (fun s =>
        postConsumeUserSubscriptionDelta s b.relayInfo.subscriptionId sf.bucket.name (-b.extraReserved))).1
    else d

/-- Give everything back. Failures are only logged. -/
def refund (env : BillingEnv) (b : BillingSession) (d : Desk) : Desk × BillingSession :=
  if env.applianceMode then (d,b)
  else if b.settled || b.refunded || !b.needsRefund then (d,b)
  else
    let d1 := b.refundExtraReserved (b.funding.refund (d.note .refunded)).1
    let d2 := if 0<b.tokenConsumed then
        (d1.attempt .refundToken (fun s => increaseTokenQuota s b.relayInfo.tokenId b.tokenConsumed)).1
      else d1
    (d2,{ b with refunded := true })

end BillingSession

/-- The calls a request makes on its session, each with the faults it meets. -/
inductive SessionCall
  | reserve (targetQuota : ℤ) (faults : List Bool)
  | settle (actualQuota settledTotalTokens : ℤ) (faults : List Bool)
  | refund (faults : List Bool)

def sessionSystem (env : BillingEnv) : TxSystem (BillingSession × Store) SessionCall SessionEvent where
  step
    | (b,s),.reserve target faults =>
      let r := b.reserve env target ⟨s,faults,[]⟩
      some ((r.2.1,r.1.store),r.1.log)
    | (b,s),.settle actual tokens faults =>
      let r := b.settle env actual tokens ⟨s,faults,[]⟩
      some ((r.2.1,r.1.store),r.1.log)
    | (b,s),.refund faults =>
      let r := b.refund env ⟨s,faults,[]⟩
      some ((r.2,r.1.store),r.1.log)

end Tierflow
