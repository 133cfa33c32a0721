import Tierflow.Billing.Accounts
import Tierflow.Foundation.Rounding

/-! Payment of a wallet top-up: the gateway callback, which runs on any number of server processes
and writes the order and the wallet separately, and the two operations of an administrator, which
are transactions. All of them act on the top-up of one trade number. -/
namespace Tierflow

def topUpNotFoundMessage : String := "充值订单不存在"
def topUpNotPendingMessage : String := "订单状态不是待支付，无法补单"
def topUpGatewayRetiredMessage : String := "该订单使用的支付方式已下线，无法补单，请人工处理"
def topUpQuotaInvalidMessage : String := "无效的充值额度"
def topUpMirrorRefundMessage : String := "该订单来自订阅订单，请在订阅订单页标记退款"
def topUpGatewayRefundMessage : String := "该订单使用的支付方式已下线，无法自动退款，请人工处理"
def topUpNotSuccessMessage : String := "仅成功订单可标记退款"
def tradeNoMissingMessage : String := "未提供订单号"

inductive TopUpEvent
  /-- The order row was written with status `success`. -/
  | succeeded
  | credited (userId : ℕ) (quota : ℤ)
  | clawedBack (userId : ℕ) (quota : ℤ)
  | spent (userId : ℕ) (quota : ℤ)
  deriving DecidableEq, Repr

/-- `Amount × QuotaPerUnit`, cut to an integer. -/
def topUpQuota (S : Settings) (amount : ℤ) : ℤ := Rounding.intPart (amount*S.quotaPerUnit)

def getTopUpByTradeNo (s : Store) (tradeNo : String) : Option (ℕ × TopUp) :=
  s.topUps.first? (fun r => r.2.tradeNo=tradeNo)

/-- Gateways that were removed, each with a conversion rule of its own. -/
def PaymentProvider.retired : PaymentProvider → Bool
  | .stripe | .creem | .waffo | .waffoPancake => true
  | _ => false

def isSubscriptionMirrorTradeNoTx (s : Store) (tradeNo : String) : Bool :=
  0 < s.orders.count (fun r => r.2.tradeNo=tradeNo)

def manualCompleteTopUp (S : Settings) (tradeNo : String) (now : ℤ) (s : Store) :
    Except TxError (Store × List TopUpEvent) := do
  require (.message tradeNoMissingMessage) (tradeNo≠"")
  let (id,topUp) ← orFail (.message topUpNotFoundMessage) (getTopUpByTradeNo s tradeNo)
  if topUp.status = .success then .ok (s,[])
  else do
    require (.message topUpNotPendingMessage) (topUp.status = .pending)
    require (.message topUpGatewayRetiredMessage) (topUp.paymentProvider.retired = false)
    let quotaToAdd := topUpQuota S topUp.amount
    require (.message topUpQuotaInvalidMessage) (0<quotaToAdd)
    .ok ({ s with
      topUps := s.topUps.set id { topUp with completeTime := now, status := .success }
      users := s.users.updateWhere (fun r => r.1=topUp.userId) (fun u => { u with quota := u.quota+quotaToAdd }) },
      [.credited topUp.userId quotaToAdd,.succeeded])

/-- What a refund takes back from the wallet of a user: the credited quota, as far as it is there. -/
def topUpDeduction (s : Store) (userId : ℕ) (credited : ℤ) : Except TxError ℤ :=
  if 0 < credited then do
    let user ← orFail .recordNotFound (s.users.find? userId)
    .ok (min credited user.quota)
  else .ok 0

def adminRefundTopUp (S : Settings) (tradeNo : String) (now : ℤ) (s : Store) :
    Except TxError (Store × List TopUpEvent) := do
  require (.message tradeNoMissingMessage) (tradeNo≠"")
  let (id,topUp) ← orFail (.message topUpNotFoundMessage) (getTopUpByTradeNo s tradeNo)
  require (.message topUpMirrorRefundMessage) (isSubscriptionMirrorTradeNoTx s tradeNo = false)
  require (.message topUpGatewayRefundMessage) (topUp.paymentProvider.retired = false)
  if topUp.status = .refunded then .ok (s,[])
  else do
    require (.message topUpNotSuccessMessage) (topUp.status = .success)
    let deduct ← topUpDeduction s topUp.userId (topUpQuota S topUp.amount)
    let topUps := s.topUps.set id { topUp with status := .refunded, completeTime := now }
    if 0<deduct then
      .ok ({ s with
        topUps := topUps
        users := s.users.updateWhere (fun r => r.1=topUp.userId) (fun u => { u with quota := u.quota-deduct }) },
        [.clawedBack topUp.userId deduct])
    else .ok ({ s with topUps := topUps },[])

/-! ## The callback -/

/-- How far a callback with a verified successful payment has come in `EpayNotify`. -/
inductive CallbackPhase
  | waiting
  | locked
  /-- It has read the order as pending, and holds its copy of the row. -/
  | loaded (id : ℕ) (topUp : TopUp)
  /-- It has saved the order as successful and is about to credit the user. -/
  | saved (topUp : TopUp)
  | ended

/-- The lock of a trade number is released when the callback ends. -/
def CallbackPhase.holdsLock : CallbackPhase → Bool
  | .locked | .loaded _ _ | .saved _ => true
  | .waiting | .ended => false

def CallbackPhase.awaitsCredit : CallbackPhase → Bool
  | .saved _ => true
  | _ => false

structure Callback where
  server : ℕ
  type : String
  phase : CallbackPhase

/-- The shared database, and the callbacks for the trade number on all servers. -/
structure TopUpState where
  store : Store
  callbacks : Table Callback

inductive TopUpOp
  /-- The gateway delivers a verified successful payment to a server. -/
  | notify (server : ℕ) (type : String)
  | lockOrder (callback : ℕ)
  | readOrder (callback : ℕ) (ok : Bool)
  | saveOrder (callback : ℕ) (now : ℤ) (ok : Bool)
  | creditUser (callback : ℕ) (ok : Bool)
  | crash (server : ℕ)
  | manualComplete (now : ℤ)
  | adminRefund (now : ℤ)
  /-- Any user spends from the wallet. -/
  | spend (userId : ℕ) (quota : ℤ)

/-- The read and the two checks on the order; only a pending epay order is processed further. -/
def readTopUp (s : Store) (tradeNo : String) : CallbackPhase :=
  match getTopUpByTradeNo s tradeNo with
  | none => .ended
  | some (id,topUp) =>
    if topUp.paymentProvider≠.epay then .ended
    else if topUp.status = .pending then .loaded id topUp
    else .ended

/-- The copy of the order that a callback saves. -/
def paidTopUp (type : String) (now : ℤ) (topUp : TopUp) : TopUp :=
  { topUp with paymentMethod := type, completeTime := now, status := .success }

/-- One step of a callback: its next phase, and what it does to the database. -/
def TopUpState.advance (c : TopUpState) (i : ℕ)
    (f : Callback → Option (CallbackPhase × Store × List TopUpEvent)) : Option (TopUpState × List TopUpEvent) := do
  let cb ← c.callbacks.find? i
  let (phase,store,es) ← f cb
  some (⟨store,c.callbacks.set i { cb with phase := phase }⟩,es)

/-- The lock is a mutex of the server's own memory. -/
def lockOrderStep (c : TopUpState) (cb : Callback) : Option (CallbackPhase × Store × List TopUpEvent) :=
  match cb.phase with
  | .waiting =>
    if (c.callbacks.first? (fun r => r.2.server=cb.server ∧ r.2.phase.holdsLock)).isNone
    then some (.locked,c.store,[]) else none
  | _ => none

def readOrderStep (tradeNo : String) (ok : Bool) (c : TopUpState) (cb : Callback) :
    Option (CallbackPhase × Store × List TopUpEvent) :=
  match cb.phase with
  | .locked => some (if ok then readTopUp c.store tradeNo else .ended,c.store,[])
  | _ => none

/-- The whole row is written back from the copy. -/
def saveOrderStep (now : ℤ) (ok : Bool) (c : TopUpState) (cb : Callback) :
    Option (CallbackPhase × Store × List TopUpEvent) :=
  match cb.phase with
  | .loaded id topUp =>
    if ok then
      let paid := paidTopUp cb.type now topUp
      some (.saved paid,{ c.store with topUps := c.store.topUps.set id paid },[.succeeded])
    else some (.ended,c.store,[])
  | _ => none

/-- An error of the credit is only logged. -/
def creditUserStep (S : Settings) (ok : Bool) (c : TopUpState) (cb : Callback) :
    Option (CallbackPhase × Store × List TopUpEvent) :=
  match cb.phase with
  | .saved topUp =>
    let quotaToAdd := topUpQuota S topUp.amount
    match if ok then increaseUserQuota c.store topUp.userId quotaToAdd else .error .recordNotFound with
    | .ok s => some (.ended,s,[.credited topUp.userId quotaToAdd])
    | .error _ => some (.ended,c.store,[])
  | _ => none

/-- A transaction that fails is rolled back, so that its failures need no step of their own. -/
def topUpSystem (S : Settings) (tradeNo : String) : TxSystem TopUpState TopUpOp TopUpEvent where
  step c
    | .notify server type => some ({ c with callbacks := c.callbacks.insert ⟨server,type,.waiting⟩ },[])
    | .lockOrder i => c.advance i (lockOrderStep c)
    | .readOrder i ok => c.advance i (readOrderStep tradeNo ok c)
    | .saveOrder i now ok => c.advance i (saveOrderStep now ok c)
    | .creditUser i ok => c.advance i (creditUserStep S ok c)
    | .crash server =>
      some ({ c with
        callbacks := c.callbacks.updateWhere (fun r => r.2.server=server) (fun cb => { cb with phase := .ended }) },[])
    | .manualComplete now =>
      (manualCompleteTopUp S tradeNo now c.store).toOption.map (fun o => ({ c with store := o.1 },o.2))
    | .adminRefund now =>
      (adminRefundTopUp S tradeNo now c.store).toOption.map (fun o => ({ c with store := o.1 },o.2))
    | .spend userId quota =>
      (decreaseUserQuota c.store userId quota).toOption.map
        (fun s => ({ c with store := s },[.spent userId quota]))

/-! ## Inversion of the steps -/

lemma advance_cases {c c' : TopUpState} {i : ℕ} {f : Callback → Option (CallbackPhase × Store × List TopUpEvent)}
    {es : List TopUpEvent} (h : c.advance i f = some (c',es)) :
    ∃ cb phase store, c.callbacks.find? i = some cb ∧ f cb = some (phase,store,es) ∧
      c' = ⟨store,c.callbacks.set i { cb with phase := phase }⟩ := by
  obtain ⟨cb,hcb,h⟩ := Option.bind_eq_some_iff.mp h
  obtain ⟨⟨phase,store,es1⟩,hf,h⟩ := Option.bind_eq_some_iff.mp h
  obtain ⟨rfl,rfl⟩ := Prod.mk.inj (Option.some.inj h)
  exact ⟨cb,phase,store,hcb,hf,rfl⟩

lemma lockOrderStep_cases {c : TopUpState} {cb : Callback} {o : CallbackPhase × Store × List TopUpEvent}
    (h : lockOrderStep c cb = some o) :
    cb.phase = .waiting ∧ o = (.locked,c.store,[]) ∧
      ∀ i cb', c.callbacks.find? i = some cb' → cb'.server=cb.server → cb'.phase.holdsLock = false := by
  unfold lockOrderStep at h
  cases hp : cb.phase with
  | waiting =>
    simp only [hp] at h
    split_ifs at h with hfree
    refine ⟨rfl,(Option.some.inj h).symm,?_⟩
    intro i cb' hi hs
    have hn := Table.first?_eq_none_iff.mp (Option.isNone_iff_eq_none.mp hfree) i cb' hi
    simpa [hs] using hn
  | _ => simp [hp] at h

lemma readOrderStep_cases {tradeNo : String} {ok : Bool} {c : TopUpState} {cb : Callback}
    {o : CallbackPhase × Store × List TopUpEvent} (h : readOrderStep tradeNo ok c cb = some o) :
    cb.phase = .locked ∧ o.2 = (c.store,[]) ∧
      (o.1 = .ended ∨ ∃ id topUp, o.1 = .loaded id topUp ∧ getTopUpByTradeNo c.store tradeNo = some (id,topUp) ∧
        topUp.status = .pending) := by
  unfold readOrderStep at h
  cases hp : cb.phase with
  | locked =>
    simp only [hp,Option.some.injEq] at h
    subst o
    refine ⟨rfl,rfl,?_⟩
    cases ok with
    | false => exact .inl rfl
    | true =>
      unfold readTopUp
      cases hg : getTopUpByTradeNo c.store tradeNo with
      | none => exact .inl rfl
      | some r =>
        obtain ⟨id,topUp⟩ := r
        by_cases he : topUp.paymentProvider = .epay
        · by_cases hs : topUp.status = .pending
          · exact .inr ⟨id,topUp,by simp [he,hs],rfl,hs⟩
          · exact .inl (by simp [he,hs])
        · exact .inl (by simp [he])
  | _ => simp [hp] at h

lemma saveOrderStep_cases {now : ℤ} {ok : Bool} {c : TopUpState} {cb : Callback}
    {o : CallbackPhase × Store × List TopUpEvent} (h : saveOrderStep now ok c cb = some o) :
    ∃ id topUp, cb.phase = .loaded id topUp ∧
      ((ok = false ∧ o = (.ended,c.store,[])) ∨
        (ok = true ∧ o = (.saved (paidTopUp cb.type now topUp),
          { c.store with topUps := c.store.topUps.set id (paidTopUp cb.type now topUp) },[.succeeded]))) := by
  unfold saveOrderStep at h
  cases hp : cb.phase with
  | loaded id topUp =>
    simp only [hp] at h
    refine ⟨id,topUp,rfl,?_⟩
    cases ok with
    | false => exact .inl ⟨rfl,(Option.some.inj h).symm⟩
    | true => exact .inr ⟨rfl,(Option.some.inj h).symm⟩
  | _ => simp [hp] at h

lemma creditUserStep_cases {S : Settings} {ok : Bool} {c : TopUpState} {cb : Callback}
    {o : CallbackPhase × Store × List TopUpEvent} (h : creditUserStep S ok c cb = some o) :
    ∃ topUp, cb.phase = .saved topUp ∧
      ((¬(ok = true ∧ 0≤topUpQuota S topUp.amount) ∧ o = (.ended,c.store,[])) ∨
        (ok = true ∧ 0≤topUpQuota S topUp.amount ∧ ∃ s,
          increaseUserQuota c.store topUp.userId (topUpQuota S topUp.amount) = .ok s ∧
          o = (.ended,s,[.credited topUp.userId (topUpQuota S topUp.amount)]))) := by
  unfold creditUserStep at h
  cases hp : cb.phase with
  | saved topUp =>
    simp only [hp] at h
    refine ⟨topUp,rfl,?_⟩
    cases ok with
    | false => exact .inl ⟨by simp,(Option.some.inj h).symm⟩
    | true =>
      simp only [if_true] at h
      by_cases hq : 0≤topUpQuota S topUp.amount
      · rw [increaseUserQuota,require_of hq,ok_bind] at h
        refine .inr ⟨rfl,hq,_,by rw [increaseUserQuota,require_of hq,ok_bind],(Option.some.inj h).symm⟩
      · rw [increaseUserQuota,require,if_neg hq] at h
        exact .inl ⟨by simp [hq],(Option.some.inj h).symm⟩
  | _ => simp [hp] at h

/-- A manual completion finds the order successful, or completes and credits a pending one. -/
lemma manualComplete_cases {S : Settings} {tradeNo : String} {now : ℤ} {s : Store} {o : Store × List TopUpEvent}
    (h : manualCompleteTopUp S tradeNo now s = .ok o) :
    ∃ id topUp, getTopUpByTradeNo s tradeNo = some (id,topUp) ∧
      ((topUp.status = .success ∧ o = (s,[])) ∨
        (topUp.status = .pending ∧ o = ({ s with
          topUps := s.topUps.set id { topUp with completeTime := now, status := .success }
          users := s.users.updateWhere (fun r => r.1=topUp.userId)
            (fun u => { u with quota := u.quota+topUpQuota S topUp.amount }) },
          [.credited topUp.userId (topUpQuota S topUp.amount),.succeeded]))) := by
  obtain ⟨_,-,h⟩ := bind_eq_ok.mp h
  obtain ⟨⟨id,topUp⟩,hg,h⟩ := bind_eq_ok.mp h
  refine ⟨id,topUp,orFail_eq_ok.mp hg,?_⟩
  dsimp only at h
  split_ifs at h with hs
  · exact .inl ⟨hs,(Except.ok.inj h).symm⟩
  · obtain ⟨_,hp,h⟩ := bind_eq_ok.mp h
    obtain ⟨_,-,h⟩ := bind_eq_ok.mp h
    obtain ⟨_,-,h⟩ := bind_eq_ok.mp h
    exact .inr ⟨require_eq_ok.mp hp,(Except.ok.inj h).symm⟩

/-- A refund finds the order refunded, or marks a successful one and takes quota back. -/
lemma adminRefund_cases {S : Settings} {tradeNo : String} {now : ℤ} {s : Store} {o : Store × List TopUpEvent}
    (h : adminRefundTopUp S tradeNo now s = .ok o) :
    ∃ id topUp, getTopUpByTradeNo s tradeNo = some (id,topUp) ∧
      ((topUp.status = .refunded ∧ o = (s,[])) ∨
        (topUp.status = .success ∧ ∃ users es, o = ({ s with
          topUps := s.topUps.set id { topUp with status := .refunded, completeTime := now }
          users := users },es) ∧
          ((users = s.users ∧ es=[]) ∨ ∃ n, es=[.clawedBack topUp.userId n] ∧
            users = s.users.updateWhere (fun r => r.1=topUp.userId) (fun u => { u with quota := u.quota-n })))) := by
  obtain ⟨_,-,h⟩ := bind_eq_ok.mp h
  obtain ⟨⟨id,topUp⟩,hg,h⟩ := bind_eq_ok.mp h
  refine ⟨id,topUp,orFail_eq_ok.mp hg,?_⟩
  obtain ⟨_,-,h⟩ := bind_eq_ok.mp h
  obtain ⟨_,-,h⟩ := bind_eq_ok.mp h
  dsimp only at h
  split_ifs at h with hs
  · exact .inl ⟨hs,(Except.ok.inj h).symm⟩
  · obtain ⟨_,hp,h⟩ := bind_eq_ok.mp h
    obtain ⟨n,-,h⟩ := bind_eq_ok.mp h
    refine .inr ⟨require_eq_ok.mp hp,?_⟩
    split_ifs at h
    · exact ⟨_,_,(Except.ok.inj h).symm,.inr ⟨n,rfl,rfl⟩⟩
    · exact ⟨_,_,(Except.ok.inj h).symm,.inl ⟨rfl,rfl⟩⟩

end Tierflow
