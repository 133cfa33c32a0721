import Tierflow.Subscription.System

/-! What one committed operation does to orders, subscriptions and keys: every operation is read
back once here, and the results about runs look only at the effects. -/
namespace Tierflow

def SubscriptionEvent.delivery? (o : ℕ) : SubscriptionEvent → Option ℕ
  | .delivered order sub _ => if order=o then some sub else none
  | _ => none

/-- The subscriptions that an order delivered. -/
def deliveries (o : ℕ) (es : List SubscriptionEvent) : List ℕ := es.filterMap (SubscriptionEvent.delivery? o)

@[simp] lemma deliveries_nil (o : ℕ) : deliveries o [] = [] := rfl

@[simp] lemma deliveries_append (o : ℕ) (es hist : List SubscriptionEvent) :
    deliveries o (es++hist) = deliveries o es++deliveries o hist := List.filterMap_append

lemma deliveries_delivered (o id k src : ℕ) (es : List SubscriptionEvent) :
    deliveries o (.delivered id k src::es) = if id=o then k::deliveries o es else deliveries o es := by
  unfold deliveries
  rw [List.filterMap_cons]
  by_cases h : id=o <;> simp [SubscriptionEvent.delivery?,h]

@[simp] lemma deliveries_charged (o id u : ℕ) (q : ℤ) (es : List SubscriptionEvent) :
    deliveries o (.charged id u q::es) = deliveries o es := rfl

@[simp] lemma deliveries_credited (o id u : ℕ) (q : ℤ) (es : List SubscriptionEvent) :
    deliveries o (.credited id u q::es) = deliveries o es := rfl

/-- The status changes that come without a delivery and return nothing. -/
inductive StatusMove : OrderStatus → OrderStatus → Prop
  | payLate : StatusMove .pending .manualReview
  | expire : StatusMove .pending .expired
  | payExpired : StatusMove .expired .manualReview
  | close : StatusMove .manualReview .failed

/-- A new purchase from the wallet, which does not name its subscription. -/
def isBalancePurchase (order : SubscriptionOrder) : Prop :=
  order.paymentProvider = .balance ∧ order.orderType = .new ∧ order.userSubscriptionId=0

instance (order : SubscriptionOrder) : Decidable (isBalancePurchase order) := by
  unfold isBalancePurchase; infer_instance

structure SameOrder (x y : SubscriptionOrder) : Prop where
  sub : y.userSubscriptionId=x.userSubscriptionId
  type : y.orderType=x.orderType
  provider : y.paymentProvider=x.paymentProvider

/-- What an operation that emits `es`, and creates the subscription `new` if any, can do to the row
of the order `o`. -/
inductive OrderStep (op : SubscriptionOp) (new : Option ℕ) (es : List SubscriptionEvent) (o : ℕ) :
    Option SubscriptionOrder → Option SubscriptionOrder → Prop
  | same (x : Option SubscriptionOrder) : deliveries o es = [] → OrderStep op new es o x x
  | moved {x y : SubscriptionOrder} : StatusMove x.status y.status → SameOrder x y → deliveries o es = [] →
    OrderStep op new es o (some x) (some y)
  | refunded {x y : SubscriptionOrder} {now : ℤ} : op = .adminRefund now o → x.status = .success →
    y.status = .refunded → SameOrder x y → deliveries o es = [] → OrderStep op new es o (some x) (some y)
  | requested {y : SubscriptionOrder} : y.status = .pending → deliveries o es = [] →
    OrderStep op new es o none (some y)
  | delivered {x y : SubscriptionOrder} {k : ℕ} : x.status = .pending ∨ x.status = .manualReview →
    y.status = .success → y.userSubscriptionId=k → new = some k → deliveries o es = [k] →
    OrderStep op new es o (some x) (some y)
  | bought {y : SubscriptionOrder} {k : ℕ} : y.status = .success →
    y.userSubscriptionId=k ∨ isBalancePurchase y → new = some k → deliveries o es = [k] →
    OrderStep op new es o none (some y)

def StepEffect (tz : ℤ) (op : SubscriptionOp) (s s' : Store) (es : List SubscriptionEvent) : Prop :=
  ∃ new, LifeEffect tz op s s' new ∧ ∀ o, OrderStep op new es o (s.orders.find? o) (s'.orders.find? o)

section Tables
variable {op : SubscriptionOp} {s : Store} {id : ℕ} {x y : SubscriptionOrder} {new : Option ℕ}
  {es : List SubscriptionEvent}

lemma orderStep_set (hx : s.orders.find? id = some x) (h : OrderStep op new es id (some x) (some y))
    (hes : ∀ o, o≠id → deliveries o es = []) (o : ℕ) :
    OrderStep op new es o (s.orders.find? o) ((s.orders.set id y).find? o) := by
  rw [Table.find?_set]
  split_ifs with ho
  · subst o
    simpa [hx] using h
  · exact .same _ (hes o ho)

lemma orderStep_insert {t : Table SubscriptionOrder} (ht : t.next=s.orders.next)
    (hold : ∀ o, deliveries o es = [] → OrderStep op new es o (s.orders.find? o) (t.find? o))
    (h : OrderStep op new es s.orders.next none (some y)) (hes : ∀ o, o≠s.orders.next → deliveries o es = []) (o : ℕ) :
    OrderStep op new es o (s.orders.find? o) ((t.insert y).find? o) := by
  rw [Table.find?_insert,ht]
  split_ifs with ho
  · subst o
    simpa using h
  · exact hold o (hes o ho)

/-- Pending upgrade orders that are called off. -/
lemma orderStep_expirePending (k : ℕ) (now : ℤ) {o : ℕ} (hes : deliveries o es = []) :
    OrderStep op new es o (s.orders.find? o) ((expirePendingUpgradeOrdersTx s k now).orders.find? o) := by
  unfold expirePendingUpgradeOrdersTx
  rw [Table.find?_updateWhere]
  cases hx : s.orders.find? o with
  | none => exact .same _ hes
  | some x =>
    rw [Option.map_some]
    split_ifs with hp
    · have hpend : x.status = .pending := (of_decide_eq_true hp).2.2
      refine .moved ?_ ⟨rfl,rfl,rfl⟩ hes
      rw [hpend]
      exact .expire
    · exact .same _ hes

lemma deliveries_single {id k src o : ℕ} (h : o≠id) : deliveries o [.delivered id k src] = [] := by
  rw [deliveries_delivered,if_neg h.symm,deliveries_nil]

end Tables

lemma orderByTradeNo_find {s : Store} {tn : String} {id : ℕ} {order : SubscriptionOrder}
    (h : orderByTradeNo s tn = some (id,order)) : s.orders.find? id = some order := (Table.first?_some h).1

/-! ## Parts of operations -/

lemma upsert_cases {s s' : Store} {order : SubscriptionOrder} {status : OrderStatus} {now : ℤ} {rebind : Bool}
    (h : upsertSubscriptionTopUpTx s order status now rebind = .ok s') :
    ∃ topUps, s' = { s with topUps := topUps } := by
  unfold upsertSubscriptionTopUpTx at h
  cases ht : s.topUps.first? (fun r => r.2.tradeNo=order.tradeNo) with
  | none =>
    rw [ht] at h
    exact ⟨_,(Except.ok.inj h).symm⟩
  | some r =>
    rw [ht] at h
    obtain ⟨_,-,h⟩ := bind_eq_ok.mp h
    exact ⟨_,(Except.ok.inj h).symm⟩

lemma saveOrder_cases {s s' : Store} {id : ℕ} {order : SubscriptionOrder} {status : OrderStatus} {now : ℤ}
    {rebind : Bool} (h : saveOrderTx s id order status now rebind = .ok s') :
    ∃ topUps, s' = { s with topUps := topUps, orders := s.orders.set id order } := by
  obtain ⟨s1,h1,h⟩ := bind_eq_ok.mp h
  obtain ⟨topUps,rfl⟩ := upsert_cases h1
  exact ⟨topUps,(Except.ok.inj h).symm⟩

lemma insertOrder_cases {s s' : Store} {order : SubscriptionOrder} (h : insertOrder s order = .ok s') :
    s' = { s with orders := s.orders.insert order } := by
  obtain ⟨_,-,h⟩ := bind_eq_ok.mp h
  exact (Except.ok.inj h).symm

/-- A payment takes the price from the wallet and leaves the group. -/
lemma payFromBalance_cases {s s' : Store} {u : ℕ} {quota : ℤ} {e : String} (hq : 0≤quota)
    (h : payFromBalance s u quota e = .ok s') :
    ∃ users, s' = { s with users := users } ∧ (∀ v, userGroup users v = userGroup s.users v) ∧
      ∀ v, userQuota users v = (userQuota s.users v).map (fun q => q-if u=v then quota else 0) := by
  obtain ⟨_,-,h⟩ := bind_eq_ok.mp h
  obtain ⟨_,-,h⟩ := bind_eq_ok.mp h
  obtain rfl := Except.ok.inj h
  split_ifs with hpos
  · refine ⟨_,rfl,fun v => userGroup_quota (fun _ => rfl),?_⟩
    intro v
    rw [userQuota_quota (n := -quota) (fun user => sub_eq_add_neg user.quota quota)]
    congr 1
    funext q
    split_ifs <;> ring
  · refine ⟨s.users,rfl,fun _ => rfl,?_⟩
    intro v
    have h0 : quota=0 := le_antisymm (not_lt.mp hpos) hq
    simp [h0]

lemma SameLife.cancel {s s' : Store} (h : SameLife s s') (id : ℕ) (now : ℤ) :
    SameLife (disableTokensBySubscriptionIdsTx (cancelSubscription s id now) [id])
      (disableTokensBySubscriptionIdsTx (cancelSubscription s' id now) [id]) := by
  refine ⟨?_,?_,h.group,h.dbTime⟩
  · simp only [disableTokensBySubscriptionIdsTx,cancelSubscription,h.subscriptions]
  · simp only [disableTokensBySubscriptionIdsTx,cancelSubscription,h.tokens]

lemma FellBack.congr {users users' us : Table User} {u : ℕ} {group prev : String} {blocked : Prop}
    (h : FellBack users users' u group prev blocked) (h1 : ∀ v, userGroup us v = userGroup users' v) :
    FellBack users us u group prev blocked := by
  cases h with
  | kept hr hv => exact .kept hr (fun v => by rw [h1,hv])
  | restored hc hp hv => exact .restored hc hp (fun v => by rw [h1,hv])

/-- What follows an effect without touching subscriptions, keys and groups does not matter. -/
lemma LifeEffect.congr {tz : ℤ} {op : SubscriptionOp} {s s1 s' : Store} {new : Option ℕ}
    (h : LifeEffect tz op s s1 new) (h1 : SameLife s1 s') : LifeEffect tz op s s' new := by
  cases h with
  | same hs => exact .same (hs.trans h1)
  | later hs ht hg hd =>
    exact .later (h1.subscriptions.trans hs) (h1.tokens.trans ht) (fun u => (h1.group u).trans (hg u))
      (by rwa [h1.dbTime])
  | created hop hc => exact .created hop (hc.congr (.refl _) h1)
  | upgraded hop hk hu ha he hc => exact .upgraded hop hk hu ha he (hc.congr (.refl _) h1)
  | cancelled hk hs ht hf hd =>
    exact .cancelled hk (h1.subscriptions.trans hs) (h1.tokens.trans ht) (hf.congr h1.group) (h1.dbTime.trans hd)
  | deleted hk hs ht hf hd =>
    exact .deleted hk (h1.subscriptions.trans hs) (h1.tokens.trans ht) (hf.congr h1.group) (h1.dbTime.trans hd)
  | expired hn hs ht hf hd =>
    refine .expired hn (h1.subscriptions.trans hs) (h1.tokens.trans ht) ?_ (h1.dbTime.trans hd)
    rcases hf with ⟨hl,hv⟩ | ⟨id,last,hl,hf⟩
    · exact .inl ⟨hl,fun v => (h1.group v).trans (hv v)⟩
    · exact .inr ⟨id,last,hl,hf.congr h1.group⟩

section Parts
variable {tz : ℤ} {op : SubscriptionOp} {s s' : Store}

/-- Operations that leave orders alone. -/
lemma stepEffect_of_life (h : LifeEffect tz op s s' none) (ho : s'.orders = s.orders) : StepEffect tz op s s' [] :=
  ⟨none,h,fun o => by rw [ho]; exact .same _ rfl⟩

/-- Operations that change one order and deliver nothing. -/
lemma stepEffect_of_set {id : ℕ} {x y : SubscriptionOrder} {es : List SubscriptionEvent}
    (hx : s.orders.find? id = some x) (hl : LifeEffect tz op s s' none) (ho : s'.orders = s.orders.set id y)
    (h : OrderStep op none es id (some x) (some y)) (hes : ∀ o, deliveries o es = []) :
    StepEffect tz op s s' es := by
  refine ⟨none,hl,?_⟩
  rw [ho]
  exact orderStep_set hx h (fun o _ => hes o)

lemma review_effect {now : ℤ} {id : ℕ} {x : SubscriptionOrder} {payload m : String} {es : List SubscriptionEvent}
    {out : SubscriptionOrderOutcome} (hx : s.orders.find? id = some x) (hst : StatusMove x.status .manualReview)
    (h : toManualReview s now id x payload m = .ok (s',es,out)) : StepEffect tz op s s' es := by
  obtain ⟨s1,h1,h⟩ := bind_eq_ok.mp h
  obtain ⟨rfl,hout⟩ := Prod.mk.inj (Except.ok.inj h)
  obtain ⟨rfl,-⟩ := Prod.mk.inj hout
  obtain ⟨topUps,rfl⟩ := saveOrder_cases h1
  exact stepEffect_of_set hx (.same ⟨rfl,rfl,fun _ => rfl,rfl⟩) rfl
    (.moved hst ⟨rfl,rfl,rfl⟩ rfl) (fun _ => rfl)

/-- An existing order is delivered. -/
lemma deliver_effect {s1 : Store} {now : ℤ} {id k src : ℕ} {x y : SubscriptionOrder} {status : OrderStatus}
    {rebind : Bool} (hx : s.orders.find? id = some x) (hst : x.status = .pending ∨ x.status = .manualReview)
    (hl : LifeEffect tz op s s1 (some k)) (ho : s1.orders = s.orders)
    (h : saveOrderTx s1 id y status now rebind = .ok s') (hy : y.status = .success) (hk : y.userSubscriptionId=k) :
    StepEffect tz op s s' [.delivered id k src] := by
  obtain ⟨topUps,rfl⟩ := saveOrder_cases h
  refine ⟨some k,hl.congr ⟨rfl,rfl,fun _ => rfl,rfl⟩,?_⟩
  dsimp only
  rw [ho]
  apply orderStep_set hx
  · exact .delivered hst hy hk rfl (by rw [deliveries_delivered,if_pos rfl,deliveries_nil])
  · intro o ho
    exact deliveries_single ho

end Parts

/-! ## Delivering orders -/

/-- The subscription `k` is opened for a paid order, in place of another one if that is what was paid. -/
inductive Opened (tz : ℤ) (s : Store) (x : SubscriptionOrder) (plan : SubscriptionPlan) (s1 : Store) (k : ℕ) :
    ℕ → Prop
  | upgrade {sub : UserSubscription} (hup : x.orderType = .upgrade)
    (hsrc : upgradeSource s x.userId x.fromSubscriptionId s.dbTime = some sub)
    (hcreate : performUpgradeTx tz s s.dbTime x.userId x.fromSubscriptionId x.planId plan = .ok (s1,k)) :
    Opened tz s x plan s1 k x.fromSubscriptionId
  | new (hnew : x.orderType≠.upgrade)
    (hguard : checkActivePurchaseAllowedTx s x.userId x.planId plan s.dbTime = .ok ())
    (hcreate : createUserSubscriptionFromPlanTx tz s x.userId x.planId plan .order = .ok (s1,k)) :
    Opened tz s x plan s1 k 0

/-- The ways a payment callback for the order `x` can go. -/
inductive Completion (tz : ℤ) (s : Store) (now : ℤ) (id : ℕ) (x : SubscriptionOrder) (payload m : String) :
    Store → List SubscriptionEvent → Prop
  | settled (hst : x.status = .success ∨ x.status = .manualReview) : Completion tz s now id x payload m s []
  | review {s' : Store} {es : List SubscriptionEvent} {out : SubscriptionOrderOutcome}
    (hst : x.status = .pending ∨ x.status = .expired)
    (h : toManualReview s now id x payload m = .ok (s',es,out)) : Completion tz s now id x payload m s' es
  | delivered {plan : SubscriptionPlan} {s1 s' : Store} {k src : ℕ} (hst : x.status = .pending)
    (hplan : getSubscriptionPlanByIdTx s x.planId = .ok plan) (hopen : Opened tz s x plan s1 k src)
    (hsave : saveOrderTx s1 id (paidOrder now x payload m .success k) .success now false = .ok s') :
    Completion tz s now id x payload m s' [.delivered id k src]

section Delivery
variable {tz now : ℤ} {s s1 s' : Store} {x : SubscriptionOrder} {plan : SubscriptionPlan} {payload m : String}
  {es : List SubscriptionEvent} {out : SubscriptionOrderOutcome} {op : SubscriptionOp} {id k src : ℕ}

lemma completeUpgrade_cases (hst : x.status = .pending) (hplan : getSubscriptionPlanByIdTx s x.planId = .ok plan)
    (hup : x.orderType = .upgrade) (h : completeUpgradeOrder tz s now id x payload m plan = .ok (s',es,out)) :
    Completion tz s now id x payload m s' es := by
  unfold completeUpgradeOrder at h
  split_ifs at h with hlate
  · exact .review (.inl hst) h
  cases hsrc : upgradeSource s x.userId x.fromSubscriptionId s.dbTime with
  | none =>
    rw [hsrc] at h
    exact .review (.inl hst) h
  | some sub =>
    rw [hsrc] at h
    obtain ⟨⟨s1,k⟩,hcreate,h⟩ := bind_eq_ok.mp h
    obtain ⟨s2,hsave,h⟩ := bind_eq_ok.mp h
    simp only [Except.ok.injEq,Prod.mk.injEq] at h
    obtain ⟨rfl,rfl,-⟩ := h
    exact .delivered hst hplan (.upgrade hup hsrc hcreate) hsave

lemma completeNew_cases (hst : x.status = .pending) (hplan : getSubscriptionPlanByIdTx s x.planId = .ok plan)
    (hnew : x.orderType≠.upgrade) (h : completeNewOrder tz s now id x payload m plan = .ok (s',es,out)) :
    Completion tz s now id x payload m s' es := by
  unfold completeNewOrder at h
  cases hguard : checkActivePurchaseAllowedTx s x.userId x.planId plan s.dbTime with
  | error e =>
    rw [hguard] at h
    cases e with
    | subscriptionNotUpgradable => exact .review (.inl hst) h
    | subscriptionUpgradeOnly => exact .review (.inl hst) h
    | _ => contradiction
  | ok _ =>
  rw [hguard] at h
  dsimp only at h
  cases hcreate : createUserSubscriptionFromPlanTx tz s x.userId x.planId plan .order with
  | error e =>
    rw [hcreate] at h
    cases e with
    | subscriptionPurchaseLimitReached => exact .review (.inl hst) h
    | _ => contradiction
  | ok r =>
    obtain ⟨s1,k⟩ := r
    rw [hcreate] at h
    obtain ⟨s2,hsave,h⟩ := bind_eq_ok.mp h
    simp only [Except.ok.injEq,Prod.mk.injEq] at h
    obtain ⟨rfl,rfl,-⟩ := h
    exact .delivered hst hplan (.new hnew hguard hcreate) hsave

lemma complete_cases {tn : String} {expected : PaymentProvider}
    (h : completeSubscriptionOrder tz s now tn payload expected m = .ok (s',es,out)) :
    ∃ id x, orderByTradeNo s tn = some (id,x) ∧ Completion tz s now id x payload m s' es := by
  obtain ⟨_,-,h⟩ := bind_eq_ok.mp h
  obtain ⟨⟨id,x⟩,hx,h⟩ := bind_eq_ok.mp h
  obtain ⟨_,-,h⟩ := bind_eq_ok.mp h
  refine ⟨id,x,orFail_eq_ok.mp hx,?_⟩
  cases hst : x.status with
  | success =>
    simp only [hst,Except.ok.injEq,Prod.mk.injEq] at h
    obtain ⟨rfl,rfl,-⟩ := h
    exact .settled (.inl hst)
  | manualReview =>
    simp only [hst,Except.ok.injEq,Prod.mk.injEq] at h
    obtain ⟨rfl,rfl,-⟩ := h
    exact .settled (.inr hst)
  | expired =>
    simp only [hst] at h
    exact .review (.inr hst) h
  | failed => simp [hst] at h
  | refunded => simp [hst] at h
  | pending =>
    simp only [hst] at h
    cases hplan : getSubscriptionPlanByIdTx s x.planId with
    | error e =>
      rw [hplan] at h
      cases e with
      | recordNotFound => exact .review (.inl hst) h
      | _ => contradiction
    | ok plan =>
      rw [hplan] at h
      dsimp only at h
      split_ifs at h with hup
      · exact completeUpgrade_cases hst hplan hup h
      · exact completeNew_cases hst hplan hup h

lemma planOrMissing_ok {e : TxError} {p : ℕ} {plan : SubscriptionPlan} (h : planOrMissing s p e = .ok plan) :
    getSubscriptionPlanByIdTx s p = .ok plan := by
  unfold planOrMissing at h
  split at h
  · contradiction
  · exact h

lemma adminDeliver_cases (h : adminDeliverSubscriptionOrder tz s now id = .ok (s',es)) :
    ∃ x plan s1 k src, s.orders.find? id = some x ∧ x.status = .manualReview ∧
      getSubscriptionPlanByIdTx s x.planId = .ok plan ∧ Opened tz s x plan s1 k src ∧
      saveOrderTx s1 id { x with status := .success, userSubscriptionId := k, completeTime := now } .success now true =
        .ok s' ∧ es = [.delivered id k src] := by
  obtain ⟨_,-,h⟩ := bind_eq_ok.mp h
  obtain ⟨x,hx,h⟩ := bind_eq_ok.mp h
  obtain ⟨_,hst,h⟩ := bind_eq_ok.mp h
  obtain ⟨plan,hplan,h⟩ := bind_eq_ok.mp h
  have hfind := orFail_eq_ok.mp hx
  have hreview := require_eq_ok.mp hst
  have hp := planOrMissing_ok hplan
  split_ifs at h with hup
  · obtain ⟨sub,hsrc,h⟩ := bind_eq_ok.mp h
    obtain ⟨⟨s1,k⟩,hcreate,h⟩ := bind_eq_ok.mp h
    obtain ⟨s2,hsave,h⟩ := bind_eq_ok.mp h
    obtain ⟨rfl,rfl⟩ := Prod.mk.inj (Except.ok.inj h)
    exact ⟨x,plan,s1,k,_,hfind,hreview,hp,.upgrade hup (orFail_eq_ok.mp hsrc) hcreate,hsave,rfl⟩
  · obtain ⟨_,hguard,h⟩ := bind_eq_ok.mp h
    obtain ⟨⟨s1,k⟩,hcreate,h⟩ := bind_eq_ok.mp h
    obtain ⟨s2,hsave,h⟩ := bind_eq_ok.mp h
    obtain ⟨rfl,rfl⟩ := Prod.mk.inj (Except.ok.inj h)
    exact ⟨x,plan,s1,k,0,hfind,hreview,hp,.new hup hguard hcreate,hsave,rfl⟩

lemma Opened.life (h : Opened tz s x plan s1 k src) (hplan : getSubscriptionPlanByIdTx s x.planId = .ok plan)
    (hop : op.creation? s = orderCreation s x) : LifeEffect tz op s s1 (some k) ∧ s1.orders = s.orders := by
  rw [orderCreation,hplan] at hop
  cases h with
  | upgrade hup hsrc hcreate =>
    obtain ⟨hc,ho,-⟩ := create_cases hcreate
    obtain ⟨hk,hsub⟩ := Option.filter_eq_some_iff.mp hsrc
    obtain ⟨hu,ha,he⟩ := of_decide_eq_true hsub
    refine ⟨.upgraded ?_ hk hu ha he hc,ho⟩
    simp [hop,hup,Except.toOption]
  | new hnew _ hcreate =>
    obtain ⟨hc,ho,-⟩ := create_cases hcreate
    refine ⟨.created ?_ hc,ho⟩
    simp [hop,hnew,Except.toOption]

/-- Without a source to replace, the guard was passed. -/
lemma Opened.guarded (h : Opened tz s x plan s1 k src)
    (hsrc : upgradeSource s x.userId x.fromSubscriptionId s.dbTime = none ∨ x.orderType≠.upgrade) :
    checkActivePurchaseAllowedTx s x.userId x.planId plan s.dbTime = .ok () := by
  cases h with
  | upgrade hup hsome _ =>
    rw [hsrc.resolve_right (not_not.mpr hup)] at hsome
    contradiction
  | new _ hguard _ => exact hguard

end Delivery

/-! ## Operations -/

section Operations
variable {S : Settings} {s s' : Store} {es : List SubscriptionEvent}

/-- What a purchase from the wallet leaves. -/
theorem purchase_cases {now : ℤ} {tn : String} {u p : ℕ}
    (h : purchaseSubscriptionWithBalance S s now tn u p = .ok (s',es)) :
    ∃ plan quota k, getSubscriptionPlanByIdTx s p = .ok plan ∧ 0≤plan.priceAmount ∧
      calcSubscriptionBalanceQuota S plan.priceAmount = .ok quota ∧ Created S.timeZone s s' u p plan .balance k ∧
      s'.orders = s.orders.insert (purchaseOrder now tn u p plan.priceAmount quota) ∧
      es = [.charged s.orders.next u quota,.delivered s.orders.next k 0] ∧
      ∀ v, userQuota s'.users v = (userQuota s.users v).map (fun q => q-if u=v then quota else 0) := by
  obtain ⟨_,-,h⟩ := bind_eq_ok.mp h
  obtain ⟨plan,hplan,h⟩ := bind_eq_ok.mp h
  obtain ⟨_,-,h⟩ := bind_eq_ok.mp h
  obtain ⟨_,hprice,h⟩ := bind_eq_ok.mp h
  obtain ⟨_,-,h⟩ := bind_eq_ok.mp h
  obtain ⟨_,-,h⟩ := bind_eq_ok.mp h
  obtain ⟨quota,hquota,h⟩ := bind_eq_ok.mp h
  obtain ⟨s1,hpay,h⟩ := bind_eq_ok.mp h
  obtain ⟨⟨s2,k⟩,hcreate,h⟩ := bind_eq_ok.mp h
  obtain ⟨s3,hinsert,h⟩ := bind_eq_ok.mp h
  obtain ⟨s4,hmirror,h⟩ := bind_eq_ok.mp h
  obtain ⟨rfl,rfl⟩ := Prod.mk.inj (Except.ok.inj h)
  obtain ⟨users,rfl,hgroup,hpaid⟩ := payFromBalance_cases (calcSubscriptionBalanceQuota_bounds hquota).1 hpay
  obtain ⟨hc,ho,hq⟩ := create_cases hcreate
  obtain rfl := insertOrder_cases hinsert
  obtain ⟨topUps,rfl⟩ := upsert_cases hmirror
  refine ⟨plan,quota,k,hplan,require_eq_ok.mp hprice,hquota,?_,?_,rfl,?_⟩
  · exact hc.congr ⟨rfl,rfl,hgroup,rfl⟩ ⟨rfl,rfl,fun _ => rfl,rfl⟩
  · dsimp only at ho ⊢
    rw [ho]
  · intro v
    exact (hq v).trans (hpaid v)

lemma quoteUpgradeTx_cases {u id p : ℕ} {balance : Bool} {plan : SubscriptionPlan} {quote : SubscriptionUpgradeQuote}
    (h : quoteUpgradeTx s u id p balance = .ok (plan,quote)) :
    ∃ sub, s.subscriptions.find? id = some sub ∧ sub.userId=u ∧ getSubscriptionPlanByIdTx s p = .ok plan ∧
      quoteUpgradeLocked id sub p plan s.dbTime = .ok quote := by
  obtain ⟨sub,hsub,h⟩ := bind_eq_ok.mp h
  obtain ⟨plan',hplan,h⟩ := bind_eq_ok.mp h
  obtain ⟨_,-,h⟩ := bind_eq_ok.mp h
  obtain ⟨_,-,h⟩ := bind_eq_ok.mp h
  obtain ⟨quote',hquote,h⟩ := bind_eq_ok.mp h
  obtain ⟨rfl,rfl⟩ := Prod.mk.inj (Except.ok.inj h)
  obtain ⟨hk,hu⟩ := Option.filter_eq_some_iff.mp (orFail_eq_ok.mp hsub)
  exact ⟨sub,hk,of_decide_eq_true hu,toOption_eq_some.mp (orFail_eq_ok.mp hplan),hquote⟩

/-- What an upgrade from the wallet leaves. -/
theorem upgrade_cases {now : ℤ} {tn : String} {u id p : ℕ}
    (h : upgradeSubscriptionWithBalance S s now tn u id p = .ok (s',es)) :
    ∃ plan quote quota sub k, s.subscriptions.find? id = some sub ∧ sub.userId=u ∧
      getSubscriptionPlanByIdTx s p = .ok plan ∧ quoteUpgradeLocked id sub p plan s.dbTime = .ok quote ∧
      calcSubscriptionBalanceQuota S quote.amountDue = .ok quota ∧
      Created S.timeZone (disableTokensBySubscriptionIdsTx (cancelSubscription s id s.dbTime) [id]) s' u p plan
        .upgrade k ∧
      s'.orders = (expirePendingUpgradeOrdersTx s id now).orders.insert (upgradeOrder now tn u p k id quote quota) ∧
      es = [.charged s.orders.next u quota,.delivered s.orders.next k id] ∧
      ∀ v, userQuota s'.users v = (userQuota s.users v).map (fun q => q-if u=v then quota else 0) := by
  obtain ⟨_,-,h⟩ := bind_eq_ok.mp h
  dsimp only at h
  obtain ⟨⟨plan,quote⟩,hquote,h⟩ := bind_eq_ok.mp h
  obtain ⟨quota,hquota,h⟩ := bind_eq_ok.mp h
  obtain ⟨s2,hpay,h⟩ := bind_eq_ok.mp h
  obtain ⟨⟨s3,k⟩,hcreate,h⟩ := bind_eq_ok.mp h
  obtain ⟨s4,hinsert,h⟩ := bind_eq_ok.mp h
  obtain ⟨s5,hmirror,h⟩ := bind_eq_ok.mp h
  obtain ⟨rfl,rfl⟩ := Prod.mk.inj (Except.ok.inj h)
  obtain ⟨sub,hk,hu,hplan,hq⟩ := quoteUpgradeTx_cases hquote
  obtain ⟨users,rfl,hgroup,hpaid⟩ := payFromBalance_cases (calcSubscriptionBalanceQuota_bounds hquota).1 hpay
  obtain ⟨hc,ho,hqs⟩ := create_cases hcreate
  obtain rfl := insertOrder_cases hinsert
  obtain ⟨topUps,rfl⟩ := upsert_cases hmirror
  refine ⟨plan,quote,quota,sub,k,hk,hu,hplan,hq,hquota,?_,?_,rfl,?_⟩
  · have hpaid : SameLife s { expirePendingUpgradeOrdersTx s id now with users := users } := ⟨rfl,rfl,hgroup,rfl⟩
    exact hc.congr (hpaid.cancel id s.dbTime) ⟨rfl,rfl,fun _ => rfl,rfl⟩
  · dsimp only at ho ⊢
    rw [ho]
    rfl
  · intro v
    exact (hqs v).trans (hpaid v)

lemma revoke_cases (S : Settings) (op : SubscriptionOp) {order : SubscriptionOrder} {now : ℤ} {b : Bool} {s1 : Store}
    (h : revokeOrderSubscription s order now = .ok (s1,b)) :
    LifeEffect S.timeZone op s s1 none ∧ s1.orders = s.orders ∧
      (∀ v, userQuota s1.users v = userQuota s.users v) ∧
      ∀ sub, s1.subscriptions.find? order.userSubscriptionId = some sub → sub.status≠.active := by
  unfold revokeOrderSubscription at h
  cases hk : s.subscriptions.find? order.userSubscriptionId with
  | none =>
    rw [hk] at h
    obtain ⟨rfl,-⟩ := Prod.mk.inj (Except.ok.inj h)
    exact ⟨.same (.refl _),rfl,fun _ => rfl,fun sub hs => by rw [hk] at hs; contradiction⟩
  | some sub =>
    rw [hk] at h
    dsimp only at h
    split_ifs at h with ha
    · obtain ⟨⟨s2,g⟩,hi,h⟩ := bind_eq_ok.mp h
      obtain ⟨rfl,-⟩ := Prod.mk.inj (Except.ok.inj h)
      obtain ⟨hl,hs,ho,hq⟩ := invalidate_effect S.timeZone op hk hi
      refine ⟨hl,ho,hq,?_⟩
      intro sub' hs'
      rw [hs] at hs'
      simp only [cancelSubscription,Table.find?_updateWhere,hk,Option.map_some,Option.some.injEq] at hs'
      subst sub'
      simp
    · obtain ⟨rfl,-⟩ := Prod.mk.inj (Except.ok.inj h)
      refine ⟨.same (.refl _),rfl,fun _ => rfl,?_⟩
      intro sub' hs'
      obtain rfl := Option.some.inj (hk.symm.trans hs')
      exact ha

/-- A credit raises the wallet, when there is anything to credit, and leaves the group. -/
lemma credit_cases (s : Store) (u : ℕ) (n : ℤ) :
    ∃ users, (if 0<n then creditUser s u n else s) = { s with users := users } ∧
      (∀ v, userGroup users v = userGroup s.users v) ∧
      ∀ v, userQuota users v = (userQuota s.users v).map (fun q => q+if u=v ∧ 0<n then n else 0) := by
  split_ifs with hn
  · refine ⟨s.users.updateWhere (fun r => r.1=u) (fun user => { user with quota := user.quota+n }),rfl,?_,?_⟩
    · exact fun v => userGroup_quota (fun _ => rfl)
    · intro v
      simp only [hn,and_true]
      exact userQuota_quota (n := n) (fun _ => rfl)
  · exact ⟨s.users,rfl,fun _ => rfl,fun v => by simp [hn]⟩

/-- What a refund leaves: nothing new when the order was refunded before. -/
theorem adminRefund_order_cases (op : SubscriptionOp) {now : ℤ} {id : ℕ}
    (h : adminRefundSubscriptionOrder S s now id = .ok (s',es)) :
    ∃ order, s.orders.find? id = some order ∧
      ((order.status = .refunded ∧ s' = s ∧ es = []) ∨
        (order.status = .success ∧ LifeEffect S.timeZone op s s' none ∧
          (∀ sub, s'.subscriptions.find? order.userSubscriptionId = some sub → sub.status≠.active) ∧
          s'.orders = s.orders.set id { order with status := .refunded, completeTime := now } ∧
          ∃ charge value, balanceCredit order = .ok charge ∧ upgradeCredit S order = .ok value ∧
            es = (if 0 < charge+value then [.credited id order.userId (charge+value)] else []) ∧
            ∀ v, userQuota s'.users v = (userQuota s.users v).map
              (fun q => q+if order.userId=v ∧ 0 < charge+value then charge+value else 0))) := by
  obtain ⟨_,-,h⟩ := bind_eq_ok.mp h
  obtain ⟨order,ho,h⟩ := bind_eq_ok.mp h
  refine ⟨order,orFail_eq_ok.mp ho,?_⟩
  by_cases hst : order.status = .refunded
  · rw [if_pos hst] at h
    obtain ⟨rfl,rfl⟩ := Prod.mk.inj (Except.ok.inj h)
    exact .inl ⟨hst,rfl,rfl⟩
  rw [if_neg hst] at h
  obtain ⟨_,hsucc,h⟩ := bind_eq_ok.mp h
  obtain ⟨_,-,h⟩ := bind_eq_ok.mp h
  obtain ⟨⟨s1,b⟩,hrevoke,h⟩ := bind_eq_ok.mp h
  obtain ⟨charge,hcharge,h⟩ := bind_eq_ok.mp h
  obtain ⟨value,hvalue,h⟩ := bind_eq_ok.mp h
  dsimp only at h
  obtain ⟨s3,hsave,h⟩ := bind_eq_ok.mp h
  obtain ⟨rfl,rfl⟩ := Prod.mk.inj (Except.ok.inj h)
  obtain ⟨hl,horders,hquota,hinactive⟩ := revoke_cases S op hrevoke
  obtain ⟨users,hcredit,hgroup,hq⟩ := credit_cases s1 order.userId (charge+value)
  rw [hcredit] at hsave
  obtain ⟨topUps,rfl⟩ := saveOrder_cases hsave
  refine .inr ⟨require_eq_ok.mp hsucc,hl.congr ⟨rfl,rfl,hgroup,rfl⟩,hinactive,?_,charge,value,hcharge,hvalue,rfl,?_⟩
  · dsimp only
    rw [horders]
  · intro v
    rw [←hquota v]
    exact hq v

lemma complete_effect {now : ℤ} {tn payload m : String} {expected : PaymentProvider} {out : SubscriptionOrderOutcome}
    (h : completeSubscriptionOrder S.timeZone s now tn payload expected m = .ok (s',es,out)) :
    StepEffect S.timeZone (.complete now tn payload expected m) s s' es := by
  obtain ⟨id,x,htn,hc⟩ := complete_cases h
  have hfind := orderByTradeNo_find htn
  cases hc with
  | settled => exact stepEffect_of_life (.same (.refl _)) rfl
  | review hst hreview =>
    apply review_effect hfind _ hreview
    rcases hst with hst | hst <;> rw [hst]
    · exact .payLate
    · exact .payExpired
  | delivered hst hplan hopen hsave =>
    have hop : (SubscriptionOp.complete now tn payload expected m).creation? s = orderCreation s x := by
      simp [SubscriptionOp.creation?,htn]
    obtain ⟨hl,ho⟩ := hopen.life hplan hop
    exact deliver_effect hfind (.inl hst) hl ho hsave rfl rfl

lemma adminDeliver_effect {now : ℤ} {id : ℕ} (h : adminDeliverSubscriptionOrder S.timeZone s now id = .ok (s',es)) :
    StepEffect S.timeZone (.adminDeliver now id) s s' es := by
  obtain ⟨x,plan,s1,k,src,hfind,hst,hplan,hopen,hsave,rfl⟩ := adminDeliver_cases h
  have hop : (SubscriptionOp.adminDeliver now id).creation? s = orderCreation s x := by
    simp [SubscriptionOp.creation?,hfind]
  obtain ⟨hl,ho⟩ := hopen.life hplan hop
  exact deliver_effect hfind (.inr hst) hl ho hsave rfl rfl

/-- An order that is delivered when it is created. -/
lemma bought_effect {op : SubscriptionOp} {t : Table SubscriptionOrder} {y : SubscriptionOrder} {k src : ℕ}
    (hl : LifeEffect S.timeZone op s s' (some k)) (ht : t.next=s.orders.next)
    (hold : ∀ o, deliveries o es = [] → OrderStep op (some k) es o (s.orders.find? o) (t.find? o))
    (ho : s'.orders = t.insert y) (hy : y.status = .success) (hk : y.userSubscriptionId=k ∨ isBalancePurchase y)
    (hes : ∀ o, deliveries o es = deliveries o [.delivered s.orders.next k src]) :
    StepEffect S.timeZone op s s' es := by
  refine ⟨some k,hl,?_⟩
  rw [ho]
  apply orderStep_insert ht hold
  · refine .bought hy hk rfl ?_
    rw [hes,deliveries_delivered,if_pos rfl,deliveries_nil]
  · intro o ho
    rw [hes]
    exact deliveries_single ho

/-- An order that waits for its payment. -/
lemma requested_effect {op : SubscriptionOp} {t : Table SubscriptionOrder} {y : SubscriptionOrder}
    (hl : LifeEffect S.timeZone op s s' none) (ht : t.next=s.orders.next)
    (hold : ∀ o, deliveries o [] = [] → OrderStep op none [] o (s.orders.find? o) (t.find? o))
    (ho : s'.orders = t.insert y) (hy : y.status = .pending) : StepEffect S.timeZone op s s' [] := by
  refine ⟨none,hl,?_⟩
  rw [ho]
  apply orderStep_insert ht hold
  · exact .requested hy rfl
  · exact fun _ _ => rfl

lemma redeem_effect {now : ℤ} {tn : String} {u p r : ℕ}
    (h : redeemSubscriptionTx S.timeZone s now tn u p r = .ok (s',es)) :
    StepEffect S.timeZone (.redeem now tn u p r) s s' es := by
  obtain ⟨plan,hplan,h⟩ := bind_eq_ok.mp h
  obtain ⟨_,-,h⟩ := bind_eq_ok.mp h
  obtain ⟨_,-,h⟩ := bind_eq_ok.mp h
  obtain ⟨⟨s1,k⟩,hcreate,h⟩ := bind_eq_ok.mp h
  obtain ⟨s2,hinsert,h⟩ := bind_eq_ok.mp h
  obtain ⟨s3,hmirror,h⟩ := bind_eq_ok.mp h
  obtain ⟨rfl,rfl⟩ := Prod.mk.inj (Except.ok.inj h)
  obtain ⟨hc,ho,-⟩ := create_cases hcreate
  obtain rfl := insertOrder_cases hinsert
  obtain ⟨topUps,rfl⟩ := upsert_cases hmirror
  have hp := planOrMissing_ok hplan
  have hop : (SubscriptionOp.redeem now tn u p r).creation? s = some ⟨u,p,plan,0⟩ := by
    simp [SubscriptionOp.creation?,hp,Except.toOption]
  refine bought_effect (.created hop (hc.congr (.refl _) ⟨rfl,rfl,fun _ => rfl,rfl⟩)) rfl
    (fun o hes => .same _ hes) (by dsimp only; rw [ho]) rfl (.inl rfl) (fun _ => rfl)

lemma purchase_effect {now : ℤ} {tn : String} {u p : ℕ}
    (h : purchaseSubscriptionWithBalance S s now tn u p = .ok (s',es)) :
    StepEffect S.timeZone (.purchaseWithBalance now tn u p) s s' es := by
  obtain ⟨plan,quota,k,hplan,-,-,hc,ho,rfl,-⟩ := purchase_cases h
  have hop : (SubscriptionOp.purchaseWithBalance now tn u p).creation? s = some ⟨u,p,plan,0⟩ := by
    simp [SubscriptionOp.creation?,hplan,Except.toOption]
  exact bought_effect (.created hop hc) rfl (fun o hes => .same _ hes) ho rfl (.inr ⟨rfl,rfl,rfl⟩) (fun _ => rfl)

lemma upgrade_effect {now : ℤ} {tn : String} {u id p : ℕ}
    (h : upgradeSubscriptionWithBalance S s now tn u id p = .ok (s',es)) :
    StepEffect S.timeZone (.upgradeWithBalance now tn u id p) s s' es := by
  obtain ⟨plan,quote,quota,sub,k,hk,hu,hplan,hquote,-,hc,ho,rfl,-⟩ := upgrade_cases h
  obtain ⟨ha,he,-⟩ := quoteUpgradeLocked_ok hquote
  have hop : (SubscriptionOp.upgradeWithBalance now tn u id p).creation? s = some ⟨u,p,plan,id⟩ := by
    simp [SubscriptionOp.creation?,hplan,Except.toOption]
  exact bought_effect (t := (expirePendingUpgradeOrdersTx s id now).orders) (.upgraded hop hk hu ha he hc) rfl
    (fun o hes => orderStep_expirePending id now hes) ho rfl (.inl rfl) (fun _ => rfl)

lemma requestEpay_effect {seen : Store} {now : ℤ} {tn m : String} {u p : ℕ} {op : SubscriptionOp}
    (h : subscriptionRequestEpay seen s now tn m u p = .ok s') : StepEffect S.timeZone op s s' [] := by
  obtain ⟨_,-,h⟩ := bind_eq_ok.mp h
  obtain ⟨_,-,h⟩ := bind_eq_ok.mp h
  obtain ⟨_,-,h⟩ := bind_eq_ok.mp h
  obtain ⟨_,-,h⟩ := bind_eq_ok.mp h
  obtain ⟨_,-,h⟩ := bind_eq_ok.mp h
  obtain rfl := insertOrder_cases h
  exact requested_effect (t := s.orders) (.same ⟨rfl,rfl,fun _ => rfl,rfl⟩) rfl (fun o hes => .same _ hes) rfl rfl

lemma requestUpgradeEpay_effect {now : ℤ} {tn m : String} {u id p : ℕ} {op : SubscriptionOp}
    (h : createSubscriptionUpgradeEpayOrder s now tn m u id p = .ok s') : StepEffect S.timeZone op s s' [] := by
  obtain ⟨_,-,h⟩ := bind_eq_ok.mp h
  dsimp only at h
  obtain ⟨_,-,h⟩ := bind_eq_ok.mp h
  obtain ⟨_,-,h⟩ := bind_eq_ok.mp h
  obtain rfl := insertOrder_cases h
  exact requested_effect (t := (expirePendingUpgradeOrdersTx s id now).orders) (.same ⟨rfl,rfl,fun _ => rfl,rfl⟩) rfl
    (fun o hes => orderStep_expirePending id now hes) rfl rfl

lemma expireOrder_effect {now : ℤ} {tn : String} {expected : PaymentProvider} {op : SubscriptionOp}
    (h : expireSubscriptionOrder s now tn expected = .ok s') : StepEffect S.timeZone op s s' [] := by
  obtain ⟨_,-,h⟩ := bind_eq_ok.mp h
  obtain ⟨⟨id,x⟩,hx,h⟩ := bind_eq_ok.mp h
  obtain ⟨_,-,h⟩ := bind_eq_ok.mp h
  split_ifs at h with hst
  · obtain rfl := Except.ok.inj h
    exact stepEffect_of_life (.same (.refl _)) rfl
  · obtain rfl := Except.ok.inj h
    rw [ne_eq,not_not] at hst
    exact stepEffect_of_set (orderByTradeNo_find (orFail_eq_ok.mp hx)) (.same ⟨rfl,rfl,fun _ => rfl,rfl⟩) rfl
      (.moved (by rw [hst]; exact .expire) ⟨rfl,rfl,rfl⟩ rfl) (fun _ => rfl)

lemma adminExpire_effect {now : ℤ} {id : ℕ} {op : SubscriptionOp}
    (h : adminExpireSubscriptionOrder s now id = .ok s') : StepEffect S.timeZone op s s' [] := by
  obtain ⟨_,-,h⟩ := bind_eq_ok.mp h
  obtain ⟨x,hx,h⟩ := bind_eq_ok.mp h
  split_ifs at h with hst
  · obtain rfl := Except.ok.inj h
    exact stepEffect_of_life (.same (.refl _)) rfl
  · obtain ⟨_,hp,h⟩ := bind_eq_ok.mp h
    obtain rfl := Except.ok.inj h
    exact stepEffect_of_set (orFail_eq_ok.mp hx) (.same ⟨rfl,rfl,fun _ => rfl,rfl⟩) rfl
      (.moved (by rw [require_eq_ok.mp hp]; exact .expire) ⟨rfl,rfl,rfl⟩ rfl) (fun _ => rfl)

lemma adminClose_effect {now : ℤ} {id : ℕ} {op : SubscriptionOp}
    (h : adminCloseSubscriptionOrder s now id = .ok s') : StepEffect S.timeZone op s s' [] := by
  obtain ⟨_,-,h⟩ := bind_eq_ok.mp h
  obtain ⟨x,hx,h⟩ := bind_eq_ok.mp h
  split_ifs at h with hst
  · obtain rfl := Except.ok.inj h
    exact stepEffect_of_life (.same (.refl _)) rfl
  · obtain ⟨_,hp,h⟩ := bind_eq_ok.mp h
    obtain ⟨topUps,rfl⟩ := saveOrder_cases h
    exact stepEffect_of_set (orFail_eq_ok.mp hx) (.same ⟨rfl,rfl,fun _ => rfl,rfl⟩) rfl
      (.moved (by rw [require_eq_ok.mp hp]; exact .close) ⟨rfl,rfl,rfl⟩ rfl) (fun _ => rfl)

lemma adminRefund_effect {now : ℤ} {id : ℕ} (h : adminRefundSubscriptionOrder S s now id = .ok (s',es)) :
    StepEffect S.timeZone (.adminRefund now id) s s' es := by
  obtain ⟨x,hx,⟨-,rfl,rfl⟩ | ⟨hst,hl,-,ho,charge,value,-,-,rfl,-⟩⟩ :=
    adminRefund_order_cases (.adminRefund now id) h
  · exact stepEffect_of_life (.same (.refl _)) rfl
  · have hes : ∀ o, deliveries o (if 0 < charge+value then [.credited id x.userId (charge+value)] else []) = [] := by
      intro o
      split_ifs <;> rfl
    exact stepEffect_of_set hx hl ho (.refunded rfl hst rfl ⟨rfl,rfl,rfl⟩ (hes id)) hes

lemma adminBind_effect {seen : Store} {u p k : ℕ} (h : adminBindSubscription S.timeZone seen s u p = .ok (s',k)) :
    StepEffect S.timeZone (.adminBind seen u p) s s' [] := by
  obtain ⟨_,-,h⟩ := bind_eq_ok.mp h
  obtain ⟨plan,hplan,h⟩ := bind_eq_ok.mp h
  obtain ⟨hc,ho,-⟩ := create_cases h
  have hop : (SubscriptionOp.adminBind seen u p).creation? s = some ⟨u,p,plan,0⟩ := by
    simp [SubscriptionOp.creation?,hplan,Except.toOption]
  exact ⟨some k,.created hop hc,fun o => by rw [ho]; exact .same _ rfl⟩

/-- Every operation has one of the effects. -/
theorem stepEffect_of_step {op : SubscriptionOp} (h : (subscriptionSystem S).step s op = some (s',es)) :
    StepEffect S.timeZone op s s' es := by
  cases op with
  | purchaseWithBalance now tn u p => exact purchase_effect (toOption_eq_some.mp h)
  | upgradeWithBalance now tn u k p => exact upgrade_effect (toOption_eq_some.mp h)
  | requestEpay seen now tn m u p =>
    obtain ⟨s1,hs,heq⟩ := Option.map_eq_some_iff.mp h
    obtain ⟨rfl,rfl⟩ := Prod.mk.inj heq
    exact requestEpay_effect (toOption_eq_some.mp hs)
  | requestUpgradeEpay now tn m u k p =>
    obtain ⟨s1,hs,heq⟩ := Option.map_eq_some_iff.mp h
    obtain ⟨rfl,rfl⟩ := Prod.mk.inj heq
    exact requestUpgradeEpay_effect (toOption_eq_some.mp hs)
  | complete now tn payload expected m =>
    obtain ⟨⟨s1,es1,out⟩,hs,heq⟩ := Option.map_eq_some_iff.mp h
    obtain ⟨rfl,rfl⟩ := Prod.mk.inj heq
    exact complete_effect (toOption_eq_some.mp hs)
  | expireOrder now tn expected =>
    obtain ⟨s1,hs,heq⟩ := Option.map_eq_some_iff.mp h
    obtain ⟨rfl,rfl⟩ := Prod.mk.inj heq
    exact expireOrder_effect (toOption_eq_some.mp hs)
  | adminDeliver now id => exact adminDeliver_effect (toOption_eq_some.mp h)
  | adminClose now id =>
    obtain ⟨s1,hs,heq⟩ := Option.map_eq_some_iff.mp h
    obtain ⟨rfl,rfl⟩ := Prod.mk.inj heq
    exact adminClose_effect (toOption_eq_some.mp hs)
  | adminExpire now id =>
    obtain ⟨s1,hs,heq⟩ := Option.map_eq_some_iff.mp h
    obtain ⟨rfl,rfl⟩ := Prod.mk.inj heq
    exact adminExpire_effect (toOption_eq_some.mp hs)
  | adminRefund now id => exact adminRefund_effect (toOption_eq_some.mp h)
  | redeem now tn u p r => exact redeem_effect (toOption_eq_some.mp h)
  | adminBind seen u p =>
    obtain ⟨⟨s1,k⟩,hs,heq⟩ := Option.map_eq_some_iff.mp h
    obtain ⟨rfl,rfl⟩ := Prod.mk.inj heq
    exact adminBind_effect (toOption_eq_some.mp hs)
  | adminInvalidate now k =>
    obtain ⟨⟨s1,g⟩,hs,heq⟩ := Option.map_eq_some_iff.mp h
    obtain ⟨rfl,rfl⟩ := Prod.mk.inj heq
    obtain ⟨_,-,hs⟩ := bind_eq_ok.mp (toOption_eq_some.mp hs)
    obtain ⟨sub,hk,hs⟩ := bind_eq_ok.mp hs
    obtain ⟨hl,-,ho,-⟩ := invalidate_effect _ _ (orFail_eq_ok.mp hk) hs
    exact stepEffect_of_life hl ho
  | adminDelete now k =>
    obtain ⟨⟨s1,g⟩,hs,heq⟩ := Option.map_eq_some_iff.mp h
    obtain ⟨rfl,rfl⟩ := Prod.mk.inj heq
    obtain ⟨hl,ho⟩ := delete_effect (toOption_eq_some.mp hs)
    exact stepEffect_of_life hl ho
  | expireDue now u =>
    change (if now ≤ s.dbTime then _ else none) = _ at h
    split_ifs at h with hnow
    obtain ⟨⟨s1,g⟩,hs,heq⟩ := Option.map_eq_some_iff.mp h
    obtain ⟨rfl,rfl⟩ := Prod.mk.inj heq
    obtain ⟨hl,ho⟩ := expireDue_effect hnow (toOption_eq_some.mp hs)
    exact stepEffect_of_life hl ho
  | catalogue plans cache =>
    obtain ⟨rfl,rfl⟩ := Prod.mk.inj (Option.some.inj h)
    exact stepEffect_of_life (.same ⟨rfl,rfl,fun _ => rfl,rfl⟩) rfl
  | tick time =>
    change (if s.dbTime≤time then _ else none) = _ at h
    split_ifs at h with ht
    obtain ⟨rfl,rfl⟩ := Prod.mk.inj (Option.some.inj h)
    exact stepEffect_of_life (.later rfl rfl (fun _ => rfl) ht) rfl

end Operations

end Tierflow
