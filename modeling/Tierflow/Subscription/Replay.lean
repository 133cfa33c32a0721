import Tierflow.Subscription.Mirror
import Tierflow.Subscription.OrderStatus

/-! Callbacks that come again. A gateway repeats a payment callback until it is answered, so that what a call
for an order does that was completed before decides whether the gateway ever stops. -/
namespace Tierflow
open TxSystem

/-! ## What stays of an order -/

/-- An order keeps its trade number and its provider; only an administrator closes it or refunds it. -/
structure RowKept (op : SubscriptionOp) (o : ℕ) (x y : SubscriptionOrder) : Prop where
  tradeNo : y.tradeNo=x.tradeNo
  provider : y.paymentProvider=x.paymentProvider
  failed : y.status = .failed → x.status = .failed ∨ ∃ now, op = .adminClose now o
  refunded : y.status = .refunded → x.status = .refunded ∨ ∃ now, op = .adminRefund now o

lemma RowKept.refl (op : SubscriptionOp) (o : ℕ) (x : SubscriptionOrder) : RowKept op o x x := ⟨rfl,rfl,.inl,.inl⟩

lemma RowKept.trans {op : SubscriptionOp} {o : ℕ} {x y z : SubscriptionOrder} (h : RowKept op o x y)
    (h' : RowKept op o y z) : RowKept op o x z :=
  ⟨h'.tradeNo.trans h.tradeNo,h'.provider.trans h.provider,
    fun hz => (h'.failed hz).elim h.failed .inr,fun hz => (h'.refunded hz).elim h.refunded .inr⟩

lemma RowKept.still {op : SubscriptionOp} {o : ℕ} {x y : SubscriptionOrder} (htn : y.tradeNo=x.tradeNo)
    (hp : y.paymentProvider=x.paymentProvider) (hf : y.status≠.failed) (hr : y.status≠.refunded) : RowKept op o x y :=
  ⟨htn,hp,fun h => absurd h hf,fun h => absurd h hr⟩

/-- Rows are changed in place, and rows are added. -/
inductive OrdersKept (op : SubscriptionOp) : Table SubscriptionOrder → Table SubscriptionOrder → Prop
  | mapped {t : Table SubscriptionOrder} {f : ℕ → SubscriptionOrder → SubscriptionOrder} :
    (∀ o x, t.find? o = some x → RowKept op o x (f o x)) → OrdersKept op t (t.mapRows f)
  | created (t : Table SubscriptionOrder) (y : SubscriptionOrder) : OrdersKept op t (t.insert y)
  | trans {t u v : Table SubscriptionOrder} : OrdersKept op t u → OrdersKept op u v → OrdersKept op t v

section Kept
variable {op : SubscriptionOp} {t t' : Table SubscriptionOrder}

lemma OrdersKept.refl (op : SubscriptionOp) (t : Table SubscriptionOrder) : OrdersKept op t t := by
  have h : t.mapRows (fun _ x => x) = t := by
    cases t
    simp [Table.mapRows]
  have hkept : OrdersKept op t (t.mapRows (fun _ x => x)) := .mapped (fun o x _ => .refl op o x)
  rwa [h] at hkept

lemma OrdersKept.saved {o : ℕ} {x y : SubscriptionOrder} (hx : t.find? o = some x) (h : RowKept op o x y) :
    OrdersKept op t (t.set o y) := by
  apply OrdersKept.mapped
  intro k z hz
  split_ifs with hk
  · subst k
    obtain rfl := Option.some.inj (hx.symm.trans hz)
    exact h
  · exact .refl op k z

lemma OrdersKept.calledOff (s : Store) (k : ℕ) (now : ℤ) :
    OrdersKept op s.orders (expirePendingUpgradeOrdersTx s k now).orders := by
  have h : OrdersKept op s.orders (s.orders.mapRows (fun _ order =>
      if order.fromSubscriptionId=k ∧ order.orderType = .upgrade ∧ order.status = .pending then
        { order with status := .expired, completeTime := now }
      else order)) := by
    apply OrdersKept.mapped
    intro o x _
    split_ifs
    · exact .still rfl rfl nofun nofun
    · exact .refl op o x
  simpa [expirePendingUpgradeOrdersTx,Table.updateWhere] using h

/-- The order of a trade number stays the order of the trade number. -/
lemma OrdersKept.first? (h : OrdersKept op t t') {tn : String} {o : ℕ} {x : SubscriptionOrder}
    (hx : t.first? (fun r => r.2.tradeNo=tn) = some (o,x)) :
    ∃ y, t'.first? (fun r => r.2.tradeNo=tn) = some (o,y) ∧ RowKept op o x y := by
  induction h generalizing x with
  | @mapped t f hf =>
    have hsame : ∀ r∈t.rows, decide ((f r.1 r.2).tradeNo=tn) = decide (r.2.tradeNo=tn) := by
      intro r hr
      rw [(hf r.1 r.2 ((t.mem_rows_iff r).mp hr)).tradeNo]
    refine ⟨f o x,?_,hf o x (Table.first?_some hx).1⟩
    change (t.rows.map (fun r => (r.1,f r.1 r.2))).find? (fun r => r.2.tradeNo=tn) = _
    have hfind : t.rows.find? ((fun r => decide (r.2.tradeNo=tn)) ∘ fun r => (r.1,f r.1 r.2)) =
        t.rows.find? (fun r => decide (r.2.tradeNo=tn)) := by
      apply List.find?_congr
      exact hsame
    have hx' : t.rows.find? (fun r => decide (r.2.tradeNo=tn)) = some (o,x) := hx
    rw [List.find?_map,hfind,hx']
    rfl
  | created t y =>
    refine ⟨x,?_,.refl op o x⟩
    rw [Table.first?_insert,hx]
    rfl
  | trans _ _ ih ih' =>
    obtain ⟨y,hy,hk⟩ := ih hx
    obtain ⟨z,hz,hk'⟩ := ih' hy
    exact ⟨z,hz,hk.trans hk'⟩

end Kept

/-! ## Operations -/

section Operations
variable {op : SubscriptionOp} {s s1 s' : Store} {tz : ℤ}

lemma save_kept {id : ℕ} {x y : SubscriptionOrder} {status : OrderStatus} {now : ℤ} {rebind : Bool}
    (hx : s.orders.find? id = some x) (h1 : s1.orders = s.orders) (h : saveOrderTx s1 id y status now rebind = .ok s')
    (hy : RowKept op id x y) : OrdersKept op s.orders s'.orders := by
  obtain ⟨topUps,rfl⟩ := saveOrder_cases h
  dsimp only
  rw [h1]
  exact .saved hx hy

lemma insert_kept {y : SubscriptionOrder} (h1 : s1.orders = s.orders) (h : insertOrder s1 y = .ok s') :
    OrdersKept op s.orders s'.orders := by
  rw [insertOrder_cases h]
  dsimp only
  rw [h1]
  exact .created s.orders y

lemma complete_kept {now : ℤ} {tn payload m : String} {expected : PaymentProvider} {es : List SubscriptionEvent}
    {out : SubscriptionOrderOutcome} (h : completeSubscriptionOrder tz s now tn payload expected m = .ok (s',es,out)) :
    OrdersKept op s.orders s'.orders := by
  obtain ⟨id,x,htn,hc⟩ := complete_cases h
  have hfind := orderByTradeNo_find htn
  cases hc with
  | settled => exact .refl op _
  | review _ hreview =>
    obtain ⟨s1,h1,hreview⟩ := bind_eq_ok.mp hreview
    obtain ⟨rfl,-⟩ := Prod.mk.inj (Except.ok.inj hreview)
    exact save_kept hfind rfl h1 (.still rfl rfl nofun nofun)
  | delivered _ _ hopen hsave =>
    exact save_kept hfind hopen.books.orders hsave (.still rfl rfl nofun nofun)

lemma expireOrder_kept {now : ℤ} {tn : String} {expected : PaymentProvider}
    (h : expireSubscriptionOrder s now tn expected = .ok s') : OrdersKept op s.orders s'.orders := by
  obtain ⟨_,-,h⟩ := bind_eq_ok.mp h
  obtain ⟨⟨id,x⟩,hx,h⟩ := bind_eq_ok.mp h
  obtain ⟨_,-,h⟩ := bind_eq_ok.mp h
  split_ifs at h
  · obtain rfl := Except.ok.inj h
    exact .refl op _
  · obtain rfl := Except.ok.inj h
    exact .saved (orderByTradeNo_find (orFail_eq_ok.mp hx)) (.still rfl rfl nofun nofun)

lemma adminExpire_kept {now : ℤ} {id : ℕ} (h : adminExpireSubscriptionOrder s now id = .ok s') :
    OrdersKept op s.orders s'.orders := by
  obtain ⟨_,-,h⟩ := bind_eq_ok.mp h
  obtain ⟨x,hx,h⟩ := bind_eq_ok.mp h
  split_ifs at h
  · obtain rfl := Except.ok.inj h
    exact .refl op _
  · obtain ⟨_,-,h⟩ := bind_eq_ok.mp h
    obtain rfl := Except.ok.inj h
    exact .saved (orFail_eq_ok.mp hx) (.still rfl rfl (by rintro ⟨⟩) (by rintro ⟨⟩))

lemma adminClose_kept {now : ℤ} {id : ℕ} (h : adminCloseSubscriptionOrder s now id = .ok s') :
    OrdersKept (.adminClose now id) s.orders s'.orders := by
  obtain ⟨_,-,h⟩ := bind_eq_ok.mp h
  obtain ⟨x,hx,h⟩ := bind_eq_ok.mp h
  split_ifs at h
  · obtain rfl := Except.ok.inj h
    exact .refl _ _
  · obtain ⟨_,-,h⟩ := bind_eq_ok.mp h
    exact save_kept (orFail_eq_ok.mp hx) rfl h ⟨rfl,rfl,fun _ => .inr ⟨now,rfl⟩,by rintro ⟨⟩⟩

lemma adminDeliver_kept {now : ℤ} {id : ℕ} {es : List SubscriptionEvent}
    (h : adminDeliverSubscriptionOrder tz s now id = .ok (s',es)) : OrdersKept op s.orders s'.orders := by
  obtain ⟨x,_,_,_,_,hfind,-,-,hopen,hsave,-⟩ := adminDeliver_cases h
  exact save_kept hfind hopen.books.orders hsave (.still rfl rfl nofun nofun)

lemma adminRefund_kept {S : Settings} {now : ℤ} {id : ℕ} {es : List SubscriptionEvent}
    (h : adminRefundSubscriptionOrder S s now id = .ok (s',es)) :
    OrdersKept (.adminRefund now id) s.orders s'.orders := by
  obtain ⟨x,hx,⟨-,rfl,-⟩ | ⟨-,-,-,ho,-⟩⟩ := adminRefund_order_cases (.adminRefund now id) h
  · exact .refl _ _
  · rw [ho]
    exact .saved hx ⟨rfl,rfl,nofun,fun _ => .inr ⟨now,rfl⟩⟩

/-- What every operation leaves of the orders. -/
theorem ordersKept_of_step {S : Settings} {es : List SubscriptionEvent}
    (h : (subscriptionSystem S).step s op = some (s',es)) : OrdersKept op s.orders s'.orders := by
  cases op with
  | purchaseWithBalance now tn u p =>
    obtain ⟨plan,quota,k,-,-,-,-,ho,-⟩ := purchase_cases (toOption_eq_some.mp h)
    rw [ho]
    exact .created _ _
  | upgradeWithBalance now tn u k p =>
    obtain ⟨plan,quote,quota,sub,k',-,-,-,-,-,-,ho,-⟩ := upgrade_cases (toOption_eq_some.mp h)
    rw [ho]
    exact .trans (.calledOff s k now) (.created _ _)
  | requestEpay seen now tn m u p =>
    obtain ⟨s1,hs,heq⟩ := Option.map_eq_some_iff.mp h
    obtain ⟨rfl,-⟩ := Prod.mk.inj heq
    obtain ⟨_,-,hs⟩ := bind_eq_ok.mp (toOption_eq_some.mp hs)
    obtain ⟨_,-,hs⟩ := bind_eq_ok.mp hs
    obtain ⟨_,-,hs⟩ := bind_eq_ok.mp hs
    obtain ⟨_,-,hs⟩ := bind_eq_ok.mp hs
    obtain ⟨_,-,hs⟩ := bind_eq_ok.mp hs
    exact insert_kept rfl hs
  | requestUpgradeEpay now tn m u k p =>
    obtain ⟨s1,hs,heq⟩ := Option.map_eq_some_iff.mp h
    obtain ⟨rfl,-⟩ := Prod.mk.inj heq
    obtain ⟨_,-,hs⟩ := bind_eq_ok.mp (toOption_eq_some.mp hs)
    dsimp only at hs
    obtain ⟨_,-,hs⟩ := bind_eq_ok.mp hs
    obtain ⟨_,-,hs⟩ := bind_eq_ok.mp hs
    exact .trans (.calledOff s k now) (insert_kept rfl hs)
  | complete now tn payload expected m =>
    obtain ⟨⟨s1,es1,out⟩,hs,heq⟩ := Option.map_eq_some_iff.mp h
    obtain ⟨rfl,-⟩ := Prod.mk.inj heq
    exact complete_kept (toOption_eq_some.mp hs)
  | expireOrder now tn expected =>
    obtain ⟨s1,hs,heq⟩ := Option.map_eq_some_iff.mp h
    obtain ⟨rfl,-⟩ := Prod.mk.inj heq
    exact expireOrder_kept (toOption_eq_some.mp hs)
  | adminDeliver now id => exact adminDeliver_kept (toOption_eq_some.mp h)
  | adminClose now id =>
    obtain ⟨s1,hs,heq⟩ := Option.map_eq_some_iff.mp h
    obtain ⟨rfl,-⟩ := Prod.mk.inj heq
    exact adminClose_kept (toOption_eq_some.mp hs)
  | adminExpire now id =>
    obtain ⟨s1,hs,heq⟩ := Option.map_eq_some_iff.mp h
    obtain ⟨rfl,-⟩ := Prod.mk.inj heq
    exact adminExpire_kept (toOption_eq_some.mp hs)
  | adminRefund now id => exact adminRefund_kept (toOption_eq_some.mp h)
  | redeem now tn u p r =>
    obtain ⟨plan,-,hs⟩ := bind_eq_ok.mp (toOption_eq_some.mp h)
    obtain ⟨_,-,hs⟩ := bind_eq_ok.mp hs
    obtain ⟨_,-,hs⟩ := bind_eq_ok.mp hs
    obtain ⟨⟨s1,k⟩,hcreate,hs⟩ := bind_eq_ok.mp hs
    obtain ⟨s2,hinsert,hs⟩ := bind_eq_ok.mp hs
    obtain ⟨s3,hup,hs⟩ := bind_eq_ok.mp hs
    obtain ⟨rfl,-⟩ := Prod.mk.inj (Except.ok.inj hs)
    obtain ⟨topUps,rfl⟩ := upsert_cases hup
    have hkept : OrdersKept (.redeem now tn u p r) s.orders s2.orders :=
      insert_kept (create_books hcreate).orders hinsert
    exact hkept
  | adminBind seen u p =>
    obtain ⟨⟨s1,k⟩,hs,heq⟩ := Option.map_eq_some_iff.mp h
    obtain ⟨rfl,-⟩ := Prod.mk.inj heq
    obtain ⟨_,-,hs⟩ := bind_eq_ok.mp (toOption_eq_some.mp hs)
    obtain ⟨plan,-,hs⟩ := bind_eq_ok.mp hs
    rw [(create_books hs).orders]
    exact .refl _ _
  | adminInvalidate now k =>
    obtain ⟨⟨s1,g⟩,hs,heq⟩ := Option.map_eq_some_iff.mp h
    obtain ⟨rfl,-⟩ := Prod.mk.inj heq
    obtain ⟨_,-,hs⟩ := bind_eq_ok.mp (toOption_eq_some.mp hs)
    obtain ⟨sub,-,hs⟩ := bind_eq_ok.mp hs
    rw [(invalidate_books hs).orders]
    exact .refl _ _
  | adminDelete now k =>
    obtain ⟨⟨s1,g⟩,hs,heq⟩ := Option.map_eq_some_iff.mp h
    obtain ⟨rfl,-⟩ := Prod.mk.inj heq
    rw [(delete_books (toOption_eq_some.mp hs)).orders]
    exact .refl _ _
  | expireDue now u =>
    change (if now ≤ s.dbTime then _ else none) = _ at h
    split_ifs at h with hnow
    obtain ⟨⟨s1,g⟩,hs,heq⟩ := Option.map_eq_some_iff.mp h
    obtain ⟨rfl,-⟩ := Prod.mk.inj heq
    rw [(expireDue_books (toOption_eq_some.mp hs)).orders]
    exact .refl _ _
  | catalogue plans cache =>
    obtain ⟨rfl,-⟩ := Prod.mk.inj (Option.some.inj h)
    exact .refl _ _
  | tick time =>
    change (if s.dbTime≤time then _ else none) = _ at h
    split_ifs at h with ht
    obtain ⟨rfl,-⟩ := Prod.mk.inj (Option.some.inj h)
    exact .refl _ _

end Operations

/-! ## Replays -/

/-- The order of the trade number is answered for: it was delivered, or it waits for an administrator. -/
def Answered (tn : String) (expected : PaymentProvider) (o : ℕ) (s : Store) : Prop :=
  ∃ x, orderByTradeNo s tn = some (o,x) ∧ providerMatches expected x ∧ (x.status = .success ∨ x.status = .manualReview)

/-- An administrator closes the order, or marks it as refunded. -/
def EndsOrder (o : ℕ) (op : SubscriptionOp) : Prop := ∃ now, op = .adminClose now o ∨ op = .adminRefund now o

/-- The same, for the order of a trade number. -/
def EndsTrade (tn : String) (s : Store) (op : SubscriptionOp) : Prop :=
  ∃ o x, orderByTradeNo s tn = some (o,x) ∧ EndsOrder o op

lemma Answered.endsTrade_iff {tn : String} {expected : PaymentProvider} {o : ℕ} {s : Store}
    (h : Answered tn expected o s) (op : SubscriptionOp) : EndsTrade tn s op ↔ EndsOrder o op := by
  obtain ⟨x,hx,-⟩ := h
  constructor
  · rintro ⟨k,y,hy,hop⟩
    obtain ⟨rfl,-⟩ := Prod.mk.inj (Option.some.inj (hx.symm.trans hy))
    exact hop
  · exact fun hop => ⟨o,x,hx,hop⟩

section Replay
variable {S : Settings} {s s' : Store} {tz now : ℤ} {tn payload m : String} {expected : PaymentProvider} {o : ℕ}

/-- A call for an order that is answered for changes nothing. -/
lemma Answered.replay (h : Answered tn expected o s) (htn : tn≠"") (now : ℤ) (payload m : String) :
    ∃ out, completeSubscriptionOrder tz s now tn payload expected m = .ok (s,[],out) := by
  obtain ⟨x,hx,hp,hst⟩ := h
  unfold completeSubscriptionOrder
  rw [require_of htn,ok_bind,hx,orFail_some,ok_bind]
  dsimp only
  rw [require_of hp,ok_bind]
  rcases hst with hst | hst
  · exact ⟨.alreadyDone,by simp only [hst]⟩
  · exact ⟨.manualReview,by simp only [hst]⟩

/-- A call for an order that was closed or refunded fails. -/
lemma replay_closed {x : SubscriptionOrder} (hx : orderByTradeNo s tn = some (o,x)) (hst : Closed x.status)
    {r : Store × List SubscriptionEvent × SubscriptionOrderOutcome} :
    completeSubscriptionOrder tz s now tn payload expected m≠.ok r := by
  intro h
  obtain ⟨_,-,h⟩ := bind_eq_ok.mp h
  obtain ⟨⟨id,y⟩,hy,h⟩ := bind_eq_ok.mp h
  obtain ⟨_,-,h⟩ := bind_eq_ok.mp h
  obtain ⟨-,rfl⟩ := Prod.mk.inj (Option.some.inj (hx.symm.trans (orFail_eq_ok.mp hy)))
  rcases hst with hst | hst
  · simp [hst] at h
  · simp [hst] at h

/-- A call that returns leaves its order answered for. -/
lemma answered_of_complete {es : List SubscriptionEvent} {out : SubscriptionOrderOutcome}
    (h : completeSubscriptionOrder tz s now tn payload expected m = .ok (s',es,out)) :
    tn≠"" ∧ ∃ o, Answered tn expected o s' := by
  have hcall := h
  obtain ⟨_,htn,h⟩ := bind_eq_ok.mp h
  obtain ⟨⟨o,x⟩,hx,h⟩ := bind_eq_ok.mp h
  obtain ⟨_,hp,-⟩ := bind_eq_ok.mp h
  have hfirst := orFail_eq_ok.mp hx
  have hkept : OrdersKept (.complete now tn payload expected m) s.orders s'.orders := complete_kept hcall
  obtain ⟨y,hy,hrow⟩ := hkept.first? hfirst
  refine ⟨require_eq_ok.mp htn,o,y,hy,?_,?_⟩
  · have hmatch := require_eq_ok.mp hp
    unfold providerMatches at hmatch ⊢
    rwa [hrow.provider]
  · obtain ⟨id,z,hz,hc⟩ := complete_cases hcall
    obtain ⟨rfl,rfl⟩ := Prod.mk.inj (Option.some.inj (hfirst.symm.trans hz))
    have hfind := orderByTradeNo_find (s := s') hy
    cases hc with
    | settled hst =>
      obtain rfl := Option.some.inj ((orderByTradeNo_find hfirst).symm.trans hfind)
      exact hst
    | review _ hreview =>
      obtain ⟨s1,h1,hreview⟩ := bind_eq_ok.mp hreview
      obtain ⟨rfl,-⟩ := Prod.mk.inj (Except.ok.inj hreview)
      obtain ⟨topUps,rfl⟩ := saveOrder_cases h1
      rw [Table.find?_set_self _ (orderByTradeNo_find hfirst)] at hfind
      obtain rfl := Option.some.inj hfind
      exact .inr rfl
    | delivered _ _ hopen hsave =>
      obtain ⟨topUps,rfl⟩ := saveOrder_cases hsave
      dsimp only at hfind
      rw [hopen.books.orders,Table.find?_set_self _ (orderByTradeNo_find hfirst)] at hfind
      obtain rfl := Option.some.inj hfind
      exact .inl rfl

/-- Without an administrator who ends the order it stays answered for. -/
lemma Answered.step {op : SubscriptionOp} {es : List SubscriptionEvent} (h : Answered tn expected o s)
    (hstep : (subscriptionSystem S).step s op = some (s',es)) (hop : ¬EndsOrder o op) : Answered tn expected o s' := by
  obtain ⟨x,hx,hp,hst⟩ := h
  obtain ⟨y,hy,hrow⟩ := (ordersKept_of_step hstep).first? hx
  refine ⟨y,hy,?_,?_⟩
  · unfold providerMatches at hp ⊢
    rwa [hrow.provider]
  · have hlife : OrderLife (orderStatus o s) (orderStatus o s') := orderLife_of_step hstep
    have hfind : s'.orders.find? o = some y := orderByTradeNo_find hy
    unfold orderStatus at hlife
    rw [orderByTradeNo_find hx,hfind] at hlife
    have hfailed : y.status≠.failed := by
      intro hy'
      rcases hrow.failed hy' with hf | ⟨now,rfl⟩
      · rw [hf] at hst
        rcases hst with hst | hst <;> exact nomatch hst
      · exact hop ⟨now,.inl rfl⟩
    have hrefunded : y.status≠.refunded := by
      intro hy'
      rcases hrow.refunded hy' with hf | ⟨now,rfl⟩
      · rw [hf] at hst
        rcases hst with hst | hst <;> exact nomatch hst
      · exact hop ⟨now,.inr rfl⟩
    generalize hb : y.status = b at hlife hfailed hrefunded ⊢
    rcases hst with hst | hst
    · rw [Option.map_some,Option.map_some,hst,hb] at hlife
      cases hlife with
      | stay => exact .inl rfl
      | next hn =>
        cases hn
        exact absurd rfl hrefunded
    · rw [Option.map_some,Option.map_some,hst,hb] at hlife
      cases hlife with
      | stay => exact .inr rfl
      | next hn =>
        cases hn with
        | deliver => exact .inl rfl
        | close => exact absurd rfl hfailed

/-- An order that is answered for and that an administrator ends is closed or refunded. -/
lemma Answered.ended {op : SubscriptionOp} {es : List SubscriptionEvent} (h : Answered tn expected o s)
    (hstep : (subscriptionSystem S).step s op = some (s',es)) (hop : EndsOrder o op) :
    ∃ y, orderByTradeNo s' tn = some (o,y) ∧ Closed y.status := by
  obtain ⟨x,hx,-,hst⟩ := h
  obtain ⟨y,hy,-⟩ := (ordersKept_of_step hstep).first? hx
  refine ⟨y,hy,?_⟩
  have hfind := orderByTradeNo_find hx
  have hfind' : s'.orders.find? o = some y := orderByTradeNo_find hy
  obtain ⟨now,rfl | rfl⟩ := hop
  · obtain ⟨s1,hs,heq⟩ := Option.map_eq_some_iff.mp hstep
    obtain ⟨rfl,-⟩ := Prod.mk.inj heq
    obtain ⟨_,-,hs⟩ := bind_eq_ok.mp (toOption_eq_some.mp hs)
    obtain ⟨z,hz,hs⟩ := bind_eq_ok.mp hs
    obtain rfl := Option.some.inj (hfind.symm.trans (orFail_eq_ok.mp hz))
    split_ifs at hs with hfailed
    · rw [hfailed] at hst
      rcases hst with hst | hst <;> cases hst
    · obtain ⟨_,-,hs⟩ := bind_eq_ok.mp hs
      obtain ⟨topUps,rfl⟩ := saveOrder_cases hs
      rw [Table.find?_set_self _ hfind] at hfind'
      obtain rfl := Option.some.inj hfind'
      exact .inl rfl
  · obtain ⟨z,hz,⟨hr,-,-⟩ | ⟨-,-,-,ho,-⟩⟩ := adminRefund_order_cases (.adminRefund now o) (toOption_eq_some.mp hstep)
    · obtain rfl := Option.some.inj (hfind.symm.trans hz)
      rw [hr] at hst
      rcases hst with hst | hst <;> cases hst
    · rw [ho,Table.find?_set_self _ hfind] at hfind'
      obtain rfl := Option.some.inj hfind'
      exact .inr rfl

/-- A closed order keeps its trade number. -/
lemma closed_kept {c : Config Store SubscriptionEvent} {x : SubscriptionOrder} (ops : List SubscriptionOp)
    (hx : orderByTradeNo c.state tn = some (o,x)) (hst : Closed x.status) :
    ∃ y, orderByTradeNo ((subscriptionSystem S).run c ops).state tn = some (o,y) ∧ Closed y.status := by
  apply Always.last (P := fun d => ∃ y, orderByTradeNo d.state tn = some (o,y) ∧ Closed y.status)
  apply always_of_step ⟨x,hx,hst⟩
  rintro d op s' es ⟨y,hy,hclosed⟩ hstep
  obtain ⟨z,hz,-⟩ := (ordersKept_of_step hstep).first? hy
  refine ⟨z,hz,?_⟩
  have hlife : OrderLife (orderStatus o d.state) (orderStatus o s') := orderLife_of_step hstep
  have hfind : s'.orders.find? o = some z := orderByTradeNo_find hz
  unfold orderStatus at hlife
  rw [orderByTradeNo_find hy,hfind] at hlife
  have heq : some z.status = some y.status := hlife.closed hclosed
  rwa [Option.some.inj heq]

/-- Once an order is answered for, a later call for it is answered, and changes nothing, exactly when no
administrator has ended the order. -/
lemma Answered.replay_iff {c : Config Store SubscriptionEvent} (h : Answered tn expected o c.state) (htn : tn≠"")
    (ops : List SubscriptionOp) (tz now : ℤ) (payload m : String) :
    (∃ out, completeSubscriptionOrder tz ((subscriptionSystem S).run c ops).state now tn payload expected m =
      .ok (((subscriptionSystem S).run c ops).state,[],out)) ↔
    (subscriptionSystem S).Guarded
      (fun d op => ((subscriptionSystem S).step d.state op).isSome → ¬EndsTrade tn d.state op) c ops := by
  induction ops generalizing c with
  | nil => exact iff_of_true (h.replay htn now payload m) trivial
  | cons op ops ih =>
    change _ ↔ (((subscriptionSystem S).step c.state op).isSome → ¬EndsTrade tn c.state op) ∧ _
    rw [run,h.endsTrade_iff op]
    cases hstep : (subscriptionSystem S).step c.state op with
    | none =>
      rw [exec_of_none hstep,ih h]
      simp
    | some r =>
      rw [exec_of_some hstep]
      simp only [Option.isSome_some,true_implies]
      by_cases hop : EndsOrder o op
      · obtain ⟨y,hy,hclosed⟩ := h.ended hstep hop
        obtain ⟨z,hz,hended⟩ := closed_kept (S := S) (c := ⟨r.1,r.2++c.history⟩) ops hy hclosed
        refine iff_of_false ?_ (fun hg => hg.1 hop)
        rintro ⟨out,hout⟩
        exact replay_closed hz hended hout
      · have hstay : Answered tn expected o r.1 := h.step hstep hop
        rw [ih (c := ⟨r.1,r.2++c.history⟩) hstay]
        exact ⟨fun hg => ⟨hop,hg⟩,fun hg => hg.2⟩

end Replay

/-- After a payment callback that was answered a later one for its order is answered, and changes no row, exactly
when no administrator closed the order or marked it as refunded in between. -/
theorem callback_replay_iff (S : Settings) (c : Config Store SubscriptionEvent) (now : ℤ) (tn payload : String)
    (expected : PaymentProvider) (m : String)
    (h : ((subscriptionSystem S).step c.state (.complete now tn payload expected m)).isSome)
    (ops : List SubscriptionOp) (later : ℤ) (payload' m' : String) :
    let c1 := (subscriptionSystem S).exec c (.complete now tn payload expected m)
    let s := ((subscriptionSystem S).run c1 ops).state
    (∃ out, completeSubscriptionOrder S.timeZone s later tn payload' expected m' = .ok (s,[],out)) ↔
      (subscriptionSystem S).Guarded
        (fun d op => ((subscriptionSystem S).step d.state op).isSome → ¬EndsTrade tn d.state op) c1 ops := by
  obtain ⟨⟨s1,es⟩,hstep⟩ := Option.isSome_iff_exists.mp h
  obtain ⟨⟨s2,es2,out⟩,hcall,heq⟩ := Option.map_eq_some_iff.mp hstep
  obtain ⟨rfl,rfl⟩ := Prod.mk.inj heq
  obtain ⟨htn,o,ho⟩ := answered_of_complete (toOption_eq_some.mp hcall)
  dsimp only
  rw [exec_of_some hstep]
  exact Answered.replay_iff (c := ⟨s2,es2++c.history⟩) ho htn ops S.timeZone later payload' m'

/-- A gateway order for a plan that costs 7. -/
def requestedOrder : Config Store SubscriptionEvent :=
  let counter := shop (Table.empty.insert (shopPlan 7 ""))
  (subscriptionSystem shopSettings).run ⟨counter,[]⟩ [.requestEpay counter 1000 "SUBUSR1NOa" "alipay" 1 1]

theorem callback_replay_iff_requestedOrder :
    let c1 := (subscriptionSystem shopSettings).exec requestedOrder (.complete 1001 "SUBUSR1NOa" "" .epay "alipay")
    let s := ((subscriptionSystem shopSettings).run c1 []).state
    (∃ out, completeSubscriptionOrder 0 s 1002 "SUBUSR1NOa" "" .epay "alipay" = .ok (s,[],out)) ↔
      (subscriptionSystem shopSettings).Guarded (fun d op =>
        ((subscriptionSystem shopSettings).step d.state op).isSome → ¬EndsTrade "SUBUSR1NOa" d.state op) c1 [] :=
  callback_replay_iff shopSettings requestedOrder 1001 "SUBUSR1NOa" "" .epay "alipay" (by decide +kernel) [] 1002 ""
    "alipay"

/-- The callback comes once more after the order was refunded, and fails. -/
theorem refunded_callback_fails :
    (completeSubscriptionOrder 0 requestedOrder.state 1001 "SUBUSR1NOa" "" .epay "alipay").toOption.isSome ∧
      let s := ((subscriptionSystem shopSettings).run requestedOrder
        [.complete 1001 "SUBUSR1NOa" "" .epay "alipay",.adminRefund 1002 1]).state
      orderStatus 1 s = some .refunded ∧
        (completeSubscriptionOrder 0 s 1003 "SUBUSR1NOa" "" .epay "alipay").toOption.isNone := by
  decide +kernel

end Tierflow
