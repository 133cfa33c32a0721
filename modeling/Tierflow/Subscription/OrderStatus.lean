import Tierflow.Subscription.Effects

/-! The status of orders over runs of subscription operations. -/
namespace Tierflow
open TxSystem

/-- The status changes that the business allows. -/
inductive OrderStatus.Next : OrderStatus → OrderStatus → Prop
  | pay : Next .pending .success
  | payLate : Next .pending .manualReview
  | expire : Next .pending .expired
  | payExpired : Next .expired .manualReview
  | deliver : Next .manualReview .success
  | close : Next .manualReview .failed
  | refund : Next .success .refunded

/-- The life of an order: it appears waiting for its payment or, when it is paid on the spot,
successful, and from then on only changes its status as allowed. -/
inductive OrderLife : Option OrderStatus → Option OrderStatus → Prop
  | stay (st : Option OrderStatus) : OrderLife st st
  | requested : OrderLife none (some .pending)
  | bought : OrderLife none (some .success)
  | next {a b : OrderStatus} : a.Next b → OrderLife (some a) (some b)

def orderStatus (o : ℕ) (s : Store) : Option OrderStatus := (s.orders.find? o).map SubscriptionOrder.status

/-- The order has been delivered, and cannot be delivered again. -/
def Served (st : Option OrderStatus) : Prop := st = some .success ∨ st = some .refunded

def Closed (st : OrderStatus) : Prop := st = .failed ∨ st = .refunded

lemma StatusMove.next {a b : OrderStatus} (h : StatusMove a b) : a.Next b := by
  cases h with
  | payLate => exact .payLate
  | expire => exact .expire
  | payExpired => exact .payExpired
  | close => exact .close

lemma OrderLife.closed {a : OrderStatus} {st : Option OrderStatus} (h : OrderLife (some a) st) (ha : Closed a) :
    st = some a := by
  cases h with
  | stay => rfl
  | next hn => rcases ha with rfl | rfl <;> cases hn

lemma OrderLife.served {st st' : Option OrderStatus} (h : OrderLife st st') (hs : Served st) : Served st' := by
  cases h with
  | stay => exact hs
  | requested => rcases hs with hs | hs <;> contradiction
  | bought => exact .inl rfl
  | next hn =>
    rcases hs with hs | hs
    · obtain rfl := Option.some.inj hs
      cases hn
      exact .inr rfl
    · obtain rfl := Option.some.inj hs
      cases hn

section Step
variable {op : SubscriptionOp} {new : Option ℕ} {es : List SubscriptionEvent} {o : ℕ} {r r' : Option SubscriptionOrder}

lemma OrderStep.life (h : OrderStep op new es o r r') :
    OrderLife (r.map SubscriptionOrder.status) (r'.map SubscriptionOrder.status) := by
  cases h with
  | same => exact .stay _
  | moved hm => exact .next hm.next
  | refunded _ hx hy =>
    rw [Option.map_some,Option.map_some,hx,hy]
    exact .next .refund
  | requested hy =>
    rw [Option.map_none,Option.map_some,hy]
    exact .requested
  | delivered hx hy =>
    rw [Option.map_some,Option.map_some,hy]
    rcases hx with hx | hx
    · rw [hx]
      exact .next .pay
    · rw [hx]
      exact .next .deliver
  | bought hy =>
    rw [Option.map_none,Option.map_some,hy]
    exact .bought

/-- A delivery happens once, to an order that was not served before and is from now on. -/
lemma OrderStep.delivery (h : OrderStep op new es o r r') :
    deliveries o es = [] ∨ (deliveries o es).length=1 ∧ ¬Served (r.map SubscriptionOrder.status) ∧
      Served (r'.map SubscriptionOrder.status) := by
  cases h with
  | same _ hes => exact .inl hes
  | moved _ _ hes => exact .inl hes
  | refunded _ _ _ _ hes => exact .inl hes
  | requested _ hes => exact .inl hes
  | delivered hx hy _ _ hes =>
    refine .inr ⟨by rw [hes]; rfl,?_,.inl (congrArg some hy)⟩
    rcases hx with hx | hx <;> simp [Served,hx]
  | bought hy _ _ hes =>
    exact .inr ⟨by rw [hes]; rfl,by simp [Served],.inl (congrArg some hy)⟩

end Step

variable {S : Settings} {o : ℕ}

lemma orderLife_of_step {op : SubscriptionOp} {s s' : Store} {es : List SubscriptionEvent}
    (h : (subscriptionSystem S).step s op = some (s',es)) : OrderLife (orderStatus o s) (orderStatus o s') := by
  obtain ⟨new,-,ho⟩ := stepEffect_of_step h
  exact (ho o).life

/-- No more than one delivery, and none to an order that can still be delivered. -/
structure DeliveredOnce (o : ℕ) (c : Config Store SubscriptionEvent) : Prop where
  once : (deliveries o c.history).length≤1
  served : deliveries o c.history≠[] → Served (orderStatus o c.state)

lemma deliveredOnce_step {d : Config Store SubscriptionEvent} {op : SubscriptionOp} {s' : Store}
    {es : List SubscriptionEvent} (hd : DeliveredOnce o d) (h : (subscriptionSystem S).step d.state op = some (s',es)) :
    DeliveredOnce o ⟨s',es++d.history⟩ := by
  obtain ⟨new,-,ho⟩ := stepEffect_of_step h
  rcases (ho o).delivery with hes | ⟨hlen,hbefore,hafter⟩
  · constructor
    · simpa [hes] using hd.once
    · intro hne
      rw [deliveries_append,hes,List.nil_append] at hne
      exact (ho o).life.served (hd.served hne)
  · have hnone : deliveries o d.history = [] := by
      by_contra hne
      exact hbefore (hd.served hne)
    constructor
    · rw [deliveries_append,hnone,List.append_nil,hlen]
    · exact fun _ => hafter

lemma closed_run {c : Config Store SubscriptionEvent} {st : OrderStatus} (more : List SubscriptionOp) (hst : Closed st)
    (hc : orderStatus o c.state = some st) : orderStatus o ((subscriptionSystem S).run c more).state = some st := by
  apply Always.last (P := fun c => orderStatus o c.state = some st)
  refine always_of_step hc ?_ more
  intro d op s' es hd h
  have hlife : OrderLife (orderStatus o d.state) (orderStatus o s') := orderLife_of_step h
  rw [hd] at hlife
  exact hlife.closed hst

/-- The state machine of orders. Whatever the order of the operations, an order's status only moves
as allowed, it delivers at most one subscription, and it stays failed or refunded for good. -/
theorem order_state_machine (S : Settings) (s : Store) (ops : List SubscriptionOp) (o : ℕ) :
    (subscriptionSystem S).Transitions
      (fun c _ d => OrderLife (orderStatus o c.state) (orderStatus o d.state)) ⟨s,[]⟩ ops ∧
    (subscriptionSystem S).Always (fun c => (deliveries o c.history).length≤1) ⟨s,[]⟩ ops ∧
    (subscriptionSystem S).Always
      (fun c => ∀ st more, Closed st → orderStatus o c.state = some st →
        orderStatus o ((subscriptionSystem S).run c more).state = some st) ⟨s,[]⟩ ops := by
  refine ⟨?_,?_,?_⟩
  · apply transitions_of_step (P := fun _ => True) (always_of_step trivial (fun _ _ _ _ _ _ => trivial) ops)
    · exact fun _ _ _ _ => .stay _
    · intro d op s' es _ h
      exact orderLife_of_step h
  · have h0 : DeliveredOnce o ⟨s,[]⟩ := ⟨Nat.zero_le _,fun hne => absurd rfl hne⟩
    apply (always_of_step h0 (fun _ _ _ _ hd h => deliveredOnce_step hd h) ops).mono
    exact fun d hd => hd.once
  · apply always_of_step
    · exact fun _ more => closed_run more
    · exact fun _ _ _ _ _ _ _ more => closed_run more

end Tierflow
