import Tierflow.Subscription.Effects
import Tierflow.TopUp.CreditOnce

/-! Subscription orders and their rows in the top-up table. The finance view lists the top-up table, so
every payment that came in for a subscription is mirrored there under the trade number of its order. -/
namespace Tierflow
open TxSystem

/-- The status of the mirror of an order; orders for which no payment came in have none. -/
def mirrorStatus : OrderStatus → Option OrderStatus
  | .pending | .expired => none
  | .manualReview => some .pending
  | .success => some .success
  | .failed => some .failed
  | .refunded => some .refunded

structure IsMirror (order : SubscriptionOrder) (status : OrderStatus) (topUp : TopUp) : Prop where
  status : topUp.status=status
  money : topUp.money=order.money
  method : topUp.paymentMethod=order.paymentMethod
  amount : topUp.amount=0
  provider : topUp.paymentProvider = .unset

/-- The top-up table has what it should have under the trade number of an order. -/
def MirrorAgrees (s : Store) (order : SubscriptionOrder) : Prop :=
  match mirrorStatus order.status with
  | none => getTopUpByTradeNo s order.tradeNo = none
  | some status => ∃ id topUp, getTopUpByTradeNo s order.tradeNo = some (id,topUp) ∧ IsMirror order status topUp

/-- Trade numbers of subscription orders begin with `SUB`. -/
def isSubscriptionTradeNo (tradeNo : String) : Prop := "SUB".toList <+: tradeNo.toList

/-- Trade numbers of top-ups begin with `USR`. -/
def isTopUpTradeNo (tradeNo : String) : Prop := "USR".toList <+: tradeNo.toList

instance (tradeNo : String) : Decidable (isSubscriptionTradeNo tradeNo) := by
  unfold isSubscriptionTradeNo; infer_instance

instance (tradeNo : String) : Decidable (isTopUpTradeNo tradeNo) := by unfold isTopUpTradeNo; infer_instance

lemma isTopUpTradeNo.not_subscription {tradeNo : String} (h : isTopUpTradeNo tradeNo) :
    ¬isSubscriptionTradeNo tradeNo := by
  rintro ⟨t,ht⟩
  obtain ⟨r,hr⟩ := h
  have he : 'U' = 'S' := (List.cons_eq_cons.mp (hr.trans ht.symm)).1
  contradiction

structure Mirrored (s : Store) : Prop where
  agree : ∀ o order, s.orders.find? o = some order → MirrorAgrees s order
  orders : s.orders.Unique SubscriptionOrder.tradeNo
  topUps : s.topUps.Unique TopUp.tradeNo
  ordered : ∀ o order, s.orders.find? o = some order → isSubscriptionTradeNo order.tradeNo
  owned : ∀ k topUp, s.topUps.find? k = some topUp → isSubscriptionTradeNo topUp.tradeNo →
    ∃ o order, s.orders.find? o = some order ∧ order.tradeNo=topUp.tradeNo

/-! ## Rows by trade number -/

section Rows
variable {s s' : Store} {order : SubscriptionOrder} {status : OrderStatus} {now : ℤ} {rebind : Bool}

lemma getTopUp_set_of_ne {k : ℕ} {a b : TopUp} {tradeNo : String} (hb : s.topUps.find? k = some b)
    (hab : a.tradeNo=b.tradeNo) (hne : b.tradeNo≠tradeNo) :
    (s.topUps.set k a).first? (fun r => r.2.tradeNo=tradeNo) = getTopUpByTradeNo s tradeNo := by
  rw [Table.first?_set hb (by rw [hab])]
  cases hf : s.topUps.first? (fun r => r.2.tradeNo=tradeNo) with
  | none => exact hf.symm
  | some r =>
    obtain ⟨hr,ht⟩ := Table.first?_some hf
    have hk : r.1≠k := by
      intro hk
      rw [hk,hb] at hr
      obtain rfl := Option.some.inj hr
      exact hne (of_decide_eq_true ht)
    rw [Option.map_some,if_neg hk]
    exact hf.symm

lemma getTopUp_insert {topUp : TopUp} (h : getTopUpByTradeNo s topUp.tradeNo = none) :
    getTopUpByTradeNo { s with topUps := s.topUps.insert topUp } topUp.tradeNo = some (s.topUps.next,topUp) := by
  have hf : s.topUps.first? (fun r => r.2.tradeNo=topUp.tradeNo) = none := h
  unfold getTopUpByTradeNo
  rw [Table.first?_insert,hf,Option.none_or,if_pos (by simp)]

lemma getTopUp_insert_of_ne {topUp : TopUp} {tradeNo : String} (h : topUp.tradeNo≠tradeNo) :
    getTopUpByTradeNo { s with topUps := s.topUps.insert topUp } tradeNo = getTopUpByTradeNo s tradeNo := by
  unfold getTopUpByTradeNo
  rw [Table.first?_insert,if_neg (by simpa using h),Option.or_none]

/-- What the upsert writes: the row of the order's trade number, and no other. -/
theorem upsert_spec (h : upsertSubscriptionTopUpTx s order status now rebind = .ok s') :
    (∀ tradeNo, tradeNo≠order.tradeNo → getTopUpByTradeNo s' tradeNo = getTopUpByTradeNo s tradeNo) ∧
    (s.topUps.Unique TopUp.tradeNo → s'.topUps.Unique TopUp.tradeNo) ∧
    (∀ k topUp, s'.topUps.find? k = some topUp → topUp.tradeNo=order.tradeNo ∨ s.topUps.find? k = some topUp) ∧
    ∃ id topUp, getTopUpByTradeNo s' order.tradeNo = some (id,topUp) ∧ topUp.status=status ∧ topUp.money=order.money ∧
      match getTopUpByTradeNo s order.tradeNo with
      | none => topUp.paymentMethod=order.paymentMethod ∧ topUp.amount=0 ∧ topUp.paymentProvider = .unset
      | some (_,old) => topUp.amount=old.amount ∧ topUp.paymentProvider=old.paymentProvider ∧
          (rebind = true → topUp.paymentMethod=order.paymentMethod) := by
  unfold upsertSubscriptionTopUpTx at h
  cases hf : s.topUps.first? (fun r => r.2.tradeNo=order.tradeNo) with
  | none =>
    have hg : getTopUpByTradeNo s order.tradeNo = none := hf
    rw [hf] at h
    obtain rfl := Except.ok.inj h
    refine ⟨?_,?_,?_,?_⟩
    · intro tradeNo hne
      exact getTopUp_insert_of_ne hne.symm
    · intro hu
      apply hu.insert
      intro k topUp hk
      simpa using Table.first?_eq_none_iff.mp hf k topUp hk
    · intro k topUp hk
      rw [Table.find?_insert] at hk
      split_ifs at hk
      · obtain rfl := Option.some.inj hk
        exact .inl rfl
      · exact .inr hk
    · rw [hg]
      exact ⟨_,_,getTopUp_insert hg,rfl,rfl,rfl,rfl,rfl⟩
  | some r =>
    obtain ⟨id,old⟩ := r
    have hg : getTopUpByTradeNo s order.tradeNo = some (id,old) := hf
    obtain ⟨hold,htn⟩ := getTopUp_spec hg
    rw [hf] at h
    obtain ⟨method,hmethod,h⟩ := bind_eq_ok.mp h
    obtain rfl := Except.ok.inj h
    refine ⟨?_,?_,?_,?_⟩
    · intro tradeNo hne
      exact getTopUp_set_of_ne hold rfl (by rw [htn]; exact hne.symm)
    · exact fun hu => hu.set hold rfl
    · intro k topUp hk
      by_cases hid : k=id
      · rw [hid,Table.find?_set_self _ hold] at hk
        obtain rfl := Option.some.inj hk
        exact .inl htn
      · rw [Table.find?_set_of_ne _ _ hid] at hk
        exact .inr hk
    · rw [hg]
      refine ⟨id,_,getTopUp_set hg htn,rfl,rfl,rfl,rfl,?_⟩
      intro hrebind
      rw [mirrorMethod,if_pos (.inr hrebind)] at hmethod
      exact (Except.ok.inj hmethod).symm

lemma MirrorAgrees.congr (ht : s'.topUps = s.topUps) : MirrorAgrees s' order ↔ MirrorAgrees s order := by
  unfold MirrorAgrees getTopUpByTradeNo
  rw [ht]

lemma MirrorAgrees.congr_row (h : ∀ tradeNo, tradeNo=order.tradeNo →
    getTopUpByTradeNo s' tradeNo = getTopUpByTradeNo s tradeNo) : MirrorAgrees s' order ↔ MirrorAgrees s order := by
  unfold MirrorAgrees
  rw [h order.tradeNo rfl]

/-- Orders that have no mirror only differ in their trade numbers. -/
lemma MirrorAgrees.unpaid {x y : SubscriptionOrder} (h : MirrorAgrees s x) (hx : mirrorStatus x.status = none)
    (hy : mirrorStatus y.status = none) (htn : y.tradeNo=x.tradeNo) : MirrorAgrees s y := by
  unfold MirrorAgrees at h ⊢
  rw [hx] at h
  rw [hy,htn]
  exact h

/-- A mirror that is found is one of the order, whatever its status. -/
lemma MirrorAgrees.found {x : SubscriptionOrder} {id : ℕ} {topUp : TopUp} (h : MirrorAgrees s x)
    (hg : getTopUpByTradeNo s x.tradeNo = some (id,topUp)) :
    ∃ status, mirrorStatus x.status = some status ∧ IsMirror x status topUp := by
  unfold MirrorAgrees at h
  cases hst : mirrorStatus x.status with
  | none =>
    rw [hst] at h
    rw [h] at hg
    contradiction
  | some status =>
    rw [hst] at h
    obtain ⟨id1,topUp1,hg1,hm⟩ := h
    obtain ⟨rfl,rfl⟩ := Prod.mk.inj (Option.some.inj (hg1.symm.trans hg))
    exact ⟨status,rfl,hm⟩

end Rows

/-! ## What keeps the tables in step -/

section Writes
variable {s s1 s2 s' : Store} {y : SubscriptionOrder} {status : OrderStatus} {now : ℤ} {rebind : Bool}

/-- Orders change without their mirrors only as far as they have none. -/
lemma Mirrored.mapOrders {f : ℕ → SubscriptionOrder → SubscriptionOrder} (h : Mirrored s)
    (ho : s'.orders = s.orders.mapRows f) (ht : s'.topUps = s.topUps)
    (hf : ∀ k x, s.orders.find? k = some x →
      (f k x).tradeNo=x.tradeNo ∧ (MirrorAgrees s x → MirrorAgrees s (f k x))) : Mirrored s' := by
  constructor
  · intro o order hfind
    rw [ho,Table.find?_mapRows] at hfind
    obtain ⟨x,hx,rfl⟩ := Option.map_eq_some_iff.mp hfind
    rw [MirrorAgrees.congr ht]
    exact (hf o x hx).2 (h.agree o x hx)
  · rw [ho]
    exact h.orders.mapRows (fun k x hx => (hf k x hx).1)
  · rw [ht]
    exact h.topUps
  · intro o order hfind
    rw [ho,Table.find?_mapRows] at hfind
    obtain ⟨x,hx,rfl⟩ := Option.map_eq_some_iff.mp hfind
    rw [(hf o x hx).1]
    exact h.ordered o x hx
  · intro k topUp hk hsub
    rw [ht] at hk
    obtain ⟨o,x,hx,htn⟩ := h.owned k topUp hk hsub
    refine ⟨o,f o x,?_,(hf o x hx).1.trans htn⟩
    rw [ho,Table.find?_mapRows,hx,Option.map_some]

lemma Mirrored.congr (h : Mirrored s) (ho : s'.orders = s.orders) (ht : s'.topUps = s.topUps) : Mirrored s' := by
  apply h.mapOrders (f := fun _ x => x) _ ht
  · exact fun _ _ _ => ⟨rfl,id⟩
  · rw [ho]
    simp [Table.mapRows]

/-- An order is written together with its mirror. -/
lemma Mirrored.upsert {k : ℕ} (h : Mirrored s) (ht1 : s1.topUps = s.topUps)
    (hup : upsertSubscriptionTopUpTx s1 y status now rebind = .ok s2) (ht2 : s'.topUps = s2.topUps)
    (hrow : s'.orders.find? k = some y) (hrest : ∀ o, o≠k → s'.orders.find? o = s.orders.find? o)
    (hkeep : ∀ x, s.orders.find? k = some x → x.tradeNo=y.tradeNo) (hu : s'.orders.Unique SubscriptionOrder.tradeNo)
    (hsub : isSubscriptionTradeNo y.tradeNo) (hst : mirrorStatus y.status = some status)
    (hold : ∀ id old, getTopUpByTradeNo s y.tradeNo = some (id,old) →
      rebind = true ∧ old.amount=0 ∧ old.paymentProvider = .unset) : Mirrored s' := by
  obtain ⟨hother,hunique,hrows,id,topUp,hg,hstatus,hmoney,hfrom⟩ := upsert_spec hup
  have h1 : ∀ tradeNo, getTopUpByTradeNo s1 tradeNo = getTopUpByTradeNo s tradeNo := by
    intro tradeNo
    unfold getTopUpByTradeNo
    rw [ht1]
  have h2 : ∀ tradeNo, getTopUpByTradeNo s' tradeNo = getTopUpByTradeNo s2 tradeNo := by
    intro tradeNo
    unfold getTopUpByTradeNo
    rw [ht2]
  have hmirror : IsMirror y status topUp := by
    rw [h1] at hfrom
    cases hrowOld : getTopUpByTradeNo s y.tradeNo with
    | none =>
      rw [hrowOld] at hfrom
      exact ⟨hstatus,hmoney,hfrom.1,hfrom.2.1,hfrom.2.2⟩
    | some r =>
      obtain ⟨j,old⟩ := r
      obtain ⟨hrebind,hamount,hprovider⟩ := hold j old hrowOld
      rw [hrowOld] at hfrom
      exact ⟨hstatus,hmoney,hfrom.2.2 hrebind,hfrom.1.trans hamount,hfrom.2.1.trans hprovider⟩
  constructor
  · intro o order hfind
    by_cases hok : o=k
    · rw [hok,hrow] at hfind
      obtain rfl := Option.some.inj hfind
      unfold MirrorAgrees
      rw [hst,h2]
      exact ⟨id,topUp,hg,hmirror⟩
    · have hne : order.tradeNo≠y.tradeNo := fun he => hok (hu o k order y hfind hrow he)
      rw [hrest o hok] at hfind
      apply (MirrorAgrees.congr_row ?_).mpr (h.agree o order hfind)
      intro tradeNo htn
      rw [h2,hother tradeNo (by rw [htn]; exact hne),h1]
  · exact hu
  · rw [ht2]
    exact hunique (by rw [ht1]; exact h.topUps)
  · intro o order hfind
    by_cases hok : o=k
    · rw [hok,hrow] at hfind
      obtain rfl := Option.some.inj hfind
      exact hsub
    · rw [hrest o hok] at hfind
      exact h.ordered o order hfind
  · intro j row hj hrowSub
    rw [ht2] at hj
    rcases hrows j row hj with htn | hj
    · exact ⟨k,y,hrow,htn.symm⟩
    · rw [ht1] at hj
      obtain ⟨o,x,hx,htn⟩ := h.owned j row hj hrowSub
      by_cases hok : o=k
      · subst o
        exact ⟨k,y,hrow,(hkeep x hx).symm.trans htn⟩
      · exact ⟨o,x,by rw [hrest o hok,hx],htn⟩

end Writes

/-! ## What operations write -/

/-- The trade number of the order that an operation would create. -/
def SubscriptionOp.tradeNo? : SubscriptionOp → Option String
  | .purchaseWithBalance _ tn _ _ | .upgradeWithBalance _ tn _ _ _ | .requestEpay _ _ tn _ _ _
  | .requestUpgradeEpay _ tn _ _ _ _ | .redeem _ tn _ _ _ => some tn
  | _ => none

/-- Orders, the top-up table and the plans stay. -/
structure SameBooks (s s' : Store) : Prop where
  orders : s'.orders = s.orders
  topUps : s'.topUps = s.topUps
  plans : s'.plans = s.plans

lemma SameBooks.refl (s : Store) : SameBooks s s := ⟨rfl,rfl,rfl⟩

lemma SameBooks.trans {s t s' : Store} (h : SameBooks s t) (h' : SameBooks t s') : SameBooks s s' :=
  ⟨h'.orders.trans h.orders,h'.topUps.trans h.topUps,h'.plans.trans h.plans⟩

/-- What an operation can do to orders and their mirrors. Plans change only in the catalogue. -/
inductive MirrorEffect (op : SubscriptionOp) : Store → Store → Prop
  | same {s s' : Store} : SameBooks s s' → MirrorEffect op s s'
  | catalogue {s s' : Store} {plans : Table SubscriptionPlan} {cache : ℕ → Option SubscriptionPlan} :
    op = .catalogue plans cache → s'.orders = s.orders → s'.topUps = s.topUps → MirrorEffect op s s'
  | expired {s s' : Store} {k : ℕ} {x : SubscriptionOrder} {now : ℤ} : s.orders.find? k = some x →
    x.status = .pending → s'.orders = s.orders.set k { x with status := .expired, completeTime := now } →
    s'.topUps = s.topUps → s'.plans = s.plans → MirrorEffect op s s'
  | calledOff {s s' : Store} {k : ℕ} {now : ℤ} : s'.orders = (expirePendingUpgradeOrdersTx s k now).orders →
    s'.topUps = s.topUps → s'.plans = s.plans → MirrorEffect op s s'
  | requested {s s' : Store} {y : SubscriptionOrder} : op.tradeNo? = some y.tradeNo →
    orderByTradeNo s y.tradeNo = none → y.status = .pending → s'.orders = s.orders.insert y →
    s'.topUps = s.topUps → s'.plans = s.plans → MirrorEffect op s s'
  | bought {s s1 s2 s' : Store} {y : SubscriptionOrder} {now : ℤ} : op.tradeNo? = some y.tradeNo →
    orderByTradeNo s y.tradeNo = none → y.status = .success → s1.topUps = s.topUps →
    upsertSubscriptionTopUpTx s1 y .success now false = .ok s2 → s'.orders = s.orders.insert y →
    s'.topUps = s2.topUps → s'.plans = s.plans → MirrorEffect op s s'
  | saved {s s1 s2 s' : Store} {k : ℕ} {x y : SubscriptionOrder} {status : OrderStatus} {now : ℤ} {rebind : Bool} :
    s.orders.find? k = some x → y.tradeNo=x.tradeNo → mirrorStatus y.status = some status →
    rebind = true ∨ mirrorStatus x.status = none → s1.topUps = s.topUps →
    upsertSubscriptionTopUpTx s1 y status now rebind = .ok s2 → s'.orders = s.orders.set k y →
    s'.topUps = s2.topUps → s'.plans = s.plans → MirrorEffect op s s'
  | trans {s t s' : Store} : MirrorEffect op s t → MirrorEffect op t s' → MirrorEffect op s s'

lemma MirrorEffect.plans {op : SubscriptionOp} {s s' : Store} (h : MirrorEffect op s s')
    (hop : ∀ plans cache, op≠.catalogue plans cache) : s'.plans = s.plans := by
  induction h with
  | same hs => exact hs.plans
  | catalogue he => exact absurd he (hop _ _)
  | expired _ _ _ _ hp => exact hp
  | calledOff _ _ hp => exact hp
  | requested _ _ _ _ _ hp => exact hp
  | bought _ _ _ _ _ _ _ hp => exact hp
  | saved _ _ _ _ _ _ _ _ hp => exact hp
  | trans _ _ ih ih' => exact ih'.trans ih

lemma orderByTradeNo_none {s : Store} {tradeNo : String} (h : orderByTradeNo s tradeNo = none) {o : ℕ}
    {order : SubscriptionOrder} (ho : s.orders.find? o = some order) : order.tradeNo≠tradeNo := by
  simpa using Table.first?_eq_none_iff.mp h o order ho

/-- A trade number of subscriptions that no order has is new to the top-up table too. -/
lemma Mirrored.fresh {s : Store} {tradeNo : String} (h : Mirrored s) (hsub : isSubscriptionTradeNo tradeNo)
    (hnone : orderByTradeNo s tradeNo = none) : getTopUpByTradeNo s tradeNo = none := by
  apply Table.first?_eq_none_iff.mpr
  intro k topUp hk
  by_contra htn
  have he : topUp.tradeNo=tradeNo := by simpa using htn
  obtain ⟨o,order,ho,hot⟩ := h.owned k topUp hk (by rwa [he])
  exact orderByTradeNo_none hnone ho (hot.trans he)

theorem MirrorEffect.mirrored {op : SubscriptionOp} {s s' : Store} (he : MirrorEffect op s s')
    (hop : ∀ tradeNo, op.tradeNo? = some tradeNo → isSubscriptionTradeNo tradeNo) (h : Mirrored s) : Mirrored s' := by
  induction he with
  | same hs => exact h.congr hs.orders hs.topUps
  | catalogue _ ho ht => exact h.congr ho ht
  | @expired s s' k x now hx hst ho ht =>
    apply h.mapOrders ho ht
    intro j z hz
    split_ifs with hj
    · subst j
      obtain rfl := Option.some.inj (hx.symm.trans hz)
      exact ⟨rfl,fun ha => ha.unpaid (by rw [hst]; rfl) rfl rfl⟩
    · exact ⟨rfl,id⟩
  | calledOff ho ht =>
    simp only [expirePendingUpgradeOrdersTx,Table.updateWhere] at ho
    apply h.mapOrders ho ht
    intro j z hz
    split_ifs with hp
    · have hpend : z.status = .pending := (of_decide_eq_true hp).2.2
      exact ⟨rfl,fun ha => ha.unpaid (by rw [hpend]; rfl) rfl rfl⟩
    · exact ⟨rfl,id⟩
  | @requested s s' y htn hnone hst ho ht =>
    have hsub := hop _ htn
    have hu : (s.orders.insert y).Unique SubscriptionOrder.tradeNo :=
      h.orders.insert (fun k x hx => orderByTradeNo_none hnone hx)
    constructor
    · intro o order hfind
      rw [ho,Table.find?_insert] at hfind
      rw [MirrorAgrees.congr ht]
      split_ifs at hfind
      · obtain rfl := Option.some.inj hfind
        unfold MirrorAgrees
        rw [hst]
        exact h.fresh hsub hnone
      · exact h.agree o order hfind
    · rw [ho]
      exact hu
    · rw [ht]
      exact h.topUps
    · intro o order hfind
      rw [ho,Table.find?_insert] at hfind
      split_ifs at hfind
      · obtain rfl := Option.some.inj hfind
        exact hsub
      · exact h.ordered o order hfind
    · intro k topUp hk hks
      rw [ht] at hk
      obtain ⟨o,x,hx,hxt⟩ := h.owned k topUp hk hks
      refine ⟨o,x,?_,hxt⟩
      rw [ho]
      exact Table.find?_insert_of_some _ hx
  | @bought s s1 s2 s' y now htn hnone hst ht1 hup ho ht =>
    have hsub := hop _ htn
    apply h.upsert (k := s.orders.next) ht1 hup ht
    · rw [ho]
      exact Table.find?_insert_self _ _
    · intro o hne
      rw [ho,Table.find?_insert_of_ne _ _ hne]
    · intro x hx
      rw [Table.find?_next] at hx
      contradiction
    · rw [ho]
      exact h.orders.insert (fun k x hx => orderByTradeNo_none hnone hx)
    · exact hsub
    · rw [hst]
      rfl
    · intro id old hg
      rw [h.fresh hsub hnone] at hg
      contradiction
  | @saved s s1 s2 s' k x y status now rebind hx htn hst hr ht1 hup ho ht =>
    apply h.upsert (k := k) ht1 hup ht
    · rw [ho]
      exact Table.find?_set_self _ hx
    · intro o hne
      rw [ho,Table.find?_set_of_ne _ _ hne]
    · intro x' hx'
      obtain rfl := Option.some.inj (hx.symm.trans hx')
      exact htn.symm
    · rw [ho]
      exact h.orders.set hx htn
    · rw [htn]
      exact h.ordered k x hx
    · exact hst
    · intro id old hg
      rw [htn] at hg
      obtain ⟨st,hxs,hm⟩ := (h.agree k x hx).found hg
      rcases hr with hr | hr
      · exact ⟨hr,hm.amount,hm.provider⟩
      · rw [hr] at hxs
        contradiction
  | trans _ _ ih ih' => exact ih' (ih h)

section Parts
variable {op : SubscriptionOp} {s s1 s2 s' : Store}

lemma create_books {tz : ℤ} {u p k : ℕ} {plan : SubscriptionPlan} {source : SubscriptionSource}
    (h : createUserSubscriptionFromPlanTx tz s u p plan source = .ok (s',k)) : SameBooks s s' := by
  obtain ⟨_,-,h⟩ := bind_eq_ok.mp h
  obtain ⟨_,-,h⟩ := bind_eq_ok.mp h
  obtain ⟨_,-,h⟩ := bind_eq_ok.mp h
  obtain ⟨_,-,h⟩ := bind_eq_ok.mp h
  obtain ⟨⟨users,prev⟩,-,h⟩ := bind_eq_ok.mp h
  obtain ⟨rfl,-⟩ := Prod.mk.inj (Except.ok.inj h)
  exact ⟨rfl,rfl,rfl⟩

lemma upgrade_books {tz now : ℤ} {u id p k : ℕ} {plan : SubscriptionPlan}
    (h : performUpgradeTx tz s now u id p plan = .ok (s',k)) : SameBooks s s' := by
  obtain ⟨ho,ht,hp⟩ := create_books h
  exact ⟨ho,ht,hp⟩

lemma Opened.books {tz : ℤ} {x : SubscriptionOrder} {plan : SubscriptionPlan} {k src : ℕ}
    (h : Opened tz s x plan s' k src) : SameBooks s s' := by
  cases h with
  | upgrade _ _ hcreate => exact upgrade_books hcreate
  | new _ _ hcreate => exact create_books hcreate

lemma invalidate_books {id : ℕ} {sub : UserSubscription} {now : ℤ} {g : String}
    (h : invalidateUserSubscriptionTx s id sub now = .ok (s',g)) : SameBooks s s' := by
  obtain ⟨⟨s1,g1⟩,h1,h⟩ := bind_eq_ok.mp h
  obtain ⟨rfl,-⟩ := Prod.mk.inj (Except.ok.inj h)
  obtain ⟨users,rfl,-⟩ := downgrade_cases h1
  exact ⟨rfl,rfl,rfl⟩

lemma revoke_books {order : SubscriptionOrder} {now : ℤ} {b : Bool}
    (h : revokeOrderSubscription s order now = .ok (s',b)) : SameBooks s s' := by
  unfold revokeOrderSubscription at h
  split at h
  · obtain ⟨rfl,-⟩ := Prod.mk.inj (Except.ok.inj h)
    exact ⟨rfl,rfl,rfl⟩
  · split_ifs at h
    · obtain ⟨⟨s2,g⟩,hi,h⟩ := bind_eq_ok.mp h
      obtain ⟨rfl,-⟩ := Prod.mk.inj (Except.ok.inj h)
      exact invalidate_books hi
    · obtain ⟨rfl,-⟩ := Prod.mk.inj (Except.ok.inj h)
      exact ⟨rfl,rfl,rfl⟩

lemma delete_books {id : ℕ} {now : ℤ} {g : String} (h : adminDeleteUserSubscription s id now = .ok (s',g)) :
    SameBooks s s' := by
  obtain ⟨_,-,h⟩ := bind_eq_ok.mp h
  obtain ⟨sub,-,h⟩ := bind_eq_ok.mp h
  obtain ⟨⟨s1,g1⟩,h1,h⟩ := bind_eq_ok.mp h
  obtain ⟨rfl,-⟩ := Prod.mk.inj (Except.ok.inj h)
  obtain ⟨users,rfl,-⟩ := downgrade_cases h1
  exact ⟨rfl,rfl,rfl⟩

lemma expireDue_books {now : ℤ} {u : ℕ} {g : String} (h : expireDueSubscriptionsOfUser s now u = .ok (s',g)) :
    SameBooks s s' := by
  have hrows : ∀ users : Table User, SameBooks s { expireDueRows s now u with users := users } :=
    fun _ => ⟨rfl,rfl,rfl⟩
  unfold expireDueSubscriptionsOfUser at h
  dsimp only at h
  split_ifs at h with hact
  · obtain ⟨rfl,-⟩ := Prod.mk.inj (Except.ok.inj h)
    exact hrows s.users
  · split at h
    · obtain ⟨rfl,-⟩ := Prod.mk.inj (Except.ok.inj h)
      exact hrows s.users
    · split_ifs at h with hempty
      · obtain ⟨rfl,-⟩ := Prod.mk.inj (Except.ok.inj h)
        exact hrows s.users
      · obtain ⟨current,-,h⟩ := bind_eq_ok.mp h
        split_ifs at h
        · obtain ⟨rfl,-⟩ := Prod.mk.inj (Except.ok.inj h)
          exact hrows s.users
        · obtain ⟨rfl,-⟩ := Prod.mk.inj (Except.ok.inj h)
          exact hrows _

lemma saved_mirror {id : ℕ} {x y : SubscriptionOrder} {status : OrderStatus} {now : ℤ} {rebind : Bool}
    (hx : s.orders.find? id = some x) (h1 : SameBooks s s1)
    (h : saveOrderTx s1 id y status now rebind = .ok s') (htn : y.tradeNo=x.tradeNo)
    (hst : mirrorStatus y.status = some status) (hr : rebind = true ∨ mirrorStatus x.status = none) :
    MirrorEffect op s s' := by
  obtain ⟨s2,hup,h⟩ := bind_eq_ok.mp h
  obtain rfl := Except.ok.inj h
  refine .saved hx htn hst hr h1.topUps hup ?_ rfl ?_
  · obtain ⟨topUps,rfl⟩ := upsert_cases hup
    dsimp only
    rw [h1.orders]
  · obtain ⟨topUps,rfl⟩ := upsert_cases hup
    exact h1.plans

lemma bought_mirror {y : SubscriptionOrder} {now : ℤ} (hop : op.tradeNo? = some y.tradeNo) (hy : y.status = .success)
    (h1 : SameBooks s s1) (hinsert : insertOrder s1 y = .ok s2)
    (hup : upsertSubscriptionTopUpTx s2 y .success now false = .ok s') : MirrorEffect op s s' := by
  obtain ⟨_,hnone,-⟩ := bind_eq_ok.mp hinsert
  have hfree : orderByTradeNo s y.tradeNo = none := by
    rw [←require_eq_ok.mp hnone]
    unfold orderByTradeNo
    rw [h1.orders]
  have h2 := insertOrder_cases hinsert
  have ht : s2.topUps = s.topUps := by
    rw [h2]
    exact h1.topUps
  obtain ⟨topUps,hs⟩ := upsert_cases hup
  refine .bought hop hfree hy ht hup ?_ rfl ?_
  · rw [hs,h2]
    dsimp only
    rw [h1.orders]
  · rw [hs,h2]
    exact h1.plans

lemma requested_mirror {y : SubscriptionOrder} (hop : op.tradeNo? = some y.tradeNo) (hy : y.status = .pending)
    (h : insertOrder s y = .ok s') : MirrorEffect op s s' := by
  obtain ⟨_,hnone,h⟩ := bind_eq_ok.mp h
  obtain rfl := Except.ok.inj h
  exact .requested hop (require_eq_ok.mp hnone) hy rfl rfl rfl

lemma payFromBalance_books {u : ℕ} {quota : ℤ} {e : String} (h : payFromBalance s u quota e = .ok s') :
    SameBooks s s' := by
  obtain ⟨_,-,h⟩ := bind_eq_ok.mp h
  obtain ⟨_,-,h⟩ := bind_eq_ok.mp h
  obtain rfl := Except.ok.inj h
  split_ifs <;> exact ⟨rfl,rfl,rfl⟩

end Parts

/-! ## Operations -/

section Operations
variable {op : SubscriptionOp} {s s' : Store} {tz : ℤ}

lemma review_mirror {now : ℤ} {id : ℕ} {x : SubscriptionOrder} {payload m : String} {es : List SubscriptionEvent}
    {out : SubscriptionOrderOutcome} (hx : s.orders.find? id = some x) (hst : mirrorStatus x.status = none)
    (h : toManualReview s now id x payload m = .ok (s',es,out)) : MirrorEffect op s s' := by
  obtain ⟨s1,h1,h⟩ := bind_eq_ok.mp h
  obtain ⟨rfl,-⟩ := Prod.mk.inj (Except.ok.inj h)
  exact saved_mirror hx (.refl s) h1 rfl rfl (.inr hst)

lemma complete_mirror {now : ℤ} {tn payload m : String} {expected : PaymentProvider} {es : List SubscriptionEvent}
    {out : SubscriptionOrderOutcome} (h : completeSubscriptionOrder tz s now tn payload expected m = .ok (s',es,out)) :
    MirrorEffect op s s' := by
  obtain ⟨id,x,htn,hc⟩ := complete_cases h
  have hfind := orderByTradeNo_find htn
  cases hc with
  | settled => exact .same (.refl s)
  | review hst hreview =>
    apply review_mirror hfind _ hreview
    rcases hst with hst | hst <;> rw [hst] <;> rfl
  | delivered hst _ hopen hsave =>
    exact saved_mirror hfind hopen.books hsave rfl rfl (.inr (by rw [hst]; rfl))

lemma expireOrder_mirror {now : ℤ} {tn : String} {expected : PaymentProvider}
    (h : expireSubscriptionOrder s now tn expected = .ok s') : MirrorEffect op s s' := by
  obtain ⟨_,-,h⟩ := bind_eq_ok.mp h
  obtain ⟨⟨id,x⟩,hx,h⟩ := bind_eq_ok.mp h
  obtain ⟨_,-,h⟩ := bind_eq_ok.mp h
  split_ifs at h with hst
  · obtain rfl := Except.ok.inj h
    exact .same ⟨rfl,rfl,rfl⟩
  · obtain rfl := Except.ok.inj h
    exact .expired (orderByTradeNo_find (orFail_eq_ok.mp hx)) (not_not.mp hst) rfl rfl rfl

lemma adminExpire_mirror {now : ℤ} {id : ℕ} (h : adminExpireSubscriptionOrder s now id = .ok s') :
    MirrorEffect op s s' := by
  obtain ⟨_,-,h⟩ := bind_eq_ok.mp h
  obtain ⟨x,hx,h⟩ := bind_eq_ok.mp h
  split_ifs at h
  · obtain rfl := Except.ok.inj h
    exact .same ⟨rfl,rfl,rfl⟩
  · obtain ⟨_,hp,h⟩ := bind_eq_ok.mp h
    obtain rfl := Except.ok.inj h
    exact .expired (orFail_eq_ok.mp hx) (require_eq_ok.mp hp) rfl rfl rfl

lemma adminClose_mirror {now : ℤ} {id : ℕ} (h : adminCloseSubscriptionOrder s now id = .ok s') :
    MirrorEffect op s s' := by
  obtain ⟨_,-,h⟩ := bind_eq_ok.mp h
  obtain ⟨x,hx,h⟩ := bind_eq_ok.mp h
  split_ifs at h
  · obtain rfl := Except.ok.inj h
    exact .same ⟨rfl,rfl,rfl⟩
  · obtain ⟨_,-,h⟩ := bind_eq_ok.mp h
    exact saved_mirror (orFail_eq_ok.mp hx) (.refl s) h rfl rfl (.inl rfl)

lemma adminDeliver_mirror {now : ℤ} {id : ℕ} {es : List SubscriptionEvent}
    (h : adminDeliverSubscriptionOrder tz s now id = .ok (s',es)) : MirrorEffect op s s' := by
  obtain ⟨x,_,_,_,_,hfind,-,-,hopen,hsave,-⟩ := adminDeliver_cases h
  exact saved_mirror hfind hopen.books hsave rfl rfl (.inl rfl)

lemma adminRefund_mirror {S : Settings} {now : ℤ} {id : ℕ} {es : List SubscriptionEvent}
    (h : adminRefundSubscriptionOrder S s now id = .ok (s',es)) : MirrorEffect op s s' := by
  obtain ⟨_,-,h⟩ := bind_eq_ok.mp h
  obtain ⟨x,hx,h⟩ := bind_eq_ok.mp h
  split_ifs at h
  · obtain ⟨rfl,-⟩ := Prod.mk.inj (Except.ok.inj h)
    exact .same ⟨rfl,rfl,rfl⟩
  obtain ⟨_,-,h⟩ := bind_eq_ok.mp h
  obtain ⟨_,-,h⟩ := bind_eq_ok.mp h
  obtain ⟨⟨s1,b⟩,hrevoke,h⟩ := bind_eq_ok.mp h
  obtain ⟨charge,-,h⟩ := bind_eq_ok.mp h
  obtain ⟨value,-,h⟩ := bind_eq_ok.mp h
  dsimp only at h
  obtain ⟨s3,hsave,h⟩ := bind_eq_ok.mp h
  obtain ⟨rfl,-⟩ := Prod.mk.inj (Except.ok.inj h)
  obtain ⟨users,hcredit,-⟩ := credit_cases s1 x.userId (charge+value)
  rw [hcredit] at hsave
  obtain ⟨ho,ht,hp⟩ := revoke_books hrevoke
  have hsame : SameBooks s { s1 with users := users } := ⟨ho,ht,hp⟩
  exact saved_mirror (orFail_eq_ok.mp hx) hsame hsave rfl rfl (.inl rfl)

lemma purchase_mirror {S : Settings} {now : ℤ} {tn : String} {u p : ℕ} {es : List SubscriptionEvent}
    (h : purchaseSubscriptionWithBalance S s now tn u p = .ok (s',es)) :
    MirrorEffect (.purchaseWithBalance now tn u p) s s' := by
  obtain ⟨_,-,h⟩ := bind_eq_ok.mp h
  obtain ⟨plan,-,h⟩ := bind_eq_ok.mp h
  obtain ⟨_,-,h⟩ := bind_eq_ok.mp h
  obtain ⟨_,-,h⟩ := bind_eq_ok.mp h
  obtain ⟨_,-,h⟩ := bind_eq_ok.mp h
  obtain ⟨_,-,h⟩ := bind_eq_ok.mp h
  obtain ⟨quota,-,h⟩ := bind_eq_ok.mp h
  obtain ⟨s1,hpay,h⟩ := bind_eq_ok.mp h
  obtain ⟨⟨s2,k⟩,hcreate,h⟩ := bind_eq_ok.mp h
  obtain ⟨s3,hinsert,h⟩ := bind_eq_ok.mp h
  obtain ⟨s4,hup,h⟩ := bind_eq_ok.mp h
  obtain ⟨rfl,-⟩ := Prod.mk.inj (Except.ok.inj h)
  exact bought_mirror rfl rfl ((payFromBalance_books hpay).trans (create_books hcreate)) hinsert hup

lemma upgrade_mirror {S : Settings} {now : ℤ} {tn : String} {u id p : ℕ} {es : List SubscriptionEvent}
    (h : upgradeSubscriptionWithBalance S s now tn u id p = .ok (s',es)) :
    MirrorEffect (.upgradeWithBalance now tn u id p) s s' := by
  obtain ⟨_,-,h⟩ := bind_eq_ok.mp h
  dsimp only at h
  obtain ⟨⟨plan,quote⟩,-,h⟩ := bind_eq_ok.mp h
  obtain ⟨quota,-,h⟩ := bind_eq_ok.mp h
  obtain ⟨s2,hpay,h⟩ := bind_eq_ok.mp h
  obtain ⟨⟨s3,k⟩,hcreate,h⟩ := bind_eq_ok.mp h
  obtain ⟨s4,hinsert,h⟩ := bind_eq_ok.mp h
  obtain ⟨s5,hup,h⟩ := bind_eq_ok.mp h
  obtain ⟨rfl,-⟩ := Prod.mk.inj (Except.ok.inj h)
  have hsame := (payFromBalance_books hpay).trans (upgrade_books hcreate)
  exact .trans (.calledOff rfl rfl rfl) (bought_mirror rfl rfl hsame hinsert hup)

lemma redeem_mirror {now : ℤ} {tn : String} {u p r : ℕ} {es : List SubscriptionEvent}
    (h : redeemSubscriptionTx tz s now tn u p r = .ok (s',es)) : MirrorEffect (.redeem now tn u p r) s s' := by
  obtain ⟨plan,-,h⟩ := bind_eq_ok.mp h
  obtain ⟨_,-,h⟩ := bind_eq_ok.mp h
  obtain ⟨_,-,h⟩ := bind_eq_ok.mp h
  obtain ⟨⟨s1,k⟩,hcreate,h⟩ := bind_eq_ok.mp h
  obtain ⟨s2,hinsert,h⟩ := bind_eq_ok.mp h
  obtain ⟨s3,hup,h⟩ := bind_eq_ok.mp h
  obtain ⟨rfl,-⟩ := Prod.mk.inj (Except.ok.inj h)
  exact bought_mirror rfl rfl (create_books hcreate) hinsert hup

lemma requestEpay_mirror {seen : Store} {now : ℤ} {tn m : String} {u p : ℕ}
    (h : subscriptionRequestEpay seen s now tn m u p = .ok s') : MirrorEffect (.requestEpay seen now tn m u p) s s' := by
  obtain ⟨_,-,h⟩ := bind_eq_ok.mp h
  obtain ⟨_,-,h⟩ := bind_eq_ok.mp h
  obtain ⟨_,-,h⟩ := bind_eq_ok.mp h
  obtain ⟨_,-,h⟩ := bind_eq_ok.mp h
  obtain ⟨_,-,h⟩ := bind_eq_ok.mp h
  exact requested_mirror rfl rfl h

lemma requestUpgradeEpay_mirror {now : ℤ} {tn m : String} {u id p : ℕ}
    (h : createSubscriptionUpgradeEpayOrder s now tn m u id p = .ok s') :
    MirrorEffect (.requestUpgradeEpay now tn m u id p) s s' := by
  obtain ⟨_,-,h⟩ := bind_eq_ok.mp h
  dsimp only at h
  obtain ⟨_,-,h⟩ := bind_eq_ok.mp h
  obtain ⟨_,-,h⟩ := bind_eq_ok.mp h
  exact .trans (.calledOff rfl rfl rfl) (requested_mirror rfl rfl h)

theorem mirrorEffect_of_step {S : Settings} {es : List SubscriptionEvent}
    (h : (subscriptionSystem S).step s op = some (s',es)) : MirrorEffect op s s' := by
  cases op with
  | purchaseWithBalance now tn u p => exact purchase_mirror (toOption_eq_some.mp h)
  | upgradeWithBalance now tn u k p => exact upgrade_mirror (toOption_eq_some.mp h)
  | requestEpay seen now tn m u p =>
    obtain ⟨s1,hs,heq⟩ := Option.map_eq_some_iff.mp h
    obtain ⟨rfl,-⟩ := Prod.mk.inj heq
    exact requestEpay_mirror (toOption_eq_some.mp hs)
  | requestUpgradeEpay now tn m u k p =>
    obtain ⟨s1,hs,heq⟩ := Option.map_eq_some_iff.mp h
    obtain ⟨rfl,-⟩ := Prod.mk.inj heq
    exact requestUpgradeEpay_mirror (toOption_eq_some.mp hs)
  | complete now tn payload expected m =>
    obtain ⟨⟨s1,es1,out⟩,hs,heq⟩ := Option.map_eq_some_iff.mp h
    obtain ⟨rfl,-⟩ := Prod.mk.inj heq
    exact complete_mirror (toOption_eq_some.mp hs)
  | expireOrder now tn expected =>
    obtain ⟨s1,hs,heq⟩ := Option.map_eq_some_iff.mp h
    obtain ⟨rfl,-⟩ := Prod.mk.inj heq
    exact expireOrder_mirror (toOption_eq_some.mp hs)
  | adminDeliver now id => exact adminDeliver_mirror (toOption_eq_some.mp h)
  | adminClose now id =>
    obtain ⟨s1,hs,heq⟩ := Option.map_eq_some_iff.mp h
    obtain ⟨rfl,-⟩ := Prod.mk.inj heq
    exact adminClose_mirror (toOption_eq_some.mp hs)
  | adminExpire now id =>
    obtain ⟨s1,hs,heq⟩ := Option.map_eq_some_iff.mp h
    obtain ⟨rfl,-⟩ := Prod.mk.inj heq
    exact adminExpire_mirror (toOption_eq_some.mp hs)
  | adminRefund now id => exact adminRefund_mirror (toOption_eq_some.mp h)
  | redeem now tn u p r => exact redeem_mirror (toOption_eq_some.mp h)
  | adminBind seen u p =>
    obtain ⟨⟨s1,k⟩,hs,heq⟩ := Option.map_eq_some_iff.mp h
    obtain ⟨rfl,-⟩ := Prod.mk.inj heq
    obtain ⟨_,-,hs⟩ := bind_eq_ok.mp (toOption_eq_some.mp hs)
    obtain ⟨plan,-,hs⟩ := bind_eq_ok.mp hs
    exact .same (create_books hs)
  | adminInvalidate now k =>
    obtain ⟨⟨s1,g⟩,hs,heq⟩ := Option.map_eq_some_iff.mp h
    obtain ⟨rfl,-⟩ := Prod.mk.inj heq
    obtain ⟨_,-,hs⟩ := bind_eq_ok.mp (toOption_eq_some.mp hs)
    obtain ⟨sub,-,hs⟩ := bind_eq_ok.mp hs
    exact .same (invalidate_books hs)
  | adminDelete now k =>
    obtain ⟨⟨s1,g⟩,hs,heq⟩ := Option.map_eq_some_iff.mp h
    obtain ⟨rfl,-⟩ := Prod.mk.inj heq
    exact .same (delete_books (toOption_eq_some.mp hs))
  | expireDue now u =>
    change (if now ≤ s.dbTime then _ else none) = _ at h
    split_ifs at h with hnow
    obtain ⟨⟨s1,g⟩,hs,heq⟩ := Option.map_eq_some_iff.mp h
    obtain ⟨rfl,-⟩ := Prod.mk.inj heq
    exact .same (expireDue_books (toOption_eq_some.mp hs))
  | catalogue plans cache =>
    obtain ⟨rfl,-⟩ := Prod.mk.inj (Option.some.inj h)
    exact .catalogue rfl rfl rfl
  | tick time =>
    change (if s.dbTime≤time then _ else none) = _ at h
    split_ifs at h with ht
    obtain ⟨rfl,-⟩ := Prod.mk.inj (Option.some.inj h)
    exact .same ⟨rfl,rfl,rfl⟩

end Operations

/-! ## The wallet on the same table -/

def topUpTradeNoTakenMessage : String := "创建订单失败"

/-- The order that `RequestEpay` stores for a top-up; the column of trade numbers is unique. -/
def requestTopUp (s : Store) (now : ℤ) (tradeNo paymentMethod : String) (userId : ℕ) (amount : ℤ) (money : ℚ) :
    Except TxError Store := do
  require (.message topUpTradeNoTakenMessage) (getTopUpByTradeNo s tradeNo = none)
  .ok { s with
    topUps := s.topUps.insert {
      userId := userId
      amount := amount
      money := money
      tradeNo := tradeNo
      paymentMethod := paymentMethod
      paymentProvider := .epay
      createTime := now
      completeTime := 0
      status := .pending } }

/-- Subscription orders, and the operations of the wallet that take any trade number. -/
inductive FinanceOp
  | subscription (op : SubscriptionOp)
  | requestTopUp (now : ℤ) (tradeNo paymentMethod : String) (userId : ℕ) (amount : ℤ) (money : ℚ)
  | manualCompleteTopUp (now : ℤ) (tradeNo : String)
  | adminRefundTopUp (now : ℤ) (tradeNo : String)

def financeSystem (S : Settings) : TxSystem Store FinanceOp (SubscriptionEvent ⊕ TopUpEvent) where
  step s
    | .subscription op => ((subscriptionSystem S).step s op).map (fun o => (o.1,o.2.map Sum.inl))
    | .requestTopUp now tn m u amount money => (requestTopUp s now tn m u amount money).toOption.map (fun s' => (s',[]))
    | .manualCompleteTopUp now tn => (manualCompleteTopUp S tn now s).toOption.map (fun o => (o.1,o.2.map Sum.inr))
    | .adminRefundTopUp now tn => (adminRefundTopUp S tn now s).toOption.map (fun o => (o.1,o.2.map Sum.inr))

/-- Orders and top-ups receive trade numbers of their own form. -/
def FinanceOp.Numbered : FinanceOp → Prop
  | .subscription op => ∀ tradeNo∈op.tradeNo?, isSubscriptionTradeNo tradeNo
  | .requestTopUp _ tradeNo _ _ _ _ => isTopUpTradeNo tradeNo
  | _ => True

instance (op : FinanceOp) : Decidable op.Numbered := by
  cases op <;> unfold FinanceOp.Numbered <;> infer_instance

/-- The wallet does nothing under the trade number of an order: completing or refunding it changes
nothing, and its payment callback reads no top-up that it would process. -/
def WalletInert (S : Settings) (s : Store) : Prop :=
  ∀ o order, s.orders.find? o = some order →
    (∀ now s' es, manualCompleteTopUp S order.tradeNo now s = .ok (s',es) → s' = s ∧ es = []) ∧
    (∀ now o', adminRefundTopUp S order.tradeNo now s≠.ok o') ∧
    readTopUp s order.tradeNo = .ended

section Wallet
variable {S : Settings} {s s' : Store} {tradeNo : String}

lemma topUpQuota_zero (S : Settings) : topUpQuota S 0 = 0 := by
  unfold topUpQuota Rounding.intPart
  simp

theorem Mirrored.walletInert (h : Mirrored s) (S : Settings) : WalletInert S s := by
  intro o order ho
  have hagree := h.agree o order ho
  refine ⟨?_,?_,?_⟩
  · intro now s' es hc
    obtain ⟨_,-,hc⟩ := bind_eq_ok.mp hc
    obtain ⟨⟨id,topUp⟩,hg,hc⟩ := bind_eq_ok.mp hc
    obtain ⟨status,-,hm⟩ := hagree.found (orFail_eq_ok.mp hg)
    dsimp only at hc
    split_ifs at hc
    · obtain ⟨rfl,rfl⟩ := Prod.mk.inj (Except.ok.inj hc)
      exact ⟨rfl,rfl⟩
    · obtain ⟨_,-,hc⟩ := bind_eq_ok.mp hc
      obtain ⟨_,-,hc⟩ := bind_eq_ok.mp hc
      obtain ⟨_,hq,-⟩ := bind_eq_ok.mp hc
      have hpos := require_eq_ok.mp hq
      rw [hm.amount,topUpQuota_zero] at hpos
      exact absurd hpos (lt_irrefl 0)
  · intro now o' hr
    obtain ⟨_,-,hr⟩ := bind_eq_ok.mp hr
    obtain ⟨_,-,hr⟩ := bind_eq_ok.mp hr
    obtain ⟨_,hmirror,-⟩ := bind_eq_ok.mp hr
    have hcount : s.orders.count (fun r => r.2.tradeNo=order.tradeNo) = 0 := by
      simpa [isSubscriptionMirrorTradeNoTx] using require_eq_ok.mp hmirror
    have hnil := Table.select_eq_nil_iff.mp (List.length_eq_zero_iff.mp hcount) o order ho
    simp at hnil
  · unfold readTopUp
    cases hg : getTopUpByTradeNo s order.tradeNo with
    | none => rfl
    | some r =>
      obtain ⟨id,topUp⟩ := r
      obtain ⟨status,-,hm⟩ := hagree.found hg
      exact if_pos (by rw [hm.provider]; simp)

/-- Rows of the top-up table that are no mirrors change freely. -/
lemma Mirrored.setTopUp {id : ℕ} {topUp paid : TopUp} (h : Mirrored s)
    (hg : getTopUpByTradeNo s tradeNo = some (id,topUp)) (hp : paid.tradeNo=topUp.tradeNo)
    (hfree : ∀ o order, s.orders.find? o = some order → order.tradeNo≠tradeNo) (ho : s'.orders = s.orders)
    (ht : s'.topUps = s.topUps.set id paid) : Mirrored s' := by
  obtain ⟨hfind,htn⟩ := getTopUp_spec hg
  constructor
  · intro o order hrow
    rw [ho] at hrow
    apply (MirrorAgrees.congr_row ?_).mpr (h.agree o order hrow)
    intro tn htno
    unfold getTopUpByTradeNo
    rw [ht]
    apply getTopUp_set_of_ne hfind hp
    rw [htn,htno]
    exact (hfree o order hrow).symm
  · rw [ho]
    exact h.orders
  · rw [ht]
    exact h.topUps.set hfind hp
  · rw [ho]
    exact h.ordered
  · intro k row hk hsub
    rw [ho]
    rw [ht] at hk
    by_cases hid : k=id
    · rw [hid,Table.find?_set_self _ hfind] at hk
      obtain rfl := Option.some.inj hk
      rw [hp] at hsub ⊢
      exact h.owned id topUp hfind hsub
    · rw [Table.find?_set_of_ne _ _ hid] at hk
      exact h.owned k row hk hsub

lemma Mirrored.requestTopUp {now : ℤ} {m : String} {u : ℕ} {amount : ℤ} {money : ℚ} (h : Mirrored s)
    (htn : isTopUpTradeNo tradeNo) (hr : requestTopUp s now tradeNo m u amount money = .ok s') : Mirrored s' := by
  obtain ⟨_,hnone,hr⟩ := bind_eq_ok.mp hr
  obtain rfl := Except.ok.inj hr
  have hfree := require_eq_ok.mp hnone
  constructor
  · intro o order ho
    apply (MirrorAgrees.congr_row ?_).mpr (h.agree o order ho)
    intro tn htno
    apply getTopUp_insert_of_ne
    intro he
    apply htn.not_subscription
    have hsub := h.ordered o order ho
    rwa [←htno,←he] at hsub
  · exact h.orders
  · apply h.topUps.insert
    intro k row hk
    simpa using Table.first?_eq_none_iff.mp hfree k row hk
  · exact h.ordered
  · intro k row hk hsub
    rw [Table.find?_insert] at hk
    split_ifs at hk
    · obtain rfl := Option.some.inj hk
      exact absurd hsub htn.not_subscription
    · exact h.owned k row hk hsub

/-- What a wallet operation does under a trade number that is no order's. -/
lemma Mirrored.wallet (tn : String) (h : Mirrored s)
    (hinert : ∀ o order, s.orders.find? o = some order → order.tradeNo=tn → s' = s)
    (hset : s' = s ∨ ∃ id topUp paid, getTopUpByTradeNo s tn = some (id,topUp) ∧
      s'.topUps = s.topUps.set id paid ∧ s'.orders = s.orders ∧ paid.tradeNo=topUp.tradeNo) : Mirrored s' := by
  rcases hset with rfl | ⟨id,topUp,paid,hg,ht,ho,hp⟩
  · exact h
  by_cases hfree : ∀ o order, s.orders.find? o = some order → order.tradeNo≠tn
  · exact h.setTopUp hg hp hfree ho ht
  · push Not at hfree
    obtain ⟨o,order,hrow,htn⟩ := hfree
    rw [hinert o order hrow htn]
    exact h

lemma mirrored_of_no_orders (ho : s.orders.rows = []) (hu : s.topUps.Unique TopUp.tradeNo)
    (ht : ∀ k topUp, s.topUps.find? k = some topUp → isTopUpTradeNo topUp.tradeNo) : Mirrored s := by
  have hnone : ∀ o order, s.orders.find? o≠some order := by
    intro o order h
    have hm := (Table.find?_eq_some_iff _ _ _).mp h
    rw [ho] at hm
    contradiction
  constructor
  · exact fun o order h => absurd h (hnone o order)
  · exact fun o _ order _ h => absurd h (hnone o order)
  · exact hu
  · exact fun o order h => absurd h (hnone o order)
  · exact fun k topUp hk hsub => absurd hsub (ht k topUp hk).not_subscription

lemma mirrored_step {op : FinanceOp} {es : List (SubscriptionEvent ⊕ TopUpEvent)} (h : Mirrored s)
    (hop : op.Numbered) (hs : (financeSystem S).step s op = some (s',es)) : Mirrored s' := by
  cases op with
  | subscription op =>
    obtain ⟨⟨s1,es1⟩,hstep,heq⟩ := Option.map_eq_some_iff.mp hs
    obtain ⟨rfl,-⟩ := Prod.mk.inj heq
    exact (mirrorEffect_of_step hstep).mirrored hop h
  | requestTopUp now tn m u amount money =>
    obtain ⟨s1,hr,heq⟩ := Option.map_eq_some_iff.mp hs
    obtain ⟨rfl,-⟩ := Prod.mk.inj heq
    exact h.requestTopUp hop (toOption_eq_some.mp hr)
  | manualCompleteTopUp now tn =>
    obtain ⟨⟨s1,es1⟩,hc,heq⟩ := Option.map_eq_some_iff.mp hs
    obtain ⟨rfl,-⟩ := Prod.mk.inj heq
    have hok := toOption_eq_some.mp hc
    refine h.wallet tn ?_ ?_
    · intro o order ho htn
      subst tn
      exact ((h.walletInert S o order ho).1 now s1 es1 hok).1
    · obtain ⟨id,topUp,hg,⟨-,he⟩ | ⟨-,he⟩⟩ := manualComplete_cases hok
      · exact .inl (Prod.mk.inj he).1
      · obtain ⟨rfl,-⟩ := Prod.mk.inj he
        exact .inr ⟨id,topUp,_,hg,rfl,rfl,rfl⟩
  | adminRefundTopUp now tn =>
    obtain ⟨⟨s1,es1⟩,hc,heq⟩ := Option.map_eq_some_iff.mp hs
    obtain ⟨rfl,-⟩ := Prod.mk.inj heq
    have hok := toOption_eq_some.mp hc
    refine h.wallet tn ?_ ?_
    · intro o order ho htn
      subst tn
      exact absurd hok ((h.walletInert S o order ho).2.1 now _)
    · obtain ⟨id,topUp,hg,⟨-,he⟩ | ⟨-,users,es2,he,-⟩⟩ := adminRefund_cases hok
      · exact .inl (Prod.mk.inj he).1
      · obtain ⟨rfl,-⟩ := Prod.mk.inj he
        exact .inr ⟨id,topUp,_,hg,rfl,rfl,rfl⟩

/-- Orders and the top-up table stay in step, whatever operations on orders and on the wallet run in
whatever order, and the wallet never does anything under the trade number of an order. -/
theorem mirrors_agree (S : Settings) (s : Store) (hs : Mirrored s) (ops : List FinanceOp)
    (hops : ∀ op∈ops, op.Numbered) :
    (financeSystem S).Always (fun c => Mirrored c.state ∧ WalletInert S c.state) ⟨s,[]⟩ ops := by
  have hnumbered : (financeSystem S).Guarded (fun _ op => op.Numbered) ⟨s,[]⟩ ops :=
    guarded_of_forall (fun op hop _ => hops op hop)
  apply (always_of_guarded (P := fun c => Mirrored c.state) hs ?_ hnumbered).mono
  · exact fun d hd => ⟨hd,hd.walletInert S⟩
  · exact fun d op s' es hd hop h => mirrored_step hd hop h

end Wallet

/-- A payment comes in, and the wallet is asked to complete and to refund its mirror. -/
def mirroredPayment : List FinanceOp :=
  let counter := shop (Table.empty.insert (shopPlan 7 ""))
  [.subscription (.requestEpay counter 1000 "SUBUSR1NOa" "alipay" 1 1),
    .subscription (.complete 1001 "SUBUSR1NOa" "" .epay "wxpay"),
    .manualCompleteTopUp 1002 "SUBUSR1NOa",.adminRefundTopUp 1003 "SUBUSR1NOa",
    .requestTopUp 1004 "USR1NOb" "alipay" 1 10 70]

theorem mirrors_agree_mirroredPayment :
    (financeSystem shopSettings).Always (fun c => Mirrored c.state ∧ WalletInert shopSettings c.state)
      ⟨shop (Table.empty.insert (shopPlan 7 "")),[]⟩ mirroredPayment := by
  apply mirrors_agree shopSettings _ ?_ mirroredPayment (by decide)
  exact mirrored_of_no_orders rfl (fun _ _ _ _ h => nomatch h) (fun _ _ h => nomatch h)

end Tierflow
