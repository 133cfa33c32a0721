import Tierflow.Subscription.Effects

/-! What a refund leaves of the subscription that the order delivered. -/
namespace Tierflow
open TxSystem

def SubscriptionInactive (k : ℕ) (s : Store) : Prop := ∀ sub, s.subscriptions.find? k = some sub → sub.status≠.active

def KeysDisabled (k : ℕ) (s : Store) : Prop :=
  ∀ id token, s.tokens.find? id = some token → token.userSubscriptionId=k → token.status≠.enabled

/-- The keys of subscriptions work only while the subscription is active. Other keys carry no
subscription. -/
def KeysLive (s : Store) : Prop :=
  ∀ id token, s.tokens.find? id = some token → token.status = .enabled → token.userSubscriptionId≠0 →
    ∃ sub, s.subscriptions.find? token.userSubscriptionId = some sub ∧ sub.status = .active

/-- Refunded orders have taken their subscription back, and its keys. -/
def RefundRevokes (c : Config Store SubscriptionEvent) : Prop :=
  ∀ o order k, c.state.orders.find? o = some order → order.status = .refunded → k∈deliveries o c.history →
    SubscriptionInactive k c.state ∧ KeysDisabled k c.state

/-- No refund of a new purchase from the wallet while the subscription that it delivered is active.
A purchase that is not recorded to have cost anything is never refunded. -/
def NoUnlinkedRefund (c : Config Store SubscriptionEvent) : SubscriptionOp → Prop
  | .adminRefund _ o => ∀ order, c.state.orders.find? o = some order → order.status = .success →
      isBalancePurchase order → 0<parseChargedQuota order.providerPayload →
      ∀ k∈deliveries o c.history, SubscriptionInactive k c.state
  | _ => True

section Keys
variable {s s' : Store} {ids : List ℕ}

lemma disableTokens_find? {id : ℕ} {token : Token}
    (h : (disableTokensBySubscriptionIdsTx s ids).tokens.find? id = some token) (he : token.status = .enabled) :
    s.tokens.find? id = some token ∧ token.userSubscriptionId∉ids := by
  simp only [disableTokensBySubscriptionIdsTx,Table.find?_updateWhere] at h
  obtain ⟨old,hold,h⟩ := Option.map_eq_some_iff.mp h
  split_ifs at h with hmem
  · subst token
    contradiction
  · subst token
    exact ⟨hold,by simpa using hmem⟩

/-- Subscriptions end together with their keys. -/
lemma KeysLive.close (h : KeysLive s) (ht : s'.tokens = (disableTokensBySubscriptionIdsTx s ids).tokens)
    (hs : ∀ k sub, k∉ids → s.subscriptions.find? k = some sub → s'.subscriptions.find? k = some sub) :
    KeysLive s' := by
  intro id token htoken he hk
  rw [ht] at htoken
  obtain ⟨hold,hmem⟩ := disableTokens_find? htoken he
  obtain ⟨sub,hsub,ha⟩ := h id token hold he hk
  exact ⟨sub,hs _ sub hmem hsub,ha⟩

lemma KeysLive.cancel (h : KeysLive s) (id : ℕ) (now : ℤ) :
    KeysLive (disableTokensBySubscriptionIdsTx (cancelSubscription s id now) [id]) := by
  have ht : (disableTokensBySubscriptionIdsTx (cancelSubscription s id now) [id]).tokens =
      (disableTokensBySubscriptionIdsTx s [id]).tokens := rfl
  apply h.close ht
  intro k sub hk hsub
  have hne : k≠id := by simpa using hk
  simp [disableTokensBySubscriptionIdsTx,cancelSubscription,hsub,hne]

lemma KeysLive.create {tz : ℤ} {u p k : ℕ} {plan : SubscriptionPlan} {source : SubscriptionSource} (h : KeysLive s)
    (hc : Created tz s s' u p plan source k) : KeysLive s' := by
  obtain ⟨endTime,prev,-,hs,ht,-⟩ := hc.row
  intro id token htoken he hk
  rw [ht,Table.find?_insert] at htoken
  rw [hs]
  split_ifs at htoken with hid
  · obtain rfl := Option.some.inj htoken
    refine ⟨newUserSubscription tz s.dbTime u p plan source endTime prev,?_,rfl⟩
    rw [subscriptionToken,hc.key]
    exact Table.find?_insert_self _ _
  · obtain ⟨sub,hsub,ha⟩ := h id token htoken he hk
    exact ⟨sub,Table.find?_insert_of_some _ hsub,ha⟩

lemma KeysLive.disabled {k : ℕ} (h : KeysLive s) (hk : k≠0) (hs : SubscriptionInactive k s) : KeysDisabled k s := by
  intro id token htoken htk he
  subst k
  obtain ⟨sub,hsub,ha⟩ := h id token htoken he hk
  exact hs sub hsub ha

end Keys

section Life
variable {tz : ℤ} {op : SubscriptionOp} {s s' : Store} {new : Option ℕ}

lemma LifeEffect.keysLive (h : LifeEffect tz op s s' new) (hs : KeysLive s) : KeysLive s' := by
  cases h with
  | same hl => unfold KeysLive; rwa [hl.subscriptions,hl.tokens]
  | later hsub ht => unfold KeysLive; rwa [hsub,ht]
  | created _ hc => exact hs.create hc
  | upgraded _ _ _ _ _ hc => exact (hs.cancel _ _).create hc
  | @cancelled id sub now _ hsub ht =>
    apply hs.close ht
    intro k row hk hrow
    have hne : k≠id := by simpa using hk
    simp [hsub,cancelSubscription,hrow,hne]
  | @deleted id sub now _ hsub ht =>
    apply hs.close ht
    intro k row hk hrow
    have hne : k≠id := by simpa using hk
    rw [hsub,Table.find?_delete,if_neg hne,hrow]
  | @expired now u _ hsub ht =>
    apply hs.close ht
    intro k row hk hrow
    have hdue : isDue u now (k,row) = false := by
      by_contra hdue
      apply hk
      apply List.mem_map.mpr
      exact ⟨(k,row),Table.mem_select.mpr ⟨hrow,by simpa using hdue⟩,rfl⟩
    simp [hsub,expireDueRows,disableTokensBySubscriptionIdsTx,hrow,hdue]

/-- Keys are given out once. -/
lemma LifeEffect.next (h : LifeEffect tz op s s' new) : s.subscriptions.next ≤ s'.subscriptions.next ∧
    ∀ k, new = some k → 0<k ∧ k < s'.subscriptions.next := by
  have hcreated : ∀ {t : Store} {u p k : ℕ} {plan : SubscriptionPlan} {source : SubscriptionSource},
      Created tz t s' u p plan source k → t.subscriptions.next=s.subscriptions.next →
        s.subscriptions.next ≤ s'.subscriptions.next ∧ ∀ j, some k = some j → 0<j ∧ j < s'.subscriptions.next := by
    intro t u p k plan source hc ht
    obtain ⟨endTime,prev,-,hs,-⟩ := hc.row
    rw [hs,Table.next_insert,ht]
    refine ⟨Nat.le_succ _,?_⟩
    intro j hj
    obtain rfl := Option.some.inj hj
    rw [hc.key,ht]
    exact ⟨s.subscriptions.next_pos,Nat.lt_succ_self _⟩
  cases h with
  | same hl => exact ⟨by rw [hl.subscriptions],by rintro _ ⟨⟩⟩
  | later hs => exact ⟨by rw [hs],by rintro _ ⟨⟩⟩
  | created _ hc => exact hcreated hc rfl
  | upgraded _ _ _ _ _ hc => exact hcreated hc rfl
  | cancelled _ hs => exact ⟨by rw [hs]; exact le_rfl,by rintro _ ⟨⟩⟩
  | deleted _ hs => exact ⟨by rw [hs]; exact le_rfl,by rintro _ ⟨⟩⟩
  | expired _ hs => exact ⟨by rw [hs]; exact le_rfl,by rintro _ ⟨⟩⟩

/-- A subscription that has ended does not come back. -/
lemma LifeEffect.inactive {k : ℕ} (h : LifeEffect tz op s s' new) (hk : k < s.subscriptions.next)
    (hs : SubscriptionInactive k s) : SubscriptionInactive k s' := by
  have hcreated : ∀ {t : Store} {u p j : ℕ} {plan : SubscriptionPlan} {source : SubscriptionSource},
      Created tz t s' u p plan source j → t.subscriptions.next=s.subscriptions.next → SubscriptionInactive k t →
        SubscriptionInactive k s' := by
    intro t u p j plan source hc ht hi sub hsub
    obtain ⟨endTime,prev,-,hrow,-⟩ := hc.row
    rw [hrow,Table.find?_insert_of_ne _ _ (by rw [ht]; exact hk.ne)] at hsub
    exact hi sub hsub
  have hcancel : ∀ id now, SubscriptionInactive k (cancelSubscription s id now) := by
    intro id now sub hsub
    rw [cancelSubscription,Table.find?_updateWhere] at hsub
    obtain ⟨old,hold,rfl⟩ := Option.map_eq_some_iff.mp hsub
    split_ifs
    · simp
    · exact hs old hold
  cases h with
  | same hl => unfold SubscriptionInactive; rwa [hl.subscriptions]
  | later hsub => unfold SubscriptionInactive; rwa [hsub]
  | created _ hc => exact hcreated hc rfl hs
  | @upgraded u p id j plan sub _ _ _ _ _ hc => exact hcreated hc rfl (hcancel id s.dbTime)
  | @cancelled id sub now _ hsub => unfold SubscriptionInactive; rw [hsub]; exact hcancel id now
  | @deleted id _ _ _ hsub =>
    intro sub hfind
    rw [hsub,Table.find?_delete] at hfind
    split_ifs at hfind
    exact hs sub hfind
  | @expired now u _ hsub =>
    intro sub hfind
    rw [hsub,expireDueRows,disableTokensBySubscriptionIdsTx,Table.find?_updateWhere] at hfind
    obtain ⟨old,hold,rfl⟩ := Option.map_eq_some_iff.mp hfind
    split_ifs
    · simp
    · exact hs old hold

end Life

/-! ## Where subscriptions come from -/

/-- A delivered order was successful and names its subscription, unless it was bought from the
wallet. -/
structure Provenance (c : Config Store SubscriptionEvent) : Prop where
  delivered : ∀ o k, k∈deliveries o c.history → 0<k ∧ k < c.state.subscriptions.next ∧
    ∃ order, c.state.orders.find? o = some order ∧ (order.status = .success ∨ order.status = .refunded) ∧
      (order.userSubscriptionId=k ∨ isBalancePurchase order)
  keys : KeysLive c.state

lemma SameOrder.isBalancePurchase {x y : SubscriptionOrder} (h : SameOrder x y) (hx : isBalancePurchase x) :
    isBalancePurchase y := by
  unfold Tierflow.isBalancePurchase
  rwa [h.provider,h.type,h.sub]

/-- A row that was delivered is still there, and a row that is delivered now is a new success. -/
lemma OrderStep.delivered_row {op : SubscriptionOp} {new : Option ℕ} {es : List SubscriptionEvent} {o k : ℕ}
    {r r' : Option SubscriptionOrder} {old : List ℕ} (h : OrderStep op new es o r r')
    (hold : k∈old → ∃ x, r = some x ∧ (x.status = .success ∨ x.status = .refunded) ∧
      (x.userSubscriptionId=k ∨ isBalancePurchase x)) (hk : k∈deliveries o es++old) :
    (k∈old ∨ new = some k) ∧ ∃ y, r' = some y ∧ (y.status = .success ∨ y.status = .refunded) ∧
      (y.userSubscriptionId=k ∨ isBalancePurchase y) := by
  cases h with
  | same _ hes =>
    rw [hes,List.nil_append] at hk
    exact ⟨.inl hk,hold hk⟩
  | moved hm hxy hes =>
    rw [hes,List.nil_append] at hk
    obtain ⟨x,hx,hst,-⟩ := hold hk
    obtain rfl := Option.some.inj hx
    rcases hst with hst | hst <;> rw [hst] at hm <;> cases hm
  | @refunded x y now _ _ hy hxy hes =>
    rw [hes,List.nil_append] at hk
    obtain ⟨x,hx,-,hlink⟩ := hold hk
    obtain rfl := Option.some.inj hx
    refine ⟨.inl hk,y,rfl,.inr hy,?_⟩
    rcases hlink with hlink | hlink
    · exact .inl (hxy.sub.trans hlink)
    · exact .inr (hxy.isBalancePurchase hlink)
  | requested _ hes =>
    rw [hes,List.nil_append] at hk
    obtain ⟨x,hx,-⟩ := hold hk
    contradiction
  | @delivered x y j hx hy hj hnew hes =>
    rw [hes] at hk
    rcases List.mem_append.mp hk with hk | hk
    · obtain rfl := List.mem_singleton.mp hk
      exact ⟨.inr hnew,y,rfl,.inl hy,.inl hj⟩
    · obtain ⟨x,hx',hst,-⟩ := hold hk
      obtain rfl := Option.some.inj hx'
      rcases hx with hx | hx <;> rw [hx] at hst <;> simp at hst
  | @bought y j hy hj hnew hes =>
    rw [hes] at hk
    rcases List.mem_append.mp hk with hk | hk
    · obtain rfl := List.mem_singleton.mp hk
      exact ⟨.inr hnew,y,rfl,.inl hy,hj⟩
    · obtain ⟨x,hx,-⟩ := hold hk
      contradiction

variable {S : Settings}

lemma provenance_step {d : Config Store SubscriptionEvent} {op : SubscriptionOp} {s' : Store}
    {es : List SubscriptionEvent} (hd : Provenance d) (h : (subscriptionSystem S).step d.state op = some (s',es)) :
    Provenance ⟨s',es++d.history⟩ := by
  obtain ⟨new,hl,ho⟩ := stepEffect_of_step h
  constructor
  · intro o k hk
    rw [deliveries_append] at hk
    obtain ⟨hfrom,hrow⟩ := (ho o).delivered_row (fun hk => (hd.delivered o k hk).2.2) hk
    obtain ⟨hnext,hnew⟩ := hl.next
    rcases hfrom with hfrom | hfrom
    · obtain ⟨hpos,hlt,-⟩ := hd.delivered o k hfrom
      exact ⟨hpos,hlt.trans_le hnext,hrow⟩
    · obtain ⟨hpos,hlt⟩ := hnew k hfrom
      exact ⟨hpos,hlt,hrow⟩
  · exact hl.keysLive hd.keys

/-! ## Refunds -/

lemma saveOrder_rebind (s : Store) (id : ℕ) (order : SubscriptionOrder) (status : OrderStatus) (now : ℤ) :
    ∃ topUps, saveOrderTx s id order status now true =
      .ok { s with topUps := topUps, orders := s.orders.set id order } := by
  unfold saveOrderTx upsertSubscriptionTopUpTx
  cases s.topUps.first? (fun r => r.2.tradeNo=order.tradeNo) with
  | none => exact ⟨_,rfl⟩
  | some r =>
    have hmethod : mirrorMethod r.2 order true = .ok order.paymentMethod := by
      rw [mirrorMethod,if_pos (.inr rfl)]
    simp only [hmethod,ok_bind]
    exact ⟨_,rfl⟩

/-- A purchase from the wallet that is known to have cost something is always refunded, and its
subscription stays as it is. -/
lemma adminRefund_of_balancePurchase {s : Store} {o : ℕ} {order : SubscriptionOrder} (now : ℤ)
    (ho : s.orders.find? o = some order) (hst : order.status = .success) (hb : isBalancePurchase order)
    (hq : 0<parseChargedQuota order.providerPayload) :
    ∃ s' es, adminRefundSubscriptionOrder S s now o = .ok (s',es) ∧ s'.subscriptions = s.subscriptions := by
  obtain ⟨hprovider,htype,hsub⟩ := hb
  have hid : o≠0 := (Table.find?_lt ho).1.ne'
  have hrevoke : revokeOrderSubscription s order now = .ok (s,false) := by
    rw [revokeOrderSubscription,hsub,Table.find?_zero]
  have hcharge : balanceCredit order = .ok (parseChargedQuota order.providerPayload) := by
    rw [balanceCredit,if_pos hprovider,require_of hq]
    rfl
  have hvalue : upgradeCredit S order = .ok 0 := by
    rw [upgradeCredit,if_neg (by rw [htype]; simp)]
  let s1 := creditUser s order.userId (parseChargedQuota order.providerPayload)
  let refunded : SubscriptionOrder := { order with status := .refunded, completeTime := now }
  obtain ⟨topUps,hsave⟩ := saveOrder_rebind s1 o refunded .refunded now
  refine ⟨{ s1 with topUps := topUps, orders := s1.orders.set o refunded },
    [.credited o order.userId (parseChargedQuota order.providerPayload)],?_,rfl⟩
  unfold adminRefundSubscriptionOrder
  rw [require_of hid,ho]
  simp only [ok_bind,orFail_some]
  rw [if_neg (by rw [hst]; simp),require_of hst,require_of (by rw [hprovider]; simp)]
  simp only [ok_bind,hrevoke,hcharge,hvalue,add_zero,if_pos hq]
  rw [hsave]
  rfl

lemma StatusMove.ne_refunded {a b : OrderStatus} (h : StatusMove a b) : b≠.refunded := by cases h <;> simp

/-- The subscription that a refunded order delivered has ended: the refund found it through the order,
or the order could not name it and it had ended before. -/
lemma refund_inactive {d : Config Store SubscriptionEvent} {s' : Store} {es : List SubscriptionEvent} {now : ℤ}
    {o k : ℕ} {order : SubscriptionOrder} {tz : ℤ} {op : SubscriptionOp} {new : Option ℕ} (hd : Provenance d)
    (hg : isBalancePurchase order → 0<parseChargedQuota order.providerPayload →
      ∀ k∈deliveries o d.history, SubscriptionInactive k d.state)
    (h : adminRefundSubscriptionOrder S d.state now o = .ok (s',es)) (hl : LifeEffect tz op d.state s' new)
    (ho : d.state.orders.find? o = some order) (hst : order.status = .success) (hk : k∈deliveries o d.history) :
    SubscriptionInactive k s' := by
  obtain ⟨x,hx,⟨hx',-⟩ | ⟨-,-,hrevoked,-,charge,-,hcharge,-⟩⟩ := adminRefund_order_cases (.adminRefund now o) h
  · obtain rfl := Option.some.inj (ho.symm.trans hx)
    rw [hst] at hx'
    contradiction
  obtain rfl := Option.some.inj (ho.symm.trans hx)
  obtain ⟨-,hlt,row,hrow,-,hlink⟩ := hd.delivered o k hk
  obtain rfl := Option.some.inj (ho.symm.trans hrow)
  rcases hlink with hlink | hlink
  · subst k
    exact hrevoked
  · rw [balanceCredit,if_pos hlink.1] at hcharge
    obtain ⟨_,hpos,-⟩ := bind_eq_ok.mp hcharge
    exact hl.inactive hlt (hg hlink (require_eq_ok.mp hpos) k hk)

/-- With its provenance known, an operation leaves all refunded orders revoked exactly when it is
not the refund of an order whose active subscription it cannot find. -/
lemma refundRevokes_exec_iff {d : Config Store SubscriptionEvent} {op : SubscriptionOp} (hd : Provenance d)
    (hq : RefundRevokes d) : RefundRevokes ((subscriptionSystem S).exec d op) ↔ NoUnlinkedRefund d op := by
  cases h : (subscriptionSystem S).step d.state op with
  | none =>
    rw [exec_of_none h]
    refine iff_of_true hq ?_
    cases op with
    | adminRefund now o =>
      intro order ho hst hb hcharged
      obtain ⟨s',es,hok,-⟩ := adminRefund_of_balancePurchase (S := S) now ho hst hb hcharged
      have hstep : (subscriptionSystem S).step d.state (.adminRefund now o) = some (s',es) := toOption_eq_some.mpr hok
      rw [h] at hstep
      contradiction
    | _ => trivial
  | some r =>
    obtain ⟨s',es⟩ := r
    rw [exec_of_some h]
    obtain ⟨new,hl,horders⟩ := stepEffect_of_step h
    constructor
    · intro hq'
      cases op with
      | adminRefund now o =>
        intro order ho hst hb hcharged k hk
        have hok : adminRefundSubscriptionOrder S d.state now o = .ok (s',es) := toOption_eq_some.mp h
        obtain ⟨t,es',hok',hsubs⟩ := adminRefund_of_balancePurchase (S := S) now ho hst hb hcharged
        obtain ⟨rfl,rfl⟩ := Prod.mk.inj (Except.ok.inj (hok'.symm.trans hok))
        obtain ⟨x,hx,⟨hx',-⟩ | ⟨-,-,-,hset,-⟩⟩ := adminRefund_order_cases (.adminRefund now o) hok
        · obtain rfl := Option.some.inj (ho.symm.trans hx)
          rw [hst] at hx'
          contradiction
        · have hfind : t.orders.find? o = some { x with status := .refunded, completeTime := now } := by
            rw [hset]
            exact Table.find?_set_self _ hx
          have hinactive := (hq' o _ k hfind rfl (by rw [deliveries_append]; exact List.mem_append_right _ hk)).1
          unfold SubscriptionInactive at hinactive ⊢
          rwa [←hsubs]
      | _ => trivial
    · intro hg o order k ho hst hk
      have hd' := provenance_step hd h
      have hpos := (hd'.delivered o k hk).1
      suffices hinactive : SubscriptionInactive k s' from ⟨hinactive,hd'.keys.disabled hpos.ne' hinactive⟩
      have hstep := horders o
      rw [ho] at hstep
      generalize hr : d.state.orders.find? o = r at hstep
      cases hstep with
      | same _ hes =>
        rw [deliveries_append,hes,List.nil_append] at hk
        exact hl.inactive (hd.delivered o k hk).2.1 (hq o order k hr hst hk).1
      | moved hm => exact absurd hst hm.ne_refunded
      | @refunded x y now hop hx _ _ hes =>
        subst op
        rw [deliveries_append,hes,List.nil_append] at hk
        exact refund_inactive hd (hg x hr hx) (toOption_eq_some.mp h) hl hr hx hk
      | requested hy => rw [hst] at hy; contradiction
      | delivered _ hy => rw [hst] at hy; contradiction
      | bought hy => rw [hst] at hy; contradiction

/-- After every run, each refunded order has taken back the subscription that it delivered and the
keys of it, if and only if no step of the run refunded a purchase from the wallet whose subscription
was active. -/
theorem refund_revokes_iff (S : Settings) (s : Store) (hs : KeysLive s) (ops : List SubscriptionOp) :
    (subscriptionSystem S).Always RefundRevokes ⟨s,[]⟩ ops ↔
      (subscriptionSystem S).Guarded NoUnlinkedRefund ⟨s,[]⟩ ops := by
  have h0 : Provenance ⟨s,[]⟩ := ⟨fun o k hk => absurd hk List.not_mem_nil,hs⟩
  apply always_iff_guarded (always_of_step h0 (fun _ _ _ _ hd h => provenance_step hd h) ops)
  · exact fun _ _ _ _ _ hk => absurd hk List.not_mem_nil
  · intro d op hd hq
    exact refundRevokes_exec_iff hd hq

/-! ## A refund that leaves the subscription -/

def monthlyShop : Store := shop (Table.empty.insert (shopPlan 7 ""))

def refundedPurchase : List SubscriptionOp := [.purchaseWithBalance 1000 "T1" 1 1,.adminRefund 1001 1]

theorem refund_revokes_iff_refundedPurchase :
    (subscriptionSystem shopSettings).Always RefundRevokes ⟨monthlyShop,[]⟩ refundedPurchase ↔
      (subscriptionSystem shopSettings).Guarded NoUnlinkedRefund ⟨monthlyShop,[]⟩ refundedPurchase :=
  refund_revokes_iff shopSettings monthlyShop (fun _ _ h => nomatch h) refundedPurchase

/-- The purchase is paid back in full, and its subscription and key go on. -/
theorem refundedPurchase_not_revoked :
    (let c := (subscriptionSystem shopSettings).run ⟨monthlyShop,[]⟩ refundedPurchase;
      (c.state.orders.find? 1).map SubscriptionOrder.status = some .refunded ∧ deliveries 1 c.history = [1] ∧
      (c.state.subscriptions.find? 1).map UserSubscription.status = some .active ∧
      (c.state.tokens.find? 1).map (fun t => (t.userSubscriptionId,t.status)) = some (1,.enabled) ∧
      userQuota c.state.users 1 = some 100000000) ∧
    ¬(subscriptionSystem shopSettings).Always RefundRevokes ⟨monthlyShop,[]⟩ refundedPurchase := by
  have hrun : let c := (subscriptionSystem shopSettings).run ⟨monthlyShop,[]⟩ refundedPurchase;
      (c.state.orders.find? 1).map SubscriptionOrder.status = some .refunded ∧ deliveries 1 c.history = [1] ∧
      (c.state.subscriptions.find? 1).map UserSubscription.status = some .active ∧
      (c.state.tokens.find? 1).map (fun t => (t.userSubscriptionId,t.status)) = some (1,.enabled) ∧
      userQuota c.state.users 1 = some 100000000 := by decide +kernel
  refine ⟨hrun,?_⟩
  intro h
  obtain ⟨horder,hdelivered,hsub,-⟩ := hrun
  obtain ⟨order,ho,hst⟩ := Option.map_eq_some_iff.mp horder
  obtain ⟨sub,hk,ha⟩ := Option.map_eq_some_iff.mp hsub
  exact (h.last 1 order 1 ho hst (by rw [hdelivered]; simp)).1 sub hk ha

end Tierflow
