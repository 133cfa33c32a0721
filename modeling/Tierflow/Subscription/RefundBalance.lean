import Mathlib.Data.Finset.Insert
import Tierflow.Subscription.Effects

/-! What refunds pay back in the whole of a run, against what was charged. An upgrade takes over
the value of the subscription that it replaces, and this chains orders together. -/
namespace Tierflow
open TxSystem

/-! ## Chains of upgrades -/

/-- The subscription that the chain of upgrades up to `k` began with. -/
def chainRoot : List SubscriptionEvent → ℕ → ℕ
  | [],k => k
  | .delivered _ sub source::es,k => if k=sub ∧ source≠0 then chainRoot es source else chainRoot es k
  | .charged _ _ _::es,k => chainRoot es k
  | .credited _ _ _::es,k => chainRoot es k

/-- The chain of an order is that of the subscription that it delivered. -/
def orderRoot (es : List SubscriptionEvent) (o : ℕ) : ℕ := chainRoot es ((deliveries o es).headD 0)

/-- A payment from a wallet for an order of some chain. -/
structure Payment where
  user : ℕ
  root : ℕ
  quota : ℤ

def payments : List SubscriptionEvent → List Payment
  | [] => []
  | .charged o u q::es => ⟨u,orderRoot es o,q⟩::payments es
  | .delivered _ _ _::es => payments es
  | .credited _ _ _::es => payments es

/-- What the orders of a user were charged. -/
def chargedTo (u : ℕ) (es : List SubscriptionEvent) : ℤ :=
  (((payments es).filter (fun p => p.user=u)).map Payment.quota).sum

def ordersOf (u : ℕ) (es : List SubscriptionEvent) : ℕ := ((payments es).filter (fun p => p.user=u)).length

def SubscriptionEvent.credit (u : ℕ) : SubscriptionEvent → ℤ
  | .credited _ v q => if v=u then q else 0
  | _ => 0

/-- What refunds credited to a user. -/
def creditedTo (u : ℕ) (es : List SubscriptionEvent) : ℤ := (es.map (SubscriptionEvent.credit u)).sum

/-- What an order can lose or gain by rounding: two roundings to cents and the divisions that
precede them, converted to quota, and one unit of quota. -/
def orderRounding (S : Settings) : ℚ := quotaRate S*(1/100+15/10^16)+divisionSlack S+1

/-- Payments of one kind, each counted with the rounding of its order. -/
def weigh (S : Settings) (f : Payment → Bool) (ps : List Payment) : ℚ :=
  (ps.map (fun p => if f p then (p.quota : ℚ)+orderRounding S else 0)).sum

section Weigh
variable {S : Settings} {f g : Payment → Bool} {ps : List Payment}

lemma orderRounding_pos (S : Settings) : 0<orderRounding S := by
  have hr := quotaRate_nonneg S
  have hs := divisionSlack_nonneg S
  unfold orderRounding
  positivity

@[simp] lemma weigh_nil (S : Settings) (f : Payment → Bool) : weigh S f [] = 0 := rfl

@[simp] lemma weigh_cons (S : Settings) (f : Payment → Bool) (p : Payment) (ps : List Payment) :
    weigh S f (p::ps) = (if f p then (p.quota : ℚ)+orderRounding S else 0)+weigh S f ps := rfl

lemma weigh_mono (hps : ∀ p∈ps, 0≤p.quota) (hfg : ∀ p, f p = true → g p = true) : weigh S f ps≤weigh S g ps := by
  have hr := orderRounding_pos S
  unfold weigh
  apply List.sum_le_sum
  intro p hp
  have hq : (0 : ℚ)≤p.quota := by exact_mod_cast hps p hp
  by_cases hf : f p
  · simp [hf,hfg p hf]
  · rw [if_neg hf]
    split_ifs
    · linarith
    · exact le_rfl

/-- Payments of two kinds that exclude each other. -/
lemma weigh_or (hfg : ∀ p, f p = true → g p = false) :
    weigh S (fun p => f p || g p) ps = weigh S f ps+weigh S g ps := by
  induction ps with
  | nil => simp
  | cons p ps ih =>
    rw [weigh_cons,weigh_cons,weigh_cons,ih]
    by_cases hf : f p
    · simp only [hf,hfg p hf,Bool.true_or,if_true,Bool.false_eq_true,if_false]
      ring
    · simp only [hf,Bool.false_or,Bool.false_eq_true,if_false]
      ring

lemma weigh_user (S : Settings) (u : ℕ) (ps : List Payment) :
    weigh S (fun p => p.user=u) ps =
      (((ps.filter (fun p => p.user=u)).map Payment.quota).sum : ℤ)+
        orderRounding S*(ps.filter (fun p => p.user=u)).length := by
  induction ps with
  | nil => simp
  | cons p ps ih =>
    rw [weigh_cons,ih]
    by_cases hu : p.user=u
    · rw [List.filter_cons_of_pos (by simpa using hu)]
      simp [hu]
      ring
    · rw [List.filter_cons_of_neg (by simpa using hu)]
      simp [hu]

end Weigh

section History
variable {o k src n u v : ℕ} {q : ℤ} {es : List SubscriptionEvent}

lemma chainRoot_delivered (h : n≠k) : chainRoot (.delivered o k src::es) n = chainRoot es n := by
  rw [chainRoot,if_neg (fun hk => h hk.1)]

lemma orderRoot_delivered (h : n≠o) (hk : (deliveries n es).headD 0≠k) :
    orderRoot (.delivered o k src::es) n = orderRoot es n := by
  unfold orderRoot
  rw [deliveries_delivered,if_neg h.symm,chainRoot_delivered hk]

lemma orderRoot_self : orderRoot (.delivered o k src::es) o = if src=0 then chainRoot es k else chainRoot es src := by
  unfold orderRoot
  rw [deliveries_delivered,if_pos rfl,List.headD_cons,chainRoot]
  by_cases h : src=0 <;> simp [h]

@[simp] lemma creditedTo_append (es es' : List SubscriptionEvent) :
    creditedTo u (es++es') = creditedTo u es+creditedTo u es' := by simp [creditedTo]

end History

/-! ## Runs of wallet operations -/

/-- Purchases and upgrades from the wallet, refunds of their orders, passing time and changing
catalogues. -/
def IsWalletOp : SubscriptionOp → Prop
  | .purchaseWithBalance _ _ _ _ | .upgradeWithBalance _ _ _ _ _ | .adminRefund _ _ => True
  | .catalogue _ _ | .tick _ => True
  | _ => False

/-- No refund of an order whose chain of upgrades holds an order that was refunded. -/
def OneRefundPerChain (c : Config Store SubscriptionEvent) : SubscriptionOp → Prop
  | .adminRefund _ o => ∀ order∈c.state.orders.find? o, order.status = .success →
      ∀ r∈c.state.orders.rows, r.2.status = .refunded → orderRoot c.history r.1≠orderRoot c.history o
  | _ => True

instance (c : Config Store SubscriptionEvent) (op : SubscriptionOp) : Decidable (OneRefundPerChain c op) := by
  cases op <;> unfold OneRefundPerChain <;> infer_instance

/-- Refunds have not credited a user more than his orders were charged, rounding aside. -/
def RefundsWithinCharges (S : Settings) (u : ℕ) (c : Config Store SubscriptionEvent) : Prop :=
  (creditedTo u c.history : ℚ) ≤ chargedTo u c.history+orderRounding S*ordersOf u c.history

/-- The wallet of a user moves with the charges and credits of his orders. -/
def WalletFollows (u : ℕ) (start : Option ℤ) (c : Config Store SubscriptionEvent) : Prop :=
  userQuota c.state.users u = start.map (fun q => q-chargedTo u c.history+creditedTo u c.history)

def paidFor (u r : ℕ) (p : Payment) : Bool := p.user=u ∧ p.root=r

def paidForSome (u : ℕ) (R : Finset ℕ) (p : Payment) : Bool := p.user=u ∧ p.root∈R

/-- The payments of a chain cover what its subscriptions are worth and what each of its orders would
pay back; chains that paid back are kept apart. -/
structure ChainsCovered (S : Settings) (c : Config Store SubscriptionEvent) : Prop where
  fresh : ∀ o k, k∈deliveries o c.history → k < c.state.subscriptions.next
  charges : ∀ p∈payments c.history, 0≤p.quota
  subs : ∀ k sub, c.state.subscriptions.find? k = some sub → 0 ≤ sub.paidMoney ∧
    quotaRate S*sub.paidMoney≤weigh S (paidFor sub.userId (chainRoot c.history k)) (payments c.history)
  orders : ∀ o order, c.state.orders.find? o = some order → order.status = .success → ∀ charge value,
    balanceCredit order = .ok charge → upgradeCredit S order = .ok value →
      ((charge+value : ℤ) : ℚ)≤weigh S (paidFor order.userId (orderRoot c.history o)) (payments c.history)
  refunds : ∃ R : Finset ℕ,
    (∀ r∈R, ∃ o order, c.state.orders.find? o = some order ∧ order.status = .refunded ∧ orderRoot c.history o=r) ∧
    ∀ u, (creditedTo u c.history : ℚ)≤weigh S (paidForSome u R) (payments c.history)

def IsSettled (order : SubscriptionOrder) : Prop := order.status = .success ∨ order.status = .refunded

lemma expirePending_settled {s : Store} {k o : ℕ} {now : ℤ} {order : SubscriptionOrder} (h : IsSettled order) :
    (expirePendingUpgradeOrdersTx s k now).orders.find? o = some order ↔ s.orders.find? o = some order := by
  have hne : order.status≠.expired ∧ order.status≠.pending := by rcases h with h | h <;> simp [h]
  simp only [expirePendingUpgradeOrdersTx,Table.find?_updateWhere]
  constructor
  · intro hm
    obtain ⟨x,hx,hm⟩ := Option.map_eq_some_iff.mp hm
    split_ifs at hm with hp
    · subst order
      exact absurd rfl hne.1
    · rw [hx,hm]
  · intro hx
    rw [hx,Option.map_some,if_neg]
    simp [hne.2]

lemma Created.rows {tz : ℤ} {s s' : Store} {u p k : ℕ} {plan : SubscriptionPlan} {source : SubscriptionSource}
    (h : Created tz s s' u p plan source k) {j : ℕ} {sub : UserSubscription}
    (hj : s'.subscriptions.find? j = some sub) :
    (j=k ∧ sub.userId=u ∧ sub.paidMoney=plan.priceAmount) ∨ (j≠k ∧ s.subscriptions.find? j = some sub) := by
  obtain ⟨endTime,prev,-,hs,-⟩ := h.row
  rw [hs,Table.find?_insert,←h.key] at hj
  split_ifs at hj with hjk
  · obtain rfl := Option.some.inj hj
    exact .inl ⟨hjk,rfl,rfl⟩
  · exact .inr ⟨hjk,hj⟩

/-- Without a creation, subscriptions keep their owner and their price. -/
lemma LifeEffect.kept {tz : ℤ} {op : SubscriptionOp} {s s' : Store} (h : LifeEffect tz op s s' none) :
    s'.subscriptions.next=s.subscriptions.next ∧ ∀ k sub, s'.subscriptions.find? k = some sub →
      ∃ old, s.subscriptions.find? k = some old ∧ old.userId=sub.userId ∧ old.paidMoney=sub.paidMoney := by
  have hmap : ∀ (p : ℕ × UserSubscription → Bool) (f : UserSubscription → UserSubscription),
      (∀ x, (f x).userId=x.userId ∧ (f x).paidMoney=x.paidMoney) → ∀ k sub,
        (s.subscriptions.updateWhere p f).find? k = some sub →
          ∃ old, s.subscriptions.find? k = some old ∧ old.userId=sub.userId ∧ old.paidMoney=sub.paidMoney := by
    intro p f hf k sub hk
    rw [Table.find?_updateWhere] at hk
    obtain ⟨old,hold,rfl⟩ := Option.map_eq_some_iff.mp hk
    refine ⟨old,hold,?_⟩
    split_ifs
    · exact ⟨(hf old).1.symm,(hf old).2.symm⟩
    · exact ⟨rfl,rfl⟩
  cases h with
  | same hl => exact ⟨by rw [hl.subscriptions],fun k sub hk => ⟨sub,by rwa [←hl.subscriptions],rfl,rfl⟩⟩
  | later hs => exact ⟨by rw [hs],fun k sub hk => ⟨sub,by rwa [←hs],rfl,rfl⟩⟩
  | cancelled _ hs => rw [hs]; exact ⟨rfl,hmap _ _ (fun _ => ⟨rfl,rfl⟩)⟩
  | deleted _ hs =>
    rw [hs]
    refine ⟨rfl,?_⟩
    intro k sub hk
    rw [Table.find?_delete] at hk
    split_ifs at hk
    exact ⟨sub,hk,rfl,rfl⟩
  | expired _ hs => rw [hs]; exact ⟨rfl,hmap _ _ (fun _ => ⟨rfl,rfl⟩)⟩

section Steps
variable {S : Settings} {d : Config Store SubscriptionEvent} {s' : Store}

lemma ChainsCovered.root_of_order (hd : ChainsCovered S d) {o n src : ℕ} (ho : o≠n) :
    orderRoot (.delivered n d.state.subscriptions.next src::d.history) o = orderRoot d.history o := by
  apply orderRoot_delivered ho
  cases hl : deliveries o d.history with
  | nil => exact d.state.subscriptions.next_pos.ne
  | cons j js =>
    have hj := hd.fresh o j (by rw [hl]; exact List.mem_cons_self)
    exact hj.ne

/-- An order that is bought joins its chain, and the chain then covers it. -/
lemma ChainsCovered.bought (hd : ChainsCovered S d) {u src : ℕ} {q : ℤ} {T : ℚ} {y : SubscriptionOrder} {r : ℕ}
    (hq : 0≤q) (hr : orderRoot (.delivered d.state.orders.next d.state.subscriptions.next src::d.history)
      d.state.orders.next=r) (hy : y.userId=u) (hT : 0≤T)
    (hnext : s'.subscriptions.next=d.state.subscriptions.next+1)
    (hsubs : ∀ j sub, s'.subscriptions.find? j = some sub →
      (j=d.state.subscriptions.next ∧ sub.userId=u ∧ sub.paidMoney=T) ∨
      (j≠d.state.subscriptions.next ∧ ∃ old, d.state.subscriptions.find? j = some old ∧ old.userId=sub.userId ∧
        old.paidMoney=sub.paidMoney))
    (horders : ∀ o order, IsSettled order → (s'.orders.find? o = some order ↔
      if o=d.state.orders.next then order=y else d.state.orders.find? o = some order))
    (hvalue : quotaRate S*T≤q+orderRounding S+weigh S (paidFor u r) (payments d.history))
    (hworth : ∀ charge value, balanceCredit y = .ok charge → upgradeCredit S y = .ok value →
      ((charge+value : ℤ) : ℚ)≤q+orderRounding S+weigh S (paidFor u r) (payments d.history)) :
    ChainsCovered S ⟨s',[.charged d.state.orders.next u q,
      .delivered d.state.orders.next d.state.subscriptions.next src]++d.history⟩ := by
  have hpay : payments ([.charged d.state.orders.next u q,
      .delivered d.state.orders.next d.state.subscriptions.next src]++d.history) = ⟨u,r,q⟩::payments d.history := by
    rw [←hr]
    rfl
  have hq' : (0 : ℚ)≤q := by exact_mod_cast hq
  have hrho := orderRounding_pos S
  have hgrow : ∀ f, weigh S f (payments d.history)≤weigh S f (⟨u,r,q⟩::payments d.history) := by
    intro f
    rw [weigh_cons]
    split_ifs <;> linarith
  have hself : weigh S (paidFor u r) (⟨u,r,q⟩::payments d.history) =
      q+orderRounding S+weigh S (paidFor u r) (payments d.history) := by simp [weigh_cons,paidFor]
  constructor
  · intro o k hk
    rw [deliveries_append,deliveries_charged,deliveries_delivered] at hk
    have hlt : ∀ j∈deliveries o d.history, j < s'.subscriptions.next := by
      intro j hj
      rw [hnext]
      exact (hd.fresh o j hj).trans (Nat.lt_succ_self _)
    rcases List.mem_append.mp hk with hk | hk
    · split_ifs at hk
      · obtain rfl := List.mem_singleton.mp hk
        rw [hnext]
        exact Nat.lt_succ_self _
      · contradiction
    · exact hlt k hk
  · rw [hpay]
    intro p hp
    rcases List.mem_cons.mp hp with rfl | hp
    · exact hq
    · exact hd.charges p hp
  · intro k sub hk
    rw [hpay]
    rcases hsubs k sub hk with ⟨rfl,hu,hpaid⟩ | ⟨hne,old,hold,hu,hpaid⟩
    · rw [hu,hpaid]
      refine ⟨hT,?_⟩
      have hroot : chainRoot ([.charged d.state.orders.next u q,
          .delivered d.state.orders.next d.state.subscriptions.next src]++d.history) d.state.subscriptions.next = r := by
        rw [←hr,orderRoot,deliveries_delivered,if_pos rfl]
        rfl
      rw [hroot,hself]
      exact hvalue
    · obtain ⟨h0,hle⟩ := hd.subs k old hold
      rw [←hu,←hpaid]
      refine ⟨h0,?_⟩
      have hroot : chainRoot ([.charged d.state.orders.next u q,
          .delivered d.state.orders.next d.state.subscriptions.next src]++d.history) k = chainRoot d.history k :=
        chainRoot_delivered (o := d.state.orders.next) hne
      rw [hroot]
      exact hle.trans (hgrow _)
  · intro o order ho hst charge value hc hv
    rw [hpay]
    have hrow := (horders o order (.inl hst)).mp ho
    split_ifs at hrow with hon
    · subst hrow hon hy
      have hroot : orderRoot ([.charged d.state.orders.next order.userId q,
          .delivered d.state.orders.next d.state.subscriptions.next src]++d.history) d.state.orders.next = r := hr
      rw [hroot,hself]
      exact hworth charge value hc hv
    · have hroot : orderRoot ([.charged d.state.orders.next u q,
          .delivered d.state.orders.next d.state.subscriptions.next src]++d.history) o = orderRoot d.history o :=
        hd.root_of_order hon
      rw [hroot]
      exact (hd.orders o order hrow hst charge value hc hv).trans (hgrow _)
  · obtain ⟨R,hR,hcredit⟩ := hd.refunds
    refine ⟨R,?_,?_⟩
    · intro j hj
      obtain ⟨o,order,ho,hst,hroot⟩ := hR j hj
      have hon : o≠d.state.orders.next := (Table.find?_lt ho).2.ne
      refine ⟨o,order,(horders o order (.inr hst)).mpr (by rwa [if_neg hon]),hst,?_⟩
      rw [←hroot]
      exact hd.root_of_order hon
    · intro v
      rw [hpay,creditedTo_append]
      have hnone : creditedTo v [.charged d.state.orders.next u q,
          .delivered d.state.orders.next d.state.subscriptions.next src] = 0 := rfl
      rw [hnone,zero_add]
      exact (hcredit v).trans (hgrow _)

/-- What a refund of a purchase pays back is at most what was charged. -/
lemma purchase_worth {now : ℤ} {tn : String} {u p : ℕ} {money : ℚ} {q charge value : ℤ} (hq : 0≤q)
    (hc : balanceCredit (purchaseOrder now tn u p money q) = .ok charge)
    (hv : upgradeCredit S (purchaseOrder now tn u p money q) = .ok value) : charge+value≤q := by
  rw [balanceCredit,if_pos (by rfl)] at hc
  obtain ⟨_,-,hc⟩ := bind_eq_ok.mp hc
  obtain rfl := Except.ok.inj hc
  rw [upgradeCredit,if_neg (by simp [purchaseOrder])] at hv
  obtain rfl := Except.ok.inj hv
  have hparse : parseChargedQuota (purchaseOrder now tn u p money q).providerPayload =
      if q<2^63 then q else 0 := parseChargedQuota_purchase hq
  rw [hparse]
  split_ifs <;> omega

/-- What a refund of an upgrade pays back: the difference that was charged, and the value of the
subscription that was replaced. -/
lemma upgrade_worth {now : ℤ} {tn : String} {u p k src : ℕ} {quote : SubscriptionUpgradeQuote} {q charge value : ℤ}
    {n : ℕ} (hq : 0≤q) (hn : quote.remainingValue*100 = n)
    (hc : balanceCredit (upgradeOrder now tn u p k src quote q) = .ok charge)
    (hv : upgradeCredit S (upgradeOrder now tn u p k src quote q) = .ok value) :
    charge≤q ∧ calcSubscriptionBalanceQuota S quote.remainingValue = .ok value := by
  rw [balanceCredit,if_pos (by rfl)] at hc
  obtain ⟨_,-,hc⟩ := bind_eq_ok.mp hc
  obtain rfl := Except.ok.inj hc
  rw [upgradeCredit,if_pos (by rfl)] at hv
  obtain ⟨v,hv',hv⟩ := bind_eq_ok.mp hv
  have hparse : parseChargedQuota (upgradeOrder now tn u p k src quote q).providerPayload =
      if q<2^63 then q else 0 := parseChargedQuota_upgrade hq
  have hvalue : parseRemainingValue (upgradeOrder now tn u p k src quote q).providerPayload =
      some quote.remainingValue := parseRemainingValue_upgrade hq hn
  rw [hvalue] at hv'
  obtain rfl := Option.some.inj (orFail_eq_ok.mp hv')
  refine ⟨?_,hv⟩
  rw [hparse]
  split_ifs <;> omega

lemma chainsCovered_purchase {now : ℤ} {tn : String} {u p : ℕ} {es : List SubscriptionEvent} (hd : ChainsCovered S d)
    (h : purchaseSubscriptionWithBalance S d.state now tn u p = .ok (s',es)) : ChainsCovered S ⟨s',es++d.history⟩ := by
  obtain ⟨plan,q,k,-,hprice,hquota,hc,ho,rfl,-⟩ := purchase_cases h
  obtain ⟨hq,hlow,-⟩ := calcSubscriptionBalanceQuota_bounds hquota
  have hslack : divisionSlack S≤orderRounding S := by
    have hr := quotaRate_nonneg S
    have hpos : 0≤quotaRate S*(1/100+15/10^16) := by positivity
    unfold orderRounding
    linarith
  obtain rfl := hc.key
  obtain ⟨endTime,prev,-,hsubs,-⟩ := hc.row
  have hbase : ∀ r, 0≤weigh S (paidFor u r) (payments d.history) := by
    intro r
    have hmono := weigh_mono (S := S) (f := fun _ => false) (g := paidFor u r) hd.charges (by simp)
    simpa [weigh] using hmono
  apply hd.bought (u := u) (y := purchaseOrder now tn u p plan.priceAmount q) hq rfl rfl hprice
    (by rw [hsubs]; rfl)
  · intro j sub hj
    rcases hc.rows hj with hj | ⟨hne,hj⟩
    · exact .inl hj
    · exact .inr ⟨hne,sub,hj,rfl,rfl⟩
  · intro o order _
    rw [ho,Table.find?_insert]
    split_ifs
    · exact ⟨fun h => (Option.some.inj h).symm,fun h => congrArg some h.symm⟩
    · exact Iff.rfl
  · have := hbase (orderRoot (.delivered d.state.orders.next d.state.subscriptions.next 0::d.history)
      d.state.orders.next)
    linarith
  · intro charge value hcharge hvalue
    have hworth : ((charge+value : ℤ) : ℚ)≤q := by exact_mod_cast purchase_worth hq hcharge hvalue
    have := hbase (orderRoot (.delivered d.state.orders.next d.state.subscriptions.next 0::d.history)
      d.state.orders.next)
    have := orderRounding_pos S
    linarith

lemma chainsCovered_upgrade {now : ℤ} {tn : String} {u id p : ℕ} {es : List SubscriptionEvent}
    (hd : ChainsCovered S d) (h : upgradeSubscriptionWithBalance S d.state now tn u id p = .ok (s',es)) :
    ChainsCovered S ⟨s',es++d.history⟩ := by
  obtain ⟨plan,quote,q,sub,k,hsub,hu,-,hquote,hquota,hc,ho,rfl,-⟩ := upgrade_cases h
  obtain ⟨-,hactive,hhigher,hremaining,hdue⟩ := quoteUpgradeLocked_ok hquote
  obtain ⟨hpaid0,hpaid⟩ := hd.subs id sub hsub
  obtain ⟨hq,hlow,-⟩ := calcSubscriptionBalanceQuota_bounds hquota
  obtain ⟨hv0,hvle⟩ := remainingValue_bounds hpaid0 (remainingDays_pos hactive).le (remainingDays_le _ _)
  rw [←hremaining] at hv0 hvle
  have hid : id≠0 := (Table.find?_lt hsub).1.ne'
  have hk : k=d.state.subscriptions.next := hc.key
  subst hk
  obtain ⟨endTime,prev,-,hsubs,-⟩ := hc.row
  have hr := quotaRate_nonneg S
  have hs := divisionSlack_nonneg S
  have hroot : orderRoot (.delivered d.state.orders.next d.state.subscriptions.next id::d.history) d.state.orders.next =
      chainRoot d.history id := by rw [orderRoot_self,if_neg hid]
  rw [hu] at hpaid
  -- the target is worth at most the old subscription and the difference, up to a cent
  have hvrate := mul_le_mul_of_nonneg_left hvle hr
  apply hd.bought (u := u) (y := upgradeOrder now tn u p d.state.subscriptions.next id quote q) hq hroot rfl
    (hpaid0.trans hhigher.le) (by rw [hsubs]; rfl)
  · intro j row hj
    rcases hc.rows hj with hj | ⟨hne,hj⟩
    · exact .inl hj
    · refine .inr ⟨hne,?_⟩
      simp only [disableTokensBySubscriptionIdsTx,cancelSubscription,Table.find?_updateWhere] at hj
      obtain ⟨old,hold,rfl⟩ := Option.map_eq_some_iff.mp hj
      refine ⟨old,hold,?_⟩
      split_ifs <;> exact ⟨rfl,rfl⟩
  · intro o order hst
    rw [ho,Table.find?_insert]
    split_ifs with ho1 ho2 ho2
    · exact ⟨fun h => (Option.some.inj h).symm,fun h => congrArg some h.symm⟩
    · exact absurd ho1 ho2
    · exact absurd ho2 ho1
    · exact expirePending_settled hst
  · have htarget := mul_le_mul_of_nonneg_left (le_amountDue plan.priceAmount quote.remainingValue) hr
    rw [←hdue] at htarget
    unfold orderRounding
    linarith
  · intro charge value hcharge hvalue
    rw [hremaining] at hv0
    obtain ⟨n,hn⟩ := remainingValue_cents hv0
    rw [←hremaining] at hv0 hn
    obtain ⟨hle,hcalc⟩ := upgrade_worth hq hn hcharge hvalue
    obtain ⟨-,-,hup⟩ := calcSubscriptionBalanceQuota_bounds hcalc
    rw [max_eq_right hv0] at hup
    have hle' : (charge : ℚ)≤q := by exact_mod_cast hle
    have hcent : 0≤quotaRate S*(1/200) := mul_nonneg hr (by norm_num)
    push_cast
    unfold orderRounding
    linarith

/-- Credits do not change chains and payments. -/
lemma history_credit (u o v : ℕ) (n : ℤ) (es : List SubscriptionEvent) (b : Prop) [Decidable b] :
    let es' := (if b then [.credited o v n] else [])++es
    (∀ k, chainRoot es' k = chainRoot es k) ∧ (∀ o, deliveries o es' = deliveries o es) ∧ payments es' = payments es ∧
      creditedTo u es' = (if v=u ∧ b then n else 0)+creditedTo u es := by
  by_cases hb : b
  · rw [if_pos hb]
    refine ⟨fun _ => rfl,fun _ => rfl,rfl,?_⟩
    by_cases hv : v=u <;> simp [creditedTo,SubscriptionEvent.credit,hb,hv]
  · rw [if_neg hb]
    exact ⟨fun _ => rfl,fun _ => rfl,rfl,by simp [hb]⟩

lemma chainsCovered_refund {now : ℤ} {o : ℕ} {es : List SubscriptionEvent} (hd : ChainsCovered S d)
    (hg : OneRefundPerChain d (.adminRefund now o))
    (h : adminRefundSubscriptionOrder S d.state now o = .ok (s',es)) : ChainsCovered S ⟨s',es++d.history⟩ := by
  obtain ⟨order,ho,⟨-,rfl,rfl⟩ | ⟨hst,hl,-,hset,charge,value,hcharge,hvalue,rfl,-⟩⟩ :=
    adminRefund_order_cases (.adminRefund now o) h
  · exact hd
  obtain ⟨hnext,hkept⟩ := hl.kept
  have hhist := fun u => history_credit u o order.userId (charge+value) d.history (0 < charge+value)
  obtain ⟨hchain,hdeliver,hpay,-⟩ := hhist 0
  have hroot : ∀ o', orderRoot
      ((if 0 < charge+value then [.credited o order.userId (charge+value)] else [])++d.history) o' =
        orderRoot d.history o' := by
    intro o'
    rw [orderRoot,hdeliver,hchain]
    rfl
  have hfind : ∀ {o' x}, s'.orders.find? o' = some x → o'≠o → d.state.orders.find? o' = some x := by
    intro o' x hx hne
    rw [hset,Table.find?_set_of_ne _ _ hne] at hx
    exact hx
  have hself : s'.orders.find? o = some { order with status := .refunded, completeTime := now } := by
    rw [hset]
    exact Table.find?_set_self _ ho
  constructor
  · intro o' k hk
    rw [hdeliver] at hk
    rw [hnext]
    exact hd.fresh o' k hk
  · rw [hpay]
    exact hd.charges
  · intro k sub hk
    obtain ⟨old,hold,hu,hpaid⟩ := hkept k sub hk
    rw [hchain,hpay,←hu,←hpaid]
    exact hd.subs k old hold
  · intro o' x hx hxs c v hc hv
    rw [hroot,hpay]
    by_cases hne : o'=o
    · subst o'
      obtain rfl := Option.some.inj (hself.symm.trans hx)
      contradiction
    · exact hd.orders o' x (hfind hx hne) hxs c v hc hv
  · obtain ⟨R,hR,hcredit⟩ := hd.refunds
    have hnot : orderRoot d.history o∉R := by
      intro hmem
      obtain ⟨o',x,hx,hxs,hroot'⟩ := hR _ hmem
      exact hg order ho hst (o',x) ((Table.mem_rows_iff _ _).mpr hx) hxs hroot'
    refine ⟨insert (orderRoot d.history o) R,?_,?_⟩
    · intro r hr
      rcases Finset.mem_insert.mp hr with rfl | hr
      · exact ⟨o,_,hself,rfl,hroot o⟩
      · obtain ⟨o',x,hx,hxs,hroot'⟩ := hR r hr
        have hne : o'≠o := by
          rintro rfl
          obtain rfl := Option.some.inj (hx.symm.trans ho)
          rw [hst] at hxs
          contradiction
        refine ⟨o',x,?_,hxs,by rw [hroot,hroot']⟩
        rw [hset,Table.find?_set_of_ne _ _ hne]
        exact hx
    · intro u
      obtain ⟨-,-,-,hcred⟩ := hhist u
      rw [hpay,hcred]
      -- the payments of this chain had not been counted
      have hsplit : weigh S (paidForSome u (insert (orderRoot d.history o) R)) (payments d.history) =
          weigh S (paidFor u (orderRoot d.history o)) (payments d.history)+
            weigh S (paidForSome u R) (payments d.history) := by
        rw [←weigh_or]
        · congr 1
          funext p
          simp only [paidForSome,paidFor,Finset.mem_insert,and_or_left,Bool.decide_or]
        · intro p hp
          have hp' : p.user=u ∧ p.root=orderRoot d.history o := of_decide_eq_true hp
          rw [paidForSome,hp'.2]
          exact decide_eq_false (fun hm => hnot hm.2)
      rw [hsplit]
      have hold := hcredit u
      have hmono := weigh_mono (S := S) (f := fun _ => false) (g := paidFor u (orderRoot d.history o)) hd.charges
        (by simp)
      rw [show weigh S (fun _ => false) (payments d.history) = 0 by simp [weigh]] at hmono
      push_cast
      split_ifs with hcase
      · have hworth := hd.orders o order ho hst charge value hcharge hvalue
        rw [hcase.1] at hworth
        push_cast at hworth ⊢
        linarith
      · linarith

lemma chainsCovered_step {op : SubscriptionOp} {es : List SubscriptionEvent} (hop : IsWalletOp op)
    (hg : OneRefundPerChain d op) (hd : ChainsCovered S d)
    (h : (subscriptionSystem S).step d.state op = some (s',es)) : ChainsCovered S ⟨s',es++d.history⟩ := by
  cases op with
  | purchaseWithBalance now tn u p => exact chainsCovered_purchase hd (toOption_eq_some.mp h)
  | upgradeWithBalance now tn u k p => exact chainsCovered_upgrade hd (toOption_eq_some.mp h)
  | adminRefund now o => exact chainsCovered_refund hd hg (toOption_eq_some.mp h)
  | catalogue plans cache =>
    obtain ⟨rfl,rfl⟩ := Prod.mk.inj (Option.some.inj h)
    exact ⟨hd.fresh,hd.charges,hd.subs,hd.orders,hd.refunds⟩
  | tick time =>
    change (if d.state.dbTime≤time then _ else none) = _ at h
    split_ifs at h with ht
    obtain ⟨rfl,rfl⟩ := Prod.mk.inj (Option.some.inj h)
    exact ⟨hd.fresh,hd.charges,hd.subs,hd.orders,hd.refunds⟩
  | _ => exact hop.elim

lemma ChainsCovered.within (hd : ChainsCovered S d) (u : ℕ) : RefundsWithinCharges S u d := by
  obtain ⟨R,-,hcredit⟩ := hd.refunds
  unfold RefundsWithinCharges chargedTo ordersOf
  rw [←weigh_user]
  apply (hcredit u).trans
  apply weigh_mono hd.charges
  intro p hp
  exact decide_eq_true (of_decide_eq_true hp).1

/-- The wallet moves by what an operation charges and credits. -/
lemma walletFollows_step {op : SubscriptionOp} {es : List SubscriptionEvent} {u : ℕ} {start : Option ℤ}
    (hop : IsWalletOp op) (hd : WalletFollows u start d)
    (h : (subscriptionSystem S).step d.state op = some (s',es)) : WalletFollows u start ⟨s',es++d.history⟩ := by
  have hbought : ∀ {o k src v : ℕ} {q : ℤ},
      (∀ w, userQuota s'.users w = (userQuota d.state.users w).map (fun x => x-if v=w then q else 0)) →
        WalletFollows u start ⟨s',[.charged o v q,.delivered o k src]++d.history⟩ := by
    intro o k src v q hq
    have hcharged : chargedTo u ([.charged o v q,.delivered o k src]++d.history) =
        (if v=u then q else 0)+chargedTo u d.history := by
      simp only [chargedTo,List.cons_append,List.nil_append,payments]
      by_cases hv : v=u
      · rw [List.filter_cons_of_pos (by simpa using hv),if_pos hv]
        rfl
      · rw [List.filter_cons_of_neg (by simpa using hv),if_neg hv,zero_add]
    have hcredited : creditedTo u ([.charged o v q,.delivered o k src]++d.history) = creditedTo u d.history := by
      rw [creditedTo_append]
      exact zero_add _
    unfold WalletFollows at hd ⊢
    rw [hq u,hd,Option.map_map,hcharged,hcredited]
    congr 1
    funext x
    simp only [Function.comp_apply]
    ring
  cases op with
  | purchaseWithBalance now tn v p =>
    obtain ⟨plan,q,k,-,-,-,-,-,rfl,hq⟩ := purchase_cases (toOption_eq_some.mp h)
    exact hbought hq
  | upgradeWithBalance now tn v k p =>
    obtain ⟨plan,quote,q,sub,k,-,-,-,-,-,-,-,rfl,hq⟩ := upgrade_cases (toOption_eq_some.mp h)
    exact hbought hq
  | adminRefund now o =>
    obtain ⟨order,-,⟨-,rfl,rfl⟩ | ⟨-,-,-,-,charge,value,-,-,rfl,hq⟩⟩ :=
      adminRefund_order_cases (.adminRefund now o) (toOption_eq_some.mp h)
    · exact hd
    · obtain ⟨-,-,hpay,hcredit⟩ := history_credit u o order.userId (charge+value) d.history (0 < charge+value)
      unfold WalletFollows chargedTo at hd ⊢
      rw [hpay,hcredit,hq u,hd,Option.map_map]
      congr 1
      funext x
      simp only [Function.comp_apply]
      ring
  | catalogue plans cache =>
    obtain ⟨rfl,rfl⟩ := Prod.mk.inj (Option.some.inj h)
    exact hd
  | tick time =>
    change (if d.state.dbTime≤time then _ else none) = _ at h
    split_ifs at h with ht
    obtain ⟨rfl,rfl⟩ := Prod.mk.inj (Option.some.inj h)
    exact hd
  | _ => exact hop.elim

end Steps

/-- In a run of purchases, upgrades and refunds in which no chain of upgrades is refunded twice, no
user is ever credited more than he was charged, up to the rounding of each of his orders; and what
he was charged and credited is what his wallet has lost and gained. -/
theorem refunds_within_charges (S : Settings) (s : Store) (horders : ∀ o, s.orders.find? o = none)
    (hsubs : ∀ k, s.subscriptions.find? k = none) (ops : List SubscriptionOp) (hops : ∀ op∈ops, IsWalletOp op)
    (hg : (subscriptionSystem S).Guarded OneRefundPerChain ⟨s,[]⟩ ops) (u : ℕ) :
    (subscriptionSystem S).Always (RefundsWithinCharges S u) ⟨s,[]⟩ ops ∧
    (subscriptionSystem S).Always (WalletFollows u (userQuota s.users u)) ⟨s,[]⟩ ops := by
  have hwallet : (subscriptionSystem S).Guarded (fun _ op => IsWalletOp op) ⟨s,[]⟩ ops :=
    guarded_of_forall (fun op hop _ => hops op hop)
  constructor
  · have h0 : ChainsCovered S ⟨s,[]⟩ := by
      refine ⟨fun _ _ hk => absurd hk List.not_mem_nil,fun _ hp => absurd hp List.not_mem_nil,?_,?_,∅,?_,?_⟩
      · intro k sub hk
        rw [hsubs] at hk
        contradiction
      · intro o order ho
        rw [horders] at ho
        contradiction
      · exact fun _ hr => absurd hr (Finset.notMem_empty _)
      · exact fun u => le_rfl
    apply (always_of_guarded h0 (fun d op s' es hd hop h => chainsCovered_step hop.1 hop.2 hd h)
      (hwallet.and hg)).mono
    exact fun d hd => hd.within u
  · apply always_of_guarded _ (fun d op s' es hd hop h => walletFollows_step hop hd h) hwallet
    unfold WalletFollows
    cases userQuota s.users u with
    | none => rfl
    | some q => simp [chargedTo,creditedTo,payments]

/-! ## A chain that is refunded twice -/

/-- A plan for seventy and one for a hundred and forty. -/
def upgradeShop : Store := shop ((Table.empty.insert (shopPlan 70 "")).insert (shopPlan 140 ""))

def refundedUpgrade : List SubscriptionOp :=
  [.purchaseWithBalance 1000 "T1" 1 1,.upgradeWithBalance 1000 "T2" 1 1 2,.adminRefund 1001 2]

/-- The first order of the chain is refunded after the upgrade, which had taken over its value. -/
def refundedTwice : List SubscriptionOp := refundedUpgrade++[.adminRefund 1002 1]

theorem refunds_within_charges_refundedUpgrade :
    (subscriptionSystem shopSettings).Always (RefundsWithinCharges shopSettings 1) ⟨upgradeShop,[]⟩ refundedUpgrade ∧
    (subscriptionSystem shopSettings).Always (WalletFollows 1 (some 100000000)) ⟨upgradeShop,[]⟩ refundedUpgrade :=
  refunds_within_charges shopSettings upgradeShop (fun _ => rfl) (fun _ => rfl) refundedUpgrade
    (by intro op hop; simp [refundedUpgrade] at hop; rcases hop with rfl | rfl | rfl <;> exact True.intro)
    (by decide +kernel) 1

/-- Ten million were charged and fifteen million are paid back; rounding is worth less than a
thousand for each of the two orders. -/
theorem refundedTwice_exceeds_charges :
    (let c := (subscriptionSystem shopSettings).run ⟨upgradeShop,[]⟩ refundedTwice;
      chargedTo 1 c.history=10000000 ∧ creditedTo 1 c.history=15000000 ∧ ordersOf 1 c.history=2 ∧
      userQuota c.state.users 1 = some 105000000) ∧
    orderRounding shopSettings<1000 ∧
    ¬(subscriptionSystem shopSettings).Always (RefundsWithinCharges shopSettings 1) ⟨upgradeShop,[]⟩ refundedTwice := by
  have hrun : let c := (subscriptionSystem shopSettings).run ⟨upgradeShop,[]⟩ refundedTwice;
      chargedTo 1 c.history=10000000 ∧ creditedTo 1 c.history=15000000 ∧ ordersOf 1 c.history=2 ∧
      userQuota c.state.users 1 = some 105000000 := by decide +kernel
  have hrounding : orderRounding shopSettings<1000 := by decide +kernel
  refine ⟨hrun,hrounding,?_⟩
  intro h
  obtain ⟨hcharged,hcredited,horders,-⟩ := hrun
  have hlast := h.last
  unfold RefundsWithinCharges at hlast
  rw [hcharged,hcredited,horders] at hlast
  push_cast at hlast
  linarith

end Tierflow
