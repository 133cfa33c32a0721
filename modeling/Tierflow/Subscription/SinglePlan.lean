import Tierflow.Subscription.Effects

/-! How many plans a user has at a time. -/
namespace Tierflow
open TxSystem

def InForce (s : Store) (k : ℕ) (sub : UserSubscription) : Prop :=
  s.subscriptions.find? k = some sub ∧ sub.status = .active ∧ s.dbTime < sub.endTime

/-- All subscriptions of a user that are in force are of one plan. -/
def SinglePlan (s : Store) : Prop :=
  ∀ j k a b, InForce s j a → InForce s k b → a.userId=b.userId → a.planId=b.planId

/-- Every other subscription of the user that is in force is of the plan `p`. -/
def OthersOfPlan (s : Store) (u p src : ℕ) : Prop :=
  ∀ r∈s.subscriptions.rows, r.2.userId=u → r.2.status = .active → s.dbTime < r.2.endTime → r.1≠src → r.2.planId=p

/-- Nobody binds plans by hand, and an upgrade replaces the last subscription of its user that is not
of the target plan. -/
def ReplacesLast (c : Config Store SubscriptionEvent) : SubscriptionOp → Prop
  | .adminBind _ _ _ => False
  | op => ∀ x∈op.creation? c.state, (upgradeSource c.state x.user x.source c.state.dbTime).isSome →
      OthersOfPlan c.state x.user x.planId x.source

/-! ## The guard of purchases -/

section Guard
variable {S : Settings} {s s' : Store} {es : List SubscriptionEvent}

/-- With a single plan at a time, the guard lets pass only this plan. -/
lemma SinglePlan.check {u p : ℕ} {plan : SubscriptionPlan} {v : Unit} (h : SinglePlan s)
    (hc : checkActivePurchaseAllowedTx s u p plan s.dbTime = .ok v) {k : ℕ} {sub : UserSubscription}
    (hk : InForce s k sub) (hu : sub.userId=u) : sub.planId=p := by
  obtain ⟨_,-,hc⟩ := bind_eq_ok.mp hc
  have hmem : (k,sub)∈s.subscriptions.select (fun r => r.2.userId=u ∧ r.2.status = .active ∧ s.dbTime < r.2.endTime) :=
    Table.mem_select.mpr ⟨hk.1,decide_eq_true ⟨hu,hk.2⟩⟩
  dsimp only at hc
  split_ifs at hc with hpass
  rcases hpass with hnil | ⟨r,hr,hp⟩
  · rw [hnil] at hmem
    contradiction
  · obtain ⟨hfind,hact⟩ := Table.mem_select.mp hr
    obtain ⟨hru,hforce⟩ := of_decide_eq_true hact
    exact (h k r.1 sub r.2 hk ⟨hfind,hforce⟩ (hu.trans hru.symm)).trans hp

lemma review_subscriptions {now : ℤ} {id : ℕ} {x : SubscriptionOrder} {payload m : String}
    {o : Store × List SubscriptionEvent × SubscriptionOrderOutcome} (h : toManualReview s now id x payload m = .ok o) :
    o.1.subscriptions = s.subscriptions := by
  obtain ⟨s1,h1,h⟩ := bind_eq_ok.mp h
  obtain ⟨topUps,rfl⟩ := saveOrder_cases h1
  obtain rfl := Except.ok.inj h
  rfl

/-- A paid order that replaces nothing creates a subscription only behind the guard. -/
lemma complete_guarded {tz now : ℤ} {tn payload m : String} {expected : PaymentProvider} {id : ℕ}
    {x : SubscriptionOrder} {plan : SubscriptionPlan} {out : SubscriptionOrderOutcome}
    (h : completeSubscriptionOrder tz s now tn payload expected m = .ok (s',es,out))
    (hx : orderByTradeNo s tn = some (id,x)) (hplan : getSubscriptionPlanByIdTx s x.planId = .ok plan)
    (hsrc : upgradeSource s x.userId x.fromSubscriptionId s.dbTime = none ∨ x.orderType≠.upgrade)
    (hne : s'.subscriptions≠s.subscriptions) :
    checkActivePurchaseAllowedTx s x.userId x.planId plan s.dbTime = .ok () := by
  obtain ⟨id',x',hx',hc⟩ := complete_cases h
  obtain ⟨rfl,rfl⟩ := Prod.mk.inj (Option.some.inj (hx.symm.trans hx'))
  cases hc with
  | settled => exact absurd rfl hne
  | review _ hreview => exact absurd (review_subscriptions hreview) hne
  | delivered _ hplan' hopen _ =>
    obtain rfl := Except.ok.inj (hplan.symm.trans hplan')
    exact hopen.guarded hsrc

/-- Whatever creates a subscription without replacing one has passed the guard, except a binding by hand. -/
lemma creation_guarded {op : SubscriptionOp} {u p : ℕ} {plan : SubscriptionPlan}
    (h : (subscriptionSystem S).step s op = some (s',es)) (hbind : ∀ seen v q, op≠.adminBind seen v q)
    (hop : op.creation? s = some ⟨u,p,plan,0⟩) (hne : s'.subscriptions≠s.subscriptions) :
    checkActivePurchaseAllowedTx s u p plan s.dbTime = .ok () := by
  have hzero : ∀ {u : ℕ} {now : ℤ}, upgradeSource s u 0 now = none := by
    intro u now
    rw [upgradeSource,Table.find?_zero]
    rfl
  have horder : ∀ {x : SubscriptionOrder}, orderCreation s x = some ⟨u,p,plan,0⟩ →
      x.userId=u ∧ x.planId=p ∧ getSubscriptionPlanByIdTx s x.planId = .ok plan ∧
        (upgradeSource s x.userId x.fromSubscriptionId s.dbTime = none ∨ x.orderType≠.upgrade) := by
    intro x hx
    obtain ⟨plan',hplan,heq⟩ := Option.map_eq_some_iff.mp hx
    simp only [Creation.mk.injEq] at heq
    obtain ⟨hu,hp,rfl,hsrc⟩ := heq
    refine ⟨hu,hp,toOption_eq_some.mp hplan,?_⟩
    split_ifs at hsrc with htype
    · exact .inl (by rw [hsrc]; exact hzero)
    · exact .inr htype
  cases op with
  | purchaseWithBalance now tn v q =>
    obtain ⟨plan',hplan,heq⟩ := Option.map_eq_some_iff.mp hop
    simp only [Creation.mk.injEq] at heq
    obtain ⟨rfl,rfl,rfl,-⟩ := heq
    obtain ⟨_,-,hs⟩ := bind_eq_ok.mp (toOption_eq_some.mp h)
    obtain ⟨plan1,hplan1,hs⟩ := bind_eq_ok.mp hs
    obtain rfl := Except.ok.inj ((toOption_eq_some.mp hplan).symm.trans hplan1)
    obtain ⟨_,-,hs⟩ := bind_eq_ok.mp hs
    obtain ⟨_,-,hs⟩ := bind_eq_ok.mp hs
    obtain ⟨_,-,hs⟩ := bind_eq_ok.mp hs
    obtain ⟨_,hguard,-⟩ := bind_eq_ok.mp hs
    exact hguard
  | upgradeWithBalance now tn v k q =>
    obtain ⟨plan',hplan,heq⟩ := Option.map_eq_some_iff.mp hop
    simp only [Creation.mk.injEq] at heq
    obtain ⟨-,-,-,rfl⟩ := heq
    obtain ⟨-,-,-,sub,-,hk,-⟩ := upgrade_cases (toOption_eq_some.mp h)
    rw [Table.find?_zero] at hk
    contradiction
  | complete now tn payload expected m =>
    obtain ⟨⟨s1,es1,out⟩,hs,heq⟩ := Option.map_eq_some_iff.mp h
    obtain ⟨rfl,rfl⟩ := Prod.mk.inj heq
    obtain ⟨⟨id,x⟩,hx,hc⟩ := Option.bind_eq_some_iff.mp hop
    obtain ⟨rfl,rfl,hplan,hsrc⟩ := horder hc
    exact complete_guarded (toOption_eq_some.mp hs) hx hplan hsrc hne
  | adminDeliver now id =>
    obtain ⟨x,hx,hc⟩ := Option.bind_eq_some_iff.mp hop
    obtain ⟨rfl,rfl,hplan,hsrc⟩ := horder hc
    obtain ⟨x',plan',_,_,_,hx',-,hplan',hopen,-⟩ := adminDeliver_cases (toOption_eq_some.mp h)
    obtain rfl := Option.some.inj (hx.symm.trans hx')
    obtain rfl := Except.ok.inj (hplan.symm.trans hplan')
    exact hopen.guarded hsrc
  | redeem now tn v q r =>
    obtain ⟨plan',hplan,heq⟩ := Option.map_eq_some_iff.mp hop
    simp only [Creation.mk.injEq] at heq
    obtain ⟨rfl,rfl,rfl,-⟩ := heq
    obtain ⟨plan1,hplan1,hs⟩ := bind_eq_ok.mp (toOption_eq_some.mp h)
    obtain rfl := Except.ok.inj ((toOption_eq_some.mp hplan).symm.trans (planOrMissing_ok hplan1))
    obtain ⟨_,-,hs⟩ := bind_eq_ok.mp hs
    obtain ⟨_,hguard,-⟩ := bind_eq_ok.mp hs
    exact hguard
  | adminBind seen v q => exact absurd rfl (hbind seen v q)
  | _ => contradiction

end Guard

/-! ## Steps -/

section Steps
variable {S : Settings} {s s' : Store} {tz : ℤ}

/-- Subscriptions that only end do not come into conflict. -/
lemma SinglePlan.of_subset (h : SinglePlan s) (hs : ∀ k sub, InForce s' k sub → InForce s k sub) : SinglePlan s' :=
  fun j k a b ha hb => h j k a b (hs j a ha) (hs k b hb)

/-- What is in force after a creation was so before, or is what was created. -/
lemma Created.inForce {u p k j : ℕ} {plan : SubscriptionPlan} {source : SubscriptionSource} {sub : UserSubscription}
    (hc : Created tz s s' u p plan source k) (hj : InForce s' j sub) :
    InForce s j sub ∨ (sub.userId=u ∧ sub.planId=p) := by
  obtain ⟨endTime,prev,-,hrow,-⟩ := hc.row
  obtain ⟨hfind,hforce⟩ := hj
  rw [hrow,Table.find?_insert] at hfind
  rw [hc.dbTime] at hforce
  split_ifs at hfind
  · obtain rfl := Option.some.inj hfind
    exact .inr ⟨rfl,rfl⟩
  · exact .inl ⟨hfind,hforce⟩

lemma SinglePlan.create {u p k : ℕ} {plan : SubscriptionPlan} {source : SubscriptionSource} (h : SinglePlan s)
    (hc : Created tz s s' u p plan source k) (hothers : ∀ j sub, InForce s j sub → sub.userId=u → sub.planId=p) :
    SinglePlan s' := by
  intro j l a b ha hb hab
  rcases hc.inForce ha with ha | ⟨hau,hap⟩ <;> rcases hc.inForce hb with hb | ⟨hbu,hbp⟩
  · exact h j l a b ha hb hab
  · exact (hothers j a ha (hab.trans hbu)).trans hbp.symm
  · exact hap.trans (hothers l b hb (hab.symm.trans hau)).symm
  · exact hap.trans hbp.symm

lemma inForce_cancel {id k : ℕ} {now : ℤ} {sub : UserSubscription}
    (h : InForce (cancelSubscription s id now) k sub) : InForce s k sub ∧ k≠id := by
  obtain ⟨hfind,ha,he⟩ := h
  rw [cancelSubscription,Table.find?_updateWhere] at hfind
  obtain ⟨row,hrow,hsub⟩ := Option.map_eq_some_iff.mp hfind
  by_cases hk : k=id
  · rw [if_pos (by simpa using hk)] at hsub
    subst sub
    contradiction
  · rw [if_neg (by simpa using hk)] at hsub
    subst sub
    exact ⟨⟨hrow,ha,he⟩,hk⟩

lemma inForce_expire {now : ℤ} {u k : ℕ} {sub : UserSubscription} (h : InForce (expireDueRows s now u) k sub) :
    InForce s k sub := by
  obtain ⟨hfind,ha,he⟩ := h
  rw [expireDueRows,disableTokensBySubscriptionIdsTx,Table.find?_updateWhere] at hfind
  obtain ⟨row,hrow,hsub⟩ := Option.map_eq_some_iff.mp hfind
  split_ifs at hsub
  · subst sub
    contradiction
  · subst sub
    exact ⟨hrow,ha,he⟩

lemma InForce.congr {t : Store} {k : ℕ} {sub : UserSubscription} (h : InForce s' k sub)
    (hs : s'.subscriptions = t.subscriptions) (ht : t.dbTime ≤ s'.dbTime) : InForce t k sub := by
  obtain ⟨hfind,ha,he⟩ := h
  rw [hs] at hfind
  exact ⟨hfind,ha,ht.trans_lt he⟩

/-- Without a creation, subscriptions only end. -/
lemma LifeEffect.inForce {op : SubscriptionOp} {k : ℕ} {sub : UserSubscription} (h : LifeEffect tz op s s' none)
    (hk : InForce s' k sub) : InForce s k sub := by
  cases h with
  | same hs => exact hk.congr hs.subscriptions hs.dbTime.ge
  | later hs _ _ ht => exact hk.congr hs ht
  | @cancelled id sub now _ hs _ _ ht =>
    exact (inForce_cancel (hk.congr (t := cancelSubscription s id now) hs ht.ge)).1
  | @deleted id sub now _ hs _ _ ht =>
    obtain ⟨hfind,ha,he⟩ := hk
    rw [hs,Table.find?_delete] at hfind
    split_ifs at hfind
    rw [ht] at he
    exact ⟨hfind,ha,he⟩
  | @expired now u _ hs _ _ ht => exact inForce_expire (hk.congr (t := expireDueRows s now u) hs ht.ge)

lemma singlePlan_step {d : Config Store SubscriptionEvent} {op : SubscriptionOp} {es : List SubscriptionEvent}
    (hd : SinglePlan d.state) (hop : ReplacesLast d op) (h : (subscriptionSystem S).step d.state op = some (s',es)) :
    SinglePlan s' := by
  have hbind : ∀ seen u p, op≠.adminBind seen u p := by
    rintro seen u p rfl
    exact hop
  obtain ⟨new,hl,-⟩ := stepEffect_of_step h
  cases new with
  | none => exact hd.of_subset (fun k sub hk => hl.inForce hk)
  | some k =>
  cases hl with
  | @created u p _ plan source hc hcr =>
    apply hd.create hcr
    have hne : s'.subscriptions≠d.state.subscriptions := by
      obtain ⟨endTime,prev,-,hrow,-⟩ := hcr.row
      rw [hrow]
      intro he
      have hnext := congrArg Table.next he
      rw [Table.next_insert] at hnext
      omega
    intro j sub hj hu
    exact hd.check (creation_guarded h hbind hc hne) hj hu
  | @upgraded u p id _ plan sub hc hk hu ha he hcr =>
    have hcancel : ∀ j row, InForce (cancelSubscription d.state id d.state.dbTime) j row →
        InForce d.state j row ∧ j≠id := fun j row hj => inForce_cancel hj
    have hended : SinglePlan (disableTokensBySubscriptionIdsTx (cancelSubscription d.state id d.state.dbTime) [id]) :=
      hd.of_subset (fun j row hj => (hcancel j row hj).1)
    have hothers : OthersOfPlan d.state u p id := by
      have hsrc : (upgradeSource d.state u id d.state.dbTime).isSome := by
        rw [upgradeSource,hk,Option.filter_some,if_pos (by simpa using ⟨hu,ha,he⟩)]
        rfl
      have hguard : ∀ x∈op.creation? d.state, (upgradeSource d.state x.user x.source d.state.dbTime).isSome →
          OthersOfPlan d.state x.user x.planId x.source := by
        cases op with
        | adminBind seen v q => exact absurd rfl (hbind seen v q)
        | _ => exact hop
      exact hguard _ hc hsrc
    apply hended.create hcr
    intro j row hj hru
    obtain ⟨⟨hfind,hra,hre⟩,hne⟩ := hcancel j row hj
    exact hothers (j,row) ((Table.mem_rows_iff _ _).mpr hfind) hru hra hre hne

/-- In every run without bindings by hand whose upgrades each replace the last subscription of
another plan, no user ever has subscriptions of different plans in force. -/
theorem single_plan (S : Settings) (s : Store) (hs : SinglePlan s) (ops : List SubscriptionOp)
    (hops : (subscriptionSystem S).Guarded ReplacesLast ⟨s,[]⟩ ops) :
    (subscriptionSystem S).Always (fun c => SinglePlan c.state) ⟨s,[]⟩ ops :=
  always_of_guarded hs (fun _ _ _ _ hd hop h => singlePlan_step hd hop h) hops

end Steps

instance (s : Store) (u p src : ℕ) : Decidable (OthersOfPlan s u p src) := by
  unfold OthersOfPlan; infer_instance

instance (c : Config Store SubscriptionEvent) (op : SubscriptionOp) : Decidable (ReplacesLast c op) := by
  apply SubscriptionOp.casesOn (motive := fun op => Decidable (ReplacesLast c op)) op
  case adminBind => exact fun _ _ _ => instDecidableFalse
  all_goals
    intros
    exact Option.decidableForallMem (p := fun x : Creation =>
      (upgradeSource c.state x.user x.source c.state.dbTime).isSome → OthersOfPlan c.state x.user x.planId x.source) _

/-! ## Renewals and upgrades -/

def tierShop : Store := shop ((Table.empty.insert (shopPlan 7 "")).insert (shopPlan 70 ""))

/-- A user upgrades his only subscription. -/
def singleUpgrade : List SubscriptionOp :=
  [.purchaseWithBalance 1000 "T1" 1 1,.upgradeWithBalance 1000 "T2" 1 1 2,.purchaseWithBalance 1001 "T3" 1 2]

/-- A user renews early, and upgrades one of the two subscriptions. -/
def stackedUpgrade : List SubscriptionOp :=
  [.purchaseWithBalance 1000 "T1" 1 1,.purchaseWithBalance 1000 "T2" 1 1,.upgradeWithBalance 1000 "T3" 1 1 2]

theorem single_plan_singleUpgrade :
    (subscriptionSystem shopSettings).Always (fun c => SinglePlan c.state) ⟨tierShop,[]⟩ singleUpgrade :=
  single_plan shopSettings tierShop (fun _ _ _ _ h => nomatch h.1) singleUpgrade (by decide +kernel)

theorem stackedUpgrade_two_plans :
    ¬(subscriptionSystem shopSettings).Always (fun c => SinglePlan c.state) ⟨tierShop,[]⟩ stackedUpgrade := by
  intro h
  have hrun : let c := (subscriptionSystem shopSettings).run ⟨tierShop,[]⟩ stackedUpgrade;
      c.state.subscriptions.rows.map (fun r => (r.1,r.2.userId,r.2.planId,r.2.status)) =
        [(1,1,1,.cancelled),(2,1,1,.active),(3,1,2,.active)] ∧
      ∀ r∈c.state.subscriptions.rows, r.1=1 ∨ c.state.dbTime < r.2.endTime := by decide +kernel
  obtain ⟨hrows,htime⟩ := hrun
  have hlast := h.last
  generalize ((subscriptionSystem shopSettings).run ⟨tierShop,[]⟩ stackedUpgrade).state = t at hrows htime hlast
  have hrow : ∀ k u p, (k,u,p,SubscriptionStatus.active)∈[(1,1,1,.cancelled),(2,1,1,.active),(3,1,2,.active)] →
      k≠1 → ∃ sub, InForce t k sub ∧ sub.userId=u ∧ sub.planId=p := by
    intro k u p hm hk
    rw [←hrows] at hm
    obtain ⟨⟨j,sub⟩,hr,heq⟩ := List.mem_map.mp hm
    simp only [Prod.mk.injEq] at heq
    obtain ⟨rfl,rfl,rfl,ha⟩ := heq
    exact ⟨sub,⟨(Table.mem_rows_iff _ _).mp hr,ha,(htime _ hr).resolve_left hk⟩,rfl,rfl⟩
  obtain ⟨a,ha,hau,hap⟩ := hrow 2 1 1 (by simp) (by decide)
  obtain ⟨b,hb,hbu,hbp⟩ := hrow 3 1 2 (by simp) (by decide)
  have he := hlast 2 3 a b ha hb (hau.trans hbu.symm)
  rw [hap,hbp] at he
  contradiction

end Tierflow
