import Tierflow.Subscription.Orders

/-! The subscription operations as a system. -/
namespace Tierflow

/-- Operations carry the clock reading `now` of the server that runs them; the database clock is
part of the store. -/
inductive SubscriptionOp
  | purchaseWithBalance (now : ℤ) (tradeNo : String) (userId planId : ℕ)
  | upgradeWithBalance (now : ℤ) (tradeNo : String) (userId sub planId : ℕ)
  | requestEpay (seen : Store) (now : ℤ) (tradeNo paymentMethod : String) (userId planId : ℕ)
  | requestUpgradeEpay (now : ℤ) (tradeNo paymentMethod : String) (userId sub planId : ℕ)
  | complete (now : ℤ) (tradeNo providerPayload : String) (expected : PaymentProvider) (method : String)
  | expireOrder (now : ℤ) (tradeNo : String) (expected : PaymentProvider)
  | adminDeliver (now : ℤ) (order : ℕ)
  | adminClose (now : ℤ) (order : ℕ)
  | adminExpire (now : ℤ) (order : ℕ)
  | adminRefund (now : ℤ) (order : ℕ)
  | redeem (now : ℤ) (tradeNo : String) (userId planId redemptionId : ℕ)
  | adminBind (seen : Store) (userId planId : ℕ)
  | adminInvalidate (now : ℤ) (sub : ℕ)
  | adminDelete (now : ℤ) (sub : ℕ)
  /-- `now` is the database clock as read when the round of expirations began. -/
  | expireDue (now : ℤ) (userId : ℕ)
  /-- Operators edit plans, and the plan cache is filled and evicted. -/
  | catalogue (plans : Table SubscriptionPlan) (cache : ℕ → Option SubscriptionPlan)
  | tick (time : ℤ)

def subscriptionSystem (S : Settings) : TxSystem Store SubscriptionOp SubscriptionEvent where
  step s
    | .purchaseWithBalance now tn u p => (purchaseSubscriptionWithBalance S s now tn u p).toOption
    | .upgradeWithBalance now tn u k p => (upgradeSubscriptionWithBalance S s now tn u k p).toOption
    | .requestEpay seen now tn m u p => (subscriptionRequestEpay seen s now tn m u p).toOption.map (fun s' => (s',[]))
    | .requestUpgradeEpay now tn m u k p =>
      (createSubscriptionUpgradeEpayOrder s now tn m u k p).toOption.map (fun s' => (s',[]))
    | .complete now tn payload expected m =>
      (completeSubscriptionOrder S.timeZone s now tn payload expected m).toOption.map (fun o => (o.1,o.2.1))
    | .expireOrder now tn expected => (expireSubscriptionOrder s now tn expected).toOption.map (fun s' => (s',[]))
    | .adminDeliver now id => (adminDeliverSubscriptionOrder S.timeZone s now id).toOption
    | .adminClose now id => (adminCloseSubscriptionOrder s now id).toOption.map (fun s' => (s',[]))
    | .adminExpire now id => (adminExpireSubscriptionOrder s now id).toOption.map (fun s' => (s',[]))
    | .adminRefund now id => (adminRefundSubscriptionOrder S s now id).toOption
    | .redeem now tn u p r => (redeemSubscriptionTx S.timeZone s now tn u p r).toOption
    | .adminBind seen u p => (adminBindSubscription S.timeZone seen s u p).toOption.map (fun o => (o.1,[]))
    | .adminInvalidate now k => (adminInvalidateUserSubscription s k now).toOption.map (fun o => (o.1,[]))
    | .adminDelete now k => (adminDeleteUserSubscription s k now).toOption.map (fun o => (o.1,[]))
    | .expireDue now u =>
      if now ≤ s.dbTime then (expireDueSubscriptionsOfUser s now u).toOption.map (fun o => (o.1,[])) else none
    | .catalogue plans cache => some ({ s with plans := plans, planCache := cache },[])
    | .tick time => if s.dbTime≤time then some ({ s with dbTime := time },[]) else none

/-! A shop with one user, for the runs below. -/

def shopSettings : Settings := ⟨7,500000,0⟩

/-- A plan of thirty days. -/
def shopPlan (price : ℚ) (upgradeGroup : String) : SubscriptionPlan where
  priceAmount := price
  durationUnit := .day
  durationValue := 30
  customSeconds := 0
  enabled := true
  allowBalancePay := some true
  maxPurchasePerUser := 0
  upgradeGroup := upgradeGroup
  totalAmount := 1000
  basicTokenTotal := 0
  quotaResetPeriod := "never"
  quotaResetCustomSeconds := 0

def shop (plans : Table SubscriptionPlan) : Store :=
  { Store.empty with users := Table.empty.insert ⟨100000000,"default"⟩, plans := plans, dbTime := 1000 }

/-! ## Accounts of users -/

def userQuota (users : Table User) (userId : ℕ) : Option ℤ := (users.find? userId).map User.quota

section Users
variable {users : Table User} {u v : ℕ}

@[simp] lemma userGroup_setUserGroup (users : Table User) (u v : ℕ) (group : String) :
    userGroup (setUserGroup users u group) v =
      if v=u then (userGroup users u).map (fun _ => group) else userGroup users v := by
  unfold userGroup setUserGroup
  rw [Table.find?_updateWhere]
  split_ifs with h
  · subst v
    cases users.find? u <;> simp
  · cases users.find? v <;> simp [h]

@[simp] lemma userQuota_setUserGroup (users : Table User) (u v : ℕ) (group : String) :
    userQuota (setUserGroup users u group) v = userQuota users v := by
  unfold userQuota setUserGroup
  rw [Table.find?_updateWhere]
  cases users.find? v with
  | none => rfl
  | some user =>
    simp only [Option.map_some]
    split_ifs <;> rfl

lemma userGroup_quota {f : User → User} (hf : ∀ user, (f user).group=user.group) :
    userGroup (users.updateWhere (fun r => r.1=u) f) v = userGroup users v := by
  unfold userGroup
  rw [Table.find?_updateWhere]
  cases users.find? v with
  | none => rfl
  | some user =>
    simp only [Option.map_some]
    split_ifs
    · exact congrArg some (hf user)
    · rfl

lemma userQuota_quota {f : User → User} {n : ℤ} (hf : ∀ user, (f user).quota=user.quota+n) :
    userQuota (users.updateWhere (fun r => r.1=u) f) v =
      (userQuota users v).map (fun q => q+if u=v then n else 0) := by
  unfold userQuota
  rw [Table.find?_updateWhere]
  cases users.find? v with
  | none => rfl
  | some user =>
    by_cases h : v=u
    · simp [h,hf]
    · have h' : u≠v := fun he => h he.symm
      simp [h,h']

end Users

/-! ## What an operation does to subscriptions, keys and groups -/

/-- Subscriptions, keys, groups and the clock stay. -/
structure SameLife (s s' : Store) : Prop where
  subscriptions : s'.subscriptions = s.subscriptions
  tokens : s'.tokens = s.tokens
  group : ∀ u, userGroup s'.users u = userGroup s.users u
  dbTime : s'.dbTime=s.dbTime

lemma SameLife.refl (s : Store) : SameLife s s := ⟨rfl,rfl,fun _ => rfl,rfl⟩

lemma SameLife.trans {s t r : Store} (h : SameLife s t) (h' : SameLife t r) : SameLife s r :=
  ⟨h'.subscriptions.trans h.subscriptions,h'.tokens.trans h.tokens,fun u => (h'.group u).trans (h.group u),
    h'.dbTime.trans h.dbTime⟩

/-- The group of a user is raised and the former one kept, unless there is nothing to raise. -/
inductive Raised (users users' : Table User) (u : ℕ) (group prev : String) : Prop
  | kept : (group = "" ∨ (userGroup users u).getD "" = group) → prev = "" →
    (∀ v, userGroup users' v = userGroup users v) → Raised users users' u group prev
  | raised : group≠"" → (userGroup users u).getD "" = prev → prev≠group →
    (∀ v, userGroup users' v = if v=u then (userGroup users u).map (fun _ => group) else userGroup users v) →
    Raised users users' u group prev

/-- A subscription of a plan is created under the key `k`. -/
structure Created (tz : ℤ) (s s' : Store) (u p : ℕ) (plan : SubscriptionPlan) (source : SubscriptionSource) (k : ℕ) :
    Prop where
  user : u≠0
  key : k=s.subscriptions.next
  dbTime : s'.dbTime=s.dbTime
  row : ∃ endTime prev, s.dbTime<endTime ∧
    s'.subscriptions = s.subscriptions.insert (newUserSubscription tz s.dbTime u p plan source endTime prev) ∧
    s'.tokens = s.tokens.insert (subscriptionToken u k endTime) ∧
    Raised s.users s'.users u (Text.trimSpace plan.upgradeGroup) prev

lemma raiseUserGroup_ok {s : Store} {u : ℕ} {group prev : String} {users : Table User}
    (h : raiseUserGroup s u group = .ok (users,prev)) :
    Raised s.users users u group prev ∧ ∀ v, userQuota users v = userQuota s.users v := by
  unfold raiseUserGroup at h
  by_cases hg : group = ""
  · rw [if_pos hg] at h
    obtain ⟨rfl,rfl⟩ := Prod.mk.inj (Except.ok.inj h)
    exact ⟨.kept (.inl hg) rfl (fun _ => rfl),fun _ => rfl⟩
  rw [if_neg hg] at h
  obtain ⟨current,hc,h⟩ := bind_eq_ok.mp h
  obtain ⟨_,-,hc⟩ := bind_eq_ok.mp hc
  obtain rfl := Except.ok.inj hc
  split_ifs at h with hne
  · obtain ⟨rfl,rfl⟩ := Prod.mk.inj (Except.ok.inj h)
    refine ⟨.raised hg rfl hne ?_,fun v => userQuota_setUserGroup s.users u v group⟩
    intro v
    exact userGroup_setUserGroup s.users u v group
  · obtain ⟨rfl,rfl⟩ := Prod.mk.inj (Except.ok.inj h)
    exact ⟨.kept (.inr (not_not.mp hne)) rfl (fun _ => rfl),fun _ => rfl⟩

/-- What a successful creation leaves. -/
theorem create_cases {tz : ℤ} {s s' : Store} {u p k : ℕ} {plan : SubscriptionPlan} {source : SubscriptionSource}
    (h : createUserSubscriptionFromPlanTx tz s u p plan source = .ok (s',k)) :
    Created tz s s' u p plan source k ∧ s'.orders = s.orders ∧ ∀ v, userQuota s'.users v = userQuota s.users v := by
  obtain ⟨_,-,h⟩ := bind_eq_ok.mp h
  obtain ⟨_,hu,h⟩ := bind_eq_ok.mp h
  obtain ⟨_,-,h⟩ := bind_eq_ok.mp h
  obtain ⟨endTime,he,h⟩ := bind_eq_ok.mp h
  obtain ⟨⟨users,prev⟩,hr,h⟩ := bind_eq_ok.mp h
  obtain ⟨rfl,rfl⟩ := Prod.mk.inj (Except.ok.inj h)
  obtain ⟨hraised,hquota⟩ := raiseUserGroup_ok hr
  exact ⟨⟨require_eq_ok.mp hu,rfl,rfl,endTime,prev,calcPlanEndTime_gt he,rfl,rfl,hraised⟩,rfl,hquota⟩

lemma Raised.congr {users users' : Table User} {u : ℕ} {group prev : String} (h : Raised users users' u group prev)
    {us us' : Table User} (h0 : ∀ v, userGroup us v = userGroup users v)
    (h1 : ∀ v, userGroup us' v = userGroup users' v) : Raised us us' u group prev := by
  cases h with
  | kept hg hp hv => exact .kept (by rwa [h0]) hp (fun v => by rw [h1,h0,hv])
  | raised hg hp hne hv => exact .raised hg (by rwa [h0]) hne (fun v => by rw [h1,h0,h0,hv])

/-- Creation only looks at subscriptions, keys, groups and the clock. -/
lemma Created.congr {tz : ℤ} {s s0 s1 s' : Store} {u p k : ℕ} {plan : SubscriptionPlan} {source : SubscriptionSource}
    (h : Created tz s0 s1 u p plan source k) (h0 : SameLife s s0) (h1 : SameLife s1 s') :
    Created tz s s' u p plan source k := by
  obtain ⟨endTime,prev,he,hs,ht,hr⟩ := h.row
  refine ⟨h.user,by rw [h.key,h0.subscriptions],by rw [h1.dbTime,h.dbTime,h0.dbTime],endTime,prev,?_,?_,?_,?_⟩
  · rwa [←h0.dbTime]
  · rw [h1.subscriptions,hs,h0.subscriptions,h0.dbTime]
  · rw [h1.tokens,ht,h0.tokens]
  · exact hr.congr (fun v => (h0.group v).symm) h1.group

/-- The group of a user falls back to a former one, or stays for one of the reasons of the code. -/
inductive FellBack (users users' : Table User) (u : ℕ) (group prev : String) (blocked : Prop) : Prop
  | kept : (group = "" ∨ (userGroup users u).getD ""≠group ∨ blocked ∨ prev = "" ∨
      prev=(userGroup users u).getD "") →
    (∀ v, userGroup users' v = userGroup users v) → FellBack users users' u group prev blocked
  | restored : (userGroup users u).getD "" = group → prev≠"" →
    (∀ v, userGroup users' v = if v=u then (userGroup users u).map (fun _ => prev) else userGroup users v) →
    FellBack users users' u group prev blocked

lemma downgrade_cases {s s' : Store} {id : ℕ} {sub : UserSubscription} {now : ℤ} {g : String}
    (h : downgradeUserGroupForSubscriptionTx s id sub now = .ok (s',g)) :
    ∃ users, s' = { s with users := users } ∧ (∀ v, userQuota users v = userQuota s.users v) ∧
      FellBack s.users users sub.userId (Text.trimSpace sub.upgradeGroup) (Text.trimSpace sub.prevUserGroup)
        (activeUpgraded s sub.userId id now).isSome := by
  unfold downgradeUserGroupForSubscriptionTx at h
  by_cases hg : Text.trimSpace sub.upgradeGroup = ""
  · rw [if_pos hg] at h
    obtain ⟨rfl,-⟩ := Prod.mk.inj (Except.ok.inj h)
    exact ⟨s.users,rfl,fun _ => rfl,.kept (.inl hg) (fun _ => rfl)⟩
  rw [if_neg hg] at h
  obtain ⟨current,hc,h⟩ := bind_eq_ok.mp h
  obtain ⟨_,-,hc⟩ := bind_eq_ok.mp hc
  obtain rfl := Except.ok.inj hc
  split_ifs at h with hne hact hprev
  · obtain ⟨rfl,-⟩ := Prod.mk.inj (Except.ok.inj h)
    exact ⟨s.users,rfl,fun _ => rfl,.kept (.inr (.inl hne)) (fun _ => rfl)⟩
  · obtain ⟨rfl,-⟩ := Prod.mk.inj (Except.ok.inj h)
    exact ⟨s.users,rfl,fun _ => rfl,.kept (.inr (.inr (.inl hact))) (fun _ => rfl)⟩
  · obtain ⟨rfl,-⟩ := Prod.mk.inj (Except.ok.inj h)
    exact ⟨s.users,rfl,fun _ => rfl,.kept (.inr (.inr (.inr hprev))) (fun _ => rfl)⟩
  · obtain ⟨rfl,-⟩ := Prod.mk.inj (Except.ok.inj h)
    rw [not_or] at hprev
    refine ⟨_,rfl,fun v => userQuota_setUserGroup _ _ v _,.restored (not_not.mp hne) hprev.1 ?_⟩
    intro v
    exact userGroup_setUserGroup _ _ v _

/-- The subscription that an operation would create: for whom, of which plan, in place of which one. -/
structure Creation where
  user : ℕ
  planId : ℕ
  plan : SubscriptionPlan
  source : ℕ

def orderCreation (s : Store) (order : SubscriptionOrder) : Option Creation :=
  (getSubscriptionPlanByIdTx s order.planId).toOption.map (fun plan =>
    ⟨order.userId,order.planId,plan,if order.orderType = .upgrade then order.fromSubscriptionId else 0⟩)

def SubscriptionOp.creation? (s : Store) : SubscriptionOp → Option Creation
  | .purchaseWithBalance _ _ u p => (getSubscriptionPlanByIdTx s p).toOption.map (fun plan => ⟨u,p,plan,0⟩)
  | .upgradeWithBalance _ _ u k p => (getSubscriptionPlanByIdTx s p).toOption.map (fun plan => ⟨u,p,plan,k⟩)
  | .complete _ tn _ _ _ => (orderByTradeNo s tn).bind (fun r => orderCreation s r.2)
  | .adminDeliver _ id => (s.orders.find? id).bind (orderCreation s)
  | .redeem _ _ u p _ => (getSubscriptionPlanByIdTx s p).toOption.map (fun plan => ⟨u,p,plan,0⟩)
  | .adminBind seen u p => (getSubscriptionPlanByIdTx seen p).toOption.map (fun plan => ⟨u,p,plan,0⟩)
  | _ => none

/-- What an operation can do to subscriptions, keys and groups. The index is the key of a
subscription that was created. -/
inductive LifeEffect (tz : ℤ) (op : SubscriptionOp) (s s' : Store) : Option ℕ → Prop
  | same : SameLife s s' → LifeEffect tz op s s' none
  | later : s'.subscriptions = s.subscriptions → s'.tokens = s.tokens →
    (∀ u, userGroup s'.users u = userGroup s.users u) → s.dbTime ≤ s'.dbTime → LifeEffect tz op s s' none
  | created {u p k : ℕ} {plan : SubscriptionPlan} {source : SubscriptionSource} :
    op.creation? s = some ⟨u,p,plan,0⟩ → Created tz s s' u p plan source k → LifeEffect tz op s s' (some k)
  | upgraded {u p id k : ℕ} {plan : SubscriptionPlan} {sub : UserSubscription} :
    op.creation? s = some ⟨u,p,plan,id⟩ → s.subscriptions.find? id = some sub → sub.userId=u →
    sub.status = .active → s.dbTime < sub.endTime →
    Created tz (disableTokensBySubscriptionIdsTx (cancelSubscription s id s.dbTime) [id]) s' u p plan .upgrade k →
    LifeEffect tz op s s' (some k)
  | cancelled {id : ℕ} {sub : UserSubscription} {now : ℤ} : s.subscriptions.find? id = some sub →
    s'.subscriptions = (cancelSubscription s id now).subscriptions →
    s'.tokens = (disableTokensBySubscriptionIdsTx s [id]).tokens →
    FellBack s.users s'.users sub.userId (Text.trimSpace sub.upgradeGroup) (Text.trimSpace sub.prevUserGroup)
      (activeUpgraded (cancelSubscription s id now) sub.userId id now).isSome →
    s'.dbTime=s.dbTime → LifeEffect tz op s s' none
  | deleted {id : ℕ} {sub : UserSubscription} {now : ℤ} : s.subscriptions.find? id = some sub →
    s'.subscriptions = s.subscriptions.delete id →
    s'.tokens = (disableTokensBySubscriptionIdsTx s [id]).tokens →
    FellBack s.users s'.users sub.userId (Text.trimSpace sub.upgradeGroup) (Text.trimSpace sub.prevUserGroup)
      (activeUpgraded s sub.userId id now).isSome →
    s'.dbTime=s.dbTime → LifeEffect tz op s s' none
  | expired {now : ℤ} {u : ℕ} : now ≤ s.dbTime →
    s'.subscriptions = (expireDueRows s now u).subscriptions → s'.tokens = (expireDueRows s now u).tokens →
    ((lastExpired (expireDueRows s now u) u = none ∧ ∀ v, userGroup s'.users v = userGroup s.users v) ∨
      ∃ id last, lastExpired (expireDueRows s now u) u = some (id,last) ∧
        FellBack s.users s'.users u (Text.trimSpace last.upgradeGroup) (Text.trimSpace last.prevUserGroup)
          (activeUpgraded (expireDueRows s now u) u 0 now).isSome) →
    s'.dbTime=s.dbTime → LifeEffect tz op s s' none

lemma invalidate_effect (tz : ℤ) (op : SubscriptionOp) {s s' : Store} {id : ℕ} {sub : UserSubscription} {now : ℤ}
    {g : String} (hk : s.subscriptions.find? id = some sub)
    (h : invalidateUserSubscriptionTx s id sub now = .ok (s',g)) :
    LifeEffect tz op s s' none ∧ s'.subscriptions = (cancelSubscription s id now).subscriptions ∧
      s'.orders = s.orders ∧ ∀ v, userQuota s'.users v = userQuota s.users v := by
  obtain ⟨⟨s1,g1⟩,h1,h⟩ := bind_eq_ok.mp h
  obtain ⟨rfl,rfl⟩ := Prod.mk.inj (Except.ok.inj h)
  obtain ⟨users,rfl,hquota,hfell⟩ := downgrade_cases h1
  exact ⟨.cancelled hk rfl rfl hfell rfl,rfl,rfl,hquota⟩

lemma delete_effect {tz : ℤ} {op : SubscriptionOp} {s s' : Store} {id : ℕ} {now : ℤ} {g : String}
    (h : adminDeleteUserSubscription s id now = .ok (s',g)) :
    LifeEffect tz op s s' none ∧ s'.orders = s.orders := by
  obtain ⟨_,-,h⟩ := bind_eq_ok.mp h
  obtain ⟨sub,hk,h⟩ := bind_eq_ok.mp h
  obtain ⟨⟨s1,g1⟩,h1,h⟩ := bind_eq_ok.mp h
  obtain ⟨rfl,rfl⟩ := Prod.mk.inj (Except.ok.inj h)
  obtain ⟨users,rfl,-,hfell⟩ := downgrade_cases h1
  exact ⟨.deleted (orFail_eq_ok.mp hk) rfl rfl hfell rfl,rfl⟩

lemma expireDue_effect {tz : ℤ} {op : SubscriptionOp} {s s' : Store} {u : ℕ} {now : ℤ} {g : String}
    (hnow : now ≤ s.dbTime) (h : expireDueSubscriptionsOfUser s now u = .ok (s',g)) :
    LifeEffect tz op s s' none ∧ s'.orders = s.orders := by
  unfold expireDueSubscriptionsOfUser at h
  dsimp only at h
  by_cases hact : (activeUpgraded (expireDueRows s now u) u 0 now).isSome
  · rw [if_pos hact] at h
    obtain ⟨rfl,rfl⟩ := Prod.mk.inj (Except.ok.inj h)
    refine ⟨.expired hnow rfl rfl ?_ rfl,rfl⟩
    cases hl : lastExpired (expireDueRows s now u) u with
    | none => exact .inl ⟨rfl,fun _ => rfl⟩
    | some r => exact .inr ⟨r.1,r.2,rfl,.kept (.inr (.inr (.inl hact))) (fun _ => rfl)⟩
  rw [if_neg hact] at h
  cases hl : lastExpired (expireDueRows s now u) u with
  | none =>
    rw [hl] at h
    obtain ⟨rfl,rfl⟩ := Prod.mk.inj (Except.ok.inj h)
    exact ⟨.expired hnow rfl rfl (.inl ⟨hl,fun _ => rfl⟩) rfl,rfl⟩
  | some r =>
    obtain ⟨id,last⟩ := r
    rw [hl] at h
    dsimp only at h
    by_cases hempty : Text.trimSpace last.upgradeGroup = "" ∨ Text.trimSpace last.prevUserGroup = ""
    · rw [if_pos hempty] at h
      obtain ⟨rfl,rfl⟩ := Prod.mk.inj (Except.ok.inj h)
      refine ⟨.expired hnow rfl rfl (.inr ⟨id,last,hl,.kept ?_ (fun _ => rfl)⟩) rfl,rfl⟩
      rcases hempty with hg | hp
      · exact .inl hg
      · exact .inr (.inr (.inr (.inl hp)))
    rw [if_neg hempty] at h
    obtain ⟨current,hc,h⟩ := bind_eq_ok.mp h
    obtain ⟨_,-,hc⟩ := bind_eq_ok.mp hc
    obtain rfl := Except.ok.inj hc
    rw [not_or] at hempty
    split_ifs at h with hstay
    · obtain ⟨rfl,rfl⟩ := Prod.mk.inj (Except.ok.inj h)
      refine ⟨.expired hnow rfl rfl (.inr ⟨id,last,hl,.kept ?_ (fun _ => rfl)⟩) rfl,rfl⟩
      rcases hstay with hne | hp
      · exact .inr (.inl hne)
      · exact .inr (.inr (.inr (.inr hp.symm)))
    · obtain ⟨rfl,rfl⟩ := Prod.mk.inj (Except.ok.inj h)
      rw [not_or,not_not] at hstay
      refine ⟨.expired hnow rfl rfl (.inr ⟨id,last,hl,.restored hstay.1 hempty.2 ?_⟩) rfl,rfl⟩
      intro v
      exact userGroup_setUserGroup _ _ v _

end Tierflow
