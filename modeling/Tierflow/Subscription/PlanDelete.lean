import Tierflow.Subscription.Mirror
import Tierflow.Subscription.SinglePlan

/-! Deleting a plan. The deletion counts what still refers to the plan, while buyers read plans
through a cache that is evicted only after the deletion has been committed. -/
namespace Tierflow
open TxSystem

def planSubscribedMessage (n : ℕ) : String :=
  "该套餐还有 "++Text.printNat n++" 个用户订阅未到期,无法删除。可先「停用」阻止新用户购买,待订阅全部到期后再删除"
def planOrderedMessage (n : ℕ) : String := "该套餐有 "++Text.printNat n++" 笔订单正在支付中,无法删除。请稍后再试"

/-- The transaction of `AdminDeleteSubscriptionPlan`. -/
def adminDeleteSubscriptionPlan (s : Store) (now : ℤ) (planId : ℕ) : Except TxError Store := do
  require (.message "invalid plan id") (planId≠0)
  let _ ← orFail .recordNotFound (s.plans.find? planId)
  let activeSubCount := s.subscriptions.count (fun r => r.2.planId=planId ∧ r.2.status = .active ∧ now < r.2.endTime)
  require (.message (planSubscribedMessage activeSubCount)) (activeSubCount=0)
  let pendingOrderCount := s.orders.count (fun r => r.2.planId=planId ∧ r.2.status = .pending)
  require (.message (planOrderedMessage pendingOrderCount)) (pendingOrderCount=0)
  .ok { s with plans := s.plans.delete planId }

def SubscriptionOp.editsCatalogue : SubscriptionOp → Bool
  | .catalogue _ _ => true
  | _ => false

/-- Plans and their cache change by the operations named here and by no others. -/
inductive PlanOp
  | subscription (op : SubscriptionOp)
  | insertPlan (plan : SubscriptionPlan)
  | savePlan (id : ℕ) (plan : SubscriptionPlan)
  | deletePlan (now : ℤ) (id : ℕ)
  /-- Runs after the deletion has been committed. -/
  | invalidatePlanCache (id : ℕ)
  /-- A reader that missed the cache stores the row that it read, in `seen`. -/
  | cachePlan (seen : Store) (id : ℕ)

def planSystem (S : Settings) : TxSystem Store PlanOp SubscriptionEvent where
  step s
    | .subscription op => if op.editsCatalogue then none else (subscriptionSystem S).step s op
    | .insertPlan plan => some ({ s with plans := s.plans.insert plan },[])
    | .savePlan id plan => some ({ s with plans := s.plans.set id plan },[])
    | .deletePlan now id => (adminDeleteSubscriptionPlan s now id).toOption.map (fun s' => (s',[]))
    | .invalidatePlanCache id => some ({ s with planCache := Function.update s.planCache id none },[])
    | .cachePlan seen id => (seen.plans.find? id).map (fun plan =>
        ({ s with planCache := Function.update s.planCache id (some plan.normalizeDefaults) },[]))

/-- The plans of all subscriptions in force exist. -/
def PlansKept (s : Store) : Prop := ∀ k sub, InForce s k sub → (s.plans.find? sub.planId).isSome

/-- A plan that is sold has not been deleted since it was read, and the clock of the server that
deletes a plan is not ahead of the database clock. -/
def SellsExisting (c : Config Store SubscriptionEvent) : PlanOp → Prop
  | .subscription op => ∀ x∈op.creation? c.state, (c.state.plans.find? x.planId).isSome
  | .deletePlan now _ => now ≤ c.state.dbTime
  | _ => True

section Steps
variable {S : Settings} {s s' : Store}

lemma PlansKept.of_subset (h : PlansKept s) (hs : ∀ k sub, InForce s' k sub → InForce s k sub)
    (hp : ∀ p, (s.plans.find? p).isSome → (s'.plans.find? p).isSome) : PlansKept s' :=
  fun k sub hk => hp _ (h k sub (hs k sub hk))

lemma PlansKept.create {tz : ℤ} {u p k : ℕ} {plan : SubscriptionPlan} {source : SubscriptionSource} (h : PlansKept s)
    (hc : Created tz s s' u p plan source k) (hplans : s'.plans = s.plans) (hp : (s.plans.find? p).isSome) :
    PlansKept s' := by
  intro j sub hj
  rw [hplans]
  rcases hc.inForce hj with hj | ⟨-,hsub⟩
  · exact h j sub hj
  · rw [hsub]
    exact hp

lemma plansKept_subscription {op : SubscriptionOp} {es : List SubscriptionEvent} (h : PlansKept s)
    (hop : op.editsCatalogue = false) (hsold : ∀ x∈op.creation? s, (s.plans.find? x.planId).isSome)
    (hstep : (subscriptionSystem S).step s op = some (s',es)) : PlansKept s' := by
  have hplans : s'.plans = s.plans := by
    apply (mirrorEffect_of_step hstep).plans
    rintro plans cache rfl
    contradiction
  obtain ⟨new,hl,-⟩ := stepEffect_of_step hstep
  cases new with
  | none => exact h.of_subset (fun k sub hk => hl.inForce hk) (fun p hp => by rwa [hplans])
  | some k =>
  cases hl with
  | created hc hcr => exact h.create hcr hplans (hsold _ hc)
  | @upgraded u p id _ plan sub hc _ _ _ _ hcr =>
    have hended : PlansKept (disableTokensBySubscriptionIdsTx (cancelSubscription s id s.dbTime) [id]) :=
      h.of_subset (fun j row hj => (inForce_cancel (s := s) hj).1) (fun _ hp => hp)
    exact hended.create hcr hplans (hsold _ hc)

/-- The deletion finds every subscription in force, as long as its clock is not ahead. -/
lemma plansKept_delete {now : ℤ} {id : ℕ} (h : PlansKept s) (hnow : now ≤ s.dbTime)
    (hd : adminDeleteSubscriptionPlan s now id = .ok s') : PlansKept s' := by
  obtain ⟨_,-,hd⟩ := bind_eq_ok.mp hd
  obtain ⟨_,-,hd⟩ := bind_eq_ok.mp hd
  obtain ⟨_,hcount,hd⟩ := bind_eq_ok.mp hd
  obtain ⟨_,-,hd⟩ := bind_eq_ok.mp hd
  obtain rfl := Except.ok.inj hd
  have hnone := Table.select_eq_nil_iff.mp (List.length_eq_zero_iff.mp (require_eq_ok.mp hcount))
  intro k sub hk
  obtain ⟨hfind,ha,he⟩ := hk
  have hne : sub.planId≠id := by
    intro hp
    exact of_decide_eq_false (hnone k sub hfind) ⟨hp,ha,hnow.trans_lt he⟩
  rw [Table.find?_delete,if_neg hne]
  exact h k sub ⟨hfind,ha,he⟩

lemma plansKept_step {d : Config Store SubscriptionEvent} {op : PlanOp} {es : List SubscriptionEvent}
    (hd : PlansKept d.state) (hop : SellsExisting d op) (h : (planSystem S).step d.state op = some (s',es)) :
    PlansKept s' := by
  cases op with
  | subscription op =>
    change (if op.editsCatalogue then none else _) = _ at h
    split_ifs at h with hc
    exact plansKept_subscription hd (by simpa using hc) hop h
  | insertPlan plan =>
    obtain ⟨rfl,-⟩ := Prod.mk.inj (Option.some.inj h)
    refine hd.of_subset (fun _ _ hk => hk) ?_
    intro p hp
    obtain ⟨row,hrow⟩ := Option.isSome_iff_exists.mp hp
    exact Option.isSome_iff_exists.mpr ⟨row,Table.find?_insert_of_some plan hrow⟩
  | savePlan id plan =>
    obtain ⟨rfl,-⟩ := Prod.mk.inj (Option.some.inj h)
    refine hd.of_subset (fun _ _ hk => hk) ?_
    intro p hp
    rw [Table.find?_set]
    split_ifs with hid
    · rw [←hid]
      simpa using hp
    · exact hp
  | deletePlan now id =>
    obtain ⟨s1,hs,heq⟩ := Option.map_eq_some_iff.mp h
    obtain ⟨rfl,-⟩ := Prod.mk.inj heq
    exact plansKept_delete hd hop (toOption_eq_some.mp hs)
  | invalidatePlanCache id =>
    obtain ⟨rfl,-⟩ := Prod.mk.inj (Option.some.inj h)
    exact hd.of_subset (fun _ _ hk => hk) (fun _ hp => hp)
  | cachePlan seen id =>
    obtain ⟨plan,-,heq⟩ := Option.map_eq_some_iff.mp h
    obtain ⟨rfl,-⟩ := Prod.mk.inj heq
    exact hd.of_subset (fun _ _ hk => hk) (fun _ hp => hp)

end Steps

instance (c : Config Store SubscriptionEvent) (op : PlanOp) : Decidable (SellsExisting c op) := by
  cases op <;> unfold SellsExisting <;> infer_instance

/-! ## A purchase from the cache -/

def planCounter : Store := shop (Table.empty.insert (shopPlan 7 ""))

def orderlyDeletion : List PlanOp :=
  [.cachePlan planCounter 1,.subscription (.purchaseWithBalance 1000 "T1" 1 1),.deletePlan 1000 1,
    .subscription (.tick 2600000),.deletePlan 2600000 1,.invalidatePlanCache 1]

/-- A purchase between the commit of the deletion and the eviction of the cache. -/
def cachedPurchase : List PlanOp :=
  [.cachePlan planCounter 1,.deletePlan 1000 1,.subscription (.purchaseWithBalance 1000 "T1" 1 1),
    .invalidatePlanCache 1]

end Tierflow
