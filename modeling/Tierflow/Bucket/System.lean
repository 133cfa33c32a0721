import Tierflow.Bucket.Operations

/-! The bucket operations as a system, and what one committed operation can do: one inversion
lemma for each operation, and the refinement of the stored used amounts by a meter that reads
only the emitted events. -/
namespace Tierflow

inductive BucketOp
  | preConsume (now : ℤ) (requestId : String) (userId : ℕ) (bucketName : String) (amount : ℤ)
      (directedSubscriptionId : ℕ)
  /-- A settlement; `requestId` names the request on whose behalf the caller settles. -/
  | postConsumeDelta (requestId : String) (sub : ℕ) (bucketName : String) (delta : ℤ)
  | refund (requestId : String)
  | resetDue (sub : ℕ) (plan : SubscriptionPlan) (now : ℤ)
  /-- Operators edit plans, and the plan cache is filled and evicted. -/
  | catalogue (plans : Table SubscriptionPlan) (cache : ℕ → Option SubscriptionPlan)

def bucketSystem (tz : ℤ) : TxSystem Store BucketOp BucketEvent where
  step s
    | .preConsume now r u name a d =>
      (preConsumeUserSubscription tz s now r u name a d).toOption.map (fun o => (o.1,o.2.1))
    | .postConsumeDelta r k name d =>
      (postConsumeUserSubscriptionDelta s k name d).toOption.map
        (fun s' => (s',[.adjusted r k (Bucket.ofName name) d]))
    | .refund r => (refundSubscriptionPreConsume s r).toOption
    | .resetDue k plan now => some (resetDueSubscription tz s k plan now)
    | .catalogue plans cache => some ({ s with plans := plans, planCache := cache },[])

/-! ## One metered subscription -/

/-- A plan with a hundred units of premium quota that is reset every ten seconds. -/
def meteredPlan : SubscriptionPlan where
  priceAmount := 10
  durationUnit := .day
  durationValue := 30
  customSeconds := 0
  enabled := true
  allowBalancePay := some true
  maxPurchasePerUser := 0
  upgradeGroup := ""
  totalAmount := 100
  basicTokenTotal := 1000
  quotaResetPeriod := "custom"
  quotaResetCustomSeconds := 10

def meteredSubscription : UserSubscription where
  userId := 1
  planId := 1
  amountTotal := 100
  amountUsed := 0
  basicTokenTotal := 1000
  basicTokenUsed := 0
  paidMoney := 10
  startTime := 1
  endTime := 1000
  status := .active
  source := .order
  lastResetTime := 1
  nextResetTime := 11
  upgradeGroup := ""
  prevUserGroup := ""

def meteredStore : Store :=
  { Store.empty with
    plans := Table.empty.insert meteredPlan
    subscriptions := Table.empty.insert meteredSubscription }

lemma meteredStore_unused {k : ℕ} {sub : UserSubscription} (h : meteredStore.subscriptions.find? k = some sub)
    (b : Bucket) : sub.used b=0 := by
  simp only [meteredStore,Table.find?_insert,Table.find?_empty] at h
  split_ifs at h
  obtain rfl := Option.some.inj h
  cases b <;> rfl

/-! ## Inversion of the operations -/

/-- Any number of due checks on stored subscriptions, with the resets they made. -/
inductive DueChecks (tz now : ℤ) (s : Store) : Store → List BucketEvent → Prop
  | refl : DueChecks tz now s s []
  | check {s' : Store} {es : List BucketEvent} {k : ℕ} {sub : UserSubscription} (plan : SubscriptionPlan) :
    DueChecks tz now s s' es → s'.subscriptions.find? k = some sub →
    DueChecks tz now s (maybeResetUserSubscriptionWithPlanTx tz s' k sub plan now).1
      ((maybeResetUserSubscriptionWithPlanTx tz s' k sub plan now).2.2++es)

/-- A due check writes only to its own row, and leaves there what it returns. -/
lemma maybeReset_find? (tz now : ℤ) {s : Store} {k : ℕ} {sub : UserSubscription} (plan : SubscriptionPlan)
    (h : s.subscriptions.find? k = some sub) (j : ℕ) :
    (maybeResetUserSubscriptionWithPlanTx tz s k sub plan now).1.subscriptions.find? j =
      if j=k then some (maybeResetUserSubscriptionWithPlanTx tz s k sub plan now).2.1
      else s.subscriptions.find? j := by
  unfold maybeResetUserSubscriptionWithPlanTx
  cases resetRow tz sub plan now with
  | none =>
    by_cases hj : j=k
    · subst j
      simpa using h
    · simp [hj]
  | some r =>
    by_cases hj : j=k
    · subst j
      simpa using Table.find?_set_self r.1 h
    · simpa [hj] using Table.find?_set_of_ne s.subscriptions r.1 hj

lemma maybeReset_records (tz now : ℤ) (s : Store) (k : ℕ) (sub : UserSubscription) (plan : SubscriptionPlan) :
    (maybeResetUserSubscriptionWithPlanTx tz s k sub plan now).1.records = s.records := by
  unfold maybeResetUserSubscriptionWithPlanTx
  cases resetRow tz sub plan now <;> rfl

lemma DueChecks.records {tz now : ℤ} {s s' : Store} {es : List BucketEvent} (h : DueChecks tz now s s' es) :
    s'.records = s.records := by
  induction h with
  | refl => rfl
  | check plan _ _ ih => rw [maybeReset_records,ih]

lemma DueChecks.tokens {tz now : ℤ} {s s' : Store} {es : List BucketEvent} (h : DueChecks tz now s s' es) :
    s'.tokens = s.tokens := by
  induction h with
  | refl => rfl
  | @check s' es k sub plan _ _ ih =>
    rw [←ih]
    unfold maybeResetUserSubscriptionWithPlanTx
    cases resetRow tz sub plan now <;> rfl

/-- Due checks emit nothing but resets. -/
lemma DueChecks.events {tz now : ℤ} {s s' : Store} {es : List BucketEvent} (h : DueChecks tz now s s' es) :
    ∀ e∈es, ∃ k, e = .reset k := by
  induction h with
  | refl => simp
  | @check s' es k sub plan _ _ ih =>
    intro e he
    rcases List.mem_append.mp he with he | he
    · refine ⟨k,?_⟩
      unfold maybeResetUserSubscriptionWithPlanTx at he
      cases hr : resetRow tz sub plan now with
      | none => simp [hr] at he
      | some r =>
        rw [hr] at he
        by_cases hb : r.2 <;> simp [hb] at he
        exact he
    · exact ih e he

section Loop
variable {tz now : ℤ} {requestId : String} {userId : ℕ} {bucket : Bucket} {amount : ℤ}

/-- The loop charges the first candidate with room, after due checks on it and on those before it. -/
theorem preConsumeLoop_ok {s0 s : Store} {es : List BucketEvent} {subs : List (ℕ × UserSubscription)}
    {o : Store × List BucketEvent × SubscriptionPreConsumeResult} (hs : DueChecks tz now s0 s es)
    (hsubs : ∀ r∈subs, s.subscriptions.find? r.1 = some r.2) (hn : (subs.map Prod.fst).Nodup)
    (h : preConsumeLoop tz now requestId userId bucket amount s es subs = .ok o) :
    ∃ s1 es1 k sub, DueChecks tz now s0 s1 es1 ∧ s1.subscriptions.find? k = some sub ∧
      bucketHasCapacity sub bucket amount = true ∧
      o = ((chargeCandidate requestId userId bucket amount s1 k sub).1,
        .consumed requestId k bucket amount::es1,
        (chargeCandidate requestId userId bucket amount s1 k sub).2) := by
  induction subs generalizing s es with
  | nil => contradiction
  | cons r rest ih =>
    obtain ⟨k,sub⟩ := r
    obtain ⟨plan,-,h⟩ := bind_eq_ok.mp h
    have hk := hsubs (k,sub) (by simp)
    have hc := DueChecks.check plan hs hk
    have hf := maybeReset_find? tz now plan hk
    rw [List.map_cons,List.nodup_cons] at hn
    dsimp only at h
    split_ifs at h with hcap
    · refine ⟨_,_,k,_,hc,by simpa using hf k,hcap,?_⟩
      exact (Except.ok.inj h).symm
    · refine ih hc ?_ hn.2 h
      intro r hr
      have hrk : r.1≠k := fun hrk => hn.1 (List.mem_map.mpr ⟨r,hr,hrk⟩)
      rw [hf,if_neg hrk]
      exact hsubs r (by simp [hr])

end Loop

/-- A committed pre-consumption either replays a record or charges a fresh request. -/
theorem preConsume_cases {tz now : ℤ} {s : Store} {r name : String} {u d : ℕ} {a : ℤ}
    {o : Store × List BucketEvent × SubscriptionPreConsumeResult}
    (h : preConsumeUserSubscription tz s now r u name a d = .ok o) :
    (∃ id rec, recordOf s r = some (id,rec) ∧ rec.status≠.refunded ∧ o.1=s ∧ o.2.1=[]) ∨
    (recordOf s r = none ∧ Text.trimSpace r≠"" ∧ 0<a ∧ ∃ s1 es1 k sub, DueChecks tz now s s1 es1 ∧
      s1.subscriptions.find? k = some sub ∧ bucketHasCapacity sub (Bucket.ofName name) a = true ∧
      o.1 = (chargeCandidate r u (Bucket.ofName name) a s1 k sub).1 ∧
      o.2.1 = .consumed r k (Bucket.ofName name) a::es1 ∧
      o.2.2 = (chargeCandidate r u (Bucket.ofName name) a s1 k sub).2) := by
  obtain ⟨_,-,h⟩ := bind_eq_ok.mp h
  obtain ⟨_,hr,h⟩ := bind_eq_ok.mp h
  obtain ⟨_,ha,h⟩ := bind_eq_ok.mp h
  rw [require_eq_ok] at hr ha
  cases hrec : recordOf s r with
  | some ir =>
    obtain ⟨id,rec⟩ := ir
    rw [hrec] at h
    dsimp only at h
    split_ifs at h with hst
    obtain ⟨sub,-,h⟩ := bind_eq_ok.mp h
    obtain rfl := Except.ok.inj h
    exact .inl ⟨id,rec,rfl,hst,rfl,rfl⟩
  | none =>
    refine .inr ⟨rfl,hr,ha,?_⟩
    rw [hrec] at h
    dsimp only at h
    have hp : (preConsumeCandidates s u d now).Perm (s.subscriptions.select (fun r => r.2.userId=u ∧
        r.2.status = .active ∧ now < r.2.endTime ∧ (d=0 ∨ r.1=d))) := List.perm_insertionSort _ _
    have hloop : preConsumeLoop tz now r u (Bucket.ofName name) a s [] (preConsumeCandidates s u d now) = .ok o := by
      cases hc : preConsumeCandidates s u d now with
      | nil => rw [hc] at h; contradiction
      | cons c cs => rw [hc] at h; exact h
    obtain ⟨s1,es1,k,sub,hd,hk,hcap,rfl⟩ := preConsumeLoop_ok .refl
      (fun c hc => (Table.mem_select.mp (hp.mem_iff.mp hc)).1)
      ((hp.map _).nodup_iff.mpr (Table.select_keys_nodup _ _)) hloop
    exact ⟨s1,es1,k,sub,hd,hk,hcap,rfl,rfl,rfl⟩

theorem postConsumeDeltaTx_cases {s s' : Store} {k : ℕ} {b : Bucket} {d : ℤ}
    (h : postConsumeUserSubscriptionDeltaTx s k b d = .ok s') :
    (d=0 ∧ s'=s) ∨ (d≠0 ∧ ∃ sub, s.subscriptions.find? k = some sub ∧ ¬ exceedsTotal sub b d ∧
      s' = { s with subscriptions := s.subscriptions.set k (sub.setUsed (clampedUsed sub b d) b) }) := by
  obtain ⟨_,-,h⟩ := bind_eq_ok.mp h
  split_ifs at h with hd
  · exact .inl ⟨hd,(Except.ok.inj h).symm⟩
  · obtain ⟨sub,hs,h⟩ := bind_eq_ok.mp h
    obtain ⟨_,he,h⟩ := bind_eq_ok.mp h
    rw [require_eq_ok] at he
    rw [orFail_eq_ok] at hs
    exact .inr ⟨hd,sub,hs,he,(Except.ok.inj h).symm⟩

/-- A delta of a stored subscription commits unless it exceeds the total. -/
theorem postConsumeDeltaTx_ok {s : Store} {k : ℕ} {sub : UserSubscription} {b : Bucket} {d : ℤ}
    (hs : s.subscriptions.find? k = some sub) (hd : d≠0) (he : ¬ exceedsTotal sub b d) :
    postConsumeUserSubscriptionDeltaTx s k b d =
      .ok { s with subscriptions := s.subscriptions.set k (sub.setUsed (clampedUsed sub b d) b) } := by
  have hk : k≠0 := (Table.find?_lt hs).1.ne'
  rw [postConsumeUserSubscriptionDeltaTx,require_of hk,ok_bind,if_neg hd,hs,orFail_some,ok_bind,
    require_of he,ok_bind]

theorem refund_cases {s : Store} {r : String} {o : Store × List BucketEvent}
    (h : refundSubscriptionPreConsume s r = .ok o) :
    Text.trimSpace r≠"" ∧ ∃ id rec, recordOf s r = some (id,rec) ∧
      ((rec.status = .refunded ∧ o=(s,[])) ∨ (rec.status≠.refunded ∧ ∃ s1,
        ((rec.preConsumed≤0 ∧ s1=s) ∨ (0 < rec.preConsumed ∧
          postConsumeUserSubscriptionDeltaTx s rec.userSubscriptionId rec.recordBucket (-rec.preConsumed) = .ok s1)) ∧
        o = ({ s1 with records := s1.records.set id { rec with status := .refunded } },
          [.refunded r rec.userSubscriptionId rec.recordBucket rec.preConsumed]))) := by
  obtain ⟨_,hr,h⟩ := bind_eq_ok.mp h
  obtain ⟨⟨id,rec⟩,hrec,h⟩ := bind_eq_ok.mp h
  rw [require_eq_ok] at hr
  rw [orFail_eq_ok] at hrec
  refine ⟨hr,id,rec,hrec,?_⟩
  dsimp only at h
  split_ifs at h with hst hp
  · exact .inl ⟨hst,(Except.ok.inj h).symm⟩
  · exact .inr ⟨hst,s,.inl ⟨hp,rfl⟩,(Except.ok.inj h).symm⟩
  · obtain ⟨s1,h1,h⟩ := bind_eq_ok.mp h
    exact .inr ⟨hst,s1,.inr ⟨not_le.mp hp,h1⟩,(Except.ok.inj h).symm⟩

/-- The reset task makes at most one due check. -/
theorem resetDue_cases {tz now : ℤ} {s s' : Store} {k : ℕ} {plan : SubscriptionPlan} {es : List BucketEvent}
    (h : (bucketSystem tz).step s (.resetDue k plan now) = some (s',es)) : DueChecks tz now s s' es := by
  have ho : resetDueSubscription tz s k plan now = (s',es) := Option.some.inj h
  suffices hd : DueChecks tz now s (resetDueSubscription tz s k plan now).1
      (resetDueSubscription tz s k plan now).2 by rwa [ho] at hd
  unfold resetDueSubscription
  cases hk : s.subscriptions.find? k with
  | none => exact .refl
  | some sub =>
    by_cases hd : 0 < sub.nextResetTime ∧ sub.nextResetTime≤now
    · simp only [if_pos hd]
      simpa using DueChecks.check plan .refl hk
    · simp only [if_neg hd]
      exact .refl

end Tierflow
