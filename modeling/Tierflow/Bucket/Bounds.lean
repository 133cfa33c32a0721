import Tierflow.Bucket.Meter

/-! Bounds of the two buckets in every reachable state, and isolation of each bucket from the
operations addressed to the other one. -/
namespace Tierflow
open TxSystem

/-- No bucket is negative, and no bucket with a finite total exceeds it. -/
def BucketBounded (s : Store) : Prop :=
  ∀ k sub, s.subscriptions.find? k = some sub →
    ∀ b, 0 ≤ sub.used b ∧ (0 < sub.total b → sub.used b ≤ sub.total b)

lemma bucketBounded_of_row {s s' : Store} {k : ℕ} {sub' : UserSubscription} (h : BucketBounded s)
    (hs : s'.subscriptions = s.subscriptions.set k sub')
    (hr : ∀ b, 0 ≤ sub'.used b ∧ (0 < sub'.total b → sub'.used b ≤ sub'.total b)) : BucketBounded s' := by
  intro j sub hj
  rw [hs,Table.find?_set] at hj
  split_ifs at hj
  · obtain ⟨_,-,rfl⟩ := Option.map_eq_some_iff.mp hj
    exact hr
  · exact h j sub hj

lemma bucketBounded_dueChecks {tz now : ℤ} {s s' : Store} {es : List BucketEvent} (h : BucketBounded s)
    (hd : DueChecks tz now s s' es) : BucketBounded s' := by
  intro k sub' hk b
  obtain ⟨sub,hs,hr⟩ := hd.metered.find? hk
  obtain ⟨h0,ht⟩ := h k sub hs b
  rw [hr.total,hr.used,meter_resets hd.events]
  split_ifs
  · exact ⟨le_rfl,le_of_lt⟩
  · exact ⟨h0,ht⟩

lemma bucketBounded_charge {s : Store} {k : ℕ} {sub : UserSubscription} {r : String} {u : ℕ} {b : Bucket} {a : ℤ}
    (h : BucketBounded s) (hk : s.subscriptions.find? k = some sub) (ha : 0<a)
    (hcap : bucketHasCapacity sub b a = true) : BucketBounded (chargeCandidate r u b a s k sub).1 := by
  refine bucketBounded_of_row h rfl ?_
  intro c
  obtain ⟨h0,ht⟩ := h k sub hk c
  have hle := bucketHasCapacity_le hcap
  rw [addBucketUsed,UserSubscription.used_setUsed,UserSubscription.total_setUsed]
  by_cases hc : c=b
  · subst c
    rw [if_pos rfl]
    exact ⟨by omega,hle⟩
  · rw [if_neg hc]
    exact ⟨h0,ht⟩

lemma bucketBounded_delta {s s' : Store} {k : ℕ} {b : Bucket} {d : ℤ} (h : BucketBounded s)
    (hd : postConsumeUserSubscriptionDeltaTx s k b d = .ok s') : BucketBounded s' := by
  rcases postConsumeDeltaTx_cases hd with ⟨-,rfl⟩ | ⟨-,sub,hk,he,rfl⟩
  · exact h
  · refine bucketBounded_of_row h rfl ?_
    intro c
    obtain ⟨h0,ht⟩ := h k sub hk c
    rw [UserSubscription.used_setUsed,UserSubscription.total_setUsed]
    by_cases hc : c=b
    · subst c
      rw [if_pos rfl]
      exact ⟨le_max_left _ _,fun hp => not_lt.mp (fun hlt => he ⟨hp,hlt⟩)⟩
    · rw [if_neg hc]
      exact ⟨h0,ht⟩

theorem bucketBounded_step {tz : ℤ} {s s' : Store} {op : BucketOp} {es : List BucketEvent} (h : BucketBounded s)
    (hstep : (bucketSystem tz).step s op = some (s',es)) : BucketBounded s' := by
  cases op with
  | preConsume now r u name a d =>
    obtain ⟨o,ho,heq⟩ := Option.map_eq_some_iff.mp hstep
    obtain ⟨rfl,rfl⟩ := Prod.mk.inj heq
    rcases preConsume_cases (toOption_eq_some.mp ho) with ⟨_,_,_,_,h1,-⟩ | ⟨_,_,ha,s1,es1,k,sub,hd,hk,hcap,h1,-⟩
    · rwa [h1]
    · rw [h1]
      exact bucketBounded_charge (bucketBounded_dueChecks h hd) hk ha hcap
  | postConsumeDelta r k name d =>
    obtain ⟨o,ho,heq⟩ := Option.map_eq_some_iff.mp hstep
    obtain ⟨rfl,rfl⟩ := Prod.mk.inj heq
    exact bucketBounded_delta h (toOption_eq_some.mp ho)
  | refund r =>
    obtain ⟨-,id,rec,-,⟨-,ho⟩ | ⟨-,s1,h1,ho⟩⟩ := refund_cases (toOption_eq_some.mp hstep)
    · obtain ⟨rfl,rfl⟩ := Prod.mk.inj ho
      exact h
    · obtain ⟨rfl,rfl⟩ := Prod.mk.inj ho
      have hb : BucketBounded s1 := by
        rcases h1 with ⟨-,rfl⟩ | ⟨-,h1⟩
        · exact h
        · exact bucketBounded_delta h h1
      exact hb
  | resetDue k plan now => exact bucketBounded_dueChecks h (resetDue_cases hstep)
  | catalogue plans cache =>
    obtain ⟨rfl,rfl⟩ := Prod.mk.inj (Option.some.inj hstep)
    exact h

/-- The bucket an operation is addressed to; a refund is addressed to the bucket of its record. -/
def BucketOp.bucket? (s : Store) : BucketOp → Option Bucket
  | .preConsume _ _ _ name _ _ => some (Bucket.ofName name)
  | .postConsumeDelta _ _ name _ => some (Bucket.ofName name)
  | .refund r => (recordOf s r).map (fun r => r.2.recordBucket)
  | .resetDue _ _ _ => none
  | .catalogue _ _ => none

/-- An operation leaves the buckets it is not addressed to. When it resets a subscription, it
empties both buckets, and the bucket it is addressed to then holds only what it charges. -/
def BucketIsolated (c : Config Store BucketEvent) (op : BucketOp) (d : Config Store BucketEvent) : Prop :=
  ∃ es, d.history = es++c.history ∧ ∀ k sub sub', c.state.subscriptions.find? k = some sub →
    d.state.subscriptions.find? k = some sub' → ∀ b,
      if .reset k∈es then
        sub'.used b=0 ∨ (op.bucket? c.state = some b ∧ ∃ r a, .consumed r k b a∈es ∧ sub'.used b=a)
      else op.bucket? c.state≠some b → sub'.used b=sub.used b

lemma bucketIsolated_resets {c d : Config Store BucketEvent} {op : BucketOp} {es : List BucketEvent}
    (hh : d.history = es++c.history) (hm : Metered es c.state d.state) (hes : ∀ e∈es, ∃ k, e = .reset k) :
    BucketIsolated c op d := by
  refine ⟨es,hh,?_⟩
  intro k sub sub' hk hk' b
  obtain ⟨sub0,hs,hr⟩ := hm.find? hk'
  obtain rfl := Option.some.inj (hk.symm.trans hs)
  rw [hr.used,meter_resets hes]
  split_ifs with h
  · exact .inl rfl
  · exact fun _ => rfl

/-- A single event that is about the addressed bucket leaves the other one. -/
lemma bucketIsolated_single {c d : Config Store BucketEvent} {op : BucketOp} {e : BucketEvent}
    (hh : d.history = [e]++c.history) (hm : Metered [e] c.state d.state) (hreset : ∀ k, e≠.reset k)
    (hother : ∀ k b n, op.bucket? c.state≠some b → meterEvent k b e n = n) : BucketIsolated c op d := by
  refine ⟨[e],hh,?_⟩
  intro k sub sub' hk hk' b
  obtain ⟨sub0,hs,hr⟩ := hm.find? hk'
  obtain rfl := Option.some.inj (hk.symm.trans hs)
  rw [if_neg (fun he => hreset k (List.mem_singleton.mp he).symm),hr.used,meter_cons,meter_nil]
  exact hother k b _

theorem bucketIsolated_step {tz : ℤ} {c : Config Store BucketEvent} {op : BucketOp} {s' : Store}
    {es : List BucketEvent} (h : (bucketSystem tz).step c.state op = some (s',es)) :
    BucketIsolated c op ⟨s',es++c.history⟩ := by
  have hm := bucketStep_metered h
  cases op with
  | preConsume now r u name a d =>
    obtain ⟨o,ho,heq⟩ := Option.map_eq_some_iff.mp h
    obtain ⟨rfl,rfl⟩ := Prod.mk.inj heq
    rcases preConsume_cases (toOption_eq_some.mp ho) with ⟨_,_,_,_,-,h2⟩ | ⟨_,_,_,s1,es1,j,subj,hd,_,_,-,h2,-⟩
    · exact bucketIsolated_resets rfl hm (by simp [h2])
    · refine ⟨_,rfl,?_⟩
      intro k sub sub' hk hk' b
      obtain ⟨sub0,hs,hr⟩ := hm.find? hk'
      obtain rfl := Option.some.inj (hk.symm.trans hs)
      have hu := hr.used b
      rw [h2,meter_cons,meter_resets hd.events,meterEvent] at hu
      rw [h2,hu]
      by_cases hb : j=k ∧ Bucket.ofName name=b
      · obtain ⟨rfl,rfl⟩ := hb
        by_cases hres : BucketEvent.reset j∈es1 <;> simp [hres,BucketOp.bucket?]
      · rw [if_neg hb]
        by_cases hres : BucketEvent.reset k∈es1 <;> simp [hres]
  | postConsumeDelta r k name d =>
    obtain ⟨o,ho,heq⟩ := Option.map_eq_some_iff.mp h
    obtain ⟨rfl,rfl⟩ := Prod.mk.inj heq
    apply bucketIsolated_single rfl hm (by simp)
    intro j b n hb
    have hne : Bucket.ofName name≠b := fun he => hb (congrArg some he)
    simp [meterEvent,hne]
  | refund r =>
    obtain ⟨-,id,rec,hrec,⟨-,ho⟩ | ⟨-,s1,h1,ho⟩⟩ := refund_cases (toOption_eq_some.mp h)
    · obtain ⟨rfl,rfl⟩ := Prod.mk.inj ho
      exact bucketIsolated_resets rfl hm (by simp)
    · obtain ⟨rfl,rfl⟩ := Prod.mk.inj ho
      apply bucketIsolated_single rfl hm (by simp)
      intro j b n hb
      have hne : rec.recordBucket≠b := by
        rintro rfl
        exact hb (by simp [BucketOp.bucket?,hrec])
      simp [meterEvent,hne]
  | resetDue k plan now => exact bucketIsolated_resets rfl hm (resetDue_cases h).events
  | catalogue plans cache =>
    obtain ⟨rfl,rfl⟩ := Prod.mk.inj (Option.some.inj h)
    exact bucketIsolated_resets rfl hm (by simp)

/-- Throughout every run all buckets stay within their bounds, and every operation leaves the
bucket it is not addressed to, except for a reset, which empties both. -/
theorem bucket_bounds_and_isolation (tz : ℤ) (s : Store) (hs : BucketBounded s) (ops : List BucketOp) :
    (bucketSystem tz).Always (fun c => BucketBounded c.state) ⟨s,[]⟩ ops ∧
      (bucketSystem tz).Transitions BucketIsolated ⟨s,[]⟩ ops := by
  have hb : (bucketSystem tz).Always (fun c => BucketBounded c.state) ⟨s,[]⟩ ops :=
    always_of_step hs (fun _ _ _ _ hd h => bucketBounded_step hd h) ops
  refine ⟨hb,transitions_of_step hb ?_ (fun _ _ _ _ _ h => bucketIsolated_step h)⟩
  intro d op _ _
  exact bucketIsolated_resets (List.nil_append _).symm (.refl _) (by simp)

theorem bucket_bounds_and_isolation_metered :
    (bucketSystem 0).Always (fun c => BucketBounded c.state) ⟨meteredStore,[]⟩
        [.preConsume 2 "a" 1 "premium" 40 0,.postConsumeDelta "a" 1 "basic" 7] ∧
      (bucketSystem 0).Transitions BucketIsolated ⟨meteredStore,[]⟩
        [.preConsume 2 "a" 1 "premium" 40 0,.postConsumeDelta "a" 1 "basic" 7] := by
  refine bucket_bounds_and_isolation 0 meteredStore ?_ _
  intro k sub hk b
  rw [meteredStore_unused hk b]
  exact ⟨le_rfl,le_of_lt⟩

end Tierflow
