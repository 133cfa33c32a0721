import Tierflow.Bucket.System

/-! A meter that reads only the emitted events. The used amount of every stored bucket is what
the meter shows, whatever operations committed. -/
namespace Tierflow

/-- The reading of the meter of bucket `b` of subscription `k` after an event. -/
def meterEvent (k : ℕ) (b : Bucket) : BucketEvent → ℤ → ℤ
  | .consumed _ j c a,u => if j=k ∧ c=b then u+a else u
  | .adjusted _ j c d,u => if j=k ∧ c=b ∧ d≠0 then max 0 (u+d) else u
  | .refunded _ j c a,u => if j=k ∧ c=b ∧ 0<a then max 0 (u-a) else u
  | .reset j,u => if j=k then 0 else u

/-- The reading after a history, the newest event first. -/
def meter (k : ℕ) (b : Bucket) (es : List BucketEvent) (u : ℤ) : ℤ := es.foldr (meterEvent k b) u

@[simp] theorem meter_nil (k : ℕ) (b : Bucket) (u : ℤ) : meter k b [] u = u := rfl

@[simp] theorem meter_cons (k : ℕ) (b : Bucket) (e : BucketEvent) (es : List BucketEvent) (u : ℤ) :
    meter k b (e::es) u = meterEvent k b e (meter k b es u) := rfl

theorem meter_append (k : ℕ) (b : Bucket) (es fs : List BucketEvent) (u : ℤ) :
    meter k b (es++fs) u = meter k b es (meter k b fs u) := List.foldr_append

/-- Resets of a subscription clear its meters, and resets of others leave them. -/
theorem meter_resets {es : List BucketEvent} (h : ∀ e∈es, ∃ k, e = .reset k) (k : ℕ) (b : Bucket) (u : ℤ) :
    meter k b es u = if .reset k∈es then 0 else u := by
  induction es with
  | nil => rfl
  | cons e es ih =>
    obtain ⟨j,rfl⟩ := h e (by simp)
    rw [meter_cons,ih (fun e he => h e (by simp [he])),meterEvent]
    by_cases hj : j=k
    · simp [hj]
    · have hk : k≠j := fun hk => hj hk.symm
      simp [hj,hk]

/-- A row before and after some events: its totals are kept and its meters advanced. -/
structure RowStep (k : ℕ) (es : List BucketEvent) (sub sub' : UserSubscription) : Prop where
  total : ∀ b, sub'.total b = sub.total b
  used : ∀ b, sub'.used b = meter k b es (sub.used b)

lemma RowStep.refl (k : ℕ) (sub : UserSubscription) : RowStep k [] sub sub := ⟨fun _ => rfl,fun _ => rfl⟩

lemma RowStep.trans {k : ℕ} {es fs : List BucketEvent} {a b c : UserSubscription} (h : RowStep k es a b)
    (h' : RowStep k fs b c) : RowStep k (fs++es) a c where
  total d := by rw [h'.total,h.total]
  used d := by rw [h'.used,h.used,meter_append]

/-- Stores whose subscriptions differ by what the events say. -/
def Metered (es : List BucketEvent) (s s' : Store) : Prop :=
  ∀ k, Option.Rel (RowStep k es) (s.subscriptions.find? k) (s'.subscriptions.find? k)

/-- Events that concern no row leave all rows. -/
lemma Metered.of_eq {es : List BucketEvent} {s s' : Store} (h : s'.subscriptions = s.subscriptions)
    (hes : ∀ k b u, s.subscriptions.find? k≠none → meter k b es u = u) : Metered es s s' := by
  intro k
  rw [h]
  cases hk : s.subscriptions.find? k with
  | none => exact .none
  | some sub => exact .some ⟨fun _ => rfl,fun b => (hes k b _ (by rw [hk]; exact Option.some_ne_none _)).symm⟩

lemma Metered.refl (s : Store) : Metered [] s s := .of_eq rfl (fun _ _ _ _ => rfl)

lemma Metered.trans {es fs : List BucketEvent} {s s' s'' : Store} (h : Metered es s s')
    (h' : Metered fs s' s'') : Metered (fs++es) s s'' := by
  intro k
  have h1 := h k
  have h2 := h' k
  generalize s.subscriptions.find? k = x at h1
  generalize s'.subscriptions.find? k = y at h1 h2
  generalize s''.subscriptions.find? k = z at h2
  cases h1 with
  | none =>
    cases h2
    exact .none
  | some h1 =>
    cases h2 with
    | some h2 => exact .some (h1.trans h2)

/-- One row is overwritten by events that concern no other row. -/
lemma Metered.set {es : List BucketEvent} {s s' : Store} {k : ℕ} {sub sub' : UserSubscription}
    (hk : s.subscriptions.find? k = some sub) (hs : s'.subscriptions = s.subscriptions.set k sub')
    (hr : RowStep k es sub sub') (hes : ∀ j b u, j≠k → meter j b es u = u) : Metered es s s' := by
  intro j
  rw [hs]
  by_cases hj : j=k
  · subst j
    rw [Table.find?_set_self sub' hk,hk]
    exact .some hr
  · rw [Table.find?_set_of_ne _ _ hj]
    cases s.subscriptions.find? j with
    | none => exact .none
    | some a => exact .some ⟨fun _ => rfl,fun b => (hes j b _ hj).symm⟩

lemma Metered.find? {es : List BucketEvent} {s s' : Store} (h : Metered es s s') {k : ℕ}
    {sub' : UserSubscription} (hk : s'.subscriptions.find? k = some sub') :
    ∃ sub, s.subscriptions.find? k = some sub ∧ RowStep k es sub sub' := by
  have h := h k
  rw [hk] at h
  generalize ho : s.subscriptions.find? k = o at h
  cases h with
  | some h => exact ⟨_,rfl,h⟩

lemma Metered.find?_of {es : List BucketEvent} {s s' : Store} (h : Metered es s s') {k : ℕ}
    {sub : UserSubscription} (hk : s.subscriptions.find? k = some sub) :
    ∃ sub', s'.subscriptions.find? k = some sub' ∧ RowStep k es sub sub' := by
  have h := h k
  rw [hk] at h
  generalize ho : s'.subscriptions.find? k = o at h
  cases h with
  | some h => exact ⟨_,rfl,h⟩

/-! ## Every operation advances the meters as its events say -/

lemma maybeReset_metered (tz now : ℤ) {s : Store} {k : ℕ} {sub : UserSubscription} (plan : SubscriptionPlan)
    (hk : s.subscriptions.find? k = some sub) :
    Metered (maybeResetUserSubscriptionWithPlanTx tz s k sub plan now).2.2 s
      (maybeResetUserSubscriptionWithPlanTx tz s k sub plan now).1 := by
  unfold maybeResetUserSubscriptionWithPlanTx
  cases hr : resetRow tz sub plan now with
  | none => exact .refl s
  | some r =>
    obtain ⟨sub',reset⟩ := r
    rcases resetRow_cases hr with ⟨rfl,last,next,-,rfl⟩ | ⟨rfl,last,next,rfl⟩
    · refine .set hk rfl ⟨fun b => by cases b <;> rfl,fun b => ?_⟩ ?_
      · cases b <;> simp [meterEvent,UserSubscription.used]
      · intro j b u hj
        simp [meterEvent,hj.symm]
    · exact .set hk rfl ⟨fun b => by cases b <;> rfl,fun b => by cases b <;> rfl⟩ (fun _ _ _ _ => rfl)

lemma DueChecks.metered {tz now : ℤ} {s s' : Store} {es : List BucketEvent} (h : DueChecks tz now s s' es) :
    Metered es s s' := by
  induction h with
  | refl => exact .refl s
  | check plan _ hk ih => exact ih.trans (maybeReset_metered tz now plan hk)

lemma chargeCandidate_metered (r : String) (u : ℕ) (b : Bucket) (a : ℤ) {s : Store} {k : ℕ}
    {sub : UserSubscription} (hk : s.subscriptions.find? k = some sub) :
    Metered [.consumed r k b a] s (chargeCandidate r u b a s k sub).1 := by
  refine .set hk rfl ⟨fun c => ?_,fun c => ?_⟩ ?_
  · simp [addBucketUsed]
  · by_cases hc : c=b
    · simp [addBucketUsed,meterEvent,hc]
    · have hb : b≠c := fun hb => hc hb.symm
      simp [addBucketUsed,meterEvent,hc,hb]
  · intro j c v hj
    simp [meterEvent,hj.symm]

/-- A clamped delta reads as any event that moves the same meter in the same way. -/
lemma delta_metered {s s' : Store} {k : ℕ} {b : Bucket} {d : ℤ} {e : BucketEvent}
    (h : postConsumeUserSubscriptionDeltaTx s k b d = .ok s')
    (he : ∀ j c u, meterEvent j c e u = if k=j ∧ b=c ∧ d≠0 then max 0 (u+d) else u) : Metered [e] s s' := by
  rcases postConsumeDeltaTx_cases h with ⟨hd,rfl⟩ | ⟨hd,sub,hk,-,rfl⟩
  · refine .of_eq rfl ?_
    intro j c u _
    simp [he,hd]
  · refine .set hk rfl ⟨fun c => by simp,fun c => ?_⟩ ?_
    · by_cases hc : c=b
      · simp [he,hc,hd,clampedUsed]
      · have hb : b≠c := fun hb => hc hb.symm
        simp [he,hc,hb]
    · intro j c u hj
      simp [he,hj.symm]

/-- Every committed operation advances all meters by exactly the events it emits. -/
theorem bucketStep_metered {tz : ℤ} {s s' : Store} {op : BucketOp} {es : List BucketEvent}
    (h : (bucketSystem tz).step s op = some (s',es)) : Metered es s s' := by
  cases op with
  | preConsume now r u name a d =>
    obtain ⟨o,ho,heq⟩ := Option.map_eq_some_iff.mp h
    obtain ⟨rfl,rfl⟩ := Prod.mk.inj heq
    rcases preConsume_cases (toOption_eq_some.mp ho) with ⟨_,_,_,_,h1,h2⟩ | ⟨_,_,_,s1,es1,k,sub,hd,hk,_,h1,h2,-⟩
    · rw [h1,h2]
      exact .refl s
    · rw [h1,h2]
      exact hd.metered.trans (chargeCandidate_metered _ _ _ _ hk)
  | postConsumeDelta r k name d =>
    obtain ⟨o,ho,heq⟩ := Option.map_eq_some_iff.mp h
    obtain ⟨rfl,rfl⟩ := Prod.mk.inj heq
    exact delta_metered (toOption_eq_some.mp ho) (fun _ _ _ => rfl)
  | refund r =>
    obtain ⟨-,id,rec,-,⟨-,h⟩ | ⟨-,s1,h1,h⟩⟩ := refund_cases (toOption_eq_some.mp h)
    · obtain ⟨rfl,rfl⟩ := Prod.mk.inj h
      exact .refl _
    · obtain ⟨rfl,rfl⟩ := Prod.mk.inj h
      rcases h1 with ⟨hp,rfl⟩ | ⟨hp,h1⟩
      · refine .of_eq rfl ?_
        intro j c u _
        simp [meterEvent,not_lt.mpr hp]
      · refine (delta_metered (e := .refunded r rec.userSubscriptionId rec.recordBucket rec.preConsumed) h1 ?_).trans
          (show Metered [] _ _ from .of_eq rfl (fun _ _ _ _ => rfl))
        intro j c u
        have hn : -rec.preConsumed≠0 := by omega
        simp only [meterEvent,hp,hn,ne_eq,not_false_eq_true,sub_eq_add_neg]
  | resetDue k plan now => exact (resetDue_cases h).metered
  | catalogue plans cache =>
    obtain ⟨rfl,rfl⟩ := Prod.mk.inj (Option.some.inj h)
    exact .of_eq rfl (fun _ _ _ _ => rfl)

end Tierflow
