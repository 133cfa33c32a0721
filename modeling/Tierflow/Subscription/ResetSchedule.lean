import Tierflow.Foundation.Schedule
import Tierflow.Subscription.System

/-! The reset schedule of a subscription. A due check catches up with missed resets in a loop; here
the loop is the one of the source, which need not end, and custom periods are 64-bit durations.
The server runs at a fixed offset from UTC. -/
namespace Tierflow
open Calendar Schedule

/-! ## The code -/

/-- `base.Add(time.Duration(seconds)*time.Second).Unix()`: the duration counts nanoseconds in 64
bits, and the sum is rounded down to seconds. -/
def addSeconds (base seconds : ℤ) : ℤ := base+Int.bmod (seconds*1000000000) (2^64)/1000000000

/-- `calcNextResetTime` with the durations of the machine. -/
def calcNextReset (tz : ℤ) (plan : SubscriptionPlan) (endTime base : ℤ) : ℤ :=
  if normalizeResetPeriod plan.quotaResetPeriod = .custom ∧ 0<plan.quotaResetCustomSeconds then
    let next := addSeconds base plan.quotaResetCustomSeconds
    if 0<endTime ∧ endTime<next then 0 else next
  else calcNextResetTime tz base plan endTime

/-- The next reset that is stored lies in the future. -/
def resetPending (sub : UserSubscription) (now : ℤ) : Prop := 0 < sub.nextResetTime ∧ now < sub.nextResetTime

instance (sub : UserSubscription) (now : ℤ) : Decidable (resetPending sub now) :=
  inferInstanceAs (Decidable (_ ∧ _))

/-- The row after the loop has ended at `base`. -/
def resetAt (next : ℤ → ℤ) (now : ℤ) (sub : UserSubscription) (base : ℤ) : UserSubscription :=
  if Due next now (resetBase sub) then
    { sub with amountUsed := 0, basicTokenUsed := 0, lastResetTime := base, nextResetTime := next base }
  else if sub.nextResetTime=0 ∧ 0<next (resetBase sub) then
    { sub with nextResetTime := next (resetBase sub), lastResetTime := resetBase sub }
  else sub

/-- The row after the check, `none` while its loop has not ended after `n` rounds. -/
def maybeResetUserSubscription (tz : ℤ) (plan : SubscriptionPlan) (now : ℤ) (n : ℕ) (sub : UserSubscription) :
    Option UserSubscription :=
  if resetPending sub now then some sub
  else if normalizeResetPeriod plan.quotaResetPeriod = .never then some sub
  else
    let next := calcNextReset tz plan sub.endTime
    (catchUp next now n (resetBase sub)).map (resetAt next now sub)

/-- The background task checks the active rows whose stored reset is due. -/
def backgroundReset (tz : ℤ) (plan : SubscriptionPlan) (now : ℤ) (n : ℕ) (sub : UserSubscription) :
    Option UserSubscription :=
  if 0 < sub.nextResetTime ∧ sub.nextResetTime≤now ∧ sub.status=.active then
    maybeResetUserSubscription tz plan now n sub
  else some sub

/-- The check at `now` ends with the row `r`. -/
def ResetsTo (tz : ℤ) (plan : SubscriptionPlan) (now : ℤ) (sub r : UserSubscription) : Prop :=
  ∃n,maybeResetUserSubscription tz plan now n sub = some r

/-- The background task ends with the row `r`. -/
def BackgroundResetsTo (tz : ℤ) (plan : SubscriptionPlan) (now : ℤ) (sub r : UserSubscription) : Prop :=
  ∃n,backgroundReset tz plan now n sub = some r

/-! ## Durations within range -/

/-- The greatest number of seconds that a `time.Duration` can hold. -/
def maxDurationSeconds : ℤ := 9223372036

lemma addSeconds_eq {base s : ℤ} (hp : 0 < s) (hs : s ≤ maxDurationSeconds) : addSeconds base s = base+s := by
  unfold maxDurationSeconds at hs
  have h : Int.bmod (s*1000000000) (2^64) = s*1000000000 := by
    apply Int.bmod_eq_of_le <;> norm_num <;> omega
  rw [addSeconds,h,Int.mul_ediv_cancel _ (by decide)]

theorem calcNextReset_eq {tz : ℤ} {plan : SubscriptionPlan} {endTime : ℤ}
    (hs : plan.quotaResetCustomSeconds ≤ maxDurationSeconds) (base : ℤ) :
    calcNextReset tz plan endTime base = calcNextResetTime tz base plan endTime := by
  unfold calcNextReset
  split_ifs with h
  · simp only [addSeconds_eq h.2 hs,calcNextResetTime,h.1,if_neg (not_le.mpr h.2)]
  · rfl

lemma calcNextReset_advances (tz : ℤ) {plan : SubscriptionPlan} (endTime : ℤ)
    (hs : plan.quotaResetCustomSeconds ≤ maxDurationSeconds) : Advances (calcNextReset tz plan endTime) := by
  intro b hb
  rw [calcNextReset_eq hs] at hb ⊢
  have := calcNextResetTime_gt tz b plan endTime
  omega

/-- The catch-up loop of `resetRow`, whose fuel suffices, ends where this one does. -/
lemma advanceReset_settles (tz : ℤ) (plan : SubscriptionPlan) (endTime : ℤ) {now : ℤ} (n : ℕ) {b : ℤ} (hn : now-b≤n) :
    ∃c,Settles (fun b => calcNextResetTime tz b plan endTime) now b c ∧
      advanceReset tz plan endTime now n b (calcNextResetTime tz b plan endTime) =
        (c,calcNextResetTime tz c plan endTime) := by
  induction n generalizing b with
  | zero =>
    refine ⟨b,settles_self fun hd => ?_,rfl⟩
    have := calcNextResetTime_gt tz b plan endTime
    have : 0 < calcNextResetTime tz b plan endTime := hd.1
    have : calcNextResetTime tz b plan endTime≤now := hd.2
    push_cast at hn
    omega
  | succ n ih =>
    have hgt := calcNextResetTime_gt tz b plan endTime
    by_cases hd : 0 < calcNextResetTime tz b plan endTime ∧ calcNextResetTime tz b plan endTime≤now
    · obtain ⟨c,hc,he⟩ := ih (b := calcNextResetTime tz b plan endTime) (by push_cast at hn; omega)
      exact ⟨c,hc.step hd,by rw [advanceReset,if_pos hd,he]⟩
    · exact ⟨b,settles_self hd,by rw [advanceReset,if_neg hd]⟩

/-- Within the range of durations, `resetRow` says what a check writes. -/
theorem resetsTo_resetRow {tz : ℤ} {plan : SubscriptionPlan} (hs : plan.quotaResetCustomSeconds ≤ maxDurationSeconds)
    (now : ℤ) (sub : UserSubscription) :
    ResetsTo tz plan now sub ((resetRow tz sub plan now).elim sub Prod.fst) := by
  have hnext : calcNextReset tz plan sub.endTime = fun b => calcNextResetTime tz b plan sub.endTime :=
    funext (calcNextReset_eq hs)
  obtain ⟨c,⟨n,hc⟩,he⟩ := advanceReset_settles tz plan sub.endTime (now-resetBase sub).toNat
    (Int.self_le_toNat (now-resetBase sub))
  refine ⟨n,?_⟩
  unfold maybeResetUserSubscription resetRow
  by_cases hp : resetPending sub now
  · rw [if_pos hp,if_pos (show 0 < sub.nextResetTime ∧ now < sub.nextResetTime from hp)]
    rfl
  rw [if_neg hp,if_neg (show ¬(0 < sub.nextResetTime ∧ now < sub.nextResetTime) from hp)]
  by_cases hn : normalizeResetPeriod plan.quotaResetPeriod = .never
  · rw [if_pos hn,if_pos hn]
    rfl
  rw [if_neg hn,if_neg hn]
  simp only [hnext,hc,Option.map_some,resetAt,Due,he]
  split_ifs <;> rfl

/-! ## One check after another -/

section
variable {tz : ℤ} {plan : SubscriptionPlan} {now : ℤ} {sub r : UserSubscription}

lemma resetsTo_of_pending (h : resetPending sub now) : ResetsTo tz plan now sub r ↔ r=sub := by
  simp only [ResetsTo,maybeResetUserSubscription,if_pos h,Option.some.injEq,exists_const,eq_comm]

lemma resetsTo_of_never (h : normalizeResetPeriod plan.quotaResetPeriod = .never) :
    ResetsTo tz plan now sub r ↔ r=sub := by
  have hrow : ∀n,maybeResetUserSubscription tz plan now n sub = some sub := fun n => by
    rw [maybeResetUserSubscription,if_pos h,ite_self]
  simp only [ResetsTo,hrow,Option.some.injEq,exists_const,eq_comm]

/-- A check that is not stopped by the stored time writes what the end of its loop says. -/
lemma resetsTo_iff (hp : ¬resetPending sub now) (hn : normalizeResetPeriod plan.quotaResetPeriod≠.never) :
    ResetsTo tz plan now sub r ↔ ∃b,Settles (calcNextReset tz plan sub.endTime) now (resetBase sub) b ∧
      r=resetAt (calcNextReset tz plan sub.endTime) now sub b := by
  simp only [ResetsTo,maybeResetUserSubscription,if_neg hp,if_neg hn,Option.map_eq_some_iff,Settles]
  constructor
  · rintro ⟨n,b,hb,rfl⟩
    exact ⟨b,⟨n,hb⟩,rfl⟩
  · rintro ⟨b,⟨n,hb⟩,hr⟩
    exact ⟨n,b,hb,hr.symm⟩

lemma ResetsTo.settled (hp : ¬resetPending sub now) (hn : normalizeResetPeriod plan.quotaResetPeriod≠.never)
    (h : ResetsTo tz plan now sub r) : ∃b,Settles (calcNextReset tz plan sub.endTime) now (resetBase sub) b ∧
      resetAt (calcNextReset tz plan sub.endTime) now sub b=r := by
  obtain ⟨b,hb,hr⟩ := (resetsTo_iff hp hn).mp h
  exact ⟨b,hb,hr.symm⟩

theorem ResetsTo.unique {r' : UserSubscription} (h : ResetsTo tz plan now sub r)
    (h' : ResetsTo tz plan now sub r') : r=r' := by
  by_cases hp : resetPending sub now
  · rw [resetsTo_of_pending hp] at h h'
    rw [h,h']
  by_cases hn : normalizeResetPeriod plan.quotaResetPeriod = .never
  · rw [resetsTo_of_never hn] at h h'
    rw [h,h']
  obtain ⟨b,hb,rfl⟩ := h.settled hp hn
  obtain ⟨c,hc,rfl⟩ := h'.settled hp hn
  rw [hb.unique hc]

/-- The loop ends. -/
theorem exists_resetsTo (tz : ℤ) (hs : plan.quotaResetCustomSeconds ≤ maxDurationSeconds) (now : ℤ) (sub : UserSubscription) :
    ∃r,ResetsTo tz plan now sub r := by
  by_cases hp : resetPending sub now
  · exact ⟨sub,(resetsTo_of_pending hp).mpr rfl⟩
  by_cases hn : normalizeResetPeriod plan.quotaResetPeriod = .never
  · exact ⟨sub,(resetsTo_of_never hn).mpr rfl⟩
  obtain ⟨b,hb⟩ := (calcNextReset_advances tz sub.endTime hs).settles now (resetBase sub)
  exact ⟨_,(resetsTo_iff hp hn).mpr ⟨b,hb,rfl⟩⟩

end

lemma resetBase_of_pos {sub : UserSubscription} (h : 0 < sub.lastResetTime) : resetBase sub = sub.lastResetTime := by
  rw [resetBase,if_neg (not_le.mpr h)]

/-- Storing the base does not move it. -/
lemma resetBase_stored {sub r : UserSubscription} (hl : r.lastResetTime=resetBase sub)
    (hr : r.startTime=sub.startTime) : resetBase r = resetBase sub := by
  unfold resetBase at *
  split_ifs at * <;> omega

/-- A check at an earlier time makes no difference to a later check. -/
theorem ResetsTo.trans {tz : ℤ} {plan : SubscriptionPlan} {t1 t2 : ℤ} {sub a r : UserSubscription}
    (ht : t1≤t2) (h : ResetsTo tz plan t1 sub a) (h' : ResetsTo tz plan t2 a r) : ResetsTo tz plan t2 sub r := by
  by_cases hp : resetPending sub t1
  · rwa [(resetsTo_of_pending hp).mp h] at h'
  by_cases hn : normalizeResetPeriod plan.quotaResetPeriod = .never
  · rwa [(resetsTo_of_never hn).mp h] at h'
  have hp2 : ¬resetPending sub t2 := fun hc => hp ⟨hc.1,ht.trans_lt hc.2⟩
  rw [resetsTo_iff hp2 hn]
  obtain ⟨b,hb,rfl⟩ := h.settled hp hn
  set next := calcNextReset tz plan sub.endTime with hnext
  by_cases hd : Due next t1 (resetBase sub)
  · -- The first check has reset the buckets and moved the base to `b`.
    have hbase : ∀a,resetAt next t1 sub b=a → a.endTime=sub.endTime ∧ a.nextResetTime=next b ∧ resetBase a = b ∧
        a=resetAt next t2 sub b := by
      rintro a rfl
      have hd2 := hd.mono ht
      simp only [resetAt,if_pos hd,if_pos hd2]
      exact ⟨trivial,trivial,resetBase_of_pos (hb.of_due hd).1,trivial⟩
    obtain ⟨he,hx,hba,heq⟩ := hbase _ rfl
    generalize resetAt next t1 sub b = a at *
    by_cases hpa : resetPending a t2
    · rw [resetsTo_of_pending hpa] at h'
      have hnd : ¬Due next t2 b := fun hc => by
        have := hpa.2
        rw [hx] at this
        exact absurd hc.2 (not_le.mpr this)
      exact ⟨b,hb.trans ht (settles_self hnd),h'.trans heq⟩
    · obtain ⟨c,hc,rfl⟩ := h'.settled hpa hn
      rw [he,←hnext,hba] at hc
      rw [he,←hnext]
      refine ⟨c,hb.trans ht hc,?_⟩
      by_cases hdb : Due next t2 b
      · rw [resetAt,hba,if_pos hdb,heq]
        simp only [resetAt,if_pos (hd.mono ht)]
      · have hcb : c=b := hc.unique (settles_self hdb)
        have hno : ¬(a.nextResetTime=0 ∧ 0<next b) := by
          rw [hx]
          omega
        rw [resetAt,hba,if_neg hdb,if_neg hno,hcb,heq]
  · -- Nothing was due: the first check has stored the next reset at most.
    have hbb : b=resetBase sub := hb.unique (settles_self hd)
    by_cases ha : sub.nextResetTime=0 ∧ 0<next (resetBase sub)
    · have hrow : ∀a,resetAt next t1 sub b=a → a.endTime=sub.endTime ∧ a.nextResetTime=next (resetBase sub) ∧
          resetBase a = resetBase sub ∧ a={ sub with nextResetTime := next (resetBase sub), lastResetTime := resetBase sub } := by
        rintro a rfl
        simp only [resetAt,if_neg hd,if_pos ha]
        exact ⟨trivial,trivial,resetBase_stored rfl rfl,trivial⟩
      obtain ⟨he,hx,hba,heq⟩ := hrow _ rfl
      generalize resetAt next t1 sub b = a at *
      by_cases hpa : resetPending a t2
      · rw [resetsTo_of_pending hpa] at h'
        have hnd : ¬Due next t2 (resetBase sub) := fun hc => by
          have := hpa.2
          rw [hx] at this
          exact absurd hc.2 (not_le.mpr this)
        refine ⟨resetBase sub,settles_self hnd,?_⟩
        rw [h',resetAt,if_neg hnd,if_pos ha,heq]
      · obtain ⟨c,hc,rfl⟩ := h'.settled hpa hn
        rw [he,←hnext,hba] at hc
        rw [he,←hnext]
        refine ⟨c,hc,?_⟩
        have hdue : Due next t2 (resetBase sub) := by
          refine ⟨ha.2,?_⟩
          rw [resetPending,hx] at hpa
          by_contra hlt
          exact hpa ⟨ha.2,not_le.mp hlt⟩
        rw [resetAt,hba,if_pos hdue,heq,resetAt,if_pos hdue]
    · have hsub : resetAt next t1 sub b = sub := by rw [resetAt,if_neg hd,if_neg ha]
      rw [hsub] at h'
      exact (resetsTo_iff hp2 hn).mp h'

section
variable {tz : ℤ} {plan : SubscriptionPlan} {now : ℤ} {sub r : UserSubscription}

/-- On the rows that it selects, the background task is the check. -/
lemma resetsTo_background (h : 0 < sub.nextResetTime ∧ sub.nextResetTime≤now ∧ sub.status=.active) :
    BackgroundResetsTo tz plan now sub r ↔ ResetsTo tz plan now sub r := by
  simp only [BackgroundResetsTo,ResetsTo,backgroundReset,if_pos h]

lemma backgroundResetsTo_of_not (h : ¬(0 < sub.nextResetTime ∧ sub.nextResetTime≤now ∧ sub.status=.active))
    (hr : BackgroundResetsTo tz plan now sub r) : r=sub := by
  obtain ⟨n,hn⟩ := hr
  rw [backgroundReset,if_neg h] at hn
  exact (Option.some.inj hn).symm

end

/-- Checking early and checking late, or only late: the same row. -/
theorem resetsTo_trans_iff {tz : ℤ} {plan : SubscriptionPlan} {t1 t2 : ℤ} {sub a r : UserSubscription}
    (hs : plan.quotaResetCustomSeconds ≤ maxDurationSeconds) (ht : t1≤t2) (h : ResetsTo tz plan t1 sub a) :
    ResetsTo tz plan t2 a r ↔ ResetsTo tz plan t2 sub r := by
  refine ⟨h.trans ht,fun hr => ?_⟩
  obtain ⟨r',hr'⟩ := exists_resetsTo tz hs t2 a
  rwa [hr.unique (h.trans ht hr')]

/-! ## The schedule -/

/-- The instants at which the quota of a subscription that starts at `start` is to be reset. -/
def IsBoundary (tz : ℤ) (plan : SubscriptionPlan) (start b : ℤ) : Prop :=
  match normalizeResetPeriod plan.quotaResetPeriod with
  | .never => False
  | .daily => ∃d, b = midnight tz d
  | .weekly => ∃d, weekday d = 1 ∧ b = midnight tz d
  | .monthly => ∃n, b = midnight tz (monthStart n)
  | .custom => 0<plan.quotaResetCustomSeconds ∧ ∃k : ℕ, b = start+k*plan.quotaResetCustomSeconds

/-- The start of a subscription and the boundaries after it, up to its end (0 is no end). -/
def marks (tz : ℤ) (plan : SubscriptionPlan) (start endTime : ℤ) : Set ℤ :=
  {b | b=start ∨ start<b ∧ IsBoundary tz plan start b ∧ (0<endTime → b≤endTime)}

/-- The row of a subscription as its creation and every check under the same plan leave it. -/
structure OnSchedule (tz : ℤ) (plan : SubscriptionPlan) (sub : UserSubscription) : Prop where
  start_pos : 0 < sub.startTime
  base_mem : resetBase sub∈marks tz plan sub.startTime sub.endTime
  next_eq : sub.nextResetTime = calcNextResetTime tz (resetBase sub) plan sub.endTime

theorem onSchedule_created {tz now : ℤ} (userId planId : ℕ) (plan : SubscriptionPlan) (source : SubscriptionSource)
    (endTime : ℤ) (prevGroup : String) (h : 0<now) :
    OnSchedule tz plan (newUserSubscription tz now userId planId plan source endTime prevGroup) := by
  have hb : resetBase (newUserSubscription tz now userId planId plan source endTime prevGroup) = now := by
    simp only [resetBase,newUserSubscription]
    split_ifs <;> omega
  exact ⟨h,.inl hb,by rw [hb]; simp only [newUserSubscription]⟩

lemma midnight_lt_iff {tz b d : ℤ} : b < midnight tz d ↔ civilDay tz b<d := by
  unfold midnight civilDay day
  omega

lemma midnight_le_midnight {tz d e : ℤ} : midnight tz d ≤ midnight tz e ↔ d≤e := by
  unfold midnight day
  omega

/-- The plan has boundaries. -/
def Scheduled (plan : SubscriptionPlan) : Prop :=
  normalizeResetPeriod plan.quotaResetPeriod≠.never ∧
    (normalizeResetPeriod plan.quotaResetPeriod = .custom → 0<plan.quotaResetCustomSeconds)

lemma isBoundary_scheduled {tz : ℤ} {plan : SubscriptionPlan} {start b : ℤ} (h : IsBoundary tz plan start b) :
    Scheduled plan := by
  unfold IsBoundary at h
  constructor
  · intro hn
    rwa [hn] at h
  · intro hc
    rw [hc] at h
    exact h.1

section
variable {tz : ℤ} {plan : SubscriptionPlan} {start b : ℤ}

lemma calcNextResetTime_cut (hp : Scheduled plan) (endTime : ℤ) : calcNextResetTime tz b plan endTime =
    if 0<endTime ∧ endTime < calcNextResetTime tz b plan 0 then 0 else calcNextResetTime tz b plan 0 := by
  unfold calcNextResetTime
  cases h : normalizeResetPeriod plan.quotaResetPeriod with
  | never => exact absurd h hp.1
  | custom => simp [not_le.mpr (hp.2 h)]
  | daily => simp
  | weekly => simp
  | monthly => simp

/-- Without an end, the next reset after a mark is the least boundary after it. -/
theorem calcNextResetTime_isLeast (tz : ℤ) (hp : Scheduled plan) (hb : b=start ∨ IsBoundary tz plan start b) :
    IsLeast {m | IsBoundary tz plan start m ∧ b < m} (calcNextResetTime tz b plan 0) := by
  unfold IsBoundary calcNextResetTime at *
  cases h : normalizeResetPeriod plan.quotaResetPeriod with
  | never => exact absurd h hp.1
  | daily =>
    simp only [lt_irrefl,false_and,if_false]
    refine ⟨⟨⟨_,rfl⟩,lt_midnight (by omega)⟩,?_⟩
    rintro m ⟨⟨d,rfl⟩,hm⟩
    rw [midnight_lt_iff] at hm
    exact midnight_le_midnight.mpr hm
  | weekly =>
    simp only [lt_irrefl,false_and,if_false]
    refine ⟨⟨⟨_,?_,rfl⟩,lt_midnight ?_⟩,?_⟩
    · unfold weekday
      split_ifs <;> omega
    · unfold weekday
      split_ifs <;> omega
    · rintro m ⟨⟨d,hd,rfl⟩,hm⟩
      rw [midnight_lt_iff] at hm
      apply midnight_le_midnight.mpr
      unfold weekday at *
      split_ifs <;> omega
  | monthly =>
    simp only [lt_irrefl,false_and,if_false]
    have hs := monthOf_spec (civilDay tz b)
    refine ⟨⟨⟨_,rfl⟩,lt_midnight hs.2⟩,?_⟩
    rintro m ⟨⟨n,rfl⟩,hm⟩
    rw [midnight_lt_iff] at hm
    apply midnight_le_midnight.mpr
    exact monthStart_strictMono.monotone (monthStart_strictMono.lt_iff_lt.mp (hs.1.trans_lt hm))
  | custom =>
    have hs := hp.2 h
    simp only [h] at hb
    simp only [lt_irrefl,false_and,if_false,if_neg (not_le.mpr hs)]
    obtain ⟨j,rfl⟩ : ∃j : ℕ, b = start+j*plan.quotaResetCustomSeconds := by
      rcases hb with rfl | ⟨-,hj⟩
      · exact ⟨0,by simp⟩
      · exact hj
    refine ⟨⟨⟨hs,j+1,by push_cast; ring⟩,by omega⟩,?_⟩
    rintro m ⟨⟨-,k,rfl⟩,hm⟩
    have hlt : (j : ℤ)<k := lt_of_mul_lt_mul_right (by omega) hs.le
    have hle : ((j : ℤ)+1)*plan.quotaResetCustomSeconds≤k*plan.quotaResetCustomSeconds :=
      mul_le_mul_of_nonneg_right hlt hs.le
    rw [add_mul,one_mul] at hle
    omega

/-- The next reset goes from mark to mark. -/
theorem calcNextResetTime_follows (tz : ℤ) (plan : SubscriptionPlan) (hs : 0 < start) (endTime : ℤ) :
    Follows (marks tz plan start endTime) (fun b => calcNextResetTime tz b plan endTime) := by
  have hpos : ∀b∈marks tz plan start endTime, start≤b := by
    rintro b (rfl | hb)
    · exact le_rfl
    · exact hb.1.le
  have hmark : ∀b∈marks tz plan start endTime, b=start ∨ IsBoundary tz plan start b :=
    fun b hb => hb.imp id (fun h => h.2.1)
  have hlater : ∀b∈marks tz plan start endTime,∀m∈marks tz plan start endTime, b < m →
      IsBoundary tz plan start m ∧ (0<endTime → m≤endTime) := by
    intro b hb m hm hlt
    rcases hm with rfl | hm
    · exact absurd (hpos b hb) (not_le.mpr hlt)
    · exact hm.2
  constructor
  · intro b hb hn
    have hp : Scheduled plan := by
      by_contra hp
      unfold Scheduled at hp
      unfold calcNextResetTime at hn
      cases h : normalizeResetPeriod plan.quotaResetPeriod <;> simp_all
    have hl := calcNextResetTime_isLeast tz hp (hmark b hb)
    rw [calcNextResetTime_cut hp] at hn ⊢
    split_ifs at hn ⊢ with hc
    · omega
    · refine ⟨⟨.inr ⟨(hpos b hb).trans_lt hl.1.2,hl.1.1,by omega⟩,hl.1.2⟩,fun m hm => ?_⟩
      exact hl.2 ⟨(hlater b hb m hm.1 hm.2).1,hm.2⟩
  · intro b hb hn m hm
    by_contra hlt
    rw [not_le] at hlt
    obtain ⟨hbm,hend⟩ := hlater b hb m hm hlt
    have hp := isBoundary_scheduled hbm
    have hl := calcNextResetTime_isLeast tz hp (hmark b hb)
    have hle : calcNextResetTime tz b plan 0 ≤ m := hl.2 ⟨hbm,hlt⟩
    have hgt := hl.1.2
    have := hpos b hb
    rw [calcNextResetTime_cut hp] at hn
    split_ifs at hn <;> omega

end

/-- A check leaves a row that follows the schedule at the end of its loop. -/
lemma OnSchedule.settles {tz : ℤ} {plan : SubscriptionPlan} {now : ℤ} {sub r : UserSubscription}
    (hs : plan.quotaResetCustomSeconds ≤ maxDurationSeconds) (h : OnSchedule tz plan sub)
    (hr : ResetsTo tz plan now sub r) : r.startTime=sub.startTime ∧ r.endTime=sub.endTime ∧
      Settles (fun b => calcNextResetTime tz b plan sub.endTime) now (resetBase sub) (resetBase r) ∧
      r.nextResetTime = calcNextResetTime tz (resetBase r) plan sub.endTime := by
  have hnext : calcNextReset tz plan sub.endTime = fun b => calcNextResetTime tz b plan sub.endTime :=
    funext (calcNextReset_eq hs)
  by_cases hp : resetPending sub now
  · obtain rfl := (resetsTo_of_pending hp).mp hr
    refine ⟨rfl,rfl,settles_self fun hd => ?_,h.next_eq⟩
    have := hp.2
    rw [h.next_eq] at this
    exact absurd hd.2 (not_le.mpr this)
  by_cases hn : normalizeResetPeriod plan.quotaResetPeriod = .never
  · obtain rfl := (resetsTo_of_never hn).mp hr
    refine ⟨rfl,rfl,settles_self fun hd => ?_,h.next_eq⟩
    have := hd.1
    simp [calcNextResetTime,hn] at this
  obtain ⟨b,hb,rfl⟩ := hr.settled hp hn
  rw [hnext] at hb ⊢
  by_cases hd : Due (fun b => calcNextResetTime tz b plan sub.endTime) now (resetBase sub)
  · have hbase : resetBase (resetAt (fun b => calcNextResetTime tz b plan sub.endTime) now sub b) = b := by
      rw [resetAt,if_pos hd]
      have hpos : 0<b := (hb.of_due hd).1
      simp only [resetBase,if_neg (not_le.mpr hpos)]
    rw [hbase,resetAt,if_pos hd]
    exact ⟨rfl,rfl,hb,rfl⟩
  · have hno : ¬(sub.nextResetTime=0 ∧ 0 < calcNextResetTime tz (resetBase sub) plan sub.endTime) := by
      rw [h.next_eq]
      omega
    rw [resetAt,if_neg hd,if_neg hno]
    exact ⟨rfl,rfl,settles_self hd,h.next_eq⟩

section
variable {tz : ℤ} {plan : SubscriptionPlan} {now : ℤ} {sub r : UserSubscription}

/-- The base of the row is the greatest mark that is not after `now`. -/
theorem OnSchedule.isGreatest (hs : plan.quotaResetCustomSeconds ≤ maxDurationSeconds) (h : OnSchedule tz plan sub)
    (hn : resetBase sub≤now) (hr : ResetsTo tz plan now sub r) :
    IsGreatest {b | b∈marks tz plan sub.startTime sub.endTime ∧ b≤now} (resetBase r) :=
  (calcNextResetTime_follows tz plan h.start_pos _).isGreatest h.base_mem hn (h.settles hs hr).2.2.1

theorem OnSchedule.kept (hs : plan.quotaResetCustomSeconds ≤ maxDurationSeconds) (h : OnSchedule tz plan sub)
    (hn : resetBase sub≤now) (hr : ResetsTo tz plan now sub r) : OnSchedule tz plan r := by
  obtain ⟨hst,he,-,hx⟩ := h.settles hs hr
  refine ⟨hst ▸ h.start_pos,?_,he ▸ hx⟩
  rw [hst,he]
  exact (h.isGreatest hs hn hr).1.1

/-- There is a least boundary after every instant from the start on. -/
lemma exists_isLeast_boundary (tz : ℤ) {start : ℤ} (hp : Scheduled plan) (h0 : 0 < start) (hn : start≤now) :
    ∃m,IsLeast {b | IsBoundary tz plan start b ∧ now < b} m := by
  have hadv : Advances (fun b => calcNextResetTime tz b plan 0) := fun b hb => by
    have := calcNextResetTime_gt tz b plan 0
    dsimp only at hb ⊢
    omega
  have hf := calcNextResetTime_follows tz plan h0 0
  obtain ⟨c,hc⟩ := hadv.settles now start
  have hg := hf.isGreatest (.inl rfl) hn hc
  have hle : start ≤ c := hg.2 ⟨.inl rfl,hn⟩
  have hgt := (calcNextResetTime_isLeast tz hp (hg.1.1.imp id (fun h => h.2.1))).1.2
  obtain ⟨⟨hm,hlt⟩,hlb⟩ := hf.isLeast (.inl rfl) hn hc (h0.trans_le hle |>.trans hgt)
  refine ⟨_,⟨?_,hlt⟩,fun b hb => hlb ⟨.inr ⟨hn.trans_lt hb.2,hb.1,nofun⟩,hb.2⟩⟩
  rcases hm with hm | hm
  · have := hn.trans_lt hlt
    omega
  · exact hm.2.1

/-- The stored reset of the row is the least boundary after `now`, zero when that is past the
end. -/
theorem OnSchedule.isLeast (hs : plan.quotaResetCustomSeconds ≤ maxDurationSeconds) (h : OnSchedule tz plan sub)
    (hn : resetBase sub≤now) (hr : ResetsTo tz plan now sub r) (hp : Scheduled plan) :
    ∃m,IsLeast {b | IsBoundary tz plan sub.startTime b ∧ now < b} m ∧
      r.nextResetTime = if 0 < sub.endTime ∧ sub.endTime < m then 0 else m := by
  obtain ⟨-,-,hset,hx⟩ := h.settles hs hr
  have hf := calcNextResetTime_follows tz plan h.start_pos sub.endTime
  have hg := h.isGreatest hs hn hr
  have hstart : sub.startTime≤now := by
    rcases h.base_mem with hb | hb <;> omega
  have hbase : sub.startTime ≤ resetBase r := hg.2 ⟨.inl rfl,hstart⟩
  obtain ⟨m,hm⟩ := exists_isLeast_boundary tz hp h.start_pos hstart
  have hmark : (0 < sub.endTime → m ≤ sub.endTime) → m∈marks tz plan sub.startTime sub.endTime :=
    fun he => .inr ⟨hstart.trans_lt hm.1.2,hm.1.1,he⟩
  refine ⟨m,hm,?_⟩
  rw [hx]
  by_cases hnx : 0 < calcNextResetTime tz (resetBase r) plan sub.endTime
  · have hl := hf.isLeast h.base_mem hn hset hnx
    obtain ⟨⟨hlm,hlt⟩,hlb⟩ := hl
    rcases hlm with heq | hb
    · omega
    · have h1 : m ≤ calcNextResetTime tz (resetBase r) plan sub.endTime := hm.2 ⟨hb.2.1,hlt⟩
      have hend := hb.2.2
      have h2 : calcNextResetTime tz (resetBase r) plan sub.endTime ≤ m :=
        hlb ⟨hmark (fun he => h1.trans (hend he)),hm.1.2⟩
      rw [if_neg (fun hc => by have := hend hc.1; omega)]
      omega
  · have h0 : calcNextResetTime tz (resetBase r) plan sub.endTime = 0 := by
      have := calcNextResetTime_gt tz (resetBase r) plan sub.endTime
      have := h.start_pos
      omega
    rw [h0,if_pos]
    by_contra hc
    have hle := hf.last _ hg.1.1 (not_lt.mp hnx) m (hmark (by omega))
    have := hm.1.2
    have := hg.1.2
    omega

lemma OnSchedule.unscheduled (hs : plan.quotaResetCustomSeconds ≤ maxDurationSeconds) (h : OnSchedule tz plan sub)
    (hr : ResetsTo tz plan now sub r) (hp : ¬Scheduled plan) : r.nextResetTime = 0 := by
  rw [(h.settles hs hr).2.2.2,calcNextResetTime]
  unfold Scheduled at hp
  cases hq : normalizeResetPeriod plan.quotaResetPeriod with
  | never => rfl
  | custom => exact if_pos (not_lt.mp fun hc => hp (by simp [hq,hc]))
  | daily => exact absurd (by simp [hq]) hp
  | weekly => exact absurd (by simp [hq]) hp
  | monthly => exact absurd (by simp [hq]) hp

end

/-- Request-time checks and the background task in any order leave the row of the last check, and
a row that follows the schedule of the plan stays between the boundaries around `now`. -/
theorem resets_path_independent (tz : ℤ) (plan : SubscriptionPlan)
    (hs : plan.quotaResetCustomSeconds ≤ maxDurationSeconds) :
    (∀ now sub,∃!r,ResetsTo tz plan now sub r) ∧
    (∀ t1 t2 sub a r, t1≤t2 → ResetsTo tz plan t1 sub a →
      (ResetsTo tz plan t2 a r ↔ ResetsTo tz plan t2 sub r)) ∧
    (∀ now sub r,ResetsTo tz plan now sub r → ∀r',ResetsTo tz plan now r r' ↔ r'=r) ∧
    (∀ t1 t2 sub a r, t1≤t2 → BackgroundResetsTo tz plan t1 sub a →
      (ResetsTo tz plan t2 a r ↔ ResetsTo tz plan t2 sub r)) ∧
    (∀ now sub r,sub.status=.active → 0 < sub.nextResetTime → sub.nextResetTime≤now →
      (BackgroundResetsTo tz plan now sub r ↔ ResetsTo tz plan now sub r)) ∧
    (∀ now sub r,OnSchedule tz plan sub → resetBase sub≤now → ResetsTo tz plan now sub r →
      OnSchedule tz plan r ∧
      IsGreatest {b | b∈marks tz plan sub.startTime sub.endTime ∧ b≤now} (resetBase r) ∧
      (¬Scheduled plan ∧ r.nextResetTime = 0 ∨
        ∃m,IsLeast {b | IsBoundary tz plan sub.startTime b ∧ now < b} m ∧
          r.nextResetTime = if 0 < sub.endTime ∧ sub.endTime < m then 0 else m)) := by
  refine ⟨fun now sub => ?_,fun t1 t2 sub a r ht h => resetsTo_trans_iff hs ht h,fun now sub r h r' => ?_,
    fun t1 t2 sub a r ht h => ?_,fun now sub r ha h0 hn => resetsTo_background ⟨h0,hn,ha⟩,
    fun now sub r h hn hr => ⟨h.kept hs hn hr,h.isGreatest hs hn hr,?_⟩⟩
  · obtain ⟨r,hr⟩ := exists_resetsTo tz hs now sub
    exact ⟨r,hr,fun r' h => h.unique hr⟩
  · rw [resetsTo_trans_iff hs le_rfl h]
    exact ⟨fun h' => h'.unique h,fun h' => h' ▸ h⟩
  · by_cases hd : 0 < sub.nextResetTime ∧ sub.nextResetTime≤t1 ∧ sub.status=.active
    · exact resetsTo_trans_iff hs ht ((resetsTo_background hd).mp h)
    · rw [backgroundResetsTo_of_not hd h]
  · by_cases hp : Scheduled plan
    · exact .inr (h.isLeast hs hn hr hp)
    · exact .inl ⟨hp,h.unscheduled hs hr hp⟩

theorem resets_path_independent_daily :
    let plan := { shopPlan 10 "" with quotaResetPeriod := "daily" }
    let sub := newUserSubscription 0 864000 1 1 plan .order 100000000 ""
    ∃r,ResetsTo 0 plan 1300000 sub r ∧ (∀r',ResetsTo 0 plan 1400000 r r' ↔ ResetsTo 0 plan 1400000 sub r') ∧
      OnSchedule 0 plan r ∧ IsGreatest {b | b∈marks 0 plan sub.startTime sub.endTime ∧ b≤1300000} (resetBase r) := by
  intro plan sub
  obtain ⟨hone,hpath,-,-,-,hrow⟩ := resets_path_independent 0 plan (by decide)
  obtain ⟨r,hr,-⟩ := hone 1300000 sub
  have hs : OnSchedule 0 plan sub := onSchedule_created 1 1 plan .order 100000000 "" (by decide)
  obtain ⟨hk,hg,-⟩ := hrow 1300000 sub r hs (by decide) hr
  exact ⟨r,hr,fun r' => hpath 1300000 1400000 sub r r' (by decide) hr,hk,hg⟩

/-- A monthly plan that an administrator turns into a daily one: the subscription of 1970-01-11
keeps its monthly reset, and a check on 1970-01-16 stores no daily boundary. -/
theorem editedPlan_keeps_reset :
    let plan := fun period : String => { shopPlan 10 "" with quotaResetPeriod := period }
    let sub := newUserSubscription 0 864000 1 1 (plan "monthly") .order 100000000 ""
    ResetsTo 0 (plan "daily") 1296000 sub sub ∧
      ¬∃m,IsLeast {b | IsBoundary 0 (plan "daily") sub.startTime b ∧ 1296000<b} m ∧
        sub.nextResetTime = if 0 < sub.endTime ∧ sub.endTime < m then 0 else m := by
  intro plan sub
  have hsub : sub.nextResetTime=2678400 := by decide
  refine ⟨⟨0,by rw [maybeResetUserSubscription,if_pos ⟨by rw [hsub]; decide,by rw [hsub]; decide⟩]⟩,?_⟩
  rintro ⟨m,hm,he⟩
  have hp : normalizeResetPeriod (plan "daily").quotaResetPeriod = .daily := by decide
  have hle : m≤1382400 := hm.2 ⟨by rw [IsBoundary,hp]; exact ⟨16,rfl⟩,by decide⟩
  have hend : sub.endTime=100000000 := rfl
  rw [hsub,hend] at he
  split_ifs at he <;> omega

end Tierflow
