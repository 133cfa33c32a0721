import Tierflow.Bucket.System
import Tierflow.Subscription.ResetSchedule

/-! The reset loop of the subscription maintenance task. It works through the due rows in batches,
and every batch reads the clock anew; one check of every row at the last of these times would leave
the same table. -/
namespace Tierflow

namespace Table
variable {α : Type*} {t : Table α}

lemma mapRows_congr {f g : ℕ → α → α} (h : ∀k a,t.find? k = some a → f k a=g k a) : t.mapRows f = t.mapRows g := by
  have hr : t.rows.map (fun r => (r.1,f r.1 r.2)) = t.rows.map (fun r => (r.1,g r.1 r.2)) :=
    List.map_congr_left (fun r hr => by rw [h r.1 r.2 ((t.mem_rows_iff r).mp hr)])
  simp only [mapRows,hr]

lemma mapRows_self {f : ℕ → α → α} (h : ∀k a,t.find? k = some a → f k a=a) : t.mapRows f = t := by
  rw [mapRows_congr (g := fun _ a => a) h]
  simp only [mapRows,List.map_id_fun',id_eq]

lemma mapRows_mapRows (f g : ℕ → α → α) : (t.mapRows f).mapRows g = t.mapRows (fun k a => g k (f k a)) := by
  simp only [mapRows,List.map_map,Function.comp_def]

end Table

/-! ## The code -/

/-- The rows that the query of the task asks for. -/
def resetDue (now : ℤ) (sub : UserSubscription) : Prop :=
  0 < sub.nextResetTime ∧ sub.nextResetTime≤now ∧ sub.status=.active

instance (now : ℤ) (sub : UserSubscription) : Decidable (resetDue now sub) := inferInstanceAs (Decidable (_ ∧ _))

/-- `Order("next_reset_time asc").Limit(limit)` -/
def dueResets (s : Store) (now : ℤ) (limit : ℕ) : List (ℕ × UserSubscription) :=
  ((s.subscriptions.select (fun r => resetDue now r.2)).insertionSort
    (fun a b => a.2.nextResetTime≤b.2.nextResetTime)).take limit

/-- One selected row, and how much it adds to the count: a row without a plan is passed over, and
a row that is no longer due when it is locked is left alone. -/
def resetSelected (tz : ℤ) (s : Store) (now : ℤ) (r : ℕ × UserSubscription) : Store × ℕ :=
  match getSubscriptionPlanByIdTx s r.2.planId with
  | .error _ => (s,0)
  | .ok plan =>
    ((resetDueSubscription tz s r.1 plan now).1,
      if (s.subscriptions.find? r.1).any (fun locked => 0 < locked.nextResetTime ∧ locked.nextResetTime≤now) then 1
      else 0)

def resetRows (tz now : ℤ) : Store → ℕ → List (ℕ × UserSubscription) → Store × ℕ
  | s,n,[] => (s,n)
  | s,n,r::rs => resetRows tz now (resetSelected tz s now r).1 (n+(resetSelected tz s now r).2) rs

def resetDueSubscriptions (tz : ℤ) (s : Store) (now : ℤ) (limit : ℕ) : Store × ℕ :=
  resetRows tz now s 0 (dueResets s now (if limit=0 then 200 else limit))

/-- The reset loop of `runSubscriptionQuotaResetOnce` from batch `i` on, whose time is `now i`. It
answers the store and the last batch, and nothing while it has not ended. -/
def resetLoop (tz : ℤ) (batchSize : ℕ) (now : ℕ → ℤ) : ℕ → Store → ℕ → Option (Store × ℕ)
  | 0,_,_ => none
  | fuel+1,s,i =>
    let r := resetDueSubscriptions tz s (now i) batchSize
    if r.2=0 then some (r.1,i)
    else if r.2<batchSize then some (r.1,i)
    else resetLoop tz batchSize now fuel r.1 (i+1)

/-! ## One row -/

/-- What one check at `now` leaves of a row. -/
def resetOnce (tz : ℤ) (s : Store) (now : ℤ) (sub : UserSubscription) : UserSubscription :=
  if resetDue now sub then
    match getSubscriptionPlanByIdTx s sub.planId with
    | .error _ => sub
    | .ok plan => (resetRow tz sub plan now).elim sub Prod.fst
  else sub

/-- A row that awaits a reset follows the schedule of the plan that the task will find. -/
def ResetPlanned (tz : ℤ) (s : Store) (sub : UserSubscription) : Prop :=
  0 < sub.nextResetTime → sub.status=.active → ∃plan,getSubscriptionPlanByIdTx s sub.planId = .ok plan ∧
    plan.quotaResetCustomSeconds ≤ maxDurationSeconds ∧ OnSchedule tz plan sub

section Row
variable {tz now later : ℤ} {s : Store} {sub : UserSubscription} {plan : SubscriptionPlan}

/-- A row on its schedule that is not due is not touched. -/
lemma resetRow_of_not_due (h : OnSchedule tz plan sub) (hd : ¬(0 < sub.nextResetTime ∧ sub.nextResetTime≤now)) :
    resetRow tz sub plan now = none := by
  have hx := h.next_eq
  unfold resetRow
  split_ifs with hp hn
  · rfl
  · rfl
  · simp only [←hx]
    rw [if_neg hd,if_neg (by omega)]

/-- A row on its schedule that is due is reset, and is then no longer due. -/
lemma resetRow_of_due (h : OnSchedule tz plan sub) (hd : 0 < sub.nextResetTime ∧ sub.nextResetTime≤now) :
    ∃last next,(next≤0 ∨ now<next) ∧ resetRow tz sub plan now =
      some ({ sub with amountUsed := 0, basicTokenUsed := 0, lastResetTime := last, nextResetTime := next },true) := by
  have hx := h.next_eq
  have hsome : ∃r,resetRow tz sub plan now = some (r,true) := by
    unfold resetRow
    rw [if_neg (by omega),if_neg ?_]
    · simp only [←hx]
      rw [if_pos hd]
      exact ⟨_,rfl⟩
    · intro hn
      have : calcNextResetTime tz (resetBase sub) plan sub.endTime = 0 := by simp [calcNextResetTime,hn]
      omega
  obtain ⟨r,hr⟩ := hsome
  rcases resetRow_cases hr with ⟨-,last,next,hnext,rfl⟩ | ⟨hb,-⟩
  · exact ⟨last,next,hnext,hr⟩
  · exact absurd hb (by decide)

lemma resetOnce_of_not_due (h : ¬resetDue now sub) : resetOnce tz s now sub = sub := by rw [resetOnce,if_neg h]

lemma resetOnce_of_due (hd : resetDue now sub) (h : getSubscriptionPlanByIdTx s sub.planId = .ok plan) :
    resetOnce tz s now sub = (resetRow tz sub plan now).elim sub Prod.fst := by
  rw [resetOnce,if_pos hd,h]

/-- The facts about a due row that its check preserves or establishes. -/
lemma resetOnce_spec (hp : ResetPlanned tz s sub) (hd : resetDue now sub) :
    (resetOnce tz s now sub).planId = sub.planId ∧ (resetOnce tz s now sub).status = .active ∧
      ((resetOnce tz s now sub).nextResetTime≤0 ∨ now < (resetOnce tz s now sub).nextResetTime) := by
  obtain ⟨plan,hplan,-,hon⟩ := hp hd.1 hd.2.2
  obtain ⟨last,next,hn,hr⟩ := resetRow_of_due hon ⟨hd.1,hd.2.1⟩
  rw [resetOnce_of_due hd hplan,hr]
  exact ⟨rfl,hd.2.2,hn⟩

lemma ResetPlanned.resetOnce (hp : ResetPlanned tz s sub) : ResetPlanned tz s (resetOnce tz s now sub) := by
  by_cases hd : resetDue now sub
  · obtain ⟨plan,hplan,hs,hon⟩ := hp hd.1 hd.2.2
    refine fun _ _ => ⟨plan,?_,hs,?_⟩
    · rw [(resetOnce_spec hp hd).1,hplan]
    · have hgt := calcNextResetTime_gt tz (resetBase sub) plan sub.endTime
      have := hon.next_eq
      have := hd.1
      have := hd.2.1
      rw [resetOnce_of_due hd hplan]
      exact hon.kept hs (by omega) (resetsTo_resetRow hs now sub)
  · rwa [resetOnce_of_not_due hd]

/-- A check that is followed by a later one makes no difference. -/
lemma resetOnce_resetOnce (hp : ResetPlanned tz s sub) (hl : now≤later) :
    resetOnce tz s later (resetOnce tz s now sub) = resetOnce tz s later sub := by
  by_cases hd : resetDue now sub
  swap
  · rw [resetOnce_of_not_due hd]
  have hd' : resetDue later sub := ⟨hd.1,hd.2.1.trans hl,hd.2.2⟩
  obtain ⟨plan,hplan,hs,hon⟩ := hp hd.1 hd.2.2
  obtain ⟨hid,hst,-⟩ := resetOnce_spec hp hd
  have h1 : ResetsTo tz plan now sub (resetOnce tz s now sub) := by
    rw [resetOnce_of_due hd hplan]
    exact resetsTo_resetRow hs now sub
  have hbase : resetBase sub≤now := by
    have := calcNextResetTime_gt tz (resetBase sub) plan sub.endTime
    have := hon.next_eq
    have := hd.1
    have := hd.2.1
    omega
  have hkept := hon.kept hs hbase h1
  generalize resetOnce tz s now sub = a at *
  have h2 : ResetsTo tz plan later a (resetOnce tz s later a) := by
    by_cases ha : resetDue later a
    · rw [resetOnce_of_due ha (hid ▸ hplan)]
      exact resetsTo_resetRow hs later a
    · have hrow : ResetsTo tz plan later a ((resetRow tz a plan later).elim a Prod.fst) := resetsTo_resetRow hs later a
      rw [resetRow_of_not_due hkept (fun hc => ha ⟨hc.1,hc.2,hst⟩),Option.elim_none] at hrow
      rwa [resetOnce_of_not_due ha]
  rw [resetOnce_of_due hd' hplan]
  exact (h1.trans hl h2).unique (resetsTo_resetRow hs later sub)

end Row

/-! ## One batch -/

/-- Every row that awaits a reset is planned. -/
def ResetsPlanned (tz : ℤ) (s : Store) : Prop := ∀k sub,s.subscriptions.find? k = some sub → ResetPlanned tz s sub

/-- The store with its subscriptions rewritten in place. -/
def Store.mapSubscriptions (s : Store) (f : ℕ → UserSubscription → UserSubscription) : Store :=
  { s with subscriptions := s.subscriptions.mapRows f }

lemma Store.mapSubscriptions_congr {s : Store} {f g : ℕ → UserSubscription → UserSubscription}
    (h : ∀k a,s.subscriptions.find? k = some a → f k a=g k a) : s.mapSubscriptions f = s.mapSubscriptions g := by
  rw [mapSubscriptions,Table.mapRows_congr h,mapSubscriptions]

lemma Store.mapSubscriptions_mapSubscriptions (s : Store) (f g : ℕ → UserSubscription → UserSubscription) :
    (s.mapSubscriptions f).mapSubscriptions g = s.mapSubscriptions (fun k a => g k (f k a)) := by
  simp only [mapSubscriptions,Table.mapRows_mapRows]

/-- The task reads the plans of the store and writes none. -/
lemma resetOnce_mapSubscriptions (tz : ℤ) (s : Store) (f : ℕ → UserSubscription → UserSubscription) :
    resetOnce tz (s.mapSubscriptions f) = resetOnce tz s := rfl

section Batch
variable {tz now : ℤ} {s : Store}

lemma resetSelected_eq {k : ℕ} {sub : UserSubscription} (hk : s.subscriptions.find? k = some sub)
    (hp : ResetPlanned tz s sub) (hd : resetDue now sub) : resetSelected tz s now (k,sub) =
      (s.mapSubscriptions (fun j a => if j=k then resetOnce tz s now a else a),1) := by
  obtain ⟨plan,hplan,-,hon⟩ := hp hd.1 hd.2.2
  obtain ⟨last,next,-,hr⟩ := resetRow_of_due hon ⟨hd.1,hd.2.1⟩
  have hset : s.subscriptions.set k (resetOnce tz s now sub) =
      s.subscriptions.mapRows (fun j a => if j=k then resetOnce tz s now a else a) := by
    refine Table.mapRows_congr fun j a ha => ?_
    split_ifs with hj
    · rw [hj,hk] at ha
      rw [Option.some.inj ha]
    · rfl
  rw [resetOnce_of_due hd hplan,hr] at hset
  have hdue : 0 < sub.nextResetTime ∧ sub.nextResetTime≤now := ⟨hd.1,hd.2.1⟩
  simp only [resetSelected,hplan,resetDueSubscription,hk,maybeResetUserSubscriptionWithPlanTx,hr,
    Option.any_some,hdue.1,hdue.2,and_self,decide_true,if_true,Store.mapSubscriptions]
  rw [←hset]
  rfl

lemma resetRows_eq {l : List (ℕ × UserSubscription)} (hl : (l.map Prod.fst).Nodup) (n : ℕ)
    (h : ∀r∈l,s.subscriptions.find? r.1 = some r.2 ∧ ResetPlanned tz s r.2 ∧ resetDue now r.2) :
    resetRows tz now s n l =
      (s.mapSubscriptions (fun k a => if k∈l.map Prod.fst then resetOnce tz s now a else a),n+l.length) := by
  induction l generalizing s n with
  | nil =>
    rw [resetRows,Store.mapSubscriptions,Table.mapRows_self (by simp)]
    rfl
  | cons r l ih =>
    obtain ⟨k,sub⟩ := r
    obtain ⟨hk,hp,hd⟩ := h (k,sub) (by simp)
    rw [List.map_cons,List.nodup_cons] at hl
    rw [resetRows,resetSelected_eq hk hp hd]
    dsimp only
    rw [ih hl.2,Store.mapSubscriptions_mapSubscriptions,resetOnce_mapSubscriptions,List.length_cons,Nat.add_right_comm,
      Nat.add_assoc]
    · congr 1
      refine Store.mapSubscriptions_congr fun j a _ => ?_
      by_cases hj : j=k
      · subst hj
        simp [hl.1]
      · simp only [List.map_cons,List.mem_cons,hj,false_or,if_false]
    · intro r hr
      obtain ⟨hk',hp',hd'⟩ := h r (by simp [hr])
      have hrk : r.1≠k := fun hrk => hl.1 (List.mem_map.mpr ⟨r,hr,hrk⟩)
      refine ⟨?_,hp',hd'⟩
      simp [Store.mapSubscriptions,hk',hrk]

lemma mem_dueResets {limit : ℕ} {r : ℕ × UserSubscription} (h : r∈dueResets s now limit) :
    s.subscriptions.find? r.1 = some r.2 ∧ resetDue now r.2 := by
  have hm := (List.mem_insertionSort _).mp (List.mem_of_mem_take h)
  obtain ⟨hr,hd⟩ := Table.mem_select.mp hm
  exact ⟨hr,by simpa using hd⟩

lemma dueResets_nodup (limit : ℕ) : ((dueResets s now limit).map Prod.fst).Nodup := by
  refine List.Nodup.sublist ((List.take_sublist _ _).map _) ?_
  exact ((List.perm_insertionSort _ _).map Prod.fst).nodup_iff.mpr (s.subscriptions.select_keys_nodup _)

/-- A batch that is not full holds every due row. -/
lemma mem_dueResets_of_lt {limit k : ℕ} {sub : UserSubscription} (hlt : (dueResets s now limit).length<limit)
    (hk : s.subscriptions.find? k = some sub) (hd : resetDue now sub) : k∈(dueResets s now limit).map Prod.fst := by
  unfold dueResets at hlt ⊢
  rw [List.length_take] at hlt
  rw [List.take_of_length_le (by omega)]
  refine List.mem_map.mpr ⟨(k,sub),(List.mem_insertionSort _).mpr (Table.mem_select.mpr ⟨hk,?_⟩),rfl⟩
  simpa using hd

theorem resetDueSubscriptions_eq (h : ResetsPlanned tz s) {limit : ℕ} (hl : 0<limit) :
    resetDueSubscriptions tz s now limit = (s.mapSubscriptions (fun k a =>
      if k∈(dueResets s now limit).map Prod.fst then resetOnce tz s now a else a),(dueResets s now limit).length) := by
  rw [resetDueSubscriptions,if_neg hl.ne',resetRows_eq (dueResets_nodup limit) 0]
  · rw [Nat.zero_add]
  · intro r hr
    obtain ⟨hk,hd⟩ := mem_dueResets hr
    exact ⟨hk,h r.1 r.2 hk,hd⟩

end Batch

/-! ## The loop -/

/-- The rows of `s` after some batches, the latest at `now` or before: each row is as it was or as
one check has left it. -/
def Checked (tz : ℤ) (s : Store) (now : ℤ) (s' : Store) : Prop :=
  ∃f,s' = s.mapSubscriptions f ∧ ∀k sub,s.subscriptions.find? k = some sub →
    f k sub=sub ∨ ∃t≤now,f k sub=resetOnce tz s t sub

section Loop
variable {tz : ℤ} {s s' : Store} {now later : ℤ}

lemma checked_refl (tz : ℤ) (s : Store) (now : ℤ) : Checked tz s now s := by
  refine ⟨fun _ a => a,?_,fun _ _ _ => .inl rfl⟩
  rw [Store.mapSubscriptions,Table.mapRows_self (fun _ _ _ => rfl)]

lemma Checked.planned (hp : ResetsPlanned tz s) (h : Checked tz s now s') : ResetsPlanned tz s' := by
  obtain ⟨f,rfl,hf⟩ := h
  intro k a hk
  rw [Store.mapSubscriptions,Table.find?_mapRows] at hk
  obtain ⟨sub,hsub,rfl⟩ := Option.map_eq_some_iff.mp hk
  rcases hf k sub hsub with he | ⟨t,-,he⟩
  · rw [he]
    exact hp k sub hsub
  · rw [he]
    exact (hp k sub hsub).resetOnce

lemma Checked.mono (hl : now≤later) (h : Checked tz s now s') : Checked tz s later s' := by
  obtain ⟨f,hs,hf⟩ := h
  exact ⟨f,hs,fun k sub hk => (hf k sub hk).imp id (fun ⟨t,ht,he⟩ => ⟨t,ht.trans hl,he⟩)⟩

/-- One more batch. -/
lemma Checked.batch (hp : ResetsPlanned tz s) (hl : now≤later) {limit : ℕ} (h0 : 0<limit) (h : Checked tz s now s') :
    Checked tz s later (resetDueSubscriptions tz s' later limit).1 := by
  have hp' := h.planned hp
  rw [resetDueSubscriptions_eq hp' h0]
  obtain ⟨f,rfl,hf⟩ := h
  generalize (dueResets _ later limit).map Prod.fst = l
  rw [Store.mapSubscriptions_mapSubscriptions,resetOnce_mapSubscriptions]
  refine ⟨_,rfl,fun k sub hk => ?_⟩
  rcases hf k sub hk with he | ⟨t,ht,he⟩
  · rw [he]
    split_ifs
    · exact .inr ⟨later,le_rfl,rfl⟩
    · exact .inl rfl
  · rw [he,resetOnce_resetOnce (hp k sub hk) (ht.trans hl)]
    split_ifs
    · exact .inr ⟨later,le_rfl,rfl⟩
    · exact .inr ⟨t,ht.trans hl,rfl⟩

/-- When nothing is due any more, one check of every row would have left the same. -/
lemma Checked.eq (hp : ResetsPlanned tz s) (h : Checked tz s now s')
    (hd : ∀k a,s'.subscriptions.find? k = some a → ¬resetDue now a) :
    s' = s.mapSubscriptions (fun _ => resetOnce tz s now) := by
  obtain ⟨f,rfl,hf⟩ := h
  refine Store.mapSubscriptions_congr fun k sub hk => ?_
  have hnd := hd k (f k sub) (by rw [Store.mapSubscriptions,Table.find?_mapRows,hk,Option.map_some])
  have hfix : resetOnce tz s now (f k sub)=f k sub := resetOnce_of_not_due hnd
  rcases hf k sub hk with he | ⟨t,ht,he⟩
  · rw [he] at hfix ⊢
    exact hfix.symm
  · rw [he] at hfix ⊢
    rw [←hfix,resetOnce_resetOnce (hp k sub hk) ht]

/-- A batch that is not full leaves nothing due. -/
lemma not_due_of_short (hp : ResetsPlanned tz s) {limit : ℕ} (h0 : 0<limit)
    (hlt : (resetDueSubscriptions tz s now limit).2<limit) {k : ℕ} {a : UserSubscription}
    (ha : (resetDueSubscriptions tz s now limit).1.subscriptions.find? k = some a) : ¬resetDue now a := by
  rw [resetDueSubscriptions_eq hp h0] at hlt ha
  rw [Store.mapSubscriptions,Table.find?_mapRows] at ha
  obtain ⟨sub,hk,rfl⟩ := Option.map_eq_some_iff.mp ha
  by_cases hd : resetDue now sub
  · rw [if_pos (mem_dueResets_of_lt hlt hk hd)]
    have := (resetOnce_spec (hp k sub hk) hd).2.2
    exact fun hc => by
      have := hc.1
      have := hc.2.1
      omega
  · split_ifs
    · rwa [resetOnce_of_not_due hd]
    · exact hd

/-- How far the due rows lie behind `later`. -/
def resetLag (later : ℤ) (s : Store) : ℕ :=
  s.subscriptions.sum (fun _ sub => if resetDue later sub then (later+1-sub.nextResetTime).toNat else 0)

/-- Every batch that finds a due row makes up for some of the lag. -/
lemma resetLag_lt (hp : ResetsPlanned tz s) (hl : now≤later) {limit : ℕ} (h0 : 0<limit)
    (hn : 0 < (resetDueSubscriptions tz s now limit).2) :
    resetLag later (resetDueSubscriptions tz s now limit).1 < resetLag later s := by
  rw [resetDueSubscriptions_eq hp h0] at hn ⊢
  have hlag : ∀k sub,s.subscriptions.find? k = some sub → resetDue now sub →
      (if resetDue later (resetOnce tz s now sub) then (later+1-(resetOnce tz s now sub).nextResetTime).toNat else 0) <
        if resetDue later sub then (later+1-sub.nextResetTime).toNat else 0 := by
    intro k sub hk hd
    have hspec := (resetOnce_spec (hp k sub hk) hd).2.2
    obtain ⟨h1,h2,h3⟩ := hd
    rw [if_pos (show resetDue later sub from ⟨h1,h2.trans hl,h3⟩)]
    split_ifs with ha
    · have := ha.1
      omega
    · omega
  unfold resetLag Store.mapSubscriptions
  rw [Table.sum_mapRows]
  obtain ⟨r,hr⟩ := List.exists_mem_of_length_pos hn
  obtain ⟨hk,hd⟩ := mem_dueResets hr
  refine Table.sum_lt_sum (fun k sub hk => ?_) hk ?_
  · by_cases hd : resetDue now sub
    · by_cases hm : k∈(dueResets s now limit).map Prod.fst
      · simp only [if_pos hm]
        exact (hlag k sub hk hd).le
      · simp only [if_neg hm,le_refl]
    · rw [resetOnce_of_not_due hd,ite_self]
  · rw [if_pos (List.mem_map.mpr ⟨r,hr,rfl⟩)]
    exact hlag r.1 r.2 hk hd

section
variable {batchSize : ℕ} {clock : ℕ → ℤ}

lemma resetLoop_checked (h0 : 0<batchSize) (hc : Monotone clock) (hp : ResetsPlanned tz s) {fuel i last : ℕ}
    {s' r : Store} (hs : Checked tz s (clock i) s') (h : resetLoop tz batchSize clock fuel s' i = some (r,last)) :
    r = s.mapSubscriptions (fun _ => resetOnce tz s (clock last)) ∧
      ∀k a,r.subscriptions.find? k = some a → ¬resetDue (clock last) a := by
  induction fuel generalizing s' i with
  | zero => contradiction
  | succ fuel ih =>
    have hb := hs.batch hp le_rfl h0
    have hend : (resetDueSubscriptions tz s' (clock i) batchSize).2<batchSize →
        ((resetDueSubscriptions tz s' (clock i) batchSize).1,i)=(r,last) →
        r = s.mapSubscriptions (fun _ => resetOnce tz s (clock last)) ∧
          ∀k a,r.subscriptions.find? k = some a → ¬resetDue (clock last) a := by
      intro hlt he
      obtain ⟨rfl,rfl⟩ := Prod.mk.inj he
      have hd := fun k a (ha : _ = some a) => not_due_of_short (k := k) (hs.planned hp) h0 hlt ha
      exact ⟨hb.eq hp hd,hd⟩
    rw [resetLoop] at h
    split_ifs at h with hz hlt
    · exact hend (by omega) (Option.some.inj h)
    · exact hend hlt (Option.some.inj h)
    · exact ih (hb.mono (hc (Nat.le_succ i))) h

lemma exists_resetLoop (h0 : 0<batchSize) (hc : ∀i,clock i≤later) {s : Store} (hp : ResetsPlanned tz s) (i : ℕ) :
    ∃fuel,(resetLoop tz batchSize clock fuel s i).isSome := by
  induction hm : resetLag later s using Nat.strong_induction_on generalizing s i with
  | h m ih =>
    subst hm
    by_cases hlt : (resetDueSubscriptions tz s (clock i) batchSize).2<batchSize
    · refine ⟨1,?_⟩
      rw [resetLoop,if_pos hlt,ite_self]
      rfl
    · have hz : 0 < (resetDueSubscriptions tz s (clock i) batchSize).2 := by omega
      have hp' := ((checked_refl tz s (clock i)).batch hp le_rfl h0).planned hp
      obtain ⟨fuel,hf⟩ := ih _ (resetLag_lt hp (hc i) h0 hz) hp' (i+1) rfl
      refine ⟨fuel+1,?_⟩
      rwa [resetLoop,if_neg hz.ne',if_neg hlt]

/-- However many batches the task takes and however the clock moves between them: when the loop has
ended, the table is what one check of every row at the time of the last batch makes of it, and no
row is due at that time. While the clock stays below some bound, the loop does end. -/
theorem resetLoop_spec (h0 : 0<batchSize) (hc : Monotone clock) (hp : ResetsPlanned tz s) :
    (∀fuel r last,resetLoop tz batchSize clock fuel s 0 = some (r,last) →
      r = s.mapSubscriptions (fun _ => resetOnce tz s (clock last)) ∧
        ∀k a,r.subscriptions.find? k = some a → ¬resetDue (clock last) a) ∧
    ((∃bound,∀i,clock i≤bound) → ∃fuel,(resetLoop tz batchSize clock fuel s 0).isSome) :=
  ⟨fun _ _ _ h => resetLoop_checked h0 hc hp (checked_refl tz s (clock 0)) h,
    fun ⟨_,hb⟩ => exists_resetLoop h0 hb hp 0⟩

end

lemma meteredStore_planned : ResetsPlanned 0 meteredStore := by
  intro k sub hk
  simp only [meteredStore,Table.find?_insert,Table.find?_empty] at hk
  split_ifs at hk
  obtain rfl := Option.some.inj hk
  exact fun _ _ => ⟨meteredPlan,rfl,by decide,by decide,.inl (by decide),by decide⟩

/-- The metered subscription is reset by a batch that comes two periods late. -/
theorem resetLoop_spec_metered : ∃fuel,(resetLoop 0 1 (fun i => 31+(min i 5 : ℕ)) fuel meteredStore 0).isSome := by
  refine (resetLoop_spec Nat.one_pos ?_ meteredStore_planned).2 ⟨36,fun i => ?_⟩
  · intro i j hij
    have : min i 5 ≤ min j 5 := min_le_min_right 5 hij
    dsimp only
    omega
  · have := min_le_right i 5
    omega

end Loop
end Tierflow
