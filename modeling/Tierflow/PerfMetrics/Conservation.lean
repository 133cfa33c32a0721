import Tierflow.PerfMetrics.Buckets

/-! No sample is lost between requests, buckets and database, except where a flush throws away what it has
drained, or removes a bucket that is still in use. -/
set_option linter.unusedSectionVars false

namespace Tierflow
open TxSystem
namespace PerfMetrics

/-- What some additions add to a counter. -/
def tally (adds : List (Counter × ℤ)) (c : Counter) : ℤ := (adds.map (fun a => if a.1=c then a.2 else 0)).sum

/-- What a call of `Record` still has to add to a counter of a key. -/
def Writer.left (k : BucketKey) (c : Counter) : Writer → ℤ
  | .idle => 0
  | .looking key adds | .adding key _ adds => if key=k then tally adds c else 0

/-- The call has a bucket to which it still has to add something. -/
def Writer.busyWith (p : ℕ) : Writer → Bool
  | .adding _ q (_::_) => q==p
  | _ => false

/-- What the flusher has drained and neither written nor put back. -/
def Flusher.holds (k : BucketKey) (c : Counter) : Flusher → ℤ
  | .draining _ key _ _ drained | .upserting _ key _ drained => if key=k then drained c else 0
  | .restoring _ key _ rest drained => if key=k ∧ c∈rest then drained c else 0
  | _ => 0

/-- The entry that the flusher works on. -/
def Flusher.bucket? : Flusher → Option (BucketKey × ℕ)
  | .draining _ key p _ _ | .upserting _ key p _ | .restoring _ key p _ _ => some (key,p)
  | _ => none

/-- What is recorded for a counter of a key. -/
def recordedTotal (k : BucketKey) (c : Counter) (es : List MetricsEvent) : ℤ :=
  (es.map (fun | .recorded key sample => if key=k then tally sample.adds c else 0)).sum

@[simp] lemma recordedTotal_append (k : BucketKey) (c : Counter) (es hist : List MetricsEvent) :
    recordedTotal k c (es++hist)=recordedTotal k c es+recordedTotal k c hist := by simp [recordedTotal]

namespace MetricsState
variable {W : Type*} [DecidableEq W]

/-- The total of a counter that is in memory. -/
def inMemory (s : MetricsState W) (k : BucketKey) (c : Counter) : ℤ :=
  match s.hotBuckets k with
  | none => 0
  | some p => s.buckets p c

variable [Fintype W]

/-- Everything there is of a counter: stored, in memory, drained, and still to be added. -/
def accounted (s : MetricsState W) (k : BucketKey) (c : Counter) : ℤ :=
  s.db k c+s.inMemory k c+s.flusher.holds k c+∑ w, (s.writer w).left k c

/-- The flush that decides what to do with a drained bucket throws nothing away. -/
def drainLossless : Flusher → Bool
  | .draining _ _ _ [] drained => drained .requestCount != 0 || Counter.all.all (fun c => drained c==0)
  | _ => true

/-- A bucket that is removed is empty, and nobody still has to add to it. -/
def deleteLossless (s : MetricsState W) (bucketSeconds now : ℤ) : Bool :=
  match s.flusher with
  | .removing _ key => !decide (old key bucketSeconds now) || match s.hotBuckets key with
    | none => true
    | some p => Counter.all.all (fun c => s.buckets p c==0) && decide (∀ w, (s.writer w).busyWith p = false)
  | _ => true

def lossless (s : MetricsState W) : MetricsOp W → Bool
  | .drain => drainLossless s.flusher
  | .delete bucketSeconds now => s.deleteLossless bucketSeconds now
  | _ => true

/-- Different keys have different buckets, and whoever works with a bucket has the one in the map. -/
structure Linked (s : MetricsState W) : Prop where
  distinct : ∀ k k' p, s.hotBuckets k = some p → s.hotBuckets k' = some p → k=k'
  fresh : ∀ k p, s.hotBuckets k = some p → p < s.next
  writers : ∀ w k p a adds, s.writer w = .adding k p (a::adds) → s.hotBuckets k = some p
  flusher : ∀ k p, s.flusher.bucket? = some (k,p) → s.hotBuckets k = some p
  undrained : ∀ cur k p rest drained, s.flusher = .draining cur k p rest drained →
    rest.Nodup ∧ ∀ c∈rest, drained c=0
  unrestored : ∀ cur k p rest drained, s.flusher = .restoring cur k p rest drained → rest.Nodup

section Parts
variable {s : MetricsState W} {w : W} {k key : BucketKey} {c c' : Counter} {p : ℕ} {v : ℤ} {x : Writer}

lemma Counter.mem_all (c : Counter) : c∈Counter.all := by cases c <;> decide

lemma accounted_setWriter : (s.setWriter w x).accounted k c=
    s.accounted k c+(x.left k c-(s.writer w).left k c) := by
  unfold accounted setWriter
  rw [sum_update s.writer x (fun y => y.left k c)]
  change s.db k c+s.inMemory k c+s.flusher.holds k c+_=_
  ring

lemma inMemory_setCounter (h : s.Linked) (hp : s.hotBuckets key = some p) :
    (s.setCounter p c v).inMemory k c'=s.inMemory k c'+if k=key ∧ c'=c then v-s.buckets p c else 0 := by
  unfold inMemory setCounter
  by_cases hk : k=key
  · subst hk
    rw [hp]
    by_cases hc : c'=c
    · subst hc
      simp
    · simp [hc]
  · cases hq : s.hotBuckets k with
    | none => simp [hk]
    | some q =>
      have hne : q≠p := by
        intro heq
        exact hk (h.distinct k key p (heq ▸ hq) hp)
      simp [hk,hne]

lemma accounted_setCounter (h : s.Linked) (hp : s.hotBuckets key = some p) :
    (s.setCounter p c v).accounted k c'=s.accounted k c'+if k=key ∧ c'=c then v-s.buckets p c else 0 := by
  unfold accounted
  rw [inMemory_setCounter h hp]
  change s.db k c'+_+s.flusher.holds k c'+∑ w, (s.writer w).left k c'=_
  ring

/-- The flusher moves on with other things in its hands. -/
lemma accounted_setFlusher {f : Flusher} : ({ s with flusher := f } : MetricsState W).accounted k c=
    s.accounted k c+(f.holds k c-s.flusher.holds k c) := by
  unfold accounted
  change s.db k c+s.inMemory k c+f.holds k c+∑ w, (s.writer w).left k c=_
  ring

lemma tally_cons (a : Counter × ℤ) (adds : List (Counter × ℤ)) :
    tally (a::adds) c=(if a.1=c then a.2 else 0)+tally adds c := by simp [tally]

end Parts
section Links
variable {s s' : MetricsState W} {w : W} {k key : BucketKey} {c c' : Counter} {p : ℕ} {v : ℤ} {x : Writer}
  {f : Flusher}

lemma Linked.setWriter (h : s.Linked) (hx : ∀ k p a adds, x = .adding k p (a::adds) → s.hotBuckets k = some p) :
    (s.setWriter w x).Linked where
  distinct := h.distinct
  fresh := h.fresh
  writers u k p a adds hu := by
    by_cases huw : u=w
    · subst huw
      exact hx k p a adds (by simpa [MetricsState.setWriter] using hu)
    · exact h.writers u k p a adds (by simpa [MetricsState.setWriter,huw] using hu)
  flusher := h.flusher
  undrained := h.undrained
  unrestored := h.unrestored

lemma Linked.setCounter (h : s.Linked) : (s.setCounter p c v).Linked where
  distinct := h.distinct
  fresh := h.fresh
  writers := h.writers
  flusher := h.flusher
  undrained := h.undrained
  unrestored := h.unrestored

lemma Linked.setFlusher (h : s.Linked) (hf : ∀ k p, f.bucket? = some (k,p) → s.hotBuckets k = some p)
    (hd : ∀ cur k p rest drained, f = .draining cur k p rest drained → rest.Nodup ∧ ∀ c∈rest, drained c=0)
    (hr : ∀ cur k p rest drained, f = .restoring cur k p rest drained → rest.Nodup) :
    ({ s with flusher := f } : MetricsState W).Linked where
  distinct := h.distinct
  fresh := h.fresh
  writers := h.writers
  flusher := hf
  undrained := hd
  unrestored := hr

lemma Linked.store (h : s.Linked) (hk : s.hotBuckets k = none) : ({ s with
    hotBuckets := Function.update s.hotBuckets k (some s.next)
    buckets := Function.update s.buckets s.next (fun _ => 0)
    next := s.next+1 } : MetricsState W).Linked where
  distinct k1 k2 q h1 h2 := by
    have hf1 := h.fresh k1 q
    have hf2 := h.fresh k2 q
    by_cases hk1 : k1=k <;> by_cases hk2 : k2=k <;> simp_all
    exact h.distinct k1 k2 q h1 h2
  fresh k1 q h1 := by
    by_cases hk1 : k1=k
    · simp_all
    · have hf := h.fresh k1 q (by simpa [hk1] using h1)
      dsimp only
      omega
  writers u k1 q a adds hu := by
    have hw := h.writers u k1 q a adds hu
    by_cases hk1 : k1=k
    · simp_all
    · simpa [hk1] using hw
  flusher k1 q hq := by
    have hf := h.flusher k1 q hq
    by_cases hk1 : k1=k
    · simp_all
    · simpa [hk1] using hf
  undrained := h.undrained
  unrestored := h.unrestored

lemma accounted_store (h : s.Linked) (hk : s.hotBuckets key = none) : ({ s with
    hotBuckets := Function.update s.hotBuckets key (some s.next)
    buckets := Function.update s.buckets s.next (fun _ => 0)
    next := s.next+1 } : MetricsState W).accounted k c=s.accounted k c := by
  have hmem : ({ s with
      hotBuckets := Function.update s.hotBuckets key (some s.next)
      buckets := Function.update s.buckets s.next (fun _ => 0)
      next := s.next+1 } : MetricsState W).inMemory k c=s.inMemory k c := by
    unfold inMemory
    by_cases hkk : k=key
    · subst hkk
      simp [hk]
    · cases hq : s.hotBuckets k with
      | none => simp [hkk,hq]
      | some q =>
        have hne : q≠s.next := Nat.ne_of_lt (h.fresh k q hq)
        simp [hkk,hq,hne]
  unfold accounted
  rw [hmem]

end Links

section Steps
variable {s s' : MetricsState W} {op : MetricsOp W} {w : W} {es : List MetricsEvent}

/-- The step keeps the links, and accounts for what it records. -/
def Accounts (s s' : MetricsState W) (es : List MetricsEvent) : Prop :=
  s'.Linked ∧ ∀ k c, s'.accounted k c=s.accounted k c+recordedTotal k c es

lemma record_accounts {enabled : Bool} {sample : Sample} {bucketSeconds now : ℤ} (h : s.Linked)
    (hs : s.record w enabled sample bucketSeconds now = some (s',es)) : Accounts s s' es := by
  simp only [MetricsState.record] at hs
  split_ifs at hs with hw
  obtain ⟨rfl,rfl⟩ := Prod.mk.inj (Option.some.inj hs)
  refine ⟨h.setWriter (by simp),?_⟩
  intro k c
  rw [accounted_setWriter,hw.1]
  simp [Writer.left,recordedTotal]

lemma proceed_accounts (h : s.Linked) (hs : s.proceed w = some s') : Accounts s s' [] := by
  unfold MetricsState.proceed at hs
  split at hs
  · cases hs
  · next key adds hw =>
    split at hs
    · next p hp =>
      obtain rfl := Option.some.inj hs
      refine ⟨h.setWriter ?_,?_⟩
      · intro k q a rest hq
        cases hq
        exact hp
      · intro k c
        rw [accounted_setWriter,hw]
        simp [Writer.left,recordedTotal]
    · next hp =>
      obtain rfl := Option.some.inj hs
      refine ⟨(h.store hp).setWriter ?_,?_⟩
      · intro k q a rest hq
        cases hq
        simp
      · intro k c
        rw [accounted_setWriter,accounted_store h hp]
        dsimp only
        rw [hw]
        simp [Writer.left,recordedTotal]
  · next key p hw =>
    obtain rfl := Option.some.inj hs
    refine ⟨h.setWriter (by simp),?_⟩
    intro k c
    rw [accounted_setWriter,hw]
    simp [Writer.left,recordedTotal,tally]
  · next key p c v adds hw =>
    obtain rfl := Option.some.inj hs
    have hp := h.writers w key p (c,v) adds hw
    refine ⟨h.setCounter.setWriter ?_,?_⟩
    · intro k q a rest hq
      cases hq
      exact hp
    · intro k c'
      rw [accounted_setWriter,accounted_setCounter h hp]
      change _+((Writer.adding key p adds).left k c'-(s.writer w).left k c')=_
      rw [hw]
      by_cases hk : key=k
      · by_cases hc : c=c'
        · simp [Writer.left,tally_cons,recordedTotal,hk,hc]
        · simp [Writer.left,tally_cons,recordedTotal,hk,hc,Ne.symm hc]
      · simp [Writer.left,recordedTotal,hk,Ne.symm hk]

lemma visit_accounts {key : BucketKey} (h : s.Linked) (hs : s.visit key = some s') : Accounts s s' [] := by
  unfold MetricsState.visit at hs
  split at hs
  · next cur p hf hp =>
    split_ifs at hs with hcur
    · obtain rfl := Option.some.inj hs
      exact ⟨h,fun k c => by simp [recordedTotal]⟩
    · obtain rfl := Option.some.inj hs
      refine ⟨h.setFlusher ?_ ?_ (by simp),?_⟩
      · intro k q hq
        cases hq
        exact hp
      · intro cur' k q rest drained hq
        cases hq
        exact ⟨by decide,fun _ _ => rfl⟩
      · intro k c
        rw [accounted_setFlusher,hf]
        simp [Flusher.holds,recordedTotal]
  · cases hs

/-- A swap moves a counter from the bucket to what has been drained. -/
lemma drain_accounts (h : s.Linked) (hl : drainLossless s.flusher = true) (hs : s.drain = some s') :
    Accounts s s' [] := by
  unfold MetricsState.drain at hs
  split at hs
  · next cur key p x rest drained hf =>
    obtain rfl := Option.some.inj hs
    have hp : s.hotBuckets key = some p := h.flusher key p (by rw [hf]; rfl)
    obtain ⟨hnodup,hzero⟩ := h.undrained cur key p (x::rest) drained hf
    obtain ⟨hnot,hnodup⟩ := List.nodup_cons.mp hnodup
    refine ⟨h.setCounter.setFlusher ?_ ?_ (by simp),?_⟩
    · intro k q hq
      cases hq
      exact hp
    · intro cur' k q rest' drained' hq
      cases hq
      refine ⟨hnodup,?_⟩
      intro c hc
      have hne : c≠x := fun heq => hnot (heq ▸ hc)
      rw [Function.update_of_ne hne]
      exact hzero c (List.mem_cons_of_mem _ hc)
    · intro k c
      rw [accounted_setFlusher,accounted_setCounter h hp]
      change _+(_-s.flusher.holds k c)=_
      rw [hf]
      by_cases hk : key=k
      · by_cases hc : c=x
        · subst hc
          simp [Flusher.holds,recordedTotal,hk,hzero c List.mem_cons_self]
        · simp [Flusher.holds,recordedTotal,hk,hc]
      · simp [Flusher.holds,recordedTotal,hk,Ne.symm hk]
  · next cur key p drained hf =>
    obtain rfl := Option.some.inj hs
    have hp : s.hotBuckets key = some p := h.flusher key p (by rw [hf]; rfl)
    by_cases hreq : drained .requestCount=0
    · have hzero : ∀ c, drained c=0 := by
        intro c
        rw [hf] at hl
        simp only [drainLossless,hreq,bne_self_eq_false,Bool.false_or,List.all_eq_true,beq_iff_eq] at hl
        exact hl c (Counter.mem_all c)
      rw [if_pos hreq]
      refine ⟨h.setFlusher (by simp [Flusher.bucket?]) (by simp) (by simp),?_⟩
      intro k c
      rw [accounted_setFlusher,hf]
      simp [Flusher.holds,recordedTotal,hzero]
    · rw [if_neg hreq]
      refine ⟨h.setFlusher ?_ (by simp) (by simp),?_⟩
      · intro k q hq
        cases hq
        exact hp
      · intro k c
        rw [accounted_setFlusher,hf]
        simp [Flusher.holds,recordedTotal]
  · cases hs

lemma upsert_accounts {ok : Bool} (h : s.Linked) (hs : s.upsert ok = some s') : Accounts s s' [] := by
  unfold MetricsState.upsert at hs
  split at hs
  · next cur key p drained hf =>
    have hp : s.hotBuckets key = some p := h.flusher key p (by rw [hf]; rfl)
    split_ifs at hs
    · obtain rfl := Option.some.inj hs
      have hdb : ({ s with db := Function.update s.db key (fun c => s.db key c+drained c) } : MetricsState W).Linked :=
        ⟨h.distinct,h.fresh,h.writers,h.flusher,h.undrained,h.unrestored⟩
      refine ⟨hdb.setFlusher (by simp [Flusher.bucket?]) (by simp) (by simp),?_⟩
      intro k c
      unfold accounted
      change Function.update s.db key _ k c+s.inMemory k c+_+∑ w, (s.writer w).left k c=_
      rw [hf]
      by_cases hk : k=key
      · subst hk
        simp only [Flusher.holds,recordedTotal,Function.update_self,if_true,List.map_nil,List.sum_nil]
        ring
      · simp [Flusher.holds,recordedTotal,hk,Ne.symm hk]
    · obtain rfl := Option.some.inj hs
      refine ⟨h.setFlusher ?_ (by simp) ?_,?_⟩
      · intro k q hq
        cases hq
        exact hp
      · intro cur' k q rest drained' hq
        cases hq
        decide
      · intro k c
        rw [accounted_setFlusher,hf]
        simp [Flusher.holds,recordedTotal,Counter.mem_all]
  · cases hs

lemma restore_accounts (h : s.Linked) (hs : s.restore = some s') : Accounts s s' [] := by
  unfold MetricsState.restore at hs
  split at hs
  · next cur key p x rest drained hf =>
    have hp : s.hotBuckets key = some p := h.flusher key p (by rw [hf]; rfl)
    obtain ⟨hnot,hnodup⟩ := List.nodup_cons.mp (h.unrestored cur key p (x::rest) drained hf)
    dsimp only at hs
    split_ifs at hs with hx
    · obtain rfl := Option.some.inj hs
      refine ⟨h.setCounter.setFlusher ?_ (by simp) ?_,?_⟩
      · intro k q hq
        cases hq
        exact hp
      · intro cur' k q rest' drained' hq
        cases hq
        exact hnodup
      · intro k c
        rw [accounted_setFlusher,accounted_setCounter h hp]
        change _+(_-s.flusher.holds k c)=_
        rw [hf]
        by_cases hk : key=k
        · by_cases hc : c=x
          · subst hc
            simp [Flusher.holds,recordedTotal,hk,hnot]
          · simp [Flusher.holds,recordedTotal,hk,hc]
        · simp [Flusher.holds,recordedTotal,hk,Ne.symm hk]
    · obtain rfl := Option.some.inj hs
      refine ⟨h.setFlusher ?_ (by simp) ?_,?_⟩
      · intro k q hq
        cases hq
        exact hp
      · intro cur' k q rest' drained' hq
        cases hq
        exact hnodup
      · intro k c
        rw [accounted_setFlusher,hf]
        by_cases hk : key=k
        · by_cases hc : c=x
          · subst hc
            simp [Flusher.holds,recordedTotal,hk,hnot,not_not.mp hx]
          · simp [Flusher.holds,recordedTotal,hk,hc]
        · simp [Flusher.holds,recordedTotal,hk]
  · next cur key p drained hf =>
    obtain rfl := Option.some.inj hs
    refine ⟨h.setFlusher (by simp [Flusher.bucket?]) (by simp) (by simp),?_⟩
    intro k c
    rw [accounted_setFlusher,hf]
    simp [Flusher.holds,recordedTotal]
  · cases hs

lemma busyWith_cons {k : BucketKey} {p : ℕ} {a : Counter × ℤ} {adds : List (Counter × ℤ)} :
    (Writer.adding k p (a::adds)).busyWith p = true := by simp [Writer.busyWith]

lemma delete_accounts {bucketSeconds now : ℤ} (h : s.Linked) (hl : s.deleteLossless bucketSeconds now = true)
    (hs : s.delete bucketSeconds now = some s') : Accounts s s' [] := by
  unfold MetricsState.delete at hs
  split at hs
  · next cur key hf =>
    split_ifs at hs with hold
    · obtain rfl := Option.some.inj hs
      -- the bucket that leaves the map holds nothing, and nobody adds to it any more
      have hempty : ∀ p, s.hotBuckets key = some p → (∀ c, s.buckets p c=0) ∧ ∀ w, (s.writer w).busyWith p = false := by
        intro p hp
        simp only [deleteLossless,hf,hold,hp,decide_true,Bool.not_true,Bool.false_or,Bool.and_eq_true,List.all_eq_true,
          beq_iff_eq,decide_eq_true_eq] at hl
        exact ⟨fun c => hl.1 c (Counter.mem_all c),hl.2⟩
      constructor
      · refine ⟨?_,?_,?_,by simp [Flusher.bucket?],by simp,by simp⟩
        · intro k k' p hk hk'
          by_cases h1 : k=key <;> by_cases h2 : k'=key <;> simp_all
          exact h.distinct k k' p hk hk'
        · intro k p hk
          by_cases h1 : k=key
          · simp_all
          · exact h.fresh k p (by simpa [h1] using hk)
        · intro w k p a adds hw
          have hp := h.writers w k p a adds hw
          by_cases h1 : k=key
          · subst h1
            have hbusy := (hempty p hp).2 w
            rw [show s.writer w = .adding k p (a::adds) from hw,busyWith_cons] at hbusy
            cases hbusy
          · simpa [h1] using hp
      · intro k c
        have hmem : ({ s with hotBuckets := Function.update s.hotBuckets key none } : MetricsState W).inMemory k c=
            s.inMemory k c := by
          unfold inMemory
          by_cases h1 : k=key
          · subst h1
            cases hp : s.hotBuckets k with
            | none => simp
            | some p => simp [(hempty p hp).1 c]
          · simp [h1]
        unfold accounted
        change s.db k c+({ s with hotBuckets := Function.update s.hotBuckets key none } : MetricsState W).inMemory k c+
          Flusher.holds k c (.ranging cur)+∑ w, (s.writer w).left k c=_
        rw [hmem,hf]
        simp [Flusher.holds,recordedTotal]
    · obtain rfl := Option.some.inj hs
      refine ⟨h.setFlusher (by simp [Flusher.bucket?]) (by simp) (by simp),?_⟩
      intro k c
      rw [accounted_setFlusher,hf]
      simp [Flusher.holds,recordedTotal]
  · cases hs

lemma step_accounts (h : s.Linked) (hl : s.lossless op = true) (hs : s.step op = some (s',es)) : Accounts s s' es := by
  cases op with
  | record w enabled sample bucketSeconds now => exact record_accounts h hs
  | proceed w =>
    obtain ⟨s1,h1,hs⟩ := Option.map_eq_some_iff.mp hs
    obtain ⟨rfl,rfl⟩ := Prod.mk.inj hs
    exact proceed_accounts h h1
  | flush bucketSeconds now =>
    simp only [MetricsState.step] at hs
    split at hs
    · next hf =>
      obtain ⟨rfl,rfl⟩ := Prod.mk.inj (Option.some.inj hs)
      refine ⟨h.setFlusher (by simp [Flusher.bucket?]) (by simp) (by simp),?_⟩
      intro k c
      rw [accounted_setFlusher,hf]
      simp [Flusher.holds,recordedTotal]
    · cases hs
  | visit key =>
    obtain ⟨s1,h1,hs⟩ := Option.map_eq_some_iff.mp hs
    obtain ⟨rfl,rfl⟩ := Prod.mk.inj hs
    exact visit_accounts h h1
  | drain =>
    obtain ⟨s1,h1,hs⟩ := Option.map_eq_some_iff.mp hs
    obtain ⟨rfl,rfl⟩ := Prod.mk.inj hs
    exact drain_accounts h hl h1
  | upsert ok =>
    obtain ⟨s1,h1,hs⟩ := Option.map_eq_some_iff.mp hs
    obtain ⟨rfl,rfl⟩ := Prod.mk.inj hs
    exact upsert_accounts h h1
  | restore =>
    obtain ⟨s1,h1,hs⟩ := Option.map_eq_some_iff.mp hs
    obtain ⟨rfl,rfl⟩ := Prod.mk.inj hs
    exact restore_accounts h h1
  | delete bucketSeconds now =>
    obtain ⟨s1,h1,hs⟩ := Option.map_eq_some_iff.mp hs
    obtain ⟨rfl,rfl⟩ := Prod.mk.inj hs
    exact delete_accounts h hl h1
  | finish =>
    simp only [MetricsState.step] at hs
    split at hs
    · next cur hf =>
      obtain ⟨rfl,rfl⟩ := Prod.mk.inj (Option.some.inj hs)
      refine ⟨h.setFlusher (by simp [Flusher.bucket?]) (by simp) (by simp),?_⟩
      intro k c
      rw [accounted_setFlusher,hf]
      simp [Flusher.holds,recordedTotal]
    · cases hs

end Steps

/-! ## Runs -/

section Runs
variable {is : List (MetricsOp W)}

/-- All calls of `Record` have returned, and no flush is going on. -/
structure Settled (s : MetricsState W) : Prop where
  writers : ∀ w, s.writer w = .idle
  flusher : s.flusher = .idle

/-- Database and memory together have what has been recorded. -/
def TotalsAgree (c : Config (MetricsState W) MetricsEvent) : Prop :=
  ∀ k x, c.state.db k x+c.state.inMemory k x=recordedTotal k x c.history

def Flusher.isIdle : Flusher → Bool
  | .idle => true
  | _ => false

lemma Flusher.eq_idle {f : Flusher} (h : Flusher.isIdle f = true) : f = .idle := by
  cases f <;> first | rfl | cases h

lemma linked_initial : (initial : MetricsState W).Linked := by
  constructor <;> simp [initial,Flusher.bucket?]

/-- A run that is lossless at each of its steps conserves every counter of every key. -/
lemma always_accounted
    (h : (system W).Guarded (fun c op => c.state.lossless op = true) ⟨initial,[]⟩ is) :
    (system W).Always (fun c => c.state.Linked ∧ ∀ k x, c.state.accounted k x=recordedTotal k x c.history)
      ⟨initial,[]⟩ is := by
  refine always_of_guarded ⟨linked_initial,?_⟩ ?_ h
  · intro k x
    simp [accounted,inMemory,initial,Flusher.holds,Writer.left,recordedTotal]
  · rintro d op s es ⟨hlinked,hacc⟩ hl hs
    obtain ⟨hlinked',hacc'⟩ := step_accounts hlinked hl hs
    refine ⟨hlinked',?_⟩
    intro k x
    rw [hacc' k x,hacc k x,recordedTotal_append]
    ring

/-- Metrics are conserved in every run in which a flush that finds no requests in what it has drained has
drained nothing else either, and a bucket is removed only when it is empty and no request is still
adding to it. -/
theorem metrics_conserved
    (h : (system W).Guarded (fun c op => c.state.lossless op = true) ⟨initial,[]⟩ is) :
    (system W).Always (fun c => c.state.Settled → TotalsAgree c) ⟨initial,[]⟩ is := by
  refine (always_accounted h).mono ?_
  rintro d ⟨-,hacc⟩ hsettled k x
  have hkx := hacc k x
  simpa [accounted,hsettled.writers,hsettled.flusher,Flusher.holds,Writer.left] using hkx

end Runs

def oneSample : Sample := ⟨"m","default",1,5,0,false,true,0,0⟩

/-- One pass over the only bucket an hour later, with every counter drained and the row written. -/
def writingFlush : List (MetricsOp Unit) :=
  [.flush 3600 4000,.visit ⟨"m","default",1,0⟩]++List.replicate 8 .drain++[.upsert true,.delete 3600 4000,.finish]

theorem metrics_conserved_lateFlush :
    TotalsAgree ((system Unit).run ⟨initial,[]⟩
      ([.record () true oneSample 3600 100]++List.replicate 5 (.proceed ())++writingFlush)) :=
  (metrics_conserved (by decide)).last ⟨by decide,Flusher.eq_idle (by decide)⟩

/-- A flush comes between the additions of a request; what the request adds afterwards is drained by the
next flush, which finds no requests in it. -/
def overtakenRecord : List (MetricsOp Unit) :=
  [.record () true oneSample 3600 100,.proceed (),.proceed ()]++writingFlush++List.replicate 3 (.proceed ())++
  [.flush 3600 4000,.visit ⟨"m","default",1,0⟩]++List.replicate 8 .drain++[.delete 3600 4000,.finish]

theorem overtakenRecord_loses_counters :
    ((system Unit).run ⟨initial,[]⟩ overtakenRecord).state.Settled ∧
    (∀ ok, .upsert ok∈overtakenRecord → ok = true) ∧
    ¬TotalsAgree ((system Unit).run ⟨initial,[]⟩ overtakenRecord) := by
  refine ⟨⟨by decide +kernel,Flusher.eq_idle (by decide +kernel)⟩,by decide +kernel,?_⟩
  intro h
  have hlost := h ⟨"m","default",1,0⟩ .successCount
  revert hlost
  decide +kernel

end MetricsState
end PerfMetrics
end Tierflow
