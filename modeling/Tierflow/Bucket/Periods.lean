import Tierflow.Foundation.Ledger
import Tierflow.Bucket.Bounds
import Tierflow.Bucket.Records

/-! Usage across reset periods. The ledger of a bucket holds the net charge of each request that
was pre-consumed since the last reset and not refunded. A run keeps the stored usage equal to its
ledgers exactly as long as no refund and no settlement reaches back over a reset. -/
namespace Tierflow
open TxSystem

def ledgerEvent (k : ℕ) (b : Bucket) : BucketEvent → Ledger String → Ledger String
  | .consumed r j c a,l => if j=k ∧ c=b then l.charge r a else l
  | .adjusted r j c d,l => if j=k ∧ c=b then l.adjust r d else l
  | .refunded r j c _,l => if j=k ∧ c=b then l.close r else l
  | .reset j,l => if j=k then .empty else l

/-- The requests pre-consumed from a bucket in the current period and not refunded, each with its
net charge. -/
def bucketLedger (k : ℕ) (b : Bucket) (es : List BucketEvent) : Ledger String :=
  es.foldr (ledgerEvent k b) .empty

@[simp] theorem bucketLedger_nil (k : ℕ) (b : Bucket) : bucketLedger k b [] = .empty := rfl

@[simp] theorem bucketLedger_cons (k : ℕ) (b : Bucket) (e : BucketEvent) (es : List BucketEvent) :
    bucketLedger k b (e::es) = ledgerEvent k b e (bucketLedger k b es) := rfl

theorem bucketLedger_resets {es : List BucketEvent} (h : ∀ e∈es, ∃ k, e = .reset k) (hist : List BucketEvent)
    (k : ℕ) (b : Bucket) :
    bucketLedger k b (es++hist) = if .reset k∈es then .empty else bucketLedger k b hist := by
  induction es with
  | nil => rfl
  | cons e es ih =>
    obtain ⟨j,rfl⟩ := h e (by simp)
    rw [List.cons_append,bucketLedger_cons,ih (fun e he => h e (by simp [he])),ledgerEvent]
    by_cases hj : j=k
    · simp [hj]
    · have hk : k≠j := fun hk => hj hk.symm
      simp [hj,hk]

/-- Only a pre-consumption opens an account. -/
lemma consumed_of_mem_ledger {k : ℕ} {b : Bucket} {es : List BucketEvent} {e : String × ℤ}
    (h : e∈(bucketLedger k b es).entries) : ∃ a, .consumed e.1 k b a∈es := by
  induction es generalizing e with
  | nil => simp [Ledger.empty] at h
  | cons ev es ih =>
    have hlift : ∀ f : String × ℤ, f∈(bucketLedger k b es).entries → f.1=e.1 →
        ∃ a, BucketEvent.consumed e.1 k b a∈ev::es := by
      intro f hf he
      obtain ⟨a,ha⟩ := ih hf
      exact ⟨a,by simp [←he,ha]⟩
    rw [bucketLedger_cons] at h
    cases ev with
    | consumed r j c a =>
      by_cases hm : j=k ∧ c=b
      · rw [ledgerEvent,if_pos hm] at h
        rcases Ledger.mem_charge h with rfl | h
        · exact ⟨a,by simp [hm]⟩
        · exact hlift e h rfl
      · rw [ledgerEvent,if_neg hm] at h
        exact hlift e h rfl
    | adjusted r j c d =>
      by_cases hm : j=k ∧ c=b
      · rw [ledgerEvent,if_pos hm] at h
        obtain ⟨f,hf,he⟩ := Ledger.mem_adjust h
        exact hlift f hf he
      · rw [ledgerEvent,if_neg hm] at h
        exact hlift e h rfl
    | refunded r j c a =>
      by_cases hm : j=k ∧ c=b
      · rw [ledgerEvent,if_pos hm] at h
        exact hlift e (List.mem_filter.mp h).1 rfl
      · rw [ledgerEvent,if_neg hm] at h
        exact hlift e h rfl
    | reset j =>
      by_cases hm : j=k
      · rw [ledgerEvent,if_pos hm] at h
        simp [Ledger.empty] at h
      · rw [ledgerEvent,if_neg hm] at h
        exact hlift e h rfl

/-- The usage of every bucket is the sum of its ledger, and no request has a negative net charge. -/
def UsageAccounted (c : Config Store BucketEvent) : Prop :=
  ∀ k sub, c.state.subscriptions.find? k = some sub → ∀ b,
    sub.used b=(bucketLedger k b c.history).total ∧ (bucketLedger k b c.history).Nonneg

/-- What the records of a run that started without records provide for. -/
structure Audited (c : Config Store BucketEvent) : Prop where
  bounded : BucketBounded c.state
  positive : ∀ id rec, c.state.records.find? id = some rec → 0 < rec.preConsumed
  recorded : ∀ r k b a, .consumed r k b a∈c.history → recordOf c.state r≠none

lemma RecordStep.positive {op : BucketOp} {s s' : Store} {es : List BucketEvent} (h : RecordStep op s s' es)
    (hp : ∀ id rec, s.records.find? id = some rec → 0 < rec.preConsumed) :
    ∀ id rec, s'.records.find? id = some rec → 0 < rec.preConsumed := by
  intro id rec hid
  cases h with
  | kept hrec _ => exact hp id rec (by rwa [←hrec])
  | created _ _ ha _ hrec _ _ =>
    rw [hrec,Table.find?_insert] at hid
    split_ifs at hid
    · obtain rfl := Option.some.inj hid
      exact ha
    · exact hp id rec hid
  | @refunded r i x _ hold _ _ hrec _ =>
    rw [hrec,Table.find?_set] at hid
    split_ifs at hid
    · obtain ⟨y,-,rfl⟩ := Option.map_eq_some_iff.mp hid
      exact hp i x (recordOf_spec hold).1
    · exact hp id rec hid

/-- A pre-consumption event comes with the record of its request. -/
lemma RecordStep.recorded {op : BucketOp} {s s' : Store} {es : List BucketEvent} (h : RecordStep op s s' es)
    {r : String} {k : ℕ} {b : Bucket} {a : ℤ} (he : .consumed r k b a∈es) : recordOf s' r≠none := by
  cases h with
  | kept _ hev =>
    rcases hev _ he with ⟨j,hj⟩ | ⟨q,j,name,d,-,hj⟩ <;> contradiction
  | created _ hq _ _ hrec hes hres =>
    rw [hes,List.mem_cons] at he
    rcases he with he | he
    · obtain ⟨rfl,-,-,-⟩ := BucketEvent.consumed.inj he
      rw [recordOf_insert hrec hq,if_pos rfl]
      exact Option.some_ne_none _
    · obtain ⟨j,hj⟩ := hres _ he
      contradiction
  | refunded _ _ _ _ _ hes =>
    rw [hes,List.mem_singleton] at he
    contradiction

theorem audited_step {tz : ℤ} {c : Config Store BucketEvent} {op : BucketOp} {s' : Store} {es : List BucketEvent}
    (hc : Audited c) (h : (bucketSystem tz).step c.state op = some (s',es)) : Audited ⟨s',es++c.history⟩ where
  bounded := bucketBounded_step hc.bounded h
  positive := (bucketStep_records h).positive hc.positive
  recorded r k b a hev := by
    have hs := bucketStep_records h
    rcases List.mem_append.mp hev with hev | hev
    · exact hs.recorded hev
    · cases hr : recordOf c.state r with
      | none => exact absurd hr (hc.recorded r k b a hev)
      | some x =>
        obtain ⟨rec',hr',-⟩ := hs.mono hr
        simp [hr']

/-- A request without a record has no account in any ledger. -/
lemma Audited.owed_none {c : Config Store BucketEvent} (hc : Audited c) {r : String}
    (hr : recordOf c.state r = none) (k : ℕ) (b : Bucket) : (bucketLedger k b c.history).owed r = none := by
  rw [Ledger.owed_eq_none_iff]
  rintro e he rfl
  obtain ⟨a,ha⟩ := consumed_of_mem_ledger he
  exact hc.recorded e.1 k b a ha hr

/-- An operation keeps usage and ledgers together when a settlement names a request of the current
period and leaves its net charge non-negative, or takes nothing from an unused bucket, and when
a refund takes off the bucket what its request was charged in the current period. -/
def WithinPeriod (c : Config Store BucketEvent) : BucketOp → Prop
  | .postConsumeDelta r k name d => ∀ sub, c.state.subscriptions.find? k = some sub → d≠0 →
      ¬ exceedsTotal sub (Bucket.ofName name) d →
      match (bucketLedger k (Bucket.ofName name) c.history).owed r with
      | some n => 0≤n+d
      | none => d<0 ∧ sub.used (Bucket.ofName name)=0
  | .refund r => ∀ id rec sub, Text.trimSpace r≠"" → recordOf c.state r = some (id,rec) → rec.status≠.refunded →
      c.state.subscriptions.find? rec.userSubscriptionId = some sub →
      min rec.preConsumed (sub.used rec.recordBucket)=
        ((bucketLedger rec.userSubscriptionId rec.recordBucket c.history).owed r).getD 0
  | _ => True

section Step
variable {tz : ℤ} {c : Config Store BucketEvent} {s' : Store} {es : List BucketEvent}

lemma usageAccounted_of_rows (hm : Metered es c.state s')
    (h : ∀ k sub, c.state.subscriptions.find? k = some sub → ∀ b,
      meter k b es (sub.used b)=(bucketLedger k b (es++c.history)).total ∧
        (bucketLedger k b (es++c.history)).Nonneg) : UsageAccounted ⟨s',es++c.history⟩ := by
  intro k sub' hk b
  obtain ⟨sub,hs,hr⟩ := hm.find? hk
  rw [hr.used]
  exact h k sub hs b

/-- Resets, and operations without effect, keep usage and ledgers together. -/
lemma usageAccounted_resets (hq : UsageAccounted c) (hm : Metered es c.state s')
    (hes : ∀ e∈es, ∃ k, e = .reset k) : UsageAccounted ⟨s',es++c.history⟩ := by
  refine usageAccounted_of_rows hm ?_
  intro k sub hk b
  rw [meter_resets hes,bucketLedger_resets hes]
  split_ifs
  · exact ⟨rfl,Ledger.nonneg_empty⟩
  · exact hq k sub hk b

/-- A fresh pre-consumption opens its account. -/
lemma usageAccounted_consumed {r : String} {j : ℕ} {bk : Bucket} {a : ℤ} (hp : Audited c) (hq : UsageAccounted c)
    (hm : Metered (.consumed r j bk a::es) c.state s') (hes : ∀ e∈es, ∃ k, e = .reset k)
    (hr : recordOf c.state r = none) (ha : 0<a) : UsageAccounted ⟨s',.consumed r j bk a::es++c.history⟩ := by
  refine usageAccounted_of_rows hm ?_
  intro k sub hk b
  obtain ⟨hu,hn⟩ := hq k sub hk b
  have hbase : meter k b es (sub.used b)=(bucketLedger k b (es++c.history)).total ∧
      (bucketLedger k b (es++c.history)).Nonneg ∧ (bucketLedger k b (es++c.history)).owed r = none := by
    rw [meter_resets hes,bucketLedger_resets hes]
    split_ifs
    · exact ⟨rfl,Ledger.nonneg_empty,rfl⟩
    · exact ⟨hu,hn,hp.owed_none hr k b⟩
  obtain ⟨hu',hn',ho⟩ := hbase
  rw [List.cons_append,meter_cons,bucketLedger_cons,meterEvent,ledgerEvent]
  split_ifs
  · exact ⟨by rw [hu',Ledger.total_charge a ho],hn'.charge ha.le⟩
  · exact ⟨hu',hn'⟩

/-- A settlement keeps usage and ledgers together exactly when it stays within the period. -/
lemma usageAccounted_adjusted {r name : String} {j : ℕ} {d : ℤ} (hp : Audited c) (hq : UsageAccounted c)
    (h : postConsumeUserSubscriptionDelta c.state j name d = .ok s')
    (hm : Metered [.adjusted r j (Bucket.ofName name) d] c.state s') :
    UsageAccounted ⟨s',.adjusted r j (Bucket.ofName name) d::c.history⟩ ↔
      WithinPeriod c (.postConsumeDelta r j name d) := by
  have hother : ∀ k b, ¬(j=k ∧ Bucket.ofName name=b) →
      ∀ u, meterEvent k b (.adjusted r j (Bucket.ofName name) d) u = u ∧
        bucketLedger k b (.adjusted r j (Bucket.ofName name) d::c.history) = bucketLedger k b c.history := by
    intro k b hne u
    have hne' : ¬(j=k ∧ Bucket.ofName name=b ∧ d≠0) := fun he => hne ⟨he.1,he.2.1⟩
    exact ⟨if_neg hne',if_neg hne⟩
  have hown : ∀ u, meterEvent j (Bucket.ofName name) (.adjusted r j (Bucket.ofName name) d) u =
      if d≠0 then max 0 (u+d) else u := by
    intro u
    simp [meterEvent]
  have hledger : bucketLedger j (Bucket.ofName name) (.adjusted r j (Bucket.ofName name) d::c.history) =
      (bucketLedger j (Bucket.ofName name) c.history).adjust r d := if_pos ⟨rfl,rfl⟩
  constructor
  · intro hq' sub hsub hd _
    obtain ⟨sub',hsub',hr⟩ := hm.find?_of hsub
    obtain ⟨hu',hn'⟩ := hq' j sub' hsub' (Bucket.ofName name)
    obtain ⟨hu,hn⟩ := hq j sub hsub (Bucket.ofName name)
    have h0 := (hp.bounded j sub hsub (Bucket.ofName name)).1
    rw [hr.used,meter_cons,meter_nil,hown,if_pos hd] at hu'
    cases ho : (bucketLedger j (Bucket.ofName name) c.history).owed r with
    | some n =>
      rw [hledger] at hn'
      exact (Ledger.nonneg_adjust_iff hn ho d).mp hn'
    | none =>
      rw [hledger,Ledger.adjust_of_owed_none ho,←hu] at hu'
      constructor <;> omega
  · intro hg
    refine usageAccounted_of_rows hm ?_
    intro k sub hk b
    obtain ⟨hu,hn⟩ := hq k sub hk b
    rw [meter_cons,meter_nil,List.singleton_append]
    by_cases hm' : j=k ∧ Bucket.ofName name=b
    · obtain ⟨rfl,rfl⟩ := hm'
      rw [hown,hledger]
      have h0 := (hp.bounded j sub hk (Bucket.ofName name)).1
      rcases postConsumeDeltaTx_cases h with ⟨hd,-⟩ | ⟨hd,sub0,hs0,he,-⟩
      · rw [if_neg (not_not.mpr hd)]
        cases ho : (bucketLedger j (Bucket.ofName name) c.history).owed r with
        | none => rw [Ledger.adjust_of_owed_none ho]; exact ⟨hu,hn⟩
        | some n =>
          rw [Ledger.total_adjust ho,Ledger.nonneg_adjust_iff hn ho,hd]
          exact ⟨by omega,by have := hn.owed ho; omega⟩
      · obtain rfl := Option.some.inj (hk.symm.trans hs0)
        have hg' := hg sub hk hd he
        rw [if_pos hd]
        cases ho : (bucketLedger j (Bucket.ofName name) c.history).owed r with
        | none =>
          simp only [ho] at hg'
          rw [Ledger.adjust_of_owed_none ho]
          exact ⟨by omega,hn⟩
        | some n =>
          simp only [ho] at hg'
          rw [Ledger.total_adjust ho,Ledger.nonneg_adjust_iff hn ho]
          have hle := hn.le_total ho
          exact ⟨by omega,hg'⟩
    · obtain ⟨h1,h2⟩ := hother k b hm' (sub.used b)
      rw [h1,h2]
      exact ⟨hu,hn⟩

/-- So does a refund. -/
lemma usageAccounted_refunded {r : String} {id : ℕ} {rec : SubscriptionPreConsumeRecord} (hp : Audited c)
    (hq : UsageAccounted c) (hne : Text.trimSpace r≠"") (hr : recordOf c.state r = some (id,rec))
    (hst : rec.status≠.refunded)
    (hm : Metered [.refunded r rec.userSubscriptionId rec.recordBucket rec.preConsumed] c.state s') :
    UsageAccounted ⟨s',.refunded r rec.userSubscriptionId rec.recordBucket rec.preConsumed::c.history⟩ ↔
      WithinPeriod c (.refund r) := by
  have hpos := hp.positive id rec (recordOf_spec hr).1
  have htotal : ∀ k b, (bucketLedger k b
      (.refunded r rec.userSubscriptionId rec.recordBucket rec.preConsumed::c.history)).total =
      (bucketLedger k b c.history).total-
        if rec.userSubscriptionId=k ∧ rec.recordBucket=b then ((bucketLedger k b c.history).owed r).getD 0 else 0 := by
    intro k b
    rw [bucketLedger_cons,ledgerEvent]
    split_ifs
    · exact Ledger.total_close _ _
    · exact (sub_zero _).symm
  constructor
  · intro hq' i x sub _ hx _ hsub
    obtain ⟨rfl,rfl⟩ := Prod.mk.inj (Option.some.inj (hr.symm.trans hx))
    obtain ⟨sub',hsub',hrow⟩ := hm.find?_of hsub
    have hu' := (hq' _ sub' hsub' rec.recordBucket).1
    have hu := (hq _ sub hsub rec.recordBucket).1
    have h0 := (hp.bounded _ sub hsub rec.recordBucket).1
    rw [hrow.used,htotal,if_pos ⟨rfl,rfl⟩,←hu,meter_cons,meter_nil,meterEvent,if_pos ⟨rfl,rfl,hpos⟩] at hu'
    omega
  · intro hg
    refine usageAccounted_of_rows hm ?_
    intro k sub hk b
    obtain ⟨hu,hn⟩ := hq k sub hk b
    have h0 := (hp.bounded k sub hk b).1
    rw [List.singleton_append,htotal,meter_cons,meter_nil,meterEvent]
    constructor
    · by_cases hm' : rec.userSubscriptionId=k ∧ rec.recordBucket=b
      · obtain ⟨rfl,rfl⟩ := hm'
        have hg' := hg id rec sub hne hr hst hk
        rw [if_pos ⟨rfl,rfl,hpos⟩,if_pos ⟨rfl,rfl⟩]
        omega
      · rw [if_neg hm',if_neg (fun he => hm' ⟨he.1,he.2.1⟩)]
        omega
    · rw [bucketLedger_cons,ledgerEvent]
      split_ifs
      · exact hn.close r
      · exact hn

end Step

/-- A refund whose record and subscription exist commits. -/
lemma refund_commits {s : Store} (hb : BucketBounded s) {r : String} {id : ℕ} {rec : SubscriptionPreConsumeRecord}
    {sub : UserSubscription} (hne : Text.trimSpace r≠"") (hr : recordOf s r = some (id,rec))
    (hp : 0 < rec.preConsumed) (hk : s.subscriptions.find? rec.userSubscriptionId = some sub) :
    ∃ o, refundSubscriptionPreConsume s r = .ok o := by
  rw [refundSubscriptionPreConsume,require_of hne,ok_bind,hr,orFail_some,ok_bind]
  dsimp only
  by_cases hst : rec.status = .refunded
  · rw [if_pos hst]
    exact ⟨_,rfl⟩
  · obtain ⟨h0,ht⟩ := hb _ sub hk rec.recordBucket
    have he : ¬ exceedsTotal sub rec.recordBucket (-rec.preConsumed) := by
      rintro ⟨htot,hlt⟩
      have := ht htot
      unfold clampedUsed at hlt
      omega
    rw [if_neg hst,if_neg (not_le.mpr hp),postConsumeDeltaTx_ok hk (by omega) he,ok_bind]
    exact ⟨_,rfl⟩

/-- An operation keeps usage and ledgers together exactly when it stays within the period. -/
theorem usageAccounted_exec_iff {tz : ℤ} {c : Config Store BucketEvent} {op : BucketOp} (hp : Audited c)
    (hq : UsageAccounted c) : UsageAccounted ((bucketSystem tz).exec c op) ↔ WithinPeriod c op := by
  cases h : (bucketSystem tz).step c.state op with
  | none =>
    rw [exec_of_none h]
    refine iff_of_true hq ?_
    cases op with
    | postConsumeDelta r k name d =>
      intro sub hk hd he
      have hok : postConsumeUserSubscriptionDelta c.state k name d = .ok _ := postConsumeDeltaTx_ok hk hd he
      simp [bucketSystem,hok,Except.toOption] at h
    | refund r =>
      intro id rec sub hne hr hst hk
      obtain ⟨o,ho⟩ := refund_commits hp.bounded hne hr (hp.positive id rec (recordOf_spec hr).1) hk
      simp [bucketSystem,ho,Except.toOption] at h
    | preConsume now r u name a d => trivial
    | resetDue k plan now => trivial
    | catalogue plans cache => trivial
  | some o =>
    obtain ⟨s',es⟩ := o
    rw [exec_of_some h]
    have hm := bucketStep_metered h
    cases op with
    | preConsume now r u name a d =>
      refine iff_of_true ?_ trivial
      cases bucketStep_records h with
      | kept _ hev =>
        refine usageAccounted_resets hq hm ?_
        intro e he
        rcases hev e he with hres | ⟨_,_,_,_,hop,-⟩
        · exact hres
        · contradiction
      | created _ hr ha _ _ hes hres =>
        subst es
        obtain ⟨rfl,rfl,rfl,rfl,rfl,rfl⟩ := BucketOp.preConsume.inj ‹_›
        exact usageAccounted_consumed hp hq hm hres hr ha
      | refunded hop => contradiction
    | postConsumeDelta r k name d =>
      obtain ⟨o,ho,heq⟩ := Option.map_eq_some_iff.mp h
      obtain ⟨rfl,rfl⟩ := Prod.mk.inj heq
      exact usageAccounted_adjusted hp hq (toOption_eq_some.mp ho) hm
    | refund r =>
      obtain ⟨hne,id,rec,hr,⟨hst,ho⟩ | ⟨hst,s1,-,ho⟩⟩ := refund_cases (toOption_eq_some.mp h)
      · obtain ⟨rfl,rfl⟩ := Prod.mk.inj ho
        refine iff_of_true (usageAccounted_resets hq hm (by simp)) ?_
        intro i x sub _ hx hn
        obtain ⟨rfl,rfl⟩ := Prod.mk.inj (Option.some.inj (hr.symm.trans hx))
        exact absurd hst hn
      · obtain ⟨rfl,rfl⟩ := Prod.mk.inj ho
        exact usageAccounted_refunded hp hq hne hr hst hm
    | resetDue k plan now => exact iff_of_true (usageAccounted_resets hq hm (resetDue_cases h).events) trivial
    | catalogue plans cache =>
      obtain ⟨rfl,rfl⟩ := Prod.mk.inj (Option.some.inj h)
      exact iff_of_true (usageAccounted_resets hq hm (by simp)) trivial

/-- From a database without records and usage, usage stays accounted for throughout a run exactly
when every operation of the run stays within the period. -/
theorem usage_accounted_iff (tz : ℤ) (s : Store) (hr : s.records = .empty)
    (hu : ∀ k sub, s.subscriptions.find? k = some sub → ∀ b, sub.used b=0) (ops : List BucketOp) :
    (bucketSystem tz).Always UsageAccounted ⟨s,[]⟩ ops ↔ (bucketSystem tz).Guarded WithinPeriod ⟨s,[]⟩ ops := by
  have hp : Audited ⟨s,[]⟩ := by
    refine ⟨?_,by simp [hr],by simp⟩
    intro k sub hk b
    rw [hu k sub hk b]
    exact ⟨le_rfl,le_of_lt⟩
  refine always_iff_guarded (always_of_step hp (fun _ _ _ _ hd h => audited_step hd h) ops) ?_
    (fun d op hd hq => usageAccounted_exec_iff hd hq)
  intro k sub hk b
  rw [hu k sub hk b]
  exact ⟨rfl,Ledger.nonneg_empty⟩

/-- The usage of one request is lost to the refund of another that was charged before a reset. -/
def refundOverReset : List BucketOp :=
  [.preConsume 2 "a" 1 "premium" 40 0,.preConsume 12 "b" 1 "premium" 30 0,.refund "a"]

theorem usage_accounted_iff_overReset :
    (bucketSystem 0).Always UsageAccounted ⟨meteredStore,[]⟩ refundOverReset ↔
      (bucketSystem 0).Guarded WithinPeriod ⟨meteredStore,[]⟩ refundOverReset :=
  usage_accounted_iff 0 meteredStore rfl (fun _ _ hk b => meteredStore_unused hk b) refundOverReset

theorem refundOverReset_not_accounted :
    ¬ (bucketSystem 0).Always UsageAccounted ⟨meteredStore,[]⟩ refundOverReset := by
  intro h
  have hused : (((bucketSystem 0).run ⟨meteredStore,[]⟩ refundOverReset).state.subscriptions.find? 1).map
      (fun sub => sub.used .premium) = some 0 := by decide
  have hledger : (bucketLedger 1 .premium
      ((bucketSystem 0).run ⟨meteredStore,[]⟩ refundOverReset).history).total = 30 := by decide
  obtain ⟨sub,hs,hu⟩ := Option.map_eq_some_iff.mp hused
  have := (h.last 1 sub hs .premium).1
  omega

end Tierflow
