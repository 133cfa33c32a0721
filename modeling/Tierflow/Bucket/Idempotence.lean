import Tierflow.Bucket.Records

/-! Idempotence by request id: however often a request is pre-consumed and refunded, it is charged
at most once, and not at all once it was refunded. -/
namespace Tierflow
open TxSystem

def BucketOp.request? : BucketOp → Option String
  | .preConsume _ r _ _ _ _ => some r
  | .refund r => some r
  | _ => none

/-- Settlement deltas are no calls of the two idempotent operations. -/
def BucketOp.isDelta : BucketOp → Bool
  | .postConsumeDelta _ _ _ _ => true
  | _ => false

/-- The used amount of a bucket, or zero where there is no such subscription. -/
def usedOf (s : Store) (k : ℕ) (b : Bucket) : ℤ := ((s.subscriptions.find? k).map (fun sub => sub.used b)).getD 0

/-- What the operations of a run with request id `r` change in all of a bucket's usage. -/
def netChange (tz : ℤ) (r : String) (k : ℕ) (b : Bucket) (c : Config Store BucketEvent) : List BucketOp → ℤ
  | [] => 0
  | op::ops =>
    (if op.request?=some r then usedOf ((bucketSystem tz).exec c op).state k b-usedOf c.state k b else 0)+
      netChange tz r k b ((bucketSystem tz).exec c op) ops

/-- The part of a bucket's usage that a record stands for. -/
def SubscriptionPreConsumeRecord.charge (rec : SubscriptionPreConsumeRecord) (k : ℕ) (b : Bucket) : ℤ :=
  if rec.status = .consumed ∧ rec.userSubscriptionId=k ∧ rec.recordBucket=b then rec.preConsumed else 0

def chargeOf (s : Store) (r : String) (k : ℕ) (b : Bucket) : ℤ :=
  ((recordOf s r).map (fun x => x.2.charge k b)).getD 0

/-- All charges on record were positive, and the usage of each bucket covers the outstanding ones.
A database without records is covered as soon as no used amount is negative. -/
structure Covered (s : Store) : Prop where
  positive : ∀ id rec, s.records.find? id = some rec → 0 < rec.preConsumed
  covered : ∀ k sub, s.subscriptions.find? k = some sub → ∀ b, s.records.sum (fun _ rec => rec.charge k b) ≤ sub.used b

lemma covered_of_no_records {s : Store} (hr : s.records = .empty)
    (hu : ∀ k sub, s.subscriptions.find? k = some sub → ∀ b, 0 ≤ sub.used b) : Covered s where
  positive id rec h := by simp [hr] at h
  covered k sub h b := by simpa [hr] using hu k sub h b

lemma charge_nonneg {rec : SubscriptionPreConsumeRecord} (h : 0 < rec.preConsumed) (k : ℕ) (b : Bucket) :
    0 ≤ rec.charge k b := by
  unfold SubscriptionPreConsumeRecord.charge
  split_ifs
  · exact h.le
  · exact le_rfl

/-- An outstanding charge is covered by the bucket it was taken from. -/
lemma Covered.le_used {s : Store} (h : Covered s) {id k : ℕ} {rec : SubscriptionPreConsumeRecord}
    {sub : UserSubscription} (hr : s.records.find? id = some rec) (hk : s.subscriptions.find? k = some sub)
    (b : Bucket) : rec.charge k b ≤ sub.used b :=
  (Table.le_sum (fun j a hj => charge_nonneg (h.positive j a hj) k b) hr).trans (h.covered k sub hk b)

/-- What a committed call without resets does: some amount `δ` is added to the usage of each
bucket, and the same to the charge on record of the request that the call names. -/
structure CallEffect (op : BucketOp) (s s' : Store) (es : List BucketEvent) (δ : ℕ → Bucket → ℤ) : Prop where
  used : ∀ k sub, s.subscriptions.find? k = some sub → ∀ b, meter k b es (sub.used b) = sub.used b+δ k b
  missing : ∀ k b, s.subscriptions.find? k = none → δ k b=0
  outstanding : ∀ k b, s'.records.sum (fun _ rec => rec.charge k b) = s.records.sum (fun _ rec => rec.charge k b)+δ k b
  charge : ∀ r k b, chargeOf s' r k b = chargeOf s r k b+if op.request?=some r then δ k b else 0
  positive : ∀ id rec, s'.records.find? id = some rec → 0 < rec.preConsumed

lemma callEffect_created {s s' : Store} {now : ℤ} {r name : String} {u d k : ℕ} {a : ℤ} (hc : Covered s)
    (hr : recordOf s r = none) (ha : 0<a) (hk : s.subscriptions.find? k≠none)
    (h : s'.records = s.records.insert ⟨r,u,k,a,(Bucket.ofName name).name,.consumed⟩) :
    CallEffect (.preConsume now r u name a d) s s' [.consumed r k (Bucket.ofName name) a]
      (fun j b => if k=j ∧ Bucket.ofName name=b then a else 0) where
  used j sub _ b := by
    by_cases hj : k=j ∧ Bucket.ofName name=b <;> simp [meterEvent,hj]
  missing j b hj := by
    rw [if_neg]
    rintro ⟨rfl,-⟩
    exact hk hj
  outstanding j b := by
    simp [h,SubscriptionPreConsumeRecord.charge,SubscriptionPreConsumeRecord.recordBucket]
  charge q j b := by
    rw [chargeOf,recordOf_insert h hr]
    by_cases hq : q=r
    · subst q
      simp [chargeOf,hr,BucketOp.request?,SubscriptionPreConsumeRecord.charge,
        SubscriptionPreConsumeRecord.recordBucket]
    · have hq' : r≠q := fun he => hq he.symm
      simp [chargeOf,hq,hq',BucketOp.request?]
  positive id rec hid := by
    rw [h,Table.find?_insert] at hid
    split_ifs at hid
    · obtain rfl := Option.some.inj hid
      exact ha
    · exact hc.positive id rec hid

lemma charge_of_refunded (rec : SubscriptionPreConsumeRecord) (k : ℕ) (b : Bucket) :
    ({ rec with status := .refunded } : SubscriptionPreConsumeRecord).charge k b = 0 := if_neg (by simp)

lemma charge_of_not_refunded {rec : SubscriptionPreConsumeRecord} (h : rec.status≠.refunded) (k : ℕ) (b : Bucket) :
    rec.charge k b = if rec.userSubscriptionId=k ∧ rec.recordBucket=b then rec.preConsumed else 0 := by
  have hs : rec.status = .consumed := by
    cases hst : rec.status with
    | consumed => rfl
    | refunded => exact absurd hst h
  simp [SubscriptionPreConsumeRecord.charge,hs]

lemma callEffect_refunded {s s' : Store} {r : String} {id : ℕ} {rec : SubscriptionPreConsumeRecord} (hc : Covered s)
    (hr : recordOf s r = some (id,rec)) (hst : rec.status≠.refunded)
    (hk : 0 < rec.preConsumed → s.subscriptions.find? rec.userSubscriptionId≠none)
    (h : s'.records = s.records.set id { rec with status := .refunded }) :
    CallEffect (.refund r) s s' [.refunded r rec.userSubscriptionId rec.recordBucket rec.preConsumed]
      (fun j b => -rec.charge j b) where
  used j sub hj b := by
    have hp := hc.positive id rec (recordOf_spec hr).1
    have hle := hc.le_used (recordOf_spec hr).1 hj b
    rw [charge_of_not_refunded hst] at hle ⊢
    by_cases hm : rec.userSubscriptionId=j ∧ rec.recordBucket=b
    · simp only [if_pos hm] at hle ⊢
      simp only [meter_cons,meter_nil,meterEvent,hm,hp,and_self,if_true]
      omega
    · have hm' : ¬(rec.userSubscriptionId=j ∧ rec.recordBucket=b ∧ 0 < rec.preConsumed) :=
        fun he => hm ⟨he.1,he.2.1⟩
      simp [meterEvent,hm,hm']
  missing j b hj := by
    rw [charge_of_not_refunded hst,if_neg]
    · rfl
    · rintro ⟨rfl,-⟩
      exact hk (hc.positive id rec (recordOf_spec hr).1) hj
  outstanding j b := by
    have hsum := Table.sum_set { rec with status := .refunded }
      (fun _ rec => SubscriptionPreConsumeRecord.charge rec j b) (recordOf_spec hr).1
    rw [charge_of_refunded] at hsum
    rw [h]
    omega
  charge q j b := by
    rw [chargeOf,recordOf_refund hr h]
    by_cases hq : q=r
    · subst q
      simp [chargeOf,hr,BucketOp.request?,charge_of_refunded]
    · have hq' : r≠q := fun he => hq he.symm
      simp [chargeOf,hq,hq',BucketOp.request?]
  positive i x hi := by
    rw [h,Table.find?_set] at hi
    split_ifs at hi
    · obtain ⟨y,-,rfl⟩ := Option.map_eq_some_iff.mp hi
      exact hc.positive id rec (recordOf_spec hr).1
    · exact hc.positive i x hi

theorem callEffect_of_step {tz : ℤ} {s s' : Store} {op : BucketOp} {es : List BucketEvent} (hc : Covered s)
    (hop : op.isDelta = false) (h : (bucketSystem tz).step s op = some (s',es)) (hes : ∀ k, .reset k∉es) :
    ∃ δ, CallEffect op s s' es δ := by
  cases bucketStep_records h with
  | kept hrec hev =>
    have hnil : es=[] := by
      rw [List.eq_nil_iff_forall_not_mem]
      intro e he
      rcases hev e he with ⟨k,rfl⟩ | ⟨r,k,name,d,rfl,-⟩
      · exact hes k he
      · simp [BucketOp.isDelta] at hop
    subst es
    refine ⟨fun _ _ => 0,⟨by simp,by simp,by simp [hrec],?_,by simpa [hrec] using hc.positive⟩⟩
    intro r k b
    simp [chargeOf,recordOf_congr hrec]
  | @created now r name u d k a es1 hop hr ha hk hrec hev hres =>
    have hnil : es1=[] := by
      rw [List.eq_nil_iff_forall_not_mem]
      intro e he
      obtain ⟨k,rfl⟩ := hres e he
      exact hes k (by simp [hev,he])
    subst es1 es op
    exact ⟨_,callEffect_created hc hr ha hk hrec⟩
  | @refunded r id rec hop hr hst hk hrec hev =>
    subst es op
    exact ⟨_,callEffect_refunded hc hr hst hk hrec⟩

lemma CallEffect.covered {op : BucketOp} {s s' : Store} {es : List BucketEvent} {δ : ℕ → Bucket → ℤ}
    (h : CallEffect op s s' es δ) (hm : Metered es s s') (hc : Covered s) : Covered s' where
  positive := h.positive
  covered k sub' hk b := by
    obtain ⟨sub,hs,hr⟩ := hm.find? hk
    rw [hr.used,h.used k sub hs,h.outstanding]
    exact add_le_add_left (hc.covered k sub hs b) _

lemma CallEffect.usedOf {op : BucketOp} {s s' : Store} {es : List BucketEvent} {δ : ℕ → Bucket → ℤ}
    (h : CallEffect op s s' es δ) (hm : Metered es s s') (k : ℕ) (b : Bucket) :
    usedOf s' k b = usedOf s k b+δ k b := by
  have hk := hm k
  rw [Tierflow.usedOf,Tierflow.usedOf]
  cases hs : s.subscriptions.find? k with
  | none =>
    rw [hs] at hk
    generalize s'.subscriptions.find? k = o at hk
    cases hk
    simp [h.missing k b hs]
  | some sub =>
    rw [hs] at hk
    generalize s'.subscriptions.find? k = o at hk
    cases hk with
    | some hr => simp [hr.used,h.used k sub hs]

section Run
variable {tz : ℤ} {c : Config Store BucketEvent} {ops : List BucketOp}

theorem always_covered (hc : Covered c.state) (hops : ∀ op∈ops, op.isDelta = false)
    (hres : ∀ k, .reset k∉((bucketSystem tz).run c ops).history) :
    (bucketSystem tz).Always (fun c => Covered c.state) c ops := by
  have hev : ∀ e∈((bucketSystem tz).run c ops).history, ∀ k, e≠.reset k := by
    rintro e he k rfl
    exact hres k he
  refine always_of_guarded hc ?_ ((guarded_of_forall (fun op hop _ => hops op hop)).and (guarded_of_history hev))
  intro d op s' es hd hg h
  obtain ⟨δ,hδ⟩ := callEffect_of_step hd hg.1 h (fun k hk => hg.2 s' es h _ hk k rfl)
  exact hδ.covered (bucketStep_metered h) hd

/-- Over a run without resets, what the calls of a request change is the charge on its record. -/
theorem netChange_eq (hc : Covered c.state) (hops : ∀ op∈ops, op.isDelta = false)
    (hres : ∀ k, .reset k∉((bucketSystem tz).run c ops).history) (r : String) (k : ℕ) (b : Bucket) :
    netChange tz r k b c ops = chargeOf ((bucketSystem tz).run c ops).state r k b-chargeOf c.state r k b := by
  induction ops generalizing c with
  | nil => simp [netChange,run]
  | cons op ops ih =>
    have hd := (always_covered hc hops hres).2.head
    rw [netChange,run,ih hd (fun q hq => hops q (by simp [hq])) hres]
    cases h : (bucketSystem tz).step c.state op with
    | none => simp [exec_of_none h]
    | some o =>
      obtain ⟨s',es⟩ := o
      have he := exec_of_some h
      rw [run,he] at hres
      obtain ⟨δ,hδ⟩ := callEffect_of_step hc (hops op (by simp)) h
        (fun j hj => hres j (history_subset_run _ _ (List.mem_append_left _ hj)))
      rw [he,hδ.usedOf (bucketStep_metered h),hδ.charge]
      split_ifs <;> ring

/-- The record of a request that had none comes from one of the pre-consumptions of the run, with
its amount and its bucket. -/
theorem record_origin {r : String} (hr : recordOf c.state r = none) {id : ℕ} {rec : SubscriptionPreConsumeRecord}
    (h : recordOf ((bucketSystem tz).run c ops).state r = some (id,rec)) :
    ∃ now u name d, .preConsume now r u name rec.preConsumed d∈ops ∧ rec.userId=u ∧
      rec.recordBucket=Bucket.ofName name := by
  have hP : (bucketSystem tz).Always (fun e => ∀ id rec, recordOf e.state r = some (id,rec) →
      ∃ now u name d, .preConsume now r u name rec.preConsumed d∈ops ∧ rec.userId=u ∧
        rec.recordBucket=Bucket.ofName name) c ops := by
    refine always_of_guarded (by simp [hr]) ?_ (guarded_of_forall (G := fun _ op => op∈ops) (fun op hop _ => hop))
    intro e op s' es he hop hstep id rec hid
    cases bucketStep_records hstep with
    | kept hrec _ => exact he id rec (by rw [←hid,recordOf_congr hrec])
    | @created now q name u d k a es1 hq hn ha _ hrec _ _ =>
      rw [recordOf_insert hrec hn] at hid
      by_cases hrq : r=q
      · subst r
        rw [if_pos rfl] at hid
        obtain ⟨rfl,rfl⟩ := Prod.mk.inj (Option.some.inj hid)
        exact ⟨now,u,name,d,by rwa [←hq],rfl,by simp [SubscriptionPreConsumeRecord.recordBucket]⟩
      · rw [if_neg hrq] at hid
        exact he id rec hid
    | @refunded q i x hq hx _ _ hrec _ =>
      rw [recordOf_refund hx hrec] at hid
      by_cases hrq : r=q
      · subst r
        rw [if_pos rfl] at hid
        obtain ⟨rfl,rfl⟩ := Prod.mk.inj (Option.some.inj hid)
        exact he i x hx
      · rw [if_neg hrq] at hid
        exact he id rec hid
  exact hP.last id rec h

end Run

/-- Once a request was refunded its record stays, and no call for it changes any bucket. A refund
takes the recorded amount from the recorded bucket, and touches no other. -/
def RefundedForGood (r : String) (c : Config Store BucketEvent) (op : BucketOp) (d : Config Store BucketEvent) :
    Prop :=
  ∀ id rec, recordOf c.state r = some (id,rec) →
    (rec.status = .refunded → recordOf d.state r = some (id,rec) ∧
      (op.request?=some r → d.state.subscriptions = c.state.subscriptions)) ∧
    (rec.status = .consumed → op = .refund r → d=c ∨
      (recordOf d.state r = some (id,{ rec with status := .refunded }) ∧
        ∀ k b, usedOf d.state k b = usedOf c.state k b-
          if rec.userSubscriptionId=k ∧ rec.recordBucket=b then rec.preConsumed else 0))

/-- A call for a refunded request writes no subscription. -/
lemma refunded_call {tz : ℤ} {s s' : Store} {op : BucketOp} {es : List BucketEvent} {r : String} {id : ℕ}
    {rec : SubscriptionPreConsumeRecord} (hr : recordOf s r = some (id,rec)) (hst : rec.status = .refunded)
    (hop : op.request?=some r) (h : (bucketSystem tz).step s op = some (s',es)) :
    s'.subscriptions = s.subscriptions := by
  cases op with
  | preConsume now q u name a d =>
    obtain rfl : q=r := Option.some.inj hop
    obtain ⟨o,ho,-⟩ := Option.map_eq_some_iff.mp h
    rcases preConsume_cases (toOption_eq_some.mp ho) with ⟨i,x,hx,hn,-⟩ | ⟨hx,-⟩
    · obtain ⟨rfl,rfl⟩ := Prod.mk.inj (Option.some.inj (hr.symm.trans hx))
      exact absurd hst hn
    · rw [hr] at hx
      contradiction
  | refund q =>
    obtain rfl : q=r := Option.some.inj hop
    obtain ⟨-,i,x,hx,⟨-,ho⟩ | ⟨hn,-⟩⟩ := refund_cases (toOption_eq_some.mp h)
    · rw [(Prod.mk.inj ho).1]
    · obtain ⟨rfl,rfl⟩ := Prod.mk.inj (Option.some.inj (hr.symm.trans hx))
      exact absurd hst hn
  | postConsumeDelta q k name d => simp [BucketOp.request?] at hop
  | resetDue k plan now => simp [BucketOp.request?] at hop
  | catalogue plans cache => simp [BucketOp.request?] at hop

theorem refundedForGood_step {tz : ℤ} {c : Config Store BucketEvent} {op : BucketOp} {s' : Store}
    {es : List BucketEvent} (r : String) (hc : Covered c.state)
    (h : (bucketSystem tz).step c.state op = some (s',es)) : RefundedForGood r c op ⟨s',es++c.history⟩ := by
  intro id rec hr
  obtain ⟨rec',hr',hkeep⟩ := (bucketStep_records h).mono hr
  refine ⟨fun hst => ⟨by rw [hr',hkeep hst],fun hop => refunded_call hr hst hop h⟩,?_⟩
  rintro hst rfl
  right
  have hm := bucketStep_metered h
  obtain ⟨-,i,x,hx,⟨hn,-⟩ | ⟨hn,s1,h1,ho⟩⟩ := refund_cases (toOption_eq_some.mp h)
  · obtain ⟨rfl,rfl⟩ := Prod.mk.inj (Option.some.inj (hr.symm.trans hx))
    rw [hst] at hn
    contradiction
  · obtain ⟨rfl,rfl⟩ := Prod.mk.inj (Option.some.inj (hr.symm.trans hx))
    obtain ⟨rfl,rfl⟩ := Prod.mk.inj ho
    cases bucketStep_records h with
    | kept _ hev => simp at hev
    | created hop => contradiction
    | @refunded q j y hop hy hyn hrow hrec hev =>
      obtain rfl : q=r := (BucketOp.refund.inj hop).symm
      obtain ⟨rfl,rfl⟩ := Prod.mk.inj (Option.some.inj (hr.symm.trans hy))
      refine ⟨by rw [recordOf_refund hr hrec,if_pos rfl],?_⟩
      intro k b
      have hδ := callEffect_refunded hc hr hn hrow hrec
      rw [hδ.usedOf hm,charge_of_not_refunded hn]
      ring

/-- A request that starts without a record: over any number of pre-consumptions and refunds, for
this request and for others, without resets, the calls of the request change exactly the recorded
bucket by the one recorded amount if the request was not refunded, and nothing otherwise. -/
theorem preConsume_refund_idempotent (tz : ℤ) (s : Store) (hs : Covered s) (r : String)
    (hr : recordOf s r = none) (ops : List BucketOp) (hops : ∀ op∈ops, op.isDelta = false)
    (hres : ∀ k, .reset k∉((bucketSystem tz).run ⟨s,[]⟩ ops).history) :
    (match recordOf ((bucketSystem tz).run ⟨s,[]⟩ ops).state r with
      | none => ∀ k b, netChange tz r k b ⟨s,[]⟩ ops = 0
      | some (_,rec) =>
        (∃ now u name d, .preConsume now r u name rec.preConsumed d∈ops ∧ rec.userId=u ∧
          rec.recordBucket=Bucket.ofName name) ∧
        ∀ k b, netChange tz r k b ⟨s,[]⟩ ops =
          if rec.status = .consumed ∧ rec.userSubscriptionId=k ∧ rec.recordBucket=b then rec.preConsumed
          else 0) ∧
    (bucketSystem tz).Transitions (RefundedForGood r) ⟨s,[]⟩ ops := by
  have hnet := netChange_eq (c := ⟨s,[]⟩) hs hops hres r
  have hstart : ∀ k b, chargeOf s r k b = 0 := by simp [chargeOf,hr]
  constructor
  · cases hf : recordOf ((bucketSystem tz).run ⟨s,[]⟩ ops).state r with
    | none =>
      intro k b
      simp [hnet,chargeOf,hf,hr]
    | some x =>
      obtain ⟨id,rec⟩ := x
      refine ⟨record_origin (c := ⟨s,[]⟩) hr hf,?_⟩
      intro k b
      rw [hnet,hstart,sub_zero,chargeOf,hf]
      rfl
  · refine transitions_of_step (always_covered hs hops hres) ?_ (fun d op s' es hd h => refundedForGood_step r hd h)
    intro d op _ _ id rec hid
    exact ⟨fun _ => ⟨hid,fun _ => rfl⟩,fun _ _ => .inl rfl⟩

/-- A request that is retried, refunded and retried again, with another request in between. -/
def retriedCalls : List BucketOp :=
  [.preConsume 2 "a" 1 "premium" 40 0,.preConsume 3 "a" 1 "basic" 9 0,.preConsume 4 "b" 1 "premium" 10 0,
    .refund "a",.refund "a",.preConsume 5 "a" 1 "premium" 40 0]

theorem retriedCalls_idempotent :
    (match recordOf ((bucketSystem 0).run ⟨meteredStore,[]⟩ retriedCalls).state "a" with
      | none => ∀ k b, netChange 0 "a" k b ⟨meteredStore,[]⟩ retriedCalls = 0
      | some (_,rec) =>
        (∃ now u name d, .preConsume now "a" u name rec.preConsumed d∈retriedCalls ∧ rec.userId=u ∧
          rec.recordBucket=Bucket.ofName name) ∧
        ∀ k b, netChange 0 "a" k b ⟨meteredStore,[]⟩ retriedCalls =
          if rec.status = .consumed ∧ rec.userSubscriptionId=k ∧ rec.recordBucket=b then rec.preConsumed
          else 0) ∧
    (bucketSystem 0).Transitions (RefundedForGood "a") ⟨meteredStore,[]⟩ retriedCalls := by
  have hist : ((bucketSystem 0).run ⟨meteredStore,[]⟩ retriedCalls).history =
      [.refunded "a" 1 .premium 40,.consumed "b" 1 .premium 10,.consumed "a" 1 .premium 40] := by decide
  exact preConsume_refund_idempotent 0 meteredStore
    (covered_of_no_records rfl (fun k sub hk b => (meteredStore_unused hk b).ge)) "a" rfl retriedCalls
    (by decide) (by simp [hist])

end Tierflow
