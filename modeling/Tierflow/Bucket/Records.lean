import Tierflow.Bucket.Meter

/-! Pre-consume records: what the operations do to the record of each request. -/
namespace Tierflow

lemma recordOf_spec {s : Store} {r : String} {id : ℕ} {rec : SubscriptionPreConsumeRecord}
    (h : recordOf s r = some (id,rec)) : s.records.find? id = some rec ∧ rec.requestId=r := by
  obtain ⟨hf,hp⟩ := Table.first?_some h
  exact ⟨hf,by simpa using hp⟩

lemma recordOf_congr {s s' : Store} (h : s'.records = s.records) (r : String) : recordOf s' r = recordOf s r := by
  rw [recordOf,recordOf,h]

/-- A new record answers for its own request and for no other. -/
lemma recordOf_insert {s s' : Store} {a : SubscriptionPreConsumeRecord} (h : s'.records = s.records.insert a)
    (hn : recordOf s a.requestId = none) (r : String) :
    recordOf s' r = if r=a.requestId then some (s.records.next,a) else recordOf s r := by
  rw [recordOf,h,Table.first?_insert]
  by_cases hr : r=a.requestId
  · subst r
    rw [recordOf] at hn
    simp [hn]
  · have hr' : a.requestId≠r := fun he => hr he.symm
    simp [hr,hr',recordOf]

/-- Marking the record of one request as refunded leaves the records of all others. -/
lemma recordOf_refund {s s' : Store} {id : ℕ} {q r : String} {rec : SubscriptionPreConsumeRecord}
    (hq : recordOf s q = some (id,rec))
    (h : s'.records = s.records.set id { rec with status := .refunded }) :
    recordOf s' r = if r=q then some (id,{ rec with status := .refunded }) else recordOf s r := by
  obtain ⟨hf,hrq⟩ := recordOf_spec hq
  have hset : recordOf s' r =
      (recordOf s r).map (fun x => if x.1=id then (id,{ rec with status := .refunded }) else x) := by
    rw [recordOf,h]
    exact Table.first?_set hf rfl
  by_cases hr : r=q
  · subst r
    simp [hset,hq]
  · rw [hset,if_neg hr]
    cases hs : recordOf s r with
    | none => rfl
    | some x =>
      obtain ⟨i,y⟩ := x
      have hi : i≠id := by
        rintro rfl
        obtain ⟨hyf,hyr⟩ := recordOf_spec hs
        rw [hf] at hyf
        exact hr (by rw [←hyr,←Option.some.inj hyf,hrq])
      simp [hi]

/-- The three things that a committed operation can do to the records. -/
inductive RecordStep (op : BucketOp) (s s' : Store) (es : List BucketEvent) : Prop
  | kept (records : s'.records = s.records)
      (events : ∀ e∈es, (∃ k, e = .reset k) ∨
        ∃ r k name d, op = .postConsumeDelta r k name d ∧ e = .adjusted r k (Bucket.ofName name) d)
  | created {now : ℤ} {r name : String} {u d k : ℕ} {a : ℤ} {es1 : List BucketEvent}
      (isOp : op = .preConsume now r u name a d) (fresh : recordOf s r = none) (pos : 0<a)
      (row : s.subscriptions.find? k≠none)
      (records : s'.records = s.records.insert ⟨r,u,k,a,(Bucket.ofName name).name,.consumed⟩)
      (events : es = .consumed r k (Bucket.ofName name) a::es1) (resets : ∀ e∈es1, ∃ k, e = .reset k)
  | refunded {r : String} {id : ℕ} {rec : SubscriptionPreConsumeRecord} (isOp : op = .refund r)
      (old : recordOf s r = some (id,rec)) (consumed : rec.status≠.refunded)
      (row : 0 < rec.preConsumed → s.subscriptions.find? rec.userSubscriptionId≠none)
      (records : s'.records = s.records.set id { rec with status := .refunded })
      (events : es = [.refunded r rec.userSubscriptionId rec.recordBucket rec.preConsumed])

lemma postConsumeDeltaTx_records {s s' : Store} {k : ℕ} {b : Bucket} {d : ℤ}
    (h : postConsumeUserSubscriptionDeltaTx s k b d = .ok s') : s'.records = s.records := by
  rcases postConsumeDeltaTx_cases h with ⟨-,rfl⟩ | ⟨-,_,-,-,rfl⟩ <;> rfl

theorem bucketStep_records {tz : ℤ} {s s' : Store} {op : BucketOp} {es : List BucketEvent}
    (h : (bucketSystem tz).step s op = some (s',es)) : RecordStep op s s' es := by
  cases op with
  | preConsume now r u name a d =>
    obtain ⟨o,ho,heq⟩ := Option.map_eq_some_iff.mp h
    obtain ⟨rfl,rfl⟩ := Prod.mk.inj heq
    rcases preConsume_cases (toOption_eq_some.mp ho) with ⟨_,_,_,_,h1,h2⟩ | ⟨hr,_,ha,s1,es1,k,sub,hd,hk,_,h1,h2,-⟩
    · exact .kept (by rw [h1]) (by simp [h2])
    · obtain ⟨sub0,hs,-⟩ := hd.metered.find? hk
      exact .created (k := k) rfl hr ha (by simp [hs]) (by rw [h1,chargeCandidate,hd.records]) h2 hd.events
  | postConsumeDelta r k name d =>
    obtain ⟨o,ho,heq⟩ := Option.map_eq_some_iff.mp h
    obtain ⟨rfl,rfl⟩ := Prod.mk.inj heq
    exact .kept (postConsumeDeltaTx_records (toOption_eq_some.mp ho)) (by simp)
  | refund r =>
    obtain ⟨-,id,rec,hrec,⟨-,ho⟩ | ⟨hst,s1,h1,ho⟩⟩ := refund_cases (toOption_eq_some.mp h)
    · obtain ⟨rfl,rfl⟩ := Prod.mk.inj ho
      exact .kept rfl (by simp)
    · obtain ⟨rfl,rfl⟩ := Prod.mk.inj ho
      have hs1 : s1.records = s.records := by
        rcases h1 with ⟨-,rfl⟩ | ⟨-,h1⟩
        · rfl
        · exact postConsumeDeltaTx_records h1
      refine .refunded rfl hrec hst ?_ (by rw [hs1]) rfl
      intro hp
      rcases h1 with ⟨hn,-⟩ | ⟨-,h1⟩
      · omega
      · rcases postConsumeDeltaTx_cases h1 with ⟨hz,-⟩ | ⟨-,sub,hs,-⟩
        · omega
        · simp [hs]
  | resetDue k plan now =>
    have hd := resetDue_cases h
    exact .kept hd.records (fun e he => .inl (hd.events e he))
  | catalogue plans cache =>
    obtain ⟨rfl,rfl⟩ := Prod.mk.inj (Option.some.inj h)
    exact .kept rfl (by simp)

/-- Records never disappear, and a refunded record stays as it is. -/
theorem RecordStep.mono {op : BucketOp} {s s' : Store} {es : List BucketEvent} (h : RecordStep op s s' es)
    {r : String} {id : ℕ} {rec : SubscriptionPreConsumeRecord} (hr : recordOf s r = some (id,rec)) :
    ∃ rec', recordOf s' r = some (id,rec') ∧ (rec.status = .refunded → rec'=rec) := by
  cases h with
  | kept hrec _ => exact ⟨rec,by rw [recordOf_congr hrec,hr],fun _ => rfl⟩
  | @created now q name u d k a es1 hop hq ha _ hrec hes _ =>
    refine ⟨rec,?_,fun _ => rfl⟩
    have hne : r≠q := by
      rintro rfl
      rw [hr] at hq
      contradiction
    rw [recordOf_insert hrec hq,if_neg hne,hr]
  | @refunded q i x hop hq hx _ hrec hes =>
    by_cases hrq : r=q
    · subst r
      obtain ⟨rfl,rfl⟩ := Prod.mk.inj (Option.some.inj (hr.symm.trans hq))
      exact ⟨_,by rw [recordOf_refund hq hrec,if_pos rfl],fun h => absurd h hx⟩
    · exact ⟨rec,by rw [recordOf_refund hq hrec,if_neg hrq,hr],fun _ => rfl⟩

end Tierflow
