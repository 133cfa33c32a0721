import Tierflow.Billing.Conservation

/-! Atomicity of a pre-consumption and of a reservation. A call one of whose steps fails returns an
error, and once its compensating steps are through, every token, wallet and bucket is back at
what it was. -/
namespace Tierflow

/-- What the operator of a token, a wallet or a bucket can see of it. -/
def remainQuota (s : Store) (id : ℕ) : Option ℤ := (s.tokens.find? id).map Token.remainQuota

def walletQuota (s : Store) (id : ℕ) : Option ℤ := (s.users.find? id).map User.quota

def storedBalance (s : Store) (id : ℕ) (b : Bucket) : Option (ℤ × ℤ) :=
  (s.subscriptions.find? id).map (fun sub => bucketBalance sub b)

/-- All balances are the same in both stores. -/
structure SameBalances (s s' : Store) : Prop where
  remainQuota : ∀ id, remainQuota s' id = remainQuota s id
  walletQuota : ∀ id, walletQuota s' id = walletQuota s id
  storedBalance : ∀ id b, storedBalance s' id b = storedBalance s id b

namespace SameBalances

lemma of_eq {s s' : Store} (h : s'=s) : SameBalances s s' := by
  subst h
  exact ⟨fun _ => rfl,fun _ => rfl,fun _ _ => rfl⟩

end SameBalances

/-! ## A step and its compensation -/

section Cancel
variable {s s1 s' : Store} {n : ℤ}

lemma token_cancel {id : ℕ} (hd : decreaseTokenQuota s id n = .ok s1) (hi : increaseTokenQuota s1 id n = .ok s') :
    SameBalances s s' := by
  rw [increaseTokenQuota_ok hi,decreaseTokenQuota_ok hd]
  constructor
  · intro k
    by_cases hk : k=id
    · simp [remainQuota,hk,Function.comp_def]
    · simp [remainQuota,hk]
  · exact fun _ => rfl
  · exact fun _ _ => rfl

lemma wallet_cancel {id : ℕ} (hd : decreaseUserQuota s id n = .ok s1) (hi : increaseUserQuota s1 id n = .ok s') :
    SameBalances s s' := by
  rw [increaseUserQuota_ok hi,decreaseUserQuota_ok hd]
  constructor
  · exact fun _ => rfl
  · intro k
    by_cases hk : k=id
    · simp [walletQuota,hk,Function.comp_def]
    · simp [walletQuota,hk]
  · exact fun _ _ => rfl

/-- A delta and its opposite cancel, as neither is clamped in a bucket of no negative usage. -/
lemma delta_cancel {id : ℕ} {b : Bucket} (hused : ∀ sub, s.subscriptions.find? id = some sub → 0 ≤ sub.used b)
    (hn : 0≤n) (hd : postConsumeUserSubscriptionDeltaTx s id b n = .ok s1)
    (hi : postConsumeUserSubscriptionDeltaTx s1 id b (-n) = .ok s') : SameBalances s s' := by
  rcases postConsumeDeltaTx_cases hd with ⟨h0,rfl⟩ | ⟨h0,sub,hsub,-,rfl⟩
  · rcases postConsumeDeltaTx_cases hi with ⟨-,h⟩ | ⟨h1,-⟩
    · exact .of_eq h
    · exact absurd (neg_eq_zero.mpr h0) h1
  · rcases postConsumeDeltaTx_cases hi with ⟨h1,-⟩ | ⟨-,sub1,hsub1,-,rfl⟩
    · exact absurd (neg_eq_zero.mp h1) h0
    · obtain rfl : sub.setUsed (clampedUsed sub b n) b = sub1 := by
        simpa [Table.find?_set,hsub] using hsub1
      have hu := hused sub hsub
      constructor
      · exact fun _ => rfl
      · exact fun _ => rfl
      · intro k c
        by_cases hk : k=id
        · subst hk
          by_cases hc : c=b
          · simp [storedBalance,bucketBalance,Table.find?_set,hsub,hc,clampedUsed]
            omega
          · simp [storedBalance,bucketBalance,Table.find?_set,hsub,hc]
        · simp [storedBalance,Table.find?_set,hk]

end Cancel

/-! ## The two calls -/

/-- A funding source that refuses leaves the store alone, one that accepts logs nothing. -/
lemma FundingSource.preConsume_cases {env : BillingEnv} {f : FundingSource} {n : ℤ} {d d' : Desk}
    {r : Except TxError FundingSource} (h : f.preConsume env n d = (d',r)) :
    (∃ e, r=.error e ∧ d'.store=d.store ∧ d'.log=.failed .preConsumeFunding::d.log) ∨
      ((∃ f', r=.ok f') ∧ d'.log=d.log) := by
  cases f with
  | wallet u c =>
    rw [FundingSource.preConsume] at h
    by_cases hn : n≤0
    · rw [if_pos hn] at h
      obtain ⟨rfl,rfl⟩ := Prod.mk.inj h
      exact .inr ⟨⟨_,rfl⟩,rfl⟩
    · rw [if_neg hn] at h
      cases ha : d.attempt .preConsumeFunding (fun s => decreaseUserQuota s u n) with
      | mk d1 r1 =>
        rw [ha] at h
        rcases Desk.attempt_cases ha with ⟨e,rfl,hs,hl⟩ | ⟨rfl,-,hl⟩
        · obtain ⟨rfl,rfl⟩ := Prod.mk.inj h
          exact .inl ⟨e,rfl,hs,hl⟩
        · obtain ⟨rfl,rfl⟩ := Prod.mk.inj h
          exact .inr ⟨⟨_,rfl⟩,hl⟩
  | subscription sf =>
    rw [FundingSource.preConsume] at h
    cases ha : d.attempts 0 .preConsumeFunding (fun s =>
        (preConsumeUserSubscription env.timeZone s env.now sf.requestId sf.userId sf.bucket.name sf.amount
          sf.targetSubscriptionId).map (fun o => (o.1,o.2.2))) with
    | mk d1 r1 =>
      rw [ha] at h
      rcases Desk.attempts_cases ha with ⟨e,rfl,hs,hl⟩ | ⟨res,rfl,-,hl⟩
      · obtain ⟨rfl,rfl⟩ := Prod.mk.inj h
        exact .inl ⟨e,rfl,hs,hl⟩
      · obtain ⟨rfl,rfl⟩ := Prod.mk.inj h
        exact .inr ⟨⟨_,rfl⟩,hl⟩

/-- The bucket that a subscription session has charged counts no negative usage. -/
def FundingSource.UsageNonneg (f : FundingSource) (s : Store) : Prop :=
  ∀ sf, f = .subscription sf → ∀ sub, s.subscriptions.find? sf.subscriptionId = some sub → 0 ≤ sub.used sf.bucket

/-- All operations on buckets keep them bounded. -/
lemma FundingSource.usageNonneg_of_bounded {f : FundingSource} {s : Store} (h : BucketBounded s) : f.UsageNonneg s :=
  fun sf _ sub hsub => (h sf.subscriptionId sub hsub sf.bucket).1

/-- A refused reservation leaves the store alone, an accepted one logs nothing and is undone by its
rollback. -/
lemma FundingSource.reserve_rollback {f : FundingSource} {n : ℤ} {d d1 : Desk} {r : Except TxError FundingSource}
    (hused : f.UsageNonneg d.store) (hn : 0≤n) (h : f.reserve n d = (d1,r)) :
    (∃ e, r=.error e ∧ d1.store=d.store) ∨
      ∃ f', r=.ok f' ∧ d1.log=d.log ∧ ∀ d2 : Desk, d2.store=d1.store →
        .failed .rollbackFunding∉(f'.rollbackReserve n d2).1.log →
        SameBalances d.store (f'.rollbackReserve n d2).1.store := by
  cases f with
  | wallet u c =>
    rw [FundingSource.reserve] at h
    cases ha : d.attempt .reserveFunding (fun s => decreaseUserQuota s u n) with
    | mk d1 r1 =>
    rw [ha] at h
    rcases Desk.attempt_cases ha with ⟨e,rfl,hs,-⟩ | ⟨rfl,hs,hl⟩
    · obtain ⟨rfl,rfl⟩ := Prod.mk.inj h
      exact .inl ⟨e,rfl,hs⟩
    · obtain ⟨rfl,rfl⟩ := Prod.mk.inj h
      refine .inr ⟨_,rfl,hl,?_⟩
      intro d2 hd2 hcomp
      rw [FundingSource.rollbackReserve] at hcomp ⊢
      cases hb : d2.attempt .rollbackFunding (fun s => increaseUserQuota s u n) with
      | mk d3 r3 =>
      rw [hb] at hcomp
      rcases Desk.attempt_cases hb with ⟨e,rfl,-,hl3⟩ | ⟨rfl,hs3,-⟩
      · exact absurd (hl3 ▸ List.mem_cons_self) hcomp
      · rw [hd2] at hs3
        exact wallet_cancel hs hs3
  | subscription sf =>
    rw [FundingSource.reserve] at h
    cases ha : d.attempt .reserveFunding
        (fun s => postConsumeUserSubscriptionDelta s sf.subscriptionId sf.bucket.name n) with
    | mk d1 r1 =>
    rw [ha] at h
    rcases Desk.attempt_cases ha with ⟨e,rfl,hs,-⟩ | ⟨rfl,hs,hl⟩
    · obtain ⟨rfl,rfl⟩ := Prod.mk.inj h
      exact .inl ⟨e,rfl,hs⟩
    · obtain ⟨rfl,rfl⟩ := Prod.mk.inj h
      refine .inr ⟨_,rfl,hl,?_⟩
      intro d2 hd2 hcomp
      rw [FundingSource.rollbackReserve] at hcomp ⊢
      rcases Desk.attempt_cases (Prod.eta _).symm with ⟨e,-,-,hl3⟩ | ⟨-,hs3,-⟩
      · exact absurd (hl3 ▸ List.mem_cons_self) hcomp
      · rw [hd2] at hs3
        rw [postConsumeUserSubscriptionDelta,Bucket.ofName_name] at hs hs3
        exact delta_cancel (hused sf rfl) hn hs hs3

section Calls
variable {env : BillingEnv} {b : BillingSession} {s : Store} {faults : List Bool}

theorem preConsume_atomic {quota : ℤ} {d : Desk} {r : Except BillingError BillingSession}
    (h : b.preConsume env quota ⟨s,faults,[]⟩ = (d,r)) (hfail : ∃ op, .failed op∈d.log)
    (hcomp : .failed .rollbackToken∉d.log) : (∃ e, r = .error e) ∧ SameBalances s d.store := by
  unfold BillingSession.preConsume at h
  dsimp only at h
  generalize (if b.shouldTrust env = true then 0 else quota) = m at h
  cases ht : (if 0 < m then Desk.attempt ⟨s,faults,[]⟩ .preConsumeToken (preConsumeTokenQuota b.relayInfo m)
      else (⟨s,faults,[]⟩,.ok ())) with
  | mk d1 r1 =>
  rw [ht] at h
  -- the token: charged with `m`, or not at all
  have htoken : (∃ e, r1 = .error e ∧ d1.store = s) ∨ r1 = .ok () ∧ d1.log = [] ∧
      (0 < m → decreaseTokenQuota s b.relayInfo.tokenId m = .ok d1.store) ∧ (¬0 < m → d1.store = s) := by
    by_cases hm : 0 < m
    · rw [if_pos hm] at ht
      rcases Desk.attempt_cases ht with ⟨e,hr,hs,-⟩ | ⟨hr,hs,hl⟩
      · exact .inl ⟨e,hr,hs⟩
      · exact .inr ⟨hr,hl,fun _ => preConsumeTokenQuota_ok hs,fun hn => absurd hm hn⟩
    · rw [if_neg hm] at ht
      obtain ⟨rfl,rfl⟩ := Prod.mk.inj ht
      exact .inr ⟨rfl,rfl,fun hp => absurd hp hm,fun _ => rfl⟩
  rcases htoken with ⟨e,rfl,hs⟩ | ⟨rfl,hl,hpos,hzero⟩
  · obtain ⟨rfl,rfl⟩ := Prod.mk.inj h
    exact ⟨⟨_,rfl⟩,.of_eq hs⟩
  dsimp only at h
  cases hf : b.funding.preConsume env m d1 with
  | mk d2 r2 =>
  rw [hf] at h
  rcases FundingSource.preConsume_cases hf with ⟨e,rfl,hs2,hl2⟩ | ⟨⟨f,rfl⟩,hl2⟩
  · obtain ⟨hd,rfl⟩ := Prod.mk.inj h
    refine ⟨⟨_,rfl⟩,?_⟩
    by_cases hm : 0 < m
    · simp only [if_pos hm] at hd
      rcases Desk.attempt_cases (Prod.eta _).symm with ⟨e,-,-,hl3⟩ | ⟨-,hs3,-⟩
      · rw [hd] at hl3
        exact absurd (hl3 ▸ List.mem_cons_self) hcomp
      · rw [hd,hs2] at hs3
        exact token_cancel (hpos hm) hs3
    · simp only [if_neg hm,lt_irrefl,if_false] at hd
      exact .of_eq (by rw [←hd,hs2,hzero hm])
  · -- both sides went through, and nothing was logged
    obtain ⟨rfl,-⟩ := Prod.mk.inj h
    obtain ⟨op,hop⟩ := hfail
    rw [hl2,hl] at hop
    exact absurd hop (List.not_mem_nil)

theorem reserve_atomic {target : ℤ} {d : Desk} {b' : BillingSession} {r : Except TxError Unit}
    (hused : b.funding.UsageNonneg s) (h : b.reserve env target ⟨s,faults,[]⟩ = (d,b',r))
    (hfail : ∃ op, .failed op∈d.log) (hcomp : .failed .rollbackFunding∉d.log) :
    (∃ e, r = .error e) ∧ SameBalances s d.store := by
  have hquiet : d.log ≠ [] := by
    obtain ⟨op,hop⟩ := hfail
    exact List.ne_nil_of_mem hop
  unfold BillingSession.reserve at h
  by_cases happ : env.applianceMode = true
  · rw [if_pos happ] at h
    obtain ⟨rfl,-⟩ := triple_inj h
    exact absurd rfl hquiet
  rw [if_neg happ] at h
  by_cases hskip : b.settled = true ∨ b.refunded = true ∨ b.trusted = true ∨ target≤b.preConsumedQuota
  · rw [if_pos hskip] at h
    obtain ⟨rfl,-⟩ := triple_inj h
    exact absurd rfl hquiet
  rw [if_neg hskip] at h
  have hn : 0≤target-b.preConsumedQuota := by
    by_contra hlt
    exact hskip (.inr (.inr (.inr (by omega))))
  dsimp only at h
  cases hf : b.funding.reserve (target-b.preConsumedQuota) ⟨s,faults,[]⟩ with
  | mk d1 r1 =>
  rw [hf] at h
  rcases FundingSource.reserve_rollback hused hn hf with ⟨e,rfl,hs⟩ | ⟨f,rfl,hl,hback⟩
  · obtain ⟨rfl,-,rfl⟩ := triple_inj h
    exact ⟨⟨_,rfl⟩,.of_eq hs⟩
  dsimp only at h
  cases ht : d1.attempt .reserveToken (preConsumeTokenQuota b.relayInfo (target-b.preConsumedQuota)) with
  | mk d2 r2 =>
  rw [ht] at h
  rcases Desk.attempt_cases ht with ⟨e,rfl,hs2,-⟩ | ⟨rfl,-,hl2⟩
  · obtain ⟨rfl,-,rfl⟩ := triple_inj h
    exact ⟨⟨_,rfl⟩,hback d2 hs2 hcomp⟩
  · obtain ⟨rfl,-⟩ := triple_inj h
    exact absurd (hl2.trans hl) hquiet

end Calls

end Tierflow
