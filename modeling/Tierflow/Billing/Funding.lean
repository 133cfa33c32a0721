import Tierflow.Billing.Session
import Tierflow.Bucket.Records

/-! What the single operations of a session do to the account of its funding source and to its
token: a failed operation changes nothing, a successful one moves exactly its amount. -/
namespace Tierflow

lemma triple_inj {α β γ : Type*} {a a' : α} {b b' : β} {c c' : γ} (h : (a,b,c)=(a',b',c')) :
    a=a' ∧ b=b' ∧ c=c' := by simpa using h

namespace Desk
universe u
variable {α : Type u} {d d' : Desk} {op : SessionOp}

lemma tryOnce_cases {f : Store → Except TxError (Store × α)} {r : Except TxError α} (h : d.tryOnce f = (d',r)) :
    d'.log=d.log ∧ ((∃ e, r=.error e ∧ d'.store=d.store) ∨ ∃ a, r=.ok a ∧ f d.store=.ok (d'.store,a)) := by
  unfold tryOnce at h
  by_cases hf : d.faults.headD false = true
  · rw [if_pos hf] at h
    obtain ⟨rfl,rfl⟩ := Prod.mk.inj h
    exact ⟨rfl,.inl ⟨_,rfl,rfl⟩⟩
  · rw [if_neg hf] at h
    cases hs : f d.store with
    | error e =>
      rw [hs] at h
      obtain ⟨rfl,rfl⟩ := Prod.mk.inj h
      exact ⟨rfl,.inl ⟨_,rfl,rfl⟩⟩
    | ok o =>
      rw [hs] at h
      obtain ⟨rfl,rfl⟩ := Prod.mk.inj h
      exact ⟨rfl,.inr ⟨_,rfl,rfl⟩⟩

/-- Retries act on the store that the failed tries left as it was. -/
lemma retry_cases {f : Store → Except TxError (Store × α)} {n : ℕ} {r : Except TxError α}
    (h : d.retry f n = (d',r)) :
    d'.log=d.log ∧ ((∃ e, r=.error e ∧ d'.store=d.store) ∨ ∃ a, r=.ok a ∧ f d.store=.ok (d'.store,a)) := by
  induction n generalizing d with
  | zero => exact tryOnce_cases h
  | succ n ih =>
    rw [retry] at h
    cases ht : d.tryOnce f with
    | mk d1 r1 =>
      rw [ht] at h
      obtain ⟨hlog,⟨e,rfl,hs⟩ | ⟨a,rfl,hs⟩⟩ := tryOnce_cases ht
      · obtain ⟨hlog',hc⟩ := ih h
        rw [hlog,hs] at *
        exact ⟨hlog',hc⟩
      · obtain ⟨rfl,rfl⟩ := Prod.mk.inj h
        exact ⟨hlog,.inr ⟨a,rfl,hs⟩⟩

/-- An operation either fails without effect, and that is logged, or takes effect. -/
theorem attempts_cases {f : Store → Except TxError (Store × α)} {n : ℕ} {r : Except TxError α}
    (h : d.attempts n op f = (d',r)) :
    (∃ e, r=.error e ∧ d'.store=d.store ∧ d'.log=.failed op::d.log) ∨
      ∃ a, r=.ok a ∧ f d.store=.ok (d'.store,a) ∧ d'.log=d.log := by
  unfold attempts at h
  cases hr : d.retry f n with
  | mk d1 r1 =>
    rw [hr] at h
    obtain ⟨hlog,⟨e,rfl,hs⟩ | ⟨a,rfl,hs⟩⟩ := retry_cases hr
    · obtain ⟨rfl,rfl⟩ := Prod.mk.inj h
      exact .inl ⟨e,rfl,hs,by rw [note,hlog]⟩
    · obtain ⟨rfl,rfl⟩ := Prod.mk.inj h
      exact .inr ⟨a,rfl,hs,hlog⟩

lemma attempts_unit_cases {f : Store → Except TxError Store} {n : ℕ} {r : Except TxError Unit}
    (h : d.attempts n op (fun s => (f s).map (fun s' => (s',()))) = (d',r)) :
    (∃ e, r=.error e ∧ d'.store=d.store ∧ d'.log=.failed op::d.log) ∨
      (r=.ok () ∧ f d.store=.ok d'.store ∧ d'.log=d.log) := by
  rcases attempts_cases h with hf | ⟨a,rfl,hs,hlog⟩
  · exact .inl hf
  · cases hf : f d.store with
    | error e => simp [hf,Except.map] at hs
    | ok s =>
      simp only [hf,Except.map,Except.ok.injEq,Prod.mk.injEq] at hs
      exact .inr ⟨rfl,by rw [hs.1],hlog⟩

theorem attempt_cases {f : Store → Except TxError Store} {r : Except TxError Unit}
    (h : d.attempt op f = (d',r)) :
    (∃ e, r=.error e ∧ d'.store=d.store ∧ d'.log=.failed op::d.log) ∨
      (r=.ok () ∧ f d.store=.ok d'.store ∧ d'.log=d.log) := attempts_unit_cases h

theorem attemptRefund_cases {f : Store → Except TxError Store} {r : Except TxError Unit}
    (h : d.attemptRefund op f = (d',r)) :
    (∃ e, r=.error e ∧ d'.store=d.store ∧ d'.log=.failed op::d.log) ∨
      (r=.ok () ∧ f d.store=.ok d'.store ∧ d'.log=d.log) := attempts_unit_cases h

end Desk

/-- The stores differ in nothing but tokens. -/
structure TokenOnly (s s' : Store) : Prop where
  users : s'.users = s.users
  subscriptions : s'.subscriptions = s.subscriptions
  records : s'.records = s.records

lemma increaseTokenQuota_only {s s' : Store} {id : ℕ} {n : ℤ} (h : increaseTokenQuota s id n = .ok s') :
    TokenOnly s s' := by
  rw [increaseTokenQuota_ok h]
  exact ⟨rfl,rfl,rfl⟩

lemma decreaseTokenQuota_only {s s' : Store} {id : ℕ} {n : ℤ} (h : decreaseTokenQuota s id n = .ok s') :
    TokenOnly s s' := by
  rw [decreaseTokenQuota_ok h]
  exact ⟨rfl,rfl,rfl⟩

lemma preConsumeTokenQuota_ok {info : RelayInfo} {n : ℤ} {s s' : Store}
    (h : preConsumeTokenQuota info n s = .ok s') : decreaseTokenQuota s info.tokenId n = .ok s' := by
  obtain ⟨_,-,h⟩ := bind_eq_ok.mp h
  obtain ⟨_,-,h⟩ := bind_eq_ok.mp h
  obtain ⟨_,-,h⟩ := bind_eq_ok.mp h
  exact h

namespace FundingSource

/-- What has been spent from a source, up to a constant: minus the quota of the wallet, or the used
amount of the bucket. -/
def spent (f : FundingSource) (s : Store) : Option ℤ :=
  match f with
  | .wallet userId _ => walletSpent s userId
  | .subscription sf => (s.subscriptions.find? sf.subscriptionId).map (fun sub => sub.used sf.bucket)

/-- A wallet counts what the session has taken from it. -/
def bump (δ : ℤ) : FundingSource → FundingSource
  | .wallet userId consumed => .wallet userId (consumed+δ)
  | .subscription sf => .subscription sf

/-- Over its baseline `F`, a source is charged `n`. Buckets start at no negative usage, so that
nothing is clamped as long as the charge is not negative. -/
structure Charged (f : FundingSource) (s : Store) (F n : ℤ) : Prop where
  spent : f.spent s = some (F+n)
  baseline : ∀ sf, f = .subscription sf → 0≤F

/-- A source whose charge is counted in quota: the wallet or a premium bucket. -/
def InQuota : FundingSource → Prop
  | .wallet _ _ => True
  | .subscription sf => sf.bucket = .premium

variable {f : FundingSource} {s s' : Store} {F n δ : ℤ}

@[simp] lemma spent_bump (f : FundingSource) (δ : ℤ) (s : Store) : (f.bump δ).spent s = f.spent s := by
  cases f <;> rfl

lemma bump_bump_neg (f : FundingSource) (δ : ℤ) : (f.bump δ).bump (-δ) = f := by
  cases f <;> simp [bump]

lemma Charged.tokenOnly (h : f.Charged s F n) (ho : TokenOnly s s') : f.Charged s' F n where
  spent := by
    rw [←h.spent]
    cases f with
    | wallet u c => simp only [FundingSource.spent,walletSpent,ho.users]
    | subscription sf => simp only [FundingSource.spent,ho.subscriptions]
  baseline := h.baseline

lemma Charged.bump (h : f.Charged s F n) : (f.bump δ).Charged s F n where
  spent := by rw [spent_bump,h.spent]
  baseline sf hf := by
    cases f with
    | wallet u c => contradiction
    | subscription sf => exact h.baseline _ rfl

lemma Charged.increase {u : ℕ} {c : ℤ} (h : (FundingSource.wallet u c).Charged s F n)
    (ho : increaseUserQuota s u δ = .ok s') : (FundingSource.wallet u c).Charged s' F (n-δ) where
  spent := by
    have hw := walletSpent_increase ho h.spent
    rw [FundingSource.spent,hw,add_sub_assoc]
  baseline sf hf := by contradiction

lemma Charged.decrease {u : ℕ} {c : ℤ} (h : (FundingSource.wallet u c).Charged s F n)
    (ho : decreaseUserQuota s u δ = .ok s') : (FundingSource.wallet u c).Charged s' F (n+δ) where
  spent := by
    have hw := walletSpent_decrease ho h.spent
    rw [FundingSource.spent,hw,add_assoc]
  baseline sf hf := by contradiction

lemma Charged.delta {sf : SubscriptionFunding} (h : (FundingSource.subscription sf).Charged s F n) (hn : 0≤n+δ)
    (ho : postConsumeUserSubscriptionDeltaTx s sf.subscriptionId sf.bucket δ = .ok s') :
    (FundingSource.subscription sf).Charged s' F (n+δ) where
  spent := by
    obtain ⟨sub,hk,hu⟩ := Option.map_eq_some_iff.mp h.spent
    have h0 := h.baseline sf rfl
    rcases postConsumeDeltaTx_cases ho with ⟨rfl,rfl⟩ | ⟨-,sub0,hk0,-,rfl⟩
    · rw [h.spent,add_zero]
    · obtain rfl := Option.some.inj (hk.symm.trans hk0)
      simp only [FundingSource.spent,Table.find?_set_self _ hk,Option.map_some,UserSubscription.used_setUsed,
        if_true,clampedUsed,Option.some.injEq]
      omega
  baseline sf' hf := h.baseline sf' hf

lemma delta_tokens {k : ℕ} {b : Bucket} (h : postConsumeUserSubscriptionDeltaTx s k b δ = .ok s') :
    s'.tokens=s.tokens ∧ s'.records=s.records := by
  rcases postConsumeDeltaTx_cases h with ⟨-,rfl⟩ | ⟨-,_,-,-,rfl⟩ <;> exact ⟨rfl,rfl⟩

lemma userQuota_tokens {u : ℕ} {m : ℤ} (h : increaseUserQuota s u m = .ok s' ∨ decreaseUserQuota s u m = .ok s') :
    s'.tokens=s.tokens ∧ s'.records=s.records := by
  rcases h with h | h
  · rw [increaseUserQuota_ok h]
    exact ⟨rfl,rfl⟩
  · rw [decreaseUserQuota_ok h]
    exact ⟨rfl,rfl⟩

/-- What a step on the funding side leaves: the new charge, and tokens and records as they were. -/
structure Moved (f : FundingSource) (s s' : Store) (F n : ℤ) : Prop where
  charged : f.Charged s' F n
  tokens : s'.tokens = s.tokens
  records : s'.records = s.records

theorem settle_cases {d d' : Desk} {r : Except TxError Unit} {tokens : ℤ} (hq : f.InQuota)
    (hc : f.Charged d.store F n) (hn : 0≤n+δ) (h : f.settle δ tokens d = (d',r)) :
    (∃ e, r=.error e ∧ d'.store=d.store ∧ d'.log=.failed .settleFunding::d.log) ∨
      (r=.ok () ∧ f.Moved d.store d'.store F (n+δ) ∧ d'.log=d.log) := by
  cases f with
  | wallet u c =>
    rw [settle] at h
    split_ifs at h with h0 hpos
    · obtain ⟨rfl,rfl⟩ := Prod.mk.inj h
      exact .inr ⟨rfl,⟨by rwa [h0,add_zero],rfl,rfl⟩,rfl⟩
    · rcases Desk.attempt_cases h with he | ⟨hr,hs,hl⟩
      · exact .inl he
      · obtain ⟨ht,hrec⟩ := userQuota_tokens (.inr hs)
        exact .inr ⟨hr,⟨hc.decrease hs,ht,hrec⟩,hl⟩
    · rcases Desk.attempt_cases h with he | ⟨hr,hs,hl⟩
      · exact .inl he
      · obtain ⟨ht,hrec⟩ := userQuota_tokens (.inl hs)
        have hm := hc.increase hs
        rw [sub_neg_eq_add] at hm
        exact .inr ⟨hr,⟨hm,ht,hrec⟩,hl⟩
  | subscription sf =>
    have hb : sf.bucket = .premium := hq
    simp only [settle,hb] at h
    split_ifs at h with h0
    · obtain ⟨rfl,rfl⟩ := Prod.mk.inj h
      exact .inr ⟨rfl,⟨by rwa [h0,add_zero],rfl,rfl⟩,rfl⟩
    · rcases Desk.attempt_cases h with he | ⟨hr,hs,hl⟩
      · exact .inl he
      · rw [postConsumeUserSubscriptionDelta,Bucket.ofName_name,←hb] at hs
        obtain ⟨ht,hrec⟩ := delta_tokens hs
        exact .inr ⟨hr,⟨hc.delta hn hs,ht,hrec⟩,hl⟩

theorem reserve_cases {d d' : Desk} {r : Except TxError FundingSource} (hc : f.Charged d.store F n)
    (hn : 0≤n+δ) (h : f.reserve δ d = (d',r)) :
    (∃ e, r=.error e ∧ d'.store=d.store ∧ d'.log=.failed .reserveFunding::d.log) ∨
      (r=.ok (f.bump δ) ∧ (f.bump δ).Moved d.store d'.store F (n+δ) ∧ d'.log=d.log) := by
  cases f with
  | wallet u c =>
    rw [reserve] at h
    cases ha : d.attempt .reserveFunding (fun s => decreaseUserQuota s u δ) with
    | mk d1 r1 =>
      rw [ha] at h
      rcases Desk.attempt_cases ha with ⟨e,rfl,hs,hl⟩ | ⟨rfl,hs,hl⟩
      · obtain ⟨rfl,rfl⟩ := Prod.mk.inj h
        exact .inl ⟨e,rfl,hs,hl⟩
      · obtain ⟨rfl,rfl⟩ := Prod.mk.inj h
        obtain ⟨ht,hrec⟩ := userQuota_tokens (.inr hs)
        exact .inr ⟨rfl,⟨(hc.decrease hs).bump,ht,hrec⟩,hl⟩
  | subscription sf =>
    rw [reserve] at h
    cases ha : d.attempt .reserveFunding
        (fun s => postConsumeUserSubscriptionDelta s sf.subscriptionId sf.bucket.name δ) with
    | mk d1 r1 =>
      rw [ha] at h
      rcases Desk.attempt_cases ha with ⟨e,rfl,hs,hl⟩ | ⟨rfl,hs,hl⟩
      · obtain ⟨rfl,rfl⟩ := Prod.mk.inj h
        exact .inl ⟨e,rfl,hs,hl⟩
      · obtain ⟨rfl,rfl⟩ := Prod.mk.inj h
        rw [postConsumeUserSubscriptionDelta,Bucket.ofName_name] at hs
        obtain ⟨ht,hrec⟩ := delta_tokens hs
        exact .inr ⟨rfl,⟨(hc.delta hn hs).bump,ht,hrec⟩,hl⟩

theorem rollbackReserve_cases {d d' : Desk} {f' : FundingSource} (hc : f.Charged d.store F n)
    (hn : 0≤n-δ) (h : f.rollbackReserve δ d = (d',f')) :
    d'.log=.failed .rollbackFunding::d.log ∨
      (f'=f.bump (-δ) ∧ (f.bump (-δ)).Moved d.store d'.store F (n-δ) ∧ d'.log=d.log) := by
  cases f with
  | wallet u c =>
    rw [rollbackReserve] at h
    cases ha : d.attempt .rollbackFunding (fun s => increaseUserQuota s u δ) with
    | mk d1 r1 =>
      rw [ha] at h
      rcases Desk.attempt_cases ha with ⟨e,rfl,hs,hl⟩ | ⟨rfl,hs,hl⟩
      · obtain ⟨rfl,rfl⟩ := Prod.mk.inj h
        exact .inl hl
      · obtain ⟨rfl,rfl⟩ := Prod.mk.inj h
        obtain ⟨ht,hrec⟩ := userQuota_tokens (.inl hs)
        exact .inr ⟨by rw [bump,sub_eq_add_neg],⟨(hc.increase hs).bump,ht,hrec⟩,hl⟩
  | subscription sf =>
    rw [rollbackReserve] at h
    obtain ⟨rfl,rfl⟩ := Prod.mk.inj h
    rcases Desk.attempt_cases (Prod.eta _).symm with ⟨e,-,hs,hl⟩ | ⟨-,hs,hl⟩
    · exact .inl hl
    · rw [postConsumeUserSubscriptionDelta,Bucket.ofName_name] at hs
      obtain ⟨ht,hrec⟩ := delta_tokens hs
      have hm := hc.delta (by omega) hs
      rw [←sub_eq_add_neg] at hm
      exact .inr ⟨rfl,⟨hm.bump,ht,hrec⟩,hl⟩

end FundingSource
end Tierflow
