import Tierflow.Billing.Funding
import Tierflow.Bucket.Bounds

/-! Conservation of a billing session over the wallet or the premium bucket. As long as every
compensating operation succeeds and nobody settles a refunded session, the net charge of the
funding source is the pre-consumed quota, then the settled quota or nothing. -/
namespace Tierflow
open TxSystem

/-- The operations that take back an earlier charge of the funding source. -/
def SessionOp.compensates : SessionOp → Bool
  | .rollbackFunding | .refundFunding | .refundExtra => true
  | _ => false

/-- The record that a subscription session refunds by. -/
def SubscriptionFunding.Held (sf : SubscriptionFunding) (s : Store) : Prop :=
  Text.trimSpace sf.requestId≠"" ∧ ∃ id rec, recordOf s sf.requestId = some (id,rec) ∧ rec.status = .consumed ∧
    rec.userSubscriptionId=sf.subscriptionId ∧ rec.recordBucket=sf.bucket ∧ rec.preConsumed=sf.preConsumed

/-- A session that is neither settled nor refunded: source and token are charged the pre-consumed
quota, and the session remembers of it what a refund needs. -/
structure OpenSession (F T : ℤ) (b : BillingSession) (s : Store) : Prop where
  charged : b.funding.Charged s F b.preConsumedQuota
  inQuota : b.funding.InQuota
  nonneg : 0≤b.preConsumedQuota
  extra : 0≤b.extraReserved
  wallet : ∀ u c, b.funding = .wallet u c → c=b.preConsumedQuota
  subscription : ∀ sf, b.funding = .subscription sf → sf.preConsumed+b.extraReserved=b.preConsumedQuota ∧
    0 < sf.preConsumed ∧ b.relayInfo.subscriptionId=sf.subscriptionId ∧ sf.Held s
  consumed : b.tokenConsumed=b.preConsumedQuota
  token : tokenSpent s b.relayInfo.tokenId = some (T+b.preConsumedQuota)
  notSettled : b.settled = false
  notRefunded : b.refunded = false
  notFundingSettled : b.fundingSettled = false

lemma held_congr {sf : SubscriptionFunding} {s s' : Store} (h : s'.records = s.records) : sf.Held s → sf.Held s' := by
  rintro ⟨hne,id,rec,hr,hrest⟩
  exact ⟨hne,id,rec,by rw [recordOf_congr h,hr],hrest⟩

section Calls
variable {F T : ℤ} {env : BillingEnv} {b b' : BillingSession} {s : Store} {d d' : Desk}

/-- A reservation keeps a session open, whether it succeeds, fails or is rolled back. -/
theorem OpenSession.reserve {target : ℤ} {r : Except TxError Unit} (h : OpenSession F T b d.store)
    (hr : b.reserve env target d = (d',b',r)) (hlog : .failed .rollbackFunding∉d'.log)
    (hd : ∀ a, .settled a∉d.log) : OpenSession F T b' d'.store ∧ ∀ a, .settled a∉d'.log := by
  unfold BillingSession.reserve at hr
  by_cases happ : env.applianceMode = true
  · rw [if_pos happ] at hr
    obtain ⟨rfl,rfl,-⟩ := triple_inj hr
    exact ⟨h,hd⟩
  rw [if_neg happ] at hr
  by_cases hskip : b.settled = true ∨ b.refunded = true ∨ b.trusted = true ∨ target≤b.preConsumedQuota
  · rw [if_pos hskip] at hr
    obtain ⟨rfl,rfl,-⟩ := triple_inj hr
    exact ⟨h,hd⟩
  rw [if_neg hskip] at hr
  have hδ : 0<target-b.preConsumedQuota := by
    by_contra hle
    exact hskip (.inr (.inr (.inr (by omega))))
  have hp := h.nonneg
  dsimp only at hr
  cases hf : b.funding.reserve (target-b.preConsumedQuota) d with
  | mk d1 r1 =>
  rw [hf] at hr
  rcases FundingSource.reserve_cases h.charged (by omega) hf with ⟨e,rfl,hs,hl⟩ | ⟨rfl,hm,hl⟩
  · obtain ⟨rfl,rfl,-⟩ := triple_inj hr
    exact ⟨by rwa [hs],by simp [hl,hd]⟩
  dsimp only at hr
  cases ht : d1.attempt .reserveToken (preConsumeTokenQuota b.relayInfo (target-b.preConsumedQuota)) with
  | mk d2 r2 =>
  rw [ht] at hr
  rcases Desk.attempt_cases ht with ⟨e,rfl,hs,hl'⟩ | ⟨rfl,hs,hl'⟩
  · -- the token refuses: the funding side is taken back
    dsimp only at hr
    cases hrb : (b.funding.bump (target-b.preConsumedQuota)).rollbackReserve (target-b.preConsumedQuota) d2 with
    | mk d3 f' =>
    rw [hrb] at hr
    obtain ⟨rfl,rfl,-⟩ := triple_inj hr
    have hc2 := hm.charged
    rw [←hs] at hc2
    rcases FundingSource.rollbackReserve_cases hc2 (by omega) hrb with hl3 | ⟨rfl,hm3,hl3⟩
    · exact absurd (by simp [hl3]) hlog
    · have hb : (b.funding.bump (target-b.preConsumedQuota)).bump (-(target-b.preConsumedQuota)) = b.funding :=
        FundingSource.bump_bump_neg _ _
      have hc := hm3.charged
      rw [hb,add_sub_cancel_right] at hc
      refine ⟨?_,by simp [hl3,hl',hl,hd]⟩
      rw [hb]
      refine { h with charged := hc, subscription := ?_, token := ?_ }
      · intro sf hsf
        obtain ⟨h1,h2,h3,h4⟩ := h.subscription sf hsf
        exact ⟨h1,h2,h3,held_congr (by rw [hm3.records,hs,hm.records]) h4⟩
      · rw [tokenSpent,hm3.tokens,hs,hm.tokens]
        exact h.token
  · obtain ⟨rfl,rfl,-⟩ := triple_inj hr
    have hok := preConsumeTokenQuota_ok hs
    have ho := decreaseTokenQuota_only hok
    refine ⟨?_,by simp [hl',hl,hd]⟩
    have htok : tokenSpent d1.store b.relayInfo.tokenId = some (T+b.preConsumedQuota) := by
      rw [tokenSpent,hm.tokens]
      exact h.token
    refine ⟨hm.charged.tokenOnly ho,?_,?_,?_,?_,?_,?_,?_,h.notSettled,h.notRefunded,h.notFundingSettled⟩
    · have hq := h.inQuota
      cases hfs : b.funding with
      | wallet u c => simp [BillingSession.syncRelayInfo,FundingSource.bump,FundingSource.InQuota]
      | subscription sf =>
        rw [hfs] at hq
        exact hq
    · simp only [BillingSession.syncRelayInfo]
      omega
    · have := h.extra
      simp only [BillingSession.syncRelayInfo]
      omega
    · intro u c hfb
      cases hfs : b.funding with
      | wallet u' c' =>
        have hc := h.wallet u' c' hfs
        simp only [BillingSession.syncRelayInfo,hfs,FundingSource.bump,FundingSource.wallet.injEq] at hfb ⊢
        omega
      | subscription sf => simp [BillingSession.syncRelayInfo,hfs,FundingSource.bump] at hfb
    · intro sf hfb
      cases hfs : b.funding with
      | wallet u' c' => simp [BillingSession.syncRelayInfo,hfs,FundingSource.bump] at hfb
      | subscription sf' =>
        obtain ⟨h1,h2,h3,h4⟩ := h.subscription sf' hfs
        simp only [BillingSession.syncRelayInfo,hfs,FundingSource.bump,FundingSource.subscription.injEq] at hfb ⊢
        subst sf
        exact ⟨by omega,h2,rfl,held_congr (by rw [ho.records,hm.records]) h4⟩
    · have := h.consumed
      simp only [BillingSession.syncRelayInfo]
      omega
    · have hd' := tokenSpent_decrease hok htok
      simp only [BillingSession.syncRelayInfo]
      rw [hd']
      congr 1
      ring

/-- A settlement of an open session either fails and leaves it open, or closes it at the actual quota. -/
theorem OpenSession.settle {actual tokens : ℤ} {r : Except TxError Unit} (happ : env.applianceMode = false)
    (h : OpenSession F T b d.store) (ha : 0≤actual) (hr : b.settle env actual tokens d = (d',b',r)) :
    (OpenSession F T b' d'.store ∧ d'.log=.failed .settleFunding::d.log) ∨
    (b'.settled = true ∧ b'.refunded = false ∧ b'.relayInfo=b.relayInfo ∧ b'.funding.Charged d'.store F actual ∧
      ((d'.log=.settled actual::d.log ∧ tokenSpent d'.store b.relayInfo.tokenId = some (T+actual)) ∨
        d'.log=.settled actual::.failed .settleToken::d.log)) := by
  unfold BillingSession.settle at hr
  rw [if_neg (by simp [h.notSettled]),if_neg (by simp [happ])] at hr
  dsimp only at hr
  have hp := h.nonneg
  by_cases hδ : actual-b.preConsumedQuota=0
  · rw [if_pos hδ] at hr
    obtain ⟨rfl,rfl,-⟩ := triple_inj hr
    have he : b.preConsumedQuota=actual := by omega
    refine .inr ⟨rfl,h.notRefunded,rfl,?_,.inl ⟨rfl,?_⟩⟩
    · rw [←he]
      exact h.charged
    · rw [←he]
      exact h.token
  rw [if_neg hδ,if_neg (by simp [h.notFundingSettled])] at hr
  cases hf : b.funding.settle (actual-b.preConsumedQuota) tokens d with
  | mk d1 r1 =>
  rw [hf] at hr
  rcases FundingSource.settle_cases h.inQuota h.charged (by omega) hf with ⟨e,rfl,hs,hl⟩ | ⟨rfl,hm,hl⟩
  · obtain ⟨rfl,rfl,-⟩ := triple_inj hr
    exact .inl ⟨by rwa [hs],hl⟩
  obtain ⟨rfl,rfl,-⟩ := triple_inj hr
  right
  have hc := hm.charged
  rw [add_sub_cancel] at hc
  have htok : tokenSpent d1.store b.relayInfo.tokenId = some (T+b.preConsumedQuota) := by
    rw [tokenSpent,hm.tokens]
    exact h.token
  -- the token side moves by the same difference, up or down
  have hside : ∀ t : Desk × Except TxError Unit,
      (t = if 0<actual-b.preConsumedQuota then
          d1.attempt .settleToken (fun s => decreaseTokenQuota s b.relayInfo.tokenId (actual-b.preConsumedQuota))
        else d1.attempt .settleToken
          (fun s => increaseTokenQuota s b.relayInfo.tokenId (-(actual-b.preConsumedQuota)))) →
      b.funding.Charged t.1.store F actual ∧
        ((t.1.log=d1.log ∧ tokenSpent t.1.store b.relayInfo.tokenId = some (T+actual)) ∨
          t.1.log=.failed .settleToken::d1.log) := by
    intro t ht
    split_ifs at ht
    · rcases Desk.attempt_cases ht.symm with ⟨e,-,hs,hl'⟩ | ⟨-,hs,hl'⟩
      · exact ⟨by rwa [hs],.inr hl'⟩
      · refine ⟨hc.tokenOnly (decreaseTokenQuota_only hs),.inl ⟨hl',?_⟩⟩
        rw [tokenSpent_decrease hs htok]
        congr 1
        ring
    · rcases Desk.attempt_cases ht.symm with ⟨e,-,hs,hl'⟩ | ⟨-,hs,hl'⟩
      · exact ⟨by rwa [hs],.inr hl'⟩
      · refine ⟨hc.tokenOnly (increaseTokenQuota_only hs),.inl ⟨hl',?_⟩⟩
        rw [tokenSpent_increase hs htok]
        congr 1
        ring
  obtain ⟨hc',ht⟩ := hside _ rfl
  refine ⟨rfl,h.notRefunded,rfl,hc',?_⟩
  rcases ht with ⟨hl',ht⟩ | hl'
  · exact .inl ⟨by rw [Desk.note,hl',hl],ht⟩
  · exact .inr (by rw [Desk.note,hl',hl])

/-- The funding side of a refund, reservations included, takes the source back to its baseline. -/
lemma refund_funding {d2 : Desk} (h : OpenSession F T b d.store)
    (hr : b.refundExtraReserved (b.funding.refund d).1 = d2)
    (hlog : ∀ op, op.compensates = true → .failed op∉d2.log) :
    b.funding.Charged d2.store F 0 ∧ d2.store.tokens = d.store.tokens ∧ d2.log=d.log := by
  have hn := h.nonneg
  have hch := h.charged
  generalize hd1 : (b.funding.refund d).1 = d1 at hr
  cases hfs : b.funding with
  | wallet u c =>
    obtain rfl := h.wallet u c hfs
    rw [hfs] at hd1 hch
    rw [BillingSession.refundExtraReserved,hfs] at hr
    dsimp only at hr
    subst d2
    rw [FundingSource.refund] at hd1
    split_ifs at hd1 with hle
    · subst d1
      have h0 : b.preConsumedQuota=0 := by omega
      rw [h0] at hch ⊢
      exact ⟨hch,rfl,rfl⟩
    · rcases Desk.attempt_cases (Prod.eta _).symm with ⟨e,-,-,hl⟩ | ⟨-,hs,hl⟩
      · exact absurd (by rw [←hd1,hl]; simp) (hlog .refundFunding rfl)
      · have hcc := hch.increase hs
        rw [sub_self] at hcc
        obtain ⟨ht,-⟩ := FundingSource.userQuota_tokens (.inl hs)
        rw [←hd1]
        exact ⟨hcc,ht,hl⟩
  | subscription sf =>
    obtain ⟨hsum,hpos,hid,hne,id,rec,hrec,hst,hrs,hrb,hrp⟩ := h.subscription sf hfs
    have hex := h.extra
    rw [hfs] at hd1 hch
    rw [BillingSession.refundExtraReserved,hfs] at hr
    dsimp only at hr
    rw [FundingSource.refund,if_neg (not_le.mpr hpos)] at hd1
    -- what the retried refund by the record of the request does
    have hmid : (.failed .refundFunding∈d1.log) ∨ (FundingSource.Charged (.subscription sf) d1.store F b.extraReserved ∧
        d1.store.tokens = d.store.tokens ∧ d1.log=d.log) := by
      rcases Desk.attemptRefund_cases (Prod.eta _).symm with ⟨e,-,-,hl⟩ | ⟨-,hs,hl⟩
      · exact .inl (by rw [←hd1,hl]; simp)
      · right
        rw [hd1] at hs hl
        cases ho : refundSubscriptionPreConsume d.store sf.requestId with
        | error e => simp [ho,Except.map] at hs
        | ok o =>
          simp only [ho,Except.map,Except.ok.injEq] at hs
          obtain ⟨-,i,x,hx,⟨hbad,-⟩ | ⟨-,s1,hs1,rfl⟩⟩ := refund_cases ho
          · obtain ⟨rfl,rfl⟩ := Prod.mk.inj (Option.some.inj (hrec.symm.trans hx))
            rw [hst] at hbad
            contradiction
          · obtain ⟨rfl,rfl⟩ := Prod.mk.inj (Option.some.inj (hrec.symm.trans hx))
            rcases hs1 with ⟨hle,-⟩ | ⟨-,hs1⟩
            · omega
            · rw [hrs,hrb,hrp] at hs1
              have hcd := hch.delta (by omega) hs1
              have he : b.preConsumedQuota+-sf.preConsumed=b.extraReserved := by omega
              rw [he] at hcd
              obtain ⟨ht,-⟩ := FundingSource.delta_tokens hs1
              rw [←hs]
              exact ⟨⟨hcd.spent,hcd.baseline⟩,ht,hl⟩
    by_cases hx : 0<b.extraReserved ∧ 0 < b.relayInfo.subscriptionId
    · rw [if_pos hx] at hr
      rcases Desk.attempt_cases (Prod.eta _).symm with ⟨e,-,-,hl⟩ | ⟨-,hs,hl⟩
      · exact absurd (by rw [←hr,hl]; simp) (hlog .refundExtra rfl)
      · rw [hr] at hs hl
        rcases hmid with hin | ⟨hc1,ht1,hl1⟩
        · exact absurd (by rwa [hl]) (hlog .refundFunding rfl)
        · rw [hid,postConsumeUserSubscriptionDelta,Bucket.ofName_name] at hs
          have hcd := hc1.delta (by omega) hs
          rw [add_neg_cancel] at hcd
          obtain ⟨ht,-⟩ := FundingSource.delta_tokens hs
          exact ⟨hcd,by rw [ht,ht1],by rw [hl,hl1]⟩
    · rw [if_neg hx] at hr
      subst d2
      rcases hmid with hin | ⟨hc1,ht1,hl1⟩
      · exact absurd hin (hlog .refundFunding rfl)
      · have hz : b.extraReserved=0 := by
          by_contra hz
          obtain ⟨sub,hk,-⟩ := Option.map_eq_some_iff.mp hch.spent
          exact hx ⟨by omega,by rw [hid]; exact (Table.find?_lt hk).1⟩
        rw [hz] at hc1
        exact ⟨hc1,ht1,hl1⟩

/-- A refund of an open session, when no compensation fails, takes the source back to its baseline,
or has nothing to give back. -/
theorem OpenSession.refund (h : OpenSession F T b d.store) (happ : env.applianceMode = false)
    (hr : b.refund env d = (d',b')) (hlog : ∀ op, op.compensates = true → .failed op∉d'.log) :
    (b'=b ∧ d'=d) ∨
    (b'={ b with refunded := true } ∧ b.funding.Charged d'.store F 0 ∧
      ((d'.log=.refunded::d.log ∧ tokenSpent d'.store b.relayInfo.tokenId = some T) ∨
        d'.log=.failed .refundToken::.refunded::d.log)) := by
  unfold BillingSession.refund at hr
  rw [if_neg (by simp [happ])] at hr
  by_cases hskip : (b.settled || b.refunded || !b.needsRefund) = true
  · rw [if_pos hskip] at hr
    obtain ⟨rfl,rfl⟩ := Prod.mk.inj hr
    exact .inl ⟨rfl,rfl⟩
  rw [if_neg hskip] at hr
  obtain ⟨hd,rfl⟩ := Prod.mk.inj hr
  right
  have hn := h.nonneg
  have htc' := h.consumed
  have ho : OpenSession F T b (d.note .refunded).store := h
  generalize h1 : b.refundExtraReserved (b.funding.refund (d.note .refunded)).1 = d1 at hd
  by_cases htc : 0<b.tokenConsumed
  · rw [if_pos htc] at hd
    rcases Desk.attempt_cases (Prod.eta (d1.attempt .refundToken
        (fun s => increaseTokenQuota s b.relayInfo.tokenId b.tokenConsumed))).symm with
      ⟨e,-,hs,hl⟩ | ⟨-,hs,hl⟩
    · rw [hd] at hs hl
      obtain ⟨hc,ht,hl2⟩ := refund_funding ho h1 (fun op hop hm => hlog op hop (by rw [hl]; simp [hm]))
      exact ⟨rfl,by rwa [hs],.inr (by rw [hl,hl2]; rfl)⟩
    · rw [hd] at hs hl
      obtain ⟨hc,ht,hl2⟩ := refund_funding ho h1 (fun op hop hm => hlog op hop (by rwa [hl]))
      refine ⟨rfl,hc.tokenOnly (increaseTokenQuota_only hs),.inl ⟨by rw [hl,hl2]; rfl,?_⟩⟩
      have htok : tokenSpent d1.store b.relayInfo.tokenId = some (T+b.preConsumedQuota) := by
        rw [tokenSpent,ht]
        exact h.token
      rw [tokenSpent_increase hs htok,htc',add_sub_cancel_right]
  · rw [if_neg htc] at hd
    subst hd
    obtain ⟨hc,ht,hl2⟩ := refund_funding ho h1 hlog
    refine ⟨rfl,hc,.inl ⟨hl2,?_⟩⟩
    have h0 : b.preConsumedQuota=0 := by omega
    have htok := h.token
    rw [h0,add_zero] at htok
    rw [tokenSpent,ht]
    exact htok

end Calls

/-! ## A session that pre-consumed successfully is open -/

lemma subConsume_pos (env : BillingEnv) (info : RelayInfo) (quota : ℕ) : 0 < subConsume env info quota := by
  unfold subConsume
  dsimp only
  split_ifs <;> omega

/-- The token side of a pre-consumption. -/
lemma preConsume_token {T n : ℤ} {info : RelayInfo} {d d1 : Desk} {r : Except TxError Unit} (hn : 0≤n)
    (ht : tokenSpent d.store info.tokenId = some T)
    (h : (if 0<n then d.attempt .preConsumeToken (preConsumeTokenQuota info n) else (d,.ok ())) = (d1,r)) :
    (∃ e, r=.error e) ∨ (r=.ok () ∧ TokenOnly d.store d1.store ∧ tokenSpent d1.store info.tokenId = some (T+n)) := by
  by_cases hp : 0<n
  · rw [if_pos hp] at h
    rcases Desk.attempt_cases h with ⟨e,hr,-⟩ | ⟨hr,hs,-⟩
    · exact .inl ⟨e,hr⟩
    · have hok := preConsumeTokenQuota_ok hs
      exact .inr ⟨hr,decreaseTokenQuota_only hok,tokenSpent_decrease hok ht⟩
  · rw [if_neg hp] at h
    obtain ⟨rfl,rfl⟩ := Prod.mk.inj h
    have hz : n=0 := by omega
    exact .inr ⟨rfl,⟨rfl,rfl,rfl⟩,by rw [ht,hz,add_zero]⟩

/-- A committed pre-consumption passes through both sides. -/
lemma preConsume_sides {env : BillingEnv} {b b' : BillingSession} {n : ℤ} {d d' : Desk}
    (h : b.preConsume env n d = (d',.ok b')) : ∃ m d1 f, (m = if b.shouldTrust env then 0 else n) ∧
      (if 0 < m then d.attempt .preConsumeToken (preConsumeTokenQuota b.relayInfo m) else (d,.ok ())) = (d1,.ok ()) ∧
      b.funding.preConsume env m d1 = (d',.ok f) ∧
      b' = ({ b with trusted := b.shouldTrust env, tokenConsumed := if 0 < m then m else 0, funding := f,
                     preConsumedQuota := m } : BillingSession).syncRelayInfo := by
  unfold BillingSession.preConsume at h
  dsimp only at h
  obtain ⟨m,hm⟩ : ∃ m, m = if b.shouldTrust env then 0 else n := ⟨_,rfl⟩
  rw [←hm] at h
  cases ht : (if 0 < m then d.attempt .preConsumeToken (preConsumeTokenQuota b.relayInfo m) else (d,.ok ())) with
  | mk d1 r1 =>
  rw [ht] at h
  cases r1 with
  | error e =>
    have := (Prod.mk.inj h).2
    contradiction
  | ok u =>
    dsimp only at h
    cases hf : b.funding.preConsume env m d1 with
    | mk d2 r2 =>
    rw [hf] at h
    cases r2 with
    | error e =>
      have := (Prod.mk.inj h).2
      contradiction
    | ok f =>
      obtain ⟨rfl,hb⟩ := Prod.mk.inj h
      exact ⟨m,d1,f,hm,ht,hf,(Except.ok.inj hb).symm⟩

/-- A new wallet session, trusted or not. -/
lemma openSession_wallet {env : BillingEnv} {info : RelayInfo} {u : ℕ} {quota : ℕ} {T F : ℤ} {d0 d : Desk}
    {b : BillingSession} (h : (BillingSession.ofFunding info (.wallet u 0)).preConsume env quota d0 = (d,.ok b))
    (hF : walletSpent d0.store u = some F) (ht : tokenSpent d0.store info.tokenId = some T) :
    OpenSession F T b d.store ∧ ∃ c, b.funding = .wallet u c := by
  obtain ⟨m,d1,f,hm,h1,h2,rfl⟩ := preConsume_sides h
  have hm0 : 0 ≤ m := by
    rw [hm]
    split_ifs
    · exact le_rfl
    · exact Int.natCast_nonneg quota
  rcases preConsume_token hm0 ht h1 with ⟨e,he⟩ | ⟨-,ho,ht1⟩
  · contradiction
  have hc0 : (FundingSource.wallet u 0).Charged d0.store F 0 := ⟨by rw [add_zero]; exact hF,by simp⟩
  have hc1 := hc0.tokenOnly ho
  have hside : f = .wallet u m ∧ (FundingSource.wallet u m).Charged d.store F m ∧ d.store.tokens=d1.store.tokens := by
    simp only [BillingSession.ofFunding,FundingSource.preConsume] at h2
    by_cases hz : m≤0
    · rw [if_pos hz] at h2
      obtain ⟨rfl,hf⟩ := Prod.mk.inj h2
      obtain rfl := Except.ok.inj hf
      have hz : m=0 := by omega
      subst hz
      exact ⟨rfl,hc1,rfl⟩
    · rw [if_neg hz] at h2
      cases ha : d1.attempt .preConsumeFunding (fun s => decreaseUserQuota s u m) with
      | mk d2 r2 =>
      rw [ha] at h2
      rcases Desk.attempt_cases ha with ⟨e,rfl,-⟩ | ⟨rfl,hs,-⟩
      · have := (Prod.mk.inj h2).2
        contradiction
      · obtain ⟨rfl,hf⟩ := Prod.mk.inj h2
        obtain rfl := Except.ok.inj hf
        have hd := hc1.decrease hs
        rw [zero_add] at hd
        exact ⟨rfl,⟨hd.spent,by simp⟩,(FundingSource.userQuota_tokens (.inr hs)).1⟩
  obtain ⟨rfl,hc,htok⟩ := hside
  refine ⟨⟨hc,trivial,hm0,le_rfl,?_,?_,?_,?_,rfl,rfl,rfl⟩,m,rfl⟩
  · intro u' c' hf
    exact (FundingSource.wallet.inj hf).2.symm
  · intro sf hf
    contradiction
  · change (if 0 < m then m else 0)=m
    split_ifs <;> omega
  · change tokenSpent d.store info.tokenId = some (T+m)
    rw [tokenSpent,htok]
    exact ht1

/-- A token pre-consumption that succeeds writes tokens only. -/
lemma preConsume_tokenOnly {n : ℤ} {info : RelayInfo} {d d1 : Desk}
    (h : (if 0<n then d.attempt .preConsumeToken (preConsumeTokenQuota info n) else (d,.ok ())) = (d1,.ok ())) :
    TokenOnly d.store d1.store := by
  by_cases hp : 0<n
  · rw [if_pos hp] at h
    rcases Desk.attempt_cases h with ⟨e,he,-⟩ | ⟨-,hs,-⟩
    · contradiction
    · exact decreaseTokenQuota_only (preConsumeTokenQuota_ok hs)
  · rw [if_neg hp] at h
    obtain ⟨rfl,-⟩ := Prod.mk.inj h
    exact ⟨rfl,rfl,rfl⟩

/-- A new subscription session, whose request has no record yet: after the token, and after due
checks on the rows, one row `k` is charged. -/
lemma subscription_sides {env : BillingEnv} {info : RelayInfo} {sf : SubscriptionFunding} {d0 d : Desk}
    {b : BillingSession} (hfresh : recordOf d0.store sf.requestId = none)
    (h : (BillingSession.ofFunding info (.subscription sf)).preConsume env sf.amount d0 = (d,.ok b)) :
    ∃ d1 s1 es1 k sub res,
      (if 0 < sf.amount then d0.attempt .preConsumeToken (preConsumeTokenQuota info sf.amount) else (d0,.ok ())) =
        (d1,.ok ()) ∧
      Text.trimSpace sf.requestId≠"" ∧ DueChecks env.timeZone env.now d1.store s1 es1 ∧
      s1.subscriptions.find? k = some sub ∧
      (d.store,res) = chargeCandidate sf.requestId sf.userId sf.bucket sf.amount s1 k sub ∧
      b = ({ BillingSession.ofFunding info (.subscription { sf with
              subscriptionId := res.userSubscriptionId, preConsumed := res.preConsumed
              amountTotal := res.amountTotal, amountUsedAfter := res.amountUsedAfter }) with
            tokenConsumed := if 0 < sf.amount then sf.amount else 0
            preConsumedQuota := sf.amount } : BillingSession).syncRelayInfo := by
  obtain ⟨m,d1,f,hm,h1,h2,rfl⟩ := preConsume_sides h
  have htrust : (BillingSession.ofFunding info (.subscription sf)).shouldTrust env = false := by
    unfold BillingSession.shouldTrust
    split_ifs <;> rfl
  rw [htrust,if_neg (by decide)] at hm
  rw [htrust]
  subst m
  have ho := preConsume_tokenOnly h1
  simp only [BillingSession.ofFunding,FundingSource.preConsume] at h2
  cases ha : d1.attempts 0 .preConsumeFunding (fun s => (preConsumeUserSubscription env.timeZone s env.now sf.requestId
      sf.userId sf.bucket.name sf.amount sf.targetSubscriptionId).map (fun o => (o.1,o.2.2))) with
  | mk d2 r2 =>
  rw [ha] at h2
  rcases Desk.attempts_cases ha with ⟨e,rfl,-⟩ | ⟨res,rfl,hs,-⟩
  · have := (Prod.mk.inj h2).2
    contradiction
  obtain ⟨rfl,hf⟩ := Prod.mk.inj h2
  obtain rfl := Except.ok.inj hf
  cases hp : preConsumeUserSubscription env.timeZone d1.store env.now sf.requestId sf.userId sf.bucket.name sf.amount
      sf.targetSubscriptionId with
  | error e => simp [hp,Except.map] at hs
  | ok o =>
  simp only [hp,Except.map,Except.ok.injEq,Prod.mk.injEq] at hs
  rcases preConsume_cases hp with ⟨_,_,hr,-⟩ | ⟨_,hne,_,s1,es1,k,sub,hd,hk,-,e1,-,e2⟩
  · rw [recordOf_congr ho.records,hfresh] at hr
    contradiction
  rw [Bucket.ofName_name] at e1 e2
  exact ⟨d1,s1,es1,k,sub,res,h1,hne,hd,hk,by rw [←hs.1,←hs.2,e1,e2],rfl⟩

/-- Such a session is open over the usage of the row after its due checks, which is what was used
before, or zero after a reset. -/
lemma openSession_subscription {env : BillingEnv} {info : RelayInfo} {sf : SubscriptionFunding} {T : ℤ} {d0 d : Desk}
    {b : BillingSession} (hb : BucketBounded d0.store) (hpos : 0 < sf.amount) (hq : sf.bucket = .premium)
    (hfresh : recordOf d0.store sf.requestId = none) (ht : tokenSpent d0.store info.tokenId = some T)
    (h : (BillingSession.ofFunding info (.subscription sf)).preConsume env sf.amount d0 = (d,.ok b)) :
    ∃ F, OpenSession F T b d.store ∧ (b.funding.spent d0.store = some F ∨ F=0) := by
  obtain ⟨d1,s1,es1,k,sub,res,h1,hne,hd,hk,hcharge,rfl⟩ := subscription_sides hfresh h
  have ho := preConsume_tokenOnly h1
  obtain ⟨hstore,rfl⟩ := Prod.mk.inj hcharge
  rcases preConsume_token hpos.le ht h1 with ⟨e,he⟩ | ⟨-,-,ht1⟩
  · contradiction
  have hfresh1 : recordOf d1.store sf.requestId = none := by rw [recordOf_congr ho.records,hfresh]
  have hb1 : BucketBounded d1.store := by
    intro k sub hk
    rw [ho.subscriptions] at hk
    exact hb k sub hk
  obtain ⟨sub0,hk0,hrow⟩ := hd.metered.find? hk
  have hF0 := (bucketBounded_dueChecks hb1 hd k sub hk sf.bucket).1
  have hrecords : d.store.records = d1.store.records.insert
      ⟨sf.requestId,sf.userId,k,sf.amount,sf.bucket.name,.consumed⟩ := by rw [hstore,←hd.records]
  have hsub : d.store.subscriptions.find? k = some (addBucketUsed sub sf.bucket sf.amount) := by
    rw [hstore]
    exact Table.find?_set_self _ hk
  have htokens : d.store.tokens = d1.store.tokens := by rw [hstore,←hd.tokens]
  refine ⟨sub.used sf.bucket,⟨⟨?_,?_⟩,hq,hpos.le,le_rfl,?_,?_,?_,?_,rfl,rfl,rfl⟩,?_⟩
  · simp only [BillingSession.syncRelayInfo,BillingSession.ofFunding,FundingSource.spent,hsub,Option.map_some,
      addBucketUsed,UserSubscription.used_setUsed,if_true]
  · intro sf' _
    exact hF0
  · intro u c hf
    contradiction
  · intro sf' hf
    obtain rfl := (FundingSource.subscription.inj hf).symm
    refine ⟨add_zero _,hpos,rfl,hne,_,_,by rw [recordOf_insert hrecords hfresh1,if_pos rfl],rfl,rfl,?_,rfl⟩
    exact Bucket.ofName_name _
  · change (if 0 < sf.amount then sf.amount else 0)=sf.amount
    rw [if_pos hpos]
  · change tokenSpent d.store info.tokenId = some (T+sf.amount)
    rw [tokenSpent,htokens]
    exact ht1
  · have hu := hrow.used sf.bucket
    rw [meter_resets hd.events] at hu
    by_cases hr : .reset k∈es1
    · rw [if_pos hr] at hu
      exact .inr hu
    · rw [if_neg hr] at hu
      left
      rw [ho.subscriptions] at hk0
      simp only [BillingSession.syncRelayInfo,BillingSession.ofFunding,FundingSource.spent,hk0,Option.map_some,hu]

/-- What a successful `newBillingSession` leaves: an open session over a baseline, which is what
was spent before, or, for a subscription, an empty bucket when the pre-consumption reset it. -/
theorem openSession_new {env : BillingEnv} {info : RelayInfo} {quota : ℕ} {T : ℤ} {d0 d : Desk} {b : BillingSession}
    (happ : env.applianceMode = false) (hb : BucketBounded d0.store)
    (hq : info.tokenSubscriptionId=0 ∨ sessionBucket env info = .premium)
    (hfresh : recordOf d0.store info.requestId = none) (ht : tokenSpent d0.store info.tokenId = some T)
    (h : newBillingSession env info quota d0 = (d,.ok b)) :
    ∃ F, OpenSession F T b d.store ∧
      (b.funding.spent d0.store = some F ∨ (F=0 ∧ 0 < info.tokenSubscriptionId)) := by
  unfold newBillingSession at h
  rw [if_neg (by simp [happ])] at h
  by_cases hsub : 0 < info.tokenSubscriptionId
  · rw [if_pos hsub] at h
    have hprem : sessionBucket env info = .premium := hq.resolve_left (by omega)
    obtain ⟨F,ho,hF⟩ := openSession_subscription hb (subConsume_pos env info quota) hprem hfresh ht h
    exact ⟨F,ho,hF.imp_right (fun h0 => ⟨h0,hsub⟩)⟩
  · rw [if_neg hsub] at h
    cases hu : d0.store.users.find? info.userId with
    | none =>
      rw [hu] at h
      have := (Prod.mk.inj h).2
      contradiction
    | some u =>
      rw [hu] at h
      dsimp only at h
      split_ifs at h
      · have := (Prod.mk.inj h).2
        contradiction
      · have := (Prod.mk.inj h).2
        contradiction
      · have hF : walletSpent d0.store info.userId = some (-u.quota) := by simp [walletSpent,hu]
        obtain ⟨ho,c,hc⟩ := openSession_wallet h hF ht
        exact ⟨-u.quota,ho,.inl (by rw [hc]; exact hF)⟩

/-! ## Runs of calls -/

def SessionCall.actualNonneg : SessionCall → Prop
  | .settle actual _ _ => 0≤actual
  | _ => True

/-- A refunded session is not settled. -/
def NoSettleAfterRefund (c : Config (BillingSession × Store) SessionEvent) : SessionCall → Prop
  | .settle _ _ _ => c.state.1.refunded = false
  | _ => True

/-- The net charge `n` of the funding source over its baseline is the settled quota once the
session is settled, nothing once it is refunded, and the pre-consumed quota before; when no
operation failed, the token is charged the same. -/
def SessionConserved (F T : ℤ) (c : Config (BillingSession × Store) SessionEvent) : Prop :=
  ∃ n, c.state.1.funding.spent c.state.2 = some (F+n) ∧
    (∀ a, .settled a∈c.history → a=n) ∧
    (c.state.1.settled = true → .settled n∈c.history ∧ c.state.1.refunded = false) ∧
    (c.state.1.refunded = true → n=0) ∧
    (c.state.1.settled = false → c.state.1.refunded = false → n=c.state.1.preConsumedQuota) ∧
    ((∀ op, .failed op∉c.history) → tokenSpent c.state.2 c.state.1.relayInfo.tokenId = some (T+n))

/-- The three phases of a session. -/
inductive SessionInv (F T : ℤ) (c : Config (BillingSession × Store) SessionEvent) : Prop
  | opened (isOpen : OpenSession F T c.state.1 c.state.2) (events : ∀ a, .settled a∉c.history)
  | settled (a : ℤ) (isSettled : c.state.1.settled = true) (notRefunded : c.state.1.refunded = false)
      (event : .settled a∈c.history) (events : ∀ x, .settled x∈c.history → x=a)
      (charged : c.state.1.funding.Charged c.state.2 F a)
      (token : (∀ op, .failed op∉c.history) → tokenSpent c.state.2 c.state.1.relayInfo.tokenId = some (T+a))
  | refunded (notSettled : c.state.1.settled = false) (isRefunded : c.state.1.refunded = true)
      (events : ∀ a, .settled a∉c.history) (charged : c.state.1.funding.Charged c.state.2 F 0)
      (token : (∀ op, .failed op∉c.history) → tokenSpent c.state.2 c.state.1.relayInfo.tokenId = some T)

theorem SessionInv.conserved {F T : ℤ} {c : Config (BillingSession × Store) SessionEvent} (h : SessionInv F T c) :
    SessionConserved F T c := by
  cases h with
  | opened ho hev =>
    refine ⟨_,ho.charged.spent,fun a ha => absurd ha (hev a),?_,?_,fun _ _ => rfl,fun _ => ho.token⟩
    · intro hs
      rw [ho.notSettled] at hs
      contradiction
    · intro hr
      rw [ho.notRefunded] at hr
      contradiction
  | settled a hs hr hev hevs hc ht =>
    refine ⟨a,hc.spent,hevs,fun _ => ⟨hev,hr⟩,?_,?_,ht⟩
    · intro hr'
      rw [hr] at hr'
      contradiction
    · intro hs'
      rw [hs] at hs'
      contradiction
  | refunded hs hr hev hc ht =>
    refine ⟨0,hc.spent,fun a ha => absurd ha (hev a),?_,fun _ => rfl,?_,fun hf => by rw [ht hf,add_zero]⟩
    · intro hs'
      rw [hs] at hs'
      contradiction
    · intro _ hr'
      rw [hr] at hr'
      contradiction

/-- No call touches a settled session, and only a settlement could touch a refunded one. -/
def SessionFinal (c : Config (BillingSession × Store) SessionEvent) (call : SessionCall)
    (d : Config (BillingSession × Store) SessionEvent) : Prop :=
  (c.state.1.settled = true → d.state=c.state) ∧
    (c.state.1.refunded = true → (∀ a t fs, call≠.settle a t fs) → d.state=c.state)

theorem sessionFinal_exec (env : BillingEnv) (c : Config (BillingSession × Store) SessionEvent) (call : SessionCall) :
    (c.state.1.settled = true → (sessionSystem env).exec c call = c) ∧
      (c.state.1.refunded = true → (∀ a t fs, call≠.settle a t fs) → (sessionSystem env).exec c call = c) := by
  obtain ⟨⟨b,s⟩,hist⟩ := c
  cases call with
  | reserve target fs =>
    constructor
    · intro hs
      simp [exec,sessionSystem,BillingSession.reserve,show b.settled = true from hs]
    · intro hr _
      simp [exec,sessionSystem,BillingSession.reserve,show b.refunded = true from hr]
  | settle a t fs =>
    constructor
    · intro hs
      simp [exec,sessionSystem,BillingSession.settle,show b.settled = true from hs]
    · intro _ hne
      exact absurd rfl (hne a t fs)
  | refund fs =>
    constructor
    · intro hs
      simp [exec,sessionSystem,BillingSession.refund,show b.settled = true from hs]
    · intro hr _
      simp [exec,sessionSystem,BillingSession.refund,show b.refunded = true from hr]

/-- One call keeps the phases of a session, as long as it does not settle a refunded session and
no compensating operation fails. -/
theorem sessionInv_exec {F T : ℤ} {env : BillingEnv} (happ : env.applianceMode = false)
    {c : Config (BillingSession × Store) SessionEvent} {call : SessionCall} (h : SessionInv F T c)
    (ha : call.actualNonneg) (hg : NoSettleAfterRefund c call)
    (hlog : ∀ op, op.compensates = true → .failed op∉((sessionSystem env).exec c call).history) :
    SessionInv F T ((sessionSystem env).exec c call) := by
  have hfinal := sessionFinal_exec env c call
  cases h with
  | settled a hs hr hev hevs hc ht =>
    rw [hfinal.1 hs]
    exact .settled a hs hr hev hevs hc ht
  | refunded hs hr hev hc ht =>
    rw [hfinal.2 hr ?_]
    · exact .refunded hs hr hev hc ht
    · rintro a t fs rfl
      rw [NoSettleAfterRefund,hr] at hg
      contradiction
  | opened ho hev =>
    obtain ⟨⟨b,s⟩,hist⟩ := c
    cases call with
    | reserve target fs =>
      generalize hr : b.reserve env target ⟨s,fs,[]⟩ = r
      obtain ⟨d,b',res⟩ := r
      have hx : (sessionSystem env).exec ⟨(b,s),hist⟩ (.reserve target fs) = ⟨(b',d.store),d.log++hist⟩ := by
        simp [exec,sessionSystem,hr]
      rw [hx] at hlog ⊢
      obtain ⟨ho',hev'⟩ := OpenSession.reserve (d := ⟨s,fs,[]⟩) ho hr
        (fun hm => hlog .rollbackFunding rfl (List.mem_append_left _ hm)) (by simp)
      refine .opened ho' ?_
      intro a hm
      exact (List.mem_append.mp hm).elim (hev' a) (hev a)
    | settle actual tokens fs =>
      generalize hr : b.settle env actual tokens ⟨s,fs,[]⟩ = r
      obtain ⟨d,b',res⟩ := r
      have hx : (sessionSystem env).exec ⟨(b,s),hist⟩ (.settle actual tokens fs) = ⟨(b',d.store),d.log++hist⟩ := by
        simp [exec,sessionSystem,hr]
      rw [hx]
      rcases OpenSession.settle (d := ⟨s,fs,[]⟩) happ ho ha hr with ⟨ho',hl⟩ | ⟨hs,hrf,hinfo,hc,ht⟩
      · refine .opened ho' ?_
        intro a hm
        simp only [hl] at hm
        simp at hm
        exact hev a hm
      · have hmem : SessionEvent.settled actual∈d.log ∧ ∀ x, .settled x∈d.log → x=actual := by
          rcases ht with ⟨hl,-⟩ | hl <;> simp [hl]
        refine .settled actual hs hrf (List.mem_append_left _ hmem.1) ?_ hc ?_
        · intro x hm
          exact (List.mem_append.mp hm).elim (hmem.2 x) (fun hm => absurd hm (hev x))
        · intro hf
          rw [show b'.relayInfo = b.relayInfo from hinfo]
          rcases ht with ⟨-,ht⟩ | hl
          · exact ht
          · exact absurd (by simp [hl]) (hf .settleToken)
    | refund fs =>
      generalize hr : b.refund env ⟨s,fs,[]⟩ = r
      obtain ⟨d,b'⟩ := r
      have hx : (sessionSystem env).exec ⟨(b,s),hist⟩ (.refund fs) = ⟨(b',d.store),d.log++hist⟩ := by
        simp [exec,sessionSystem,hr]
      rw [hx] at hlog ⊢
      rcases OpenSession.refund (d := ⟨s,fs,[]⟩) ho happ hr
          (fun op hop hm => hlog op hop (List.mem_append_left _ hm)) with ⟨rfl,rfl⟩ | ⟨rfl,hc,ht⟩
      · exact .opened ho hev
      · refine .refunded ho.notSettled rfl ?_ hc ?_
        · intro a hm
          rcases ht with ⟨hl,-⟩ | hl
          · simp [hl] at hm
            exact hev a hm
          · simp [hl] at hm
            exact hev a hm
        · intro hf
          rcases ht with ⟨-,ht⟩ | hl
          · exact ht
          · exact absurd (by simp [hl]) (hf .refundToken)

def walletEnv : BillingEnv where
  applianceMode := false
  trustQuota := 0
  timeZone := 0
  now := 1
  resolveBucketForUserSubscription := .premium

def walletInfo : RelayInfo where
  userId := 1
  tokenId := 1
  tokenUnlimited := true
  tokenQuota := 0
  userQuota := 0
  requestId := "a"
  forcePreConsume := false
  tokenSubscriptionId := 0
  gateBucket := ""
  estimatePromptTokens := 0
  subscriptionId := 0

def walletStore : Store :=
  { Store.empty with
    users := Table.empty.insert { quota := 1000, group := "default" }
    tokens := Table.empty.insert { userId := 1, status := .enabled, expiredTime := -1, remainQuota := 0, usedQuota := 0,
                                   unlimitedQuota := true, userSubscriptionId := 0 } }

/-- The session of `walletInfo` after a pre-consumption of a hundred units. -/
def walletSession : BillingSession where
  relayInfo := { walletInfo with userQuota := 1000 }
  funding := .wallet 1 100
  preConsumedQuota := 100
  tokenConsumed := 100
  extraReserved := 0
  trusted := false
  fundingSettled := false
  settled := false
  refunded := false

def walletDesk : Desk := (newBillingSession walletEnv walletInfo 100 ⟨walletStore,[],[]⟩).1

lemma walletSession_new :
    newBillingSession walletEnv walletInfo 100 ⟨walletStore,[],[]⟩ = (walletDesk,.ok walletSession) := rfl

end Tierflow
