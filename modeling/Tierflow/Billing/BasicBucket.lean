import Tierflow.Billing.Conservation

/-! Settlement of the basic bucket, which is metered in tokens while sessions reserve and compare
in quota. The usage changes by the settled tokens exactly when the two units do not meet. -/
namespace Tierflow

/-- Reservations that all succeed. -/
def reserveAll (env : BillingEnv) : BillingSession → Store → List (ℤ × List Bool) → Option (BillingSession × Store)
  | b,s,[] => some (b,s)
  | b,s,(target,faults)::rest =>
    match b.reserve env target ⟨s,faults,[]⟩ with
    | (d,b',.ok _) => reserveAll env b' d.store rest
    | (_,_,.error _) => none

/-- The quota that a session holds after reservations up to some targets. -/
def reservedQuota (n : ℤ) (reserves : List (ℤ × List Bool)) : ℤ := reserves.foldl (fun m r => max m r.1) n

/-- An open session over the basic bucket of a subscription: `u` tokens were used before it, the
premium usage is `p`, and the session pre-consumed `P` tokens. -/
structure BasicOpen (u p P : ℤ) (k : ℕ) (b : BillingSession) (s : Store) : Prop where
  funding : ∃ sf, b.funding = .subscription sf ∧ sf.bucket = .basic ∧ sf.preConsumed=P ∧ sf.subscriptionId=k
  row : ∃ sub, s.subscriptions.find? k = some sub ∧ sub.used .basic=u+b.preConsumedQuota ∧ sub.used .premium=p
  nonneg : 0≤u
  pos : 0<P
  le : P≤b.preConsumedQuota
  notTrusted : b.trusted = false
  notSettled : b.settled = false
  notRefunded : b.refunded = false
  notFundingSettled : b.fundingSettled = false

/-- A delta of the basic bucket that does not clamp. -/
lemma basic_delta {s s' : Store} {k : ℕ} {sub : UserSubscription} {δ : ℤ} (hk : s.subscriptions.find? k = some sub)
    (hn : 0 ≤ sub.used .basic+δ) (h : postConsumeUserSubscriptionDelta s k Bucket.basic.name δ = .ok s') :
    ∃ sub', s'.subscriptions.find? k = some sub' ∧ sub'.used .basic=sub.used .basic+δ ∧
      sub'.used .premium=sub.used .premium := by
  rw [postConsumeUserSubscriptionDelta,Bucket.ofName_name] at h
  rcases postConsumeDeltaTx_cases h with ⟨rfl,rfl⟩ | ⟨-,sub0,hk0,-,rfl⟩
  · exact ⟨sub,hk,(add_zero _).symm,rfl⟩
  · obtain rfl := Option.some.inj (hk.symm.trans hk0)
    refine ⟨_,Table.find?_set_self _ hk,?_,by simp⟩
    rw [UserSubscription.used_setUsed,if_pos rfl,clampedUsed,max_eq_right hn]

lemma BasicOpen.tokenOnly {u p P : ℤ} {k : ℕ} {b : BillingSession} {s s' : Store} (h : BasicOpen u p P k b s)
    (ho : TokenOnly s s') : BasicOpen u p P k b s' :=
  { h with row := by rw [ho.subscriptions]; exact h.row }

/-- A successful reservation charges the difference to its target, in quota, to the bucket. -/
theorem BasicOpen.reserve {u p P target : ℤ} {k : ℕ} {env : BillingEnv} {b b' : BillingSession} {d d' : Desk}
    (happ : env.applianceMode = false) (h : BasicOpen u p P k b d.store)
    (hr : b.reserve env target d = (d',b',.ok ())) :
    BasicOpen u p P k b' d'.store ∧ b'.preConsumedQuota=max b.preConsumedQuota target := by
  have hnn := h.nonneg
  have hpos := h.pos
  have hle := h.le
  unfold BillingSession.reserve at hr
  rw [if_neg (by simp [happ])] at hr
  by_cases hskip : target≤b.preConsumedQuota
  · rw [if_pos (.inr (.inr (.inr hskip)))] at hr
    obtain ⟨rfl,rfl,-⟩ := triple_inj hr
    exact ⟨h,(max_eq_left hskip).symm⟩
  rw [if_neg (by simp [h.notSettled,h.notRefunded,h.notTrusted]; omega)] at hr
  obtain ⟨sf,hsf,hbasic,hpre,hid⟩ := h.funding
  obtain ⟨sub,hk,hu,hp⟩ := h.row
  simp only [hsf,FundingSource.reserve] at hr
  cases ha : d.attempt .reserveFunding (fun s =>
      postConsumeUserSubscriptionDelta s sf.subscriptionId sf.bucket.name (target-b.preConsumedQuota)) with
  | mk d1 r1 =>
  rw [ha] at hr
  rcases Desk.attempt_cases ha with ⟨e,rfl,-⟩ | ⟨rfl,hs,-⟩
  · obtain ⟨-,-,hbad⟩ := triple_inj hr
    contradiction
  dsimp only at hr
  rw [hid,hbasic] at hs
  obtain ⟨sub',hk',hu',hp'⟩ := basic_delta hk (by omega) hs
  cases ht : d1.attempt .reserveToken (preConsumeTokenQuota b.relayInfo (target-b.preConsumedQuota)) with
  | mk d2 r2 =>
  rw [ht] at hr
  rcases Desk.attempt_cases ht with ⟨e,rfl,-⟩ | ⟨rfl,hs2,-⟩
  · obtain ⟨-,-,hbad⟩ := triple_inj hr
    contradiction
  obtain ⟨rfl,rfl,-⟩ := triple_inj hr
  have ho := decreaseTokenQuota_only (preConsumeTokenQuota_ok hs2)
  have hq : b.preConsumedQuota+(target-b.preConsumedQuota)=max b.preConsumedQuota target := by omega
  refine ⟨⟨⟨sf,rfl,hbasic,hpre,hid⟩,⟨sub',by rwa [ho.subscriptions],?_,by rw [hp',hp]⟩,hnn,hpos,?_,
    h.notTrusted,h.notSettled,h.notRefunded,h.notFundingSettled⟩,hq⟩
  · simp only [BillingSession.syncRelayInfo]
    omega
  · simp only [BillingSession.syncRelayInfo]
    omega

theorem BasicOpen.reserveAll {u p P : ℤ} {k : ℕ} {env : BillingEnv} {b b' : BillingSession} {s s' : Store}
    {reserves : List (ℤ × List Bool)} (happ : env.applianceMode = false) (h : BasicOpen u p P k b s)
    (hr : reserveAll env b s reserves = some (b',s')) :
    BasicOpen u p P k b' s' ∧ b'.preConsumedQuota=reservedQuota b.preConsumedQuota reserves := by
  induction reserves generalizing b s with
  | nil =>
    obtain ⟨rfl,rfl⟩ := Prod.mk.inj (Option.some.inj hr)
    exact ⟨h,rfl⟩
  | cons r rest ih =>
    obtain ⟨target,faults⟩ := r
    rw [Tierflow.reserveAll] at hr
    cases hx : b.reserve env target ⟨s,faults,[]⟩ with
    | mk d o =>
    obtain ⟨b1,res⟩ := o
    rw [hx] at hr
    cases res with
    | error e => contradiction
    | ok x =>
      obtain ⟨ho,hq⟩ := BasicOpen.reserve (d := ⟨s,faults,[]⟩) happ h hx
      obtain ⟨ho',hq'⟩ := ih ho hr
      exact ⟨ho',by rw [hq',hq]; rfl⟩

/-- What a successful settlement leaves in the two buckets. -/
theorem BasicOpen.settle {u p P actual tokens : ℤ} {k : ℕ} {env : BillingEnv} {b b' : BillingSession} {d d' : Desk}
    (happ : env.applianceMode = false) (h : BasicOpen u p P k b d.store) (ht : 0<tokens)
    (hr : b.settle env actual tokens d = (d',b',.ok ())) :
    ∃ sub, d'.store.subscriptions.find? k = some sub ∧ sub.used .premium=p ∧
      sub.used .basic=u+b.preConsumedQuota+(if actual=b.preConsumedQuota then 0 else tokens-P) := by
  have hnn := h.nonneg
  have hle := h.le
  obtain ⟨sf,hsf,hbasic,hpre,hid⟩ := h.funding
  obtain ⟨sub,hk,hu,hp⟩ := h.row
  unfold BillingSession.settle at hr
  rw [if_neg (by simp [h.notSettled]),if_neg (by simp [happ])] at hr
  dsimp only at hr
  by_cases hδ : actual-b.preConsumedQuota=0
  · rw [if_pos hδ] at hr
    obtain ⟨rfl,-⟩ := triple_inj hr
    rw [if_pos (by omega),add_zero]
    exact ⟨sub,hk,hp,hu⟩
  rw [if_neg hδ,if_neg (by simp [h.notFundingSettled]),hsf] at hr
  rw [if_neg (fun he => hδ (by omega))]
  simp only [FundingSource.settle,hbasic,if_neg (not_le.mpr ht)] at hr
  -- the funding step, whether or not there is a token difference
  have hfund : ∀ d1 r1, (if tokens-sf.preConsumed=0 then (d,.ok ()) else d.attempt .settleFunding (fun s =>
      postConsumeUserSubscriptionDelta s sf.subscriptionId Bucket.basic.name (tokens-sf.preConsumed))) = (d1,r1) →
      (∃ e, r1=.error e) ∨ (r1=.ok () ∧ ∃ sub', d1.store.subscriptions.find? k = some sub' ∧
        sub'.used .premium=p ∧ sub'.used .basic=u+b.preConsumedQuota+(tokens-P)) := by
    intro d1 r1 hf
    by_cases hz : tokens-sf.preConsumed=0
    · rw [if_pos hz] at hf
      obtain ⟨rfl,rfl⟩ := Prod.mk.inj hf
      exact .inr ⟨rfl,sub,hk,hp,by omega⟩
    · rw [if_neg hz] at hf
      rcases Desk.attempt_cases hf with ⟨e,he,-⟩ | ⟨hok,hs,-⟩
      · exact .inl ⟨e,he⟩
      · rw [hid] at hs
        obtain ⟨sub',hk',hu',hp'⟩ := basic_delta hk (by omega) hs
        exact .inr ⟨hok,sub',hk',by rw [hp',hp],by omega⟩
  generalize hx : (if tokens-sf.preConsumed=0 then (d,Except.ok ()) else d.attempt .settleFunding (fun s =>
      postConsumeUserSubscriptionDelta s sf.subscriptionId Bucket.basic.name (tokens-sf.preConsumed))) = x at hr
  obtain ⟨d1,r1⟩ := x
  rcases hfund d1 r1 hx with ⟨e,rfl⟩ | ⟨rfl,sub',hk',hp',hu'⟩
  · obtain ⟨-,-,hbad⟩ := triple_inj hr
    contradiction
  obtain ⟨rfl,-,htok⟩ := triple_inj hr
  refine ⟨sub',?_,hp',hu'⟩
  simp only [Desk.note]
  split_ifs at htok ⊢
  · rcases Desk.attempt_cases (Prod.eta _).symm with ⟨e,he,-⟩ | ⟨-,hs,-⟩
    · rw [htok] at he
      contradiction
    · rwa [(decreaseTokenQuota_only hs).subscriptions]
  · rcases Desk.attempt_cases (Prod.eta _).symm with ⟨e,he,-⟩ | ⟨-,hs,-⟩
    · rw [htok] at he
      contradiction
    · rwa [(increaseTokenQuota_only hs).subscriptions]

/-- A new session on the basic bucket of a subscription. Its baseline is the usage of both buckets
before, or zero in both when the pre-consumption came with a reset. -/
theorem basicOpen_new {env : BillingEnv} {info : RelayInfo} {quota : ℕ} {d0 d : Desk} {b : BillingSession}
    (happ : env.applianceMode = false) (hb : BucketBounded d0.store) (hsub : 0 < info.tokenSubscriptionId)
    (hbasic : sessionBucket env info = .basic) (hfresh : recordOf d0.store info.requestId = none)
    (h : newBillingSession env info quota d0 = (d,.ok b)) :
    ∃ k sub0 u p, d0.store.subscriptions.find? k = some sub0 ∧
      ((u=sub0.used .basic ∧ p=sub0.used .premium) ∨ (u=0 ∧ p=0)) ∧
      BasicOpen u p (subConsume env info quota) k b d.store ∧
      b.preConsumedQuota=subConsume env info quota := by
  unfold newBillingSession at h
  rw [if_neg (by simp [happ]),if_pos hsub] at h
  have hpos := subConsume_pos env info quota
  obtain ⟨d1,s1,es1,k,sub,res,h1,-,hd,hk,hcharge,rfl⟩ := subscription_sides hfresh h
  have ho := preConsume_tokenOnly h1
  obtain ⟨hstore,rfl⟩ := Prod.mk.inj hcharge
  dsimp only at hstore
  obtain ⟨sub0,hk0,hrow⟩ := hd.metered.find? hk
  rw [ho.subscriptions] at hk0
  have hrow' : ∀ c, sub.used c=if .reset k∈es1 then 0 else sub0.used c := by
    intro c
    rw [hrow.used,meter_resets hd.events]
  have hu0 : 0 ≤ sub.used .basic := by
    rw [hrow']
    split_ifs
    · exact le_rfl
    · exact (hb k sub0 hk0 .basic).1
  refine ⟨k,sub0,sub.used .basic,sub.used .premium,hk0,?_,⟨⟨_,rfl,hbasic,rfl,rfl⟩,
    ⟨addBucketUsed sub .basic (subConsume env info quota),?_,?_,?_⟩,hu0,hpos,le_rfl,rfl,rfl,rfl,rfl⟩,rfl⟩
  · rw [hrow',hrow']
    split_ifs
    · exact .inr ⟨rfl,rfl⟩
    · exact .inl ⟨rfl,rfl⟩
  · rw [hstore,hbasic]
    exact Table.find?_set_self _ hk
  · simp [addBucketUsed,BillingSession.syncRelayInfo]
  · simp [addBucketUsed]

def basicInfo : RelayInfo :=
  { walletInfo with tokenSubscriptionId := 1, gateBucket := bucketBasic, estimatePromptTokens := 50 }

def basicStore : Store := { meteredStore with tokens := walletStore.tokens }

def basicDesk : Desk := (newBillingSession walletEnv basicInfo 7 ⟨basicStore,[],[]⟩).1

/-- The session of `basicInfo` after a pre-consumption of fifty tokens. -/
def basicSession : BillingSession where
  relayInfo := { basicInfo with subscriptionId := 1 }
  funding := .subscription ⟨"a",1,50,.basic,1,1,50,1000,50⟩
  preConsumedQuota := 50
  tokenConsumed := 50
  extraReserved := 0
  trusted := false
  fundingSettled := false
  settled := false
  refunded := false

lemma basicSession_new :
    newBillingSession walletEnv basicInfo 7 ⟨basicStore,[],[]⟩ = (basicDesk,.ok basicSession) := by rfl

end Tierflow
