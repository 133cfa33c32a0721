import Tierflow.Subscription.Effects

/-! Chains of upgrades at one instant. An upgrade is credited the remaining value of its source and
leaves a subscription that was paid with the price of its target; whole cents are due, so that a
detour can save no more than the rounding of its remaining values. -/
namespace Tierflow
open Rounding

/-! ## Cents -/

/-- Subtracting whole cents commutes with rounding, as far as the difference is not negative. -/
lemma amountDue_eq {target value : ℚ} {n : ℕ} (ht : 0≤target) (hv : value*100 = n) :
    amountDue target value = max 0 (roundTo 2 target-value) := by
  have h2 : value = n/10^2 := by
    norm_num
    linarith
  by_cases h : value≤target
  · have hn : nearest ((target-value)*10^2) = nearest (target*10^2)-n := by
      have h0 : 0≤(target-value)*10^2 := mul_nonneg (sub_nonneg.mpr h) (by positivity)
      have he : (target-value)*10^2+1/2 = target*10^2+1/2-(n : ℤ) := by
        rw [h2]
        push_cast
        ring
      rw [nearest,nearest,if_pos h0,if_pos (by positivity),he,Int.floor_sub_intCast]
    rw [amountDue,roundTo,hn,roundTo,h2]
    push_cast
    rw [sub_div]
  · rw [not_le] at h
    have hle : roundTo 2 target≤value := by
      have hm := roundTo_mono 2 ht h.le
      rwa [roundTo_cents hv] at hm
    have hneg : roundTo 2 (target-value)≤0 := by
      have h0 := roundTo_nonneg 2 (show 0≤-(target-value) by linarith)
      rw [roundTo_neg] at h0
      linarith
    rw [amountDue,max_eq_left hneg,max_eq_left (by linarith)]

section
variable {paid : ℚ} {days : ℤ}

lemma quotient_days_le (hp : 0≤paid) (h30 : days≤30) :
    quotient paid subscriptionPeriodDays*days≤paid+15/10^16 := by
  have hd30 : (days : ℚ)≤30 := by exact_mod_cast h30
  have hq0 : 0≤quotient paid subscriptionPeriodDays := quotient_nonneg hp (by decide)
  obtain ⟨-,hqu⟩ := quotient_bounds paid subscriptionPeriodDays
  have hthirty : ((subscriptionPeriodDays : ℤ) : ℚ)=30 := rfl
  rw [hthirty] at hqu hq0 ⊢
  have hmul : quotient paid 30*days≤quotient paid 30*30 := mul_le_mul_of_nonneg_left hd30 hq0
  norm_num at hqu ⊢
  linarith

/-- Rounding can raise the remaining value by one cent above the paid amount in whole cents. -/
lemma remainingValue_le_cent (hp : 0≤paid) (h0 : 0≤days) (h30 : days≤30) :
    remainingValue paid days ≤ roundTo 2 paid+1/100 := by
  have hq0 : 0≤quotient paid subscriptionPeriodDays*days :=
    mul_nonneg (quotient_nonneg hp (by decide)) (by exact_mod_cast h0)
  have hx := quotient_days_le hp h30
  have hm := roundTo_mono 2 hq0 (hx.trans (show paid+15/10^16≤paid+1/100 by norm_num))
  have hs : roundTo 2 (paid+1/100) = roundTo 2 paid+1/100 := by
    have he : (paid+1/100)*10^2+1/2 = paid*10^2+1/2+(1 : ℤ) := by
      push_cast
      ring
    rw [roundTo,roundTo,nearest,nearest,if_pos (by positivity),if_pos (by positivity),he,Int.floor_add_intCast]
    push_cast
    ring
  rw [hs] at hm
  exact hm

/-- Prices in millionths, as the database keeps them, are never raised above their rounding to
cents. -/
lemma remainingValue_le_round {k : ℕ} (hk : paid*10^6 = k) (h0 : 0≤days) (h30 : days≤30) :
    remainingValue paid days ≤ roundTo 2 paid := by
  have hp : 0≤paid := by
    have : (0 : ℚ)≤k := Nat.cast_nonneg k
    nlinarith
  have hq0 : 0≤quotient paid subscriptionPeriodDays*days :=
    mul_nonneg (quotient_nonneg hp (by decide)) (by exact_mod_cast h0)
  have hx := quotient_days_le hp h30
  have hfloor : ⌊quotient paid subscriptionPeriodDays*days*10^2+1/2⌋≤⌊paid*10^2+1/2⌋ := by
    -- Half a cent is a multiple of `10⁻⁶`, and the excess is smaller than that.
    have hj : paid*10^2+1/2 = ((k+5000 : ℕ) : ℚ)/10^4 := by
      have : paid = k/10^6 := by field_simp; linarith
      rw [this]
      push_cast
      ring
    rw [Int.le_floor]
    set f := ⌊quotient paid subscriptionPeriodDays*days*10^2+1/2⌋ with hf
    have hle : (f : ℚ)≤((k+5000 : ℕ) : ℚ)/10^4+15/10^14 := by
      have := Int.floor_le (quotient paid subscriptionPeriodDays*days*10^2+1/2)
      rw [←hf] at this
      rw [←hj]
      norm_num at hx ⊢
      linarith
    have hint : f*10^4≤((k+5000 : ℕ) : ℤ) := by
      have h1 : (f : ℚ)*10^4<((k+5000 : ℕ) : ℚ)+1 := by
        norm_num at hle ⊢
        linarith
      have h2 : ((f*10^4 : ℤ) : ℚ)<(((k+5000 : ℕ)+1 : ℤ) : ℚ) := by
        push_cast at h1 ⊢
        linarith
      have h3 : f*10^4<((k+5000 : ℕ) : ℤ)+1 := by exact_mod_cast h2
      omega
    rw [hj,le_div_iff₀ (by positivity)]
    exact_mod_cast hint
  have hp' : (0 : ℚ)≤paid*10^2 := by positivity
  have hq' : 0≤quotient paid subscriptionPeriodDays*days*10^2 := mul_nonneg hq0 (by positivity)
  rw [remainingValue,roundTo,roundTo,nearest,nearest,if_pos hp',if_pos hq']
  exact (div_le_div_iff_of_pos_right (by positivity)).mpr (by exact_mod_cast hfloor)

end

/-! ## Quotes -/

section
variable {s : Store} {u id p : ℕ} {balance : Bool} {plan : SubscriptionPlan} {q : SubscriptionUpgradeQuote}

lemma quoteUpgradeTx_sub (h : quoteUpgradeTx s u id p balance = .ok (plan,q)) :
    ∃sub,s.subscriptions.find? id = some sub ∧ getSubscriptionPlanByIdTx s p = .ok plan ∧ s.dbTime < sub.endTime ∧
      sub.paidMoney<plan.priceAmount ∧ q.currentPaidMoney=sub.paidMoney ∧ q.targetPrice=plan.priceAmount ∧
      q.remainingValue = remainingValue sub.paidMoney (remainingDays sub.endTime s.dbTime) ∧
      q.amountDue = amountDue plan.priceAmount q.remainingValue := by
  obtain ⟨sub,hsub,-,hplan,hquote⟩ := quoteUpgradeTx_cases h
  obtain ⟨-,hend,hprice,hv,hd⟩ := quoteUpgradeLocked_ok hquote
  obtain ⟨_,-,hquote⟩ := bind_eq_ok.mp hquote
  obtain ⟨_,-,hquote⟩ := bind_eq_ok.mp hquote
  obtain ⟨_,-,hquote⟩ := bind_eq_ok.mp hquote
  obtain rfl := Except.ok.inj hquote
  exact ⟨sub,hsub,hplan,hend,hprice,rfl,rfl,hv,hd⟩

/-- The value and the amount due add up to the price of the target in whole cents, unless the value
alone exceeds it. -/
theorem quote_sums (h : quoteUpgradeTx s u id p balance = .ok (plan,q)) (h0 : 0≤q.currentPaidMoney) :
    0≤q.remainingValue ∧ q.remainingValue ≤ roundTo 2 q.currentPaidMoney+1/100 ∧
      q.amountDue = max 0 (roundTo 2 q.targetPrice-q.remainingValue) := by
  obtain ⟨sub,-,-,hend,hprice,hpaid,htarget,hv,hd⟩ := quoteUpgradeTx_sub h
  rw [hpaid] at h0 ⊢
  have hdays := remainingDays_pos hend
  have hdays' := remainingDays_le sub.endTime s.dbTime
  have hv0 := (remainingValue_bounds h0 hdays.le hdays').1
  obtain ⟨n,hn⟩ := remainingValue_cents hv0
  rw [htarget,hd,hv]
  exact ⟨hv0,remainingValue_le_cent h0 hdays.le hdays',amountDue_eq (h0.trans hprice.le) hn⟩

/-- With prices in millionths. -/
theorem quote_sums_millionths (h : quoteUpgradeTx s u id p balance = .ok (plan,q)) {k : ℕ}
    (hk : q.currentPaidMoney*10^6 = k) :
    q.remainingValue ≤ roundTo 2 q.currentPaidMoney ∧ q.amountDue+q.remainingValue = roundTo 2 q.targetPrice := by
  have h0 : 0≤q.currentPaidMoney := by
    have : (0 : ℚ)≤k := Nat.cast_nonneg k
    nlinarith
  obtain ⟨-,-,hdue⟩ := quote_sums h h0
  obtain ⟨sub,-,-,hend,hprice,hpaid,htarget,hv,-⟩ := quoteUpgradeTx_sub h
  rw [hpaid] at h0 hk ⊢
  have hle := remainingValue_le_round hk (remainingDays_pos hend).le (remainingDays_le sub.endTime s.dbTime)
  rw [←hv] at hle
  have hm := roundTo_mono 2 h0 hprice.le
  rw [←htarget] at hm
  refine ⟨hle,?_⟩
  rw [hdue,max_eq_right (by linarith)]
  linarith

end

/-! ## Chains -/

/-- One upgrade at its quoted price. Its payment and its order leave plans and subscriptions alone. -/
def upgradeHop (tz : ℤ) (userId : ℕ) (s : Store) (id planId : ℕ) : Except TxError (Store × ℕ × ℚ) := do
  let (plan,quote) ← quoteUpgradeTx s userId id planId false
  let (s',id') ← performUpgradeTx tz s s.dbTime userId id planId plan
  .ok (s',id',quote.amountDue)

/-- One upgrade after the other, with what they cost together. -/
def upgradeChain (tz : ℤ) (userId : ℕ) : Store → ℕ → List ℕ → Except TxError (Store × ℕ × ℚ)
  | s,id,[] => .ok (s,id,0)
  | s,id,planId::planIds => do
    let (s1,id1,due) ← upgradeHop tz userId s id planId
    let (s2,id2,total) ← upgradeChain tz userId s1 id1 planIds
    .ok (s2,id2,due+total)

lemma createUserSubscription_row {tz : ℤ} {s s' : Store} {userId planId id : ℕ} {plan : SubscriptionPlan}
    {source : SubscriptionSource} (h : createUserSubscriptionFromPlanTx tz s userId planId plan source = .ok (s',id)) :
    s'.plans=s.plans ∧ s'.planCache=s.planCache ∧ s'.dbTime=s.dbTime ∧
      ∃sub,s'.subscriptions.find? id = some sub ∧ sub.paidMoney=plan.priceAmount ∧ s.dbTime < sub.endTime := by
  obtain ⟨_,-,h⟩ := bind_eq_ok.mp h
  obtain ⟨_,-,h⟩ := bind_eq_ok.mp h
  obtain ⟨_,-,h⟩ := bind_eq_ok.mp h
  obtain ⟨e,he,h⟩ := bind_eq_ok.mp h
  obtain ⟨⟨users,prev⟩,-,h⟩ := bind_eq_ok.mp h
  obtain ⟨rfl,rfl⟩ := Prod.mk.inj (Except.ok.inj h)
  exact ⟨rfl,rfl,rfl,_,Table.find?_insert_self _ _,rfl,calcPlanEndTime_gt he⟩

/-- A hop leaves the plans and the time, and a subscription that was paid with the target's price. -/
lemma upgradeHop_ok {tz : ℤ} {userId : ℕ} {s s' : Store} {id planId id' : ℕ} {due : ℚ}
    (h : upgradeHop tz userId s id planId = .ok (s',id',due)) :
    ∃plan q,quoteUpgradeTx s userId id planId false = .ok (plan,q) ∧ due=q.amountDue ∧
      (∀p,getSubscriptionPlanByIdTx s' p = getSubscriptionPlanByIdTx s p) ∧ s'.dbTime=s.dbTime ∧
      ∃sub,s'.subscriptions.find? id' = some sub ∧ sub.paidMoney=plan.priceAmount ∧ s.dbTime < sub.endTime := by
  obtain ⟨⟨plan,q⟩,hq,h⟩ := bind_eq_ok.mp h
  obtain ⟨⟨s1,id1⟩,hp,h⟩ := bind_eq_ok.mp h
  obtain ⟨rfl,hrest⟩ := Prod.mk.inj (Except.ok.inj h)
  obtain ⟨rfl,rfl⟩ := Prod.mk.inj hrest
  obtain ⟨hplans,hcache,htime,sub,hsub,hpaid,hend⟩ := createUserSubscription_row hp
  refine ⟨plan,q,hq,rfl,fun p => ?_,htime,sub,hsub,hpaid,hend⟩
  unfold getSubscriptionPlanByIdTx
  rw [hplans,hcache]
  rfl

/-- What a subscription is worth towards an upgrade. -/
def worth (s : Store) (sub : UserSubscription) : ℚ :=
  remainingValue sub.paidMoney (remainingDays sub.endTime s.dbTime)

/-- A chain costs at least the price of its last target less the worth of its source, and one cent
less for every subscription in between. By induction along the chain: a hop pays for the price of
its target, which is the next worth but for one cent. -/
theorem le_upgradeChain {tz : ℤ} {userId : ℕ} (ps : List ℕ) {z : ℕ} {s s' : Store} {id id' : ℕ} {total : ℚ}
    {sub : UserSubscription} {plan : SubscriptionPlan} (hprices : ∀ p∈ps,∀plan,
      getSubscriptionPlanByIdTx s p = .ok plan → 0≤plan.priceAmount)
    (hsub : s.subscriptions.find? id = some sub) (h0 : 0 ≤ sub.paidMoney) (hz : getSubscriptionPlanByIdTx s z = .ok plan)
    (h : upgradeChain tz userId s id (ps++[z]) = .ok (s',id',total)) :
    0≤total ∧ roundTo 2 plan.priceAmount-worth s sub-ps.length/100≤total := by
  induction ps generalizing s s' id id' sub total with
  | nil =>
    obtain ⟨⟨s1,id1,due⟩,hhop,h⟩ := bind_eq_ok.mp h
    obtain ⟨plan1,q,hq,rfl,-⟩ := upgradeHop_ok hhop
    obtain ⟨-,hrest⟩ := Prod.mk.inj (Except.ok.inj h)
    obtain ⟨-,rfl⟩ := Prod.mk.inj hrest
    obtain ⟨sub1,hsub1,hplan1,-,-,hpaid,htarget,hv,-⟩ := quoteUpgradeTx_sub hq
    obtain rfl := Option.some.inj (hsub.symm.trans hsub1)
    obtain rfl := Except.ok.inj (hz.symm.trans hplan1)
    obtain ⟨-,-,hdue⟩ := quote_sums hq (by rw [hpaid]; exact h0)
    rw [hdue,htarget,hv,add_zero]
    refine ⟨le_max_left _ _,?_⟩
    have := le_max_right 0 (roundTo 2 plan.priceAmount-worth s sub)
    simp only [List.length_nil,Nat.cast_zero,zero_div,sub_zero]
    exact this
  | cons p ps ih =>
    obtain ⟨⟨s1,id1,due⟩,hhop,h⟩ := bind_eq_ok.mp h
    obtain ⟨⟨s2,id2,rest⟩,hchain,h⟩ := bind_eq_ok.mp h
    obtain ⟨-,hrest⟩ := Prod.mk.inj (Except.ok.inj h)
    obtain ⟨-,rfl⟩ := Prod.mk.inj hrest
    obtain ⟨plan1,q,hq,rfl,hplans,htime,sub1,hsub1,hpaid1,hend1⟩ := upgradeHop_ok hhop
    obtain ⟨sub0,hsub0,hplan0,-,-,hpaid,htarget,hv,-⟩ := quoteUpgradeTx_sub hq
    obtain rfl := Option.some.inj (hsub.symm.trans hsub0)
    obtain ⟨-,-,hdue⟩ := quote_sums hq (by rw [hpaid]; exact h0)
    have hp0 : 0≤plan1.priceAmount := hprices p (by simp) plan1 hplan0
    obtain ⟨hr0,hr⟩ := ih (fun p' hp' plan' h' => hprices p' (by simp [hp']) plan' (hplans p' ▸ h')) hsub1
      (by rw [hpaid1]; exact hp0) (by rw [hplans]; exact hz) hchain
    have hw : worth s1 sub1 ≤ roundTo 2 plan1.priceAmount+1/100 := by
      rw [worth,hpaid1]
      exact remainingValue_le_cent hp0 (remainingDays_pos (by rw [htime]; exact hend1)).le (remainingDays_le _ _)
    have hd0 : 0≤q.amountDue := by
      rw [hdue]
      exact le_max_left _ _
    have hd : roundTo 2 plan1.priceAmount-worth s sub≤q.amountDue := by
      rw [hdue,htarget,hv]
      exact le_max_right _ _
    refine ⟨add_nonneg hd0 hr0,?_⟩
    rw [List.length_cons]
    push_cast
    linarith

/-- A chain of upgrades costs no less than the direct upgrade, up to one cent for every hop, and
every quote is nonnegative and adds up in whole cents. -/
theorem upgrades_without_arbitrage (tz : ℤ) (userId : ℕ) (s : Store)
    (hprices : ∀p plan,getSubscriptionPlanByIdTx s p = .ok plan → 0≤plan.priceAmount)
    (hpaid : ∀id sub,s.subscriptions.find? id = some sub → 0 ≤ sub.paidMoney) :
    (∀id ps z s' id' total,upgradeChain tz userId s id (ps++[z]) = .ok (s',id',total) →
      ∀balance plan q,quoteUpgradeTx s userId id z balance = .ok (plan,q) →
        q.amountDue-(ps.length+1 : ℕ)/100≤total) ∧
    (∀id p balance plan q,quoteUpgradeTx s userId id p balance = .ok (plan,q) →
      0≤q.remainingValue ∧ q.remainingValue ≤ roundTo 2 q.currentPaidMoney+1/100 ∧
      0≤q.amountDue ∧ q.amountDue = max 0 (roundTo 2 q.targetPrice-q.remainingValue) ∧
      ((∃k : ℕ,q.currentPaidMoney*10^6 = k) → q.remainingValue ≤ roundTo 2 q.currentPaidMoney ∧
        q.amountDue+q.remainingValue = roundTo 2 q.targetPrice) ∧
      ((∃n : ℕ,q.currentPaidMoney*100 = n) → q.remainingValue≤q.currentPaidMoney ∧
        ((∃n : ℕ,q.targetPrice*100 = n) → q.amountDue+q.remainingValue = q.targetPrice))) := by
  constructor
  · intro id ps z s' id' total hchain balance plan q hq
    obtain ⟨sub,hsub,hplan,-,-,hcur,htarget,hv,-⟩ := quoteUpgradeTx_sub hq
    have h0 := hpaid id sub hsub
    obtain ⟨ht0,ht⟩ := le_upgradeChain ps (fun p _ plan hp => hprices p plan hp) hsub h0 hplan hchain
    obtain ⟨-,-,hdue⟩ := quote_sums hq (by rw [hcur]; exact h0)
    rw [hdue,htarget,hv,←worth]
    push_cast
    have hlen : (0 : ℚ)≤ps.length := Nat.cast_nonneg _
    rcases le_total 0 (roundTo 2 plan.priceAmount-worth s sub) with hle | hle
    · rw [max_eq_right hle]
      linarith
    · rw [max_eq_left hle]
      linarith
  · intro id p balance plan q hq
    obtain ⟨sub,hsub,-,-,-,hcur,-⟩ := quoteUpgradeTx_sub hq
    have h0 : 0≤q.currentPaidMoney := hcur ▸ hpaid id sub hsub
    obtain ⟨hv0,hv1,hdue⟩ := quote_sums hq h0
    refine ⟨hv0,hv1,by rw [hdue]; exact le_max_left _ _,hdue,fun ⟨k,hk⟩ => quote_sums_millionths hq hk,?_⟩
    rintro ⟨n,hn⟩
    have hk : q.currentPaidMoney*10^6 = (n*10^4 : ℕ) := by
      push_cast
      linarith
    obtain ⟨hle,hsum⟩ := quote_sums_millionths hq hk
    refine ⟨by rwa [roundTo_cents hn] at hle,?_⟩
    rintro ⟨m,hm⟩
    rwa [roundTo_cents hm] at hsum

/-! ## Runs -/

/-- A shop with the prices 9.99, 29.99 and 59.99, and a subscription of the cheapest plan that is
half over. -/
def threePlanShop : Store :=
  let plans := ((Table.empty.insert (shopPlan (999/100) "")).insert (shopPlan (2999/100) "")).insert (shopPlan (5999/100) "")
  { shop plans with
    subscriptions := Table.empty.insert (newUserSubscription 0 (-1295000) 1 1 (shopPlan (999/100) "") .order 1297000 "") }

lemma threePlanShop_prices : ∀p plan,getSubscriptionPlanByIdTx threePlanShop p = .ok plan → 0≤plan.priceAmount := by
  intro p plan h
  match p with
  | 0 => cases h
  | 1 | 2 | 3 =>
    obtain rfl := Except.ok.inj h
    decide +kernel
  | n+4 => cases h

lemma threePlanShop_paid : ∀id sub,threePlanShop.subscriptions.find? id = some sub → 0 ≤ sub.paidMoney := by
  intro id sub h
  match id with
  | 0 => cases h
  | 1 =>
    obtain rfl := Option.some.inj h
    decide +kernel
  | n+2 => cases h

theorem upgrades_without_arbitrage_twoHops : ∃s' id' total plan q,
    upgradeChain 0 1 threePlanShop 1 [2,3] = .ok (s',id',total) ∧ quoteUpgradeTx threePlanShop 1 1 3 true = .ok (plan,q) ∧
      q.amountDue-2/100≤total := by
  have hchain : (upgradeChain 0 1 threePlanShop 1 [2,3]).toOption.isSome = true := by decide +kernel
  have hquote : (quoteUpgradeTx threePlanShop 1 1 3 true).toOption.isSome = true := by decide +kernel
  obtain ⟨⟨s',id',total⟩,h⟩ := Option.isSome_iff_exists.mp hchain
  obtain ⟨⟨plan,q⟩,hq⟩ := Option.isSome_iff_exists.mp hquote
  rw [toOption_eq_some] at h hq
  exact ⟨s',id',total,plan,q,h,hq,
    (upgrades_without_arbitrage 0 1 threePlanShop threePlanShop_prices threePlanShop_paid).1 1 [2] 3 s' id' total h true
      plan q hq⟩

/-- A plan for 9.995 is worth 10.00 on its first day, and the quote for a plan of 19.995 adds up to
20.00. -/
theorem halfCent_quote :
    (quoteUpgradeLocked 1 (newUserSubscription 0 1000 1 1 (shopPlan (1999/200) "") .order 2593000 "") 2
        (shopPlan (3999/200) "") 1000).toOption.map (fun q => (q.currentPaidMoney,q.remainingValue,q.targetPrice,q.amountDue)) =
      some (1999/200,10,3999/200,10) := by
  decide +kernel

end Tierflow
