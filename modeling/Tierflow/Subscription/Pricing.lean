import Tierflow.Foundation.Rounding
import Tierflow.Foundation.Transaction
import Tierflow.Store.Schema

/-! Prices of subscriptions: the conversion of a price into wallet quota, the quote of an upgrade,
and the amounts that orders record in their payload text. Each rounding is bounded once here. -/
namespace Tierflow
open Rounding

def subscriptionPeriodDays : ℤ := 30

def quotaUnitInvalidMessage : String := "额度单位配置错误"
def exchangeRateInvalidMessage : String := "汇率配置错误"

/-- A price is turned into dollars and then into quota, rounded up. -/
def calcSubscriptionBalanceQuota (S : Settings) (priceAmount : ℚ) : Except TxError ℤ :=
  if priceAmount≤0 then .ok 0
  else if S.quotaPerUnit≤0 then .error (.message quotaUnitInvalidMessage)
  else if S.usdExchangeRate≤0 then .error (.message exchangeRateInvalidMessage)
  else .ok ⌈quotient priceAmount S.usdExchangeRate*S.quotaPerUnit⌉

structure SubscriptionUpgradeQuote where
  currentSubscriptionId : ℕ
  currentPlanId : ℕ
  currentPaidMoney : ℚ
  remainingDays : ℤ
  remainingValue : ℚ
  targetPlanId : ℕ
  targetPrice : ℚ
  amountDue : ℚ
  deriving DecidableEq

def upgradeSourceInactiveMessage : String := "当前订阅已失效,无法升级"
def upgradeSamePlanMessage : String := "目标套餐与当前套餐相同"
def upgradeNotHigherMessage : String := "仅支持升级到更高价格的套餐"

/-- Started days count as whole days, and no more than one period counts. -/
def remainingDays (endTime now : ℤ) : ℤ := min ⌈((endTime-now : ℤ) : ℚ)/86400⌉ subscriptionPeriodDays

def remainingValue (paidMoney : ℚ) (days : ℤ) : ℚ := roundTo 2 (quotient paidMoney subscriptionPeriodDays*days)

def amountDue (targetPrice value : ℚ) : ℚ := max 0 (roundTo 2 (targetPrice-value))

def quoteUpgradeLocked (id : ℕ) (sub : UserSubscription) (targetPlanId : ℕ) (targetPlan : SubscriptionPlan)
    (now : ℤ) : Except TxError SubscriptionUpgradeQuote := do
  require (.message upgradeSourceInactiveMessage) (sub.status = .active ∧ now < sub.endTime)
  require (.message upgradeSamePlanMessage) (targetPlanId≠sub.planId)
  require (.message upgradeNotHigherMessage) (sub.paidMoney<targetPlan.priceAmount)
  let days := remainingDays sub.endTime now
  let value := remainingValue sub.paidMoney days
  .ok {
    currentSubscriptionId := id
    currentPlanId := sub.planId
    currentPaidMoney := sub.paidMoney
    remainingDays := days
    remainingValue := value
    targetPlanId := targetPlanId
    targetPrice := targetPlan.priceAmount
    amountDue := amountDue targetPlan.priceAmount value }

/-! ## Payloads -/

def chargedQuotaField (quota : ℤ) : String := "charged_quota="++Text.printInt quota

/-- The payload of a new purchase. -/
def purchasePayload (quota : ℤ) : String := chargedQuotaField quota

def fromSubscriptionField (id : ℕ) : String := "from_subscription="++Text.printNat id
def remainingValueField (value : ℚ) : String := "remaining_value="++Text.printFixed2 value

/-- The payload of an upgrade from the wallet. -/
def upgradePayload (id : ℕ) (value : ℚ) (quota : ℤ) : String :=
  fromSubscriptionField id++" "++(remainingValueField value++" "++chargedQuotaField quota)

/-- The rest of the first field that starts with a key. -/
def payloadField (payload key : String) : Option String :=
  (Text.fields payload).findSome? (fun field => Text.cutPrefix field key)

def parseChargedQuota (payload : String) : ℤ :=
  ((payloadField payload "charged_quota=").bind Text.parseInt64).getD 0

def parseRemainingValue (payload : String) : Option ℚ :=
  (payloadField payload "remaining_value=").bind Text.parseDecimal

section Payload
variable {quota : ℤ} {value : ℚ} {id : ℕ}

lemma printInt_noSpace (h : 0≤quota) : ∀ c∈(Text.printInt quota).toList, Text.isSpace c = false := by
  rw [Text.printInt,if_neg (not_lt.mpr h)]
  exact Text.printNat_noSpace _

lemma printFixed2_noSpace (value : ℚ) : ∀ c∈(Text.printFixed2 value).toList, Text.isSpace c = false := by
  intro c hc
  unfold Text.printFixed2 at hc
  rw [String.toList_append,String.toList_ofList,List.mem_append,List.mem_append] at hc
  have hdigit : ∀ d : ℕ, d<10 → Text.isSpace (Nat.digitChar d) = false := by
    intro d hd
    exact Text.isSpace_of_isDigit (Text.digitChar_isDigit hd)
  rcases hc with hc | hc | hc
  · split_ifs at hc
    · rw [show ("-" : String).toList = ['-'] from rfl,List.mem_singleton] at hc
      subst c
      decide
    · simp at hc
  · exact Text.isSpace_of_isDigit (Nat.isDigit_of_mem_toDigits (by decide) (by decide) hc)
  · simp only [List.mem_cons,List.not_mem_nil,or_false] at hc
    rcases hc with rfl | rfl | rfl
    · decide
    · exact hdigit _ (by omega)
    · exact hdigit _ (by omega)

lemma isWord_chargedQuota (h : 0≤quota) : Text.IsWord (chargedQuotaField quota) :=
  Text.IsWord.append (by decide) (printInt_noSpace h)

lemma isWord_fromSubscription (id : ℕ) : Text.IsWord (fromSubscriptionField id) :=
  Text.IsWord.append (by decide) (Text.printNat_noSpace id)

lemma isWord_remainingValue (value : ℚ) : Text.IsWord (remainingValueField value) :=
  Text.IsWord.append (by decide) (printFixed2_noSpace value)

lemma fields_purchasePayload (h : 0≤quota) : Text.fields (purchasePayload quota) = [chargedQuotaField quota] :=
  Text.fields_word (isWord_chargedQuota h)

lemma fields_upgradePayload (h : 0≤quota) : Text.fields (upgradePayload id value quota) =
    [fromSubscriptionField id,remainingValueField value,chargedQuotaField quota] := by
  rw [upgradePayload,Text.fields_cons (isWord_fromSubscription id),Text.fields_cons (isWord_remainingValue value),
    Text.fields_word (isWord_chargedQuota h)]

/-- A text does not start with a key that has another first character. -/
lemma cutPrefix_other {s key : String} (t : String) (hs : s.toList≠[]) (h : key.toList.head?≠s.toList.head?)
    (hk : key.toList≠[]) : Text.cutPrefix (s++t) key = none := by
  obtain ⟨a,as,ha⟩ := List.exists_cons_of_ne_nil hs
  obtain ⟨b,bs,hb⟩ := List.exists_cons_of_ne_nil hk
  rw [ha,hb,List.head?_cons,List.head?_cons,ne_eq,Option.some.injEq] at h
  rw [Text.cutPrefix,String.toList_append,ha,hb]
  simp [List.isPrefixOf,h]

lemma cutPrefix_fromSubscription (id : ℕ) : Text.cutPrefix (fromSubscriptionField id) "charged_quota=" = none :=
  cutPrefix_other _ (by decide) (by decide) (by decide)

lemma cutPrefix_fromSubscription' (id : ℕ) : Text.cutPrefix (fromSubscriptionField id) "remaining_value=" = none :=
  cutPrefix_other _ (by decide) (by decide) (by decide)

lemma cutPrefix_remainingValue (value : ℚ) : Text.cutPrefix (remainingValueField value) "charged_quota=" = none :=
  cutPrefix_other _ (by decide) (by decide) (by decide)

/-- The charge that a refund reads is the recorded one, or zero when it exceeds sixty-four bits. -/
theorem parseChargedQuota_purchase (h : 0≤quota) :
    parseChargedQuota (purchasePayload quota) = if quota<2^63 then quota else 0 := by
  unfold parseChargedQuota payloadField
  rw [fields_purchasePayload h,List.findSome?_cons,chargedQuotaField,Text.cutPrefix_append]
  simp only [Option.bind_some,Text.parseInt64_printInt h]
  split_ifs <;> rfl

theorem parseChargedQuota_upgrade (h : 0≤quota) :
    parseChargedQuota (upgradePayload id value quota) = if quota<2^63 then quota else 0 := by
  unfold parseChargedQuota payloadField
  rw [fields_upgradePayload h,List.findSome?_cons,cutPrefix_fromSubscription,List.findSome?_cons,
    cutPrefix_remainingValue,List.findSome?_cons,chargedQuotaField,Text.cutPrefix_append]
  simp only [Option.bind_some,Text.parseInt64_printInt h]
  split_ifs <;> rfl

theorem parseRemainingValue_upgrade (h : 0≤quota) {n : ℕ} (hn : value*100 = n) :
    parseRemainingValue (upgradePayload id value quota) = some value := by
  unfold parseRemainingValue payloadField
  rw [fields_upgradePayload h,List.findSome?_cons,cutPrefix_fromSubscription',List.findSome?_cons,
    remainingValueField,Text.cutPrefix_append]
  exact Text.parseDecimal_printFixed2 hn

end Payload

/-! ## Rounding -/

/-- The quota of one unit of price; zero when the settings admit no conversion. -/
def quotaRate (S : Settings) : ℚ :=
  if 0<S.quotaPerUnit ∧ 0<S.usdExchangeRate then S.quotaPerUnit/S.usdExchangeRate else 0

/-- What the sixteen places of the division can cost. -/
def divisionSlack (S : Settings) : ℚ := max 0 S.quotaPerUnit/(2*10^16)

lemma quotaRate_nonneg (S : Settings) : 0≤quotaRate S := by
  unfold quotaRate
  split_ifs with h
  · exact div_nonneg h.1.le h.2.le
  · exact le_rfl

lemma divisionSlack_nonneg (S : Settings) : 0≤divisionSlack S := by
  unfold divisionSlack
  positivity

/-- The quota of a price is its exact value, up to the division and one unit of rounding up. -/
theorem calcSubscriptionBalanceQuota_bounds {S : Settings} {p : ℚ} {q : ℤ}
    (h : calcSubscriptionBalanceQuota S p = .ok q) :
    0≤q ∧ quotaRate S*p≤q+divisionSlack S ∧ (q : ℚ)≤quotaRate S*max 0 p+divisionSlack S+1 := by
  have hr := quotaRate_nonneg S
  have hs := divisionSlack_nonneg S
  unfold calcSubscriptionBalanceQuota at h
  split_ifs at h with hp hq hx
  · obtain rfl := Except.ok.inj h
    have hneg : quotaRate S*p≤0 := mul_nonpos_of_nonneg_of_nonpos hr hp
    have hzero : 0≤quotaRate S*max 0 p := mul_nonneg hr (le_max_left 0 p)
    refine ⟨le_rfl,?_,?_⟩
    · push_cast
      linarith
    · push_cast
      linarith
  · obtain rfl := Except.ok.inj h
    rw [not_le] at hp hq hx
    have hrate : quotaRate S = S.quotaPerUnit/S.usdExchangeRate := if_pos ⟨hq,hx⟩
    have hslack : divisionSlack S = S.quotaPerUnit/(2*10^16) := by rw [divisionSlack,max_eq_right hq.le]
    have hexact : quotaRate S*p = p/S.usdExchangeRate*S.quotaPerUnit := by
      rw [hrate]
      ring
    obtain ⟨hl,hu⟩ := quotient_bounds p S.usdExchangeRate
    have hlow := mul_le_mul_of_nonneg_right hl hq.le
    have hup := mul_le_mul_of_nonneg_right hu hq.le
    have hc := Int.le_ceil (quotient p S.usdExchangeRate*S.quotaPerUnit)
    have hc' := Int.ceil_lt_add_one (quotient p S.usdExchangeRate*S.quotaPerUnit)
    have hnn : 0≤quotient p S.usdExchangeRate*S.quotaPerUnit :=
      mul_nonneg (quotient_nonneg hp.le hx.le) hq.le
    have hsplit : (1 : ℚ)/(2*10^16)*S.quotaPerUnit = divisionSlack S := by
      rw [hslack]
      ring
    rw [sub_mul,hsplit,←hexact] at hlow
    rw [add_mul,hsplit,←hexact] at hup
    refine ⟨Int.ceil_nonneg hnn,by linarith,?_⟩
    rw [max_eq_right hp.le]
    linarith

lemma remainingDays_le (endTime now : ℤ) : remainingDays endTime now≤30 := min_le_right _ _

lemma remainingDays_pos {endTime now : ℤ} (h : now<endTime) : 0 < remainingDays endTime now := by
  apply lt_min
  · apply Int.ceil_pos.mpr
    have hpos : (0 : ℚ)<((endTime-now : ℤ) : ℚ) := by exact_mod_cast sub_pos.mpr h
    positivity
  · decide

/-- The remaining value is at most what was paid, up to the division and half a cent. -/
theorem remainingValue_bounds {paid : ℚ} {days : ℤ} (hp : 0≤paid) (h0 : 0≤days) (h30 : days≤30) :
    0 ≤ remainingValue paid days ∧ remainingValue paid days≤paid+15/10^16+1/200 := by
  have hd0 : (0 : ℚ)≤days := by exact_mod_cast h0
  have hd30 : (days : ℚ)≤30 := by exact_mod_cast h30
  have hq0 : 0≤quotient paid subscriptionPeriodDays := quotient_nonneg hp (by decide)
  obtain ⟨-,hqu⟩ := quotient_bounds paid subscriptionPeriodDays
  have hthirty : ((subscriptionPeriodDays : ℤ) : ℚ)=30 := rfl
  rw [hthirty] at hqu hq0
  constructor
  · exact roundTo_nonneg 2 (mul_nonneg hq0 hd0)
  · obtain ⟨-,hru⟩ := roundTo_bounds 2 (quotient paid 30*days)
    have hmul : quotient paid 30*days≤quotient paid 30*30 := mul_le_mul_of_nonneg_left hd30 hq0
    unfold remainingValue
    rw [hthirty]
    norm_num at hru hqu ⊢
    linarith

/-- The price of the target is at most the remaining value and the amount due together, up to half a cent. -/
theorem le_amountDue (target value : ℚ) : target≤value+amountDue target value+1/200 := by
  obtain ⟨hl,-⟩ := roundTo_bounds 2 (target-value)
  have hm := le_max_right 0 (roundTo 2 (target-value))
  unfold amountDue
  norm_num at hl
  linarith

/-- A nonnegative remaining value is a whole number of cents. -/
lemma remainingValue_cents {paid : ℚ} {days : ℤ} (h : 0 ≤ remainingValue paid days) :
    ∃ n : ℕ, remainingValue paid days*100 = n := by
  have hm := roundTo_mul_pow 2 (quotient paid subscriptionPeriodDays*days)
  have he : remainingValue paid days*100 = nearest (quotient paid subscriptionPeriodDays*days*10^2) := by
    rw [←hm,remainingValue]
    norm_num
  have hnn : 0≤nearest (quotient paid subscriptionPeriodDays*days*10^2) := by
    have hq : (0 : ℚ)≤nearest (quotient paid subscriptionPeriodDays*days*10^2) := by
      rw [←he]
      positivity
    exact_mod_cast hq
  obtain ⟨n,hn⟩ := Int.eq_ofNat_of_zero_le hnn
  exact ⟨n,by rw [he,hn]; rfl⟩

lemma quoteUpgradeLocked_ok {id targetPlanId : ℕ} {sub : UserSubscription} {targetPlan : SubscriptionPlan} {now : ℤ}
    {q : SubscriptionUpgradeQuote} (h : quoteUpgradeLocked id sub targetPlanId targetPlan now = .ok q) :
    sub.status = .active ∧ now < sub.endTime ∧ sub.paidMoney<targetPlan.priceAmount ∧
      q.remainingValue = remainingValue sub.paidMoney (remainingDays sub.endTime now) ∧
      q.amountDue = amountDue targetPlan.priceAmount q.remainingValue := by
  obtain ⟨_,ha,h⟩ := bind_eq_ok.mp h
  obtain ⟨_,-,h⟩ := bind_eq_ok.mp h
  obtain ⟨_,hp,h⟩ := bind_eq_ok.mp h
  obtain rfl := Except.ok.inj h
  exact ⟨(require_eq_ok.mp ha).1,(require_eq_ok.mp ha).2,require_eq_ok.mp hp,rfl,rfl⟩

end Tierflow
