import Tierflow.TopUp.CreditOnce

/-! A top-up whose amount is given in tokens. The request is charged for the exact quotient of the
tokens and `QuotaPerUnit`, but the order stores a whole number of units; the callback multiplies
that number back. Machine integers are 64 bits wide; decimals are exact, with quotients of sixteen
places. -/
namespace Tierflow
open Rounding

/-- A 64-bit integer from the value of a decimal. -/
def int64 (z : ℤ) : ℤ := Int.bmod z (2^64)

structure EpaySettings where
  settings : Settings
  /-- Whether quotas are displayed, and requested, in tokens. -/
  displayTokens : Bool
  minTopUp : ℤ
  price : ℚ
  topupGroupRatio : String → Option ℚ
  amountDiscount : ℤ → Option ℚ
  payMethods : List String
  clientConfigured : Bool

structure EpayRequest where
  amount : ℤ
  paymentMethod : String
  amount_range : -2^63≤amount ∧ amount<2^63

def topupGroupMessage : String := "获取用户分组失败"
def topupTooLowMessage : String := "充值金额过低"
def payMethodMessage : String := "支付方式不存在"
def epayClientMessage : String := "当前管理员未配置支付信息"
def epayPurchaseMessage : String := "拉起支付失败"
def topupInsertMessage : String := "创建订单失败"
def minTopupMessage (n : ℤ) : String := "充值数量不能小于 "++toString n
/-- The panic of a decimal division. -/
def divisionMessage : String := "decimal division by 0"

/-- Unknown groups count once. -/
def getTopupGroupRatio (S : EpaySettings) (group : String) : ℚ := (S.topupGroupRatio group).getD 1

def getMinTopup (S : EpaySettings) : ℤ :=
  if S.displayTokens then int64 (intPart (S.minTopUp*S.settings.quotaPerUnit)) else S.minTopUp

section
/- `float64` is the rounding of `InexactFloat64`. -/
variable (float64 : ℚ → ℚ)

def getPayMoney (S : EpaySettings) (amount : ℤ) (group : String) : ℚ :=
  let dAmount := if S.displayTokens then quotient amount S.settings.quotaPerUnit else amount
  let ratio := if getTopupGroupRatio S group = 0 then 1 else getTopupGroupRatio S group
  let discount := match S.amountDiscount amount with
    | some ds => if 0<ds then ds else 1
    | none => 1
  float64 (dAmount*S.price*ratio*discount)

/-- The number of units that the order stores. -/
def epayAmount (S : EpaySettings) (amount : ℤ) : ℤ :=
  if S.displayTokens then int64 (intPart (quotient amount S.settings.quotaPerUnit)) else amount

def epayTopUp (S : EpaySettings) (userId : ℕ) (group : String) (req : EpayRequest) (tradeNo : String) (now : ℤ) :
    TopUp where
  userId := userId
  amount := epayAmount S req.amount
  money := getPayMoney float64 S req.amount group
  tradeNo := tradeNo
  paymentMethod := req.paymentMethod
  paymentProvider := .epay
  createTime := now
  completeTime := 0
  status := .pending

/-- `group` is the stored group of the user, `purchased` and `inserted` say whether the payment
gateway and the database answer. Trade numbers are unique. -/
def requestEpay (S : EpaySettings) (userId : ℕ) (group : Option String) (purchased inserted : Bool) (req : EpayRequest)
    (tradeNo : String) (now : ℤ) (s : Store) : Except TxError Store := do
  require (.message (minTopupMessage (getMinTopup S))) (getMinTopup S ≤ req.amount)
  let group ← orFail (.message topupGroupMessage) group
  require (.message divisionMessage) (S.displayTokens = true → S.settings.quotaPerUnit≠0)
  require (.message topupTooLowMessage) (float64 (1/100)≤getPayMoney float64 S req.amount group)
  require (.message payMethodMessage) (req.paymentMethod∈S.payMethods)
  require (.message epayClientMessage) (S.clientConfigured = true)
  require (.message epayPurchaseMessage) (purchased = true)
  require (.message topupInsertMessage) (inserted = true ∧ getTopUpByTradeNo s tradeNo = none)
  .ok { s with topUps := s.topUps.insert (epayTopUp float64 S userId group req tradeNo now) }

end

/-- The quota of an order, in a machine integer. -/
def epayQuota (S : Settings) (amount : ℤ) : ℤ := int64 (intPart (amount*S.quotaPerUnit))

/-- A callback with a verified successful payment that nothing disturbs. -/
def epayNotify (S : Settings) (tradeNo type : String) (now : ℤ) (s : Store) : Store × List TopUpEvent :=
  match readTopUp s tradeNo with
  | .loaded id topUp =>
    let saved := { s with topUps := s.topUps.set id (paidTopUp type now topUp) }
    match increaseUserQuota saved topUp.userId (epayQuota S topUp.amount) with
    | .ok s' => (s',[.succeeded,.credited topUp.userId (epayQuota S topUp.amount)])
    | .error _ => (saved,[.succeeded])
  | _ => (s,[])

/-! ## The arithmetic -/

lemma int64_eq {z : ℤ} (hl : -2^63≤z) (hu : z<2^63) : int64 z = z := by
  unfold int64
  apply Int.bmod_eq_of_le <;> norm_num <;> omega

lemma int64_range (z : ℤ) : -2^63 ≤ int64 z ∧ int64 z<2^63 := by
  unfold int64 Int.bmod
  norm_num
  split_ifs <;> constructor <;> omega

lemma abs_int64_le (z : ℤ) : |int64 z| ≤ |z| := by
  unfold int64 Int.bmod
  norm_num
  rcases abs_cases z with ⟨hz,h0⟩ | ⟨hz,h0⟩ <;> rw [hz] <;> split_ifs <;> rw [abs_le] <;> constructor <;> omega

lemma int64_dvd (z : ℤ) : ∃k : ℤ, int64 z = z+k*2^64 := by
  unfold int64 Int.bmod
  norm_num
  split_ifs
  · exact ⟨-(z/18446744073709551616),by omega⟩
  · exact ⟨-(z/18446744073709551616)-1,by omega⟩

/-- In range, the quota is the one that a completion by an administrator grants. -/
theorem epayQuota_eq {S : Settings} {amount : ℤ} (hl : -2^63≤topUpQuota S amount) (hu : topUpQuota S amount<2^63) :
    epayQuota S amount = topUpQuota S amount := int64_eq hl hu

/-- The multiple of `Q` that the stored number of units stands for lies between zero and the
amount, up to the rounding of the quotient. -/
lemma units_bounds {t : ℤ} {Q : ℚ} (ht : 0≤t) (hQ : Q≠0) :
    0≤(intPart (quotient t Q) : ℚ)*Q ∧ (intPart (quotient t Q) : ℚ)*Q≤t+|Q|/(2*10^16) := by
  have ht' : (0 : ℚ)≤t := by exact_mod_cast ht
  obtain ⟨hl,hu⟩ := quotient_bounds (t : ℚ) Q
  set r := quotient (t : ℚ) Q with hr
  have hrQ : r*Q≤t+|Q|/(2*10^16) ∧ 0 ≤ r*Q := by
    rcases lt_or_gt_of_ne hQ with h | h
    · have hr0 : r≤0 := by
        have h0 : (0 : ℚ)≤quotient t (-Q) := quotient_nonneg ht' (by linarith)
        rw [quotient,div_neg,roundTo_neg] at h0
        rw [hr,quotient]
        linarith
      rw [abs_of_neg h]
      refine ⟨?_,mul_nonneg_of_nonpos_of_nonpos hr0 h.le⟩
      calc r*Q≤(t/Q-1/(2*10^16))*Q := mul_le_mul_of_nonpos_right hl h.le
        _ = t+-Q/(2*10^16) := by field_simp; ring
    · rw [abs_of_pos h]
      refine ⟨?_,mul_nonneg (quotient_nonneg ht' h.le) h.le⟩
      calc r*Q≤(t/Q+1/(2*10^16))*Q := mul_le_mul_of_nonneg_right hu h.le
        _ = t+Q/(2*10^16) := by field_simp
  have hi : |(intPart r : ℚ)*Q| ≤ |r*Q| := by
    rw [abs_mul,abs_mul]
    exact mul_le_mul_of_nonneg_right (abs_intPart_le r) (abs_nonneg Q)
  have hs : 0≤(intPart r : ℚ)*Q := by
    unfold intPart
    rcases lt_or_gt_of_ne hQ with h | h
    · have hr0 : r≤0 := by nlinarith [hrQ.2]
      split_ifs with h0
      · have : r=0 := le_antisymm hr0 h0
        simp [this]
      · exact mul_nonneg_of_nonpos_of_nonpos (by exact_mod_cast Int.ceil_le.mpr (by push_cast; linarith)) h.le
    · have hr0 : 0 ≤ r := by nlinarith [hrQ.2]
      rw [if_pos hr0]
      exact mul_nonneg (by exact_mod_cast Int.floor_nonneg.mpr hr0) h.le
  rw [abs_of_nonneg hs,abs_of_nonneg hrQ.2] at hi
  exact ⟨hs,hi.trans hrQ.1⟩

/-- An integer at which `Q` times it is just above the amount is what the quotient rounds to. -/
lemma intPart_quotient {t n : ℤ} {Q : ℚ} (ht : 0≤t) (hQ : Q≠0) (hl : (t : ℚ)≤n*Q) (hu : n*Q-t≤|Q|/(2*10^16)) :
    intPart (quotient t Q) = n := by
  have ht' : (0 : ℚ)≤t := by exact_mod_cast ht
  have hq : quotient t Q = n := by
    rcases lt_or_gt_of_ne hQ with h | h
    · rw [abs_of_neg h] at hu
      have h1 : (t : ℚ)/(-Q)≤((-n : ℤ) : ℚ) := by
        rw [div_le_iff₀ (by linarith)]
        push_cast
        linarith
      have h2 : ((-n : ℤ) : ℚ)≤t/(-Q)+1/(2*10^16) := by
        have : ((-n : ℤ) : ℚ) = (n*Q)/(-Q) := by
          push_cast
          field_simp
        rw [this,div_le_iff₀ (by linarith)]
        calc n*Q≤t+-Q/(2*10^16) := by linarith
          _ = (t/(-Q)+1/(2*10^16))*(-Q) := by field_simp; ring
      have h3 := roundTo_of_le 16 (div_nonneg ht' (by linarith)) h1 h2
      rw [div_neg,roundTo_neg] at h3
      rw [quotient]
      push_cast at h3
      linarith
    · rw [abs_of_pos h] at hu
      refine roundTo_of_le 16 (div_nonneg ht' h.le) ?_ ?_
      · rwa [div_le_iff₀ h]
      · rw [←sub_le_iff_le_add',sub_le_iff_le_add',←sub_le_iff_le_add]
        have : (n : ℚ)-1/(2*10^16) = (n*Q-Q/(2*10^16))/Q := by field_simp
        rw [this,div_le_div_iff_of_pos_right h]
        linarith
  rw [hq,intPart]
  split_ifs
  · exact Int.floor_intCast n
  · exact Int.ceil_intCast n

/-- The amount is a whole number of units in a machine integer, cut to an integer, where that
number exceeds the exact quotient by no more than the rounding of quotients can hide. -/
def WholeUnits (Q : ℚ) (t : ℤ) : Prop :=
  ∃n : ℤ,-2^63≤n ∧ n<2^63 ∧ (t : ℚ)≤n*Q ∧ n*Q<t+1 ∧ n*Q-t≤|Q|/(2*10^16)

/-- Where `QuotaPerUnit` is an integer, the whole units are its multiples. -/
theorem wholeUnits_iff_dvd {Q t : ℤ} (hQ : 0<Q) (ht : 0≤t) (htu : t<2^63) : WholeUnits Q t ↔ Q∣t := by
  constructor
  · rintro ⟨n,-,-,hl,hlt,-⟩
    refine ⟨n,?_⟩
    have h1 : t≤n*Q := by exact_mod_cast hl
    have h2 : n*Q<t+1 := by exact_mod_cast hlt
    linarith
  · rintro ⟨n,rfl⟩
    have hn : 0≤n := nonneg_of_mul_nonneg_right ht hQ
    have hle : n≤Q*n := le_mul_of_one_le_left hn hQ
    refine ⟨n,by omega,by omega,?_,?_,?_⟩
    · push_cast
      linarith
    · push_cast
      linarith
    · push_cast
      rw [mul_comm,sub_self]
      positivity

theorem units_back_iff {t : ℤ} {Q : ℚ} (ht : 0≤t) (htu : t<2^63) (hQ : Q≠0) :
    int64 (intPart (int64 (intPart (quotient t Q))*Q)) = t ↔ WholeUnits Q t := by
  have ht' : (0 : ℚ)≤t := by exact_mod_cast ht
  have htu' : (t : ℚ)≤2^63-1 := by exact_mod_cast Int.le_sub_one_of_lt htu
  constructor
  · intro h
    rcases ht.eq_or_lt with rfl | hpos
    · exact ⟨0,by norm_num,by norm_num,by simp,by simp,by simp; positivity⟩
    set m := intPart (quotient t Q) with hm
    set n := int64 m with hn
    obtain ⟨h0,hle⟩ := units_bounds ht hQ
    rw [←hm] at h0 hle
    have hQp : 0 < |Q| := abs_pos.mpr hQ
    -- Wrapping around does not make the number of units greater.
    have hnm : |(n : ℚ)*Q| ≤ m*Q := by
      rw [←abs_of_nonneg h0,abs_mul,abs_mul]
      exact mul_le_mul_of_nonneg_right (by exact_mod_cast abs_int64_le m) hQp.le
    have hm0 : m≠0 := by
      intro hz
      have : n=0 := by rw [hn,hz]; rfl
      rw [this] at h
      simp [intPart,int64] at h
      omega
    have habs : |(m : ℚ)| * |Q| ≤ t+|Q|/(2*10^16) := by
      rw [←abs_mul,abs_of_nonneg h0]
      exact hle
    have hm1 : (1 : ℚ)≤|(m : ℚ)| := by exact_mod_cast Int.one_le_abs hm0
    have hQt : |Q|≤2*t := by nlinarith
    have hcut : |(intPart (n*Q) : ℚ)|≤t+|Q|/(2*10^16) := (abs_intPart_le _).trans (hnm.trans hle)
    obtain ⟨k,hk⟩ := int64_dvd (intPart (n*Q))
    rw [h] at hk
    have hk0 : k=0 := by
      rcases lt_trichotomy k 0 with hneg | hz | hp
      · exfalso
        have : (intPart (n*Q) : ℚ) = t-k*2^64 := by rw [hk]; push_cast; ring
        rw [this,abs_le] at hcut
        have hk1 : (k : ℚ)≤-1 := by exact_mod_cast Int.le_sub_one_of_lt hneg
        nlinarith
      · exact hz
      · exfalso
        have hk1 : (1 : ℚ)≤k := by exact_mod_cast hp
        have he : (intPart (n*Q) : ℚ) = t-k*2^64 := by rw [hk]; push_cast; ring
        by_cases hw : |m|<2^63
        · have hnn : n=m := int64_eq (by rw [abs_lt] at hw; omega) (by rw [abs_lt] at hw; omega)
          have : 0≤(intPart (n*Q) : ℚ) := by
            rw [hnn,intPart_of_nonneg h0]
            exact_mod_cast Int.floor_nonneg.mpr h0
          nlinarith
        · have hw' : (2 : ℚ)^63≤|(m : ℚ)| := by exact_mod_cast not_lt.mp hw
          have hQ1 : |Q|≤2 := by nlinarith
          rw [he,abs_le] at hcut
          linarith [hcut.1]
    subst hk0
    have hcutt : intPart (n*Q) = t := by omega
    have hnQ : 0<(n : ℚ)*Q := by
      by_contra hc
      have hz : intPart (n*Q)≤0 := by
        unfold intPart
        split_ifs with h1
        · have : (n : ℚ)*Q = 0 := le_antisymm (not_lt.mp hc) h1
          simp [this]
        · exact Int.ceil_le.mpr (by push_cast; linarith)
      omega
    rw [intPart_of_nonneg hnQ.le,Int.floor_eq_iff] at hcutt
    rw [abs_of_pos hnQ] at hnm
    obtain ⟨hr1,hr2⟩ := int64_range m
    exact ⟨n,hr1,hr2,hcutt.1,hcutt.2,by linarith⟩
  · rintro ⟨n,hn1,hn2,hl,hlt,hu⟩
    rw [intPart_quotient ht hQ hl hu,int64_eq hn1 hn2,intPart_of_nonneg (ht'.trans hl)]
    rw [Int.floor_eq_iff.mpr ⟨hl,hlt⟩]
    exact int64_eq (by omega) htu

/-! ## The request and the payment -/

lemma requestEpay_ok {float64 : ℚ → ℚ} {S : EpaySettings} {userId : ℕ} {group : Option String}
    {purchased inserted : Bool} {req : EpayRequest} {tradeNo : String} {now : ℤ} {s s' : Store}
    (h : requestEpay float64 S userId group purchased inserted req tradeNo now s = .ok s') :
    (S.displayTokens = true → S.settings.quotaPerUnit≠0) ∧ getTopUpByTradeNo s tradeNo = none ∧
      ∃g,s'={ s with topUps := s.topUps.insert (epayTopUp float64 S userId g req tradeNo now) } := by
  obtain ⟨_,-,h⟩ := bind_eq_ok.mp h
  obtain ⟨g,-,h⟩ := bind_eq_ok.mp h
  obtain ⟨_,hQ,h⟩ := bind_eq_ok.mp h
  obtain ⟨_,-,h⟩ := bind_eq_ok.mp h
  obtain ⟨_,-,h⟩ := bind_eq_ok.mp h
  obtain ⟨_,-,h⟩ := bind_eq_ok.mp h
  obtain ⟨_,-,h⟩ := bind_eq_ok.mp h
  obtain ⟨_,hi,h⟩ := bind_eq_ok.mp h
  exact ⟨require_eq_ok.mp hQ,(require_eq_ok.mp hi).2,g,(Except.ok.inj h).symm⟩

lemma requestEpay_accepts {float64 : ℚ → ℚ} {S : EpaySettings} {userId : ℕ} {g : String} {req : EpayRequest}
    {tradeNo : String} {now : ℤ} {s : Store} (hm : getMinTopup S ≤ req.amount)
    (hQ : S.displayTokens = true → S.settings.quotaPerUnit≠0) (hp : float64 (1/100)≤getPayMoney float64 S req.amount g)
    (hw : req.paymentMethod∈S.payMethods) (hc : S.clientConfigured = true) (hn : getTopUpByTradeNo s tradeNo = none) :
    requestEpay float64 S userId (some g) true true req tradeNo now s =
      .ok { s with topUps := s.topUps.insert (epayTopUp float64 S userId g req tradeNo now) } := by
  rw [requestEpay,require_of hm,ok_bind,orFail,ok_bind,require_of hQ,ok_bind,require_of hp,ok_bind,require_of hw,
    ok_bind,require_of hc,ok_bind,require_of rfl,ok_bind,require_of ⟨rfl,hn⟩,ok_bind]

/-- The new order is the one that its trade number finds. -/
lemma getTopUpByTradeNo_insert {s : Store} {tradeNo : String} {t : TopUp} (hn : getTopUpByTradeNo s tradeNo = none)
    (ht : t.tradeNo=tradeNo) :
    getTopUpByTradeNo { s with topUps := s.topUps.insert t } tradeNo = some (s.topUps.next,t) := by
  unfold getTopUpByTradeNo at *
  rw [Table.first?_insert,hn]
  simp [ht]

/-- A payment of a pending order credits its quota unless that is negative. -/
lemma epayNotify_quota {S : Settings} {tradeNo type : String} {now : ℤ} {s : Store} {id : ℕ} {topUp : TopUp} {u : User}
    (hg : getTopUpByTradeNo s tradeNo = some (id,topUp)) (hp : topUp.paymentProvider = .epay)
    (hs : topUp.status = .pending) (hu : s.users.find? topUp.userId = some u) :
    ((epayNotify S tradeNo type now s).1.users.find? topUp.userId).map (fun u => u.quota) =
      some (u.quota+max 0 (epayQuota S topUp.amount)) := by
  have hr : readTopUp s tradeNo = .loaded id topUp := by simp [readTopUp,hg,hp,hs]
  rw [epayNotify,hr]
  dsimp only
  by_cases h0 : 0 ≤ epayQuota S topUp.amount
  · rw [increaseUserQuota,require_of h0,ok_bind,max_eq_right h0]
    simp [hu]
  · rw [increaseUserQuota,require,if_neg h0,max_eq_left (not_le.mp h0).le]
    simp [hu,bind,Except.bind]

/-- A user who was charged for an amount of tokens is credited that amount exactly if it is a whole
number of units. The payment may come at any later time at which the order is still as stored. -/
theorem tokens_credited_iff (float64 : ℚ → ℚ) (S : EpaySettings) (userId : ℕ) (group : Option String)
    (purchased inserted : Bool) (req : EpayRequest) (tradeNo type : String) (now later : ℤ) (s ordered paid : Store)
    (u : User) (hd : S.displayTokens = true)
    (hr : requestEpay float64 S userId group purchased inserted req tradeNo now s = .ok ordered)
    (hp : getTopUpByTradeNo paid tradeNo = getTopUpByTradeNo ordered tradeNo) (hu : paid.users.find? userId = some u) :
    ((epayNotify S.settings tradeNo type later paid).1.users.find? userId).map (fun u => u.quota) =
        some (u.quota+req.amount) ↔
      0 ≤ req.amount ∧ WholeUnits S.settings.quotaPerUnit req.amount := by
  obtain ⟨hQ,hn,g,rfl⟩ := requestEpay_ok hr
  rw [getTopUpByTradeNo_insert hn rfl] at hp
  have hq : ((epayNotify S.settings tradeNo type later paid).1.users.find? userId).map (fun u => u.quota) = _ :=
    epayNotify_quota hp rfl rfl hu
  have ha : (epayTopUp float64 S userId g req tradeNo now).amount =
      int64 (intPart (quotient req.amount S.settings.quotaPerUnit)) := if_pos hd
  rw [hq,ha,epayQuota,Option.some.injEq,add_right_inj]
  by_cases h0 : 0 ≤ req.amount
  · rw [←units_back_iff h0 req.amount_range.2 (hQ hd)]
    constructor
    · intro h
      refine ⟨h0,?_⟩
      rcases h0.eq_or_lt with hz | hpos
      · rw [←hz]
        norm_num [quotient,roundTo,nearest,intPart,int64]
      · omega
    · rintro ⟨-,h⟩
      rw [h]
      exact max_eq_right h0
  · constructor
    · intro h
      omega
    · exact fun h => absurd h.1 h0

/-! ## A payment -/

def tokenShop : EpaySettings where
  settings := unitSettings
  displayTokens := true
  minTopUp := 1
  price := 8
  topupGroupRatio := fun _ => some 1
  amountDiscount := fun _ => none
  payMethods := ["alipay"]
  clientConfigured := true

/-- What `InexactFloat64` makes of a cent; the other sums here are integers. -/
def centFloat (q : ℚ) : ℚ := if q=1/100 then 5764607523034235/2^59 else q

def oneUser : Store := { Store.empty with users := Table.empty.insert ⟨0,"default"⟩ }

theorem tokens_credited_iff_twoUnits :
    let req : EpayRequest := ⟨1000000,"alipay",by decide⟩
    let ordered := { oneUser with topUps := oneUser.topUps.insert (epayTopUp centFloat tokenShop 1 "default" req "T1" 5) }
    ((epayNotify unitSettings "T1" "alipay" 9 ordered).1.users.find? 1).map (fun u => u.quota) = some 1000000 := by
  intro req ordered
  have h := tokens_credited_iff centFloat tokenShop 1 (some "default") true true req "T1" "alipay" 5 9 oneUser
    ordered ordered ⟨0,"default"⟩ rfl (requestEpay_accepts (by decide +kernel) (by decide +kernel) (by decide +kernel)
      (by decide) rfl rfl) rfl rfl
  exact h.mpr ⟨by decide,(wholeUnits_iff_dvd (by decide) (by decide) (by decide)).mpr ⟨2,rfl⟩⟩

/-- A request for one and a half units is accepted and charged in full, but its payment credits one
unit. -/
theorem oneAndHalfUnits_credited_one :
    let req : EpayRequest := ⟨750000,"alipay",by decide⟩
    let order := epayTopUp centFloat tokenShop 1 "default" req "T1" 5
    let ordered := { oneUser with topUps := oneUser.topUps.insert order }
    requestEpay centFloat tokenShop 1 (some "default") true true req "T1" 5 oneUser = .ok ordered ∧ order.money=12 ∧
      ((epayNotify unitSettings "T1" "alipay" 9 ordered).1.users.find? 1).map (fun u => u.quota) = some 500000 := by
  intro req order ordered
  exact ⟨requestEpay_accepts (by decide +kernel) (by decide +kernel) (by decide +kernel) (by decide) rfl rfl,
    by decide +kernel,by decide +kernel⟩

end Tierflow
