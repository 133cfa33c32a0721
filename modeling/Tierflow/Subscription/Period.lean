import Tierflow.Foundation.Calendar
import Tierflow.Foundation.Transaction
import Tierflow.Store.Schema

/-! Subscription periods: the end of a subscription, the schedule on which its quota is reset,
and the reset itself. Durations are unbounded integers of seconds. -/
namespace Tierflow
open Calendar Text

inductive ResetPeriod
  | never | daily | weekly | monthly | custom
  deriving DecidableEq, Repr

/-- Unknown period names mean that the quota is never reset. -/
def normalizeResetPeriod (period : String) : ResetPeriod :=
  if trimSpace period = "daily" then .daily
  else if trimSpace period = "weekly" then .weekly
  else if trimSpace period = "monthly" then .monthly
  else if trimSpace period = "custom" then .custom
  else .never

def calcPlanEndTime (tz start : ℤ) (plan : SubscriptionPlan) : Except TxError ℤ :=
  if plan.durationValue≤0 ∧ plan.durationUnit≠.custom then
    .error (.message "duration_value must be > 0")
  else
    match plan.durationUnit with
    | .year => .ok (addDate tz start plan.durationValue 0 0)
    | .month => .ok (addDate tz start 0 plan.durationValue 0)
    | .day => .ok (start+plan.durationValue*24*3600)
    | .hour => .ok (start+plan.durationValue*3600)
    | .custom =>
      if plan.customSeconds≤0 then .error (.message "custom_seconds must be > 0")
      else .ok (start+plan.customSeconds)
    | .other name => .error (.message ("invalid duration_unit: "++name))

/-- A subscription ends after it starts. -/
theorem calcPlanEndTime_gt {tz start e : ℤ} {plan : SubscriptionPlan}
    (h : calcPlanEndTime tz start plan = .ok e) : start<e := by
  rw [calcPlanEndTime] at h
  by_cases hv : plan.durationValue≤0 ∧ plan.durationUnit≠.custom
  · rw [if_pos hv] at h
    contradiction
  rw [if_neg hv] at h
  cases hu : plan.durationUnit with
  | year =>
    simp only [hu,Except.ok.injEq] at h
    rw [←h]
    exact lt_addDate_months (by simp [hu] at hv; omega)
  | month =>
    simp only [hu,Except.ok.injEq] at h
    rw [←h]
    exact lt_addDate_months (by simp [hu] at hv; omega)
  | day => simp [hu] at h hv; omega
  | hour => simp [hu] at h hv; omega
  | custom =>
    simp only [hu] at h
    split_ifs at h with hc
    simp at h
    omega
  | other name => simp [hu] at h

/-- The next reset after `base`, or zero when there is none before the subscription ends. -/
def calcNextResetTime (tz base : ℤ) (plan : SubscriptionPlan) (endTime : ℤ) : ℤ :=
  let cut := fun next : ℤ => if 0<endTime ∧ endTime<next then 0 else next
  match normalizeResetPeriod plan.quotaResetPeriod with
  | .never => 0
  | .daily => cut (midnight tz (civilDay tz base+1))
  | .weekly =>
    let w := if weekday (civilDay tz base) = 0 then 7 else weekday (civilDay tz base)
    cut (midnight tz (civilDay tz base+(8-w)))
  | .monthly => cut (midnight tz (monthStart (monthOf (civilDay tz base)+1)))
  | .custom =>
    if plan.quotaResetCustomSeconds≤0 then 0 else cut (base+plan.quotaResetCustomSeconds)

theorem calcNextResetTime_gt (tz base : ℤ) (plan : SubscriptionPlan) (endTime : ℤ) :
    calcNextResetTime tz base plan endTime = 0 ∨ base < calcNextResetTime tz base plan endTime := by
  have hcut : ∀ next : ℤ, base<next →
      (if 0<endTime ∧ endTime<next then 0 else next) = 0 ∨
        base<(if 0<endTime ∧ endTime<next then 0 else next) := by
    intro next h
    split_ifs
    · exact .inl rfl
    · exact .inr h
  unfold calcNextResetTime
  cases normalizeResetPeriod plan.quotaResetPeriod with
  | never => exact .inl rfl
  | daily => exact hcut _ (lt_midnight (by omega))
  | weekly =>
    apply hcut
    apply lt_midnight
    have hw : weekday (civilDay tz base)<7 := Int.emod_lt_of_pos _ (by decide)
    split_ifs <;> omega
  | monthly =>
    apply hcut
    exact lt_midnight (monthOf_spec (civilDay tz base)).2
  | custom =>
    by_cases hc : plan.quotaResetCustomSeconds≤0
    · exact .inl (if_pos hc)
    · simp only [if_neg hc]
      exact hcut _ (by omega)

/-- The catch-up loop of a reset: move `base` to `next` while `next` is due. -/
def advanceReset (tz : ℤ) (plan : SubscriptionPlan) (endTime now : ℤ) : ℕ → ℤ → ℤ → ℤ × ℤ
  | 0,base,next => (base,next)
  | n+1,base,next =>
    if 0<next ∧ next≤now then
      advanceReset tz plan endTime now n next (calcNextResetTime tz next plan endTime)
    else (base,next)

/-- The loop runs until the next reset is not due: each round moves `base` closer to `now`. -/
theorem advanceReset_done (tz : ℤ) (plan : SubscriptionPlan) (endTime now : ℤ) (n : ℕ) {base next : ℤ}
    (hgt : next=0 ∨ base<next) (hn : now-base≤n) :
    ¬ (0<(advanceReset tz plan endTime now n base next).2 ∧
      (advanceReset tz plan endTime now n base next).2≤now) := by
  induction n generalizing base next with
  | zero =>
    change ¬ (0<next ∧ next≤now)
    push_cast at hn
    omega
  | succ n ih =>
    rw [advanceReset]
    split_ifs with h
    · exact ih (calcNextResetTime_gt _ _ _ _) (by push_cast at hn; omega)
    · exact h

/-- The instant from which the next reset is computed. -/
def resetBase (sub : UserSubscription) : ℤ :=
  if sub.lastResetTime≤0 then sub.startTime else sub.lastResetTime

/-- What a due check writes back to a subscription, and whether it resets the buckets; `none`
when it leaves the row alone. Both buckets share one reset schedule. -/
def resetRow (tz : ℤ) (sub : UserSubscription) (plan : SubscriptionPlan) (now : ℤ) :
    Option (UserSubscription × Bool) :=
  if 0 < sub.nextResetTime ∧ now < sub.nextResetTime then none
  else if normalizeResetPeriod plan.quotaResetPeriod = .never then none
  else
    let base := resetBase sub
    let next := calcNextResetTime tz base plan sub.endTime
    if 0<next ∧ next≤now then
      let r := advanceReset tz plan sub.endTime now (now-base).toNat base next
      some ({ sub with amountUsed := 0, basicTokenUsed := 0, lastResetTime := r.1, nextResetTime := r.2 },
        true)
    else if sub.nextResetTime=0 ∧ 0<next then
      some ({ sub with nextResetTime := next, lastResetTime := base },false)
    else none

/-- A due check either resets both buckets, and then the next reset lies in the future, or it
leaves both buckets as they are. -/
theorem resetRow_cases {tz now : ℤ} {sub sub' : UserSubscription} {plan : SubscriptionPlan} {b : Bool}
    (h : resetRow tz sub plan now = some (sub',b)) :
    (b=true ∧ ∃ last next, (next≤0 ∨ now<next) ∧
      sub' = { sub with amountUsed := 0, basicTokenUsed := 0, lastResetTime := last, nextResetTime := next }) ∨
    (b=false ∧ ∃ last next, sub' = { sub with lastResetTime := last, nextResetTime := next }) := by
  simp only [resetRow] at h
  split_ifs at h with h1 h2 h3
  · obtain ⟨rfl,rfl⟩ := Prod.mk.inj (Option.some.inj h)
    have hd := advanceReset_done tz plan sub.endTime now (now-resetBase sub).toNat
      (calcNextResetTime_gt tz (resetBase sub) plan sub.endTime) (Int.self_le_toNat _)
    refine .inl ⟨rfl,_,_,?_,rfl⟩
    omega
  · obtain ⟨rfl,rfl⟩ := Prod.mk.inj (Option.some.inj h)
    exact .inr ⟨rfl,_,_,rfl⟩

end Tierflow
