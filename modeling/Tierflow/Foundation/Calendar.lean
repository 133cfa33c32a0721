import Mathlib.Tactic

/-! The proleptic Gregorian calendar over days counted from 1970-01-01, and civil time at a fixed
offset from UTC. Months are numbered `12*year+month-1`, so that month overflow needs no case. -/
namespace Tierflow
namespace Calendar

/-- The first day of a month. Years are counted from March, which puts the leap day last. -/
def monthStart (n : ℤ) : ℤ :=
  let y := (n-2)/12
  let m := (n-2)%12
  365*y+y/4-y/100+y/400+(153*m+2)/5-719468

/-- The month that contains a day: 4800 months make 146097 days, and the estimate that this
gives is off by one at most. -/
def monthOf (d : ℤ) : ℤ :=
  let e := (d+719468)*4800/146097+2
  if d < monthStart e then e-1 else if monthStart (e+1)≤d then e+1 else e

def dayOfMonth (d : ℤ) : ℤ := d-monthStart (monthOf d)+1

/-- Sunday is 0. -/
def weekday (d : ℤ) : ℤ := (d+4)%7

theorem monthStart_lt_succ (n : ℤ) : monthStart n < monthStart (n+1) := by
  unfold monthStart
  dsimp only
  omega

theorem monthStart_strictMono : StrictMono monthStart :=
  strictMono_int_of_lt_succ monthStart_lt_succ

/-- A month start deviates from the mean by less than four days. -/
lemma monthStart_near (n : ℤ) :
    146097*(n-2)-4*4800 < 4800*(monthStart n+719468) ∧
      4800*(monthStart n+719468) < 146097*(n-2)+4*4800 := by
  unfold monthStart
  dsimp only
  constructor <;> omega

theorem monthOf_spec (d : ℤ) : monthStart (monthOf d)≤d ∧ d < monthStart (monthOf d+1) := by
  unfold monthOf
  dsimp only
  set e := (d+719468)*4800/146097+2 with he
  have h0 := monthStart_near (e-1)
  have h2 := monthStart_near (e+2)
  split_ifs with hl hu
  · constructor
    · omega
    · rwa [sub_add_cancel]
  · refine ⟨hu,?_⟩
    rw [add_assoc]
    norm_num
    omega
  · exact ⟨not_lt.mp hl,not_le.mp hu⟩

lemma dayOfMonth_pos (d : ℤ) : 0<dayOfMonth d := by
  have h := (monthOf_spec d).1
  unfold dayOfMonth
  omega

/-! ## Civil time -/

/-- Seconds in a day. -/
abbrev day : ℤ := 86400

/-- The civil day of an instant; `tz` is the offset from UTC in seconds. -/
def civilDay (tz t : ℤ) : ℤ := (t+tz)/day

/-- The instant at which a civil day begins. -/
def midnight (tz d : ℤ) : ℤ := d*day-tz

/-- Add years, months and days to the civil date of an instant, keeping the time of day. Dates
past the end of a month run over into the next one. -/
def addDate (tz t years months days : ℤ) : ℤ :=
  let d := civilDay tz t
  midnight tz (monthStart (monthOf d+12*years+months)+dayOfMonth d-1+days)+(t+tz)%day

lemma lt_midnight_succ (tz t : ℤ) : t < midnight tz (civilDay tz t+1) := by
  unfold midnight civilDay day
  omega

/-- An instant lies before the midnight of every later day. -/
lemma lt_midnight {tz t d : ℤ} (h : civilDay tz t<d) : t < midnight tz d := by
  have := lt_midnight_succ tz t
  unfold midnight day at *
  omega

/-- Adding at least one month moves an instant forward. -/
theorem lt_addDate_months {tz t years months : ℤ} (h : 0<12*years+months) :
    t<addDate tz t years months 0 := by
  have hs := (monthOf_spec (civilDay tz t)).2
  have hp := dayOfMonth_pos (civilDay tz t)
  have hm : monthStart (monthOf (civilDay tz t)+1)≤
      monthStart (monthOf (civilDay tz t)+12*years+months) :=
    monthStart_strictMono.monotone (by omega)
  have hb : civilDay tz t <
      monthStart (monthOf (civilDay tz t)+12*years+months)+dayOfMonth (civilDay tz t)-1+0 := by omega
  have hr := Int.emod_nonneg (t+tz) (show day≠0 by decide)
  have := lt_midnight hb
  unfold addDate
  dsimp only
  omega

end Calendar
end Tierflow
