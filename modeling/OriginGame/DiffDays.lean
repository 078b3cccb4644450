import OriginGame.Timer

namespace OriginGame.Timer
open Calendar

section days
variable (clock : Clock)

def gameYear (time : Int) : Int := yearOf (gameDay clock time)

-- What the days between two times are said to be.
structure DaysRight (l r : Int) : Prop where
  counted : getDiffDays clock l r = |gameDay clock l-gameDay clock r|
  symmetric : getDiffDays clock l r = getDiffDays clock r l
  zero : getDiffDays clock l r = 0 ↔ gameDay clock l = gameDay clock r

-- A date has its day, so the same date is the same day.
theorem isDiffDay_iff (now lastTime : Int) : isDiffDay clock now lastTime = true ↔ gameDay clock now ≠ gameDay clock lastTime := by
  have dated (time : Int) : fixCrossDayTime clock time = osDate clock (fixCrossDayTimeStamp clock time) := by
    unfold fixCrossDayTimeStamp fixCrossDayTime
    dsimp only
    split
    · split <;> rw [osTimeOf_osDate]
    · rw [osTimeOf_osDate]
  have day (time : Int) : gameDay clock time = firstDay (fixCrossDayTime clock time).year+
      monthStart (leap (fixCrossDayTime clock time).year) (fixCrossDayTime clock time).month+(fixCrossDayTime clock time).day-1 := by
    rw [dated,← dayAt_fix]
    exact (date_day _).symm
  simp only [isDiffDay,Bool.not_eq_true',Bool.and_eq_false_iff,decide_eq_false_iff_not]
  constructor
  · intro differ same
    rw [dated now,dated lastTime] at differ
    simp only [osDate,dayAt_fix,same] at differ
    simp at differ
  · intro differ
    by_contra same
    simp only [not_or,not_not] at same
    obtain ⟨⟨year,month⟩,dayOfMonth⟩ := same
    apply differ
    rw [day now,day lastTime,year,month,dayOfMonth]

theorem year_fix (time : Int) : (osDate clock (fixCrossDayTimeStamp clock time)).year = gameYear clock time := by
  rw [gameYear,← dayAt_fix]
  rfl

theorem yday_fix (time : Int) : (osDate clock (fixCrossDayTimeStamp clock time)).yday = gameDay clock time-firstDay (gameYear clock time)+1 := by
  rw [gameYear,← dayAt_fix]
  rfl

theorem lastYday_eq (year : Int) : lastYday clock year = firstDay (year+1)-firstDay year := by
  have day : dayAt clock (osTime clock year 12 31 0 0 0) = firstDay (year+1)-1 := by
    rw [dayAt_osTime clock year 12 31 0 0 0 (by decide),lastDay]
  change dayOfYear (dayAt clock (osTime clock year 12 31 0 0 0))+1 = _
  rw [day,dayOfYear,yearOf_lastDay]
  omega

theorem diffDays_forward {l r : Int} (order : gameYear clock l ≤ gameYear clock r) :
    getDiffDays clock l r = |gameDay clock l-gameDay clock r| := by
  unfold getDiffDays
  simp only [year_fix,yday_fix]
  split
  next differ =>
    have strict : gameYear clock l < gameYear clock r := lt_of_le_of_ne order differ
    rw [loop_telescopes (a:=gameDay clock l) (b:=gameDay clock r) _ (fun year => firstDay year-1) strict,abs_sub_comm]
    · rw [if_neg strict.ne,if_pos rfl,lastYday_eq]
      omega
    · intro year after before
      rw [if_neg before.ne,if_neg after.ne',lastYday_eq]
      omega
    · rw [if_pos rfl]
      omega
  next same =>
    rw [not_not.mp same,abs_sub_comm]
    congr 1
    omega

-- The loop from a later year to an earlier one has no steps.
theorem diffDays_backward {l r : Int} (order : gameYear clock r < gameYear clock l) : getDiffDays clock l r = 0 := by
  unfold getDiffDays
  simp only [year_fix]
  have none : years (gameYear clock l) (gameYear clock r) = [] := by
    have count : (gameYear clock r-gameYear clock l+1).toNat = 0 := by omega
    simp [years,count]
  rw [if_pos order.ne',none]
  rfl

theorem diffDays_right (l r : Int) : DaysRight clock l r ↔ gameYear clock l = gameYear clock r := by
  have apart {a b : Int} (later : gameYear clock a < gameYear clock b) : gameDay clock a ≠ gameDay clock b := by
    intro same
    rw [gameYear,gameYear,same] at later
    exact lt_irrefl _ later
  constructor
  · intro right
    rcases lt_trichotomy (gameYear clock l) (gameYear clock r) with before | same | after
    · have none := right.symmetric.trans (diffDays_backward clock before)
      exact absurd (right.zero.mp none) (apart before)
    · exact same
    · exact absurd (right.zero.mp (diffDays_backward clock after)) (apart after).symm
  · intro same
    have there := diffDays_forward clock same.le
    have back := diffDays_forward clock same.ge
    refine ⟨there,?_,?_⟩
    · rw [there,back,abs_sub_comm]
    · rw [there,abs_eq_zero,sub_eq_zero]

-- 1971-01-01 and 1970-01-01 at midnight.
theorem diffDays_lost : ¬DaysRight ⟨0,0⟩ 31536000 0 := by
  intro right
  have none : getDiffDays ⟨0,0⟩ 31536000 0 = 0 := by decide
  have same := right.zero.mp none
  exact absurd same (by decide)

end days

end OriginGame.Timer
