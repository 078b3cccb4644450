import OriginGame.DiffDays

namespace OriginGame.Timer
open Calendar

section weeks
variable (clock : Clock)

-- The Sundays after the earlier of two days up to the later one: a week begins on each.
def weekBoundaries (first second : Int) : Nat :=
  ((Finset.range (second-first).natAbs).filter (fun (k : Nat) => weekday (min first second+1+k) = 0)).card

theorem weekBoundaries_sundays (first second : Int) : (weekBoundaries first second : Int) = sundays (max first second)-sundays (min first second) := by
  have last : min first second+(second-first).natAbs = max first second := by omega
  rw [← last]
  exact count_sundays _ _

theorem exchange_eq (l r : Int) : exchange l r = (r,l) := by
  have back (m n : Int) : (m.xor n).xor n = m := by cases m <;> cases n <;> simp [Int.xor]
  have turn (m n : Int) : m.xor n = n.xor m := by cases m <;> cases n <;> simp [Int.xor,Nat.xor_comm]
  unfold exchange
  dsimp only
  rw [back,turn l r,back]

theorem getYearWeeks_eq (year : Int) : getYearWeeks clock year = sundays (firstDay (year+1)-1)-sundays (firstDay year-1) := by
  have day : dayAt clock (osTime clock year 12 31 12 0 0) = firstDay (year+1)-1 := by
    rw [dayAt_osTime clock year 12 31 12 0 0 (by decide),lastDay]
  change weekOfYear (dayAt clock (osTime clock year 12 31 12 0 0)) = _
  rw [day,weekOfYear_sundays,yearOf_lastDay]

theorem week_fix (time : Int) :
    osDateU clock (fixCrossDayTimeStamp clock time) = sundays (gameDay clock time)-sundays (firstDay (gameYear clock time)-1) := by
  unfold osDateU
  rw [dayAt_fix,weekOfYear_sundays,gameYear]

-- The times in their order.
theorem diffWeeks_ordered {l r : Int} (order : l ≤ r) : getDiffWeeks clock l r = sundays (gameDay clock r)-sundays (gameDay clock l) := by
  have days := gameDay_mono clock order
  have year : gameYear clock l ≤ gameYear clock r := yearOf_mono days
  have fewer := sundays_mono days
  unfold getDiffWeeks
  simp only [if_neg (not_lt.mpr order),year_fix]
  split
  next same =>
    rw [week_fix,week_fix,same,abs_of_nonneg (by omega)]
    omega
  next differ =>
    have strict := lt_of_le_of_ne year differ
    rw [loop_telescopes (a:=sundays (gameDay clock l)) (b:=sundays (gameDay clock r)) _ (fun year => sundays (firstDay year-1)) strict]
    · rw [if_pos rfl,getYearWeeks_eq,week_fix]
      omega
    · intro year after before
      rw [if_neg after.ne',if_neg before.ne,getYearWeeks_eq]
    · rw [if_neg strict.ne',if_pos rfl,week_fix]

theorem diffWeeks_boundaries (l r : Int) : getDiffWeeks clock l r = weekBoundaries (gameDay clock l) (gameDay clock r) := by
  rw [weekBoundaries_sundays]
  rcases le_or_gt l r with order | order
  · have days := gameDay_mono clock order
    rw [diffWeeks_ordered clock order,max_eq_right days,min_eq_left days]
  · have days := gameDay_mono clock order.le
    have exchanged : getDiffWeeks clock l r = getDiffWeeks clock r l := by
      unfold getDiffWeeks
      rw [if_pos order,if_neg (not_lt.mpr order.le),exchange_eq]
    rw [exchanged,diffWeeks_ordered clock order.le,max_eq_left days,min_eq_right days]

-- The week ends when the next Sunday's day of the game begins.
theorem weekEnd (now : Int) : getDayX clock now (7-osDateW clock (fixCrossDayTimeStamp clock now)) clock.systemDayTime =
    (gameDay clock now+7-weekday (gameDay clock now))*86400+clock.systemDayTime*3600-clock.zone := by
  have today : osDateW clock (fixCrossDayTimeStamp clock now) = weekday (gameDay clock now) := by rw [osDateW,dayAt_fix]
  have later (x : Int) : dayAt clock (fixCrossDayTimeStamp clock now+3600*24*x) = gameDay clock now+x := by
    rw [← dayAt_fix]
    unfold dayAt
    omega
  unfold getDayX osTime
  simp only [osDate,today,later]
  have day := date_day (gameDay clock now+(7-weekday (gameDay clock now)))
  omega

theorem isDiffWeek_iff (now lastTime : Int) : isDiffWeek clock now lastTime = true ↔ sundays (gameDay clock now) ≠ sundays (gameDay clock lastTime) := by
  unfold isDiffWeek
  simp only [weekEnd,Bool.or_eq_true,decide_eq_true_eq,weekday,sundays]
  have first : gameDay clock lastTime*86400 ≤ lastTime+clock.zone-clock.systemDayTime*3600 := by
    unfold gameDay
    omega
  have last : lastTime+clock.zone-clock.systemDayTime*3600 < gameDay clock lastTime*86400+86400 := by
    unfold gameDay
    omega
  generalize gameDay clock lastTime = day at first last ⊢
  generalize gameDay clock now = today
  omega

theorem diffWeeks_right (l r : Int) : getDiffWeeks clock l r = weekBoundaries (gameDay clock l) (gameDay clock r) ∧
    (getDiffWeeks clock l r ≠ 0 ↔ isDiffWeek clock r l = true) ∧ (getDiffWeeks clock l r ≠ 0 ↔ isDiffWeek clock l r = true) := by
  refine ⟨diffWeeks_boundaries clock l r,?_⟩
  rw [diffWeeks_boundaries,weekBoundaries_sundays,isDiffWeek_iff,isDiffWeek_iff]
  rcases le_total (gameDay clock l) (gameDay clock r) with order | order
  · rw [max_eq_right order,min_eq_left order]
    omega
  · rw [max_eq_left order,min_eq_right order]
    omega

end weeks

end OriginGame.Timer
