import Mathlib.Algebra.Order.Group.Basic
import Mathlib.Data.Int.Interval

namespace OriginGame.Calendar

-- Days are numbered from 1970-01-01 on, a Thursday; the calendar is the Gregorian one in
-- every year.
def leap (year : Int) : Bool := decide (year%4 = 0 ∧ (year%100 ≠ 0 ∨ year%400 = 0))

def yearDays (year : Int) : Int := if leap year then 366 else 365

-- The leap years up to a year, counted from the year 0.
def leaps (year : Int) : Int := year/4-year/100+year/400

def firstDay (year : Int) : Int := 365*(year-1970)+leaps (year-1)-leaps 1969

-- 400 years have 146097 days, so the guess is a year off at most.
def yearOf (day : Int) : Int :=
  let year := day*400/146097+1970
  if day < firstDay year then year-1 else if firstDay (year+1) ≤ day then year+1 else year

-- 0 is the first day of the year.
def dayOfYear (day : Int) : Int := day-firstDay (yearOf day)

-- 0 is Sunday.
def weekday (day : Int) : Int := (day+4)%7

-- The days of the year before a month, from 1 to 12.
def monthStart (leap : Bool) (month : Int) : Int :=
  let shift := if leap then 1 else 0
  ([0,31,59+shift,90+shift,120+shift,151+shift,181+shift,212+shift,243+shift,273+shift,304+shift,334+shift] : List Int).getD (month-1).toNat 0

def monthOf (day : Int) : Int :=
  ((List.range 12).filter (fun (m : Nat) => monthStart (leap (yearOf day)) (m+1) ≤ dayOfYear day)).length

def dayOfMonth (day : Int) : Int := dayOfYear day-monthStart (leap (yearOf day)) (monthOf day)+1

-- The week of the year, where the days before the first Sunday are week 0.
def weekOfYear (day : Int) : Int := (dayOfYear day+7-weekday day)/7

-- How many Sundays come up to a day, from the first one after 1970 began.
def sundays (day : Int) : Int := (day+4)/7

section years

theorem firstDay_succ (year : Int) : firstDay (year+1) = firstDay year+yearDays year := by
  simp only [firstDay,yearDays,leap,leaps,decide_eq_true_eq]
  split <;> omega

theorem yearDays_pos (year : Int) : 0 < yearDays year := by
  unfold yearDays
  split <;> decide

theorem firstDay_lt_iff : firstDay a < firstDay b ↔ a < b := by
  have mono : StrictMono firstDay := by
    apply strictMono_int_of_lt_succ
    intro year
    have longer := yearDays_pos year
    rw [firstDay_succ]
    omega
  exact mono.lt_iff_lt

theorem guess_near (day : Int) : firstDay (day*400/146097+1970-1) ≤ day ∧ day < firstDay (day*400/146097+1970+1+1) := by
  simp only [firstDay,leaps]
  omega

theorem yearOf_spec (day : Int) : firstDay (yearOf day) ≤ day ∧ day < firstDay (yearOf day+1) := by
  obtain ⟨low,high⟩ := guess_near day
  unfold yearOf
  generalize day*400/146097+1970 = year at low high
  dsimp only
  split
  next before =>
    rw [sub_add_cancel]
    exact ⟨low,before⟩
  next after =>
    split
    next later => exact ⟨later,high⟩
    next same => exact ⟨not_lt.mp after,not_le.mp same⟩

theorem yearOf_unique (after : firstDay year ≤ day) (before : day < firstDay (year+1)) : yearOf day = year := by
  obtain ⟨first,last⟩ := yearOf_spec day
  have low := firstDay_lt_iff.mp (first.trans_lt before)
  have high := firstDay_lt_iff.mp (after.trans_lt last)
  omega

theorem yearOf_mono (order : a ≤ b) : yearOf a ≤ yearOf b := by
  have later := firstDay_lt_iff.mp ((yearOf_spec a).1.trans_lt (order.trans_lt (yearOf_spec b).2))
  omega

theorem yearOf_lastDay (year : Int) : yearOf (firstDay (year+1)-1) = year := by
  have long := yearDays_pos year
  have next := firstDay_succ year
  apply yearOf_unique <;> omega

-- 31 December, as a date is turned into a day.
theorem lastDay (year : Int) : firstDay year+monthStart (leap year) 12+31-1 = firstDay (year+1)-1 := by
  rw [firstDay_succ]
  unfold yearDays
  cases leap year with
  | false => change firstDay year+334+31-1 = firstDay year+365-1; omega
  | true => change firstDay year+335+31-1 = firstDay year+366-1; omega

theorem date_day (day : Int) : firstDay (yearOf day)+monthStart (leap (yearOf day)) (monthOf day)+dayOfMonth day-1 = day := by
  unfold dayOfMonth dayOfYear
  omega

end years

section weeks

theorem weekOfYear_sundays (day : Int) : weekOfYear day = sundays day-sundays (firstDay (yearOf day)-1) := by
  simp only [weekOfYear,dayOfYear,weekday,sundays]
  omega

theorem sundays_mono (order : a ≤ b) : sundays a ≤ sundays b := by
  unfold sundays
  omega

theorem sundays_succ (day : Int) : sundays (day+1) = sundays day+if weekday (day+1) = 0 then 1 else 0 := by
  split
  next sunday =>
    simp only [sundays,weekday] at sunday ⊢
    omega
  next other =>
    simp only [sundays,weekday] at other ⊢
    omega

-- The Sundays among the days after one.
theorem count_sundays (day : Int) (n : Nat) : ((Finset.range n).filter (fun (k : Nat) => weekday (day+1+k) = 0)).card = sundays (day+n)-sundays day := by
  induction n with
  | zero => simp
  | succ n ih =>
    have next : day+(n+1 : Nat) = day+n+1 := by omega
    have last : day+1+(n : Int) = day+n+1 := by omega
    rw [Finset.range_add_one,Finset.filter_insert,next,sundays_succ,last]
    split
    · rw [Finset.card_insert_of_notMem (by simp)]
      push_cast
      omega
    · omega

end weeks

section loops

-- `for year = small, big do`
def years (small big : Int) : List Int := (List.range (big-small+1).toNat).map (fun (k : Nat) => small+k)

theorem foldl_years (step : Int → Int) (small big start : Int) :
    (years small big).foldl (fun sum year => sum+step year) start = start+((List.range (big-small+1).toNat).map (fun (k : Nat) => step (small+k))).sum := by
  unfold years
  rw [List.foldl_map]
  generalize (big-small+1).toNat = n
  induction n with
  | zero => simp
  | succ n ih => simp [List.range_succ,ih,add_assoc]

theorem sum_telescopes (step mark : Int → Int) (first : step small = mark (small+1)-a) (n : Nat)
    (middle : ∀ year, small < year → year ≤ small+n → step year = mark (year+1)-mark year) :
    ((List.range (n+1)).map (fun (k : Nat) => step (small+k))).sum = mark (small+n+1)-a := by
  induction n with
  | zero => simpa using first
  | succ n ih =>
    rw [List.range_succ,List.map_append,List.sum_append,ih (fun year after before => middle year after (by omega))]
    have one := middle (small+(n+1 : Nat)) (by omega) (by omega)
    simp only [List.map_cons,List.map_nil,List.sum_cons,List.sum_nil,one]
    have same : small+(n : Int)+1 = small+((n+1 : Nat) : Int) := by omega
    rw [same]
    omega

-- A loop over years whose first step counts from a to the end of the year, whose last one
-- counts to b and whose others count whole years, counts from a to b.
theorem loop_telescopes (step mark : Int → Int) (order : small < big) (first : step small = mark (small+1)-a)
    (middle : ∀ year, small < year → year < big → step year = mark (year+1)-mark year) (last : step big = b-mark big) :
    (years small big).foldl (fun sum year => sum+step year) 0 = b-a := by
  obtain ⟨n,rfl⟩ : ∃ n : Nat, big = small+n+1 := ⟨(big-small-1).toNat,by omega⟩
  have count : (small+n+1-small+1).toNat = n+1+1 := by omega
  rw [foldl_years,count,List.range_succ,List.map_append,List.sum_append,
    sum_telescopes step mark first n (fun year after before => middle year after (by omega))]
  have same : small+((n+1 : Nat) : Int) = small+n+1 := by omega
  simp only [List.map_cons,List.map_nil,List.sum_cons,List.sum_nil,same,last]
  omega

end loops

end OriginGame.Calendar
