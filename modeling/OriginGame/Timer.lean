import Mathlib.Data.Int.Bitwise
import OriginGame.Calendar

namespace OriginGame.Timer
open Calendar

-- What os.date( "*t" ) gives. Sunday is the first wday, and yday counts from 1.
structure Date where
  year : Int
  month : Int
  day : Int
  hour : Int
  min : Int
  sec : Int
  wday : Int
  yday : Int
  deriving DecidableEq, Repr

-- The local time differs by a fixed number of seconds; systemDayTime of the config is the
-- hour a day of the game begins at.
structure Clock where
  zone : Int
  systemDayTime : Nat

section clock
variable (clock : Clock)

def dayAt (time : Int) : Int := (time+clock.zone)/86400

def osDate (time : Int) : Date :=
  let day := dayAt clock time
  let second := (time+clock.zone)%86400
  ⟨yearOf day,monthOf day,dayOfMonth day,second/3600,second%3600/60,second%60,weekday day+1,dayOfYear day+1⟩

-- os.date( "%U" ) and os.date( "%w" ), as the numbers they are used as.
def osDateU (time : Int) : Int := weekOfYear (dayAt clock time)
def osDateW (time : Int) : Int := weekday (dayAt clock time)

def osTime (year month day hour min sec : Int) : Int :=
  (firstDay year+monthStart (leap year) month+day-1)*86400+hour*3600+min*60+sec-clock.zone

def osTimeOf (date : Date) : Int := osTime clock date.year date.month date.day date.hour date.min date.sec

def fixCrossDayTime (lastTime : Int) : Date :=
  let beginHour : Int := clock.systemDayTime
  let lastDateTime := osDate clock lastTime
  if beginHour ≠ 0 then
    if 0 ≤ lastDateTime.hour ∧ lastDateTime.hour < beginHour then osDate clock (lastTime-beginHour*3600) else lastDateTime
  else lastDateTime

-- With _isTimeStamp.
def fixCrossDayTimeStamp (lastTime : Int) : Int := osTimeOf clock (fixCrossDayTime clock lastTime)

-- With fixTime, for an hour that is given.
def getDayX (now x hour : Int) : Int :=
  let nexttime := osDate clock (fixCrossDayTimeStamp clock now+3600*24*x)
  osTime clock nexttime.year nexttime.month nexttime.day hour 0 0

-- Without _noFix.
def isDiffDay (now lastTime : Int) : Bool :=
  let nowTime := fixCrossDayTime clock now
  let lastTime := fixCrossDayTime clock lastTime
  !(decide (nowTime.year = lastTime.year) && decide (nowTime.month = lastTime.month) && decide (nowTime.day = lastTime.day))

def isDiffWeek (now lastTime : Int) : Bool :=
  let dayOffset := 7-osDateW clock (fixCrossDayTimeStamp clock now)
  let endTime := getDayX clock now dayOffset clock.systemDayTime
  decide (lastTime < endTime-7*24*3600) || decide (endTime ≤ lastTime)

-- os.time fills in the yday of a last day of a year.
def lastYday (year : Int) : Int := (osDate clock (osTime clock year 12 31 0 0 0)).yday

def getDiffDays (lTime rTime : Int) : Int :=
  let lData := osDate clock (fixCrossDayTimeStamp clock lTime)
  let rData := osDate clock (fixCrossDayTimeStamp clock rTime)
  if lData.year ≠ rData.year then
    |(years lData.year rData.year).foldl (fun diffDays year => diffDays+
      (if year = rData.year then rData.yday
      else if year = lData.year then lastYday clock year-lData.yday
      else lastYday clock year)) 0|
  else |rData.yday-lData.yday|

-- With a year; without an hour os.time takes noon.
def getYearWeeks (year : Int) : Int := osDateU clock (osTime clock year 12 31 12 0 0)

-- The three assignments that exchange the times.
def exchange (lTime rTime : Int) : Int × Int :=
  let lTime := lTime.xor rTime
  let rTime := lTime.xor rTime
  let lTime := lTime.xor rTime
  (lTime,rTime)

def getDiffWeeks (lTime rTime : Int) : Int :=
  let times := if rTime < lTime then exchange lTime rTime else (lTime,rTime)
  let lTime := fixCrossDayTimeStamp clock times.1
  let rTime := fixCrossDayTimeStamp clock times.2
  let smallYear := (osDate clock lTime).year
  let bigYear := (osDate clock rTime).year
  if smallYear = bigYear then |osDateU clock rTime-osDateU clock lTime|
  else
    (years smallYear bigYear).foldl (fun diffWeeks year => diffWeeks+
      (if year = smallYear then getYearWeeks clock year-osDateU clock lTime
      else if year = bigYear then osDateU clock rTime
      else getYearWeeks clock year)) 0

end clock

section days
variable (clock : Clock)

-- Days of the game are counted from the hour they begin at.
def gameDay (time : Int) : Int := (time+clock.zone-clock.systemDayTime*3600)/86400

theorem osTimeOf_osDate (time : Int) : osTimeOf clock (osDate clock time) = time := by
  simp only [osTimeOf,osTime,osDate,date_day,dayAt]
  omega

theorem dayAt_osTime (year month day hour min sec : Int) (inDay : 0 ≤ hour*3600+min*60+sec ∧ hour*3600+min*60+sec < 86400) :
    dayAt clock (osTime clock year month day hour min sec) = firstDay year+monthStart (leap year) month+day-1 := by
  simp only [dayAt,osTime]
  omega

-- A time before the hour a day begins at counts for the day before.
theorem dayAt_fix (time : Int) : dayAt clock (fixCrossDayTimeStamp clock time) = gameDay clock time := by
  have hour : (osDate clock time).hour = (time+clock.zone)%86400/3600 := rfl
  unfold fixCrossDayTimeStamp fixCrossDayTime
  dsimp only
  split
  · split
    · rw [osTimeOf_osDate]
      simp only [dayAt,gameDay]
      congr 1
      omega
    next later =>
      rw [osTimeOf_osDate]
      simp only [hour] at later
      simp only [dayAt,gameDay]
      omega
  next none =>
    rw [osTimeOf_osDate]
    simp only [dayAt,gameDay]
    omega

theorem gameDay_mono (order : a ≤ b) : gameDay clock a ≤ gameDay clock b := by
  unfold gameDay
  omega

end days

end OriginGame.Timer
