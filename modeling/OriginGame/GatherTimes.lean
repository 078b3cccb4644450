import OriginGame.GatherFinish

namespace OriginGame.Gathering

section earliest
variable {cap other base rate : Rat} {now time : Int}

-- The first second from now on at which something is reached.
structure Earliest (reached : Int → Prop) (now time : Int) : Prop where
  later : now ≤ time
  there : reached time
  first : ∀ earlier, now ≤ earlier → reached earlier → time ≤ earlier

theorem Earliest.unique {reached : Int → Prop} {again : Int} (one : Earliest reached now time) (two : Earliest reached now again) : time = again :=
  le_antisymm (one.first again two.later two.there) (two.first time one.later one.there)

def Grown (cap base rate : Rat) (now time : Int) : Prop := cap ≤ base+((time-now : Int) : Rat)*rate

theorem grown_iff (rate_pos : 0 < rate) : Grown cap base rate now time ↔ ((cap-base)/rate).ceil ≤ time-now := by
  rw [Rat.ceil_le_iff,div_le_iff₀ rate_pos,Grown]
  constructor <;> intro bound <;> linarith

theorem earliest_grown (rate_pos : 0 < rate) : Earliest (Grown cap base rate now) now time ↔ time = now+max 0 ((cap-base)/rate).ceil := by
  constructor
  · intro earliest
    have later := earliest.later
    have there := (grown_iff rate_pos).mp earliest.there
    have first := earliest.first (now+max 0 ((cap-base)/rate).ceil) (by omega) ((grown_iff rate_pos).mpr (by omega))
    omega
  · rintro rfl
    refine ⟨by omega,(grown_iff rate_pos).mpr (by omega),?_⟩
    intro earlier later there
    have bound := (grown_iff rate_pos).mp there
    omega

-- A later goal has the same first second when no second lies between the two.
theorem earliest_other (rate_pos : 0 < rate) (below : cap ≤ other) (its : Earliest (Grown other base rate now) now time) :
    Earliest (Grown cap base rate now) now time ↔ ∀ second, now ≤ second → Grown cap base rate now second → Grown other base rate now second := by
  constructor
  · intro earliest second later there
    have bound := (grown_iff rate_pos).mp its.there
    have first := earliest.first second later there
    exact (grown_iff rate_pos).mpr (by omega)
  · intro same
    refine ⟨its.later,le_trans below its.there,?_⟩
    intro earlier later there
    exact its.first earlier later (same earlier later there)

-- Without the cut at now, the rounded time is right unless it lies before now.
theorem earliest_uncut (rate_pos : 0 < rate) (its : time = now+((cap-base)/rate).ceil) : Earliest (Grown cap base rate now) now time ↔ base < cap+rate := by
  have cut : -1 < ((cap-base)/rate).ceil ↔ base < cap+rate := by
    rw [Rat.lt_ceil_iff,lt_div_iff₀ rate_pos]
    push_cast
    constructor <;> intro bound <;> linarith
  rw [earliest_grown rate_pos,its,← cut]
  omega

end earliest

section ends
variable (cfg : Config)

def rateOf (collectSpeed : Int) : Rat := collectSpeed/collectSpeedMultiple

theorem rate_pos {collectSpeed : Int} (positive : 0 < collectSpeed) : 0 < rateOf collectSpeed := by
  have speed : (0 : Rat) < collectSpeed := by exact_mod_cast positive
  exact div_pos speed (by norm_num [collectSpeedMultiple])

theorem div_rateOf (q : Rat) (collectSpeed : Int) : q*collectSpeedMultiple/collectSpeed = q/rateOf collectSpeed := by
  rw [rateOf,div_div_eq_mul_div]

-- What the army can carry of the node's kind, without the cut at zero.
def carry (role : Role) (resource : Resource) (army : Army) : Int := loadToResourceCount cfg (resource.type cfg) (leftLoad cfg role army)

def goal (role : Role) (resource : Resource) (army : Army) : Int := min (carry cfg role resource army) resource.resourceAmount

theorem goal_cut (role : Role) (resource : Resource) (army : Army) :
    (if resource.resourceAmount < carry cfg role resource army then resource.resourceAmount else carry cfg role resource army) = goal cfg role resource army := by
  unfold goal
  split <;> omega

-- The amount dug over all speeds reaches what can be carried and what there is.
def Reached (role : Role) (resource : Resource) (its : Collecting) (army : Army) (time : Int) : Prop :=
  goal cfg role resource army ≤ dug its army time

theorem reached_grown (role : Role) (resource : Resource) (its : Collecting) (army : Army) (now : Int) :
    Reached cfg role resource its army = Grown (goal cfg role resource army) (dug its army now) (rateOf its.collectSpeed) now := by
  funext time
  unfold Reached Grown dug rateOf
  have split : (its.collectSpeed/collectSpeedMultiple)*((time-its.collectTime-useTime army.collectSpeeds : Int) : Rat) =
      its.collectSpeed/collectSpeedMultiple*((now-its.collectTime-useTime army.collectSpeeds : Int) : Rat)+((time-now : Int) : Rat)*(its.collectSpeed/collectSpeedMultiple) := by
    push_cast
    ring
  rw [split,add_assoc]

-- Whether the gathering goes on or ends at once.
def LoadChange.endTime (now : Int) : LoadChange → Int
  | .finished _ => now
  | .timed set => set.timer

-- Earlier speeds are taken off what can be carried and not off what there is.
def laterGoal (role : Role) (resource : Resource) (army : Army) : Rat :=
  min (carry cfg role resource army : Rat) (resource.resourceAmount+dugBefore army.collectSpeeds)

theorem loadChange_end (role : Role) (now : Int) (resource : Resource) (its : Collecting) (army : Army) (digs : 0 < its.collectSpeed) :
    Earliest (Grown (laterGoal cfg role resource army) (dug its army now) (rateOf its.collectSpeed) now) now
      ((armyLoadChange cfg role now resource its army).endTime now) := by
  rw [earliest_grown (rate_pos digs)]
  have already : ((now-its.collectTime-useTime army.collectSpeeds : Int) : Rat)*its.collectSpeed/collectSpeedMultiple =
      dug its army now-dugBefore army.collectSpeeds := by
    unfold dug
    ring
  have capped : (if (resource.resourceAmount : Rat) < carry cfg role resource army-dugBefore army.collectSpeeds then (resource.resourceAmount : Rat)
      else carry cfg role resource army-dugBefore army.collectSpeeds) = laterGoal cfg role resource army-dugBefore army.collectSpeeds := by
    unfold laterGoal
    split
    next less =>
      rw [min_eq_right (by linarith)]
      ring
    next more => rw [min_eq_left (by linarith)]
  unfold armyLoadChange
  dsimp only
  rw [← carry,already,capped,div_rateOf]
  have rest : laterGoal cfg role resource army-dugBefore army.collectSpeeds-(dug its army now-dugBefore army.collectSpeeds) =
      laterGoal cfg role resource army-dug its army now := by ring
  rw [rest]
  split
  next enough =>
    have none : ((laterGoal cfg role resource army-dug its army now)/rateOf its.collectSpeed).ceil ≤ 0 := by
      apply Rat.ceil_le_iff.mpr
      push_cast
      exact div_nonpos_of_nonpos_of_nonneg (by linarith) (rate_pos digs).le
    change now = _
    omega
  next less =>
    have some : 0 < ((laterGoal cfg role resource army-dug its army now)/rateOf its.collectSpeed).ceil := by
      apply Rat.lt_ceil_iff.mpr
      push_cast
      exact div_pos (by linarith) (rate_pos digs)
    change now+_ = _
    omega

theorem below_later (role : Role) (resource : Resource) {army : Army} (nonneg : 0 ≤ dugBefore army.collectSpeeds) :
    (goal cfg role resource army : Rat) ≤ laterGoal cfg role resource army := by
  unfold goal laterGoal
  push_cast
  exact min_le_min le_rfl (by linarith)

-- The load change is right when no second lies between the two goals.
def NoneBetween (cap other base rate : Rat) (now : Int) : Prop :=
  ∀ second, now ≤ second → Grown cap base rate now second → Grown other base rate now second

theorem load_right (role : Role) (now : Int) (resource : Resource) (its : Collecting) (army : Army) (digs : 0 < its.collectSpeed)
    (nonneg : 0 ≤ dugBefore army.collectSpeeds) :
    Earliest (Reached cfg role resource its army) now ((armyLoadChange cfg role now resource its army).endTime now) ↔
      NoneBetween (goal cfg role resource army) (laterGoal cfg role resource army) (dug its army now) (rateOf its.collectSpeed) now := by
  rw [reached_grown cfg role resource its army now]
  exact earliest_other (rate_pos digs) (below_later cfg role resource nonneg) (loadChange_end cfg role now resource its army digs)

end ends

section changes
variable (cfg : Config)

-- The speeds so far are closed at now, so the new one begins with all that was dug.
structure Changed (s : Session) (collectSpeed : Int) (r : Timed) : Prop where
  its : r.its = {s.its with collectSpeed}
  soldiers : r.army.soldiers = s.army.soldiers
  loads : r.army.resourceLoads = s.army.resourceLoads
  time : useTime r.army.collectSpeeds = s.now-s.its.collectTime
  amount : dugBefore r.army.collectSpeeds = dug s.its s.army s.now
  timer : r.timer = s.now+(((goal cfg s.role s.resource s.army : Rat)-dug s.its s.army s.now)/rateOf collectSpeed).ceil
  endTime : r.army.collectResource.map (·.endTime) = some r.timer

theorem useTime_append (parts : List SpeedInfo) (part : SpeedInfo) : useTime (parts++[part]) = useTime parts+part.collectTime := by
  simp [useTime]

theorem dugBefore_append (parts : List SpeedInfo) (part : SpeedInfo) :
    dugBefore (parts++[part]) = dugBefore parts+part.collectSpeed/collectSpeedMultiple*part.collectTime := by
  simp [dugBefore]

theorem speeds_set {army : Army} (recorded : army.collectResource.isSome) (parts : List SpeedInfo) (collectSpeed endTime : Int) :
    ((army.setSpeeds parts collectSpeed).setEndTime endTime).collectSpeeds = parts ∧
      ((army.setSpeeds parts collectSpeed).setEndTime endTime).collectResource.map (·.endTime) = some endTime := by
  obtain ⟨held,record⟩ := Option.isSome_iff_exists.mp recorded
  simp [Army.collectSpeeds,Army.setSpeeds,Army.setEndTime,record]

theorem speedChange_changed (s : Session) (collectSpeed : Int) (other : s.its.collectSpeed ≠ collectSpeed) :
    ∃ r, collectSpeedChange cfg s.role s.now s.resource s.its s.army collectSpeed = some r ∧ Changed cfg s collectSpeed r := by
  have elapsed := s.elapsed
  unfold collectSpeedChange
  rw [if_pos other]
  dsimp only [gt_iff_lt]
  rw [← carry,goal_cut,div_rateOf]
  refine ⟨_,rfl,?_⟩
  by_cases running : s.its.collectTime+useTime s.army.collectSpeeds < s.now
  · rw [if_pos running,if_pos running]
    have closed : dugBefore s.army.collectSpeeds+((s.now-s.its.collectTime-useTime s.army.collectSpeeds : Int) : Rat)*s.its.collectSpeed/collectSpeedMultiple =
        dug s.its s.army s.now := by
      unfold dug
      ring
    have set := speeds_set s.recorded (s.army.collectSpeeds++[⟨s.its.collectSpeed,s.now-s.its.collectTime-useTime s.army.collectSpeeds⟩]) collectSpeed
    refine ⟨rfl,rfl,rfl,?_,?_,?_,(set _).2⟩
    · rw [(set _).1,useTime_append]
      dsimp only
      omega
    · rw [(set _).1,dugBefore_append]
      rfl
    · dsimp only
      rw [closed]
  · rw [if_neg running,if_neg running]
    have still : s.now-s.its.collectTime-useTime s.army.collectSpeeds = 0 := by omega
    have closed : dugBefore s.army.collectSpeeds = dug s.its s.army s.now := by
      unfold dug
      rw [still]
      simp
    have set := speeds_set s.recorded s.army.collectSpeeds collectSpeed
    refine ⟨rfl,rfl,rfl,?_,?_,?_,(set _).2⟩
    · rw [(set _).1]
      omega
    · rw [(set _).1,closed]
    · dsimp only
      rw [closed]

section changed
variable {cfg : Config} {s : Session} {collectSpeed : Int} {r : Timed}

theorem Changed.carry_eq (changed : Changed cfg s collectSpeed r) : carry cfg s.role s.resource r.army = carry cfg s.role s.resource s.army := by
  unfold carry leftLoad getArmyLoad getArmyUseLoad
  rw [changed.soldiers,changed.loads]

theorem Changed.dug_now (changed : Changed cfg s collectSpeed r) : dug r.its r.army s.now = dug s.its s.army s.now := by
  have none : s.now-s.its.collectTime-useTime r.army.collectSpeeds = 0 := by
    rw [changed.time]
    omega
  rw [dug,changed.its]
  dsimp only
  rw [none,changed.amount]
  simp

theorem dug_nonneg (s : Session) : 0 ≤ dug s.its s.army s.now := by
  have low := Rat.le_floor_iff.mp (gathered_nonneg s)
  exact_mod_cast low

-- What is known of both schedules of the changed session.
theorem Changed.ends (changed : Changed cfg s collectSpeed r) (faster : 0 < collectSpeed) :
    (Earliest (Reached cfg s.role s.resource r.its r.army) s.now r.timer ↔
      dug s.its s.army s.now < goal cfg s.role s.resource s.army+rateOf collectSpeed) ∧
    (Earliest (Reached cfg s.role s.resource r.its r.army) s.now ((armyLoadChange cfg s.role s.now s.resource r.its r.army).endTime s.now) ↔
      NoneBetween (goal cfg s.role s.resource s.army)
        (min (carry cfg s.role s.resource s.army) (s.resource.resourceAmount+dug s.its s.army s.now)) (dug s.its s.army s.now) (rateOf collectSpeed) s.now) := by
  have speed : r.its.collectSpeed = collectSpeed := by rw [changed.its]
  have goal_eq : goal cfg s.role s.resource r.army = goal cfg s.role s.resource s.army := by rw [goal,changed.carry_eq,goal]
  have later : laterGoal cfg s.role s.resource r.army = min (carry cfg s.role s.resource s.army : Rat) (s.resource.resourceAmount+dug s.its s.army s.now) := by
    rw [laterGoal,changed.carry_eq,changed.amount]
  have same : Reached cfg s.role s.resource r.its r.army =
      Grown (goal cfg s.role s.resource s.army) (dug s.its s.army s.now) (rateOf collectSpeed) s.now := by
    rw [reached_grown cfg s.role s.resource r.its r.army s.now,goal_eq,changed.dug_now,speed]
  constructor
  · rw [same]
    exact earliest_uncut (rate_pos faster) changed.timer
  · have right := load_right cfg s.role s.now s.resource r.its r.army (by rw [speed]; exact faster)
      (by rw [changed.amount]; exact dug_nonneg s)
    rw [goal_eq,later,changed.dug_now,speed] at right
    exact right

end changed

end changes

section ends
variable (cfg : Config)

-- The gathering of the same army that begins now.
def startNow (s : Session) (collectSpeed : Int) : Timed :=
  collectResource cfg s.role s.now s.resource s.its.collectRid s.its.armyIndex s.army collectSpeed

theorem start_ends (s : Session) (collectSpeed : Int) (digs : 0 < collectSpeed) :
    (Earliest (Reached cfg s.role s.resource (startNow cfg s collectSpeed).its (startNow cfg s collectSpeed).army) s.now (startNow cfg s collectSpeed).timer ↔
      0 < goal cfg s.role s.resource s.army+rateOf collectSpeed) ∧
    Earliest (Reached cfg s.role s.resource (startNow cfg s collectSpeed).its (startNow cfg s collectSpeed).army) s.now
      ((armyLoadChange cfg s.role s.now s.resource (startNow cfg s collectSpeed).its (startNow cfg s collectSpeed).army).endTime s.now) := by
  have none : dug (startNow cfg s collectSpeed).its (startNow cfg s collectSpeed).army s.now = 0 := by
    simp [dug,startNow,collectResource,Army.collectSpeeds,dugBefore,useTime]
  have before : dugBefore (startNow cfg s collectSpeed).army.collectSpeeds = 0 := rfl
  have timer : (startNow cfg s collectSpeed).timer = s.now+(((goal cfg s.role s.resource s.army : Rat)-0)/rateOf collectSpeed).ceil := by
    unfold startNow collectResource
    dsimp only
    rw [← carry,goal_cut,sub_zero,div_rateOf]
    omega
  have same : Reached cfg s.role s.resource (startNow cfg s collectSpeed).its (startNow cfg s collectSpeed).army =
      Grown (goal cfg s.role s.resource s.army) 0 (rateOf collectSpeed) s.now := by
    rw [reached_grown cfg s.role s.resource _ _ s.now,none]
    rfl
  constructor
  · rw [same]
    exact earliest_uncut (rate_pos digs) timer
  · rw [load_right cfg s.role s.now s.resource (startNow cfg s collectSpeed).its (startNow cfg s collectSpeed).army digs before.ge]
    intro second _ there
    have later : laterGoal cfg s.role s.resource (startNow cfg s collectSpeed).army = goal cfg s.role s.resource (startNow cfg s collectSpeed).army := by
      unfold laterGoal goal
      rw [before]
      push_cast
      rw [add_zero]
    rw [later]
    exact there

-- All three schedule the earliest second, and the load change of what the other two have
-- just scheduled schedules the same.
structure EndTimes (s : Session) (collectSpeed : Int) : Prop where
  load : Earliest (Reached cfg s.role s.resource s.its s.army) s.now ((armyLoadChange cfg s.role s.now s.resource s.its s.army).endTime s.now)
  change : ∀ r, collectSpeedChange cfg s.role s.now s.resource s.its s.army collectSpeed = some r →
    Earliest (Reached cfg s.role s.resource r.its r.army) s.now r.timer ∧
      (armyLoadChange cfg s.role s.now s.resource r.its r.army).endTime s.now = r.timer
  start : Earliest (Reached cfg s.role s.resource (startNow cfg s collectSpeed).its (startNow cfg s collectSpeed).army) s.now (startNow cfg s collectSpeed).timer ∧
    (armyLoadChange cfg s.role s.now s.resource (startNow cfg s collectSpeed).its (startNow cfg s collectSpeed).army).endTime s.now = (startNow cfg s collectSpeed).timer

-- Taking earlier speeds off before the cap moves no whole second, and less than a second's
-- gathering lies past the goal when the speed changes.
structure Fits (s : Session) (collectSpeed : Int) : Prop where
  load : NoneBetween (goal cfg s.role s.resource s.army) (laterGoal cfg s.role s.resource s.army) (dug s.its s.army s.now) (rateOf s.its.collectSpeed) s.now
  change : s.its.collectSpeed ≠ collectSpeed → dug s.its s.army s.now < goal cfg s.role s.resource s.army+rateOf collectSpeed ∧
    NoneBetween (goal cfg s.role s.resource s.army) (min (carry cfg s.role s.resource s.army) (s.resource.resourceAmount+dug s.its s.army s.now))
      (dug s.its s.army s.now) (rateOf collectSpeed) s.now
  start : 0 < goal cfg s.role s.resource s.army+rateOf collectSpeed

theorem end_times (s : Session) (collectSpeed : Int) (digs : 0 < s.its.collectSpeed) (faster : 0 < collectSpeed) :
    EndTimes cfg s collectSpeed ↔ Fits cfg s collectSpeed := by
  have load := load_right cfg s.role s.now s.resource s.its s.army digs (dugBefore_nonneg s.parts_nonneg)
  have start := start_ends cfg s collectSpeed faster
  constructor
  · intro right
    refine ⟨load.mp right.load,?_,start.1.mp right.start.1⟩
    intro other
    obtain ⟨r,returned,changed⟩ := speedChange_changed cfg s collectSpeed other
    obtain ⟨earliest,same⟩ := right.change r returned
    have ends := changed.ends faster
    refine ⟨ends.1.mp earliest,ends.2.mp ?_⟩
    rw [same]
    exact earliest
  · intro fits
    have first := start.1.mpr fits.start
    refine ⟨load.mpr fits.load,?_,first,start.2.unique first⟩
    intro r returned
    have other : s.its.collectSpeed ≠ collectSpeed := by
      intro same
      rw [collectSpeedChange,if_neg (not_not_intro same)] at returned
      cases returned
    obtain ⟨again,its,changed⟩ := speedChange_changed cfg s collectSpeed other
    cases Option.some.inj (its.symm.trans returned)
    obtain ⟨past,between⟩ := fits.change other
    have ends := changed.ends faster
    have earliest := ends.1.mpr past
    exact ⟨earliest,(ends.2.mpr between).unique earliest⟩

-- An army that can carry no more than the node has is never late.
theorem fits_small {s : Session} {collectSpeed : Int} (few : carry cfg s.role s.resource s.army ≤ s.resource.resourceAmount)
    (short : dug s.its s.army s.now < carry cfg s.role s.resource s.army+rateOf collectSpeed) : Fits cfg s collectSpeed := by
  have its : goal cfg s.role s.resource s.army = carry cfg s.role s.resource s.army := min_eq_left few
  have less : (carry cfg s.role s.resource s.army : Rat) ≤ s.resource.resourceAmount := by exact_mod_cast few
  have same {more : Rat} (nonneg : 0 ≤ more) : min (carry cfg s.role s.resource s.army : Rat) (s.resource.resourceAmount+more) = carry cfg s.role s.resource s.army :=
    min_eq_left (by linarith)
  have nonneg := dug_nonneg s
  refine ⟨?_,?_,?_⟩
  · intro second _ there
    rw [laterGoal,same (dugBefore_nonneg s.parts_nonneg)]
    rwa [its] at there
  · intro _
    rw [its,same nonneg]
    exact ⟨short,fun _ _ there => there⟩
  · rw [its]
    linarith

end ends

section late

-- Ten seconds at one a second, by an army of forty that goes on at two a second.
def steady : Session := {shrunk with now:=10,elapsed:=by decide}

theorem steady_ends : EndTimes plain steady 20000 :=
  (end_times plain steady 20000 (by decide) (by decide)).mpr (fits_small plain (by decide +kernel) (by decide +kernel))

-- Two hundred soldiers have dug fifty at an earlier speed. The node has a hundred, so fifty
-- seconds are left.
def resumed : Session := {shrunk with
  army:=⟨[⟨101,200⟩],[],some ⟨1,(0,0),7,0,75,100,[⟨20000,25⟩],10000⟩⟩
  now:=25
  recorded:=rfl
  parts_nonneg:=by
    intro part only
    cases List.mem_singleton.mp only
    decide
  elapsed:=by decide}

theorem resumed_late : ¬EndTimes plain resumed 20000 := by
  intro right
  have reached : Reached plain resumed.role resumed.resource resumed.its resumed.army 75 := by
    unfold Reached
    decide +kernel
  have first := right.load.first 75 (by decide) reached
  revert first
  decide +kernel

end late

end OriginGame.Gathering
