import Mathlib.Order.Bounds.Basic
import OriginGame.RallyMgr

namespace OriginGame.RallyMgr

-- What rallyWaitTime stands for: the team leaves when it is ready and nobody is still on the way.
def RallyTeam.waits (info : RallyTeam) : Set Nat :=
  {t | t = info.rallyReadyTime ∨ ∃ rid join, info.rallyWaitArmyInfo.lookup rid = some join ∧ join.arrivalTime = t}

def RallyTeam.Waits (info : RallyTeam) : Prop := IsGreatest info.waits info.rallyWaitTime

def arrivalOf (waits : Table Nat JoinRally) (rid : Nat) : Nat := ((waits.lookup rid).map JoinRally.arrivalTime).getD 0

section Exits
variable (order : Order Nat)

def exitRallyTeam (exitRid : Nat) (info : RallyTeam) : Option RallyTeam :=
  if (info.rallyArmy.lookup exitRid).isSome then some (info.leave order exitRid) else none

def Exit.exit (call : Exit) (info : RallyTeam) : Option RallyTeam :=
  if mayExit call info then
    match call.kind with
    | .forceExitRallyTeam => some ((exitRallyTeam order call.exitRid info).getD info)
    | .repatriationRallyArmy => (exitRallyTeam order call.exitRid info).map (RallyTeam.rewait order)
    | .cacleJoinRally => some (((exitRallyTeam order call.exitRid info).getD info).rewait order)
  else none

-- At one team of the guild. The clock is read again by the request that repatriates.
def exitGuildDispatchRally (rallyRid rid now later : Nat) (info : RallyTeam) : Option RallyTeam :=
  if (info.rallyArmy.lookup rid).isSome || (info.rallyReinforce.lookup rid).isSome then
    if info.rallyWaitTime < now then some ((exitRallyTeam order rid info).getD info)
    else Exit.exit order ⟨.repatriationRallyArmy,rallyRid,rid,later⟩ info
  else none

-- All that call exitRallyTeam.
inductive Caller where
  | request (call : Exit)
  | exitGuildDispatchRally (rallyRid rid now later : Nat)
  | disbandRallyArmy (exitRid : Nat)
  deriving DecidableEq, Repr

namespace Caller

def exitRid : Caller → Nat
  | .request call => call.exitRid
  | .exitGuildDispatchRally _ rid _ _ => rid
  | .disbandRallyArmy exitRid => exitRid

def exit (caller : Caller) (info : RallyTeam) : Option RallyTeam :=
  match caller with
  | .request call => call.exit order info
  | .exitGuildDispatchRally rallyRid rid now later => RallyMgr.exitGuildDispatchRally order rallyRid rid now later info
  | .disbandRallyArmy exitRid => exitRallyTeam order exitRid info

-- The callers that count the waiting time once more after the exit.
def Recounts (caller : Caller) (info : RallyTeam) : Prop :=
  match caller with
  | .request call => call.kind ≠ .forceExitRallyTeam
  | .exitGuildDispatchRally _ _ now _ => now ≤ info.rallyWaitTime
  | .disbandRallyArmy _ => False

end Caller

-- With nobody left the old time stays, else the one visited last decides alone.
def RallyTeam.LastDecides (exitRid : Nat) (info : RallyTeam) : Prop :=
  let left := info.rallyWaitArmyInfo.erase exitRid
  match (order.visit left.keys).getLast? with
  | none => info.rallyWaitTime = info.rallyReadyTime
  | some last => ∀ rid join, left.lookup rid = some join → join.arrivalTime ≤ max info.rallyReadyTime (arrivalOf left last)

end Exits

section Times
variable {order : Order Nat}

theorem foldl_last (f : α → β) (list : List α) (start : β) : list.foldl (fun _ a => f a) start = (list.getLast?.map f).getD start := by
  induction list generalizing start with
  | nil => rfl
  | cons a rest ih =>
    simp only [List.foldl_cons,ih,List.getLast?_cons,Option.map_some,Option.getD_some]
    cases rest.getLast? with
    | none => rfl
    | some last => rfl

theorem foldl_greatest (f : α → Nat) (list : List α) (start : Nat) :
    IsGreatest {t | t = start ∨ ∃ a ∈ list, f a = t} (list.foldl (fun t a => max t (f a)) start) := by
  induction list generalizing start with
  | nil => simp [isGreatest_singleton]
  | cons a rest ih =>
    obtain ⟨reached,above⟩ := ih (max start (f a))
    have begun : max start (f a) ≤ rest.foldl (fun t a => max t (f a)) (max start (f a)) := above (.inl rfl)
    constructor
    · cases reached with
      | inl same =>
        rw [List.foldl_cons,same]
        cases max_choice start (f a) with
        | inl left => exact .inl left
        | inr right => exact .inr ⟨a,List.mem_cons_self,right.symm⟩
      | inr later =>
        obtain ⟨b,mem,same⟩ := later
        exact .inr ⟨b,List.mem_cons_of_mem a mem,same⟩
    · intro t there
      cases there with
      | inl same => exact same.le.trans ((le_max_left start (f a)).trans begun)
      | inr listed =>
        obtain ⟨b,mem,same⟩ := listed
        cases List.mem_cons.mp mem with
        | inl first =>
          subst first
          exact same.ge.trans ((le_max_right start (f b)).trans begun)
        | inr later => exact above (.inr ⟨b,later,same⟩)

theorem arrivalOf_found {left : Table Nat JoinRally} (found : left.lookup rid = some join) : arrivalOf left rid = join.arrivalTime := by
  simp [arrivalOf,found]

-- What the loops write when the one they visit arrives later.
theorem later_max (time arrivalTime : Nat) : (if time < arrivalTime then arrivalTime else time) = max time arrivalTime := by
  split
  · next later => exact (max_eq_right later.le).symm
  · next earlier => exact (max_eq_left (not_lt.mp earlier)).symm

theorem waits_visited (order : Order Nat) (info : RallyTeam) :
    info.waits = {t | t = info.rallyReadyTime ∨ ∃ rid ∈ order.visit info.rallyWaitArmyInfo.keys,
      arrivalOf info.rallyWaitArmyInfo rid = t} := by
  ext t
  refine or_congr_right ⟨fun there => ?_,fun there => ?_⟩
  · obtain ⟨rid,join,found,same⟩ := there
    exact ⟨rid,Table.visit_of_found found,(arrivalOf_found found).trans same⟩
  · obtain ⟨rid,mem,same⟩ := there
    obtain ⟨join,found⟩ := Table.found_of_visit mem
    exact ⟨rid,join,found,(arrivalOf_found found).symm.trans same⟩

theorem rewait_waits (info : RallyTeam) : (info.rewait order).Waits := by
  have same : (info.rewait order).rallyWaitTime = (order.visit info.rallyWaitArmyInfo.keys).foldl
      (fun time rid => max time (arrivalOf info.rallyWaitArmyInfo rid)) info.rallyReadyTime := by
    refine List.foldl_ext _ _ _ (fun time rid mem => ?_)
    obtain ⟨join,found⟩ := Table.found_of_visit mem
    simp only [found,arrivalOf_found found]
    exact later_max time join.arrivalTime
  rw [RallyTeam.Waits,waits_visited order (info.rewait order),same]
  exact foldl_greatest _ _ _

-- What the loop of exitRallyTeam leaves: its body never looks at the time it had.
theorem leave_time (exitRid : Nat) (info : RallyTeam) :
    (info.leave order exitRid).rallyWaitTime = ((order.visit (info.rallyWaitArmyInfo.erase exitRid).keys).getLast?.map
      (fun last => max info.rallyReadyTime (arrivalOf (info.rallyWaitArmyInfo.erase exitRid) last))).getD info.rallyWaitTime := by
  rw [← foldl_last]
  refine List.foldl_ext _ _ _ (fun time rid mem => ?_)
  obtain ⟨join,found⟩ := Table.found_of_visit mem
  simp only [found,arrivalOf_found found]
  exact later_max info.rallyReadyTime join.arrivalTime

theorem nobody_left {left : Table Nat JoinRally} (ended : (order.visit left.keys).getLast? = none) (rid : Nat) : left.lookup rid = none := by
  have empty : [] = left.keys := (List.getLast?_eq_none_iff.mp ended ▸ order.perm left.keys).nil_eq
  exact Table.lookup_no_keys empty.symm rid

theorem leave_waits (exitRid : Nat) (info : RallyTeam) : (info.leave order exitRid).Waits ↔ info.LastDecides order exitRid := by
  unfold RallyTeam.Waits RallyTeam.LastDecides
  rw [leave_time]
  dsimp only
  cases last_at : (order.visit (info.rallyWaitArmyInfo.erase exitRid).keys).getLast? with
  | none =>
    have nobody := nobody_left last_at
    constructor
    · intro greatest
      cases greatest.1 with
      | inl same => exact same
      | inr there =>
        obtain ⟨rid,join,found,_⟩ := there
        cases (nobody rid).symm.trans found
    · intro same
      refine ⟨.inl same,fun t there => ?_⟩
      cases there with
      | inl ready => exact (ready.trans same.symm).le
      | inr waiting =>
        obtain ⟨rid,join,found,_⟩ := waiting
        cases (nobody rid).symm.trans found
  | some last =>
    have mem := order.mem_visit.mp (List.mem_of_getLast? last_at)
    obtain ⟨lastJoin,last_found⟩ := Table.lookup_of_mem (AList.mem_keys.mpr mem)
    simp only [Option.map_some,Option.getD_some]
    constructor
    · intro greatest rid join found
      exact greatest.2 (.inr ⟨rid,join,found,rfl⟩)
    · intro latest
      constructor
      · cases max_choice info.rallyReadyTime (arrivalOf (info.rallyWaitArmyInfo.erase exitRid) last) with
        | inl left => exact .inl left
        | inr right => exact .inr ⟨last,lastJoin,last_found,(arrivalOf_found last_found).symm.trans right.symm⟩
      · intro t there
        cases there with
        | inl ready => exact ready.le.trans (le_max_left ..)
        | inr waiting =>
          obtain ⟨rid,join,found,same⟩ := waiting
          exact same ▸ latest rid join found

theorem exitRallyTeam_member (member : (info.rallyArmy.lookup exitRid).isSome) :
    exitRallyTeam order exitRid info = some (info.leave order exitRid) := if_pos member

theorem request_waits (call : Exit) (member : (info.rallyArmy.lookup call.exitRid).isSome) (exits : call.exit order info = some after) :
    after.Waits ↔ call.kind ≠ .forceExitRallyTeam ∨ info.LastDecides order call.exitRid := by
  unfold Exit.exit at exits
  rw [exitRallyTeam_member member] at exits
  split at exits
  · cases kind : call.kind with
    | forceExitRallyTeam =>
      simp only [kind,Option.getD_some,Option.some.injEq] at exits
      subst exits
      simpa using leave_waits call.exitRid info
    | repatriationRallyArmy | cacleJoinRally =>
      simp only [kind,Option.map_some,Option.getD_some,Option.some.injEq] at exits
      subst exits
      simpa using rewait_waits (info.leave order call.exitRid)
  · cases exits

theorem exit_waits (caller : Caller) (member : (info.rallyArmy.lookup caller.exitRid).isSome) (exits : caller.exit order info = some after) :
    after.Waits ↔ caller.Recounts info ∨ info.LastDecides order caller.exitRid := by
  cases caller with
  | request call => exact request_waits call member exits
  | exitGuildDispatchRally rallyRid rid now later =>
    simp only [Caller.exit,exitGuildDispatchRally] at exits
    split at exits
    · split at exits
      · next departed =>
        have bare : exitRallyTeam order rid info = some (info.leave order rid) := exitRallyTeam_member member
        rw [bare] at exits
        cases exits
        simpa [Caller.Recounts,Caller.exitRid,Nat.not_le.mpr departed] using leave_waits rid info
      · next waiting =>
        have recounted := request_waits _ member exits
        simpa [Caller.Recounts,not_lt.mp waiting] using recounted
    · cases exits
  | disbandRallyArmy exitRid =>
    have bare : exitRallyTeam order exitRid info = some (info.leave order exitRid) := exitRallyTeam_member member
    cases bare.symm.trans exits
    simpa [Caller.Recounts,Caller.exitRid] using leave_waits exitRid info

-- The two steps of a request's exit, with nothing else done to the team in between.
theorem exit_resumed (call : Exit) (calm : answer.raises = false) (may : mayExit call (s.teams team) = true)
    (member : ((s.teams team).rallyArmy.lookup call.exitRid).isSome) (registered : s.rallyTeamInfo.lookup (guildId,call.rid) = some team) :
    call.exit order (s.teams team) = some ((resumeExit order answer call (.sync guildId)
      (resumeExit order answer call (.leave guildId team armyIndex) s).1).1.teams team) := by
  have left : (resumeExit order answer call (.leave guildId team armyIndex) s).1 = leaveTeam order team call.exitRid armyIndex s := by
    simp [resumeExit,calm]
  have still : (leaveTeam order team call.exitRid armyIndex s).rallyTeamInfo.lookup (guildId,call.rid) = some team := registered
  have taken : (leaveTeam order team call.exitRid armyIndex s).teams team = (s.teams team).leave order call.exitRid := by
    simp [leaveTeam,release]
  unfold Exit.exit
  rw [left,if_pos may,exitRallyTeam_member member]
  cases kind : call.kind with
  | forceExitRallyTeam => simp [resumeExit,calm,kind,taken]
  | repatriationRallyArmy | cacleJoinRally => simp [resumeExit,calm,kind,still,taken]

-- In whatever order pairs visits: those still waiting must all give one time.
theorem leave_every_order (exitRid : Nat) (info : RallyTeam) : (∀ order, (info.leave order exitRid).Waits) ↔
    ((∀ rid, (info.rallyWaitArmyInfo.erase exitRid).lookup rid = none) → info.rallyWaitTime = info.rallyReadyTime) ∧
    ∀ last lastJoin, (info.rallyWaitArmyInfo.erase exitRid).lookup last = some lastJoin →
      ∀ rid join, (info.rallyWaitArmyInfo.erase exitRid).lookup rid = some join →
        join.arrivalTime ≤ max info.rallyReadyTime lastJoin.arrivalTime := by
  simp only [leave_waits]
  constructor
  · intro decides
    refine ⟨fun nobody => ?_,fun last lastJoin last_found rid join found => ?_⟩
    · have empty : (info.rallyWaitArmyInfo.erase exitRid).keys = [] := by
        refine List.eq_nil_iff_forall_not_mem.mpr (fun rid mem => ?_)
        exact AList.lookup_eq_none.mp (nobody rid) (AList.mem_keys.mpr mem)
      have kept := decides .stored
      simpa [RallyTeam.LastDecides,Order.stored,empty] using kept
    · have mem : last ∈ (info.rallyWaitArmyInfo.erase exitRid).keys := Table.mem_of_lookup last_found
      have chosen := decides (.back last)
      simp only [RallyTeam.LastDecides,Order.back,if_pos mem,List.getLast?_concat] at chosen
      exact arrivalOf_found last_found ▸ chosen rid join found
  · intro ⟨nobody,alike⟩ order
    unfold RallyTeam.LastDecides
    dsimp only
    cases last_at : (order.visit (info.rallyWaitArmyInfo.erase exitRid).keys).getLast? with
    | none => exact nobody (nobody_left last_at)
    | some last =>
      have mem := order.mem_visit.mp (List.mem_of_getLast? last_at)
      obtain ⟨lastJoin,last_found⟩ := Table.lookup_of_mem (AList.mem_keys.mpr mem)
      intro rid join found
      have latest := alike last lastJoin last_found rid join found
      rwa [← arrivalOf_found last_found] at latest

-- Role 4 has arrived, roles 2 and 3 are on their way.
def awaited : RallyTeam :=
  {State.empty.teams 0 with
    rallyRid:=1,
    rallyReadyTime:=100,
    rallyWaitTime:=300,
    rallyArmy:=(((AList.insert 1 1 ∅ : Table Nat Nat).insert 2 1).insert 3 1).insert 4 1,
    rallyWaitArmyInfo:=(AList.insert 3 ⟨200,8⟩ ∅ : Table Nat JoinRally).insert 2 ⟨300,7⟩}

def forced : Caller := .request ⟨.forceExitRallyTeam,1,4,50⟩

theorem forced_exits : forced.exit .stored awaited = some (awaited.leave .stored 4) := by rfl

theorem forced_waits : (awaited.leave .stored 4).Waits ↔ forced.Recounts awaited ∨ awaited.LastDecides .stored 4 :=
  exit_waits forced (by decide) forced_exits

theorem exit_forgets : ¬ ∀ (order : Order Nat) (caller : Caller) (info after : RallyTeam), info.rallyMarchTime = 0 →
    (info.rallyArmy.lookup caller.exitRid).isSome → caller.exit order info = some after → after.Waits := by
  intro right
  have waits := right .stored forced awaited (awaited.leave .stored 4) rfl (by decide) forced_exits
  have late : (300 : Nat) ≤ 200 := waits.2 (.inr ⟨2,⟨300,7⟩,by decide,rfl⟩)
  omega

end Times
end OriginGame.RallyMgr
