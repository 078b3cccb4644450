import OriginGame.EarlyWarningMgr

namespace OriginGame.EarlyWarningMgr
open NestedTable (find)

-- When what was posted last for a pair arrives: nothing after a cancel, or a check that finds the time over.
def afterwards (pair : Pair) (time : Option Int) : Request → Option Int
  | .add notice => if notice.pair = pair then some notice.arrivalTime else time
  | .cancleEarlyWarning _ other => if other = pair then none else time
  | .updateEarlyWarningTime _ other arrivalTime => if other = pair then time.map (fun _ => arrivalTime) else time
  | .checkEarlyWarningTimeout now => time.filter (fun arrivalTime => decide (now < arrivalTime))
  | .updateAttackerSoldiers _ _ _ => time
  | .shiledEarlyWarning _ _ => time

def due (pair : Pair) (posted : List Request) : Option Int := posted.foldl (afterwards pair) none

def Warns (all : AllEarlyWarningInfo) (pair : Pair) (index : Nat) (info : EarlyWarningInfo) : Prop :=
  find all pair.targetRid index = some info ∧ info.about pair = true

structure Settled (s : State) (pair : Pair) : Prop where
  last : ∀ {index info}, Warns s.allEarlyWarningInfo pair index info → due pair s.posted = some info.arrivalTime
  one : ∀ {index info other also}, Warns s.allEarlyWarningInfo pair index info → Warns s.allEarlyWarningInfo pair other also → index = other

-- While a warning is being added nothing of its pair is in the table.
structure Expected (s : State) (adding : Adding) : Prop where
  last : due adding.notice.pair s.posted = some adding.notice.arrivalTime
  unwarned : ∀ {index info}, ¬ Warns s.allEarlyWarningInfo adding.notice.pair index info

section messages
variable {order : Order Nat} {all : AllEarlyWarningInfo} {pair other : Pair} {index : Nat} {info : EarlyWarningInfo}

theorem about_inj {pair other : Pair} (here : info.about pair = true) (there : info.about other = true) (rid : pair.targetRid = other.targetRid) :
    pair = other := by
  unfold EarlyWarningInfo.about at here there
  simp only [Bool.and_eq_true,decide_eq_true_eq] at here there
  obtain ⟨_,_,_⟩ := pair
  obtain ⟨_,_,_⟩ := other
  simp_all

theorem seek_some (found : seek order all pair = some index) : ∃ info, Warns all pair index info := by
  obtain ⟨infos,row,here⟩ := Option.bind_eq_some_iff.mp found
  have passes := List.find?_some here
  obtain ⟨info,entry,about⟩ := (Option.any_eq_true _ _).mp passes
  exact ⟨info,(NestedTable.find_row row index).trans entry,about⟩

theorem seek_none (missing : seek order all pair = none) : ¬ Warns all pair index info := by
  rintro ⟨entry,about⟩
  obtain ⟨infos,row,there⟩ := Option.bind_eq_some_iff.mp entry
  have nowhere := List.find?_eq_none.mp ((Option.bind_eq_none_iff.mp missing) infos row) index
    (Table.visit_of_found there)
  rw [there] at nowhere
  exact nowhere about

-- A message about a pair leaves a warning of that pair as it is only if it met another first.
theorem cancle_warns (warns : Warns (cancleEarlyWarning order all other) pair index info) :
    Warns all pair index info ∧ (other = pair → ∃ first also, first ≠ index ∧ Warns all pair first also) := by
  unfold cancleEarlyWarning at warns
  cases sought : seek order all other with
  | none =>
    rw [sought] at warns
    refine ⟨warns,fun same => ?_⟩
    subst same
    exact absurd warns (seek_none sought)
  | some first =>
    rw [sought,Option.elim_some] at warns
    obtain ⟨entry,about⟩ := warns
    rw [NestedTable.find_drop] at entry
    split at entry
    next => cases entry
    next apart =>
      refine ⟨⟨entry,about⟩,fun same => ?_⟩
      subst same
      obtain ⟨also,there⟩ := seek_some sought
      exact ⟨first,also,fun equal => apart ⟨rfl,equal.symm⟩,there⟩

theorem update_warns {change : EarlyWarningInfo → EarlyWarningInfo} (warns : Warns (updateFirst order all other change) pair index info)
    (same : ∀ info pair, (change info).about pair = info.about pair) :
    (Warns all pair index info ∧ (other = pair → ∃ first also, first ≠ index ∧ Warns all pair first also)) ∨
    (other = pair ∧ ∃ old, Warns all pair index old ∧ info = change old) := by
  unfold updateFirst at warns
  cases sought : seek order all other with
  | none =>
    rw [sought] at warns
    refine .inl ⟨warns,fun same => ?_⟩
    subst same
    exact absurd warns (seek_none sought)
  | some first =>
    rw [sought,Option.elim_some] at warns
    obtain ⟨entry,about⟩ := warns
    obtain ⟨also,there⟩ := seek_some sought
    rw [NestedTable.find_adjust] at entry
    split at entry
    next here =>
      obtain ⟨rid,rfl⟩ := here
      obtain ⟨old,found,rfl⟩ := Option.map_eq_some_iff.mp entry
      rw [same] at about
      refine .inr ⟨?_,old,⟨found,about⟩,rfl⟩
      have seen := there.1
      rw [← rid,found] at seen
      cases seen
      exact about_inj there.2 about rid.symm
    next apart =>
      refine .inl ⟨⟨entry,about⟩,fun same => ?_⟩
      subst same
      exact ⟨first,also,fun equal => apart ⟨rfl,equal.symm⟩,there⟩

theorem soldiers_warns {soldiers : List (Nat×Nat)} (warns : Warns (updateAttackerSoldiers order all other soldiers) pair index info) :
    ∃ old, Warns all pair index old ∧ old.arrivalTime = info.arrivalTime := by
  unfold updateAttackerSoldiers at warns
  rcases update_warns warns (fun _ _ => rfl) with ⟨before,_⟩ | ⟨_,old,before,rfl⟩
  · exact ⟨info,before,rfl⟩
  · exact ⟨old,before,rfl⟩

theorem time_warns {arrivalTime : Int} (warns : Warns (updateEarlyWarningTime order all other arrivalTime) pair index info) :
    (Warns all pair index info ∧ (other = pair → ∃ first also, first ≠ index ∧ Warns all pair first also)) ∨
    (other = pair ∧ info.arrivalTime = arrivalTime ∧ ∃ old, Warns all pair index old) := by
  unfold updateEarlyWarningTime at warns
  rcases update_warns warns (fun _ _ => rfl) with before | ⟨same,old,before,rfl⟩
  · exact .inl before
  · exact .inr ⟨same,rfl,old,before⟩

theorem shiled_warns {rid : Nat} {earlyWarningIndexs : List Nat} (warns : Warns (shiledEarlyWarning all rid earlyWarningIndexs) pair index info) :
    ∃ old, Warns all pair index old ∧ old.arrivalTime = info.arrivalTime := by
  unfold shiledEarlyWarning at warns
  induction earlyWarningIndexs generalizing all with
  | nil => exact ⟨info,warns,rfl⟩
  | cons shiled rest ih =>
    obtain ⟨old,⟨entry,about⟩,time⟩ := ih warns
    rw [NestedTable.find_adjust] at entry
    split at entry
    next =>
      obtain ⟨before,found,rfl⟩ := Option.map_eq_some_iff.mp entry
      exact ⟨before,⟨found,about⟩,time⟩
    next => exact ⟨old,⟨entry,about⟩,time⟩

theorem check_warns {now : Int} (warns : Warns (checkEarlyWarningTimeout now all) pair index info) :
    Warns all pair index info ∧ now < info.arrivalTime := by
  obtain ⟨entry,about⟩ := warns
  obtain ⟨infos,row,there⟩ := Option.bind_eq_some_iff.mp entry
  unfold checkEarlyWarningTimeout at row
  rw [Table.lookup_keepValues,Table.lookup_mapValues] at row
  obtain ⟨infos',kept,rfl⟩ := Option.map_eq_some_iff.mp (Option.filter_eq_some_iff.mp row).1
  rw [Table.lookup_keepValues] at there
  obtain ⟨found,late⟩ := Option.filter_eq_some_iff.mp there
  exact ⟨⟨(NestedTable.find_row kept index).trans found,about⟩,of_decide_eq_true late⟩

end messages

section steps
variable {s : State} {pair : Pair} {request : Request}

theorem due_snoc (pair : Pair) (posted : List Request) (request : Request) :
    due pair (posted++[request]) = afterwards pair (due pair posted) request := by
  rw [due,List.foldl_append]
  rfl

theorem acts_warns {all : AllEarlyWarningInfo} (warns : Warns (acts all request) pair index info) : ∃ old, Warns all pair index old := by
  cases request with
  | add => exact ⟨_,warns⟩
  | cancleEarlyWarning => exact ⟨_,(cancle_warns warns).1⟩
  | updateAttackerSoldiers =>
    obtain ⟨old,there,_⟩ := soldiers_warns warns
    exact ⟨old,there⟩
  | updateEarlyWarningTime =>
    rcases time_warns warns with ⟨there,_⟩ | ⟨_,_,there⟩
    · exact ⟨_,there⟩
    · exact there
  | shiledEarlyWarning =>
    obtain ⟨old,there,_⟩ := shiled_warns warns
    exact ⟨old,there⟩
  | checkEarlyWarningTimeout => exact ⟨_,(check_warns warns).1⟩

def Request.adds (pair : Pair) : Request → Prop
  | .add notice => notice.pair = pair
  | _ => False

theorem Settled.entered (settled : Settled s pair) (others : ¬ request.adds pair) : Settled (enter request s).1 pair := by
  refine ⟨fun {index info} warns => ?_,fun warns also => ?_⟩
  · change due pair (s.posted++[request]) = _
    rw [due_snoc]
    change Warns (acts s.allEarlyWarningInfo request) pair index info at warns
    cases request with
    | add notice => exact (if_neg others).trans (settled.last warns)
    | cancleEarlyWarning order other =>
      obtain ⟨before,met⟩ := cancle_warns warns
      refine (if_neg (fun same => ?_)).trans (settled.last before)
      obtain ⟨first,also,apart,there⟩ := met same
      exact apart (settled.one there before)
    | updateAttackerSoldiers order other soldiers =>
      obtain ⟨old,before,time⟩ := soldiers_warns warns
      rw [← time]
      exact settled.last before
    | updateEarlyWarningTime order other arrivalTime =>
      rcases time_warns warns with ⟨before,met⟩ | ⟨same,time,old,before⟩
      · refine (if_neg (fun same => ?_)).trans (settled.last before)
        obtain ⟨first,also,apart,there⟩ := met same
        exact apart (settled.one there before)
      · refine (if_pos same).trans ?_
        rw [settled.last before,time]
        rfl
    | shiledEarlyWarning rid indexs =>
      obtain ⟨old,before,time⟩ := shiled_warns warns
      rw [← time]
      exact settled.last before
    | checkEarlyWarningTimeout now =>
      obtain ⟨before,late⟩ := check_warns warns
      change (due pair s.posted).filter _ = _
      rw [settled.last before]
      exact Option.filter_eq_some_iff.mpr ⟨rfl,decide_eq_true late⟩
  · obtain ⟨old,before⟩ := acts_warns warns
    obtain ⟨_,beside⟩ := acts_warns also
    exact settled.one before beside

theorem Settled.begins {notice : Notice} (unwarned : ∀ {index info}, ¬ Warns s.allEarlyWarningInfo notice.pair index info) (stage : Stage) :
    Expected (enter (.add notice) s).1 ⟨notice,stage⟩ := by
  refine ⟨?_,unwarned⟩
  change due notice.pair (s.posted++[.add notice]) = _
  rw [due_snoc]
  exact if_pos rfl

-- What a request must leave alone while a warning is being added.
def Request.disturbs (adding : Adding) : Request → Prop
  | .add notice => notice.pair = adding.notice.pair
  | .cancleEarlyWarning _ pair => pair = adding.notice.pair
  | .updateEarlyWarningTime _ pair _ => pair = adding.notice.pair
  | .checkEarlyWarningTimeout now => adding.notice.arrivalTime ≤ now
  | .updateAttackerSoldiers _ _ _ => False
  | .shiledEarlyWarning _ _ => False

theorem Expected.entered {adding : Adding} (expected : Expected s adding) (apart : ¬ request.disturbs adding) : Expected (enter request s).1 adding := by
  refine ⟨?_,fun warns => ?_⟩
  · change due adding.notice.pair (s.posted++[request]) = _
    rw [due_snoc,expected.last]
    cases request with
    | add => exact if_neg apart
    | cancleEarlyWarning => exact if_neg apart
    | updateAttackerSoldiers => rfl
    | updateEarlyWarningTime => exact if_neg apart
    | shiledEarlyWarning => rfl
    | checkEarlyWarningTimeout now =>
      have late : now < adding.notice.arrivalTime := not_le.mp apart
      rw [afterwards,Option.filter_some,if_pos (decide_eq_true late)]
  · obtain ⟨old,before⟩ := acts_warns warns
    exact expected.unwarned before

-- The warning has what the message said, whichever of the four it was.
theorem garrisonArmy_about {info filled : EarlyWarningInfo} {garrison : Option (List Nat)} (done : garrisonArmy info garrison = some filled) :
    filled.objectIndex = info.objectIndex ∧ filled.fromObjectIndex = info.fromObjectIndex ∧ filled.arrivalTime = info.arrivalTime := by
  cases garrison with
  | none =>
    cases done
    exact ⟨rfl,rfl,rfl⟩
  | some armies =>
    obtain ⟨_,_,rfl⟩ := Option.map_eq_some_iff.mp done
    exact ⟨rfl,rfl,rfl⟩

theorem atTarget_about {emptyBuilds : Bool} {r : Replies} {objectType : RoleType} {info filled : EarlyWarningInfo}
    (done : atTarget emptyBuilds r objectType info = some filled) :
    filled.objectIndex = info.objectIndex ∧ filled.fromObjectIndex = info.fromObjectIndex ∧ filled.arrivalTime = info.arrivalTime := by
  unfold atTarget at done
  split at done
  · obtain ⟨_,_,rfl⟩ := Option.map_eq_some_iff.mp done
    exact ⟨rfl,rfl,rfl⟩
  · split at done
    · obtain ⟨_,_,rfl⟩ := Option.map_eq_some_iff.mp done
      exact ⟨rfl,rfl,rfl⟩
    · split at done
      · obtain ⟨land,_,rest⟩ := Option.bind_eq_some_iff.mp done
        have filling := garrisonArmy_about rest
        exact filling
      · split at done
        · obtain ⟨garrison,_,rest⟩ := Option.bind_eq_some_iff.mp done
          split at rest
          · cases rest
            exact ⟨rfl,rfl,rfl⟩
          · exact garrisonArmy_about rest
        · cases done
          exact ⟨rfl,rfl,rfl⟩

theorem addEarlyWarning_about {notice : Notice} {r : Replies} (done : addEarlyWarning notice index r = some info) :
    info.objectIndex = notice.pair.objectIndex ∧ info.fromObjectIndex = notice.pair.fromObjectIndex ∧ info.arrivalTime = notice.arrivalTime := by
  cases carries : notice.carries with
  | scout =>
    rw [addEarlyWarning,carries] at done
    obtain ⟨_,_,rest⟩ := Option.bind_eq_some_iff.mp done
    obtain ⟨_,_,rest⟩ := Option.bind_eq_some_iff.mp rest
    have filling := atTarget_about rest
    exact filling
  | attack =>
    rw [addEarlyWarning,carries] at done
    obtain ⟨_,_,rest⟩ := Option.bind_eq_some_iff.mp done
    obtain ⟨_,_,rest⟩ := Option.bind_eq_some_iff.mp rest
    obtain ⟨_,_,rest⟩ := Option.bind_eq_some_iff.mp rest
    have filling := atTarget_about rest
    exact filling
  | reinforce =>
    rw [addEarlyWarning,carries] at done
    obtain ⟨_,_,rest⟩ := Option.bind_eq_some_iff.mp done
    obtain ⟨_,_,rest⟩ := Option.bind_eq_some_iff.mp rest
    have filling := atTarget_about rest
    exact filling
  | transport =>
    rw [addEarlyWarning,carries] at done
    obtain ⟨_,_,rest⟩ := Option.bind_eq_some_iff.mp done
    obtain ⟨_,_,rest⟩ := Option.bind_eq_some_iff.mp rest
    cases rest
    exact ⟨rfl,rfl,rfl⟩

theorem put_warns {all : AllEarlyWarningInfo} {rid added : Nat} {filled : EarlyWarningInfo}
    (warns : Warns (NestedTable.put all rid added filled) pair index info) :
    (pair.targetRid = rid ∧ index = added ∧ info = filled ∧ filled.about pair = true) ∨ Warns all pair index info := by
  obtain ⟨entry,about⟩ := warns
  rw [NestedTable.find_put] at entry
  split at entry
  next same =>
    cases entry
    exact .inl ⟨same.1,same.2,rfl,about⟩
  next => exact .inr ⟨entry,about⟩

-- The one warning the handler adds is of its own pair.
theorem resume_warns {adding : Adding} {r : Replies} (warns : Warns (resume r adding s).1.allEarlyWarningInfo pair index info) :
    Warns s.allEarlyWarningInfo pair index info ∨
    (pair = adding.notice.pair ∧ adding.stage = .info index ∧ info.arrivalTime = adding.notice.arrivalTime) := by
  unfold resume at warns
  cases stage : adding.stage with
  | incr =>
    rw [stage] at warns
    exact .inl warns
  | info added =>
    rw [stage] at warns
    dsimp only at warns
    cases filled : addEarlyWarning adding.notice added r with
    | none =>
      rw [filled] at warns
      exact .inl warns
    | some new =>
      rw [filled] at warns
      rcases put_warns warns with ⟨rid,rfl,rfl,about⟩ | before
      · obtain ⟨object,from_,time⟩ := addEarlyWarning_about filled
        have own : info.about adding.notice.pair = true := by
          rw [EarlyWarningInfo.about,object,from_,decide_eq_true rfl,decide_eq_true rfl]
          rfl
        exact .inr ⟨about_inj about own rid,rfl,time⟩
      · exact .inl before

theorem resume_posted (r : Replies) (adding : Adding) (s : State) : (resume r adding s).1.posted = s.posted := by
  unfold resume
  cases adding.stage with
  | incr => rfl
  | info added =>
    dsimp only
    cases addEarlyWarning adding.notice added r with
    | none => rfl
    | some => rfl

theorem resume_notice {r : Replies} {adding next : Adding} (goesOn : next ∈ (resume r adding s).2) : next.notice = adding.notice := by
  unfold resume at goesOn
  cases stage : adding.stage with
  | incr =>
    rw [stage] at goesOn
    cases goesOn
    rfl
  | info =>
    rw [stage] at goesOn
    cases goesOn

theorem Settled.resumed {adding : Adding} {r : Replies} (settled : Settled s pair) (other : pair ≠ adding.notice.pair) :
    Settled (resume r adding s).1 pair := by
  have before {index info} (warns : Warns (resume r adding s).1.allEarlyWarningInfo pair index info) : Warns s.allEarlyWarningInfo pair index info :=
    (resume_warns warns).resolve_right (fun own => other own.1)
  refine ⟨fun warns => ?_,fun warns also => settled.one (before warns) (before also)⟩
  rw [resume_posted]
  exact settled.last (before warns)

theorem Expected.settled {adding : Adding} {r : Replies} (expected : Expected s adding) : Settled (resume r adding s).1 adding.notice.pair := by
  have added {index info} (warns : Warns (resume r adding s).1.allEarlyWarningInfo adding.notice.pair index info) :
      adding.stage = .info index ∧ info.arrivalTime = adding.notice.arrivalTime :=
    ((resume_warns warns).resolve_left expected.unwarned).2
  refine ⟨fun warns => ?_,fun warns also => ?_⟩
  · rw [resume_posted,(added warns).2]
    exact expected.last
  · cases (added warns).1.symm.trans (added also).1
    rfl

theorem Expected.resumed {adding other : Adding} {r : Replies} (expected : Expected s other)
    (apart : other.notice.pair = adding.notice.pair → ∀ index, adding.stage ≠ .info index) : Expected (resume r adding s).1 other := by
  refine ⟨?_,fun {index info} warns => ?_⟩
  · rw [resume_posted]
    exact expected.last
  · rcases resume_warns warns with before | ⟨same,stage,_⟩
    · exact expected.unwarned before
    · exact apart same index stage

end steps

def Adding.pairs (adding : Adding) : List Pair := [adding.notice.pair]

def Unwarned (s : State) : Request → Prop
  | .add notice => seek .stored s.allEarlyWarningInfo notice.pair = none
  | _ => True

def Adds (s : State) : Event Request Adding Replies → Prop
  | .call request => Unwarned s request ∧ ∃ notice, request = .add notice
  | .resume _ _ => True

theorem keeps : KeepsItems enter resume Adds Adding.pairs Settled Expected where
  shrinks s adding r next goesOn := by
    rw [Adding.pairs,Adding.pairs,resume_notice goesOn]
    exact fun _ mem => mem
  entered := by
    rintro s _ ⟨unwarned,notice,rfl⟩ next begins -
    cases begins
    exact Settled.begins (seek_none unwarned) .incr
  settled_entered := by
    rintro s _ pair ⟨_,notice,rfl⟩ settled others
    exact settled.entered (fun same => others _ rfl (List.mem_singleton.mpr same.symm))
  beside_entered := by
    rintro s _ other ⟨_,notice,rfl⟩ expected apart
    exact expected.entered (fun same => apart _ rfl notice.pair (List.mem_singleton.mpr rfl) (List.mem_singleton.mpr same))
  resumed s adding r expected next goesOn := by
    have same := resume_notice goesOn
    refine ⟨?_,fun {index info} warns => ?_⟩
    · rw [resume_posted,same]
      exact expected.last
    · rw [same] at warns
      rcases resume_warns warns with before | ⟨_,stage,_⟩
      · exact expected.unwarned before
      · unfold resume at goesOn
        rw [stage] at goesOn
        cases goesOn
  settled_resumed s adding r pair expected own next := by
    by_cases same : pair = adding.notice.pair
    · subst same
      exact expected.settled
    · exact (own.resolve_left (fun mem => same (List.mem_singleton.mp mem))).resumed same
  beside_resumed s adding r other expected beside apart :=
    beside.resumed (fun same => absurd (List.mem_singleton.mpr same.symm) (apart _ (List.mem_singleton.mpr rfl)))

-- Nothing that concerns a warning overtakes the message that adds it, and no warning is added twice.
def Timely (service : Service State Adding) : Event Request Adding Replies → Prop
  | .call request => (∀ adding ∈ service.waiting, ¬ request.disturbs adding) ∧ Unwarned service.shared request
  | .resume _ _ => True

theorem timely_step {before after : Service State Adding} {event : Event Request Adding Replies}
    (acts : Guarded (Interleaves enter resume) Timely before event after) (start : HoldingItems Adding.pairs Settled Expected before) :
    HoldingItems Adding.pairs Settled Expected after := by
  obtain ⟨step,timely⟩ := acts
  cases step with
  | @call s waiting request =>
    obtain ⟨apart,unwarned⟩ := timely
    by_cases adds : ∃ notice, request = .add notice
    · obtain ⟨notice,rfl⟩ := adds
      refine keeps.begins (fun next begins other there pair own beside => ?_) ⟨unwarned,notice,rfl⟩ start
      cases begins
      exact apart other there ((List.mem_singleton.mp own).symm.trans (List.mem_singleton.mp beside))
    · obtain ⟨disjoint,each,rest⟩ := start
      have next : (enter request s).2 = none := by
        cases request with
        | add notice => exact absurd ⟨notice,rfl⟩ adds
        | _ => rfl
      rw [next]
      refine ⟨disjoint,fun other there => (each other there).entered (apart other there),fun pair free => (rest pair free).entered (fun same => ?_)⟩
      cases request with
      | add notice => exact adds ⟨notice,rfl⟩
      | _ => exact same
  | resume => exact keeps.goesOn start

def calls (events : List (Event Request Adding Replies)) : List Request := events.filterMap (fun event => match event with
  | .call request => some request
  | .resume _ _ => none)

theorem posted_calls {before after : Service State Adding} (path : Runs (Interleaves enter resume) before events after) :
    after.shared.posted = before.shared.posted++calls events := by
  induction path with
  | done => exact (List.append_nil _).symm
  | more step _ ih =>
    rw [ih]
    cases step with
    | call => exact List.append_assoc _ _ _
    | resume =>
      dsimp only
      rw [resume_posted]
      rfl

theorem warnings_posted {earlyWarningIndex : Nat → Nat} {events : List (Event Request Adding Replies)} {last : Service State Adding}
    (path : Runs (Guarded (Interleaves enter resume) Timely) (init earlyWarningIndex) events last) (quiet : last.waiting = []) (pair : Pair) :
    (∀ index info, Warns last.shared.allEarlyWarningInfo pair index info → due pair (calls events) = some info.arrivalTime) ∧
    ∀ index info other also, Warns last.shared.allEarlyWarningInfo pair index info → Warns last.shared.allEarlyWarningInfo pair other also →
      index = other := by
  have start : HoldingItems Adding.pairs Settled Expected (init earlyWarningIndex) := by
    have nothing (pair : Pair) {index info} : ¬ Warns (init earlyWarningIndex).shared.allEarlyWarningInfo pair index info := fun warns => by
      cases warns.1
    exact ⟨.nil,fun _ mem => (List.not_mem_nil mem).elim,fun pair _ => ⟨fun warns => absurd warns (nothing pair),fun warns => absurd warns (nothing pair)⟩⟩
  obtain ⟨_,_,settled⟩ := Runs.invariant (fun _ _ _ start acts => timely_step acts start) path start
  have at_pair : Settled last.shared pair := by
    refine settled pair (fun adding there => ?_)
    rw [quiet] at there
    cases there
  refine ⟨fun index info warns => ?_,fun _ _ _ _ warns also => at_pair.one warns also⟩
  have same : last.shared.posted = calls events := posted_calls path.unguarded
  rw [← same]
  exact at_pair.last warns

instance (adding : Adding) : (request : Request) → Decidable (request.disturbs adding)
  | .add notice => inferInstanceAs (Decidable (notice.pair = _))
  | .cancleEarlyWarning _ pair => inferInstanceAs (Decidable (pair = _))
  | .updateEarlyWarningTime _ pair _ => inferInstanceAs (Decidable (pair = _))
  | .checkEarlyWarningTimeout now => inferInstanceAs (Decidable (_ ≤ now))
  | .updateAttackerSoldiers _ _ _ => inferInstanceAs (Decidable False)
  | .shiledEarlyWarning _ _ => inferInstanceAs (Decidable False)

instance (s : State) : (request : Request) → Decidable (Unwarned s request)
  | .add notice => inferInstanceAs (Decidable (seek _ _ notice.pair = none))
  | .cancleEarlyWarning _ _ | .updateEarlyWarningTime _ _ _ | .checkEarlyWarningTimeout _ | .updateAttackerSoldiers _ _ _
  | .shiledEarlyWarning _ _ => inferInstanceAs (Decidable True)

instance (service : Service State Adding) : (event : Event Request Adding Replies) → Decidable (Timely service event)
  | .call _ => inferInstanceAs (Decidable (_ ∧ _))
  | .resume _ _ => inferInstanceAs (Decidable True)

section scout
-- Scouts of role 2 on their way from object 7 to the army of role 1, which is object 5.
def scouted : Pair := ⟨1,5,7⟩

def scout (arrivalTime : Int) : Notice := ⟨2,scouted,arrivalTime,.scout {}⟩

def answered : Replies := ⟨"",some 0,none,some .army,none,some 1,none,none,none,none⟩

theorem scout_redirected : ∃ events last, Runs (Guarded (Interleaves enter resume) Timely) (init (fun _ => 0)) events last ∧ last.waiting = [] ∧
    (∃ info, Warns last.shared.allEarlyWarningInfo scouted 1 info) ∧
    ∀ index info, Warns last.shared.allEarlyWarningInfo scouted index info → due scouted (calls events) = some info.arrivalTime := by
  have reached : ∃ events last, Runs (Guarded (Interleaves enter resume) Timely) (init (fun _ => 0)) events last ∧ last.waiting = [] ∧
      seek .stored last.shared.allEarlyWarningInfo scouted = some 1 :=
    playIn_reaches _ [.call (.add (scout 20)),.resume 0 answered,.call (.checkEarlyWarningTimeout 10),.resume 0 answered,
      .call (.updateEarlyWarningTime .stored scouted 30)] _ _ (by decide)
  obtain ⟨events,last,path,quiet,sought⟩ := reached
  exact ⟨events,last,path,quiet,seek_some sought,(warnings_posted path quiet scouted).1⟩

-- The scouts are called back while their warning is being added.
theorem cancle_overtakes : ∃ events last, Runs (Interleaves enter resume) (init (fun _ => 0)) events last ∧ last.waiting = [] ∧
    (∃ info, Warns last.shared.allEarlyWarningInfo scouted 1 info) ∧ due scouted (calls events) = none := by
  have reached : ∃ events last, Runs (Interleaves enter resume) (init (fun _ => 0)) events last ∧ last.waiting = [] ∧
      seek .stored last.shared.allEarlyWarningInfo scouted = some 1 ∧ due scouted last.shared.posted = none :=
    play_unguarded [.call (.add (scout 20)),.resume 0 answered,.call (.cancleEarlyWarning .stored scouted),.resume 0 answered] _ _ (by decide)
  obtain ⟨events,last,path,quiet,sought,cancelled⟩ := reached
  refine ⟨events,last,path,quiet,seek_some sought,?_⟩
  have same : last.shared.posted = calls events := posted_calls path
  rw [← same]
  exact cancelled

end scout
end OriginGame.EarlyWarningMgr
