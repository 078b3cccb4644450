import OriginGame.Handlers
import OriginGame.LuaTable
import OriginGame.RoleType

namespace OriginGame.SceneMgr

structure RoleFd where
  fd : Nat
  secret : Nat
  deriving DecidableEq, Repr

-- What the AOI has delivered for a marker; a move with whether the object still has info.
inductive Delivered where
  | drop
  | move (info : Bool)
  deriving DecidableEq, Repr

-- The tables at one watcher that is a role: roleObjectAoiIndex[w], and armyToRoles[m][w]
-- for every m. last is no table of the service: the last action for each marker since
-- the watcher entered.
structure View where
  sceneRoleInfos : Bool
  sceneRoleFd : Option RoleFd
  roleObjectAoiIndex : Option (Table Nat RoleType)
  armyToRoles : Table Nat RoleFd
  last : Table Nat Delivered

inductive Request where
  | roleSceneEnter (roleType : Option RoleType) (fd secret : Nat)
  | roleSceneLeave
  | drop (marker : Nat)
  -- info is what the request for the object info will find.
  | move (marker : Nat) (rtype : RoleType) (info : Bool)
  deriving DecidableEq, Repr

-- A move that waits for its object info.
structure Move where
  marker : Nat
  rtype : RoleType
  info : Bool
  deriving DecidableEq, Repr

def hasInfo (rtype : RoleType) : Bool :=
  rtype.checkIsResourceObject || rtype.checkIsGuildBuildObject || rtype.checkIsGuildResourcePointObject ||
  match rtype with
  | .army | .city | .monster | .guardHolyLand | .summonSingleMonster | .summonRallyMonster | .monsterCity | .scouts | .village
  | .cave | .transport | .checkpoint | .relic | .rune | .expedition => true
  | _ => false

-- Sent once: these return early for a marker in the index.
def sentOnce : RoleType → Bool
  | .army | .monster | .guardHolyLand | .summonSingleMonster | .summonRallyMonster | .scouts | .transport | .expedition => true
  | _ => false

def View.indexed (view : View) (marker : Nat) : Bool := (view.roleObjectAoiIndex.bind (·.lookup marker)).isSome

-- The end of a move, with or without info.
def commit (marker : Nat) (rtype : RoleType) (info : Bool) (view : View) : View :=
  let index := (view.roleObjectAoiIndex.getD ∅).insert marker rtype
  let armyToRoles := if info && view.sceneRoleInfos then
      match view.sceneRoleFd with
      | some fd => view.armyToRoles.insert marker fd
      | none => view.armyToRoles.erase marker
    else view.armyToRoles
  {view with roleObjectAoiIndex:=some index, armyToRoles:=armyToRoles}

def roleSceneEnter (roleType : Option RoleType) (fd : RoleFd) (view : View) : View :=
  {view with sceneRoleInfos:=true, sceneRoleFd:=if roleType = some .role then some fd else view.sceneRoleFd, last:=∅}

def roleSceneLeave (view : View) : View :=
  let markers := (view.roleObjectAoiIndex.getD ∅).keys
  {view with
    sceneRoleInfos:=false, sceneRoleFd:=none, roleObjectAoiIndex:=none,
    armyToRoles:=markers.foldl (fun roles marker => roles.erase marker) view.armyToRoles}

def sceneDrop (marker : Nat) (view : View) : View :=
  {view with
    roleObjectAoiIndex:=view.roleObjectAoiIndex.map (·.erase marker),
    armyToRoles:=if view.sceneRoleInfos then view.armyToRoles.erase marker else view.armyToRoles,
    last:=view.last.insert marker .drop}

def sceneMove (marker : Nat) (rtype : RoleType) (info : Bool) (view : View) : View × Option Move :=
  let view := {view with last:=view.last.insert marker (.move info)}
  if !view.sceneRoleInfos then (view,none)
  else if sentOnce rtype && view.indexed marker then (view,none)
  else if hasInfo rtype then (view,some ⟨marker,rtype,info⟩)
  else (commit marker rtype false view,none)

def enter (request : Request) (view : View) : View × Option Move :=
  match request with
  | .roleSceneEnter roleType fd secret => (roleSceneEnter roleType ⟨fd,secret⟩ view,none)
  | .roleSceneLeave => (roleSceneLeave view,none)
  | .drop marker => (sceneDrop marker view,none)
  | .move marker rtype info => sceneMove marker rtype info view

def resume (_ : Unit) (move : Move) (view : View) : View × Option Move :=
  if move.info then (commit move.marker move.rtype true view,none) else (view,none)

abbrev Acts := Interleaves enter resume

def Empty (view : View) : Prop := ∀ marker, view.indexed marker = false

-- A move is finished while it is still what the AOI said last.
def Timely (view : View) : Event Request Move Unit → Prop
  | .call (.roleSceneEnter _ _ _) => Empty view
  | .call (.move marker rtype info) =>
    view.sceneRoleInfos = true → hasInfo rtype = true ∧ (view.indexed marker = true → info = true)
  | .resume move _ => move.info = true →
    view.sceneRoleInfos = true ∧ view.sceneRoleFd.isSome = true ∧ view.last.lookup move.marker = some (.move true)
  | _ => True

section Tables
variable {view : View} {marker : Nat}

theorem indexed_commit (marker : Nat) (rtype : RoleType) (info : Bool) (view : View) (m : Nat) :
    (commit marker rtype info view).indexed m = (decide (m = marker) || view.indexed m) := by
  unfold commit View.indexed
  simp only [Option.bind_some]
  by_cases same : m = marker
  · subst same
    rw [AList.lookup_insert]
    simp
  · rw [AList.lookup_insert_ne same]
    cases view.roleObjectAoiIndex with
    | none => simp [same]
    | some index => simp [same]

theorem indexed_drop (marker : Nat) (view : View) (m : Nat) :
    (sceneDrop marker view).indexed m = (decide (m ≠ marker) && view.indexed m) := by
  unfold sceneDrop View.indexed
  dsimp only
  cases view.roleObjectAoiIndex with
  | none => simp
  | some index =>
    simp only [Option.map_some,Option.bind_some]
    by_cases same : m = marker
    · subst same
      rw [AList.lookup_erase]
      simp
    · rw [AList.lookup_erase_ne same]
      simp [same]

theorem foldl_erase_lookup (markers : List Nat) (roles : Table Nat RoleFd) (m : Nat) :
    (markers.foldl (fun roles marker => roles.erase marker) roles).lookup m = if m ∈ markers then none else roles.lookup m := by
  induction markers generalizing roles with
  | nil => simp
  | cons head rest ih =>
    rw [List.foldl_cons,ih]
    by_cases same : m = head
    · subst same
      rw [AList.lookup_erase]
      simp
    · rw [AList.lookup_erase_ne same]
      simp [same]

theorem indexed_mem (view : View) (m : Nat) : m ∈ (view.roleObjectAoiIndex.getD ∅).keys ↔ view.indexed m = true := by
  unfold View.indexed
  cases view.roleObjectAoiIndex with
  | none => simp
  | some index => exact AList.lookup_isSome.symm

end Tables

section Agreement
variable {view : View}

-- What is in the index was moved last, and the two tables list the same markers.
structure Agrees (view : View) : Prop where
  moved : ∀ m, view.indexed m = true → view.sceneRoleInfos = true ∧ view.last.lookup m = some (.move true)
  roles : ∀ m, (view.armyToRoles.lookup m).isSome = view.indexed m

def Missing (view : View) (marker : Nat) : Prop :=
  view.sceneRoleInfos = true ∧ view.last.lookup marker = some (.move true) ∧ view.indexed marker = false

def Brings (move : Move) (marker : Nat) : Prop := move.marker = marker ∧ move.info = true

theorem commit_agrees (agrees : Agrees view) (here : view.sceneRoleInfos = true) (fd : view.sceneRoleFd.isSome = true)
    (moved : view.last.lookup marker = some (.move true)) : Agrees (commit marker rtype true view) := by
  obtain ⟨role,held⟩ := Option.isSome_iff_exists.mp fd
  refine ⟨?_,?_⟩
  · intro m there
    rw [indexed_commit] at there
    refine ⟨here,?_⟩
    by_cases same : m = marker
    · subst same
      exact moved
    · simp only [same,decide_false,Bool.false_or] at there
      exact (agrees.moved m there).2
  · intro m
    rw [indexed_commit]
    have table : (commit marker rtype true view).armyToRoles = view.armyToRoles.insert marker role := by
      simp only [commit,here,held,Bool.and_self,if_true]
    rw [table]
    by_cases same : m = marker
    · subst same
      rw [AList.lookup_insert]
      simp
    · rw [AList.lookup_insert_ne same,agrees.roles m]
      simp [same]

theorem drop_agrees (agrees : Agrees view) (marker : Nat) : Agrees (sceneDrop marker view) := by
  refine ⟨?_,?_⟩
  · intro m there
    rw [indexed_drop] at there
    simp only [ne_eq,decide_not,Bool.and_eq_true,Bool.not_eq_eq_eq_not,Bool.not_true,decide_eq_false_iff_not] at there
    obtain ⟨other,there⟩ := there
    obtain ⟨here,moved⟩ := agrees.moved m there
    refine ⟨here,?_⟩
    change (view.last.insert marker .drop).lookup m = _
    rw [AList.lookup_insert_ne other]
    exact moved
  · intro m
    rw [indexed_drop]
    change ((if view.sceneRoleInfos then view.armyToRoles.erase marker else view.armyToRoles).lookup m).isSome = _
    split
    · by_cases same : m = marker
      · subst same
        rw [AList.lookup_erase]
        simp
      · rw [AList.lookup_erase_ne same,agrees.roles m]
        simp [same]
    · rename_i away
      have none : view.indexed m = false := by
        cases there : view.indexed m with
        | false => rfl
        | true => exact absurd (agrees.moved m there).1 away
      rw [agrees.roles m,none,Bool.and_false]

theorem leave_agrees (agrees : Agrees view) : Agrees (roleSceneLeave view) := by
  refine ⟨?_,?_⟩
  · intro m there
    cases there
  · intro m
    change ((List.foldl _ view.armyToRoles (view.roleObjectAoiIndex.getD ∅).keys).lookup m).isSome = false
    rw [foldl_erase_lookup]
    split
    · rfl
    · rename_i other
      rw [indexed_mem] at other
      rw [agrees.roles m]
      exact Bool.eq_false_iff.mpr other

theorem enter_agrees (agrees : Agrees view) (empty : Empty view) : Agrees (roleSceneEnter roleType fd view) := by
  refine ⟨?_,agrees.roles⟩
  intro m there
  have none : view.indexed m = true := there
  rw [empty m] at none
  cases none

-- A later move says again what put the marker into the index.
theorem remember_agrees (agrees : Agrees view) (again : view.indexed marker = true → info = true) :
    Agrees {view with last:=view.last.insert marker (.move info)} := by
  refine ⟨?_,agrees.roles⟩
  intro m there
  obtain ⟨here,moved⟩ := agrees.moved m there
  refine ⟨here,?_⟩
  by_cases same : m = marker
  · subst same
    rw [again there]
    exact AList.lookup_insert _
  · change (view.last.insert marker (.move info)).lookup m = _
    rw [AList.lookup_insert_ne same]
    exact moved

theorem move_cases (timely : Timely view (.call (.move marker rtype info))) :
    sceneMove marker rtype info view = ({view with last:=view.last.insert marker (.move info)},none) ∧
      (view.sceneRoleInfos = false ∨ view.indexed marker = true) ∨
    sceneMove marker rtype info view = ({view with last:=view.last.insert marker (.move info)},some ⟨marker,rtype,info⟩) := by
  unfold sceneMove
  dsimp only
  cases here : view.sceneRoleInfos with
  | false => exact .inl ⟨rfl,.inl rfl⟩
  | true =>
    have asks := (timely here).1
    rw [Bool.not_true,if_neg Bool.false_ne_true]
    split
    · rename_i once
      exact .inl ⟨rfl,.inr (Bool.and_eq_true_iff.mp once).2⟩
    · exact .inr rfl

theorem move_again (agrees : Agrees view) (timely : Timely view (.call (.move marker rtype info)))
    (there : view.indexed marker = true) : info = true := (timely (agrees.moved marker there).1).2 there

theorem agreement_kept : Keeps enter resume Timely Agrees (fun _ _ => True) where
  entered view request agrees timely := by
    refine ⟨?_,fun _ _ => trivial⟩
    cases request with
    | roleSceneEnter roleType fd secret => exact enter_agrees agrees timely
    | roleSceneLeave => exact leave_agrees agrees
    | drop marker => exact drop_agrees agrees marker
    | move marker rtype info =>
      change Agrees (sceneMove marker rtype info view).1
      have same := remember_agrees agrees (move_again agrees timely)
      rcases move_cases timely with ⟨done,_⟩ | done
      · rw [done]
        exact same
      · rw [done]
        exact same
  resumed view move _ agrees _ timely := by
    refine ⟨?_,fun _ _ => trivial⟩
    unfold resume
    split
    · rename_i info
      obtain ⟨here,fd,moved⟩ := timely info
      exact commit_agrees agrees here fd moved
    · exact agrees
  beside_entered _ _ _ _ _ _ := trivial
  beside_resumed _ _ _ _ _ _ _ _ := trivial

theorem missing_owned : Owns enter resume Timely Missing Brings where
  entered view request m timely missing := by
    obtain ⟨here,moved,absent⟩ := missing
    cases request with
    | roleSceneEnter roleType fd secret => cases moved
    | roleSceneLeave => cases here
    | drop marker =>
      change (view.last.insert marker .drop).lookup m = _ at moved
      rcases Table.found_insert moved with ⟨_,its⟩ | ⟨same,moved⟩
      · cases its
      · change (sceneDrop marker view).indexed m = false at absent
        rw [indexed_drop] at absent
        simp only [ne_eq,same,not_false_eq_true,decide_true,Bool.true_and] at absent
        exact .inl ⟨here,moved,absent⟩
    | move marker rtype info =>
      change (sceneMove marker rtype info view).1.sceneRoleInfos = true at here
      change (sceneMove marker rtype info view).1.last.lookup m = _ at moved
      change (sceneMove marker rtype info view).1.indexed m = false at absent
      change _ ∨ ∃ next ∈ (sceneMove marker rtype info view).2,_
      have last (after : View) (same : after.last = view.last.insert marker (.move info)) (moved : after.last.lookup m = some (.move true)) :
          m = marker ∧ info = true ∨ m ≠ marker ∧ view.last.lookup m = some (.move true) := by
        rw [same] at moved
        rcases Table.found_insert moved with ⟨its,equal⟩ | older
        · cases equal
          exact .inl ⟨its,rfl⟩
        · exact .inr older
      rcases move_cases timely with ⟨done,reason⟩ | done
      · rw [done] at here moved absent
        rcases last _ rfl moved with ⟨rfl,_⟩ | ⟨_,before⟩
        · rcases reason with away | there
          · rw [show view.sceneRoleInfos = true from here] at away
            cases away
          · rw [show view.indexed m = false from absent] at there
            cases there
        · exact .inl ⟨here,before,absent⟩
      · rw [done] at here moved absent ⊢
        rcases last _ rfl moved with ⟨rfl,rfl⟩ | ⟨_,before⟩
        · exact .inr ⟨_,rfl,rfl,rfl⟩
        · exact .inl ⟨here,before,absent⟩
  resumed view move _ m _ missing := by
    obtain ⟨here,moved,absent⟩ := missing
    left
    unfold resume at here moved absent
    split at here
    · rw [if_pos ‹_›] at moved absent
      rw [indexed_commit,Bool.or_eq_false_iff] at absent
      refine ⟨⟨here,moved,absent.2⟩,?_⟩
      rintro ⟨rfl,_⟩
      simp at absent
    · rw [if_neg ‹_›] at moved absent
      refine ⟨⟨here,moved,absent⟩,?_⟩
      rintro ⟨_,info⟩
      contradiction

def start : Service View Move := ⟨⟨false,none,none,∅,∅⟩,[]⟩

-- Once no move waits, the index is what the AOI said last, and so is armyToRoles.
theorem view_agrees {last : Service View Move} (path : Runs (Guarded Acts (Allowed Timely)) start events last)
    (finished : last.waiting = []) (m : Nat) :
    (last.shared.indexed m = true ↔ last.shared.sceneRoleInfos = true ∧ last.shared.last.lookup m = some (.move true)) ∧
    ((last.shared.armyToRoles.lookup m).isSome = true ↔ last.shared.indexed m = true) := by
  have empty : Agrees start.shared := by
    refine ⟨?_,?_⟩
    · intro m there
      cases there
    · intro m
      rfl
  have agrees := (agreement_kept.run path ⟨empty,fun _ _ => trivial⟩).1
  have owned := missing_owned.run path (fun m missing => by cases missing.1)
  refine ⟨⟨agrees.moved m,?_⟩,by rw [agrees.roles m]⟩
  rintro ⟨here,moved⟩
  cases there : last.shared.indexed m with
  | true => rfl
  | false =>
    obtain ⟨move,mem,_⟩ := owned m ⟨here,moved,there⟩
    rw [finished] at mem
    cases mem

-- The army is gone before its info comes back, and stays in the index.
theorem late_move_stays : ∃ events last, Runs Acts start events last ∧ last.waiting = [] ∧
    last.shared.last.lookup 5 = some .drop ∧ last.shared.indexed 5 = true := by
  apply play_unguarded [.call (.roleSceneEnter (some .role) 3 9),.call (.move 5 .army true),.call (.drop 5),.resume 0 ()] start
  decide

instance (view : View) : Decidable (Empty view) :=
  decidable_of_iff (∀ m ∈ (view.roleObjectAoiIndex.getD ∅).keys,False) (by
    simp only [indexed_mem,Empty,Bool.eq_false_iff,ne_eq,imp_false])

instance (view : View) : (event : Event Request Move Unit) → Decidable (Timely view event)
  | .call (.roleSceneEnter _ _ _) => inferInstanceAs (Decidable (Empty view))
  | .call (.move marker rtype info) => inferInstanceAs (Decidable (view.sceneRoleInfos = true →
      hasInfo rtype = true ∧ (view.indexed marker = true → info = true)))
  | .resume move _ => inferInstanceAs (Decidable (move.info = true →
      view.sceneRoleInfos = true ∧ view.sceneRoleFd.isSome = true ∧ view.last.lookup move.marker = some (.move true)))
  | .call .roleSceneLeave | .call (.drop _) => isTrue trivial

-- An army, a city that is gone when asked for, and a scout that leaves again.
theorem visit_agrees : ∃ events last, Runs (Guarded Acts (Allowed Timely)) start events last ∧ last.waiting = [] ∧
    (last.shared.indexed 5 = true ↔ last.shared.sceneRoleInfos = true ∧ last.shared.last.lookup 5 = some (.move true)) ∧
    last.shared.indexed 5 = true ∧ last.shared.indexed 6 = false ∧ last.shared.indexed 7 = false := by
  have played : ∃ events last, Runs (Guarded Acts (Allowed Timely)) start events last ∧ last.waiting = [] ∧
      last.shared.indexed 5 = true ∧ last.shared.indexed 6 = false ∧ last.shared.indexed 7 = false := by
    apply play_reaches (fun view event => decide (Timely view event)) (fun _ _ passed => of_decide_eq_true passed)
      [.call (.roleSceneEnter (some .role) 3 9),.call (.move 5 .army true),.call (.move 6 .city false),.call (.move 7 .scouts true),
        .resume 2 (),.resume 0 (),.call (.drop 7),.call (.move 5 .army true),.resume 0 ()] start
    decide
  obtain ⟨events,last,path,finished,rest⟩ := played
  exact ⟨events,last,path,finished,(view_agrees path finished 5).1,rest⟩

end Agreement
end OriginGame.SceneMgr
