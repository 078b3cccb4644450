import OriginGame.LuaTable
import OriginGame.Queue

namespace OriginGame.RallyTargetMgr

-- Both tables at one target: rallyTargetInfo[t], and rallyGuildTargetInfo[g].rally[t] for
-- each g. The rest is no table of the service: the target's guild, its guild before a
-- change that is not carried over yet (with the switch at work), and the adds on their way.
structure Target where
  rallyTargetInfo : Table Nat Nat
  rally : Table Nat (List Nat)
  guildId : Nat
  changing : Option (Nat × Option Nat)
  pending : Table Nat Nat

abbrev State := Nat → Target

inductive Request where
  | addRallyTargetIndex (targetIndex targetGuildId rid guildId : Nat)
  | deleteRallyTargetIndex (targetIndex targetGuildId rid guildId : Nat)
  | switchTargetGuild (targetIndex rawGuildId newGuildId : Nat)
  -- No request: the target changes its guild.
  | guildChanges (targetIndex guildId : Nat)
  deriving DecidableEq, Repr

-- A handler whose request to the service itself is on its way, or answered.
inductive Task where
  | add (targetIndex targetGuildId rid : Nat)
  | sent (targetIndex rawGuildId newGuildId : Nat) (rallyInfo : List Nat)
  | added (targetIndex rawGuildId : Nat)
  deriving DecidableEq, Repr

namespace Target

def listed (info : Target) (guildId : Nat) : List Nat := (info.rally.lookup guildId).getD []

-- addRallyGuildTargetInfo with one leader, and with a whole list.
def append (guildId rid : Nat) (info : Target) : Target :=
  {info with
    rally:=info.rally.insert guildId (info.listed guildId++[rid]),
    pending:=info.pending.erase rid}

def replace (guildId : Nat) (rallyInfo : List Nat) (info : Target) : Target := {info with rally:=info.rally.insert guildId rallyInfo}

def register (guildId rid ticket : Nat) (info : Target) : Target :=
  {info with
    rallyTargetInfo:=info.rallyTargetInfo.insert guildId rid,
    pending:=info.pending.insert rid ticket}

-- removevalue takes the first one out.
def delete (targetGuildId rid guildId : Nat) (info : Target) : Target :=
  {info with
    rallyTargetInfo:=info.rallyTargetInfo.erase guildId,
    rally:=match info.rally.lookup targetGuildId with
      | none => info.rally
      | some rids => if rids.erase rid = [] then info.rally.erase targetGuildId else info.rally.insert targetGuildId (rids.erase rid)}

def clear (rawGuildId : Nat) (info : Target) : Target :=
  {info with
    rally:=info.rally.erase rawGuildId,
    changing:=none}

end Target

def enter (request : Request) (ticket : Nat) (s : State) : State × Option Task :=
  match request with
  | .addRallyTargetIndex targetIndex targetGuildId rid guildId =>
    match (s targetIndex).rallyTargetInfo.lookup guildId with
    | some _ => (s,none)
    | none => (Function.update s targetIndex ((s targetIndex).register guildId rid ticket),some (.add targetIndex targetGuildId rid))
  | .deleteRallyTargetIndex targetIndex targetGuildId rid guildId =>
    (Function.update s targetIndex ((s targetIndex).delete targetGuildId rid guildId),none)
  | .switchTargetGuild targetIndex rawGuildId newGuildId =>
    match (s targetIndex).rally.lookup rawGuildId with
    | none => (Function.update s targetIndex {s targetIndex with changing:=none},none)
    | some rallyInfo => (Function.update s targetIndex {s targetIndex with changing:=some (rawGuildId,some ticket)},
        some (.sent targetIndex rawGuildId newGuildId rallyInfo))
  | .guildChanges targetIndex guildId =>
    (Function.update s targetIndex {s targetIndex with guildId:=guildId, changing:=some ((s targetIndex).guildId,none)},none)

def resume (_ : Unit) (_ : Nat) (task : Task) (s : State) : State × Option Task :=
  match task with
  | .add targetIndex targetGuildId rid => (Function.update s targetIndex ((s targetIndex).append targetGuildId rid),none)
  | .sent targetIndex rawGuildId newGuildId rallyInfo =>
    (Function.update s targetIndex ((s targetIndex).replace newGuildId rallyInfo),some (.added targetIndex rawGuildId))
  | .added targetIndex rawGuildId => (Function.update s targetIndex ((s targetIndex).clear rawGuildId),none)

abbrev Acts := Numbers enter resume

-- Each request passes the target's guild. A change of guild and its switch meet no add,
-- delete or switch at the target, a delete does not meet the add of its leader, a leader
-- is added once, and deleted from where it was added.
def Undisturbed (s : State) : Event Request Task Unit → Prop
  | .call (.addRallyTargetIndex t targetGuildId rid guildId) => (s t).rallyTargetInfo.lookup guildId = none →
    targetGuildId = (s t).guildId ∧ (s t).changing = none ∧ ∀ h ∈ (s t).rallyTargetInfo.keys, (s t).rallyTargetInfo.lookup h ≠ some rid
  | .call (.deleteRallyTargetIndex t targetGuildId rid guildId) => targetGuildId = (s t).guildId ∧
    ((s t).changing = none ∧ (s t).rallyTargetInfo.lookup guildId = some rid ∧ (s t).pending.lookup rid = none ∨
      (s t).rallyTargetInfo.lookup guildId = none ∧ rid ∉ (s t).listed targetGuildId)
  | .call (.switchTargetGuild t rawGuildId newGuildId) =>
    (s t).changing = some (rawGuildId,none) ∧ newGuildId = (s t).guildId ∨
      (s t).changing = none ∧ (s t).rally.lookup rawGuildId = none
  | .call (.guildChanges t guildId) => (s t).changing = none ∧ (s t).pending.keys = [] ∧ guildId ≠ (s t).guildId
  | .resume _ _ => True

namespace Target

-- Where the list is, until a switch has ended.
def home (info : Target) : Nat := (info.changing.map Prod.fst).getD info.guildId

def Registered (info : Target) (rid : Nat) : Prop := ∃ guildId, info.rallyTargetInfo.lookup guildId = some rid

structure Agrees (info : Target) : Prop where
  distinct : ∀ one other rid, info.rallyTargetInfo.lookup one = some rid → info.rallyTargetInfo.lookup other = some rid → one = other
  once : (info.listed info.home).Nodup
  agrees : ∀ rid, rid ∈ info.listed info.home ↔ info.Registered rid ∧ info.pending.lookup rid = none
  elsewhere : ∀ guildId rids, info.rally.lookup guildId = some rids → guildId = info.home ∨
    guildId = info.guildId ∧ ∃ rawGuildId ticket, info.changing = some (rawGuildId,some ticket)
  filled : ∀ guildId, info.rally.lookup guildId ≠ some []
  moved : ∀ rawGuildId ticket, info.changing = some (rawGuildId,ticket) → rawGuildId ≠ info.guildId
  waits : ∀ rid ticket, info.pending.lookup rid = some ticket → info.changing = none ∧ info.Registered rid

end Target

def Task.targetIndex : Task → Nat
  | .add targetIndex _ _ | .sent targetIndex _ _ _ | .added targetIndex _ => targetIndex

def Target.Relied (info : Target) (ticket : Nat) : Task → Prop
  | .add _ targetGuildId rid => info.pending.lookup rid = some ticket ∧ targetGuildId = info.guildId
  | .sent _ rawGuildId newGuildId rallyInfo => info.changing = some (rawGuildId,some ticket) ∧ newGuildId = info.guildId ∧
    info.rally.lookup rawGuildId = some rallyInfo
  | .added _ rawGuildId => info.changing = some (rawGuildId,some ticket) ∧ info.listed info.guildId = info.listed rawGuildId

def relies (s : State) (ticket : Nat) (task : Task) : Prop := (s task.targetIndex).Relied ticket task

namespace Target
variable {info : Target} {guildId rid ticket : Nat}

theorem home_still (still : info.changing = none) : info.home = info.guildId := by
  rw [home,still]
  rfl

theorem home_changing (changes : info.changing = some (rawGuildId,working)) : info.home = rawGuildId := by
  rw [home,changes]
  rfl

theorem registered_insert (free : info.rallyTargetInfo.lookup guildId = none) (other : Nat) :
    (info.register guildId rid ticket).Registered other ↔ other = rid ∨ info.Registered other := by
  constructor
  · rintro ⟨holder,found⟩
    change (info.rallyTargetInfo.insert guildId rid).lookup holder = some other at found
    rcases Table.found_insert found with ⟨_,its⟩ | ⟨_,older⟩
    · exact .inl its
    · exact .inr ⟨holder,older⟩
  · rintro (rfl | ⟨holder,found⟩)
    · exact ⟨guildId,AList.lookup_insert _⟩
    · refine ⟨holder,?_⟩
      change (info.rallyTargetInfo.insert guildId rid).lookup holder = some other
      rw [AList.lookup_insert_ne,found]
      rintro rfl
      rw [free] at found
      cases found

theorem Agrees.register (agrees : Agrees info) (free : info.rallyTargetInfo.lookup guildId = none) (still : info.changing = none)
    (new : ¬ info.Registered rid) : Agrees (info.register guildId rid ticket) where
  distinct one other found first second := by
    change (info.rallyTargetInfo.insert guildId rid).lookup one = some found at first
    change (info.rallyTargetInfo.insert guildId rid).lookup other = some found at second
    rcases Table.found_insert first with ⟨rfl,rfl⟩ | ⟨_,held⟩
    · rcases Table.found_insert second with ⟨rfl,_⟩ | ⟨_,older⟩
      · rfl
      · exact absurd ⟨other,older⟩ new
    · rcases Table.found_insert second with ⟨_,rfl⟩ | ⟨_,older⟩
      · exact absurd ⟨one,held⟩ new
      · exact agrees.distinct one other found held older
  once := agrees.once
  agrees other := by
    change other ∈ info.listed info.home ↔ _ ∧ (info.pending.insert rid ticket).lookup other = none
    rw [agrees.agrees other,registered_insert free]
    by_cases same : other = rid
    · subst same
      rw [AList.lookup_insert]
      simp only [new,false_and,true_or,true_and,reduceCtorEq]
    · rw [AList.lookup_insert_ne same]
      simp only [same,false_or]
  elsewhere := agrees.elsewhere
  filled := agrees.filled
  moved := agrees.moved
  waits other number found := by
    change (info.pending.insert rid ticket).lookup other = some number at found
    refine ⟨still,(registered_insert free other).mpr ?_⟩
    by_cases same : other = rid
    · exact .inl same
    · rw [AList.lookup_insert_ne same] at found
      exact .inr (agrees.waits other number found).2

theorem registered_erase (agrees : Agrees info) (there : info.rallyTargetInfo.lookup guildId = some rid) (other : Nat) :
    (info.delete targetGuildId rid guildId).Registered other ↔ other ≠ rid ∧ info.Registered other := by
  constructor
  · rintro ⟨holder,found⟩
    change (info.rallyTargetInfo.erase guildId).lookup holder = some other at found
    obtain ⟨same,found⟩ := Table.found_erase found
    refine ⟨?_,holder,found⟩
    rintro rfl
    exact same (agrees.distinct holder guildId other found there)
  · rintro ⟨differs,holder,found⟩
    refine ⟨holder,?_⟩
    change (info.rallyTargetInfo.erase guildId).lookup holder = some other
    rw [AList.lookup_erase_ne,found]
    rintro rfl
    rw [there] at found
    exact differs (Option.some.inj found).symm

theorem lookup_delete (info : Target) (targetGuildId rid guildId other : Nat) (rids : List Nat)
    (found : (info.delete targetGuildId rid guildId).rally.lookup other = some rids) :
    other ≠ targetGuildId ∧ info.rally.lookup other = some rids ∨
    other = targetGuildId ∧ rids ≠ [] ∧ ∃ before, info.rally.lookup targetGuildId = some before ∧ rids = before.erase rid := by
  simp only [delete] at found
  split at found
  · rename_i missing
    refine .inl ⟨?_,found⟩
    rintro rfl
    rw [missing] at found
    cases found
  · rename_i before there
    by_cases same : other = targetGuildId
    · subst same
      refine .inr ⟨rfl,?_⟩
      split at found
      · rw [AList.lookup_erase] at found
        cases found
      · rename_i left
        rw [AList.lookup_insert] at found
        cases found
        exact ⟨left,before,there,rfl⟩
    · left
      split at found
      · rw [AList.lookup_erase_ne same] at found
        exact ⟨same,found⟩
      · rw [AList.lookup_insert_ne same] at found
        exact ⟨same,found⟩

theorem listed_delete (info : Target) (targetGuildId rid guildId : Nat) :
    (info.delete targetGuildId rid guildId).listed targetGuildId = (info.listed targetGuildId).erase rid := by
  simp only [listed,delete]
  split
  · rename_i missing
    rw [missing]
    rfl
  · rename_i before there
    split
    · rename_i empty
      rw [AList.lookup_erase,there]
      exact empty.symm
    · rw [AList.lookup_insert,there]
      rfl

theorem Agrees.delete (agrees : Agrees info) (still : info.changing = none) (there : info.rallyTargetInfo.lookup guildId = some rid)
    (settled : info.pending.lookup rid = none) : Agrees (info.delete info.guildId rid guildId) := by
  have home : (info.delete info.guildId rid guildId).home = info.guildId := home_still still
  have here := home_still still
  refine ⟨?_,?_,?_,?_,?_,agrees.moved,?_⟩
  · intro one other found first second
    change (info.rallyTargetInfo.erase guildId).lookup one = some found at first
    change (info.rallyTargetInfo.erase guildId).lookup other = some found at second
    have inside (k : Nat) (at_k : (info.rallyTargetInfo.erase guildId).lookup k = some found) : info.rallyTargetInfo.lookup k = some found := by
      exact (Table.found_erase at_k).2
    exact agrees.distinct one other found (inside one first) (inside other second)
  · rw [home,listed_delete,← here]
    exact agrees.once.erase rid
  · intro other
    rw [home,listed_delete,← here,agrees.once.mem_erase_iff,agrees.agrees other,registered_erase agrees there]
    change _ ↔ _ ∧ info.pending.lookup other = none
    tauto
  · intro other rids found
    rcases lookup_delete info info.guildId rid guildId other rids found with ⟨_,before⟩ | ⟨same,_⟩
    · rw [home,← here]
      exact agrees.elsewhere other rids before
    · rw [home]
      exact .inl same
  · intro other found
    rcases lookup_delete info info.guildId rid guildId other [] found with ⟨_,before⟩ | ⟨_,full,_⟩
    · exact agrees.filled other before
    · exact full rfl
  · intro other number found
    change info.pending.lookup other = some number at found
    obtain ⟨_,registered⟩ := agrees.waits other number found
    refine ⟨still,(registered_erase agrees there other).mpr ⟨?_,registered⟩⟩
    rintro rfl
    rw [settled] at found
    cases found

-- The same entries, whatever the order they are kept in.
structure Same (info after : Target) : Prop where
  table : ∀ guildId, after.rallyTargetInfo.lookup guildId = info.rallyTargetInfo.lookup guildId
  rally : ∀ guildId, after.rally.lookup guildId = info.rally.lookup guildId
  guild : after.guildId = info.guildId
  changing : after.changing = info.changing
  pending : ∀ rid, after.pending.lookup rid = info.pending.lookup rid

theorem Same.listed {after : Target} (same : Same info after) (guildId : Nat) : after.listed guildId = info.listed guildId := by
  rw [Target.listed,Target.listed,same.rally]

theorem Same.agrees {after : Target} (same : Same info after) (agrees : Agrees info) : Agrees after := by
  have home : after.home = info.home := by rw [Target.home,Target.home,same.changing,same.guild]
  have registered (rid : Nat) : after.Registered rid ↔ info.Registered rid := by simp only [Registered,same.table]
  refine ⟨?_,?_,?_,?_,?_,?_,?_⟩
  · intro one other rid first second
    rw [same.table] at first second
    exact agrees.distinct one other rid first second
  · rw [home,same.listed]
    exact agrees.once
  · intro rid
    rw [home,same.listed,registered,same.pending]
    exact agrees.agrees rid
  · intro guildId rids found
    rw [home,same.guild,same.changing]
    exact agrees.elsewhere guildId rids (same.rally guildId ▸ found)
  · intro guildId
    rw [same.rally]
    exact agrees.filled guildId
  · intro rawGuildId ticket changes
    rw [same.guild]
    exact agrees.moved rawGuildId ticket (same.changing ▸ changes)
  · intro rid ticket found
    rw [same.changing,registered]
    exact agrees.waits rid ticket (same.pending rid ▸ found)

-- A delete that finds nothing.
theorem delete_same (agrees : Agrees info) (free : info.rallyTargetInfo.lookup guildId = none) (absent : rid ∉ info.listed targetGuildId) :
    Same info (info.delete targetGuildId rid guildId) where
  table other := by
    change (info.rallyTargetInfo.erase guildId).lookup other = _
    by_cases same : other = guildId
    · subst same
      rw [AList.lookup_erase,free]
    · rw [AList.lookup_erase_ne same]
  rally other := by
    simp only [Target.delete]
    split
    · rfl
    · rename_i rids there
      have whole : rids.erase rid = rids := by
        apply List.erase_of_not_mem
        rwa [Target.listed,there] at absent
      rw [whole,if_neg]
      · by_cases same : other = targetGuildId
        · subst same
          rw [AList.lookup_insert,there]
        · rw [AList.lookup_insert_ne same]
      · rintro rfl
        exact agrees.filled targetGuildId there
  guild := rfl
  changing := rfl
  pending _ := rfl

theorem Agrees.begin (agrees : Agrees info) (changes : info.changing = some (rawGuildId,none)) (ticket : Nat) :
    Agrees {info with changing:=some (rawGuildId,some ticket)} := by
  have home := home_changing changes
  have after : Target.home {info with changing:=some (rawGuildId,some ticket)} = rawGuildId := rfl
  refine ⟨agrees.distinct,?_,?_,?_,agrees.filled,?_,?_⟩
  · rw [after,← home]
    exact agrees.once
  · intro rid
    rw [after,← home]
    exact agrees.agrees rid
  · intro guildId rids found
    rw [after,← home]
    rcases agrees.elsewhere guildId rids found with here | ⟨_,_,_,working⟩
    · exact .inl here
    · rw [changes] at working
      cases working
  · intro other number same
    cases same
    exact agrees.moved rawGuildId none changes
  · intro rid number found
    obtain ⟨still,_⟩ := agrees.waits rid number found
    rw [changes] at still
    cases still

theorem Agrees.unlisted (agrees : Agrees info) (changes : info.changing = some (rawGuildId,none))
    (missing : info.rally.lookup rawGuildId = none) : Agrees {info with changing:=none} := by
  have home := home_changing changes
  have nothing (guildId : Nat) : info.rally.lookup guildId = none := by
    rcases Option.eq_none_or_eq_some (info.rally.lookup guildId) with none | ⟨rids,found⟩
    · exact none
    · rcases agrees.elsewhere guildId rids found with here | ⟨_,_,_,working⟩
      · rw [here,home,missing] at found
        cases found
      · rw [changes] at working
        cases working
  have empty (guildId : Nat) : info.listed guildId = [] := by rw [Target.listed,nothing guildId]; rfl
  refine ⟨agrees.distinct,?_,?_,?_,agrees.filled,?_,?_⟩
  · change (info.listed info.guildId).Nodup
    rw [empty]
    exact List.nodup_nil
  · intro rid
    change rid ∈ info.listed info.guildId ↔ _
    rw [empty,← empty info.home]
    exact agrees.agrees rid
  · intro guildId rids found
    rw [nothing guildId] at found
    cases found
  · intro _ _ same
    cases same
  · intro rid number found
    exact ⟨rfl,(agrees.waits rid number found).2⟩

theorem Agrees.change (agrees : Agrees info) (still : info.changing = none) (quiet : info.pending.keys = []) (differs : guildId ≠ info.guildId) :
    Agrees {info with guildId:=guildId, changing:=some (info.guildId,none)} := by
  have home := home_still still
  have after : Target.home {info with guildId:=guildId, changing:=some (info.guildId,none)} = info.guildId := rfl
  refine ⟨agrees.distinct,?_,?_,?_,agrees.filled,?_,?_⟩
  · rw [after,← home]
    exact agrees.once
  · intro rid
    rw [after,← home]
    exact agrees.agrees rid
  · intro other rids found
    rw [after,← home]
    rcases agrees.elsewhere other rids found with here | ⟨_,_,_,working⟩
    · exact .inl here
    · rw [still] at working
      cases working
  · intro _ _ same
    cases same
    exact differs.symm
  · intro rid number found
    have key : rid ∈ info.pending.keys := Table.mem_of_lookup found
    rw [quiet] at key
    cases key

theorem Agrees.append (agrees : Agrees info) (waiting : info.pending.lookup rid = some ticket) : Agrees (info.append info.guildId rid) := by
  obtain ⟨still,registered⟩ := agrees.waits rid ticket waiting
  have here := home_still still
  have home : (info.append info.guildId rid).home = info.guildId := home_still still
  have after : (info.append info.guildId rid).listed info.guildId = info.listed info.guildId++[rid] := by
    simp only [Target.listed,Target.append,AList.lookup_insert,Option.getD_some]
  have absent : rid ∉ info.listed info.home := by
    rw [agrees.agrees rid,waiting]
    rintro ⟨_,none⟩
    cases none
  refine ⟨agrees.distinct,?_,?_,?_,?_,agrees.moved,?_⟩
  · rw [home,after,← here]
    exact List.nodup_append.mpr ⟨agrees.once,List.nodup_singleton _,by
      intro one mem other single same
      rw [List.mem_singleton.mp single] at same
      exact absent (same ▸ mem)⟩
  · intro other
    change _ ↔ _ ∧ (info.pending.erase rid).lookup other = none
    rw [home,after,← here,List.mem_append,List.mem_singleton,agrees.agrees other]
    change _ ↔ info.Registered other ∧ _
    by_cases same : other = rid
    · subst same
      rw [AList.lookup_erase]
      exact ⟨fun _ => ⟨registered,rfl⟩,fun _ => .inr rfl⟩
    · rw [AList.lookup_erase_ne same]
      simp only [same,or_false]
  · intro other rids found
    change (info.rally.insert info.guildId (info.listed info.guildId++[rid])).lookup other = some rids at found
    rw [home]
    by_cases same : other = info.guildId
    · exact .inl same
    · rw [AList.lookup_insert_ne same] at found
      rw [← here]
      exact agrees.elsewhere other rids found
  · intro other found
    change (info.rally.insert info.guildId (info.listed info.guildId++[rid])).lookup other = some [] at found
    rcases Table.found_insert found with ⟨_,empty⟩ | ⟨_,older⟩
    · exact List.append_ne_nil_of_right_ne_nil _ (List.cons_ne_nil _ _) empty.symm
    · exact agrees.filled other older
  · intro other number found
    change (info.pending.erase rid).lookup other = some number at found
    obtain ⟨_,found⟩ := Table.found_erase found
    exact agrees.waits other number found

theorem Agrees.replace (agrees : Agrees info) (changes : info.changing = some (rawGuildId,some ticket))
    (there : info.rally.lookup rawGuildId = some rallyInfo) : Agrees (info.replace info.guildId rallyInfo) := by
  have here := home_changing changes
  have home : (info.replace info.guildId rallyInfo).home = rawGuildId := home_changing changes
  have differs := agrees.moved rawGuildId _ changes
  have after : (info.replace info.guildId rallyInfo).listed rawGuildId = info.listed rawGuildId := by
    simp only [Target.listed,Target.replace,AList.lookup_insert_ne differs]
  refine ⟨agrees.distinct,?_,?_,?_,?_,agrees.moved,agrees.waits⟩
  · rw [home,after,← here]
    exact agrees.once
  · intro rid
    rw [home,after,← here]
    exact agrees.agrees rid
  · intro other rids found
    change (info.rally.insert info.guildId rallyInfo).lookup other = some rids at found
    by_cases same : other = info.guildId
    · exact .inr ⟨same,rawGuildId,ticket,changes⟩
    · rw [AList.lookup_insert_ne same] at found
      rw [home,← here]
      exact agrees.elsewhere other rids found
  · intro other found
    change (info.rally.insert info.guildId rallyInfo).lookup other = some [] at found
    rcases Table.found_insert found with ⟨rfl,rfl⟩ | ⟨_,found⟩
    · exact agrees.filled rawGuildId there
    · exact agrees.filled other found

theorem Agrees.clear (agrees : Agrees info) (changes : info.changing = some (rawGuildId,some ticket))
    (copied : info.listed info.guildId = info.listed rawGuildId) : Agrees (info.clear rawGuildId) := by
  have here := home_changing changes
  have home : (info.clear rawGuildId).home = info.guildId := rfl
  have differs := agrees.moved rawGuildId _ changes
  have after : (info.clear rawGuildId).listed info.guildId = info.listed info.home := by
    rw [here,← copied]
    simp only [Target.listed,Target.clear,AList.lookup_erase_ne differs.symm]
  have inside (other : Nat) (rids : List Nat) (found : (info.clear rawGuildId).rally.lookup other = some rids) :
      other ≠ rawGuildId ∧ info.rally.lookup other = some rids := by
    change (info.rally.erase rawGuildId).lookup other = some rids at found
    exact Table.found_erase found
  refine ⟨agrees.distinct,?_,?_,?_,?_,?_,?_⟩
  · rw [home,after]
    exact agrees.once
  · intro rid
    rw [home,after]
    exact agrees.agrees rid
  · intro other rids found
    obtain ⟨away,before⟩ := inside other rids found
    rcases agrees.elsewhere other rids before with same | ⟨same,_⟩
    · exact absurd (same.trans here) away
    · exact .inl same
  · intro other found
    exact agrees.filled other (inside other [] found).2
  · intro _ _ same
    cases same
  · intro rid number found
    exact ⟨rfl,(agrees.waits rid number found).2⟩

theorem Same.relied {after : Target} (same : Same info after) (relied : info.Relied ticket task) : after.Relied ticket task := by
  cases task with
  | add t targetGuildId rid => exact ⟨(same.pending rid).trans relied.1,relied.2.trans same.guild.symm⟩
  | sent t rawGuildId newGuildId rallyInfo =>
    exact ⟨same.changing.trans relied.1,relied.2.1.trans same.guild.symm,(same.rally rawGuildId).trans relied.2.2⟩
  | added t rawGuildId =>
    refine ⟨same.changing.trans relied.1,?_⟩
    rw [same.guild,same.listed,same.listed]
    exact relied.2

-- While no switch is at work only adds wait, and they keep their places.
theorem Relied.still {after : Target} (relied : info.Relied ticket task) (still : info.changing = none) (guild : after.guildId = info.guildId)
    (pending : ∀ rid, info.pending.lookup rid = some ticket → after.pending.lookup rid = some ticket) : after.Relied ticket task := by
  cases task with
  | add t targetGuildId rid => exact ⟨pending rid relied.1,relied.2.trans guild.symm⟩
  | sent | added =>
    have changes := relied.1
    rw [still] at changes
    cases changes

-- While a target changes its guild at most one switch waits, and no add.
theorem Relied.busy (relied : info.Relied other task) (agrees : Agrees info) (changes : info.changing = some (rawGuildId,working)) :
    working = some other := by
  cases task with
  | add t targetGuildId rid =>
    have still := (agrees.waits rid other relied.1).1
    rw [changes] at still
    cases still
  | sent | added =>
    have same := relied.1
    rw [changes] at same
    cases same
    rfl

end Target

section Step
variable {s : State} {ticket other : Nat}

theorem agrees_update {info : Target} (all : ∀ t, (s t).Agrees) (ok : info.Agrees) (t : Nat) : ∀ other, (Function.update s t info other).Agrees := by
  intro other
  by_cases same : other = t
  · subst same
    rw [Function.update_self]
    exact ok
  · rw [Function.update_of_ne same]
    exact all other

theorem relies_update {info : Target} (relied : relies s ticket task)
    (kept : task.targetIndex = t → (s t).Relied ticket task → info.Relied ticket task) : relies (Function.update s t info) ticket task := by
  unfold relies
  by_cases same : task.targetIndex = t
  · rw [same,Function.update_self]
    exact kept same (same ▸ relied)
  · rw [Function.update_of_ne same]
    exact relied

-- One step: the tables still agree, the handler may go on, and the others may too.
structure Holds (ticket : Nat) (s : State) (outcome : State × Option Task) : Prop where
  agrees : ∀ t, (outcome.1 t).Agrees
  next : ∀ task ∈ outcome.2, relies outcome.1 ticket task
  beside : ∀ other task, other ≠ ticket → relies s other task → relies outcome.1 other task

theorem holds_update {info : Target} (all : ∀ t, (s t).Agrees) (t : Nat) (ok : info.Agrees)
    (beside : ∀ other task, other ≠ ticket → (s t).Relied other task → info.Relied other task)
    (next : ∀ task ∈ after, task.targetIndex = t ∧ info.Relied ticket task) : Holds ticket s (Function.update s t info,after) where
  agrees := agrees_update all ok t
  next task mem := by
    obtain ⟨same,relied⟩ := next task mem
    unfold relies
    dsimp only
    rw [same,Function.update_self]
    exact relied
  beside other task apart relied := relies_update relied (fun _ here => beside other task apart here)

theorem enter_holds (all : ∀ t, (s t).Agrees) (allowed : Undisturbed s (.call request)) : Holds ticket s (enter request ticket s) := by
  cases request with
  | addRallyTargetIndex t targetGuildId rid guildId =>
    simp only [enter]
    split
    · exact ⟨all,fun _ mem => (by cases mem),fun _ _ _ relied => relied⟩
    · rename_i free
      obtain ⟨guild,still,fresh⟩ := allowed free
      have new : ¬ (s t).Registered rid := by
        rintro ⟨holder,found⟩
        exact fresh holder (Table.mem_of_lookup found) found
      refine holds_update all t ((all t).register free still new) ?_ ?_
      · intro other task apart relied
        refine relied.still still rfl ?_
        intro waiting found
        change ((s t).pending.insert rid ticket).lookup waiting = some other
        rw [AList.lookup_insert_ne,found]
        rintro rfl
        exact new ((all t).waits waiting other found).2
      · intro task mem
        cases mem
        exact ⟨rfl,AList.lookup_insert _,guild⟩
  | deleteRallyTargetIndex t targetGuildId rid guildId =>
    obtain ⟨rfl,⟨still,there,settled⟩ | ⟨free,absent⟩⟩ := allowed
    · refine holds_update all t ((all t).delete still there settled) ?_ (fun _ mem => by cases mem)
      intro other task _ relied
      exact relied.still still rfl (fun _ found => found)
    · have same := Target.delete_same (all t) free absent
      exact holds_update all t (same.agrees (all t)) (fun _ _ _ relied => same.relied relied) (fun _ mem => by cases mem)
  | switchTargetGuild t rawGuildId newGuildId =>
    simp only [enter]
    rcases allowed with ⟨changes,guild⟩ | ⟨still,missing⟩
    · have nobody {other : Nat} {task : Task} (relied : (s t).Relied other task) : False := by
        cases relied.busy (all t) changes
      split
      · rename_i missing
        exact holds_update all t ((all t).unlisted changes missing) (fun _ _ _ relied => (nobody relied).elim) (fun _ mem => by cases mem)
      · rename_i rallyInfo found
        refine holds_update all t ((all t).begin changes ticket) (fun _ _ _ relied => (nobody relied).elim) ?_
        intro task mem
        cases mem
        exact ⟨rfl,rfl,guild,found⟩
    · rw [missing]
      have same : (s t).Same {s t with changing:=none} := ⟨fun _ => rfl,fun _ => rfl,rfl,still.symm,fun _ => rfl⟩
      exact holds_update all t (same.agrees (all t)) (fun _ _ _ relied => same.relied relied) (fun _ mem => by cases mem)
  | guildChanges t guildId =>
    obtain ⟨still,quiet,differs⟩ := allowed
    refine holds_update all t ((all t).change still quiet differs) ?_ (fun _ mem => by cases mem)
    intro other task _ relied
    cases task with
    | add _ _ rid =>
      have key : rid ∈ (s t).pending.keys := Table.mem_of_lookup relied.1
      rw [quiet] at key
      cases key
    | sent | added =>
      have changes := relied.1
      rw [still] at changes
      cases changes

theorem resume_holds (all : ∀ t, (s t).Agrees) (relied : relies s ticket task) : Holds ticket s (resume () ticket task s) := by
  cases task with
  | add t targetGuildId rid =>
    obtain ⟨waiting,guild⟩ := relied
    change (s t).pending.lookup rid = some ticket at waiting
    change targetGuildId = (s t).guildId at guild
    subst guild
    have still := ((all t).waits rid ticket waiting).1
    refine holds_update all t ((all t).append waiting) ?_ (fun _ mem => by cases mem)
    intro other task apart relied
    refine relied.still still rfl ?_
    intro rid' found
    change ((s t).pending.erase rid).lookup rid' = some other
    rw [AList.lookup_erase_ne,found]
    rintro rfl
    rw [waiting] at found
    exact apart (Option.some.inj found).symm
  | sent t rawGuildId newGuildId rallyInfo =>
    obtain ⟨changes,guild,there⟩ := relied
    change (s t).changing = some (rawGuildId,some ticket) at changes
    change newGuildId = (s t).guildId at guild
    subst guild
    change (s t).rally.lookup rawGuildId = some rallyInfo at there
    refine holds_update all t ((all t).replace changes there) ?_ ?_
    · intro other task apart relied
      exact absurd (Option.some.inj (relied.busy (all t) changes)).symm apart
    · intro task mem
      cases mem
      refine ⟨rfl,changes,?_⟩
      have differs := (all t).moved rawGuildId _ changes
      change (((s t).rally.insert (s t).guildId rallyInfo).lookup (s t).guildId).getD [] =
        (((s t).rally.insert (s t).guildId rallyInfo).lookup rawGuildId).getD []
      rw [AList.lookup_insert,AList.lookup_insert_ne differs,there]
  | added t rawGuildId =>
    obtain ⟨changes,copied⟩ := relied
    refine holds_update all t ((all t).clear changes copied) ?_ (fun _ mem => by cases mem)
    intro other task apart relied
    exact absurd (Option.some.inj (relied.busy (all t) changes)).symm apart

theorem agreement_kept : KeepsApart enter resume Undisturbed (fun s => ∀ t, (s t).Agrees) relies where
  entered _ _ _ all allowed := ⟨(enter_holds all allowed).agrees,(enter_holds all allowed).next⟩
  resumed _ _ _ _ all relied _ := ⟨(resume_holds all relied).agrees,(resume_holds all relied).next⟩
  beside_entered _ _ _ other task all allowed relied apart := (enter_holds all allowed).beside other task apart relied
  beside_resumed _ _ _ _ other beside all relied _ reliedOther apart := (resume_holds all relied).beside other beside apart reliedOther

def Task.item : Task → Option Nat
  | .add _ _ rid => some rid
  | .sent _ _ _ _ | .added _ _ => none

def Target.Open (info : Target) : Option Nat → Prop
  | some rid => (info.pending.lookup rid).isSome = true
  | none => ∃ rawGuildId ticket, info.changing = some (rawGuildId,some ticket)

-- An add on its way, or a switch at work, has a handler that waits.
def Unfinished (s : Ticketed State) (d : Nat × Option Nat) : Prop := (s.state d.1).Open d.2

def Finishes (handler : Numbered Task) (d : Nat × Option Nat) : Prop := handler.task.targetIndex = d.1 ∧ handler.task.item = d.2

theorem open_update {info : Target} (there : (Function.update s t info place).Open item) :
    place = t ∧ info.Open item ∨ place ≠ t ∧ (s place).Open item := by
  by_cases same : place = t
  · rw [same,Function.update_self] at there
    exact .inl ⟨same,there⟩
  · rw [Function.update_of_ne same] at there
    exact .inr ⟨same,there⟩

theorem enter_open {d : Nat × Option Nat} (there : ((enter request ticket s).1 d.1).Open d.2) :
    (s d.1).Open d.2 ∨ ∃ task ∈ (enter request ticket s).2, task.targetIndex = d.1 ∧ task.item = d.2 := by
  obtain ⟨place,item⟩ := d
  cases request with
  | addRallyTargetIndex t targetGuildId rid guildId =>
    simp only [enter] at there ⊢
    split at there
    · exact .inl there
    · rcases open_update there with ⟨rfl,here⟩ | ⟨_,before⟩
      · cases item with
        | some other =>
          by_cases same : other = rid
          · subst same
            exact .inr ⟨_,rfl,rfl,rfl⟩
          · change (((s place).pending.insert rid ticket).lookup other).isSome = true at here
            rw [AList.lookup_insert_ne same] at here
            exact .inl here
        | none => exact .inl here
      · exact .inl before
  | deleteRallyTargetIndex t targetGuildId rid guildId =>
    rcases open_update there with ⟨rfl,here⟩ | ⟨_,before⟩
    · cases item with
      | some other => exact .inl here
      | none => exact .inl here
    · exact .inl before
  | switchTargetGuild t rawGuildId newGuildId =>
    simp only [enter] at there ⊢
    split at there
    · rcases open_update there with ⟨rfl,here⟩ | ⟨_,before⟩
      · cases item with
        | some rid => exact .inl here
        | none =>
          obtain ⟨_,_,changes⟩ := here
          cases changes
      · exact .inl before
    · rcases open_update there with ⟨rfl,here⟩ | ⟨_,before⟩
      · cases item with
        | some rid => exact .inl here
        | none => exact .inr ⟨_,rfl,rfl,rfl⟩
      · exact .inl before
  | guildChanges t guildId =>
    rcases open_update there with ⟨rfl,here⟩ | ⟨_,before⟩
    · cases item with
      | some rid => exact .inl here
      | none =>
        obtain ⟨_,_,changes⟩ := here
        cases changes
    · exact .inl before

theorem resume_open {d : Nat × Option Nat} (ticket : Nat) (there : ((resume () ticket task s).1 d.1).Open d.2) :
    (s d.1).Open d.2 ∧ ¬ (task.targetIndex = d.1 ∧ task.item = d.2) ∨
      ∃ next ∈ (resume () ticket task s).2, next.targetIndex = d.1 ∧ next.item = d.2 := by
  obtain ⟨place,item⟩ := d
  cases task with
  | add t targetGuildId rid =>
    left
    rcases open_update there with ⟨rfl,here⟩ | ⟨away,before⟩
    · cases item with
      | some other =>
        change (((s place).pending.erase rid).lookup other).isSome = true at here
        obtain ⟨same,held⟩ := AList.mem_erase.mp (AList.lookup_isSome.mp here)
        refine ⟨AList.lookup_isSome.mpr held,?_⟩
        rintro ⟨_,clash⟩
        exact same (Option.some.inj clash).symm
      | none =>
        refine ⟨here,?_⟩
        rintro ⟨_,clash⟩
        cases clash
    · exact ⟨before,fun mine => away mine.1.symm⟩
  | sent t rawGuildId newGuildId rallyInfo =>
    rcases open_update there with ⟨rfl,here⟩ | ⟨away,before⟩
    · cases item with
      | some rid =>
        refine .inl ⟨here,?_⟩
        rintro ⟨_,clash⟩
        cases clash
      | none => exact .inr ⟨_,rfl,rfl,rfl⟩
    · exact .inl ⟨before,fun mine => away mine.1.symm⟩
  | added t rawGuildId =>
    left
    rcases open_update there with ⟨rfl,here⟩ | ⟨away,before⟩
    · cases item with
      | some rid =>
        refine ⟨here,?_⟩
        rintro ⟨_,clash⟩
        cases clash
      | none =>
        obtain ⟨_,_,changes⟩ := here
        cases changes
    · exact ⟨before,fun mine => away mine.1.symm⟩

theorem unfinished_owned : Owns (enterNumbered enter) (resumeNumbered resume) (numbered Undisturbed) Unfinished Finishes where
  entered s request d _ there := by
    rcases enter_open there with before | ⟨task,mem,mine⟩
    · exact .inl before
    · exact .inr ⟨⟨s.tickets,task⟩,Option.map_eq_some_iff.mpr ⟨task,mem,rfl⟩,mine⟩
  resumed s handler answer d _ there := by
    rcases resume_open handler.ticket there with before | ⟨task,mem,mine⟩
    · exact .inl before
    · exact .inr ⟨⟨handler.ticket,task⟩,Option.map_eq_some_iff.mpr ⟨task,mem,rfl⟩,mine⟩

-- Nothing is rallied yet; every target has some guild.
def start (guilds : Nat → Nat) : Service (Ticketed State) (Numbered Task) := ⟨⟨0,fun t => ⟨∅,∅,guilds t,none,∅⟩⟩,[]⟩

theorem targets_agree {guilds : Nat → Nat} {last : Service (Ticketed State) (Numbered Task)}
    (path : Runs (Guarded Acts (Allowed (numbered Undisturbed))) (start guilds) events last) (quiet : last.waiting = []) (t rid : Nat) :
    ((∃ guildId, rid ∈ (last.shared.state t).listed guildId) ↔ ∃ guildId, (last.shared.state t).rallyTargetInfo.lookup guildId = some rid) ∧
    (∀ one other, rid ∈ (last.shared.state t).listed one → rid ∈ (last.shared.state t).listed other → one = other) ∧
    ∀ guildId, ((last.shared.state t).listed guildId).count rid ≤ 1 := by
  have empty (t : Nat) : ((start guilds).shared.state t).Agrees := by
    refine ⟨?_,List.nodup_nil,?_,?_,?_,?_,?_⟩
    · intro _ _ _ found
      cases found
    · intro rid
      refine ⟨fun mem => (by cases mem),?_⟩
      rintro ⟨⟨_,found⟩,_⟩
      cases found
    · intro _ _ found
      cases found
    · intro _ found
      cases found
    · intro _ _ changes
      cases changes
    · intro _ _ found
      cases found
  have agrees := (agreement_kept.run path rfl empty).1 t
  have owned : Owned Unfinished Finishes last := by
    refine unfinished_owned.run path ?_
    rintro ⟨place,item⟩ there
    cases item with
    | some rid => cases there
    | none =>
      obtain ⟨_,_,changes⟩ := there
      cases changes
  have finished (item : Option Nat) : ¬ (last.shared.state t).Open item := by
    intro there
    obtain ⟨handler,mem,_⟩ := owned (t,item) there
    rw [quiet] at mem
    cases mem
  have settled (rid : Nat) : (last.shared.state t).pending.lookup rid = none :=
    Option.not_isSome_iff_eq_none.mp (finished (some rid))
  have home {guildId rid : Nat} (mem : rid ∈ (last.shared.state t).listed guildId) : guildId = (last.shared.state t).home := by
    rcases Option.eq_none_or_eq_some ((last.shared.state t).rally.lookup guildId) with none | ⟨rids,found⟩
    · rw [Target.listed,none] at mem
      cases mem
    · rcases agrees.elsewhere guildId rids found with here | ⟨_,working⟩
      · exact here
      · exact absurd working (finished none)
  refine ⟨⟨?_,?_⟩,fun one other first second => (home first).trans (home second).symm,?_⟩
  · rintro ⟨guildId,mem⟩
    exact ((agrees.agrees rid).mp (home mem ▸ mem)).1
  · intro registered
    exact ⟨_,(agrees.agrees rid).mpr ⟨registered,settled rid⟩⟩
  · intro guildId
    by_cases mem : rid ∈ (last.shared.state t).listed guildId
    · rw [home mem]
      exact List.nodup_iff_count_le_one.mp agrees.once rid
    · rw [List.count_eq_zero_of_not_mem mem]
      exact Nat.zero_le 1

end Step

-- Target 5 goes from guild 1 to guild 3; the leader 8 is added at guild 3 before the list
-- of guild 1 comes there, and is lost.
theorem switch_loses_add : ∃ events last, Runs Acts (start (fun _ => 1)) events last ∧ last.waiting = [] ∧
    (last.shared.state 5).rallyTargetInfo.lookup 4 = some 8 ∧ (last.shared.state 5).rally.entries = [⟨3,[7]⟩] := by
  apply play_unguarded [.call (.addRallyTargetIndex 5 1 7 2),.resume 0 (),.call (.guildChanges 5 3),.call (.switchTargetGuild 5 1 3),
    .call (.addRallyTargetIndex 5 3 8 4),.resume 0 (),.resume 0 (),.resume 0 ()] (start (fun _ => 1))
  decide

instance (s : State) : (event : Event Request Task Unit) → Decidable (Undisturbed s event)
  | .call (.addRallyTargetIndex t targetGuildId rid guildId) => inferInstanceAs (Decidable ((s t).rallyTargetInfo.lookup guildId = none →
      targetGuildId = (s t).guildId ∧ (s t).changing = none ∧ ∀ h ∈ (s t).rallyTargetInfo.keys, (s t).rallyTargetInfo.lookup h ≠ some rid))
  | .call (.deleteRallyTargetIndex t targetGuildId rid guildId) => inferInstanceAs (Decidable (targetGuildId = (s t).guildId ∧
      ((s t).changing = none ∧ (s t).rallyTargetInfo.lookup guildId = some rid ∧ (s t).pending.lookup rid = none ∨
        (s t).rallyTargetInfo.lookup guildId = none ∧ rid ∉ (s t).listed targetGuildId)))
  | .call (.switchTargetGuild t rawGuildId newGuildId) => inferInstanceAs (Decidable (
      (s t).changing = some (rawGuildId,none) ∧ newGuildId = (s t).guildId ∨ (s t).changing = none ∧ (s t).rally.lookup rawGuildId = none))
  | .call (.guildChanges t guildId) => inferInstanceAs (Decidable ((s t).changing = none ∧ (s t).pending.keys = [] ∧ guildId ≠ (s t).guildId))
  | .resume _ _ => isTrue trivial

-- Two leaders, a change of guild, and one of them gives up.
theorem switch_alone_agrees : ∃ events last, Runs (Guarded Acts (Allowed (numbered Undisturbed))) (start (fun _ => 1)) events last ∧
    last.waiting = [] ∧ (last.shared.state 5).rally.entries = [⟨3,[8]⟩] ∧
    ((∃ guildId, 8 ∈ (last.shared.state 5).listed guildId) ↔ ∃ guildId, (last.shared.state 5).rallyTargetInfo.lookup guildId = some 8) := by
  have played : ∃ events last, Runs (Guarded Acts (Allowed (numbered Undisturbed))) (start (fun _ => 1)) events last ∧
      last.waiting = [] ∧ (last.shared.state 5).rally.entries = [⟨3,[8]⟩] := by
    apply play_reaches (fun s event => decide (numbered Undisturbed s event)) (fun _ _ passed => of_decide_eq_true passed)
      [.call (.addRallyTargetIndex 5 1 7 2),.call (.addRallyTargetIndex 5 1 8 4),.resume 1 (),.resume 0 (),.call (.guildChanges 5 3),
        .call (.switchTargetGuild 5 1 3),.resume 0 (),.resume 0 (),.call (.deleteRallyTargetIndex 5 3 7 2)] (start (fun _ => 1))
    decide
  obtain ⟨events,last,path,quiet,left⟩ := played
  exact ⟨events,last,path,quiet,left,(targets_agree path quiet 5 8).1⟩

end OriginGame.RallyTargetMgr
