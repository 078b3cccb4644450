import Mathlib.Algebra.Order.BigOperators.Group.List
import OriginGame.MergeTurns

namespace OriginGame.BattleScene

def Merge.reportUniqueIndex : Merge → Nat
  | .waits .. => 0
  | .adds _ _ _ reportUniqueIndex .. => reportUniqueIndex

section places
variable {w : World} {address : Address} {scene : Scene} {id : Nat} {merge : Merge}

theorem within_nonneg (i : Nat) (objects : Objects) : 0 ≤ within i objects := by
  unfold within
  split <;> omega

theorem within_le (i : Nat) (objects : Objects) : within i objects ≤ 1 := by
  unfold within
  split <;> omega

theorem within_one {i : Nat} {objects : Objects} : within i objects = 1 ↔ i ∈ objects := by
  unfold within
  split
  · rename_i there
    exact ⟨fun _ => there,fun _ => rfl⟩
  · rename_i outside
    exact ⟨fun one => absurd one (by omega),fun there => absurd there outside⟩

theorem within_zero {i : Nat} {objects : Objects} : within i objects = 0 ↔ i ∉ objects := by
  rw [← within_one]
  have low := within_nonneg i objects
  have high := within_le i objects
  omega

theorem sumOver_nonneg {κ ν : Type} [DecidableEq κ] {weigh : ν → Int} (nonneg : ∀ v, 0 ≤ weigh v) (t : Table κ ν) : 0 ≤ t.sumOver weigh := by
  apply List.sum_nonneg
  intro n mem
  obtain ⟨e,_,rfl⟩ := List.mem_map.mp mem
  exact nonneg e.2

theorem places_nonneg (w : World) (i : Nat) : 0 ≤ places w i := by
  have scenes := sumOver_nonneg (fun scene : Scene => within_nonneg i scene.objectInfos) w.scenes
  have merges := sumOver_nonneg (fun merge : Merge => within_nonneg i merge.objectInfos) w.merges
  unfold places
  omega

-- The rest of the battles without one scene.
def without (w : World) (address : Address) : World := {w with scenes:=w.scenes.erase address}

def apart (w : World) (id : Nat) : World := {w with merges:=w.merges.erase id}

theorem places_scene (found : w.scenes.lookup address = some scene) (i : Nat) : places w i = within i scene.objectInfos+places (without w address) i := by
  have rest := Table.sumOver_erase (fun scene : Scene => within i scene.objectInfos) w.scenes address
  rw [Table.amount_some found] at rest
  unfold places without
  dsimp only
  omega

theorem places_write (scene : Scene) (log : Log) (i : Nat) : places (w.write address scene log) i = within i scene.objectInfos+places (without w address) i := by
  have rest := Table.sumOver_erase (fun scene : Scene => within i scene.objectInfos) w.scenes address
  have now := Table.sumOver_insert (fun scene : Scene => within i scene.objectInfos) w.scenes address scene
  unfold places without World.write
  dsimp only
  omega

theorem places_merge (found : w.merges.lookup id = some merge) (i : Nat) : places w i = within i merge.objectInfos+places (apart w id) i := by
  have rest := Table.sumOver_erase (fun merge : Merge => within i merge.objectInfos) w.merges id
  rw [Table.amount_some found] at rest
  unfold places apart
  dsimp only
  omega

-- Nobody is in two scenes.
theorem elsewhere (once : ∀ i, places w i ≤ 1) (found : w.scenes.lookup address = some scene) {other : Address} {second : Scene}
    (there : w.scenes.lookup other = some second) (differ : other ≠ address) {i : Nat} (inside : i ∈ second.objectInfos) : i ∉ scene.objectInfos := by
  have kept : (without w address).scenes.lookup other = some second := (AList.lookup_erase_ne differ).trans there
  have whole := places_scene found i
  have part := places_scene kept i
  have rest := places_nonneg (without (without w address) other) i
  have one := within_one.mpr inside
  have most := once i
  rw [← within_zero]
  have low := within_nonneg i scene.objectInfos
  omega

-- Nor in a scene and on its way to another.
theorem landed (once : ∀ i, places w i ≤ 1) (found : w.scenes.lookup address = some scene) (there : w.merges.lookup id = some merge)
    {i : Nat} (inside : i ∈ merge.objectInfos) : i ∉ scene.objectInfos := by
  have whole := places_scene found i
  have part := places_merge (w:=without w address) there i
  have rest := places_nonneg (apart (without w address) id) i
  have one := within_one.mpr inside
  have most := once i
  rw [← within_zero]
  have low := within_nonneg i scene.objectInfos
  omega

end places

-- What a merge brings was told off where it was marked so, and its reports are numbered.
structure Carried (merge : Merge) (told : Nat → List BattleResult) : Prop where
  strong : ∀ i, ∀ o ∈ sight merge.objectInfos i, 2 ≤ o.exitBattleBlockBlag → told i ≠ []
  numbered : Numbered merge.objectInfos merge.reportUniqueIndex

-- Everybody is in one scene or on its way to one, and who was told off is announced.
structure Whole (w : World) : Prop where
  once : ∀ i, places w i ≤ 1
  covered : ∀ address scene, w.scenes.lookup address = some scene → Covered (sight scene.objectInfos) scene.work w.log.told
  current : ∀ address scene, w.scenes.lookup address = some scene → ∀ p ∈ scene.work.current, p.1 ∈ scene.objectInfos
  numbered : ∀ address scene, w.scenes.lookup address = some scene → Numbered scene.objectInfos scene.reportUniqueIndex
  carried : ∀ id merge, w.merges.lookup id = some merge → Carried merge w.log.told
  inside : ∀ i, w.log.told i ≠ [] → places w i = 1
  announced : ∀ i, ∀ result ∈ w.log.told i, Announced w (i,result)
  ended : ∀ e ∈ w.log.ends, e.leaves = true → e.results ≠ [] ∧ ∀ result ∈ e.results, Announced w (e.objectIndex,result)

-- Nobody is lost: who was in a battle still is, or has ended since.
def Follows (w after : World) : Prop := ∃ more, after.log.ends = w.log.ends++more ∧
  ∀ i, places w i = 1 → places after i = 1 ∨ ∃ e ∈ more, e.objectIndex = i ∧ e.leaves = true

theorem Follows.refl (w : World) : Follows w w := ⟨[],(List.append_nil _).symm,fun _ one => .inl one⟩

theorem Follows.quiet {w after : World} (ends : after.log.ends = w.log.ends) (same : ∀ i, places w i = 1 → places after i = 1) : Follows w after :=
  ⟨[],by rw [ends,List.append_nil],fun i one => .inl (same i one)⟩

theorem Follows.trans {w middle after : World} (first : Follows w middle) (second : Follows middle after) : Follows w after := by
  obtain ⟨some,ends,stays⟩ := first
  obtain ⟨more,later,remains⟩ := second
  refine ⟨some++more,by rw [later,ends,List.append_assoc],?_⟩
  intro i one
  rcases stays i one with here | ⟨e,mem,left⟩
  · exact (remains i here).imp_right (fun ⟨e,mem,left⟩ => ⟨e,List.mem_append_right _ mem,left⟩)
  · exact .inr ⟨e,List.mem_append_left _ mem,left⟩

-- One scene changes: who is in it was in it or in no battle, and who is no longer has ended.
structure Alters (w : World) (scene after : Scene) (log : Log) : Prop where
  old : ∀ i ∈ after.objectInfos, i ∈ scene.objectInfos ∨ places w i = 0
  ends : ∃ more, log.ends = w.log.ends++more ∧
    (∀ i ∈ scene.objectInfos, i ∉ after.objectInfos → ∃ e ∈ more, e.objectIndex = i ∧ e.leaves = true) ∧
    ∀ e ∈ more, e.leaves = true → e.results ≠ [] ∧ e.results = w.log.told e.objectIndex
  covered : Covered (sight after.objectInfos) after.work log.told
  current : ∀ p ∈ after.work.current, p.1 ∈ after.objectInfos
  numbered : Numbered after.objectInfos after.reportUniqueIndex
  outside : ∀ i, i ∉ scene.objectInfos → log.told i = w.log.told i
  stays : ∀ i ∈ scene.objectInfos, log.told i ≠ [] → i ∈ after.objectInfos
  sent : ∀ p ∈ sent scene w.log, p ∈ sent after log
  told : ∀ i, ∀ result ∈ log.told i, result ∈ w.log.told i ∨ (i,result) ∈ BattleScene.sent after log

section scenes
variable {w : World} {address : Address} {scene after : Scene} {log : Log}

theorem announced_sent {p : Nat × BattleResult} (mem : p ∈ sent after log) : Announced (w.write address after log) p := by
  unfold sent at mem
  rcases List.mem_append.mp mem with known | current
  · exact (List.mem_append.mp known).imp_right .inl
  · exact .inr (.inr ⟨address,after,AList.lookup_insert _,current⟩)

theorem Alters.announced (alters : Alters w scene after log) (found : w.scenes.lookup address = some scene) {p : Nat × BattleResult}
    (announced : Announced w p) : Announced (w.write address after log) p := by
  rcases announced with reported | pending | ⟨other,second,there,current⟩
  · exact announced_sent (alters.sent p (List.mem_append_left _ (List.mem_append_left _ reported)))
  · exact announced_sent (alters.sent p (List.mem_append_left _ (List.mem_append_right _ pending)))
  · by_cases here : other = address
    · subst here
      cases Option.some.inj (found.symm.trans there)
      exact announced_sent (alters.sent p (List.mem_append_right _ current))
    · exact .inr (.inr ⟨other,second,(AList.lookup_insert_ne here).trans there,current⟩)

-- An object that was in another place is not taken into the scene.
theorem Alters.untaken (alters : Alters w scene after log) (found : w.scenes.lookup address = some scene) (outside : i ∉ scene.objectInfos)
    (one : places w i = 1) : places (w.write address after log) i = 1 := by
  have absent : i ∉ after.objectInfos := by
    intro inside
    have none := (alters.old i inside).resolve_left outside
    omega
  rw [places_write,within_zero.mpr absent]
  rw [places_scene found,within_zero.mpr outside] at one
  exact one

theorem Alters.follows (alters : Alters w scene after log) (found : w.scenes.lookup address = some scene) : Follows w (w.write address after log) := by
  obtain ⟨more,ends,gone,_⟩ := alters.ends
  refine ⟨more,ends,?_⟩
  intro i one
  by_cases there : i ∈ scene.objectInfos
  · by_cases remains : i ∈ after.objectInfos
    · refine .inl ?_
      rw [places_write,within_one.mpr remains]
      rw [places_scene found,within_one.mpr there] at one
      exact one
    · exact .inr (gone i there remains)
  · exact .inl (alters.untaken found there one)

theorem Alters.whole (alters : Alters w scene after log) (found : w.scenes.lookup address = some scene) (whole : Whole w) : Whole (w.write address after log) := by
  have lookup {other : Address} {second : Scene} (there : (w.write address after log).scenes.lookup other = some second) :
      other = address ∧ second = after ∨ other ≠ address ∧ w.scenes.lookup other = some second := by
    by_cases here : other = address
    · subst here
      exact .inl ⟨rfl,(Option.some.inj ((AList.lookup_insert _).symm.trans there)).symm⟩
    · exact .inr ⟨here,(AList.lookup_insert_ne here).symm.trans there⟩
  constructor
  case once =>
    intro i
    have most := whole.once i
    rw [places_scene found] at most
    rw [places_write]
    have low := within_nonneg i scene.objectInfos
    have high := within_le i after.objectInfos
    by_cases there : i ∈ scene.objectInfos
    · rw [within_one.mpr there] at most
      omega
    · by_cases inside : i ∈ after.objectInfos
      · have none := (alters.old i inside).resolve_left there
        rw [places_scene found] at none
        omega
      · rw [within_zero.mpr inside]
        omega
  case covered =>
    intro other second there
    rcases lookup there with ⟨_,rfl⟩ | ⟨differ,before⟩
    · exact alters.covered
    · refine (whole.covered other second before).congr ?_
      intro i inside
      exact alters.outside i (elsewhere whole.once found before differ (isSome_sight.mp inside))
  case current =>
    intro other second there
    rcases lookup there with ⟨_,rfl⟩ | ⟨_,before⟩
    · exact alters.current
    · exact whole.current other second before
  case numbered =>
    intro other second there
    rcases lookup there with ⟨_,rfl⟩ | ⟨_,before⟩
    · exact alters.numbered
    · exact whole.numbered other second before
  case carried =>
    intro id merge there
    have carried := whole.carried id merge there
    refine ⟨?_,carried.numbered⟩
    intro i o mem marked
    have inside : i ∈ merge.objectInfos := isSome_sight.mp (Option.isSome_iff_exists.mpr ⟨o,mem⟩)
    change log.told i ≠ []
    rw [alters.outside i (landed whole.once found there inside)]
    exact carried.strong i o mem marked
  case inside =>
    intro i telling
    change log.told i ≠ [] at telling
    by_cases there : i ∈ scene.objectInfos
    · have most := whole.once i
      have rest := places_nonneg (without w address) i
      rw [places_scene found,within_one.mpr there] at most
      rw [places_write,within_one.mpr (alters.stays i there telling)]
      omega
    · rw [alters.outside i there] at telling
      exact alters.untaken found there (whole.inside i telling)
  case announced =>
    intro i result mem
    rcases alters.told i result mem with before | now
    · exact alters.announced found (whole.announced i result before)
    · exact announced_sent now
  case ended =>
    obtain ⟨more,ends,_,fair⟩ := alters.ends
    intro e mem leaves
    change e ∈ log.ends at mem
    rw [ends] at mem
    rcases List.mem_append.mp mem with before | new
    · obtain ⟨some,all⟩ := whole.ended e before leaves
      exact ⟨some,fun result its => alters.announced found (all result its)⟩
    · obtain ⟨some,same⟩ := fair e new leaves
      refine ⟨some,fun result its => alters.announced found (whole.announced _ result ?_)⟩
      rw [← same]
      exact its

-- Nobody is told anything; scenes and merges are as before, or new ones that keep to the rules.
theorem Whole.moved (whole : Whole w) {next : World} (told : next.log.told = w.log.told) (ends : next.log.ends = w.log.ends) (once : ∀ i, places next i ≤ 1)
    (same : ∀ i, places w i = 1 → places next i = 1)
    (scenes : ∀ other second, next.scenes.lookup other = some second → (∃ address, w.scenes.lookup address = some second) ∨
      Covered (sight second.objectInfos) second.work w.log.told ∧ (∀ p ∈ second.work.current, p.1 ∈ second.objectInfos) ∧
        Numbered second.objectInfos second.reportUniqueIndex)
    (merges : ∀ id merge, next.merges.lookup id = some merge → (∃ other, w.merges.lookup other = some merge) ∨ Carried merge w.log.told)
    (announced : ∀ p, Announced w p → Announced next p) : Whole next where
  once := once
  covered other second there := by
    rw [told]
    rcases scenes other second there with ⟨address,before⟩ | ⟨covered,_⟩
    · exact whole.covered address second before
    · exact covered
  current other second there := by
    rcases scenes other second there with ⟨address,before⟩ | ⟨_,current,_⟩
    · exact whole.current address second before
    · exact current
  numbered other second there := by
    rcases scenes other second there with ⟨address,before⟩ | ⟨_,_,numbered⟩
    · exact whole.numbered address second before
    · exact numbered
  carried id merge there := by
    rw [told]
    rcases merges id merge there with ⟨other,before⟩ | carried
    · exact whole.carried other merge before
    · exact carried
  inside i telling := by
    rw [told] at telling
    exact same i (whole.inside i telling)
  announced i result mem := by
    rw [told] at mem
    exact announced _ (whole.announced i result mem)
  ended e mem leaves := by
    rw [ends] at mem
    obtain ⟨some,all⟩ := whole.ended e mem leaves
    exact ⟨some,fun result its => announced _ (all result its)⟩

theorem numbered_empty {objects : Objects} (none : ∀ i, reportsOf objects i = []) (next : Nat) : Numbered objects next := by
  refine ⟨?_,?_,?_⟩
  · intro i
    rw [none]
    exact List.nodup_nil
  · intro i j report mem
    rw [none] at mem
    cases mem
  · intro i report mem
    rw [none] at mem
    cases mem

end scenes

section merges
variable {w : World} {address : Address} {scene : Scene} {id node deleteBattleIndex attackIndex defenseIndex : Nat} {target : Address}

def carry (w : World) (id : Nat) (merge : Merge) : World := {w with merges:=w.merges.insert id merge}

theorem Carried.waits (told : Nat → List BattleResult) : Carried (.waits node deleteBattleIndex target attackIndex defenseIndex) told :=
  ⟨nofun,numbered_empty (fun _ => rfl) 0⟩

section adds
variable {turn : Int} {objects objectInfos : Objects} {i : Nat}

theorem sight_withMerged (turn : Int) (objects objectInfos : Objects) (i : Nat) :
    sight (withMerged turn objects objectInfos) i = (sight objects i).or (sight objectInfos i) := by
  unfold sight withMerged
  rw [Table.lookup_addMissing,Table.lookup_mapValues,Option.map_or,Option.map_map]
  rfl

theorem sight_multi (turn : Int) (objects objectInfos : Objects) (attackIndex defenseIndex : Nat) : ∃ alters : Seen → Seen, (∀ o, ∃ target, alters o = {o with attackTargetIndex:=target}) ∧
    sight (multiObjectAddBattle turn objects objectInfos attackIndex defenseIndex) = altered (sight (withMerged turn objects objectInfos)) attackIndex alters := by
  unfold multiObjectAddBattle
  dsimp only
  split
  · refine ⟨fun o => {o with attackTargetIndex:=defenseIndex},fun o => ⟨defenseIndex,rfl⟩,?_⟩
    rw [sight_addAttacker]
    apply sight_modify
    intro _
    rfl
  · refine ⟨id,fun o => ⟨o.attackTargetIndex,rfl⟩,?_⟩
    unfold altered
    rw [Option.map_id,id,Function.update_eq_self]

-- An object of the scene, or one that was added to it, but for its target.
theorem multi_from {o : Seen} (found : o ∈ sight (multiObjectAddBattle turn objects objectInfos attackIndex defenseIndex) i) : ∃ p target,
    (p ∈ sight objects i ∨ p ∈ sight objectInfos i) ∧ o = {p with attackTargetIndex:=target} := by
  obtain ⟨alters,only,same⟩ := sight_multi turn objects objectInfos attackIndex defenseIndex
  rw [same] at found
  obtain ⟨p,there,change⟩ := altered_from found
  have from' : p ∈ sight objects i ∨ p ∈ sight objectInfos i := by
    rw [sight_withMerged] at there
    exact (Option.or_eq_some_iff.mp there).imp_right And.right
  rcases change with ⟨_,rfl⟩ | ⟨_,rfl⟩
  · obtain ⟨target,its⟩ := only p
    exact ⟨p,target,from',its⟩
  · exact ⟨o,o.attackTargetIndex,from',rfl⟩

theorem reportsOf_multi {report : Nat} (mem : report ∈ reportsOf (multiObjectAddBattle turn objects objectInfos attackIndex defenseIndex) i) :
    report ∈ reportsOf objects i ∨ report ∈ reportsOf objectInfos i := by
  cases found : sight (multiObjectAddBattle turn objects objectInfos attackIndex defenseIndex) i with
  | none =>
    rw [reportsOf_footing,found] at mem
    cases mem
  | some o =>
    rw [reportsOf_seen found] at mem
    obtain ⟨p,target,here | there,rfl⟩ := multi_from found
    · rw [reportsOf_seen here]
      exact .inl mem
    · rw [reportsOf_seen there]
      exact .inr mem

theorem Numbered.add {next more : Nat} (numbered : Numbered objects next) (others : Numbered objectInfos more)
    (distinct : ∀ i j, ∀ report ∈ reportsOf objectInfos i, report ∉ reportsOf objects j) :
    Numbered (multiObjectAddBattle turn objects objectInfos attackIndex defenseIndex) (max next more) := by
  refine ⟨?_,?_,?_⟩
  · intro i
    cases found : sight (multiObjectAddBattle turn objects objectInfos attackIndex defenseIndex) i with
    | none =>
      rw [reportsOf_footing,found]
      exact List.nodup_nil
    | some o =>
      rw [reportsOf_seen found]
      obtain ⟨p,target,here | there,rfl⟩ := multi_from found
      · rw [← reportsOf_seen here]
        exact numbered.nodup i
      · rw [← reportsOf_seen there]
        exact others.nodup i
  · intro i j report here there
    rcases reportsOf_multi here with mine | brought
    · rcases reportsOf_multi there with its | other
      · exact numbered.apart i j report mine its
      · exact absurd mine (distinct j i report other)
    · rcases reportsOf_multi there with its | other
      · exact absurd its (distinct i j report brought)
      · exact others.apart i j report brought other
  · intro i report mem
    rcases reportsOf_multi mem with mine | brought
    · exact lt_max_of_lt_left (numbered.below i report mine)
    · exact lt_max_of_lt_right (others.below i report brought)

end adds

end merges

-- Two battles of two columns each.
def second : Objects := (AList.insert 3 (column 4) ∅ : Objects).insert 4 (column 3)

def battles : List MergeLabel := [.createBattle ⟨0,1⟩ duel,.createBattle ⟨0,2⟩ second]

def played (labels : List MergeLabel) (w : World) : World := labels.foldl mergeStep w

-- The first battle is merged into the second.
def merging : List MergeLabel := [.mergeBattle 0 0 1 ⟨0,2⟩ 1 3,.add 0]

def met : World := played battles nowhere

def merged : World := played merging met

-- Both count their reports from the beginning.
def reporting : List MergeLabel := [.turn ⟨0,1⟩ (.insertBattleReport 1),.turn ⟨0,2⟩ (.insertBattleReport 3),.mergeBattle 0 0 1 ⟨0,2⟩ 1 3,.add 0]

end OriginGame.BattleScene
