import OriginGame.BattleChecks

namespace OriginGame.BattleScene

section turns
variable {objects : Objects} {look : Nat → Option Seen} {log : Log} {k : Nat}

theorem Early.alter (early : Early look log) {alters : Seen → Seen} (count : ∀ o, (alters o).armyCount = o.armyCount)
    (marks : ∀ o, (alters o).exitBattleBlockBlag = o.exitBattleBlockBlag) (goes : ∀ o, o.exitBattleFlag = true → (alters o).exitBattleFlag = true)
    (other : ∀ o ∈ look k, (alters o).exitBattleFlag = true → (alters o).exitBattleWin ≠ .fail) : Early (altered look k alters) log where
  told i telling := by
    obtain ⟨one,asked,o,found,leaves,marked,alive⟩ := early.told i telling
    refine ⟨one,asked,?_⟩
    by_cases here : i = k
    · subst here
      refine ⟨_,altered_self found,goes o leaves,?_,?_⟩
      · rw [marks]
        exact marked
      · rw [count]
        exact alive
    · rw [altered_other here]
      exact ⟨o,found,leaves,marked,alive⟩
  strong i o found marked := by
    obtain ⟨before,there,⟨_,rfl⟩ | ⟨_,rfl⟩⟩ := altered_from found
    · rw [marks] at marked
      exact early.strong i before there marked
    · exact early.strong i o there marked
  leaving i o found leaves := by
    obtain ⟨before,there,⟨rfl,rfl⟩ | ⟨_,rfl⟩⟩ := altered_from found
    · exact other before there leaves
    · exact early.leaving i o there leaves

theorem Early.attack (early : Early (sight objects) log) (order : Order Nat) (inRange : Nat → Nat → Bool) (turn : Int) (k : Nat) :
    Early (sight (attack order inRange turn objects k)) log := by
  rcases sight_attack order inRange turn objects k with same | ⟨target,same⟩ | ⟨given,other,same⟩
  · rw [same]
    exact early
  · rw [same]
    refine early.alter ?_ ?_ ?_ ?_
    · exact fun _ => rfl
    · exact fun _ => rfl
    · exact fun _ leaves => leaves
    · exact fun o found leaves => early.leaving k o found leaves
  · rw [same]
    refine early.alter ?_ ?_ ?_ ?_
    · exact fun _ => rfl
    · exact fun _ => rfl
    · exact fun _ _ => rfl
    · exact fun _ _ _ => other

theorem leaves_iff {i : Nat} : leaves objects i = true ↔ ∃ o ∈ sight objects i, o.exitBattleFlag = true := by
  unfold leaves sight
  cases objects.lookup i with
  | none => simp
  | some objectInfo => simp [seen]

theorem sight_rest (objects : Objects) (i : Nat) :
    sight (objects.keepValues (fun objectInfo => !objectInfo.exitBattleFlag)) i = (sight objects i).filter (fun o => !o.exitBattleFlag) := by
  unfold sight
  rw [Table.lookup_keepValues]
  cases objects.lookup i with
  | none => rfl
  | some objectInfo =>
    rw [Option.filter_some,Option.map_some,Option.filter_some]
    unfold seen
    dsimp only
    split <;> rfl

theorem rest_from {i : Nat} {o : Seen} (found : o ∈ sight (objects.keepValues (fun objectInfo => !objectInfo.exitBattleFlag)) i) :
    o ∈ sight objects i ∧ o.exitBattleFlag = false := by
  rw [sight_rest] at found
  obtain ⟨there,stays⟩ := Option.filter_eq_some_iff.mp found
  exact ⟨there,by simpa using stays⟩

theorem sight_of_lookup {i : Nat} {objectInfo : ObjectInfo} (found : objects.lookup i = some objectInfo) : seen objectInfo ∈ sight objects i :=
  Option.map_eq_some_iff.mpr ⟨objectInfo,found,rfl⟩

theorem opponent_of_mem {i other : Nat} : other ∈ opponents objects i ↔ Opponent (sight objects) i other := by
  unfold opponents opposes
  rw [List.mem_filter,Bool.or_eq_true]
  constructor
  · rintro ⟨inside,way⟩
    obtain ⟨b,there⟩ := Table.lookup_of_mem inside
    refine ⟨_,sight_of_lookup there,?_⟩
    rcases way with own | its
    · obtain ⟨a,found,target⟩ := Option.any_eq_true _ _ |>.mp own
      exact .inl ⟨_,sight_of_lookup found,of_decide_eq_true target⟩
    · rw [there,Option.any_some,Bool.and_eq_true] at its
      exact .inr ⟨Bool.not_eq_true' _ |>.mp its.1,of_decide_eq_true its.2⟩
  · rintro ⟨b,found,way⟩
    obtain ⟨info,there,rfl⟩ := Option.map_eq_some_iff.mp found
    refine ⟨mem_of_found there,?_⟩
    rcases way with ⟨a,here,target⟩ | ⟨lasting,its⟩
    · obtain ⟨own,mine,rfl⟩ := Option.map_eq_some_iff.mp here
      refine .inl ?_
      rw [mine]
      exact decide_eq_true target
    · refine .inr ?_
      rw [there,Option.any_some,Bool.and_eq_true]
      exact ⟨Bool.not_eq_true' _ |>.mpr lasting,decide_eq_true its⟩

-- What the end of a turn is to show.
structure Ended.Fair (e : Ended) : Prop where
  once : e.leaves = true → e.results.length = 1
  routed : e.routed = true → e.leaves = true ∧ e.results = [.fail]
  dead : e.leaves = true → e.dead = true → e.results = [.fail]
  beats : e.beats = true → e.leaves = true ∧ e.results = [.win]

-- After both passes everyone that leaves was told off.
theorem Late.told_leaving (late : Late look (.pass .others []) log) {i : Nat} {o : Seen} (found : o ∈ look i) (leaves : o.exitBattleFlag = true) :
    ∃ result, log.told i = [result] := by
  have some : log.told i ≠ [] := fun untold => List.not_mem_nil (late.awaits i o found leaves untold).2
  obtain ⟨result,rest,told⟩ := List.exists_cons_of_ne_nil some
  have short := late.once i
  rw [told] at short
  have empty : rest = [] := List.eq_nil_of_length_eq_zero (Nat.le_zero.mp (Nat.succ_le_succ_iff.mp short))
  exact ⟨result,by rw [told,empty]⟩

theorem Late.told_beaten (late : Late look (.pass .others []) log) {i : Nat} {o : Seen} (found : o ∈ look i) (beaten : o.beaten) :
    log.told i = [.fail] := by
  obtain ⟨result,told⟩ := late.told_leaving found beaten.1
  have failed := late.beaten i o found beaten result (by rw [told]; exact List.mem_singleton_self _)
  rw [told,failed]

theorem Late.fair (late : Late (sight objects) (.pass .others []) log) : ∀ e ∈ ended objects log, e.Fair := by
  intro e mem
  obtain ⟨⟨i,objectInfo⟩,entry,rfl⟩ := List.mem_map.mp mem
  have found := sight_of_lookup (AList.mem_lookup_iff.mpr entry)
  refine ⟨?_,?_,?_,?_⟩
  · intro leaves
    obtain ⟨result,told⟩ := late.told_leaving found leaves
    change (log.told i).length = 1
    rw [told]
    rfl
  · intro routed
    obtain ⟨o,there,beaten⟩ := late.routed i routed
    cases Option.mem_unique found there
    exact ⟨beaten.1,late.told_beaten found beaten⟩
  · intro leaves dead
    exact late.told_beaten found ⟨leaves,late.fails i _ found leaves (of_decide_eq_true dead)⟩
  · intro wins
    change beats objects log i objectInfo = true at wins
    unfold beats at wins
    simp only [Bool.and_eq_true,Bool.not_eq_true',decide_eq_true_eq,List.all_eq_true,ne_eq] at wins
    obtain ⟨⟨⟨⟨alive,stays⟩,calm⟩,some⟩,all⟩ := wins
    have standing : ¬objectInfo.armyCount ≤ 0 := of_decide_eq_false alive
    have outdone : Outdone (sight objects) i := by
      constructor
      · obtain ⟨other,rest,same⟩ := List.exists_cons_of_ne_nil some
        exact ⟨other,opponent_of_mem.mp (by rw [same]; exact List.mem_cons_self)⟩
      · intro other opposes
        have told := all other (opponent_of_mem.mpr opposes)
        exact late.lost other (by rw [told]; exact List.mem_singleton_self _)
    obtain ⟨leaves,given⟩ := late.wins i _ found (fun both => standing both.2) calm stays outdone
    obtain ⟨result,told⟩ := late.told_leaving found leaves
    have own := late.unasked i _ found (by rw [told]; exact List.cons_ne_nil _ _) calm
    rw [given] at own
    exact ⟨leaves,own⟩

-- Nobody leaves, nobody was told off.
theorem Early.fresh (untold : ∀ i, log.told i = []) (stays : ∀ i, ∀ o ∈ look i, o.exitBattleFlag = false ∧ ¬2 ≤ o.exitBattleBlockBlag) :
    Early look log where
  told i telling := absurd (untold i) telling
  strong i o found marked := absurd marked (stays i o found).2
  leaving i o found leaves := by
    rw [(stays i o found).1] at leaves
    cases leaves

theorem Late.empty (untold : ∀ i, log.told i = []) (nobody : ∀ i, look i = none) (routed : ∀ i, log.routed i = false) : Late look .deleting log := by
  have outside {i : Nat} {o : Seen} (found : o ∈ look i) : False := by
    rw [nobody] at found
    cases found
  constructor
  case distinct => exact List.nodup_nil
  case known => exact fun i telling => absurd (untold i) telling
  case once =>
    intro i
    rw [untold]
    exact Nat.zero_le 1
  case routed =>
    intro i down
    rw [routed] at down
    cases down
  case lost =>
    intro i mem
    rw [untold] at mem
    cases mem
  all_goals exact fun i o found => (outside found).elim

theorem remove_valid {scene : Scene} (late : Late (sight scene.objectInfos) (.pass .others []) log) :
    Valid (sight (remove scene log).1.objectInfos) (remove scene log).1.work (remove scene log).2 := by
  have untold (i : Nat) : (if leaves scene.objectInfos i then [] else log.told i) = [] := by
    split
    · rfl
    · rename_i stays
      by_contra telling
      exact stays (leaves_iff.mpr (late.known i telling))
  have stays {i : Nat} {o : Seen} (found : o ∈ sight (scene.objectInfos.keepValues (fun objectInfo => !objectInfo.exitBattleFlag)) i) :
      o.exitBattleFlag = false ∧ ¬2 ≤ o.exitBattleBlockBlag := by
    obtain ⟨there,remains⟩ := rest_from found
    refine ⟨remains,fun marked => ?_⟩
    obtain ⟨p,here,goes⟩ := late.known i (late.strong i o there marked)
    cases Option.mem_unique there here
    rw [remains] at goes
    cases goes
  unfold remove
  dsimp only
  split
  · rename_i empty
    refine Late.empty untold ?_ (fun _ => rfl)
    intro i
    cases found : sight (scene.objectInfos.keepValues (fun objectInfo => !objectInfo.exitBattleFlag)) i with
    | none => rfl
    | some o =>
      obtain ⟨info,there,_⟩ := Option.map_eq_some_iff.mp found
      have inside : i ∈ (scene.objectInfos.keepValues (fun objectInfo => !objectInfo.exitBattleFlag)).keys := AList.mem_keys.mp (mem_of_found there)
      rw [empty] at inside
      cases inside
  · exact Early.fresh untold (fun _ _ found => stays found)

theorem Valid.of_early {work : Work} (early : Early look log) (first : work.early = true) : Valid look work log := by
  unfold Valid
  rw [if_pos first]
  exact early

theorem Valid.of_late {work : Work} (late : Late look work log) (later : work.early = false) : Valid look work log := by
  unfold Valid
  rw [later]
  exact late

theorem Valid.early {work : Work} (valid : Valid look work log) (first : work.early = true) : Early look log := by
  unfold Valid at valid
  rw [if_pos first] at valid
  exact valid

theorem Valid.late {work : Work} (valid : Valid look work log) (later : work.early = false) : Late look work log := by
  unfold Valid at valid
  rw [later] at valid
  exact valid

-- Reports that come or go change nothing.
theorem Valid.quiet {work : Work} (valid : Valid look work log) (pending reports : List (Nat × BattleResult)) :
    Valid look work {log with pending:=pending, reports:=reports} := by
  cases first : work.early with
  | true =>
    obtain ⟨told,strong,leaving⟩ := valid.early first
    exact .of_early ⟨told,strong,leaving⟩ first
  | false =>
    obtain ⟨distinct,known,once,strong,awaits,again,fails,beaten,lost,unasked,wins,routed⟩ := valid.late first
    exact .of_late ⟨distinct,known,once,strong,awaits,again,fails,beaten,lost,unasked,wins,routed⟩ first

theorem soldiers_valid {scene : Scene} (valid : Valid (sight scene.objectInfos) scene.work log) {change : ObjectInfo → ObjectInfo} {n : Int}
    (writes : ∀ objectInfo, seen (change objectInfo) = written (fun _ => n) id (seen objectInfo))
    (orderly : ∀ o ∈ sight scene.objectInfos k, Keepable scene log k n o) : Valid (sight (scene.objectInfos.modify k change)) scene.work log := by
  have moved : sight (scene.objectInfos.modify k change) = altered (sight scene.objectInfos) k (written (fun _ => n) id) := sight_modify writes k
  rw [moved]
  cases first : scene.work.early with
  | true => exact .of_early ((valid.early first).write (fun o found telling standing _ => (orderly o found).1 (.inl telling) standing)) first
  | false =>
    refine .of_late ((valid.late first).write ?_ (fun o found => (orderly o found).2 first)) first
    exact fun o found leaves standing _ => (orderly o found).1 (leaves.imp_right (fun goes => ⟨first,goes⟩)) standing

theorem insertBattleReport_valid {scene : Scene} (valid : Valid (sight scene.objectInfos) scene.work log) {change : ObjectInfo → ObjectInfo}
    {report : List Nat → List Nat} (writes : ∀ objectInfo, seen (change objectInfo) = written id report (seen objectInfo)) :
    Valid (sight (scene.objectInfos.modify k change)) scene.work log := by
  have moved : sight (scene.objectInfos.modify k change) = altered (sight scene.objectInfos) k (written id report) := sight_modify writes k
  rw [moved]
  cases first : scene.work.early with
  | true => exact .of_early ((valid.early first).write (fun _ _ _ _ alive => alive)) first
  | false =>
    refine .of_late ((valid.late first).write (fun _ _ _ _ alive => alive) ?_) first
    exact fun o _ _ down alive => absurd alive (Int.not_lt.mpr down)

theorem sight_enterBattle (k : Nat) (info : ObjectInfo) (attackIndex : Nat) : sight (enterBattle objects k info attackIndex) = sight objects ∧ k ∈ objects ∨
    k ∉ objects ∧ ∃ new : Seen, new.exitBattleFlag = false ∧ new.exitBattleBlockBlag = 0 ∧ sight (enterBattle objects k info attackIndex) = entered (sight objects) k new := by
  unfold enterBattle
  split
  · rename_i inside
    exact .inl ⟨rfl,inside⟩
  · rename_i outside
    refine .inr ⟨outside,seen {defaultObjectInfo info with attackTargetIndex:=attackIndex, tmpObjectFlag:=true, status:=0, monsterId:=0},rfl,rfl,sight_insert objects k _⟩

theorem enter_valid {work : Work} (valid : Valid (sight objects) work log) (info : ObjectInfo) (attackIndex : Nat)
    (opposed : work.early = false → k ∉ objects → ¬Outdone (sight (enterBattle objects k info attackIndex)) k) :
    Valid (sight (enterBattle objects k info attackIndex)) work log := by
  rcases sight_enterBattle k info attackIndex with ⟨same,_⟩ | ⟨outside,new,stays,unmarked,same⟩
  · rw [same]
    exact valid
  · have none : sight objects k = none := by
      rw [sight,AList.lookup_eq_none.mpr outside]
      rfl
    cases first : work.early with
    | true =>
      rw [same]
      exact .of_early ((valid.early first).enter none stays unmarked) first
    | false =>
      have missed := opposed first outside
      rw [same] at missed ⊢
      exact .of_late ((valid.late first).enter none stays unmarked missed) first

theorem altered_twice (first second : Seen → Seen) : altered (altered look k first) k second = altered look k (second ∘ first) := by
  unfold altered
  rw [Function.update_self,Function.update_idem,Option.map_map]

theorem exit_result {scene : Scene} (log : Log) (inside : k ∈ scene.objectInfos) (block : Bool) : ∃ objects,
    objectExitBattle scene log k block = ({scene with objectInfos:=objects},log.ask k block) ∧
    sight objects = altered (sight scene.objectInfos) k (askedOut block) := by
  obtain ⟨info,found⟩ := Table.lookup_of_mem inside
  have first : sight (scene.objectInfos.modify k (fun objectInfo => {objectInfo with exitBattleWin:=.noResult, exitBattleFlag:=true, exitBattleBlockBlag:=1})) =
      altered (sight scene.objectInfos) k (askedOut false) := by
    apply sight_modify
    intro _
    rfl
  unfold objectExitBattle
  rw [if_pos inside]
  cases block with
  | false => exact ⟨_,rfl,first⟩
  | true =>
    dsimp only
    unfold objectEndBattle
    rw [if_pos rfl,Table.lookup_modify_self,found,Option.map_some,Option.bind_some,if_neg (Nat.not_le.mpr (Nat.lt_succ_self 1)),if_pos rfl]
    refine ⟨_,rfl,?_⟩
    have second : sight ((scene.objectInfos.modify k (fun objectInfo => {objectInfo with exitBattleWin:=.noResult, exitBattleFlag:=true, exitBattleBlockBlag:=1})).modify k
        (fun objectInfo => {objectInfo with exitBattleBlockBlag:=2})) = altered (sight (scene.objectInfos.modify k (fun objectInfo =>
          {objectInfo with exitBattleWin:=.noResult, exitBattleFlag:=true, exitBattleBlockBlag:=1}))) k (fun o => {o with exitBattleBlockBlag:=2}) := by
      apply sight_modify
      intro _
      rfl
    rw [second,first,altered_twice]
    rfl

theorem exit_valid {scene : Scene} (valid : Valid (sight scene.objectInfos) scene.work log) {block : Bool}
    (orderly : ∀ o ∈ sight scene.objectInfos k, Askable scene log k block o) :
    Valid (sight (objectExitBattle scene log k block).1.objectInfos) (objectExitBattle scene log k block).1.work (objectExitBattle scene log k block).2 := by
  by_cases inside : k ∈ scene.objectInfos
  · obtain ⟨objects,result,same⟩ := exit_result log inside block
    obtain ⟨info,found⟩ := Table.lookup_of_mem inside
    have own : seen info ∈ sight scene.objectInfos k := sight_of_lookup found
    obtain ⟨telling,alive,sound⟩ := orderly _ own
    have there : (sight scene.objectInfos k).isSome = true := Option.isSome_iff_exists.mpr ⟨_,own⟩
    rw [result]
    change Valid (sight objects) scene.work (log.ask k block)
    rw [same]
    cases first : scene.work.early with
    | true =>
      rcases telling with ⟨untold,_⟩ | ⟨_,_,past⟩
      · refine .of_early ((valid.early first).ask untold there ?_) first
        intro o mem blocks
        cases Option.mem_unique own mem
        exact alive blocks
      · cases work : scene.work with
        | idle =>
          rw [work] at past
          cases past
        | fight rest =>
          rw [work] at past
          cases past
        | _ =>
          rw [work] at first
          cases first
    | false =>
      have all : ∀ o ∈ sight scene.objectInfos k, 0 < o.armyCount ∧ ¬o.beaten := by
        intro o mem
        cases Option.mem_unique own mem
        exact sound first
      cases block with
      | true =>
        have untold : log.told k = [] := by
          rcases telling with ⟨untold,_⟩ | ⟨_,later,_⟩
          · exact untold
          · cases later
        exact .of_late ((valid.late first).askNow untold there all) first
      | false =>
        refine .of_late ((valid.late first).askLater ?_ all) first
        rcases telling with ⟨untold,waits⟩ | ⟨told,_,past⟩
        · exact .inl ⟨untold,waits.resolve_left Bool.false_ne_true⟩
        · exact .inr ⟨told,past⟩
  · have same : objectExitBattle scene log k block = (scene,log) := if_neg inside
    rw [same]
    exact valid

theorem endBattle_marked {info : ObjectInfo} (found : objects.lookup k = some info) (marked : 2 ≤ info.exitBattleBlockBlag) :
    objectEndBattle objects k = none := by
  rw [objectEndBattle,found,Option.bind_some,if_pos marked]

theorem endBattle_result {info : ObjectInfo} (found : objects.lookup k = some info) (unmarked : ¬2 ≤ info.exitBattleBlockBlag) :
    ∃ after, objectEndBattle objects k = some after ∧ sight after = altered (sight objects) k marked := by
  rw [objectEndBattle,found,Option.bind_some,if_neg unmarked]
  have own : sight objects k = some (seen info) := sight_of_lookup found
  split
  · rename_i one
    refine ⟨_,rfl,?_⟩
    have moved : sight (objects.modify k (fun objectInfo => {objectInfo with exitBattleBlockBlag:=2})) =
        altered (sight objects) k (fun o => {o with exitBattleBlockBlag:=2}) := by
      apply sight_modify
      intro _
      rfl
    have two : (seen info).exitBattleBlockBlag = 1 := one
    rw [moved,altered,altered,own,Option.map_some,Option.map_some,marked,if_pos two]
  · rename_i other
    refine ⟨_,rfl,?_⟩
    have zero : ¬(seen info).exitBattleBlockBlag = 1 := other
    rw [altered,own,Option.map_some,marked,if_neg zero]
    exact (Function.update_eq_self_iff.mpr own.symm).symm

theorem visit_valid {scene : Scene} {pass : Pass} {rest : List Nat} (late : Late (sight scene.objectInfos) (.pass pass (k::rest)) log) :
    Valid (sight (visit scene log pass k rest).1.objectInfos) (visit scene log pass k rest).1.work (visit scene log pass k rest).2 := by
  unfold visit
  cases found : scene.objectInfos.lookup k with
  | none =>
    refine .of_late (late.skip ?_) rfl
    intro o there
    rw [sight,found] at there
    cases there
  | some info =>
    have own : seen info ∈ sight scene.objectInfos k := sight_of_lookup found
    rw [Option.filter_some]
    cases taken : pass.takes info with
    | false =>
      refine .of_late (late.skip ?_) rfl
      intro o there leaves _
      cases Option.mem_unique own there
      exact Pass.picks_untaken taken leaves
    | true =>
      obtain ⟨leaves,picked⟩ := Bool.and_eq_true _ _ |>.mp taken
      rw [if_pos rfl]
      dsimp only
      by_cases twice : 2 ≤ info.exitBattleBlockBlag
      · rw [endBattle_marked found twice]
        dsimp only
        rw [sight_leave]
        refine .of_late (late.skip ?_) rfl
        intro o there _ untold
        cases Option.mem_unique own there
        exact absurd untold (late.strong k _ own twice)
      · obtain ⟨after,result,same⟩ := endBattle_result found twice
        rw [result]
        dsimp only
        rw [same]
        exact .of_late (late.tell own leaves twice picked) rfl

theorem step_valid {scene : Scene} (valid : Valid (sight scene.objectInfos) scene.work log) (label : TurnLabel) (orderly : Orderly scene log label) :
    Valid (sight (turnStep scene log label).1.objectInfos) (turnStep scene log label).1.work (turnStep scene log label).2 := by
  have listed : ∀ i, (sight scene.objectInfos i).isSome = true → i ∈ scene.objectInfos.keys := by
    intro i inside
    rw [sight,Option.isSome_map] at inside
    exact AList.mem_keys.mp (AList.lookup_isSome.mp inside)
  cases label with
  | begin order =>
    rw [turnStep]
    split
    · rename_i idle
      dsimp only
      split
      · exact valid
      · rw [idle] at valid
        exact .of_early (valid.early rfl) rfl
    · exact valid
  | attack order inRange =>
    rw [turnStep]
    split
    · rename_i k rest fights
      rw [fights] at valid
      exact .of_early ((valid.early rfl).attack order inRange scene.turn k) rfl
    · exact valid
  | hurt k n =>
    refine soldiers_valid valid ?_ orderly
    intro _
    rfl
  | heal k n refreshed =>
    refine soldiers_valid valid ?_ orderly
    intro _
    rfl
  | enter k info attackIndex => exact enter_valid valid info attackIndex orderly
  | insertBattleReport k =>
    have writes (objectInfo : ObjectInfo) : seen {objectInfo with battleReport:=objectInfo.battleReport++[scene.reportUniqueIndex]} =
        written id (fun reports => reports++[scene.reportUniqueIndex]) (seen objectInfo) := rfl
    exact insertBattleReport_valid valid writes
  | check checks =>
    rw [turnStep]
    split
    · rename_i fights
      rw [fights] at valid
      exact .of_late ((valid.early rfl).check (orderly fights)) rfl
    · exact valid
  | pass order =>
    rw [turnStep]
    split
    · rename_i checked
      rw [checked] at valid
      refine .of_late ((valid.late rfl).failing (order.nodup_visit scene.objectInfos.keys_nodup) ?_) rfl
      exact fun i inside => order.mem_visit.mpr (listed i inside)
    · rename_i passed
      rw [passed] at valid
      refine .of_late ((valid.late rfl).othering (order.nodup_visit scene.objectInfos.keys_nodup) ?_) rfl
      exact fun i inside => order.mem_visit.mpr (listed i inside)
    · exact valid
  | visit =>
    rw [turnStep]
    split
    · rename_i pass k rest visits
      rw [visits] at valid
      exact visit_valid (valid.late rfl)
    · exact valid
  | report sent =>
    rw [turnStep]
    split
    · rename_i pass k result rest reporting
      rw [reporting] at valid
      dsimp only
      rw [sight_leave]
      exact Valid.quiet (.of_late (valid.late rfl).reported rfl) _ _
    · exact valid
  | remove =>
    rw [turnStep]
    split
    · rename_i passed
      rw [passed] at valid
      exact remove_valid (valid.late rfl)
    · exact valid
  | exit k block => exact exit_valid valid orderly
  | send index sent => exact valid.quiet _ _

end turns

section reports
variable {objects : Objects} {log : Log} {scene : Scene} {k : Nat}

def Work.current : Work → List (Nat × BattleResult)
  | .reporting _ objectIndex result _ => [(objectIndex,result)]
  | _ => []

-- What has been reported or is on its way.
def sent (scene : Scene) (log : Log) : List (Nat × BattleResult) := log.reports++log.pending++scene.work.current

-- What those that left had been told off with.
def left (log : Log) : List (Nat × BattleResult) :=
  log.ends.flatMap (fun e => if e.leaves then e.results.map (Prod.mk e.objectIndex) else [])

-- Each report is that of an object that left, or of one that was told off and is to leave.
def Settled (scene : Scene) (log : Log) : Prop :=
  ∀ i result, (sent scene log).count (i,result) = (left log).count (i,result)+(log.told i).count result

-- Where nothing is reported, the same lists count.
theorem Settled.quiet (settled : Settled scene log) {after : Scene} (same : after.work.current = scene.work.current) : Settled after log := by
  intro i result
  rw [← settled i result,sent,sent,same]

end reports

abbrev InOrder : Scene × Log → TurnLabel → Prop := fun s => Orderly s.1 s.2

def opened (objectInfos : Objects) : Scene × Log := (⟨createBattle objectInfos,1,.idle,false,0⟩,⟨fun _ => [],fun _ => false,fun _ => false,[],[],[]⟩)

theorem Valid.inside {scene : Scene} {log : Log} (valid : Valid (sight scene.objectInfos) scene.work log) {i : Nat} (telling : log.told i ≠ []) :
    i ∈ scene.objectInfos := by
  have there : ∃ o, o ∈ sight scene.objectInfos i := by
    cases first : scene.work.early with
    | true =>
      obtain ⟨_,_,o,found,_⟩ := (valid.early first).told i telling
      exact ⟨o,found⟩
    | false =>
      obtain ⟨o,found,_⟩ := (valid.late first).known i telling
      exact ⟨o,found⟩
  obtain ⟨o,found⟩ := there
  obtain ⟨info,here,_⟩ := Option.map_eq_some_iff.mp found
  exact mem_of_found here

def play (labels : List TurnLabel) (s : Scene × Log) : Scene × Log := labels.foldl (fun s label => turnStep s.1 s.2 label) s

def everywhere : Checks := ⟨.stored,fun _ => .stored,fun _ _ => true,10⟩

-- The second loses its soldiers.
def fights : List TurnLabel := [.begin .stored,.attack .stored (fun _ _ => true),.attack .stored (fun _ _ => true),.hurt 2 0]

end OriginGame.BattleScene
