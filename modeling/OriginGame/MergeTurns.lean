import OriginGame.BattleMerge

namespace OriginGame.BattleScene

-- What an object keeps as long as it is not told off.
def footing (o : Seen) : Nat × List Nat := (o.exitBattleBlockBlag,o.battleReport)

-- What one step of a turn may do: everybody stays as it is, but for who leaves; one gets a
-- report, is told off, is asked to leave or comes in; or those that leave are removed.
inductive Does (w : World) (scene after : Scene) (log : Log) : Prop where
  | keeps (feet : ∀ i, (sight after.objectInfos i).map footing = (sight scene.objectInfos i).map footing)
      (numbers : after.reportUniqueIndex = scene.reportUniqueIndex) (told : log.told = w.log.told) (ends : log.ends = w.log.ends)
      (awaits : ∀ i, ∀ o ∈ sight after.objectInfos i, o.exitBattleFlag = true → ¬2 ≤ o.exitBattleBlockBlag →
        Awaits after.work i o.exitBattleWin ∨
          ∃ p ∈ sight scene.objectInfos i, p.exitBattleFlag = true ∧ (Awaits scene.work i p.exitBattleWin → Awaits after.work i o.exitBattleWin))
  | writes (k : Nat) (one : sight after.objectInfos = altered (sight scene.objectInfos) k (written id (fun reports => reports++[scene.reportUniqueIndex])))
      (numbers : after.reportUniqueIndex = scene.reportUniqueIndex+1) (work : after.work = scene.work) (quiet : log = w.log)
  | tells (k : Nat) (result : BattleResult) (alters : Seen → Seen) (there : k ∈ scene.objectInfos)
      (one : sight after.objectInfos = altered (sight scene.objectInfos) k alters) (reports : ∀ o, (alters o).battleReport = o.battleReport)
      (numbers : after.reportUniqueIndex = scene.reportUniqueIndex) (told : log.told = Function.update w.log.told k (w.log.told k++[result]))
      (ends : log.ends = w.log.ends) (awaits : ∀ i result, i ≠ k → Awaits scene.work i result → Awaits after.work i result)
  | asks (k : Nat) (there : k ∈ scene.objectInfos) (one : sight after.objectInfos = altered (sight scene.objectInfos) k (askedOut false))
      (numbers : after.reportUniqueIndex = scene.reportUniqueIndex) (work : after.work = scene.work) (told : log.told = w.log.told) (ends : log.ends = w.log.ends)
      (timely : w.log.told k ≠ [] ∨ Awaits scene.work k .noResult)
  | enters (k : Nat) (new : Seen) (outside : k ∉ scene.objectInfos) (one : sight after.objectInfos = entered (sight scene.objectInfos) k new)
      (stays : new.exitBattleFlag = false) (unmarked : new.exitBattleBlockBlag = 0) (reports : new.battleReport = [])
      (numbers : after.reportUniqueIndex = scene.reportUniqueIndex) (work : after.work = scene.work) (quiet : log = w.log) (timely : places w k = 0)
  | removes (passed : scene.work = .pass .others []) (left : after = (remove scene w.log).1) (cleared : log = (remove scene w.log).2)

section turns
variable {objects : Objects} {look : Nat → Option Seen} {w : World} {scene after : Scene} {log : Log} {k : Nat} {order : Order Nat}

theorem Does.still (same : sight after.objectInfos = sight scene.objectInfos)
    (numbers : after.reportUniqueIndex = scene.reportUniqueIndex) (told : log.told = w.log.told) (ends : log.ends = w.log.ends)
    (awaits : ∀ i, ∀ o ∈ sight scene.objectInfos i, o.exitBattleFlag = true → ¬2 ≤ o.exitBattleBlockBlag →
      Awaits scene.work i o.exitBattleWin → Awaits after.work i o.exitBattleWin) : Does w scene after log := by
  refine .keeps (fun i => by rw [same]) numbers told ends ?_
  intro i o found leaves unmarked
  rw [same] at found
  exact .inr ⟨o,found,leaves,awaits i o found leaves unmarked⟩

theorem Does.same : Does w scene scene w.log := .still rfl rfl rfl rfl (fun _ _ _ _ _ waited => waited)

theorem Marks.footing {a b : Seen} (marks : Marks a b) : footing b = footing a := by
  rw [marks.1]
  rfl

theorem isSome_sight {i : Nat} : (sight objects i).isSome = true ↔ i ∈ objects := by
  rw [sight,Option.isSome_map]
  exact AList.lookup_isSome

-- Who leaves, was not told off and is not picked is left behind.
theorem Awaits.skip {pass : Pass} {rest : List Nat} {i : Nat} {result : BattleResult} (waited : Awaits (.pass pass (k::rest)) i result)
    (other : i = k → pass.picks result = false) : Awaits (.pass pass rest) i result := by
  cases pass with
  | fails =>
    intro failed
    rcases List.mem_cons.mp (waited failed) with here | later
    · exact absurd failed (of_decide_eq_false (other here))
    · exact later
  | others =>
    refine ⟨waited.1,?_⟩
    rcases List.mem_cons.mp waited.2 with here | later
    · exact absurd waited.1 (of_decide_eq_false (other here))
    · exact later

theorem isSome_altered {alters : Seen → Seen} (i : Nat) : (altered look k alters i).isSome = (look i).isSome := by
  unfold altered
  by_cases here : i = k
  · subst here
    rw [Function.update_self,Option.isSome_map]
  · rw [Function.update_of_ne here]

theorem rest_remove (scene : Scene) (log : Log) :
    (remove scene log).1.objectInfos = scene.objectInfos.keepValues (fun objectInfo => !objectInfo.exitBattleFlag) := by
  unfold remove
  dsimp only
  split <;> rfl

theorem stays_remove (log : Log) {i : Nat} (there : i ∈ scene.objectInfos) : i ∈ (remove scene log).1.objectInfos ∨ leaves scene.objectInfos i = true := by
  cases goes : leaves scene.objectInfos i with
  | true => exact .inr rfl
  | false =>
    refine .inl (isSome_sight.mp ?_)
    obtain ⟨o,found⟩ := Option.isSome_iff_exists.mp (isSome_sight.mpr there)
    have remains : o.exitBattleFlag = false := by
      by_contra flagged
      have left := leaves_iff.mpr ⟨o,found,Bool.not_eq_false _ |>.mp flagged⟩
      rw [goes] at left
      cases left
    rw [rest_remove,sight_rest,found,Option.filter_some,remains]
    rfl

-- Everybody stays, except at the end of a turn.
theorem Does.ending (does : Does w scene after log) : (log.ends = w.log.ends ∧ ∀ i ∈ scene.objectInfos, i ∈ after.objectInfos) ∨
    scene.work = .pass .others [] ∧ after = (remove scene w.log).1 ∧ log = (remove scene w.log).2 := by
  have stays (same : ∀ i, (sight after.objectInfos i).isSome = (sight scene.objectInfos i).isSome) : ∀ i ∈ scene.objectInfos, i ∈ after.objectInfos := by
    intro i there
    rw [← isSome_sight,same,isSome_sight]
    exact there
  cases does with
  | keeps feet _ _ ends _ =>
    refine .inl ⟨ends,stays (fun i => ?_)⟩
    rw [← Option.isSome_map,feet,Option.isSome_map]
  | writes k one _ _ quiet =>
    refine .inl ⟨by rw [quiet],stays (fun i => ?_)⟩
    rw [one,isSome_altered]
  | tells k result alters _ one _ _ _ ends _ =>
    refine .inl ⟨ends,stays (fun i => ?_)⟩
    rw [one,isSome_altered]
  | asks k _ one _ _ _ ends _ =>
    refine .inl ⟨ends,stays (fun i => ?_)⟩
    rw [one,isSome_altered]
  | enters k new outside one _ _ _ _ _ quiet _ =>
    refine .inl ⟨by rw [quiet],fun i there => isSome_sight.mp ?_⟩
    have other : i ≠ k := by
      rintro rfl
      exact outside there
    rw [one,entered,Function.update_of_ne other]
    exact isSome_sight.mpr there
  | removes passed left cleared => exact .inr ⟨passed,left,cleared⟩

-- Who is there was there, or was in no battle.
theorem Does.from (does : Does w scene after log) {i : Nat} (there : i ∈ after.objectInfos) : i ∈ scene.objectInfos ∨ places w i = 0 := by
  have now : (sight after.objectInfos i).isSome = true := isSome_sight.mpr there
  cases does with
  | keeps feet _ _ _ _ =>
    rw [← Option.isSome_map,feet,Option.isSome_map] at now
    exact .inl (isSome_sight.mp now)
  | writes k one _ _ _ =>
    rw [one,isSome_altered] at now
    exact .inl (isSome_sight.mp now)
  | tells k result alters _ one _ _ _ _ _ =>
    rw [one,isSome_altered] at now
    exact .inl (isSome_sight.mp now)
  | asks k _ one _ _ _ _ _ =>
    rw [one,isSome_altered] at now
    exact .inl (isSome_sight.mp now)
  | enters k new _ one _ _ _ _ _ _ timely =>
    rw [one,entered] at now
    by_cases here : i = k
    · subst here
      exact .inr timely
    · rw [Function.update_of_ne here] at now
      exact .inl (isSome_sight.mp now)
  | removes _ left _ =>
    rw [left,rest_remove] at now
    obtain ⟨o,found⟩ := Option.isSome_iff_exists.mp now
    exact .inl (isSome_sight.mp (Option.isSome_iff_exists.mpr ⟨o,(rest_from found).1⟩))

-- Who is to leave was told off or will be visited.
structure Covered (look : Nat → Option Seen) (work : Work) (told : Nat → List BattleResult) : Prop where
  awaits : ∀ i, ∀ o ∈ look i, o.exitBattleFlag = true → told i = [] → Awaits work i o.exitBattleWin
  strong : ∀ i, ∀ o ∈ look i, 2 ≤ o.exitBattleBlockBlag → told i ≠ []

theorem Covered.congr {work : Work} {told other : Nat → List BattleResult} (covered : Covered look work told)
    (same : ∀ i, (look i).isSome = true → other i = told i) : Covered look work other where
  awaits i o found leaves untold := by
    rw [same i (Option.isSome_iff_exists.mpr ⟨o,found⟩)] at untold
    exact covered.awaits i o found leaves untold
  strong i o found marked := by
    rw [same i (Option.isSome_iff_exists.mpr ⟨o,found⟩)]
    exact covered.strong i o found marked

theorem footing_from {look after : Nat → Option Seen} (feet : ∀ i, (after i).map footing = (look i).map footing) {i : Nat} {o : Seen} (found : o ∈ after i) :
    ∃ p ∈ look i, p.exitBattleBlockBlag = o.exitBattleBlockBlag := by
  have same := feet i
  rw [Option.mem_def.mp found,Option.map_some] at same
  obtain ⟨p,there,equal⟩ := Option.map_eq_some_iff.mp same.symm
  exact ⟨p,there,congrArg Prod.fst equal⟩

theorem Does.covered (does : Does w scene after log) (covered : Covered (sight scene.objectInfos) scene.work w.log.told) :
    Covered (sight after.objectInfos) after.work log.told := by
  cases does with
  | keeps feet _ told _ awaits =>
    rw [told]
    refine ⟨?_,?_⟩
    · intro i o found leaves untold
      obtain ⟨p,there,same⟩ := footing_from feet found
      have unmarked : ¬2 ≤ o.exitBattleBlockBlag := by
        intro marked
        rw [← same] at marked
        exact covered.strong i p there marked untold
      rcases awaits i o found leaves unmarked with waits | ⟨q,before,left,moves⟩
      · exact waits
      · exact moves (covered.awaits i q before left untold)
    · intro i o found marked
      obtain ⟨p,there,same⟩ := footing_from feet found
      rw [← same] at marked
      exact covered.strong i p there marked
  | writes k one _ work quiet =>
    rw [one,work,quiet]
    refine ⟨?_,?_⟩
    · intro i o found leaves untold
      obtain ⟨before,there,⟨_,rfl⟩ | ⟨_,rfl⟩⟩ := altered_from found
      · exact covered.awaits i before there leaves untold
      · exact covered.awaits i o there leaves untold
    · intro i o found marked
      obtain ⟨before,there,⟨_,rfl⟩ | ⟨_,rfl⟩⟩ := altered_from found
      · exact covered.strong i before there marked
      · exact covered.strong i o there marked
  | tells k result alters _ one _ _ told _ awaits =>
    rw [one,told]
    have telling : Function.update w.log.told k (w.log.told k++[result]) k ≠ [] := by
      rw [Function.update_self]
      exact List.append_ne_nil_of_right_ne_nil _ (List.cons_ne_nil _ _)
    refine ⟨?_,?_⟩
    · intro i o found leaves untold
      obtain ⟨before,there,⟨rfl,_⟩ | ⟨other,rfl⟩⟩ := altered_from found
      · exact absurd untold telling
      · rw [Function.update_of_ne other] at untold
        exact awaits i _ other (covered.awaits i o there leaves untold)
    · intro i o found marked
      obtain ⟨before,there,⟨rfl,_⟩ | ⟨other,rfl⟩⟩ := altered_from found
      · exact telling
      · rw [Function.update_of_ne other]
        exact covered.strong i o there marked
  | asks k _ one _ work told _ timely =>
    rw [one,work,told]
    refine ⟨?_,?_⟩
    · intro i o found leaves untold
      obtain ⟨before,there,⟨rfl,rfl⟩ | ⟨_,rfl⟩⟩ := altered_from found
      · exact timely.resolve_left (not_not_intro untold)
      · exact covered.awaits i o there leaves untold
    · intro i o found marked
      obtain ⟨before,there,⟨rfl,rfl⟩ | ⟨_,rfl⟩⟩ := altered_from found
      · exact absurd marked (Nat.not_le.mpr (Nat.lt_succ_self 1))
      · exact covered.strong i o there marked
  | enters k new _ one stays unmarked _ _ work quiet _ =>
    rw [one,work,quiet]
    refine ⟨?_,?_⟩
    · intro i o found leaves untold
      rcases entered_from found with ⟨rfl,rfl⟩ | ⟨_,there⟩
      · rw [stays] at leaves
        cases leaves
      · exact covered.awaits i o there leaves untold
    · intro i o found marked
      rcases entered_from found with ⟨rfl,rfl⟩ | ⟨_,there⟩
      · rw [unmarked] at marked
        cases marked
      · exact covered.strong i o there marked
  | removes _ left cleared =>
    rw [left,cleared,rest_remove]
    refine ⟨?_,?_⟩
    · intro i o found leaves _
      rw [(rest_from found).2] at leaves
      cases leaves
    · intro i o found marked
      obtain ⟨there,remains⟩ := rest_from found
      have stays : ¬leaves scene.objectInfos i = true := by
        intro goes
        obtain ⟨p,here,left⟩ := leaves_iff.mp goes
        cases Option.mem_unique here there
        rw [remains] at left
        cases left
      change (if leaves scene.objectInfos i then [] else w.log.told i) ≠ []
      rw [if_neg stays]
      exact covered.strong i o there marked

theorem reportsOf_footing (objects : Objects) (i : Nat) : reportsOf objects i = ((sight objects i).map footing).elim [] Prod.snd := by
  rw [sight,Option.map_map]
  unfold reportsOf
  cases objects.lookup i <;> rfl

theorem reportsOf_seen {i : Nat} {o : Seen} (found : o ∈ sight objects i) : reportsOf objects i = o.battleReport := by
  rw [reportsOf_footing,Option.mem_def.mp found]
  rfl

-- Reports stay or go.
theorem Numbered.part {others : Objects} {next : Nat} (numbered : Numbered objects next) (part : ∀ i, reportsOf others i = reportsOf objects i ∨ reportsOf others i = []) :
    Numbered others next := by
  have old {i report : Nat} (mem : report ∈ reportsOf others i) : report ∈ reportsOf objects i := by
    rcases part i with same | none
    · rwa [same] at mem
    · rw [none] at mem
      cases mem
  refine ⟨?_,?_,?_⟩
  · intro i
    rcases part i with same | none
    · rw [same]
      exact numbered.nodup i
    · rw [none]
      exact List.nodup_nil
  · exact fun i j report here there => numbered.apart i j report (old here) (old there)
  · exact fun i report mem => numbered.below i report (old mem)

-- The next number is new.
theorem Numbered.write {others : Objects} {next : Nat} (numbered : Numbered objects next) (one : sight others = altered (sight objects) k (written id (fun reports => reports++[next]))) :
    Numbered others (next+1) := by
  have from' {i report : Nat} (mem : report ∈ reportsOf others i) : report ∈ reportsOf objects i ∨ i = k ∧ report = next := by
    cases found : sight others i with
    | none =>
      rw [reportsOf_footing,found] at mem
      cases mem
    | some o =>
      rw [reportsOf_seen found] at mem
      rw [one] at found
      obtain ⟨before,there,⟨same,rfl⟩ | ⟨_,rfl⟩⟩ := altered_from found
      · rw [reportsOf_seen there]
        exact (List.mem_append.mp mem).imp_right (fun last => ⟨same,List.mem_singleton.mp last⟩)
      · rw [reportsOf_seen there]
        exact .inl mem
  refine ⟨?_,?_,?_⟩
  · intro i
    cases found : sight others i with
    | none =>
      rw [reportsOf_footing,found]
      exact List.nodup_nil
    | some o =>
      rw [reportsOf_seen found]
      rw [one] at found
      obtain ⟨before,there,⟨_,rfl⟩ | ⟨_,rfl⟩⟩ := altered_from found
      · have distinct := numbered.nodup i
        have below := numbered.below i
        rw [reportsOf_seen there] at distinct below
        refine List.nodup_append.mpr ⟨distinct,List.nodup_singleton _,?_⟩
        intro report mem last again
        rw [List.mem_singleton.mp again]
        exact Nat.ne_of_lt (below report mem)
      · rw [← reportsOf_seen there]
        exact numbered.nodup i
  · intro i j report here there
    rcases from' here with old | ⟨mine,rfl⟩
    · rcases from' there with other | ⟨_,rfl⟩
      · exact numbered.apart i j report old other
      · exact absurd (numbered.below i _ old) (Nat.lt_irrefl _)
    · rcases from' there with other | ⟨its,_⟩
      · exact absurd (numbered.below j _ other) (Nat.lt_irrefl _)
      · exact mine.trans its.symm
  · intro i report mem
    rcases from' mem with old | ⟨_,rfl⟩
    · exact Nat.lt_succ_of_lt (numbered.below i report old)
    · exact Nat.lt_succ_self _

theorem reportsOf_altered {others : Objects} {alters : Seen → Seen} (one : sight others = altered (sight objects) k alters)
    (same : ∀ o, (alters o).battleReport = o.battleReport) (i : Nat) : reportsOf others i = reportsOf objects i := by
  rw [reportsOf_footing,reportsOf_footing,one]
  unfold altered
  by_cases here : i = k
  · subst here
    rw [Function.update_self]
    cases sight objects i with
    | none => rfl
    | some o => exact same o
  · rw [Function.update_of_ne here]

theorem Does.numbered (does : Does w scene after log) (numbered : Numbered scene.objectInfos scene.reportUniqueIndex) :
    Numbered after.objectInfos after.reportUniqueIndex := by
  cases does with
  | keeps feet numbers _ _ _ =>
    rw [numbers]
    refine numbered.part (fun i => .inl ?_)
    rw [reportsOf_footing,reportsOf_footing,feet]
  | writes k one numbers _ _ =>
    rw [numbers]
    exact numbered.write one
  | tells k result alters _ one reports numbers _ _ _ =>
    rw [numbers]
    exact numbered.part (fun i => .inl (reportsOf_altered one reports i))
  | asks k _ one numbers _ _ _ _ =>
    rw [numbers]
    exact numbered.part (fun i => .inl (reportsOf_altered one (fun _ => rfl) i))
  | enters k new outside one _ _ reports numbers _ _ _ =>
    rw [numbers]
    refine numbered.part (fun i => ?_)
    by_cases here : i = k
    · subst here
      have found : new ∈ sight after.objectInfos i := by
        rw [one,entered,Function.update_self]
        rfl
      rw [reportsOf_seen found]
      exact .inr reports
    · rw [reportsOf_footing,one,entered,Function.update_of_ne here,← reportsOf_footing]
      exact .inl rfl
  | removes _ left _ =>
    have numbers : (remove scene w.log).1.reportUniqueIndex = scene.reportUniqueIndex := by
      unfold remove
      dsimp only
      split <;> rfl
    rw [left,numbers]
    refine numbered.part (fun i => ?_)
    rw [rest_remove,reportsOf_footing,sight_rest,reportsOf_footing]
    cases sight scene.objectInfos i with
    | none => exact .inl rfl
    | some o =>
      rw [Option.filter_some]
      split
      · exact .inl rfl
      · exact .inr rfl

theorem mem_ended {i : Nat} (goes : leaves objects i = true) (log : Log) : ∃ e ∈ ended objects log, e.objectIndex = i ∧ e.leaves = true := by
  obtain ⟨o,found,flagged⟩ := leaves_iff.mp goes
  obtain ⟨info,there,rfl⟩ := Option.map_eq_some_iff.mp found
  exact ⟨_,List.mem_map.mpr ⟨_,AList.mem_lookup_iff.mp there,rfl⟩,rfl,flagged⟩

-- Who is gone has ended, with what it had been told.
theorem Does.ended (does : Does w scene after log) (covered : Covered (sight scene.objectInfos) scene.work w.log.told) : ∃ more, log.ends = w.log.ends++more ∧
    (∀ i ∈ scene.objectInfos, i ∉ after.objectInfos → ∃ e ∈ more, e.objectIndex = i ∧ e.leaves = true) ∧
    ∀ e ∈ more, e.leaves = true → e.results ≠ [] ∧ e.results = w.log.told e.objectIndex := by
  rcases does.ending with ⟨same,stays⟩ | ⟨passed,left,cleared⟩
  · exact ⟨[],by rw [same,List.append_nil],fun i there gone => absurd (stays i there) gone,nofun⟩
  · refine ⟨BattleScene.ended scene.objectInfos w.log,by rw [cleared]; rfl,?_,?_⟩
    · intro i there gone
      rw [left] at gone
      exact mem_ended ((stays_remove w.log there).resolve_left gone) w.log
    · intro e mem leaves
      obtain ⟨⟨j,info⟩,entry,rfl⟩ := List.mem_map.mp mem
      refine ⟨?_,rfl⟩
      intro untold
      have waited := covered.awaits j _ (sight_of_lookup (AList.mem_lookup_iff.mpr entry)) leaves untold
      rw [passed] at waited
      exact List.not_mem_nil waited.2

-- What was reported or is on its way stays so, and what an object is told is on its way.
-- Results are not lost on their way, and those told off are on it.
def Keeps (scene after : Scene) (log next : Log) : Prop :=
  (∀ p ∈ sent scene log, p ∈ sent after next) ∧
  (∀ i, ∀ result ∈ next.told i, result ∈ log.told i ∨ (i,result) ∈ sent after next) ∧
  ∀ p ∈ after.work.current, p ∈ scene.work.current ∨ p.1 ∈ scene.objectInfos

theorem Keeps.quiet (same : after.work.current = scene.work.current) : Keeps scene after log log := by
  unfold Keeps sent
  rw [same]
  exact ⟨fun _ mem => mem,fun _ _ mem => .inl mem,fun _ mem => .inl mem⟩

end turns

end OriginGame.BattleScene
