import OriginGame.BattleTurn

namespace OriginGame.BattleScene

def Seen.beaten (o : Seen) : Prop := o.exitBattleFlag = true ∧ o.exitBattleWin = .fail

-- What opposes an object is in the scene.
def Opponent (look : Nat → Option Seen) (objectIndex other : Nat) : Prop :=
  ∃ b ∈ look other, (∃ a ∈ look objectIndex, a.attackTargetIndex = other) ∨ b.tmpObjectFlag = false ∧ b.attackTargetIndex = objectIndex

-- All it fought are beaten.
def Outdone (look : Nat → Option Seen) (objectIndex : Nat) : Prop :=
  (∃ other, Opponent look objectIndex other) ∧ ∀ other, Opponent look objectIndex other → ∃ b ∈ look other, b.beaten

-- A pass of this turn will still come to an object that leaves with this result.
def Awaits : Work → Nat → BattleResult → Prop
  | .pass .fails rest,objectIndex,result | .reporting .fails _ _ rest,objectIndex,result => result = .fail → objectIndex ∈ rest
  | .pass .others rest,objectIndex,result | .reporting .others _ _ rest,objectIndex,result => result ≠ .fail ∧ objectIndex ∈ rest
  | .deleting,_,_ => False
  | _,_,_ => True

-- No pass of this turn will take it a second time.
def Past : Work → Nat → BattleResult → Prop
  | .pass .fails rest,objectIndex,result | .reporting .fails _ _ rest,objectIndex,result => result = .fail ∧ objectIndex ∉ rest
  | .pass .others rest,objectIndex,result | .reporting .others _ _ rest,objectIndex,result => result = .fail ∨ objectIndex ∉ rest
  | _,_,_ => False

def Work.rest : Work → List Nat
  | .pass _ rest | .reporting _ _ _ rest => rest
  | _ => []

def Work.early : Work → Bool
  | .idle | .fight _ => true
  | _ => false

-- Before the checks: who was told has been made to leave, with soldiers.
structure Early (look : Nat → Option Seen) (log : Log) : Prop where
  told : ∀ i, log.told i ≠ [] → log.told i = [.noResult] ∧ log.asked i = true ∧
    ∃ o ∈ look i, o.exitBattleFlag = true ∧ 2 ≤ o.exitBattleBlockBlag ∧ 0 < o.armyCount
  strong : ∀ i, ∀ o ∈ look i, 2 ≤ o.exitBattleBlockBlag → log.told i ≠ []
  leaving : ∀ i, ∀ o ∈ look i, o.exitBattleFlag = true → o.exitBattleWin ≠ .fail

structure Late (look : Nat → Option Seen) (work : Work) (log : Log) : Prop where
  distinct : work.rest.Nodup
  known : ∀ i, log.told i ≠ [] → ∃ o ∈ look i, o.exitBattleFlag = true
  once : ∀ i, (log.told i).length ≤ 1
  strong : ∀ i, ∀ o ∈ look i, 2 ≤ o.exitBattleBlockBlag → log.told i ≠ []
  awaits : ∀ i, ∀ o ∈ look i, o.exitBattleFlag = true → log.told i = [] → Awaits work i o.exitBattleWin
  again : ∀ i, ∀ o ∈ look i, log.told i ≠ [] → 2 ≤ o.exitBattleBlockBlag ∨ Past work i o.exitBattleWin
  fails : ∀ i, ∀ o ∈ look i, o.exitBattleFlag = true → o.armyCount ≤ 0 → o.exitBattleWin = .fail
  beaten : ∀ i, ∀ o ∈ look i, o.beaten → ∀ result ∈ log.told i, result = .fail
  lost : ∀ i, .fail ∈ log.told i → ∃ o ∈ look i, o.beaten
  unasked : ∀ i, ∀ o ∈ look i, log.told i ≠ [] → log.asked i = false → log.told i = [o.exitBattleWin]
  wins : ∀ i, ∀ o ∈ look i, ¬(o.beaten ∧ o.armyCount ≤ 0) → log.asked i = false → checkArmyWalkStatus o.status = false → Outdone look i →
    o.exitBattleFlag = true ∧ o.exitBattleWin = .win
  routed : ∀ i, log.routed i = true → ∃ o ∈ look i, o.beaten

def Valid (look : Nat → Option Seen) (work : Work) (log : Log) : Prop :=
  if work.early then Early look log else Late look work log

-- Who is asked to leave was not told off, except after its last visit, and will be. It has
-- soldiers where it is told off at once, and after the checks also was not beaten.
def Askable (scene : Scene) (log : Log) (objectIndex : Nat) (block : Bool) (o : Seen) : Prop :=
  (log.told objectIndex = [] ∧ (block = true ∨ Awaits scene.work objectIndex .noResult) ∨
    log.told objectIndex ≠ [] ∧ block = false ∧ Past scene.work objectIndex .noResult) ∧
  (block = true → 0 < o.armyCount) ∧ (scene.work.early = false → 0 < o.armyCount ∧ ¬o.beaten)

-- Who was told off, or leaves after the checks, keeps soldiers unless it was beaten; and
-- who was beaten does not rise again where it would have won.
def Keepable (scene : Scene) (log : Log) (objectIndex : Nat) (armyCount : Int) (o : Seen) : Prop :=
  (log.told objectIndex ≠ [] ∨ scene.work.early = false ∧ o.exitBattleFlag = true → ¬o.beaten → 0 < armyCount) ∧
  (scene.work.early = false → o.beaten → o.armyCount ≤ 0 → 0 < armyCount →
    log.asked objectIndex = true ∨ checkArmyWalkStatus o.status = true ∨ ¬Outdone (sight scene.objectInfos) objectIndex)

-- At the checks nobody without soldiers is out of time, and nobody whose opponents are
-- all beaten, nor leaves such a one without having won.
def Checkable (checks : Checks) (scene : Scene) (log : Log) (objectIndex : Nat) (o : ObjectInfo) : Prop :=
  (o.armyCount ≤ 0 → timedOut checks.outOfCombat scene.turn scene.objectInfos objectIndex o = false) ∧
  (0 < o.armyCount → log.asked objectIndex = false → checkArmyWalkStatus o.status = false → Outdone (sight (rout scene.objectInfos)) objectIndex →
    (o.exitBattleFlag = true → o.exitBattleWin = .win) ∧ timedOut checks.outOfCombat scene.turn scene.objectInfos objectIndex o = false)

def Orderly (scene : Scene) (log : Log) : TurnLabel → Prop
  | .exit objectIndex block => ∀ o ∈ sight scene.objectInfos objectIndex, Askable scene log objectIndex block o
  | .hurt objectIndex armyCount | .heal objectIndex armyCount _ => ∀ o ∈ sight scene.objectInfos objectIndex, Keepable scene log objectIndex armyCount o
  | .enter objectIndex objectInfo attackIndex => scene.work.early = false → objectIndex ∉ scene.objectInfos →
    ¬Outdone (sight (enterBattle scene.objectInfos objectIndex objectInfo attackIndex)) objectIndex
  | .check checks => scene.work = .fight [] → ∀ objectIndex, ∀ o ∈ scene.objectInfos.lookup objectIndex, Checkable checks scene log objectIndex o
  | .report sent | .send _ sent => sent = true
  | _ => True

section requests
variable {look after : Nat → Option Seen} {work : Work} {log : Log} {k : Nat} {count : Int → Int} {report : List Nat → List Nat}

theorem Outdone.before {i : Nat} (outdone : Outdone after i) (mine : ∀ a ∈ after i, ∃ o ∈ look i, o.attackTargetIndex = a.attackTargetIndex)
    (forth : ∀ j, ∀ o ∈ look j, ∃ p ∈ after j, p.attackTargetIndex = o.attackTargetIndex ∧ p.tmpObjectFlag = o.tmpObjectFlag ∧ (p.beaten → o.beaten))
    (back : ∀ j, ∀ p ∈ after j, p.beaten → ∃ o ∈ look j, o.attackTargetIndex = p.attackTargetIndex ∧ o.tmpObjectFlag = p.tmpObjectFlag) :
    Outdone look i := by
  obtain ⟨⟨other,opposes⟩,all⟩ := outdone
  constructor
  · obtain ⟨p,there,beaten⟩ := all other opposes
    obtain ⟨b,found,way⟩ := opposes
    cases Option.mem_unique there found
    obtain ⟨o,inside,target,tmp⟩ := back other p there beaten
    refine ⟨other,o,inside,?_⟩
    rcases way with ⟨a,here,its⟩ | ⟨lasting,its⟩
    · obtain ⟨b,seen,same⟩ := mine a here
      exact .inl ⟨b,seen,same.trans its⟩
    · exact .inr ⟨tmp.trans lasting,target.trans its⟩
  · rintro other ⟨b,found,way⟩
    obtain ⟨p,there,target,tmp,beaten⟩ := forth other b found
    have opposes : Opponent after i other := by
      refine ⟨p,there,?_⟩
      rcases way with ⟨a,here,its⟩ | ⟨lasting,its⟩
      · obtain ⟨q,seen,same,_⟩ := forth i a here
        exact .inl ⟨q,seen,same.trans its⟩
      · exact .inr ⟨tmp.trans lasting,target.trans its⟩
    obtain ⟨q,seen,down⟩ := all other opposes
    cases Option.mem_unique there seen
    exact ⟨b,found,beaten down⟩

-- One object changes, but for whom it attacks.
def altered (look : Nat → Option Seen) (k : Nat) (alters : Seen → Seen) : Nat → Option Seen :=
  Function.update look k ((look k).map alters)

theorem altered_from {alters : Seen → Seen} {i : Nat} {o : Seen} (found : o ∈ altered look k alters i) :
    ∃ before ∈ look i, (i = k ∧ o = alters before) ∨ i ≠ k ∧ o = before := by
  unfold altered at found
  by_cases here : i = k
  · subst here
    rw [Function.update_self] at found
    obtain ⟨before,there,rfl⟩ := Option.map_eq_some_iff.mp found
    exact ⟨before,there,.inl ⟨rfl,rfl⟩⟩
  · rw [Function.update_of_ne here] at found
    exact ⟨o,found,.inr ⟨here,rfl⟩⟩

theorem altered_here {alters : Seen → Seen} {o : Seen} (found : o ∈ altered look k alters k) : ∃ before ∈ look k, o = alters before := by
  obtain ⟨before,there,⟨_,same⟩ | ⟨other,_⟩⟩ := altered_from found
  · exact ⟨before,there,same⟩
  · exact absurd rfl other

theorem altered_self {alters : Seen → Seen} {before : Seen} (found : before ∈ look k) : alters before ∈ altered look k alters k := by
  rw [altered,Function.update_self,Option.mem_def.mp found]
  rfl

theorem altered_other {alters : Seen → Seen} {i : Nat} (other : i ≠ k) : altered look k alters i = look i :=
  Function.update_of_ne other _ _

theorem Outdone.unaltered {alters : Seen → Seen} {i : Nat} (outdone : Outdone (altered look k alters) i)
    (target : ∀ o, (alters o).attackTargetIndex = o.attackTargetIndex) (tmp : ∀ o, (alters o).tmpObjectFlag = o.tmpObjectFlag)
    (beaten : ∀ o ∈ look k, (alters o).beaten → o.beaten) : Outdone look i := by
  refine outdone.before ?_ ?_ ?_
  · intro a found
    obtain ⟨o,there,⟨_,rfl⟩ | ⟨_,rfl⟩⟩ := altered_from found
    · exact ⟨o,there,(target o).symm⟩
    · exact ⟨_,there,rfl⟩
  · intro j o found
    by_cases here : j = k
    · subst here
      exact ⟨_,altered_self found,target o,tmp o,beaten o found⟩
    · refine ⟨o,?_,rfl,rfl,id⟩
      rw [altered_other here]
      exact found
  · intro j p found _
    obtain ⟨o,there,⟨_,rfl⟩ | ⟨_,rfl⟩⟩ := altered_from found
    · exact ⟨o,there,(target o).symm,(tmp o).symm⟩
    · exact ⟨_,there,rfl,rfl⟩

-- Damage and healing write the soldiers, a report the list of reports.
def written (count : Int → Int) (report : List Nat → List Nat) (o : Seen) : Seen :=
  {o with armyCount:=count o.armyCount, battleReport:=report o.battleReport}

theorem Early.write (early : Early look log) (same : ∀ o ∈ look k, log.told k ≠ [] → ¬o.beaten → 0 < o.armyCount → 0 < count o.armyCount) :
    Early (altered look k (written count report)) log where
  told i telling := by
    obtain ⟨one,asked,o,found,leaves,marked,alive⟩ := early.told i telling
    refine ⟨one,asked,?_⟩
    by_cases here : i = k
    · subst here
      have standing : ¬o.beaten := fun beaten => early.leaving i o found leaves beaten.2
      exact ⟨_,altered_self found,leaves,marked,same o found telling standing alive⟩
    · refine ⟨o,?_,leaves,marked,alive⟩
      rw [altered_other here]
      exact found
  strong i o found marked := by
    obtain ⟨before,there,⟨_,rfl⟩ | ⟨_,rfl⟩⟩ := altered_from found
    · exact early.strong i before there marked
    · exact early.strong i o there marked
  leaving i o found leaves := by
    obtain ⟨before,there,⟨_,rfl⟩ | ⟨_,rfl⟩⟩ := altered_from found
    · exact early.leaving i before there leaves
    · exact early.leaving i o there leaves

-- What Late says of one object.
structure LateAt (look : Nat → Option Seen) (work : Work) (log : Log) (i : Nat) : Prop where
  known : log.told i ≠ [] → ∃ o ∈ look i, o.exitBattleFlag = true
  once : (log.told i).length ≤ 1
  strong : ∀ o ∈ look i, 2 ≤ o.exitBattleBlockBlag → log.told i ≠ []
  awaits : ∀ o ∈ look i, o.exitBattleFlag = true → log.told i = [] → Awaits work i o.exitBattleWin
  again : ∀ o ∈ look i, log.told i ≠ [] → 2 ≤ o.exitBattleBlockBlag ∨ Past work i o.exitBattleWin
  fails : ∀ o ∈ look i, o.exitBattleFlag = true → o.armyCount ≤ 0 → o.exitBattleWin = .fail
  beaten : ∀ o ∈ look i, o.beaten → ∀ result ∈ log.told i, result = .fail
  lost : .fail ∈ log.told i → ∃ o ∈ look i, o.beaten
  unasked : ∀ o ∈ look i, log.told i ≠ [] → log.asked i = false → log.told i = [o.exitBattleWin]
  wins : ∀ o ∈ look i, ¬(o.beaten ∧ o.armyCount ≤ 0) → log.asked i = false → checkArmyWalkStatus o.status = false → Outdone look i →
    o.exitBattleFlag = true ∧ o.exitBattleWin = .win
  routed : log.routed i = true → ∃ o ∈ look i, o.beaten

theorem Late.own (late : Late look work log) (i : Nat) : LateAt look work log i :=
  ⟨late.known i,late.once i,late.strong i,late.awaits i,late.again i,late.fails i,late.beaten i,late.lost i,late.unasked i,late.wins i,late.routed i⟩

theorem Late.of_own (distinct : work.rest.Nodup) (own : ∀ i, LateAt look work log i) : Late look work log :=
  ⟨distinct,fun i => (own i).known,fun i => (own i).once,fun i => (own i).strong,fun i => (own i).awaits,fun i => (own i).again,fun i => (own i).fails,
    fun i => (own i).beaten,fun i => (own i).lost,fun i => (own i).unasked,fun i => (own i).wins,fun i => (own i).routed⟩

-- An object that nothing happens to. What happens to the others may not leave it without an opponent.
theorem LateAt.kept {later : Work} {next : Log} {i : Nat} (own : LateAt look work log i) (seen : after i = look i) (told : next.told i = log.told i)
    (asked : next.asked i = log.asked i) (routed : next.routed i = log.routed i) (waits : ∀ result, Awaits work i result → Awaits later i result)
    (past : ∀ result, Past work i result → Past later i result) (outdone : ∀ o ∈ look i, Outdone after i → Outdone look i) : LateAt after later next i := by
  constructor
  case known => rw [seen,told]; exact own.known
  case once => rw [told]; exact own.once
  case strong => rw [seen,told]; exact own.strong
  case awaits => rw [seen,told]; exact fun o found leaves untold => waits _ (own.awaits o found leaves untold)
  case again => rw [seen,told]; exact fun o found telling => (own.again o found telling).imp_right (past _)
  case fails => rw [seen]; exact own.fails
  case beaten => rw [seen,told]; exact own.beaten
  case lost => rw [seen,told]; exact own.lost
  case unasked => rw [seen,told,asked]; exact own.unasked
  case wins => rw [seen,asked]; exact fun o found standing calm walks all => own.wins o found standing calm walks (outdone o found all)
  case routed => rw [seen,routed]; exact own.routed

theorem Late.write (late : Late look work log)
    (same : ∀ o ∈ look k, log.told k ≠ [] ∨ o.exitBattleFlag = true → ¬o.beaten → 0 < o.armyCount → 0 < count o.armyCount)
    (risen : ∀ o ∈ look k, o.beaten → o.armyCount ≤ 0 → 0 < count o.armyCount →
      log.asked k = true ∨ checkArmyWalkStatus o.status = true ∨ ¬Outdone look k) :
    Late (altered look k (written count report)) work log := by
  refine .of_own late.distinct (fun i => ?_)
  have own := late.own i
  have already (outdone : Outdone (altered look k (written count report)) i) : Outdone look i :=
    outdone.unaltered (fun _ => rfl) (fun _ => rfl) (fun _ _ down => down)
  by_cases here : i = k
  · subst here
    constructor
    case known =>
      intro telling
      obtain ⟨o,found,leaves⟩ := own.known telling
      exact ⟨_,altered_self found,leaves⟩
    case once => exact own.once
    case strong =>
      intro o found marked
      obtain ⟨before,there,rfl⟩ := altered_here found
      exact own.strong before there marked
    case awaits =>
      intro o found leaves untold
      obtain ⟨before,there,rfl⟩ := altered_here found
      exact own.awaits before there leaves untold
    case again =>
      intro o found telling
      obtain ⟨before,there,rfl⟩ := altered_here found
      exact own.again before there telling
    case fails =>
      intro o found leaves down
      obtain ⟨before,there,rfl⟩ := altered_here found
      by_cases beaten : before.beaten
      · exact beaten.2
      · have alive : 0 < before.armyCount := Int.not_le.mp (fun gone => beaten ⟨leaves,own.fails before there leaves gone⟩)
        have some := same before there (.inr leaves) beaten alive
        change count before.armyCount ≤ 0 at down
        omega
    case beaten =>
      intro o found beaten
      obtain ⟨before,there,rfl⟩ := altered_here found
      exact own.beaten before there beaten
    case lost =>
      intro mem
      obtain ⟨o,found,beaten⟩ := own.lost mem
      exact ⟨_,altered_self found,beaten⟩
    case unasked =>
      intro o found telling calm
      obtain ⟨before,there,rfl⟩ := altered_here found
      exact own.unasked before there telling calm
    case wins =>
      intro o found standing calm stays outdone
      obtain ⟨before,there,rfl⟩ := altered_here found
      by_cases lost : before.beaten ∧ before.armyCount ≤ 0
      · have some : 0 < count before.armyCount := Int.not_le.mp (fun down => standing ⟨lost.1,down⟩)
        rcases risen before there lost.1 lost.2 some with asked | walks | missed
        · rw [asked] at calm
          cases calm
        · change checkArmyWalkStatus before.status = false at stays
          rw [walks] at stays
          cases stays
        · exact absurd (already outdone) missed
      · exact own.wins before there lost calm stays (already outdone)
    case routed =>
      intro down
      obtain ⟨o,found,beaten⟩ := own.routed down
      exact ⟨_,altered_self found,beaten⟩
  · exact own.kept (altered_other here) rfl rfl rfl (fun _ waits => waits) (fun _ past => past) (fun _ _ => already)

-- An exit request; with `block` the object is told off at once.
def askedOut (block : Bool) (o : Seen) : Seen :=
  {o with exitBattleFlag:=true, exitBattleWin:=.noResult, exitBattleBlockBlag:=if block then 2 else 1}

def Log.ask (log : Log) (objectIndex : Nat) (block : Bool) : Log :=
  if block then
    {(log.tell objectIndex .noResult) with asked:=Function.update log.asked objectIndex true, pending:=log.pending++[(objectIndex,.noResult)]}
  else {log with asked:=Function.update log.asked objectIndex true}

theorem told_ask_self (untold : log.told k = []) (block : Bool) : (log.ask k block).told k = if block then [.noResult] else [] := by
  cases block with
  | false => exact untold
  | true =>
    change Function.update log.told k (log.told k++[.noResult]) k = _
    rw [Function.update_self,untold]
    rfl

theorem told_ask_ne {i : Nat} (other : i ≠ k) (block : Bool) : (log.ask k block).told i = log.told i := by
  cases block with
  | false => rfl
  | true => exact Function.update_of_ne other _ _

theorem asked_ask (log : Log) (k : Nat) (block : Bool) : (log.ask k block).asked = Function.update log.asked k true := by
  cases block <;> rfl

theorem asked_ask_ne {i : Nat} (other : i ≠ k) (block : Bool) : (log.ask k block).asked i = log.asked i := by
  rw [asked_ask,Function.update_of_ne other]

theorem asked_ask_self (block : Bool) : (log.ask k block).asked k = true := by
  rw [asked_ask,Function.update_self]

theorem routed_ask (log : Log) (k : Nat) (block : Bool) : (log.ask k block).routed = log.routed := by
  cases block <;> rfl

theorem Early.ask (early : Early look log) (untold : log.told k = []) (inside : (look k).isSome = true) {block : Bool}
    (alive : ∀ o ∈ look k, block = true → 0 < o.armyCount) : Early (altered look k (askedOut block)) (log.ask k block) where
  told i telling := by
    rw [asked_ask]
    by_cases here : i = k
    · subst here
      rw [told_ask_self untold] at telling ⊢
      rw [Function.update_self]
      cases block with
      | false => exact absurd rfl telling
      | true =>
        obtain ⟨o,found⟩ := Option.isSome_iff_exists.mp inside
        exact ⟨rfl,rfl,_,altered_self found,rfl,Nat.le_refl 2,alive o found rfl⟩
    · rw [told_ask_ne here] at telling ⊢
      rw [Function.update_of_ne here,altered_other here]
      exact early.told i telling
  strong i o found marked := by
    obtain ⟨before,there,⟨rfl,rfl⟩ | ⟨other,rfl⟩⟩ := altered_from found
    · rw [told_ask_self untold]
      cases block with
      | false => exact absurd marked (Nat.not_le.mpr (Nat.lt_succ_self 1))
      | true => exact List.cons_ne_nil _ _
    · rw [told_ask_ne other]
      exact early.strong i o there marked
  leaving i o found leaves := by
    obtain ⟨before,there,⟨rfl,rfl⟩ | ⟨other,rfl⟩⟩ := altered_from found
    · nofun
    · exact early.leaving i o there leaves

-- Who is asked to leave is no longer beaten in the eyes of the others.
theorem Outdone.unasked {block : Bool} {i : Nat} (outdone : Outdone (altered look k (askedOut block)) i) : Outdone look i := by
  refine outdone.unaltered (fun _ => rfl) (fun _ => rfl) ?_
  intro _ _ down
  cases down.2

-- A request of another object.
theorem Late.ask_other {i : Nat} (late : Late look work log) (other : i ≠ k) (block : Bool) : LateAt (altered look k (askedOut block)) work (log.ask k block) i :=
  (late.own i).kept (altered_other other) (told_ask_ne other block) (asked_ask_ne other block) (by rw [routed_ask])
    (fun _ waits => waits) (fun _ past => past) (fun _ _ outdone => outdone.unasked)

-- Whoever the request is of has soldiers and is not beaten, and calls itself asked.
theorem Late.ask_own {block : Bool} (late : Late look work log) (sound : ∀ o ∈ look k, 0 < o.armyCount ∧ ¬o.beaten) (once : ((log.ask k block).told k).length ≤ 1)
    (known : (log.ask k block).told k ≠ [] → (look k).isSome = true) (strong : block = true → (log.ask k block).told k ≠ [])
    (awaits : (log.ask k block).told k = [] → Awaits work k .noResult) (again : (log.ask k block).told k ≠ [] → block = true ∨ Past work k .noResult)
    (unbeaten : .fail ∉ (log.ask k block).told k) : LateAt (altered look k (askedOut block)) work (log.ask k block) k where
  known telling := by
    obtain ⟨o,found⟩ := Option.isSome_iff_exists.mp (known telling)
    exact ⟨_,altered_self found,rfl⟩
  once := once
  strong o found marked := by
    obtain ⟨before,there,rfl⟩ := altered_here found
    cases block with
    | false => exact absurd marked (Nat.not_le.mpr (Nat.lt_succ_self 1))
    | true => exact strong rfl
  awaits o found _ untold := by
    obtain ⟨before,there,rfl⟩ := altered_here found
    exact awaits untold
  again o found telling := by
    obtain ⟨before,there,rfl⟩ := altered_here found
    refine (again telling).imp_left (fun now => ?_)
    subst now
    exact Nat.le_refl 2
  fails o found _ down := by
    obtain ⟨before,there,rfl⟩ := altered_here found
    exact absurd (sound before there).1 (Int.not_lt.mpr down)
  beaten o found beaten := by
    obtain ⟨before,there,rfl⟩ := altered_here found
    cases beaten.2
  lost mem := absurd mem unbeaten
  unasked _ _ _ calm := by
    rw [asked_ask_self] at calm
    cases calm
  wins _ _ _ calm _ _ := by
    rw [asked_ask_self] at calm
    cases calm
  routed down := by
    obtain ⟨o,found,beaten⟩ := late.routed k (by rwa [routed_ask] at down)
    exact absurd beaten (sound o found).2

theorem Late.askNow (late : Late look work log) (untold : log.told k = []) (inside : (look k).isSome = true)
    (sound : ∀ o ∈ look k, 0 < o.armyCount ∧ ¬o.beaten) : Late (altered look k (askedOut true)) work (log.ask k true) := by
  have now : (log.ask k true).told k = [.noResult] := told_ask_self untold true
  refine .of_own late.distinct (fun i => ?_)
  by_cases here : i = k
  · subst here
    refine late.ask_own sound ?_ (fun _ => inside) (fun _ => ?_) (fun none => ?_) (fun _ => .inl rfl) ?_
    · rw [now]
      exact Nat.le_refl 1
    · rw [now]
      exact List.cons_ne_nil _ _
    · rw [now] at none
      cases none
    · rw [now]
      exact fun mem => nomatch List.mem_singleton.mp mem
  · exact late.ask_other here true

theorem Late.askLater (late : Late look work log)
    (reached : log.told k = [] ∧ Awaits work k .noResult ∨ log.told k ≠ [] ∧ Past work k .noResult)
    (sound : ∀ o ∈ look k, 0 < o.armyCount ∧ ¬o.beaten) : Late (altered look k (askedOut false)) work (log.ask k false) := by
  refine .of_own late.distinct (fun i => ?_)
  by_cases here : i = k
  · subst here
    refine late.ask_own sound (late.once i) (fun telling => ?_) nofun (fun none => ?_) (fun telling => ?_) (fun mem => ?_)
    · obtain ⟨o,found,_⟩ := late.known i telling
      exact Option.isSome_iff_exists.mpr ⟨o,found⟩
    · exact (reached.resolve_right (fun told => told.1 none)).2
    · exact .inr (reached.resolve_left (fun untold => telling untold.1)).2
    · obtain ⟨o,found,beaten⟩ := late.lost i mem
      exact (sound o found).2 beaten
  · exact late.ask_other here false

def entered (look : Nat → Option Seen) (k : Nat) (o : Seen) : Nat → Option Seen := Function.update look k (some o)

theorem sight_insert (objects : Objects) (k : Nat) (info : ObjectInfo) : sight (objects.insert k info) = entered (sight objects) k (seen info) := by
  funext i
  unfold sight entered
  by_cases here : i = k
  · subst here
    rw [AList.lookup_insert,Function.update_self]
    rfl
  · rw [AList.lookup_insert_ne here,Function.update_of_ne here]

theorem entered_from {new : Seen} {i : Nat} {o : Seen} (found : o ∈ entered look k new i) : i = k ∧ o = new ∨ i ≠ k ∧ o ∈ look i := by
  unfold entered at found
  by_cases here : i = k
  · subst here
    rw [Function.update_self] at found
    cases found
    exact .inl ⟨rfl,rfl⟩
  · rw [Function.update_of_ne here] at found
    exact .inr ⟨here,found⟩

theorem entered_other {new : Seen} (outside : look k = none) {i : Nat} {o : Seen} (found : o ∈ look i) : o ∈ entered look k new i := by
  have other : i ≠ k := by
    rintro rfl
    rw [outside] at found
    cases found
  rw [entered,Function.update_of_ne other]
  exact found

theorem Early.enter (early : Early look log) (outside : look k = none) {new : Seen} (stays : new.exitBattleFlag = false)
    (unmarked : new.exitBattleBlockBlag = 0) : Early (entered look k new) log where
  told i telling := by
    obtain ⟨one,asked,o,found,rest⟩ := early.told i telling
    exact ⟨one,asked,o,entered_other outside found,rest⟩
  strong i o found marked := by
    rcases entered_from found with ⟨rfl,rfl⟩ | ⟨_,there⟩
    · rw [unmarked] at marked
      cases marked
    · exact early.strong i o there marked
  leaving i o found leaves := by
    rcases entered_from found with ⟨rfl,rfl⟩ | ⟨_,there⟩
    · rw [stays] at leaves
      cases leaves
    · exact early.leaving i o there leaves

theorem Late.enter (late : Late look work log) (outside : look k = none) {new : Seen} (stays : new.exitBattleFlag = false)
    (unmarked : new.exitBattleBlockBlag = 0) (opposed : ¬Outdone (entered look k new) k) : Late (entered look k new) work log := by
  refine .of_own late.distinct (fun i => ?_)
  by_cases here : i = k
  · subst here
    have absent {o : Seen} (found : o ∈ look i) : False := by
      rw [outside] at found
      cases found
    have untold : log.told i = [] := by
      by_contra telling
      obtain ⟨o,inside,_⟩ := late.known i telling
      exact absent inside
    have leaving {o : Seen} (found : o ∈ entered look i new i) : o.exitBattleFlag = false ∧ o.exitBattleBlockBlag = 0 := by
      rcases entered_from found with ⟨_,rfl⟩ | ⟨other,_⟩
      · exact ⟨stays,unmarked⟩
      · exact absurd rfl other
    constructor
    case known => exact fun telling => absurd untold telling
    case once => exact late.once i
    case strong =>
      intro o found marked
      rw [(leaving found).2] at marked
      cases marked
    case awaits =>
      intro o found leaves _
      rw [(leaving found).1] at leaves
      cases leaves
    case again => exact fun o found telling => absurd untold telling
    case fails =>
      intro o found leaves _
      rw [(leaving found).1] at leaves
      cases leaves
    case beaten =>
      intro o found beaten
      cases beaten.1.symm.trans (leaving found).1
    case lost =>
      intro mem
      rw [untold] at mem
      cases mem
    case unasked => exact fun o found telling => absurd untold telling
    case wins => exact fun o found _ _ _ outdone => absurd outdone opposed
    case routed =>
      intro down
      obtain ⟨o,found,_⟩ := late.routed i down
      exact (absent found).elim
  · have same : entered look k new i = look i := Function.update_of_ne here _ _
    refine (late.own i).kept same rfl rfl rfl (fun _ waits => waits) (fun _ past => past) (fun o found outdone => outdone.before ?_ ?_ ?_)
    · intro a mine
      rw [same] at mine
      exact ⟨a,mine,rfl⟩
    · intro j p there
      exact ⟨p,entered_other outside there,rfl,rfl,id⟩
    · intro j p there down
      rcases entered_from there with ⟨rfl,rfl⟩ | ⟨_,before⟩
      · rw [down.1] at stays
        cases stays
      · exact ⟨p,before,rfl,rfl⟩

end requests

section passes
variable {look : Nat → Option Seen} {log : Log} {pass : Pass} {k : Nat} {rest : List Nat}

-- A pass leaves behind an object that it does not take or that was told off.
theorem Pass.picks_untaken {pass : Pass} {info : ObjectInfo} (untaken : pass.takes info = false) (leaves : info.exitBattleFlag = true) :
    pass.picks info.exitBattleWin = false := by
  unfold Pass.takes at untaken
  rw [leaves,Bool.true_and] at untaken
  exact untaken

theorem Late.skip (late : Late look (.pass pass (k::rest)) log)
    (done : ∀ o ∈ look k, o.exitBattleFlag = true → log.told k = [] → pass.picks o.exitBattleWin = false) : Late look (.pass pass rest) log where
  distinct := (List.nodup_cons.mp late.distinct).2
  known := late.known
  once := late.once
  strong := late.strong
  awaits i o found leaves untold := by
    have waited := late.awaits i o found leaves untold
    cases pass with
    | fails =>
      intro failed
      rcases List.mem_cons.mp (waited failed) with rfl | later
      · exact absurd failed (of_decide_eq_false (done o found leaves untold))
      · exact later
    | others =>
      refine ⟨waited.1,?_⟩
      rcases List.mem_cons.mp waited.2 with rfl | later
      · exact absurd waited.1 (of_decide_eq_false (done o found leaves untold))
      · exact later
  again i o found telling := by
    refine (late.again i o found telling).imp_right ?_
    cases pass with
    | fails => exact fun past => ⟨past.1,fun later => past.2 (List.mem_cons_of_mem _ later)⟩
    | others => exact fun past => past.imp_right (fun gone later => gone (List.mem_cons_of_mem _ later))
  fails := late.fails
  beaten := late.beaten
  lost := late.lost
  unasked := late.unasked
  wins := late.wins
  routed := late.routed

def marked (o : Seen) : Seen := {o with exitBattleBlockBlag:=if o.exitBattleBlockBlag = 1 then 2 else o.exitBattleBlockBlag}

-- What a pass takes has not been told off before.
theorem Late.untold (late : Late look (.pass pass (k::rest)) log) {o : Seen} (found : o ∈ look k) (unmarked : ¬2 ≤ o.exitBattleBlockBlag)
    (picked : pass.picks o.exitBattleWin = true) : log.told k = [] := by
  by_contra telling
  rcases late.again k o found telling with twice | past
  · exact unmarked twice
  · cases pass with
    | fails => exact past.2 List.mem_cons_self
    | others =>
      have other : o.exitBattleWin ≠ .fail := of_decide_eq_true picked
      exact past.elim other (fun gone => gone List.mem_cons_self)

theorem told_tell_self (untold : log.told k = []) (result : BattleResult) : (log.tell k result).told k = [result] := by
  change Function.update log.told k (log.told k++[result]) k = _
  rw [Function.update_self,untold]
  rfl

theorem told_tell_ne {i : Nat} (other : i ≠ k) (result : BattleResult) : (log.tell k result).told i = log.told i := Function.update_of_ne other _ _

theorem Late.tell (late : Late look (.pass pass (k::rest)) log) {o : Seen} (found : o ∈ look k) (leaves : o.exitBattleFlag = true)
    (unmarked : ¬2 ≤ o.exitBattleBlockBlag) (picked : pass.picks o.exitBattleWin = true) :
    Late (altered look k marked) (.reporting pass k o.exitBattleWin rest) (log.tell k o.exitBattleWin) := by
  have untold := late.untold found unmarked picked
  obtain ⟨fresh,distinct⟩ := List.nodup_cons.mp late.distinct
  have first := told_tell_self untold o.exitBattleWin
  refine .of_own distinct (fun i => ?_)
  have own := late.own i
  have already (outdone : Outdone (altered look k marked) i) : Outdone look i := outdone.unaltered (fun _ => rfl) (fun _ => rfl) (fun _ _ down => down)
  by_cases here : i = k
  · subst here
    have itself {p : Seen} (there : p ∈ altered look i marked i) : p = marked o := by
      obtain ⟨before,inside,rfl⟩ := altered_here there
      cases Option.mem_unique found inside
      rfl
    constructor
    case known => exact fun _ => ⟨_,altered_self found,leaves⟩
    case once =>
      rw [first]
      exact Nat.le_refl 1
    case strong =>
      intro p there _
      rw [first]
      exact List.cons_ne_nil _ _
    case awaits =>
      intro p there goes none
      rw [first] at none
      cases none
    case again =>
      intro p there telling
      rw [itself there]
      refine .inr ?_
      cases pass with
      | fails => exact ⟨of_decide_eq_true picked,fresh⟩
      | others => exact .inr fresh
    case fails =>
      intro p there goes down
      rw [itself there] at down ⊢
      exact own.fails o found leaves down
    case beaten =>
      intro p there beaten result mem
      rw [itself there] at beaten
      rw [first] at mem
      exact (List.mem_singleton.mp mem).trans beaten.2
    case lost =>
      intro mem
      rw [first] at mem
      exact ⟨_,altered_self found,leaves,(List.mem_singleton.mp mem).symm⟩
    case unasked =>
      intro p there telling calm
      rw [itself there]
      exact first
    case wins =>
      intro p there standing calm walks outdone
      rw [itself there] at standing walks ⊢
      exact own.wins o found standing calm walks (already outdone)
    case routed =>
      intro down
      obtain ⟨p,there,beaten⟩ := own.routed down
      exact ⟨_,altered_self there,beaten⟩
  · refine own.kept (altered_other here) (told_tell_ne here _) rfl rfl (fun result waited => ?_) (fun result past => ?_) (fun _ _ => already)
    · cases pass with
      | fails => exact fun failed => (List.mem_cons.mp (waited failed)).resolve_left here
      | others => exact ⟨waited.1,(List.mem_cons.mp waited.2).resolve_left here⟩
    · cases pass with
      | fails => exact ⟨past.1,fun later => past.2 (List.mem_cons_of_mem _ later)⟩
      | others => exact past.imp_right (fun gone later => gone (List.mem_cons_of_mem _ later))

-- The pass goes on when the report is sent.
theorem Late.reported {result : BattleResult} (late : Late look (.reporting pass k result rest) log) : Late look (.pass pass rest) log := by
  obtain ⟨distinct,known,once,strong,awaits,again,fails,beaten,lost,unasked,wins,routed⟩ := late
  cases pass with
  | fails => exact ⟨distinct,known,once,strong,awaits,again,fails,beaten,lost,unasked,wins,routed⟩
  | others => exact ⟨distinct,known,once,strong,awaits,again,fails,beaten,lost,unasked,wins,routed⟩

-- The first pass comes to everyone.
theorem Late.failing (late : Late look .checked log) (distinct : rest.Nodup) (all : ∀ i, (look i).isSome = true → i ∈ rest) :
    Late look (.pass .fails rest) log :=
  {late with
    distinct
    awaits := fun i o found _ _ _ => all i (Option.isSome_iff_exists.mpr ⟨o,found⟩)
    again := fun i o found telling => .inl ((late.again i o found telling).resolve_right id)}

-- Who is still there has not been beaten, or was told off.
theorem Late.othering (late : Late look (.pass .fails []) log) (distinct : rest.Nodup) (all : ∀ i, (look i).isSome = true → i ∈ rest) :
    Late look (.pass .others rest) log :=
  {late with
    distinct
    awaits := fun i o found leaves untold => by
      have waited := late.awaits i o found leaves untold
      exact ⟨fun failed => List.not_mem_nil (waited failed),all i (Option.isSome_iff_exists.mpr ⟨o,found⟩)⟩
    again := fun i o found telling => (late.again i o found telling).imp_right (fun past => .inl past.1)}

end passes

end OriginGame.BattleScene
