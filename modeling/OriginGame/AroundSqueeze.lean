import OriginGame.AroundSlots
import OriginGame.LuaRows

namespace OriginGame.AttackAroundPosMgr
open LuaArray

section states
variable {maxPos : Nat}

def Rows (info : AroundPosInfo) : Prop := ∀ pos, ∃ xs, Row (cells info pos) xs

def Legal (maxPos : Nat) (info : AroundPosInfo) : Prop := ∀ pos ∈ info, 1 ≤ pos ∧ pos ≤ maxPos

-- The slots of a target: lists without holes, in legal places.
structure Seats (maxPos : Nat) where
  info : AroundPosInfo
  rows : Rows info
  legal : Legal maxPos info

-- `pairs` over a list that loses entries on the way comes to the places from 1 on, as long
-- as they hold something.
def walked (w : Answers) (info : AroundPosInfo) : Answers := {w with visited:=fun pos => List.range' 1 (cells info pos).keys.length}

-- Every request that an attacker moves succeeds.
def AllMove (w : Answers) (objectInfo : ObjectInfo) : Prop := ∀ attackIndex aroundPos, updateAroundPos w objectInfo attackIndex aroundPos = true

theorem rows_insert {info : AroundPosInfo} (rows : Rows info) (row : Row attackers xs) (pos : Nat) : Rows (info.insert pos attackers) := by
  intro j
  by_cases same : j = pos
  · subst same
    rw [cells_insert_self]
    exact ⟨xs,row⟩
  · rw [cells_insert_ne _ same]
    exact rows j

theorem legal_insert {info : AroundPosInfo} (legal : Legal maxPos info) (inside : 1 ≤ pos ∧ pos ≤ maxPos) (attackers : LuaArray Nat) :
    Legal maxPos (info.insert pos attackers) := by
  intro j there
  rcases (AList.mem_insert _).mp there with rfl | older
  · exact inside
  · exact legal j older

theorem cells_lookup {info : AroundPosInfo} (there : (cells info pos).lookup k = some v) : ∃ attackers, info.lookup pos = some attackers := by
  unfold cells at there
  cases found : info.lookup pos with
  | none =>
    rw [found,Option.getD_none,AList.lookup_empty] at there
    cases there
  | some attackers => exact ⟨attackers,rfl⟩

-- One that stands at a position is taken from it, and the list stays one without holes.
theorem removeAt_row (w : Answers) (maxPos : Nat) {info : AroundPosInfo} (rows : Rows info) (there : (cells info pos).lookup k = some v) :
    ∃ after, removeAt w info pos v = some after ∧ Rows after ∧ (Legal maxPos info → Legal maxPos after) ∧
      (∀ j, j ≠ pos → after.lookup j = info.lookup j) ∧
      ∃ xs i, Row (cells info pos) xs ∧ i < xs.length ∧ Row (cells after pos) (xs.eraseIdx i) := by
  obtain ⟨attackers,found⟩ := cells_lookup there
  obtain ⟨xs,row⟩ := rows pos
  have held := there
  rw [cells_some found] at held row
  obtain ⟨u,i,removed,inside,left⟩ := row.removevalue w.order w.size held
  refine ⟨info.insert pos u,?_,rows_insert rows left pos,?_,?_,xs,i,?_,inside,?_⟩
  · unfold removeAt
    rw [found]
    dsimp only
    rw [removed,Option.map_some]
  · intro legal
    exact legal_insert legal (legal pos (Table.mem_of_lookup found)) u
  · intro j other
    exact AList.lookup_insert_ne other
  · rw [cells_some found]
    exact row
  · rw [cells_insert_self]
    exact left

theorem rows_insertAt {info : AroundPosInfo} (w : Answers) (rows : Rows info) (pos a : Nat) : Rows (insertAt w info pos a) := by
  obtain ⟨xs,row⟩ := rows pos
  exact rows_insert rows (row.insert w.size a) pos

theorem cells_insertAt_ne (w : Answers) (info : AroundPosInfo) (a : Nat) (other : j ≠ pos) : cells (insertAt w info pos a) j = cells info j :=
  cells_insert_ne _ other

end states

section passes
variable {w : Answers} {objectInfo : ObjectInfo} {maxPos toAroundPos target : Nat}

-- While the positions move on, the one that is asked for has so many attackers left, the
-- same in the copy, and nothing has gone wrong.
structure Moving (maxPos toAroundPos target left : Nat) (s : Squeeze) : Prop where
  fine : s.raised = false
  old : Rows s.old
  info : Rows s.info
  legal : Legal maxPos s.info
  within : ∀ b j, occurs b (cells s.old j) ≤ occurs b (cells s.info j)
  free : s.old.lookup target = none
  row : ∃ xs, Row (cells s.old toAroundPos) xs ∧ xs.length = left
  same : ∀ b, occurs b (cells s.info toAroundPos) = occurs b (cells s.old toAroundPos)

-- A visit finds nobody, or moves the one it finds.
theorem squeezeOne_moves (moves : AllMove w objectInfo) (moving : Moving maxPos toAroundPos target left s) (oldPos newPos index : Nat)
    (inside : 1 ≤ newPos ∧ newPos ≤ maxPos) :
    ((cells s.old oldPos).lookup index = none ∧ squeezeOne w objectInfo oldPos newPos s index = s) ∨
    ∃ a old info, (cells s.old oldPos).lookup index = some a ∧ removeAt w s.old oldPos a = some old ∧ removeAt w s.info oldPos a = some info ∧
      squeezeOne w objectInfo oldPos newPos s index = {s with old, info:=insertAt w info newPos a} ∧
      Rows old ∧ Rows (insertAt w info newPos a) ∧ Legal maxPos (insertAt w info newPos a) ∧
      (∀ j, j ≠ oldPos → old.lookup j = s.old.lookup j) ∧ (∀ j, j ≠ oldPos → info.lookup j = s.info.lookup j) ∧
      ∃ xs i, Row (cells s.old oldPos) xs ∧ i < xs.length ∧ Row (cells old oldPos) (xs.eraseIdx i) := by
  have looked : (s.old.lookup oldPos).bind (fun attackers => attackers.lookup index) = (cells s.old oldPos).lookup index := by
    unfold cells
    cases s.old.lookup oldPos with
    | none => rfl
    | some attackers => rfl
  cases found : (cells s.old oldPos).lookup index with
  | none =>
    refine .inl ⟨rfl,?_⟩
    unfold squeezeOne
    rw [if_neg (by rw [moving.fine]; decide),looked,found]
  | some a =>
    have stands : 0 < occurs a (cells s.info oldPos) := (occurs_of_found found).trans_le (moving.within a oldPos)
    obtain ⟨k,there⟩ := occurs_pos.mp stands
    obtain ⟨old,removedOld,rowsOld,_,keptOld,shorter⟩ := removeAt_row w maxPos moving.old found
    obtain ⟨info,removed,rows,legal,kept,_⟩ := removeAt_row w maxPos moving.info there
    refine .inr ⟨a,old,info,rfl,removedOld,removed,?_,rowsOld,rows_insertAt w rows newPos a,legal_insert (legal moving.legal) inside _,keptOld,kept,shorter⟩
    unfold squeezeOne
    rw [if_neg (by rw [moving.fine]; decide),looked,found]
    dsimp only
    rw [if_pos (moves a newPos),removedOld]
    dsimp only
    rw [removed]

-- Counts after one attacker went from a position to another.
theorem moved_counts {old info : AroundPosInfo} {s : Squeeze} (removedOld : removeAt w s.old oldPos a = some old) (removed : removeAt w s.info oldPos a = some info)
    (there : 0 < occurs a (cells s.old oldPos)) (within : ∀ b j, occurs b (cells s.old j) ≤ occurs b (cells s.info j)) (newPos b j : Nat) :
    occurs b (cells old j) ≤ occurs b (cells (insertAt w info newPos a) j) := by
  have fewer := (removeAt_takes removedOld there b).2 j
  have less := (removeAt_takes removed (there.trans_le (within a oldPos)) b).2 j
  have before := within b j
  refine le_trans ?_ (occurs_insertAt w info newPos a b j)
  omega

theorem Moving.beside (moves : AllMove w objectInfo) (moving : Moving maxPos toAroundPos target left s) {oldPos newPos : Nat} (index : Nat)
    (inside : 1 ≤ newPos ∧ newPos ≤ maxPos) (other : oldPos ≠ toAroundPos) (apart : newPos ≠ toAroundPos ∨ oldPos = target) :
    Moving maxPos toAroundPos target left (squeezeOne w objectInfo oldPos newPos s index) := by
  rcases squeezeOne_moves moves moving oldPos newPos index inside with ⟨_,still⟩ | ⟨a,old,info,found,removedOld,removed,moved,rowsOld,rows,legal,keptOld,kept,_⟩
  · rw [still]
    exact moving
  · obtain ⟨attackers,seated⟩ := cells_lookup found
    have taken : oldPos ≠ target := by
      rintro rfl
      rw [moving.free] at seated
      cases seated
    have onward : newPos ≠ toAroundPos := apart.resolve_right taken
    have place : cells old toAroundPos = cells s.old toAroundPos := by rw [cells,keptOld _ other.symm,cells]
    have beside : cells (insertAt w info newPos a) toAroundPos = cells s.info toAroundPos := by
      rw [cells_insertAt_ne w info a onward.symm,cells,kept _ other.symm,cells]
    rw [moved]
    refine ⟨moving.fine,rowsOld,rows,legal,moved_counts removedOld removed (occurs_of_found found) moving.within newPos,?_,?_,?_⟩
    · rw [keptOld _ taken.symm]
      exact moving.free
    · rw [place]
      exact moving.row
    · intro b
      rw [place,beside]
      exact moving.same b

-- At the position itself a visit takes one away as long as its place is held.
theorem Moving.visit (moves : AllMove w objectInfo) (moving : Moving maxPos toAroundPos target left s) {newPos : Nat} {index : Nat}
    (inside : 1 ≤ newPos ∧ newPos ≤ maxPos) (onward : newPos ≠ toAroundPos) (apart : toAroundPos ≠ target) (positive : 1 ≤ index) :
    Moving maxPos toAroundPos target (if index ≤ left then left-1 else left) (squeezeOne w objectInfo toAroundPos newPos s index) := by
  obtain ⟨xs,row,length⟩ := moving.row
  rcases squeezeOne_moves moves moving toAroundPos newPos index inside with ⟨none,still⟩ | ⟨a,old,info,found,removedOld,removed,moved,rowsOld,rows,legal,keptOld,_,shorter⟩
  · have past : ¬index ≤ left := by
      intro held
      have there := row.mem_keys.mpr ⟨positive,held.trans_eq length.symm⟩
      exact AList.lookup_eq_none.mp none (AList.mem_keys.mpr there)
    rw [still,if_neg past]
    exact moving
  · have held : index ≤ left := by
      have there := row.mem_keys.mp (AList.mem_keys.mp (Table.mem_of_lookup found))
      omega
    have stands := occurs_of_found found
    obtain ⟨ys,i,again,below,after⟩ := shorter
    rw [moved,if_pos held]
    refine ⟨moving.fine,rowsOld,rows,legal,moved_counts removedOld removed stands moving.within newPos,?_,⟨ys.eraseIdx i,after,?_⟩,?_⟩
    · rw [keptOld _ apart.symm]
      exact moving.free
    · rw [List.length_eraseIdx_of_lt below,← again.keys_length,row.keys_length,length]
    · intro b
      have fewer := (removeAt_takes removedOld stands b).2 toAroundPos
      have less := (removeAt_takes removed (stands.trans_le (moving.within a toAroundPos)) b).2 toAroundPos
      have before := moving.same b
      rw [if_pos rfl] at fewer less
      dsimp only
      rw [cells_insertAt_ne w info a onward.symm]
      omega

-- A pass takes all away only when there is no second attacker: the list moves up under it.
theorem Moving.pass (moves : AllMove w objectInfo) (moving : Moving maxPos toAroundPos target left s) {newPos : Nat}
    (inside : 1 ≤ newPos ∧ newPos ≤ maxPos) (onward : newPos ≠ toAroundPos) (apart : toAroundPos ≠ target) :
    ∃ rest, (rest = 0 ↔ left ≤ 1) ∧
      Moving maxPos toAroundPos target rest ((List.range' 1 left).foldl (squeezeOne w objectInfo toAroundPos newPos) s) := by
  cases left with
  | zero => exact ⟨0,by omega,moving⟩
  | succ more =>
    rw [List.range'_succ,List.foldl_cons]
    have first := moving.visit moves inside onward apart (le_refl 1)
    rw [if_pos (by omega),Nat.add_sub_cancel] at first
    cases more with
    | zero => exact ⟨0,by omega,first⟩
    | succ more =>
      have kept := List.foldlRecOn (motive:=fun s => ∃ rest, 1 ≤ rest ∧ Moving maxPos toAroundPos target rest s) (List.range' 2 (more+1))
        (squeezeOne w objectInfo toAroundPos newPos) ⟨more+1,by omega,first⟩ (by
          rintro s ⟨rest,some,moving⟩ index there
          have later := (List.mem_range'_1.mp there).1
          refine ⟨_,?_,moving.visit moves inside onward apart (by omega)⟩
          split <;> omega)
      obtain ⟨rest,some,moving⟩ := kept
      exact ⟨rest,by omega,moving⟩

end passes

section routes
variable {w : Answers} {info : AroundPosInfo} {maxPos toAroundPos target : Nat}

theorem nextPos_inside (positive : 1 ≤ pos) (inside : pos ≤ maxPos) : 1 ≤ nextPos maxPos pos ∧ nextPos maxPos pos ≤ maxPos := by
  unfold nextPos
  split <;> omega

-- The positions from the one asked for up to the free one, round the target.
def movePositions (maxPos toAroundPos target : Nat) : List Nat :=
  if target < toAroundPos then List.range' toAroundPos (maxPos+1-toAroundPos)++List.range' 1 target
  else List.range' toAroundPos (target+1-toAroundPos)

theorem allMovePos_lookup (maxPos toAroundPos target pos : Nat) : (allMovePos maxPos toAroundPos target).lookup pos =
    if pos ∈ movePositions maxPos toAroundPos target then some (nextPos maxPos pos) else none := by
  have each (positions : List Nat) (moves : Table Nat Nat) : (positions.foldl (fun moves i => moves.insert i (nextPos maxPos i)) moves).lookup pos =
      if pos ∈ positions then some (nextPos maxPos pos) else moves.lookup pos := by
    induction positions generalizing moves with
    | nil => simp
    | cons first rest ih =>
      rw [List.foldl_cons,ih]
      by_cases later : pos ∈ rest
      · rw [if_pos later,if_pos (List.mem_cons_of_mem first later)]
      · rw [if_neg later]
        by_cases same : pos = first
        · subst same
          rw [AList.lookup_insert,if_pos List.mem_cons_self]
        · rw [AList.lookup_insert_ne same,if_neg]
          intro there
          exact (List.mem_cons.mp there).elim same later
  exact each (movePositions maxPos toAroundPos target) ∅

theorem mem_movePositions (positive : 1 ≤ toAroundPos) (inside : toAroundPos ≤ maxPos) (low : 1 ≤ target) (high : target ≤ maxPos) :
    toAroundPos ∈ movePositions maxPos toAroundPos target ∧
      ∀ pos ∈ movePositions maxPos toAroundPos target, 1 ≤ pos ∧ pos ≤ maxPos ∧ (nextPos maxPos pos ≠ toAroundPos ∨ pos = target) := by
  unfold movePositions
  split
  next below =>
    refine ⟨List.mem_append.mpr (.inl (List.mem_range'_1.mpr (by omega))),?_⟩
    intro pos there
    unfold nextPos
    rcases List.mem_append.mp there with first | second
    · have range := List.mem_range'_1.mp first
      split <;> omega
    · have range := List.mem_range'_1.mp second
      split <;> omega
  next above =>
    refine ⟨List.mem_range'_1.mpr (by omega),?_⟩
    intro pos there
    have range := List.mem_range'_1.mp there
    unfold nextPos
    split <;> omega

end routes

section squeezed
variable {w : Answers} {objectInfo : ObjectInfo} {maxPos toAroundPos : Nat}

-- The whole loop: only the pass of the position itself takes anybody from it.
theorem Moving.loop (moves : AllMove w objectInfo) {seats : AroundPosInfo} {target left : Nat} (visits : w.visited toAroundPos = List.range' 1 left)
    (moving : Moving maxPos toAroundPos target left ⟨seats,seats,false⟩)
    (positive : 1 ≤ toAroundPos) (inside : toAroundPos ≤ maxPos) (low : 1 ≤ target) (high : target ≤ maxPos) (apart : toAroundPos ≠ target) :
    ∃ rest, (rest = 0 ↔ left ≤ 1) ∧ Moving maxPos toAroundPos target rest
      (Table.forEach w.order (allMovePos maxPos toAroundPos target)
        (fun s oldPos newPos => (w.visited oldPos).foldl (squeezeOne w objectInfo oldPos newPos) s) ⟨seats,seats,false⟩) := by
  obtain ⟨asked,range⟩ := mem_movePositions positive inside low high
  have there : toAroundPos ∈ w.order.visit (allMovePos maxPos toAroundPos target).keys := by
    have found := allMovePos_lookup maxPos toAroundPos target toAroundPos
    rw [if_pos asked] at found
    exact Table.visit_of_found found
  have once := w.order.nodup_visit (allMovePos maxPos toAroundPos target).keys_nodup
  -- The other positions leave the one asked for alone.
  have others (positions : List Nat) (beside : toAroundPos ∉ positions) {count : Nat} {s : Squeeze} (moving : Moving maxPos toAroundPos target count s) :
      Moving maxPos toAroundPos target count (positions.foldl (fun s oldPos => ((allMovePos maxPos toAroundPos target).lookup oldPos).elim s
        (fun newPos => (w.visited oldPos).foldl (squeezeOne w objectInfo oldPos newPos) s)) s) := by
    refine List.foldlRecOn (motive:=fun s => Moving maxPos toAroundPos target count s) positions _ moving ?_
    intro s moving oldPos here
    have other : oldPos ≠ toAroundPos := by
      rintro rfl
      exact beside here
    rw [allMovePos_lookup]
    split
    next route =>
      obtain ⟨first,last,onward⟩ := range oldPos route
      refine List.foldlRecOn (motive:=fun s => Moving maxPos toAroundPos target count s) (w.visited oldPos) _ moving ?_
      intro s moving index _
      exact moving.beside moves index (nextPos_inside first last) other onward
    next => exact moving
  unfold Table.forEach
  obtain ⟨before,after,split⟩ := List.append_of_mem there
  rw [split] at once ⊢
  obtain ⟨_,tail,distinct⟩ := List.nodup_append.mp once
  have early : toAroundPos ∉ before := fun mem => distinct toAroundPos mem toAroundPos List.mem_cons_self rfl
  have late := (List.nodup_cons.mp tail).1
  obtain ⟨first,last,onward⟩ := range toAroundPos asked
  rw [List.foldl_append,List.foldl_cons,allMovePos_lookup,if_pos asked,Option.elim_some]
  dsimp only
  rw [visits]
  obtain ⟨rest,none,moved⟩ := (others before early moving).pass moves (nextPos_inside first last) (onward.resolve_right apart) apart
  exact ⟨rest,none,others after late moved⟩

theorem Moving.empty {target left : Nat} (moving : Moving maxPos toAroundPos target left s) :
    (∀ k, (cells s.info toAroundPos).lookup k = none) ↔ left = 0 := by
  obtain ⟨xs,row,length⟩ := moving.row
  have nobody (info : AroundPosInfo) : (∀ k, (cells info toAroundPos).lookup k = none) ↔ ∀ b, occurs b (cells info toAroundPos) = 0 := by
    constructor
    · intro none b
      apply occurs_of_absent
      intro k there
      rw [none k] at there
      cases there
    · intro none k
      cases found : (cells info toAroundPos).lookup k with
      | none => rfl
      | some b => exact absurd (none b) (occurs_of_found found).ne'
  rw [nobody,← length]
  constructor
  · intro none
    have left := (nobody s.old).mpr (fun b => (moving.same b).symm.trans (none b)) 1
    rw [row.at_] at left
    have few := List.getElem?_eq_none_iff.mp left
    omega
  · intro none b
    rw [moving.same b]
    apply (nobody s.old).mp
    intro k
    apply AList.lookup_eq_none.mpr
    intro there
    have range := row.mem_keys.mp (AList.mem_keys.mp there)
    omega

-- The positions are all taken when there are as many as there can be.
theorem full_iff {info : AroundPosInfo} (legal : Legal maxPos info) :
    maxPos ≤ info.keys.length ↔ ¬∃ pos, 1 ≤ pos ∧ pos ≤ maxPos ∧ info.lookup pos = none := by
  constructor
  · rintro many ⟨pos,low,high,free⟩
    have within : info.keys ⊆ (List.range' 1 maxPos).erase pos := by
      intro key there
      have range := legal key (AList.mem_keys.mpr there)
      have other : key ≠ pos := by
        rintro rfl
        exact AList.lookup_eq_none.mp free (AList.mem_keys.mpr there)
      exact (List.mem_erase_of_ne other).mpr (List.mem_range'_1.mpr (by omega))
    have few := (List.subperm_of_subset info.keys_nodup within).length_le
    rw [List.length_erase_of_mem (List.mem_range'_1.mpr (by omega)),List.length_range'] at few
    omega
  · intro none
    have within : List.range' 1 maxPos ⊆ info.keys := by
      intro pos there
      have range := List.mem_range'_1.mp there
      by_contra absent
      exact none ⟨pos,range.1,by omega,AList.lookup_eq_none.mpr (fun mem => absent (AList.mem_keys.mp mem))⟩
    have many := (List.subperm_of_subset List.nodup_range' within).length_le
    rwa [List.length_range'] at many

end squeezed

section offers
variable {w : Answers} {objectInfo : ObjectInfo} {info : AroundPosInfo}

end offers

section removal
variable {w : Answers}

-- Someone else than the one that leaves stands at a slot.
def Kept (info : AroundPosInfo) (attackIndex pos : Nat) : Prop := ∃ a, hit a (some attackIndex) < occurs a (cells info pos)

theorem kept_none (none : info.lookup pos = none) (attackIndex : Nat) : ¬Kept info attackIndex pos := by
  rintro ⟨a,more⟩
  rw [cells,none,Option.getD_none] at more
  exact absurd more (Nat.not_lt_zero _)

theorem some_stands (attackers : LuaArray Nat) : attackers.keys ≠ [] ↔ ∃ a, 0 < occurs a attackers := by
  constructor
  · intro some
    obtain ⟨k,there⟩ := List.exists_mem_of_ne_nil _ some
    obtain ⟨a,found⟩ := Table.lookup_of_mem (AList.mem_keys.mpr there)
    exact ⟨a,occurs_of_found found⟩
  · rintro ⟨a,positive⟩ none
    obtain ⟨k,found⟩ := occurs_pos.mp positive
    have there := AList.mem_keys.mp (Table.mem_of_lookup found)
    rw [none] at there
    cases there

theorem leaveOne_other (a : Nat) (s : AroundPosInfo×Bool) (other : j ≠ pos) : (leaveOne w a s pos).1.lookup j = s.1.lookup j := by
  unfold leaveOne
  split
  · rfl
  · split
    · rfl
    · split
      · rfl
      · split
        · exact AList.lookup_erase_ne other
        · exact AList.lookup_insert_ne other

-- The slot is dropped when the one that leaves was the last there.
theorem leaveOne_own {s : AroundPosInfo×Bool} (quiet : (leaveOne w a s pos).2 = false) :
    (leaveOne w a s pos).1.lookup pos ≠ none ↔ Kept s.1 a pos := by
  unfold leaveOne at quiet ⊢
  split at quiet
  next raised =>
    rw [raised] at quiet
    cases quiet
  next going =>
    rw [if_neg going]
    cases found : s.1.lookup pos with
    | none =>
      dsimp only
      exact ⟨fun some => absurd found some,fun kept => absurd kept (kept_none found a)⟩
    | some attackers =>
      rw [found] at quiet
      dsimp only at quiet ⊢
      cases taken : (if LuaArray.exist attackers a then LuaArray.removevalue w.order w.size attackers a else some attackers) with
      | none =>
        rw [taken] at quiet
        cases quiet
      | some left =>
        have counts (b : Nat) : occurs b left = occurs b attackers-hit b (some a) := by
          split at taken
          · exact occurs_removevalue taken b
          next absent =>
            cases taken
            by_cases own : b = a
            · rw [own,occurs_of_absent (fun k there => absent (exist_iff.mpr ⟨k,there⟩)),Nat.zero_sub]
            · rw [hit_ne (fun same => own same.symm),Nat.sub_zero]
        have kept : Kept s.1 a pos ↔ ∃ b, 0 < occurs b left := by
          unfold Kept
          rw [cells_some found]
          apply exists_congr
          intro b
          rw [counts,Nat.sub_pos_iff_lt]
        rw [kept,← some_stands]
        dsimp only
        split
        next empty => simp [empty]
        next some => simp [some]

theorem leave_quiet {s : AroundPosInfo×Bool} {slots : List Nat} (quiet : (slots.foldl (leaveOne w a) s).2 = false) : s.2 = false := by
  induction slots generalizing s with
  | nil => exact quiet
  | cons pos rest ih =>
    have next := ih quiet
    unfold leaveOne at next
    split at next
    next raised =>
      rw [raised] at next
      cases next
    next going => exact Bool.eq_false_iff.mpr going

theorem leave_each {s : AroundPosInfo×Bool} {slots : List Nat} (distinct : slots.Nodup) (quiet : (slots.foldl (leaveOne w a) s).2 = false) (there : pos ∈ slots) :
    (slots.foldl (leaveOne w a) s).1.lookup pos ≠ none ↔ Kept s.1 a pos := by
  have untouched (t : AroundPosInfo×Bool) (rest : List Nat) (absent : pos ∉ rest) : (rest.foldl (leaveOne w a) t).1.lookup pos = t.1.lookup pos := by
    induction rest generalizing t with
    | nil => rfl
    | cons other rest ih =>
      rw [List.mem_cons,not_or] at absent
      rw [List.foldl_cons,ih _ absent.2,leaveOne_other a t absent.1]
  induction slots generalizing s with
  | nil => cases there
  | cons head rest ih =>
    obtain ⟨absent,later⟩ := List.nodup_cons.mp distinct
    rw [List.foldl_cons] at quiet ⊢
    by_cases own : pos = head
    · subst own
      rw [untouched _ rest absent]
      exact leaveOne_own (leave_quiet quiet)
    · refine (ih later quiet ((List.mem_cons.mp there).resolve_left own)).trans ?_
      unfold Kept cells
      rw [leaveOne_other a s own]

-- After the removal a slot is taken when someone else stood there before.
theorem leave_kept (quiet : (leave w info a).2 = false) (pos : Nat) : (leave w info a).1.lookup pos ≠ none ↔ Kept info a pos := by
  cases found : info.lookup pos with
  | some attackers => exact leave_each (w.order.nodup_visit info.keys_nodup) quiet (Table.visit_of_found found)
  | none =>
    refine ⟨fun some => absurd ?_ some,fun kept => absurd kept (kept_none found a)⟩
    unfold leave
    refine List.foldlRecOn (motive:=fun s : AroundPosInfo×Bool => s.1.lookup pos = none) _ _ found (fun s free head _ => ?_)
    by_cases own : pos = head
    · subst own
      unfold leaveOne
      split
      · exact free
      · rw [free]
        exact free
    · rw [leaveOne_other a s own]
      exact free

end removal

section slots

-- Two attackers in the first slot of an army, the other slots free; then two that wait in the
-- sixth of a check point while one leaves the seventh.
def crowded : LuaArray Nat := LuaArray.insert .first (LuaArray.insert .first ∅ 5) 6

theorem rows_empty : Rows ∅ := fun _ => ⟨[],Row.empty⟩

theorem legal_empty (maxPos : Nat) : Legal maxPos ∅ := by
  intro pos there
  exact absurd there (AList.notMem_empty pos)

def seated (attackers : LuaArray Nat) (row : Row attackers xs) : Seats 8 where
  info := AList.insert 1 attackers ∅
  rows := rows_insert rows_empty row 1
  legal := legal_insert (legal_empty 8) (by decide) attackers

def army : ObjectInfo := ⟨.army,false,none⟩
def waiting : AroundPosInfo := AList.insert 7 (LuaArray.insert .first ∅ 9) (AList.insert 6 crowded ∅)

-- One attacker gives way, and at a check point both far slots stay taken.
def single : LuaArray Nat := LuaArray.insert .first ∅ 5

def guarded : AroundPosInfo := AList.insert 7 (LuaArray.insert .first single 9) (AList.insert 8 crowded ∅)

end slots

end OriginGame.AttackAroundPosMgr
