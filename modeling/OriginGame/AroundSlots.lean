import OriginGame.AttackAroundPosMgr

namespace OriginGame.AttackAroundPosMgr
open LuaArray

section placed
variable {info : AroundPosInfo} {a b pos : Nat}

def cells (info : AroundPosInfo) (pos : Nat) : LuaArray Nat := (info.lookup pos).getD ∅

theorem cells_some (found : info.lookup pos = some attackers) : cells info pos = attackers := by
  rw [cells,found,Option.getD_some]

theorem cells_insert_self (info : AroundPosInfo) (pos : Nat) (attackers : LuaArray Nat) : cells (info.insert pos attackers) pos = attackers :=
  cells_some (AList.lookup_insert _)

theorem cells_insert_ne (attackers : LuaArray Nat) (other : j ≠ pos) : cells (info.insert pos attackers) j = cells info j := by
  rw [cells,AList.lookup_insert_ne other,cells]

-- How often an index stands around a target.
def placed (a : Nat) (info : AroundPosInfo) : Nat := Table.sumKeyed (fun _ attackers => occurs a attackers) info

theorem placed_split (a : Nat) (info : AroundPosInfo) (pos : Nat) : placed a info = occurs a (cells info pos)+placed a (info.erase pos) := by
  unfold placed cells
  rw [Table.sumKeyed_split _ info pos]
  cases info.lookup pos <;> rfl

theorem placed_insert (a : Nat) (info : AroundPosInfo) (pos : Nat) (attackers : LuaArray Nat) :
    placed a (info.insert pos attackers)+occurs a (cells info pos) = occurs a attackers+placed a info := by
  have put : placed a (info.insert pos attackers) = occurs a attackers+placed a (info.erase pos) := Table.sumKeyed_insert _ info pos attackers
  rw [put,placed_split a info pos]
  omega

theorem placed_pos : 0 < placed a info ↔ ∃ pos k, (cells info pos).lookup k = some a := by
  constructor
  · intro positive
    by_contra absent
    refine absurd (List.sum_eq_zero (List.forall_mem_map.mpr (fun e mem => ?_))) positive.ne'
    refine occurs_of_absent (fun k found => absent ⟨e.1,k,?_⟩)
    rw [cells_some (AList.mem_lookup_iff.mpr mem)]
    exact found
  · rintro ⟨pos,k,found⟩
    rw [placed_split a info pos]
    exact Nat.add_pos_left (occurs_of_found found) _

-- An index that is placed once stands in one slot, and there once.
theorem placed_once (once : placed a info ≤ 1) (first : (cells info pos).lookup k = some a) (second : (cells info other).lookup j = some a) :
    pos = other ∧ k = j := by
  have held := occurs_of_found first
  rw [placed_split a info pos] at once
  by_cases same : pos = other
  · subst same
    exact ⟨rfl,occurs_once (by omega) first second⟩
  · have again : 0 < placed a (info.erase pos) := by
      refine placed_pos.mpr ⟨other,j,?_⟩
      rwa [cells,AList.lookup_erase_ne (fun back => same back.symm)]
    omega

theorem stands_iff : stands info a = true ↔ 0 < placed a info := by
  rw [placed_pos,stands,List.any_eq_true]
  constructor
  · rintro ⟨pos,_,found⟩
    exact ⟨pos,exist_iff.mp found⟩
  · rintro ⟨pos,k,found⟩
    refine ⟨pos,?_,exist_iff.mpr ⟨k,found⟩⟩
    by_contra absent
    rw [cells,AList.lookup_eq_none.mpr (fun there => absent (AList.mem_keys.mp there)),Option.getD_none,AList.lookup_empty] at found
    cases found

end placed

section squeeze
variable {w : Answers} {info : AroundPosInfo} {pos v : Nat}

-- One standing at the position is gone, and nothing else.
theorem removeAt_takes (removed : removeAt w info pos v = some after) (there : 0 < occurs v (cells info pos)) (b : Nat) :
    placed b after+hit b (some v) = placed b info ∧
      ∀ j, occurs b (cells after j)+(if j = pos then hit b (some v) else 0) = occurs b (cells info j) := by
  unfold removeAt at removed
  split at removed
  next missing =>
    rw [cells,missing] at there
    exact absurd there (Nat.lt_irrefl 0)
  next attackers found =>
    obtain ⟨left,taken,rfl⟩ := Option.map_eq_some_iff.mp removed
    have fewer := occurs_removevalue taken b
    have whole := placed_insert b info pos left
    rw [cells_some found] at there whole
    have enough : hit b (some v) ≤ occurs b attackers := by
      by_cases same : v = b
      · subst same
        rw [hit_self]
        exact there
      · rw [hit_ne same]
        exact Nat.zero_le _
    refine ⟨by omega,fun j => ?_⟩
    by_cases same : j = pos
    · subst same
      rw [if_pos rfl,cells_insert_self,cells_some found]
      omega
    · rw [if_neg same,cells_insert_ne left same,Nat.add_zero]

theorem placed_insertAt (w : Answers) (info : AroundPosInfo) (pos a b : Nat) :
    placed b (insertAt w info pos a) = hit b (some a)+placed b info := by
  have put := placed_insert b info pos (LuaArray.insert w.size (cells info pos) a)
  rw [occurs_insert] at put
  unfold cells at put
  unfold insertAt
  omega

theorem occurs_insertAt (w : Answers) (info : AroundPosInfo) (pos a b j : Nat) :
    occurs b (cells info j) ≤ occurs b (cells (insertAt w info pos a) j) := by
  unfold insertAt
  by_cases same : j = pos
  · subst same
    rw [cells_insert_self,occurs_insert]
    exact Nat.le_add_left _ _
  · rw [cells_insert_ne _ same]

-- Those still to be moved stand where they did, and everyone is placed as often as before.
structure Squeezing (info : AroundPosInfo) (s : Squeeze) : Prop where
  within : ∀ b j, occurs b (cells s.old j) ≤ occurs b (cells s.info j)
  same : ∀ b, placed b s.info = placed b info

theorem squeezeOne_keeps (objectInfo : ObjectInfo) (oldPos newPos index : Nat) (squeezing : Squeezing info s) :
    Squeezing info (squeezeOne w objectInfo oldPos newPos s index) := by
  unfold squeezeOne
  split
  · exact squeezing
  · split
    · exact squeezing
    next attackIndex found =>
      split
      · have there : 0 < occurs attackIndex (cells s.old oldPos) := by
          obtain ⟨attackers,row,stood⟩ := Option.bind_eq_some_iff.mp found
          rw [cells_some row]
          exact occurs_of_found stood
        split
        · exact ⟨squeezing.within,squeezing.same⟩
        next old removedOld =>
          have fewer (b j : Nat) := (removeAt_takes removedOld there b).2 j
          split
          · refine ⟨fun b j => ?_,squeezing.same⟩
            have before := squeezing.within b j
            have taken := fewer b j
            dsimp only
            omega
          next after removed =>
            have moved (b : Nat) := removeAt_takes removed (there.trans_le (squeezing.within attackIndex oldPos)) b
            refine ⟨fun b j => ?_,fun b => ?_⟩
            · have before := squeezing.within b j
              have taken := fewer b j
              have left := (moved b).2 j
              refine le_trans ?_ (occurs_insertAt w after newPos attackIndex b j)
              dsimp only
              omega
            · have left := (moved b).1
              rw [placed_insertAt,Nat.add_comm,left]
              exact squeezing.same b
      · exact squeezing

theorem checkAroundPosHadObject_placed (w : Answers) (objectInfo : ObjectInfo) (info : AroundPosInfo) (toAroundPos maxPos b : Nat) :
    placed b (checkAroundPosHadObject w objectInfo info toAroundPos maxPos).1 = placed b info := by
  unfold checkAroundPosHadObject
  split
  · rfl
  · split
    · rfl
    · have start : Squeezing info ⟨info,info,false⟩ := ⟨fun _ _ => Nat.le_refl _,fun _ => rfl⟩
      refine Squeezing.same (Table.forEach_keeps (fun s oldPos newPos _ squeezing => ?_) start) b
      exact List.foldlRecOn _ _ squeezing (fun s squeezing index _ => squeezeOne_keeps objectInfo oldPos newPos index squeezing)

-- The new attacker takes one place, or the handler raised.
theorem enter_placed (w : Answers) (objectInfo : ObjectInfo) (info : AroundPosInfo) (a b : Nat) :
    placed b info ≤ placed b (enter w objectInfo info a) ∧ placed b (enter w objectInfo info a) ≤ hit b (some a)+placed b info := by
  have put (squeezed : AroundPosInfo×Bool) (aroundPos : Nat) (same : placed b squeezed.1 = placed b info) :
      placed b info ≤ placed b (if squeezed.2 then squeezed.1 else insertAt w squeezed.1 aroundPos a) ∧
        placed b (if squeezed.2 then squeezed.1 else insertAt w squeezed.1 aroundPos a) ≤ hit b (some a)+placed b info := by
    split
    · rw [same]
      exact ⟨Nat.le_refl _,Nat.le_add_left _ _⟩
    · rw [placed_insertAt,same]
      exact ⟨Nat.le_add_left _ _,Nat.le_refl _⟩
  refine put _ _ ?_
  split
  · exact checkAroundPosHadObject_placed w objectInfo info _ _ b
  · rfl

end squeeze

section leave
variable {w : Answers} {info : AroundPosInfo} {a : Nat}

-- The others stay where they are.
def Leaving (a : Nat) (info after : AroundPosInfo) : Prop := ∀ b, placed b after = placed b info ∨ b = a ∧ placed b after ≤ placed b info

theorem Leaving.refl (a : Nat) (info : AroundPosInfo) : Leaving a info info := fun _ => .inl rfl

theorem Leaving.trans (first : Leaving a info middle) (second : Leaving a middle after) : Leaving a info after := by
  intro b
  rcases second b with same | ⟨own,fewer⟩
  · rw [same]
    exact first b
  · rcases first b with back | ⟨_,less⟩
    · exact .inr ⟨own,fewer.trans_eq back⟩
    · exact .inr ⟨own,fewer.trans less⟩

theorem leaveOne_leaving (w : Answers) (a : Nat) (s : AroundPosInfo×Bool) (pos : Nat) : Leaving a s.1 (leaveOne w a s pos).1 := by
  unfold leaveOne
  split
  · exact .refl a _
  · split
    · exact .refl a _
    next attackers found =>
      split
      · exact .refl a _
      next left taken =>
        have fewer (b : Nat) : occurs b left = occurs b attackers ∨ b = a ∧ occurs b left ≤ occurs b attackers := by
          split at taken
          · rw [occurs_removevalue taken b]
            by_cases same : a = b
            · exact .inr ⟨same.symm,Nat.sub_le _ _⟩
            · exact .inl (by rw [hit_ne same,Nat.sub_zero])
          · rw [Option.some.inj taken]
            exact .inl rfl
        have kept (after : AroundPosInfo) (whole : ∀ b, placed b after+occurs b attackers = occurs b left+placed b s.1) : Leaving a s.1 after := by
          intro b
          have sum := whole b
          rcases fewer b with same | ⟨own,less⟩
          · exact .inl (by omega)
          · exact .inr ⟨own,by omega⟩
        split
        next empty =>
          refine kept _ (fun b => ?_)
          have none : occurs b left = 0 := occurs_of_absent (fun k there => by
            rw [Table.lookup_no_keys empty] at there
            cases there)
          rw [none,placed_split b s.1 pos,cells_some found]
          dsimp only
          omega
        · refine kept _ (fun b => ?_)
          rw [← cells_some found]
          exact placed_insert b s.1 pos left

theorem leave_leaving (w : Answers) (info : AroundPosInfo) (a : Nat) : Leaving a info (leave w info a).1 :=
  List.foldlRecOn (motive:=fun s => Leaving a info s.1) _ _ (.refl a info) (fun s left pos _ => left.trans (leaveOne_leaving w a s pos))

end leave

section spread
variable {w : Answers} {info : AroundPosInfo} {objectInfo : ObjectInfo}

-- Only those that are gone or routed are missing, and the positions still to be given are free.
structure Spreading (w : Answers) (info : AroundPosInfo) (s : Spread) : Prop where
  kept : ∀ b, placed b s.info = placed b info ∨ (w.attacker b).all routed ∧ placed b s.info ≤ placed b info
  free : ∀ pos ∈ s.emptyPos, s.info.lookup pos = none
  distinct : s.emptyPos.Nodup

theorem movePoint_empty (found : (if maxPos objectInfo.objectType = 6 then getCheckPointMovePoint objectInfo.posTo attackPos emptyPos else emptyPos.head?) = some newPos) :
    newPos ∈ emptyPos := by
  split at found
  · have there : emptyPos.contains newPos = true := List.find?_some found
    exact List.contains_iff_mem.mp there
  · exact List.mem_of_mem_head? found

theorem Spreading.given (spreading : Spreading w info s) (newPos : Nat) : ∀ pos ∈ s.emptyPos.erase newPos, pos ≠ newPos ∧ s.info.lookup pos = none :=
  fun pos there => ⟨fun same => spreading.distinct.not_mem_erase (same ▸ there),spreading.free pos (List.mem_of_mem_erase there)⟩

-- An empty position is none that attackers stand at, so it stays empty when one of them is taken away.
theorem empty_insert {info : AroundPosInfo} (found : info.lookup attackPos = some attackers) (vacant : info.lookup pos = none) (left : LuaArray Nat) :
    (info.insert attackPos left).lookup pos = none := by
  rw [AList.lookup_insert_ne]
  · exact vacant
  · rintro rfl
    rw [found] at vacant
    cases vacant

theorem taken_placed {info : AroundPosInfo} (found : info.lookup attackPos = some attackers) (taken : LuaArray.remove size attackers 1 = some left) (b : Nat) :
    placed b (info.insert attackPos left)+hit b (attackers.lookup 1) = placed b info := by
  have put := placed_insert b info attackPos left
  have removed := occurs_remove taken b
  rw [cells_some found] at put
  omega

theorem moved_placed {info : AroundPosInfo} (vacant : info.lookup newPos = none) (attackIndex b : Nat) :
    placed b (info.insert newPos (AList.singleton 1 attackIndex)) = placed b info+hit b (some attackIndex) := by
  have put := placed_insert b info newPos (AList.singleton 1 attackIndex)
  have one : occurs b (AList.singleton 1 attackIndex : LuaArray Nat) = hit b (some attackIndex) := rfl
  have bare : occurs b (cells info newPos) = 0 := by
    rw [cells,vacant]
    rfl
  omega

theorem spreadOne_keeps (attackPos : Nat) (spreading : Spreading w info s) : Spreading w info (spreadOne w objectInfo s attackPos) := by
  unfold spreadOne
  split
  · exact spreading
  · split
    · exact spreading
    next attackers found =>
      split
      · exact spreading
      · split
        · exact spreading
        next newPos chosen =>
          have given := movePoint_empty chosen
          have vacant := spreading.free newPos given
          have fewer := spreading.given newPos
          have distinct := spreading.distinct.erase newPos
          split
          · exact ⟨spreading.kept,fun pos there => (fewer pos there).2,distinct⟩
          next left taken =>
            have still : ∀ pos ∈ s.emptyPos.erase newPos, (s.info.insert attackPos left).lookup pos = none :=
              fun pos there => empty_insert found (fewer pos there).2 left
            have whole := taken_placed found taken
            split
            next hole =>
              refine ⟨fun b => ?_,still,distinct⟩
              have sum := whole b
              rw [hole,hit_none,Nat.add_zero] at sum
              dsimp only
              rw [sum]
              exact spreading.kept b
            next attackIndex first =>
              split
              next gone =>
                refine ⟨fun b => ?_,still,distinct⟩
                have sum := whole b
                rw [first] at sum
                dsimp only
                by_cases same : attackIndex = b
                · subst same
                  refine .inr ⟨gone,?_⟩
                  rcases spreading.kept attackIndex with back | ⟨_,less⟩ <;> omega
                · rw [hit_ne same,Nat.add_zero] at sum
                  rw [sum]
                  exact spreading.kept b
              · refine ⟨fun b => ?_,fun pos there => ?_,distinct⟩
                · dsimp only
                  rw [moved_placed (empty_insert found vacant left),←first,whole b]
                  exact spreading.kept b
                · dsimp only
                  rw [AList.lookup_insert_ne (fewer pos there).1]
                  exact still pos there

theorem emptyPositions_free (there : pos ∈ emptyPositions w objectInfo info) : info.lookup pos = none := by
  have both := (List.mem_filter.mp (w.order.mem_visit.mp there)).2
  exact Option.isNone_iff_eq_none.mp (Bool.and_eq_true_iff.mp both).1

theorem spread_keeps (w : Answers) (objectInfo : ObjectInfo) (info : AroundPosInfo) (slots : List Nat) :
    Spreading w info (slots.foldl (spreadOne w objectInfo) ⟨info,emptyPositions w objectInfo info,false⟩) := by
  have start : Spreading w info ⟨info,emptyPositions w objectInfo info,false⟩ :=
    ⟨fun _ => .inl rfl,fun _ there => emptyPositions_free there,w.order.nodup_visit ((List.nodup_range' 1).filter _)⟩
  exact List.foldlRecOn _ _ start (fun s spreading pos _ => spreadOne_keeps pos spreading)

end spread

section runs

def around (s : State) (objectIndex : Nat) : AroundPosInfo := (s.lookup objectIndex).getD ∅

theorem around_some {s : State} (found : s.lookup objectIndex = some info) : around s objectIndex = info := by
  rw [around,found,Option.getD_some]

theorem around_insert_self (s : State) (objectIndex : Nat) (info : AroundPosInfo) : around (s.insert objectIndex info) objectIndex = info :=
  around_some (AList.lookup_insert _)

theorem around_insert_ne (s : State) (info : AroundPosInfo) (other : o ≠ objectIndex) : around (s.insert objectIndex info) o = around s o := by
  rw [around,AList.lookup_insert_ne other,around]

-- The attacker has a place around the object.
def Stands (s : State) (objectIndex pos k attackIndex : Nat) : Prop := (cells (around s objectIndex) pos).lookup k = some attackIndex

-- Who may lose the place: the one that leaves, and those that a handler of the same object
-- finds routed or without soldiers, for delAttacker also those no longer on the map.
def Forgets : Op → Nat → Nat → Prop
  | .addAttacker _ _ _ _,_,_ => False
  | .delAttacker objectIndex attackObjectIndex w,o,a => o = objectIndex ∧ (a = attackObjectIndex ∨ (w.attacker a).all routed)
  | .recacleAroundPos objectIndex w,o,a => o = objectIndex ∧ (w.attacker a).any routed

-- The ways one place count may change.
inductive Change (op : Op) (o a before after : Nat) : Prop where
  | same : after = before → Change op o a before after
  | added : before = 0 → after ≤ 1 → Change op o a before after
  | forgot : Forgets op o a → after ≤ before → Change op o a before after

theorem Change.once (change : Change op o a before after) (once : before ≤ 1) : after ≤ 1 := by
  cases change with
  | same same => omega
  | added _ one => exact one
  | forgot _ less => omega

theorem Change.stays (change : Change op o a before after) (positive : 0 < before) (kept : ¬Forgets op o a) : 0 < after := by
  cases change with
  | same same => omega
  | added none _ => omega
  | forgot gone _ => exact absurd gone kept

theorem addAttacker_change (w : Answers) (s : State) (objectIndex attackIndex : Nat) (type : RoleType) (o a : Nat) :
    Change (.addAttacker objectIndex attackIndex type w) o a (placed a (around s o)) (placed a (around (addAttacker w s objectIndex attackIndex type) o)) := by
  unfold addAttacker
  split
  · exact .same rfl
  · split
    next objectInfo attackInfo _ _ =>
      split
      · exact .same rfl
      · dsimp only
        split
        · exact .same rfl
        next fresh =>
          by_cases here : o = objectIndex
          · subst here
            rw [around_insert_self]
            obtain ⟨more,less⟩ := enter_placed w objectInfo (around s o) attackIndex a
            by_cases same : attackIndex = a
            · subst same
              have none : placed attackIndex (around s o) = 0 := by
                by_contra some
                exact fresh (stands_iff.mpr (Nat.pos_of_ne_zero some))
              rw [hit_self,none] at less
              exact .added none less
            · rw [hit_ne same,Nat.zero_add] at less
              exact .same (Nat.le_antisymm less more)
          · exact .same (by rw [around_insert_ne s _ here])
    · exact .same rfl

theorem delAttacker_change (w : Answers) (s : State) (objectIndex attackIndex o a : Nat) :
    Change (.delAttacker objectIndex attackIndex w) o a (placed a (around s o)) (placed a (around (delAttacker w s objectIndex attackIndex) o)) := by
  unfold delAttacker
  split
  · exact .same rfl
  next info found =>
    by_cases here : o = objectIndex
    · subst here
      rw [around_some found]
      have left : Change (.delAttacker o attackIndex w) o a (placed a info) (placed a (leave w info attackIndex).1) := by
        rcases leave_leaving w info attackIndex a with same | ⟨own,fewer⟩
        · exact .same same
        · exact .forgot ⟨rfl,.inl own⟩ fewer
      dsimp only
      split
      · rwa [around_insert_self]
      · split
        next empty =>
          have none : placed a (leave w info attackIndex).1 = 0 := by
            by_contra some
            obtain ⟨pos,_,there⟩ := placed_pos.mp (Nat.pos_of_ne_zero some)
            rw [cells,Table.lookup_no_keys empty,Option.getD_none,AList.lookup_empty] at there
            cases there
          rw [none] at left
          rw [around,AList.lookup_erase]
          exact left
        · split
          · rwa [around_insert_self]
          next objectInfo _ =>
            rw [around_insert_self]
            rcases (spread_keeps w objectInfo (leave w info attackIndex).1 w.slots).kept a with same | ⟨gone,fewer⟩
            · rwa [same]
            · refine .forgot ⟨rfl,.inr gone⟩ (fewer.trans ?_)
              rcases leave_leaving w info attackIndex a with same | ⟨_,less⟩
              · exact same.le
              · exact less
    · refine .same ?_
      dsimp only
      split
      · rw [around_insert_ne s _ here]
      · split
        · rw [around,AList.lookup_erase_ne here,around]
        · split
          · rw [around_insert_ne s _ here]
          · rw [around_insert_ne s _ here]

theorem recacleAroundPos_change (w : Answers) (s : State) (objectIndex o a : Nat) :
    Change (.recacleAroundPos objectIndex w) o a (placed a (around s o)) (placed a (around (recacleAroundPos w s objectIndex) o)) := by
  unfold recacleAroundPos
  split
  · exact .same rfl
  next info found =>
    split
    · exact .same rfl
    · split
      · exact .same rfl
      · dsimp only
        split
        · exact .same rfl
        · by_cases here : o = objectIndex
          · subst here
            rw [around_insert_self,around_some found]
            have each (keep : Nat → Bool) : placed a (info.mapValues (fun attackers => attackers.keepValues keep)) =
                Table.sumKeyed (fun _ attackers => occurs a (Table.keepValues keep attackers)) info := by
              unfold placed Table.sumKeyed Table.mapValues Table.mapKeyed
              rw [List.map_map]
              rfl
            rw [each]
            by_cases gone : (w.attacker a).any routed = true
            · exact .forgot ⟨rfl,gone⟩ (Table.sumKeyed_mono (fun _ attackers there => ⟨there,occurs_keepValues_le _ a attackers⟩))
            · refine .same (congrArg (fun weigh => Table.sumKeyed weigh info) (funext (fun _ => funext (fun attackers => ?_))))
              exact occurs_keepValues _ (by rw [Bool.not_eq_true _ |>.mp gone]; rfl) attackers
          · exact .same (by rw [around_insert_ne s _ here])

theorem next_change (s : State) (op : Op) (o a : Nat) : Change op o a (placed a (around s o)) (placed a (around (next s op) o)) := by
  cases op with
  | addAttacker objectIndex attackIndex type w => exact addAttacker_change w s objectIndex attackIndex type o a
  | delAttacker objectIndex attackIndex w => exact delAttacker_change w s objectIndex attackIndex o a
  | recacleAroundPos objectIndex w => exact recacleAroundPos_change w s objectIndex o a

-- The invariant: everyone is placed around an object once at most.
def Once (s : State) : Prop := ∀ o a, placed a (around s o) ≤ 1

theorem next_once (once : Once s) (op : Op) : Once (next s op) := fun o a => (next_change s op o a).once (once o a)

theorem once_always (ops : List Op) : Once (ops.foldl next ∅) := by
  have start : Once ∅ := fun _ _ => Nat.zero_le 1
  refine Runs.invariant (fun s op t once step => ?_) (Runs.foldl next ∅ ops) start
  cases step
  exact next_once once op

theorem stands_placed {s : State} : (∃ pos k, Stands s o pos k a) ↔ 0 < placed a (around s o) := placed_pos.symm

-- After any handlers whatever an attacker has one place around the object at most, and it is
-- lost only by leaving or by being routed or gone.
theorem places_kept (ops : List Op) (o a : Nat) :
    (∀ pos k other j, Stands (ops.foldl next ∅) o pos k a → Stands (ops.foldl next ∅) o other j a → pos = other ∧ k = j) ∧
      ∀ op, (∃ pos k, Stands (ops.foldl next ∅) o pos k a) → ¬Forgets op o a → ∃ pos k, Stands (next (ops.foldl next ∅) op) o pos k a := by
  refine ⟨fun pos k other j => placed_once (once_always ops o a),fun op standing kept => ?_⟩
  exact stands_placed.mpr ((next_change _ op o a).stays (stands_placed.mp standing) kept)

-- Two attack an army, and one of them is routed when the places are calculated again.
def clash (routed : Nat → Bool) : Answers where
  object := some ⟨.army,false,none⟩
  attacker i := some ⟨false,routed i,100⟩
  aroundPos := 1
  standAroundPos := []
  farther _ _ := false
  checkPosIdle _ := true
  size := .first
  order := .stored
  visited _ := [1]
  slots := []

def joined : List Op := [.addAttacker 1 5 .army (clash fun _ => false),.addAttacker 1 6 .army (clash fun _ => false)]

theorem routed_forgotten : (∃ pos k, Stands (joined.foldl next ∅) 1 pos k 6) ∧
    ¬∃ pos k, Stands (next (joined.foldl next ∅) (.recacleAroundPos 1 (clash fun i => i = 6))) 1 pos k 6 := by
  rw [stands_placed,stands_placed]
  decide

end runs

end OriginGame.AttackAroundPosMgr
