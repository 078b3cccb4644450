import OriginGame.SkillTargets

namespace OriginGame.SkillTargets

section angles
variable {Pos K : Type} [Field K] [LinearOrder K] [IsStrictOrderedRing K]

theorem direction_range (geometry : Geometry Pos K) (from_ to_ : Pos) : 0 ≤ direction geometry from_ to_ ∧ direction geometry from_ to_ < 360 := by
  obtain ⟨low,high⟩ := geometry.turn from_ to_
  unfold direction transAngle
  split
  next below => exact ⟨by linarith,by linarith⟩
  next above => exact ⟨not_lt.mp above,by linarith⟩

theorem gap_le (range : 0 < width ∧ width ≤ (360 : K)) :
    angularGap a b ≤ width/2 ↔ (b-width/2 ≤ a ∧ a ≤ b+width/2) ∨ b-width/2+360 ≤ a ∨ a ≤ b+width/2-360 := by
  unfold angularGap
  rw [min_le_iff]
  rcases abs_cases (a-b) with ⟨same,side⟩ | ⟨same,side⟩ <;> rw [same] <;> constructor
  · rintro (near | far)
    · exact .inl ⟨by linarith,by linarith⟩
    · exact .inr (.inl (by linarith))
  · rintro (near | far | far)
    · exact .inl (by linarith)
    · exact .inr (by linarith)
    · exact .inl (by linarith)
  · rintro (near | far)
    · exact .inl ⟨by linarith,by linarith⟩
    · exact .inr (.inr (by linarith))
  · rintro (near | far | far)
    · exact .inl (by linarith)
    · exact .inl (by linarith)
    · exact .inr (by linarith)

-- What the two ends come to.
theorem inSector_ends (range : 0 < angle ∧ angle ≤ (360 : K)) (part : angle ≠ 360) (first : 0 ≤ armyAngle ∧ armyAngle < 360) :
    inSector (sectorAngles armyAngle angle) angleDiff ↔
      (if armyAngle < angle/2 then armyAngle-angle/2+360 else armyAngle-angle/2) ≤ angleDiff ∧ angleDiff ≤ armyAngle+angle/2 := by
  have top : transAngle (armyAngle-angle/2) = if armyAngle < angle/2 then armyAngle-angle/2+360 else armyAngle-angle/2 := by
    unfold transAngle
    by_cases below : armyAngle < angle/2
    · rw [if_pos below,if_pos (by linarith)]
    · rw [if_neg below,if_neg (by linarith)]
  have bottom : transAngle (armyAngle+angle/2) = armyAngle+angle/2 := if_neg (by linarith)
  unfold inSector sectorAngles
  rw [if_neg part,top,bottom]

theorem sector_iff (range : 0 < angle ∧ angle ≤ (360 : K)) (first : 0 ≤ armyAngle ∧ armyAngle < 360) (second : 0 ≤ angleDiff ∧ angleDiff < 360) :
    (inSector (sectorAngles armyAngle angle) angleDiff ↔ angularGap angleDiff armyAngle ≤ angle/2) ↔ Unwrapped armyAngle angle angleDiff := by
  rw [gap_le range]
  by_cases whole : angle = 360
  · subst whole
    have all : inSector (sectorAngles armyAngle 360) angleDiff := by
      unfold inSector sectorAngles
      rw [if_pos rfl]
      exact ⟨second.1,second.2.le⟩
    refine ⟨fun _ => .inl rfl,fun _ => ⟨fun _ => ?_,fun _ => all⟩⟩
    rcases le_total armyAngle 180 with half | half
    · rcases le_total angleDiff (armyAngle+360/2) with near | far
      · exact .inl ⟨by linarith,near⟩
      · exact .inr (.inl (by linarith))
    · rcases le_total (armyAngle-360/2) angleDiff with near | far
      · exact .inl ⟨near,by linarith⟩
      · exact .inr (.inr (by linarith))
  · have narrow : angle < 360 := lt_of_le_of_ne range.2 whole
    rw [inSector_ends range whole first]
    unfold Unwrapped
    rw [or_iff_right whole]
    by_cases below : armyAngle < angle/2
    · rw [if_pos below]
      constructor
      · intro same
        refine ⟨fun _ => ⟨?_,?_⟩,by linarith⟩
        · by_contra inside
          rcases le_total (armyAngle-angle/2+360) angleDiff with above | under
          · linarith
          · have both := same.mpr (.inl ⟨by linarith,not_lt.mp inside⟩)
            linarith [both.1]
        · by_contra inside
          have both := same.mpr (.inr (.inl (not_lt.mp inside)))
          linarith [both.2]
      · rintro ⟨outside,_⟩
        obtain ⟨above,under⟩ := outside below
        refine ⟨fun both => absurd both.2 (not_le.mpr above),fun near => ?_⟩
        rcases near with near | far | far
        · exact absurd near.2 (not_le.mpr above)
        · exact absurd far (not_le.mpr under)
        · linarith
    · rw [if_neg below]
      rw [not_lt] at below
      constructor
      · intro same
        refine ⟨fun above => absurd above (not_lt.mpr below),?_⟩
        by_contra past
        have both := same.mpr (.inr (.inr (not_lt.mp past)))
        linarith [both.1]
      · rintro ⟨_,before⟩
        refine ⟨fun both => .inl both,fun near => ?_⟩
        rcases near with near | far | far
        · exact near
        · linarith
        · linarith

end angles

section membership
variable {Pos K : Type} [Field K] [LinearOrder K] {geometry : Geometry Pos K} {order : Order Nat} {objectInfos : Table Nat (SceneObject Pos)}

theorem sceneTargets_mem {attackIndex defenseIndex objectIndex : Nat} {from_ : Pos} {radius : K} {angles : K × K} :
    objectIndex ∈ (sceneTargets geometry order objectInfos attackIndex defenseIndex from_ radius angles).map TargetInfo.objectIndex ↔
      ∃ o, objectInfos.lookup objectIndex = some o ∧
        inRangeOfScene geometry attackIndex defenseIndex from_ radius angles objectIndex o = true := by
  unfold sceneTargets
  constructor
  · intro inside
    obtain ⟨info,listed,same⟩ := List.mem_map.mp inside
    obtain ⟨key,_,entry⟩ := List.mem_filterMap.mp listed
    obtain ⟨o,kept,rfl⟩ := Option.map_eq_some_iff.mp entry
    cases (same : key = objectIndex)
    exact ⟨o,Option.filter_eq_some_iff.mp kept⟩
  · rintro ⟨o,found,pass⟩
    refine List.mem_map.mpr ⟨⟨objectIndex,o.objectType,some o.guildId,some o.objectRid,none⟩,List.mem_filterMap.mpr ⟨objectIndex,?_,?_⟩,rfl⟩
    · exact Table.visit_of_found found
    · rw [found,Option.filter_some_pos pass]
      rfl

theorem inRangeOfScene_iff {attackIndex defenseIndex objectIndex : Nat} {o : SceneObject Pos} {from_ : Pos} {radius : K} {angles : K × K} :
    inRangeOfScene geometry attackIndex defenseIndex from_ radius angles objectIndex o = true ↔
      ((objectIndex ≠ attackIndex ∧ objectIndex ≠ defenseIndex) ∧ geometry.distance from_ o.pos ≤ radius) ∧
        inSector angles (direction geometry from_ o.pos) := by
  unfold inRangeOfScene
  rw [Bool.and_eq_true,Bool.and_eq_true,Bool.and_eq_true,decide_eq_true_iff,decide_eq_true_iff,decide_eq_true_iff,decide_eq_true_iff]

theorem reportedTarget_some {o : MapObject Pos K} {from_ : Pos} {radius : K} {angles : K × K} {inRangeTargets : List Nat} {info : TargetInfo}
    (reported : reportedTarget geometry from_ radius angles inRangeTargets o = some info) :
    info.objectIndex = o.objectIndex ∧ inSector angles (direction geometry from_ o.pos) := by
  unfold reportedTarget at reported
  split at reported
  next => cases reported
  next target _ =>
    split at reported
    next => cases reported
    next =>
      split at reported
      next => cases reported
      next =>
        split at reported
        next all =>
          cases reported
          exact ⟨rfl,all.1⟩
        next => cases reported

-- An object the game server would report if it is in the sector.
structure Reportable (from_ : Pos) (radius : K) (geometry : Geometry Pos K) (o : MapObject Pos K) (target : TargetObject K) : Prop where
  known : o.target = some target
  marches : target.failedMarch = false
  soldiers : 0 < target.soldierCount
  near : geometry.distance from_ o.pos-target.armyRadius ≤ radius
  idle : target.battleing = false

theorem Reportable.reported {from_ : Pos} {radius : K} {o : MapObject Pos K} {target : TargetObject K} {angles : K × K} {inRangeTargets : List Nat}
    (able : Reportable from_ radius geometry o target) (fresh : o.objectIndex ∉ inRangeTargets)
    (inside : inSector angles (direction geometry from_ o.pos)) :
    ∃ info, reportedTarget geometry from_ radius angles inRangeTargets o = some info ∧ info.objectIndex = o.objectIndex := by
  refine ⟨⟨o.objectIndex,o.objectType,target.guildId,some (target.rid.getD 0),some (target.rid.getD 0)⟩,?_,rfl⟩
  unfold reportedTarget
  rw [able.known]
  dsimp only
  rw [able.marches,decide_eq_false (not_le.mpr able.soldiers),Bool.or_false,if_neg (by decide),if_neg (not_lt.mpr able.near),
    if_pos ⟨inside,fresh,able.idle⟩]

end membership

section includes
variable {Pos K : Type} [Field K] [LinearOrder K]

-- Where an object is, for the scene and for the game server.
structure Stands (objectInfos : Table Nat (SceneObject Pos)) (mapObjects : List (MapObject Pos K)) (objectIndex : Nat) (pos : Pos) : Prop where
  scene : ∀ o, objectInfos.lookup objectIndex = some o → o.pos = pos
  map : ∀ o ∈ mapObjects, o.objectIndex = objectIndex → o.pos = pos

-- An object inside the radius is one of the scene, or one around an army of the scene.
def InRadius (geometry : Geometry Pos K) (objectInfos : Table Nat (SceneObject Pos)) (mapObjects : List (MapObject Pos K))
    (attackIndex defenseIndex : Nat) (from_ : Pos) (radius : K) (objectIndex : Nat) : Prop :=
  (∃ o, objectInfos.lookup objectIndex = some o ∧ (objectIndex ≠ attackIndex ∧ objectIndex ≠ defenseIndex) ∧
      geometry.distance from_ o.pos ≤ radius) ∨
    (objectInfos.entries.any (fun entry => entry.2.objectType = .army) = true ∧
      ∃ o ∈ mapObjects, o.objectIndex = objectIndex ∧ ∃ target, Reportable from_ radius geometry o target)

variable {geometry : Geometry Pos K} {order : Order Nat} {objectInfos : Table Nat (SceneObject Pos)} {mapObjects : List (MapObject Pos K)}

theorem reportedTargets_mem {from_ : Pos} {radius : K} {angles : K × K} {inRangeTargets : List Nat} :
    objectIndex ∈ (reportedTargets geometry objectInfos mapObjects from_ radius angles inRangeTargets).map TargetInfo.objectIndex ↔
      objectInfos.entries.any (fun entry => entry.2.objectType = .army) = true ∧
        ∃ o ∈ mapObjects, ∃ info, reportedTarget geometry from_ radius angles inRangeTargets o = some info ∧ info.objectIndex = objectIndex := by
  unfold reportedTargets
  split
  next army =>
    rw [and_iff_right army]
    constructor
    · intro listed
      obtain ⟨info,among,same⟩ := List.mem_map.mp listed
      obtain ⟨o,there,reported⟩ := List.mem_filterMap.mp among
      exact ⟨o,there,info,reported,same⟩
    · rintro ⟨o,there,info,reported,same⟩
      exact List.mem_map.mpr ⟨info,List.mem_filterMap.mpr ⟨o,there,reported⟩,same⟩
  next none => exact iff_of_false List.not_mem_nil (fun both => none both.1)

theorem inRange_iff_inSector {attackIndex defenseIndex objectIndex : Nat} {attack defense : SceneObject Pos} {pos : Pos} {radius angle : K}
    {targets : Table Nat TargetInfo} (fresh : objectIndex ∉ targets) (stands : Stands objectInfos mapObjects objectIndex pos)
    (near : InRadius geometry objectInfos mapObjects attackIndex defenseIndex attack.pos radius objectIndex) :
    objectIndex ∈ getObjectIndexsInRange geometry order objectInfos mapObjects attackIndex attack defenseIndex defense radius angle targets ↔
      inSector (sectorAngles (direction geometry attack.pos defense.pos) angle) (direction geometry attack.pos pos) := by
  unfold getObjectIndexsInRange
  dsimp only
  rw [mem_put,mem_put,or_iff_right fresh]
  constructor
  · rintro (listed | listed)
    · obtain ⟨o,found,pass⟩ := sceneTargets_mem.mp listed
      exact stands.scene o found ▸ (inRangeOfScene_iff.mp pass).2
    · obtain ⟨_,o,there,info,reported,same⟩ := reportedTargets_mem.mp listed
      obtain ⟨index,inside⟩ := reportedTarget_some reported
      exact stands.map o there (index.symm.trans same) ▸ inside
  · intro inside
    rcases near with ⟨o,found,other,close⟩ | ⟨army,o,there,rfl,target,able⟩
    · exact .inl (sceneTargets_mem.mpr ⟨o,found,inRangeOfScene_iff.mpr ⟨⟨other,close⟩,(stands.scene o found).symm ▸ inside⟩⟩)
    · by_cases listed : o.objectIndex ∈ (sceneTargets geometry order objectInfos attackIndex defenseIndex attack.pos radius
          (sectorAngles (direction geometry attack.pos defense.pos) angle)).map TargetInfo.objectIndex
      · exact .inl listed
      · obtain ⟨info,reported,same⟩ := able.reported listed ((stands.map o there rfl).symm ▸ inside)
        exact .inr (reportedTargets_mem.mpr ⟨army,o,there,info,reported,same⟩)

theorem includes_sector [IsStrictOrderedRing K] {attackIndex defenseIndex objectIndex : Nat} {attack defense : SceneObject Pos} {pos : Pos}
    {radius angle : K} {targets : Table Nat TargetInfo} (range : 0 < angle ∧ angle ≤ 360) (fresh : objectIndex ∉ targets)
    (stands : Stands objectInfos mapObjects objectIndex pos)
    (near : InRadius geometry objectInfos mapObjects attackIndex defenseIndex attack.pos radius objectIndex) :
    (objectIndex ∈ getObjectIndexsInRange geometry order objectInfos mapObjects attackIndex attack defenseIndex defense radius angle targets ↔
        angularGap (direction geometry attack.pos pos) (direction geometry attack.pos defense.pos) ≤ angle/2) ↔
      Unwrapped (direction geometry attack.pos defense.pos) angle (direction geometry attack.pos pos) := by
  rw [inRange_iff_inSector fresh stands near]
  exact sector_iff range (direction_range geometry _ _) (direction_range geometry _ _)

end includes

-- Positions that lie straight or square to each other have these distances and directions.
def grid : Geometry (ℤ × ℤ) ℚ where
  distance from_ to_ := |((to_.1-from_.1 : ℤ) : ℚ)|+|((to_.2-from_.2 : ℤ) : ℚ)|
  cacleAnagle from_ to_ := if to_.2 = from_.2 then (if to_.1 < from_.1 then 180 else 0) else if to_.2 < from_.2 then -90 else 90
  turn from_ to_ := by
    split
    · split
      · exact ⟨by norm_num,by norm_num⟩
      · exact ⟨by norm_num,by norm_num⟩
    · split
      · exact ⟨by norm_num,by norm_num⟩
      · exact ⟨by norm_num,by norm_num⟩

-- An archer, its target and one more object, each where it is told.
def ranks (target other : ℤ × ℤ) : Table Nat (SceneObject (ℤ × ℤ)) :=
  ((∅ : Table Nat (SceneObject (ℤ × ℤ))).insert 1 ⟨.army,0,7,(0,0)⟩).insert 2 ⟨.monster,0,0,target⟩ |>.insert 3 ⟨.monster,0,0,other⟩

theorem ranks_near (target other : ℤ × ℤ) (close : grid.distance (0,0) other ≤ 20) :
    Stands (ranks target other) ([] : List (MapObject (ℤ × ℤ) ℚ)) 3 other ∧ InRadius grid (ranks target other) [] 1 2 (0,0) 20 3 := by
  have there : (ranks target other).lookup 3 = some ⟨.monster,0,0,other⟩ := AList.lookup_insert _
  refine ⟨⟨fun o found => ?_,fun o among => absurd among List.not_mem_nil⟩,.inl ⟨_,there,by decide,close⟩⟩
  rw [there] at found
  cases found
  rfl

theorem square_included :
    (3 ∈ getObjectIndexsInRange grid .stored (ranks (0,5) (5,0)) [] 1 ⟨.army,0,7,(0,0)⟩ 2 ⟨.monster,0,0,(0,5)⟩ 20 180 ∅ ↔
        angularGap (direction grid (0,0) (5,0)) (direction grid (0,0) (0,5)) ≤ 180/2) ↔
      Unwrapped (direction grid (0,0) (0,5)) 180 (direction grid (0,0) (5,0)) := by
  obtain ⟨stands,near⟩ := ranks_near (0,5) (5,0) (by decide +kernel)
  exact includes_sector ⟨by norm_num,by norm_num⟩ (AList.notMem_empty _) stands near

-- A quarter around direction 0 does not hold what stands right behind the target.
theorem straight_missed :
    ¬(3 ∈ getObjectIndexsInRange grid .stored (ranks (5,0) (10,0)) [] 1 ⟨.army,0,7,(0,0)⟩ 2 ⟨.monster,0,0,(5,0)⟩ 20 90 ∅ ↔
      angularGap (direction grid (0,0) (10,0)) (direction grid (0,0) (5,0)) ≤ 90/2) := by
  decide +kernel

end OriginGame.SkillTargets
