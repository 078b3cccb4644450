import OriginGame.BuffAttr

namespace OriginGame.BattleBuff

-- All statuses of one positive overlay type have one rule, and so have those of a status
-- type with a rule that replaces lower levels.
structure Uniform (cfg : Config) : Prop where
  overlay : ∀ one other s t, cfg.status one = some s → cfg.status other = some t → 0 < s.overlayType → t.overlayType = s.overlayType →
    t.coexistRule = s.coexistRule
  type : ∀ one other s t, cfg.status one = some s → cfg.status other = some t →
    s.coexistRule = some .oneReplaceLow ∨ s.coexistRule = some .twoReplaceLow → t.type = s.type → t.coexistRule = s.coexistRule

-- Buffs of which only one may be there.
def Excludes (rule : StatusCoExist) (one other : Buff) : Prop :=
  match rule with
  | .oneReplace => 0 < one.overlayType ∧ other.overlayType = one.overlayType
  | .threeOverlay => 0 < one.overlayType ∧ other.overlayType = one.overlayType
  | .twoReplace => 0 < one.overlayType ∧ other.overlayType = one.overlayType ∧ other.addObjectIndex = one.addObjectIndex
  | .threeOverlayReplace => 0 < one.overlayType ∧ other.overlayType = one.overlayType ∧ other.addObjectIndex = one.addObjectIndex
  | .oneReplaceLow => other.type = one.type
  | .twoReplaceLow => other.type = one.type ∧ other.addObjectIndex = one.addObjectIndex

structure Coexist (cfg : Config) (buffs : List Buff) : Prop where
  alone : ∀ (i j : Nat) one other s rule, buffs[i]? = some one → buffs[j]? = some other → cfg.status one.statusId = some s →
    s.coexistRule = some rule → Excludes rule one other → i = j
  layers : ∀ buff ∈ buffs, ∀ s, cfg.status buff.statusId = some s → 1 ≤ buff.overlay ∧ buff.overlay ≤ max 1 s.overlay

-- What a rule keeps apart: an overlay type or a status type, of any caster or of one.
structure Slot where
  byType : Bool
  kind : Int
  caster : Option ObjectIndex
  deriving DecidableEq, Repr

def ruleSlot (rule : StatusCoExist) (buff : Buff) : Option Slot :=
  match rule with
  | .oneReplace => if 0 < buff.overlayType then some ⟨false,buff.overlayType,none⟩ else none
  | .threeOverlay => if 0 < buff.overlayType then some ⟨false,buff.overlayType,none⟩ else none
  | .twoReplace => if 0 < buff.overlayType then some ⟨false,buff.overlayType,some buff.addObjectIndex⟩ else none
  | .threeOverlayReplace => if 0 < buff.overlayType then some ⟨false,buff.overlayType,some buff.addObjectIndex⟩ else none
  | .oneReplaceLow => some ⟨true,buff.type,none⟩
  | .twoReplaceLow => some ⟨true,buff.type,some buff.addObjectIndex⟩

def slot (cfg : Config) (buff : Buff) : Option Slot :=
  match cfg.status buff.statusId with
  | none => none
  | some s => match s.coexistRule with
    | none => none
    | some rule => ruleSlot rule buff

-- One buff at most for each slot.
structure Distinct (cfg : Config) (buffs : List Buff) : Prop where
  known : ∀ buff ∈ buffs, ∃ s, cfg.status buff.statusId = some s ∧ buff.overlayType = s.overlayType ∧ buff.type = s.type
  slots : (buffs.filterMap (slot cfg)).Nodup
  layers : ∀ buff ∈ buffs, ∀ s, cfg.status buff.statusId = some s → 1 ≤ buff.overlay ∧ buff.overlay ≤ max 1 s.overlay

section slots
variable {cfg : Config} {buffs : List Buff}

theorem slot_rule (found : cfg.status buff.statusId = some s) (ruled : s.coexistRule = some rule) :
    slot cfg buff = ruleSlot rule buff := by
  simp only [slot,found,ruled]

theorem filterMap_unique {f : α → Option β} {xs : List α} {i j : Nat} (distinct : (xs.filterMap f).Nodup) (one : xs[i]? = some x)
    (other : xs[j]? = some y) (first : f x = some k) (second : f y = some k) : i = j := by
  induction xs generalizing i j with
  | nil => cases one
  | cons head rest ih =>
    have tail : (rest.filterMap f).Nodup := by
      cases kept : f head with
      | none =>
        rw [List.filterMap_cons_none kept] at distinct
        exact distinct
      | some value =>
        rw [List.filterMap_cons_some kept] at distinct
        exact distinct.of_cons
    have apart (place : Nat) (z : α) (there : rest[place]? = some z) (same : f z = some k) : f head ≠ some k := by
      intro here
      rw [List.filterMap_cons_some here] at distinct
      exact (List.nodup_cons.mp distinct).1 (List.mem_filterMap.mpr ⟨z,List.mem_of_getElem? there,same⟩)
    cases i with
    | zero =>
      cases j with
      | zero => rfl
      | succ j =>
        cases one
        exact absurd first (apart j y other second)
    | succ i =>
      cases j with
      | zero =>
        cases other
        exact absurd second (apart i x one first)
      | succ j => rw [ih tail one other]

theorem filterMap_eraseIdx {f : α → Option β} {xs : List α} {i : Nat} (distinct : (xs.filterMap f).Nodup) (place : xs[i]? = some x)
    (here : f x = some k) : k ∉ (xs.eraseIdx i).filterMap f := by
  intro inside
  obtain ⟨y,left,same⟩ := List.mem_filterMap.mp inside
  obtain ⟨j,there⟩ := List.getElem?_of_mem left
  rw [List.getElem?_eraseIdx] at there
  split at there
  · rename_i before
    have equal := filterMap_unique distinct place there here same
    omega
  · rename_i after
    have equal := filterMap_unique distinct place there here same
    omega

theorem Excludes.slot (uniform : Uniform cfg) (distinct : Distinct cfg buffs) (first : one ∈ buffs) (second : other ∈ buffs)
    (found : cfg.status one.statusId = some s) (ruled : s.coexistRule = some rule) (excludes : Excludes rule one other) :
    ∃ k, slot cfg one = some k ∧ slot cfg other = some k := by
  obtain ⟨s',found',overlay,type⟩ := distinct.known one first
  rw [found] at found'
  cases found'
  obtain ⟨t,there,overlay',type'⟩ := distinct.known other second
  have byOverlay (positive : 0 < one.overlayType) (same : other.overlayType = one.overlayType) : t.coexistRule = some rule := by
    rw [uniform.overlay _ _ s t found there (by omega) (by omega),ruled]
  have byType (low : s.coexistRule = some .oneReplaceLow ∨ s.coexistRule = some .twoReplaceLow) (same : other.type = one.type) :
      t.coexistRule = some rule := by
    rw [uniform.type _ _ s t found there low (by omega),ruled]
  rw [slot_rule found ruled]
  cases rule with
  | oneReplace =>
    obtain ⟨positive,same⟩ := excludes
    exact ⟨_,if_pos positive,by rw [slot_rule there (byOverlay positive same),ruleSlot,same,if_pos positive]⟩
  | threeOverlay =>
    obtain ⟨positive,same⟩ := excludes
    exact ⟨_,if_pos positive,by rw [slot_rule there (byOverlay positive same),ruleSlot,same,if_pos positive]⟩
  | twoReplace =>
    obtain ⟨positive,same,caster⟩ := excludes
    exact ⟨_,if_pos positive,by rw [slot_rule there (byOverlay positive same),ruleSlot,same,caster,if_pos positive]⟩
  | threeOverlayReplace =>
    obtain ⟨positive,same,caster⟩ := excludes
    exact ⟨_,if_pos positive,by rw [slot_rule there (byOverlay positive same),ruleSlot,same,caster,if_pos positive]⟩
  | oneReplaceLow => exact ⟨_,rfl,by rw [slot_rule there (byType (.inl ruled) excludes),ruleSlot,excludes]⟩
  | twoReplaceLow =>
    obtain ⟨same,caster⟩ := excludes
    exact ⟨_,rfl,by rw [slot_rule there (byType (.inr ruled) same),ruleSlot,same,caster]⟩

theorem Distinct.coexist (uniform : Uniform cfg) (distinct : Distinct cfg buffs) : Coexist cfg buffs := by
  refine ⟨?_,distinct.layers⟩
  intro i j one other s rule first second found ruled excludes
  obtain ⟨k,here,there⟩ := excludes.slot uniform distinct (List.mem_of_getElem? first) (List.mem_of_getElem? second) found ruled
  exact filterMap_unique distinct.slots first second here there

theorem Distinct.sublist (distinct : Distinct cfg buffs) (part : after.Sublist buffs) : Distinct cfg after :=
  ⟨fun buff inside => distinct.known buff (part.subset inside),distinct.slots.sublist (part.filterMap _),
    fun buff inside => distinct.layers buff (part.subset inside)⟩

theorem Distinct.append (distinct : Distinct cfg buffs) (found : cfg.status buff.statusId = some s)
    (overlay : buff.overlayType = s.overlayType) (type : buff.type = s.type) (single : buff.overlay = 1)
    (fresh : ∀ k, slot cfg buff = some k → k ∉ buffs.filterMap (slot cfg)) : Distinct cfg (buffs++[buff]) := by
  refine ⟨?_,?_,?_⟩
  · intro other inside
    rcases List.mem_append.mp inside with inside | inside
    · exact distinct.known other inside
    · cases List.mem_singleton.mp inside
      exact ⟨s,found,overlay,type⟩
  · rw [List.filterMap_append]
    cases its : slot cfg buff with
    | none =>
      rw [List.filterMap_cons_none its,List.filterMap_nil,List.append_nil]
      exact distinct.slots
    | some k =>
      rw [List.filterMap_cons_some its,List.filterMap_nil]
      exact List.nodup_append.mpr ⟨distinct.slots,List.nodup_singleton k,by
        intro a inside b last equal
        cases List.mem_singleton.mp last
        rw [equal] at inside
        exact fresh k its inside⟩
  · intro other inside t there
    rcases List.mem_append.mp inside with inside | inside
    · exact distinct.layers other inside t there
    · cases List.mem_singleton.mp inside
      rw [single]
      exact ⟨Int.le_refl 1,Int.le_max_left 1 _⟩

-- Shields and turns change no slot.
def core (buff : Buff) : Buff := {buff with shiled:=0, turn:=0}

theorem Distinct.congr (distinct : Distinct cfg buffs) (same : after.map core = buffs.map core) : Distinct cfg after := by
  have slots (list : List Buff) : list.filterMap (slot cfg) = (list.map core).filterMap (slot cfg) := by
    rw [List.filterMap_map]
    rfl
  have from_core (buff : Buff) (inside : buff ∈ after) : ∃ before ∈ buffs, core before = core buff :=
    List.mem_map.mp (same ▸ List.mem_map_of_mem inside)
  refine ⟨?_,?_,?_⟩
  · intro buff inside
    obtain ⟨before,was,equal⟩ := from_core buff inside
    obtain ⟨s,found,overlay,type⟩ := distinct.known before was
    refine ⟨s,?_,?_,?_⟩
    · rw [← found]
      exact congrArg (fun b => cfg.status b.statusId) equal.symm
    · have its : (core buff).overlayType = (core before).overlayType := by rw [equal]
      exact its.trans overlay
    · have its : (core buff).type = (core before).type := by rw [equal]
      exact its.trans type
  · rw [slots after,same,← slots buffs]
    exact distinct.slots
  · intro buff inside s found
    obtain ⟨before,was,equal⟩ := from_core buff inside
    have there : cfg.status before.statusId = some s := by
      rw [← found]
      exact congrArg (fun b => cfg.status b.statusId) equal
    have layers : (core before).overlay = (core buff).overlay := by rw [equal]
    change before.overlay = buff.overlay at layers
    rw [← layers]
    exact distinct.layers before was s there

theorem absorb_core (damage : Int) (index : Nat) (buffs : List Buff) : (absorb damage index buffs).1.map core = buffs.map core := by
  induction buffs generalizing damage index with
  | nil => rfl
  | cons buff rest ih =>
    unfold absorb
    split
    · split
      · simp only [List.map_cons,ih]
        rfl
      · simp only [List.map_cons,ih]
    · simp only [List.map_cons,ih]

theorem subTurn_core (index : Nat) (buffs : List Buff) : (subTurn index buffs).1.map core = buffs.map core := by
  induction buffs generalizing index with
  | nil => rfl
  | cons buff rest ih =>
    unfold subTurn
    simp only
    split
    · simp only [List.map_cons,ih]
      rfl
    · simp only [List.map_cons,ih]

end slots

section adding
variable {cfg : Config} {buffs : List Buff}

theorem overlay_none {caster : Option ObjectIndex} (missing : checkBuffExistByOverlay buffs kind caster = none) (inside : buff ∈ buffs) :
    ¬(0 < kind ∧ kind = buff.overlayType ∧ ∀ c ∈ caster, c = buff.addObjectIndex) := by
  have no := List.findIdx?_eq_none_iff.mp missing buff inside
  rintro ⟨positive,rfl,mine⟩
  cases caster with
  | none => simp [positive] at no
  | some c => simp [positive,mine c rfl] at no

theorem overlay_some {caster : Option ObjectIndex} (found : checkBuffExistByOverlay buffs kind caster = some place) :
    ∃ buff, buffs[place]? = some buff ∧ 0 < kind ∧ kind = buff.overlayType ∧ ∀ c ∈ caster, c = buff.addObjectIndex := by
  obtain ⟨inside,holds,_⟩ := List.findIdx?_eq_some_iff_getElem.mp found
  refine ⟨buffs[place],List.getElem?_eq_getElem inside,?_⟩
  simp only [Bool.and_eq_true,decide_eq_true_eq,beq_iff_eq] at holds
  refine ⟨holds.1.1,holds.1.2,?_⟩
  intro c mem
  cases mem
  simpa using holds.2

theorem low_none {caster : Option ObjectIndex} (missing : checkBuffExistLowLevelByOverlay cfg buffs level type caster = none)
    (inside : buff ∈ buffs) (found : cfg.status buff.statusId = some s) :
    ¬(buff.type = type ∧ s.level ≤ level ∧ ∀ c ∈ caster, c = buff.addObjectIndex) := by
  have no := List.findIdx?_eq_none_iff.mp missing buff inside
  rintro ⟨same,low,mine⟩
  cases caster with
  | none => simp [same,found,low] at no
  | some c => simp [same,found,low,mine c rfl] at no

theorem low_some {caster : Option ObjectIndex} (found : checkBuffExistLowLevelByOverlay cfg buffs level type caster = some place) :
    ∃ buff, buffs[place]? = some buff ∧ buff.type = type ∧ ∀ c ∈ caster, c = buff.addObjectIndex := by
  obtain ⟨inside,holds,_⟩ := List.findIdx?_eq_some_iff_getElem.mp found
  refine ⟨buffs[place],List.getElem?_eq_getElem inside,?_⟩
  simp only [Bool.and_eq_true,beq_iff_eq] at holds
  refine ⟨holds.1.1,?_⟩
  intro c mem
  cases mem
  simpa using holds.2

-- A buff in an overlay slot has its type, and its caster if the slot has one.
theorem slot_overlay (held : slot cfg buff = some ⟨false,kind,caster⟩) :
    0 < kind ∧ kind = buff.overlayType ∧ ∀ c ∈ caster, c = buff.addObjectIndex := by
  unfold slot at held
  split at held
  · cases held
  · split at held
    · cases held
    · rename_i rule _
      cases rule <;> simp only [ruleSlot,Option.some.injEq,Slot.mk.injEq] at held
      case oneReplace | threeOverlay =>
        split at held <;> simp at held
        obtain ⟨rfl,rfl⟩ := held
        exact ⟨by assumption,rfl,by simp⟩
      case twoReplace | threeOverlayReplace =>
        split at held <;> simp at held
        obtain ⟨rfl,rfl⟩ := held
        exact ⟨by assumption,rfl,by simp⟩
      case oneReplaceLow | twoReplaceLow => simp at held

theorem slot_type (held : slot cfg buff = some ⟨true,kind,caster⟩) : buff.type = kind ∧ ∀ c ∈ caster, c = buff.addObjectIndex := by
  unfold slot at held
  split at held
  · cases held
  · split at held
    · cases held
    · rename_i rule _
      cases rule <;> simp only [ruleSlot,Option.some.injEq,Slot.mk.injEq] at held
      case oneReplace | threeOverlay | twoReplace | threeOverlayReplace =>
        split at held <;> simp at held
      case oneReplaceLow | twoReplaceLow =>
        obtain ⟨_,same,rfl⟩ := held
        exact ⟨same,by simp⟩

-- The slot of a buff that is added.
def newSlot (s : Status) (caster : ObjectIndex) : Option Slot :=
  match s.coexistRule with
  | none => none
  | some .oneReplace => if 0 < s.overlayType then some ⟨false,s.overlayType,none⟩ else none
  | some .threeOverlay => if 0 < s.overlayType then some ⟨false,s.overlayType,none⟩ else none
  | some .twoReplace => if 0 < s.overlayType then some ⟨false,s.overlayType,some caster⟩ else none
  | some .threeOverlayReplace => if 0 < s.overlayType then some ⟨false,s.overlayType,some caster⟩ else none
  | some .oneReplaceLow => some ⟨true,s.type,none⟩
  | some .twoReplaceLow => some ⟨true,s.type,some caster⟩

theorem slot_new (found : cfg.status statusId = some s) (o : Object) (sceneTurn : Nat) (caster : ObjectIndex) (buffTurn : Option Int)
    (rolls : Rolls) : slot cfg (newBuff cfg o sceneTurn caster statusId s buffTurn rolls) = newSlot s caster := by
  have itself : cfg.status (newBuff cfg o sceneTurn caster statusId s buffTurn rolls).statusId = some s := found
  simp only [slot,itself,newSlot]
  cases s.coexistRule with
  | none => rfl
  | some rule => cases rule <;> rfl

-- No buff of the slot is there, or the one that is found there.
structure Finds (cfg : Config) (buffs : List Buff) (new : Option Slot) (exist : Option Nat) : Prop where
  missing : exist = none → ∀ k, new = some k → ∀ buff ∈ buffs, slot cfg buff ≠ some k
  there : ∀ place, exist = some place → ∃ buff, buffs[place]? = some buff ∧ ∀ k, new = some k → slot cfg buff = some k

theorem overlay_finds (uniform : Uniform cfg) (distinct : Distinct cfg buffs) (found : cfg.status statusId = some s)
    (ruled : s.coexistRule = some rule) (caster : Option ObjectIndex)
    (new : newSlot s adder = if 0 < s.overlayType then some ⟨false,s.overlayType,caster⟩ else none)
    (same : ∀ buff, 0 < s.overlayType → buff.overlayType = s.overlayType → (∀ c ∈ caster, c = buff.addObjectIndex) →
      ruleSlot rule buff = some ⟨false,s.overlayType,caster⟩) :
    Finds cfg buffs (newSlot s adder) (checkBuffExistByOverlay buffs s.overlayType caster) := by
  rw [new]
  refine ⟨?_,?_⟩
  · intro missing k its buff inside held
    split at its
    · cases its
      exact overlay_none missing inside (slot_overlay held)
    · cases its
  · intro place exists_there
    obtain ⟨buff,at_place,positive,kind,mine⟩ := overlay_some exists_there
    refine ⟨buff,at_place,?_⟩
    intro k its
    rw [if_pos positive] at its
    cases its
    obtain ⟨t,known,overlay,_⟩ := distinct.known buff (List.mem_of_getElem? at_place)
    have shared := uniform.overlay _ _ s t found known positive (by omega)
    rw [slot_rule known (shared.trans ruled)]
    exact same buff positive kind.symm mine

theorem low_finds (uniform : Uniform cfg) (distinct : Distinct cfg buffs) (found : cfg.status statusId = some s)
    (ruled : s.coexistRule = some rule) (low : rule = .oneReplaceLow ∨ rule = .twoReplaceLow) (caster : Option ObjectIndex)
    (new : newSlot s adder = some ⟨true,s.type,caster⟩)
    (lower : ∀ buff ∈ buffs, buff.type = s.type → (∀ c ∈ caster, c = buff.addObjectIndex) → ∀ t, cfg.status buff.statusId = some t →
      t.level ≤ s.level)
    (same : ∀ buff, buff.type = s.type → (∀ c ∈ caster, c = buff.addObjectIndex) → ruleSlot rule buff = some ⟨true,s.type,caster⟩) :
    Finds cfg buffs (newSlot s adder) (checkBuffExistLowLevelByOverlay cfg buffs s.level s.type caster) := by
  rw [new]
  refine ⟨?_,?_⟩
  · intro missing k its buff inside held
    cases its
    obtain ⟨kind,mine⟩ := slot_type held
    obtain ⟨t,known,_⟩ := distinct.known buff inside
    exact low_none missing inside known ⟨kind,lower buff inside kind mine t known,mine⟩
  · intro place exists_there
    obtain ⟨buff,at_place,kind,mine⟩ := low_some exists_there
    refine ⟨buff,at_place,?_⟩
    intro k its
    cases its
    obtain ⟨t,known,_,type⟩ := distinct.known buff (List.mem_of_getElem? at_place)
    have its_rule : s.coexistRule = some .oneReplaceLow ∨ s.coexistRule = some .twoReplaceLow := by
      rcases low with rfl | rfl
      · exact .inl ruled
      · exact .inr ruled
    have shared := uniform.type _ _ s t found known its_rule (by omega)
    rw [slot_rule known (shared.trans ruled)]
    exact same buff kind mine

variable {o : Object}

theorem addBuffImpl_distinct (distinct : Distinct cfg o.buffs) (found : cfg.status statusId = some s)
    (fresh : ∀ k, newSlot s caster = some k → ∀ buff ∈ o.buffs, slot cfg buff ≠ some k) :
    Distinct cfg (addBuffImpl cfg o sceneTurn caster statusId s buffTurn rolls).buffs := by
  refine distinct.append found rfl rfl rfl ?_
  intro k its inside
  rw [slot_new found] at its
  obtain ⟨buff,there,held⟩ := List.mem_filterMap.mp inside
  exact fresh k its buff there held

theorem replaceBuff_distinct (distinct : Distinct cfg o.buffs) (found : cfg.status statusId = some s)
    (finds : Finds cfg o.buffs (newSlot s caster) exist) :
    Distinct cfg (replaceBuff cfg o sceneTurn caster statusId s exist rolls).buffs := by
  cases exist with
  | none => exact addBuffImpl_distinct distinct found (finds.missing rfl)
  | some place =>
    obtain ⟨buff,at_place,held⟩ := finds.there place rfl
    have left : Distinct cfg (o.buffs.eraseIdx place) := distinct.sublist (List.eraseIdx_sublist _ _)
    have shorter : Distinct cfg ({o with buffs:=o.buffs.eraseIdx place} : Object).buffs := left
    refine addBuffImpl_distinct shorter found ?_
    intro k its other inside same
    exact filterMap_eraseIdx distinct.slots at_place (held k its) (List.mem_filterMap.mpr ⟨other,inside,same⟩)

-- One more layer is in the same slot.
theorem modify_slots (list : List Buff) (place : Nat) :
    (list.modify place (fun buff => {buff with overlay:=buff.overlay+1})).filterMap (slot cfg) = list.filterMap (slot cfg) := by
  induction list generalizing place with
  | nil => rw [List.modify_nil]
  | cons head rest ih =>
    cases place with
    | zero =>
      rw [List.modify_zero_cons,List.filterMap_cons,List.filterMap_cons]
      rfl
    | succ place => rw [List.modify_succ_cons,List.filterMap_cons,List.filterMap_cons,ih]

theorem restack_distinct (distinct : Distinct cfg o.buffs)
    (room : ∀ buff, o.buffs[place]? = some buff → ∀ s, cfg.status buff.statusId = some s → buff.overlay < s.overlay) :
    Distinct cfg (restack o place).buffs := by
  have either (buff : Buff) (inside : buff ∈ (restack o place).buffs) : buff ∈ o.buffs ∨
      ∃ before, o.buffs[place]? = some before ∧ buff = {before with overlay:=before.overlay+1} := by
    obtain ⟨j,there⟩ := List.getElem?_of_mem inside
    change (o.buffs.modify place _)[j]? = some buff at there
    by_cases same : place = j
    · subst same
      rw [List.getElem?_modify_eq] at there
      cases found : o.buffs[place]? with
      | none =>
        rw [found] at there
        cases there
      | some before =>
        rw [found] at there
        cases there
        exact .inr ⟨before,rfl,rfl⟩
    · rw [List.getElem?_modify_ne _ _ same] at there
      exact .inl (List.mem_of_getElem? there)
  refine ⟨?_,?_,?_⟩
  · intro buff inside
    rcases either buff inside with old | ⟨before,there,rfl⟩
    · exact distinct.known buff old
    · exact distinct.known before (List.mem_of_getElem? there)
  · change (List.filterMap (slot cfg) (o.buffs.modify place _)).Nodup
    rw [modify_slots]
    exact distinct.slots
  · intro buff inside s found
    rcases either buff inside with old | ⟨before,there,rfl⟩
    · exact distinct.layers buff old s found
    · have bounds := distinct.layers before (List.mem_of_getElem? there) s found
      have below := room before there s found
      change 1 ≤ before.overlay+1 ∧ before.overlay+1 ≤ max 1 s.overlay
      omega

-- No buff of the type has a higher level, and a buff that gets a layer is below its own limit.
def Fits (cfg : Config) (o : Object) (caster : ObjectIndex) (statusId : StatusId) (rolls : Rolls) : Prop :=
  (∀ s, admitted cfg o statusId rolls = some s → s.coexistRule = some .oneReplaceLow →
    ∀ buff ∈ o.buffs, buff.type = s.type → ∀ t, cfg.status buff.statusId = some t → t.level ≤ s.level) ∧
  (∀ s, admitted cfg o statusId rolls = some s → s.coexistRule = some .twoReplaceLow →
    ∀ buff ∈ o.buffs, buff.type = s.type → buff.addObjectIndex = caster → ∀ t, cfg.status buff.statusId = some t → t.level ≤ s.level) ∧
  ∀ place, stackedAt cfg o caster statusId rolls = some place → ∀ buff, o.buffs[place]? = some buff →
    ∀ t, cfg.status buff.statusId = some t → buff.overlay < t.overlay

theorem admitted_status (passed : admitted cfg o statusId rolls = some s) : cfg.status statusId = some s := by
  unfold admitted at passed
  split at passed
  · cases passed
  · rename_i found
    split at passed
    · cases passed
    · split at passed
      · cases passed
        exact found
      · cases passed

-- A rule for all casters finds the buff of its overlay type, a rule for each one finds the caster's own.
theorem overlay_anyone (uniform : Uniform cfg) (distinct : Distinct cfg o.buffs) (found : cfg.status statusId = some s)
    (ruled : s.coexistRule = some .oneReplace ∨ s.coexistRule = some .threeOverlay) (caster : ObjectIndex) :
    Finds cfg o.buffs (newSlot s caster) (checkBuffExistByOverlay o.buffs s.overlayType none) := by
  rcases ruled with ruled | ruled
  all_goals
    refine overlay_finds uniform distinct found ruled none ?_ ?_
    · simp only [newSlot,ruled]
    · intro buff positive kind _
      rw [ruleSlot,kind,if_pos positive]

theorem overlay_mine (uniform : Uniform cfg) (distinct : Distinct cfg o.buffs) (found : cfg.status statusId = some s)
    (ruled : s.coexistRule = some .twoReplace ∨ s.coexistRule = some .threeOverlayReplace) (caster : ObjectIndex) :
    Finds cfg o.buffs (newSlot s caster) (checkBuffExistByOverlay o.buffs s.overlayType (some caster)) := by
  rcases ruled with ruled | ruled
  all_goals
    refine overlay_finds uniform distinct found ruled (some caster) ?_ ?_
    · simp only [newSlot,ruled]
    · intro buff positive kind its
      rw [ruleSlot,kind,if_pos positive,its caster rfl]

theorem addBuff_distinct (uniform : Uniform cfg) (distinct : Distinct cfg o.buffs) (fits : Fits cfg o caster statusId rolls) :
    Distinct cfg (addBuff cfg o sceneTurn caster statusId rolls).buffs := by
  obtain ⟨anyone,mine,room⟩ := fits
  unfold addBuff
  cases passed : admitted cfg o statusId rolls with
  | none => exact distinct
  | some s =>
    have found := admitted_status passed
    simp only [stackedAt,passed] at room
    simp only [addStatus]
    cases ruled : s.coexistRule with
    | none =>
      refine addBuffImpl_distinct distinct found ?_
      intro k its
      simp only [newSlot,ruled] at its
      cases its
    | some rule =>
      cases rule with
      | oneReplace =>
        exact replaceBuff_distinct distinct found (overlay_anyone uniform distinct found (.inl ruled) caster)
      | twoReplace =>
        exact replaceBuff_distinct distinct found (overlay_mine uniform distinct found (.inl ruled) caster)
      | oneReplaceLow =>
        refine replaceBuff_distinct distinct found (low_finds uniform distinct found ruled (.inl rfl) none ?_ ?_ ?_)
        · simp only [newSlot,ruled]
        · intro buff inside kind _ t known
          exact anyone s passed ruled buff inside kind t known
        · intro buff kind _
          rw [ruleSlot,kind]
      | twoReplaceLow =>
        refine replaceBuff_distinct distinct found (low_finds uniform distinct found ruled (.inr rfl) (some caster) ?_ ?_ ?_)
        · simp only [newSlot,ruled]
        · intro buff inside kind its t known
          exact mine s passed ruled buff inside kind (its caster rfl).symm t known
        · intro buff kind its
          rw [ruleSlot,kind,its caster rfl]
      | threeOverlay =>
        simp only [ruled] at room ⊢
        have finds := overlay_anyone uniform distinct found (.inr ruled) caster
        cases exist : checkBuffExistByOverlay o.buffs s.overlayType none with
        | none => exact addBuffImpl_distinct distinct found (finds.missing exist)
        | some place =>
          simp only
          split
          · rename_i below
            exact restack_distinct distinct (room place (by rw [exist,Option.filter_some,if_pos (by simpa using below)]))
          · exact distinct
      | threeOverlayReplace =>
        simp only [ruled] at room ⊢
        have finds := overlay_mine uniform distinct found (.inr ruled) caster
        cases exist : checkBuffExistByOverlay o.buffs s.overlayType (some caster) with
        | none => exact addBuffImpl_distinct distinct found (finds.missing exist)
        | some place =>
          simp only
          split
          · rename_i layered
            exact restack_distinct distinct (room place (by rw [exist,Option.filter_some,if_pos (by simpa using layered)]))
          · exact distinct

end adding

section scene
variable {cfg : Config} {s : Scene}

-- Objects come without buffs.
def Bare : Label → Prop
  | .join _ info => info.battleBuff = []
  | _ => True

def Orderly (cfg : Config) (s : Scene) : Label → Prop
  | .addBuff caster object statusId rolls => ∀ o, s.objectInfos.lookup object = some o → Fits cfg o caster statusId rolls
  | _ => True

def AllDistinct (cfg : Config) (s : Scene) : Prop := ∀ object o, s.objectInfos.lookup object = some o → Distinct cfg o.buffs

theorem insert_distinct {infos : Table ObjectIndex Object} (object : ObjectIndex) (new : Object)
    (all : ∀ other o, infos.lookup other = some o → Distinct cfg o.buffs) (kept : Distinct cfg new.buffs) (other : ObjectIndex) (o : Object)
    (found : (infos.insert object new).lookup other = some o) : Distinct cfg o.buffs := by
  rcases Table.found_insert found with ⟨rfl,rfl⟩ | ⟨_,found⟩
  · exact kept
  · exact all other o found

theorem change_distinct (all : AllDistinct cfg s) (object : ObjectIndex) (f : Object → Object)
    (kept : ∀ o, s.objectInfos.lookup object = some o → Distinct cfg o.buffs → Distinct cfg (f o).buffs) :
    AllDistinct cfg (change s object f) := by
  unfold change
  split
  · exact all
  · rename_i o found
    exact insert_distinct object (f o) all (kept o found (all object o found))

theorem begin_distinct (all : AllDistinct cfg s) (object : ObjectIndex) (flags : Bool) (choose : List Buff → List Buff × List Nat)
    (same : ∀ buffs, (choose buffs).1.map core = buffs.map core) : AllDistinct cfg (begin s object flags choose) := by
  unfold begin
  split
  · exact all
  · rename_i o found
    intro other after there
    refine change_distinct all object _ ?_ other after there
    intro before is_there distinct
    rw [found] at is_there
    cases is_there
    exact distinct.congr (same o.buffs)

theorem removeBuff_distinct {o : Object} (distinct : Distinct cfg o.buffs) (place : Nat) : Distinct cfg (removeBuff cfg o place).buffs := by
  unfold removeBuff
  split
  · exact distinct.sublist (List.eraseIdx_sublist _ _)
  · exact distinct

theorem ended_distinct {o : Object} (distinct : Distinct cfg o.buffs) (frame : Frame) : Distinct cfg (ended cfg frame o).buffs := by
  unfold ended
  split <;> exact distinct

theorem next_distinct (uniform : Uniform cfg) (all : AllDistinct cfg s) (bare : Bare label) (orderly : Orderly cfg s label) :
    AllDistinct cfg (next cfg s label) := by
  cases label with
  | join object info =>
    refine insert_distinct object (create cfg object info) all ?_
    change Distinct cfg (info.battleBuff.filterMap (createBuff cfg object))
    rw [show info.battleBuff = [] from bare]
    refine ⟨?_,List.nodup_nil,?_⟩
    · intro buff inside
      cases inside
    · intro buff inside
      cases inside
  | exit object =>
    intro other o found
    change (s.objectInfos.erase object).lookup other = some o at found
    obtain ⟨_,found⟩ := Table.found_erase found
    exact all other o found
  | syncObjectAttr object objectAttr => exact change_distinct all object _ (fun _ _ distinct => distinct)
  | syncObjectHeroAndSkill object skills talentAttr => exact change_distinct all object _ (fun _ _ distinct => distinct)
  | nextTurn => exact all
  | addBuff caster object statusId rolls =>
    apply change_distinct all object
    intro o found distinct
    exact addBuff_distinct uniform distinct (orderly o found)
  | delete object deletion delRate delCount rolls => exact begin_distinct all object true _ (fun _ => rfl)
  | cacleShiled object damage => exact begin_distinct all object false _ (absorb_core damage 0)
  | turnOverSubStatusTurn object => exact begin_distinct all object false _ (subTurn_core 0)
  | remove hit =>
    simp only [next]
    split
    · rename_i object place rest any flags moved frames top
      have before : AllDistinct cfg {s with frames:=frames} := all
      refine change_distinct before object _ ?_
      intro o _ distinct
      split
      · exact removeBuff_distinct distinct _
      · exact distinct
    · exact all
  | finish =>
    simp only [next]
    split
    · rename_i object any flags moved frames top
      have before : AllDistinct cfg {s with frames:=frames} := all
      exact change_distinct before object _ (fun o _ distinct => ended_distinct distinct _)
    · exact all

theorem buffs_coexist (cfg : Config) (uniform : Uniform cfg)
    (path : Runs (Guarded (Guarded (Steps cfg) (fun _ => Bare)) (Orderly cfg)) opening labels t)
    (object : ObjectIndex) (o : Object) (found : t.objectInfos.lookup object = some o) : Coexist cfg o.buffs := by
  have all : AllDistinct cfg t := by
    refine Runs.invariant ?_ path ?_
    · rintro before label after all ⟨⟨rfl,bare⟩,orderly⟩
      exact next_distinct uniform all bare orderly
    · intro other o there
      cases there
  exact (all object o found).coexist uniform

-- Two layers of each caster, of a status that counts layers of each caster for itself.
def paired : Config :=
  ⟨fun id => if id = 7 then some {layered with coexistRule:=some .threeOverlayReplace, overlay:=2} else none,fun _ _ => [],
    fun _ => false,fun _ _ => 0⟩

theorem paired_status {its : Status} (found : paired.status one = some its) :
    its = {layered with coexistRule:=some .threeOverlayReplace, overlay:=2} := by
  unfold paired at found
  simp only at found
  split at found
  · cases found
    rfl
  · cases found

theorem paired_uniform : Uniform paired := by
  refine ⟨?_,?_⟩
  · intro one other s t first second _ _
    rw [paired_status first,paired_status second]
  · intro one other s t first second _ _
    rw [paired_status first,paired_status second]

def thrice : List Label := [.join 1 recruits,.addBuff 2 1 7 certain,.addBuff 2 1 7 certain,.addBuff 2 1 7 certain]

theorem third_layer_over : ¬∀ (cfg : Config) (labels : List Label) (t : Scene), Uniform cfg →
    Runs (Guarded (Steps cfg) (fun _ => Bare)) opening labels t →
    ∀ object o, t.objectInfos.lookup object = some o → Coexist cfg o.buffs := by
  intro always
  have path : Runs (Guarded (Steps paired) (fun _ => Bare)) opening thrice (thrice.foldl (next paired) opening) :=
    .more ⟨rfl,rfl⟩ (.more ⟨rfl,trivial⟩ (.more ⟨rfl,trivial⟩ (.more ⟨rfl,trivial⟩ .done)))
  have coexist := always paired thrice _ paired_uniform path 1 _ rfl
  have layers := (coexist.layers _ (.head _) _ rfl).2
  revert layers
  decide

def twice : List Label := [.join 1 recruits,.addBuff 2 1 7 certain,.addBuff 2 1 7 certain]

def afterTwo : Scene := twice.foldl (next paired) opening

-- Without a rule about levels only the layers count.
theorem paired_fits {o : Object}
    (room : ∀ place, stackedAt paired o caster statusId rolls = some place → ∀ buff, o.buffs[place]? = some buff → buff.overlay < 2) :
    Fits paired o caster statusId rolls := by
  refine ⟨?_,?_,?_⟩
  · intro s passed ruled
    rw [paired_status (admitted_status passed)] at ruled
    cases ruled
  · intro s passed ruled
    rw [paired_status (admitted_status passed)] at ruled
    cases ruled
  · intro place stacked buff there t known
    rw [paired_status known]
    exact room place stacked buff there

theorem two_layers_coexist : ∃ o, afterTwo.objectInfos.lookup 1 = some o ∧ o.buffs.map Buff.overlay = [2] ∧ Coexist paired o.buffs := by
  have path : Runs (Guarded (Guarded (Steps paired) (fun _ => Bare)) (Orderly paired)) opening twice afterTwo := by
    refine .more ⟨⟨rfl,rfl⟩,trivial⟩ (.more ⟨⟨rfl,trivial⟩,?_⟩ (.more ⟨⟨rfl,trivial⟩,?_⟩ .done))
    · intro o found
      cases found
      exact paired_fits (by simp [create,recruits,cacleObjectAttr])
    · intro o found
      cases found
      apply paired_fits
      intro place stacked buff there
      cases stacked
      cases there
      decide
  exact ⟨_,rfl,by decide,buffs_coexist paired paired_uniform path 1 _ rfl⟩

end scene
end OriginGame.BattleBuff
