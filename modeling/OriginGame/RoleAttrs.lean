import OriginGame.RoleCacle

namespace OriginGame.RoleCacle
open Gains

section gains
variable (cfg : Config)

def rowOf (row : Option Row) : Row := fun name => row.bind (fun row => row name)

-- The row of a level; level zero has none.
def rowAt (table : Nat → Option Row) (level : Nat) : Row := rowOf (if 0 < level then table level else none)

def buildGain (buildingInfo : Building) (name : Attr) : Int :=
  match buildingConfig cfg buildingInfo.type with
  | some table => (rowAt table buildingInfo.level name).getD 0
  | none => 0

-- The row that the building needs is in the config.
def Built (buildingInfo : Building) : Prop :=
  ∀ table, buildingConfig cfg buildingInfo.type = some table → 0 < buildingInfo.level → (table buildingInfo.level).isSome = true

def studyGains (technologies : Table Nat Nat) (name : Attr) : Int :=
  (technologies.entries.map (fun e => total (studyOf cfg e.1 e.2) name)).sum

def officeOf (guild : Option Membership) : Option Nat := guild.bind Membership.officer

def guildGains (guild : Option Membership) : List (Attr × Int) := (guild.map Membership.guildAttr).getD []

-- What each attribute is made of.
def value (role : Role) (name : Attr) : Int :=
  if name = .scoutSpeed then cfg.scoutSpeed
  else Table.sumOver (fun b => buildGain cfg b name) role.buildings+studyGains cfg role.technologies name+
    total (role.cityBuff.flatMap cfg.s_CityBuff) name+total (officerGains cfg (officeOf role.guild)) name+
    (rowOf (vipRow cfg role.vipLv) name).getD 0+total (guildGains role.guild) name+total (cfg.s_Civilization role.country) name

variable {cfg} {attr : RoleAttr}

theorem cacleOneBuild_some (attr : RoleAttr) (built : Built cfg b) :
    cacleOneBuild cfg attr b = some (fun name => attr name+buildGain cfg b name) := by
  cases found : buildingConfig cfg b.type with
  | none => simp [cacleOneBuild,buildGain,found]
  | some table =>
    by_cases positive : 0 < b.level
    · obtain ⟨row,there⟩ := Option.isSome_iff_exists.mp (built table found positive)
      simp only [cacleOneBuild,buildGain,found,rowAt,rowOf,positive,if_true,there,Option.map_some,Option.bind_some]
      rfl
    · simp [cacleOneBuild,buildGain,found,rowAt,rowOf,positive]

theorem cacleOneBuild_built (result : cacleOneBuild cfg attr b = some after) : Built cfg b := by
  intro table found positive
  simp only [cacleOneBuild,found,positive,if_true] at result
  cases there : table b.level with
  | none =>
    rw [there] at result
    cases result
  | some row => rfl

theorem buildAttr_sum (attr : RoleAttr) (entries : List (Sigma fun _ : Nat => Building)) (built : ∀ e ∈ entries, Built cfg e.2) :
    entries.foldlM (fun attr e => cacleOneBuild cfg attr e.2) attr =
      some (fun name => attr name+(entries.map (fun e => buildGain cfg e.2 name)).sum) := by
  induction entries generalizing attr with
  | nil => simp
  | cons e rest ih =>
    rw [List.foldlM_cons,cacleOneBuild_some attr (built e List.mem_cons_self)]
    change rest.foldlM _ _ = _
    rw [ih _ (fun other inside => built other (List.mem_cons_of_mem _ inside))]
    simp only [List.map_cons,List.sum_cons,Int.add_assoc]

theorem buildAttr_built (entries : List (Sigma fun _ : Nat => Building))
    (result : entries.foldlM (fun attr e => cacleOneBuild cfg attr e.2) attr = some after) : ∀ e ∈ entries, Built cfg e.2 := by
  induction entries generalizing attr with
  | nil =>
    intro e inside
    cases inside
  | cons e rest ih =>
    rw [List.foldlM_cons] at result
    cases one : cacleOneBuild cfg attr e.2 with
    | none =>
      rw [one] at result
      cases result
    | some middle =>
      rw [one] at result
      intro other inside
      rcases List.mem_cons.mp inside with rfl | inside
      · exact cacleOneBuild_built one
      · exact ih result other inside

theorem technologyAttr_sum (attr : RoleAttr) (technologies : Table Nat Nat) (name : Attr) :
    cacleTechnologyAttr cfg attr technologies name = attr name+studyGains cfg technologies name := by
  unfold cacleTechnologyAttr studyGains
  induction technologies.entries generalizing attr with
  | nil => simp
  | cons e rest ih => rw [List.foldl_cons,ih,gainAll_total,List.map_cons,List.sum_cons,Int.add_assoc]

theorem cityBuffAttr_sum (attr : RoleAttr) (cityBuff : List Nat) (name : Attr) :
    cacleCityBuffAttr cfg attr cityBuff name = attr name+total (cityBuff.flatMap cfg.s_CityBuff) name := by
  unfold cacleCityBuffAttr
  induction cityBuff generalizing attr with
  | nil => simp
  | cons buffId rest ih => rw [List.foldl_cons,ih,gainAll_total,List.flatMap_cons,total_append,Int.add_assoc]

theorem total_lose (gains : List (Attr × Int)) (name : Attr) : total (lose gains) name = -total gains name := by
  have scaled := total_map_mul gains (-1) name
  simp only [Int.mul_neg,Int.mul_one] at scaled
  exact scaled

theorem guildOfficerAttr_total (attr : RoleAttr) (guild : Option Membership) (old new : Option Nat) (name : Attr) :
    cacleGuildOfficerAttr cfg attr guild old new name = attr name-total (officerGains cfg old) name+
      total (officerGains cfg (guild.bind (fun membership => new.or membership.officer))) name := by
  unfold cacleGuildOfficerAttr
  cases guild with
  | none => simp [gainAll_total,total_lose,officerGains,Int.sub_eq_add_neg]
  | some membership => simp [gainAll_total,total_lose,Int.sub_eq_add_neg]

theorem guildAttr_total (attr : RoleAttr) (guild : Option Membership) (old new : Option (List (Attr × Int))) (name : Attr) :
    cacleGuildAttr attr guild old new name = attr name-total (old.getD []) name+total (newGuildGains guild new) name := by
  rw [cacleGuildAttr,gainAll_total,gainAll_total,total_lose,Int.sub_eq_add_neg]

theorem changeRow_none (attr : RoleAttr) (row : Row) (name : Attr) : changeRow attr row none name = attr name+(row name).getD 0 := by
  unfold changeRow
  cases row name <;> simp

theorem vipAttr_first (attr : RoleAttr) (level : Nat) (name : Attr) :
    vipAttrChange cfg attr level none name = attr name+(rowOf (vipRow cfg level) name).getD 0 := by
  unfold vipAttrChange rowOf
  cases vipRow cfg level with
  | none => simp
  | some row => exact changeRow_none attr row name

theorem initRoleAttr_value (role : Role) (built : ∀ e ∈ role.buildings.entries, Built cfg e.2) : initRoleAttr cfg role = some (value cfg role) := by
  rw [initRoleAttr,cacleBuildAttr,buildAttr_sum _ _ built,Option.map_some]
  congr 1
  funext name
  by_cases speed : name = .scoutSpeed
  · rw [speed,Function.update_self,value,if_pos rfl]
  · rw [Function.update_of_ne speed,cacleCivilizationAttr,gainAll_total,guildAttr_total,vipAttr_first,guildOfficerAttr_total,cityBuffAttr_sum,
      technologyAttr_sum,value,if_neg speed]
    simp only [Option.getD_none,officerGains,Option.map_none,total_nil,Int.zero_add,Int.sub_zero,newGuildGains,Option.none_or]
    rfl

theorem initRoleAttr_iff (role : Role) (attr : RoleAttr) : initRoleAttr cfg role = some attr ↔
    (∀ e ∈ role.buildings.entries, Built cfg e.2) ∧ attr = value cfg role := by
  constructor
  · intro result
    have built : ∀ e ∈ role.buildings.entries, Built cfg e.2 := by
      cases whole : cacleBuildAttr cfg (fun _ => 0) role.buildings with
      | none =>
        rw [initRoleAttr,whole] at result
        cases result
      | some after => exact buildAttr_built _ whole
    rw [initRoleAttr_value role built] at result
    exact ⟨built,(Option.some.inj result).symm⟩
  · rintro ⟨built,rfl⟩
    exact initRoleAttr_value role built

end gains

section steps
variable (cfg : Config)

-- A row lists what the one before gave, and leaves the scouts' speed as it is.
structure Succeeds (before after : Row) : Prop where
  kept : ∀ name, name ≠ .scoutSpeed → after name = none → (before name).getD 0 = 0
  speed : ∀ n, after .scoutSpeed = some n → n = (before .scoutSpeed).getD 0

def listed (study : List (Attr × Int)) (name : Attr) : Nat := (study.filter (fun buff => buff.1 = name)).length

-- A study lists once what the one before gave.
structure Continues (before after : List (Attr × Int)) : Prop where
  kept : ∀ name, name ≠ .scoutSpeed → total before name = 0 ∨ listed after name = 1
  speed : total after .scoutSpeed = listed after .scoutSpeed*total before .scoutSpeed

-- The study that is held; a type without an entry has none.
def heldStudy (role : Role) (technologyType : Nat) : List (Attr × Int) :=
  ((role.technologies.lookup technologyType).map (studyOf cfg technologyType)).getD []

def Covers (role : Role) : Label → Prop
  | .upGradeBuild buildingIndex => ∀ b table, role.buildings.lookup buildingIndex = some b → buildingConfig cfg b.type = some table →
    Succeeds (rowAt table b.level) (rowAt table (b.level+1))
  | .awardTechnology technologyType =>
    let level := (role.technologies.lookup technologyType).getD 0
    Continues (heldStudy cfg role technologyType) (studyOf cfg technologyType (level+1)) ∧
      (level = 0 → ∀ name, total (heldStudy cfg role technologyType) name = 0)
  | .vip level => Succeeds (rowOf (vipRow cfg role.vipLv)) (rowOf (vipRow cfg level))
  -- The old office is the one that was held, the new one the one that then is.
  | .officer guild oldOfficerId newOfficerId => oldOfficerId = officeOf role.guild ∧
    (∀ membership, guild = some membership → newOfficerId = none ∨ newOfficerId = membership.officer) ∧ guildGains guild = guildGains role.guild ∧
    total (officerGains cfg (officeOf guild)) .scoutSpeed = total (officerGains cfg (officeOf role.guild)) .scoutSpeed
  -- What goes and what comes is the difference of the guild before and after.
  | .guildAttr guild oldGuildAttr newGuildAttr => officeOf guild = officeOf role.guild ∧
    (∀ name, name ≠ .scoutSpeed → total (newGuildGains guild newGuildAttr) name-total (oldGuildAttr.getD []) name =
      total (guildGains guild) name-total (guildGains role.guild) name) ∧
    total (newGuildGains guild newGuildAttr) .scoutSpeed = total (oldGuildAttr.getD []) .scoutSpeed

variable {cfg} {role after : Role}

theorem changeRow_succeeds {row before : Option Row} (attr : RoleAttr) (succeeds : Succeeds (rowOf before) (rowOf row)) (name : Attr) :
    (match row with | none => attr | some row => changeRow attr row before) name =
      attr name+if name = .scoutSpeed then 0 else (rowOf row name).getD 0-(rowOf before name).getD 0 := by
  have kept := succeeds.kept name
  cases row with
  | none =>
    by_cases speed : name = .scoutSpeed
    · simp [speed]
    · have nothing : rowOf none name = none := rfl
      simp [speed,kept speed nothing,nothing]
  | some row =>
    change changeRow attr row before name = _
    unfold changeRow
    cases found : row name with
    | none =>
      have nothing : rowOf (some row) name = none := found
      by_cases speed : name = .scoutSpeed
      · simp [speed]
      · simp [speed,kept speed nothing,nothing]
    | some n =>
      have there : rowOf (some row) name = some n := found
      by_cases speed : name = .scoutSpeed
      · subst speed
        have same := succeeds.speed n there
        change attr .scoutSpeed+(n-(rowOf before .scoutSpeed).getD 0) = _
        rw [same,if_pos rfl]
        omega
      · rw [if_neg speed,there]
        rfl

theorem study_continues (attr : RoleAttr) {before study : List (Attr × Int)} (continues : Continues before study) (name : Attr) :
    study.foldl (fun attr buff => Function.update attr buff.1 (attr buff.1+(buff.2-total before buff.1))) attr name =
      attr name+if name = .scoutSpeed then 0 else total study name-total before name := by
  have folded : study.foldl (fun attr buff => Function.update attr buff.1 (attr buff.1+(buff.2-total before buff.1))) attr =
      gainAll attr (study.map (fun buff => (buff.1,buff.2-total before buff.1))) := by
    rw [gainAll,List.foldl_map]
  rw [folded,gainAll_total,total_map_sub]
  by_cases speed : name = .scoutSpeed
  · subst speed
    have same := continues.speed
    unfold listed at same
    rw [if_pos rfl,same]
    omega
  · rw [if_neg speed]
    rcases continues.kept name speed with zero | once
    · simp [zero]
    · unfold listed at once
      rw [once]
      simp

def Current (cfg : Config) (role : Role) : Prop := initRoleAttr cfg role = some role.attr

-- The attributes change by what the parts they are made of change.
theorem current_step (change : Attr → Int) (current : Current cfg role) (built : ∀ e ∈ after.buildings.entries, Built cfg e.2)
    (made : ∀ name, name ≠ .scoutSpeed → value cfg after name = value cfg role name+change name)
    (attr : ∀ name, after.attr name = role.attr name+if name = .scoutSpeed then 0 else change name) : Current cfg after := by
  refine (initRoleAttr_iff after after.attr).mpr ⟨built,?_⟩
  have was := ((initRoleAttr_iff role role.attr).mp current).2
  funext name
  rw [attr name,was]
  by_cases speed : name = .scoutSpeed
  · simp [speed,value]
  · rw [if_neg speed,made name speed]

theorem current_built (current : Current cfg role) : ∀ e ∈ role.buildings.entries, Built cfg e.2 :=
  ((initRoleAttr_iff role role.attr).mp current).1

theorem buildAttrChange_gain (attr : RoleAttr) (before b : Building) (type : b.type = before.type) (level : b.level = before.level+1)
    (succeeds : ∀ table, buildingConfig cfg b.type = some table → Succeeds (rowAt table before.level) (rowAt table b.level))
    (result : buildAttrChange cfg attr b = some changed) : Built cfg b ∧ ∀ name, changed name = attr name+if name = .scoutSpeed then 0 else
      buildGain cfg b name-buildGain cfg before name := by
  unfold buildAttrChange at result
  cases found : buildingConfig cfg b.type with
  | none =>
    rw [found] at result
    cases result
    refine ⟨?_,?_⟩
    · intro table there
      rw [found] at there
      cases there
    · intro name
      rw [type] at found
      simp [buildGain,type,found]
  | some table =>
    simp only [found] at result
    cases there : table b.level with
    | none =>
      rw [there] at result
      cases result
    | some row =>
      rw [there] at result
      cases result
      refine ⟨?_,?_⟩
      · intro other same _
        rw [found] at same
        cases same
        rw [there]
        rfl
      · intro name
        have lower : (if 1 < b.level then table (b.level-1) else none) = if 0 < before.level then table before.level else none := by
          rw [level,Nat.add_sub_cancel]
          by_cases positive : 0 < before.level <;> simp [positive]
        have its : rowAt table b.level = rowOf (some row) := by
          rw [rowAt,if_pos (by omega),there]
        have follows := succeeds table found
        rw [its] at follows
        rw [lower,buildGain,buildGain,← type,found]
        simp only [its]
        exact changeRow_succeeds attr follows name

theorem upGradeBuild_current (current : Current cfg role) (covers : Covers cfg role (.upGradeBuild buildingIndex))
    (done : next cfg role (.upGradeBuild buildingIndex) = some after) : Current cfg after := by
  simp only [next] at done
  cases found : role.buildings.lookup buildingIndex with
  | none =>
    rw [found] at done
    cases done
  | some b =>
    rw [found] at done
    obtain ⟨changed,result,rfl⟩ := Option.map_eq_some_iff.mp done
    have follows (table : Nat → Option Row) (there : buildingConfig cfg b.type = some table) := covers b table found there
    obtain ⟨built,gains⟩ := buildAttrChange_gain role.attr b {b with level:=b.level+1} rfl rfl follows result
    refine current_step _ current ?_ ?_ gains
    · intro e inside
      rw [AList.entries_insert] at inside
      rcases List.mem_cons.mp inside with rfl | inside
      · exact built
      · exact current_built current e ((List.kerase_sublist _ _).subset inside)
    · intro name speed
      simp only [value,if_neg speed,Table.sumOver_insert,Table.amount_some found]
      omega

theorem technologyAttrChange_gain (attr : RoleAttr) {held : List (Attr × Int)}
    (continues : Continues held (studyOf cfg technologyType (level+1))) (first : level = 0 → ∀ name, total held name = 0)
    (later : 0 < level → held = studyOf cfg technologyType level)
    (result : technologyAttrChange cfg attr technologyType (level+1) = some changed) (name : Attr) :
    changed name = attr name+if name = .scoutSpeed then 0 else total (studyOf cfg technologyType (level+1)) name-total held name := by
  unfold technologyAttrChange at result
  cases found : (cfg.studyId technologyType (level+1)).bind cfg.s_Study with
  | none =>
    rw [found] at result
    cases result
  | some study =>
    have its : studyOf cfg technologyType (level+1) = study := by rw [studyOf,found,Option.getD_some]
    rw [its] at continues ⊢
    simp only [found,Nat.add_sub_cancel] at result
    by_cases positive : 0 < level
    · rw [if_pos (by omega)] at result
      cases earlier : cfg.studyId technologyType level with
      | none =>
        rw [earlier] at result
        cases result
      | some id =>
        rw [earlier] at result
        cases result
        have same : held = (Option.bind (some id) cfg.s_Study).getD [] := by rw [later positive,studyOf,earlier]
        rw [same] at continues ⊢
        exact study_continues attr continues name
    · rw [if_neg (by omega)] at result
      cases result
      have nothing := first (by omega)
      have starts : Continues [] study := ⟨fun _ _ => .inl rfl,by rw [continues.speed,nothing,total_nil]⟩
      rw [nothing name]
      exact study_continues attr starts name

theorem awardTechnology_current (current : Current cfg role) (covers : Covers cfg role (.awardTechnology technologyType))
    (done : next cfg role (.awardTechnology technologyType) = some after) : Current cfg after := by
  obtain ⟨continues,first⟩ := covers
  simp only [next] at done
  obtain ⟨changed,result,rfl⟩ := Option.map_eq_some_iff.mp done
  have later (positive : 0 < (role.technologies.lookup technologyType).getD 0) :
      heldStudy cfg role technologyType = studyOf cfg technologyType ((role.technologies.lookup technologyType).getD 0) := by
    unfold heldStudy
    cases found : role.technologies.lookup technologyType with
    | none => simp [found] at positive
    | some level => rfl
  have built := current_built current
  refine current_step _ current built ?_ (technologyAttrChange_gain role.attr continues first later result)
  intro name speed
  have held : ((role.technologies.lookup technologyType).map (fun level => total (studyOf cfg technologyType level) name)).getD 0 =
      total (heldStudy cfg role technologyType) name := by
    unfold heldStudy
    cases role.technologies.lookup technologyType <;> rfl
  simp only [value,if_neg speed,studyGains]
  rw [Table.sum_insert_keyed (fun type level => total (studyOf cfg type level) name),held]
  omega

theorem vip_current (current : Current cfg role) (covers : Covers cfg role (.vip level)) (done : next cfg role (.vip level) = some after) :
    Current cfg after := by
  cases done
  have built := current_built current
  refine current_step (fun name => (rowOf (vipRow cfg level) name).getD 0-(rowOf (vipRow cfg role.vipLv) name).getD 0) current built ?_
    (changeRow_succeeds role.attr covers)
  intro name speed
  simp only [value,if_neg speed]
  omega

theorem officer_current (current : Current cfg role) (covers : Covers cfg role (.officer guild oldOfficerId newOfficerId))
    (done : next cfg role (.officer guild oldOfficerId newOfficerId) = some after) : Current cfg after := by
  obtain ⟨rfl,new,same,speeds⟩ := covers
  cases done
  have office : guild.bind (fun membership => newOfficerId.or membership.officer) = officeOf guild := by
    cases guild with
    | none => rfl
    | some membership =>
      rcases new membership rfl with rfl | rfl
      · rfl
      · exact Option.or_self
  have built := current_built current
  refine current_step (fun name => total (officerGains cfg (officeOf guild)) name-total (officerGains cfg (officeOf role.guild)) name)
    current built ?_ ?_
  · intro name speed
    simp only [value,if_neg speed,same]
    omega
  · intro name
    change cacleGuildOfficerAttr cfg role.attr guild (officeOf role.guild) newOfficerId name = _
    rw [guildOfficerAttr_total,office]
    by_cases speed : name = .scoutSpeed
    · subst speed
      rw [speeds,if_pos rfl]
      omega
    · rw [if_neg speed]
      omega

theorem guildAttr_current (current : Current cfg role) (covers : Covers cfg role (.guildAttr guild oldGuildAttr newGuildAttr))
    (done : next cfg role (.guildAttr guild oldGuildAttr newGuildAttr) = some after) : Current cfg after := by
  obtain ⟨office,difference,speeds⟩ := covers
  cases done
  have built := current_built current
  refine current_step (fun name => total (guildGains guild) name-total (guildGains role.guild) name) current built ?_ ?_
  · intro name speed
    simp only [value,if_neg speed,office]
    omega
  · intro name
    change cacleGuildAttr role.attr guild oldGuildAttr newGuildAttr name = _
    rw [guildAttr_total]
    by_cases speed : name = .scoutSpeed
    · subst speed
      rw [speeds,if_pos rfl]
      omega
    · have given := difference name speed
      rw [if_neg speed]
      omega

def Steps (cfg : Config) (role : Role) (label : Label) (after : Role) : Prop := next cfg role label = some after

-- From attributes that are computed, every change that is covered leads to computed ones.
theorem attrs_recomputed (cfg : Config) (start : initRoleAttr cfg role = some role.attr)
    (path : Runs (Guarded (Steps cfg) (Covers cfg)) role labels after) : initRoleAttr cfg after = some after.attr := by
  have current : Current cfg after := by
    refine Runs.invariant ?_ path start
    rintro before label after current ⟨done,covers⟩
    cases label with
    | upGradeBuild buildingIndex => exact upGradeBuild_current current covers done
    | awardTechnology technologyType => exact awardTechnology_current current covers done
    | vip level => exact vip_current current covers done
    | officer guild oldOfficerId newOfficerId => exact officer_current current covers done
    | guildAttr guild oldGuildAttr newGuildAttr => exact guildAttr_current current covers done
  exact current

-- A config in which only VIP levels give attributes.
def vipOnly (s_VipAtt : Nat → Option Row) : Config :=
  ⟨fun _ => none,fun _ => none,fun _ => none,fun _ => none,fun _ => none,fun _ => none,fun _ => none,fun _ => none,fun _ => none,
    fun _ => none,fun _ => none,fun _ => none,fun _ _ => none,fun _ => none,s_VipAtt,fun _ => [],fun _ => [],fun _ => [],100⟩

-- A role with nothing but its VIP level, attributes computed.
def newcomer (cfg : Config) (vipLv : Nat) : Role := ⟨∅,∅,vipLv,none,[],0,value cfg ⟨∅,∅,vipLv,none,[],0,fun _ => 0⟩⟩

theorem newcomer_current (cfg : Config) (vipLv : Nat) : initRoleAttr cfg (newcomer cfg vipLv) = some (newcomer cfg vipLv).attr := by
  refine (initRoleAttr_iff _ _).mpr ⟨?_,rfl⟩
  intro e inside
  cases inside

-- Level 1 gives 10 of an attribute that level 2 does not list.
def dropping : Config := vipOnly (fun level => if level = 1 then some (fun name => if name = .other 0 then some 10 else none)
  else some (fun _ => none))

theorem dropped_attr_stays : ¬∀ (cfg : Config) (role after : Role) (labels : List Label), initRoleAttr cfg role = some role.attr →
    Runs (Steps cfg) role labels after → initRoleAttr cfg after = some after.attr := by
  intro always
  have recomputed := always dropping (newcomer dropping 1) _ [.vip 2] (newcomer_current dropping 1) (.more rfl .done)
  have made := congrFun ((initRoleAttr_iff _ _).mp recomputed).2 (.other 0)
  revert made
  decide

-- Level 2 gives more of what level 1 gives.
def raising : Config := vipOnly (fun level => some (fun name => if name = .other 0 then some (10*level) else none))

theorem raised_attr_recomputed : ∃ after, next raising (newcomer raising 1) (.vip 2) = some after ∧ after.attr (.other 0) = 20 ∧
    initRoleAttr raising after = some after.attr := by
  have succeeds : Succeeds (rowOf (vipRow raising 1)) (rowOf (vipRow raising 2)) := by
    refine ⟨?_,?_⟩
    · intro name _ missing
      by_cases same : name = .other 0
      · subst same
        cases missing
      · simp [rowOf,vipRow,raising,vipOnly,same]
    · intro n found
      cases found
  refine ⟨{newcomer raising 1 with vipLv:=2, attr:=vipAttrChange raising (newcomer raising 1).attr 2 (some 1)},rfl,by decide,?_⟩
  have path : Runs (Guarded (Steps raising) (Covers raising)) (newcomer raising 1) [.vip 2] _ := .more ⟨rfl,succeeds⟩ .done
  exact attrs_recomputed raising (newcomer_current raising 1) path

end steps
end OriginGame.RoleCacle
