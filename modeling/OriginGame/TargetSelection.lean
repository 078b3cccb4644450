import OriginGame.SkillSector

namespace OriginGame.SkillTargets

section picking
variable {order : Order Nat} {targets : Table Nat TargetInfo} {picks : TargetInfo → Bool}

theorem picked_perm (keyed : Keyed targets) :
    (picked order targets picks).Perm ((targets.entries.filter (fun entry => picks entry.2)).map Sigma.fst) := by
  have stored : targets.keys.filterMap (fun objectIndex => ((targets.lookup objectIndex).filter picks).map TargetInfo.objectIndex) =
      (targets.entries.filter (fun entry => picks entry.2)).map Sigma.fst := by
    rw [AList.keys,List.keys,List.filterMap_map,←List.filterMap_eq_map,List.filterMap_filter]
    refine List.filterMap_congr (fun entry among => ?_)
    have found : targets.lookup entry.1 = some entry.2 := AList.mem_lookup_iff.mpr among
    rw [Function.comp_apply,found,Option.filter_some]
    split
    next => exact congrArg some (keyed entry.1 entry.2 found)
    next => rfl
  rw [←stored]
  exact (order.perm targets.keys).filterMap _

theorem picked_mem (keyed : Keyed targets) :
    objectIndex ∈ picked order targets picks ↔ ∃ info, targets.lookup objectIndex = some info ∧ picks info = true := by
  rw [(picked_perm keyed).mem_iff,List.mem_map]
  constructor
  · rintro ⟨⟨key,info⟩,kept,rfl⟩
    obtain ⟨among,pass⟩ := List.mem_filter.mp kept
    exact ⟨info,AList.mem_lookup_iff.mpr among,pass⟩
  · rintro ⟨info,found,pass⟩
    exact ⟨⟨objectIndex,info⟩,List.mem_filter.mpr ⟨AList.mem_lookup_iff.mp found,pass⟩,rfl⟩

theorem picked_nodup (keyed : Keyed targets) : (picked order targets picks).Nodup :=
  (picked_perm keyed).nodup_iff.mpr (targets.nodupKeys.sublist List.filter_sublist)

end picking

-- How a skill finds its targets among the candidates.
inductive Rule where
  | type (type : BattleTargetType)
  | damage
  deriving DecidableEq, Repr

-- One selection.
structure Use (Pos : Type) where
  rule : Rule
  attackIndex : Nat
  attack : SceneObject Pos
  defenseIndex : Nat
  defense : SceneObject Pos
  targetExMaxNum : Nat

-- An army of a player.
def player (info : TargetInfo) : Bool := info.objectType = .role || info.objectType = .army

-- What the comments of Enum.BattleTargetType say.
def BattleTargetType.wants (type : BattleTargetType) (attackIndex : Nat) (attack : SceneObject Pos) (info : TargetInfo) : Bool :=
  match type with
  | .onlySelf => info.objectIndex = attackIndex
  | .onlyFriend => friend attack info
  | .selfFriend => info.objectIndex = attackIndex || friend attack info
  | .noRole => !player info
  | .onlyRoleEnemy => player info && enemy attack info
  | .allEnemy => enemy attack info

theorem player_iff : player info = true ↔ info.objectType = .role ∨ info.objectType = .army := by
  unfold player
  rw [Bool.or_eq_true_iff,decide_eq_true_iff,decide_eq_true_iff]

theorem noRole_wants {attack : SceneObject Pos} :
    BattleTargetType.noRole.wants attackIndex attack info = true ↔ info.objectType ≠ .role ∧ info.objectType ≠ .army := by
  change (!player info) = true ↔ _
  rw [Bool.not_eq_true',←Bool.not_eq_true,player_iff,not_or]

theorem onlyRoleEnemy_wants {attack : SceneObject Pos} : BattleTargetType.onlyRoleEnemy.wants attackIndex attack info = true ↔
    (info.objectType = .role ∨ info.objectType = .army) ∧ enemy attack info = true := by
  change (player info && enemy attack info) = true ↔ _
  rw [Bool.and_eq_true_iff,player_iff]

-- The role of an army without a guild is looked for under rid, which only the game server sends.
theorem picksEx_army {defense : SceneObject Pos} (army : defense.objectType = .army) (guildless : defense.guildId ≤ 0) (info : TargetInfo) :
    picksEx defenseIndex defense info = true ↔
      info.objectIndex ≠ defenseIndex ∧ info.objectType = .army ∧ info.rid = some defense.objectRid := by
  unfold picksEx
  rw [army]
  dsimp only
  rw [if_neg (not_lt.mpr guildless),Bool.and_eq_true_iff,Bool.and_eq_true_iff,decide_eq_true_iff,decide_eq_true_iff,decide_eq_true_iff]

-- Otherwise it does not matter.
theorem picksEx_guild {defense : SceneObject Pos} (other : ¬(defense.objectType = .army ∧ defense.guildId ≤ 0)) (info : TargetInfo)
    (rid : Option Int) : picksEx defenseIndex defense {info with rid:=rid} = picksEx defenseIndex defense info := by
  unfold picksEx
  cases army : defense.objectType with
  | army =>
    have guild : 0 < defense.guildId := not_le.mp (fun guildless => other ⟨army,guildless⟩)
    dsimp only
    rw [if_pos guild,if_pos guild]
  | _ => rfl

namespace Use
variable {Pos : Type} (u : Use Pos)

def select (order : Order Nat) (targets : Table Nat TargetInfo) (draws : List Nat) : List Nat :=
  match u.rule with
  | .type type => getTargetIndexs order u.attackIndex u.attack targets type u.targetExMaxNum draws
  | .damage => getTargetIndexsEx order u.defenseIndex u.defense targets u.targetExMaxNum draws

-- Which candidates it takes.
def picks (info : TargetInfo) : Bool :=
  match u.rule with
  | .type type => type.picks u.attack info
  | .damage => picksEx u.defenseIndex u.defense info

-- What it takes besides them.
def given : List Nat :=
  match u.rule with
  | .type type => if type.self then [u.attackIndex] else []
  | .damage => [u.defenseIndex]

def self : Bool :=
  match u.rule with
  | .type type => type.self
  | .damage => false

def wants (info : TargetInfo) : Bool :=
  match u.rule with
  | .type type => type.wants u.attackIndex u.attack info
  | .damage => info.objectIndex = u.defenseIndex || picksEx u.defenseIndex u.defense info

-- The entry useSkill makes for the main target.
def main : TargetInfo := ⟨u.defenseIndex,u.defense.objectType,some u.defense.guildId,some u.defense.objectRid,none⟩

-- The list before it is thinned.
def pool (order : Order Nat) (targets : Table Nat TargetInfo) : List Nat :=
  match u.rule with
  | .type type => picked order targets (type.picks u.attack)++if type.self then [u.attackIndex] else []
  | .damage => u.defenseIndex::picked order targets (picksEx u.defenseIndex u.defense)

-- Everything that may be drawn in place of the main target.
def rivals (targets : Table Nat TargetInfo) : Nat :=
  (targets.entries.filter (fun entry => entry.1 ≠ u.defenseIndex && u.picks entry.2)).length+(u.given.filter (· ≠ u.defenseIndex)).length

theorem select_pool (order : Order Nat) (targets : Table Nat TargetInfo) (draws : List Nat) :
    u.select order targets draws = Draws.thin u.targetExMaxNum draws (u.pool order targets) := by
  unfold select pool
  cases u.rule with
  | type type => rfl
  | damage => rfl

theorem pool_perm (order : Order Nat) (targets : Table Nat TargetInfo) :
    (u.pool order targets).Perm (picked order targets u.picks++u.given) := by
  unfold pool picks given
  cases u.rule with
  | type type => exact .refl _
  | damage => exact (List.perm_append_singleton _ _).symm

theorem given_mem : objectIndex ∈ u.given ↔ u.self = true ∧ objectIndex = u.attackIndex ∨ u.rule = .damage ∧ objectIndex = u.defenseIndex := by
  unfold given self
  cases u.rule with
  | type type =>
    dsimp only
    rw [or_iff_left (fun both => nomatch both.1)]
    split
    next of => exact List.mem_singleton.trans (and_iff_right of).symm
    next of => exact iff_of_false List.not_mem_nil (fun both => of both.1)
  | damage => exact List.mem_singleton.trans ((and_iff_right rfl).symm.trans (or_iff_right (fun both => nomatch both.1)).symm)

theorem picks_type (rule : u.rule = .type type) (info : TargetInfo) : u.picks info = type.picks u.attack info := by
  unfold picks
  rw [rule]

theorem wants_type (rule : u.rule = .type type) (info : TargetInfo) : u.wants info = type.wants u.attackIndex u.attack info := by
  unfold wants
  rw [rule]

theorem self_type (rule : u.rule = .type type) : u.self = type.self := by
  unfold self
  rw [rule]

theorem picks_damage (rule : u.rule = .damage) (info : TargetInfo) : u.picks info = picksEx u.defenseIndex u.defense info := by
  unfold picks
  rw [rule]

theorem wants_damage (rule : u.rule = .damage) (info : TargetInfo) :
    u.wants info = (info.objectIndex = u.defenseIndex || picksEx u.defenseIndex u.defense info) := by
  unfold wants
  rw [rule]

theorem self_damage (rule : u.rule = .damage) : u.self = false := by
  unfold self
  rw [rule]

theorem given_nodup : u.given.Nodup := by
  unfold given
  cases u.rule with
  | type type =>
    dsimp only
    split
    next => exact List.nodup_singleton _
    next => exact List.nodup_nil
  | damage => exact List.nodup_singleton _

variable {u : Use Pos} {order : Order Nat} {targets : Table Nat TargetInfo}

theorem pool_mem (keyed : Keyed targets) :
    objectIndex ∈ u.pool order targets ↔ (∃ info, targets.lookup objectIndex = some info ∧ u.picks info = true) ∨ objectIndex ∈ u.given := by
  rw [(u.pool_perm order targets).mem_iff,List.mem_append,picked_mem keyed]

-- Only the caster may be both found and given.
theorem given_picked (keyed : Keyed targets) (found : targets.lookup objectIndex = some info) (pass : u.picks info = true)
    (given : objectIndex ∈ u.given) : u.rule = .type .selfFriend ∧ objectIndex = u.attackIndex ∧ friend u.attack info = true := by
  rcases u.given_mem.mp given with ⟨own,rfl⟩ | ⟨damage,rfl⟩
  · cases rule : u.rule with
    | damage =>
      rw [u.self_damage rule] at own
      cases own
    | type type =>
      rw [u.self_type rule] at own
      rw [u.picks_type rule] at pass
      cases type with
      | selfFriend => exact ⟨rfl,rfl,pass⟩
      | onlySelf => cases pass
      | onlyFriend => cases own
      | noRole => cases own
      | onlyRoleEnemy => cases own
      | allEnemy => cases own
  · rw [u.picks_damage damage] at pass
    exact absurd (keyed _ _ found) (decide_eq_true_iff.mp (Bool.and_eq_true_iff.mp pass).1)

theorem picks_wants (pass : u.picks info = true) : u.wants info = true ∨ u.rule = .type .noRole ∧ info.objectType = .army := by
  cases rule : u.rule with
  | damage =>
    rw [u.picks_damage rule] at pass
    rw [u.wants_damage rule]
    exact .inl (Bool.or_eq_true_iff.mpr (.inr pass))
  | type type =>
    rw [u.picks_type rule] at pass
    rw [u.wants_type rule]
    cases type with
    | onlySelf => cases pass
    | onlyFriend => exact .inl pass
    | selfFriend => exact .inl (Bool.or_eq_true_iff.mpr (.inr pass))
    | allEnemy => exact .inl pass
    | onlyRoleEnemy =>
      obtain ⟨role,foe⟩ := Bool.and_eq_true_iff.mp pass
      exact .inl (onlyRoleEnemy_wants.mpr ⟨.inl (decide_eq_true_iff.mp role),foe⟩)
    | noRole =>
      by_cases army : info.objectType = .army
      · exact .inr ⟨rfl,army⟩
      · exact .inl (noRole_wants.mpr ⟨decide_eq_true_iff.mp pass,army⟩)

-- What a selection promises, whatever is drawn.
structure Right (u : Use Pos) (order : Order Nat) (targets : Table Nat TargetInfo) : Prop where
  distinct : ∀ draws, (u.select order targets draws).Nodup
  short : ∀ draws, (u.select order targets draws).length ≤ u.targetExMaxNum
  fit : ∀ draws, ∀ objectIndex ∈ u.select order targets draws,
    (∃ info, targets.lookup objectIndex = some info ∧ u.wants info = true) ∨ u.self = true ∧ objectIndex = u.attackIndex
  main : u.wants u.main = true → ∀ draws, u.defenseIndex ∈ u.select order targets draws
  sourceless : ∀ objectIndex info, targets.lookup objectIndex = some info → info.objectType = .army →
    u.picks {info with rid:=none} = u.picks {info with rid:=info.objectRid}

structure Fair (u : Use Pos) (targets : Table Nat TargetInfo) : Prop where
  -- the caster is no candidate beside itself
  single : u.rule = .type .selfFriend → ∀ info, targets.lookup u.attackIndex = some info → friend u.attack info = true → u.targetExMaxNum ≤ 1
  -- there is room for all rivals of the main target
  room : u.wants u.main = true → u.rivals targets < u.targetExMaxNum
  -- the types that tell players' objects meet none of their armies
  others : u.rule = .type .noRole → 0 < u.targetExMaxNum → ∀ objectIndex info, targets.lookup objectIndex = some info → info.objectType ≠ .army
  players : u.rule = .type .onlyRoleEnemy → enemy u.attack u.main = true → u.defense.objectType ≠ .army
  -- an army without a guild has no other army of its role around
  guilds : u.rule = .damage → u.defense.objectType = .army → u.defense.guildId ≤ 0 → ∀ objectIndex info,
    targets.lookup objectIndex = some info → objectIndex ≠ u.defenseIndex → info.objectType = .army → info.objectRid ≠ some u.defense.objectRid

theorem distinct_iff (keyed : Keyed targets) :
    (∀ draws, (u.select order targets draws).Nodup) ↔ (u.rule = .type .selfFriend → ∀ info, targets.lookup u.attackIndex = some info →
      friend u.attack info = true → u.targetExMaxNum ≤ 1) := by
  simp only [select_pool]
  by_cases twice : u.rule = .type .selfFriend ∧ ∃ info, targets.lookup u.attackIndex = some info ∧ friend u.attack info = true
  · obtain ⟨rule,info,found,close⟩ := twice
    have pass : u.picks info = true := (u.picks_type rule info).trans close
    have own : u.given = [u.attackIndex] := by
      unfold given
      rw [rule]
      rfl
    have among : [u.attackIndex].Subperm (picked order targets u.picks) := List.singleton_subperm_iff.mpr ((picked_mem keyed).mpr ⟨info,found,pass⟩)
    have pair : [u.attackIndex,u.attackIndex].Subperm (u.pool order targets) := by
      refine List.Subperm.trans ?_ (u.pool_perm order targets).symm.subperm
      rw [own]
      exact (List.subperm_append_right [u.attackIndex]).mpr among
    exact (Draws.always_apart pair).trans ⟨fun few _ _ _ _ => few,fun few => few rule info found close⟩
  · refine iff_of_true (fun draws => Draws.thin_nodup ?_ draws) (fun rule info found close => absurd ⟨rule,info,found,close⟩ twice)
    refine (u.pool_perm order targets).nodup_iff.mpr (List.nodup_append'.mpr ⟨picked_nodup keyed,u.given_nodup,fun objectIndex inside given => twice ?_⟩)
    obtain ⟨info,found,pass⟩ := (picked_mem keyed).mp inside
    obtain ⟨rule,rfl,close⟩ := given_picked keyed found pass given
    exact ⟨rule,info,found,close⟩

theorem rivals_pool (keyed : Keyed targets) : ((u.pool order targets).filter (· ≠ u.defenseIndex)).length = u.rivals targets := by
  rw [((u.pool_perm order targets).filter _).length_eq,List.filter_append,List.length_append,((picked_perm keyed).filter _).length_eq,
    List.filter_map,List.length_map,List.filter_filter]
  rfl

theorem main_pooled (keyed : Keyed targets) (there : targets.lookup u.defenseIndex = some u.main) (wanted : u.wants u.main = true) :
    u.defenseIndex ∈ u.pool order targets ↔ (u.rule = .type .onlyRoleEnemy → enemy u.attack u.main = true → u.defense.objectType ≠ .army) := by
  have found (pass : u.picks u.main = true) : u.defenseIndex ∈ u.pool order targets := (pool_mem keyed).mpr (.inl ⟨u.main,there,pass⟩)
  have given (own : u.defenseIndex ∈ u.given) : u.defenseIndex ∈ u.pool order targets := (pool_mem keyed).mpr (.inr own)
  cases rule : u.rule with
  | damage => exact iff_of_true (given (u.given_mem.mpr (.inr ⟨rule,rfl⟩))) (fun other => nomatch other)
  | type type =>
    rw [u.wants_type rule] at wanted
    rw [u.picks_type rule] at found
    have own (kind : type.self = true) (same : u.defenseIndex = u.attackIndex) : u.defenseIndex ∈ u.pool order targets :=
      given (u.given_mem.mpr (.inl ⟨(u.self_type rule).trans kind,same⟩))
    cases type with
    | onlySelf => exact iff_of_true (own rfl (decide_eq_true_iff.mp wanted)) (fun other => nomatch other)
    | onlyFriend => exact iff_of_true (found wanted) (fun other => nomatch other)
    | selfFriend =>
      rcases Bool.or_eq_true_iff.mp wanted with same | close
      · exact iff_of_true (own rfl (decide_eq_true_iff.mp same)) (fun other => nomatch other)
      · exact iff_of_true (found close) (fun other => nomatch other)
    | allEnemy => exact iff_of_true (found wanted) (fun other => nomatch other)
    | noRole => exact iff_of_true (found (decide_eq_true (noRole_wants.mp wanted).1)) (fun other => nomatch other)
    | onlyRoleEnemy =>
      obtain ⟨kind,foe⟩ := onlyRoleEnemy_wants.mp wanted
      constructor
      · intro inside _ _ army
        rcases (pool_mem keyed).mp inside with ⟨info,same,pass⟩ | own
        · cases Option.some.inj (there.symm.trans same)
          rw [u.picks_type rule] at pass
          have role : u.defense.objectType = .role := decide_eq_true_iff.mp (Bool.and_eq_true_iff.mp pass).1
          exact absurd (army.symm.trans role) (by decide)
        · rcases u.given_mem.mp own with ⟨own,_⟩ | ⟨damage,_⟩
          · rw [u.self_type rule] at own
            cases own
          · rw [rule] at damage
            cases damage
      · intro other
        rcases kind with role | army
        · exact found (Bool.and_eq_true_iff.mpr ⟨decide_eq_true role,foe⟩)
        · exact absurd army (other rfl foe)

theorem main_iff (keyed : Keyed targets) (there : targets.lookup u.defenseIndex = some u.main) :
    (u.wants u.main = true → ∀ draws, u.defenseIndex ∈ u.select order targets draws) ↔
      (u.wants u.main = true → u.rivals targets < u.targetExMaxNum) ∧
        (u.rule = .type .onlyRoleEnemy → enemy u.attack u.main = true → u.defense.objectType ≠ .army) := by
  simp only [select_pool]
  constructor
  · intro always
    have inside (wanted : u.wants u.main = true) : u.defenseIndex ∈ u.pool order targets :=
      (Draws.thin_subperm _ [] _).subset (always wanted [])
    refine ⟨fun wanted => rivals_pool keyed ▸ (Draws.always_drawn (inside wanted)).mp (always wanted),fun rule foe army => ?_⟩
    have wanted : u.wants u.main = true := (u.wants_type rule _).trans (onlyRoleEnemy_wants.mpr ⟨.inr army,foe⟩)
    exact (main_pooled keyed there wanted).mp (inside wanted) rule foe army
  · rintro ⟨room,players⟩ wanted
    exact (Draws.always_drawn ((main_pooled keyed there wanted).mpr players)).mpr (rivals_pool keyed ▸ room wanted)

theorem fit_iff (keyed : Keyed targets) (there : targets.lookup u.defenseIndex = some u.main) :
    (∀ draws, ∀ objectIndex ∈ u.select order targets draws,
        (∃ info, targets.lookup objectIndex = some info ∧ u.wants info = true) ∨ u.self = true ∧ objectIndex = u.attackIndex) ↔
      (u.rule = .type .noRole → 0 < u.targetExMaxNum → ∀ objectIndex info, targets.lookup objectIndex = some info → info.objectType ≠ .army) := by
  simp only [select_pool]
  refine Draws.always_only.trans ⟨fun all rule some_ objectIndex info found army => ?_,fun others some_ objectIndex inside => ?_⟩
  · have pass : u.picks info = true := (u.picks_type rule _).trans (decide_eq_true (fun role => absurd (army.symm.trans role) (by decide)))
    rcases all some_ objectIndex ((pool_mem keyed).mpr (.inl ⟨info,found,pass⟩)) with ⟨same,again,wanted⟩ | ⟨own,_⟩
    · cases Option.some.inj (found.symm.trans again)
      rw [u.wants_type rule] at wanted
      exact (noRole_wants.mp wanted).2 army
    · rw [u.self_type rule] at own
      cases own
  · rcases (pool_mem keyed).mp inside with ⟨info,found,pass⟩ | given
    · rcases picks_wants pass with wanted | ⟨rule,army⟩
      · exact .inl ⟨info,found,wanted⟩
      · exact absurd army (others rule some_ objectIndex info found)
    · rcases u.given_mem.mp given with own | ⟨damage,rfl⟩
      · exact .inr own
      · exact .inl ⟨u.main,there,(u.wants_damage damage _).trans (Bool.or_eq_true_iff.mpr (.inl (decide_eq_true rfl)))⟩

theorem sourceless_iff (keyed : Keyed targets) :
    (∀ objectIndex info, targets.lookup objectIndex = some info → info.objectType = .army →
        u.picks {info with rid:=none} = u.picks {info with rid:=info.objectRid}) ↔
      (u.rule = .damage → u.defense.objectType = .army → u.defense.guildId ≤ 0 → ∀ objectIndex info,
        targets.lookup objectIndex = some info → objectIndex ≠ u.defenseIndex → info.objectType = .army → info.objectRid ≠ some u.defense.objectRid) := by
  cases rule : u.rule with
  | type type =>
    refine iff_of_true (fun _ info _ _ => ?_) (fun other => nomatch other)
    rw [u.picks_type rule,u.picks_type rule]
    cases type <;> rfl
  | damage =>
    simp only [u.picks_damage rule]
    constructor
    · intro same _ army guildless objectIndex info found other kind own
      have reported : picksEx u.defenseIndex u.defense {info with rid:=info.objectRid} = true :=
        (picksEx_army army guildless _).mpr ⟨(keyed _ _ found) ▸ other,kind,own⟩
      have scene := (picksEx_army army guildless _).mp ((same objectIndex info found kind).trans reported)
      cases scene.2.2
    · intro guilds objectIndex info found kind
      by_cases alone : u.defense.objectType = .army ∧ u.defense.guildId ≤ 0
      · refine Bool.eq_iff_iff.mpr ?_
        rw [picksEx_army alone.1 alone.2,picksEx_army alone.1 alone.2]
        refine iff_of_false (fun scene => nomatch scene.2.2) (fun reported => ?_)
        exact guilds trivial alone.1 alone.2 objectIndex info found (keyed _ _ found ▸ reported.1) kind reported.2.2
      · exact (picksEx_guild alone info none).trans (picksEx_guild alone info info.objectRid).symm

theorem right_iff (keyed : Keyed targets) (there : targets.lookup u.defenseIndex = some u.main) : Right u order targets ↔ Fair u targets := by
  constructor
  · intro right
    obtain ⟨room,players⟩ := (main_iff keyed there).mp right.main
    exact ⟨(distinct_iff keyed).mp right.distinct,room,(fit_iff keyed there).mp right.fit,players,(sourceless_iff keyed).mp right.sourceless⟩
  · intro fair
    refine ⟨(distinct_iff keyed).mpr fair.single,fun draws => ?_,(fit_iff keyed there).mpr fair.others,
      (main_iff keyed there).mpr ⟨fair.room,fair.players⟩,(sourceless_iff keyed).mpr fair.guilds⟩
    rw [select_pool,Draws.thin_length]
    exact Nat.min_le_left _ _

end Use

section useSkill
variable {Pos K : Type} [Field K] [LinearOrder K]

theorem useSkillTargets_keyed (geometry : Geometry Pos K) (order : Order Nat) (objectInfos : Table Nat (SceneObject Pos))
    (mapObjects : List (MapObject Pos K)) (attackIndex : Nat) (attack : SceneObject Pos) (defenseIndex : Nat) (defense : SceneObject Pos)
    (range : SkillRange K) :
    Keyed (useSkillTargets geometry order objectInfos mapObjects attackIndex attack defenseIndex defense range) := by
  have empty : Keyed ∅ := fun _ _ found => nomatch found
  refine insert_keyed ?_ ⟨defenseIndex,defense.objectType,some defense.guildId,some defense.objectRid,none⟩
  split
  next => exact put_keyed (put_keyed empty _) _
  next => exact empty

theorem selection_right (geometry : Geometry Pos K) (order : Order Nat) (objectInfos : Table Nat (SceneObject Pos))
    (mapObjects : List (MapObject Pos K)) (range : SkillRange K) (u : Use Pos) (pairs : Order Nat) :
    u.Right pairs (useSkillTargets geometry order objectInfos mapObjects u.attackIndex u.attack u.defenseIndex u.defense range) ↔
      u.Fair (useSkillTargets geometry order objectInfos mapObjects u.attackIndex u.attack u.defenseIndex u.defense range) :=
  Use.right_iff (useSkillTargets_keyed geometry order objectInfos mapObjects u.attackIndex u.attack u.defenseIndex u.defense range)
    (AList.lookup_insert _)

end useSkill

-- Three uses: on the caster and its friends with the caster as target, on them with a friend as
-- target, and one that deals damage to an army without a guild next to another of its role.
def cheer : Use (ℤ × ℤ) := ⟨.type .selfFriend,1,⟨.army,5,7,(0,0)⟩,1,⟨.army,5,7,(0,0)⟩,2⟩

def heal : Use (ℤ × ℤ) := ⟨.type .selfFriend,1,⟨.army,5,7,(0,0)⟩,2,⟨.army,5,8,(0,5)⟩,1⟩

def volley : Use (ℤ × ℤ) := ⟨.damage,1,⟨.army,5,7,(0,0)⟩,2,⟨.army,0,8,(0,5)⟩,2⟩

def Use.candidates (u : Use (ℤ × ℤ)) (range : SkillRange ℚ) : Table Nat TargetInfo :=
  useSkillTargets grid .stored ((((∅ : Table Nat (SceneObject (ℤ × ℤ))).insert 3 ⟨.army,0,8,(5,0)⟩).insert u.defenseIndex u.defense).insert
    u.attackIndex u.attack) [] u.attackIndex u.attack u.defenseIndex u.defense range

theorem selection_wrong :
    ¬cheer.Right .stored (cheer.candidates ⟨true,1,20,180⟩) ∧ ¬heal.Right .stored (heal.candidates ⟨false,0,20,180⟩) ∧
      ¬volley.Right .stored (volley.candidates ⟨true,1,20,180⟩) := by
  refine ⟨fun right => ?_,fun right => ?_,fun right => ?_⟩
  · exact absurd (right.distinct []) (by decide +kernel)
  · exact absurd (right.main (by decide +kernel) [1]) (by decide +kernel)
  · exact absurd (right.sourceless 3 ⟨3,.army,some 0,some 8,none⟩ (by decide +kernel) rfl) (by decide +kernel)

end OriginGame.SkillTargets
