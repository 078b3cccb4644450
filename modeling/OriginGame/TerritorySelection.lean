import OriginGame.TerritoryOrder

namespace OriginGame.Territory

-- The guild and the building a tile goes to when its claims are sorted.
def sortSelects (env : Env) (sorting : Sorting earlier) (territoryId : TerritoryId) (info : TerritoryInfo) : Option BuildKey :=
  let occupy := sorting.sort info.occupy
  occupy.head?.map (fun first =>
    let chosen := chooseClaim env territoryId first occupy
    (chosen.guildId,chooseBuild env first chosen occupy))

-- Those a tile goes to when a building gives it up.
def releaseSelects (env : Env) (guildId : GuildId) (buildIndex : BuildIndex) (territoryId : TerritoryId) (info : TerritoryInfo) : Option BuildKey :=
  if info.unoccupied || info.occupied == some (guildId,buildIndex) then
    (successor env guildId buildIndex territoryId info.occupy).map (fun claim =>
      if (env.buildOf claim).building then
        (((dropLast guildId buildIndex info.occupy).find? (fun other =>
          other.guildId == claim.guildId && other.buildIndex != claim.buildIndex && !(env.buildOf other).building)).getD claim).key
      else claim.key)
  else none

-- The selected building has a claim that is left, and the tile is its guild's if it stands and only
-- claimed if it is being built.
structure Settles (env : Env) (selected : BuildKey) (one : TerritoryInfo × Verdict) : Prop where
  listed : selected ∈ one.1.occupy.map Claim.key
  owner : one.1.occupied = if (env.getGuildBuild selected.1 selected.2).building then none else some selected
  verdict : one.2 = if (env.getGuildBuild selected.1 selected.2).building then .preOccupy selected.1 else .occupy selected.1

-- The claim a sorted list goes by: another guild's building that is the first to stand on the tile,
-- else the first claim.
def Leads (env : Env) (territoryId : TerritoryId) (occupy : List Claim) (lead : Claim) : Prop :=
  ∃ first, occupy.head? = some first ∧
    ((lead.guildId ≠ first.guildId ∧ occupy.find? (fun claim => (env.buildOf claim).territoryId == territoryId) = some lead) ∨
      (lead = first ∧ ∀ standing, occupy.find? (fun claim => (env.buildOf claim).territoryId == territoryId) = some standing →
        standing.guildId = first.guildId))

-- The guild of the leading claim has a building that is completed, or one with the index of the first
-- claim on a tile that nobody owns.
def Backed (env : Env) (territoryId : TerritoryId) (owner : Option BuildKey) (occupy : List Claim) : Prop :=
  ∀ first, occupy.head? = some first → ∀ lead, Leads env territoryId occupy lead →
    (∃ claim ∈ occupy, claim.guildId = lead.guildId ∧ (env.buildOf claim).building = false) ∨
      ((lead.guildId,first.buildIndex) ∈ occupy.map Claim.key ∧ owner = none)

section sorted
variable {env : Env} {id : TerritoryId} {info : TerritoryInfo} {occupy : List Claim} {first lead : Claim}

theorem chooseClaim_leads (head : occupy.head? = some first) : Leads env id occupy lead ↔ lead = chooseClaim env id first occupy := by
  unfold Leads chooseClaim
  constructor
  · rintro ⟨other,same,leads⟩
    rw [head] at same
    cases same
    rcases leads with ⟨apart,found⟩ | ⟨rfl,none_⟩
    · simp only [found,if_neg apart]
    · split
      · rename_i standing found
        rw [if_pos (none_ standing found)]
      · rfl
  · rintro rfl
    refine ⟨first,head,?_⟩
    cases found : occupy.find? (fun claim => (env.buildOf claim).territoryId == id) with
    | none => exact .inr ⟨rfl,fun _ none_ => by cases none_⟩
    | some standing =>
      dsimp only
      by_cases same : standing.guildId = first.guildId
      · rw [if_pos same]
        refine .inr ⟨rfl,fun other there => ?_⟩
        cases there
        exact same
      · rw [if_neg same]
        exact .inl ⟨same,rfl⟩

theorem Leads.mem (leads : Leads env id occupy lead) : lead ∈ occupy := by
  obtain ⟨first,head,⟨_,found⟩ | ⟨rfl,_⟩⟩ := leads
  · exact List.mem_of_find?_eq_some found
  · exact List.mem_of_mem_head? head

-- A completed building of the leading guild is found whenever there is one.
theorem chooseBuild_completed (leads : lead ∈ occupy) (claim : Claim) (mem : claim ∈ occupy) (own : claim.guildId = lead.guildId)
    (completed : (env.buildOf claim).building = false) :
    (lead.guildId,chooseBuild env first lead occupy) ∈ occupy.map Claim.key ∧
      (env.getGuildBuild lead.guildId (chooseBuild env first lead occupy)).building = false := by
  unfold chooseBuild
  split
  · have some_ : (occupy.find? (fun other => other.guildId == lead.guildId && !(env.buildOf other).building)).isSome := by
      refine List.find?_isSome.mpr ⟨claim,mem,?_⟩
      rw [own,completed,beq_self_eq_true]
      rfl
    obtain ⟨other,found⟩ := Option.isSome_iff_exists.mp some_
    have passes := List.find?_some found
    rw [Bool.and_eq_true,beq_iff_eq,Bool.not_eq_true'] at passes
    rw [found,Option.map_some,Option.getD_some,← passes.1]
    exact ⟨List.mem_map.mpr ⟨other,List.mem_of_find?_eq_some found,rfl⟩,passes.2⟩
  · rename_i stands
    exact ⟨List.mem_map.mpr ⟨lead,leads,rfl⟩,Bool.eq_false_iff.mpr stands⟩

-- Without one the index is the first claim's.
theorem chooseBuild_uncompleted (leads : lead ∈ occupy)
    (none_ : ∀ claim ∈ occupy, claim.guildId = lead.guildId → (env.buildOf claim).building = true) :
    chooseBuild env first lead occupy = first.buildIndex := by
  unfold chooseBuild
  rw [if_pos (none_ lead leads rfl)]
  have gone : occupy.find? (fun other => other.guildId == lead.guildId && !(env.buildOf other).building) = none := by
    refine List.find?_eq_none.mpr (fun claim mem passes => ?_)
    rw [Bool.and_eq_true,beq_iff_eq,none_ claim mem passes.1] at passes
    cases passes.2
  rw [gone]
  rfl

theorem uncompleted_building {guildId : GuildId} {buildIndex : BuildIndex}
    (none_ : ∀ claim ∈ occupy, claim.guildId = guildId → (env.buildOf claim).building = true)
    (there : (guildId,buildIndex) ∈ occupy.map Claim.key) : (env.getGuildBuild guildId buildIndex).building = true := by
  obtain ⟨claim,mem,same⟩ := List.mem_map.mp there
  obtain ⟨own,index⟩ := Prod.mk.inj same
  have building := none_ claim mem own
  unfold Env.buildOf at building
  rwa [own,index] at building

theorem sortOne_selected (sorting : Sorting earlier) (head : (sorting.sort info.occupy).head? = some first)
    (chosen : lead = chooseClaim env id first (sorting.sort info.occupy)) :
    sortSelects env sorting id info = some (lead.guildId,chooseBuild env first lead (sorting.sort info.occupy)) ∧
      sortOne env sorting id info =
        if (env.getGuildBuild lead.guildId (chooseBuild env first lead (sorting.sort info.occupy))).building then
          ({info with occupy:=sorting.sort info.occupy},.preOccupy lead.guildId)
        else (⟨sorting.sort info.occupy,some (lead.guildId,chooseBuild env first lead (sorting.sort info.occupy))⟩,.occupy lead.guildId) := by
  subst chosen
  refine ⟨?_,?_⟩
  · unfold sortSelects
    dsimp only
    rw [head]
    rfl
  · unfold sortOne
    cases listed : sorting.sort info.occupy with
    | nil =>
      rw [listed] at head
      cases head
    | cons other rest =>
      rw [listed] at head
      cases head
      rfl

-- One tile.
theorem sortOne_settles (sorting : Sorting earlier) :
    (∀ selected, sortSelects env sorting id info = some selected → Settles env selected (sortOne env sorting id info)) ↔
      Backed env id info.occupied (sorting.sort info.occupy) := by
  cases head : (sorting.sort info.occupy).head? with
  | none =>
    constructor
    · intro _ first found
      rw [head] at found
      cases found
    · intro _ selected found
      unfold sortSelects at found
      dsimp only at found
      rw [head] at found
      cases found
  | some first =>
    have leads := (@chooseClaim_leads env id (sorting.sort info.occupy) first (chooseClaim env id first (sorting.sort info.occupy)) head).mpr rfl
    obtain ⟨selects,settled⟩ := sortOne_selected sorting head (Eq.refl (chooseClaim env id first (sorting.sort info.occupy)))
    have only : Backed env id info.occupied (sorting.sort info.occupy) ↔
        (∃ claim ∈ sorting.sort info.occupy, claim.guildId = (chooseClaim env id first (sorting.sort info.occupy)).guildId ∧
          (env.buildOf claim).building = false) ∨
        (((chooseClaim env id first (sorting.sort info.occupy)).guildId,first.buildIndex) ∈ (sorting.sort info.occupy).map Claim.key ∧
          info.occupied = none) := by
      constructor
      · exact fun backed => backed first head _ leads
      · intro backed other same lead leads
        rw [head] at same
        cases same
        rw [(chooseClaim_leads head).mp leads]
        exact backed
    rw [only,selects]
    generalize chooseClaim env id first (sorting.sort info.occupy) = lead at leads settled
    by_cases completed : ∃ claim ∈ sorting.sort info.occupy, claim.guildId = lead.guildId ∧ (env.buildOf claim).building = false
    · refine ⟨fun _ => .inl completed,fun _ selected same => ?_⟩
      cases same
      obtain ⟨claim,mem,own,stands⟩ := completed
      obtain ⟨listed,stands⟩ := @chooseBuild_completed env _ first lead leads.mem claim mem own stands
      rw [stands,if_neg Bool.false_ne_true] at settled
      rw [settled]
      exact ⟨listed,by rw [stands]; rfl,by rw [stands]; rfl⟩
    · have unfinished (claim : Claim) (mem : claim ∈ sorting.sort info.occupy) (own : claim.guildId = lead.guildId) :
          (env.buildOf claim).building = true := by
        by_contra stands
        exact completed ⟨claim,mem,own,Bool.eq_false_iff.mpr stands⟩
      have index := @chooseBuild_uncompleted env _ first lead leads.mem unfinished
      rw [index] at settled ⊢
      constructor
      · intro settles
        have one := settles _ rfl
        have there : (lead.guildId,first.buildIndex) ∈ (sorting.sort info.occupy).map Claim.key := by
          have listed := one.listed
          rw [settled] at listed
          split at listed <;> exact listed
        have building := uncompleted_building unfinished there
        rw [if_pos building] at settled
        have owner := one.owner
        rw [settled,if_pos building] at owner
        exact .inr ⟨there,owner⟩
      · rintro (some_ | ⟨there,free⟩) selected same
        · exact absurd some_ completed
        · cases same
          have building := uncompleted_building unfinished there
          rw [if_pos building] at settled
          rw [settled]
          exact ⟨there,by rw [if_pos building]; exact free,by rw [if_pos building]⟩

end sorted

section released
variable {env : Env} {guildId : GuildId} {buildIndex : BuildIndex} {id : TerritoryId} {info : TerritoryInfo} {claim : Claim} {selected : BuildKey}
  {territories : TerritoryId → Option TerritoryInfo}

theorem successor_mem (next : successor env guildId buildIndex id info.occupy = some claim) : claim ∈ dropLast guildId buildIndex info.occupy := by
  unfold successor at next
  rcases Option.or_eq_some_iff.mp next with standing | ⟨_,first⟩
  · obtain ⟨mem,other⟩ := List.mem_filter.mp (List.mem_of_getLast? standing)
    rw [Bool.and_eq_true,Bool.not_eq_true'] at other
    unfold dropLast
    rw [List.mem_reverse,@List.mem_eraseP_of_neg _ (fun claim => claim.by guildId buildIndex) claim _ (Bool.eq_false_iff.mp other.1),List.mem_reverse]
    exact mem
  · exact List.mem_of_mem_head? first

theorem releaseSelects_settles (selects : releaseSelects env guildId buildIndex id info = some selected) :
    Settles env selected (release env guildId buildIndex id info) := by
  unfold releaseSelects at selects
  unfold release
  split at selects
  · rename_i given
    rw [if_pos given]
    cases next : successor env guildId buildIndex id info.occupy with
    | none =>
      rw [next] at selects
      cases selects
    | some claim =>
      rw [next] at selects
      have left := successor_mem next
      dsimp only [Option.map_some] at selects ⊢
      by_cases building : (env.buildOf claim).building = true
      · rw [if_pos building] at selects ⊢
        cases found : (dropLast guildId buildIndex info.occupy).find? (fun other =>
          other.guildId == claim.guildId && other.buildIndex != claim.buildIndex && !(env.buildOf other).building) with
        | none =>
          rw [found] at selects
          cases selects
          exact ⟨List.mem_map.mpr ⟨claim,left,rfl⟩,(if_pos building).symm,(if_pos building).symm⟩
        | some other =>
          rw [found] at selects
          cases selects
          have passes := List.find?_some found
          rw [Bool.and_eq_true,Bool.not_eq_true'] at passes
          have stands := Bool.eq_false_iff.mp passes.2
          exact ⟨List.mem_map.mpr ⟨other,List.mem_of_find?_eq_some found,rfl⟩,(if_neg stands).symm,(if_neg stands).symm⟩
      · rw [if_neg building] at selects ⊢
        cases selects
        exact ⟨List.mem_map.mpr ⟨claim,left,rfl⟩,(if_neg building).symm,(if_neg building).symm⟩
  · cases selects

-- The tiles are given up one after another.
theorem releaseAll_append (env : Env) (guildId : GuildId) (buildIndex : BuildIndex) (tiles : List TerritoryId) (rest : List TerritoryId) :
    (releaseAll env guildId buildIndex territories (tiles++rest)).1 =
      (releaseAll env guildId buildIndex (releaseAll env guildId buildIndex territories tiles).1 rest).1 := by
  induction tiles generalizing territories with
  | nil => rfl
  | cons tile others ih =>
    simp only [List.cons_append,releaseAll]
    split
    · exact ih
    · exact ih

theorem delTerritories_turn (env : Env) (s : State) (tiles : List TerritoryId) (disbandGuild : Bool) (order : Order GuildId)
    (found : (delTerritories env s guildId buildIndex tiles disbandGuild order).territories id = some info) :
    (delTerritories env s guildId buildIndex (tiles++[id]) disbandGuild order).territories id =
      some (release env guildId buildIndex id info).1 := by
  rw [delTerritories_territories] at found ⊢
  rw [releaseAll_append]
  simp only [releaseAll,found]
  rw [Function.update_self]

end released

-- What is selected for a tile, when its turn comes.
theorem selection_remains (env : Env) (s : State) (sorting : Sorting earlier) (visited : List TerritoryId) (order : Order GuildId)
    (guildId : GuildId) (buildIndex : BuildIndex) (disbandGuild : Bool) :
    ((∀ id info, s.territories id = some info → ∀ selected, sortSelects env sorting id info = some selected →
        (sortTerritories env s sorting visited order).territories id = some (sortOne env sorting id info).1 ∧
          Settles env selected (sortOne env sorting id info)) ∧
      ∀ tiles id info, (delTerritories env s guildId buildIndex tiles disbandGuild order).territories id = some info →
        ∀ selected, releaseSelects env guildId buildIndex id info = some selected →
          (delTerritories env s guildId buildIndex (tiles++[id]) disbandGuild order).territories id =
              some (release env guildId buildIndex id info).1 ∧
            Settles env selected (release env guildId buildIndex id info)) ↔
      ∀ id info, s.territories id = some info → Backed env id info.occupied (sorting.sort info.occupy) := by
  constructor
  · rintro ⟨sorted,_⟩ id info found
    exact (sortOne_settles sorting).mp (fun selected selects => (sorted id info found selected selects).2)
  · intro backed
    constructor
    · intro id info found selected selects
      refine ⟨?_,(sortOne_settles sorting).mpr (backed id info found) selected selects⟩
      rw [sortTerritories_at,found]
      rfl
    · intro tiles id info found selected selects
      exact ⟨delTerritories_turn env s tiles disbandGuild order found,releaseSelects_settles selects⟩

section mixed

-- Guild 1 has claimed the tile first; the fortress that guild 2 is building stands on it, and its
-- building 1 is elsewhere and completed.
def fortress : Env := ⟨fun guildId buildIndex => ⟨if (guildId,buildIndex) = (2,2) then 5 else 9,(guildId,buildIndex) == (2,2)⟩,fun _ _ _ => false⟩

def beside : State := {vacant with territories:=fun id => if id = 5 then some ⟨[⟨1,1,10⟩,⟨2,2,20⟩],none⟩ else none}

theorem mixed_selection : ¬ ∀ id info, beside.territories id = some info → ∀ selected, sortSelects fortress insertion id info = some selected →
    (sortTerritories fortress beside insertion [5] .stored).territories id = some (sortOne fortress insertion id info).1 ∧
      Settles fortress selected (sortOne fortress insertion id info) := by
  intro always
  have settles := (always 5 ⟨[⟨1,1,10⟩,⟨2,2,20⟩],none⟩ (by decide) (2,1) (by decide)).2
  exact absurd settles.listed (by decide)

end mixed
end OriginGame.Territory
