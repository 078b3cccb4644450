import OriginGame.RestartOwners

namespace OriginGame.Territory

-- The calls that change the claims, sortTerritories among them.
inductive MgrCall where
  | serve (label : Label)
  | sortTerritories (env : Env) (sorting : Sorting earlier) (visited : List TerritoryId) (order : Order GuildId)

-- `_isInit`
def Label.isInit : Label → Bool
  | .preOccupyTerritory _ _ _ _ isInit => isInit
  | .occupyTerritory _ _ _ isInit _ => isInit
  | .delTerritories .. => false

-- While buildings are being read back the claims stand in the order they come in.
structure Phased where
  mgr : State
  loading : Bool

namespace Phased

-- sortTerritories ends the loading, a call that passes `_isInit` begins another one.
def next (m : Phased) : MgrCall → Phased
  | .serve label => ⟨Territory.next m.mgr label,m.loading || label.isInit⟩
  | .sortTerritories env sorting visited order => ⟨Territory.sortTerritories env m.mgr sorting visited order,false⟩

def started : Phased := ⟨vacant,true⟩

end Phased

-- By time and guild, so that the first claim is the earliest.
def Ranked (occupy : List Claim) : Prop :=
  occupy.Pairwise (fun first second => earlier second first = false) ∧
    ∀ first, occupy.head? = some first → ∀ other ∈ occupy, earlier other first = false

def Phased.InOrder (m : Phased) : Prop := m.loading = false → ∀ id, Ranked (claims m.mgr.territories id)

-- A building that is placed finds no later claim on its tiles.
def Phased.Fits (m : Phased) : MgrCall → Prop
  | .serve (.preOccupyTerritory _ claim territoryIds territoryId isInit) =>
    m.loading = false → isInit = false → territoryId.any (refuses m.mgr.territories claim.guildId) = false →
      ∀ id ∈ territoryIds, ∀ other ∈ claims m.mgr.territories id, earlier claim other = false
  | _ => True

section lists
variable {occupy left : List Claim} {claim : Claim}

theorem earlier_self (claim : Claim) : earlier claim claim = false := notEarlier_iff.mpr (.inr ⟨rfl,le_refl _⟩)

theorem ranked_iff : Ranked occupy ↔ occupy.Pairwise (fun first second => earlier second first = false) := by
  refine ⟨And.left,fun sorted => ⟨sorted,?_⟩⟩
  intro first head other inside
  cases occupy with
  | nil => cases head
  | cons found rest =>
    cases head
    rcases List.mem_cons.mp inside with rfl | later
    · exact earlier_self other
    · exact (List.pairwise_cons.mp sorted).1 other later

theorem Ranked.sublist (ranked : Ranked occupy) (part : left.Sublist occupy) : Ranked left :=
  ranked_iff.mpr (List.Pairwise.sublist part ranked.1)

theorem dropLast_sublist (guildId : GuildId) (buildIndex : BuildIndex) : (dropLast guildId buildIndex occupy).Sublist occupy := by
  rw [← List.reverse_sublist,dropLast,List.reverse_reverse]
  exact List.eraseP_sublist

-- What comes to the end of a list has to be no earlier than anything in it.
theorem ranked_append (ranked : Ranked occupy) (n : Nat) :
    Ranked (occupy++List.replicate n claim) ↔ (0 < n → ∀ other ∈ occupy, earlier claim other = false) := by
  rw [ranked_iff,List.pairwise_append]
  constructor
  · rintro ⟨_,_,across⟩ some_ other inside
    exact across other inside claim (List.mem_replicate.mpr ⟨some_.ne',rfl⟩)
  · intro later
    refine ⟨ranked.1,List.pairwise_replicate.mpr (.inr (earlier_self claim)),?_⟩
    intro other inside last mem
    obtain ⟨many,rfl⟩ := List.mem_replicate.mp mem
    exact later (Nat.pos_of_ne_zero many) other inside

end lists

section steps
variable {m : Phased} {s : State} {territories : TerritoryId → Option TerritoryInfo} {claim : Claim} {id : TerritoryId}

-- A tile that is listed more than once is claimed as often.
theorem addAll_count (tiles : List TerritoryId) :
    claims (tiles.foldl (addClaim claim) territories) id = claims territories id++List.replicate (tiles.count id) claim := by
  induction tiles generalizing territories with
  | nil => exact (List.append_nil _).symm
  | cons tile rest ih =>
    rw [List.foldl_cons,ih,addClaim_claims]
    by_cases here : id = tile
    · subst here
      rw [if_pos rfl,List.count_cons_self,List.replicate_succ,List.append_assoc,List.singleton_append]
    · rw [if_neg here,List.count_cons_of_ne (Ne.symm here)]

theorem release_sublist (env : Env) (guildId : GuildId) (buildIndex : BuildIndex) (info : TerritoryInfo) :
    (release env guildId buildIndex id info).1.occupy.Sublist info.occupy := by
  have dropped := @dropLast_sublist info.occupy guildId buildIndex
  unfold release
  split
  · dsimp only
    split
    · exact dropped
    · split
      · split <;> exact dropped
      · exact dropped
  · exact List.eraseP_sublist

theorem releaseAll_sublist (env : Env) (guildId : GuildId) (buildIndex : BuildIndex) (tiles : List TerritoryId) :
    (claims (releaseAll env guildId buildIndex territories tiles).1 id).Sublist (claims territories id) := by
  induction tiles generalizing territories with
  | nil => exact List.Sublist.refl _
  | cons tile rest ih =>
    simp only [releaseAll]
    split
    · exact ih
    next info found =>
      refine ih.trans ?_
      unfold claims
      by_cases here : id = tile
      · subst here
        rw [Function.update_self,found]
        exact release_sublist env guildId buildIndex info
      · rw [Function.update_of_ne here]

theorem sortOne_ranked (env : Env) (sorting : Sorting earlier) (info : TerritoryInfo) : Ranked (sortOne env sorting id info).1.occupy := by
  have sorted := ranked_iff.mpr (sorting.sorted info.occupy)
  unfold sortOne
  dsimp only
  split
  · exact sorted
  · split <;> exact sorted

theorem sortTerritories_at (env : Env) (s : State) (sorting : Sorting earlier) (visited : List TerritoryId) (order : Order GuildId) :
    (sortTerritories env s sorting visited order).territories id = (s.territories id).map (fun info => (sortOne env sorting id info).1) := by
  unfold sortTerritories
  dsimp only
  rw [gainers_territories]
  exact Option.map_map _ _ _

theorem sortTerritories_claims (env : Env) (s : State) (sorting : Sorting earlier) (visited : List TerritoryId) (order : Order GuildId) :
    Ranked (claims (sortTerritories env s sorting visited order).territories id) := by
  unfold claims
  rw [sortTerritories_at]
  cases s.territories id with
  | none => exact ⟨.nil,fun _ head => by cases head⟩
  | some info => exact sortOne_ranked env sorting info

theorem preOccupied_claims (env : Env) (claim : Claim) (tiles : List TerritoryId) (tile : Option TerritoryId) (isInit : Bool)
    (accepted : tile.any (refuses s.territories claim.guildId) = false) :
    claims (preOccupyTerritory env s claim tiles tile isInit).1.territories id =
      claims s.territories id++List.replicate (tiles.count id) claim := by
  rw [preOccupied_territories env claim tiles tile isInit accepted,addAll_count]

-- One call, outside the loading.
theorem next_inOrder (inOrder : m.InOrder) (call : MgrCall) : (m.next call).InOrder ↔ m.Fits call := by
  cases call with
  | sortTerritories env sorting visited order =>
    exact ⟨fun _ => trivial,fun _ _ id => sortTerritories_claims env m.mgr sorting visited order⟩
  | serve label =>
    cases label with
    | preOccupyTerritory env claim tiles tile isInit =>
      by_cases online : m.loading = false ∧ isInit = false
      · obtain ⟨ready,live⟩ := online
        cases refused : tile.any (refuses m.mgr.territories claim.guildId) with
        | true =>
          have unchanged : (preOccupyTerritory env m.mgr claim tiles tile isInit).1 = m.mgr := by
            unfold preOccupyTerritory
            rw [if_pos refused]
          constructor
          · intro _ _ _ accepted
            rw [refused] at accepted
            cases accepted
          · intro _ _
            change ∀ id, Ranked (claims (preOccupyTerritory env m.mgr claim tiles tile isInit).1.territories id)
            rw [unchanged]
            exact inOrder ready
        | false =>
          have tiles_ (id : TerritoryId) : Ranked (claims (m.next (.serve (.preOccupyTerritory env claim tiles tile isInit))).mgr.territories id) ↔
              (id ∈ tiles → ∀ other ∈ claims m.mgr.territories id, earlier claim other = false) := by
            change Ranked (claims (preOccupyTerritory env m.mgr claim tiles tile isInit).1.territories id) ↔ _
            rw [preOccupied_claims env claim tiles tile isInit refused,ranked_append (inOrder ready id),List.count_pos_iff]
          constructor
          · intro after _ _ _ id
            have still : (m.next (.serve (.preOccupyTerritory env claim tiles tile isInit))).loading = false := Bool.or_eq_false_iff.mpr ⟨ready,live⟩
            exact (tiles_ id).mp (after still id)
          · intro fits _ id
            exact (tiles_ id).mpr (fits ready live refused id)
      · constructor
        · exact fun _ ready live => absurd ⟨ready,live⟩ online
        · exact fun _ still => absurd (Bool.or_eq_false_iff.mp still) online
    | occupyTerritory env claim tiles isInit center =>
      refine ⟨fun _ => trivial,fun _ still id => ?_⟩
      obtain ⟨ready,live⟩ := Bool.or_eq_false_iff.mp still
      change isInit = false at live
      subst live
      change Ranked (claims (occupyTerritory env m.mgr claim tiles false center).territories id)
      rw [occupyTerritory_territories,occupyAll_claims]
      exact inOrder ready id
    | delTerritories env guildId buildIndex tiles disbandGuild order =>
      refine ⟨fun _ => trivial,fun _ still id => ?_⟩
      obtain ⟨ready,_⟩ := Bool.or_eq_false_iff.mp still
      change Ranked (claims (delTerritories env m.mgr guildId buildIndex tiles disbandGuild order).territories id)
      rw [delTerritories_territories]
      exact (inOrder ready id).sublist (releaseAll_sublist env guildId buildIndex tiles)

theorem runs_inOrder (inOrder : m.InOrder) (calls : List MgrCall) :
    (∀ n, ((calls.take n).foldl Phased.next m).InOrder) ↔ Runs.Passes Phased.next Phased.Fits m calls :=
  Runs.always_iff Phased.InOrder (fun _ call inOrder => next_inOrder inOrder call) inOrder calls

end steps

theorem claims_inOrder (calls : List MgrCall) :
    (∀ n, ((calls.take n).foldl Phased.next Phased.started).InOrder) ↔ Runs.Passes Phased.next Phased.Fits Phased.started calls :=
  runs_inOrder (fun ready => by cases ready) calls

section late
def idle : Env := ⟨fun _ _ => ⟨0,true⟩,fun _ _ _ => false⟩

-- Two guilds place a building in the same second, that of the smaller id last.
def sameSecond : List MgrCall :=
  [.sortTerritories idle insertion [] .stored,.serve (.preOccupyTerritory idle ⟨2,1,10⟩ [4,5] (some 4) false),
    .serve (.preOccupyTerritory idle ⟨1,1,10⟩ [5,6] (some 6) false)]

theorem sameSecond_outOfOrder : ¬ ∀ n, ((sameSecond.take n).foldl Phased.next Phased.started).InOrder := by
  intro always
  have listed := (always 3 (by decide) 5).1
  exact absurd listed (by decide)

end late
end OriginGame.Territory
