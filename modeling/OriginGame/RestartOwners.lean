import Mathlib.Data.List.Sort
import OriginGame.Runs
import OriginGame.TerritoryRestart

namespace OriginGame.Territory

section removal
variable {guildId : GuildId} {buildIndex : BuildIndex} {list : List Claim}

theorem by_key (claim : Claim) : claim.by guildId buildIndex = true ↔ claim.key = (guildId,buildIndex) := by
  rw [Claim.by,Bool.and_eq_true,beq_iff_eq,beq_iff_eq,Claim.key,Prod.mk.injEq]

-- What a building leaves of the claims to a tile.
def without (guildId : GuildId) (buildIndex : BuildIndex) (list : List Claim) : List Claim :=
  list.filter (fun claim => !claim.by guildId buildIndex)

theorem mem_without : claim ∈ without guildId buildIndex list ↔ claim ∈ list ∧ claim.key ≠ (guildId,buildIndex) := by
  rw [without,List.mem_filter,Bool.not_eq_true',← Bool.not_eq_true,by_key]

-- A building has one claim to a tile: the first is the last.
theorem eraseP_without (once : (list.map Claim.key).Nodup) : list.eraseP (fun claim => claim.by guildId buildIndex) = without guildId buildIndex list := by
  induction list with
  | nil => rfl
  | cons claim rest ih =>
    rw [List.map_cons,List.nodup_cons] at once
    by_cases mine : claim.by guildId buildIndex = true
    · rw [List.eraseP_cons_of_pos (p:=fun claim : Claim => claim.by guildId buildIndex) mine,without,List.filter_cons_of_neg (by simp [mine])]
      symm
      rw [List.filter_eq_self]
      intro other inside
      rw [Bool.not_eq_true',← Bool.not_eq_true,by_key]
      intro same
      exact once.1 (List.mem_map.mpr ⟨other,inside,same.trans ((by_key claim).mp mine).symm⟩)
    · rw [List.eraseP_cons_of_neg (p:=fun claim : Claim => claim.by guildId buildIndex) mine,ih once.2,without,without,List.filter_cons_of_pos (by simp [mine])]

theorem dropLast_without (once : (list.map Claim.key).Nodup) : dropLast guildId buildIndex list = without guildId buildIndex list := by
  have reversed : (list.reverse.map Claim.key).Nodup := by
    rw [List.map_reverse,List.nodup_reverse]
    exact once
  rw [dropLast,eraseP_without reversed,without,without,List.filter_reverse,List.reverse_reverse]

end removal

section steps
variable {builds after : Table BuildKey Build} {id : TerritoryId} {list : List Claim} {holder : Option BuildKey} {key : BuildKey} {build : Build}

theorem TileSound.claimed (sound : TileSound builds id list holder) (its : Claims builds id key build) : build.claim key ∈ list :=
  (sound.known _).mpr ⟨build,its,rfl⟩

theorem buildInfo_same (same : after.lookup key = builds.lookup key) : buildInfo after key = buildInfo builds key := by
  rw [buildInfo,same,buildInfo]

-- A tile does not notice a building that is not on it.
theorem elsewhere_sound (sound : TileSound builds id list holder) (others : ∀ other ≠ key, after.lookup other = builds.lookup other)
    (before : ∀ build, ¬Claims builds id key build) (now : ∀ build, ¬Claims after id key build) : TileSound after id list holder := by
  have apart : ∀ claim ∈ list, claim.key ≠ key := by
    rintro claim inside rfl
    obtain ⟨build,its,_⟩ := (sound.known claim).mp inside
    exact before build its
  have info : ∀ claim ∈ list, buildInfo after claim.key = buildInfo builds claim.key :=
    fun claim inside => buildInfo_same (others _ (apart claim inside))
  refine ⟨?_,sound.once,sound.ordered,?_,?_,?_⟩
  · intro claim
    rw [sound.known]
    by_cases mine : claim.key = key
    · rw [mine]
      exact ⟨fun ⟨build,its,_⟩ => absurd its (before build),fun ⟨build,its,_⟩ => absurd its (now build)⟩
    · unfold Claims
      rw [others _ mine]
  · intro first there claim inside stands
    rw [info claim inside] at stands
    exact sound.standing first there claim inside stands
  · intro nobody first there claim inside same
    rw [info claim inside]
    exact sound.free nobody first there claim inside same
  · rintro owner held
    obtain ⟨done,first,there,same,claim,inside,rfl⟩ := sound.held owner held
    rw [info claim inside]
    exact ⟨done,first,there,same,claim,inside,rfl⟩

-- A building that comes last to a tile, and stands there only if its guild leads.
theorem place_sound (sound : TileSound builds id list holder) (fresh : builds.lookup key = none) (on : id ∈ build.site.territoryIds)
    (started : build.building = true) (late : ∀ claim ∈ list, earlier (build.claim key) claim = false)
    (leads : build.site.center = id → ∀ first ∈ list.head?, key.1 = first.guildId) :
    TileSound (builds.insert key build) id (list++[build.claim key]) holder := by
  have apart : ∀ claim ∈ list, claim.key ≠ key := by
    rintro claim inside rfl
    obtain ⟨other,its,_⟩ := (sound.known claim).mp inside
    rw [its.1] at fresh
    cases fresh
  have info : ∀ claim ∈ list, buildInfo (builds.insert key build) claim.key = buildInfo builds claim.key :=
    fun claim inside => buildInfo_same (AList.lookup_insert_ne (apart claim inside))
  have mine : buildInfo (builds.insert key build) key = ⟨build.site.center,build.building⟩ := by
    rw [buildInfo,AList.lookup_insert]
  have head : ∀ first ∈ (list++[build.claim key]).head?, first ∈ list.head? ∨ (list = [] ∧ first = build.claim key) := by
    intro first there
    cases list with
    | nil => exact .inr ⟨rfl,(Option.some.inj there).symm⟩
    | cons one rest => exact .inl there
  refine ⟨?_,?_,?_,?_,?_,?_⟩
  · intro claim
    rw [List.mem_append,List.mem_singleton,sound.known]
    by_cases same : claim.key = key
    · rw [same]
      unfold Claims
      rw [AList.lookup_insert,fresh]
      constructor
      · rintro (⟨_,⟨none,_⟩,_⟩ | its)
        · cases none
        · exact ⟨build,⟨rfl,on⟩,its⟩
      · rintro ⟨_,⟨there,_⟩,its⟩
        cases there
        exact .inr its
    · unfold Claims
      rw [AList.lookup_insert_ne same,or_iff_left]
      rintro rfl
      exact same rfl
  · rw [List.map_append,List.map_singleton,List.nodup_append]
    refine ⟨sound.once,List.nodup_singleton _,?_⟩
    intro one inside other new equal
    obtain ⟨claim,there,rfl⟩ := List.mem_map.mp inside
    exact apart claim there (equal.trans (List.mem_singleton.mp new))
  · rw [List.pairwise_append]
    refine ⟨sound.ordered,List.pairwise_singleton _ _,?_⟩
    intro claim inside new there
    rw [List.mem_singleton.mp there]
    exact late claim inside
  · intro first there claim inside stands
    rcases List.mem_append.mp inside with old | new
    · rw [info claim old] at stands
      rcases head first there with leading | ⟨empty,_⟩
      · exact sound.standing first leading claim old stands
      · rw [empty] at old
        cases old
    · cases List.mem_singleton.mp new
      rcases head first there with leading | ⟨_,rfl⟩
      · rw [show (build.claim key).key = key from rfl,mine] at stands
        exact leads stands first leading
      · rfl
  · intro nobody first there claim inside same
    rcases List.mem_append.mp inside with old | new
    · rw [info claim old]
      rcases head first there with leading | ⟨empty,_⟩
      · exact sound.free nobody first leading claim old same
      · rw [empty] at old
        cases old
    · cases List.mem_singleton.mp new
      rw [show (build.claim key).key = key from rfl,mine]
      exact started
  · rintro owner held
    obtain ⟨done,first,there,same,claim,inside,rfl⟩ := sound.held owner held
    rw [info claim inside]
    refine ⟨done,first,?_,same,claim,List.mem_append_left _ inside,rfl⟩
    cases list with
    | nil => cases there
    | cons one rest => exact there

section finishing
variable {first : Claim}

theorem finish_claims (found : builds.lookup key = some build) (other : BuildKey) :
    (∃ one, Claims (builds.insert key {build with building:=false}) id other one ∧ claim = one.claim other) ↔
      ∃ one, Claims builds id other one ∧ claim = one.claim other := by
  unfold Claims
  by_cases same : other = key
  · subst same
    simp only [AList.lookup_insert,found,Option.some.injEq,and_assoc,exists_eq_left']
    rfl
  · rw [AList.lookup_insert_ne same]

theorem finish_info (found : builds.lookup key = some build) (other : BuildKey) :
    buildInfo (builds.insert key {build with building:=false}) other =
      if other = key then ⟨build.site.center,false⟩ else buildInfo builds other := by
  by_cases same : other = key
  · subst same
    rw [if_pos rfl,buildInfo,AList.lookup_insert]
  · rw [if_neg same]
    exact buildInfo_same (AList.lookup_insert_ne same)

theorem finish_stands (found : builds.lookup key = some build) (other : BuildKey) :
    (buildInfo (builds.insert key {build with building:=false}) other).territoryId = (buildInfo builds other).territoryId := by
  rw [finish_info found]
  split
  · rename_i same
    rw [same,buildInfo,found]
  · rfl

-- A finished building takes the tiles its guild leads.
theorem finish_sound (sound : TileSound builds id list holder) (its : Claims builds id key build) (there : first ∈ list.head?) :
    TileSound (builds.insert key {build with building:=false}) id list (if first.guildId = key.1 then some key else holder) := by
  refine ⟨?_,sound.once,sound.ordered,?_,?_,?_⟩
  · intro claim
    rw [finish_claims its.1]
    exact sound.known claim
  · intro other leading claim inside stands
    rw [finish_stands its.1] at stands
    exact sound.standing other leading claim inside stands
  · intro nobody other leading claim inside same
    cases Option.mem_unique there leading
    split at nobody
    · cases nobody
    · rename_i apart
      rw [finish_info its.1,if_neg]
      · exact sound.free nobody first there claim inside same
      · intro mine
        exact apart (same.symm.trans (congrArg Prod.fst mine))
  · intro owner held
    split at held
    · rename_i leads
      cases held
      rw [finish_info its.1,if_pos rfl]
      exact ⟨rfl,first,there,leads.symm,_,sound.claimed its,rfl⟩
    · rename_i apart
      obtain ⟨done,other,leading,same,rest⟩ := sound.held owner held
      cases Option.mem_unique there leading
      rw [finish_info its.1,if_neg]
      · exact ⟨done,first,there,same,rest⟩
      · rintro rfl
        exact apart same.symm

end finishing

section removing
variable {env : Env} {guildId : GuildId} {buildIndex : BuildIndex} {info : TerritoryInfo} {claim : Claim}

theorem release_occupy (once : (info.occupy.map Claim.key).Nodup) :
    (release env guildId buildIndex id info).1.occupy = without guildId buildIndex info.occupy := by
  simp only [release]
  split
  · rw [dropLast_without once]
    split
    · rfl
    · split
      · split <;> rfl
      · rfl
  · exact eraseP_without once

-- Who comes next to a tile stands on it, or is the first left.
theorem successor_some (once : (list.map Claim.key).Nodup) (next : successor env guildId buildIndex id list = some claim) :
    claim ∈ without guildId buildIndex list ∧
      ((env.buildOf claim).territoryId = id ∨ (without guildId buildIndex list).head? = some claim) := by
  rw [successor,dropLast_without once,Option.or_eq_some_iff] at next
  rcases next with last | ⟨_,head⟩
  · have inside := List.mem_of_getLast? last
    rw [List.mem_filter,Bool.and_eq_true,beq_iff_eq] at inside
    exact ⟨List.mem_filter.mpr ⟨inside.1,inside.2.1⟩,.inl inside.2.2⟩
  · exact ⟨List.mem_of_head? head,.inr head⟩

theorem successor_none (once : (list.map Claim.key).Nodup) (next : successor env guildId buildIndex id list = none) :
    without guildId buildIndex list = [] := by
  rw [successor,dropLast_without once,Option.or_eq_none_iff] at next
  exact List.head?_eq_none_iff.mp next.2

-- A tile given up goes to the guild of the first claim left, once it has a finished building there.
theorem release_settles (env : Env) (info : TerritoryInfo) (once : (info.occupy.map Claim.key).Nodup) (its : info.occupied = none ∨ info.occupied = some (guildId,buildIndex))
    (standing : ∀ first ∈ (without guildId buildIndex info.occupy).head?, ∀ claim ∈ without guildId buildIndex info.occupy,
      (env.buildOf claim).territoryId = id → claim.guildId = first.guildId) :
    ((release env guildId buildIndex id info).1.occupied = none → ∀ first ∈ (without guildId buildIndex info.occupy).head?,
      ∀ claim ∈ without guildId buildIndex info.occupy, claim.guildId = first.guildId → (env.buildOf claim).building = true) ∧
    ∀ key ∈ (release env guildId buildIndex id info).1.occupied, (env.getGuildBuild key.1 key.2).building = false ∧
      ∃ first ∈ (without guildId buildIndex info.occupy).head?, key.1 = first.guildId ∧
        ∃ claim ∈ without guildId buildIndex info.occupy, claim.key = key := by
  have given : (info.unoccupied || info.occupied == some (guildId,buildIndex)) = true := by
    rw [Bool.or_eq_true,beq_iff_eq,TerritoryInfo.unoccupied,Option.isNone_iff_eq_none]
    exact its
  simp only [release]
  rw [if_pos given,dropLast_without once]
  cases next : successor env guildId buildIndex id info.occupy with
  | none =>
    rw [successor_none once next]
    refine ⟨?_,?_⟩
    · intro _ first there
      cases there
    · intro key held
      cases held
  | some chosen =>
    obtain ⟨inside,stands⟩ := successor_some once next
    have leads : ∀ first ∈ (without guildId buildIndex info.occupy).head?, chosen.guildId = first.guildId := by
      intro first there
      rcases stands with here | head
      · exact standing first there chosen inside here
      · rw [head] at there
        cases there
        rfl
    have there := List.head?_eq_some_head (List.ne_nil_of_mem inside)
    by_cases building : (env.buildOf chosen).building = true
    · simp only [building,if_true]
      cases found : (without guildId buildIndex info.occupy).find? (fun other => other.guildId == chosen.guildId &&
        other.buildIndex != chosen.buildIndex && !(env.buildOf other).building) with
      | none =>
        refine ⟨?_,?_⟩
        · intro _ first there claim left same
          rw [List.find?_eq_none] at found
          by_contra finished
          have guild := same.trans (leads first there).symm
          have other : claim.buildIndex ≠ chosen.buildIndex := by
            intro index
            apply finished
            rw [← building,Env.buildOf,Env.buildOf,guild,index]
          exact found claim left (by simp [guild,other,finished])
        · intro key held
          cases held
      | some other =>
        refine ⟨?_,?_⟩
        · intro nobody
          cases nobody
        · intro key held
          cases held
          have its := List.find?_some (p:=fun other : Claim => other.guildId == chosen.guildId &&
            other.buildIndex != chosen.buildIndex && !(env.buildOf other).building) found
          simp only [Bool.and_eq_true,Bool.not_eq_true',beq_iff_eq] at its
          exact ⟨its.2,_,there,its.1.1.trans (leads _ there),other,List.mem_of_find?_eq_some found,rfl⟩
    · simp only [building]
      refine ⟨?_,?_⟩
      · intro nobody
        cases nobody
      · intro key held
        cases held
        exact ⟨Bool.eq_false_iff.mpr building,_,there,leads _ there,chosen,inside,rfl⟩

-- A tile is taken over in the order of the claims.
theorem remove_sound (sound : TileSound builds id list holder) (findPath : Search)
    (agree : ∀ first ∈ (without key.1 key.2 list).head?,
      (∀ claim ∈ without key.1 key.2 list, (buildInfo builds claim.key).territoryId = id → claim.guildId = first.guildId) ∧
      ∀ other ∈ holder, other ≠ key → other.1 = first.guildId) :
    TileSound (builds.erase key) id (without key.1 key.2 list)
      (release (envOf (builds.erase key) findPath) key.1 key.2 id ⟨list,holder⟩).1.occupied := by
  have info : ∀ claim ∈ without key.1 key.2 list, buildInfo (builds.erase key) claim.key = buildInfo builds claim.key :=
    fun claim inside => buildInfo_same (AList.lookup_erase_ne (mem_without.mp inside).2)
  have standing : ∀ first ∈ (without key.1 key.2 list).head?, ∀ claim ∈ without key.1 key.2 list,
      (buildInfo (builds.erase key) claim.key).territoryId = id → claim.guildId = first.guildId := by
    intro first there claim inside stands
    rw [info claim inside] at stands
    exact (agree first there).1 claim inside stands
  have known : ∀ claim, claim ∈ without key.1 key.2 list ↔ ∃ build, Claims (builds.erase key) id claim.key build ∧ claim = build.claim claim.key := by
    intro claim
    rw [mem_without,sound.known]
    unfold Claims
    by_cases mine : claim.key = key
    · rw [mine,AList.lookup_erase]
      simp
    · rw [AList.lookup_erase_ne mine]
      exact and_iff_left mine
  have once : ((without key.1 key.2 list).map Claim.key).Nodup := sound.once.sublist (List.filter_sublist.map _)
  have ordered : (without key.1 key.2 list).Pairwise (fun first second => earlier second first = false) := sound.ordered.filter _
  by_cases kept : ∃ other, holder = some other ∧ other ≠ key
  · obtain ⟨other,rfl,foreign⟩ := kept
    rw [release_kept rfl foreign]
    refine ⟨known,once,ordered,standing,?_,?_⟩
    · intro nobody
      cases nobody
    · intro owner held
      cases held
      obtain ⟨done,_,_,_,claim,inside,rfl⟩ := sound.held other rfl
      have stays := mem_without.mpr ⟨inside,foreign⟩
      have there := List.head?_eq_some_head (List.ne_nil_of_mem stays)
      rw [info claim stays]
      exact ⟨done,_,there,(agree _ there).2 _ rfl foreign,claim,stays,rfl⟩
  · have given : holder = none ∨ holder = some key := by
      cases holder with
      | none => exact .inl rfl
      | some other => exact .inr (congrArg some (not_not.mp (fun foreign => kept ⟨other,rfl,foreign⟩)))
    obtain ⟨free,held⟩ := release_settles (envOf (builds.erase key) findPath) ⟨list,holder⟩ sound.once given standing
    exact ⟨known,once,ordered,standing,free,held⟩

end removing

end steps

-- A building is placed after the earlier claims to its tiles; what a removed building leaves of a
-- tile begins with the guild of who stands there, and of the building that keeps the tile.
def InOrder (h : History) (label : Search × Event) : Prop :=
  match label.2 with
  | .place key createTime site => ∀ id ∈ site.territoryIds, ∀ claim ∈ claims h.mgr.territories id,
    earlier ⟨key.1,key.2,createTime⟩ claim = false
  | .finish _ => True
  | .remove key _ _ => ∀ id, ∀ build, Claims h.builds id key build →
    ∀ first ∈ (without key.1 key.2 (claims h.mgr.territories id)).head?,
      (∀ claim ∈ without key.1 key.2 (claims h.mgr.territories id),
        (buildInfo h.builds claim.key).territoryId = id → claim.guildId = first.guildId) ∧
      ∀ holder ∈ owner h.mgr.territories id, holder ≠ key → holder.1 = first.guildId

def Sound (h : History) : Prop := ∀ id, TileSound h.builds id (claims h.mgr.territories id) (owner h.mgr.territories id)

section run
variable {h : History} {id : TerritoryId} {key : BuildKey} {build : Build} {findPath : Search}

theorem place_kept (sound : Sound h) (createTime : Int) (site : Site) (fresh : h.builds.lookup key = none)
    (late : ∀ id ∈ site.territoryIds, ∀ claim ∈ claims h.mgr.territories id, earlier ⟨key.1,key.2,createTime⟩ claim = false)
    (step : h.next findPath (.place key createTime site) = some t) : Sound t := by
  simp only [History.next,fresh,Option.isSome_none,Bool.false_eq_true,if_false] at step
  cases refused : refuses h.mgr.territories key.1 site.center with
  | true =>
    rw [preOccupyTerritory_refused site.center refused] at step
    cases step
    exact sound
  | false =>
    obtain ⟨accepted,placed⟩ :=
      preOccupyTerritory_accepted (envOf h.builds findPath) ⟨key.1,key.2,createTime⟩ site.territoryIds site.center refused false
    change some (if (preOccupyTerritory (envOf h.builds findPath) h.mgr ⟨key.1,key.2,createTime⟩ site.territoryIds (some site.center) false).2 = true
      then _ else _) = _ at step
    rw [if_pos accepted] at step
    cases step
    intro id
    change TileSound (h.builds.insert key ⟨createTime,site,true⟩) id
      (claims (preOccupyTerritory (envOf h.builds findPath) h.mgr ⟨key.1,key.2,createTime⟩ site.territoryIds (some site.center) false).1.territories id)
      (owner (preOccupyTerritory (envOf h.builds findPath) h.mgr ⟨key.1,key.2,createTime⟩ site.territoryIds (some site.center) false).1.territories id)
    rw [placed,addAll_owner,addAll_claims site.distinct]
    by_cases on : id ∈ site.territoryIds
    · rw [if_pos on]
      refine place_sound (sound id) fresh on rfl (late id on) ?_
      rintro rfl first there
      rw [refuses_claims] at refused
      cases held : owner h.mgr.territories site.center with
      | none =>
        rw [held,Option.mem_def.mp there] at refused
        exact (bne_eq_false_iff_eq.mp refused).symm
      | some holder =>
        rw [held] at refused
        rw [← bne_eq_false_iff_eq.mp refused]
        exact (sound site.center).leads there held
    · rw [if_neg on]
      refine elsewhere_sound (sound id) (fun other foreign => AList.lookup_insert_ne foreign) ?_ ?_
      · rintro other ⟨there,_⟩
        rw [fresh] at there
        cases there
      · rintro other ⟨there,inside⟩
        rw [AList.lookup_insert] at there
        cases there
        exact on inside

-- A finished building takes a tile of its site just when its guild leads the tile.
theorem takes_leads (sound : TileSound h.builds id (claims h.mgr.territories id) (owner h.mgr.territories id)) (its : Claims h.builds id key build)
    (there : first ∈ (claims h.mgr.territories id).head?) :
    takes h.mgr.territories key.1 (some build.site.center) id = true ↔ first.guildId = key.1 := by
  rw [takes_claims,Bool.or_eq_true,Option.mem_def.mp there,Option.any_some,beq_iff_eq,beq_iff_eq]
  refine ⟨?_,.inr⟩
  rintro (stands | leads)
  · have mine : (buildInfo h.builds key).territoryId = id := by
      rw [buildInfo,its.1]
      exact Option.some.inj stands
    exact (sound.standing first there _ (sound.claimed its) mine).symm
  · exact leads

theorem finish_kept (sound : Sound h) (step : h.next findPath (.finish key) = some t) : Sound t := by
  simp only [History.next] at step
  cases found : h.builds.lookup key with
  | none =>
    rw [found] at step
    cases step
  | some build =>
    rw [found] at step
    cases started : build.building with
    | false =>
      simp only [started] at step
      cases step
    | true =>
      simp only [started,if_true] at step
      cases step
      intro id
      rw [occupyTerritory_territories,occupyAll_claims,occupyAll_owner]
      by_cases on : id ∈ build.site.territoryIds
      · obtain ⟨first,there⟩ : ∃ first, first ∈ (claims h.mgr.territories id).head? :=
          ⟨_,List.head?_eq_some_head (List.ne_nil_of_mem ((sound id).claimed ⟨found,on⟩))⟩
        have finished := finish_sound (sound id) ⟨found,on⟩ there
        have takes := takes_leads (sound id) ⟨found,on⟩ there
        by_cases leads : first.guildId = key.1
        · rw [if_pos leads] at finished
          rw [if_pos ⟨on,takes.mpr leads⟩]
          exact finished
        · rw [if_neg leads] at finished
          rw [if_neg (fun both => leads (takes.mp both.2))]
          exact finished
      · rw [if_neg (fun both => on both.1)]
        refine elsewhere_sound (sound id) (fun other foreign => AList.lookup_insert_ne foreign) ?_ ?_
        · rintro other ⟨there,inside⟩
          rw [found] at there
          cases there
          exact on inside
        · rintro other ⟨there,inside⟩
          rw [AList.lookup_insert] at there
          cases there
          exact on inside

theorem remove_kept (sound : Sound h) (disbandGuild : Bool) (order : Order GuildId)
    (agree : InOrder h (findPath,.remove key disbandGuild order)) (step : h.next findPath (.remove key disbandGuild order) = some t) : Sound t := by
  simp only [History.next] at step
  cases found : h.builds.lookup key with
  | none =>
    rw [found] at step
    cases step
  | some build =>
    rw [found] at step
    cases step
    intro id
    rw [delTerritories_territories]
    by_cases on : id ∈ build.site.territoryIds
    · have mine := (sound id).claimed ⟨found,on⟩
      cases there : h.mgr.territories id with
      | none =>
        rw [claims,there] at mine
        cases mine
      | some info =>
        have once := (releaseAll_once (envOf (h.builds.erase key) findPath) key.1 key.2 build.site.distinct on there).1
        have its : info = ⟨claims h.mgr.territories id,owner h.mgr.territories id⟩ := by
          rw [claims,owner,there]
          rfl
        have left : claims (releaseAll (envOf (h.builds.erase key) findPath) key.1 key.2 h.mgr.territories build.site.territoryIds).1 id =
            without key.1 key.2 (claims h.mgr.territories id) := by
          rw [claims,once,its]
          exact release_occupy (sound id).once
        rw [left,owner,once,its]
        exact remove_sound (sound id) findPath (agree id build ⟨found,on⟩)
    · rw [claims,owner,releaseAll_other on]
      refine elsewhere_sound (sound id) (fun other foreign => AList.lookup_erase_ne foreign) ?_ ?_
      · rintro other ⟨there,inside⟩
        rw [found] at there
        cases there
        exact on inside
      · rintro other ⟨there,_⟩
        rw [AList.lookup_erase] at there
        cases there

theorem next_sound {label : Search × Event} (sound : Sound h) (inOrder : InOrder h label) (step : HistorySteps h label t) : Sound t := by
  obtain ⟨findPath,event⟩ := label
  cases event with
  | place key createTime site =>
    cases fresh : h.builds.lookup key with
    | none => exact place_kept sound createTime site fresh inOrder step
    | some build =>
      simp only [HistorySteps,History.next,fresh,Option.isSome_some,if_true] at step
      cases step
  | finish key => exact finish_kept sound step
  | remove key disbandGuild order => exact remove_kept sound disbandGuild order inOrder step

theorem founded_sound : Sound founded := by
  intro id
  refine ⟨?_,List.nodup_nil,List.Pairwise.nil,?_,?_,?_⟩
  · intro claim
    constructor
    · intro inside
      cases inside
    · rintro ⟨build,⟨there,_⟩,_⟩
      cases there
  · intro first there
    cases there
  · intro _ first there
    cases there
  · intro key held
    cases held

theorem restart_same (path : Runs (Guarded HistorySteps InOrder) founded labels h) (findPath : Search) (order : Order BuildKey)
    (sorting : Sorting earlier) (visited : List TerritoryId) (guilds : Order GuildId) (id : TerritoryId) :
    occupyGuildId (rebuild h.builds findPath order sorting visited guilds).territories id = occupyGuildId h.mgr.territories id := by
  have sound : Sound h := by
    refine Runs.invariant ?_ path founded_sound
    rintro before label after sound ⟨step,inOrder⟩
    exact next_sound sound inOrder step
  exact rebuild_owner h (sound id) findPath order sorting visited guilds

end run

section sorting

instance : Std.Total (fun first second : Claim => earlier second first = false) := by
  refine ⟨fun first second => ?_⟩
  rw [notEarlier_iff,notEarlier_iff]
  rcases lt_trichotomy first.occupyTime second.occupyTime with before | same | after
  · exact .inl (.inl before)
  · rcases le_total first.guildId second.guildId with low | high
    · exact .inl (.inr ⟨same,low⟩)
    · exact .inr (.inr ⟨same.symm,high⟩)
  · exact .inr (.inl after)

instance : IsTrans Claim (fun first second => earlier second first = false) := by
  refine ⟨fun first second third => ?_⟩
  rw [notEarlier_iff,notEarlier_iff,notEarlier_iff]
  rintro (before | ⟨same,low⟩) (later | ⟨equal,high⟩)
  · exact .inl (before.trans later)
  · exact .inl (equal ▸ before)
  · exact .inl (same ▸ later)
  · exact .inr ⟨same.trans equal,low.trans high⟩

def insertion : Sorting earlier :=
  ⟨List.insertionSort (fun first second => earlier second first = false),List.perm_insertionSort _,List.pairwise_insertionSort _⟩

end sorting

def nowhere : Search := fun _ _ _ => false

def west : Site := ⟨[4,5],by decide,4⟩

def east : Site := ⟨[5,6],by decide,6⟩

def after (h : History) (label : Search × Event) : History := (h.next label.1 label.2).getD h

-- Guild 1 leaves the tile between the two sites to guild 2.
def handedOver : List (Search × Event) :=
  [(nowhere,.place (1,1) 10 west),(nowhere,.place (2,1) 20 east),(nowhere,.finish (1,1)),(nowhere,.finish (2,1)),
    (nowhere,.remove (1,1) false .stored)]

theorem handedOver_same : occupyGuildId (handedOver.foldl after founded).mgr.territories 5 = some 2 ∧
    occupyGuildId (rebuild (handedOver.foldl after founded).builds nowhere .stored insertion [5] .stored).territories 5 =
      occupyGuildId (handedOver.foldl after founded).mgr.territories 5 := by
  have path : Runs (Guarded HistorySteps InOrder) founded handedOver (handedOver.foldl after founded) := by
    refine .more ⟨rfl,?_⟩ (.more ⟨rfl,?_⟩ (.more ⟨rfl,trivial⟩ (.more ⟨rfl,trivial⟩ (.more ⟨rfl,?_⟩ .done))))
    · intro id _ claim inside
      cases inside
    · change ∀ id ∈ [5,6], _
      decide
    · rintro id build ⟨found,on⟩
      cases found
      rcases List.mem_pair.mp on with rfl | rfl
      · decide
      · decide
  exact ⟨by decide,restart_same path nowhere .stored insertion [5] .stored 5⟩

-- Both guilds place at the same time, guild 2 first.
def atOnce : List (Search × Event) :=
  [(nowhere,.place (2,1) 10 east),(nowhere,.place (1,1) 10 west),(nowhere,.finish (2,1)),(nowhere,.finish (1,1))]

theorem same_time_differs : ¬∀ labels h, Runs HistorySteps founded labels h → ∀ findPath order sorting visited guilds id,
    occupyGuildId (rebuild h.builds findPath order sorting visited guilds).territories id = occupyGuildId h.mgr.territories id := by
  intro always
  have path : Runs HistorySteps founded atOnce (atOnce.foldl after founded) :=
    .more rfl (.more rfl (.more rfl (.more rfl .done)))
  have same := always atOnce _ path nowhere .stored insertion [5] .stored 5
  revert same
  decide
end OriginGame.Territory
