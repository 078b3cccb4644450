import OriginGame.FogExplore

namespace OriginGame.DenseFog

-- The table of a role and the open indexes its client knows.
structure Session where
  denseFog : Fog
  client : Finset Int

def receive (client : Finset Int) : Push → Finset Int
  | .denseFogOpen indexes => client ∪ indexes.toFinset
  | .preDenseFogOpen indexes => client ∪ indexes.toFinset
  | .denseFogClose indexes => client \ indexes.toFinset

def serve (s : Session) (op : Op) : Session :=
  let change := runOp s.denseFog op
  ⟨change.denseFog.getD s.denseFog,change.pushed.foldl receive s.client⟩

def Serves (s : Session) (op : Op) (t : Session) : Prop := t = serve s op

def Mirrors (s : Session) : Prop := ∀ i, i ∈ s.client ↔ 1 ≤ i ∧ i ≤ 160000 ∧ Opened s.denseFog i

def Synced : Op → Prop
  | .openDenseFogInPos _ _ noSync => noSync = false
  | _ => True

-- Areas are fresh and do not reach over the border, and the city is open when fog closes.
def Announced (s : Session) : Op → Prop
  | .openAreaDenseFog snapshot => Fresh s.denseFog snapshot ∧ ∀ i, unopened snapshot i = true → i ≤ 160000
  | .openNearDenseFog denseFogOpenFlag pos viewRange _ => denseFogOpenFlag = false → ∀ p ∈ pos, ∀ range ∈ viewRange,
    ∀ i ∈ nearArea s.denseFog p range, i ≤ 160000
  | .closeDenseFogInPos _ _ rolePos => ∀ i ∈ citySquare rolePos, Opened s.denseFog i
  | _ => True

section opening
variable {fog : Fog} {client : Finset Int}

theorem mirrors_open (mirrors : Mirrors ⟨fog,client⟩) (tells : Tells fog after told) (inside : ∀ i ∈ told, 1 ≤ i ∧ i ≤ 160000) :
    Mirrors ⟨after,client ∪ told.toFinset⟩ := by
  intro i
  have before := mirrors i
  simp only [Finset.mem_union,List.mem_toFinset] at before ⊢
  constructor
  · rintro (known | new)
    · obtain ⟨positive,low,opened⟩ := before.mp known
      exact ⟨positive,low,(tells i positive).mpr (.inl opened)⟩
    · obtain ⟨positive,low⟩ := inside i new
      exact ⟨positive,low,(tells i positive).mpr (.inr ⟨low,new⟩)⟩
  · rintro ⟨positive,low,opened⟩
    rcases (tells i positive).mp opened with was | ⟨_,new⟩
    · exact .inl (before.mpr ⟨positive,low,was⟩)
    · exact .inr new

theorem scoutEach_inside (rules : Table Int Rule) (fog : Fog) (i : Int) : ∀ j ∈ (scoutEach rules fog i).2, 1 ≤ j ∧ j ≤ 160000 := by
  simp only [scoutEach]
  split
  · rename_i taken
    intro j told
    cases List.mem_singleton.mp told
    exact ⟨taken.2.1,(save_le i).mp taken.2.2.2⟩
  · intro j none
    cases none

theorem openEach_inside (fog : Fog) (i : Int) : ∀ j ∈ (openEach fog i).2, j = i ∧ 1 ≤ j ∧ j ≤ 160000 := by
  simp only [openEach]
  split
  · rename_i taken
    intro j told
    split at told
    · cases List.mem_singleton.mp told
      exact ⟨rfl,(one_le_save i).mp taken.1,(save_le i).mp taken.2⟩
    · cases told
  · intro j none
    cases none

theorem areaEach_inside (rules : Table Int Rule) (low : ∀ i, unopened rules i = true → i ≤ 160000) (fog : Fog) (i : Int) :
    ∀ j ∈ (areaEach rules fog i).2, 1 ≤ j ∧ j ≤ 160000 := by
  simp only [areaEach]
  split
  · rename_i taken
    intro j told
    cases List.mem_singleton.mp told
    exact ⟨taken.2,low i taken.1⟩
  · intro j none
    cases none

theorem nearEach_inside (fog : Fog) (i : Int) : ∀ j ∈ (nearEach fog i).2, j = i := by
  simp only [nearEach]
  split
  · intro j told
    exact List.mem_singleton.mp told
  · intro j none
    cases none

theorem openSquare_inside (fog : Fog) (pos : Pos) (radius : Rat) :
    ∀ j ∈ (openSquare fog pos radius).2, j ∈ allDenseFog pos radius ∧ 1 ≤ j ∧ j ≤ 160000 := by
  apply mem_sweep
  intro fog i visited j told
  obtain ⟨rfl,inside⟩ := openEach_inside fog i j told
  exact ⟨visited,inside⟩

end opening

section closing
variable {fog : Fog}

-- The indexes that are closed were open, and only they go.
structure Shuts (before after : Fog) (closed : List Int) : Prop where
  left : ∀ j, 1 ≤ j → (Opened after j ↔ Opened before j ∧ j ∉ closed)
  were : ∀ j ∈ closed, Opened before j
  positive : ∀ j ∈ closed, 1 ≤ j
  distinct : closed.Nodup

theorem Shuts.refl (fog : Fog) : Shuts fog fog [] := by
  refine ⟨?_,?_,?_,List.nodup_nil⟩
  · intro j _
    simp
  · intro j none
    cases none
  · intro j none
    cases none

theorem Shuts.trans (first : Shuts fog middle closed) (second : Shuts middle after more) : Shuts fog after (closed++more) := by
  refine ⟨?_,?_,?_,?_⟩
  · intro j positive
    rw [second.left j positive,first.left j positive,List.mem_append]
    tauto
  · intro j inside
    rcases List.mem_append.mp inside with inside | inside
    · exact first.were j inside
    · exact ((first.left j (second.positive j inside)).mp (second.were j inside)).1
  · intro j inside
    rcases List.mem_append.mp inside with inside | inside
    · exact first.positive j inside
    · exact second.positive j inside
  · rw [List.nodup_append]
    refine ⟨first.distinct,second.distinct,?_⟩
    rintro j was k again rfl
    exact ((first.left j (second.positive j again)).mp (second.were j again)).2 was

theorem closeEach_shuts (fog : Fog) (positive : 1 ≤ i) : Shuts fog (closeEach fog i).1 (closeEach fog i).2 := by
  simp only [closeEach]
  split
  · split
    · rename_i opened
      refine ⟨?_,?_,?_,List.nodup_singleton i⟩
      · intro j other
        rw [opened_closeBit fog positive other,List.mem_singleton]
      · intro j only
        cases List.mem_singleton.mp only
        exact opened
      · intro j only
        cases List.mem_singleton.mp only
        exact positive
    · exact .refl fog
  · exact .refl fog

theorem sweep_shuts (fog : Fog) (positive : ∀ i ∈ visit, 1 ≤ i) : Shuts fog (sweep closeEach fog visit).1 (sweep closeEach fog visit).2 := by
  induction visit generalizing fog with
  | nil => exact .refl fog
  | cons i rest ih =>
    refine (closeEach_shuts fog (positive i List.mem_cons_self)).trans ?_
    exact ih _ (fun j inside => positive j (List.mem_cons_of_mem _ inside))

theorem mem_forLoopInt : i ∈ forLoopInt first last ↔ first ≤ i ∧ i ≤ last := by
  simp only [forLoopInt,List.mem_map,List.mem_range]
  constructor
  · rintro ⟨k,below,rfl⟩
    omega
  · rintro ⟨low,high⟩
    exact ⟨(i-first).toNat,by omega,by omega⟩

theorem allDenseFog_positive (pos : Pos) (radius : Rat) (inside : i ∈ allDenseFog pos radius) : 1 ≤ i := by
  simp only [allDenseFog,List.mem_flatMap,List.mem_map] at inside
  obtain ⟨y,row,x,column,rfl⟩ := inside
  have bottom := (mem_forLoopInt.mp row).1
  have left := (mem_forLoopInt.mp column).1
  simp only [desenFogLineSize]
  omega

theorem mem_closeNews (distinct : closed.Nodup) : j ∈ closeNews closed opened ↔ j ∈ closed ∧ j ∉ opened := by
  induction opened generalizing closed with
  | nil => simp [closeNews]
  | cons i rest ih =>
    change j ∈ closeNews (closed.erase i) rest ↔ _
    rw [ih (distinct.erase i),distinct.mem_erase_iff,List.mem_cons]
    tauto

end closing

section mirror
variable {s : Session}

-- An operation that tells the client of all it opens.
theorem mirrors_told (mirrors : Mirrors s) (tells : Tells s.denseFog after told) (inside : ∀ i ∈ told, 1 ≤ i ∧ i ≤ 160000)
    (push : List Int → Push) (adds : ∀ client, receive client (push told) = client ∪ told.toFinset) (change : Change)
    (its : change = if told.isEmpty then ⟨none,[]⟩ else ⟨some after,[push told]⟩) :
    Mirrors ⟨change.denseFog.getD s.denseFog,change.pushed.foldl receive s.client⟩ := by
  subst its
  split
  · exact mirrors
  · simp only [Option.getD_some,List.foldl_cons,List.foldl_nil,adds]
    exact mirrors_open mirrors tells inside

theorem mirrors_close (mirrors : Mirrors s) (city : ∀ i ∈ citySquare rolePos, Opened s.denseFog i) (pos : Pos) (radius : Rat) :
    Mirrors (serve s (.closeDenseFogInPos pos radius rolePos)) := by
  have shuts : Shuts s.denseFog (closeSquare s.denseFog pos radius).1 (closeSquare s.denseFog pos radius).2 :=
    sweep_shuts s.denseFog (fun i inside => allDenseFog_positive pos radius inside)
  simp only [serve,runOp,closeDenseFogInPos,Option.getD_some,List.foldl_cons,List.foldl_nil,receive]
  generalize closeSquare s.denseFog pos radius = closed at shuts ⊢
  have tells := openSquare_tells closed.1 rolePos (2*desenFogSize)
  have inside := openSquare_inside closed.1 rolePos (2*desenFogSize)
  have stored (j : Int) (positive : 1 ≤ j) : Opened ((openDenseFogInPos closed.1 rolePos (2*desenFogSize) true).denseFog.getD closed.1) j ↔
      Opened closed.1 j ∨ j ∈ (openSquare closed.1 rolePos (2*desenFogSize)).2 := by
    simp only [openDenseFogInPos]
    split
    · rename_i nothing
      rw [List.isEmpty_iff.mp nothing]
      simp
    · rw [Option.getD_some,tells j positive]
      constructor
      · rintro (was | ⟨_,new⟩)
        · exact .inl was
        · exact .inr new
      · rintro (was | new)
        · exact .inl was
        · exact .inr ⟨(inside j new).2.2,new⟩
  generalize (openSquare closed.1 rolePos (2*desenFogSize)).2 = reopened at inside stored ⊢
  intro i
  simp only [Finset.mem_sdiff,List.mem_toFinset,mem_closeNews shuts.distinct,mirrors i]
  constructor
  · rintro ⟨⟨positive,low,opened⟩,news⟩
    refine ⟨positive,low,?_⟩
    rw [stored i positive,shuts.left i positive]
    tauto
  · rintro ⟨positive,low,opened⟩
    rw [stored i positive,shuts.left i positive] at opened
    rcases opened with ⟨was,apart⟩ | again
    · exact ⟨⟨positive,low,was⟩,fun news => apart news.1⟩
    · exact ⟨⟨positive,low,city i (inside i again).1⟩,fun news => news.2 again⟩

theorem serve_mirrors (op : Op) (mirrors : Mirrors s) (synced : Synced op) (announced : Announced s op) : Mirrors (serve s op) := by
  cases op with
  | scoutsMove pos target order =>
    refine mirrors_told mirrors (scouts_tells s.denseFog pos order _ rfl) ?_ .denseFogOpen (fun _ => rfl) _ rfl
    exact mem_sweep _ (fun fog i _ => scoutEach_inside _ fog i)
  | openAreaDenseFog snapshot =>
    refine mirrors_told mirrors (area_tells announced.1) ?_ .denseFogOpen (fun _ => rfl) _ rfl
    exact mem_sweep _ (fun fog i _ => areaEach_inside snapshot announced.2 fog i)
  | openNearDenseFog flag pos viewRange order =>
    cases flag with
    | true => exact mirrors
    | false =>
      cases pos with
      | none => exact mirrors
      | some pos =>
        cases viewRange with
        | none => exact mirrors
        | some range =>
          have positive : ∀ i ∈ order.visit (nearArea s.denseFog pos range), 1 ≤ i :=
            fun i inside => nearArea_positive s.denseFog pos range (order.mem_visit.mp inside)
          refine mirrors_told mirrors (near_tells s.denseFog positive) ?_ .preDenseFogOpen (fun _ => rfl) _ rfl
          apply mem_sweep
          intro fog i visited j told
          cases nearEach_inside fog i j told
          exact ⟨positive i visited,announced rfl pos rfl range rfl i (order.mem_visit.mp visited)⟩
  | openDenseFogInPos pos radius noSync =>
    rw [show noSync = false from synced]
    refine mirrors_told mirrors (openSquare_tells s.denseFog pos radius) ?_ .denseFogOpen (fun _ => rfl) _ rfl
    exact fun i told => (openSquare_inside s.denseFog pos radius i told).2
  | closeDenseFogInPos pos radius rolePos => exact mirrors_close mirrors announced pos radius

theorem client_mirrors (start : Mirrors s) (path : Runs (Guarded (Guarded Serves (fun _ => Synced)) Announced) s ops t) : Mirrors t := by
  refine Runs.invariant ?_ path start
  rintro before op after mirrors ⟨⟨rfl,synced⟩,announced⟩
  exact serve_mirrors op mirrors synced announced

def unexplored : Session := ⟨∅,∅⟩

theorem unexplored_mirrors : Mirrors unexplored := by
  intro i
  simp [unexplored,Opened,getSmallFogRule,ruleOf]

-- The second time the indexes close, and the client hears that they open.
theorem stale_area_unmirrored : ¬∀ (s t : Session) (ops : List Op), Mirrors s → Runs (Guarded Serves (fun _ => Synced)) s ops t → Mirrors t := by
  intro always
  have path : Runs (Guarded Serves (fun _ => Synced)) unexplored [.openAreaDenseFog area,.openAreaDenseFog area]
      (serve (serve unexplored (.openAreaDenseFog area)) (.openAreaDenseFog area)) :=
    .more ⟨rfl,trivial⟩ (.more ⟨rfl,trivial⟩ .done)
  have mirrors := always unexplored _ _ unexplored_mirrors path 5
  revert mirrors
  decide

theorem area_mirrored : Mirrors (serve unexplored (.openAreaDenseFog area)) ∧
    5 ∈ (serve unexplored (.openAreaDenseFog area)).client := by
  have announced : Announced unexplored (.openAreaDenseFog area) := by
    refine ⟨?_,?_⟩
    · intro i _ _ _ its
      exact its (by simp [unexplored,getSmallFogRule,ruleOf])
    · intro i closed
      have only : area.lookup i = some 0 := by simpa [unopened] using closed
      obtain ⟨rfl,_⟩ := Table.lookup_only only
      decide
  have path : Runs (Guarded (Guarded Serves (fun _ => Synced)) Announced) unexplored [.openAreaDenseFog area]
      (serve unexplored (.openAreaDenseFog area)) := .more ⟨⟨rfl,trivial⟩,announced⟩ .done
  exact ⟨client_mirrors unexplored_mirrors path,by decide⟩

end mirror
end OriginGame.DenseFog
