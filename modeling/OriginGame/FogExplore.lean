import OriginGame.FogBits

namespace OriginGame.DenseFog

-- The indexes a snapshot calls closed are.
def Fresh (fog : Fog) (snapshot : Table Int Rule) : Prop :=
  ∀ i, unopened snapshot i = true → 1 ≤ i → i ≤ 160000 → ¬Opened fog i

section loops
variable {fog : Fog}

theorem toggle_tells (positive : 1 ≤ i) (closed : i ≤ 160000 → ¬Opened fog i) :
    Tells fog (if denseFogIndexToSaveIndex i ≤ 2500 then toggleBit fog i else fog) [i] := by
  intro j other
  rw [List.mem_singleton]
  by_cases inside : i ≤ 160000
  · rw [if_pos ((save_le i).mpr inside),opened_toggleBit fog positive other]
    by_cases same : j = i
    · subst same
      simp [closed inside,inside]
    · simp [same]
  · rw [if_neg (fun low => inside ((save_le i).mp low))]
    constructor
    · exact .inl
    · rintro (was | ⟨low,rfl⟩)
      · exact was
      · exact absurd low inside

theorem open_tells (positive : 1 ≤ i) : Tells fog (if denseFogIndexToSaveIndex i ≤ 2500 then openBit fog i else fog) [i] := by
  intro j other
  rw [List.mem_singleton]
  by_cases inside : i ≤ 160000
  · rw [if_pos ((save_le i).mpr inside),opened_openBit fog positive other]
    constructor
    · rintro (was | rfl)
      · exact .inl was
      · exact .inr ⟨inside,rfl⟩
    · rintro (was | ⟨_,rfl⟩)
      · exact .inl was
      · exact .inr rfl
  · rw [if_neg (fun low => inside ((save_le i).mp low))]
    constructor
    · exact .inl
    · rintro (was | ⟨low,rfl⟩)
      · exact was
      · exact absurd low inside

theorem toggle_other (positive : 1 ≤ i) (other : 1 ≤ j) (apart : i ≠ j) (closed : ¬Opened fog j) : ¬Opened (toggleBit fog i) j := by
  rw [opened_toggleBit fog positive other,if_neg (fun same => apart same.symm)]
  exact closed

def Ready (rules : Table Int Rule) (fog : Fog) (i : Int) : Prop := unopened rules i = true → 1 ≤ i → i ≤ 160000 → ¬Opened fog i

theorem scoutEach_tells (rules : Table Int Rule) (ready : Ready rules fog i) :
    Tells fog (scoutEach rules fog i).1 (scoutEach rules fog i).2 := by
  simp only [scoutEach]
  split
  · rename_i taken
    have told := toggle_tells taken.2.1 (ready taken.1 taken.2.1)
    rw [if_pos taken.2.2.2] at told
    exact told
  · exact .refl fog

theorem scoutEach_stays (rules : Table Int Rule) (apart : i ≠ j) (ready : Ready rules fog j) : Ready rules (scoutEach rules fog i).1 j := by
  simp only [scoutEach]
  split
  · rename_i taken
    intro closed positive inside
    exact toggle_other taken.2.1 positive apart (ready closed positive inside)
  · exact ready

theorem areaEach_tells (rules : Table Int Rule) (ready : Ready rules fog i) :
    Tells fog (areaEach rules fog i).1 (areaEach rules fog i).2 := by
  simp only [areaEach]
  split
  · rename_i taken
    exact toggle_tells taken.2 (ready taken.1 taken.2)
  · exact .refl fog

theorem areaEach_stays (rules : Table Int Rule) (apart : i ≠ j) (ready : Ready rules fog j) : Ready rules (areaEach rules fog i).1 j := by
  simp only [areaEach]
  split
  · rename_i taken
    intro closed positive inside
    split
    · exact toggle_other taken.2 positive apart (ready closed positive inside)
    · exact ready closed positive inside
  · exact ready

theorem nearEach_tells (positive : 1 ≤ i) : Tells fog (nearEach fog i).1 (nearEach fog i).2 := by
  simp only [nearEach]
  split
  · exact open_tells positive
  · exact .refl fog

theorem openEach_tells (fog : Fog) (i : Int) : Tells fog (openEach fog i).1 (openEach fog i).2 := by
  simp only [openEach]
  split
  · rename_i inside
    have told : Tells fog _ [i] := open_tells ((one_le_save i).mp inside.1)
    rw [if_pos inside.2] at told
    split
    · exact told
    · rename_i already
      intro j other
      rw [told j other]
      constructor
      · rintro (was | ⟨_,its⟩)
        · exact .inl was
        · rw [List.mem_singleton.mp its]
          exact .inl already
      · rintro (was | ⟨_,none⟩)
        · exact .inl was
        · cases none
  · exact .refl fog

end loops

section views

-- The rules that are seen are those of the table.
def Sees (fog : Fog) (seen : Table Int Rule) : Prop := ∀ i rule, seen.lookup i = some rule → rule = getSmallFogRule fog i

theorem sees_insert (sees : Sees fog seen) (i : Int) : Sees fog (seen.insert i (getSmallFogRule fog i)) := by
  intro j rule found
  rcases Table.found_insert found with ⟨rfl,rfl⟩ | ⟨_,older⟩
  · rfl
  · exact sees j rule older

theorem sees_see (sees : Sees fog seen) (i : Int) : Sees fog (see fog seen i) := by
  unfold see
  split
  · exact sees
  · exact sees_insert sees i

theorem sees_viewLoop (places : List Pos) (before : Int × Table Int Rule) (sees : Sees fog before.2) :
    Sees fog (viewLoop fog places before).2 := by
  refine List.foldlRecOn (motive:=fun state : Int × Table Int Rule => Sees fog state.2) places _ sees ?_
  intro state kept pos _
  dsimp only
  split
  · exact sees_see kept _
  · exact kept

theorem sees_viewLastLoop (places : List Pos) (before : Int × Table Int Rule) (sees : Sees fog before.2) :
    Sees fog (viewLastLoop fog places before).2 := by
  refine List.foldlRecOn (motive:=fun state : Int × Table Int Rule => Sees fog state.2) places _ sees ?_
  intro state kept pos _
  split
  · exact sees_see kept _
  · exact kept

theorem scoutView_sees (pos : Pos) (fog : Fog) : Sees fog (getDenseFogWithScoutView pos fog) := by
  have nothing : Sees fog ∅ := by
    intro i rule found
    cases found
  exact sees_viewLastLoop _ _ (sees_viewLoop _ _ (sees_viewLoop _ _ (sees_viewLoop _ _ nothing)))

theorem sees_ready (sees : Sees fog seen) (i : Int) : Ready seen fog i := by
  intro closed _ _ opened
  exact opened (sees i 0 (by simpa [unopened] using closed)).symm

theorem nearArea_positive (fog : Fog) (pos : Pos) (viewRange : Rat) (inside : i ∈ nearArea fog pos viewRange) : 1 ≤ i := by
  have all : ∀ j ∈ getAllDenseFog (viewRange*2*100/desenFogSize) pos fog, 1 ≤ j := by
    have nothing : ∀ j ∈ (∅ : Table Int Rule), 1 ≤ j := by
      intro j none
      cases none
    refine List.foldlRecOn (motive:=fun all : Table Int Rule => ∀ j ∈ all, 1 ≤ j) _ _ nothing ?_
    intro all kept x _
    refine List.foldlRecOn (motive:=fun all : Table Int Rule => ∀ j ∈ all, 1 ≤ j) _ _ kept ?_
    intro all kept y _
    dsimp only
    split
    · intro j there
      rcases (AList.mem_insert _).mp there with rfl | there
      · assumption
      · exact kept j there
    · exact kept
  exact all i (AList.mem_keys.mp inside)

end views

section operations
variable {fog : Fog}

theorem scouts_tells (fog : Fog) (pos : Pos) (order : Order Int) (all : Table Int Rule) (its : all = getDenseFogWithScoutView pos fog) :
    Tells fog (sweep (scoutEach all) fog (order.visit all.keys)).1 (sweep (scoutEach all) fog (order.visit all.keys)).2 := by
  subst its
  apply sweep_tells (Ready (getDenseFogWithScoutView pos fog)) fog
  · exact fun _ _ _ ready => scoutEach_tells _ ready
  · exact (order.nodup_visit (AList.keys_nodup _)).imp (fun apart _ ready => scoutEach_stays _ apart ready)
  · exact fun i _ => sees_ready (scoutView_sees pos fog) i

theorem area_tells (fresh : Fresh fog snapshot) :
    Tells fog (sweep (areaEach snapshot) fog snapshot.keys).1 (sweep (areaEach snapshot) fog snapshot.keys).2 := by
  apply sweep_tells (Ready snapshot) fog
  · exact fun _ _ _ ready => areaEach_tells _ ready
  · exact (AList.keys_nodup snapshot).imp (fun apart _ ready => areaEach_stays _ apart ready)
  · exact fun i _ => fresh i

theorem near_tells (fog : Fog) (positive : ∀ i ∈ visit, 1 ≤ i) : Tells fog (sweep nearEach fog visit).1 (sweep nearEach fog visit).2 := by
  apply sweep_tells (fun _ _ => True) fog
  · exact fun _ i inside _ => nearEach_tells (positive i inside)
  · exact List.pairwise_of_forall (fun _ _ _ => id)
  · exact fun _ _ => trivial

theorem openSquare_tells (fog : Fog) (pos : Pos) (radius : Rat) : Tells fog (openSquare fog pos radius).1 (openSquare fog pos radius).2 := by
  apply sweep_tells (fun _ _ => True) fog
  · exact fun fog i _ _ => openEach_tells fog i
  · exact List.pairwise_of_forall (fun _ _ _ => id)
  · exact fun _ _ => trivial

-- What is open stays open.
def Keeps (before after : Fog) : Prop := ∀ i, Opened before i → Opened after i

theorem Tells.keeps (tells : Tells fog after told) : Keeps fog after := by
  intro i opened
  rw [← opened_proper] at opened ⊢
  exact (tells _ (one_le_proper i)).mpr (.inl opened)

-- A call that is no closing, with its area as it is.
def Explores (fog : Fog) : Op → Prop
  | .openAreaDenseFog snapshot => Fresh fog snapshot
  | .closeDenseFogInPos _ _ _ => False
  | _ => True

theorem explore_keeps (op : Op) (explores : Explores fog op) (stored : (runOp fog op).denseFog = some after) : Keeps fog after := by
  cases op with
  | scoutsMove pos target order =>
    simp only [runOp,scoutsMove] at stored
    split at stored
    · cases stored
    · cases stored
      exact (scouts_tells fog pos order _ rfl).keeps
  | openAreaDenseFog snapshot =>
    simp only [runOp,openAreaDenseFog] at stored
    split at stored
    · cases stored
    · cases stored
      exact (area_tells explores).keeps
  | openNearDenseFog flag pos viewRange order =>
    simp only [runOp,openNearDenseFog] at stored
    split at stored
    · split at stored
      · cases stored
      · cases stored
        exact (near_tells fog (fun i inside => nearArea_positive fog _ _ (order.mem_visit.mp inside))).keeps
    · cases stored
  | openDenseFogInPos pos radius noSync =>
    simp only [runOp,openDenseFogInPos] at stored
    split at stored
    · cases stored
    · cases stored
      exact (openSquare_tells fog pos radius).keeps
  | closeDenseFogInPos pos radius rolePos => cases explores

end operations

-- A call reads the table, computes the new one and stores it in a later request; others
-- can come between. closeDenseFogInPos then reads again for the city.
structure Write where
  read : Fog
  denseFog : Fog
  closes : Bool

inductive Task where
  | write (w : Write)
  | reopen

structure State where
  denseFog : Fog
  tasks : List Task

inductive Label where
  | call (op : Op)
  | store (task : Nat)
  | reopen (task : Nat) (rolePos : Pos)

section machine

def next (s : State) : Label → State
  | .call (.closeDenseFogInPos pos radius _) =>
    {s with tasks:=s.tasks++[.write ⟨s.denseFog,(closeSquare s.denseFog pos radius).1,true⟩]}
  | .call op =>
    match (runOp s.denseFog op).denseFog with
    | some fog => {s with tasks:=s.tasks++[.write ⟨s.denseFog,fog,false⟩]}
    | none => s
  | .store task =>
    match s.tasks[task]? with
    | some (.write w) => ⟨w.denseFog,if w.closes then s.tasks.set task .reopen else s.tasks.eraseIdx task⟩
    | _ => s
  | .reopen task rolePos =>
    match s.tasks[task]? with
    | some .reopen =>
      match (openDenseFogInPos s.denseFog rolePos (2*desenFogSize) true).denseFog with
      | some fog => {s with tasks:=s.tasks.set task (.write ⟨s.denseFog,fog,false⟩)}
      | none => {s with tasks:=s.tasks.eraseIdx task}
    | _ => s

-- The requests of a call that runs alone.
def requests : Op → List Label
  | .closeDenseFogInPos pos radius rolePos => [.call (.closeDenseFogInPos pos radius rolePos),.store 0,.reopen 0 rolePos,.store 0]
  | op => [.call op,.store 0]

theorem requests_alone (fog : Fog) (op : Op) : (requests op).foldl next ⟨fog,[]⟩ = ⟨(runOp fog op).denseFog.getD fog,[]⟩ := by
  have simple (other : Op) (same : ∀ s, next s (.call other) = match (runOp s.denseFog other).denseFog with
      | some fog => {s with tasks:=s.tasks++[.write ⟨s.denseFog,fog,false⟩]}
      | none => s) : [.call other,.store 0].foldl next ⟨fog,[]⟩ = ⟨(runOp fog other).denseFog.getD fog,[]⟩ := by
    rw [List.foldl_cons,same]
    dsimp only
    cases (runOp fog other).denseFog with
    | none => rfl
    | some after => rfl
  cases op with
  | closeDenseFogInPos pos radius rolePos =>
    have closed : next (next ⟨fog,[]⟩ (.call (.closeDenseFogInPos pos radius rolePos))) (.store 0) =
        ⟨(closeSquare fog pos radius).1,[.reopen]⟩ := rfl
    simp only [requests,List.foldl_cons,List.foldl_nil,closed,runOp,closeDenseFogInPos,Option.getD_some]
    generalize (closeSquare fog pos radius).1 = left
    have again : next ⟨left,[.reopen]⟩ (.reopen 0 rolePos) = match (openDenseFogInPos left rolePos (2*desenFogSize) true).denseFog with
      | some fog => ⟨left,[.write ⟨left,fog,false⟩]⟩
      | none => ⟨left,[]⟩ := rfl
    rw [again]
    cases (openDenseFogInPos left rolePos (2*desenFogSize) true).denseFog with
    | none => rfl
    | some after => rfl
  | scoutsMove pos target order => exact simple _ (fun _ => rfl)
  | openAreaDenseFog snapshot => exact simple _ (fun _ => rfl)
  | openNearDenseFog flag pos viewRange order => exact simple _ (fun _ => rfl)
  | openDenseFogInPos pos radius noSync => exact simple _ (fun _ => rfl)

-- A pending write of an exploration opens and closes nothing.
def Sound (s : State) : Prop := ∀ w, .write w ∈ s.tasks → w.closes = false → Keeps w.read w.denseFog

-- A snapshot is fresh, and no index has been opened since the table was read.
def Careful (s : State) : Label → Prop
  | .call (.openAreaDenseFog snapshot) => Fresh s.denseFog snapshot
  | .store task => ∀ w, s.tasks[task]? = some (.write w) → w.closes = false → Keeps s.denseFog w.read
  | _ => True

-- The write of a closing.
def Closes (s : State) : Label → Prop
  | .store task => ∃ w, s.tasks[task]? = some (.write w) ∧ w.closes = true
  | _ => False

variable {s t : State}

theorem sound_append (sound : Sound s) (new : ∀ w, task = .write w → w.closes = false → Keeps w.read w.denseFog) :
    Sound {s with tasks:=s.tasks++[task]} := by
  intro w inside
  rcases List.mem_append.mp inside with inside | inside
  · exact sound w inside
  · exact new w (List.mem_singleton.mp inside).symm

theorem sound_set (sound : Sound s) (new : ∀ w, task = .write w → w.closes = false → Keeps w.read w.denseFog) (fog : Fog) (place : Nat) :
    Sound ⟨fog,s.tasks.set place task⟩ := by
  intro w inside
  rcases List.mem_or_eq_of_mem_set inside with inside | same
  · exact sound w inside
  · exact new w same.symm

theorem sound_erase (sound : Sound s) (fog : Fog) (place : Nat) : Sound ⟨fog,s.tasks.eraseIdx place⟩ :=
  fun w inside => sound w (List.mem_of_mem_eraseIdx inside)

theorem call_sound (op : Op) (sound : Sound s) (careful : Careful s (.call op)) : Sound (next s (.call op)) := by
  have simple (explores : Explores s.denseFog op) : Sound (match (runOp s.denseFog op).denseFog with
      | some fog => {s with tasks:=s.tasks++[.write ⟨s.denseFog,fog,false⟩]}
      | none => s) := by
    cases stored : (runOp s.denseFog op).denseFog with
    | none => exact sound
    | some after =>
      apply sound_append sound
      rintro w equal _
      cases equal
      exact explore_keeps op explores stored
  cases op with
  | closeDenseFogInPos pos radius rolePos =>
    apply sound_append sound
    rintro w equal opens
    cases equal
    cases opens
  | scoutsMove pos target order => exact simple trivial
  | openAreaDenseFog snapshot => exact simple careful
  | openNearDenseFog flag pos viewRange order => exact simple trivial
  | openDenseFogInPos pos radius noSync => exact simple trivial

theorem next_sound (sound : Sound s) (careful : Careful s label) : Sound (next s label) := by
  cases label with
  | call op => exact call_sound op sound careful
  | store task =>
    simp only [next]
    split
    · rename_i w _
      cases w.closes with
      | true => exact sound_set sound (fun w equal => by cases equal) _ task
      | false => exact sound_erase sound _ task
    · exact sound
  | reopen task rolePos =>
    simp only [next]
    split
    · split
      · rename_i after stored
        apply sound_set sound
        rintro w equal _
        cases equal
        exact explore_keeps (.openDenseFogInPos rolePos (2*desenFogSize) true) trivial stored
      · exact sound_erase sound _ task
    · exact sound

theorem next_keeps (sound : Sound s) (careful : Careful s label) (opens : ¬Closes s label) : Keeps s.denseFog (next s label).denseFog := by
  cases label with
  | call op =>
    have unchanged : (next s (.call op)).denseFog = s.denseFog := by
      cases op <;> simp only [next] <;> split <;> rfl
    rw [unchanged]
    exact fun _ opened => opened
  | store task =>
    simp only [next]
    split
    · rename_i w there
      have kind : w.closes = false := by
        cases closes : w.closes with
        | false => rfl
        | true => exact absurd ⟨w,there,closes⟩ opens
      intro i opened
      exact sound w (List.mem_of_getElem? there) kind i (careful w there kind i opened)
    · exact fun _ opened => opened
  | reopen task rolePos =>
    have unchanged : (next s (.reopen task rolePos)).denseFog = s.denseFog := by
      simp only [next]
      split
      · split <;> rfl
      · rfl
    rw [unchanged]
    exact fun _ opened => opened

def Steps (s : State) (label : Label) (t : State) : Prop := t = next s label

theorem run_sound (path : Runs (Guarded Steps Careful) s labels t) (sound : Sound s) : Sound t := by
  refine Runs.invariant ?_ path sound
  rintro before label after sound ⟨rfl,careful⟩
  exact next_sound sound careful

theorem run_keeps (later : Runs (Guarded (Guarded Steps Careful) (fun s label => ¬Closes s label)) s labels t) (sound : Sound s) :
    Keeps s.denseFog t.denseFog := by
  induction later with
  | done => exact fun _ opened => opened
  | more one _ ih =>
    obtain ⟨⟨rfl,careful⟩,opens⟩ := one
    intro i opened
    exact ih (next_sound sound careful) i (next_keeps sound careful opens i opened)

-- From any fog, along any calls: what is open then stays open until a closing.
theorem fog_stays_open (fog : Fog) (path : Runs (Guarded Steps Careful) ⟨fog,[]⟩ earlier s)
    (later : Runs (Guarded (Guarded Steps Careful) (fun s label => ¬Closes s label)) s labels t) (i : Int)
    (opened : Opened s.denseFog i) : Opened t.denseFog i := by
  have sound : Sound s := run_sound path (fun w inside => by cases inside)
  exact run_keeps later sound i opened

-- One scout's area, handed in twice.
def area : Table Int Rule := (∅ : Table Int Rule).insert 5 0

def areaTwice : List Label := [.call (.openAreaDenseFog area),.store 0]

def areaOnce : State := areaTwice.foldl next ⟨∅,[]⟩

theorem stale_area_closes : ¬∀ (fog : Fog) (earlier labels : List Label) (s t : State), Runs Steps ⟨fog,[]⟩ earlier s →
    Runs (Guarded Steps (fun s label => ¬Closes s label)) s labels t → ∀ i, Opened s.denseFog i → Opened t.denseFog i := by
  intro always
  have opens : ¬Closes (next areaOnce (.call (.openAreaDenseFog area))) (.store 0) := by
    rintro ⟨w,there,closes⟩
    cases there
    cases closes
  have again := always ∅ areaTwice areaTwice areaOnce _ (.more rfl (.more rfl .done)) (.more ⟨rfl,id⟩ (.more ⟨rfl,opens⟩ .done)) 5
  revert again
  decide

-- The next area, which nobody has opened.
def nextArea : Table Int Rule := (∅ : Table Int Rule).insert 6 0

theorem nextArea_fresh : Fresh areaOnce.denseFog nextArea := by
  intro i closed _ _
  have only : nextArea.lookup i = some 0 := by simpa [unopened] using closed
  obtain ⟨rfl,_⟩ := Table.lookup_only only
  decide

theorem area_stays_open : Opened areaOnce.denseFog 5 ∧
    Opened (next (next areaOnce (.call (.openAreaDenseFog nextArea))) (.store 0)).denseFog 5 := by
  have opened : Opened areaOnce.denseFog 5 := by decide
  have fresh : Fresh ∅ area := by
    intro i _ _ _ its
    exact its (by simp [getSmallFogRule,ruleOf])
  have path : Runs (Guarded Steps Careful) ⟨∅,[]⟩ areaTwice areaOnce := by
    refine .more ⟨rfl,fresh⟩ (.more ⟨rfl,?_⟩ .done)
    intro w there _
    cases there
    exact fun _ was => was
  have later : Runs (Guarded (Guarded Steps Careful) (fun s label => ¬Closes s label)) areaOnce
      [.call (.openAreaDenseFog nextArea),.store 0] (next (next areaOnce (.call (.openAreaDenseFog nextArea))) (.store 0)) := by
    refine .more ⟨⟨rfl,nextArea_fresh⟩,id⟩ (.more ⟨⟨rfl,?_⟩,?_⟩ .done)
    · intro w there _
      cases there
      exact fun _ was => was
    · rintro ⟨w,there,closes⟩
      cases there
      cases closes
  exact ⟨opened,fog_stays_open ∅ path later 5 opened⟩

end machine
end OriginGame.DenseFog
