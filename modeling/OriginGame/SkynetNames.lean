import OriginGame.Bisect
import OriginGame.SkynetHandle

namespace OriginGame.Skynet

section names
variable {N : Type} [Ord N]

-- `strcmp(n->name, name)`. The source's `end` is the last place of those that are left, here `stop` is the one behind it.
def searchName (names : List (N × Nat)) (name : N) : Option Bisect.Place :=
  Bisect.search (fun one => compare one.1 name) names 0 names.length

def findName (names : List (N × Nat)) (name : N) : Option Nat := do
  match ← searchName names name with
  | .found place => (names[place]?).map Prod.snd
  | .missing _ => some 0

-- Whether the name was put in, and the names behind.
def insertName (names : List (N × Nat)) (name : N) (handle : Nat) : Option (Bool × List (N × Nat)) := do
  match ← searchName names name with
  | .found _ => some (false,names)
  | .missing before => some (true,names.insertIdx before (name,handle))

def retireNames (handle : Nat) (names : List (N × Nat)) : List (N × Nat) := names.filter (fun one => one.2 ≠ handle)

-- The names as what each of them stands for.
inductive NameCommand (N : Type) where
  | namehandle (handle : Nat) (name : N)
  | retire (handle : Nat)

def nameStep (names : List (N × Nat)) : NameCommand N → Option (List (N × Nat))
  | .namehandle handle name => (insertName names name handle).map Prod.snd
  | .retire handle => some (retireNames handle names)

variable [DecidableEq N]

-- The first service that asks for a name gets it, and has it until it is retired.
def nameMeaning (meaning : N → Option Nat) : NameCommand N → N → Option Nat
  | .namehandle handle name => if (meaning name).isSome then meaning else Function.update meaning name (some handle)
  | .retire handle => fun name => (meaning name).filter (· ≠ handle)

variable [Std.TransOrd N] [Std.LawfulEqOrd N]

def Ordered (names : List (N × Nat)) : Prop := names.Pairwise (fun left right => compare left.1 right.1 = .lt)

structure Means (names : List (N × Nat)) (meaning : N → Option Nat) : Prop where
  ordered : Ordered names
  exactly : ∀ name handle, meaning name = some handle ↔ (name,handle) ∈ names

variable {names : List (N × Nat)} {meaning : N → Option Nat} {name : N} {handle : Nat}

omit [DecidableEq N] [Std.LawfulEqOrd N] in
theorem Ordered.positioned (ordered : Ordered names) (name : N) : Bisect.Positioned (fun one : N × Nat => compare one.1 name) names := by
  refine ordered.imp (fun {left right} before => ⟨fun low => ?_,fun high => ?_⟩)
  · cases compared : compare right.1 name with
    | lt => exact Std.TransCmp.lt_trans before compared
    | eq => exact Std.TransCmp.lt_of_lt_of_eq before compared
    | gt => exact absurd compared low
  · cases compared : compare left.1 name with
    | lt => exact absurd compared high
    | eq => exact Std.OrientedCmp.gt_of_lt (Std.TransCmp.lt_of_eq_of_lt (Std.OrientedCmp.eq_symm compared) before)
    | gt => exact Std.TransCmp.gt_trans (Std.OrientedCmp.gt_of_lt before) compared

omit [DecidableEq N] in
-- Where a name is searched for.
theorem searchName_answers (means : Means names meaning) (name : N) :
    (∃ place handle, searchName names name = some (.found place) ∧ names[place]? = some (name,handle) ∧ meaning name = some handle) ∨
      (∃ before, searchName names name = some (.missing before) ∧ before ≤ names.length ∧ meaning name = none ∧
        (∀ i one, i < before → names[i]? = some one → compare one.1 name = .lt) ∧ ∀ i one, before ≤ i → names[i]? = some one → compare one.1 name = .gt) := by
  obtain ⟨place,ran,answers⟩ := Bisect.search_answers (means.ordered.positioned name)
  cases answers with
  | @found place one there same =>
    obtain ⟨other,handle⟩ := one
    cases Std.LawfulEqCmp.eq_of_compare same
    exact .inl ⟨place,handle,ran,there,(means.exactly _ _).mpr (List.mem_of_getElem? there)⟩
  | missing inside below above =>
    refine .inr ⟨_,ran,inside,Option.eq_none_iff_forall_ne_some.mpr (fun handle known => ?_),below,above⟩
    obtain ⟨i,there⟩ := List.mem_iff_getElem?.mp ((means.exactly _ _).mp known)
    have self : compare name name = .eq := Std.ReflCmp.compare_self
    rcases Nat.lt_or_ge i _ with before | beyond
    · exact absurd (self.symm.trans (below i _ before there)) (by decide)
    · exact absurd (self.symm.trans (above i _ beyond there)) (by decide)

omit [DecidableEq N] in
theorem findName_means (means : Means names meaning) (name : N) : findName names name = some ((meaning name).getD 0) := by
  unfold findName
  rcases searchName_answers means name with ⟨place,handle,ran,there,known⟩ | ⟨before,ran,_,unknown,_⟩
  · simp only [ran,there,known,Option.bind_eq_bind,Option.bind_some,Option.map_some,Option.getD_some]
  · simp only [ran,unknown,Option.bind_eq_bind,Option.bind_some,Option.getD_none]

theorem insertName_means (means : Means names meaning) (name : N) (handle : Nat) :
    ∃ after, insertName names name handle = some ((meaning name).isNone,after) ∧ Means after (nameMeaning meaning (.namehandle handle name)) := by
  unfold insertName nameMeaning
  rcases searchName_answers means name with ⟨place,old,ran,there,known⟩ | ⟨before,ran,inside,unknown,below,above⟩
  · refine ⟨names,?_,?_⟩
    · simp only [ran,known,Option.bind_eq_bind,Option.bind_some,Option.isNone_some]
    · simp only [known,Option.isSome_some,↓reduceIte]
      exact means
  · refine ⟨names.insertIdx before (name,handle),?_,?_,fun other known => ?_⟩
    · simp only [ran,unknown,Option.bind_eq_bind,Option.bind_some,Option.isNone_none]
    · apply Bisect.pairwise_insertIdx means.ordered below
      exact fun i one beyond there => Std.OrientedCmp.lt_of_gt (above i one beyond there)
    · rw [List.mem_insertIdx inside]
      simp only [unknown,Option.isSome_none,Bool.false_eq_true,↓reduceIte,Prod.mk.injEq]
      by_cases same : other = name
      · subst same
        have absent : (other,known) ∉ names := by
          rw [← means.exactly,unknown]
          exact fun impossible => (nomatch impossible)
        simp only [Function.update_self,Option.some.injEq,true_and,absent,or_false]
        exact eq_comm
      · simp only [Function.update_of_ne same,same,false_and,false_or]
        exact means.exactly other known

omit [DecidableEq N] [Std.TransOrd N] [Std.LawfulEqOrd N] in
theorem retireNames_means (means : Means names meaning) (handle : Nat) : Means (retireNames handle names) (fun name => (meaning name).filter (· ≠ handle)) := by
  refine ⟨means.ordered.filter _,fun name other => ?_⟩
  unfold retireNames
  rw [Option.filter_eq_some_iff,List.mem_filter,means.exactly]

omit [DecidableEq N] [Std.TransOrd N] in
-- Names in order are the names of something.
theorem Ordered.means (ordered : Ordered names) : ∃ meaning, Means names meaning := by
  have once : ∀ {name one other}, (name,one) ∈ names → (name,other) ∈ names → one = other := by
    intro name one other here there
    obtain ⟨i,i_lt,first⟩ := List.mem_iff_getElem.mp here
    obtain ⟨j,j_lt,second⟩ := List.mem_iff_getElem.mp there
    have self : compare name name = .eq := Std.ReflCmp.compare_self
    rcases Nat.lt_trichotomy i j with before | same | behind
    · have apart := List.pairwise_iff_getElem.mp ordered i j i_lt j_lt before
      rw [first,second,self] at apart
      cases apart
    · subst same
      exact congrArg Prod.snd (first.symm.trans second)
    · have apart := List.pairwise_iff_getElem.mp ordered j i j_lt i_lt behind
      rw [first,second,self] at apart
      cases apart
  classical
  refine ⟨fun name => if known : ∃ handle, (name,handle) ∈ names then some known.choose else none,ordered,fun name handle => ?_⟩
  by_cases known : ∃ handle, (name,handle) ∈ names
  · rw [dif_pos known,Option.some.injEq]
    constructor
    · rintro rfl
      exact known.choose_spec
    · exact once known.choose_spec
  · rw [dif_neg known]
    exact iff_of_false (fun impossible => (nomatch impossible)) (fun there => known ⟨handle,there⟩)

theorem nameStep_means (means : Means names meaning) (command : NameCommand N) :
    ∃ after, nameStep names command = some after ∧ Means after (nameMeaning meaning command) := by
  cases command with
  | namehandle handle name =>
    obtain ⟨after,ran,means'⟩ := insertName_means means name handle
    exact ⟨after,by rw [nameStep,ran]; rfl,means'⟩
  | retire handle => exact ⟨_,rfl,retireNames_means means handle⟩

theorem names_run (means : Means names meaning) (commands : List (NameCommand N)) :
    ∃ after, commands.foldlM nameStep names = some after ∧ Means after (commands.foldl nameMeaning meaning) := by
  induction commands generalizing names meaning with
  | nil => exact ⟨names,rfl,means⟩
  | cons command rest ih =>
    obtain ⟨next,stepped,means'⟩ := nameStep_means means command
    obtain ⟨after,ran,last⟩ := ih means'
    exact ⟨after,by rw [List.foldlM_cons,stepped]; exact ran,last⟩

-- In any order of registrations and retirements the names stay ordered, a name is found for the service that has it, and 0 for the others.
theorem names_exact (commands : List (NameCommand N)) :
    ∃ names, commands.foldlM nameStep [] = some names ∧ Ordered names ∧
      ∀ name, findName names name = some ((commands.foldl nameMeaning (fun _ => none) name).getD 0) := by
  have empty : Means ([] : List (N × Nat)) (fun _ => none) :=
    ⟨.nil,fun name handle => iff_of_false (fun impossible => (nomatch impossible)) List.not_mem_nil⟩
  obtain ⟨names,ran,means⟩ := names_run empty commands
  exact ⟨names,ran,means.ordered,fun name => findName_means means name⟩

theorem names_exact_taken :
    ∃ names, [NameCommand.namehandle 7 2,.namehandle 8 1,.namehandle 9 2,.retire 8].foldlM nameStep [] = some names ∧ Ordered names ∧
      ∀ name : Nat, findName names name = some (([NameCommand.namehandle 7 2,.namehandle 8 1,.namehandle 9 2,.retire 8].foldl nameMeaning (fun _ => none) name).getD 0) :=
  names_exact _

end names
end OriginGame.Skynet
