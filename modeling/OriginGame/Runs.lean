import Mathlib.Data.List.Basic

namespace OriginGame

-- A run is one step after another, each with its label. What a label carries
-- (arguments, random draws, traversal orders, replies of other services)
-- belongs to the machine that instantiates it.
inductive Runs (step : State → Label → State → Prop) : State → List Label → State → Prop where
  | done : Runs step s [] s
  | more : step s label middle → Runs step middle labels t → Runs step s (label::labels) t

-- The steps of a machine that also meet a condition on the state before them.
def Guarded (step : State → Label → State → Prop) (allow : State → Label → Prop) :
    State → Label → State → Prop :=
  fun s label next => step s label next ∧ allow s label

namespace Runs
variable {State Label : Type*} {step : State → Label → State → Prop} {s t u : State}

theorem invariant {valid : State → Prop}
    (kept : ∀ before label after, valid before → step before label after → valid after)
    (path : Runs step s labels t) (start : valid s) : valid t := by
  induction path with
  | done => exact start
  | more one _ ih => exact ih (kept _ _ _ start one)

theorem unguarded {allow : State → Label → Prop} (path : Runs (Guarded step allow) s labels t) :
    Runs step s labels t := by
  induction path with
  | done => exact .done
  | more one _ ih => exact .more one.1 ih

theorem guarded {allow : Label → Prop} (path : Runs step s labels t) (each : ∀ label ∈ labels, allow label) :
    Runs (Guarded step (fun _ label => allow label)) s labels t := by
  induction path with
  | done => exact .done
  | more one _ ih =>
    have rest := List.forall_mem_cons.mp each
    exact .more ⟨one,rest.1⟩ (ih rest.2)

-- A machine that is a function runs through any list of labels.
theorem foldl (next : State → Label → State) (s : State) (labels : List Label) :
    Runs (fun s label t => t = next s label) s labels (labels.foldl next s) := by
  induction labels generalizing s with
  | nil => exact .done
  | cons label rest ih => exact .more rfl (ih (next s label))

-- Every label of a list is allowed when its turn comes.
def Passes (next : State → Label → State) (allow : State → Label → Prop) : State → List Label → Prop
  | _,[] => True
  | s,label::labels => allow s label ∧ Passes next allow (next s label) labels

instance decidablePasses (next : State → Label → State) (allow : State → Label → Prop) [∀ s label,Decidable (allow s label)] :
    ∀ s labels,Decidable (Passes next allow s labels)
  | _,[] => isTrue trivial
  | s,label::labels => @instDecidableAnd _ _ _ (decidablePasses next allow (next s label) labels)

-- A condition on each step that decides whether the step keeps something.
theorem always_iff {next : State → Label → State} {allow : State → Label → Prop} (valid : State → Prop)
    (step : ∀ s label, valid s → (valid (next s label) ↔ allow s label)) (start : valid s) (labels : List Label) :
    (∀ n, valid ((labels.take n).foldl next s)) ↔ Passes next allow s labels := by
  induction labels generalizing s with
  | nil => exact ⟨fun _ => trivial,fun _ _ => by rwa [List.take_nil]⟩
  | cons label rest ih =>
    constructor
    · intro always
      have one := always 1
      exact ⟨(step s label start).mp one,(ih one).mp (fun n => always (n+1))⟩
    · rintro ⟨fits,passes⟩ n
      have one := (step s label start).mpr fits
      cases n with
      | zero => exact start
      | succ n => exact (ih one).mpr passes n

theorem foldl_guarded {next : State → Label → State} {allow : State → Label → Prop} {labels : List Label}
    (passes : Passes next allow s labels) : Runs (Guarded (fun s label t => t = next s label) allow) s labels (labels.foldl next s) := by
  induction labels generalizing s with
  | nil => exact .done
  | cons label rest ih => exact .more ⟨rfl,passes.1⟩ (ih passes.2)

end Runs

-- A run without end, for what comes about if every step that is due is taken some time.
structure Endless (step : State → Label → State → Prop) (first : State) where
  state : Nat → State
  label : Nat → Label
  start : state 0 = first
  next : ∀ n, step (state n) (label n) (state (n+1))

namespace Endless
variable {State Label : Type*} {step : State → Label → State → Prop} {first : State}

theorem invariant (run : Endless step first) (valid : State → Prop)
    (kept : ∀ before label after, valid before → step before label after → valid after) (start : valid first) (n : Nat) : valid (run.state n) := by
  induction n with
  | zero =>
    rw [run.start]
    exact start
  | succ n ih => exact kept _ _ _ ih (run.next n)

-- A list of labels, then one label for ever.
def reaches (next : State → Label → State) (rest : Label) : State → List Label → Nat → State
  | s,_,0 => s
  | s,[],n+1 => reaches next rest (next s rest) [] n
  | s,label::labels,n+1 => reaches next rest (next s label) labels n

theorem reaches_succ (next : State → Label → State) (rest : Label) (s : State) (labels : List Label) (n : Nat) :
    reaches next rest s labels (n+1) = next (reaches next rest s labels n) (labels.getD n rest) := by
  induction n generalizing s labels with
  | zero => cases labels <;> rfl
  | succ n ih =>
    cases labels with
    | nil => exact ih (next s rest) []
    | cons label labels => exact ih (next s label) labels

theorem reaches_allowed {next : State → Label → State} {allow : State → Label → Prop} {rest : Label} (always : ∀ s, allow s rest)
    {s : State} {labels : List Label} (passes : Runs.Passes next allow s labels) (n : Nat) :
    allow (reaches next rest s labels n) (labels.getD n rest) := by
  induction n generalizing s labels with
  | zero =>
    cases labels with
    | nil => exact always s
    | cons label labels => exact passes.1
  | succ n ih =>
    cases labels with
    | nil => exact @ih (next s rest) [] trivial
    | cons label labels => exact ih passes.2

def onward (next : State → Label → State) (rest : Label) (labels : List Label) {allow : State → Label → Prop} {first : State}
    (always : ∀ s, allow s rest) (passes : Runs.Passes next allow first labels) : Endless (Guarded (fun s label t => t = next s label) allow) first where
  state := reaches next rest first labels
  label n := labels.getD n rest
  start := by cases labels <;> rfl
  next n := ⟨reaches_succ next rest first labels n,reaches_allowed always passes n⟩

end Endless

theorem stays (holds : Nat → Prop) {from_ : Nat} (next : ∀ n, from_ ≤ n → holds n → holds (n+1)) (start : holds from_) (later : from_ ≤ n) : holds n := by
  induction later with
  | refl => exact start
  | step later ih => exact next _ later ih

-- What holds and is gone some time later is gone in one step.
theorem leaves (holds : Nat → Prop) {from_ : Nat} (start : holds from_) (gone : ∃ n, from_ ≤ n ∧ ¬ holds n) :
    ∃ n, from_ ≤ n ∧ holds n ∧ ¬ holds (n+1) := by
  by_contra never
  obtain ⟨n,later,over_⟩ := gone
  refine over_ (stays holds (fun k after there => ?_) start later)
  by_contra missing
  exact never ⟨k,after,there,missing⟩

end OriginGame
