import OriginGame.Handlers
import Mathlib.Logic.Function.Basic

namespace OriginGame

-- Calls are numbered and a handler keeps its number, so that it can be found in a queue.
structure Ticketed (σ : Type) where
  tickets : Nat
  state : σ

structure Numbered (κ : Type) where
  ticket : Nat
  task : κ
  deriving DecidableEq

section Numbering
variable {σ κ ω τ : Type}

def enterNumbered (enter : ω → Nat → σ → σ × Option κ) (request : ω) (s : Ticketed σ) : Ticketed σ × Option (Numbered κ) :=
  let (state,next) := enter request s.tickets s.state
  (⟨s.tickets+1,state⟩,next.map (⟨s.tickets,·⟩))

def resumeNumbered (resume : τ → Nat → κ → σ → σ × Option κ) (answer : τ) (handler : Numbered κ) (s : Ticketed σ) :
    Ticketed σ × Option (Numbered κ) :=
  let (state,next) := resume answer handler.ticket handler.task s.state
  (⟨s.tickets,state⟩,next.map (⟨handler.ticket,·⟩))

def numbered (allow : σ → Event ω κ τ → Prop) (s : Ticketed σ) : Event ω (Numbered κ) τ → Prop
  | .call request => allow s.state (.call request)
  | .resume handler answer => allow s.state (.resume handler.task answer)

instance [∀ (s : σ) (event : Event ω κ τ),Decidable (allow s event)] (s : Ticketed σ) :
    (event : Event ω (Numbered κ) τ) → Decidable (numbered allow s event)
  | .call request => inferInstanceAs (Decidable (allow s.state (.call request)))
  | .resume handler answer => inferInstanceAs (Decidable (allow s.state (.resume handler.task answer)))

def Apart (service : Service (Ticketed σ) (Numbered κ)) : Prop :=
  (service.waiting.map Numbered.ticket).Nodup ∧ ∀ handler ∈ service.waiting, handler.ticket < service.shared.tickets

-- As Keeps, where the others are known to be others.
structure KeepsApart (enter : ω → Nat → σ → σ × Option κ) (resume : τ → Nat → κ → σ → σ × Option κ)
    (allow : σ → Event ω κ τ → Prop) (valid : σ → Prop) (relies : σ → Nat → κ → Prop) : Prop where
  entered : ∀ s ticket request, valid s → allow s (.call request) →
    valid (enter request ticket s).1 ∧ ∀ next ∈ (enter request ticket s).2, relies (enter request ticket s).1 ticket next
  resumed : ∀ s ticket task answer, valid s → relies s ticket task → allow s (.resume task answer) →
    valid (resume answer ticket task s).1 ∧ ∀ next ∈ (resume answer ticket task s).2, relies (resume answer ticket task s).1 ticket next
  beside_entered : ∀ s ticket request other task, valid s → allow s (.call request) → relies s other task → other ≠ ticket →
    relies (enter request ticket s).1 other task
  beside_resumed : ∀ s ticket task answer other beside, valid s → relies s ticket task → allow s (.resume task answer) →
    relies s other beside → other ≠ ticket → relies (resume answer ticket task s).1 other beside

variable {enter : ω → Nat → σ → σ × Option κ} {resume : τ → Nat → κ → σ → σ × Option κ}
variable {allow : σ → Event ω κ τ → Prop} {valid : σ → Prop} {relies : σ → Nat → κ → Prop}

abbrev Numbers (enter : ω → Nat → σ → σ × Option κ) (resume : τ → Nat → κ → σ → σ × Option κ) :=
  Interleaves (enterNumbered enter) (resumeNumbered resume)

theorem apart_step {before after : Service (Ticketed σ) (Numbered κ)} {event : Event ω (Numbered κ) τ}
    (step : Numbers enter resume before event after) (apart : Apart before) : Apart after := by
  obtain ⟨distinct,below⟩ := apart
  cases step with
  | @call s waiting request =>
    obtain ⟨tickets,state⟩ := s
    simp only [Apart,enterNumbered]
    cases (enter request tickets state).2 with
    | none => exact ⟨distinct,fun handler mem => Nat.lt_succ_of_lt (below handler mem)⟩
    | some task =>
      refine ⟨?_,?_⟩
      · refine List.nodup_cons.mpr ⟨?_,distinct⟩
        intro mem
        obtain ⟨other,there,equal⟩ := List.mem_map.mp mem
        exact Nat.lt_irrefl _ (equal ▸ below other there)
      · intro handler mem
        rcases List.mem_cons.mp mem with rfl | old
        · exact Nat.lt_succ_self _
        · exact Nat.lt_succ_of_lt (below handler old)
  | @resume s earlier handler later answer =>
    rw [List.map_append,List.map_cons] at distinct
    simp only [Apart,resumeNumbered]
    cases (resume answer handler.ticket handler.task s.state).2 with
    | none =>
      refine ⟨?_,?_⟩
      · simp only [Option.map_none,Option.toList_none,List.append_nil,List.map_append]
        exact distinct.sublist ((List.sublist_cons_self _ _).append_left _)
      · intro other mem
        simp only [Option.map_none,Option.toList_none,List.append_nil,List.mem_append] at mem
        apply below
        simp only [List.mem_append,List.mem_cons]
        tauto
    | some task =>
      refine ⟨?_,?_⟩
      · simpa only [Option.map_some,Option.toList_some,List.map_append,List.map_cons,List.map_nil,List.append_assoc,
          List.singleton_append] using distinct
      · intro other mem
        simp only [Option.map_some,Option.toList_some,List.append_assoc,List.singleton_append,List.mem_append,List.mem_cons] at mem
        rcases mem with old | rfl | old
        · exact below other (List.mem_append_left _ old)
        · exact below handler (by simp)
        · exact below other (List.mem_append_right _ (List.mem_cons_of_mem _ old))

def Relying (valid : σ → Prop) (relies : σ → Nat → κ → Prop) (service : Service (Ticketed σ) (Numbered κ)) : Prop :=
  valid service.shared.state ∧ ∀ handler ∈ service.waiting, relies service.shared.state handler.ticket handler.task

theorem KeepsApart.step {before after : Service (Ticketed σ) (Numbered κ)} {event : Event ω (Numbered κ) τ}
    (keeps : KeepsApart enter resume allow valid relies)
    (acts : Guarded (Numbers enter resume) (Allowed (numbered allow)) before event after)
    (apart : Apart before) (start : Relying valid relies before) : Relying valid relies after := by
  obtain ⟨step,allowed⟩ := acts
  obtain ⟨holds,each⟩ := start
  obtain ⟨distinct,below⟩ := apart
  cases step with
  | @call s waiting request =>
    obtain ⟨kept,next⟩ := keeps.entered s.state s.tickets request holds allowed
    refine ⟨kept,?_⟩
    intro handler mem
    rcases List.mem_append.mp mem with fresh | old
    · obtain ⟨task,there,rfl⟩ := Option.map_eq_some_iff.mp (Option.mem_toList.mp fresh)
      exact next task there
    · exact keeps.beside_entered s.state s.tickets request handler.ticket handler.task holds allowed (each handler old)
        (Nat.ne_of_lt (below handler old))
  | @resume s earlier handler later answer =>
    have own := each handler (by simp)
    obtain ⟨kept,next⟩ := keeps.resumed s.state handler.ticket handler.task answer holds own allowed
    rw [List.map_append,List.map_cons,List.perm_middle.nodup_iff,List.nodup_cons] at distinct
    simp only [List.mem_append,List.mem_map,not_or] at distinct
    refine ⟨kept,?_⟩
    intro other mem
    have beside (old : other ∈ earlier++handler::later) (apart : other.ticket ≠ handler.ticket) :=
      keeps.beside_resumed s.state handler.ticket handler.task answer other.ticket other.task holds own allowed (each other old) apart
    rcases List.mem_append.mp mem with front | back
    · rcases List.mem_append.mp front with old | fresh
      · exact beside (List.mem_append_left _ old) (fun same => distinct.1.1 ⟨other,old,same⟩)
      · obtain ⟨task,there,rfl⟩ := Option.map_eq_some_iff.mp (Option.mem_toList.mp fresh)
        exact next task there
    · exact beside (List.mem_append_right _ (List.mem_cons_of_mem _ back)) (fun same => distinct.1.2 ⟨other,back,same⟩)

theorem KeepsApart.run {start last : Service (Ticketed σ) (Numbered κ)} {events : List (Event ω (Numbered κ) τ)}
    (keeps : KeepsApart enter resume allow valid relies)
    (path : Runs (Guarded (Numbers enter resume) (Allowed (numbered allow))) start events last)
    (idle : start.waiting = []) (holds : valid start.shared.state) : Relying valid relies last := by
  have apart : Apart start := by
    rw [Apart,idle]
    exact ⟨List.nodup_nil,fun _ mem => by cases mem⟩
  have relying : Relying valid relies start := by
    rw [Relying,idle]
    exact ⟨holds,fun _ mem => by cases mem⟩
  clear idle holds
  induction path with
  | done => exact relying
  | more acts _ ih => exact ih (apart_step acts.1 apart) (keeps.step acts apart relying)

end Numbering

-- skynet.queue under each key: the thread inside first, then the others in the order they came.
abbrev Queues := Nat → List Nat

namespace Queues

def Inside (queues : Queues) (key ticket : Nat) : Prop := (queues key).head? = some ticket

instance (queues : Queues) (key ticket : Nat) : Decidable (queues.Inside key ticket) :=
  inferInstanceAs (Decidable ((queues key).head? = some ticket))

def lock (queues : Queues) (key ticket : Nat) : Queues := Function.update queues key (queues key++[ticket])

def unlock (queues : Queues) (key : Nat) : Queues := Function.update queues key (queues key).tail

variable {queues : Queues} {key ticket other leaving : Nat}

theorem inside_lock (inside : queues.Inside key ticket) (other fresh : Nat) : (queues.lock other fresh).Inside key ticket := by
  unfold Inside lock at *
  by_cases same : key = other
  · subst same
    rw [Function.update_self]
    cases queue : queues key with
    | nil =>
      rw [queue] at inside
      cases inside
    | cons head rest =>
      rw [queue] at inside
      exact inside
  · rw [Function.update_of_ne same]
    exact inside

theorem inside_unique (inside : queues.Inside key ticket) (also : queues.Inside key other) : ticket = other := by
  unfold Inside at inside also
  rw [inside] at also
  exact Option.some.inj also

-- Only the thread inside leaves.
theorem inside_unlock (inside : queues.Inside key ticket) (also : queues.Inside other leaving) (apart : ticket ≠ leaving) :
    (queues.unlock other).Inside key ticket := by
  unfold unlock
  by_cases same : key = other
  · subst same
    exact absurd (inside_unique inside also) apart
  · unfold Inside
    rw [Function.update_of_ne same]
    exact inside

end Queues
end OriginGame
