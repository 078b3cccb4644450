import Mathlib.Algebra.BigOperators.Group.List.Basic
import Mathlib.Algebra.Order.Ring.Int
import OriginGame.Runs

namespace OriginGame

-- A service runs one handler at a time and switches only where a handler waits
-- for an answer. What the handlers share is one value; a handler that waits is the
-- point it has reached, with its locals.
structure Service (σ κ : Type) where
  shared : σ
  waiting : List κ

inductive Event (ω κ τ : Type) where
  | call (request : ω)
  | resume (handler : κ) (answer : τ)

section Interleaving
variable {σ κ ω τ ι : Type}

-- The next waiting point, or none at the return.
inductive Interleaves (enter : ω → σ → σ × Option κ) (resume : τ → κ → σ → σ × Option κ) :
    Service σ κ → Event ω κ τ → Service σ κ → Prop where
  | call : Interleaves enter resume ⟨s,waiting⟩ (.call request) ⟨(enter request s).1,(enter request s).2.toList++waiting⟩
  | resume : Interleaves enter resume ⟨s,earlier++handler::later⟩ (.resume handler answer)
      ⟨(resume answer handler s).1,earlier++(resume answer handler s).2.toList++later⟩

-- An invariant of what is shared, and what each waiting handler may rely on: the
-- others must leave it true.
structure Keeps (enter : ω → σ → σ × Option κ) (resume : τ → κ → σ → σ × Option κ) (allow : σ → Event ω κ τ → Prop)
    (valid : σ → Prop) (relies : σ → κ → Prop) : Prop where
  entered : ∀ s request, valid s → allow s (.call request) →
    valid (enter request s).1 ∧ ∀ next ∈ (enter request s).2, relies (enter request s).1 next
  resumed : ∀ s handler answer, valid s → relies s handler → allow s (.resume handler answer) →
    valid (resume answer handler s).1 ∧ ∀ next ∈ (resume answer handler s).2, relies (resume answer handler s).1 next
  beside_entered : ∀ s request other, valid s → allow s (.call request) → relies s other → relies (enter request s).1 other
  beside_resumed : ∀ s handler answer other, valid s → relies s handler → allow s (.resume handler answer) → relies s other →
    relies (resume answer handler s).1 other

variable {enter : ω → σ → σ × Option κ} {resume : τ → κ → σ → σ × Option κ} {allow : σ → Event ω κ τ → Prop}
variable {valid : σ → Prop} {relies : σ → κ → Prop}

abbrev Allowed (allow : σ → Event ω κ τ → Prop) : Service σ κ → Event ω κ τ → Prop := fun service => allow service.shared

def Holding (valid : σ → Prop) (relies : σ → κ → Prop) (service : Service σ κ) : Prop :=
  valid service.shared ∧ ∀ handler ∈ service.waiting, relies service.shared handler

theorem Keeps.step {before after : Service σ κ} {event : Event ω κ τ} (keeps : Keeps enter resume allow valid relies)
    (acts : Guarded (Interleaves enter resume) (Allowed allow) before event after)
    (start : Holding valid relies before) : Holding valid relies after := by
  obtain ⟨step,allowed⟩ := acts
  obtain ⟨holds,each⟩ := start
  cases step with
  | @call s waiting request =>
    obtain ⟨kept,next⟩ := keeps.entered s request holds allowed
    refine ⟨kept,?_⟩
    intro handler mem
    rcases List.mem_append.mp mem with fresh | old
    · exact next handler (Option.mem_toList.mp fresh)
    · exact keeps.beside_entered s request handler holds allowed (each handler old)
  | @resume s earlier handler later answer =>
    have own := each handler (by simp)
    obtain ⟨kept,next⟩ := keeps.resumed s handler answer holds own allowed
    refine ⟨kept,?_⟩
    intro other mem
    have beside (old : other ∈ earlier++handler::later) := keeps.beside_resumed s handler answer other holds own allowed (each other old)
    rcases List.mem_append.mp mem with front | back
    · rcases List.mem_append.mp front with old | fresh
      · exact beside (List.mem_append_left _ old)
      · exact next other (Option.mem_toList.mp fresh)
    · exact beside (List.mem_append_right _ (List.mem_cons_of_mem _ back))

theorem Keeps.run {start last : Service σ κ} {events : List (Event ω κ τ)} (keeps : Keeps enter resume allow valid relies)
    (path : Runs (Guarded (Interleaves enter resume) (Allowed allow)) start events last)
    (holds : Holding valid relies start) : Holding valid relies last :=
  Runs.invariant (fun _ _ _ start acts => keeps.step acts start) path holds

-- What is kept may be asked of every step.
def Sure (allow : σ → Event ω κ τ → Prop) (valid : σ → Prop) (relies : σ → κ → Prop) (s : σ) (event : Event ω κ τ) : Prop :=
  allow s event ∧ valid s ∧ ∀ handler answer, event = .resume handler answer → relies s handler

theorem Keeps.sure {start last : Service σ κ} {events : List (Event ω κ τ)} (keeps : Keeps enter resume allow valid relies)
    (path : Runs (Guarded (Interleaves enter resume) (Allowed allow)) start events last) (holds : Holding valid relies start) :
    Runs (Guarded (Interleaves enter resume) (Allowed (Sure allow valid relies))) start events last := by
  induction path with
  | done => exact .done
  | @more before event after _ _ acts _ ih =>
    refine .more ⟨acts.1,acts.2,holds.1,?_⟩ (ih (keeps.step acts holds))
    rintro handler answer rfl
    obtain ⟨step,_⟩ := acts
    cases step with
    | resume => exact holds.2 handler (by simp)

-- Handlers that carry a tag of their own may also rely on what only their own steps change.
structure KeepsTagged (enter : ω → σ → σ × Option κ) (resume : τ → κ → σ → σ × Option κ) (allow : σ → Event ω κ τ → Prop)
    (valid : σ → Prop) (relies : σ → κ → Prop) (tag : κ → ι) : Prop where
  entered : ∀ s request, valid s → allow s (.call request) →
    valid (enter request s).1 ∧ ∀ next ∈ (enter request s).2, relies (enter request s).1 next
  fresh : ∀ s request other, valid s → allow s (.call request) → relies s other → ∀ next ∈ (enter request s).2, tag next ≠ tag other
  resumed : ∀ s handler answer, valid s → relies s handler → allow s (.resume handler answer) →
    valid (resume answer handler s).1 ∧
      ∀ next ∈ (resume answer handler s).2, relies (resume answer handler s).1 next ∧ tag next = tag handler
  beside_entered : ∀ s request other, valid s → allow s (.call request) → relies s other → relies (enter request s).1 other
  beside_resumed : ∀ s handler answer other, valid s → relies s handler → allow s (.resume handler answer) → relies s other →
    tag other ≠ tag handler → relies (resume answer handler s).1 other

def Tagged (valid : σ → Prop) (relies : σ → κ → Prop) (tag : κ → ι) (service : Service σ κ) : Prop :=
  valid service.shared ∧ (service.waiting.map tag).Nodup ∧ ∀ handler ∈ service.waiting, relies service.shared handler

theorem KeepsTagged.step {tag : κ → ι} {before after : Service σ κ} {event : Event ω κ τ} (keeps : KeepsTagged enter resume allow valid relies tag)
    (acts : Guarded (Interleaves enter resume) (Allowed allow) before event after)
    (start : Tagged valid relies tag before) : Tagged valid relies tag after := by
  obtain ⟨step,allowed⟩ := acts
  obtain ⟨holds,distinct,each⟩ := start
  cases step with
  | @call s waiting request =>
    obtain ⟨kept,next⟩ := keeps.entered s request holds allowed
    refine ⟨kept,?_,?_⟩
    · have fresh := fun other mem => keeps.fresh s request other holds allowed (each other mem)
      dsimp only at distinct fresh ⊢
      cases started : (enter request s).2 with
      | none => exact distinct
      | some first =>
        refine List.nodup_cons.mpr ⟨fun mem => ?_,distinct⟩
        obtain ⟨other,there,same⟩ := List.mem_map.mp mem
        exact fresh other there first started same.symm
    · intro handler mem
      rcases List.mem_append.mp mem with fresh | old
      · exact next handler (Option.mem_toList.mp fresh)
      · exact keeps.beside_entered s request handler holds allowed (each handler old)
  | @resume s earlier handler later answer =>
    have own := each handler (by simp)
    obtain ⟨kept,next⟩ := keeps.resumed s handler answer holds own allowed
    rw [List.map_append,List.map_cons] at distinct
    obtain ⟨alone,rest⟩ := List.nodup_cons.mp (List.perm_middle.nodup_iff.mp distinct)
    refine ⟨kept,?_,?_⟩
    · dsimp only at next ⊢
      cases going : (resume answer handler s).2 with
      | none => rwa [Option.toList_none,List.append_nil,List.map_append]
      | some further =>
        rw [Option.toList_some,List.append_assoc,List.singleton_append,List.map_append,List.map_cons,(next further going).2]
        exact distinct
    · intro other mem
      have beside (old : other ∈ earlier++later) : relies (resume answer handler s).1 other := by
        refine keeps.beside_resumed s handler answer other holds own allowed (each other ?_) (fun same : tag other = tag handler => alone ?_)
        · exact List.mem_append.mpr ((List.mem_append.mp old).imp id (List.mem_cons_of_mem _))
        · rw [← same,← List.map_append]
          exact List.mem_map_of_mem old
      rcases List.mem_append.mp mem with front | back
      · rcases List.mem_append.mp front with old | fresh
        · exact beside (List.mem_append_left _ old)
        · exact (next other (Option.mem_toList.mp fresh)).1
      · exact beside (List.mem_append_right _ back)

theorem KeepsTagged.run {tag : κ → ι} {start last : Service σ κ} {events : List (Event ω κ τ)} (keeps : KeepsTagged enter resume allow valid relies tag)
    (path : Runs (Guarded (Interleaves enter resume) (Allowed allow)) start events last)
    (holds : Tagged valid relies tag start) : Tagged valid relies tag last :=
  Runs.invariant (fun _ _ _ start acts => keeps.step acts start) path holds

section Alone
variable {working : κ → Bool} {fine : σ → Option κ → Prop}

-- A handler begins to work only while no other is at work.
def BeginsAlone (enter : ω → σ → σ × Option κ) (resume : τ → κ → σ → σ × Option κ) (working : κ → Bool) (service : Service σ κ) :
    Event ω κ τ → Prop
  | .call request => (enter request service.shared).2.any working = true → ∀ other ∈ service.waiting, working other = false
  | .resume handler answer => working handler = false → (resume answer handler service.shared).2.any working = true →
      ∀ other ∈ service.waiting, working other = false

-- An invariant of what is shared and of the handler at work.
structure KeepsAlone (enter : ω → σ → σ × Option κ) (resume : τ → κ → σ → σ × Option κ) (working : κ → Bool) (fine : σ → Option κ → Prop) : Prop where
  entered : ∀ s request now, fine s now → ((enter request s).2.any working = true → now = none) →
    fine (enter request s).1 (((enter request s).2.filter working).or now)
  resumed : ∀ s handler answer, working handler = true → fine s (some handler) →
    fine (resume answer handler s).1 ((resume answer handler s).2.filter working)
  joined : ∀ s handler answer now, working handler = false → fine s now → ((resume answer handler s).2.any working = true → now = none) →
    fine (resume answer handler s).1 (((resume answer handler s).2.filter working).or now)

def AtWork (working : κ → Bool) (fine : σ → Option κ → Prop) (service : Service σ κ) : Prop :=
  ∃ now : Option κ, service.waiting.filter working = now.toList ∧ fine service.shared now

theorem filter_toList (next : Option κ) : next.toList.filter working = (next.filter working).toList := by
  cases next with
  | none => rfl
  | some handler =>
    rw [Option.toList_some,Option.filter_some]
    by_cases works : working handler = true
    · rw [if_pos works,List.filter_cons_of_pos works,List.filter_nil,Option.toList_some]
    · rw [if_neg works,List.filter_cons_of_neg works,List.filter_nil,Option.toList_none]

theorem filter_any {next : Option κ} (idle : ¬next.any working = true) : next.filter working = none := by
  cases next with
  | none => rfl
  | some handler => exact (Option.filter_some).trans (if_neg idle)

-- Whoever is at work stays so unless a newcomer begins, and then nobody was.
theorem filter_joined {next now : Option κ} {earlier later : List κ} (before : (earlier++later).filter working = now.toList)
    (alone : next.any working = true → ∀ other ∈ earlier++later, working other = false) :
    (next.any working = true → now = none) ∧ (earlier++next.toList++later).filter working = ((next.filter working).or now).toList := by
  have cleared (begins : next.any working = true) : now = none := by
    have empty : (earlier++later).filter working = [] :=
      List.filter_eq_nil_iff.mpr (fun other mem => Bool.not_eq_true _ ▸ alone begins other mem)
    rw [before] at empty
    cases now with
    | none => rfl
    | some => cases empty
  refine ⟨cleared,?_⟩
  rw [List.filter_append] at before
  rw [List.filter_append,List.filter_append,filter_toList]
  by_cases begins : next.any working = true
  · rw [cleared begins,Option.toList_none,List.append_eq_nil_iff] at before
    rw [cleared begins,before.1,before.2,List.nil_append,List.append_nil,Option.or_none]
  · rw [filter_any begins,Option.toList_none,List.append_nil,Option.none_or,before]

theorem KeepsAlone.step {before after : Service σ κ} {event : Event ω κ τ} (keeps : KeepsAlone enter resume working fine)
    (acts : Guarded (Interleaves enter resume) (BeginsAlone enter resume working) before event after) (start : AtWork working fine before) :
    AtWork working fine after := by
  obtain ⟨step,alone⟩ := acts
  obtain ⟨now,atWork,holds⟩ := start
  cases step with
  | @call s waiting request =>
    have begins : (enter request s).2.any working = true → ∀ other ∈ []++waiting, working other = false := alone
    obtain ⟨cleared,same⟩ := filter_joined (show ([]++waiting).filter working = now.toList from atWork) begins
    exact ⟨_,same,keeps.entered s request now holds cleared⟩
  | @resume s earlier handler later answer =>
    dsimp only at atWork holds
    by_cases works : working handler = true
    · rw [List.filter_append,List.filter_cons_of_pos works] at atWork
      cases now with
      | none => exact absurd atWork (List.append_ne_nil_of_right_ne_nil _ (List.cons_ne_nil _ _))
      | some only =>
        rw [Option.toList_some] at atWork
        rcases List.append_eq_singleton_iff.mp atWork with ⟨front,back⟩ | ⟨_,back⟩
        · obtain ⟨rfl,rest⟩ := List.cons.inj back
          refine ⟨_,?_,keeps.resumed s handler answer works holds⟩
          dsimp only
          rw [List.filter_append,List.filter_append,front,rest,List.nil_append,List.append_nil,filter_toList]
        · exact absurd back (List.cons_ne_nil _ _)
    · have quiet : working handler = false := Bool.not_eq_true _ ▸ works
      rw [List.filter_append,List.filter_cons_of_neg works,← List.filter_append] at atWork
      obtain ⟨cleared,same⟩ := filter_joined atWork (fun begins other mem => alone quiet begins other
        (List.mem_append.mpr ((List.mem_append.mp mem).imp id (List.mem_cons_of_mem _))))
      exact ⟨_,same,keeps.joined s handler answer now quiet holds cleared⟩

theorem KeepsAlone.run {start last : Service σ κ} {events : List (Event ω κ τ)} (keeps : KeepsAlone enter resume working fine)
    (path : Runs (Guarded (Interleaves enter resume) (BeginsAlone enter resume working)) start events last)
    (holds : AtWork working fine start) : AtWork working fine last :=
  Runs.invariant (fun _ _ _ start acts => keeps.step acts start) path holds

end Alone

section Items
variable {items : κ → List ι} {settled : σ → ι → Prop}

-- A handler begins only while none of its items is held by another.
def BeginsFree (enter : ω → σ → σ × Option κ) (items : κ → List ι) (service : Service σ κ) : Event ω κ τ → Prop
  | .call request => ∀ next ∈ (enter request service.shared).2, ∀ other ∈ service.waiting, ∀ item ∈ items next, item ∉ items other
  | .resume _ _ => True

-- A handler holds its items from beginning to end. What nobody holds is settled, and a handler
-- may rely on what only the holders of its items change.
structure KeepsItems (enter : ω → σ → σ × Option κ) (resume : τ → κ → σ → σ × Option κ) (allow : σ → Event ω κ τ → Prop)
    (items : κ → List ι) (settled : σ → ι → Prop) (relies : σ → κ → Prop) : Prop where
  shrinks : ∀ s handler answer, ∀ next ∈ (resume answer handler s).2, items next ⊆ items handler
  entered : ∀ s request, allow s (.call request) → ∀ next ∈ (enter request s).2, (∀ item ∈ items next, settled s item) → relies (enter request s).1 next
  settled_entered : ∀ s request item, allow s (.call request) → settled s item → (∀ next ∈ (enter request s).2, item ∉ items next) →
    settled (enter request s).1 item
  beside_entered : ∀ s request other, allow s (.call request) → relies s other →
    (∀ next ∈ (enter request s).2, ∀ item ∈ items next, item ∉ items other) → relies (enter request s).1 other
  resumed : ∀ s handler answer, relies s handler → ∀ next ∈ (resume answer handler s).2, relies (resume answer handler s).1 next
  settled_resumed : ∀ s handler answer item, relies s handler → item ∈ items handler ∨ settled s item →
    (∀ next ∈ (resume answer handler s).2, item ∉ items next) → settled (resume answer handler s).1 item
  beside_resumed : ∀ s handler answer other, relies s handler → relies s other → (∀ item ∈ items handler, item ∉ items other) →
    relies (resume answer handler s).1 other

def HoldingItems (items : κ → List ι) (settled : σ → ι → Prop) (relies : σ → κ → Prop) (service : Service σ κ) : Prop :=
  service.waiting.Pairwise (fun one other => ∀ item ∈ items one, item ∉ items other) ∧
  (∀ handler ∈ service.waiting, relies service.shared handler) ∧
  ∀ item, (∀ handler ∈ service.waiting, item ∉ items handler) → settled service.shared item

theorem KeepsItems.begins {request : ω} {waiting : List κ} {s : σ} (keeps : KeepsItems enter resume allow items settled relies)
    (free : ∀ next ∈ (enter request s).2, ∀ other ∈ waiting, ∀ item ∈ items next, item ∉ items other) (allowed : allow s (.call request))
    (start : HoldingItems items settled relies ⟨s,waiting⟩) :
    HoldingItems items settled relies ⟨(enter request s).1,(enter request s).2.toList++waiting⟩ := by
  obtain ⟨disjoint,each,rest⟩ := start
  refine ⟨?_,fun handler mem => ?_,fun item none => ?_⟩
  · refine List.pairwise_append.mpr ⟨?_,disjoint,fun next mem other old => free next (Option.mem_toList.mp mem) other old⟩
    cases (enter request s).2 with
    | none => exact .nil
    | some => exact List.pairwise_singleton _ _
  · rcases List.mem_append.mp mem with fresh | old
    · have next := Option.mem_toList.mp fresh
      exact keeps.entered s request allowed handler next (fun item mine => rest item (fun other old there => free handler next other old item mine there))
    · exact keeps.beside_entered s request handler allowed (each handler old) (fun next begins item mine => free next begins handler old item mine)
  · refine keeps.settled_entered s request item allowed (rest item (fun handler old => none handler (List.mem_append_right _ old))) (fun next begins => ?_)
    exact none next (List.mem_append_left _ (Option.mem_toList.mpr begins))

theorem KeepsItems.goesOn {answer : τ} {handler : κ} {earlier later : List κ} {s : σ} (keeps : KeepsItems enter resume allow items settled relies)
    (start : HoldingItems items settled relies ⟨s,earlier++handler::later⟩) :
    HoldingItems items settled relies ⟨(resume answer handler s).1,earlier++(resume answer handler s).2.toList++later⟩ := by
  obtain ⟨disjoint,each,rest⟩ := start
  have own := each handler (by simp)
  obtain ⟨front,back,across⟩ := List.pairwise_append.mp disjoint
  obtain ⟨mine,back⟩ := List.pairwise_cons.mp back
  have apart (other : κ) (mem : other ∈ earlier++later) : ∀ item ∈ items handler, item ∉ items other := by
    intro item held there
    rcases List.mem_append.mp mem with before | after
    · exact across other before handler List.mem_cons_self item there held
    · exact mine other after item held there
  have shrinks := keeps.shrinks s handler answer
  refine ⟨?_,fun other mem => ?_,fun item none => ?_⟩
  · rw [List.append_assoc]
    refine List.pairwise_append.mpr ⟨front,List.pairwise_append.mpr ⟨?_,back,?_⟩,?_⟩
    · cases (resume answer handler s).2 with
      | none => exact .nil
      | some => exact List.pairwise_singleton _ _
    · exact fun next begins other after item there => mine other after item (shrinks next (Option.mem_toList.mp begins) there)
    · intro other before next mem item there held
      rcases List.mem_append.mp mem with begins | after
      · exact across other before handler List.mem_cons_self item there (shrinks next (Option.mem_toList.mp begins) held)
      · exact across other before next (List.mem_cons_of_mem _ after) item there held
  · have beside (old : other ∈ earlier++later) : relies (resume answer handler s).1 other := by
      refine keeps.beside_resumed s handler answer other own (each other ?_) (apart other old)
      exact List.mem_append.mpr ((List.mem_append.mp old).imp id (List.mem_cons_of_mem _))
    rcases List.mem_append.mp mem with front | after
    · rcases List.mem_append.mp front with before | begins
      · exact beside (List.mem_append_left _ before)
      · exact keeps.resumed s handler answer own other (Option.mem_toList.mp begins)
    · exact beside (List.mem_append_right _ after)
  · refine keeps.settled_resumed s handler answer item own ?_ (fun next begins => none next
      (List.mem_append_left _ (List.mem_append_right _ (Option.mem_toList.mpr begins))))
    refine (Classical.em (item ∈ items handler)).imp_right (fun away => rest item (fun other mem => ?_))
    rcases List.mem_append.mp mem with before | after
    · exact none other (List.mem_append_left _ (List.mem_append_left _ before))
    · rcases List.mem_cons.mp after with rfl | later
      · exact away
      · exact none other (List.mem_append_right _ later)

theorem KeepsItems.run {start last : Service σ κ} {events : List (Event ω κ τ)} (keeps : KeepsItems enter resume allow items settled relies)
    (path : Runs (Guarded (Interleaves enter resume) (fun service event => BeginsFree enter items service event ∧ allow service.shared event)) start events last)
    (holds : HoldingItems items settled relies start) : HoldingItems items settled relies last := by
  refine Runs.invariant (fun before event after start acts => ?_) path holds
  obtain ⟨step,free,allowed⟩ := acts
  cases step with
  | call => exact keeps.begins free allowed start
  | resume => exact keeps.goesOn start

end Items

-- What the waiting handlers still owe, taken together with what is shared, does not change.
structure Balances (enter : ω → σ → σ × Option κ) (resume : τ → κ → σ → σ × Option κ) (allow : σ → Event ω κ τ → Prop)
    (shared : σ → Int) (due : κ → Int) : Prop where
  entered : ∀ s request, allow s (.call request) →
    shared (enter request s).1+((enter request s).2.map due).getD 0 = shared s
  resumed : ∀ s handler answer, allow s (.resume handler answer) →
    shared (resume answer handler s).1+((resume answer handler s).2.map due).getD 0 = shared s+due handler

def owed (due : κ → Int) (waiting : List κ) : Int := (waiting.map due).sum

@[simp] theorem owed_nil (due : κ → Int) : owed due [] = 0 := rfl

@[simp] theorem owed_append (due : κ → Int) (left right : List κ) : owed due (left++right) = owed due left+owed due right := by
  simp only [owed,List.map_append,List.sum_append]

@[simp] theorem owed_cons (due : κ → Int) (head : κ) (rest : List κ) : owed due (head::rest) = due head+owed due rest := by
  simp only [owed,List.map_cons,List.sum_cons]

@[simp] theorem owed_toList (due : κ → Int) (next : Option κ) : owed due next.toList = (next.map due).getD 0 := by
  cases next with
  | none => rfl
  | some handler => simp only [Option.toList_some,owed_cons,owed_nil,add_zero,Option.map_some,Option.getD_some]

theorem Balances.run {shared : σ → Int} {due : κ → Int} {start last : Service σ κ} {events : List (Event ω κ τ)}
    (balances : Balances enter resume allow shared due)
    (path : Runs (Guarded (Interleaves enter resume) (Allowed allow)) start events last) :
    shared last.shared+owed due last.waiting = shared start.shared+owed due start.waiting := by
  induction path with
  | done => rfl
  | more acts _ ih =>
    obtain ⟨step,allowed⟩ := acts
    rw [ih]
    cases step with
    | @call s waiting request =>
      have same := balances.entered s request allowed
      simp only [owed_append,owed_toList]
      omega
    | @resume s earlier handler later answer =>
      have same := balances.resumed s handler answer allowed
      simp only [owed_append,owed_toList,owed_cons]
      omega

-- What is still open has a waiting handler that will settle it.
structure Owns (enter : ω → σ → σ × Option κ) (resume : τ → κ → σ → σ × Option κ) (allow : σ → Event ω κ τ → Prop)
    (isOpen : σ → δ → Prop) (owner : κ → δ → Prop) : Prop where
  entered : ∀ s request d, allow s (.call request) → isOpen (enter request s).1 d →
    isOpen s d ∨ ∃ next ∈ (enter request s).2, owner next d
  resumed : ∀ s handler answer d, allow s (.resume handler answer) → isOpen (resume answer handler s).1 d →
    isOpen s d ∧ ¬ owner handler d ∨ ∃ next ∈ (resume answer handler s).2, owner next d

def Owned (isOpen : σ → δ → Prop) (owner : κ → δ → Prop) (service : Service σ κ) : Prop :=
  ∀ d, isOpen service.shared d → ∃ handler ∈ service.waiting, owner handler d

theorem Owns.step {isOpen : σ → δ → Prop} {owner : κ → δ → Prop} {before after : Service σ κ} {event : Event ω κ τ}
    (owns : Owns enter resume allow isOpen owner)
    (acts : Guarded (Interleaves enter resume) (Allowed allow) before event after) (holds : Owned isOpen owner before) :
    Owned isOpen owner after := by
  obtain ⟨step,allowed⟩ := acts
  intro d still
  cases step with
  | @call s waiting request =>
    rcases owns.entered s request d allowed still with before | ⟨next,fresh,mine⟩
    · obtain ⟨handler,mem,mine⟩ := holds d before
      exact ⟨handler,List.mem_append_right _ mem,mine⟩
    · exact ⟨next,List.mem_append_left _ (Option.mem_toList.mpr fresh),mine⟩
  | @resume s earlier handler later answer =>
    rcases owns.resumed s handler answer d allowed still with ⟨before,other⟩ | ⟨next,fresh,mine⟩
    · obtain ⟨holder,mem,mine⟩ := holds d before
      refine ⟨holder,?_,mine⟩
      rcases List.mem_append.mp mem with front | back
      · exact List.mem_append_left _ (List.mem_append_left _ front)
      · rcases List.mem_cons.mp back with rfl | rest
        · exact absurd mine other
        · exact List.mem_append_right _ rest
    · exact ⟨next,List.mem_append_left _ (List.mem_append_right _ (Option.mem_toList.mpr fresh)),mine⟩

theorem Owns.run {isOpen : σ → δ → Prop} {owner : κ → δ → Prop} {start last : Service σ κ} {events : List (Event ω κ τ)}
    (owns : Owns enter resume allow isOpen owner)
    (path : Runs (Guarded (Interleaves enter resume) (Allowed allow)) start events last) (holds : Owned isOpen owner start) :
    Owned isOpen owner last :=
  Runs.invariant (fun _ _ _ holds acts => owns.step acts holds) path holds

-- A schedule: which request comes next, or which of the waiting handlers goes on.
inductive Choice (ω τ : Type) where
  | call (request : ω)
  | resume (index : Nat) (answer : τ)

def choose (enter : ω → σ → σ × Option κ) (resume : τ → κ → σ → σ × Option κ) (service : Service σ κ) :
    Choice ω τ → Option (Event ω κ τ × Service σ κ)
  | .call request =>
    let (shared,next) := enter request service.shared
    some (.call request,⟨shared,next.toList++service.waiting⟩)
  | .resume index answer => (service.waiting[index]?).map (fun handler =>
    let (shared,next) := resume answer handler service.shared
    (.resume handler answer,⟨shared,service.waiting.take index++next.toList++service.waiting.drop (index+1)⟩))

theorem choose_interleaves {before after : Service σ κ} {choice : Choice ω τ} {event : Event ω κ τ}
    (chosen : choose enter resume before choice = some (event,after)) : Interleaves enter resume before event after := by
  obtain ⟨shared,waiting⟩ := before
  cases choice with
  | call request =>
    cases chosen
    exact .call
  | resume index answer =>
    obtain ⟨handler,there,same⟩ := Option.map_eq_some_iff.mp chosen
    cases same
    obtain ⟨short,rfl⟩ := List.getElem?_eq_some_iff.mp there
    have split : waiting = waiting.take index++waiting[index]::waiting.drop (index+1) := by
      rw [← List.drop_eq_getElem_cons,List.take_append_drop]
    have step : Interleaves enter resume ⟨shared,waiting.take index++waiting[index]::waiting.drop (index+1)⟩
      (.resume waiting[index] answer) _ := .resume
    rw [← split] at step
    exact step

-- The events of a schedule whose steps all pass the check.
def play (enter : ω → σ → σ × Option κ) (resume : τ → κ → σ → σ × Option κ) (check : σ → Event ω κ τ → Bool) :
    List (Choice ω τ) → Service σ κ → Option (List (Event ω κ τ) × Service σ κ)
  | [],service => some ([],service)
  | choice::choices,service => do
    let (event,next) ← choose enter resume service choice
    if check service.shared event then
      let (events,last) ← play enter resume check choices next
      return (event::events,last)
    else none

theorem play_runs {choices : List (Choice ω τ)} {start last : Service σ κ} {events : List (Event ω κ τ)}
    {check : σ → Event ω κ τ → Bool} (passes : ∀ s event, check s event = true → allow s event)
    (played : play enter resume check choices start = some (events,last)) :
    Runs (Guarded (Interleaves enter resume) (Allowed allow)) start events last := by
  induction choices generalizing start events with
  | nil =>
    cases played
    exact .done
  | cons choice choices ih =>
    obtain ⟨⟨event,next⟩,chosen,rest⟩ := Option.bind_eq_some_iff.mp played
    dsimp only at rest
    split at rest
    · obtain ⟨⟨later,final⟩,tail,same⟩ := Option.bind_eq_some_iff.mp rest
      cases same
      exact .more ⟨choose_interleaves chosen,passes _ _ ‹_›⟩ (ih tail)
    · cases rest

theorem play_reaches (check : σ → Event ω κ τ → Bool) (passes : ∀ s event, check s event = true → allow s event)
    (choices : List (Choice ω τ)) (start : Service σ κ) (reached : Service σ κ → Prop) [DecidablePred reached]
    (played : (play enter resume check choices start).any (fun result => decide (reached result.2)) = true) :
    ∃ events last, Runs (Guarded (Interleaves enter resume) (Allowed allow)) start events last ∧ reached last := by
  cases same : play enter resume check choices start with
  | none =>
    rw [same] at played
    cases played
  | some result =>
    obtain ⟨events,last⟩ := result
    rw [same] at played
    exact ⟨events,last,play_runs passes same,of_decide_eq_true played⟩

-- Any schedule is a run.
theorem play_unguarded (choices : List (Choice ω τ)) (start : Service σ κ) (reached : Service σ κ → Prop) [DecidablePred reached]
    (played : (play enter resume (fun _ _ => true) choices start).any (fun result => decide (reached result.2)) = true) :
    ∃ events last, Runs (Interleaves enter resume) start events last ∧ reached last := by
  obtain ⟨events,last,path,there⟩ := play_reaches (fun _ _ => true) (fun _ _ _ => trivial) choices start reached played
  exact ⟨events,last,path.unguarded,there⟩

instance {working : κ → Bool} (service : Service σ κ) :
    (event : Event ω κ τ) → Decidable (BeginsAlone enter resume working service event)
  | .call _ => inferInstanceAs (Decidable (_ → _))
  | .resume _ _ => inferInstanceAs (Decidable (_ → _ → _))

instance [DecidableEq ι] {items : κ → List ι} (service : Service σ κ) : (event : Event ω κ τ) → Decidable (BeginsFree enter items service event)
  | .call request =>
    match same : (enter request service.shared).2 with
    | none => isTrue (fun _ begins => absurd (same.symm.trans begins) nofun)
    | some next => decidable_of_iff (∀ other ∈ service.waiting, ∀ item ∈ items next, item ∉ items other)
        ⟨fun free _ begins => Option.some.inj (same.symm.trans begins) ▸ free,fun free => free next same⟩
  | .resume _ _ => isTrue trivial

-- A schedule whose steps are checked against the whole service.
def playIn (enter : ω → σ → σ × Option κ) (resume : τ → κ → σ → σ × Option κ) (check : Service σ κ → Event ω κ τ → Bool) :
    List (Choice ω τ) → Service σ κ → Option (Service σ κ)
  | [],service => some service
  | choice::choices,service => do
    let (event,next) ← choose enter resume service choice
    if check service event then playIn enter resume check choices next else none

theorem playIn_runs {allow : Service σ κ → Event ω κ τ → Prop} {choices : List (Choice ω τ)} {start last : Service σ κ}
    {check : Service σ κ → Event ω κ τ → Bool} (passes : ∀ service event, check service event = true → allow service event)
    (played : playIn enter resume check choices start = some last) : ∃ events, Runs (Guarded (Interleaves enter resume) allow) start events last := by
  induction choices generalizing start with
  | nil =>
    cases played
    exact ⟨[],.done⟩
  | cons choice choices ih =>
    obtain ⟨⟨event,next⟩,chosen,rest⟩ := Option.bind_eq_some_iff.mp played
    dsimp only at rest
    split at rest
    next checked =>
      obtain ⟨events,path⟩ := ih rest
      exact ⟨event::events,.more ⟨choose_interleaves chosen,passes _ _ checked⟩ path⟩
    · cases rest

theorem playIn_reaches (allow : Service σ κ → Event ω κ τ → Prop) [∀ service event, Decidable (allow service event)]
    (choices : List (Choice ω τ)) (start : Service σ κ) (reached : Service σ κ → Prop) [DecidablePred reached]
    (played : (playIn enter resume (fun service event => decide (allow service event)) choices start).any (fun last => decide (reached last)) = true) :
    ∃ events last, Runs (Guarded (Interleaves enter resume) allow) start events last ∧ reached last := by
  obtain ⟨last,same,there⟩ := (Option.any_eq_true _ _).mp played
  obtain ⟨events,path⟩ := playIn_runs (fun service event passes => of_decide_eq_true passes) same
  exact ⟨events,last,path,of_decide_eq_true there⟩

end Interleaving
end OriginGame
