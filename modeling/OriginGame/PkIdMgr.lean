import Mathlib.Algebra.Order.Ring.Int
import Mathlib.Data.List.Infix
import OriginGame.Runs

namespace OriginGame.PkIdMgr

-- The counter of the role ids: pkidkey in redis and its row in c_pkid. A savePKId that
-- has read the one waits to write the other, and an Init the other way round.
structure State where
  pkidkey : Option Int
  pkid : Option Int
  saving : List (Option Int)
  restoring : List Int
  -- what newPkId has returned
  issued : List Int
  deriving DecidableEq

inductive Label where
  | newPkId
  | saveGet | saveSet (index : Nat)
  | initGet | initSet (index : Nat)
  -- Whether redis loses its keys; RedisAgent flushes them when it starts.
  | crash (lost : Bool)
  deriving DecidableEq

-- `incr` of a missing key starts from zero.
def incr (pkidkey : Option Int) : Int := pkidkey.getD 0+1

def newPkId (s : State) : State := {s with pkidkey:=some (incr s.pkidkey), issued:=incr s.pkidkey::s.issued}

-- Set without a value changes no field, and Update without a row returns.
def savePKId (value pkid : Option Int) : Option Int :=
  match value,pkid with
  | some value,some _ => some value
  | _,pkid => pkid

variable (defaultPid : Int)

def next (s : State) : Label → Option State
  | .newPkId => some (newPkId s)
  | .saveGet => some {s with saving:=s.pkidkey::s.saving}
  | .saveSet index => (s.saving[index]?).map (fun value => {s with pkid:=savePKId value s.pkid, saving:=s.saving.eraseIdx index})
  -- initPkId adds the row with the default when there is none.
  | .initGet => some {s with pkid:=some (s.pkid.getD defaultPid), restoring:=s.pkid.getD defaultPid::s.restoring}
  | .initSet index => (s.restoring[index]?).map (fun pkid => {s with pkidkey:=some pkid, restoring:=s.restoring.eraseIdx index})
  | .crash lost => some {s with pkidkey:=if lost then none else s.pkidkey, saving:=[], restoring:=[]}

def Steps (s : State) (label : Label) (t : State) : Prop := next defaultPid s label = some t

-- No id is above the row that an Init puts back, and none was issued when the counter is gone.
def Restores (s : State) (label : Label) : Prop :=
  match label with
  | .newPkId => s.pkidkey.isSome ∨ s.issued = []
  | .initSet index => ∀ pkid ∈ s.restoring[index]?, ∀ id ∈ s.issued, id ≤ pkid
  | _ => True

structure Fresh (s : State) : Prop where
  once : s.issued.Nodup
  below : ∀ counter ∈ s.pkidkey, ∀ id ∈ s.issued, id ≤ counter

section steps
variable {defaultPid} {s t : State}

theorem newPkId_fresh (fresh : Fresh s) (restores : s.pkidkey.isSome ∨ s.issued = []) : Fresh (newPkId s) := by
  have above : ∀ id ∈ s.issued, id < incr s.pkidkey := by
    intro id known
    rcases restores with there | none
    · obtain ⟨counter,there⟩ := Option.isSome_iff_exists.mp there
      have bound := fresh.below counter there id known
      rw [incr,there,Option.getD_some]
      omega
    · rw [none] at known
      cases known
  refine ⟨List.nodup_cons.mpr ⟨?_,fresh.once⟩,?_⟩
  · intro again
    exact absurd (above _ again) (lt_irrefl _)
  · intro counter there id known
    cases there
    rcases List.mem_cons.mp known with rfl | old
    · exact le_refl _
    · exact (above id old).le

theorem next_fresh {label : Label} (fresh : Fresh s) (restores : Restores s label) (step : Steps defaultPid s label t) : Fresh t := by
  cases label with
  | newPkId =>
    cases step
    exact newPkId_fresh fresh restores
  | saveGet =>
    cases step
    exact ⟨fresh.once,fresh.below⟩
  | saveSet index =>
    obtain ⟨value,_,rfl⟩ := Option.map_eq_some_iff.mp step
    exact ⟨fresh.once,fresh.below⟩
  | initGet =>
    cases step
    exact ⟨fresh.once,fresh.below⟩
  | initSet index =>
    obtain ⟨pkid,there,rfl⟩ := Option.map_eq_some_iff.mp step
    refine ⟨fresh.once,?_⟩
    intro counter set
    cases set
    exact restores pkid there
  | crash lost =>
    cases step
    refine ⟨fresh.once,?_⟩
    intro counter there
    cases lost with
    | true => cases there
    | false => exact fresh.below counter there

-- One id comes after the other, so an id above the counter comes again.
theorem newPkIds_again (n : Nat) {counter : Int} (there : s.pkidkey = some counter) :
    ∃ t, Runs (Steps defaultPid) s (List.replicate n .newPkId) t ∧ s.issued <:+ t.issued ∧
      ∀ id ∈ s.issued, counter < id → id ≤ counter+n → ¬t.issued.Nodup := by
  induction n generalizing s counter with
  | zero =>
    refine ⟨s,.done,List.suffix_rfl,?_⟩
    intro id _ above below
    omega
  | succ n ih =>
    have value : incr s.pkidkey = counter+1 := by
      rw [there]
      rfl
    obtain ⟨t,path,kept,again⟩ := ih (show (newPkId s).pkidkey = some (incr s.pkidkey) from rfl)
    refine ⟨t,.more rfl path,(List.suffix_cons _ _).trans kept,?_⟩
    intro id known above below
    rcases (show incr s.pkidkey ≤ id by omega).eq_or_lt with same | later
    · intro once
      exact (List.nodup_cons.mp (once.sublist kept.sublist)).1 (same ▸ known)
    · refine again id (List.mem_cons_of_mem _ known) later ?_
      push_cast at below
      omega

end steps

theorem ids_unique {s t : State} {labels : List Label} (path : Runs (Guarded (Steps defaultPid) Restores) s labels t) (start : s.issued = []) :
    t.issued.Nodup := by
  have fresh : Fresh t := by
    refine Runs.invariant ?_ path ⟨?_,?_⟩
    · rintro before label after fresh ⟨step,restores⟩
      exact next_fresh fresh restores step
    · rw [start]
      exact List.nodup_nil
    · intro counter _ id known
      rw [start] at known
      cases known
  exact fresh.once

-- A saved counter that was lost goes on where it was.
def saved : List Label :=
  [.initGet,.initSet 0,.newPkId,.newPkId,.saveGet,.saveSet 0,.crash true,.initGet,.initSet 0,.newPkId]

def blank : State := ⟨none,none,[],[],[]⟩

def run (labels : List Label) (s : State) : State := labels.foldl (fun s label => (next 10000000 s label).getD s) s

theorem saved_unique : (run saved blank).issued = [10000003,10000002,10000001] ∧ (run saved blank).issued.Nodup := by
  have path : Runs (Guarded (Steps 10000000) Restores) blank saved (run saved blank) := by
    refine .more ⟨rfl,trivial⟩ (.more ⟨rfl,?_⟩ (.more ⟨rfl,?_⟩ (.more ⟨rfl,?_⟩ (.more ⟨rfl,trivial⟩ (.more ⟨rfl,trivial⟩
      (.more ⟨rfl,trivial⟩ (.more ⟨rfl,trivial⟩ (.more ⟨rfl,?_⟩ (.more ⟨rfl,?_⟩ .done)))))))))
    · intro pkid _ id known
      cases known
    · exact .inl rfl
    · exact .inl rfl
    · rintro pkid there
      cases there
      decide
    · exact .inl rfl
  exact ⟨rfl,ids_unique 10000000 path rfl⟩

-- The crash falls between two saves, and redis even keeps its counter.
def unsaved : List Label := [.initGet,.initSet 0,.newPkId,.crash false,.initGet,.initSet 0,.newPkId]

theorem unsaved_again : ¬∀ (defaultPid : Int) (s t : State) (labels : List Label), Runs (Steps defaultPid) s labels t → s.issued = [] →
    t.issued.Nodup := by
  intro always
  have path : Runs (Steps 10000000) blank unsaved (run unsaved blank) :=
    .more rfl (.more rfl (.more rfl (.more rfl (.more rfl (.more rfl (.more rfl .done))))))
  have once := always 10000000 blank _ unsaved path rfl
  revert once
  decide

end OriginGame.PkIdMgr
