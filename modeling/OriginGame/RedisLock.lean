import Mathlib.Logic.Function.Basic
import OriginGame.Runs

namespace OriginGame.RedisLock

-- The key of a lock. Redis knows no owner: it says whose SETNX made the key.
structure Key (κ : Type) where
  owner : κ
  expires : Bool
  deriving DecidableEq

-- SETNX has answered one and EXPIRE is to come; tryLock has returned.
inductive Phase where
  | idle | acquired | held
  deriving DecidableEq

structure Client where
  phase : Phase
  -- the key of its tryLock has run out
  expired : Bool
  stopped : Bool
  deriving DecidableEq

structure State (κ : Type) where
  key : Option (Key κ)
  client : κ → Client

inductive Label (κ : Type) where
  | setnx (c : κ) | expire (c : κ)
  | del (c : κ)
  -- The time of the key is over; a client goes away for good.
  | expiry | stop (c : κ)

variable {κ : Type}

section commands
variable [DecidableEq κ]

def State.set (s : State κ) (c : κ) (client : Client) : State κ := {s with client:=Function.update s.client c client}

def next (s : State κ) : Label κ → Option (State κ)
  -- A key that is there answers zero, and tryLock sleeps.
  | .setnx c =>
    if (s.client c).phase = .idle ∧ (s.client c).stopped = false then
      match s.key with
      | none => some {s.set c ⟨.acquired,false,false⟩ with key:=some ⟨c,false⟩}
      | some _ => some s
    else none
  | .expire c =>
    if (s.client c).phase = .acquired ∧ (s.client c).stopped = false then
      some {s.set c {s.client c with phase:=.held} with key:=s.key.map (fun key => {key with expires:=true})}
    else none
  -- unLock deletes the key, whosever it is.
  | .del c =>
    if (s.client c).phase ≠ .acquired ∧ (s.client c).stopped = false then
      some {s.set c ⟨.idle,false,false⟩ with key:=none}
    else none
  | .expiry =>
    match s.key with
    | some ⟨owner,true⟩ => some {s.set owner {s.client owner with expired:=true} with key:=none}
    | _ => none
  | .stop c => some (s.set c {s.client c with stopped:=true})

def Steps (s : State κ) (label : Label κ) (t : State κ) : Prop := next s label = some t

end commands

-- Between a successful tryLock and its unLock, and in time.
def Holds (s : State κ) (c : κ) : Prop := (s.client c).phase = .held ∧ (s.client c).expired = false

def Ready (s : State κ) (c : κ) : Prop := (s.client c).phase = .idle ∧ (s.client c).stopped = false

-- A client unlocks what it holds in time, and does not stop between its two commands.
def InTime (s : State κ) (label : Label κ) : Prop :=
  match label with
  | .del c => Holds s c
  | .stop c => (s.client c).phase ≠ .acquired
  | _ => True

-- The setter of a key without expiry sets it next.
def Expiring (s : State κ) : Prop := ∀ key ∈ s.key, key.expires = true ∨
  ((s.client key.owner).phase = .acquired ∧ (s.client key.owner).stopped = false)

-- Once the key of a client that is gone runs out, whoever waits gets it.
def Acquirable [DecidableEq κ] (s : State κ) : Prop := ∀ key ∈ s.key, (s.client key.owner).stopped = true → ∀ c, Ready s c →
  ∃ t u, Steps s .expiry t ∧ Steps t (.setnx c) u ∧ (u.client c).phase = .acquired

-- What a client knows of the key.
def Fits (key : Option (Key κ)) (c : κ) (client : Client) : Prop :=
  match client.phase with
  | .idle => True
  | .acquired => key = some ⟨c,false⟩ ∧ client.stopped = false
  | .held => client.expired = false → key = some ⟨c,true⟩

structure Owned (s : State κ) : Prop where
  fits : ∀ c, Fits s.key c (s.client c)
  unset : ∀ key ∈ s.key, key.expires = false → (s.client key.owner).phase = .acquired

section clients
variable {s t : State κ} {c d : κ} {key : Option (Key κ)} {client : Client}

theorem Fits.idle (phase : client.phase = .idle) : Fits key c client := by
  rw [Fits,phase]
  trivial

theorem Fits.acquired (fits : Fits key c client) (phase : client.phase = .acquired) : key = some ⟨c,false⟩ ∧ client.stopped = false := by
  rw [Fits,phase] at fits
  exact fits

theorem Fits.held (fits : Fits key c client) (phase : client.phase = .held) (intime : client.expired = false) : key = some ⟨c,true⟩ := by
  rw [Fits,phase] at fits
  exact fits intime

-- Whoever relies on the key is its owner.
theorem Fits.another (fits : Fits (some ⟨c,expires⟩) d client) (other : d ≠ c) (key : Option (Key κ)) : Fits key d client := by
  cases phase : client.phase with
  | idle => exact Fits.idle phase
  | acquired =>
    have mine := (fits.acquired phase).1
    cases mine
    exact absurd rfl other
  | held =>
    rw [Fits,phase]
    intro intime
    have mine := fits.held phase intime
    cases mine
    exact absurd rfl other

theorem Fits.free (fits : Fits none d client) (key : Option (Key κ)) : Fits key d client := by
  cases phase : client.phase with
  | idle => exact Fits.idle phase
  | acquired =>
    cases (fits.acquired phase).1
  | held =>
    rw [Fits,phase]
    intro intime
    cases fits.held phase intime

-- One client and the key change.
theorem Owned.set [DecidableEq κ] (mine : Fits key c client) (others : ∀ d, d ≠ c → Fits key d (s.client d))
    (unset : ∀ k ∈ key, k.expires = false → (Function.update s.client c client k.owner).phase = .acquired) :
    Owned {s.set c client with key:=key} := by
  refine ⟨?_,unset⟩
  intro d
  change Fits key d (Function.update s.client c client d)
  by_cases same : d = c
  · rw [same,Function.update_self]
    exact mine
  · rw [Function.update_of_ne same]
    exact others d same

end clients

section steps
variable [DecidableEq κ] {s t : State κ} {c : κ}

theorem Owned.setnx (owned : Owned s) (step : Steps s (.setnx c) t) : Owned t := by
  simp only [Steps,next] at step
  split at step
  · cases there : s.key with
    | some key =>
      rw [there] at step
      cases step
      exact owned
    | none =>
      rw [there] at step
      cases step
      refine Owned.set ⟨rfl,rfl⟩ ?_ ?_
      · intro d _
        exact (there ▸ owned.fits d).free _
      · intro key set _
        cases set
        rw [Function.update_self]
  · cases step

theorem Owned.expire (owned : Owned s) (step : Steps s (.expire c) t) : Owned t := by
  simp only [Steps,next] at step
  split at step
  · rename_i ready
    have mine := ((owned.fits c).acquired ready.1).1
    cases step
    refine Owned.set ?_ ?_ ?_
    · rw [mine]
      exact fun _ => rfl
    · intro d other
      exact (mine ▸ owned.fits d).another other _
    · intro key there missing
      obtain ⟨old,_,rfl⟩ := Option.map_eq_some_iff.mp there
      cases missing
  · cases step

theorem Owned.del (owned : Owned s) (holds : Holds s c) (step : Steps s (.del c) t) : Owned t := by
  have mine := (owned.fits c).held holds.1 holds.2
  simp only [Steps,next] at step
  split at step
  · cases step
    refine Owned.set (Fits.idle rfl) ?_ ?_
    · intro d other
      exact (mine ▸ owned.fits d).another other _
    · intro key there
      cases there
  · cases step

theorem Owned.expiry (owned : Owned s) (step : Steps s .expiry t) : Owned t := by
  simp only [Steps,next] at step
  split at step
  · rename_i owner there
    cases step
    refine Owned.set ?_ ?_ ?_
    · cases phase : (s.client owner).phase with
      | idle => exact Fits.idle rfl
      | acquired =>
        have mine := ((owned.fits owner).acquired phase).1
        rw [there] at mine
        cases mine
      | held => exact fun gone => nomatch gone
    · intro d other
      exact (there ▸ owned.fits d).another other _
    · intro key gone
      cases gone
  · cases step

theorem Owned.stop (owned : Owned s) (away : (s.client c).phase ≠ .acquired) (step : Steps s (.stop c) t) : Owned t := by
  cases step
  refine Owned.set ?_ (fun d _ => owned.fits d) ?_
  · cases phase : (s.client c).phase with
    | idle => exact Fits.idle phase
    | acquired => exact absurd phase away
    | held =>
      rw [Fits,phase]
      exact (owned.fits c).held phase
  · intro key there missing
    have acquired := owned.unset key there missing
    rw [Function.update_of_ne]
    · exact acquired
    · rintro rfl
      exact away acquired

theorem Owned.next {label : Label κ} (owned : Owned s) (intime : InTime s label) (step : Steps s label t) : Owned t := by
  cases label with
  | setnx c => exact owned.setnx step
  | expire c => exact owned.expire step
  | del c => exact owned.del intime step
  | expiry => exact owned.expiry step
  | stop c => exact owned.stop intime step

end steps

section shared
variable {s : State κ} {c : κ}

theorem Owned.exclusive (owned : Owned s) {d : κ} (holds : Holds s c) (also : Holds s d) : c = d := by
  have mine := (owned.fits c).held holds.1 holds.2
  rw [(owned.fits d).held also.1 also.2] at mine
  cases mine
  rfl

theorem Owned.expiring (owned : Owned s) : Expiring s := by
  intro key there
  cases expires : key.expires with
  | true => exact .inl rfl
  | false =>
    have acquired := owned.unset key there expires
    exact .inr ⟨acquired,((owned.fits key.owner).acquired acquired).2⟩

theorem Ready.acquires [DecidableEq κ] (ready : Ready s c) (free : s.key = none) : ∃ t, Steps s (.setnx c) t ∧ (t.client c).phase = .acquired := by
  refine ⟨{s.set c ⟨.acquired,false,false⟩ with key:=some ⟨c,false⟩},?_,congrArg Client.phase (Function.update_self c _ s.client)⟩
  simp only [Steps,next,ready.1,ready.2,and_self,if_true,free]

theorem Expiring.acquirable [DecidableEq κ] (expiring : Expiring s) : Acquirable s := by
  rintro ⟨owner,expires⟩ there gone c ready
  rcases expiring _ there with set | ⟨_,running⟩
  · cases set
    have other : c ≠ owner := by
      rintro rfl
      rw [ready.2] at gone
      cases gone
    have step : Steps s .expiry {s.set owner {s.client owner with expired:=true} with key:=none} := by
      rw [Steps,next,Option.mem_def.mp there]
    have still : Ready {s.set owner {s.client owner with expired:=true} with key:=none} c := by
      change (Function.update s.client owner _ c).phase = _ ∧ (Function.update s.client owner _ c).stopped = _
      rw [Function.update_of_ne other]
      exact ready
    obtain ⟨u,also,acquired⟩ := still.acquires rfl
    exact ⟨_,u,step,also,acquired⟩
  · rw [running] at gone
    cases gone

end shared

-- Nobody has come yet.
structure Free (s : State κ) : Prop where
  key : s.key = none
  idle : ∀ c, (s.client c).phase = .idle

theorem Free.owned {s : State κ} (free : Free s) : Owned s := by
  refine ⟨fun c => Fits.idle (free.idle c),?_⟩
  intro key there
  rw [free.key] at there
  cases there

theorem lock_exclusive [DecidableEq κ] {s t : State κ} {labels : List (Label κ)} (path : Runs (Guarded Steps InTime) s labels t) (free : Free s) :
    (∀ c d, Holds t c → Holds t d → c = d) ∧ Expiring t ∧ Acquirable t := by
  have owned : Owned t := by
    refine Runs.invariant ?_ path free.owned
    rintro before label after owned ⟨step,intime⟩
    exact owned.next intime step
  exact ⟨fun c d holds also => owned.exclusive holds also,owned.expiring,owned.expiring.acquirable⟩

def unlocked : State Nat := ⟨none,fun _ => ⟨.idle,false,false⟩⟩

theorem unlocked_free : Free unlocked := ⟨rfl,fun _ => rfl⟩

def run (labels : List (Label Nat)) : State Nat := labels.foldl (fun s label => (next s label).getD s) unlocked

-- One client after the other, and the second goes away with the lock.
def inTurn : List (Label Nat) := [.setnx 0,.expire 0,.setnx 1,.del 0,.setnx 1,.expire 1,.stop 1]

theorem inTurn_exclusive : Holds (run inTurn) 1 ∧ (∀ c d, Holds (run inTurn) c → Holds (run inTurn) d → c = d) ∧
    Expiring (run inTurn) ∧ Acquirable (run inTurn) := by
  have path : Runs (Guarded Steps InTime) unlocked inTurn (run inTurn) := by
    refine .more ⟨rfl,trivial⟩ (.more ⟨rfl,trivial⟩ (.more ⟨rfl,trivial⟩ (.more ⟨rfl,?_⟩ (.more ⟨rfl,trivial⟩ (.more ⟨rfl,trivial⟩
      (.more ⟨rfl,?_⟩ .done))))))
    · exact ⟨rfl,rfl⟩
    · intro acquired
      cases acquired
  exact ⟨⟨rfl,rfl⟩,lock_exclusive path unlocked_free⟩

-- The lock of client 0 runs out, and its late unLock deletes the key of client 1.
def late : List (Label Nat) := [.setnx 0,.expire 0,.expiry,.setnx 1,.expire 1,.del 0,.setnx 2,.expire 2]

-- Client 0 stops between its two commands.
def cut : List (Label Nat) := [.setnx 0,.stop 0]

theorem late_shared : (¬∀ (labels : List (Label Nat)) (t : State Nat), Runs Steps unlocked labels t → ∀ c d, Holds t c → Holds t d → c = d) ∧
    ¬∀ (labels : List (Label Nat)) (t : State Nat), Runs Steps unlocked labels t → Expiring t := by
  refine ⟨?_,?_⟩
  · intro always
    have path : Runs Steps unlocked late (run late) :=
      .more rfl (.more rfl (.more rfl (.more rfl (.more rfl (.more rfl (.more rfl (.more rfl .done)))))))
    exact absurd (always late _ path 1 2 ⟨rfl,rfl⟩ ⟨rfl,rfl⟩) (by decide)
  · intro always
    have path : Runs Steps unlocked cut (run cut) := .more rfl (.more rfl .done)
    rcases always cut _ path ⟨0,false⟩ rfl with expires | ⟨_,running⟩
    · cases expires
    · cases running

end OriginGame.RedisLock
