import Mathlib.Data.Int.Range
import Mathlib.Tactic.Common

namespace OriginGame.MultiSnax

-- A multi service of a node: multisnaxnum services of one name, of which a caller takes one.
structure MultiService where
  multiSnaxNum : Nat
  positive : 0 < multiSnaxNum

-- getOrNew starts them in turn, and each registers at the cluster under its number.
def getOrNew (s : MultiService) : List Nat := List.range' 1 s.multiSnaxNum

-- A Lua array read at any integer.
def slot (multiSnaxs : List Nat) (key : Int) : Option Nat := if 1 ≤ key then multiSnaxs[(key-1).toNat]? else none

-- MSM on the node itself: the slot, or __index for a slot that is not there.
def msm (s : MultiService) (mkey : Int) : Option Nat :=
  (slot (getOrNew s) mkey).or (slot (getOrNew s) (mkey%(getOrNew s).length+1))

-- The service that answers to the name with this number.
def getRemoteSvr (s : MultiService) (number : Int) : Option Nat := (getOrNew s).find? (fun (index : Nat) => (index : Int) = number)

def multiIdx (s : MultiService) (index : Int) : Int :=
  if (s.multiSnaxNum : Int) < index ∨ index < 1 then index%s.multiSnaxNum+1 else index

-- Common.rpcMultiCall, on the node itself or from another one.
def rpcMultiCall (s : MultiService) (selfNode : Bool) (index : Int) : Option Nat :=
  if selfNode then msm s index else getRemoteSvr s (multiIdx s index)

def rpcMultiSend (s : MultiService) (selfNode : Bool) (index : Int) : Option Nat :=
  if selfNode then msm s index else getRemoteSvr s (multiIdx s index)

-- Where EntityImpl sends Load for a remote node.
def remoteLoad (s : MultiService) (pid : Int) : Option Nat := getRemoteSvr s (pid%s.multiSnaxNum+1)

def loadRole (s : MultiService) (pid : Int) : Option Nat := remoteLoad s pid

def loadUser (s : MultiService) (pid : Int) : Option Nat := remoteLoad s pid

def loadCommon (s : MultiService) (pid : Int) : Option Nat := remoteLoad s pid

section addresses
variable (s : MultiService) {number pid : Int}

theorem wrapped_range (pid : Int) : 1 ≤ pid%s.multiSnaxNum+1 ∧ pid%s.multiSnaxNum+1 ≤ s.multiSnaxNum := by
  have positive : (0 : Int) < s.multiSnaxNum := Int.natCast_pos.mpr s.positive
  have low := Int.emod_nonneg pid positive.ne'
  have high := Int.emod_lt_of_pos pid positive
  omega

theorem multiIdx_range (pid : Int) : 1 ≤ multiIdx s pid ∧ multiIdx s pid ≤ s.multiSnaxNum := by
  unfold multiIdx
  split
  · exact wrapped_range s pid
  · omega

-- Every number from one on names one service, and it is the one in that slot.
theorem getRemoteSvr_number (low : 1 ≤ number) (high : number ≤ s.multiSnaxNum) : getRemoteSvr s number = some number.toNat := by
  have named : ((number.toNat : Nat) : Int) = number := Int.toNat_of_nonneg (by omega)
  rw [getRemoteSvr,List.find?_eq_some_iff_getElem]
  refine ⟨decide_eq_true named,number.toNat-1,?_,?_,?_⟩
  · rw [getOrNew,List.length_range']
    omega
  · simp only [getOrNew,List.getElem_range']
    omega
  · intro j below
    simp only [getOrNew,List.getElem_range',Bool.not_eq_true',decide_eq_false_iff_not]
    omega

theorem slot_number (low : 1 ≤ number) (high : number ≤ s.multiSnaxNum) : slot (getOrNew s) number = some number.toNat := by
  rw [slot,if_pos low,getOrNew,List.getElem?_range' (by omega)]
  congr 1
  omega

theorem slot_none (outside : number < 1 ∨ (s.multiSnaxNum : Int) < number) : slot (getOrNew s) number = none := by
  unfold slot
  split
  · rw [List.getElem?_eq_none]
    rw [getOrNew,List.length_range']
    omega
  · rfl

-- On the node and from outside a caller reaches the same service.
theorem msm_multiIdx (pid : Int) : msm s pid = some (multiIdx s pid).toNat := by
  obtain ⟨low,high⟩ := wrapped_range s pid
  unfold msm multiIdx
  split
  · rw [slot_none s (by omega),Option.none_or,getOrNew,List.length_range']
    exact slot_number s low high
  · rw [slot_number s (by omega) (by omega),Option.some_or]

theorem getRemoteSvr_multiIdx (pid : Int) : getRemoteSvr s (multiIdx s pid) = some (multiIdx s pid).toNat := by
  obtain ⟨low,high⟩ := multiIdx_range s pid
  exact getRemoteSvr_number s low high

theorem rpcMultiCall_multiIdx (selfNode : Bool) (pid : Int) : rpcMultiCall s selfNode pid = some (multiIdx s pid).toNat := by
  cases selfNode with
  | true => exact msm_multiIdx s pid
  | false => exact getRemoteSvr_multiIdx s pid

theorem rpcMultiSend_multiIdx (selfNode : Bool) (pid : Int) : rpcMultiSend s selfNode pid = some (multiIdx s pid).toNat :=
  rpcMultiCall_multiIdx s selfNode pid

theorem remoteLoad_wrapped (pid : Int) : remoteLoad s pid = some (pid%s.multiSnaxNum+1).toNat := by
  obtain ⟨low,high⟩ := wrapped_range s pid
  exact getRemoteSvr_number s low high

-- A number that is itself a slot is one further at Load.
theorem wrapped_multiIdx (pid : Int) : pid%s.multiSnaxNum+1 = multiIdx s pid ↔ s.multiSnaxNum = 1 ∨ pid < 1 ∨ (s.multiSnaxNum : Int) < pid := by
  unfold multiIdx
  split
  · rename_i outside
    exact ⟨fun _ => .inr outside.symm,fun _ => rfl⟩
  · rename_i inside
    rw [not_or,not_lt,not_lt] at inside
    obtain ⟨high,low⟩ := inside
    rcases high.lt_or_eq with below | last
    · rw [Int.emod_eq_of_lt (by omega) below]
      omega
    · rw [last,Int.emod_self]
      omega

-- The instance that Load of an entity addresses.
inductive Loads (s : MultiService) (pid : Int) : Option Nat → Prop where
  | role : Loads s pid (loadRole s pid)
  | user : Loads s pid (loadUser s pid)
  | common : Loads s pid (loadCommon s pid)

theorem Loads.wrapped {svr : Option Nat} (loads : Loads s pid svr) : svr = some (pid%s.multiSnaxNum+1).toNat := by
  cases loads with
  | role => exact remoteLoad_wrapped s pid
  | user => exact remoteLoad_wrapped s pid
  | common => exact remoteLoad_wrapped s pid

end addresses

theorem load_agrees (s : MultiService) (pid : Int) :
    (∀ svr, Loads s pid svr → msm s pid = svr ∧ ∀ selfNode, rpcMultiCall s selfNode pid = svr ∧ rpcMultiSend s selfNode pid = svr) ↔
      s.multiSnaxNum = 1 ∨ pid < 1 ∨ (s.multiSnaxNum : Int) < pid := by
  rw [← wrapped_multiIdx s pid]
  obtain ⟨low,_⟩ := wrapped_range s pid
  obtain ⟨least,_⟩ := multiIdx_range s pid
  constructor
  · intro agree
    obtain ⟨same,_⟩ := agree _ .role
    rw [msm_multiIdx,loadRole,remoteLoad_wrapped,Option.some.injEq] at same
    omega
  · intro same svr loads
    rw [loads.wrapped,same]
    exact ⟨msm_multiIdx s pid,fun selfNode => ⟨rpcMultiCall_multiIdx s selfNode pid,rpcMultiSend_multiIdx s selfNode pid⟩⟩

def ten : MultiService := ⟨10,by decide⟩

-- The role 3 is loaded by the fourth of ten services and written to the third.
theorem third_apart : ¬∀ (s : MultiService) (pid : Int) (svr : Option Nat), Loads s pid svr →
    msm s pid = svr ∧ ∀ selfNode, rpcMultiCall s selfNode pid = svr ∧ rpcMultiSend s selfNode pid = svr := by
  intro always
  obtain ⟨same,_⟩ := always ten 3 _ .role
  revert same
  decide

end OriginGame.MultiSnax
