import OriginGame.BattleCallback

namespace OriginGame.BattleCallback

-- What the tables say of one kind.
def Settling.at (s : Settling) (id : Nat) : Int × Int × Int := (count s.soldiers id,count s.tmpSoldierInfo id,count s.minorSoldiers id)

section kinds
variable {s : Settling} {soldierId : Nat} {hurtInfo : HurtInfo} {num : Int}

end kinds

-- A kind is settled by itself.
section beside
variable {s : Settling} {soldierId id : Nat} {hurtInfo : HurtInfo}

end beside

-- All kinds of a hurt table, with what was stored before.
def Settled (soldierHurt : Table Nat HurtInfo) (before after : Army) (sent : Table Nat Soldier) : Prop :=
  ∀ id hurtInfo, soldierHurt.lookup id = some hurtInfo → Settles hurtInfo (count before.soldiers id) (count after.soldiers id) (count sent id)
    (count after.minorSoldiers id-count before.minorSoldiers id)

def Counted (soldiers : Table Nat Soldier) : Prop := ∀ id, 0 ≤ count soldiers id

section armies
variable {order : Order Nat} {soldierHurt : Table Nat HurtInfo} {army : Army}

-- A loop that changes something counts it.
def Grows (s after : Settling) : Prop :=
  after = s ∨ s.hardHurtSum ≤ after.hardHurtSum ∧ s.minorSum ≤ after.minorSum ∧ s.hardHurtSum+s.minorSum < after.hardHurtSum+after.minorSum

theorem Grows.trans {s middle after : Settling} (first : Grows s middle) (second : Grows middle after) : Grows s after := by
  rcases first with rfl | ⟨_,_,_⟩
  · exact second
  · rcases second with rfl | ⟨_,_,_⟩
    · exact .inr ⟨‹_›,‹_›,‹_›⟩
    · exact .inr ⟨by omega,by omega,by omega⟩

-- What a dispatch makes of one army.
def Dispatched (soldierHurt : Table Nat HurtInfo) (key : Nat × Nat) (w after : World) : Prop :=
  ∀ army, w.armies.lookup key = some army → ∃ later sent, after.armies.lookup key = some later ∧ after.hospital.lookup key = some sent ∧
    Settled soldierHurt army later sent

variable {w : World} {key other : Nat × Nat}

theorem Dispatched.congr {before after later : World} (same : before.armies.lookup key = w.armies.lookup key)
    (result : (later.armies.lookup key,later.hospital.lookup key) = (after.armies.lookup key,after.hospital.lookup key))
    (dispatched : Dispatched soldierHurt key before after) : Dispatched soldierHurt key w later := by
  intro army found
  obtain ⟨army',sent,armies,hospital,settled⟩ := dispatched army (same.trans found)
  simp only [Prod.mk.injEq] at result
  exact ⟨army',sent,result.1.trans armies,result.2.trans hospital,settled⟩

end armies

section city
variable {order : Order Nat} {soldierHurt : Table Nat HurtInfo} {id : Nat} {hurtInfo : HurtInfo}

-- Numbers of one kind in the tables of a city.
def CityLoss.at (s : CityLoss) (id : Nat) : (Int × Int) × (Int × Int) × Int :=
  ((s.subSoldierInfo.amount (·.num) id,s.subSoldierInfo.amount (·.minor) id),
    (s.addSoldierInfo.amount (·.num) id,s.addSoldierInfo.amount (·.minor) id),count s.toHospitolSoldierInfo id)

variable {soldiers : Table Nat Hospital.SoldierInfo} {info : Hospital.AddSoldierInfo}

def stored (soldiers : Table Nat Hospital.SoldierInfo) (id : Nat) : Int × Int := (soldiers.amount (·.num) id,soldiers.amount (·.minor) id)

theorem subSoldierOf_other {row : Hospital.AddSoldier} {soldierId : Nat} (other : soldierId ≠ id) : stored (subSoldierOf soldiers soldierId row) id = stored soldiers id := by
  have apart : id ≠ soldierId := other.symm
  have beside (gone : Prop) [Decidable gone] (kind : Hospital.SoldierInfo) :
      stored (if gone then soldiers.erase soldierId else soldiers.insert soldierId kind) id = stored soldiers id := by
    split
    · simp only [stored,Table.amount_erase_ne _ _ apart]
    · simp only [stored,Table.amount_insert_ne _ _ _ apart]
  unfold subSoldierOf
  split
  · rfl
  · exact beside _ _

end city

section reinforce
variable {order : Order Nat} {soldierHurt : Table Nat HurtInfo} {reinforces : Table Nat Reinforce} {w : World}

end reinforce

end OriginGame.BattleCallback
