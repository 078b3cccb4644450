import OriginGame.ShieldAbsorption

namespace OriginGame.BuffRemoval
open BattleBuff Slots

section moving
variable {W : Type} {fx : Effects W} {shields : Shields W} {moment : StatusTrigger} {guarded : Bool}

-- What any stretch of a removal does: buffs move down only, and an empty place is empty
-- still or all behind it has moved.
structure Moves (s t : State W) : Prop where
  astray : s.astray = true → t.astray = true
  lower : Lower Held.ref s.buffs t.buffs
  hole : ∀ place, find s.buffs place = none → find t.buffs place = none ∨ Below Held.ref place s.buffs t.buffs

theorem Moves.refl (s : State W) : Moves s s := ⟨id,.refl _,fun _ => .inl⟩

theorem Moves.trans (first : Moves s middle) (second : Moves middle t) : Moves s t where
  astray := second.astray ∘ first.astray
  lower := first.lower.trans second.lower
  hole place empty := by
    rcases first.hole place empty with still | below
    · exact (second.hole place still).imp_right first.lower.below
    · exact .inr (below.trans_lower second.lower)

theorem Moves.of_refs {s t : State W} (astray : s.astray = true → t.astray = true)
    (same : ∀ place, (find t.buffs place).map Held.ref = (find s.buffs place).map Held.ref) : Moves s t where
  astray := astray
  lower := .of_eq same
  hole place empty := by
    have none := same place
    rw [empty] at none
    exact .inl (Option.map_eq_none_iff.mp none)

-- The skills that damage triggers leave the buffs alone.
def Quiet (fx : Effects W) : Prop := ∀ world buffs damage, (fx.hurt world buffs damage).2 = buffs

structure Sinks (shields : Shields W) : Prop where
  idle : Idle shields
  moves : shields s damage = some result → Moves s result.1
  below : shields s damage = some result → 0 < damage → find s.buffs hole = none → Below Held.ref hole s.buffs result.1.buffs

theorem cacleStatusDamage_result (quiet : Quiet fx) (does : cacleStatusDamage fx shields s held = some t) :
    ∃ result, shields s (fx.damage s.world held) = some result ∧ t.buffs = result.1.buffs ∧ t.astray = result.1.astray := by
  unfold cacleStatusDamage at does
  obtain ⟨result,through,rfl⟩ := Option.map_eq_some_iff.mp does
  refine ⟨result,through,?_⟩
  dsimp only
  split
  · exact ⟨quiet _ _ _,rfl⟩
  · exact ⟨rfl,rfl⟩

theorem effects_moves (quiet : Quiet fx) (sinks : Sinks shields) (does : effects fx shields moment s held = some t) : Moves s t := by
  unfold effects at does
  split at does
  next =>
    obtain ⟨result,through,buffs,astray⟩ := cacleStatusDamage_result quiet does
    have moved := sinks.moves through
    exact ⟨fun was => astray ▸ moved.astray was,buffs ▸ moved.lower,buffs ▸ moved.hole⟩
  next =>
    cases Option.some.inj does
    exact .refl s

theorem clear_moves (s : State W) (place ref : Nat) : Moves s (clear fx s place ref) where
  astray was := by
    unfold clear
    rw [was]
    rfl
  lower := .clear _ _
  hole _ empty := .inl (find_clear_none _ empty)

theorem remove_moves {s : State W} (quiet : Quiet fx) (sinks : Sinks shields)
    (does : remove fx shields moment guarded s place ref = some t) : Moves s t := by
  unfold remove at does
  split at does
  next =>
    split at does
    · cases Option.some.inj does
      exact .of_refs (fun _ => rfl) (fun _ => rfl)
    · cases does
  next held _ =>
    obtain ⟨after,through,rfl⟩ := Option.map_eq_some_iff.mp does
    have met : Moves s {s with astray:=s.astray || held.ref != ref} := .of_refs (fun was => by rw [was]; rfl) (fun _ => rfl)
    exact (met.trans (effects_moves quiet sinks through)).trans (clear_moves after place ref)

theorem removeAll_moves {s : State W} (quiet : Quiet fx) (sinks : Sinks shields) {targets : List (Nat × Nat)}
    (does : removeAll fx shields moment guarded targets s = some t) : Moves s t := by
  induction targets generalizing s with
  | nil =>
    cases Option.some.inj does
    exact .refl _
  | cons target rest ih =>
    obtain ⟨middle,first,later⟩ := Option.bind_eq_some_iff.mp does
    exact (remove_moves quiet sinks first).trans (ih later)

-- A turn of the loop that found at its place, before and after the effects, the buff it
-- was recorded for.
theorem remove_honest {s : State W} (quiet : Quiet fx) (sinks : Sinks shields)
    (does : remove fx shields moment guarded s place ref = some t) (honest : t.astray = false) :
    ∃ held after, find s.buffs place = some held ∧ held.ref = ref ∧ effects fx shields moment s held = some after ∧
      (find after.buffs place).map Held.ref = some ref ∧ t = clear fx after place ref := by
  unfold remove at does
  split at does
  next =>
    split at does
    · cases Option.some.inj does
      cases honest
    · cases does
  next held there =>
    obtain ⟨after,through,rfl⟩ := Option.map_eq_some_iff.mp does
    unfold clear at honest
    obtain ⟨steady,still⟩ := Bool.or_eq_false_iff.mp honest
    have unmoved : (s.astray || held.ref != ref) = false := by
      by_contra moved
      rw [(effects_moves quiet sinks through).astray (eq_true_of_ne_false moved)] at steady
      cases steady
    obtain ⟨before,same⟩ := Bool.or_eq_false_iff.mp unmoved
    have met : {s with astray:=s.astray || held.ref != ref} = s := by rw [unmoved,←before]
    rw [met] at through
    exact ⟨held,after,there,bne_eq_false_iff_eq.mp same,through,bne_eq_false_iff_eq.mp still,rfl⟩

theorem honest_before {s t : State W} (moved : Moves s t) (honest : t.astray = false) : s.astray = false := by
  by_contra astray
  rw [moved.astray (eq_true_of_ne_false astray)] at honest
  cases honest

end moving

section nested

-- A buff without a shield is left as it is, and so is one that none of the damage reaches.
theorem untouched {held : Held} (clear : held.buff.shiled ≤ 0 ∨ damage ≤ before) :
    usedUp damage (held,before) = false ∧ struck damage (held,before) = held := by
  have spared : usedUp damage (held,before) = false := by
    unfold usedUp
    rw [Bool.and_eq_false_iff,decide_eq_false_iff_not,decide_eq_false_iff_not]
    dsimp only
    omega
  refine ⟨spared,?_⟩
  have nothing : max 0 (min held.buff.shiled (damage-before)) = 0 := by omega
  unfold struck weakened
  rw [spared,if_neg (by decide)]
  dsimp only
  rw [nothing,Int.sub_zero]

section contained
variable {W : Type} {fx : Effects W}

-- Of the shields that are used up only the first may hurt its bearer, and by less than it
-- holds itself.
def Contained (fx : Effects W) (world : W) : List Held → Prop
  | [] => True
  | held::rest => blow fx .onEnd world held < held.buff.shiled ∧ Calm fx .onEnd (passed fx .onEnd world held) rest

end contained
end nested
end OriginGame.BuffRemoval
