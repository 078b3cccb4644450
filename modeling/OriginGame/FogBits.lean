import OriginGame.DenseFog

namespace OriginGame.DenseFog

def Opened (fog : Fog) (denseFogIndex : Int) : Prop := getSmallFogRule fog denseFogIndex ≠ 0

instance (fog : Fog) (denseFogIndex : Int) : Decidable (Opened fog denseFogIndex) := inferInstanceAs (Decidable (_ ≠ _))

-- Where an index is kept. Indexes below one share the first row.
def rowOf (denseFogIndex : Int) : Int := max 1 (denseFogIndexToSaveIndex denseFogIndex)

section bits

theorem bitIndex_lt (i : Int) : denseFogIndexToBitIndex i < 64 := by
  simp only [denseFogIndexToBitIndex]
  split <;> omega

theorem mask_bit (i : Int) (b : Nat) : (mask i).getLsbD b = decide (denseFogIndexToBitIndex i = b) := by
  have twoPow : mask i = BitVec.twoPow 64 (denseFogIndexToBitIndex i) := rfl
  rw [twoPow,BitVec.getLsbD_twoPow,decide_eq_true (bitIndex_lt i),Bool.true_and]

theorem opened_bit (fog : Fog) (i : Int) : Opened fog i ↔ (ruleOf fog (rowOf i)).getLsbD (denseFogIndexToBitIndex i) = true := by
  have row : (if denseFogIndexToSaveIndex i ≤ 0 then 1 else denseFogIndexToSaveIndex i) = rowOf i := by
    unfold rowOf
    split <;> omega
  have twoPow : mask i = BitVec.twoPow 64 (denseFogIndexToBitIndex i) := rfl
  simp only [Opened,getSmallFogRule,row]
  rw [twoPow,BitVec.and_twoPow]
  cases (ruleOf fog (rowOf i)).getLsbD (denseFogIndexToBitIndex i) with
  | false => simp
  | true =>
    have nonzero : BitVec.twoPow 64 (denseFogIndexToBitIndex i) ≠ 0 := by
      intro zero
      have bit := congrArg (fun v => BitVec.getLsbD v (denseFogIndexToBitIndex i)) zero
      simp [bitIndex_lt] at bit
    simpa using nonzero

theorem rowOf_save (positive : 1 ≤ i) : rowOf i = denseFogIndexToSaveIndex i := by
  simp only [rowOf,denseFogIndexToSaveIndex]
  omega

theorem place_injective (first : 1 ≤ i) (second : 1 ≤ j) (row : rowOf i = rowOf j)
    (bit : denseFogIndexToBitIndex i = denseFogIndexToBitIndex j) : i = j := by
  rw [rowOf_save first,rowOf_save second] at row
  simp only [denseFogIndexToSaveIndex,denseFogIndexToBitIndex] at row bit
  split at bit <;> split at bit <;> omega

theorem save_le (i : Int) : denseFogIndexToSaveIndex i ≤ 2500 ↔ i ≤ 160000 := by
  simp only [denseFogIndexToSaveIndex]
  omega

theorem one_le_save (i : Int) : 1 ≤ denseFogIndexToSaveIndex i ↔ 1 ≤ i := by
  simp only [denseFogIndexToSaveIndex]
  omega

-- The index from one on that shares the place of a smaller one.
def proper (i : Int) : Int := if 1 ≤ i then i else if i%64 = 0 then 64 else i%64

theorem one_le_proper (i : Int) : 1 ≤ proper i := by
  unfold proper
  split
  · assumption
  · split <;> omega

theorem opened_proper (fog : Fog) (i : Int) : Opened fog (proper i) ↔ Opened fog i := by
  have row : rowOf (proper i) = rowOf i := by
    simp only [proper,rowOf,denseFogIndexToSaveIndex]
    split
    · rfl
    · split <;> omega
  have bit : denseFogIndexToBitIndex (proper i) = denseFogIndexToBitIndex i := by
    simp only [proper,denseFogIndexToBitIndex]
    split
    · rfl
    · split
      · rename_i zero
        simp only [zero]
        rfl
      · rw [Int.emod_emod_of_dvd i (dvd_refl 64)]
  rw [opened_bit,opened_bit,row,bit]

theorem ruleOf_setRule (fog : Fog) (i row : Int) (change : Rule → Rule) :
    ruleOf (setRule fog i change) row = if row = denseFogIndexToSaveIndex i then change (ruleOf fog row) else ruleOf fog row := by
  simp only [ruleOf,setRule]
  by_cases same : row = denseFogIndexToSaveIndex i
  · subst same
    rw [AList.lookup_insert,if_pos rfl]
    cases fog.lookup (denseFogIndexToSaveIndex i) <;> rfl
  · rw [AList.lookup_insert_ne same,if_neg same]

-- One bit changes, and the bits of other indexes stay.
theorem opened_setRule {change : Rule → Rule} (fog : Fog) (first : 1 ≤ i) (second : 1 ≤ j)
    (others : ∀ rule b, b ≠ denseFogIndexToBitIndex i → (change rule).getLsbD b = rule.getLsbD b) :
    Opened (setRule fog i change) j ↔ if j = i then (change (ruleOf fog (rowOf i))).getLsbD (denseFogIndexToBitIndex i) = true
      else Opened fog j := by
  rw [opened_bit,ruleOf_setRule,← rowOf_save first]
  by_cases same : j = i
  · subst same
    rw [if_pos rfl,if_pos rfl]
  · rw [if_neg same,opened_bit]
    by_cases row : rowOf j = rowOf i
    · rw [if_pos row,others]
      intro bit
      exact same (place_injective second first row bit)
    · rw [if_neg row]

theorem opened_openBit (fog : Fog) (first : 1 ≤ i) (second : 1 ≤ j) : Opened (openBit fog i) j ↔ Opened fog j ∨ j = i := by
  rw [openBit,opened_setRule fog first second]
  · rw [BitVec.getLsbD_or,mask_bit]
    by_cases same : j = i
    · simp [same]
    · simp [same]
  · intro rule b other
    rw [BitVec.getLsbD_or,mask_bit,decide_eq_false (fun equal => other equal.symm),Bool.or_false]

theorem opened_toggleBit (fog : Fog) (first : 1 ≤ i) (second : 1 ≤ j) :
    Opened (toggleBit fog i) j ↔ if j = i then ¬Opened fog i else Opened fog j := by
  rw [toggleBit,opened_setRule fog first second]
  · rw [BitVec.getLsbD_xor,mask_bit,opened_bit fog i]
    simp
  · intro rule b other
    rw [BitVec.getLsbD_xor,mask_bit,decide_eq_false (fun equal => other equal.symm),Bool.xor_false]

theorem opened_closeBit (fog : Fog) (first : 1 ≤ i) (second : 1 ≤ j) : Opened (closeBit fog i) j ↔ Opened fog j ∧ j ≠ i := by
  rw [closeBit,opened_setRule fog first second]
  · rw [BitVec.getLsbD_and,BitVec.getLsbD_not,mask_bit]
    by_cases same : j = i
    · simp [same]
    · simp [same]
  · intro rule b other
    by_cases inside : b < 64
    · rw [BitVec.getLsbD_and,BitVec.getLsbD_not,mask_bit,decide_eq_true inside,decide_eq_false (fun equal => other equal.symm)]
      simp
    · rw [BitVec.getLsbD_of_ge _ _ (by omega),BitVec.getLsbD_of_ge _ _ (by omega)]

end bits

-- The table after a loop has the indexes of the map open that were, and those the client hears of.
def Tells (before after : Fog) (told : List Int) : Prop :=
  ∀ j, 1 ≤ j → (Opened after j ↔ Opened before j ∨ j ≤ 160000 ∧ j ∈ told)

theorem Tells.refl (fog : Fog) : Tells fog fog [] := by
  intro j _
  simp

theorem Tells.trans (first : Tells fog middle told) (second : Tells middle after more) : Tells fog after (told++more) := by
  intro j positive
  rw [second j positive,first j positive,List.mem_append]
  tauto

-- The loop's body tells what it does as long as it is ready for the index.
theorem sweep_tells {each : Fog → Int → Fog × List Int} (ready : Fog → Int → Prop) (fog : Fog) {visit : List Int}
    (one : ∀ fog, ∀ i ∈ visit, ready fog i → Tells fog (each fog i).1 (each fog i).2)
    (stay : visit.Pairwise (fun i j => ∀ fog, ready fog j → ready (each fog i).1 j)) (start : ∀ i ∈ visit, ready fog i) :
    Tells fog (sweep each fog visit).1 (sweep each fog visit).2 := by
  induction visit generalizing fog with
  | nil => exact .refl fog
  | cons i rest ih =>
    obtain ⟨here,later⟩ := List.pairwise_cons.mp stay
    refine (one fog i List.mem_cons_self (start i List.mem_cons_self)).trans ?_
    apply ih
    · intro fog j inside
      exact one fog j (List.mem_cons_of_mem _ inside)
    · exact later
    · intro j inside
      exact here j inside fog (start j (List.mem_cons_of_mem _ inside))

theorem mem_sweep {each : Fog → Int → Fog × List Int} {told : Int → Prop} (fog : Fog) {visit : List Int}
    (one : ∀ fog, ∀ i ∈ visit, ∀ j ∈ (each fog i).2, told j) : ∀ j ∈ (sweep each fog visit).2, told j := by
  induction visit generalizing fog with
  | nil =>
    intro j inside
    cases inside
  | cons i rest ih =>
    intro j inside
    rcases List.mem_append.mp inside with inside | inside
    · exact one fog i List.mem_cons_self j inside
    · exact ih _ (fun fog k later => one fog k (List.mem_cons_of_mem _ later)) j inside

end OriginGame.DenseFog
