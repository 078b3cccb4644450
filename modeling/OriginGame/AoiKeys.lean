import OriginGame.AoiRefs
import OriginGame.Decimal

namespace OriginGame.AoiHeap
open Aoi (Position Callback Sets pairKey)
open Decimal (text width width_le Shifted texts_eq_iff)

variable {space : Space} {w m w' m' : Nat} {watcher marker : Cell} {allocator : Allocator} {distances : Distances}

section Keys

-- Two ids of 32 bits fit into the buffer.
theorem pairKey_text (smallW : w < 2^32) (smallM : m < 2^32) : pairKey w m = text w++text m := by
  have shortW : (text w).length ≤ 10 := width_le (smallW.trans (by decide))
  have shortM : (text m).length ≤ 10 := width_le (smallM.trans (by decide))
  refine List.take_of_length_le ?_
  change (text w++text m).length ≤ 64
  rw [List.length_append]
  omega

theorem pairKey_eq_iff (smallW : w < 2^32) (smallM : m < 2^32) (smallW' : w' < 2^32) (smallM' : m' < 2^32) :
    pairKey w m = pairKey w' m' ↔ (w = w' ∧ m = m') ∨ Shifted w m w' m' ∨ Shifted w' m' w m := by
  rw [pairKey_text smallW smallM,pairKey_text smallW' smallM']
  exact texts_eq_iff ..

theorem shifted_watcher (shift : Shifted w m w' m') : w < w' := by
  obtain ⟨a,_,some,rfl,_⟩ := shift
  have wider : w*1 ≤ w*10^width a := Nat.mul_le_mul_left w (Nat.pow_pos (by decide))
  omega

theorem pairKey_injective_iff (smallW : w < 2^32) (smallM : m < 2^32) (smallW' : w' < 2^32) (smallM' : m' < 2^32) :
    (pairKey w m = pairKey w' m' → w = w' ∧ m = m') ↔ ¬ Shifted w m w' m' ∧ ¬ Shifted w' m' w m := by
  rw [pairKey_eq_iff smallW smallM smallW' smallM']
  constructor
  · intro exact
    refine ⟨?_,?_⟩
    · intro shift
      exact absurd (exact (.inr (.inl shift))).1 (shifted_watcher shift).ne
    · intro shift
      exact absurd (exact (.inr (.inr shift))).1 (shifted_watcher shift).ne'
  · rintro ⟨one,other⟩ (equal | shift | shift)
    · exact equal
    · exact absurd shift one
    · exact absurd shift other

end Keys

section Lookup

def Listed (w m : Pointer) (space : Space) : Prop := ∃ q ∈ space.hot, q.watcher = w ∧ q.marker = m

instance : Decidable (Listed w m space) := inferInstanceAs (Decidable (∃ q ∈ space.hot, q.watcher = w ∧ q.marker = m))

-- A pair of the list has the same digits, cut in another place.
def Confused (watcher marker : Cell) (space : Space) : Prop :=
  ∃ q ∈ space.hot, ∃ other seen, space.heap.lookup q.watcher = some other ∧ space.heap.lookup q.marker = some seen ∧
    (Shifted watcher.id marker.id other.id seen.id ∨ Shifted other.id seen.id watcher.id marker.id)

-- The map has one object for an id.
theorem mapped_once {p q : Pointer} {obj other : Cell} (mapped : Mapped space) (one : space.heap.lookup p = some obj)
    (two : space.heap.lookup q = some other) (same : obj.id = other.id) : p = q := by
  have first := (mapped obj.id p).mpr ⟨obj,one,rfl⟩
  have second := (mapped obj.id q).mpr ⟨other,two,same.symm⟩
  exact Option.some_inj.mp (first.symm.trans second)

theorem findPair_iff (sound : Sound space space.hot) (small : ∀ p obj, space.heap.lookup p = some obj → obj.id < 2^32)
    (foundW : space.heap.lookup w = some watcher) (foundM : space.heap.lookup m = some marker) :
    (findPair space watcher marker).isSome = true ↔ Listed w m space ∨ Confused watcher marker space := by
  unfold findPair
  rw [List.find?_isSome]
  simp only [decide_eq_true_eq]
  constructor
  · rintro ⟨q,mem,same⟩
    have hot := sound.pairHash.mem_iff.mp mem
    obtain ⟨other,seen,foundO,foundS,_,key⟩ := sound.there q hot
    rw [key,pairKey_eq_iff (small _ _ foundO) (small _ _ foundS) (small _ _ foundW) (small _ _ foundM)] at same
    rcases same with ⟨sameW,sameM⟩ | shift
    · exact .inl ⟨q,hot,mapped_once sound.mapped foundO foundW sameW,mapped_once sound.mapped foundS foundM sameM⟩
    · exact .inr ⟨q,hot,other,seen,foundO,foundS,shift.symm⟩
  · rintro (⟨q,hot,rfl,rfl⟩ | ⟨q,hot,other,seen,foundO,foundS,shift⟩)
    · obtain ⟨other,seen,foundO,foundS,_,key⟩ := sound.there q hot
      rw [foundW] at foundO
      rw [foundM] at foundS
      cases foundO
      cases foundS
      exact ⟨q,sound.pairHash.mem_iff.mpr hot,key⟩
    · obtain ⟨other',seen',foundO',foundS',_,key⟩ := sound.there q hot
      rw [foundO] at foundO'
      rw [foundS] at foundS'
      cases foundO'
      cases foundS'
      refine ⟨q,sound.pairHash.mem_iff.mpr hot,?_⟩
      rw [key,pairKey_eq_iff (small _ _ foundO) (small _ _ foundS) (small _ _ foundW) (small _ _ foundM)]
      exact .inr shift.symm

end Lookup

section Run

-- gen_pair is called for w and m, in a message that follows the calls.
inductive Asked (allocator : Allocator) (distances : Distances) (maxAoiCount : Nat) (calls : List Call) : Space → Pointer → Pointer → Prop where
  | pair (order : Order Pointer) {start flushed pushed space : Space} {told later : List Callback} {sets : Sets}
      {front back : List (Pointer × Pointer)} {w m : Pointer}
      (ran : run allocator distances maxAoiCount calls = some start) (flush : flushPair distances start = some (flushed,told))
      (push : pushAll order flushed = some (sets,pushed)) (split : candidates sets = front++(w,m)::back)
      (before : front.foldlM (genPair distances) (pushed,told) = some (space,later)) : Asked allocator distances maxAoiCount calls space w m

theorem asked_sound {maxAoiCount : Nat} {calls : List Call} (asked : Asked allocator distances maxAoiCount calls space w m)
    (small : ∀ id ∈ calls.flatMap Call.names, id < 2^32) :
    Sound space space.hot ∧ (∀ p obj, space.heap.lookup p = some obj → obj.id < 2^32) ∧
      ∃ watcher marker, space.heap.lookup w = some watcher ∧ space.heap.lookup m = some marker := by
  obtain ⟨order,ran,flush,push,split,before⟩ := asked
  obtain ⟨start,ran',sound,names⟩ := run_names allocator distances maxAoiCount calls
  rw [ran] at ran'
  cases ran'
  obtain ⟨_,_,_,_,stages⟩ := messaged distances order sound
  obtain ⟨flush',push',sound,there,_,names'⟩ := stages
  rw [flush] at flush'
  cases flush'
  rw [push] at push'
  cases push'
  rw [split] at there
  obtain ⟨earlier,there⟩ := List.forall_mem_append.mp there
  obtain ⟨_,_,before',sound,_,names'',same⟩ := genPairs_sound distances _ _ _ sound earlier
  rw [before] at before'
  cases before'
  refine ⟨sound,?_,?_⟩
  · intro p obj found
    obtain ⟨old,there,name⟩ := (names'.trans names'') p obj found
    rw [←name]
    exact small _ (names p old there)
  · obtain ⟨isW,isM⟩ := (List.forall_mem_cons.mp there).1
    rw [←same] at isW isM
    obtain ⟨watcher,foundW⟩ := Option.isSome_iff_exists.mp isW
    obtain ⟨marker,foundM⟩ := Option.isSome_iff_exists.mp isM
    exact ⟨watcher,marker,foundW,foundM⟩

-- A lookup is right unless a pair of the list is the same digits.
theorem findPair_exact (allocator : Allocator) (distances : Distances) (maxAoiCount : Nat) (calls : List Call)
    (small : ∀ id ∈ calls.flatMap Call.names, id < 2^32) :
    (∀ w m w' m', w < 2^32 → m < 2^32 → w' < 2^32 → m' < 2^32 →
      ((pairKey w m = pairKey w' m' → w = w' ∧ m = m') ↔ ¬ Shifted w m w' m' ∧ ¬ Shifted w' m' w m)) ∧
    ∀ space w m, Asked allocator distances maxAoiCount calls space w m →
      ∃ watcher marker, space.heap.lookup w = some watcher ∧ space.heap.lookup m = some marker ∧
        (((findPair space watcher marker).isSome = true ↔ Listed w m space) ↔ Listed w m space ∨ ¬ Confused watcher marker space) := by
  refine ⟨fun w m w' m' => pairKey_injective_iff,?_⟩
  intro space w m asked
  obtain ⟨sound,few,watcher,marker,foundW,foundM⟩ := asked_sound asked small
  refine ⟨watcher,marker,foundW,foundM,?_⟩
  rw [findPair_iff sound few foundW foundM]
  by_cases listed : Listed w m space <;> simp [listed]

-- Two watchers and two markers in one place.
def everywhere : Distances := ⟨fun _ _ => false,fun _ _ => false,fun _ _ => true⟩

def crowd : List Call :=
  let pos : Position := ⟨0,0,0⟩
  [.update 1 ['w'] 0 pos pos,.update 12 ['w'] 0 pos pos,.update 23 ['m'] 0 pos pos,.update 3 ['m'] 0 pos pos]

theorem crowd_asked : ∃ space watcher marker, Asked .next everywhere 10 crowd space 1 3 ∧
    space.heap.lookup 1 = some watcher ∧ space.heap.lookup 3 = some marker ∧ watcher.id = 1 ∧ marker.id = 23 ∧
    (findPair space watcher marker).isSome = true ∧ ¬ Listed 1 3 space := by
  have split : candidates (⟨[],[],[2,1],[4,3]⟩ : Sets) = [(2,4),(2,3),(1,4)]++(1,3)::[] := rfl
  exact ⟨_,_,_,.pair .stored rfl rfl rfl split rfl,rfl,rfl,rfl,rfl,rfl,by decide⟩

-- 1 never sees 23: the key is the one under which 12 sees 3.
theorem crowd_hidden : pairKey 1 23 = pairKey 12 3 ∧ ¬ (1 = 12 ∧ 23 = 3) ∧
    ∃ space watcher marker, Asked .next everywhere 10 crowd space 1 3 ∧
      space.heap.lookup 1 = some watcher ∧ space.heap.lookup 3 = some marker ∧ watcher.id = 1 ∧ marker.id = 23 ∧
      (findPair space watcher marker).isSome = true ∧ ¬ Listed 1 3 space :=
  ⟨rfl,by decide,crowd_asked⟩

theorem crowd_exact :
    ((pairKey 1 23 = pairKey 12 3 → 1 = 12 ∧ 23 = 3) ↔ ¬ Shifted 1 23 12 3 ∧ ¬ Shifted 12 3 1 23) ∧
    ∃ space watcher marker, Asked .next everywhere 10 crowd space 1 3 ∧
      space.heap.lookup 1 = some watcher ∧ space.heap.lookup 3 = some marker ∧
      (((findPair space watcher marker).isSome = true ↔ Listed 1 3 space) ↔ Listed 1 3 space ∨ ¬ Confused watcher marker space) := by
  obtain ⟨keys,lookups⟩ := findPair_exact .next everywhere 10 crowd (by decide)
  obtain ⟨space,_,_,asked,_⟩ := crowd_asked
  obtain ⟨watcher,marker,foundW,foundM,exact⟩ := lookups space 1 3 asked
  exact ⟨keys 1 23 12 3 (by decide) (by decide) (by decide) (by decide),space,watcher,marker,asked,foundW,foundM,exact⟩

end Run
end OriginGame.AoiHeap
