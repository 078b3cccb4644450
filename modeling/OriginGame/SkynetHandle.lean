import Mathlib.Algebra.Order.Ring.Int
import Mathlib.Logic.Function.Basic
import OriginGame.Slots

namespace OriginGame.Skynet

def handleMask : Nat := 0xffffff

-- The table of the services and the table of their names. A hash is masked, so that it always falls into `slot`.
structure HandleStorage (C N : Type) where
  harbor : Nat
  handleIndex : Nat
  slot : Slots C
  name : List (N × Nat)

def HandleStorage.hash (s : HandleStorage C N) (handle : Nat) : Nat := handle&&&(s.slot.length-1)

def handleInit (harbor : Nat) : HandleStorage C N := ⟨(harbor&&&0xff)<<<24,1,List.replicate 4 none,[]⟩

-- The loop of `skynet_handle_register` over the slots, for as many as are left: the handle that has a free one.
def freeHandle (slot : Slots C) : Nat → Nat → Option Nat
  | 0,_ => none
  | rest+1,handle =>
    let handle := if handle > handleMask then 1 else handle
    if (slot.find (handle&&&(slot.length-1))).isNone then some handle else freeHandle slot rest (handle+1)

-- `skynet_context_handle` reads memory, which is none where it was freed. The loop over the old slots reads NULL too.
def rehash (contextHandle : C → Option Nat) : Slots C → Slots C → Option (Slots C)
  | [],new_slot => some new_slot
  | none::_,_ => none
  | some ctx::rest,new_slot => do
    let handle ← contextHandle ctx
    let hash := handle&&&(new_slot.length-1)
    if (new_slot.find hash).isSome then none else rehash contextHandle rest (new_slot.set hash (some ctx))

-- Each turn doubles the table, which the assertion ends.
def registerLoop (contextHandle : C → Option Nat) (ctx : C) : Nat → HandleStorage C N → Option (Nat × HandleStorage C N)
  | 0,_ => none
  | fuel+1,s => match freeHandle s.slot s.slot.length s.handleIndex with
    | some handle => some (handle|||s.harbor,{s with slot:=s.slot.set (s.hash handle) (some ctx), handleIndex:=handle+1})
    | none => do
      if s.slot.length*2-1 > handleMask then none
      let new_slot ← rehash contextHandle s.slot (List.replicate (s.slot.length*2) none)
      registerLoop contextHandle ctx fuel {s with slot:=new_slot}

def handleRegister (contextHandle : C → Option Nat) (ctx : C) (s : HandleStorage C N) : Option (Nat × HandleStorage C N) :=
  registerLoop contextHandle ctx 25 s

-- `ctx && skynet_context_handle(ctx) == handle`
def handleFind (contextHandle : C → Option Nat) (handle : Nat) (s : HandleStorage C N) : Option (Option C) :=
  match s.slot.find (s.hash handle) with
  | none => some none
  | some ctx => (contextHandle ctx).map (fun known => if known = handle then some ctx else none)

-- The loop over the names closes the gaps of those it frees.
def handleRetire (contextHandle : C → Option Nat) (handle : Nat) (s : HandleStorage C N) : Option (Option C × HandleStorage C N) := do
  match ← handleFind contextHandle handle s with
  | some ctx => some (some ctx,{s with slot:=s.slot.set (s.hash handle) none, name:=s.name.filter (fun one => one.2 ≠ handle)})
  | none => some (none,s)

-- A service stands in the slot of the handle it was given, below the index of the next one. What it was given
-- is not what it has as long as `skynet_context_new` has not stored it.
structure Stored (s : HandleStorage C N) (given : C → Nat) : Prop where
  size : ∃ k ≤ 24, s.slot.length = 2^k
  harbor : s.harbor%2^24 = 0
  index : 0 < s.handleIndex
  placed : ∀ i ctx, s.slot.find i = some ctx → i = s.hash (given ctx)
  below : ∀ i ctx, s.slot.find i = some ctx → ∃ low, given ctx = low|||s.harbor ∧ 0 < low ∧ low < s.handleIndex

def HandleStorage.Registered (s : HandleStorage C N) (ctx : C) : Prop := ∃ i, s.slot.find i = some ctx

section slots
variable {C N : Type} {s : HandleStorage C N} {given : C → Nat} {contextHandle : C → Option Nat} {slot : Slots C} {ctx other : C}

theorem handleInit_stored (harbor : Nat) (given : C → Nat) : Stored (handleInit harbor : HandleStorage C N) given := by
  have empty : ∀ i ctx, ¬Slots.find (List.replicate 4 (none : Option C)) i = some ctx := by
    intro i ctx there
    unfold Slots.find at there
    rw [Option.join_eq_some_iff] at there
    exact (nomatch (List.mem_replicate.mp (List.mem_of_getElem? there)).2)
  refine ⟨⟨2,by decide,rfl⟩,?_,Nat.one_pos,fun i ctx there => absurd there (empty i ctx),fun i ctx there => absurd there (empty i ctx)⟩
  change ((harbor&&&0xff)<<<24)%2^24 = 0
  rw [Nat.shiftLeft_eq]
  exact Nat.mul_mod_left ..

theorem find_set_self {i : Nat} (inside : i < slot.length) (entry : Option C) : Slots.find (slot.set i entry) i = entry := by
  unfold Slots.find
  rw [List.getElem?_set_self inside]
  rfl

theorem find_set_ne {i j : Nat} (apart : i ≠ j) (entry : Option C) : Slots.find (slot.set i entry) j = slot.find j := by
  unfold Slots.find
  rw [List.getElem?_set_ne apart]

-- What `freeHandle` finds, as long as the handles do not turn over.
theorem freeHandle_spec {k : Nat} (size : slot.length = 2^k) (rest handle : Nat) (room : handle+rest ≤ 2^24) :
    (∃ low, freeHandle slot rest handle = some low ∧ handle ≤ low ∧ low < handle+rest ∧ slot.find (low%2^k) = none) ∨
      freeHandle slot rest handle = none ∧ ∀ i < rest, (slot.find ((handle+i)%2^k)).isSome := by
  induction rest generalizing handle with
  | zero => exact .inr ⟨rfl,fun i impossible => absurd impossible (Nat.not_lt_zero i)⟩
  | succ rest ih =>
    have low : ¬handle > handleMask := by
      change ¬handle > 0xffffff
      omega
    rw [freeHandle]
    simp only [if_neg low,size,Nat.and_two_pow_sub_one_eq_mod]
    cases here : slot.find (handle%2^k) with
    | none => exact .inl ⟨handle,rfl,Nat.le_refl _,by omega,here⟩
    | some ctx =>
      simp only [Option.isNone_some,Bool.false_eq_true,↓reduceIte]
      rcases ih (handle+1) (by omega) with ⟨low,found,above,below,free⟩ | ⟨ended,all⟩
      · exact .inl ⟨low,found,by omega,by omega,free⟩
      · refine .inr ⟨ended,fun i inside => ?_⟩
        cases i with
        | zero => rw [Nat.add_zero,here]; rfl
        | succ i =>
          have next := all i (by omega)
          rwa [Nat.add_assoc,Nat.add_comm 1 i] at next

-- As many handles one after the other as there are slots come by each of them.
theorem around_all {size : Nat} (some_slot : 0 < size) (handle j : Nat) (inside : j < size) : ∃ i < size, (handle+i)%size = j := by
  have low := Nat.mod_lt handle some_slot
  by_cases before : handle%size ≤ j
  · refine ⟨j-handle%size,by omega,?_⟩
    rw [← Nat.mod_add_mod,Nat.add_sub_cancel' before,Nat.mod_eq_of_lt inside]
  · refine ⟨j+size-handle%size,by omega,?_⟩
    rw [← Nat.mod_add_mod,Nat.add_sub_cancel' (by omega),Nat.add_mod_right,Nat.mod_eq_of_lt inside]

theorem hash_mod {k : Nat} (size : s.slot.length = 2^k) (handle : Nat) : s.hash handle = handle%2^k := by
  unfold HandleStorage.hash
  rw [size,Nat.and_two_pow_sub_one_eq_mod]

-- The harbor of a handle does not change its hash.
theorem harbor_mod {k low harbor : Nat} (small : k ≤ 24) (high : harbor%2^24 = 0) : (low|||harbor)%2^k = low%2^k := by
  have none_left : harbor%2^k = 0 := Nat.mod_eq_zero_of_dvd (Nat.dvd_trans (Nat.pow_dvd_pow 2 small) (Nat.dvd_of_mod_eq_zero high))
  rw [Nat.or_mod_two_pow,none_left,Nat.or_zero]

-- The old slots go to places of their own.
theorem rehash_spec (contextHandle : C → Option Nat) (given : C → Nat) (slots new_slot : Slots C) {k : Nat} (size : new_slot.length = 2^k)
    (full : ∀ entry ∈ slots, ∃ ctx, entry = some ctx ∧ contextHandle ctx = some (given ctx))
    (apart : slots.Pairwise (fun left right => ∀ ctx other, left = some ctx → right = some other → given ctx%2^k ≠ given other%2^k))
    (free : ∀ ctx, some ctx ∈ slots → new_slot.find (given ctx%2^k) = none) :
    ∃ after, rehash contextHandle slots new_slot = some after ∧ after.length = 2^k ∧
      ∀ i ctx, after.find i = some ctx ↔ new_slot.find i = some ctx ∨ some ctx ∈ slots ∧ i = given ctx%2^k := by
  induction slots generalizing new_slot with
  | nil =>
    refine ⟨new_slot,rfl,size,fun i ctx => ?_⟩
    simp only [List.not_mem_nil,false_and,or_false]
  | cons entry rest ih =>
    obtain ⟨⟨ctx,rfl,known⟩,others⟩ := List.forall_mem_cons.mp full
    obtain ⟨first,later⟩ := List.pairwise_cons.mp apart
    have inside : given ctx%2^k < new_slot.length := by
      rw [size]
      exact Nat.mod_lt _ (Nat.two_pow_pos k)
    have here := free ctx List.mem_cons_self
    obtain ⟨after,ran,last,placed⟩ := ih (new_slot.set (given ctx%2^k) (some ctx)) (by rwa [List.length_set]) others later (by
      intro other there
      rw [find_set_ne (first _ there ctx other rfl rfl)]
      exact free other (List.mem_cons_of_mem _ there))
    refine ⟨after,?_,last,fun i other => ?_⟩
    · rw [rehash]
      simp only [known,size,Nat.and_two_pow_sub_one_eq_mod,here,Option.bind_eq_bind,Option.bind_some,Option.isSome_none,Bool.false_eq_true,↓reduceIte,ran]
    · rw [placed]
      by_cases same : given ctx%2^k = i
      · subst same
        rw [find_set_self inside,here]
        constructor
        · rintro (new | ⟨old,place⟩)
          · cases new
            exact .inr ⟨List.mem_cons_self,rfl⟩
          · exact .inr ⟨List.mem_cons_of_mem _ old,place⟩
        · rintro (impossible | ⟨old,place⟩)
          · cases impossible
          · rcases List.mem_cons.mp old with new | old
            · exact .inl (congrArg some (Option.some.inj new).symm)
            · exact .inr ⟨old,place⟩
      · rw [find_set_ne same]
        refine or_congr_right (and_congr_left (fun place => ?_))
        rw [List.mem_cons]
        refine ⟨.inr,fun either => either.resolve_left (fun new => same ?_)⟩
        rw [place,Option.some.inj new]

-- A free slot is taken by the handle that comes by it first.
theorem take_slot (stored : Stored s given) {low : Nat} (above : s.handleIndex ≤ low) (high : low < 2^24) (fresh : ¬s.Registered ctx)
    [DecidableEq C] (free : s.slot.find (s.hash low) = none) :
    Stored {s with slot:=s.slot.set (s.hash low) (some ctx), handleIndex:=low+1} (Function.update given ctx (low|||s.harbor)) ∧
      ∀ other, ({s with slot:=s.slot.set (s.hash low) (some ctx), handleIndex:=low+1} : HandleStorage C N).Registered other ↔
        other = ctx ∨ s.Registered other := by
  obtain ⟨k,small,size⟩ := stored.size
  have place := hash_mod (s:=s) size
  have inside : s.hash low < s.slot.length := by
    rw [place,size]
    exact Nat.mod_lt _ (Nat.two_pow_pos k)
  have same_hash : ∀ handle, ({s with slot:=s.slot.set (s.hash low) (some ctx), handleIndex:=low+1} : HandleStorage C N).hash handle = s.hash handle := by
    intro handle
    unfold HandleStorage.hash
    rw [List.length_set]
  have entries : ∀ i other, Slots.find (s.slot.set (s.hash low) (some ctx)) i = some other →
      (i = s.hash low ∧ other = ctx) ∨ (other ≠ ctx ∧ s.slot.find i = some other) := by
    intro i other there
    by_cases same : s.hash low = i
    · subst same
      rw [find_set_self inside] at there
      exact .inl ⟨rfl,(Option.some.inj there).symm⟩
    · rw [find_set_ne same] at there
      refine .inr ⟨?_,there⟩
      rintro rfl
      exact fresh ⟨i,there⟩
  refine ⟨⟨⟨k,small,by rwa [List.length_set]⟩,stored.harbor,Nat.succ_pos _,?_,?_⟩,fun other => ⟨?_,?_⟩⟩
  · intro i other there
    rw [same_hash]
    rcases entries i other there with ⟨rfl,rfl⟩ | ⟨apart,old⟩
    · rw [Function.update_self,place,place,harbor_mod small stored.harbor]
    · rw [Function.update_of_ne apart]
      exact stored.placed i other old
  · intro i other there
    have low_index := stored.index
    rcases entries i other there with ⟨rfl,rfl⟩ | ⟨apart,old⟩
    · rw [Function.update_self]
      exact ⟨low,rfl,by omega,Nat.lt_succ_self low⟩
    · rw [Function.update_of_ne apart]
      obtain ⟨before,same,positive,below⟩ := stored.below i other old
      exact ⟨before,same,positive,by dsimp only; omega⟩
  · rintro ⟨i,there⟩
    rcases entries i other there with ⟨_,rfl⟩ | ⟨_,old⟩
    · exact .inl rfl
    · exact .inr ⟨i,old⟩
  · rintro (rfl | ⟨i,old⟩)
    · exact ⟨_,find_set_self inside _⟩
    · refine ⟨i,?_⟩
      have apart : s.hash low ≠ i := by
        rintro rfl
        cases free.symm.trans old
      dsimp only
      rw [find_set_ne apart]
      exact old

def HandleStorage.Full (s : HandleStorage C N) : Prop := ∀ i < s.slot.length, (s.slot.find i).isSome

-- A full table is doubled, with the same services in it and a slot that is free.
theorem double_spec (stored : Stored s given) (room : s.slot.length*2 ≤ 2^24) (full : s.Full)
    (known : ∀ other, s.Registered other → contextHandle other = some (given other)) :
    ∃ new_slot, rehash contextHandle s.slot (List.replicate (s.slot.length*2) none) = some new_slot ∧ new_slot.length = s.slot.length*2 ∧
      Stored {s with slot:=new_slot} given ∧ (∀ other, ({s with slot:=new_slot} : HandleStorage C N).Registered other ↔ s.Registered other) ∧
      ¬({s with slot:=new_slot} : HandleStorage C N).Full := by
  obtain ⟨k,small,size⟩ := stored.size
  have twice : s.slot.length*2 = 2^(k+1) := by rw [size,Nat.pow_succ]
  have small' : k+1 ≤ 24 := by
    rw [twice] at room
    exact (Nat.pow_le_pow_iff_right (by decide)).mp room
  have empty : ∀ i, Slots.find (List.replicate (s.slot.length*2) (none : Option C)) i = none := by
    intro i
    unfold Slots.find
    rw [List.getElem?_replicate]
    split <;> rfl
  have entry : ∀ {i ctx}, s.slot[i]? = some (some ctx) → s.slot.find i = some ctx := by
    intro i ctx there
    unfold Slots.find
    rw [there]
    rfl
  obtain ⟨new_slot,ran,length,found⟩ := rehash_spec contextHandle given s.slot (List.replicate (s.slot.length*2) none) (k:=k+1)
    (by rw [List.length_replicate,twice]) (by
      intro one there
      obtain ⟨i,here⟩ := List.mem_iff_getElem?.mp there
      have some_one := full i (List.getElem?_eq_some_iff.mp here).1
      unfold Slots.find at some_one
      rw [here] at some_one
      obtain ⟨ctx,rfl⟩ := Option.isSome_iff_exists.mp some_one
      exact ⟨ctx,rfl,known ctx ⟨i,entry here⟩⟩) (by
      rw [List.pairwise_iff_getElem]
      intro i j i_lt j_lt before ctx other left right same
      have one := stored.placed i ctx (entry (left ▸ List.getElem?_eq_getElem i_lt))
      have two := stored.placed j other (entry (right ▸ List.getElem?_eq_getElem j_lt))
      rw [hash_mod size] at one two
      have mod := congrArg (·%2^k) same
      rw [Nat.mod_mod_of_dvd _ (Nat.pow_dvd_pow 2 (Nat.le_succ k)),Nat.mod_mod_of_dvd _ (Nat.pow_dvd_pow 2 (Nat.le_succ k))] at mod
      omega) (fun ctx _ => empty _)
  have members : ∀ i ctx, new_slot.find i = some ctx ↔ s.Registered ctx ∧ i = given ctx%2^(k+1) := by
    intro i ctx
    rw [found,empty]
    refine ⟨?_,?_⟩
    · rintro (impossible | ⟨there,place⟩)
      · cases impossible
      · obtain ⟨j,here⟩ := List.mem_iff_getElem?.mp there
        exact ⟨⟨j,entry here⟩,place⟩
    · rintro ⟨⟨j,there⟩,place⟩
      exact .inr ⟨List.mem_of_getElem? (Option.join_eq_some_iff.mp there),place⟩
  have size' : new_slot.length = 2^(k+1) := length
  refine ⟨new_slot,ran,by rw [size',twice],⟨⟨k+1,small',size'⟩,stored.harbor,stored.index,?_,?_⟩,fun other => ⟨?_,?_⟩,?_⟩
  · intro i ctx there
    rw [hash_mod (s:={s with slot:=new_slot}) size']
    exact ((members i ctx).mp there).2
  · intro i ctx there
    obtain ⟨⟨j,old⟩,_⟩ := (members i ctx).mp there
    exact stored.below j ctx old
  · rintro ⟨i,there⟩
    exact ((members i other).mp there).1
  · intro old
    exact ⟨_,(members _ other).mpr ⟨old,rfl⟩⟩
  · -- One old slot cannot fill both of the new ones it may go to.
    intro all
    have positive := Nat.two_pow_pos k
    obtain ⟨ctx,first⟩ := Option.isSome_iff_exists.mp (all 0 (by rw [size']; exact Nat.two_pow_pos _))
    obtain ⟨other,second⟩ := Option.isSome_iff_exists.mp (all (2^k) (by rw [size',Nat.pow_succ]; omega))
    obtain ⟨⟨i,one⟩,place⟩ := (members _ ctx).mp first
    obtain ⟨⟨j,two⟩,place'⟩ := (members _ other).mp second
    have i_eq := stored.placed i ctx one
    have j_eq := stored.placed j other two
    rw [hash_mod size] at i_eq j_eq
    have half : ∀ x, x%2^(k+1)%2^k = x%2^k := fun x => Nat.mod_mod_of_dvd _ (Nat.pow_dvd_pow 2 (Nat.le_succ k))
    have zero : given ctx%2^k = 0 := by rw [← half,← place,Nat.zero_mod]
    have zero' : given other%2^k = 0 := by rw [← half,← place',Nat.mod_self]
    have same : ctx = other := by
      rw [i_eq,zero] at one
      rw [j_eq,zero'] at two
      exact Option.some.inj (one.symm.trans two)
    rw [same] at place
    omega

theorem freeHandle_some {k : Nat} (size : s.slot.length = 2^k) (room : s.handleIndex+s.slot.length ≤ 2^24) (some_free : ¬s.Full) :
    ∃ low, freeHandle s.slot s.slot.length s.handleIndex = some low ∧ s.handleIndex ≤ low ∧ low < 2^24 ∧ s.slot.find (s.hash low) = none := by
  rcases freeHandle_spec size s.slot.length s.handleIndex room with ⟨low,found,above,below,free⟩ | ⟨_,all⟩
  · exact ⟨low,found,above,by omega,by rwa [hash_mod size]⟩
  · refine absurd (fun j inside => ?_) some_free
    obtain ⟨i,i_lt,here⟩ := around_all (Nat.zero_lt_of_lt inside) s.handleIndex j inside
    rw [size] at here
    rw [← here]
    exact all i i_lt

theorem freeHandle_full {k : Nat} (size : s.slot.length = 2^k) (room : s.handleIndex+s.slot.length ≤ 2^24) (full : s.Full) :
    freeHandle s.slot s.slot.length s.handleIndex = none := by
  rcases freeHandle_spec size s.slot.length s.handleIndex room with ⟨low,_,_,_,free⟩ | ⟨ended,_⟩
  · have inside : low%2^k < s.slot.length := by
      rw [size]
      exact Nat.mod_lt _ (Nat.two_pow_pos k)
    have some_one := full _ inside
    rw [free] at some_one
    cases some_one
  · exact ended

-- The result of a registration.
structure Registration [DecidableEq C] (s : HandleStorage C N) (given : C → Nat) (ctx : C) (low : Nat) (after : HandleStorage C N) : Prop where
  above : s.handleIndex ≤ low
  high : low < 2^24
  index : after.handleIndex = low+1
  harbor : after.harbor = s.harbor
  name : after.name = s.name
  stored : Stored after (Function.update given ctx (low|||s.harbor))
  registered : ∀ other, after.Registered other ↔ other = ctx ∨ s.Registered other

-- As long as the handles do not turn over and, when the table is full, each service in it has its handle.
theorem handleRegister_spec [DecidableEq C] (contextHandle : C → Option Nat) (stored : Stored s given) (room : s.handleIndex+s.slot.length*2 ≤ 2^24)
    (known : s.Full → ∀ other, s.Registered other → contextHandle other = some (given other)) (fresh : ¬s.Registered ctx) :
    ∃ low after, handleRegister contextHandle ctx s = some (low|||s.harbor,after) ∧ Registration s given ctx low after := by
  obtain ⟨k,small,size⟩ := stored.size
  unfold handleRegister
  rw [registerLoop]
  by_cases full : s.Full
  · obtain ⟨new_slot,ran,length,stored',same,free⟩ := double_spec stored (by omega) full (known full)
    have size' : new_slot.length = 2^(k+1) := by rw [length,size,Nat.pow_succ]
    obtain ⟨low,found,above,high,here⟩ := freeHandle_some (s:={s with slot:=new_slot}) size' (by rw [length]; exact room) free
    have taken := take_slot stored' above high (fun old => fresh ((same ctx).mp old)) here
    refine ⟨low,{s with slot:=new_slot.set (HandleStorage.hash {s with slot:=new_slot} low) (some ctx), handleIndex:=low+1},?_,
      above,high,rfl,rfl,rfl,taken.1,fun other => (taken.2 other).trans (or_congr_right (same other))⟩
    have allowed : ¬s.slot.length*2-1 > handleMask := by
      change ¬s.slot.length*2-1 > 0xffffff
      omega
    rw [freeHandle_full size (by omega) full]
    simp only [if_neg allowed,ran,Option.bind_eq_bind,Option.bind_some]
    rw [registerLoop]
    simp only at found
    simp only [found]
  · obtain ⟨low,found,above,high,free⟩ := freeHandle_some size (by omega) full
    have taken := take_slot stored above high fresh free
    exact ⟨low,{s with slot:=s.slot.set (s.hash low) (some ctx), handleIndex:=low+1},by rw [found],above,high,rfl,rfl,rfl,taken.1,taken.2⟩

-- What is found has the handle, and what stands where its handle says is found.
theorem handleFind_spec (contextHandle : C → Option Nat) (known : ∀ other, s.Registered other → (contextHandle other).isSome) (handle : Nat) :
    ∃ result, handleFind contextHandle handle s = some result ∧ (∀ other, result = some other → s.Registered other ∧ contextHandle other = some handle) := by
  unfold handleFind
  cases here : s.slot.find (s.hash handle) with
  | none =>
    refine ⟨none,rfl,fun _ impossible => ?_⟩
    cases impossible
  | some ctx =>
    obtain ⟨has,reads⟩ := Option.isSome_iff_exists.mp (known ctx ⟨_,here⟩)
    refine ⟨_,congrArg (Option.map _) reads,fun other same => ?_⟩
    dsimp only at same
    split at same
    next equal =>
      cases same
      rw [reads,equal]
      exact ⟨⟨_,here⟩,rfl⟩
    next => cases same

theorem handleFind_given (stored : Stored s given) (there : s.Registered ctx) (reads : contextHandle ctx = some (given ctx)) :
    handleFind contextHandle (given ctx) s = some (some ctx) := by
  obtain ⟨i,here⟩ := there
  have place := stored.placed i ctx here
  rw [place] at here
  unfold handleFind
  rw [here]
  simp only [reads,Option.map_some,↓reduceIte]

-- Clearing the slot of a service leaves the others.
theorem retire_stored (stored : Stored s given) (there : s.slot.find (s.hash (given ctx)) = some ctx) (name : List (N × Nat)) :
    Stored {s with slot:=s.slot.set (s.hash (given ctx)) none, name:=name} given ∧
      ∀ other, ({s with slot:=s.slot.set (s.hash (given ctx)) none, name:=name} : HandleStorage C N).Registered other ↔ s.Registered other ∧ other ≠ ctx := by
  obtain ⟨k,small,size⟩ := stored.size
  have same_hash : ∀ handle, ({s with slot:=s.slot.set (s.hash (given ctx)) none, name:=name} : HandleStorage C N).hash handle = s.hash handle := by
    intro handle
    unfold HandleStorage.hash
    rw [List.length_set]
  have old : ∀ {i other}, Slots.find (s.slot.set (s.hash (given ctx)) none) i = some other → s.slot.find i = some other := Slots.find_clear_some
  refine ⟨⟨⟨k,small,by rwa [List.length_set]⟩,stored.harbor,stored.index,?_,fun i other here => stored.below i other (old here)⟩,fun other => ⟨?_,?_⟩⟩
  · intro i other here
    rw [same_hash]
    exact stored.placed i other (old here)
  · rintro ⟨i,here⟩
    refine ⟨⟨i,old here⟩,?_⟩
    rintro rfl
    rw [stored.placed i other (old here)] at here
    dsimp only at here
    rw [Slots.find_clear] at here
    cases here
  · rintro ⟨⟨i,here⟩,apart⟩
    refine ⟨i,?_⟩
    have other_place : s.hash (given ctx) ≠ i := by
      rintro rfl
      exact apart (Option.some.inj (here.symm.trans there))
    exact (Slots.find_clear_other _ other_place).trans here

end slots

end OriginGame.Skynet
