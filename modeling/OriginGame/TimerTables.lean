import OriginGame.RoleTimerLogic

namespace OriginGame.RoleTimerLogic
variable {r after : Role} {timeStamp other : Int} {timerIndex : Nat} {info : Info}

section history

def Called (h : List Mark) (timerIndex : Nat) : Prop := ∃ now, .called timerIndex now ∈ h

def isCall (timerIndex : Nat) : Mark → Bool
  | .called other _ => other = timerIndex
  | _ => false

theorem called_any : h.any (isCall timerIndex) = true ↔ Called h timerIndex := by
  rw [List.any_eq_true]
  constructor
  · rintro ⟨mark,there,call⟩
    cases mark with
    | called other now =>
      cases of_decide_eq_true call
      exact ⟨now,there⟩
    | added | deleted | ended => cases call
  · rintro ⟨now,there⟩
    exact ⟨_,there,decide_eq_true rfl⟩

instance (h : List Mark) (timerIndex : Nat) : Decidable (Called h timerIndex) := decidable_of_iff _ called_any

def Deleted (h : List Mark) (timerIndex : Nat) : Prop := .deleted timerIndex ∈ h

instance (h : List Mark) (timerIndex : Nat) : Decidable (Deleted h timerIndex) := inferInstanceAs (Decidable (_ ∈ _))

-- Each index is added once, and called once at most: while it is not deleted, at or after its time.
def Proper : List Mark → Prop
  | [] => True
  | .added timerIndex _ _::h => (∀ timeStamp info, .added timerIndex timeStamp info ∉ h) ∧ Proper h
  | .called timerIndex now::h =>
    ¬Called h timerIndex ∧ ¬Deleted h timerIndex ∧ (∃ timeStamp info, .added timerIndex timeStamp info ∈ h ∧ timeStamp ≤ now) ∧ Proper h
  | .deleted timerIndex::h => (∃ timeStamp info, .added timerIndex timeStamp info ∈ h) ∧ Proper h
  | .ended _::h => Proper h

theorem Called.later (called : Called h timerIndex) (mark : Mark) : Called (mark::h) timerIndex := called.imp fun _ => List.mem_cons_of_mem mark

theorem called_cons {h : List Mark} {mark : Mark} (other : ∀ now, mark ≠ .called timerIndex now) : Called (mark::h) timerIndex ↔ Called h timerIndex := by
  refine ⟨fun ⟨now,there⟩ => ?_,fun called => called.later mark⟩
  rcases List.mem_cons.mp there with same | later
  · exact absurd same.symm (other now)
  · exact ⟨now,later⟩

theorem deleted_cons {h : List Mark} {mark : Mark} (other : mark ≠ .deleted timerIndex) : Deleted (mark::h) timerIndex ↔ Deleted h timerIndex := by
  refine ⟨fun there => ?_,List.mem_cons_of_mem mark⟩
  rcases List.mem_cons.mp there with same | later
  · exact absurd same.symm other
  · exact later

-- Only what was added is called or deleted.
theorem Proper.known {h : List Mark} (proper : Proper h) (marked : Called h timerIndex ∨ Deleted h timerIndex) :
    ∃ timeStamp info, .added timerIndex timeStamp info ∈ h := by
  induction h with
  | nil => rcases marked with ⟨_,there⟩ | there <;> cases there
  | cons mark h ih =>
    have onward (proper : Proper h) (marked : Called h timerIndex ∨ Deleted h timerIndex) :
        ∃ timeStamp info, .added timerIndex timeStamp info ∈ mark::h := by
      obtain ⟨timeStamp,info,there⟩ := ih proper marked
      exact ⟨timeStamp,info,List.mem_cons_of_mem mark there⟩
    cases mark with
    | added j =>
      refine onward proper.2 (marked.imp (fun called => (called_cons (by nofun)).mp called) (fun deleted => (deleted_cons (by nofun)).mp deleted))
    | called j now =>
      obtain ⟨_,_,⟨timeStamp,info,there,_⟩,rest⟩ := proper
      by_cases same : j = timerIndex
      · exact ⟨timeStamp,info,List.mem_cons_of_mem _ (same ▸ there)⟩
      · exact onward rest (marked.imp (fun called => (called_cons (fun _ back => same (Mark.called.inj back).1)).mp called)
          (fun deleted => (deleted_cons (by nofun)).mp deleted))
    | deleted j =>
      obtain ⟨⟨timeStamp,info,there⟩,rest⟩ := proper
      by_cases same : j = timerIndex
      · exact ⟨timeStamp,info,List.mem_cons_of_mem _ (same ▸ there)⟩
      · exact onward rest (marked.imp (fun called => (called_cons (by nofun)).mp called)
          (fun deleted => (deleted_cons (fun back => same (Mark.deleted.inj back))).mp deleted))
    | ended =>
      exact onward proper (marked.imp (fun called => (called_cons (by nofun)).mp called) (fun deleted => (deleted_cons (by nofun)).mp deleted))

theorem Proper.tail {h : List Mark} {mark : Mark} (proper : Proper (mark::h)) : Proper h := by
  cases mark with
  | added => exact proper.2
  | called => exact proper.2.2.2
  | deleted => exact proper.2
  | ended => exact proper

theorem Proper.once {h : List Mark} {first second : Info} {early late : Int} (proper : Proper h) (one : .added timerIndex early first ∈ h)
    (two : .added timerIndex late second ∈ h) : early = late ∧ first = second := by
  induction h with
  | nil => cases one
  | cons mark h ih =>
    rcases List.mem_cons.mp one with same | back
    · rcases List.mem_cons.mp two with again | old
      · rw [← same] at again
        cases again
        exact ⟨rfl,rfl⟩
      · rw [← same] at proper
        exact absurd old (proper.1 late second)
    · rcases List.mem_cons.mp two with again | old
      · rw [← again] at proper
        exact absurd back (proper.1 early first)
      · exact ih proper.tail back old

end history

section tables

theorem find_bucket (there : r.bucketAt timeStamp = some bucket) (timerIndex : Nat) : r.find timeStamp timerIndex = bucket.infos.lookup timerIndex := by
  change (r.bucketAt timeStamp).bind _ = _
  rw [there,Option.bind_some]

theorem find_no_bucket (missing : r.bucketAt timeStamp = none) (timerIndex : Nat) : r.find timeStamp timerIndex = none := by
  change (r.bucketAt timeStamp).bind _ = _
  rw [missing,Option.bind_none]

theorem find_some (found : r.find timeStamp timerIndex = some info) :
    ∃ bucket, r.bucketAt timeStamp = some bucket ∧ bucket.infos.lookup timerIndex = some info := Option.bind_eq_some_iff.mp found

theorem bucketAt_table (there : r.roleTimers = some table) (timeStamp : Int) : r.bucketAt timeStamp = table.lookup timeStamp := by
  rw [Role.bucketAt,there,Option.bind_some]

theorem bucketAt_none (missing : r.roleTimers = none) (timeStamp : Int) : r.bucketAt timeStamp = none := by
  rw [Role.bucketAt,missing,Option.bind_none]

theorem mem_indexes {table : Table Int Bucket} {among : Int → Nat → Info → Bool} :
    timerIndex ∈ Role.indexes table among ↔
      ∃ timeStamp bucket info, table.lookup timeStamp = some bucket ∧ bucket.infos.lookup timerIndex = some info ∧ among timeStamp timerIndex info = true := by
  unfold Role.indexes
  rw [List.mem_flatMap]
  constructor
  · rintro ⟨e,there,mem⟩
    obtain ⟨t,kept,rfl⟩ := List.mem_map.mp mem
    obtain ⟨inside,passes⟩ := List.mem_filter.mp kept
    exact ⟨e.1,e.2,t.2,AList.mem_lookup_iff.mpr there,AList.mem_lookup_iff.mpr inside,passes⟩
  · rintro ⟨timeStamp,bucket,info,there,inside,passes⟩
    refine ⟨⟨timeStamp,bucket⟩,AList.mem_lookup_iff.mp there,List.mem_map.mpr ⟨⟨timerIndex,info⟩,?_,rfl⟩⟩
    exact List.mem_filter.mpr ⟨AList.mem_lookup_iff.mp inside,passes⟩

-- addTimer puts the new index under its time stamp and leaves the others.
theorem find_addTimer (r : Role) (afterInterval interval : Int) (isLogoutDelete : Bool) (origin : Option Nat) (timeStamp : Int) (timerIndex : Nat) :
    (r.addTimer afterInterval interval isLogoutDelete origin).find timeStamp timerIndex =
      if timeStamp = r.now+afterInterval ∧ timerIndex = r.timerIndex then some ⟨interval,isLogoutDelete,origin.getD r.timerIndex⟩
      else r.find timeStamp timerIndex := by
  unfold Role.addTimer Role.find
  dsimp only
  rw [Option.bind_some]
  by_cases here : timeStamp = r.now+afterInterval
  · subst here
    rw [AList.lookup_insert,Option.bind_some]
    dsimp only
    by_cases same : timerIndex = r.timerIndex
    · subst same
      rw [AList.lookup_insert,if_pos ⟨rfl,rfl⟩]
    · rw [AList.lookup_insert_ne same,if_neg (fun both => same both.2)]
      cases r.roleTimers with
      | none => rfl
      | some table =>
        rw [Option.getD_some,Option.bind_some]
        cases table.lookup (r.now+afterInterval) <;> rfl
  · rw [AList.lookup_insert_ne here,if_neg (fun both => here both.1)]
    cases r.roleTimers <;> rfl

theorem bucketAt_addTimer_ne (afterInterval interval : Int) (isLogoutDelete : Bool) (origin : Option Nat) (other : timeStamp ≠ r.now+afterInterval) :
    (r.addTimer afterInterval interval isLogoutDelete origin).bucketAt timeStamp = r.bucketAt timeStamp := by
  unfold Role.addTimer Role.bucketAt
  dsimp only
  rw [Option.bind_some,AList.lookup_insert_ne other]
  cases r.roleTimers <;> rfl

-- drop takes away the whole time stamp.
theorem bucketAt_drop (r : Role) (timeStamp other : Int) : (r.drop timeStamp).bucketAt other = if other = timeStamp then none else r.bucketAt other := by
  unfold Role.drop
  split
  next missing =>
    rw [bucketAt_none missing,ite_self]
  next table there =>
    split
    next missing =>
      by_cases same : other = timeStamp
      · rw [if_pos same,same,bucketAt_table there,missing]
      · rw [if_neg same]
    next bucket found =>
      unfold Role.bucketAt
      dsimp only
      rw [Option.bind_some,there,Option.bind_some]
      by_cases same : other = timeStamp
      · rw [if_pos same,same,AList.lookup_erase]
      · rw [if_neg same,AList.lookup_erase_ne same]

theorem find_drop (r : Role) (timeStamp other : Int) (timerIndex : Nat) :
    (r.drop timeStamp).find other timerIndex = if other = timeStamp then none else r.find other timerIndex := by
  change ((r.drop timeStamp).bucketAt other).bind _ = _
  rw [bucketAt_drop]
  split <;> rfl

-- What a selective removal leaves of a bucket.
theorem bucketAt_removeTimers (r : Role) (gone : Nat → Info → Bool) (timeStamp : Int) :
    (r.removeTimers gone).bucketAt timeStamp =
      ((r.bucketAt timeStamp).map (fun bucket => {bucket with infos:=bucket.infos.keepKeyed (fun timerIndex info => !gone timerIndex info)})).filter
        (fun bucket => !bucket.infos.keys.isEmpty) := by
  unfold Role.removeTimers
  split
  next missing => rw [bucketAt_none missing]; rfl
  next table there =>
    dsimp only
    split
    next empty =>
      have nothing := Table.lookup_no_keys empty timeStamp
      rw [Table.lookup_keepValues,Table.lookup_mapValues] at nothing
      rw [bucketAt_table there,nothing]
      rfl
    · rw [bucketAt_table there]
      unfold Role.bucketAt
      dsimp only
      rw [Option.bind_some,Table.lookup_keepValues,Table.lookup_mapValues]

theorem find_removeTimers (r : Role) (gone : Nat → Info → Bool) (timeStamp : Int) (timerIndex : Nat) :
    (r.removeTimers gone).find timeStamp timerIndex = (r.find timeStamp timerIndex).filter (fun info => !gone timerIndex info) := by
  change ((r.removeTimers gone).bucketAt timeStamp).bind _ = ((r.bucketAt timeStamp).bind _).filter _
  rw [bucketAt_removeTimers]
  cases r.bucketAt timeStamp with
  | none => rfl
  | some bucket =>
    rw [Option.map_some,Option.bind_some,Option.filter_some]
    refine Eq.trans ?_ (Table.lookup_keepKeyed (fun timerIndex info => !gone timerIndex info) bucket.infos timerIndex)
    split
    · rfl
    next empty =>
      have keys : (bucket.infos.keepKeyed (fun timerIndex info => !gone timerIndex info)).keys = [] := by
        simpa only [Bool.not_eq_true,Bool.not_eq_false',List.isEmpty_iff] using empty
      rw [Table.lookup_no_keys keys,Option.bind_none]

theorem nextTimer_some {infos : Table Nat Info} {keys : List Nat} (found : nextTimer infos keys = some (k,info,rest)) :
    infos.lookup k = some info ∧ ∃ skipped, keys = skipped++k::rest ∧ ∀ j ∈ skipped, infos.lookup j = none := by
  induction keys with
  | nil => cases found
  | cons key keys ih =>
    unfold nextTimer at found
    split at found
    next there =>
      cases found
      exact ⟨there,[],rfl,nofun⟩
    next missing =>
      obtain ⟨there,skipped,split,none⟩ := ih found
      refine ⟨there,key::skipped,by rw [split,List.cons_append],fun j mem => ?_⟩
      rcases List.mem_cons.mp mem with rfl | later
      · exact missing
      · exact none j later

theorem nextTimer_none {infos : Table Nat Info} {keys : List Nat} (over_ : nextTimer infos keys = none) : ∀ j ∈ keys, infos.lookup j = none := by
  induction keys with
  | nil => exact nofun
  | cons key keys ih =>
    unfold nextTimer at over_
    split at over_
    · cases over_
    next missing =>
      intro j mem
      rcases List.mem_cons.mp mem with rfl | later
      · exact missing
      · exact ih over_ j later

end tables

end OriginGame.RoleTimerLogic
