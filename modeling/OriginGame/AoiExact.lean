import OriginGame.AoiVisibility

namespace OriginGame.Aoi

variable {parts : Nat → Part} {ids : Set Nat} {space after : Space} {step : Step} {log : List Entry}
variable {left pushed : Table Nat Object} {candidates : List (Nat × Nat)} {calls : List Callback}

-- No two pairs of the run share a key.
def KeysApart (parts : Nat → Part) (ids : Set Nat) : Prop :=
  ∀ {w m w' m'}, w ∈ ids → m ∈ ids → w' ∈ ids → m' ∈ ids → (parts w).watches = true → (parts m).marks = true →
    (parts w').watches = true → (parts m').marks = true → w ≠ m → w' ≠ m' → pairKey w m = pairKey w' m' → w = w' ∧ m = m'

structure Settled (parts : Nat → Part) (ids : Set Nat) (space : Space) (log : List Entry) : Prop where
  counted : Counted space.object space.hot
  pairHash : space.pairHash = space.hot
  distinct : (space.hot.map Pair.key).Nodup
  keys : ∀ p ∈ space.hot, p.key = pairKey p.watcher p.marker
  rest : AtRest parts space.object
  known : ∀ {id obj}, space.object.lookup id = some obj → id ∈ ids
  exact : ∀ w m, InHot space.hot w m ↔ Visible space w m
  seen : ∀ w, Watches space.object w → ∀ m, m ∈ replay w log ↔ InHot space.hot w m

-- The space between the two calls of a step.
abbrev updated (parts : Nat → Part) (step : Step) (space : Space) : Space :=
  aoiUpdate space step.id (modestring parts step) step.rtype step.pos step.tpos

theorem watches_rest {objects : Table Nat Object} (rest : AtRest parts objects) (w : Nat) :
    Watches objects w ↔ (objects.lookup w).isSome = true ∧ (parts w).watches = true := by
  constructor
  · rintro ⟨obj,found,watcher⟩
    rw [rest found] at watcher
    exact ⟨by rw [found]; rfl,watcher⟩
  · rintro ⟨there,watcher⟩
    obtain ⟨obj,found⟩ := Option.isSome_iff_exists.mp there
    exact ⟨obj,found,by rw [rest found]; exact watcher⟩

theorem marks_rest {objects : Table Nat Object} (rest : AtRest parts objects) (m : Nat) :
    Marks objects m ↔ (objects.lookup m).isSome = true ∧ (parts m).marks = true := by
  constructor
  · rintro ⟨obj,found,marker⟩
    rw [rest found] at marker
    exact ⟨by rw [found]; rfl,marker⟩
  · rintro ⟨there,marker⟩
    obtain ⟨obj,found⟩ := Option.isSome_iff_exists.mp there
    exact ⟨obj,found,by rw [rest found]; exact marker⟩

section Left

-- Nothing that leaves outlives the flush: its last pair takes it along.
theorem left_here (messaged : Messaged (updated parts step space) (after,calls) left pushed candidates)
    (found : left.lookup j = some obj) : obj.mode.drop = false := by
  obtain ⟨old,before,body⟩ := messaged.counting.body found
  have ref := messaged.counted.ref found
  have live := messaged.counted.live found
  cases drop : obj.mode.drop with
  | false => rfl
  | true =>
    rw [drop,if_pos rfl] at ref
    have some : 0 < involved j (stays (updated parts step space)) := by omega
    obtain ⟨p,mem,part⟩ := List.countP_pos_iff.mp some
    have kept := (List.mem_filter.mp mem).2
    obtain ⟨watcher,marker,_⟩ := (flushOne_stays _ _ _ _).mp kept
    rw [← body_mode body] at drop
    rcases of_decide_eq_true part with rfl | rfl
    · rw [query_some before,drop] at watcher
      cases watcher
    · rw [query_some before,drop] at marker
      cases marker

theorem left_cases (settled : Settled parts ids space log)
    (messaged : Messaged (updated parts step space) (after,calls) left pushed candidates) (found : left.lookup j = some obj) :
    (j ≠ step.id ∧ (∃ old, space.object.lookup j = some old) ∧ obj.mode = atRest (parts j)) ∨
    (j = step.id ∧ step.leaves = false ∧ obj.mode = moving (parts j)) := by
  have updates := aoiUpdate_updated step settled.rest settled.counted
  obtain ⟨old,before,body⟩ := messaged.counting.body found
  have here := left_here messaged found
  by_cases same : j = step.id
  · subst same
    right
    cases leaves : step.leaves with
    | true =>
      have mode := updates.leaves leaves old before
      rw [← body_mode body,mode] at here
      cases here
    | false =>
      obtain ⟨mine,there,mode,_⟩ := updates.moves leaves
      rw [before] at there
      cases there
      exact ⟨rfl,rfl,by rw [← body_mode body,mode]⟩
  · left
    rw [updates.others j same] at before
    exact ⟨same,⟨old,before⟩,by rw [← body_mode body,settled.rest before]⟩

theorem left_there (settled : Settled parts ids space log)
    (messaged : Messaged (updated parts step space) (after,calls) left pushed candidates) :
    (∀ {j}, j ≠ step.id → (space.object.lookup j).isSome = true → (left.lookup j).isSome = true) ∧
    (step.leaves = false → (left.lookup step.id).isSome = true) := by
  have updates := aoiUpdate_updated step settled.rest settled.counted
  refine ⟨?_,?_⟩
  · intro j other there
    obtain ⟨old,found⟩ := Option.isSome_iff_exists.mp there
    have mode := settled.rest found
    rw [← updates.others j other] at found
    exact messaged.counting.stays found (by rw [mode]; rfl)
  · intro stays
    obtain ⟨obj,found,mode,_⟩ := updates.moves stays
    exact messaged.counting.stays found (by rw [mode]; rfl)

theorem left_parts (settled : Settled parts ids space log)
    (messaged : Messaged (updated parts step space) (after,calls) left pushed candidates) (found : left.lookup j = some obj) :
    obj.mode.watcher = (parts j).watches ∧ obj.mode.marker = (parts j).marks := by
  rcases left_cases settled messaged found with ⟨_,_,mode⟩ | ⟨_,_,mode⟩
  · rw [mode]
    exact ⟨rfl,rfl⟩
  · rw [mode]
    exact ⟨rfl,rfl⟩

theorem after_isSome (messaged : Messaged (updated parts step space) (after,calls) left pushed candidates) (j : Nat) :
    (after.object.lookup j).isSome = (left.lookup j).isSome := by
  have same := messaged.generated.bodies.isSome j
  change (after.object.lookup j).isSome = (pushed.lookup j).isSome at same
  rw [same,messaged.lookup,Option.isSome_map]

theorem after_position (messaged : Messaged (updated parts step space) (after,calls) left pushed candidates)
    (there : (left.lookup j).isSome = true) :
    (query after.object j).position = (query (updated parts step space).object j).position ∧
    (query pushed j).position = (query (updated parts step space).object j).position := by
  obtain ⟨obj,found⟩ := Option.isSome_iff_exists.mp there
  obtain ⟨old,before,body⟩ := messaged.counting.body found
  have same : (query after.object j).position = (query pushed j).position := query_position messaged.generated.bodies j
  have pushes : pushed.lookup j = some obj.still := by rw [messaged.lookup,found]; rfl
  have still : obj.still.position = obj.position := by
    unfold Object.still
    split <;> rfl
  rw [same,query_some pushes,query_some before,still,body_position body]
  exact ⟨rfl,rfl⟩

theorem after_rest (settled : Settled parts ids space log)
    (messaged : Messaged (updated parts step space) (after,calls) left pushed candidates) : AtRest parts after.object := by
  intro j obj found
  have bodies := messaged.generated.bodies j
  change (after.object.lookup j).map Object.body = (pushed.lookup j).map Object.body at bodies
  rw [found,messaged.lookup,Option.map_some] at bodies
  obtain ⟨still,there,body⟩ := Option.map_eq_some_iff.mp bodies.symm
  obtain ⟨old,before,rfl⟩ := Option.map_eq_some_iff.mp there
  rw [← body_mode body]
  unfold Object.still
  rcases left_cases settled messaged before with ⟨_,_,mode⟩ | ⟨_,_,mode⟩
  · rw [mode]
    split
    · rfl
    · exact mode
  · have someone : ((moving (parts j)).watcher || (moving (parts j)).marker) = true := by
      cases parts j <;> rfl
    rw [mode,if_pos someone]
    rfl

end Left

section Pairs

theorem hot_split (messaged : Messaged (updated parts step space) (after,calls) left pushed candidates) :
    ∃ new, after.hot = new++stays (updated parts step space) ∧
      (∀ p ∈ new, (p.watcher,p.marker) ∈ candidates ∧ p.key = pairKey p.watcher p.marker ∧ p.watcher ≠ p.marker ∧
        dist2 (query pushed p.watcher).position (query pushed p.marker).position ≤ space.radius2) ∧
      ∃ sent, calls = flushCalls (updated parts step space)++sent ∧
        sent.map (fun c => (c.watcher,c.marker,c.action)) = new.reverse.map (fun p => (p.watcher,p.marker,Action.m)) := by
  have radius2 := (aoiUpdate_others space step.id (modestring parts step) step.rtype step.pos step.tpos).2.2.1
  obtain ⟨new,more,each,sent⟩ := messaged.generated.added
  refine ⟨new,more,?_,sent⟩
  intro p mem
  rw [← radius2]
  exact each p mem

theorem after_radius2 (messaged : Messaged (updated parts step space) (after,calls) left pushed candidates) :
    after.radius2 = space.radius2 ∧ (updated parts step space).radius2 = space.radius2 := by
  have radius2 := (aoiUpdate_others space step.id (modestring parts step) step.rtype step.pos step.tpos).2.2.1
  exact ⟨messaged.generated.radius2.trans radius2,radius2⟩

theorem updated_hot : (updated parts step space).hot = space.hot :=
  (aoiUpdate_others space step.id (modestring parts step) step.rtype step.pos step.tpos).1

-- Both ends of a pair in the list are there, of the right kind, and in range.
theorem hot_visible (settled : Settled parts ids space log)
    (messaged : Messaged (updated parts step space) (after,calls) left pushed candidates) (mem : p ∈ after.hot) :
    p.key = pairKey p.watcher p.marker ∧ Visible after p.watcher p.marker := by
  have rest : AtRest parts after.object := after_rest settled messaged
  obtain ⟨radius2,before⟩ := after_radius2 messaged
  have visible (watcher : (left.lookup p.watcher).isSome = true) (marker : (left.lookup p.marker).isSome = true)
      (watches : (parts p.watcher).watches = true) (marks : (parts p.marker).marks = true) (apart : p.watcher ≠ p.marker)
      (close : dist2 (query (updated parts step space).object p.watcher).position
        (query (updated parts step space).object p.marker).position ≤ space.radius2) : Visible after p.watcher p.marker := by
    refine ⟨(watches_rest rest _).mpr ⟨?_,watches⟩,(marks_rest rest _).mpr ⟨?_,marks⟩,apart,?_⟩
    · rw [after_isSome messaged]
      exact watcher
    · rw [after_isSome messaged]
      exact marker
    · rw [radius2,(after_position messaged watcher).1,(after_position messaged marker).1]
      exact close
  obtain ⟨new,more,each,_⟩ := hot_split messaged
  rw [more] at mem
  rcases List.mem_append.mp mem with fresh | old
  · obtain ⟨candidate,key,apart,close⟩ := each p fresh
    obtain ⟨⟨w,foundW,watcher⟩,⟨m,foundM,marker⟩,_⟩ := (messaged.candidate _ _).mp candidate
    have thereW : (left.lookup p.watcher).isSome = true := by rw [foundW]; rfl
    have thereM : (left.lookup p.marker).isSome = true := by rw [foundM]; rfl
    rw [(left_parts settled messaged foundW).1] at watcher
    rw [(left_parts settled messaged foundM).2] at marker
    rw [(after_position messaged thereW).2,(after_position messaged thereM).2] at close
    exact ⟨key,visible thereW thereM watcher marker apart close⟩
  · obtain ⟨watcher,marker,apart⟩ := messaged.counted.there p old
    obtain ⟨hot,kept⟩ := List.mem_filter.mp old
    obtain ⟨_,_,close⟩ := (flushOne_stays _ _ _ _).mp kept
    rw [updated_hot] at hot
    rw [before] at close
    obtain ⟨watches,marks,_⟩ := (settled.exact p.watcher p.marker).mp ⟨p,hot,rfl,rfl⟩
    have watches := ((watches_rest settled.rest _).mp watches).2
    have marks := ((marks_rest settled.rest _).mp marks).2
    exact ⟨settled.keys p hot,visible watcher marker watches marks apart close⟩

theorem after_known (settled : Settled parts ids space log) (included : step.id ∈ ids)
    (messaged : Messaged (updated parts step space) (after,calls) left pushed candidates)
    (there : (after.object.lookup j).isSome = true) : j ∈ ids := by
  rw [after_isSome messaged] at there
  obtain ⟨obj,found⟩ := Option.isSome_iff_exists.mp there
  rcases left_cases settled messaged found with ⟨_,⟨old,before⟩,_⟩ | ⟨rfl,_⟩
  · exact settled.known before
  · exact included

-- A pair in range that moved was a candidate; one that did not was in the list.
theorem visible_hot (settled : Settled parts ids space log) (apart : KeysApart parts ids) (included : step.id ∈ ids)
    (messaged : Messaged (updated parts step space) (after,calls) left pushed candidates)
    (room : ∀ {id obj}, after.object.lookup id = some obj → obj.aoiCount < after.maxAoiCount)
    (visible : Visible after w m) : InHot after.hot w m := by
  have rest : AtRest parts after.object := after_rest settled messaged
  have updates := aoiUpdate_updated step settled.rest settled.counted
  obtain ⟨radius2,before⟩ := after_radius2 messaged
  obtain ⟨watches,marks,distinct,close⟩ := visible
  obtain ⟨isW,watches'⟩ := (watches_rest rest w).mp watches
  obtain ⟨isM,marks'⟩ := (marks_rest rest m).mp marks
  have thereW := isW
  have thereM := isM
  rw [after_isSome messaged] at thereW thereM
  obtain ⟨ow,foundW⟩ := Option.isSome_iff_exists.mp thereW
  obtain ⟨om,foundM⟩ := Option.isSome_iff_exists.mp thereM
  by_cases moved : w = step.id ∨ m = step.id
  · have candidate : (w,m) ∈ candidates := by
      rw [messaged.candidate]
      refine ⟨⟨ow,foundW,?_⟩,⟨om,foundM,?_⟩,?_⟩
      · rw [(left_parts settled messaged foundW).1]
        exact watches'
      · rw [(left_parts settled messaged foundM).2]
        exact marks'
      · rw [query_some foundW,query_some foundM]
        rcases moved with rfl | rfl
        · rcases left_cases settled messaged foundW with ⟨other,_⟩ | ⟨_,_,mode⟩
          · exact absurd rfl other
          · left
            rw [mode]
            rfl
        · rcases left_cases settled messaged foundM with ⟨other,_⟩ | ⟨_,_,mode⟩
          · exact absurd rfl other
          · right
            rw [mode]
            rfl
    rcases messaged.generated.blocked (w,m) candidate with same | full | ⟨p,mem,key⟩ | far
    · exact absurd same distinct
    · obtain ⟨obj,found⟩ := Option.isSome_iff_exists.mp isW
      have count := messaged.generated.counted.aoiCount found
      have less := room found
      dsimp only at full count
      omega
    · obtain ⟨own,watcher,marker,other,_⟩ := hot_visible settled messaged mem
      obtain ⟨pw,pwatches⟩ := (watches_rest rest _).mp watcher
      obtain ⟨pm,pmarks⟩ := (marks_rest rest _).mp marker
      have known {j} (there : (after.object.lookup j).isSome = true) := after_known settled included messaged there
      obtain ⟨sameW,sameM⟩ := apart (known pw) (known pm) (known isW) (known isM) pwatches pmarks watches' marks' other distinct
        (own.symm.trans key)
      exact ⟨p,mem,sameW,sameM⟩
    · exact absurd close (not_le.mpr far)
  · rw [not_or] at moved
    obtain ⟨other,another⟩ := moved
    rw [radius2,(after_position messaged thereW).1,(after_position messaged thereM).1] at close
    rcases left_cases settled messaged foundW with ⟨_,⟨oldW,beforeW⟩,_⟩ | ⟨same,_⟩
    · rcases left_cases settled messaged foundM with ⟨_,⟨oldM,beforeM⟩,_⟩ | ⟨same,_⟩
      · have sameW : query (updated parts step space).object w = oldW := by
          rw [← query_some beforeW,query,query,updates.others w other]
        have sameM : query (updated parts step space).object m = oldM := by
          rw [← query_some beforeM,query,query,updates.others m another]
        have close' := close
        rw [sameW,sameM,← query_some beforeW,← query_some beforeM] at close
        have inHot := (settled.exact w m).mpr ⟨(watches_rest settled.rest w).mpr ⟨by rw [beforeW]; rfl,watches'⟩,
          (marks_rest settled.rest m).mpr ⟨by rw [beforeM]; rfl,marks'⟩,distinct,close⟩
        obtain ⟨p,mem,rfl,rfl⟩ := inHot
        obtain ⟨new,more,_⟩ := hot_split messaged
        refine ⟨p,?_,rfl,rfl⟩
        rw [more]
        apply List.mem_append_right
        refine List.mem_filter.mpr ⟨by rw [updated_hot]; exact mem,?_⟩
        refine (flushOne_stays _ _ _ _).mpr ⟨?_,?_,?_⟩
        · rw [sameW,settled.rest beforeW]
          rfl
        · rw [sameM,settled.rest beforeM]
          rfl
        · rw [before]
          exact close'
      · exact absurd same another
    · exact absurd same other

end Pairs

section Told

theorem ends_distinct (settled : Settled parts ids space log) : (space.hot.map (fun p => (p.watcher,p.marker))).Nodup := by
  have keys : space.hot.map Pair.key = (space.hot.map (fun p => (p.watcher,p.marker))).map (fun e => pairKey e.1 e.2) := by
    rw [List.map_map]
    exact List.map_congr_left (fun p mem => settled.keys p mem)
  have distinct := settled.distinct
  rw [keys] at distinct
  exact distinct.of_map

-- Before anything is delivered in a step, a watcher that will be there has been told of its pairs.
theorem told_before (settled : Settled parts ids space log)
    (messaged : Messaged (updated parts step space) (after,calls) left pushed candidates) (found : left.lookup w = some obj)
    (watches : (parts w).watches = true) (m : Nat) :
    m ∈ replay w (log++if !step.leaves && (space.object.lookup step.id).isNone then [Entry.entered step.id] else []) ↔
      InHot space.hot w m := by
  cases before : space.object.lookup w with
  | none =>
    rcases left_cases settled messaged found with ⟨_,⟨old,there⟩,_⟩ | ⟨rfl,stays,_⟩
    · rw [before] at there
      cases there
    · rw [stays,before,replay_append]
      simp only [Bool.not_false,Option.isNone_none,Bool.and_self,if_true,List.foldl_cons,List.foldl_nil,replayOne,Finset.notMem_empty,
        false_iff]
      rintro ⟨p,mem,watcher,_⟩
      have there := (settled.counted.there p mem).1
      rw [watcher,before] at there
      cases there
  | some old =>
    have known : Watches space.object w := (watches_rest settled.rest w).mpr ⟨by rw [before]; rfl,watches⟩
    rw [← settled.seen w known m,replay_append]
    split
    · rename_i comes
      have other : step.id ≠ w := by
        rintro rfl
        rw [before,Option.isNone_some,Bool.and_false] at comes
        cases comes
      simp only [List.foldl_cons,List.foldl_nil,replayOne,other,if_false]
    · rfl

theorem told_after (settled : Settled parts ids space log)
    (messaged : Messaged (updated parts step space) (after,calls) left pushed candidates) (watches : Watches after.object w) (m : Nat) :
    m ∈ tell w (replay w (log++if !step.leaves && (space.object.lookup step.id).isNone then [Entry.entered step.id] else [])) calls ↔
      InHot after.hot w m := by
  have rest : AtRest parts after.object := after_rest settled messaged
  obtain ⟨there,watches⟩ := (watches_rest rest w).mp watches
  rw [after_isSome messaged] at there
  obtain ⟨obj,found⟩ := Option.isSome_iff_exists.mp there
  have start := told_before settled messaged found watches
  generalize replay w _ = seen at start ⊢
  obtain ⟨old,before,body⟩ := messaged.counting.body found
  have here : (query (updated parts step space).object w).mode.drop = false := by
    rw [query_some before,body_mode body]
    exact left_here messaged found
  obtain ⟨new,more,_,sent,same,listed⟩ := hot_split messaged
  rw [same,tell_append,generated_told listed,flushCalls,
    flush_told _ (by rw [updated_hot]; exact ends_distinct settled) here
      (fun p mem mine => (start p.marker).mpr ⟨p,by rw [← updated_hot]; exact mem,mine,rfl⟩),start,updated_hot]
  have once {p q : Pair} (memP : p ∈ space.hot) (memQ : q ∈ space.hot) (ends : p.watcher = q.watcher ∧ p.marker = q.marker) :
      p = q := List.inj_on_of_nodup_map (ends_distinct settled) memP memQ (Prod.ext ends.1 ends.2)
  constructor
  · rintro (⟨⟨p,mem,mine,marker⟩,kept⟩ | ⟨p,mem,ends⟩)
    · refine ⟨p,?_,mine,marker⟩
      rw [more]
      exact List.mem_append_right _ (List.mem_filter.mpr ⟨by rw [updated_hot]; exact mem,kept p mem mine marker⟩)
    · refine ⟨p,?_,ends⟩
      rw [more]
      exact List.mem_append_left _ (List.mem_reverse.mp mem)
  · rintro ⟨p,mem,mine,marker⟩
    rw [more] at mem
    rcases List.mem_append.mp mem with fresh | old
    · exact .inr ⟨p,List.mem_reverse.mpr fresh,mine,marker⟩
    · obtain ⟨hot,kept⟩ := List.mem_filter.mp old
      rw [updated_hot] at hot
      refine .inl ⟨⟨p,hot,mine,marker⟩,?_⟩
      intro q other mineQ markerQ
      rw [← once hot other ⟨mine.trans mineQ.symm,marker.trans markerQ.symm⟩]
      exact kept

end Told

-- No watcher reaches maxAoiCount in the step.
def Roomy (parts : Nat → Part) (ids : Set Nat) (state : Space × List Entry) (step : Step) : Prop :=
  step.id ∈ ids ∧ ∀ {id obj}, (updateAoi parts step state).1.object.lookup id = some obj →
    obj.aoiCount < (updateAoi parts step state).1.maxAoiCount

def Updates (parts : Nat → Part) (before : Space × List Entry) (step : Step) (after : Space × List Entry) : Prop :=
  after = updateAoi parts step before

theorem updateAoi_messaged (settled : Settled parts ids space log) (step : Step) :
    ∃ calls left pushed candidates, Messaged (updated parts step space) ((updateAoi parts step (space,log)).1,calls) left pushed
      candidates ∧ (updateAoi parts step (space,log)).2 = log++
        (if !step.leaves && (space.object.lookup step.id).isNone then [Entry.entered step.id] else [])++calls.map .delivered := by
  have updates := aoiUpdate_updated step settled.rest settled.counted
  obtain ⟨hot,hash,_,_⟩ := aoiUpdate_others space step.id (modestring parts step) step.rtype step.pos step.tpos
  have counted : Counted (updated parts step space).object (updated parts step space).hot := by rw [hot]; exact updates.counted
  have same : (updated parts step space).pairHash = (updated parts step space).hot := by rw [hot,hash]; exact settled.pairHash
  have distinct : ((updated parts step space).hot.map Pair.key).Nodup := by rw [hot]; exact settled.distinct
  obtain ⟨left,pushed,candidates,messaged⟩ := aoiMessage_messaged step.order counted same distinct
  exact ⟨_,left,pushed,candidates,messaged,rfl⟩

theorem updateAoi_settled (apart : KeysApart parts ids) (settled : Settled parts ids space log)
    (roomy : Roomy parts ids (space,log) step) :
    Settled parts ids (updateAoi parts step (space,log)).1 (updateAoi parts step (space,log)).2 := by
  obtain ⟨included,room⟩ := roomy
  obtain ⟨calls,left,pushed,candidates,messaged,logged⟩ := updateAoi_messaged settled step
  rw [logged]
  generalize (updateAoi parts step (space,log)).1 = after at messaged room ⊢
  have generated := messaged.generated
  refine ⟨generated.counted,generated.pairHash,generated.distinct,?_,after_rest settled messaged,?_,?_,?_⟩
  · intro p mem
    exact (hot_visible settled messaged mem).1
  · intro id obj found
    exact after_known settled included messaged (by rw [found]; rfl)
  · intro w m
    refine ⟨?_,visible_hot settled apart included messaged room⟩
    rintro ⟨p,mem,rfl,rfl⟩
    exact (hot_visible settled messaged mem).2
  · intro w watches m
    rw [replay_append]
    exact told_after settled messaged watches m

section Run

-- Who is where, by the steps alone.
def go (places : Nat → Option Position) (step : Step) : Nat → Option Position :=
  fun id => if id = step.id then (if step.leaves then none else some step.pos) else places id

def InRange (parts : Nat → Part) (radius2 : ℚ) (places : Nat → Option Position) (w m : Nat) : Prop :=
  (parts w).watches = true ∧ (parts m).marks = true ∧ w ≠ m ∧
    ∃ p q, places w = some p ∧ places m = some q ∧ dist2 p q ≤ radius2

def Placed (space : Space) (places : Nat → Option Position) : Prop :=
  ∀ id, (space.object.lookup id).map Object.position = places id

theorem visible_inRange (rest : AtRest parts space.object) (placed : Placed space places) (w m : Nat) :
    Visible space w m ↔ InRange parts space.radius2 places w m := by
  unfold Visible InRange
  rw [watches_rest rest,marks_rest rest,← placed w,← placed m]
  constructor
  · rintro ⟨⟨isW,watches⟩,⟨isM,marks⟩,distinct,close⟩
    obtain ⟨ow,foundW⟩ := Option.isSome_iff_exists.mp isW
    obtain ⟨om,foundM⟩ := Option.isSome_iff_exists.mp isM
    rw [query_some foundW,query_some foundM] at close
    exact ⟨watches,marks,distinct,_,_,by rw [foundW]; rfl,by rw [foundM]; rfl,close⟩
  · rintro ⟨watches,marks,distinct,p,q,atW,atM,close⟩
    obtain ⟨ow,foundW,rfl⟩ := Option.map_eq_some_iff.mp atW
    obtain ⟨om,foundM,rfl⟩ := Option.map_eq_some_iff.mp atM
    rw [query_some foundW,query_some foundM,foundW,foundM]
    exact ⟨⟨rfl,watches⟩,⟨rfl,marks⟩,distinct,close⟩

theorem after_placed (settled : Settled parts ids space log) (placed : Placed space places)
    (messaged : Messaged (updated parts step space) (after,calls) left pushed candidates) : Placed after (go places step) := by
  have updates := aoiUpdate_updated step settled.rest settled.counted
  intro j
  have presence := after_isSome messaged j
  unfold go
  cases found : left.lookup j with
  | none =>
    rw [found] at presence
    rw [Option.isSome_eq_false_iff.mp presence |> Option.isNone_iff_eq_none.mp,Option.map_none]
    split
    · rename_i same
      subst same
      cases leaves : step.leaves with
      | true => rfl
      | false =>
        have there := (left_there settled messaged).2 leaves
        rw [found] at there
        cases there
    · rename_i other
      rw [← placed j]
      cases before : space.object.lookup j with
      | none => rfl
      | some old =>
        have there := (left_there settled messaged).1 other (by rw [before]; rfl)
        rw [found] at there
        cases there
  | some obj =>
    have there : (left.lookup j).isSome = true := by rw [found]; rfl
    obtain ⟨last,now⟩ := Option.isSome_iff_exists.mp (presence.trans there)
    have position := (after_position messaged there).1
    rw [query_some now] at position
    rw [now,Option.map_some,position]
    rcases left_cases settled messaged found with ⟨other,⟨old,before⟩,_⟩ | ⟨rfl,stays,_⟩
    · rw [if_neg other,← placed j,before,query,updates.others j other,before]
      rfl
    · obtain ⟨mine,held,_,pos⟩ := updates.moves stays
      rw [if_pos rfl,stays,query_some held,pos]
      rfl

theorem updateAoi_placed (settled : Settled parts ids space log) (placed : Placed space places) (step : Step) :
    Placed (updateAoi parts step (space,log)).1 (go places step) ∧ (updateAoi parts step (space,log)).1.radius2 = space.radius2 := by
  obtain ⟨calls,left,pushed,candidates,messaged,_⟩ := updateAoi_messaged settled step
  exact ⟨after_placed settled placed messaged,(after_radius2 messaged).1⟩

theorem run_settled {before last : Space × List Entry} (apart : KeysApart parts ids)
    (path : Runs (Guarded (Updates parts) (Roomy parts ids)) before steps last) (settled : Settled parts ids before.1 before.2)
    (placed : Placed before.1 places) :
    Settled parts ids last.1 last.2 ∧ Placed last.1 (steps.foldl go places) ∧ last.1.radius2 = before.1.radius2 := by
  induction path generalizing places with
  | done => exact ⟨settled,placed,rfl⟩
  | @more before step middle steps last acts _ ih =>
    obtain ⟨same,roomy⟩ := acts
    obtain ⟨moved,radius2⟩ := updateAoi_placed settled placed step
    rw [same] at ih
    obtain ⟨settles,places,range⟩ := ih (updateAoi_settled apart settled roomy) moved
    exact ⟨settles,places,range.trans radius2⟩

def emptySpace (maxAoiCount : Nat) (radius2 : ℚ) : Space := ⟨∅,[],[],maxAoiCount,radius2⟩

theorem empty_settled (parts : Nat → Part) (ids : Set Nat) : Settled parts ids (emptySpace maxAoiCount radius2) [] := by
  have none {id : Nat} {obj : Object} (found : (∅ : Table Nat Object).lookup id = some obj) : False := by
    rw [AList.lookup_empty] at found
    cases found
  have missing {p : Pair} (mem : p ∈ ([] : List Pair)) : False := by cases mem
  refine ⟨⟨?_,?_,?_,?_⟩,rfl,List.nodup_nil,?_,?_,?_,?_,?_⟩
  · intro id obj found
    exact (none found).elim
  · intro id obj found
    exact (none found).elim
  · intro id obj found
    exact (none found).elim
  · intro p mem
    exact (missing mem).elim
  · intro p mem
    exact (missing mem).elim
  · intro id obj found
    exact (none found).elim
  · intro id obj found
    exact (none found).elim
  · intro w m
    refine ⟨?_,?_⟩
    · rintro ⟨p,mem,_⟩
      exact (missing mem).elim
    · rintro ⟨⟨obj,found,_⟩,_⟩
      exact (none found).elim
  · rintro w ⟨obj,found,_⟩
    exact (none found).elim

-- After every step the hot list is what the positions say, each pair once, and so is what
-- every present watcher has been told.
theorem aoi_exact {last : Space × List Entry} (apart : KeysApart parts ids)
    (path : Runs (Guarded (Updates parts) (Roomy parts ids)) (emptySpace maxAoiCount radius2,[]) steps last) :
    (∀ w m, InHot last.1.hot w m ↔ InRange parts radius2 (steps.foldl go fun _ => none) w m) ∧
    (last.1.hot.map (fun p => (p.watcher,p.marker))).Nodup ∧
    (∀ w, (steps.foldl go fun _ => none) w ≠ none → (parts w).watches = true →
      ∀ m, m ∈ replay w last.2 ↔ InRange parts radius2 (steps.foldl go fun _ => none) w m) := by
  have nobody : Placed (emptySpace maxAoiCount radius2) (fun _ => none) := fun _ => rfl
  obtain ⟨settled,placed,range⟩ := run_settled apart path (empty_settled parts ids) nobody
  have exact (w m) : InHot last.1.hot w m ↔ InRange parts radius2 (steps.foldl go fun _ => none) w m := by
    rw [settled.exact,visible_inRange settled.rest placed,range]
    rfl
  refine ⟨exact,ends_distinct settled,?_⟩
  intro w present watches m
  rw [← exact]
  apply settled.seen
  rw [watches_rest settled.rest]
  refine ⟨?_,watches⟩
  rw [← placed w] at present
  exact Option.isSome_map.symm.trans (Option.isSome_iff_ne_none.mpr present)

def square : Nat → Part
  | 1 => .w
  | 2 => .m
  | _ => .wm

def onLine (id : Nat) (x : ℚ) : Step := ⟨id,false,1,⟨x,0,0⟩,⟨x,0,0⟩,.stored⟩

def gone (id : Nat) : Step := ⟨id,true,1,origin,origin,.stored⟩

-- Three come in, one walks out of the other's range and back, one leaves.
def walk : List Step := [onLine 1 0,onLine 2 3,onLine 3 4,onLine 2 20,onLine 1 5,onLine 2 4,gone 3]

def walked : Space × List Entry := walk.foldl (fun state step => updateAoi square step state) (emptySpace 10 25,[])

theorem square_apart : KeysApart square {id | id < 4} := by
  have small : ∀ w m w' m' : Fin 4, pairKey w m = pairKey w' m' → w.val = w'.val ∧ m.val = m'.val := by decide +kernel
  intro w m w' m' isW isM isW' isM' _ _ _ _ _ _ key
  exact small ⟨w,isW⟩ ⟨m,isM⟩ ⟨w',isW'⟩ ⟨m',isM'⟩ key

theorem roomy_entries {state : Space × List Entry} (included : step.id ∈ ids)
    (each : ∀ entry ∈ (updateAoi parts step state).1.object.entries, entry.2.aoiCount < (updateAoi parts step state).1.maxAoiCount) :
    Roomy parts ids state step := ⟨included,fun found => each _ (AList.mem_lookup_iff.mp found)⟩

theorem walk_runs : Runs (Guarded (Updates square) (Roomy square {id | id < 4})) (emptySpace 10 25,[]) walk walked := by
  refine .more ⟨rfl,roomy_entries ?_ ?_⟩ (.more ⟨rfl,roomy_entries ?_ ?_⟩ (.more ⟨rfl,roomy_entries ?_ ?_⟩
    (.more ⟨rfl,roomy_entries ?_ ?_⟩ (.more ⟨rfl,roomy_entries ?_ ?_⟩ (.more ⟨rfl,roomy_entries ?_ ?_⟩
    (.more ⟨rfl,roomy_entries ?_ ?_⟩ .done))))))
  all_goals decide +kernel

theorem walk_exact : (∀ w m, InHot walked.1.hot w m ↔ InRange square 25 (walk.foldl go fun _ => none) w m) ∧
    replay 1 walked.2 = {2} := by
  obtain ⟨exact,_,_⟩ := aoi_exact square_apart walk_runs
  refine ⟨exact,?_⟩
  decide +kernel

end Run
end OriginGame.Aoi
