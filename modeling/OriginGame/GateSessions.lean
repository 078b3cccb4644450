import OriginGame.GameGate

namespace OriginGame.GameGate
variable {cfg : Config} {s after : State} {w : Waiting} {id : Nat} {t u : Table Nat Entry} {p : Entry}

-- All of an entry but the index that retiring changes.
def settled (p : Entry) : Entry := {p with index:=none}

theorem settled_fields {p q : Entry} (same : settled q = settled p) :
    q.fd = p.fd ∧ q.response = p.response ∧ q.version = p.version ∧ q.sent = p.sent ∧ q.returned = p.returned := by
  simpa only [settled,Entry.mk.injEq,true_and] using same

section retire

-- What retire_response leaves: the entries themselves, and the place of those still in process.
structure Retired (s after : State) : Prop where
  entries : ∀ id, (after.entries.lookup id).map settled = (s.entries.lookup id).map settled
  running : ∀ session id p, s.response.lookup session = some id → s.entries.lookup id = some p → p.fd.isSome → after.response.lookup session = some id
  version : after.version = s.version
  connection : after.connection = s.connection
  conflicts : after.conflicts = s.conflicts
  nextEntry : after.nextEntry = s.nextEntry

-- The invariant of its loop.
structure Retiring.Kept (s : State) (r : Retiring) : Prop where
  entries : ∀ id, (r.entries.lookup id).map settled = (s.entries.lookup id).map settled
  running : ∀ session id p, s.response.lookup session = some id → s.entries.lookup id = some p → p.fd.isSome → r.response.lookup session = some id

theorem settled_same (same : (t.lookup id).map settled = (u.lookup id).map settled) (found : t.lookup id = some p) :
    ∃ q, u.lookup id = some q ∧ settled q = settled p := by
  rw [found,Option.map_some] at same
  exact Option.map_eq_some_iff.mp same.symm

theorem retireOne_kept (kept : Retiring.Kept s r) (number : Nat) (found : s.response.lookup k = some id) :
    Retiring.Kept s (retireOne number r k id) := by
  unfold retireOne
  split
  · exact kept
  next p there =>
    obtain ⟨q,before,same⟩ := settled_same (kept.entries id) there
    split
    · exact kept
    next done =>
      dsimp only
      split
      · refine ⟨kept.entries,fun session other e cached entry running => ?_⟩
        by_cases here : session = k
        · subst here
          rw [found] at cached
          cases cached
          rw [before] at entry
          cases entry
          rw [(settled_fields same).1] at running
          exact absurd running done
        · rw [AList.lookup_erase_ne here]
          exact kept.running session other e cached entry running
      · refine ⟨fun other => ?_,kept.running⟩
        dsimp only
        by_cases here : other = id
        · subst here
          rw [AList.lookup_insert,before,Option.map_some,Option.map_some,same]
          rfl
        · rw [AList.lookup_insert_ne here]
          exact kept.entries other

theorem retired (cfg : Config) (s : State) : Retired s (retire_response cfg s) := by
  unfold retire_response
  split
  · have kept : Retiring.Kept s (Table.forEach cfg.order s.response (retireOne cfg.expired_number) ⟨s.response,s.entries,0⟩) :=
      Table.forEach_keeps (fun r k id found kept => retireOne_kept kept cfg.expired_number found) ⟨fun _ => rfl,fun _ _ _ cached _ _ => cached⟩
    exact ⟨kept.entries,kept.running,rfl,rfl,rfl,rfl⟩
  · exact ⟨fun _ => rfl,fun _ _ _ cached _ _ => cached,rfl,rfl,rfl,rfl⟩

end retire

section invariant

-- What an entry must be for its session to be answered right.
structure Entry.Sound (nextEntry id : Nat) (p : Entry) : Prop where
  below : id < nextEntry
  stamped : p.response.isSome → p.version = some p.sent
  replied : p.returned = true → p.response.isSome

structure Sound (s : State) : Prop where
  each : ∀ id p, s.entries.lookup id = some p → Entry.Sound s.nextEntry id p
  connected : ∀ fd sent, s.connection.lookup fd = some sent → sent ≤ s.version

-- The entry of a handler that waits is in process.
def Running (s : State) (w : Waiting) : Prop := ∃ p, s.entries.lookup w.entry = some p ∧ p.fd.isSome ∧ p.response = none

theorem Entry.Sound.of_settled {p q : Entry} (same : settled q = settled p) (sound : Entry.Sound n id q) : Entry.Sound n id p := by
  obtain ⟨_,responses,versions,sents,returns⟩ := settled_fields same
  refine ⟨sound.below,?_,?_⟩
  · rw [← responses,← versions,← sents]
    exact sound.stamped
  · rw [← responses,← returns]
    exact sound.replied

theorem Retired.sound (retired : Retired s after) (sound : Sound s) : Sound after := by
  refine ⟨fun id p there => ?_,?_⟩
  · obtain ⟨q,before,same⟩ := settled_same (retired.entries id) there
    rw [retired.nextEntry]
    exact (sound.each id q before).of_settled same
  · rw [retired.connection,retired.version]
    exact sound.connected

theorem Retired.keeps_running (retired : Retired s after) (running : Running s w) : Running after w := by
  obtain ⟨p,there,fd,response⟩ := running
  obtain ⟨q,now,same⟩ := settled_same (retired.entries w.entry).symm there
  obtain ⟨fds,responses,_⟩ := settled_fields same
  exact ⟨q,now,fds ▸ fd,responses.trans response⟩

theorem Sound.put {s : State} (sound : Sound s) (good : Entry.Sound s.nextEntry id p) : Sound {s with entries:=s.entries.insert id p} := by
  refine ⟨fun other q there => ?_,sound.connected⟩
  rcases Table.found_insert there with ⟨rfl,rfl⟩ | ⟨_,there⟩
  · exact good
  · exact sound.each other q there

-- The state that finish retires from.
def finished (s : State) (sends : List (Nat×String)) (id : Nat) (p : Entry) : State :=
  {s with index:=s.index+1, sends, entries:=s.entries.insert id {p with fd:=none}}

theorem finish_retired (cfg : Config) (s : State) (id : Nat) (p : Entry) : ∃ sends, Retired (finished s sends id p) (finish cfg s id p) :=
  ⟨_,retired cfg _⟩

theorem finish_sound (sound : Sound s) (good : Entry.Sound s.nextEntry id p) : Sound (finish cfg s id p) := by
  obtain ⟨sends,retired⟩ := finish_retired cfg s id p
  have put : Sound (finished s sends id p) := by
    have freed : Entry.Sound s.nextEntry id {p with fd:=none} := ⟨good.below,good.stamped,good.replied⟩
    exact ⟨(sound.put freed).each,sound.connected⟩
  exact retired.sound put

theorem finish_running (running : Running s w) (other : w.entry ≠ id) : Running (finish cfg s id p) w := by
  obtain ⟨sends,retired⟩ := finish_retired cfg s id p
  refine retired.keeps_running ?_
  obtain ⟨q,there,rest⟩ := running
  exact ⟨q,(AList.lookup_insert_ne other).trans there,rest⟩

end invariant

section runs

-- An answered session is sent again over the connection authenticated last, and
-- request_handler replies with something while the connection its session was last sent over
-- is that one.
def Allow (s : State) : GateEvent → Prop
  | .call (.request fd session) => ∀ id p, cached s session = some (id,p) → p.response.isSome →
      ∀ sent, s.connection.lookup fd = some sent → sent = s.version
  | .call _ => True
  | .resume w answer => ∀ reply, answer = some reply → reply.isEmpty = false ∧
      ∀ p, s.entries.lookup w.entry = some p → p.sent = s.version

theorem cached_some (found : cached s session = some (id,p)) : s.response.lookup session = some id ∧ s.entries.lookup id = some p := by
  obtain ⟨other,there,rest⟩ := Option.bind_eq_some_iff.mp found
  obtain ⟨q,entry,same⟩ := Option.map_eq_some_iff.mp rest
  cases same
  exact ⟨there,entry⟩

theorem start_sound (sound : Sound s) (fd session sent : Nat) : Sound (start s fd session sent).1 := by
  refine ⟨fun id p there => ?_,sound.connected⟩
  unfold start at there ⊢
  dsimp only at there ⊢
  by_cases same : id = s.nextEntry
  · rw [same,AList.lookup_insert] at there
    cases there
    rw [same]
    exact ⟨Nat.lt_succ_self _,nofun,nofun⟩
  · rw [AList.lookup_insert_ne same] at there
    obtain ⟨below,stamped,replied⟩ := sound.each id p there
    exact ⟨Nat.lt_succ_of_lt below,stamped,replied⟩

theorem start_running (sound : Sound s) (running : Running s w) (fd session sent : Nat) : Running (start s fd session sent).1 w := by
  obtain ⟨p,there,rest⟩ := running
  have older : w.entry ≠ s.nextEntry := (sound.each _ _ there).below.ne
  exact ⟨p,(AList.lookup_insert_ne older).trans there,rest⟩

-- What do_request does with a session.
inductive Does (cfg : Config) (s : State) (fd session : Nat) : State×Option Waiting → Prop where
  | ignored : s.connection.lookup fd = none → Does cfg s fd session (s,none)
  | fresh : s.connection.lookup fd = some sent → cached s session = none → Does cfg s fd session (start s fd session sent)
  | again {id : Nat} {p : Entry} : s.connection.lookup fd = some sent → cached s session = some (id,p) → p.version = some s.version → p.response.isSome →
      Does cfg s fd session (start {s with response:=s.response.erase session} fd session sent)
  | conflict {id : Nat} {p : Entry} : cached s session = some (id,p) → p.version = some s.version → p.response = none →
      Does cfg s fd session ({s with response:=s.response.erase session, conflicts:=session::s.conflicts},none)
  | joined {id : Nat} {p : Entry} : s.connection.lookup fd = some sent → cached s session = some (id,p) → p.version ≠ some s.version → p.response = none →
      Does cfg s fd session ({s with entries:=s.entries.insert id {p with fd:=some fd, version:=some s.version, index:=some s.index, sent}},none)
  | resent {id : Nat} {p : Entry} : s.connection.lookup fd = some sent → cached s session = some (id,p) → p.version ≠ some s.version → p.response.isSome →
      Does cfg s fd session (finish cfg s id {p with fd:=some fd, version:=some s.version, index:=some s.index, sent},none)

theorem does (cfg : Config) (s : State) (fd session : Nat) : Does cfg s fd session (do_request cfg s fd session) := by
  unfold do_request
  split
  next missing => exact .ignored missing
  next sent there =>
    split
    next missing => exact .fresh there missing
    next id p found =>
      split
      next same =>
        dsimp only
        split
        next empty => exact .conflict found same (Option.isNone_iff_eq_none.mp empty)
        next some => exact .again there found same (Option.isSome_iff_ne_none.mpr (fun none => some (Option.isNone_iff_eq_none.mpr none)))
      next older =>
        dsimp only
        split
        next empty => exact .joined there found older (Option.isNone_iff_eq_none.mp empty)
        next some => exact .resent there found older (Option.isSome_iff_ne_none.mpr (fun none => some (Option.isNone_iff_eq_none.mpr none)))

theorem erased_sound (sound : Sound s) (session : Nat) : Sound {s with response:=s.response.erase session} := ⟨sound.each,sound.connected⟩

theorem do_request_sound (sound : Sound s) (allowed : Allow s (.call (.request fd session))) : Sound (do_request cfg s fd session).1 := by
  have course := does cfg s fd session
  generalize do_request cfg s fd session = result at course
  cases course with
  | ignored => exact sound
  | fresh => exact start_sound sound fd session _
  | again => exact start_sound (erased_sound sound session) fd session _
  | conflict => exact ⟨sound.each,sound.connected⟩
  | joined _ found _ empty =>
    obtain ⟨below,_,replied⟩ := sound.each _ _ (cached_some found).2
    refine sound.put ⟨below,fun some => ?_,replied⟩
    rw [empty] at some
    cases some
  | resent there found _ answered =>
    obtain ⟨below,_,replied⟩ := sound.each _ _ (cached_some found).2
    refine finish_sound sound ⟨below,fun _ => ?_,replied⟩
    rw [allowed _ _ found answered _ there]

theorem do_request_running (sound : Sound s) (running : Running s w) (fd session : Nat) : Running (do_request cfg s fd session).1 w := by
  have course := does cfg s fd session
  generalize do_request cfg s fd session = result at course
  obtain ⟨e,entry,process,silent⟩ := running
  cases course with
  | ignored => exact ⟨e,entry,process,silent⟩
  | fresh => exact start_running sound ⟨e,entry,process,silent⟩ fd session _
  | again => exact start_running (erased_sound sound session) ⟨e,entry,process,silent⟩ fd session _
  | conflict => exact ⟨e,entry,process,silent⟩
  | @joined _ id _ _ _ _ empty =>
    by_cases own : w.entry = id
    · subst own
      exact ⟨_,AList.lookup_insert _,rfl,empty⟩
    · exact ⟨e,(AList.lookup_insert_ne own).trans entry,process,silent⟩
  | resent _ found _ answered =>
    refine finish_running ⟨e,entry,process,silent⟩ (fun own => ?_)
    rw [own,(cached_some found).2] at entry
    cases entry
    rw [silent] at answered
    cases answered

-- Every handler that starts has an entry of its own.
theorem do_request_starts (going : next ∈ (do_request cfg s fd session).2) :
    next.entry = s.nextEntry ∧ Running (do_request cfg s fd session).1 next := by
  have course := does cfg s fd session
  generalize do_request cfg s fd session = result at course going
  have fresh (s : State) (sent : Nat) (going : next ∈ (start s fd session sent).2) :
      next.entry = s.nextEntry ∧ Running (start s fd session sent).1 next := by
    cases going
    exact ⟨rfl,_,AList.lookup_insert _,rfl,rfl⟩
  cases course with
  | fresh => exact fresh s _ going
  | again => exact fresh _ _ going
  | ignored | conflict | joined | resent => cases going

theorem resume_sound (sound : Sound s) (allowed : Allow s (.resume w answer)) : Sound (resume cfg answer w s).1 := by
  unfold resume
  split
  · exact sound
  next p there =>
    obtain ⟨below,_,replied⟩ := sound.each _ _ there
    refine finish_sound sound ⟨below,?_,?_⟩
    · cases answer with
      | none => exact nofun
      | some reply =>
        intro _
        rw [(allowed reply rfl).2 p there]
    · cases answer with
      | none => exact nofun
      | some reply =>
        intro _
        dsimp only
        rw [(allowed reply rfl).1]
        rfl

theorem resume_running (running : Running s w) (other : w.entry ≠ handler.entry) (answer : Option String) : Running (resume cfg answer handler s).1 w := by
  unfold resume
  split
  · exact running
  · exact finish_running running other

theorem gate_keeps (cfg : Config) : KeepsTagged (enter cfg) (resume cfg) Allow Sound Running Waiting.entry where
  entered s request sound allowed := by
    cases request with
    | auth fd idx =>
      refine ⟨?_,nofun⟩
      change Sound (do_auth s fd idx)
      unfold do_auth
      split
      · exact sound
      next newer =>
        refine ⟨sound.each,fun other sent there => ?_⟩
        by_cases same : other = fd
        · rw [same,AList.lookup_insert] at there
          cases there
          exact Nat.le_refl _
        · rw [AList.lookup_insert_ne same] at there
          exact (sound.connected other sent there).trans (Nat.le_of_not_le newer)
    | disconnect fd =>
      refine ⟨⟨sound.each,fun other sent there => ?_⟩,nofun⟩
      change (s.connection.erase fd).lookup other = some sent at there
      by_cases same : other = fd
      · rw [same,AList.lookup_erase] at there
        cases there
      · rw [AList.lookup_erase_ne same] at there
        exact sound.connected other sent there
    | request fd session => exact ⟨do_request_sound sound allowed,fun _ going => (do_request_starts going).2⟩
  fresh s request other sound allowed running next going := by
    cases request with
    | auth | disconnect => cases going
    | request fd session =>
      obtain ⟨p,there,_⟩ := running
      rw [(do_request_starts going).1]
      exact (sound.each _ _ there).below.ne'
  resumed s handler answer sound running allowed := by
    refine ⟨resume_sound sound allowed,fun next going => ?_⟩
    unfold resume at going
    split at going <;> cases going
  beside_entered s request other sound allowed running := by
    cases request with
    | auth fd idx =>
      change Running (do_auth s fd idx) other
      unfold do_auth
      split
      · exact running
      · exact running
    | disconnect => exact running
    | request fd session => exact do_request_running sound running fd session
  beside_resumed s handler answer other sound own allowed running apart := resume_running running apart answer

-- A request for another session, or one whose entry is in process, leaves the place of that
-- entry alone unless it is rejected as a conflict.
theorem do_request_place (place : s.response.lookup w.session = some w.entry) (running : Running s w) (fd session : Nat) :
    (do_request cfg s fd session).1.response.lookup w.session = some w.entry ∨
      session = w.session ∧ (do_request cfg s fd session).1.conflicts = session::s.conflicts := by
  have course := does cfg s fd session
  generalize do_request cfg s fd session = result at course
  obtain ⟨e,entry,process,silent⟩ := running
  cases course with
  | ignored => exact .inl place
  | fresh _ missing =>
    have other : w.session ≠ session := by
      rintro rfl
      rw [cached,place,Option.bind_some,entry] at missing
      cases missing
    exact .inl ((AList.lookup_insert_ne other).trans place)
  | again _ found _ answered =>
    have other : w.session ≠ session := by
      rintro rfl
      obtain ⟨there,held⟩ := cached_some found
      rw [place] at there
      cases there
      rw [entry] at held
      cases held
      rw [silent] at answered
      cases answered
    exact .inl ((AList.lookup_insert_ne other).trans ((AList.lookup_erase_ne other).trans place))
  | conflict =>
    by_cases same : session = w.session
    · exact .inr ⟨same,rfl⟩
    · exact .inl ((AList.lookup_erase_ne (fun back => same back.symm)).trans place)
  | joined => exact .inl place
  | @resent _ id p _ found _ answered =>
    have other : w.entry ≠ id := by
      rintro rfl
      rw [(cached_some found).2] at entry
      cases entry
      rw [silent] at answered
      cases answered
    obtain ⟨_,retired⟩ := finish_retired cfg s id _
    exact .inl (retired.running _ _ e place ((AList.lookup_insert_ne other).trans entry) process)

theorem resume_place (place : s.response.lookup w.session = some w.entry) (running : Running s w) (other : w.entry ≠ handler.entry)
    (answer : Option String) : (resume cfg answer handler s).1.response.lookup w.session = some w.entry := by
  obtain ⟨e,entry,process,_⟩ := running
  unfold resume
  split
  · exact place
  · obtain ⟨_,retired⟩ := finish_retired cfg s handler.entry _
    exact retired.running _ _ e place ((AList.lookup_insert_ne other).trans entry) process

-- What a user may count on at any moment.
structure Served (cfg : Config) (gate : Gate) : Prop where
  -- A session sent before, over an older connection, does not start request_handler again.
  once : ∀ fd session id p sent, cached gate.shared session = some (id,p) → gate.shared.connection.lookup fd = some sent →
    p.sent < sent → (do_request cfg gate.shared fd session).2 = none
  -- After request_handler returned, the session is not a conflict on the same connection.
  again : ∀ fd session id p, cached gate.shared session = some (id,p) → gate.shared.connection.lookup fd = some p.sent →
    p.returned = true → (do_request cfg gate.shared fd session).1.conflicts = gate.shared.conflicts
  -- An entry in process keeps its place; only a conflict of the session itself takes it away.
  place : ∀ event after, Step cfg gate event after → ∀ w ∈ gate.waiting, w ∈ after.waiting →
    gate.shared.response.lookup w.session = some w.entry →
      after.shared.response.lookup w.session = some w.entry ∨
        (∃ fd, event = .call (.request fd w.session)) ∧ after.shared.conflicts = w.session::gate.shared.conflicts

theorem sound_once (sound : Sound s) (found : cached s session = some (id,p)) (there : s.connection.lookup fd = some sent) (newer : p.sent < sent) :
    (do_request cfg s fd session).2 = none := by
  have course := does cfg s fd session
  generalize do_request cfg s fd session = result at course
  have current := sound.connected fd sent there
  cases course with
  | ignored | conflict | joined | resent => rfl
  | fresh _ missing =>
    rw [found] at missing
    cases missing
  | again _ other same answered =>
    rw [found] at other
    cases other
    have stamped := (sound.each id p (cached_some found).2).stamped answered
    rw [same] at stamped
    have versions := Option.some.inj stamped
    omega

theorem sound_again (sound : Sound s) (found : cached s session = some (id,p)) (returned : p.returned = true) :
    (do_request cfg s fd session).1.conflicts = s.conflicts := by
  have course := does cfg s fd session
  generalize do_request cfg s fd session = result at course
  cases course with
  | ignored | fresh | again | joined => rfl
  | conflict other _ empty =>
    rw [found] at other
    cases other
    have replied := (sound.each id p (cached_some found).2).replied returned
    rw [empty] at replied
    cases replied
  | resent =>
    obtain ⟨_,retired⟩ := finish_retired cfg s _ _
    exact retired.conflicts

theorem tagged_served {gate : Gate} (tagged : Tagged Sound Running Waiting.entry gate) : Served cfg gate := by
  obtain ⟨sound,distinct,each⟩ := tagged
  refine ⟨fun _ _ _ _ _ found there newer => sound_once sound found there newer,fun _ _ _ _ found _ returned => sound_again sound found returned,?_⟩
  intro event after step w waits still placed
  cases step with
  | @call s waiting request =>
    cases request with
    | auth fd idx =>
      refine .inl ?_
      change (do_auth s fd idx).response.lookup w.session = some w.entry
      unfold do_auth
      split <;> exact placed
    | disconnect => exact .inl placed
    | request fd session =>
      rcases do_request_place placed (each w waits) fd session with kept | ⟨same,rejected⟩
      · exact .inl kept
      · rw [same] at rejected ⊢
        exact .inr ⟨⟨fd,rfl⟩,rejected⟩
  | @resume s earlier handler later answer =>
    refine .inl (resume_place placed (each w waits) ?_ answer)
    have gone : (resume cfg answer handler s).2 = none := by
      unfold resume
      split <;> rfl
    rw [gone,Option.toList_none,List.append_nil] at still
    rw [List.map_append,List.map_cons] at distinct
    intro same
    refine (List.nodup_cons.mp (List.perm_middle.nodup_iff.mp distinct)).1 ?_
    rw [← same,← List.map_append]
    exact List.mem_map_of_mem still

-- In every run in which requests end over the connection they came over, with a reply.
theorem requests_served (path : Runs (Guarded (Step cfg) (Allowed Allow)) ⟨login,[]⟩ events gate) : Served cfg gate := by
  have start : Tagged Sound Running Waiting.entry (⟨login,[]⟩ : Gate) := ⟨⟨nofun,nofun⟩,List.nodup_nil,nofun⟩
  exact tagged_served ((gate_keeps cfg).run path start)

-- One request, answered, and sent again after the user authenticated anew.
def plain : Config := ⟨128,.stored⟩

def check (s : State) : GateEvent → Bool
  | .call (.request fd session) => decide (∀ e ∈ cached s session, e.2.response.isSome → ∀ sent ∈ s.connection.lookup fd, sent = s.version)
  | .call _ => true
  | .resume w answer => decide (∀ reply ∈ answer, reply.isEmpty = false ∧ ∀ p ∈ s.entries.lookup w.entry, p.sent = s.version)

theorem check_allows (s : State) (event : GateEvent) (passes : check s event = true) : Allow s event := by
  cases event with
  | call request =>
    cases request with
    | auth | disconnect => trivial
    | request fd session =>
      intro id p found answered sent there
      exact of_decide_eq_true passes (id,p) found answered sent there
  | resume w answer => exact fun reply same => of_decide_eq_true passes reply same

def replied (reply : String) : List (Choice Request (Option String)) :=
  [.call (.auth 1 1),.call (.request 1 7),.resume 0 (some reply),.call (.auth 2 2)]

theorem reply_served : ∃ gate : Gate, (cached gate.shared 7).isSome ∧ gate.shared.connection.lookup 2 = some 2 ∧ Served plain gate := by
  have reached : ∃ events gate, Runs (Guarded (Step plain) (Allowed Allow)) ⟨login,[]⟩ events gate ∧
      (cached gate.shared 7).isSome ∧ gate.shared.connection.lookup 2 = some 2 :=
    play_reaches check check_allows (replied "ok") ⟨login,[]⟩ (fun gate => (cached gate.shared 7).isSome ∧ gate.shared.connection.lookup 2 = some 2)
      (by decide)
  obtain ⟨events,gate,path,found,there⟩ := reached
  exact ⟨gate,found,there,requests_served path⟩

-- Answered after the user authenticated anew, a session is taken for one of the new
-- connection; answered with nothing, it cannot be told from one in process.
theorem requests_unserved :
    (∃ events gate, Runs (Step plain) ⟨login,[]⟩ events gate ∧ ∃ e ∈ cached gate.shared 7, e.2.sent < 2 ∧
      gate.shared.connection.lookup 2 = some 2 ∧ (do_request plain gate.shared 2 7).2.isSome) ∧
    ∃ events gate, Runs (Step plain) ⟨login,[]⟩ events gate ∧ ∃ e ∈ cached gate.shared 7, e.2.returned = true ∧
      gate.shared.connection.lookup 1 = some e.2.sent ∧ (do_request plain gate.shared 1 7).1.conflicts = 7::gate.shared.conflicts := by
  constructor
  · exact play_unguarded [.call (.auth 1 1),.call (.request 1 7),.call (.auth 2 2),.resume 0 (some "ok")] ⟨login,[]⟩
      (fun gate => ∃ e ∈ cached gate.shared 7, e.2.sent < 2 ∧
        gate.shared.connection.lookup 2 = some 2 ∧ (do_request plain gate.shared 2 7).2.isSome) (by decide)
  · exact play_unguarded [.call (.auth 1 1),.call (.request 1 7),.resume 0 (some "")] ⟨login,[]⟩
      (fun gate => ∃ e ∈ cached gate.shared 7, e.2.returned = true ∧
        gate.shared.connection.lookup 1 = some e.2.sent ∧ (do_request plain gate.shared 1 7).1.conflicts = 7::gate.shared.conflicts) (by decide)

end runs

end OriginGame.GameGate
