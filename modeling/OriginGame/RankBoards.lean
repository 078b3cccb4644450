import OriginGame.RankMgr

namespace OriginGame.RankMgr

inductive Request where
  | update (member : Int) (b : Board) (score : Int) (gameNode : Option Nat)
  | deleteRecord (b : Board) (member : Int)
  | deleteKey (b : Board) (noDeleteDb : Bool)
  deriving DecidableEq, Repr

def Request.board : Request → Board
  | .update _ b _ _ => b
  | .deleteRecord b _ => b
  | .deleteKey b _ => b

-- A message of another service, or the first of those posted.
inductive Label where
  | request (r : Request)
  | posted
  deriving DecidableEq, Repr

def handle (cfg : Config) (s : State) : Request → State
  | .update member b score gameNode => update cfg s member b score gameNode
  | .deleteRecord b member => deleteRecord s b member
  | .deleteKey b noDeleteDb => deleteKey s b noDeleteDb

def next (cfg : Config) (s : State) : Label → State
  | .request r => handle cfg s r
  | .posted => match s.posts with
    | [] => s
    | (b,member)::rest => deleteRecord {s with posts:=rest} b member

-- The row from which Init rebuilds a member of a board.
def stored (db : Db) (b : Board) (member : Int) : Option Row :=
  match b with
  | .plain key => (db.numbered (.plain key)).lookup member
  | .killTypeAll => db.killType.lookup ⟨member,none⟩
  | .killType format => db.killType.lookup ⟨member,some format⟩
  | .hellActivity type => ((db.numbered .hellActivityRank).lookup member).filter (fun row => row.rankType = some type)
  | .guild key tableKey => db.getMulti key tableKey member

-- The boards Init fills on this node.
def Serves (cfg : Config) (guildIds : List Int) : Board → Prop
  | .hellActivity _ => cfg.hellactivitycenter = true
  | .guild _ tableKey => cfg.hellactivitycenter = false ∧ tableKey ∈ guildIds
  | _ => cfg.hellactivitycenter = false

def IsKill (b : Board) : Prop := (rankTypes b).name = .killType
def IsHell (b : Board) : Prop := (rankTypes b).name = .hellActivityRank

instance : DecidablePred IsKill := fun b => inferInstanceAs (Decidable ((rankTypes b).name = .killType))
instance : DecidablePred IsHell := fun b => inferInstanceAs (Decidable ((rankTypes b).name = .hellActivityRank))

section
variable (cfg : Config) (guildIds : List Int)

-- What is on a board, and what Init would put there.
def on (s : State) (b : Board) (member : Int) : Option Int := (s.redis (.board b)).lookup member

def Agrees (s : State) : Prop :=
  ∀ b member, (Serves cfg guildIds b → on s b member = (stored s.db b member).map (fun row => cfg.double row.score)) ∧
    (¬Serves cfg guildIds b → on s b member = none)

end

section loading
variable {cfg : Config} {db : Db}

theorem restore_here (b : Board) (redis : RedisKey → Table Int Int) (rid : Int) (row : Row) :
    (restore cfg b redis rid row (.board b)).lookup rid = some (cfg.double row.score) := by
  simp only [restore,zadd,Function.update_self,AList.lookup_insert]

theorem restore_other (b : Board) (redis : RedisKey → Table Int Int) (rid : Int) (row : Row) (other : Board) (member : Int)
    (differs : (b,rid) ≠ (other,member)) :
    (restore cfg b redis rid row (.board other)).lookup member = (redis (.board other)).lookup member := by
  have copied (oldScore : Int) : zadd cfg redis (.copy b) oldScore rid (.board other) = redis (.board other) := by
    apply Function.update_of_ne
    intro clash
    cases clash
  simp only [restore,zadd]
  by_cases same : other = b
  · subst same
    have apart : member ≠ rid := fun equal => differs (by rw [equal])
    rw [Function.update_self,AList.lookup_insert_ne apart]
    cases row.lastScore with
    | none => rfl
    | some oldScore => exact congrArg (fun t => AList.lookup member t) (copied oldScore)
  · have apart : RedisKey.board other ≠ .board b := fun equal => same (RedisKey.board.inj equal)
    rw [Function.update_of_ne apart]
    cases row.lastScore with
    | none => rfl
    | some oldScore => exact congrArg (fun t => AList.lookup member t) (copied oldScore)

-- The entries a loop has for one member of one board all hold one row.
def Places [DecidableEq κ] (rankList : Table κ Row) (place : κ → Row → Option (Board × Int)) (b : Board) (member : Int)
    (found : Option Row) : Prop :=
  (∀ id row, rankList.lookup id = some row → place id row = some (b,member) → found = some row) ∧
    ∀ row, found = some row → ∃ id, rankList.lookup id = some row ∧ place id row = some (b,member)

theorem loadOne_placed [DecidableEq κ] (rankList : Table κ Row) (place : κ → Row → Option (Board × Int))
    (redis : RedisKey → Table Int Int) (entry : rankList.lookup k = some row) (placed : place k row = some (b,member)) :
    (loadOne cfg rankList place redis k (.board b)).lookup member = some (cfg.double row.score) := by
  simp only [loadOne,entry,placed]
  exact restore_here b redis member row

theorem loadOne_other [DecidableEq κ] (rankList : Table κ Row) (place : κ → Row → Option (Board × Int))
    (redis : RedisKey → Table Int Int) (apart : ¬∃ row, rankList.lookup k = some row ∧ place k row = some (b,member)) :
    (loadOne cfg rankList place redis k (.board b)).lookup member = (redis (.board b)).lookup member := by
  cases entry : rankList.lookup k with
  | none => simp only [loadOne,entry]
  | some row =>
    cases placed : place k row with
    | none => simp only [loadOne,entry,placed]
    | some target =>
      obtain ⟨other,rid⟩ := target
      simp only [loadOne,entry,placed]
      apply restore_other
      intro equal
      rw [equal] at placed
      exact apart ⟨row,entry,placed⟩

theorem loop_lookup [DecidableEq κ] (order : Order κ) (rankList : Table κ Row) (place : κ → Row → Option (Board × Int))
    (redis : RedisKey → Table Int Int) (places : Places rankList place b member found) :
    (loop cfg order rankList place redis (.board b)).lookup member =
      (found.map (fun row => cfg.double row.score)).or ((redis (.board b)).lookup member) := by
  -- After some of the keys: what they hold for the member, and else what was there.
  have visited (keys : List κ) (redis : RedisKey → Table Int Int) :
      (keys.foldl (loadOne cfg rankList place) redis (.board b)).lookup member =
        if ∃ k ∈ keys, ∃ row, rankList.lookup k = some row ∧ place k row = some (b,member) then
          found.map (fun row => cfg.double row.score)
        else (redis (.board b)).lookup member := by
    induction keys generalizing redis with
    | nil => simp
    | cons k rest ih =>
      rw [List.foldl_cons,ih]
      by_cases later : ∃ k ∈ rest, ∃ row, rankList.lookup k = some row ∧ place k row = some (b,member)
      · obtain ⟨there,inside,holds⟩ := later
        rw [if_pos ⟨there,inside,holds⟩,if_pos ⟨there,List.mem_cons_of_mem _ inside,holds⟩]
      rw [if_neg later]
      by_cases here : ∃ row, rankList.lookup k = some row ∧ place k row = some (b,member)
      · obtain ⟨row,entry,placed⟩ := here
        rw [if_pos ⟨k,List.mem_cons_self,row,entry,placed⟩,places.1 k row entry placed]
        exact loadOne_placed rankList place redis entry placed
      · have nowhere : ¬∃ j ∈ k::rest, ∃ row, rankList.lookup j = some row ∧ place j row = some (b,member) := by
          rintro ⟨j,inside,holds⟩
          rcases List.mem_cons.mp inside with rfl | inside
          · exact here holds
          · exact later ⟨j,inside,holds⟩
        rw [if_neg nowhere]
        exact loadOne_other rankList place redis here
  rw [loop,visited]
  by_cases some_entry : ∃ id ∈ order.visit rankList.keys, ∃ row, rankList.lookup id = some row ∧ place id row = some (b,member)
  · rw [if_pos some_entry]
    obtain ⟨id,_,row,entry,placed⟩ := some_entry
    rw [places.1 id row entry placed]
    rfl
  · rw [if_neg some_entry]
    cases found with
    | none => rfl
    | some row =>
      obtain ⟨id,entry,placed⟩ := places.2 row rfl
      refine absurd ⟨id,order.mem_visit.mpr ?_,row,entry,placed⟩ some_entry
      exact Table.mem_of_lookup entry

-- A part of Init that fills these boards from their rows and leaves the others alone.
def Fills (cfg : Config) (db : Db) (load : (RedisKey → Table Int Int) → RedisKey → Table Int Int) (owns : Board → Prop) : Prop :=
  ∀ redis b member,
    (owns b → (load redis (.board b)).lookup member =
      ((stored db b member).map (fun row => cfg.double row.score)).or ((redis (.board b)).lookup member)) ∧
    (¬owns b → (load redis (.board b)).lookup member = (redis (.board b)).lookup member)

theorem Fills.after {first second : (RedisKey → Table Int Int) → RedisKey → Table Int Int} {owns others : Board → Prop}
    (one : Fills cfg db first owns) (two : Fills cfg db second others) :
    Fills cfg db (fun redis => second (first redis)) (fun b => owns b ∨ others b) := by
  intro redis b member
  obtain ⟨filled,left⟩ := one redis b member
  obtain ⟨refilled,kept⟩ := two (first redis) b member
  by_cases mine : owns b
  · refine ⟨fun _ => ?_,fun neither => absurd (.inl mine) neither⟩
    by_cases again : others b
    · rw [refilled again,filled mine]
      cases stored db b member <;> rfl
    · rw [kept again,filled mine]
  · refine ⟨fun either => ?_,fun neither => ?_⟩
    · rw [refilled (either.resolve_left mine),left mine]
    · rw [kept (fun theirs => neither (.inr theirs)),left mine]

theorem Fills.each {load : (RedisKey → Table Int Int) → α → RedisKey → Table Int Int} {owns : α → Board → Prop}
    (one : ∀ x, Fills cfg db (fun redis => load redis x) (owns x)) (xs : List α) :
    Fills cfg db (fun redis => xs.foldl load redis) (fun b => ∃ x ∈ xs, owns x b) := by
  induction xs with
  | nil =>
    intro redis b member
    refine ⟨?_,fun _ => rfl⟩
    rintro ⟨x,inside,_⟩
    cases inside
  | cons x rest ih =>
    have both := (one x).after ih
    intro redis b member
    obtain ⟨filled,left⟩ := both redis b member
    refine ⟨fun owned => filled ?_,fun unowned => left ?_⟩
    · obtain ⟨y,inside,owned⟩ := owned
      rcases List.mem_cons.mp inside with rfl | inside
      · exact .inl owned
      · exact .inr ⟨y,inside,owned⟩
    · rintro (owned | ⟨y,inside,owned⟩)
      · exact unowned ⟨x,List.mem_cons_self,owned⟩
      · exact unowned ⟨y,List.mem_cons_of_mem _ inside,owned⟩

theorem loop_fills [DecidableEq κ] (order : Order κ) (rankList : Table κ Row) (place : κ → Row → Option (Board × Int))
    {owns : Board → Prop} (mine : ∀ b member, owns b → Places rankList place b member (stored db b member))
    (others : ∀ b member, ¬owns b → Places rankList place b member none) :
    Fills cfg db (loop cfg order rankList place) owns := by
  intro redis b member
  refine ⟨fun owned => loop_lookup order rankList place redis (mine b member owned),fun unowned => ?_⟩
  rw [loop_lookup order rankList place redis (others b member unowned)]
  rfl

theorem plain_fills (orders : Orders) (key : Plain) :
    Fills cfg db (fun redis => loadPlain cfg orders db redis key) (fun b => b = .plain key) := by
  apply loop_fills
  · rintro b member rfl
    refine ⟨?_,fun row found => ⟨member,found,rfl⟩⟩
    intro id row entry placed
    cases placed
    exact entry
  · intro b member differs
    refine ⟨?_,fun row found => by cases found⟩
    intro id row entry placed
    cases placed
    exact absurd rfl differs

theorem multi_fills (orders : Orders) (guildId : Int) (key : GuildKey) :
    Fills cfg db (fun redis => loadMulti cfg orders db guildId redis key) (fun b => b = .guild key guildId) := by
  have rows (member : Int) : (((db.multi key).lookup guildId).getD ∅).lookup member = stored db (.guild key guildId) member := by
    simp only [stored,Db.getMulti]
    cases (db.multi key).lookup guildId <;> rfl
  apply loop_fills
  · rintro b member rfl
    refine ⟨?_,fun row found => ⟨member,(rows member).trans found,rfl⟩⟩
    intro rid row entry placed
    cases placed
    exact (rows member).symm.trans entry
  · intro b member differs
    refine ⟨?_,fun row found => by cases found⟩
    intro id row entry placed
    cases placed
    exact absurd rfl differs

theorem killType_fills (orders : Orders) : Fills cfg db (loadKillType cfg orders db) IsKill := by
  apply loop_fills
  · intro b member kill
    cases b with
    | killTypeAll =>
      refine ⟨?_,fun row found => ⟨⟨member,none⟩,found,rfl⟩⟩
      rintro ⟨rid,format⟩ row entry placed
      cases format with
      | none =>
        cases placed
        exact entry
      | some format => cases placed
    | killType format =>
      refine ⟨?_,fun row found => ⟨⟨member,some format⟩,found,rfl⟩⟩
      rintro ⟨rid,other⟩ row entry placed
      cases other with
      | none => cases placed
      | some other =>
        cases placed
        exact entry
    | plain key => cases kill
    | hellActivity type => cases kill
    | guild key tableKey => cases kill
  · intro b member other
    refine ⟨?_,fun row found => by cases found⟩
    rintro ⟨rid,format⟩ row entry placed
    cases format with
    | none =>
      cases placed
      exact absurd rfl other
    | some format =>
      cases placed
      exact absurd rfl other

theorem hell_fills (orders : Orders) : Fills cfg db (loadHell cfg orders db) IsHell := by
  apply loop_fills
  · intro b member hell
    cases b with
    | hellActivity type =>
      refine ⟨?_,?_⟩
      · intro id row entry placed
        simp only [Option.map_eq_some_iff] at placed
        obtain ⟨age,its,equal⟩ := placed
        cases equal
        simp only [stored,entry,Option.filter_some,its,decide_true,if_true]
      · intro row found
        simp only [stored,Option.filter_eq_some_iff,decide_eq_true_eq] at found
        exact ⟨member,found.1,by simp only [found.2,Option.map_some]⟩
    | plain key => cases hell
    | killTypeAll => cases hell
    | killType format => cases hell
    | guild key tableKey => cases hell
  · intro b member other
    refine ⟨?_,fun row found => by cases found⟩
    intro id row entry placed
    simp only [Option.map_eq_some_iff] at placed
    obtain ⟨age,its,equal⟩ := placed
    cases equal
    exact absurd rfl other

theorem plain_loaded (key : Plain) : key ∈ Plain.first ∨ key ∈ Plain.last := by cases key <;> decide

theorem guild_loaded (key : GuildKey) : key ∈ GuildKey.loaded := by cases key <;> decide

theorem server_fills (orders : Orders) (guildIds : List Int) : Fills cfg db (fun redis =>
      guildIds.foldl (loadGuild cfg orders db) (Plain.last.foldl (loadPlain cfg orders db)
        (loadKillType cfg orders db (Plain.first.foldl (loadPlain cfg orders db) redis))))
    (fun b => (((∃ key ∈ Plain.first, b = .plain key) ∨ IsKill b) ∨ ∃ key ∈ Plain.last, b = .plain key) ∨
      ∃ guildId ∈ guildIds, ∃ key ∈ GuildKey.loaded, b = .guild key guildId) := by
  have plain (keys : List Plain) : Fills cfg db (fun redis => keys.foldl (loadPlain cfg orders db) redis) _ :=
    Fills.each (fun key => plain_fills orders key) keys
  have guild (guildId : Int) : Fills cfg db (fun redis => loadGuild cfg orders db redis guildId) _ :=
    Fills.each (fun key => multi_fills orders guildId key) GuildKey.loaded
  exact (((plain Plain.first).after (killType_fills orders)).after (plain Plain.last)).after (Fills.each guild guildIds)

theorem Fills.agrees {load : (RedisKey → Table Int Int) → RedisKey → Table Int Int} {owns : Board → Prop} {guildIds : List Int}
    (fills : Fills cfg db load owns) (serves : ∀ b, Serves cfg guildIds b ↔ owns b) (posts : List (Board × Int)) :
    Agrees cfg guildIds ⟨load (fun _ => ∅),db,posts⟩ := by
  intro b member
  obtain ⟨filled,left⟩ := fills (fun _ => ∅) b member
  refine ⟨fun served => ?_,fun unserved => ?_⟩
  · rw [on,filled ((serves b).mp served)]
    cases stored db b member <;> rfl
  · rw [on,left (fun owned => unserved ((serves b).mpr owned))]
    rfl

-- Init puts on every board it fills exactly what the rows say.
theorem init_agrees (orders : Orders) (guildIds : List Int) (db : Db) (posts : List (Board × Int)) :
    Agrees cfg guildIds ⟨init cfg orders guildIds db,db,posts⟩ := by
  by_cases center : cfg.hellactivitycenter = true
  · simp only [init,center,if_true]
    refine (hell_fills orders).agrees ?_ posts
    intro b
    cases b <;> simp [Serves,IsHell,rankTypes,center]
  · simp only [init,center]
    refine (server_fills orders guildIds).agrees ?_ posts
    intro b
    cases b with
    | plain key =>
      have loaded := plain_loaded key
      simp [Serves,IsKill,rankTypes,center]
      tauto
    | guild key tableKey => simp [Serves,IsKill,rankTypes,center,guild_loaded]
    | killTypeAll => simp [Serves,IsKill,rankTypes,center]
    | killType format => simp [Serves,IsKill,rankTypes,center]
    | hellActivity type => simp [Serves,IsKill,rankTypes,center]

end loading

section rows
variable (db : Db)

theorem updateDb_written (b : Board) (member score : Int) (gameNode : Option Nat) (lastScore : Option Int) :
    ∃ row, stored (updateDbRow db b member score gameNode lastScore) b member = some row ∧ row.score = score := by
  have kept (old : Option Row) (gameNode : Option Nat) (type : Option Age) : (written old score gameNode type lastScore).score = score := by
    cases old <;> rfl
  cases b with
  | plain key => simp [updateDbRow,stored,Db.put,recordId,rankTypes,kept]
  | killTypeAll => simp [updateDbRow,stored,Db.put,recordId,rankTypes,kept]
  | killType format => simp [updateDbRow,stored,Db.put,recordId,rankTypes,kept]
  | guild key tableKey => simp [updateDbRow,stored,Db.putMulti,Db.getMulti,kept]
  | hellActivity type =>
    have aged (old : Option Row) : (written old score gameNode (some type) lastScore).rankType = some type := by
      cases old <;> rfl
    simp [updateDbRow,stored,Db.put,recordId,rankTypes,kept,aged]

-- The table of the hell boards has one row for a member, whatever its board.
theorem updateDb_beside (b other : Board) (member rid score : Int) (gameNode : Option Nat) (lastScore : Option Int)
    (differs : ¬(other = b ∧ rid = member)) : stored (updateDbRow db b member score gameNode lastScore) other rid =
      if rid = member ∧ IsHell b ∧ IsHell other then none else stored db other rid := by
  cases b with
  | plain key =>
    cases other <;> simp [updateDbRow,stored,Db.put,recordId,rankTypes,IsHell] at differs ⊢
    rename_i other
    by_cases same : other = key
    · subst same
      simp [differs]
    · simp [same]
  | killTypeAll =>
    cases other <;> simp [updateDbRow,stored,Db.put,recordId,rankTypes,IsHell] at differs ⊢
    rw [AList.lookup_insert_ne (by simp [differs])]
  | killType format =>
    cases other <;> simp [updateDbRow,stored,Db.put,recordId,rankTypes,IsHell] at differs ⊢
    rw [AList.lookup_insert_ne (by simp; tauto)]
  | guild key tableKey =>
    cases other <;> simp [updateDbRow,stored,Db.getMulti_putMulti,IsHell,rankTypes] at differs ⊢
    · rfl
    · rfl
    · rfl
    · rfl
    · intro board guild same
      exact absurd same (differs board guild)
  | hellActivity type =>
    cases other <;> simp [updateDbRow,stored,Db.put,recordId,rankTypes,IsHell] at differs ⊢
    rename_i age
    by_cases same : rid = member
    · subst same
      have apart : some type ≠ some age := fun equal => differs (Option.some.inj equal).symm rfl
      rw [AList.lookup_insert,if_pos rfl]
      cases db.get .hellActivityRank (.number rid) <;> simp [written,apart]
    · simp [same]

theorem deleteDb_record (b other : Board) (member rid : Int) : stored (deleteDb db b (some member)) other rid =
    if rid = member ∧ (other = b ∧ ¬IsKill b ∨ IsHell b ∧ IsHell other) then none else stored db other rid := by
  cases b with
  | plain key =>
    cases other <;> simp [deleteDb,stored,Db.delete,rankTypes,IsHell,IsKill]
    rename_i other
    by_cases same : other = key
    · subst same
      by_cases member : rid = member
      · subst member
        simp
      · simp [member]
    · simp [same]
  | killTypeAll => cases other <;> simp [deleteDb,stored,Db.delete,rankTypes,IsHell,IsKill]
  | killType format => cases other <;> simp [deleteDb,stored,Db.delete,rankTypes,IsHell,IsKill]
  | guild key tableKey =>
    cases other <;> simp [deleteDb,stored,Db.getMulti_deleteOne,rankTypes,IsHell,IsKill]
    congr 1
    simp only [eq_iff_iff]
    tauto
  | hellActivity type =>
    cases other <;> simp [deleteDb,stored,Db.delete,rankTypes,IsHell,IsKill]
    by_cases same : rid = member
    · subst same
      simp
    · simp [same]

theorem deleteDb_all (b other : Board) (rid : Int) : stored (deleteDb db b none) other rid =
    if other = b ∨ IsKill b ∧ IsKill other ∨ IsHell b ∧ IsHell other then none else stored db other rid := by
  cases b with
  | plain key =>
    cases other <;> simp [deleteDb,stored,Db.deleteAll,rankTypes,IsHell,IsKill]
    rename_i other
    by_cases same : other = key <;> simp [same]
  | killTypeAll => cases other <;> simp [deleteDb,stored,Db.deleteAll,rankTypes,IsHell,IsKill]
  | killType format => cases other <;> simp [deleteDb,stored,Db.deleteAll,rankTypes,IsHell,IsKill]
  | guild key tableKey => cases other <;> simp [deleteDb,stored,Db.getMulti_deleteAll,rankTypes,IsHell,IsKill]
  | hellActivity type => cases other <;> simp [deleteDb,stored,Db.deleteAll,rankTypes,IsHell,IsKill]

end rows

section redis
variable (cfg : Config) (s : State)

theorem update_db (member : Int) (b : Board) (score : Int) (gameNode : Option Nat) :
    ∃ lastScore, (update cfg s member b score gameNode).db = updateDbRow s.db b member score gameNode lastScore := by
  unfold update
  simp only
  split
  · exact ⟨none,rfl⟩
  · exact ⟨_,rfl⟩

theorem update_board (member : Int) (b other : Board) (score : Int) (gameNode : Option Nat) :
    (update cfg s member b score gameNode).redis (.board other) = zadd cfg s.redis (.board b) score member (.board other) := by
  unfold update
  simp only
  split
  · rfl
  · have apart : RedisKey.board other ≠ .copy b := by simp
    simp only [zadd,updateDb]
    rw [Function.update_of_ne apart]

theorem update_copy (member : Int) (b other : Board) (score : Int) (gameNode : Option Nat) (differs : other ≠ b) :
    (update cfg s member b score gameNode).redis (.copy other) = s.redis (.copy other) := by
  have apart : RedisKey.copy other ≠ .copy b := fun equal => differs (RedisKey.copy.inj equal)
  have added : zadd cfg s.redis (.board b) score member (.copy other) = s.redis (.copy other) := by
    apply Function.update_of_ne
    intro clash
    cases clash
  unfold update
  simp only
  split
  · exact added
  · simp only [zadd,updateDb] at added ⊢
    rw [Function.update_of_ne apart]
    exact added

theorem update_on (member : Int) (b other : Board) (rid score : Int) (gameNode : Option Nat) :
    on (update cfg s member b score gameNode) other rid =
      if other = b ∧ rid = member then some (cfg.double score) else on s other rid := by
  rw [on,update_board,zadd]
  by_cases same : other = b
  · subst same
    rw [Function.update_self]
    by_cases there : rid = member
    · subst there
      rw [AList.lookup_insert,if_pos ⟨rfl,rfl⟩]
    · rw [AList.lookup_insert_ne there,if_neg (fun both => there both.2),on]
  · rw [Function.update_of_ne (fun equal => same (RedisKey.board.inj equal)),if_neg (fun both => same both.1),on]

theorem deleteRecord_on (b other : Board) (member rid : Int) : on (deleteRecord s b member) other rid =
    if other = b ∧ rid = member then none else on s other rid := by
  simp only [on,deleteRecord,zrem]
  by_cases same : other = b
  · subst same
    rw [Function.update_self,Function.update_of_ne (by simp)]
    by_cases there : rid = member
    · subst there
      rw [AList.lookup_erase,if_pos ⟨rfl,rfl⟩]
    · rw [AList.lookup_erase_ne there,if_neg (fun both => there both.2)]
  · rw [Function.update_of_ne (fun equal => same (RedisKey.board.inj equal)),Function.update_of_ne (by simp),
      if_neg (fun both => same both.1)]

theorem deleteKey_on (b other : Board) (noDeleteDb : Bool) (rid : Int) : on (deleteKey s b noDeleteDb) other rid =
    if other = b then none else on s other rid := by
  simp only [on,deleteKey,del]
  by_cases same : other = b
  · subst same
    rw [Function.update_self,if_pos rfl]
    rfl
  · rw [Function.update_of_ne (fun equal => same (RedisKey.board.inj equal)),Function.update_of_ne (by simp),if_neg same]

end redis

section restart
variable (cfg : Config) (guildIds : List Int)

-- The table of its board keeps the other boards that share it, and the row of the member
-- goes with the member.
def SparesRecord (s : State) (b : Board) (member : Int) : Prop :=
  (IsKill b → on s b member = none) ∧ ∀ other, other ≠ b → IsHell b → IsHell other → on s other member = none

def Spares (s : State) : Request → Prop
  | .update member b _ _ => Serves cfg guildIds b ∧ ∀ other, other ≠ b → IsHell b → IsHell other → on s other member = none
  | .deleteRecord b member => SparesRecord s b member
  | .deleteKey b true => ∀ member, on s b member = none
  | .deleteKey b false => ∀ other member, other ≠ b → IsKill b ∧ IsKill other ∨ IsHell b ∧ IsHell other → on s other member = none

def SparesNext (s : State) : Label → Prop
  | .request r => Spares cfg guildIds s r
  | .posted => ∀ post ∈ s.posts.head?, SparesRecord s post.1 post.2

variable {cfg guildIds} {s : State}

theorem Agrees.stored_none (agrees : Agrees cfg guildIds s) (served : Serves cfg guildIds b) (absent : on s b member = none) :
    stored s.db b member = none := by
  rw [(agrees b member).1 served] at absent
  exact Option.map_eq_none_iff.mp absent

theorem update_agrees (agrees : Agrees cfg guildIds s) (spares : Spares cfg guildIds s (.update member b score gameNode)) :
    Agrees cfg guildIds (update cfg s member b score gameNode) := by
  obtain ⟨served,alone⟩ := spares
  obtain ⟨lastScore,rows⟩ := update_db cfg s member b score gameNode
  intro other rid
  rw [update_on,rows]
  by_cases same : other = b ∧ rid = member
  · obtain ⟨rfl,rfl⟩ := same
    obtain ⟨row,found,scored⟩ := updateDb_written s.db other rid score gameNode lastScore
    refine ⟨fun _ => ?_,fun unserved => absurd served unserved⟩
    rw [if_pos ⟨rfl,rfl⟩,found,Option.map_some,scored]
  · rw [if_neg same,updateDb_beside s.db b other member rid score gameNode lastScore same]
    refine ⟨fun here => ?_,(agrees other rid).2⟩
    split
    · rename_i clash
      obtain ⟨rfl,hell,too⟩ := clash
      exact alone other (fun equal => same ⟨equal,rfl⟩) hell too
    · exact (agrees other rid).1 here

theorem deleteRecord_agrees (agrees : Agrees cfg guildIds s) (spares : SparesRecord s b member) :
    Agrees cfg guildIds (deleteRecord s b member) := by
  obtain ⟨kill,alone⟩ := spares
  intro other rid
  rw [deleteRecord_on]
  change (_ → _ = Option.map _ (stored (deleteDb s.db b (some member)) other rid)) ∧ _
  rw [deleteDb_record]
  by_cases same : other = b ∧ rid = member
  · obtain ⟨rfl,rfl⟩ := same
    refine ⟨fun served => ?_,fun _ => by rw [if_pos ⟨rfl,rfl⟩]⟩
    rw [if_pos ⟨rfl,rfl⟩]
    split
    · rfl
    · rename_i untouched
      have killed : IsKill other := by tauto
      rw [agrees.stored_none served (kill killed)]
      rfl
  · rw [if_neg same]
    refine ⟨fun served => ?_,(agrees other rid).2⟩
    split
    · rename_i clash
      have hells : IsHell b ∧ IsHell other := by tauto
      rw [clash.1]
      exact alone other (fun equal => same ⟨equal,clash.1⟩) hells.1 hells.2
    · exact (agrees other rid).1 served

theorem deleteKey_agrees (agrees : Agrees cfg guildIds s) (spares : Spares cfg guildIds s (.deleteKey b noDeleteDb)) :
    Agrees cfg guildIds (deleteKey s b noDeleteDb) := by
  intro other rid
  rw [deleteKey_on]
  cases noDeleteDb with
  | true =>
    change (_ → _ = Option.map _ (stored s.db other rid)) ∧ _
    by_cases same : other = b
    · subst same
      rw [if_pos rfl]
      refine ⟨fun served => ?_,fun _ => rfl⟩
      rw [agrees.stored_none served (spares rid)]
      rfl
    · rw [if_neg same]
      exact agrees other rid
  | false =>
    change (_ → _ = Option.map _ (stored (deleteDb s.db b none) other rid)) ∧ _
    rw [deleteDb_all]
    by_cases same : other = b
    · rw [if_pos same,if_pos (.inl same)]
      exact ⟨fun _ => rfl,fun _ => rfl⟩
    · rw [if_neg same]
      refine ⟨fun served => ?_,(agrees other rid).2⟩
      split
      · rename_i clash
        exact spares other rid same (clash.resolve_left same)
      · exact (agrees other rid).1 served

theorem next_agrees (agrees : Agrees cfg guildIds s) (spares : SparesNext cfg guildIds s label) :
    Agrees cfg guildIds (next cfg s label) := by
  cases label with
  | request r =>
    cases r with
    | update member b score gameNode => exact update_agrees agrees spares
    | deleteRecord b member => exact deleteRecord_agrees agrees spares
    | deleteKey b noDeleteDb => exact deleteKey_agrees agrees spares
  | posted =>
    rw [next]
    split
    · exact agrees
    · rename_i b member rest waiting
      have spared : SparesRecord s b member := spares (b,member) (by rw [waiting]; rfl)
      have left : Agrees cfg guildIds {s with posts:=rest} := agrees
      exact deleteRecord_agrees left spared

-- A node that has run Init.
def started (cfg : Config) (orders : Orders) (guildIds : List Int) (db : Db) : State := ⟨init cfg orders guildIds db,db,[]⟩

def Steps (cfg : Config) (s : State) (label : Label) (t : State) : Prop := t = next cfg s label

theorem restart_rebuilds (cfg : Config) (orders later : Orders) (guildIds : List Int) (db : Db)
    (path : Runs (Guarded (Steps cfg) (SparesNext cfg guildIds)) (started cfg orders guildIds db) labels t) (b : Board) (member : Int) :
    (init cfg later guildIds t.db (.board b)).lookup member = on t b member := by
  have kept : Agrees cfg guildIds t := by
    refine Runs.invariant ?_ path (init_agrees orders guildIds db [])
    rintro before label after agrees ⟨rfl,spares⟩
    exact next_agrees agrees spares
  obtain ⟨live,idle⟩ := kept b member
  obtain ⟨rebuilt,empty⟩ := init_agrees later guildIds t.db [] b member
  by_cases served : Serves cfg guildIds b
  · exact (rebuilt served).trans (live served).symm
  · exact (empty served).trans (idle served).symm

def server : Config := ⟨id,fun _ => ⟨1,100⟩,false⟩

def rowless : Db := ⟨fun _ => ∅,∅,fun _ => ∅⟩

def storedOrders : Orders := ⟨fun _ => .stored,.stored,fun _ _ => .stored⟩

-- A score of 30 in training, which is more than any other, and then the member is removed.
def trainThenRemove : List Label := [.request (.update 7 (.killType .train) 30 none),.request (.deleteRecord (.killType .train) 7)]

theorem removed_returns : ¬∀ (cfg : Config) (orders later : Orders) (guildIds : List Int) (db : Db) (labels : List Label) (t : State),
    Runs (Steps cfg) (started cfg orders guildIds db) labels t →
      ∀ b member, (init cfg later guildIds t.db (.board b)).lookup member = on t b member := by
  intro always
  have equal := always server storedOrders storedOrders [] rowless trainThenRemove _ (.more rfl (.more rfl .done)) (.killType .train) 7
  revert equal
  decide

def townhalls : List Label :=
  [.request (.update 7 (.plain .townhall) 30 none),.request (.update 8 (.plain .townhall) 20 none),
    .request (.deleteRecord (.plain .townhall) 7)]

def townhallsLeft : State := townhalls.foldl (next server) (started server storedOrders [] rowless)

theorem townhalls_spared :
    Runs (Guarded (Steps server) (SparesNext server [])) (started server storedOrders [] rowless) townhalls townhallsLeft := by
  have alone (hell : IsHell (.plain .townhall)) : False := by cases hell
  have numbered (kill : IsKill (.plain .townhall)) : False := by cases kill
  refine .more ⟨rfl,rfl,?_⟩ (.more ⟨rfl,rfl,?_⟩ (.more ⟨rfl,?_,?_⟩ .done))
  · exact fun _ _ hell => (alone hell).elim
  · exact fun _ _ hell => (alone hell).elim
  · exact fun kill => (numbered kill).elim
  · exact fun _ _ hell => (alone hell).elim

theorem townhall_rebuilt :
    (init server storedOrders [] townhallsLeft.db (.board (.plain .townhall))).lookup 8 = on townhallsLeft (.plain .townhall) 8 ∧
    on townhallsLeft (.plain .townhall) 8 = some 20 :=
  ⟨restart_rebuilds server storedOrders storedOrders [] rowless townhalls_spared (.plain .townhall) 8,by decide⟩

end restart

section isolation
variable {cfg : Config} {s : State}

-- A board with the rows Init rebuilds it from.
structure Untouched (s t : State) (b : Board) : Prop where
  board : t.redis (.board b) = s.redis (.board b)
  copy : t.redis (.copy b) = s.redis (.copy b)
  rows : ∀ member, stored t.db b member = stored s.db b member

-- The request takes no row of the board away: none of the member at another hell board,
-- and none of a board of the same table when all rows go.
def Isolates (s : State) (r : Request) (b : Board) : Prop :=
  match r with
  | .update member mine _ _ => IsHell mine → IsHell b → stored s.db b member = none
  | .deleteRecord mine member => IsHell mine → IsHell b → stored s.db b member = none
  | .deleteKey mine noDeleteDb => noDeleteDb = false → IsKill mine ∧ IsKill b ∨ IsHell mine ∧ IsHell b →
    ∀ member, stored s.db b member = none

theorem update_isolated (differs : b ≠ mine) :
    Untouched s (update cfg s member mine score gameNode) b ↔ Isolates s (.update member mine score gameNode) b := by
  obtain ⟨lastScore,rows⟩ := update_db cfg s member mine score gameNode
  have beside (rid : Int) := updateDb_beside s.db mine b member rid score gameNode lastScore (fun both => differs both.1)
  constructor
  · intro untouched hell too
    have same := untouched.rows member
    rw [rows,beside member,if_pos ⟨rfl,hell,too⟩] at same
    exact same.symm
  · intro isolates
    refine ⟨?_,update_copy cfg s member mine b score gameNode differs,?_⟩
    · rw [update_board]
      exact Function.update_of_ne (fun equal => differs (RedisKey.board.inj equal)) _ _
    · intro rid
      rw [rows,beside rid]
      split
      · rename_i clash
        obtain ⟨rfl,hell,too⟩ := clash
        exact (isolates hell too).symm
      · rfl

theorem deleteRecord_isolated (differs : b ≠ mine) :
    Untouched s (deleteRecord s mine member) b ↔ Isolates s (.deleteRecord mine member) b := by
  have rows (rid : Int) : stored (deleteRecord s mine member).db b rid = _ := deleteDb_record s.db mine b member rid
  constructor
  · intro untouched hell too
    have same := untouched.rows member
    rw [rows member,if_pos ⟨rfl,.inr ⟨hell,too⟩⟩] at same
    exact same.symm
  · intro isolates
    have board : RedisKey.board b ≠ .board mine := fun equal => differs (RedisKey.board.inj equal)
    have copy : RedisKey.copy b ≠ .copy mine := fun equal => differs (RedisKey.copy.inj equal)
    refine ⟨?_,?_,?_⟩
    · simp only [deleteRecord,zrem]
      rw [Function.update_of_ne board,Function.update_of_ne (by simp)]
    · simp only [deleteRecord,zrem]
      rw [Function.update_of_ne (by simp),Function.update_of_ne copy]
    · intro rid
      rw [rows rid]
      split
      · rename_i clash
        obtain ⟨rfl,⟨equal,_⟩ | ⟨hell,too⟩⟩ := clash
        · exact absurd equal differs
        · exact (isolates hell too).symm
      · rfl

theorem deleteKey_isolated (differs : b ≠ mine) :
    Untouched s (deleteKey s mine noDeleteDb) b ↔ Isolates s (.deleteKey mine noDeleteDb) b := by
  have board : RedisKey.board b ≠ .board mine := fun equal => differs (RedisKey.board.inj equal)
  have copy : RedisKey.copy b ≠ .copy mine := fun equal => differs (RedisKey.copy.inj equal)
  have redis : (deleteKey s mine noDeleteDb).redis (.board b) = s.redis (.board b) ∧
      (deleteKey s mine noDeleteDb).redis (.copy b) = s.redis (.copy b) := by
    simp only [deleteKey,del]
    rw [Function.update_of_ne board,Function.update_of_ne (by simp),Function.update_of_ne (by simp),Function.update_of_ne copy]
    exact ⟨rfl,rfl⟩
  cases noDeleteDb with
  | true => exact ⟨fun _ missing => absurd missing (by simp),fun _ => ⟨redis.1,redis.2,fun _ => rfl⟩⟩
  | false =>
    have rows (rid : Int) : stored (deleteKey s mine false).db b rid = _ := deleteDb_all s.db mine b rid
    constructor
    · intro untouched _ shared rid
      have same := untouched.rows rid
      rw [rows rid,if_pos (.inr shared)] at same
      exact same.symm
    · intro isolates
      refine ⟨redis.1,redis.2,?_⟩
      intro rid
      rw [rows rid]
      split
      · rename_i clash
        exact (isolates rfl (clash.resolve_left differs) rid).symm
      · rfl

theorem boards_isolated (cfg : Config) (s : State) (r : Request) (b : Board) (differs : b ≠ r.board) :
    Untouched s (handle cfg s r) b ↔ Isolates s r b := by
  cases r with
  | update member mine score gameNode => exact update_isolated differs
  | deleteRecord mine member => exact deleteRecord_isolated differs
  | deleteKey mine noDeleteDb => exact deleteKey_isolated differs

-- Both boards of member 7, with their rows.
def trained : State := update server (update server ⟨fun _ => ∅,rowless,[]⟩ 7 (.killType .train) 30 none) 7 .killTypeAll 30 none

theorem total_deleted : ¬∀ (cfg : Config) (s : State) (r : Request) (b : Board), b ≠ r.board → Untouched s (handle cfg s r) b := by
  intro always
  have rows := (always server trained (.deleteKey (.killType .train) false) .killTypeAll (by decide)).rows 7
  revert rows
  decide

theorem total_kept : Untouched trained (handle server trained (.deleteRecord (.killType .train) 7)) .killTypeAll :=
  (boards_isolated server trained (.deleteRecord (.killType .train) 7) .killTypeAll (by decide)).mpr (fun hell => by cases hell)

end isolation
end OriginGame.RankMgr
