import SqliteServer.Pragmas
import SqliteServer.RecordedBackend
import SqliteServer.Rejections

/-! Which handle a session uses for a database, over whole runs. -/

namespace SqliteServer

open Json Files Runs

-----------------------------------------------------------------------------------------
-- What a request does to the cache
-----------------------------------------------------------------------------------------

/-- The calls of a query that runs: it is prepared, and stepped if that succeeds. -/
def StatementCalls (id : Nat) (sql : String) (calls : List Call) : Prop :=
  calls = [.prepared id sql] ∨ calls = [.prepared id sql, .queried id]

/-- What a request can do: its command, response and calls, the handler after it, and the number
of handles given after it.
-/
inductive Conduct {Conn : Type} (config : Config) (handler : RequestHandler (Handle Conn))
    (given : Nat)
    : Command → Value → List Call → RequestHandler (Handle Conn) → Nat → Prop where
  | idle (command : Command) (response : Value) (next : RequestHandler (Handle Conn))
      (same : next.databases = handler.databases)
      (kept : ∀ db, command = .deleteDb db → response ≠ resultResponse "ok")
      : Conduct config handler given command response [] next given
  | untuned (db sql : String) (response : Value) (absent : handler.connection? db = none)
      : Conduct config handler given (.query db sql) response
          [
            .opened given (join config.databasesFolder db),
            .executed given (tuningBatch config) false
          ]
          handler (given + 1)
  | opened (db sql : String) (response : Value) (conn : Conn) (calls : List Call)
      (absent : handler.connection? db = none) (statement : StatementCalls given sql calls)
      : Conduct config handler given (.query db sql) response
          (.opened given (join config.databasesFolder db)
            :: .executed given (tuningBatch config) true :: calls)
          (handler.insert db ⟨given, conn⟩) (given + 1)
  | used (db sql : String) (response : Value) (handle : Handle Conn) (calls : List Call)
      (cached : handler.connection? db = some handle)
      (statement : StatementCalls handle.id sql calls)
      : Conduct config handler given (.query db sql) response calls handler given
  | deleted (db : String)
      : Conduct config handler given (.deleteDb db) (resultResponse "ok") [] (handler.remove db)
          given

section Conduct

variable {World Conn Stmt : Type} {backend : Backend World Conn Stmt} {config : Config}
  {serde : SerdeJson}

/-- Removing a database that is not open changes nothing. -/
theorem RequestHandler.remove_absent {handler : RequestHandler Conn} {db : String}
    (absent : handler.connection? db = none)
    : handler.remove db = handler := by
  obtain ⟨databases, authenticated⟩ := handler
  have all : ∀ entry ∈ databases, (entry.1 != db) = true := by
    intro entry member
    have missing : (db != entry.1) = true := List.lookup_eq_none_iff.mp absent entry member
    exact bne_iff_ne.mpr (Ne.symm (bne_iff_ne.mp missing))
  rw [remove, mk.injEq]
  exact ⟨List.filter_eq_self.mpr all, rfl⟩

/-- With a connection, a query prepares its statement on it and steps it, and does no more. -/
theorem runQuery_statement {db sql : String} {handler next : RequestHandler (Handle Conn)}
    {world world' : Recorded World} {handle : Handle Conn} (text : trim sql ≠ "")
    (got
      : getConnection (recorded backend) config db handler world = (.ok handle, next, world'))
    : ∃ calls world'',
        StatementCalls handle.id sql calls
        ∧ (runQuery (recorded backend) config db sql handler world).2
          = (next, ⟨world'', world'.given, world'.calls ++ calls⟩) := by
  cases prepared : backend.prepare world'.world handle.conn sql with
  | mk result world'' =>
      have preparing
          : (recorded backend).prepare world' handle sql
            = (result, world'.record world'' (.prepared handle.id sql)) := by
        dsimp only [recorded]
        rw [prepared]
      cases result with
      | error err =>
          rw [runQuery_unprepared text got preparing]
          exact ⟨[.prepared handle.id sql], world'', .inl rfl, rfl⟩
      | ok stmt =>
          refine ⟨[.prepared handle.id sql, .queried handle.id],
            (collectRows (backend.columnNames stmt) (backend.query world'' handle.conn stmt) []).2,
            .inr rfl, ?_⟩
          rw [runQuery_prepared text got preparing]
          dsimp only
          rw [stepQuery_world]
          dsimp only [recorded]
          rw [collectRows_map]
          simp [Recorded.record]

/-- A query that does not run leaves the cache alone. -/
theorem Conduct.idle_query {handler : RequestHandler (Handle Conn)} {given : Nat} (db sql : String)
    (response : Value)
    : Conduct config handler given (.query db sql) response [] handler given := by
  refine .idle _ _ handler rfl ?_
  intro _ named
  cases named

/-- The conduct of a query that is accepted: by cases on the cache, on opening and on tuning. -/
theorem runQuery_conduct (db sql : String) (handler : RequestHandler (Handle Conn))
    (world : Recorded World) (response : Value) (fresh : world.calls = [])
    : Conduct config handler world.given (.query db sql) response
        (runQuery (recorded backend) config db sql handler world).2.2.calls
        (runQuery (recorded backend) config db sql handler world).2.1
        (runQuery (recorded backend) config db sql handler world).2.2.given := by
  by_cases empty : trim sql = ""
  · rw [runQuery_empty empty]
    dsimp only
    rw [fresh]
    exact .idle_query db sql _
  · cases cached : handler.connection? db with
    | some handle =>
        have got
            : getConnection (recorded backend) config db handler world
              = (.ok handle, handler, world) := by
          rw [getConnection, cached]
        obtain ⟨calls, final, statement, run⟩ := runQuery_statement empty got
        rw [run, fresh]
        exact .used db sql response handle calls cached statement
    | none =>
        cases opened : backend.openConnection world.world (join config.databasesFolder db) with
        | mk result world' =>
            cases result with
            | error err =>
                have failed
                    : getConnection (recorded backend) config db handler world
                      = (.error err, handler, { world with world := world' }) := by
                  rw [getConnection, cached]
                  dsimp only [recorded]
                  rw [opened]
                rw [runQuery_failed empty failed]
                dsimp only
                rw [fresh]
                exact .idle_query db sql _
            | ok conn =>
                cases tuned : backend.executeBatch world' conn (tuningBatch config) with
                | mk tuning world'' =>
                    cases tuning with
                    | error err =>
                        have failed
                            : getConnection (recorded backend) config db handler world
                              = (.error err, handler,
                                ⟨
                                  backend.close world'' conn,
                                  world.given + 1,
                                  [
                                    .opened world.given (join config.databasesFolder db),
                                    .executed world.given (tuningBatch config) false
                                  ]
                                ⟩) := by
                          rw [getConnection, cached]
                          dsimp only [recorded]
                          rw [opened]
                          dsimp only
                          rw [tuned, fresh]
                          rfl
                        rw [runQuery_failed empty failed]
                        exact .untuned db sql response cached
                    | ok _ =>
                        have got
                            : getConnection (recorded backend) config db handler world
                              = (.ok ⟨world.given, conn⟩, handler.insert db ⟨world.given, conn⟩,
                                ⟨
                                  world'',
                                  world.given + 1,
                                  [
                                    .opened world.given (join config.databasesFolder db),
                                    .executed world.given (tuningBatch config) true
                                  ]
                                ⟩) := by
                          rw [getConnection, cached]
                          dsimp only [recorded]
                          rw [opened]
                          dsimp only
                          rw [tuned, fresh]
                          rfl
                        obtain ⟨calls, final, statement, run⟩ := runQuery_statement empty got
                        rw [run]
                        exact .opened db sql response conn calls cached statement

/-- The conduct of every request: by cases on its command. -/
theorem handleRequest_conduct (backend : Backend World Conn Stmt) (config : Config)
    (serde : SerdeJson) (req : String) (handler : RequestHandler (Handle Conn))
    (world : Recorded World) (fresh : world.calls = [])
    : Conduct config handler world.given (handledCommand config serde handler req)
        (handleRequest (recorded backend) config serde req handler world).1
        (handleRequest (recorded backend) config serde req handler world).2.2.calls
        (handleRequest (recorded backend) config serde req handler world).2.1
        (handleRequest (recorded backend) config serde req handler world).2.2.given := by
  have other (command : Command) (none' : ∀ db, command ≠ .deleteDb db)
      (unmatched : ∀ json command,
        requested config serde handler req = some (json, command) → command = .other)
      : Conduct config handler world.given command
          (handleRequest (recorded backend) config serde req handler world).1
          (handleRequest (recorded backend) config serde req handler world).2.2.calls
          (handleRequest (recorded backend) config serde req handler world).2.1
          (handleRequest (recorded backend) config serde req handler world).2.2.given := by
    rcases handleRequest_other (recorded backend) unmatched world with same | authenticates
    · rw [same, fresh]
      exact .idle _ _ handler rfl (fun db named => absurd named (none' db))
    · rw [authenticates, fresh]
      exact .idle _ _ _ rfl (fun db named => absurd named (none' db))
  cases request : requested config serde handler req with
  | none =>
      have command : handledCommand config serde handler req = .other := by
        rw [handledCommand, request]
        rfl
      rw [command]
      exact other .other nofun (by simp [request])
  | some found =>
      obtain ⟨json, command⟩ := found
      have named : handledCommand config serde handler req = command := by
        rw [handledCommand, request]
        rfl
      rw [named]
      cases command with
      | other =>
          refine other .other nofun ?_
          intro json' command' same
          exact (Prod.mk.inj (Option.some.inj (request.symm.trans same))).2.symm
      | query db sql =>
          rw [handleRequest_query (recorded backend) request]
          by_cases safe : isSafeDatabaseName (recorded backend) config world db = true
          · rw [if_pos safe]
            dsimp only
            exact runQuery_conduct db sql handler world _ fresh
          · rw [if_neg safe]
            dsimp only
            rw [fresh]
            exact .idle_query db sql _
      | deleteDb db =>
          rw [handleRequest_deleteDb (recorded backend) request]
          by_cases safe : isSafeDatabaseName (recorded backend) config world db = true
          · rw [if_pos safe]
            dsimp only [recorded]
            cases backend.removeFile world.world (join config.databasesFolder db) with
            | none =>
                dsimp only [Option.map_none]
                rw [fresh]
                refine .idle _ _ handler rfl ?_
                intro _ _ same
                exact absurd (resultResponse_injective same) (by decide)
            | some world' =>
                dsimp only [Option.map_some]
                cases cached : handler.connection? db with
                | none =>
                    dsimp only
                    rw [fresh]
                    have deleted
                        : Conduct config handler world.given (.deleteDb db) (resultResponse "ok")
                            [] (handler.remove db) world.given :=
                      .deleted db
                    rwa [RequestHandler.remove_absent cached] at deleted
                | some handle =>
                    dsimp only
                    rw [fresh]
                    exact .deleted db
          · rw [if_neg safe]
            dsimp only
            rw [fresh]
            refine .idle _ _ handler rfl ?_
            intro _ _ same
            have code := genericError_code noDatabaseSpecified json
            rw [same, resultResponse_keys (by decide)] at code
            contradiction

end Conduct

-----------------------------------------------------------------------------------------
-- Histories of sessions
-----------------------------------------------------------------------------------------

namespace Deed

/-- A query of the session on the database opens the handle and tunes it. -/
def Opens (config : Config) (session : Nat) (db : String) (id : Nat) : Deed → Prop
  | .answered s (.query d _) _ calls =>
      s = session ∧ d = db ∧ .opened id (join config.databasesFolder db) ∈ calls
      ∧ .executed id (tuningBatch config) true ∈ calls
  | _ => False

/-- The session deletes the database, or ends. -/
def Closes (session : Nat) (db : String) : Deed → Prop
  | .answered s (.deleteDb d) response _ => s = session ∧ d = db ∧ response = resultResponse "ok"
  | .answered _ _ _ _ => False
  | .ended s => s = session

def database? : Deed → Option String
  | .answered _ command _ _ => command.database?
  | .ended _ => none

def Uses (id : Nat) (deed : Deed) : Prop := ∃ call ∈ deed.calls, call.handle = id

end Deed

/-- The session has opened the handle for the database, and neither deleted the database nor ended
since.
-/
def OpenedSince (config : Config) (session : Nat) (db : String) (id : Nat) (history : List Deed)
    : Prop :=
  Since (Deed.Opens config session db id) (Deed.Closes session db) history

/-- Every earlier use of the same handles is by the same session, for the same database. -/
def SameOwner (before : List Deed) (deed : Deed) : Prop :=
  ∀ id, deed.Uses id → ∀ a earlier b,
    before = a ++ earlier :: b
    → earlier.Uses id
    → earlier.session = deed.session ∧ earlier.database? = deed.database?
      ∧ .ended deed.session ∉ b

/-- Statements run on the handle opened since for the database of the query. -/
def RunsOnOpened (config : Config) (before : List Deed) (deed : Deed) : Prop :=
  ∀ call ∈ deed.calls,
    call.isStatement = true
    → ∃ db, deed.database? = some db
        ∧ OpenedSince config deed.session db call.handle (before ++ [deed])

/-- The three pragmas have been applied to a statement's handle before, with the configured
timeout.
-/
def TunedBefore (config : Config) (before : List Call) (call : Call) : Prop :=
  call.isStatement = true
  → ∃ batch, .executed call.handle batch true ∈ before ∧ Tunes config batch

/-- The server's batch has been executed on a statement's handle before. -/
def BatchBefore (config : Config) (before : List Call) (call : Call) : Prop :=
  call.isStatement = true → .executed call.handle (tuningBatch config) true ∈ before

/-- No batch but the server's is executed on a handle. -/
def OnlyTunes (config : Config) : Call → Prop
  | .executed _ batch _ => batch = tuningBatch config
  | _ => True

/-- The cache of a session holds the handle opened since, statements run on it, and no other session
or database uses it.
-/
structure KeepsCaches {World Conn : Type} (config : Config) (history : List Deed)
    (server : Server (Recorded World) (Handle Conn))
    : Prop where
  cache
    : ∀ session db id,
        ((server.sessions session).connection? db).map Handle.id = some id
        ↔ OpenedSince config session db id history
  statements : AtEach (RunsOnOpened config) history
  owner : AtEach SameOwner history

/-- A server keeps its handles: they stay in the caches of their sessions, and they are tuned before
they are used.
-/
structure KeepsHandles {World Conn : Type} (config : Config) (history : List Deed)
    (server : Server (Recorded World) (Handle Conn))
    : Prop extends KeepsCaches config history server where
  tuned : AtEach (TunedBefore config) (history.flatMap Deed.calls)

/-- The server's batch is what tunes handles, handles are numbered in order, and what is opened
since is used by its owner only.
-/
structure HandleInvariant {World Conn : Type} (config : Config) (history : List Deed)
    (server : Server (Recorded World) (Handle Conn))
    : Prop where
  keeps : KeepsCaches config history server
  batch : AtEach (BatchBefore config) (history.flatMap Deed.calls)
  only : ∀ call ∈ history.flatMap Deed.calls, OnlyTunes config call
  given : ∀ deed ∈ history, ∀ id, deed.Uses id → id < server.world.given
  alive
    : ∀ session db id,
        OpenedSince config session db id history
        → ∀ a deed b,
            history = a ++ deed :: b
            → deed.Uses id
            → deed.session = session ∧ deed.database? = some db ∧ .ended session ∉ b

section Invariant

variable {World Conn Stmt : Type} {backend : Backend World Conn Stmt} {config : Config}
  {serde : SerdeJson} {history : List Deed} {server : Server (Recorded World) (Handle Conn)}

theorem Deed.Opens.uses {session : Nat} {db : String} {id : Nat} {deed : Deed}
    (opens : deed.Opens config session db id)
    : deed.Uses id ∧ deed.session = session ∧ deed.database? = some db := by
  cases deed with
  | ended s => contradiction
  | answered s command response calls =>
      cases command with
      | query d sql =>
          obtain ⟨rfl, rfl, opened, -⟩ := opens
          exact ⟨⟨_, opened, rfl⟩, rfl, rfl⟩
      | deleteDb d => contradiction
      | other => contradiction

theorem Deed.Closes.session {session : Nat} {db : String} {deed : Deed}
    (closes : deed.Closes session db)
    : deed.session = session := by
  cases deed with
  | ended s => exact closes
  | answered s command response calls =>
      cases command with
      | query d sql => contradiction
      | deleteDb d => exact closes.1
      | other => contradiction

/-- A handle opened since has been given. -/
theorem HandleInvariant.lt_given (invariant : HandleInvariant config history server) {session : Nat}
    {db : String} {id : Nat} (since : OpenedSince config session db id history)
    : id < server.world.given := by
  obtain ⟨deed, member, opens⟩ := Since.exists_mem since
  exact invariant.given deed member id opens.uses.1

/-- A handle is opened since for one session and one database only: its opening is a use of it. -/
theorem HandleInvariant.owner_unique (invariant : HandleInvariant config history server)
    {session session' : Nat} {db db' : String} {id : Nat}
    (since : OpenedSince config session db id history)
    (since' : OpenedSince config session' db' id history)
    : session = session' ∧ db = db' := by
  obtain ⟨before, deed, later, split, opens, -⟩ := since
  obtain ⟨uses, sameSession, sameDb⟩ := opens.uses
  obtain ⟨sameSession', sameDb', -⟩ :=
    invariant.alive session' db' id since' before deed later split uses
  exact ⟨sameSession.symm.trans sameSession', Option.some.inj (sameDb.symm.trans sameDb')⟩

section OneRequest

variable {handler next : RequestHandler (Handle Conn)} {given given' : Nat} {command : Command}
  {response : Value} {calls : List Call}

theorem StatementCalls.handle_eq {id : Nat} {sql : String} (statement : StatementCalls id sql calls)
    {call : Call} (member : call ∈ calls)
    : call.handle = id := by
  rcases statement with rfl | rfl <;> simp at member
  · rw [member]
    rfl
  · rcases member with rfl | rfl <;> rfl

theorem StatementCalls.isStatement {id : Nat} {sql : String}
    (statement : StatementCalls id sql calls) {call : Call} (member : call ∈ calls)
    : call.isStatement = true := by
  rcases statement with rfl | rfl <;> simp at member
  · rw [member]
    rfl
  · rcases member with rfl | rfl <;> rfl

/-- A request uses the handle it is given, or the one in the cache for its database. -/
theorem Conduct.uses (conduct : Conduct config handler given command response calls next given')
    {call : Call} (member : call ∈ calls)
    : call.handle = given ∧ given' = given + 1
      ∨ ∃ db handle,
          command.database? = some db ∧ handler.connection? db = some handle
          ∧ handle.id = call.handle := by
  cases conduct with
  | idle _ _ _ same kept => contradiction
  | untuned db sql _ absent =>
      left
      simp only [List.mem_cons, List.not_mem_nil, or_false] at member
      rcases member with rfl | rfl <;> exact ⟨rfl, rfl⟩
  | opened db sql _ conn more absent statement =>
      left
      rcases List.mem_cons.mp member with rfl | later
      · exact ⟨rfl, rfl⟩
      · rcases List.mem_cons.mp later with rfl | run
        · exact ⟨rfl, rfl⟩
        · exact ⟨statement.handle_eq run, rfl⟩
  | used db sql _ handle _ cached statement =>
      exact .inr ⟨db, handle, rfl, cached, (statement.handle_eq member).symm⟩
  | deleted db => contradiction

theorem Conduct.given_le (conduct : Conduct config handler given command response calls next given')
    : given ≤ given' := by
  cases conduct <;> omega

/-- A handle that a request opens is the one it is given. -/
theorem Conduct.opens_given
    (conduct : Conduct config handler given command response calls next given')
    {session session' : Nat} {db : String} {id : Nat}
    (opens : (Deed.answered session command response calls).Opens config session' db id)
    : id = given ∧ given' = given + 1 := by
  have opened : ∃ path, .opened id path ∈ calls := by
    cases command with
    | query d sql => exact ⟨_, opens.2.2.1⟩
    | deleteDb d => contradiction
    | other => contradiction
  obtain ⟨path, member⟩ := opened
  rcases conduct.uses member with ⟨same, next⟩ | ⟨d, handle, -, cached, -⟩
  · exact ⟨same, next⟩
  · cases conduct with
    | idle _ _ _ same kept => contradiction
    | untuned d' sql _ absent => simp at member; exact ⟨member.1, rfl⟩
    | opened d' sql _ conn more absent statement =>
        rcases List.mem_cons.mp member with first | later
        · exact ⟨(Call.opened.inj first).1, rfl⟩
        · rcases List.mem_cons.mp later with second | run
          · cases second
          · cases statement.isStatement run
    | used d' sql _ handle' _ cached' statement => cases statement.isStatement member
    | deleted d' => contradiction

/-- The cache after a request: what it opens, and what was there and is not deleted. -/
theorem Conduct.cache (conduct : Conduct config handler given command response calls next given')
    (session : Nat) (db : String) (id : Nat)
    : (next.connection? db).map Handle.id = some id
      ↔ (Deed.answered session command response calls).Opens config session db id
        ∨ ((handler.connection? db).map Handle.id = some id
          ∧ ¬ (Deed.answered session command response calls).Closes session db) := by
  cases conduct with
  | idle _ _ _ same kept =>
      have unchanged : next.connection? db = handler.connection? db := by
        rw [RequestHandler.connection?, same]
        rfl
      rw [unchanged]
      cases command with
      | query d sql => simp [Deed.Opens, Deed.Closes]
      | deleteDb d =>
          simp [Deed.Opens, Deed.Closes, kept d rfl]
      | other => simp [Deed.Opens, Deed.Closes]
  | untuned d sql _ absent => simp [Deed.Opens, Deed.Closes]
  | opened d sql _ conn more absent statement =>
      rw [RequestHandler.connection?_insert]
      by_cases same : db = d
      · subst same
        rw [if_pos rfl]
        constructor
        · intro sameId
          obtain rfl : given = id := Option.some.inj sameId
          exact .inl ⟨rfl, rfl, by simp, by simp⟩
        · intro before
          rcases before with ⟨-, -, member, -⟩ | ⟨was, -⟩
          · rcases List.mem_cons.mp member with first | later
            · rw [(Call.opened.inj first).1]
              rfl
            · rcases List.mem_cons.mp later with second | run
              · cases second
              · cases statement.isStatement run
          · rw [absent] at was
            contradiction
      · rw [if_neg same]
        simp [Deed.Opens, Deed.Closes, Ne.symm same]
  | used d sql _ handle _ cached statement =>
      have noOpen : Call.opened id (join config.databasesFolder db) ∉ calls :=
        fun member => Bool.false_ne_true (statement.isStatement member)
      simp [Deed.Opens, Deed.Closes, noOpen]
  | deleted d =>
      rw [RequestHandler.connection?_remove]
      by_cases same : db = d
      · simp [Deed.Opens, Deed.Closes, same]
      · simp [Deed.Opens, Deed.Closes, same, eq_comm]

/-- Statements run on the handle that the cache has after the request. -/
theorem Conduct.statements
    (conduct : Conduct config handler given command response calls next given') {call : Call}
    (member : call ∈ calls) (statement : call.isStatement = true)
    : ∃ db,
        command.database? = some db
        ∧ (next.connection? db).map Handle.id = some call.handle := by
  cases conduct with
  | idle _ _ _ same kept => contradiction
  | untuned db sql _ absent =>
      simp only [List.mem_cons, List.not_mem_nil, or_false] at member
      rcases member with rfl | rfl <;> contradiction
  | opened db sql _ conn more absent run =>
      rcases List.mem_cons.mp member with rfl | later
      · contradiction
      · rcases List.mem_cons.mp later with rfl | inRun
        · contradiction
        · refine ⟨db, rfl, ?_⟩
          rw [RequestHandler.connection?_insert, if_pos rfl, run.handle_eq inRun]
          rfl
  | used db sql _ handle _ cached run =>
      refine ⟨db, rfl, ?_⟩
      rw [cached, run.handle_eq member]
      rfl
  | deleted db => contradiction

/-- Statements run on handles that were tuned before, if those in the cache were. -/
theorem Conduct.tuned (conduct : Conduct config handler given command response calls next given')
    {before : List Call}
    (cached
      : ∀ db handle,
          handler.connection? db = some handle
          → .executed handle.id (tuningBatch config) true ∈ before)
    : AtEach (fun earlier call => BatchBefore config (before ++ earlier) call) calls := by
  intro earlier call later split statement
  cases conduct with
  | idle _ _ _ same kept => simp at split
  | untuned db sql _ absent =>
      have member : call ∈ earlier ++ call :: later := by simp
      rw [← split] at member
      simp only [List.mem_cons, List.not_mem_nil, or_false] at member
      rcases member with rfl | rfl <;> contradiction
  | opened db sql _ conn more absent run =>
      -- the first two calls are no statements, so that the tuning comes before any
      rcases earlier with _ | ⟨first, _ | ⟨second, rest⟩⟩
      · obtain ⟨rfl, -⟩ := List.cons.inj split
        contradiction
      · obtain ⟨-, tail⟩ := List.cons.inj split
        obtain ⟨rfl, -⟩ := List.cons.inj tail
        contradiction
      · obtain ⟨-, tail⟩ := List.cons.inj split
        obtain ⟨rfl, same⟩ := List.cons.inj tail
        have inRun : call ∈ more := by simp [same]
        rw [run.handle_eq inRun]
        simp
  | used db sql _ handle _ cached' run =>
      have member : call ∈ earlier ++ call :: later := by simp
      rw [← split] at member
      rw [run.handle_eq member]
      exact List.mem_append_left _ (cached db handle cached')
  | deleted db => simp at split

/-- A request executes no other batch. -/
theorem Conduct.only (conduct : Conduct config handler given command response calls next given')
    {call : Call} (member : call ∈ calls)
    : OnlyTunes config call := by
  cases call with
  | opened id path => trivial
  | prepared id sql => trivial
  | queried id => trivial
  | executed id batch succeeded =>
      have noBatch {more : List Call} {id' : Nat} {sql : String}
          (run : StatementCalls id' sql more)
          : .executed id batch succeeded ∉ more :=
        fun inRun => absurd (run.isStatement inRun) (by simp [Call.isStatement])
      cases conduct with
      | idle _ _ _ same kept => contradiction
      | untuned db sql _ absent =>
          simp only [List.mem_cons, reduceCtorEq, Call.executed.injEq, List.not_mem_nil, or_false,
            false_or] at member
          exact member.2.1
      | opened db sql _ conn more absent run =>
          simp only [List.mem_cons, reduceCtorEq, Call.executed.injEq, false_or] at member
          rcases member with ⟨-, same, -⟩ | inRun
          · exact same
          · exact absurd inRun (noBatch run)
      | used db sql _ handle _ cached run => exact absurd member (noBatch run)
      | deleted db => contradiction

end OneRequest

-----------------------------------------------------------------------------------------
-- Runs
-----------------------------------------------------------------------------------------

/-- The cached handles have been tuned: each was opened since, by a query that tuned it. -/
theorem HandleInvariant.cached_tuned (invariant : HandleInvariant config history server)
    {session : Nat} {db : String} {handle : Handle Conn}
    (cached : (server.sessions session).connection? db = some handle)
    : .executed handle.id (tuningBatch config) true ∈ history.flatMap Deed.calls := by
  have since : OpenedSince config session db handle.id history :=
    (invariant.keeps.cache session db handle.id).mp (by rw [cached]; rfl)
  obtain ⟨deed, member, opens⟩ := Since.exists_mem since
  refine List.mem_flatMap.mpr ⟨deed, member, ?_⟩
  cases deed with
  | ended s => contradiction
  | answered s command response calls =>
      cases command with
      | query d sql => exact opens.2.2.2
      | deleteDb d => contradiction
      | other => contradiction

/-- A request keeps the handles. -/
theorem HandleInvariant.answered (invariant : HandleInvariant config history server)
    {session : Nat} {command : Command} {response : Value} {calls : List Call}
    {next : RequestHandler (Handle Conn)} {world : Recorded World}
    (conduct
      : Conduct config (server.sessions session) server.world.given command response calls next
          world.given)
    : HandleInvariant config (history ++ [.answered session command response calls])
        (server.setSession session next world) := by
  have cache (s : Nat) (db : String) (id : Nat)
      : (((server.setSession session next world).sessions s).connection? db).map Handle.id = some id
        ↔ OpenedSince config s db id (history ++ [.answered session command response calls]) := by
    rw [OpenedSince, Since.concat_iff]
    by_cases same : s = session
    · subst same
      rw [Server.setSession_self, conduct.cache s db id, invariant.keeps.cache]
      rfl
    · have noOpen
          : ¬ (Deed.answered session command response calls).Opens config s db id :=
        fun opens => same opens.uses.2.1.symm
      have noClose : ¬ (Deed.answered session command response calls).Closes s db :=
        fun closes => same closes.session.symm
      rw [Server.setSession_other _ _ _ _ same, invariant.keeps.cache, or_iff_right noOpen,
        and_iff_left noClose]
      rfl
  have fresh {id : Nat} (used : ∃ deed ∈ history, deed.Uses id) : id ≠ server.world.given := by
    obtain ⟨deed, member, uses⟩ := used
    exact Nat.ne_of_lt (invariant.given deed member id uses)
  have cached {call : Call} (member : call ∈ calls)
      : call.handle = server.world.given ∧ world.given = server.world.given + 1
        ∨ ∃ db,
            command.database? = some db
            ∧ OpenedSince config session db call.handle history := by
    rcases conduct.uses member with new | ⟨db, handle, named, inCache, sameId⟩
    · exact .inl new
    · refine .inr ⟨db, named, ?_⟩
      rw [← invariant.keeps.cache, inCache, ← sameId]
      rfl
  refine ⟨⟨cache, ?_, ?_⟩, ?_, ?_, ?_, ?_⟩
  · refine invariant.keeps.statements.concat ?_
    intro call member statement
    obtain ⟨db, named, holds⟩ := conduct.statements member statement
    refine ⟨db, named, (cache session db call.handle).mp ?_⟩
    rw [Server.setSession_self]
    exact holds
  · refine invariant.keeps.owner.concat ?_
    intro id uses a earlier b split earlierUses
    obtain ⟨call, member, rfl⟩ := uses
    rcases cached member with ⟨new, -⟩ | ⟨db, named, since⟩
    · exact absurd new (fresh ⟨earlier, by simp [split], earlierUses⟩)
    · obtain ⟨sameSession, sameDb, lives⟩ :=
        invariant.alive _ _ _ since a earlier b split earlierUses
      exact ⟨sameSession, sameDb.trans named.symm, lives⟩
  · rw [List.flatMap_append, List.flatMap_cons, List.flatMap_nil, List.append_nil]
    exact invariant.batch.append
      (conduct.tuned (fun db handle inCache => invariant.cached_tuned inCache))
  · intro call member
    rw [List.flatMap_append, List.flatMap_cons, List.flatMap_nil, List.append_nil] at member
    rcases List.mem_append.mp member with old | new
    · exact invariant.only call old
    · exact conduct.only new
  · intro deed member id uses
    rcases List.mem_append.mp member with old | new
    · exact Nat.lt_of_lt_of_le (invariant.given deed old id uses) conduct.given_le
    · rw [List.mem_singleton.mp new] at uses
      obtain ⟨call, inCalls, rfl⟩ := uses
      rcases cached inCalls with ⟨sameId, more⟩ | ⟨db, -, since⟩
      · change _ < world.given
        omega
      · exact Nat.lt_of_lt_of_le (invariant.lt_given since) conduct.given_le
  · intro s db id since a deed b split uses
    rw [OpenedSince, Since.concat_iff] at since
    rcases split_concat split with ⟨rfl, rfl, rfl⟩ | ⟨rest, earlier, rfl⟩
    · rcases since with opens | ⟨was, -⟩
      · exact ⟨opens.uses.2.1, opens.uses.2.2, List.not_mem_nil⟩
      · obtain ⟨call, member, rfl⟩ := uses
        rcases cached member with ⟨new, -⟩ | ⟨db', named, since'⟩
        · exact absurd new (Nat.ne_of_lt (invariant.lt_given was))
        · obtain ⟨rfl, rfl⟩ := invariant.owner_unique was since'
          exact ⟨rfl, named, List.not_mem_nil⟩
    · rcases since with opens | ⟨was, -⟩
      · exact absurd (conduct.opens_given opens).1 (fresh ⟨deed, by simp [earlier], uses⟩)
      · obtain ⟨sameSession, sameDb, lives⟩ := invariant.alive s db id was a deed rest earlier uses
        refine ⟨sameSession, sameDb, ?_⟩
        intro ends
        rcases List.mem_append.mp ends with old | new
        · exact lives old
        · cases List.mem_singleton.mp new

/-- The end of a session keeps the handles: nothing is cached for it any more. -/
theorem HandleInvariant.ended (invariant : HandleInvariant config history server) (session : Nat)
    {world : Recorded World} (same : world.given = server.world.given)
    : HandleInvariant config (history ++ [.ended session])
        (server.setSession session .new world) := by
  have still {s : Nat} {db : String} {id : Nat}
      (since : OpenedSince config s db id (history ++ [.ended session]))
      : OpenedSince config s db id history ∧ session ≠ s := by
    rw [OpenedSince, Since.concat_iff] at since
    rcases since with opens | was
    · contradiction
    · exact was
  refine ⟨⟨?_, ?_, ?_⟩, ?_, ?_, ?_, ?_⟩
  · intro s db id
    rw [OpenedSince, Since.concat_iff]
    by_cases sameSession : s = session
    · subst sameSession
      rw [Server.setSession_self]
      exact iff_of_false nofun (by simp [Deed.Opens, Deed.Closes])
    · rw [Server.setSession_other _ _ _ _ sameSession, invariant.keeps.cache]
      simp [Deed.Opens, Deed.Closes, Ne.symm sameSession, OpenedSince]
  · refine invariant.keeps.statements.concat ?_
    intro call member
    contradiction
  · refine invariant.keeps.owner.concat ?_
    intro id ⟨call, member, _⟩
    contradiction
  · rw [List.flatMap_append]
    simpa [Deed.calls] using invariant.batch
  · rw [List.flatMap_append]
    simpa [Deed.calls] using invariant.only
  · intro deed member id uses
    change id < world.given
    rw [same]
    rcases List.mem_append.mp member with old | new
    · exact invariant.given deed old id uses
    · rw [List.mem_singleton.mp new] at uses
      obtain ⟨call, inCalls, -⟩ := uses
      contradiction
  · intro s db id since a deed b split uses
    obtain ⟨was, different⟩ := still since
    rcases split_concat split with ⟨rfl, rfl, rfl⟩ | ⟨rest, earlier, rfl⟩
    · obtain ⟨call, inCalls, -⟩ := uses
      contradiction
    · obtain ⟨sameSession, sameDb, lives⟩ := invariant.alive s db id was a deed rest earlier uses
      refine ⟨sameSession, sameDb, ?_⟩
      intro ends
      rcases List.mem_append.mp ends with old | new
      · exact lives old
      · exact different (Deed.ended.inj (List.mem_singleton.mp new)).symm

/-- Closing connections gives no new handle, by induction on them. -/
theorem closeAll_given (backend : Backend World Conn Stmt)
    (handler : RequestHandler (Handle Conn)) (world : Recorded World)
    : (closeAll (recorded backend) handler world).given = world.given := by
  obtain ⟨databases, authenticated⟩ := handler
  unfold closeAll
  dsimp only
  induction databases generalizing world with
  | nil => rfl
  | cons entry rest ih => exact ih _

/-- Every step of a recorded server keeps the handles. -/
theorem HandleInvariant.step (invariant : HandleInvariant config history server)
    (event : ServerEvent World)
    : HandleInvariant config (history ++ (recordedStep backend config serde server event).2)
        (recordedStep backend config serde server event).1 := by
  cases event with
  | environment world =>
      rw [recordedStep, List.append_nil]
      exact ⟨⟨invariant.keeps.cache, invariant.keeps.statements, invariant.keeps.owner⟩,
        invariant.batch, invariant.only, invariant.given, invariant.alive⟩
  | disconnect session => exact invariant.ended session (closeAll_given backend _ _)
  | request session req =>
      have conduct :=
        handleRequest_conduct backend config serde req (server.sessions session)
          { server.world with calls := [] } rfl
      exact invariant.answered conduct

/-- A server nobody has connected to has no handles. -/
theorem HandleInvariant.start (config : Config) (world : World) (given : Nat)
    : HandleInvariant config []
        (Server.start ⟨world, given, []⟩ : Server (Recorded World) (Handle Conn)) := by
  refine ⟨⟨?_, AtEach.nil, AtEach.nil⟩, AtEach.nil, nofun, ?_, ?_⟩
  · intro session db id
    exact iff_of_false nofun Since.not_nil
  · intro deed member
    contradiction
  · intro session db id since
    exact absurd since Since.not_nil

/-- Handles are tuned as configured exactly if the timeout fits into what SQLite reads, or if no
statement is run on them: no batch but the server's is executed.
-/
theorem HandleInvariant.tuned_iff (invariant : HandleInvariant config history server)
    : AtEach (TunedBefore config) (history.flatMap Deed.calls)
      ↔ config.busyTimeoutMs.toNat < 2 ^ 31
        ∨ ∀ call ∈ history.flatMap Deed.calls, call.isStatement = false := by
  constructor
  · intro tuned
    by_cases fits : config.busyTimeoutMs.toNat < 2 ^ 31
    · exact .inl fits
    · refine .inr (fun call member => ?_)
      cases statement : call.isStatement with
      | false => rfl
      | true =>
          obtain ⟨before, later, split⟩ := List.append_of_mem member
          obtain ⟨batch, executed, tunes⟩ := tuned before call later split statement
          have sameBatch : batch = tuningBatch config :=
            invariant.only (.executed call.handle batch true) (by rw [split]; simp [executed])
          rw [sameBatch, tunes_tuningBatch] at tunes
          exact absurd tunes fits
  · rintro (fits | none_) before call later split statement
    · exact ⟨_, invariant.batch before call later split statement,
        (tunes_tuningBatch config).mpr fits⟩
    · have silent := none_ call (by rw [split]; simp)
      rw [silent] at statement
      contradiction

/-- In every run, sessions keep their handles exactly if the timeout fits into what SQLite reads, or
if no statement is run; and what is recorded is a run of the server itself: the handle invariant is
kept by every step.
-/
theorem handles_continuous (backend : Backend World Conn Stmt) (config : Config)
    (serde : SerdeJson) (world : World) (events : List (ServerEvent World))
    : (KeepsHandles config
            (outputs (recordedStep backend config serde) (Server.start ⟨world, 0, []⟩) events)
            (after (recordedStep backend config serde) (Server.start ⟨world, 0, []⟩) events)
          ↔ config.busyTimeoutMs.toNat < 2 ^ 31
            ∨ ∀ call
                ∈ (outputs (recordedStep backend config serde) (Server.start ⟨world, 0, []⟩)
                    events).flatMap Deed.calls,
                call.isStatement = false)
      ∧ KeepsCaches config
          (outputs (recordedStep backend config serde) (Server.start ⟨world, 0, []⟩) events)
          (after (recordedStep backend config serde) (Server.start ⟨world, 0, []⟩) events)
      ∧ (after (recordedStep backend config serde) (Server.start ⟨world, 0, []⟩) events).map
            Recorded.world Handle.conn
        = after (Server.step backend config serde) (Server.start world) events := by
  have keeps (history : List Deed) (server : Server (Recorded World) (Handle Conn))
      (event : ServerEvent World) (invariant : HandleInvariant config history server)
      : HandleInvariant config (history ++ (recordedStep backend config serde server event).2)
          (recordedStep backend config serde server event).1 :=
    invariant.step event
  have invariant := outputs_invariant keeps (HandleInvariant.start config world 0) events
  rw [List.nil_append] at invariant
  refine ⟨?_, invariant.keeps, (recorded_run_forget _ events).symm⟩
  rw [← invariant.tuned_iff]
  exact ⟨fun all => all.tuned, fun tuned => ⟨invariant.keeps, tuned⟩⟩

end Invariant

/-- A world in which every database can be opened and every statement runs. -/
def openingBackend : Backend Unit Unit Unit where
  pathExists := fun _ _ => false
  canonicalize := fun _ _ => none
  readDir := fun _ _ => none
  removeFile := fun _ _ => none
  openConnection := fun _ _ => (.ok (), ())
  executeBatch := fun _ _ _ => (.ok (), ())
  prepare := fun _ _ _ => (.ok (), ())
  columnNames := fun _ => []
  query := fun _ _ _ => .done ()
  close := fun _ _ => ()

/-- The configuration of a server that waits longer than 32 bits say. -/
def patientConfig : Config := { Config.standard "/srv/sqlite" "" with busyTimeoutMs := 2147483648 }

/-- With a timeout of 2147483648 milliseconds, a query runs on a handle whose timeout is another. -/
theorem timeout_overflows
    : ¬ ∀ events,
        KeepsHandles patientConfig
          (outputs (recordedStep openingBackend patientConfig unsignedReader)
            (Server.start ⟨(), 0, []⟩) events)
          (after (recordedStep openingBackend patientConfig unsignedReader)
            (Server.start ⟨(), 0, []⟩) events) := by
  intro claim
  have keeps := (claim [.request 0 (queryOf "mydb" "SELECT 1")]).tuned
  have calls
      : (outputs (recordedStep openingBackend patientConfig unsignedReader)
            (Server.start ⟨(), 0, []⟩) [.request 0 (queryOf "mydb" "SELECT 1")]).flatMap Deed.calls
        = [
            .opened 0 "/srv/sqlite/mydb",
            .executed 0 (tuningBatch patientConfig) true,
            .prepared 0 "SELECT 1",
            .queried 0
          ] := by
    decide +kernel
  rw [calls] at keeps
  obtain ⟨batch, executed, tunes⟩ := keeps [.opened 0 "/srv/sqlite/mydb",
    .executed 0 (tuningBatch patientConfig) true] (.prepared 0 "SELECT 1") [.queried 0] rfl rfl
  obtain rfl : batch = tuningBatch patientConfig := by simpa [Call.handle] using executed
  exact absurd ((tunes_tuningBatch patientConfig).mp tunes) (by decide)

end SqliteServer
