import SqliteServer.RequestParsing
import SqliteServer.Sessions

/-! The commands that reach the databases, and what a request may do to the world. -/

namespace SqliteServer

open Json Files

/-- What a request asks for. -/
inductive Command where
  | query (db sql : String)
  | deleteDb (db : String)
  | other
deriving DecidableEq

/-- The command of a request, its arguments read as `dispatch` reads them. -/
def commandOf (json : Value) : Command :=
  match (json.get "cmd").bind Value.asStr with
  | none => .other
  | some cmd =>
      if eqIgnoreAsciiCase cmd "QUERY" then
        match (json.get "db").bind Value.asStr, (json.get "query").bind Value.asStr with
        | some db, some sql => .query db sql
        | _, _ => .other
      else if eqIgnoreAsciiCase cmd "LIST" then .other
      else if eqIgnoreAsciiCase cmd "DELETE_DB" then
        match (json.get "db").bind Value.asStr with
        | some db => .deleteDb db
        | none => .other
      else .other

/-- The database a command is about. -/
def Command.database? : Command → Option String
  | .query db _ => some db
  | .deleteDb db => some db
  | .other => none

/-- The request for a query. -/
def queryOf (db sql : String) : String :=
  "\x7b\"cmd\":\"QUERY\",\"db\":\"" ++ db ++ "\",\"query\":\"" ++ sql ++ "\"\x7d"

/-- The request for a deletion. -/
def deletionOf (db : String) : String := "\x7b\"cmd\":\"DELETE_DB\",\"db\":\"" ++ db ++ "\"\x7d"

section Admission

variable {World Conn Stmt : Type} (backend : Backend World Conn Stmt) (config : Config)

/-- Whether the authentication gate lets a request through to its command. -/
def admitted (handler : RequestHandler Conn) (json : Value) : Bool :=
  config.auth = ""
  ∨ (handler.authenticated = true ∧ (json.get "auth").bind Value.asStr ≠ some config.auth)

theorem admitted_iff {config : Config} {handler : RequestHandler Conn} {json : Value}
    : admitted config handler json = true
      ↔ config.auth = ""
        ∨ (handler.authenticated = true
          ∧ (json.get "auth").bind Value.asStr ≠ some config.auth) :=
  decide_eq_true_iff

/-- The request and its command, if it can be parsed and is let through. -/
def requested (serde : SerdeJson) (handler : RequestHandler Conn) (req : String)
    : Option (Value × Command) :=
  match parseRequest serde req with
  | .error _ => none
  | .ok json => if admitted config handler json then some (json, commandOf json) else none

/-- The database a request is about, if it is let through. -/
def requestedDatabase? (serde : SerdeJson) (handler : RequestHandler Conn) (req : String)
    : Option String :=
  (requested config serde handler req).bind (fun found => found.2.database?)

/-- The command decides what a dispatched request does: cases on the name of the command. -/
theorem dispatch_commandOf (req : String) (json : Value) (handler : RequestHandler Conn)
    (world : World)
    : match commandOf json with
      | .query db sql =>
          dispatch backend config req json handler world
            = if isSafeDatabaseName backend config world db then
                (queryResponse json (runQuery backend config db sql handler world).1,
                  (runQuery backend config db sql handler world).2)
              else (genericError noDatabaseSpecified json, handler, world)
      | .deleteDb db =>
          dispatch backend config req json handler world
            = if isSafeDatabaseName backend config world db then
                match backend.removeFile world (join config.databasesFolder db) with
                | none => (resultResponse "error", handler, world)
                | some world =>
                    match handler.connection? db with
                    | some conn =>
                        (resultResponse "ok", handler.remove db, backend.close world conn)
                    | none => (resultResponse "ok", handler, world)
              else (genericError noDatabaseSpecified json, handler, world)
      | .other => (dispatch backend config req json handler world).2 = (handler, world) := by
  unfold dispatch commandOf
  cases (json.get "cmd").bind Value.asStr with
  | none => rfl
  | some cmd =>
      dsimp only
      by_cases query : eqIgnoreAsciiCase cmd "QUERY" = true
      · rw [if_pos query, if_pos query, handleQuery, queryArguments]
        cases (json.get "db").bind Value.asStr with
        | none => rfl
        | some db =>
            cases (json.get "query").bind Value.asStr with
            | none => rfl
            | some sql =>
                dsimp only
                by_cases safe : isSafeDatabaseName backend config world db = true
                · rw [if_pos safe, if_pos safe]
                · rw [if_neg safe, if_neg safe]
      · rw [if_neg query, if_neg query]
        by_cases list : eqIgnoreAsciiCase cmd "LIST" = true
        · rw [if_pos list, if_pos list]
        · rw [if_neg list, if_neg list]
          by_cases delete : eqIgnoreAsciiCase cmd "DELETE_DB" = true
          · rw [if_pos delete, if_pos delete, handleDeleteDb]
            cases (json.get "db").bind Value.asStr with
            | none => rfl
            | some db => rfl
          · rw [if_neg delete, if_neg delete]

variable {config}

/-- A request that is let through does what its command says. -/
theorem handleRequest_requested {serde : SerdeJson} {handler : RequestHandler Conn} {req : String}
    {json : Value} {command : Command}
    (request : requested config serde handler req = some (json, command)) (world : World)
    : commandOf json = command
      ∧ handleRequest backend config serde req handler world
        = dispatch backend config req json handler world := by
  unfold requested at request
  unfold handleRequest
  cases parsed : parseRequest serde req with
  | error message => simp [parsed] at request
  | ok value =>
      rw [parsed] at request
      dsimp only at request ⊢
      split at request
      · rename_i let_through
        obtain ⟨rfl, rfl⟩ := Prod.mk.inj (Option.some.inj request)
        refine ⟨rfl, ?_⟩
        rcases admitted_iff.mp let_through with unprotected | ⟨authenticated, notPassword⟩
        · rw [if_neg (not_not.mpr unprotected)]
        · split
          · cases given : (value.get "auth").bind Value.asStr with
            | none => simp
            | some auth =>
                have different : auth ≠ config.auth := fun same =>
                  notPassword (by rw [given, same])
                simp [different]
          · rfl
      · contradiction

/-- A query runs if the database name is safe. -/
theorem handleRequest_query {serde : SerdeJson} {handler : RequestHandler Conn} {req : String}
    {json : Value} {db sql : String}
    (request : requested config serde handler req = some (json, .query db sql)) (world : World)
    : handleRequest backend config serde req handler world
      = if isSafeDatabaseName backend config world db then
          (queryResponse json (runQuery backend config db sql handler world).1,
            (runQuery backend config db sql handler world).2)
        else (genericError noDatabaseSpecified json, handler, world) := by
  obtain ⟨command, handled⟩ := handleRequest_requested backend request world
  have dispatched := dispatch_commandOf backend config req json handler world
  rw [command] at dispatched
  exact handled.trans dispatched

/-- A deletion removes the file if the database name is safe. -/
theorem handleRequest_deleteDb {serde : SerdeJson} {handler : RequestHandler Conn} {req : String}
    {json : Value} {db : String}
    (request : requested config serde handler req = some (json, .deleteDb db)) (world : World)
    : handleRequest backend config serde req handler world
      = if isSafeDatabaseName backend config world db then
          match backend.removeFile world (join config.databasesFolder db) with
          | none => (resultResponse "error", handler, world)
          | some world =>
              match handler.connection? db with
              | some conn => (resultResponse "ok", handler.remove db, backend.close world conn)
              | none => (resultResponse "ok", handler, world)
        else (genericError noDatabaseSpecified json, handler, world) := by
  obtain ⟨command, handled⟩ := handleRequest_requested backend request world
  have dispatched := dispatch_commandOf backend config req json handler world
  rw [command] at dispatched
  exact handled.trans dispatched

/-- Every other request changes nothing, or authenticates the session. -/
theorem handleRequest_other {serde : SerdeJson} {handler : RequestHandler Conn} {req : String}
    (other : ∀ json command, requested config serde handler req = some (json, command)
      → command = .other)
    (world : World)
    : (handleRequest backend config serde req handler world).2 = (handler, world)
      ∨ handleRequest backend config serde req handler world
        = (resultResponse "ok", { handler with authenticated := true }, world) := by
  cases request : requested config serde handler req with
  | some found =>
      obtain ⟨command, handled⟩ := handleRequest_requested backend request world
      have dispatched := dispatch_commandOf backend config req found.1 handler world
      rw [command, other found.1 found.2 request] at dispatched
      exact Or.inl (by rw [handled, dispatched])
  | none =>
      unfold requested at request
      unfold handleRequest
      cases parsed : parseRequest serde req with
      | error message => exact Or.inl rfl
      | ok value =>
          rw [parsed] at request
          dsimp only at request ⊢
          split at request
          · contradiction
          · rename_i refused
            -- what is refused is refused by the gate: a password is set and has not been given
            simp only [admitted_iff, not_or, not_and, not_not] at refused
            rw [if_pos refused.1]
            cases given : (value.get "auth").bind Value.asStr with
            | none =>
                have fresh : handler.authenticated = false := by
                  by_contra authenticated
                  rw [Bool.not_eq_false] at authenticated
                  exact absurd (given.symm.trans (refused.2 authenticated)) (by simp)
                exact Or.inl (by simp [fresh])
            | some auth =>
                by_cases password : auth = config.auth
                · exact Or.inr (by simp [password])
                · have fresh : handler.authenticated = false := by
                    by_contra authenticated
                    rw [Bool.not_eq_false] at authenticated
                    exact password (Option.some.inj (given.symm.trans (refused.2 authenticated)))
                  exact Or.inl (by simp [password, fresh])

end Admission

-----------------------------------------------------------------------------------------
-- What a query does
-----------------------------------------------------------------------------------------

section Query

variable {World Conn Stmt : Type} {backend : Backend World Conn Stmt} {config : Config}

theorem RequestHandler.connection?_insert (handler : RequestHandler Conn) (db other : String)
    (conn : Conn)
    : (handler.insert db conn).connection? other
      = if other = db then some conn else handler.connection? other := by
  change List.lookup other ((db, conn) :: handler.databases) = _
  rw [List.lookup_cons]
  by_cases same : other = db
  · simp [same]
  · simp [same, beq_false_of_ne same, connection?]

theorem RequestHandler.connection?_remove (handler : RequestHandler Conn) (db other : String)
    : (handler.remove db).connection? other
      = if other = db then none else handler.connection? other := by
  obtain ⟨databases, authenticated⟩ := handler
  change List.lookup other (databases.filter (fun entry => entry.1 != db)) = _
  change _ = if other = db then none else List.lookup other databases
  induction databases with
  | nil => simp
  | cons entry rest ih =>
      rw [List.filter_cons]
      by_cases named : entry.1 = db
      · rw [if_neg (by simp [named]), ih]
        split_ifs with same
        · rfl
        · rw [List.lookup_cons, beq_false_of_ne (by rwa [named])]
      · rw [if_pos (by simp [named]), List.lookup_cons, List.lookup_cons, ih]
        split_ifs with same
        · rw [beq_false_of_ne (by rw [same]; exact Ne.symm named)]
        · rfl

/-- The ways to get a connection, with the world after it: it is there, or it cannot be opened, or
it is opened and cannot be tuned, or it is opened and kept.
-/
inductive GetsConnection (backend : Backend World Conn Stmt) (config : Config) (db : String)
    (handler : RequestHandler Conn) (world : World)
    : Except RusqliteError Conn → RequestHandler Conn → World → Prop where
  | cached (conn : Conn) (there : handler.connection? db = some conn)
      : GetsConnection backend config db handler world (.ok conn) handler world
  | unopened (err : RusqliteError) (world' : World) (absent : handler.connection? db = none)
      (opened
        : backend.openConnection world (join config.databasesFolder db) = (.error err, world'))
      : GetsConnection backend config db handler world (.error err) handler world'
  | untuned (conn : Conn) (err : RusqliteError) (world' world'' : World)
      (absent : handler.connection? db = none)
      (opened
        : backend.openConnection world (join config.databasesFolder db) = (.ok conn, world'))
      (tuned : backend.executeBatch world' conn (tuningBatch config) = (.error err, world''))
      : GetsConnection backend config db handler world (.error err) handler
          (backend.close world'' conn)
  | kept (conn : Conn) (world' world'' : World) (absent : handler.connection? db = none)
      (opened
        : backend.openConnection world (join config.databasesFolder db) = (.ok conn, world'))
      (tuned : backend.executeBatch world' conn (tuningBatch config) = (.ok (), world''))
      : GetsConnection backend config db handler world (.ok conn) (handler.insert db conn) world''

theorem getConnection_cases (backend : Backend World Conn Stmt) (config : Config) (db : String)
    (handler : RequestHandler Conn) (world : World)
    : GetsConnection backend config db handler world
        (getConnection backend config db handler world).1
        (getConnection backend config db handler world).2.1
        (getConnection backend config db handler world).2.2 := by
  rw [getConnection]
  cases there : handler.connection? db with
  | some conn => exact .cached conn there
  | none =>
      dsimp only
      cases opened : backend.openConnection world (join config.databasesFolder db) with
      | mk result world' =>
          cases result with
          | error err => exact .unopened err world' there opened
          | ok conn =>
              dsimp only
              cases tuned : backend.executeBatch world' conn (tuningBatch config) with
              | mk tuning world'' =>
                  cases tuning with
                  | error err => exact .untuned conn err world' world'' there opened tuned
                  | ok _ => exact .kept conn world' world'' there opened tuned

/-- Stepping ends in the world in which collecting the rows ends. -/
theorem stepQuery_world (conn : Conn) (stmt : Stmt) (columns : List String) (world : World)
    : (stepQuery backend conn stmt columns world).2
      = (collectRows columns (backend.query world conn stmt) []).2 := by
  unfold stepQuery
  cases collectRows columns (backend.query world conn stmt) [] with
  | mk outcome final => cases outcome <;> rfl

/-- Without a connection, a query does no more than trying to get one. -/
theorem runQuery_failed {db sql : String} {handler next : RequestHandler Conn}
    {world world' : World} {err : RusqliteError} (text : trim sql ≠ "")
    (failed : getConnection backend config db handler world = (.error err, next, world'))
    : runQuery backend config db sql handler world = (.error (mapSqliteErr err), next, world') := by
  unfold runQuery prepareQuery
  rw [if_neg text, failed]

/-- An empty query does nothing. -/
theorem runQuery_empty {db sql : String} {handler : RequestHandler Conn} {world : World}
    (empty : trim sql = "")
    : runQuery backend config db sql handler world
      = (.error (sqliteMisuse, "empty query"), handler, world) := by
  unfold runQuery prepareQuery
  rw [if_pos empty]

/-- With a connection, a query that cannot be prepared ends there. -/
theorem runQuery_unprepared {db sql : String} {handler next : RequestHandler Conn}
    {world world' world'' : World} {conn : Conn} {err : RusqliteError} (text : trim sql ≠ "")
    (got : getConnection backend config db handler world = (.ok conn, next, world'))
    (prepared : backend.prepare world' conn sql = (.error err, world''))
    : runQuery backend config db sql handler world
      = (.error (mapSqliteErr err), next, world'') := by
  unfold runQuery prepareQuery
  rw [if_neg text, got]
  dsimp only
  rw [prepared]

/-- With a connection and a statement, a query steps the statement. -/
theorem runQuery_prepared {db sql : String} {handler next : RequestHandler Conn}
    {world world' world'' : World} {conn : Conn} {stmt : Stmt} (text : trim sql ≠ "")
    (got : getConnection backend config db handler world = (.ok conn, next, world'))
    (prepared : backend.prepare world' conn sql = (.ok stmt, world''))
    : runQuery backend config db sql handler world
      = ((stepQuery backend conn stmt (backend.columnNames stmt) world'').1, next,
        (stepQuery backend conn stmt (backend.columnNames stmt) world'').2) := by
  unfold runQuery prepareQuery
  rw [if_neg text, got]
  dsimp only
  rw [prepared]

/-- After a query, the cache is as getting the connection leaves it. -/
theorem runQuery_handler {db sql : String} (handler : RequestHandler Conn) (world : World)
    (text : trim sql ≠ "")
    : (runQuery backend config db sql handler world).2.1
      = (getConnection backend config db handler world).2.1 := by
  cases got : getConnection backend config db handler world with
  | mk result rest =>
      cases result with
      | error err => rw [runQuery_failed text got]
      | ok conn =>
          cases prepared : backend.prepare rest.2 conn sql with
          | mk stmtResult world'' =>
              cases stmtResult with
              | error err => rw [runQuery_unprepared text got prepared]
              | ok stmt => rw [runQuery_prepared text got prepared]

/-- A query that succeeds leaves its database open. -/
theorem connection?_of_runQuery {db sql : String} {handler : RequestHandler Conn} {world : World}
    {value : Value} (ran : (runQuery backend config db sql handler world).1 = .ok value)
    : ∃ conn, (runQuery backend config db sql handler world).2.1.connection? db = some conn := by
  by_cases text : trim sql = ""
  · rw [runQuery_empty text] at ran
    cases ran
  · rw [runQuery_handler handler world text]
    have gets := getConnection_cases backend config db handler world
    cases got : getConnection backend config db handler world with
    | mk result rest =>
        obtain ⟨next, final⟩ := rest
        rw [got] at gets
        dsimp only at gets ⊢
        cases gets with
        | cached conn there => exact ⟨conn, there⟩
        | unopened err _ absent opened =>
            rw [runQuery_failed text got] at ran
            cases ran
        | untuned conn err _ _ absent opened tuned =>
            rw [runQuery_failed text got] at ran
            cases ran
        | kept conn _ _ absent opened tuned =>
            exact ⟨conn, (handler.connection?_insert db db conn).trans (if_pos rfl)⟩

end Query

-----------------------------------------------------------------------------------------
-- Invariants of the world
-----------------------------------------------------------------------------------------

/-- `I` holds of every world in which a statement may end. -/
def Rows.AllWorlds {World : Type} (I : World → Prop) : Rows World → Prop
  | .done world => I world
  | .failed _ world => I world
  | .row _ abandoned rest => I abandoned ∧ rest.AllWorlds I

/-- Collecting rows ends in a world in which the statement may end, by induction on the steps. -/
theorem collectRows_world {World : Type} {I : World → Prop} {columns : List String}
    {steps : Rows World} (all : steps.AllWorlds I) (rowsData : List Value)
    : I (collectRows columns steps rowsData).2 := by
  induction steps generalizing rowsData with
  | done world => exact all
  | failed err world => exact all
  | row cells abandoned rest ih =>
      rw [collectRows]
      cases fillRow cells 0 columns [] with
      | error err => exact all.1
      | ok object => exact ih all.2 _

section Invariant

variable {World Conn Stmt : Type} (backend : Backend World Conn Stmt) (config : Config)

/-- The operations on a connection that is `Owned` keep `I`. -/
structure Keeps (Owned : Conn → Prop) (I : World → Prop) : Prop where
  executeBatch
    : ∀ world conn batch, Owned conn → I world → I (backend.executeBatch world conn batch).2
  prepare : ∀ world conn sql, Owned conn → I world → I (backend.prepare world conn sql).2
  query : ∀ world conn stmt, Owned conn → I world → (backend.query world conn stmt).AllWorlds I
  close : ∀ world conn, Owned conn → I world → I (backend.close world conn)

/-- Opening a database keeps `I` and gives a connection that is `Owned`. -/
def OpensOwned (Owned : Conn → Prop) (I : World → Prop) (world : World) (db : String) : Prop :=
  I (backend.openConnection world (join config.databasesFolder db)).2
  ∧ ∀ conn world',
      backend.openConnection world (join config.databasesFolder db) = (.ok conn, world')
      → Owned conn

variable {backend config} {Owned : Conn → Prop} {I : World → Prop}

/-- Getting a connection keeps what opening and tuning keep. -/
theorem getConnection_keeps (keeps : Keeps backend Owned I) {db : String}
    {handler : RequestHandler Conn} {world : World}
    (owned : ∀ conn, handler.connection? db = some conn → Owned conn) (holds : I world)
    (opens : handler.connection? db = none → OpensOwned backend config Owned I world db)
    : I (getConnection backend config db handler world).2.2
      ∧ (∀ conn, (getConnection backend config db handler world).1 = .ok conn → Owned conn)
      ∧ ∀ entry ∈ (getConnection backend config db handler world).2.1.databases,
          entry ∈ handler.databases ∨ (entry.1 = db ∧ Owned entry.2) := by
  have gets := getConnection_cases backend config db handler world
  revert gets
  generalize getConnection backend config db handler world = got
  obtain ⟨result, next, final⟩ := got
  intro gets
  cases gets with
  | cached conn there =>
      refine ⟨holds, ?_, fun entry member => Or.inl member⟩
      rintro _ ⟨⟩
      exact owned conn there
  | unopened err _ absent opened =>
      obtain ⟨kept, -⟩ := opens absent
      rw [opened] at kept
      exact ⟨kept, nofun, fun entry member => Or.inl member⟩
  | untuned conn err world' world'' absent opened tuned =>
      obtain ⟨kept, ours⟩ := opens absent
      rw [opened] at kept
      have tuning := keeps.executeBatch world' conn (tuningBatch config) (ours conn _ opened) kept
      rw [tuned] at tuning
      exact ⟨keeps.close world'' conn (ours conn _ opened) tuning, nofun,
        fun entry member => Or.inl member⟩
  | kept conn world' _ absent opened tuned =>
      obtain ⟨kept, ours⟩ := opens absent
      rw [opened] at kept
      have tuning := keeps.executeBatch world' conn (tuningBatch config) (ours conn _ opened) kept
      rw [tuned] at tuning
      refine ⟨tuning, ?_, ?_⟩
      · rintro _ ⟨⟩
        exact ours conn _ opened
      · intro entry member
        rcases List.mem_cons.mp member with rfl | old
        · exact Or.inr ⟨rfl, ours conn _ opened⟩
        · exact Or.inl old

/-- With a connection, running a query keeps what using the connection keeps. -/
theorem runQuery_got (keeps : Keeps backend Owned I) {db sql : String}
    {handler next : RequestHandler Conn} {world world' : World} {conn : Conn}
    (text : trim sql ≠ "")
    (got : getConnection backend config db handler world = (.ok conn, next, world'))
    (ours : Owned conn) (holds : I world')
    : I (runQuery backend config db sql handler world).2.2 := by
  have prepared := keeps.prepare world' conn sql ours holds
  cases prep : backend.prepare world' conn sql with
  | mk stmtResult world'' =>
      rw [prep] at prepared
      cases stmtResult with
      | error err =>
          rw [runQuery_unprepared text got prep]
          exact prepared
      | ok stmt =>
          rw [runQuery_prepared text got prep]
          dsimp only
          rw [stepQuery_world]
          exact collectRows_world (keeps.query world'' conn stmt ours prepared) []

/-- Running a query keeps what opening and using its connection keep. -/
theorem runQuery_keeps (keeps : Keeps backend Owned I) {db sql : String}
    {handler : RequestHandler Conn} {world : World}
    (owned : ∀ conn, handler.connection? db = some conn → Owned conn) (holds : I world)
    (opens
      : trim sql ≠ ""
        → handler.connection? db = none
        → OpensOwned backend config Owned I world db)
    : I (runQuery backend config db sql handler world).2.2
      ∧ ∀ entry ∈ (runQuery backend config db sql handler world).2.1.databases,
          entry ∈ handler.databases ∨ (entry.1 = db ∧ Owned entry.2) := by
  by_cases text : trim sql = ""
  · rw [runQuery_empty text]
    exact ⟨holds, fun entry member => Or.inl member⟩
  · obtain ⟨kept, ours, entries⟩ := getConnection_keeps keeps owned holds (opens text)
    rw [← runQuery_handler handler world text] at entries
    refine ⟨?_, entries⟩
    cases got : getConnection backend config db handler world with
    | mk result rest =>
        rw [got] at kept ours
        cases result with
        | error err =>
            rw [runQuery_failed text got]
            exact kept
        | ok conn => exact runQuery_got keeps text got (ours conn rfl) kept

/-- A request keeps what opening, deleting and using the database it is about keep. The
connections it adds are to that database.
-/
theorem handleRequest_keeps (keeps : Keeps backend Owned I) {serde : SerdeJson} {req : String}
    {handler : RequestHandler Conn} {world : World}
    (owned
      : ∀ db conn,
          requestedDatabase? config serde handler req = some db
          → handler.connection? db = some conn
          → Owned conn)
    (holds : I world)
    (opens
      : ∀ json db sql,
          requested config serde handler req = some (json, .query db sql)
          → isSafeDatabaseName backend config world db = true
          → trim sql ≠ ""
          → handler.connection? db = none
          → OpensOwned backend config Owned I world db)
    (removes
      : ∀ json db world',
          requested config serde handler req = some (json, .deleteDb db)
          → isSafeDatabaseName backend config world db = true
          → backend.removeFile world (join config.databasesFolder db) = some world'
          → I world')
    : I (handleRequest backend config serde req handler world).2.2
      ∧ ∀ entry ∈ (handleRequest backend config serde req handler world).2.1.databases,
          entry ∈ handler.databases
          ∨ (requestedDatabase? config serde handler req = some entry.1 ∧ Owned entry.2) := by
  have unchanged (other : ∀ json command,
      requested config serde handler req = some (json, command) → command = .other)
      : I (handleRequest backend config serde req handler world).2.2
        ∧ ∀ entry ∈ (handleRequest backend config serde req handler world).2.1.databases,
            entry ∈ handler.databases
            ∨ (requestedDatabase? config serde handler req = some entry.1 ∧ Owned entry.2) := by
    rcases handleRequest_other backend other world with same | authenticates
    · rw [same]
      exact ⟨holds, fun entry member => Or.inl member⟩
    · rw [authenticates]
      exact ⟨holds, fun entry member => Or.inl member⟩
  cases request : requested config serde handler req with
  | none => exact unchanged (by simp [request])
  | some found =>
      obtain ⟨json, command⟩ := found
      cases command with
      | other =>
          refine unchanged ?_
          intro json' command' same
          exact (Prod.mk.inj (Option.some.inj (request.symm.trans same))).2.symm
      | query db sql =>
          have about : requestedDatabase? config serde handler req = some db := by
            rw [requestedDatabase?, request]
            rfl
          rw [handleRequest_query backend request]
          by_cases safe : isSafeDatabaseName backend config world db = true
          · rw [if_pos safe]
            dsimp only
            obtain ⟨kept, entries⟩ := runQuery_keeps keeps (owned db · about) holds
              (opens json db sql request safe)
            refine ⟨kept, ?_⟩
            intro entry member
            rcases entries entry member with old | ⟨named, ours⟩
            · exact Or.inl old
            · exact Or.inr ⟨by rw [about, named], ours⟩
          · rw [if_neg safe]
            exact ⟨holds, fun entry member => Or.inl member⟩
      | deleteDb db =>
          have about : requestedDatabase? config serde handler req = some db := by
            rw [requestedDatabase?, request]
            rfl
          rw [handleRequest_deleteDb backend request]
          by_cases safe : isSafeDatabaseName backend config world db = true
          · rw [if_pos safe]
            cases removed : backend.removeFile world (join config.databasesFolder db) with
            | none => exact ⟨holds, fun entry member => Or.inl member⟩
            | some world' =>
                have kept : I world' := removes json db world' request safe removed
                dsimp only
                cases cached : handler.connection? db with
                | none => exact ⟨kept, fun entry member => Or.inl member⟩
                | some conn =>
                    refine ⟨keeps.close world' conn (owned db conn about cached) kept, ?_⟩
                    intro entry member
                    exact Or.inl (List.mem_filter.mp member).1
          · rw [if_neg safe]
            exact ⟨holds, fun entry member => Or.inl member⟩

/-- A session that ends keeps what closing its connections keeps, by induction on them. -/
theorem closeAll_keeps (keeps : Keeps backend Owned I) {handler : RequestHandler Conn}
    (owned : ∀ entry ∈ handler.databases, Owned entry.2) {world : World} (holds : I world)
    : I (closeAll backend handler world) := by
  obtain ⟨databases, authenticated⟩ := handler
  induction databases generalizing world with
  | nil => exact holds
  | cons entry rest ih =>
      exact ih (keeps.close world entry.2 (owned entry List.mem_cons_self) holds)
        (fun e member => owned e (List.mem_cons_of_mem _ member))

end Invariant

end SqliteServer
