import SqliteServer.Rejections

/-! What a client is told of a query that fails inside SQLite. -/

namespace SqliteServer

open Json Files

/-- What SQLite reports of a call that failed. Of a text that it could not compile, it may know the
position of the mistake.
-/
structure Failure where
  extendedCode : Int32
  message : String
  offset : Option Int32

/-- The call that failed: opening a file, compiling a text, or another. -/
inductive SqliteCall where
  | opening (path : String)
  | prepare (text : String)
  | other

namespace Failure

variable (failure : Failure)

/-- The low eight bits of the extended code. -/
def primaryCode : Int64 := (failure.extendedCode &&& 0xff).toInt64

/-- The binding adds to the message: the path of a file that cannot be opened, or the text and the
position of a mistake in it that is known.
-/
def Reworded : SqliteCall → Prop
  | .opening _ => failure.primaryCode = 14
  | .prepare _ => failure.primaryCode = 1 ∧ failure.offset.isSome = true
  | .other => False

/-- The error that the binding makes of a failed call. -/
def error (ffiText : String) (call : SqliteCall) : RusqliteError :=
  match call, failure.offset with
  | .opening path, _ =>
      if failure.primaryCode = 14 then
        .sqliteFailure failure.extendedCode (some (failure.message ++ ": " ++ path)) ffiText
      else .sqliteFailure failure.extendedCode (some failure.message) ffiText
  | .prepare text, some offset =>
      if failure.primaryCode = 1 then
        .sqlInputError failure.extendedCode failure.message text offset
      else .sqliteFailure failure.extendedCode (some failure.message) ffiText
  | _, _ => .sqliteFailure failure.extendedCode (some failure.message) ffiText

/-- A response carries the primary code and the message, with nothing added. -/
def CarriedBy (response : Value) : Prop :=
  response.get "error_code" = some (jsonInt failure.primaryCode)
  ∧ response.get "error_message" = some (.string failure.message)

variable {failure}

/-- An error that the binding does not reword keeps code and message. -/
theorem mapSqliteErr_plain {ffiText : String} {call : SqliteCall}
    (plain : ¬ failure.Reworded call)
    : mapSqliteErr (failure.error ffiText call) = (failure.primaryCode, failure.message) := by
  obtain ⟨extendedCode, message, offset⟩ := failure
  cases call with
  | other => rfl
  | opening path =>
      have other : primaryCode ⟨extendedCode, message, offset⟩ ≠ 14 := plain
      have shown
          : error ⟨extendedCode, message, offset⟩ ffiText (.opening path)
            = .sqliteFailure extendedCode (some message) ffiText :=
        if_neg other
      rw [shown]
      rfl
  | prepare text =>
      cases offset with
      | none => rfl
      | some offset =>
          have other : primaryCode ⟨extendedCode, message, some offset⟩ ≠ 1 := fun generic =>
            plain ⟨generic, rfl⟩
          exact congrArg mapSqliteErr (if_neg other)

/-- A message with more after it is another message. -/
theorem reworded_ne (message : String) {more : String} (added : more ≠ "")
    : message ++ more ≠ message :=
  fun same => added (String.append_eq_left_iff.mp same)

/-- A reworded error keeps the code, but is displayed with more after the message. -/
theorem mapSqliteErr_reworded {ffiText : String} {call : SqliteCall}
    (reworded : failure.Reworded call)
    : (mapSqliteErr (failure.error ffiText call)).1 = failure.primaryCode
      ∧ (mapSqliteErr (failure.error ffiText call)).2 ≠ failure.message := by
  obtain ⟨extendedCode, message, offset⟩ := failure
  cases call with
  | other => exact reworded.elim
  | opening path =>
      have cannotOpen : primaryCode ⟨extendedCode, message, offset⟩ = 14 := reworded
      have shown
          : error ⟨extendedCode, message, offset⟩ ffiText (.opening path)
            = .sqliteFailure extendedCode (some (message ++ ": " ++ path)) ffiText :=
        if_pos cannotOpen
      rw [shown]
      refine ⟨rfl, ?_⟩
      change message ++ ": " ++ path ≠ message
      rw [String.append_assoc]
      exact reworded_ne message (by simp)
  | prepare text =>
      cases offset with
      | none => exact Bool.noConfusion reworded.2
      | some offset =>
          have generic : primaryCode ⟨extendedCode, message, some offset⟩ = 1 := reworded.1
          have shown
              : error ⟨extendedCode, message, some offset⟩ ffiText (.prepare text)
                = .sqlInputError extendedCode message text offset :=
            if_pos generic
          rw [shown, generic]
          refine ⟨rfl, ?_⟩
          change message ++ " in " ++ text ++ " at offset " ++ _ ≠ message
          rw [String.append_assoc, String.append_assoc, String.append_assoc]
          exact reworded_ne message (by simp)

end Failure

section Query

variable {World Conn Stmt : Type} (backend : Backend World Conn Stmt) (config : Config)
  (db sql : String) (handler : RequestHandler Conn) (world : World)

/-- Where a query can fail in the binding, in which call of SQLite, and with what error. The batch
that tunes a connection is compiled statement by statement.
-/
inductive FailsWith : SqliteCall → RusqliteError → Prop where
  | opening (err : RusqliteError) (world' : World) (absent : handler.connection? db = none)
      (opened
        : backend.openConnection world (join config.databasesFolder db) = (.error err, world'))
      : FailsWith (.opening (join config.databasesFolder db)) err
  | tuning (call : SqliteCall) (conn : Conn) (err : RusqliteError) (world' world'' : World)
      (inBatch : ∀ path, call ≠ .opening path) (absent : handler.connection? db = none)
      (opened
        : backend.openConnection world (join config.databasesFolder db) = (.ok conn, world'))
      (tuned : backend.executeBatch world' conn (tuningBatch config) = (.error err, world''))
      : FailsWith call err
  | preparing (conn : Conn) (err : RusqliteError) (next : RequestHandler Conn)
      (world' world'' : World)
      (got : getConnection backend config db handler world = (.ok conn, next, world'))
      (prepared : backend.prepare world' conn sql = (.error err, world''))
      : FailsWith (.prepare sql) err
  | stepping (conn : Conn) (stmt : Stmt) (err : RusqliteError) (next : RequestHandler Conn)
      (world' world'' final : World)
      (got : getConnection backend config db handler world = (.ok conn, next, world'))
      (prepared : backend.prepare world' conn sql = (.ok stmt, world''))
      (stepped
        : collectRows (backend.columnNames stmt) (backend.query world'' conn stmt) []
          = (.error err, final))
      : FailsWith .other err

variable {backend config db sql handler world}

/-- A query fails exactly with the errors of its stages, mapped: cases on getting the connection, on
preparing the statement and on collecting its rows.
-/
theorem runQuery_error_iff (text : trim sql ≠ "") (mapped : Int64 × String)
    : (runQuery backend config db sql handler world).1 = .error mapped
      ↔ ∃ call err,
          FailsWith backend config db sql handler world call err
          ∧ mapSqliteErr err = mapped := by
  constructor
  · intro failed
    have gets := getConnection_cases backend config db handler world
    cases got : getConnection backend config db handler world with
    | mk result rest =>
        obtain ⟨next, world'⟩ := rest
        rw [got] at gets
        cases result with
        | error err =>
            rw [runQuery_failed text got] at failed
            have mapped := Except.error.inj failed
            cases gets with
            | unopened _ _ absent opened =>
                exact ⟨_, err, .opening err _ absent opened, mapped⟩
            | untuned conn _ _ _ absent opened tuned =>
                exact ⟨_, err, .tuning .other conn err _ _ nofun absent opened tuned, mapped⟩
        | ok conn =>
            cases prepared : backend.prepare world' conn sql with
            | mk stmtResult world'' =>
                cases stmtResult with
                | error err =>
                    rw [runQuery_unprepared text got prepared] at failed
                    exact ⟨_, err, .preparing conn err next world' world'' got prepared,
                      Except.error.inj failed⟩
                | ok stmt =>
                    rw [runQuery_prepared text got prepared] at failed
                    dsimp only at failed
                    rw [stepQuery] at failed
                    cases stepped : collectRows (backend.columnNames stmt)
                        (backend.query world'' conn stmt) [] with
                    | mk outcome final =>
                        rw [stepped] at failed
                        cases outcome with
                        | error err =>
                            exact ⟨_, err,
                              .stepping conn stmt err next world' world'' final got prepared
                                stepped,
                              Except.error.inj failed⟩
                        | ok rowsData => cases failed
  · rintro ⟨call, err, fails, rfl⟩
    cases fails with
    | opening _ world' absent opened =>
        have got
            : getConnection backend config db handler world = (.error err, handler, world') := by
          rw [getConnection, absent]
          dsimp only
          rw [opened]
        rw [runQuery_failed text got]
    | tuning _ conn _ world' world'' inBatch absent opened tuned =>
        have got
            : getConnection backend config db handler world
              = (.error err, handler, backend.close world'' conn) := by
          rw [getConnection, absent]
          dsimp only
          rw [opened]
          dsimp only
          rw [tuned]
        rw [runQuery_failed text got]
    | preparing conn _ next world' world'' got prepared =>
        rw [runQuery_unprepared text got prepared]
    | stepping conn stmt _ next world' world'' final got prepared stepped =>
        rw [runQuery_prepared text got prepared]
        dsimp only
        rw [stepQuery, stepped]

/-- The response to a query that fails inside SQLite, at whatever stage, carries SQLite's code and
message exactly if the binding does not reword it: it is neither that of a file that cannot be
opened nor that of a text with a known mistake.
-/
theorem sqlErrors_iff {serde : SerdeJson} {req : String} {json : Value}
    (request : requested config serde handler req = some (json, .query db sql))
    (safe : isSafeDatabaseName backend config world db = true) (text : trim sql ≠ "")
    (failure : Failure) (call : SqliteCall) (ffiText : String)
    (fails : FailsWith backend config db sql handler world call (failure.error ffiText call))
    : failure.CarriedBy (handleRequest backend config serde req handler world).1
      ↔ ¬ failure.Reworded call := by
  have ran := (runQuery_error_iff text _).mpr ⟨_, _, fails, rfl⟩
  rw [handleRequest_query backend request, if_pos safe, ran, Failure.CarriedBy]
  have codeField (mapped : Int64 × String)
      : (queryResponse json (.error mapped)).get "error_code" = some (jsonInt mapped.1) :=
    Value.get_ofFields (by simp) (by simp)
  have messageField (mapped : Int64 × String)
      : (queryResponse json (.error mapped)).get "error_message" = some (.string mapped.2) :=
    Value.get_ofFields (by simp) (by simp)
  dsimp only
  rw [codeField, messageField]
  constructor
  · rintro ⟨-, message⟩ reworded
    exact (Failure.mapSqliteErr_reworded reworded).2
      (Value.string.inj (Option.some.inj message))
  · intro plain
    rw [Failure.mapSqliteErr_plain plain]
    exact ⟨rfl, rfl⟩

end Query

/-- A world in which no statement can be prepared. -/
def refusing (err : RusqliteError) : Backend Unit Unit Unit where
  pathExists := fun _ _ => false
  canonicalize := fun _ _ => none
  readDir := fun _ _ => none
  removeFile := fun _ _ => none
  openConnection := fun _ _ => (.ok (), ())
  executeBatch := fun _ _ _ => (.ok (), ())
  prepare := fun _ _ _ => (.error err, ())
  columnNames := fun _ => []
  query := fun _ _ _ => .done ()
  close := fun _ _ => ()

theorem sqlErrors_locked
    : Failure.CarriedBy ⟨5, "database is locked", none⟩
        (handleRequest (refusing (.sqliteFailure 5 (some "database is locked") "busy"))
          (.standard "/srv/sqlite" "") unsignedReader (queryOf "mydb" "SELECT 1") .new ()).1 := by
  have request
      : (requested (.standard "/srv/sqlite" "") unsignedReader (.new : RequestHandler Unit)
          (queryOf "mydb" "SELECT 1")).map Prod.snd
        = some (.query "mydb" "SELECT 1") := by
    decide +kernel
  obtain ⟨⟨json, command⟩, found, rfl⟩ := Option.map_eq_some_iff.mp request
  exact (sqlErrors_iff found (by decide) (by decide) ⟨5, "database is locked", none⟩
    (.prepare "SELECT 1") "busy"
    (.preparing () _ (RequestHandler.new.insert "mydb" ()) () () rfl rfl)).mpr
    (by simp [Failure.Reworded])

/-- SQLite's message is followed by the statement and the position of the missing column. -/
theorem missingColumn_reworded
    : ¬ ∀ (failure : Failure) (call : SqliteCall),
        FailsWith (refusing (.sqlInputError 1 "no such column: bogus" "SELECT bogus" 7))
            (.standard "/srv/sqlite" "") "mydb" "SELECT bogus" .new () call
            (failure.error "SQL logic error" call)
        → failure.CarriedBy
            (handleRequest
              (refusing (.sqlInputError 1 "no such column: bogus" "SELECT bogus" 7))
              (.standard "/srv/sqlite" "") unsignedReader (queryOf "mydb" "SELECT bogus")
              .new ()).1 := by
  intro claim
  obtain ⟨-, message⟩ := claim ⟨1, "no such column: bogus", some 7⟩ (.prepare "SELECT bogus")
    (.preparing () _ (RequestHandler.new.insert "mydb" ()) () () rfl rfl)
  exact absurd message (by decide +kernel)

end SqliteServer
