import SqliteServer.Authentication
import SqliteServer.RenderedRequests
import SqliteServer.Rejections

/-! Which failures of a query the example clients see. -/

namespace SqliteServer

open Json

namespace RustClient

/-- The request of `query`. -/
def queryRequest (database prepared : String) : Value :=
  .ofFields [("cmd", .string "QUERY"), ("db", .string database), ("query", .string prepared)]

/-- The message of an error response; without one, the whole response. -/
def serverError (toString : Value → String) (payload : Value) : Option String :=
  match payload.asObject with
  | none => none
  | some obj =>
      match (field? "error_message" obj).bind Value.asStr with
      | some msg => some msg
      | none =>
          if (field? "error_code" obj).isSome || (field? "generic_error" obj).isSome then
            some (toString payload)
          else none

end RustClient

namespace PythonClient

/-- Whether `query` reports a server error. -/
def reportsError : Value → Bool
  | .object fields =>
      (field? "error_message" fields).isSome || (field? "error_code" fields).isSome
        || (field? "generic_error" fields).isSome
  | _ => false

end PythonClient

-----------------------------------------------------------------------------------------
-- Requests and responses
-----------------------------------------------------------------------------------------

theorem queryRequest_get (db sql : String)
    : (RustClient.queryRequest db sql).get "cmd" = some (.string "QUERY")
      ∧ (RustClient.queryRequest db sql).get "db" = some (.string db)
      ∧ (RustClient.queryRequest db sql).get "query" = some (.string sql)
      ∧ (RustClient.queryRequest db sql).get "auth" = none := by
  exact ⟨Value.get_ofFields (by simp) (by simp), Value.get_ofFields (by simp) (by simp),
    Value.get_ofFields (by simp) (by simp), Value.get_ofFields_other (by simp)⟩

theorem commandOf_queryRequest (db sql : String)
    : commandOf (RustClient.queryRequest db sql) = .query db sql := by
  obtain ⟨cmd, name, text, -⟩ := queryRequest_get db sql
  have query : eqIgnoreAsciiCase "QUERY" "QUERY" = true := by decide
  simp [commandOf, cmd, name, text, Value.asStr, query]

section Classifiers

variable (toString : Value → String)

/-- Neither client sees an error in a response without the three keys. -/
theorem noError_of_keys (fields : List (String × Value))
    (absent
      : ∀ key ∈ ["error_message", "error_code", "generic_error"], ∀ entry ∈ fields, entry.1 ≠ key)
    : RustClient.serverError toString (.ofFields fields) = none
      ∧ PythonClient.reportsError (.ofFields fields) = false := by
  have message := Value.get_ofFields_other (absent "error_message" (by simp))
  have code := Value.get_ofFields_other (absent "error_code" (by simp))
  have generic := Value.get_ofFields_other (absent "generic_error" (by simp))
  unfold Value.get Value.ofFields at message code generic
  dsimp only at message code generic
  unfold RustClient.serverError PythonClient.reportsError Value.ofFields
  simp [Value.asObject, message, code, generic]

theorem error_genericError (code : Int64) (request : Value)
    : (RustClient.serverError toString (genericError code request)).isSome = true
      ∧ PythonClient.reportsError (genericError code request) = true := by
  have generic := genericError_code code request
  have message : (genericError code request).get "error_message" = none :=
    Value.get_ofFields_other (by simp)
  unfold genericError Value.get Value.ofFields at generic message
  dsimp only at generic message
  unfold RustClient.serverError PythonClient.reportsError genericError Value.ofFields
  simp [Value.asObject, message, generic]

theorem error_queryResponse (json : Value) (err : Int64 × String)
    : (RustClient.serverError toString (queryResponse json (.error err))).isSome = true
      ∧ PythonClient.reportsError (queryResponse json (.error err)) = true := by
  have message
      : (queryResponse json (.error err)).get "error_message" = some (.string err.2) :=
    Value.get_ofFields (by simp) (by simp)
  unfold queryResponse Value.get Value.ofFields at message
  dsimp only at message
  unfold RustClient.serverError PythonClient.reportsError queryResponse Value.ofFields
  simp [Value.asObject, message, Value.asStr]

end Classifiers

section Query

variable {World Conn Stmt : Type} (backend : Backend World Conn Stmt) (config : Config)
  (serde : SerdeJson) (handler : RequestHandler Conn) (world : World) (db sql : String)

/-- A statement that ran to its end gives a result set. -/
theorem runQuery_ok {value : Value}
    (ran : (runQuery backend config db sql handler world).1 = .ok value)
    : ∃ columns data, value = .ofFields [("columns", columns), ("data", data)] := by
  unfold runQuery at ran
  cases prepared : prepareQuery backend config db sql handler world with
  | mk result rest =>
      rw [prepared] at ran
      cases result with
      | error err => contradiction
      | ok found =>
          dsimp only at ran
          unfold stepQuery at ran
          cases collected : collectRows found.2.2 (backend.query rest.2 found.1 found.2.1) [] with
          | mk outcome final =>
              rw [collected] at ran
              cases outcome with
              | error err => contradiction
              | ok rowsData => exact ⟨_, _, (Except.ok.inj ran).symm⟩

/-- The request's statement is executed to completion: it is let through, its database name is
safe, and all its rows are stepped through.
-/
def ExecutesToCompletion (req : String) : Prop :=
  ∃ json value,
    requested config serde handler req = some (json, .query db sql)
    ∧ isSafeDatabaseName backend config world db = true
    ∧ (runQuery backend config db sql handler world).1 = .ok value

variable {backend config serde handler world db sql}

/-- The clients see an error in the response to a query that is let through exactly if its
statement is not executed to completion: cases on the name check and the outcome.
-/
theorem serverError_requested {json : Value} {req : String} (toString : Value → String)
    (request : requested config serde handler req = some (json, .query db sql))
    : PythonClient.reportsError (handleRequest backend config serde req handler world).1
        = (RustClient.serverError toString
            (handleRequest backend config serde req handler world).1).isSome
      ∧ (RustClient.serverError toString
            (handleRequest backend config serde req handler world).1 = none
          ↔ ExecutesToCompletion backend config serde handler world db sql req) := by
  rw [handleRequest_query backend request, ← Option.isNone_iff_eq_none, ← Option.not_isSome]
  by_cases safe : isSafeDatabaseName backend config world db = true
  · rw [if_pos safe]
    dsimp only
    cases ran : (runQuery backend config db sql handler world).1 with
    | error err =>
        obtain ⟨seen, reported⟩ := error_queryResponse toString json err
        rw [seen, reported]
        refine ⟨rfl, iff_of_false (by decide) ?_⟩
        rintro ⟨-, value, -, -, completed⟩
        rw [ran] at completed
        contradiction
    | ok value =>
        obtain ⟨columns, data, rfl⟩ := runQuery_ok backend config handler world db sql ran
        obtain ⟨unseen, unreported⟩ :=
          noError_of_keys toString [("columns", columns), ("data", data)] (by simp)
        rw [queryResponse, unseen, unreported]
        exact ⟨rfl, iff_of_true (by decide) ⟨json, _, request, safe, ran⟩⟩
  · rw [if_neg safe]
    obtain ⟨seen, reported⟩ := error_genericError toString noDatabaseSpecified json
    rw [seen, reported]
    refine ⟨rfl, iff_of_false (by decide) ?_⟩
    rintro ⟨-, -, -, accepted, -⟩
    exact safe accepted

/-- The text the client sends for a query. -/
def queryText (printNumber : Number → NumberLit) (db sql : String) : String :=
  compactStrict printNumber (RustClient.queryRequest db sql)

/-- The Python client reports the same responses to a query as the Rust client, and both see
every failure exactly if the session is let through to its commands: a refusal by the
authentication gate has none of the keys they look for.
-/
theorem serverError_iff (backend : Backend World Conn Stmt) (config : Config) (serde : SerdeJson)
    (handler : RequestHandler Conn) (world : World) (db sql : String)
    (printNumber : Number → NumberLit) (toString : Value → String)
    (reads
      : serde.fromStr (queryText printNumber db sql) = .ok (RustClient.queryRequest db sql))
    : PythonClient.reportsError
          (handleRequest backend config serde (queryText printNumber db sql) handler world).1
        = (RustClient.serverError toString
            (handleRequest backend config serde (queryText printNumber db sql) handler
              world).1).isSome
      ∧ ((RustClient.serverError toString
              (handleRequest backend config serde (queryText printNumber db sql) handler
                world).1 = none
            ↔ ExecutesToCompletion backend config serde handler world db sql
                (queryText printNumber db sql))
          ↔ config.auth = "" ∨ handler.authenticated = true) := by
  have parsed
      : parseRequest serde (queryText printNumber db sql)
        = .ok (RustClient.queryRequest db sql) := by
    rw [parseRequest, reads]
  have noAuth : (RustClient.queryRequest db sql).get "auth" = none :=
    (queryRequest_get db sql).2.2.2
  have isAdmitted
      : admitted config handler (RustClient.queryRequest db sql) = true
        ↔ config.auth = "" ∨ handler.authenticated = true := by
    rw [admitted_iff, noAuth]
    simp
  by_cases gate : admitted config handler (RustClient.queryRequest db sql) = true
  · have request
        : requested config serde handler (queryText printNumber db sql)
          = some (RustClient.queryRequest db sql, .query db sql) := by
      rw [requested, parsed]
      dsimp only
      rw [if_pos gate, commandOf_queryRequest]
    obtain ⟨same, sees⟩ := serverError_requested toString request
    exact ⟨same, iff_of_true sees (isAdmitted.mp gate)⟩
  · have refused
        : (handleRequest backend config serde (queryText printNumber db sql) handler world).1
          = resultResponse "error" := by
      have closed := isAdmitted.not.mp gate
      rw [not_or, Bool.not_eq_true] at closed
      simp [handleRequest, parsed, closed.1, closed.2, noAuth]
    obtain ⟨unseen, unreported⟩ :=
      noError_of_keys toString [("result", .string "error")] (by simp)
    rw [refused, resultResponse, unseen, unreported]
    refine ⟨rfl, iff_of_false ?_ (isAdmitted.not.mp gate)⟩
    intro sees
    obtain ⟨json, value, request, -, -⟩ := sees.mp rfl
    rw [requested, parsed] at request
    dsimp only at request
    rw [if_neg gate] at request
    contradiction

end Query

/-- An open server reports a query that cannot open its database. -/
theorem serverError_open
    : PythonClient.reportsError
          (handleRequest emptyBackend (.standard "/srv/sqlite" "") unsignedReader
            (queryText printUnsigned "mydb" "SELECT 1") .new ()).1
        = (RustClient.serverError (compactStrict printUnsigned)
            (handleRequest emptyBackend (.standard "/srv/sqlite" "") unsignedReader
              (queryText printUnsigned "mydb" "SELECT 1") .new ()).1).isSome :=
  (serverError_iff emptyBackend (.standard "/srv/sqlite" "") unsignedReader .new () "mydb"
    "SELECT 1" printUnsigned (compactStrict printUnsigned) (by decide +kernel)).1

/-- A query that the authentication gate refuses looks like a result to both clients. -/
theorem serverError_unauthenticated
    : ¬ ∀ (backend : Backend Unit Unit Unit) (config : Config) (serde : SerdeJson)
        (handler : RequestHandler Unit) (db sql : String),
        serde.fromStr (queryText printUnsigned db sql) = .ok (RustClient.queryRequest db sql)
        → (RustClient.serverError (compactStrict printUnsigned)
              (handleRequest backend config serde (queryText printUnsigned db sql) handler ()).1
            = none
          ↔ ExecutesToCompletion backend config serde handler () db sql
              (queryText printUnsigned db sql)) := by
  intro claim
  have sees := claim emptyBackend (.standard "/srv/sqlite" "s3cret") unsignedReader .new "mydb"
    "SELECT 1" (by decide +kernel)
  obtain ⟨json, value, request, -, -⟩ := sees.mp (by decide +kernel)
  have refused
      : requested (.standard "/srv/sqlite" "s3cret") unsignedReader (.new : RequestHandler Unit)
          (queryText printUnsigned "mydb" "SELECT 1")
        = none := by
    decide +kernel
  rw [refused] at request
  contradiction

end SqliteServer
