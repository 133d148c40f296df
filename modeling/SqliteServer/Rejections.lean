import SqliteServer.Authentication
import SqliteServer.Commands

/-! What a rejected request leaves behind, and what an authentication message does. -/

namespace SqliteServer

open Json Files

section Responses

variable {World Conn Stmt : Type} {backend : Backend World Conn Stmt} {config : Config}

/-- The response to a query that was run has no other keys than those of a result or of an SQL
error.
-/
theorem runQuery_keys {key : String}
    (other : ∀ name ∈ ["columns", "data", "error_code", "error_message", "query"], name ≠ key)
    (json : Value) (db sql : String) (handler : RequestHandler Conn) (world : World)
    : (queryResponse json (runQuery backend config db sql handler world).1).get key = none := by
  have failed (err : Int64 × String) : (queryResponse json (.error err)).get key = none := by
    refine Value.get_ofFields_other ?_
    intro entry member
    refine other entry.1 ?_
    simp only [List.mem_cons, List.not_mem_nil, or_false] at member
    rcases member with rfl | rfl | rfl <;> simp
  unfold runQuery
  cases prepared : prepareQuery backend config db sql handler world with
  | mk result rest =>
      cases result with
      | error err => exact failed err
      | ok found =>
          dsimp only
          unfold stepQuery
          cases collected : collectRows found.2.2 (backend.query rest.2 found.1 found.2.1) [] with
          | mk outcome final =>
              cases outcome with
              | error err => exact failed (mapSqliteErr err)
              | ok rowsData =>
                  refine Value.get_ofFields_other ?_
                  intro entry member
                  refine other entry.1 ?_
                  simp only [List.mem_cons, List.not_mem_nil, or_false] at member
                  rcases member with rfl | rfl <;> simp

theorem genericError_code (code : Int64) (request : Value)
    : (genericError code request).get "generic_error" = some (jsonInt code) :=
  Value.get_ofFields (by simp) (by simp)

theorem resultResponse_keys {key : String} (other : key ≠ "result") (result : String)
    : (resultResponse result).get key = none :=
  Value.get_ofFields_other (by simpa using other.symm)

theorem resultResponse_result (result : String)
    : (resultResponse result).get "result" = some (.string result) :=
  Value.get_ofFields (by simp) (by simp)

theorem resultResponse_injective {result result' : String}
    (same : resultResponse result = resultResponse result')
    : result = result' := by
  have := congrArg (Value.get "result") same
  rw [resultResponse_result, resultResponse_result] at this
  exact Value.string.inj (Option.some.inj this)

end Responses

-----------------------------------------------------------------------------------------
-- Rejected requests
-----------------------------------------------------------------------------------------

section Rejected

variable {World Conn Stmt : Type} (backend : Backend World Conn Stmt) (config : Config)
  (serde : SerdeJson)

/-- A response that rejects the request: one with an error code of the server, or a refusal. -/
def Rejects (response : Value) : Prop :=
  (response.get "generic_error").isSome = true ∨ response = resultResponse "error"

variable {backend config}

theorem not_rejects_of_keys {response : Value} (code : response.get "generic_error" = none)
    (result : response.get "result" ≠ some (.string "error"))
    : ¬ Rejects response := by
  rintro (coded | refused)
  · simp [code] at coded
  · rw [refused, resultResponse_result] at result
    exact result rfl

/-- A query whose database cannot be opened or tuned leaves the cache alone. -/
theorem getConnection_error {db : String} {handler : RequestHandler Conn} {world : World}
    {err : RusqliteError}
    (failed : (getConnection backend config db handler world).1 = .error err)
    : (getConnection backend config db handler world).2.1 = handler := by
  unfold getConnection at failed ⊢
  cases cached : handler.connection? db with
  | some conn => simp [cached] at failed
  | none =>
      rw [cached] at failed
      dsimp only at failed ⊢
      cases opened : backend.openConnection world (join config.databasesFolder db) with
      | mk result world' =>
          rw [opened] at failed
          cases result with
          | error err' => rfl
          | ok conn =>
              dsimp only at failed ⊢
              cases tuned : backend.executeBatch world' conn (tuningBatch config) with
              | mk tuning world'' =>
                  rw [tuned] at failed
                  cases tuning with
                  | error err' => rfl
                  | ok _ => simp at failed

/-- A rejected request leaves the session and the world as they were; so does a query without
text, and a query that cannot open or tune its database leaves the cache as it was. By cases on
the command of the request.
-/
theorem rejected_unchanged (backend : Backend World Conn Stmt) (config : Config)
    (serde : SerdeJson) (handler : RequestHandler Conn) (world : World) (req : String)
    : (Rejects (handleRequest backend config serde req handler world).1
        → (handleRequest backend config serde req handler world).2 = (handler, world))
      ∧ (∀ json db sql,
          requested config serde handler req = some (json, .query db sql)
          → isSafeDatabaseName backend config world db = true
          → trim sql = ""
          → handleRequest backend config serde req handler world
            = (
              .ofFields
                [
                  ("error_code", jsonInt sqliteMisuse),
                  ("error_message", .string "empty query"),
                  ("query", json)
                ],
              handler,
              world
            ))
      ∧ (∀ json db sql err,
          requested config serde handler req = some (json, .query db sql)
          → isSafeDatabaseName backend config world db = true
          → trim sql ≠ ""
          → (getConnection backend config db handler world).1 = .error err
          → (handleRequest backend config serde req handler world).2.1 = handler) := by
  refine ⟨?_, ?_, ?_⟩
  · intro rejects
    by_cases other : ∀ json command,
        requested config serde handler req = some (json, command) → command = .other
    · rcases handleRequest_other backend other world with same | authenticates
      · exact same
      · rw [authenticates] at rejects
        exact absurd rejects
          (not_rejects_of_keys (resultResponse_keys (by decide) "ok")
            (by rw [resultResponse_result]; decide))
    · simp only [not_forall] at other
      obtain ⟨json, command, request, proper⟩ := other
      cases command with
      | other => exact absurd rfl proper
      | query db sql =>
          rw [handleRequest_query backend request] at rejects ⊢
          by_cases safe : isSafeDatabaseName backend config world db = true
          · rw [if_pos safe] at rejects
            refine absurd rejects (not_rejects_of_keys (runQuery_keys (by decide) ..) ?_)
            rw [runQuery_keys (by decide)]
            exact nofun
          · rw [if_neg safe]
      | deleteDb db =>
          rw [handleRequest_deleteDb backend request] at rejects ⊢
          by_cases safe : isSafeDatabaseName backend config world db = true
          · rw [if_pos safe] at rejects ⊢
            cases removed : backend.removeFile world (join config.databasesFolder db) with
            | none => rfl
            | some world' =>
                have deleted : ¬ Rejects (resultResponse "ok") :=
                  not_rejects_of_keys (resultResponse_keys (by decide) "ok")
                    (by rw [resultResponse_result]; decide)
                rw [removed] at rejects
                dsimp only at rejects
                cases cached : handler.connection? db with
                | none =>
                    rw [cached] at rejects
                    exact absurd rejects deleted
                | some conn =>
                    rw [cached] at rejects
                    exact absurd rejects deleted
          · rw [if_neg safe]
  · intro json db sql request safe empty
    rw [handleRequest_query backend request, if_pos safe, runQuery, prepareQuery, if_pos empty]
    rfl
  · intro json db sql err request safe nonempty failed
    have unchanged := getConnection_error failed
    rw [handleRequest_query backend request, if_pos safe, runQuery, prepareQuery, if_neg nonempty]
    cases got : getConnection backend config db handler world with
    | mk result rest =>
        rw [got] at failed unchanged
        dsimp only at failed unchanged ⊢
        rw [failed]
        exact unchanged

end Rejected

-----------------------------------------------------------------------------------------
-- Authentication messages
-----------------------------------------------------------------------------------------

section AuthenticationMessage

variable {World Conn Stmt : Type} (backend : Backend World Conn Stmt) {config : Config}
  {serde : SerdeJson} {handler : RequestHandler Conn} {req auth : String} {json : Value}

/-- The request does nothing but give a password: its response says whether the password is
right, no command of it is executed, and no database is opened, used or deleted.
-/
structure OnlyAuthenticates (backend : Backend World Conn Stmt) (config : Config)
    (serde : SerdeJson) (auth req : String) (handler : RequestHandler Conn) (world : World)
    : Prop where
  response
    : (handleRequest backend config serde req handler world).1
      = resultResponse (if auth = config.auth then "ok" else "error")
  noCommand : requested config serde handler req = none
  databases
    : (handleRequest backend config serde req handler world).2.1.databases = handler.databases
  world : (handleRequest backend config serde req handler world).2.2 = world

/-- A message with a password does nothing but authenticate exactly if the password is right or
the session has not authenticated yet.
-/
theorem authMessage_iff (protected' : config.auth ≠ "") (parsed : parseRequest serde req = .ok json)
    (given : (json.get "auth").bind Value.asStr = some auth) (world : World)
    : OnlyAuthenticates backend config serde auth req handler world
      ↔ auth = config.auth ∨ handler.authenticated = false := by
  have isAdmitted
      : admitted config handler json = true
        ↔ handler.authenticated = true ∧ auth ≠ config.auth := by
    rw [admitted_iff, given]
    simp [protected']
  constructor
  · intro only
    by_contra neither
    rw [not_or, Bool.not_eq_false] at neither
    have none' := only.noCommand
    rw [requested, parsed] at none'
    dsimp only at none'
    rw [if_pos (isAdmitted.mpr ⟨neither.2, neither.1⟩)] at none'
    contradiction
  · intro either
    have refused : admitted config handler json = false := by
      rw [← Bool.not_eq_true, isAdmitted]
      rintro ⟨authenticated, wrong⟩
      rcases either with right | fresh
      · exact wrong right
      · rw [authenticated] at fresh
        contradiction
    have noCommand : requested config serde handler req = none := by
      rw [requested, parsed]
      simp [refused]
    by_cases password : auth = config.auth
    · refine ⟨?_, noCommand, ?_, ?_⟩ <;> simp [handleRequest, parsed, protected', given, password]
    · have fresh := either.resolve_left password
      refine ⟨?_, noCommand, ?_, ?_⟩ <;>
        simp [handleRequest, parsed, protected', given, password, fresh]

/-- A list command beside a wrong password, before and after authentication. -/
theorem authMessage_list
    : OnlyAuthenticates emptyBackend (.standard "/srv/sqlite" "s3cret") unsignedReader "guess"
          "\x7b\"auth\":\"guess\",\"cmd\":\"LIST\"\x7d" ⟨[], false⟩ ()
      ∧ ¬ OnlyAuthenticates emptyBackend (.standard "/srv/sqlite" "s3cret") unsignedReader "guess"
          "\x7b\"auth\":\"guess\",\"cmd\":\"LIST\"\x7d" ⟨[], true⟩ () := by
  have parsed
      : parseRequest unsignedReader "\x7b\"auth\":\"guess\",\"cmd\":\"LIST\"\x7d"
        = .ok (.object [("auth", .string "guess"), ("cmd", .string "LIST")]) := by
    decide +kernel
  rw [authMessage_iff emptyBackend (by decide) parsed rfl,
    authMessage_iff emptyBackend (by decide) parsed rfl]
  exact ⟨Or.inr rfl, by decide⟩

/-- An authenticated session executes the command beside a wrong password. -/
theorem authMessage_executes
    : ¬ ∀ (backend : Backend Unit Unit Unit) (config : Config) (serde : SerdeJson)
        (handler : RequestHandler Unit) (req auth : String) (json : Value),
        config.auth ≠ ""
        → parseRequest serde req = .ok json
        → (json.get "auth").bind Value.asStr = some auth
        → OnlyAuthenticates backend config serde auth req handler () := by
  intro claim
  have only := claim emptyBackend (.standard "/srv/sqlite" "s3cret") unsignedReader ⟨[], true⟩
    "\x7b\"auth\":\"guess\",\"cmd\":\"LIST\"\x7d" "guess"
    (.object [("auth", .string "guess"), ("cmd", .string "LIST")]) (by decide) (by decide +kernel)
    rfl
  exact absurd only.noCommand (by decide +kernel)

end AuthenticationMessage

end SqliteServer
