import SqliteServer.ClientViews
import SqliteServer.ParameterBinding

/-! What the operations of the Rust client are for a session of the server: the requests they send
and what they make of the responses, against a service without texts.
-/

namespace SqliteServer

open Json Files Runs

-----------------------------------------------------------------------------------------
-- Operations
-----------------------------------------------------------------------------------------

namespace RustClient

/-- What is asked of a client that is bound to a database. -/
inductive Operation where
  | authenticate (auth : String)
  | query (sql : String) (params : Slice Param)
  | list
  | deleteDb (database : String)

/-- What an operation gives. The result of a query is what its accessors read. -/
inductive Reply where
  | authenticated (accepted : Bool)
  | result (columns : List String) (rows : List (List (String × Value))) (error : Option String)
  | names (list : List String)
  | deleted (removed : Bool)

/-- A reply with other numbers in its rows. -/
def Reply.mapNumbers (f : Number → Number) : Reply → Reply
  | .result columns rows error => .result columns (rows.map (fieldsMapNumbers f)) error
  | .authenticated accepted => .authenticated accepted
  | .names list => .names list
  | .deleted removed => .deleted removed

/-- The text of a query with its parameters bound. -/
def prepare (decimal : DecimalDigits) (sql : String) (params : Slice Param) : String :=
  if params.items.isEmpty then sql else String.ofList (bind decimal sql.toList params)

def authRequest (auth : String) : Value := .ofFields [("auth", .string auth)]

def listRequest : Value := .ofFields [("cmd", .string "LIST")]

def deleteRequest (database : String) : Value :=
  .ofFields [("cmd", .string "DELETE_DB"), ("db", .string database)]

/-- The request of an operation. -/
def Operation.request (decimal : DecimalDigits) (database : String) : Operation → Value
  | .authenticate auth => authRequest auth
  | .query sql params => queryRequest database (prepare decimal sql params)
  | .list => listRequest
  | .deleteDb database => deleteRequest database

/-- Whether a response has the result `ok`. -/
def isOk (response : Value) : Bool := (response.get "result").bind Value.asStr = some "ok"

/-- The names in a response. -/
def listed (response : Value) : List String :=
  (((response.get "list").bind Value.asArray).map (List.filterMap Value.asStr)).getD []

/-- What an operation makes of the response. -/
def Operation.reply (toString : Value → String) (response : Value) : Operation → Reply
  | .authenticate _ => .authenticated (isOk response)
  | .query _ _ => .result (columns response) (rows response) (serverError toString response)
  | .list => .names (listed response)
  | .deleteDb _ => .deleted (isOk response)

end RustClient

-----------------------------------------------------------------------------------------
-- The service
-----------------------------------------------------------------------------------------

open RustClient

section Service

variable {World Conn Stmt : Type} (backend : Backend World Conn Stmt) (config : Config)

/-- Run a query and collect its rows, or give the message of its failure. -/
def queryReply (db sql : String) (handler : RequestHandler Conn) (world : World)
    : Reply × RequestHandler Conn × World :=
  match prepareQuery backend config db sql handler world with
  | (.error err, handler, world) => (.result [] [] (some err.2), handler, world)
  | (.ok (conn, stmt, columns), handler, world) =>
      match collectRows columns (backend.query world conn stmt) [] with
      | (.error err, world) => (.result [] [] (some (mapSqliteErr err).2), handler, world)
      | (.ok rowsData, world) =>
          (.result columns (rowsData.filterMap Value.asObject) none, handler, world)

/-- The files of the folder, without those that SQLite keeps beside its databases. -/
def databaseNames (world : World) : List String :=
  let files := ((backend.readDir world config.databasesFolder).getD []).filter DirEntry.isFile
  (files.map (fun entry => Wire.fromUtf8Lossy entry.fileName)).filter
    (fun name => !isSqliteSidecarFile name)

/-- Remove the file of a database and drop the session's connection to it. -/
def deleteReply (db : String) (handler : RequestHandler Conn) (world : World)
    : Reply × RequestHandler Conn × World :=
  if isSafeDatabaseName backend config world db then
    match backend.removeFile world (join config.databasesFolder db) with
    | none => (.deleted false, handler, world)
    | some world =>
        match handler.connection? db with
        | some conn => (.deleted true, handler.remove db, backend.close world conn)
        | none => (.deleted true, handler, world)
  else (.deleted false, handler, world)

/-- What an operation gives to a client that has not authenticated: nothing, and no error. -/
def refusal : Operation → Reply
  | .authenticate _ => .authenticated false
  | .query _ _ => .result [] [] none
  | .list => .names []
  | .deleteDb _ => .deleted false

variable (toString : Value → String) (decimal : DecimalDigits)

/-- An operation on a session. A password is accepted if there is one and it is this; without it,
nothing is done.
-/
def serve (database : String) (op : Operation) (handler : RequestHandler Conn) (world : World)
    : Reply × RequestHandler Conn × World :=
  match op with
  | .authenticate auth =>
      if config.auth ≠ "" ∧ auth = config.auth then
        (.authenticated true, { handler with authenticated := true }, world)
      else (.authenticated false, handler, world)
  | op =>
      if config.auth = "" ∨ handler.authenticated = true then
        match op with
        | .query sql params =>
            let prepared := prepare decimal sql params
            if isSafeDatabaseName backend config world database then
              queryReply backend config database prepared handler world
            else
              let response := genericError noDatabaseSpecified (queryRequest database prepared)
              (.result [] [] (some (toString response)), handler, world)
        | .list => (.names (databaseNames backend config world), handler, world)
        | .deleteDb db => deleteReply backend config db handler world
        | op => (refusal op, handler, world)
      else (refusal op, handler, world)

end Service

-----------------------------------------------------------------------------------------
-- Requests
-----------------------------------------------------------------------------------------

/-- The text of an operation's request. -/
def requestOf (printNumber : Number → NumberLit) (decimal : DecimalDigits) (database : String)
    (op : Operation)
    : String :=
  compactStrict printNumber (op.request decimal database)

/-- An object of strings. -/
structure Flat (value : Value) : Prop where
  ordered : value.Within FieldsInOrder
  strings
    : ∀ {P : Value → Prop},
        (∀ fields, P (.object fields))
        → (∀ s, P (.string s))
        → value.Within P
  depth : value.depth ≤ 1

theorem flat_strings (fields : List (String × String))
    : Flat (.ofFields (fields.map fun field => (field.1, .string field.2))) := by
  refine ⟨Value.inOrder_ofFields ?_, fun objects strings => Value.within_ofFields (objects _) ?_,
    Value.depth_ofFields 0 ?_⟩
  all_goals
    intro entry member
    obtain ⟨field, -, rfl⟩ := List.mem_map.mp member
  · trivial
  · exact strings _
  · exact Nat.le_refl 0

theorem Flat.readsBack {value : Value} (flat : Flat value) (readNumber : Text → Option Number)
    (printNumber : Number → NumberLit)
    : value.Within (NumberReadsBack readNumber printNumber) :=
  flat.strings (fun _ => trivial) (fun _ => trivial)

theorem Flat.fixed {value : Value} (flat : Flat value) (f : Number → Number)
    : value.Within (FixesNumber f) :=
  flat.strings (fun _ => trivial) (fun _ => trivial)

/-- A request is a flat object of strings. -/
theorem Operation.request_flat (decimal : DecimalDigits) (database : String) (op : Operation)
    : Flat (op.request decimal database) := by
  cases op with
  | authenticate auth => exact flat_strings [("auth", auth)]
  | query sql params =>
      exact flat_strings
        [("cmd", "QUERY"), ("db", database), ("query", prepare decimal sql params)]
  | list => exact flat_strings [("cmd", "LIST")]
  | deleteDb db => exact flat_strings [("cmd", "DELETE_DB"), ("db", db)]

/-- The server reads a flat request as it was meant. -/
theorem parseRequest_flat {serde : SerdeJson} (faithful : serde.Faithful)
    (printNumber : Number → NumberLit) {request : Value} (flat : Flat request)
    : parseRequest serde (compactStrict printNumber request) = .ok request := by
  have read : serde.fromStr (compactStrict printNumber request) = .ok request :=
    (faithful.readsBack flat.ordered (flat.readsBack _ _)).mpr
      (lt_of_le_of_lt flat.depth (by decide))
  rw [parseRequest, read]

/-- The server reads a request as it was meant. -/
theorem parseRequest_requestOf {serde : SerdeJson} (faithful : serde.Faithful)
    (printNumber : Number → NumberLit) (decimal : DecimalDigits) (database : String)
    (op : Operation)
    : parseRequest serde (requestOf printNumber decimal database op)
      = .ok (op.request decimal database) :=
  parseRequest_flat faithful printNumber (Operation.request_flat decimal database op)

-----------------------------------------------------------------------------------------
-- Responses
-----------------------------------------------------------------------------------------

theorem isOk_resultResponse (result : String)
    : isOk (resultResponse result) = decide (result = "ok") := by
  rw [isOk, resultResponse, Value.get_ofFields (by simp) List.mem_cons_self]
  simp [Value.asStr]

theorem isOk_genericError (code : Int64) (request : Value)
    : isOk (genericError code request) = false := by
  rw [isOk, genericError, Value.get_ofFields_other (by simp)]
  rfl

section Replies

variable (toString : Value → String) (sql : String) (params : Slice Param)

theorem reply_resultResponse (result : String)
    : (Operation.query sql params).reply toString (resultResponse result)
      = .result [] [] none := by
  obtain ⟨columns, data⟩ :=
    RustClient.empty_other [("result", .string result)] (by simp) (by simp)
  have error := (noError_of_keys toString [("result", .string result)] (by simp)).1
  rw [Operation.reply, RustClient.rows, resultResponse, columns, data, error]
  rfl

theorem reply_genericError (code : Int64) (request : Value)
    : (Operation.query sql params).reply toString (genericError code request)
      = .result [] [] (some (toString (genericError code request))) := by
  obtain ⟨columns, data⟩ :=
    RustClient.empty_other [("generic_error", jsonInt code), ("request", request)]
      (by simp) (by simp)
  have generic := genericError_code code request
  have message : (genericError code request).get "error_message" = none :=
    Value.get_ofFields_other (by simp)
  have error
      : serverError toString (genericError code request)
        = some (toString (genericError code request)) := by
    unfold genericError Value.get Value.ofFields at generic message
    dsimp only at generic message
    unfold RustClient.serverError genericError Value.ofFields
    simp [Value.asObject, message, generic]
  rw [Operation.reply, error]
  rw [RustClient.rows, genericError, columns, data]
  rfl

theorem reply_queryResponse_error (json : Value) (err : Int64 × String)
    : (Operation.query sql params).reply toString (queryResponse json (.error err))
      = .result [] [] (some err.2) := by
  obtain ⟨code, text⟩ := err
  obtain ⟨columns, data⟩ :=
    RustClient.empty_other
      [("error_code", jsonInt code), ("error_message", .string text), ("query", json)]
      (by simp) (by simp)
  have message
      : (queryResponse json (.error (code, text))).get "error_message" = some (.string text) :=
    Value.get_ofFields (by simp) (by simp)
  have error : serverError toString (queryResponse json (.error (code, text))) = some text := by
    unfold queryResponse Value.get Value.ofFields at message
    dsimp only at message
    unfold RustClient.serverError queryResponse Value.ofFields
    simp [Value.asObject, message, Value.asStr]
  rw [Operation.reply, error]
  rw [RustClient.rows, queryResponse, columns, data]
  rfl

theorem reply_payload (columns : List String) (rowsData : List Value)
    : (Operation.query sql params).reply toString
        (.ofFields [("columns", .array (columns.map .string)), ("data", .array rowsData)])
      = .result columns (rowsData.filterMap Value.asObject) none := by
  obtain ⟨names, data⟩ := RustClient.result_payload columns rowsData
  have error := (noError_of_keys toString
    [("columns", .array (columns.map .string)), ("data", .array rowsData)] (by simp)).1
  rw [Operation.reply, RustClient.rows, names, data, error]

/-- What a client reads in the response to a query that was run. -/
theorem reply_runQuery {World Conn Stmt : Type} (backend : Backend World Conn Stmt)
    (config : Config) (json : Value) (db text : String) (handler : RequestHandler Conn)
    (world : World)
    : ((Operation.query sql params).reply toString
          (queryResponse json (runQuery backend config db text handler world).1),
        (runQuery backend config db text handler world).2)
      = queryReply backend config db text handler world := by
  unfold runQuery queryReply
  rcases prepareQuery backend config db text handler world
    with ⟨err | ⟨conn, stmt, columns⟩, next, reached⟩
  · exact Prod.ext (reply_queryResponse_error toString sql params json err) rfl
  · dsimp only
    unfold stepQuery
    cases collected : collectRows columns (backend.query reached conn stmt) [] with
    | mk result final =>
        cases result with
        | error err =>
            exact Prod.ext (reply_queryResponse_error toString sql params json _) rfl
        | ok rowsData => exact Prod.ext (reply_payload toString sql params columns rowsData) rfl

end Replies

-----------------------------------------------------------------------------------------
-- Numbers
-----------------------------------------------------------------------------------------

section Numbers

variable (f : Number → Number)

theorem strings_mapNumbers (value? : Option Value)
    : (((value?.map (Value.mapNumbers f)).bind Value.asArray).map
          (List.filterMap Value.asStr)).getD []
      = ((value?.bind Value.asArray).map (List.filterMap Value.asStr)).getD [] := by
  cases value? with
  | none => rfl
  | some value =>
      cases value with
      | array items =>
          simp [Value.mapNumbers, Value.asArray, itemsMapNumbers_eq_map, List.filterMap_map,
            asStr_mapNumbers]
      | null | bool | number | string | object => rfl

theorem isOk_mapNumbers (response : Value) : isOk (response.mapNumbers f) = isOk response := by
  rw [isOk, isOk, Value.get_mapNumbers]
  cases response.get "result" with
  | none => rfl
  | some value => rw [Option.map_some, Option.bind_some, asStr_mapNumbers, Option.bind_some]

theorem rows_mapNumbers (response : Value)
    : rows (response.mapNumbers f) = (rows response).map (fieldsMapNumbers f) := by
  rw [rows, rows, data, data, Value.get_mapNumbers]
  cases response.get "data" with
  | none => rfl
  | some value =>
      cases value with
      | array items =>
          have objects (item : Value)
              : (item.mapNumbers f).asObject = item.asObject.map (fieldsMapNumbers f) := by
            cases item <;> rfl
          simp [Value.mapNumbers, Value.asArray, itemsMapNumbers_eq_map, List.filterMap_map,
            objects, List.map_filterMap]
      | null | bool | number | string | object => rfl

/-- What an operation makes of a response with other numbers, if the error message is the same. -/
theorem Operation.reply_mapNumbers (toString : Value → String) {response : Value}
    (errors : serverError toString (response.mapNumbers f) = serverError toString response)
    (op : Operation)
    : op.reply toString (response.mapNumbers f) = (op.reply toString response).mapNumbers f := by
  cases op with
  | authenticate auth => exact congrArg Reply.authenticated (isOk_mapNumbers f response)
  | deleteDb db => exact congrArg Reply.deleted (isOk_mapNumbers f response)
  | list =>
      refine congrArg Reply.names ?_
      rw [listed, Value.get_mapNumbers, strings_mapNumbers]
      rfl
  | query sql params =>
      have columns : columns (response.mapNumbers f) = columns response := by
        rw [RustClient.columns, Value.get_mapNumbers, strings_mapNumbers]
        rfl
      rw [Operation.reply, columns, rows_mapNumbers, errors]
      rfl

end Numbers

-----------------------------------------------------------------------------------------
-- Sessions
-----------------------------------------------------------------------------------------

section Sessions

variable {World Conn Stmt : Type} (backend : Backend World Conn Stmt) (config : Config)

/-- The gate in front of the commands. -/
theorem handleRequest_gate {serde : SerdeJson} {req : String} {json : Value}
    (parsed : parseRequest serde req = .ok json) (handler : RequestHandler Conn) (world : World)
    : handleRequest backend config serde req handler world
      = if config.auth ≠ "" ∧ (json.get "auth").bind Value.asStr = some config.auth then
          (resultResponse "ok", { handler with authenticated := true }, world)
        else if config.auth = "" ∨ handler.authenticated = true then
          dispatch backend config req json handler world
        else (resultResponse "error", handler, world) := by
  unfold handleRequest
  rw [parsed]
  dsimp only
  by_cases open' : config.auth = ""
  · simp [open']
  · cases (json.get "auth").bind Value.asStr with
    | none => simp [open']
    | some auth => simp [open']

/-- A message with nothing but a password is no command. -/
theorem dispatch_authRequest (req auth : String) (handler : RequestHandler Conn) (world : World)
    : dispatch backend config req (RustClient.authRequest auth) handler world
      = (genericError noCommandSpecified (.string req), handler, world) := by
  have cmd : (RustClient.authRequest auth).get "cmd" = none := Value.get_ofFields_other (by simp)
  rw [dispatch, cmd]
  rfl

theorem dispatch_listRequest (req : String) (handler : RequestHandler Conn) (world : World)
    : dispatch backend config req RustClient.listRequest handler world
      = (handleList backend config world, handler, world) := by
  have cmd : RustClient.listRequest.get "cmd" = some (.string "LIST") :=
    Value.get_ofFields (by simp) List.mem_cons_self
  have query : eqIgnoreAsciiCase "LIST" "QUERY" = false := by decide
  have list : eqIgnoreAsciiCase "LIST" "LIST" = true := by decide
  rw [dispatch, cmd]
  simp [Value.asStr, query, list]

theorem commandOf_deleteRequest (db : String)
    : commandOf (RustClient.deleteRequest db) = .deleteDb db := by
  have cmd : (RustClient.deleteRequest db).get "cmd" = some (.string "DELETE_DB") :=
    Value.get_ofFields (by simp) (by simp)
  have name : (RustClient.deleteRequest db).get "db" = some (.string db) :=
    Value.get_ofFields (by simp) (by simp)
  have query : eqIgnoreAsciiCase "DELETE_DB" "QUERY" = false := by decide
  have list : eqIgnoreAsciiCase "DELETE_DB" "LIST" = false := by decide
  have delete : eqIgnoreAsciiCase "DELETE_DB" "DELETE_DB" = true := by decide
  simp [commandOf, cmd, name, Value.asStr, query, list, delete]

/-- The client finds the names of the listing. -/
theorem listed_handleList (world : World)
    : listed (handleList backend config world) = databaseNames backend config world := by
  rw [listed, handleList, Value.get_ofFields (by simp) List.mem_cons_self]
  simp [Value.asArray, List.filterMap_map, Function.comp_def, Value.asStr, databaseNames]

variable {serde : SerdeJson} (printNumber : Number → NumberLit) (toString : Value → String)
  (decimal : DecimalDigits)

/-- The server serves every operation: what the client makes of the response is what the service
gives, and the session and the world are left as the service leaves them. By cases on the operation,
behind the gate.
-/
theorem operation_served (faithful : serde.Faithful) (database : String) (op : Operation)
    (handler : RequestHandler Conn) (world : World)
    : (op.reply toString
          (handleRequest backend config serde (requestOf printNumber decimal database op) handler
            world).1,
        (handleRequest backend config serde (requestOf printNumber decimal database op) handler
          world).2)
      = serve backend config toString decimal database op handler world := by
  rw [handleRequest_gate backend config
    (parseRequest_requestOf faithful printNumber decimal database op)]
  generalize requestOf printNumber decimal database op = req
  cases op with
  | authenticate auth =>
      have given : (RustClient.authRequest auth).get "auth" = some (.string auth) :=
        Value.get_ofFields (by simp) List.mem_cons_self
      rw [Operation.request, given, dispatch_authRequest, serve]
      simp only [Option.bind_some, Value.asStr, Option.some.injEq]
      split_ifs
      · exact Prod.ext (congrArg Reply.authenticated (isOk_resultResponse "ok")) rfl
      · exact Prod.ext (congrArg Reply.authenticated (isOk_genericError _ _)) rfl
      · exact Prod.ext (congrArg Reply.authenticated (isOk_resultResponse "error")) rfl
  | query sql params =>
      obtain ⟨-, -, -, auth⟩ := queryRequest_get database (prepare decimal sql params)
      have dispatched := dispatch_commandOf backend config req
        (queryRequest database (prepare decimal sql params)) handler world
      rw [commandOf_queryRequest] at dispatched
      dsimp only at dispatched
      rw [Operation.request, auth, dispatched, serve]
      simp only [Option.bind_none, reduceCtorEq, and_false, if_false]
      split_ifs
      · dsimp only
        exact reply_runQuery toString sql params backend config _ database _ handler world
      · exact Prod.ext (reply_genericError toString sql params _ _) rfl
      · exact Prod.ext (reply_resultResponse toString sql params "error") rfl
  | list =>
      have auth : RustClient.listRequest.get "auth" = none := Value.get_ofFields_other (by simp)
      rw [Operation.request, auth, dispatch_listRequest, serve]
      simp only [Option.bind_none, reduceCtorEq, and_false, if_false]
      split_ifs
      · exact Prod.ext (congrArg Reply.names (listed_handleList backend config world)) rfl
      · refine Prod.ext (congrArg Reply.names ?_) rfl
        rw [listed, resultResponse, Value.get_ofFields_other (by simp)]
        rfl
  | deleteDb db =>
      have auth : (RustClient.deleteRequest db).get "auth" = none :=
        Value.get_ofFields_other (by simp)
      have dispatched := dispatch_commandOf backend config req (RustClient.deleteRequest db) handler
        world
      rw [commandOf_deleteRequest] at dispatched
      dsimp only at dispatched
      rw [Operation.request, auth, dispatched, serve]
      simp only [Option.bind_none, reduceCtorEq, and_false, if_false, deleteReply]
      split_ifs
      · cases backend.removeFile world (join config.databasesFolder db) with
        | none => exact Prod.ext (congrArg Reply.deleted (isOk_resultResponse "error")) rfl
        | some removed =>
            dsimp only
            cases handler.connection? db with
            | none => exact Prod.ext (congrArg Reply.deleted (isOk_resultResponse "ok")) rfl
            | some conn =>
                exact Prod.ext (congrArg Reply.deleted (isOk_resultResponse "ok")) rfl
      · exact Prod.ext (congrArg Reply.deleted (isOk_genericError _ _)) rfl
      · exact Prod.ext (congrArg Reply.deleted (isOk_resultResponse "error")) rfl

end Sessions

end SqliteServer
