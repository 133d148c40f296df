import SqliteServer.Config
import SqliteServer.Files.Paths
import SqliteServer.KeyRepair
import SqliteServer.QueryValues

/-! The request handler of one connection, over any file system and any SQLite. -/

namespace SqliteServer

open Json Files Wire

/-- An entry of a folder; `isFile` says whether it leads to a regular file. -/
structure DirEntry where
  fileName : Bytes
  isFile : Bool

/-- What the handler calls. Every operation is given the current world and gives the next one. -/
structure Backend (World Conn Stmt : Type) where
  pathExists : World → String → Bool
  canonicalize : World → String → Option String
  readDir : World → String → Option (List DirEntry)
  removeFile : World → String → Option World
  openConnection : World → String → Except RusqliteError Conn × World
  executeBatch : World → Conn → String → Except RusqliteError Unit × World
  prepare : World → Conn → String → Except RusqliteError Stmt × World
  columnNames : Stmt → List String
  query : World → Conn → Stmt → Rows World
  close : World → Conn → World

/-- The state of a connection: its open databases by name, and whether it has authenticated. -/
structure RequestHandler (Conn : Type) where
  databases : List (String × Conn)
  authenticated : Bool

namespace RequestHandler

variable {Conn : Type}

def new : RequestHandler Conn := ⟨[], false⟩

def connection? (handler : RequestHandler Conn) (db : String) : Option Conn :=
  handler.databases.lookup db

def insert (handler : RequestHandler Conn) (db : String) (conn : Conn) : RequestHandler Conn :=
  { handler with databases := (db, conn) :: handler.databases }

def remove (handler : RequestHandler Conn) (db : String) : RequestHandler Conn :=
  { handler with databases := handler.databases.filter (fun entry => entry.1 != db) }

end RequestHandler

-----------------------------------------------------------------------------------------
-- Responses and text
-----------------------------------------------------------------------------------------

def invalidFormat : Int64 := 0
def noCommandSpecified : Int64 := 1
def unknownCommand : Int64 := 2
def noDatabaseSpecified : Int64 := 3
def errorReadingFromClient : Int64 := 4
def sqliteMisuse : Int64 := 21

def jsonInt (n : Int64) : Value := .number (Number.ofInt64 n)

def genericError (code : Int64) (request : Value) : Value :=
  .ofFields [("generic_error", jsonInt code), ("request", request)]

def resultResponse (result : String) : Value := .ofFields [("result", .string result)]

/-- The characters with the Unicode property White_Space. -/
def isWhitespace (c : Char) : Bool :=
  (0x09 ≤ c.toNat && c.toNat ≤ 0x0d) || c.toNat = 0x20 || c.toNat = 0x85 || c.toNat = 0xa0
    || c.toNat = 0x1680 || (0x2000 ≤ c.toNat && c.toNat ≤ 0x200a) || c.toNat = 0x2028
    || c.toNat = 0x2029 || c.toNat = 0x202f || c.toNat = 0x205f || c.toNat = 0x3000

def trim (s : String) : String :=
  String.ofList
    ((s.toList.dropWhile isWhitespace).reverse.dropWhile isWhitespace).reverse

def eqIgnoreAsciiCase (a b : String) : Bool := a.toList.map Char.toLower = b.toList.map Char.toLower

def endsWith (name suffix : String) : Bool := suffix.toList.isSuffixOf name.toList

/-- SQLite keeps transient state in sidecar files. -/
def isSqliteSidecarFile (name : String) : Bool :=
  endsWith name "-wal" || endsWith name "-shm" || endsWith name "-journal"

-----------------------------------------------------------------------------------------
-- Commands
-----------------------------------------------------------------------------------------

section Handler

variable {World Conn Stmt : Type} (backend : Backend World Conn Stmt) (config : Config)

/-- A database name must be one normal component, and what it leads to must lie in the folder. -/
def isSafeDatabaseName (world : World) (name : String) : Bool :=
  if name = "" then false
  else if isAbsolute name then false
  else
    match components name with
    | [.normal _] =>
        let full := join config.databasesFolder name
        if backend.pathExists world full then
          match backend.canonicalize world config.databasesFolder,
              backend.canonicalize world full with
          | some base, some resolved =>
              match stripPrefix resolved base with
              | some rel => rel.length = 1
              | none => false
          | _, _ => false
        else true
    | _ => false

/-- The statements that tune every new connection. -/
def tuningBatch : String :=
  "PRAGMA journal_mode=WAL; PRAGMA busy_timeout=" ++ toString config.busyTimeoutMs.toNat
    ++ "; PRAGMA synchronous=NORMAL;"

/-- The connection to a database, opened and tuned on first use. One that cannot be tuned is
closed again.
-/
def getConnection (db : String) (handler : RequestHandler Conn) (world : World)
    : Except RusqliteError Conn × RequestHandler Conn × World :=
  match handler.connection? db with
  | some conn => (.ok conn, handler, world)
  | none =>
      match backend.openConnection world (join config.databasesFolder db) with
      | (.error err, world) => (.error err, handler, world)
      | (.ok conn, world) =>
          match backend.executeBatch world conn (tuningBatch config) with
          | (.error err, world) => (.error err, handler, backend.close world conn)
          | (.ok (), world) => (.ok conn, handler.insert db conn, world)

/-- A query up to its first step: the connection, the statement and its column names. -/
def prepareQuery (db query : String) (handler : RequestHandler Conn) (world : World)
    : Except (Int64 × String) (Conn × Stmt × List String) × RequestHandler Conn × World :=
  if trim query = "" then (.error (sqliteMisuse, "empty query"), handler, world)
  else
    match getConnection backend config db handler world with
    | (.error err, handler, world) => (.error (mapSqliteErr err), handler, world)
    | (.ok conn, handler, world) =>
        match backend.prepare world conn query with
        | (.error err, world) => (.error (mapSqliteErr err), handler, world)
        | (.ok stmt, world) => (.ok (conn, stmt, backend.columnNames stmt), handler, world)

/-- The steps of a prepared query. -/
def stepQuery (conn : Conn) (stmt : Stmt) (columns : List String) (world : World)
    : Except (Int64 × String) Value × World :=
  match collectRows columns (backend.query world conn stmt) [] with
  | (.error err, world) => (.error (mapSqliteErr err), world)
  | (.ok rowsData, world) =>
      (.ok (.ofFields [("columns", .array (columns.map .string)), ("data", .array rowsData)]),
        world)

def runQuery (db query : String) (handler : RequestHandler Conn) (world : World)
    : Except (Int64 × String) Value × RequestHandler Conn × World :=
  match prepareQuery backend config db query handler world with
  | (.error err, handler, world) => (.error err, handler, world)
  | (.ok (conn, stmt, columns), handler, world) =>
      let stepped := stepQuery backend conn stmt columns world
      (stepped.1, handler, stepped.2)

/-- The response to a query that was run. -/
def queryResponse (json : Value) : Except (Int64 × String) Value → Value
  | .ok value => value
  | .error (code, message) =>
      .ofFields
        [("error_code", jsonInt code), ("error_message", .string message), ("query", json)]

/-- The database and the query text of a request, or the response that refuses it. -/
def queryArguments (json : Value) (world : World) : Except Value (String × String) :=
  match (json.get "db").bind Value.asStr with
  | none => .error (genericError noDatabaseSpecified json)
  | some db =>
      match (json.get "query").bind Value.asStr with
      | none => .error (genericError errorReadingFromClient json)
      | some query =>
          if isSafeDatabaseName backend config world db then .ok (db, query)
          else .error (genericError noDatabaseSpecified json)

def handleQuery (json : Value) (handler : RequestHandler Conn) (world : World)
    : Value × RequestHandler Conn × World :=
  match queryArguments backend config json world with
  | .error response => (response, handler, world)
  | .ok (db, query) =>
      let run := runQuery backend config db query handler world
      (queryResponse json run.1, run.2)

def handleList (world : World) : Value :=
  let entries := (backend.readDir world config.databasesFolder).getD []
  let names := (entries.filter DirEntry.isFile).map (fun entry => fromUtf8Lossy entry.fileName)
  .ofFields
    [("list", .array ((names.filter (fun name => !isSqliteSidecarFile name)).map .string))]

def handleDeleteDb (json : Value) (handler : RequestHandler Conn) (world : World)
    : Value × RequestHandler Conn × World :=
  match (json.get "db").bind Value.asStr with
  | none => (genericError noDatabaseSpecified json, handler, world)
  | some db =>
      if isSafeDatabaseName backend config world db then
        match backend.removeFile world (join config.databasesFolder db) with
        | none => (resultResponse "error", handler, world)
        | some world =>
            match handler.connection? db with
            | some conn => (resultResponse "ok", handler.remove db, backend.close world conn)
            | none => (resultResponse "ok", handler, world)
      else (genericError noDatabaseSpecified json, handler, world)

/-- The commands, by their name in any case. -/
def dispatch (req : String) (json : Value) (handler : RequestHandler Conn) (world : World)
    : Value × RequestHandler Conn × World :=
  match (json.get "cmd").bind Value.asStr with
  | none => (genericError noCommandSpecified (.string req), handler, world)
  | some cmd =>
      if eqIgnoreAsciiCase cmd "QUERY" then handleQuery backend config json handler world
      else if eqIgnoreAsciiCase cmd "LIST" then (handleList backend config world, handler, world)
      else if eqIgnoreAsciiCase cmd "DELETE_DB" then
        handleDeleteDb backend config json handler world
      else (genericError unknownCommand (.string req), handler, world)

/-- With a password configured, a connection must authenticate before any command. -/
def handleRequest (serde : SerdeJson) (req : String) (handler : RequestHandler Conn)
    (world : World)
    : Value × RequestHandler Conn × World :=
  match parseRequest serde req with
  | .error message =>
      (.ofFields
          [
            ("generic_error", jsonInt invalidFormat),
            ("message", .string message),
            ("request", .string req)
          ],
        handler, world)
  | .ok json =>
      if config.auth ≠ "" then
        match (json.get "auth").bind Value.asStr with
        | some auth =>
            if auth = config.auth then
              (resultResponse "ok", { handler with authenticated := true }, world)
            else if handler.authenticated then dispatch backend config req json handler world
            else (resultResponse "error", handler, world)
        | none =>
            if handler.authenticated then dispatch backend config req json handler world
            else (resultResponse "error", handler, world)
      else dispatch backend config req json handler world

end Handler

end SqliteServer
