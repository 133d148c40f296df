import SqliteServer.FileBackend

/-! Maps between backends: a server over one backend looks like the server over the other. -/

namespace SqliteServer

open Json Files Runs

/-- Worlds and connections of one backend seen as those of another, through every operation. -/
structure BackendMap {World Conn World' Conn' Stmt : Type} (source : Backend World Conn Stmt)
    (target : Backend World' Conn' Stmt) where
  world : World → World'
  conn : Conn → Conn'
  pathExists : ∀ w path, target.pathExists (world w) path = source.pathExists w path
  canonicalize : ∀ w path, target.canonicalize (world w) path = source.canonicalize w path
  readDir : ∀ w path, target.readDir (world w) path = source.readDir w path
  removeFile
    : ∀ w path, target.removeFile (world w) path = (source.removeFile w path).map world
  openConnection
    : ∀ w path,
        target.openConnection (world w) path
        = ((source.openConnection w path).1.map conn, world (source.openConnection w path).2)
  executeBatch
    : ∀ w c batch,
        target.executeBatch (world w) (conn c) batch
        = ((source.executeBatch w c batch).1, world (source.executeBatch w c batch).2)
  prepare
    : ∀ w c sql,
        target.prepare (world w) (conn c) sql
        = ((source.prepare w c sql).1, world (source.prepare w c sql).2)
  columnNames : target.columnNames = source.columnNames
  query : ∀ w c stmt, target.query (world w) (conn c) stmt = (source.query w c stmt).map world
  close : ∀ w c, target.close (world w) (conn c) = world (source.close w c)

namespace RequestHandler

variable {Conn Conn' : Type}

def map (f : Conn → Conn') (handler : RequestHandler Conn) : RequestHandler Conn' where
  databases := handler.databases.map (fun entry => (entry.1, f entry.2))
  authenticated := handler.authenticated

@[simp] theorem map_authenticated (f : Conn → Conn') (handler : RequestHandler Conn)
    : (handler.map f).authenticated = handler.authenticated :=
  rfl

@[simp] theorem connection?_map (f : Conn → Conn') (handler : RequestHandler Conn) (db : String)
    : (handler.map f).connection? db = (handler.connection? db).map f := by
  obtain ⟨databases, authenticated⟩ := handler
  change List.lookup db (databases.map _) = (List.lookup db databases).map f
  induction databases with
  | nil => rfl
  | cons entry rest ih =>
      rw [List.map_cons, List.lookup_cons, List.lookup_cons]
      cases db == entry.1 with
      | true => rfl
      | false => exact ih

@[simp] theorem insert_map (f : Conn → Conn') (handler : RequestHandler Conn) (db : String)
    (conn : Conn)
    : (handler.map f).insert db (f conn) = (handler.insert db conn).map f :=
  rfl

@[simp] theorem remove_map (f : Conn → Conn') (handler : RequestHandler Conn) (db : String)
    : (handler.map f).remove db = (handler.remove db).map f := by
  rw [remove, remove, map, map, List.filter_map]
  rfl

end RequestHandler

@[simp] theorem Rows.map_map {World World' World'' : Type} (f : World → World')
    (g : World' → World'') (steps : Rows World)
    : (steps.map f).map g = steps.map (fun world => g (f world)) := by
  induction steps with
  | done world => rfl
  | failed err world => rfl
  | row cells abandoned rest ih => rw [Rows.map, Rows.map, Rows.map, ih]

@[simp] theorem Rows.map_id {World : Type} (steps : Rows World)
    : steps.map (fun world => world) = steps := by
  induction steps with
  | done world => rfl
  | failed err world => rfl
  | row cells abandoned rest ih => rw [Rows.map, ih]

/-- Collecting mapped rows gives the same objects, by induction on the rows. -/
theorem collectRows_map {World World' : Type} (f : World → World') (columns : List String)
    (steps : Rows World) (rowsData : List Value)
    : collectRows columns (steps.map f) rowsData
      = ((collectRows columns steps rowsData).1, f (collectRows columns steps rowsData).2) := by
  induction steps generalizing rowsData with
  | done world => rfl
  | failed err world => rfl
  | row cells abandoned rest ih =>
      rw [Rows.map, collectRows, collectRows]
      cases fillRow cells 0 columns [] with
      | error err => rfl
      | ok object => exact ih _

namespace BackendMap

variable {World Conn World' Conn' Stmt : Type} {source : Backend World Conn Stmt}
  {target : Backend World' Conn' Stmt} (m : BackendMap source target) (config : Config)

theorem isSafeDatabaseName (world : World) (name : String)
    : SqliteServer.isSafeDatabaseName target config (m.world world) name
      = SqliteServer.isSafeDatabaseName source config world name := by
  unfold SqliteServer.isSafeDatabaseName
  simp only [m.pathExists, m.canonicalize]

theorem handleList (world : World)
    : SqliteServer.handleList target config (m.world world)
      = SqliteServer.handleList source config world := by
  unfold SqliteServer.handleList
  rw [m.readDir]

theorem queryArguments (json : Value) (world : World)
    : SqliteServer.queryArguments target config json (m.world world)
      = SqliteServer.queryArguments source config json world := by
  unfold SqliteServer.queryArguments
  simp only [m.isSafeDatabaseName]

variable (handler : RequestHandler Conn) (world : World)

theorem getConnection (db : String)
    : SqliteServer.getConnection target config db (handler.map m.conn) (m.world world)
      = ((SqliteServer.getConnection source config db handler world).1.map m.conn,
          (SqliteServer.getConnection source config db handler world).2.1.map m.conn,
          m.world (SqliteServer.getConnection source config db handler world).2.2) := by
  unfold SqliteServer.getConnection
  rw [RequestHandler.connection?_map]
  cases handler.connection? db with
  | some conn => rfl
  | none =>
      dsimp only [Option.map_none]
      rw [m.openConnection]
      cases source.openConnection world (join config.databasesFolder db) with
      | mk result world' =>
          cases result with
          | error err => rfl
          | ok conn =>
              dsimp only [Except.map]
              rw [m.executeBatch]
              cases source.executeBatch world' conn (tuningBatch config) with
              | mk tuned world'' =>
                  cases tuned with
                  | error err =>
                      dsimp only
                      rw [m.close]
                  | ok _ => rfl

theorem runQuery (db sql : String)
    : SqliteServer.runQuery target config db sql (handler.map m.conn) (m.world world)
      = ((SqliteServer.runQuery source config db sql handler world).1,
          (SqliteServer.runQuery source config db sql handler world).2.1.map m.conn,
          m.world (SqliteServer.runQuery source config db sql handler world).2.2) := by
  unfold SqliteServer.runQuery prepareQuery
  by_cases empty : trim sql = ""
  · rw [if_pos empty, if_pos empty]
  · rw [if_neg empty, if_neg empty, m.getConnection]
    cases SqliteServer.getConnection source config db handler world with
    | mk result rest =>
        cases result with
        | error err => rfl
        | ok conn =>
            dsimp only [Except.map]
            rw [m.prepare]
            cases source.prepare rest.2 conn sql with
            | mk prepared world' =>
                cases prepared with
                | error err => rfl
                | ok stmt =>
                    dsimp only
                    rw [stepQuery, stepQuery, m.query, m.columnNames, collectRows_map]
                    cases collectRows (source.columnNames stmt) (source.query world' conn stmt)
                        [] with
                    | mk outcome final => cases outcome <;> rfl

theorem handleDeleteDb (json : Value)
    : SqliteServer.handleDeleteDb target config json (handler.map m.conn) (m.world world)
      = ((SqliteServer.handleDeleteDb source config json handler world).1,
          (SqliteServer.handleDeleteDb source config json handler world).2.1.map m.conn,
          m.world (SqliteServer.handleDeleteDb source config json handler world).2.2) := by
  unfold SqliteServer.handleDeleteDb
  cases (json.get "db").bind Value.asStr with
  | none => rfl
  | some db =>
      dsimp only
      rw [m.isSafeDatabaseName]
      split_ifs
      · rw [m.removeFile, RequestHandler.connection?_map]
        cases source.removeFile world (join config.databasesFolder db) with
        | none => rfl
        | some world' =>
            cases handler.connection? db with
            | none => rfl
            | some conn =>
                dsimp only [Option.map_some]
                rw [m.close, RequestHandler.remove_map]
      · rfl

theorem dispatch (req : String) (json : Value)
    : SqliteServer.dispatch target config req json (handler.map m.conn) (m.world world)
      = ((SqliteServer.dispatch source config req json handler world).1,
          (SqliteServer.dispatch source config req json handler world).2.1.map m.conn,
          m.world (SqliteServer.dispatch source config req json handler world).2.2) := by
  unfold SqliteServer.dispatch handleQuery
  cases (json.get "cmd").bind Value.asStr with
  | none => rfl
  | some cmd =>
      dsimp only
      split_ifs
      · rw [m.queryArguments]
        cases SqliteServer.queryArguments source config json world with
        | error response => rfl
        | ok found =>
            dsimp only
            rw [m.runQuery]
      · rw [m.handleList]
      · exact m.handleDeleteDb config handler world json
      · rfl

/-- A request is answered alike over both backends. -/
theorem handleRequest (serde : SerdeJson) (req : String)
    : SqliteServer.handleRequest target config serde req (handler.map m.conn) (m.world world)
      = ((SqliteServer.handleRequest source config serde req handler world).1,
          (SqliteServer.handleRequest source config serde req handler world).2.1.map m.conn,
          m.world (SqliteServer.handleRequest source config serde req handler world).2.2) := by
  unfold SqliteServer.handleRequest
  cases parseRequest serde req with
  | error message => rfl
  | ok json =>
      dsimp only
      rw [RequestHandler.map_authenticated, m.dispatch]
      split_ifs
      · cases (json.get "auth").bind Value.asStr with
        | none => rfl
        | some auth =>
            dsimp only
            split_ifs <;> rfl
      · cases (json.get "auth").bind Value.asStr with
        | none => rfl
        | some auth =>
            dsimp only
            split_ifs <;> rfl
      · rfl

/-- Closing all connections of a session, by induction on them. -/
theorem closeAll
    : SqliteServer.closeAll target (handler.map m.conn) (m.world world)
      = m.world (SqliteServer.closeAll source handler world) := by
  obtain ⟨databases, authenticated⟩ := handler
  unfold SqliteServer.closeAll RequestHandler.map
  dsimp only
  induction databases generalizing world with
  | nil => rfl
  | cons entry rest ih =>
      rw [List.map_cons, List.foldl_cons, List.foldl_cons, m.close]
      exact ih _

end BackendMap

end SqliteServer
