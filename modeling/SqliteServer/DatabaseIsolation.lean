import SqliteServer.AttachedFiles
import SqliteServer.SharedDatabases

/-! Requests about one database leave the files of the others alone, unless one of the names is that
of a sidecar of the other.
-/

namespace SqliteServer

open Json Files Runs

section Requests

variable {γ σ Conn Stmt : Type} {engine : Engine γ σ Conn Stmt} {use : FileUse σ Conn Stmt}
  {config : Config} {serde : SerdeJson} {base : Loc} {host : Host γ σ}

/-- A name with nothing but separators and dots after the entry that it denotes. -/
structure Denotes (name entry : String) : Prop where
  relative : isAbsolute name = false
  parts : ∃ trailing, elements name = entry :: trailing ∧ trailing.all isTrivial = true
  plain : PlainName entry

theorem Accepted.denotes {files : FileSystem γ} {folder name : String}
    (accepted : Accepted files folder name)
    : ∃ entry, Denotes name entry := by
  obtain ⟨entry, trailing, parts, trivial, plain⟩ := accepted.parts
  exact ⟨entry, accepted.relative, ⟨trailing, parts, trivial⟩, plain⟩

/-- A plain name is that of its own entry. -/
theorem denotes_plain {db : String} (plain : PlainName db) : Denotes db db := by
  have parts := elements_of_noSlash plain.2.2.2
  exact ⟨(components_of_elements parts rfl plain).2.1, ⟨[], parts, rfl⟩, plain⟩

/-- Opening a database is done for it, and its connection is at home there. -/
theorem openDatabase_done (stays : StaysHome use engine)
    (atHome : HeldAtHome use config.databasesFolder base host.disk) {name entry : String}
    (denotes : Denotes name entry)
    : DoneFor use config.databasesFolder base entry host
          (openDatabase engine host (join config.databasesFolder name)).2
      ∧ ∀ conn,
          (openDatabase engine host (join config.databasesFolder name)).1 = .ok conn
          → use.home conn = base ++ [entry] := by
  rw [openDatabase]
  cases opened : host.files.openFile engine.policy engine.empty
      (join config.databasesFolder name) with
  | none =>
      refine ⟨atHome.done entry, ?_⟩
      rintro conn ⟨⟩
  | some found =>
      obtain ⟨loc, inode, files⟩ := found
      obtain ⟨trailing, parts, trivial⟩ := denotes.parts
      obtain rfl : loc = base ++ [entry] :=
        openTarget_entry atHome.files.folder.absolute denotes.relative
          (atHome.files.folder.resolve kernelPolicy) parts trivial denotes.plain
          (atHome.files.linkless entry) (openTarget_of_openFile opened)
      have there : files.nodes (base ++ [entry]) = some (.file inode) := openFile_opens opened
      have reached
          : DoneFor use config.databasesFolder base entry host
              (host.reach (base ++ [entry]) files) := by
        rcases openFile_files opened with rfl | rfl
        · exact atHome.reach atHome.files (fun _ _ => rfl) (fun _ found => .inl found)
            (Nat.le_refl _) (fun _ _ => rfl)
        · refine atHome.reach (atHome.files.create entry engine.empty) ?_ ?_ (Nat.le_succ _) ?_
          · intro other different
            exact host.files.nodes_createFile_other (by simpa using different) engine.empty
          · intro i found
            have self := host.files.nodes_createFile_self (base ++ [entry]) engine.empty
            rw [self, Option.some.injEq, Node.file.injEq] at found
            exact .inr found.le
          · intro i old
            exact if_neg (Nat.ne_of_lt old)
      obtain ⟨effect, home⟩ :=
        stays.attach (host.reach (base ++ [entry]) files).disk (base ++ [entry]) inode there
      exact ⟨reached.trans (effect.done reached.held (fun _ held => held.elim)), home⟩

/-- Removing a database is done for it. -/
theorem unlink_done (atHome : HeldAtHome use config.databasesFolder base host.disk)
    {name entry : String} (denotes : Denotes name entry) {host' : Host γ σ}
    (removed : unlink host (join config.databasesFolder name) = some host')
    : DoneFor use config.databasesFolder base entry host host' := by
  rw [unlink, Option.map_eq_some_iff] at removed
  obtain ⟨loc, removes, rfl⟩ := removed
  obtain ⟨trailing, parts, trivial⟩ := denotes.parts
  obtain ⟨-, base', atBase, rfl⟩ :=
    unlinkTarget_entry atHome.files.folder.absolute denotes.relative parts trivial removes
  obtain rfl : base' = base :=
    Outcome.found.inj (atBase.symm.trans (atHome.files.folder.resolve kernelPolicy))
  refine atHome.reach (atHome.files.remove entry) ?_ ?_ (Nat.le_refl _) (fun _ _ => rfl)
  · intro other different
    exact host.files.nodes_setNode_other (by simpa using different) none
  · intro inode found
    rw [host.files.nodes_setNode_self] at found
    contradiction

/-- Removing a database leaves every database alone that has no file of its name. -/
theorem unlink_alone (files : PlainFiles config.databasesFolder base host.files)
    {name entry other : String} (denotes : Denotes name entry) {host' : Host γ σ}
    (removed : unlink host (join config.databasesFolder name) = some host')
    (foreign : entry ∉ ownNames other)
    : LeavesAlone base other host host' := by
  rw [unlink, Option.map_eq_some_iff] at removed
  obtain ⟨loc, removes, rfl⟩ := removed
  obtain ⟨trailing, parts, trivial⟩ := denotes.parts
  obtain ⟨-, base', atBase, rfl⟩ :=
    unlinkTarget_entry files.folder.absolute denotes.relative parts trivial removes
  obtain rfl : base' = base :=
    Outcome.found.inj (atBase.symm.trans (files.folder.resolve kernelPolicy))
  refine leavesAlone_reach ?_ (fun _ _ _ => rfl) foreign
  intro other different
  exact host.files.nodes_setNode_other (by simpa using different) none

/-- What a connection does is done for the database it is at home in. -/
theorem Effect.doneFor {conn : Conn} {entry : String} {disk' : Disk γ σ}
    (home : use.home conn = base ++ [entry])
    (atHome : HeldAtHome use config.databasesFolder base host.disk)
    (effect : Effect use (use.home conn) (use.held host.disk.engine conn) host.disk disk')
    : DoneFor use config.databasesFolder base entry host { host with disk := disk' } := by
  rw [home] at effect
  exact effect.done atHome (fun _ held => ⟨conn, home, held⟩)

/-- Stepping a statement ends with something done for the connection's database. -/
theorem query_done (stays : StaysHome use engine) {conn : Conn} {entry : String}
    (home : use.home conn = base ++ [entry])
    (atHome : HeldAtHome use config.databasesFolder base host.disk) {stmt : Stmt}
    (own : use.ownStmt stmt) (columns : List String)
    : DoneFor use config.databasesFolder base entry host
        (stepQuery (fileBackend engine) conn stmt columns host).2 := by
  rw [stepQuery_world]
  refine collectRows_world (I := DoneFor use config.databasesFolder base entry host) ?_ []
  refine Rows.allWorlds_map (f := fun disk => { host with disk := disk }) ?_
  have effects := stays.query host.disk conn stmt own
  generalize engine.query host.disk conn stmt = rows at effects
  induction rows with
  | done disk => exact Effect.doneFor home atHome effects
  | failed err disk => exact Effect.doneFor home atHome effects
  | row cells abandoned rest ih => exact ⟨Effect.doneFor home atHome effects.1, ih effects.2⟩

/-- A query is done for its database, and a connection that it adds is at home there: by cases on
getting the connection and on preparing the statement.
-/
theorem runQuery_done (stays : StaysHome use engine)
    (atHome : HeldAtHome use config.databasesFolder base host.disk) {name entry sql : String}
    (denotes : Denotes name entry) (own : use.ownText sql) {handler : RequestHandler Conn}
    (cached
      : ∀ conn, handler.connection? name = some conn → use.home conn = base ++ [entry])
    : DoneFor use config.databasesFolder base entry host
          (runQuery (fileBackend engine) config name sql handler host).2.2
      ∧ ∀ found ∈ (runQuery (fileBackend engine) config name sql handler host).2.1.databases,
          found ∈ handler.databases
          ∨ (found.1 = name ∧ use.home found.2 = base ++ [entry]) := by
  by_cases text : trim sql = ""
  · rw [runQuery_empty text]
    exact ⟨atHome.done entry, fun found member => .inl member⟩
  · rw [runQuery_handler handler host text]
    have gets := getConnection_cases (fileBackend engine) config name handler host
    obtain ⟨opening, opensHome⟩ := openDatabase_done stays atHome denotes
    have connects
        : DoneFor use config.databasesFolder base entry host
              (getConnection (fileBackend engine) config name handler host).2.2
          ∧ (∀ conn,
              (getConnection (fileBackend engine) config name handler host).1 = .ok conn
              → use.home conn = base ++ [entry])
          ∧ ∀ found ∈
              (getConnection (fileBackend engine) config name handler host).2.1.databases,
              found ∈ handler.databases
              ∨ (found.1 = name ∧ use.home found.2 = base ++ [entry]) := by
      revert gets
      generalize getConnection (fileBackend engine) config name handler host = got
      obtain ⟨result, next, final⟩ := got
      intro gets
      cases gets with
      | cached conn there =>
          refine ⟨atHome.done entry, ?_, fun found member => .inl member⟩
          rintro _ ⟨⟩
          exact cached conn there
      | unopened err _ absent opened =>
          have same := congrArg Prod.snd opened
          dsimp only [fileBackend] at same
          rw [same] at opening
          exact ⟨opening, nofun, fun found member => .inl member⟩
      | untuned conn err world' world'' absent opened tuned =>
          have same := congrArg Prod.snd opened
          dsimp only [fileBackend] at same
          rw [same] at opening
          have home := opensHome conn (congrArg Prod.fst opened)
          have tuning := opening.trans
            (Effect.doneFor home opening.held (stays.executeBatch world'.disk conn config))
          have after_ := congrArg Prod.snd tuned
          dsimp only [fileBackend, Host.onDisk] at after_
          rw [after_] at tuning
          refine ⟨tuning.trans ?_, nofun, fun found member => .inl member⟩
          exact Effect.doneFor home tuning.held (stays.close world''.disk conn)
      | kept conn world' _ absent opened tuned =>
          have same := congrArg Prod.snd opened
          dsimp only [fileBackend] at same
          rw [same] at opening
          have home := opensHome conn (congrArg Prod.fst opened)
          have tuning := opening.trans
            (Effect.doneFor home opening.held (stays.executeBatch world'.disk conn config))
          have after_ := congrArg Prod.snd tuned
          dsimp only [fileBackend, Host.onDisk] at after_
          rw [after_] at tuning
          refine ⟨tuning, ?_, ?_⟩
          · rintro _ ⟨⟩
            exact home
          · intro found member
            rcases List.mem_cons.mp member with rfl | old
            · exact .inr ⟨rfl, home⟩
            · exact .inl old
    obtain ⟨got, homes, entries⟩ := connects
    refine ⟨?_, entries⟩
    cases connection : getConnection (fileBackend engine) config name handler host with
    | mk result rest =>
        obtain ⟨next, host'⟩ := rest
        rw [connection] at got homes
        cases result with
        | error err =>
            rw [runQuery_failed text connection]
            exact got
        | ok conn =>
            have home := homes conn rfl
            obtain ⟨effect, compiled⟩ := stays.prepare host'.disk conn sql own
            have preparing := got.trans (Effect.doneFor home got.held effect)
            cases prepared : (fileBackend engine).prepare host' conn sql with
            | mk stmtResult host'' =>
                have same := congrArg Prod.snd prepared
                have outcome := congrArg Prod.fst prepared
                dsimp only [fileBackend, Host.onDisk] at same outcome
                rw [same] at preparing
                cases stmtResult with
                | error err =>
                    rw [runQuery_unprepared text connection prepared]
                    exact preparing
                | ok stmt =>
                    rw [runQuery_prepared text connection prepared]
                    exact preparing.trans
                      (query_done stays home preparing.held (compiled stmt outcome) _)

theorem Denotes.unique {name entry entry' : String} (denotes : Denotes name entry)
    (denotes' : Denotes name entry')
    : entry = entry' := by
  obtain ⟨trailing, parts, -⟩ := denotes.parts
  obtain ⟨trailing', parts', -⟩ := denotes'.parts
  exact (List.cons.inj (parts.symm.trans parts')).1

end Requests

-----------------------------------------------------------------------------------------
-- Servers
-----------------------------------------------------------------------------------------

section Server

variable {γ σ Conn Stmt : Type} (engine : Engine γ σ Conn Stmt) (use : FileUse σ Conn Stmt)
  (config : Config) (serde : SerdeJson) (base : Loc)

/-- Every cached connection is at home in the database of its name. -/
structure AtHome (server : Server (Host γ σ) Conn) : Prop where
  held : HeldAtHome use config.databasesFolder base server.world.disk
  cached
    : ∀ session,
        ∀ found ∈ (server.sessions session).databases,
          ∃ entry, Denotes found.1 entry ∧ use.home found.2 = base ++ [entry]

/-- No query's text names a file. -/
def NamesNoFile (server : Server (Host γ σ) Conn) : ClientEvent → Prop
  | .request session req =>
      ∀ json db sql,
        requested config serde (server.sessions session) req = some (json, .query db sql)
        → use.ownText sql
  | .disconnect _ => True

/-- The server over a file system, moved by its clients alone. -/
def clientStep (server : Server (Host γ σ) Conn) (event : ClientEvent)
    : Server (Host γ σ) Conn × List (Nat × Value) :=
  server.step (fileBackend engine) config serde event.toServer

variable {engine use config serde base} {server : Server (Host γ σ) Conn}

theorem AtHome.connection (atHome : AtHome use config base server) {session : Nat}
    {name entry : String} (denotes : Denotes name entry) {conn : Conn}
    (cached : (server.sessions session).connection? name = some conn)
    : use.home conn = base ++ [entry] := by
  obtain ⟨front, back, databases, -⟩ := List.lookup_eq_some_iff.mp cached
  have member : (name, conn) ∈ (server.sessions session).databases := by
    rw [databases]
    simp
  obtain ⟨entry', denotes', home⟩ := atHome.cached session (name, conn) member
  rw [home, denotes.unique denotes']

/-- A session that adds connections at home keeps every connection at home. -/
theorem AtHome.setSession (atHome : AtHome use config base server) (session : Nat)
    {next : RequestHandler Conn} {host : Host γ σ}
    (held : HeldAtHome use config.databasesFolder base host.disk)
    (homes
      : ∀ found ∈ next.databases,
          found ∈ (server.sessions session).databases
          ∨ ∃ entry, Denotes found.1 entry ∧ use.home found.2 = base ++ [entry])
    : AtHome use config base (server.setSession session next host) := by
  refine ⟨held, ?_⟩
  intro other found member
  by_cases mine : other = session
  · subst mine
    rw [Server.setSession_self] at member
    rcases homes found member with old | new
    · exact atHome.cached other found old
    · exact new
  · rw [Server.setSession_other _ _ _ _ mine] at member
    exact atHome.cached other found member

/-- A request keeps connections at home, and is done for the database that it is about. -/
theorem AtHome.request (stays : StaysHome use engine) (atHome : AtHome use config base server)
    {session : Nat} {req : String}
    (own : NamesNoFile use config serde server (.request session req))
    : AtHome use config base (clientStep engine config serde server (.request session req)).1
      ∧ ∀ name entry,
          requestedDatabase? config serde (server.sessions session) req = some name
          → Denotes name entry
          → DoneFor use config.databasesFolder base entry server.world
              (clientStep engine config serde server (.request session req)).1.world := by
  unfold clientStep ClientEvent.toServer Server.step
  dsimp only
  have unchanged {handled : Value × RequestHandler Conn × Host γ σ}
      (databases : handled.2.1.databases = (server.sessions session).databases)
      (world : handled.2.2 = server.world)
      : AtHome use config base (server.setSession session handled.2.1 handled.2.2)
        ∧ ∀ entry, DoneFor use config.databasesFolder base entry server.world
            (server.setSession session handled.2.1 handled.2.2).world := by
    rw [world]
    exact ⟨atHome.setSession session atHome.held (fun found member => .inl (databases ▸ member)),
      atHome.held.done⟩
  have others (other : ∀ json command,
      requested config serde (server.sessions session) req = some (json, command)
      → command = .other)
      : (handleRequest (fileBackend engine) config serde req (server.sessions session)
            server.world).2.1.databases
          = (server.sessions session).databases
        ∧ (handleRequest (fileBackend engine) config serde req (server.sessions session)
            server.world).2.2
          = server.world := by
    rcases handleRequest_other (fileBackend engine) other server.world with same | authenticates
    · rw [same]
      exact ⟨rfl, rfl⟩
    · rw [authenticates]
      exact ⟨rfl, rfl⟩
  cases request : requested config serde (server.sessions session) req with
  | none =>
      obtain ⟨databases, world⟩ := others (by simp [request])
      obtain ⟨still, done⟩ := unchanged databases world
      exact ⟨still, fun _ entry _ _ => done entry⟩
  | some found =>
      obtain ⟨json, command⟩ := found
      cases command with
      | other =>
          obtain ⟨databases, world⟩ := others (by
            intro json' command' found
            exact (Prod.mk.inj (Option.some.inj (request.symm.trans found))).2.symm)
          obtain ⟨still, done⟩ := unchanged databases world
          exact ⟨still, fun _ entry _ _ => done entry⟩
      | query db sql =>
          have about
              : requestedDatabase? config serde (server.sessions session) req = some db := by
            rw [requestedDatabase?, request]
            rfl
          rw [handleRequest_query (fileBackend engine) request]
          by_cases safe : isSafeDatabaseName (fileBackend engine) config server.world db = true
          · rw [if_pos safe]
            obtain ⟨entry, denotes⟩ := (accepted_of_safe safe).denotes
            obtain ⟨done, homes⟩ :=
              runQuery_done stays atHome.held denotes (own json db sql request)
                (fun conn cached => atHome.connection denotes cached)
            refine ⟨atHome.setSession session done.held ?_, ?_⟩
            · intro found member
              rcases homes found member with old | ⟨named, home⟩
              · exact .inl old
              · exact .inr ⟨entry, named ▸ denotes, home⟩
            · intro name entry' same denotes'
              obtain rfl : db = name := Option.some.inj (about.symm.trans same)
              rw [← denotes.unique denotes']
              exact done
          · rw [if_neg safe, Server.setSession_same]
            exact ⟨atHome, fun _ entry _ _ => atHome.held.done entry⟩
      | deleteDb db =>
          have about
              : requestedDatabase? config serde (server.sessions session) req = some db := by
            rw [requestedDatabase?, request]
            rfl
          rw [handleRequest_deleteDb (fileBackend engine) request]
          by_cases safe : isSafeDatabaseName (fileBackend engine) config server.world db = true
          · rw [if_pos safe]
            obtain ⟨entry, denotes⟩ := (accepted_of_safe safe).denotes
            cases removed : (fileBackend engine).removeFile server.world
                (join config.databasesFolder db) with
            | none =>
                dsimp only
                rw [Server.setSession_same]
                exact ⟨atHome, fun _ entry _ _ => atHome.held.done entry⟩
            | some host =>
                have done := unlink_done atHome.held denotes removed
                dsimp only
                cases cached : (server.sessions session).connection? db with
                | none =>
                    refine ⟨atHome.setSession session done.held (fun _ member => .inl member), ?_⟩
                    intro name entry' same denotes'
                    obtain rfl : db = name := Option.some.inj (about.symm.trans same)
                    rw [← denotes.unique denotes']
                    exact done
                | some conn =>
                    have closed := done.trans
                      (Effect.doneFor (atHome.connection denotes cached) done.held
                        (stays.close host.disk conn))
                    refine ⟨atHome.setSession session closed.held
                      (fun _ member => .inl (List.mem_filter.mp member).1), ?_⟩
                    intro name entry' same denotes'
                    obtain rfl : db = name := Option.some.inj (about.symm.trans same)
                    rw [← denotes.unique denotes']
                    exact closed
          · rw [if_neg safe, Server.setSession_same]
            exact ⟨atHome, fun _ entry _ _ => atHome.held.done entry⟩

/-- A session that leaves keeps connections at home, by induction on those it closes. -/
theorem AtHome.disconnect (stays : StaysHome use engine) (atHome : AtHome use config base server)
    (session : Nat)
    : AtHome use config base (clientStep engine config serde server (.disconnect session)).1 := by
  have closes {databases : List (String × Conn)} {host : Host γ σ}
      (homes : ∀ found ∈ databases, ∃ entry, use.home found.2 = base ++ [entry])
      (held : HeldAtHome use config.databasesFolder base host.disk)
      : HeldAtHome use config.databasesFolder base
          (databases.foldl (fun host found => (fileBackend engine).close host found.2)
            host).disk := by
    induction databases generalizing host with
    | nil => exact held
    | cons found rest ih =>
        obtain ⟨entry, home⟩ := homes found List.mem_cons_self
        exact ih (fun later member => homes later (List.mem_cons_of_mem _ member))
          (Effect.doneFor home held (stays.close host.disk found.2)).held
  refine atHome.setSession session (closes ?_ atHome.held) (by simp [RequestHandler.new])
  intro found member
  obtain ⟨entry, -, home⟩ := atHome.cached session found member
  exact ⟨entry, home⟩

theorem AtHome.step (stays : StaysHome use engine) (atHome : AtHome use config base server)
    {event : ClientEvent} (own : NamesNoFile use config serde server event)
    : AtHome use config base (clientStep engine config serde server event).1 := by
  cases event with
  | request session req => exact (atHome.request stays own).1
  | disconnect session => exact atHome.disconnect stays session

/-- A command may reach files of another database: a query if one of the names is that of a file of
the other; a deletion if its own name is, or if it closes a connection whose sidecar the other is.
-/
def Interferes (handler : RequestHandler Conn) (db other : String) : Command → Prop
  | .query _ sql => trim sql ≠ "" ∧ Related db other
  | .deleteDb _ =>
      db ∈ ownNames other ∨ ((handler.connection? db).isSome = true ∧ other ∈ ownNames db)
  | .other => False

/-- The request leaves every other database alone that its command does not interfere with. -/
def Isolates (engine : Engine γ σ Conn Stmt) (config : Config) (serde : SerdeJson) (base : Loc)
    (server : Server (Host γ σ) Conn)
    : ClientEvent → Prop
  | .request session req =>
      ∀ json command db other,
        requested config serde (server.sessions session) req = some (json, command)
        → command.database? = some db
        → PlainName db
        → PlainName other
        → ¬ Interferes (server.sessions session) db other command
        → LeavesAlone base other server.world
              (clientStep engine config serde server (.request session req)).1.world
          ∧ ownContents base other
                (clientStep engine config serde server (.request session req)).1.world.files
              = ownContents base other server.world.files
  | .disconnect _ => True

theorem AtHome.isolates (stays : StaysHome use engine) (atHome : AtHome use config base server)
    {event : ClientEvent} (own : NamesNoFile use config serde server event)
    : Isolates engine config serde base server event := by
  cases event with
  | disconnect session => trivial
  | request session req =>
      intro json command db other request about plain _ apart
      suffices alone
          : LeavesAlone base other server.world
              (clientStep engine config serde server (.request session req)).1.world by
        exact ⟨alone, alone.same.ownContents⟩
      have denotes := denotes_plain plain
      have done (unrelated : ¬ Related db other)
          : LeavesAlone base other server.world
              (clientStep engine config serde server (.request session req)).1.world := by
        refine ((atHome.request stays own).2 db db ?_ denotes).alone other unrelated
        rw [requestedDatabase?, request]
        exact about
      have same {handled : Value × RequestHandler Conn × Host γ σ}
          (unchanged : handled.2.2 = server.world)
          : LeavesAlone base other server.world
              (server.setSession session handled.2.1 handled.2.2).world := by
        rw [unchanged]
        exact LeavesAlone.refl base other server.world
      cases command with
      | other => contradiction
      | query name sql =>
          obtain rfl : name = db := Option.some.inj about
          by_cases text : trim sql = ""
          · unfold clientStep ClientEvent.toServer Server.step
            dsimp only
            refine same ?_
            rw [handleRequest_query (fileBackend engine) request, runQuery_empty text]
            split_ifs <;> rfl
          · exact done (fun related => apart ⟨text, related⟩)
      | deleteDb name =>
          obtain rfl : name = db := Option.some.inj about
          cases cached : (server.sessions session).connection? name with
          | some conn =>
              refine done ?_
              rintro (foreign | sidecar)
              · exact apart (.inl foreign)
              · exact apart (.inr ⟨by rw [cached]; rfl, sidecar⟩)
          | none =>
              unfold clientStep ClientEvent.toServer Server.step
              dsimp only
              rw [handleRequest_deleteDb (fileBackend engine) request]
              by_cases safe
                : isSafeDatabaseName (fileBackend engine) config server.world name = true
              · rw [if_pos safe]
                cases removed : (fileBackend engine).removeFile server.world
                    (join config.databasesFolder name) with
                | none => exact LeavesAlone.refl base other server.world
                | some host =>
                    dsimp only
                    rw [cached]
                    exact unlink_alone atHome.held.files denotes removed
                      (fun foreign => apart (.inl foreign))
              · rw [if_neg safe]
                exact LeavesAlone.refl base other server.world

variable (engine use config serde)

/-- In every run in which no query names another file, every query and every deletion leaves the
other databases alone, with all their files, unless one of the two names is the other with the
ending of a sidecar: connections stay at home along the run, by induction on it.
-/
theorem databases_isolated (stays : StaysHome use engine) (base : Loc) (host : Host γ σ)
    (files : PlainFiles config.databasesFolder base host.files)
    (nothingHeld : ∀ conn inode, ¬ use.held host.disk.engine conn inode)
    (events : List ClientEvent)
    (own
      : Along (clientStep engine config serde) (NamesNoFile use config serde) (.start host) events)
    : Along (clientStep engine config serde) (Isolates engine config serde base) (.start host)
        events := by
  have start : AtHome use config base (Server.start host : Server (Host γ σ) Conn) := by
    refine ⟨⟨files, ?_, ?_⟩, ?_⟩
    · intro conn db inode _ held
      exact absurd held (nothingHeld conn inode)
    · intro conn db name inode _ held
      exact absurd held (nothingHeld conn inode)
    · intro session found member
      contradiction
  exact Along.strengthen (fun _ _ atHome allowed => AtHome.step stays atHome allowed)
    (fun _ _ atHome allowed => AtHome.isolates stays atHome allowed) start own

end Server

-----------------------------------------------------------------------------------------
-- A concrete folder
-----------------------------------------------------------------------------------------

theorem hostWith_plain : PlainFiles "/srv/sqlite" ["srv", "sqlite"] (hostWith []).files := by
  have dirs : ∀ front ∈ ["srv", "sqlite"].inits, (hostWith []).files.nodes front = some .dir := by
    decide
  refine .ofEmpty ⟨by decide, by decide, by decide, ?_⟩ ?_
  · intro front isPrefix
    exact dirs front ((List.mem_inits front _).mpr isPrefix)
  · intro name
    refine List.lookup_eq_none_iff.mpr ?_
    simp [hostWith, Host.files]

/-- The folder with a database and its write-ahead log. -/
def hostWithLog : Host Unit Unit where
  disk :=
    {
      files :=
        ((hostWith []).files.createFile ["srv", "sqlite", "mydb"] ()).createFile
          ["srv", "sqlite", "mydb-wal"] ()
      engine := ()
    }
  accesses := []

theorem hostWithLog_plain : PlainFiles "/srv/sqlite" ["srv", "sqlite"] hostWithLog.files :=
  (hostWith_plain.create "mydb" ()).create "mydb-wal" ()

/-- No text names another file to an engine that takes every text to be about its database. -/
theorem namesNoFile_walSqlite (config : Config) (serde : SerdeJson)
    (server : Server (Host Page (Handles Bool)) Attachment) (event : ClientEvent)
    : NamesNoFile (attachedUse walSqlite) config serde server event := by
  cases event with
  | request session req => exact fun _ _ _ _ => rfl
  | disconnect session => trivial

/-- The log and its index are there until the last connection is closed. -/
example :
    let step := clientStep (attachedEngine walSqlite) (.standard "/srv/sqlite" "") unsignedReader
    let names := fun events =>
      (after step (.start emptyFolder) events).world.files.entries.map
        (fun entry => entry.1.getLast?)
    names [.request 0 (queryOf "mydb" "CREATE TABLE t(x)")]
        = [some "mydb-shm", some "mydb-wal", some "mydb", none, some "srv", some "sqlite"]
      ∧ names [.request 0 (queryOf "mydb" "CREATE TABLE t(x)"), .disconnect 0]
        = [some "mydb", none, some "srv", some "sqlite"] := by
  decide +kernel

/-- Two sessions use two databases, each with its log; one database is deleted and made again. -/
theorem databases_isolated_other
    : Along (clientStep (attachedEngine walSqlite) (.standard "/srv/sqlite" "") unsignedReader)
        (Isolates (attachedEngine walSqlite) (.standard "/srv/sqlite" "") unsignedReader
          ["srv", "sqlite"])
        (.start emptyFolder)
        [
          .request 0 (queryOf "mydb" "CREATE TABLE t(x)"),
          .request 1 (queryOf "other" "CREATE TABLE t(x)"),
          .request 1 (queryOf "mydb" "SELECT 1"),
          .request 0 (deletionOf "other"),
          .request 0 (queryOf "other" "SELECT x FROM t"),
          .disconnect 0,
          .request 1 (queryOf "mydb" "SELECT x FROM t"),
          .request 1 (deletionOf "mydb")
        ] := by
  refine databases_isolated (attachedEngine walSqlite) (attachedUse walSqlite)
    (.standard "/srv/sqlite" "") unsignedReader attachedEngine_staysHome ["srv", "sqlite"]
    emptyFolder emptyFolder_plain ?_ _ ?_
  · rintro conn inode ⟨opened, found, -⟩
    contradiction
  · exact along_of_forall (fun event _ server => namesNoFile_walSqlite _ _ server event) _

/-- Deleting a database with the name of a sidecar removes a file of the database whose sidecar it
is.
-/
theorem sidecar_deleted
    : ¬ ∀ (host : Host Unit Unit) (req db other : String),
        PlainFiles "/srv/sqlite" ["srv", "sqlite"] host.files
        → requestedDatabase? (.standard "/srv/sqlite" "") unsignedReader
              (.new : RequestHandler Loc) req
            = some db
        → PlainName db
        → PlainName other
        → db ≠ other
        → LeavesAlone ["srv", "sqlite"] other host
            (clientStep idleEngine (.standard "/srv/sqlite" "") unsignedReader (.start host)
              (.request 0 req)).1.world := by
  intro claim
  have alone := claim hostWithLog "\x7b\"cmd\":\"DELETE_DB\",\"db\":\"mydb-wal\"\x7d"
    "mydb-wal" "mydb" hostWithLog_plain (by decide +kernel) (by decide) (by decide) (by decide)
  have log := alone.same.nodes "mydb-wal" (by decide)
  exact absurd log (by decide +kernel)

end SqliteServer
