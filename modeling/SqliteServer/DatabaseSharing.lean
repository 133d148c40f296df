import SqliteServer.AttachedServer
import SqliteServer.Listing

/-! The sessions of the server share one map of databases, as long as nobody queries a file that
has been deleted.
-/

namespace SqliteServer

open Json Files Runs

-----------------------------------------------------------------------------------------
-- Requests
-----------------------------------------------------------------------------------------

section Requests

variable {γ Local Stmt : Type} {sqlite : Sqlite γ Local Stmt} {names : List String}
  {config : Config} {base : Loc} {server : Server (Host γ (Handles Local)) Attachment} {db : String}

/-- A plain name in a folder without links is accepted. -/
theorem AttachedServer.accepted (attached : AttachedServer sqlite names config base server)
    (plain : PlainName db)
    : isSafeDatabaseName (fileBackend (attachedEngine sqlite)) config server.world db = true := by
  have noLink : ¬ LeavingLink server.world.files config.databasesFolder db := by
    intro leaving
    obtain ⟨base', target, _, atBase, link, -⟩ := leaving
    obtain rfl : base' = base :=
      Outcome.found.inj (atBase.symm.trans (attached.files.folder.resolve kernelPolicy))
    exact attached.files.linkless db target link
  have safe
      : isSafeDatabaseName (folderBackend (attachedEngine sqlite) (fun _ _ => [])) config
          server.world db
        = true :=
    (plainName_accepted attached.files.folder.absolute (attached.files.folder.resolve kernelPolicy)
      plain).mpr noLink
  exact safe

/-- A deletion answers and leaves behind what the shared map does: by cases on the entry of the
name and on the session's own connection.
-/
theorem AttachedServer.delete (attached : AttachedServer sqlite names config base server)
    (apart : Unrelated names) (used : db ∈ names) (plain : PlainName db) {serde : SerdeJson}
    {session : Nat} {req : String} {json : Value}
    (request
      : requested config serde (server.sessions session) req = some (json, .deleteDb db))
    {handled : Value × RequestHandler Attachment × Host γ (Handles Local)}
    (handles
      : handled
        = handleRequest (fileBackend (attachedEngine sqlite)) config serde req
            (server.sessions session) server.world)
    : handled.1 = resultResponse (slotAt base server db).delete.1
      ∧ Becomes sqlite names config base server
          (server.setSession session handled.2.1 handled.2.2) db
          (slotAt base server db).delete.2 := by
  rw [handleRequest_deleteDb _ request, if_pos (attached.accepted plain)] at handles
  have removing
      : (fileBackend (attachedEngine sqlite)).removeFile server.world
          (join config.databasesFolder db)
        = (server.world.files.unlinkTarget (join config.databasesFolder db)).map
            (fun loc => server.world.reach loc (server.world.files.setNode loc none)) :=
    rfl
  rw [attached.files.folder.unlinkTarget_entry plain (attached.files.linkless db)] at removing
  cases node : server.world.files.nodes (base ++ [db]) with
  | none =>
      rw [node] at removing
      rw [removing] at handles
      subst handles
      rw [slotAt_none node]
      exact ⟨rfl, attached.unchanged (slotAt_none node)⟩
  | some kind =>
      cases kind with
      | symlink target => exact absurd node (attached.files.linkless db target)
      | dir =>
          rw [node] at removing
          rw [removing] at handles
          subst handles
          rw [slotAt_dir node]
          exact ⟨rfl, attached.unchanged (slotAt_dir node)⟩
      | file inode =>
          rw [node] at removing
          rw [removing] at handles
          dsimp only [Option.map_some] at handles
          have removed := attached.remove apart used plain session removing rfl
          rw [slotAt_file node]
          cases cached : (server.sessions session).connection? db with
          | none =>
              rw [cached] at handles
              subst handles
              exact ⟨rfl, removed⟩
          | some conn =>
              rw [cached] at handles
              subst handles
              refine ⟨rfl, removed.trans ?_⟩
              rw [Server.setSession_handler] at removed ⊢
              have closed := removed.attached.close apart cached
              rw [removed.here] at closed
              exact closed

/-- A request that is neither a query nor a deletion at most authenticates its session. -/
theorem AttachedServer.other (attached : AttachedServer sqlite names config base server)
    {serde : SerdeJson} {session : Nat} {req : String}
    (other
      : ∀ json command,
          requested config serde (server.sessions session) req = some (json, command)
          → command = .other)
    {handled : Value × RequestHandler Attachment × Host γ (Handles Local)}
    (handles
      : handled
        = handleRequest (fileBackend (attachedEngine sqlite)) config serde req
            (server.sessions session) server.world)
    : AttachedServer sqlite names config base
          (server.setSession session handled.2.1 handled.2.2)
      ∧ ∀ db,
          slotAt base (server.setSession session handled.2.1 handled.2.2) db
          = slotAt base server db := by
  have unchanged
      : handled.2.1.databases = (server.sessions session).databases
        ∧ handled.2.2 = server.world := by
    subst handles
    rcases handleRequest_other (fileBackend (attachedEngine sqlite)) other server.world with
      same | authenticates
    · rw [same]
      exact ⟨rfl, rfl⟩
    · rw [authenticates]
      exact ⟨rfl, rfl⟩
  obtain ⟨databases, world⟩ := unchanged
  rw [world]
  refine attached.sameCaches session handled.2.1 (fun found member => databases ▸ member) ?_ ?_
  · intro db
    rw [RequestHandler.connection?, databases]
    rfl
  · rw [databases]
    exact attached.keys session

end Requests

-----------------------------------------------------------------------------------------
-- Runs
-----------------------------------------------------------------------------------------

section Run

variable {γ Local Stmt : Type} (sqlite : Sqlite γ Local Stmt) (config : Config)
  (serde : SerdeJson)

/-- The server over attached connections, with its responses to queries and deletions. -/
def databaseStep (server : Server (Host γ (Handles Local)) Attachment) (event : ClientEvent)
    : Server (Host γ (Handles Local)) Attachment × List (Nat × Value) :=
  let stepped := server.step (fileBackend (attachedEngine sqlite)) config serde event.toServer
  match event with
  | .request session req =>
      (stepped.1,
        if (requestedDatabase? config serde (server.sessions session) req).isSome then stepped.2
        else [])
  | .disconnect _ => stepped

/-- Databases are named by plain names, all from a list. -/
def NamesPlain (names : List String) (server : Server (Host γ (Handles Local)) Attachment)
    : ClientEvent → Prop
  | .request session req =>
      ∀ db,
        requestedDatabase? config serde (server.sessions session) req = some db
        → PlainName db ∧ db ∈ names
  | .disconnect _ => True

/-- No query is sent by a session whose connection to the database is to a file that has been
deleted.
-/
def QueriesCurrent (base : Loc) (server : Server (Host γ (Handles Local)) Attachment)
    : ClientEvent → Prop
  | .request session req =>
      ∀ json db sql,
        requested config serde (server.sessions session) req = some (json, .query db sql)
        → trim sql ≠ ""
        → NotStale base server session db
  | .disconnect _ => True

variable {sqlite config serde} {base : Loc}
  {server : Server (Host γ (Handles Local)) Attachment}

/-- Sessions are authenticated by the requests that carry the password. -/
theorem authenticated_step (session : Nat) (req : String)
    : ((server.step (fileBackend (attachedEngine sqlite)) config serde
          (.request session req)).1.sessions session).authenticated
      = ((server.sessions session).authenticated
        || (config.auth ≠ "" && carriesPassword serde config req)) := by
  rw [Server.step, Server.setSession_self]
  by_cases protected' : config.auth ≠ ""
  · rw [handleRequest_authenticated _ serde protected']
    simp [protected']
  · have unprotected : config.auth = "" := not_not.mp protected'
    have open' : (handleRequest (fileBackend (attachedEngine sqlite)) config serde req
        (server.sessions session) server.world).2.1.authenticated
        = (server.sessions session).authenticated := by
      unfold handleRequest
      cases parseRequest serde req with
      | error message => rfl
      | ok json =>
          dsimp only
          rw [if_neg protected']
          exact dispatch_authenticated _ config req json _ _
    rw [open']
    simp [unprotected]

/-- A command leaves its session as authenticated as it was. -/
theorem authenticated_command {session : Nat} {req : String} {json : Value} {command : Command}
    (request : requested config serde (server.sessions session) req = some (json, command))
    (other : Nat)
    : ((server.step (fileBackend (attachedEngine sqlite)) config serde
          (.request session req)).1.sessions other).authenticated
      = (server.sessions other).authenticated := by
  rw [Server.step]
  by_cases mine : other = session
  · rw [mine, Server.setSession_self,
      (handleRequest_requested (fileBackend (attachedEngine sqlite)) request server.world).2]
    exact dispatch_authenticated _ config req json _ _
  · rw [Server.setSession_other _ _ _ _ mine]

/-- A database that becomes another is set in the shared map. -/
theorem Becomes.sharedOf {names : List String} {db : String}
    {server' : Server (Host γ (Handles Local)) Attachment} {slot : Slot (Image γ) Local}
    (becomes : Becomes sqlite names config base server server' db slot) (used : db ∈ names)
    (authenticated
      : ∀ session,
          (server'.sessions session).authenticated = (server.sessions session).authenticated)
    : sharedOf names base server' = (sharedOf names base server).set db slot := by
  rw [SqliteServer.sharedOf, SharedDatabases.set, SharedDatabases.mk.injEq]
  constructor
  · funext other
    by_cases same : other = db
    · rw [if_pos same, same, if_pos used]
      exact becomes.here
    · rw [if_neg same]
      refine ite_congr rfl (fun inNames => ?_) (fun _ => rfl)
      exact becomes.others other inNames same
  · funext session
    exact authenticated session

/-- What is asked of an event: databases are named by plain names from the list, no text names
another file, and no query goes to a deleted file.
-/
structure Allowed (sqlite : Sqlite γ Local Stmt) (config : Config) (serde : SerdeJson)
    (names : List String) (base : Loc) (server : Server (Host γ (Handles Local)) Attachment)
    (event : ClientEvent) : Prop where
  named : NamesPlain config serde names server event
  own : NamesNoFile (attachedUse sqlite) config serde server event
  current : QueriesCurrent config serde base server event

/-- A session that leaves does to the files and the caches what the shared map asks for. -/
theorem disconnect_refines (serde : SerdeJson) {names : List String}
    (attached : AttachedServer sqlite names config base server) (apart : Unrelated names)
    (session : Nat)
    : AttachedServer sqlite names config base
          (databaseStep sqlite config serde server (.disconnect session)).1
      ∧ sharedOf names base (databaseStep sqlite config serde server (.disconnect session)).1
        = ((sharedOf names base server).step sqlite config serde (.disconnect session)).1 := by
  obtain ⟨still, slots⟩ := attached.closeAll apart session
  refine ⟨still, ?_⟩
  rw [sharedOf, SharedDatabases.step, SharedDatabases.mk.injEq]
  constructor
  · funext db
    by_cases used : db ∈ names
    · simp only [sharedOf, if_pos used]
      exact slots db used
    · simp only [sharedOf, if_neg used]
      rfl
  · funext other
    change ((server.setSession session .new _).sessions other).authenticated = _
    by_cases mine : other = session
    · rw [mine, Server.setSession_self]
      simp [RequestHandler.new]
    · rw [Server.setSession_other _ _ _ _ mine]
      simp [mine, sharedOf]

/-- A request that is neither a query nor a deletion at most authenticates its session in the shared
map.
-/
theorem other_refines {names : List String}
    (attached : AttachedServer sqlite names config base server) {session : Nat} {req : String}
    (other
      : ∀ json command,
          requested config serde (server.sessions session) req = some (json, command)
          → command = .other)
    : AttachedServer sqlite names config base
          (server.step (fileBackend (attachedEngine sqlite)) config serde (.request session req)).1
      ∧ sharedOf names base
          (server.step (fileBackend (attachedEngine sqlite)) config serde (.request session req)).1
        = { sharedOf names base server with
            authenticated := fun other =>
              (sharedOf names base server).authenticated other
              || (other = session && config.auth ≠ "" && carriesPassword serde config req) } := by
  obtain ⟨still, slots⟩ := attached.other other rfl
  refine ⟨still, ?_⟩
  rw [sharedOf, SharedDatabases.mk.injEq]
  constructor
  · funext db
    exact ite_congr rfl (fun _ => slots db) (fun _ => rfl)
  · funext other
    by_cases mine : other = session
    · rw [mine, authenticated_step]
      simp [sharedOf]
    · rw [Server.step, Server.setSession_other _ _ _ _ mine]
      simp [mine, sharedOf]

/-- A query answers and does to the files and the caches what the shared map asks for. -/
theorem query_refines {names : List String}
    (attached : AttachedServer sqlite names config base server) (apart : Unrelated names)
    {session : Nat} {req db sql : String} {json : Value}
    (allowed : Allowed sqlite config serde names base server (.request session req))
    (request
      : requested config serde (server.sessions session) req = some (json, .query db sql))
    {stepped : Server (Host γ (Handles Local)) Attachment × List (Nat × Value)}
    (steps
      : stepped
        = server.step (fileBackend (attachedEngine sqlite)) config serde (.request session req))
    {expected : Except (Int64 × String) Value × Slot (Image γ) Local}
    (expects : expected = (slotAt base server db).query sqlite config session db sql)
    : Becomes sqlite names config base server stepped.1 db expected.2
      ∧ stepped.2 = [(session, queryResponse json expected.1)]
      ∧ db ∈ names := by
  have about : requestedDatabase? config serde (server.sessions session) req = some db := by
    rw [requestedDatabase?, request]
    rfl
  obtain ⟨plain, used⟩ := allowed.named db about
  obtain ⟨answer, becomes⟩ :=
    attached.query apart used plain (allowed.own json db sql request)
      (allowed.current json db sql request) rfl expects
  have handled := handleRequest_query (fileBackend (attachedEngine sqlite)) request server.world
  rw [if_pos (attached.accepted plain)] at handled
  rw [Server.step, handled] at steps
  subst steps
  dsimp only
  rw [answer]
  exact ⟨becomes, rfl, used⟩

/-- Every step does to the files and the caches what the shared map asks for: by cases on what is
requested.
-/
theorem databaseStep_refines {names : List String}
    (attached : AttachedServer sqlite names config base server) (apart : Unrelated names)
    {event : ClientEvent} (allowed : Allowed sqlite config serde names base server event)
    : AttachedServer sqlite names config base (databaseStep sqlite config serde server event).1
      ∧ sharedOf names base (databaseStep sqlite config serde server event).1
        = ((sharedOf names base server).step sqlite config serde event).1
      ∧ (databaseStep sqlite config serde server event).2
        = ((sharedOf names base server).step sqlite config serde event).2 := by
  cases event with
  | disconnect session =>
      obtain ⟨still, same⟩ := disconnect_refines serde attached apart session
      exact ⟨still, same, rfl⟩
  | request session req =>
      have gate
          : requested config serde
              (⟨[], (sharedOf names base server).authenticated session⟩ : RequestHandler Local)
              req
            = requested config serde (server.sessions session) req :=
        rfl
      have slotOf {db : String} (used : db ∈ names)
          : (sharedOf names base server).slots db = slotAt base server db :=
        if_pos used
      unfold databaseStep SharedDatabases.step
      dsimp only [ClientEvent.toServer]
      rw [gate, requestedDatabase?]
      cases request : requested config serde (server.sessions session) req with
      | none =>
          have nothing (json : Value) (command : Command)
              (found
                : requested config serde (server.sessions session) req = some (json, command))
              : command = .other := by
            rw [request] at found
            contradiction
          obtain ⟨still, same⟩ := other_refines attached nothing
          exact ⟨still, same, rfl⟩
      | some found =>
          obtain ⟨json, command⟩ := found
          cases command with
          | other =>
              obtain ⟨still, same⟩ := other_refines attached (by
                intro json' command' found
                exact (Prod.mk.inj (Option.some.inj (request.symm.trans found))).2.symm)
              exact ⟨still, same, rfl⟩
          | query db sql =>
              obtain ⟨becomes, answer, used⟩ :=
                query_refines attached apart allowed request rfl rfl
              dsimp only
              rw [slotOf used]
              exact ⟨becomes.attached, becomes.sharedOf used (authenticated_command request),
                answer⟩
          | deleteDb db =>
              have about
                  : requestedDatabase? config serde (server.sessions session) req = some db := by
                rw [requestedDatabase?, request]
                rfl
              obtain ⟨plain, used⟩ := allowed.named db about
              obtain ⟨answer, becomes⟩ := attached.delete apart used plain request rfl
              dsimp only
              rw [slotOf used]
              refine ⟨becomes.attached, becomes.sharedOf used (authenticated_command request), ?_⟩
              rw [Server.step]
              dsimp only
              exact congrArg (fun response => [(session, response)]) answer

theorem namesPlain_of_eq {names : List String} {session : Nat} {req : String} (db : String)
    (about : requestedDatabase? config serde (server.sessions session) req = some db)
    (plain : PlainName db) (used : db ∈ names)
    : NamesPlain config serde names server (.request session req) := by
  intro name about'
  obtain rfl : name = db := Option.some.inj (about'.symm.trans about)
  exact ⟨plain, used⟩

/-- A session that has the database open, if at all, under its name can query it. -/
theorem queriesCurrent_of_all {session : Nat} {req : String} (db : String)
    (about : requestedDatabase? config serde (server.sessions session) req = some db)
    (current
      : ((server.sessions session).connection? db).all
          (fun conn => server.world.files.nodes (base ++ [db]) = some (.file conn.inode))
        = true)
    : QueriesCurrent config serde base server (.request session req) := by
  intro json name sql request _ conn cached
  rw [requestedDatabase?, request] at about
  obtain rfl : name = db := Option.some.inj about
  rw [cached] at current
  exact of_decide_eq_true current

/-- A server that has just been started, in a folder without links in which no sidecar of the names
is a directory, has nothing attached.
-/
theorem attachedServer_start (sqlite : Sqlite γ Local Stmt) {names : List String}
    {host : Host γ (Handles Local)}
    (files : PlainFiles config.databasesFolder base host.files)
    (clear : ∀ db ∈ names, ∀ s : Sidecar, host.files.nodes (s.loc base db) ≠ some .dir)
    (unopened : ∀ handle, host.disk.engine.opened handle = none)
    : AttachedServer sqlite names config base
        (Server.start host : Server (Host γ (Handles Local)) Attachment) := by
  have nothing (conn : Attachment) (inode : Nat)
      : ¬ (attachedUse sqlite).held host.disk.engine conn inode := by
    rintro ⟨opened, found, -⟩
    have there := (Handles.find_eq_some.mp found).1
    exact nomatch (unopened conn.handle).symm.trans there
  refine ⟨⟨⟨files, ?_, ?_⟩, ?_⟩, clear, ?_, ?_, fun _ => List.nodup_nil⟩
  · intro conn db inode _ held
    exact absurd held (nothing conn inode)
  · intro conn db name inode _ held
    exact absurd held (nothing conn inode)
  · intro session found member
    contradiction
  · intro session db conn cached
    contradiction
  · intro session db conn session' db' conn' cached
    contradiction

/-- A run that the shared map speaks of. The server has just been started, in a folder without links
in which no sidecar of the names is a directory. The databases have plain names from the list, none
of them that of a sidecar of another, no text names another file, and no query goes to a deleted
file.
-/
structure SharedRun (sqlite : Sqlite γ Local Stmt) (config : Config) (serde : SerdeJson)
    (names : List String) (base : Loc) (host : Host γ (Handles Local)) (events : List ClientEvent)
    : Prop where
  unrelated : Unrelated names
  files : PlainFiles config.databasesFolder base host.files
  clear : ∀ db ∈ names, ∀ s : Sidecar, host.files.nodes (s.loc base db) ≠ some .dir
  unopened : ∀ handle, host.disk.engine.opened handle = none
  named
    : Along (databaseStep sqlite config serde) (NamesPlain config serde names) (.start host) events
  own
    : Along (databaseStep sqlite config serde) (NamesNoFile (attachedUse sqlite) config serde)
        (.start host) events
  current
    : Along (databaseStep sqlite config serde) (QueriesCurrent config serde base) (.start host)
        events

/-- Whatever is seen of a run, the shared map shows the same, and so do its databases at the end:
every step does what the map asks for.
-/
theorem SharedRun.observed {names : List String} {host : Host γ (Handles Local)}
    {events : List ClientEvent} (run : SharedRun sqlite config serde names base host events)
    (relevant : ClientEvent → Bool)
    : outputs (observed relevant (databaseStep sqlite config serde)) (.start host) events
        = outputs (Runs.observed relevant (SharedDatabases.step sqlite config serde))
            (sharedOf names base (.start host)) events
      ∧ sharedOf names base (after (databaseStep sqlite config serde) (.start host) events)
        = after (SharedDatabases.step sqlite config serde) (sharedOf names base (.start host))
            events := by
  have start := attachedServer_start sqlite run.files run.clear run.unopened
  have all
      : Along (Runs.observed relevant (databaseStep sqlite config serde))
          (Allowed sqlite config serde names base) (.start host) events :=
    ((run.named.and (run.own.and run.current)).strengthen (I := fun _ => True)
      (fun _ _ _ _ => trivial) (fun _ _ _ holds => ⟨holds.1, holds.2.1, holds.2.2⟩)
      trivial).observed
  have simulates (server : Server (Host γ (Handles Local)) Attachment)
      (shared : SharedDatabases (Image γ) Local) (event : ClientEvent)
      (related
        : AttachedServer sqlite names config base server ∧ sharedOf names base server = shared)
      (allowed : Allowed sqlite config serde names base server event)
      : (AttachedServer sqlite names config base
            (Runs.observed relevant (databaseStep sqlite config serde) server event).1
          ∧ sharedOf names base
              (Runs.observed relevant (databaseStep sqlite config serde) server event).1
            = (Runs.observed relevant (SharedDatabases.step sqlite config serde) shared
                (id event)).1)
        ∧ (Runs.observed relevant (databaseStep sqlite config serde) server event).2
          = (Runs.observed relevant (SharedDatabases.step sqlite config serde) shared
              (id event)).2 := by
    obtain ⟨attached, rfl⟩ := related
    obtain ⟨still, same, answers⟩ := databaseStep_refines attached run.unrelated allowed
    refine ⟨⟨still, same⟩, ?_⟩
    rw [Runs.observed, Runs.observed, answers]
    rfl
  have answers := outputs_simulated id simulates ⟨start, rfl⟩ all
  have final := after_simulated id
    (fun server shared event related allowed => (simulates server shared event related allowed).1)
    ⟨start, rfl⟩ all
  rw [List.map_id] at answers final
  rw [after_observed, after_observed] at final
  exact ⟨answers, final.2⟩

variable (sqlite config serde)

/-- In every run that the shared map speaks of, the responses to queries and deletions are those of
the map, and so are the databases at the end.
-/
theorem databases_shared (names : List String) (base : Loc) (host : Host γ (Handles Local))
    (events : List ClientEvent) (run : SharedRun sqlite config serde names base host events)
    : outputs (databaseStep sqlite config serde) (.start host) events
        = outputs (SharedDatabases.step sqlite config serde) (sharedOf names base (.start host))
            events
      ∧ sharedOf names base (after (databaseStep sqlite config serde) (.start host) events)
        = after (SharedDatabases.step sqlite config serde) (sharedOf names base (.start host))
            events := by
  have seen := run.observed (fun _ => true)
  rwa [observed_all, observed_all] at seen

end Run

-----------------------------------------------------------------------------------------
-- Two sessions
-----------------------------------------------------------------------------------------

/-- One session creates a table and another reads it, deletes the database and finds it empty, while
both use another database.
-/
def twoSessions : List ClientEvent :=
  [
    .request 0 (queryOf "mydb" "CREATE TABLE t(x)"),
    .request 1 (queryOf "mydb" "SELECT x FROM t"),
    .request 0 (queryOf "other" "CREATE TABLE t(x)"),
    .request 0 (queryOf "mydb" "SELECT x FROM t"),
    .request 1 (deletionOf "mydb"),
    .request 1 (queryOf "mydb" "SELECT x FROM t"),
    .request 1 (queryOf "other" "SELECT x FROM t"),
    .disconnect 0
  ]

theorem databases_shared_tables
    : outputs (databaseStep walSqlite (.standard "/srv/sqlite" "") unsignedReader)
            (.start emptyFolder) twoSessions
          = outputs (SharedDatabases.step walSqlite (.standard "/srv/sqlite" "") unsignedReader)
              (sharedOf ["mydb", "other"] ["srv", "sqlite"] (.start emptyFolder)) twoSessions
      ∧ sharedOf ["mydb", "other"] ["srv", "sqlite"]
            (after (databaseStep walSqlite (.standard "/srv/sqlite" "") unsignedReader)
              (.start emptyFolder) twoSessions)
          = after (SharedDatabases.step walSqlite (.standard "/srv/sqlite" "") unsignedReader)
              (sharedOf ["mydb", "other"] ["srv", "sqlite"] (.start emptyFolder)) twoSessions := by
  have plain (db : String) (used : db ∈ ["mydb", "other"]) : PlainName db := by
    revert db
    decide
  have clear : ∀ db ∈ ["mydb", "other"], ∀ s ∈ Sidecar.all,
      emptyFolder.files.nodes (s.loc ["srv", "sqlite"] db) ≠ some .dir := by
    decide +kernel
  refine databases_shared walSqlite (.standard "/srv/sqlite" "") unsignedReader ["mydb", "other"]
    ["srv", "sqlite"] emptyFolder twoSessions ⟨?_, emptyFolder_plain, ?_, fun _ => rfl,
      ⟨?_, ?_, ?_, ?_, ?_, ?_, ?_, trivial, trivial⟩, ?_,
      ⟨?_, ?_, ?_, ?_, ?_, ?_, ?_, trivial, trivial⟩⟩
  · unfold Unrelated Related
    decide +kernel
  · intro db used s
    exact clear db used s (by cases s <;> decide)
  · exact namesPlain_of_eq "mydb" (by decide +kernel) (plain _ (by decide)) (by decide)
  · exact namesPlain_of_eq "mydb" (by decide +kernel) (plain _ (by decide)) (by decide)
  · exact namesPlain_of_eq "other" (by decide +kernel) (plain _ (by decide)) (by decide)
  · exact namesPlain_of_eq "mydb" (by decide +kernel) (plain _ (by decide)) (by decide)
  · exact namesPlain_of_eq "mydb" (by decide +kernel) (plain _ (by decide)) (by decide)
  · exact namesPlain_of_eq "mydb" (by decide +kernel) (plain _ (by decide)) (by decide)
  · exact namesPlain_of_eq "other" (by decide +kernel) (plain _ (by decide)) (by decide)
  · exact along_of_forall (fun event _ server => namesNoFile_walSqlite _ _ server event) _
  · exact queriesCurrent_of_all "mydb" (by decide +kernel) (by decide +kernel)
  · exact queriesCurrent_of_all "mydb" (by decide +kernel) (by decide +kernel)
  · exact queriesCurrent_of_all "other" (by decide +kernel) (by decide +kernel)
  · exact queriesCurrent_of_all "mydb" (by decide +kernel) (by decide +kernel)
  · exact queriesCurrent_of_all "mydb" (by decide +kernel) (by decide +kernel)
  · exact queriesCurrent_of_all "mydb" (by decide +kernel) (by decide +kernel)
  · exact queriesCurrent_of_all "other" (by decide +kernel) (by decide +kernel)

/-- A session that had the database open before another deleted it still reads what was deleted. -/
theorem deleted_database_read
    : ¬ ∀ events : List ClientEvent,
        Along (databaseStep walSqlite (.standard "/srv/sqlite" "") unsignedReader)
            (NamesPlain (.standard "/srv/sqlite" "") unsignedReader ["mydb"]) (.start emptyFolder)
            events
        → outputs (databaseStep walSqlite (.standard "/srv/sqlite" "") unsignedReader)
              (.start emptyFolder) events
            = outputs (SharedDatabases.step walSqlite (.standard "/srv/sqlite" "") unsignedReader)
                (sharedOf ["mydb"] ["srv", "sqlite"] (.start emptyFolder)) events := by
  intro claim
  have plain : PlainName "mydb" := by decide
  have same := claim
    [
      .request 0 (queryOf "mydb" "CREATE TABLE t(x)"),
      .request 1 (deletionOf "mydb"),
      .request 0 (queryOf "mydb" "SELECT x FROM t")
    ]
    ⟨namesPlain_of_eq "mydb" (by decide +kernel) plain (by decide),
      namesPlain_of_eq "mydb" (by decide +kernel) plain (by decide),
      namesPlain_of_eq "mydb" (by decide +kernel) plain (by decide), trivial⟩
  exact absurd same (by decide +kernel)

/-- A database whose log was deleted under the log's own name is lost, as no shared map would have
it: such names are excluded.
-/
example :
    let events : List ClientEvent :=
      [
        .request 0 (queryOf "mydb" "CREATE TABLE t(x)"),
        .request 1 (deletionOf "mydb-wal"),
        .request 1 (queryOf "mydb" "SELECT x FROM t")
      ]
    outputs (databaseStep walSqlite (.standard "/srv/sqlite" "") unsignedReader)
          (.start emptyFolder) events
      ≠ outputs (SharedDatabases.step walSqlite (.standard "/srv/sqlite" "") unsignedReader)
          (sharedOf ["mydb", "mydb-wal"] ["srv", "sqlite"] (.start emptyFolder)) events := by
  decide +kernel

end SqliteServer
