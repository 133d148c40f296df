import SqliteServer.AttachedFiles
import SqliteServer.DatabaseIsolation

/-! What the files and the caches of a server make up when every connection is attached to a file,
and how opening, using and closing connections change it.
-/

namespace SqliteServer

open Json Files Runs

-----------------------------------------------------------------------------------------
-- Connections that find their files
-----------------------------------------------------------------------------------------

section Finding

variable {γ Local Stmt : Type} {folder : String} {conn : Attachment}
  {disk disk' disk'' : Disk γ (Handles Local)} {found : Image γ × Local}

/-- A database's files are there, and they contain the image. -/
structure Shows (folder : String) (conn : Attachment) (image : Image γ) (files : FileSystem γ)
    : Prop where
  beside : Beside folder conn files
  image : files.imageAt conn.parent conn.name conn.inode = image

/-- A connection is open and finds a database, as given, and its own state. -/
structure Finds (folder : String) (conn : Attachment) (found : Image γ × Local)
    (disk : Disk γ (Handles Local))
    : Prop where
  shows : Shows folder conn found.1 disk.files
  isOpen : (disk.engine.find conn).map Opened.state = some found.2

/-- All connections but one are open as they were. -/
structure Elsewhere (handle : Nat) (disk disk' : Disk γ (Handles Local)) : Prop where
  opened : ∀ h, h ≠ handle → disk'.engine.opened h = disk.engine.opened h
  next : disk.engine.next ≤ disk'.engine.next

theorem Elsewhere.refl (handle : Nat) (disk : Disk γ (Handles Local))
    : Elsewhere handle disk disk :=
  ⟨fun _ _ => rfl, Nat.le_refl _⟩

theorem Elsewhere.trans {handle : Nat} (first : Elsewhere handle disk disk')
    (second : Elsewhere handle disk' disk'')
    : Elsewhere handle disk disk'' :=
  ⟨fun h other => (second.opened h other).trans (first.opened h other),
    Nat.le_trans first.next second.next⟩

theorem Elsewhere.find {handle : Nat} (elsewhere : Elsewhere handle disk disk')
    (other : conn.handle ≠ handle)
    : disk'.engine.find conn = disk.engine.find conn := by
  rw [Handles.find, Handles.find, elsewhere.opened _ other]

theorem Shows.leaveParts {files : FileSystem γ} {image : Image γ}
    (shows : Shows folder conn image files) (left : Image γ)
    : Shows folder conn left (files.leaveParts (conn.parts left)) :=
  let ⟨beside, same⟩ := shows.beside.leaveParts left
  ⟨beside, same⟩

theorem Finds.get (finds : Finds folder conn found disk) : disk.get conn = some found := by
  obtain ⟨opened, isOpen, state⟩ := Option.map_eq_some_iff.mp finds.isOpen
  rw [Disk.get, isOpen, Option.map_some, if_pos finds.shows.beside.current, finds.shows.image,
    state]

/-- A connection finds what it has left. -/
theorem Finds.leave (finds : Finds folder conn found disk) (left : Image γ × Local)
    : Finds folder conn left (disk.leave conn left)
      ∧ Elsewhere conn.handle disk (disk.leave conn left) := by
  obtain ⟨opened, isOpen, -⟩ := Option.map_eq_some_iff.mp finds.isOpen
  unfold Disk.leave
  rw [isOpen]
  dsimp only
  rw [if_pos finds.shows.beside.current]
  refine ⟨⟨finds.shows.leaveParts left.1, ?_⟩, fun h other => if_neg other, Nat.le_refl _⟩
  dsimp only
  rw [Handles.find_set (by simp), if_pos rfl]
  rfl

/-- A connection that is closed leaves its database behind. -/
theorem Finds.finish (finds : Finds folder conn found disk) (image : Image γ)
    : Shows folder conn image (disk.finish conn image).files
      ∧ Elsewhere conn.handle disk (disk.finish conn image) := by
  unfold Disk.finish
  dsimp only
  rw [if_pos finds.shows.beside.current]
  exact ⟨finds.shows.leaveParts image, fun h other => if_neg other, Nat.le_refl _⟩

variable {sqlite : Sqlite γ Local Stmt} {base : Loc} {db : String} {inode : Nat}

/-- A connection that could not be made leaves the database behind. -/
theorem attach_error (disk : Disk γ (Handles Local)) {image : Image γ} {err : RusqliteError}
    (beside : Beside folder ⟨base, db, inode, disk.engine.next⟩ disk.files)
    (connected
      : sqlite.connect (sqlite.renew (disk.files.imageAt base db inode)) = (.error err, image))
    : ∃ files,
        sqlite.attach disk (base ++ [db]) inode = (.error err, { disk with files := files })
        ∧ Shows folder ⟨base, db, inode, disk.engine.next⟩ image files := by
  have renewed := (Shows.mk beside rfl).leaveParts (sqlite.renew (disk.files.imageAt base db inode))
  refine ⟨_, ?_, renewed.leaveParts image⟩
  unfold Sqlite.attach
  rw [List.getLast?_concat]
  dsimp only
  rw [List.dropLast_concat, connected]

/-- A new connection finds what it has left of the database, without what was left over. -/
theorem attach_ok (disk : Disk γ (Handles Local)) {image : Image γ} {state : Local}
    (beside : Beside folder ⟨base, db, inode, disk.engine.next⟩ disk.files)
    (connected
      : sqlite.connect (sqlite.renew (disk.files.imageAt base db inode)) = (.ok state, image))
    : ∃ disk',
        sqlite.attach disk (base ++ [db]) inode
            = (.ok ⟨base, db, inode, disk.engine.next⟩, disk')
        ∧ Finds folder ⟨base, db, inode, disk.engine.next⟩ (image, state) disk'
        ∧ Elsewhere disk.engine.next disk disk'
        ∧ disk.engine.next < disk'.engine.next := by
  have renewed := (Shows.mk beside rfl).leaveParts (sqlite.renew (disk.files.imageAt base db inode))
  unfold Sqlite.attach
  rw [List.getLast?_concat]
  dsimp only
  rw [List.dropLast_concat, connected]
  refine ⟨_, rfl, ⟨renewed.leaveParts image, ?_⟩, ⟨fun h other => if_neg other, Nat.le_succ _⟩,
    Nat.lt_succ_self _⟩
  rw [Handles.find]
  dsimp only [Handles.set]
  simp

end Finding

-----------------------------------------------------------------------------------------
-- Queries
-----------------------------------------------------------------------------------------

section Queries

variable {γ Local Stmt : Type} (sqlite : Sqlite γ Local Stmt) (config : Config)
  {db sql : String} {handler next : RequestHandler Attachment}
  {host host' : Host γ (Handles Local)}

/-- A query with a connection runs its statement on what the connection finds. -/
theorem runQuery_attached {folder : String} {conn : Attachment} {found : Image γ × Local}
    (text : trim sql ≠ "") (own : sqlite.ownText sql = true)
    (got
      : getConnection (fileBackend (attachedEngine sqlite)) config db handler host
        = (.ok conn, next, host'))
    (finds : Finds folder conn found host'.disk)
    : ∃ disk,
        runQuery (fileBackend (attachedEngine sqlite)) config db sql handler host
            = ((sqlite.runStatement found sql).1, next, { host' with disk := disk })
        ∧ Finds folder conn (sqlite.runStatement found sql).2 disk
        ∧ Elsewhere conn.handle host'.disk disk := by
  have preparing
      : (fileBackend (attachedEngine sqlite)).prepare host' conn sql
        = ((sqlite.prepare found sql).1,
          { host' with disk := host'.disk.leave conn (sqlite.prepare found sql).2 }) := by
    simp only [fileBackend, attachedEngine, own, if_true, finds.get, Host.onDisk]
  obtain ⟨after, apart⟩ := finds.leave (sqlite.prepare found sql).2
  have compiled := sqlite.ownStmt_prepare found sql
  unfold Sqlite.runStatement
  cases prepared : sqlite.prepare found sql with
  | mk result left =>
      rw [prepared] at preparing compiled after apart
      cases result with
      | error err => exact ⟨_, runQuery_unprepared text got preparing, after, apart⟩
      | ok stmt =>
          have ownStmt := compiled stmt own rfl
          have stepping
              : (fileBackend (attachedEngine sqlite)).query
                    { host' with disk := host'.disk.leave conn left } conn stmt
                = (sqlite.query left stmt).map
                    (fun last =>
                      { host' with disk := (host'.disk.leave conn left).leave conn last }) := by
            simp only [fileBackend, attachedEngine, ownStmt, if_true, after.get, Rows.map_map]
          have names : (fileBackend (attachedEngine sqlite)).columnNames = sqlite.columnNames := rfl
          rw [runQuery_prepared text got preparing, stepQuery, stepping, collectRows_map, names]
          dsimp only
          cases collectRows (sqlite.columnNames stmt) (sqlite.query left stmt) [] with
          | mk outcome final =>
              obtain ⟨last, again⟩ := after.leave final
              cases outcome with
              | error err => exact ⟨_, rfl, last, apart.trans again⟩
              | ok rows => exact ⟨_, rfl, last, apart.trans again⟩

/-- What a query of a database that is not open leaves behind: the image, and the connection if it
was kept.
-/
structure OpenedAs (folder : String) (conn : Attachment) (session : Nat)
    (handler handler' : RequestHandler Attachment) (connections connections' : Nat → Option Local)
    (image : Image γ) (disk disk' : Disk γ (Handles Local)) : Prop where
  shows : Shows folder conn image disk'.files
  elsewhere : Elsewhere conn.handle disk disk'
  kept
    : (handler' = handler ∧ connections' = connections)
      ∨ ∃ state,
          handler' = handler.insert conn.name conn
          ∧ connections'
            = (fun other => if other = session then some state else connections other)
          ∧ (disk'.engine.find conn).map Opened.state = some state
          ∧ conn.handle < disk'.engine.next

section Opening

variable {base : Loc} {inode : Nat} {files : FileSystem γ}

/-- A database that is not open is attached to the file that its name leads to. -/
theorem openConnection_attach
    (opened
      : host.files.openFile sqlite.policy sqlite.empty (join config.databasesFolder db)
        = some (base ++ [db], inode, files))
    : (fileBackend (attachedEngine sqlite)).openConnection host (join config.databasesFolder db)
      = (host.reach (base ++ [db]) files).onDisk
          (sqlite.attach { host.disk with files := files } (base ++ [db]) inode) := by
  have same
      : host.files.openFile (attachedEngine sqlite).policy (attachedEngine sqlite).empty
          (join config.databasesFolder db)
        = some (base ++ [db], inode, files) :=
    opened
  change openDatabase (attachedEngine sqlite) host (join config.databasesFolder db) = _
  rw [openDatabase, same]
  rfl

/-- A connection that cannot be made leaves the database as connecting left it. -/
theorem getConnection_unconnected (absent : handler.connection? db = none)
    (opened
      : host.files.openFile sqlite.policy sqlite.empty (join config.databasesFolder db)
        = some (base ++ [db], inode, files))
    (beside : Beside config.databasesFolder ⟨base, db, inode, host.disk.engine.next⟩ files)
    {err : RusqliteError} {image : Image γ}
    (connected : sqlite.connect (sqlite.renew (files.imageAt base db inode)) = (.error err, image))
    : ∃ disk,
        getConnection (fileBackend (attachedEngine sqlite)) config db handler host
            = (.error err, handler, { host.reach (base ++ [db]) files with disk := disk })
        ∧ Shows config.databasesFolder ⟨base, db, inode, host.disk.engine.next⟩ image disk.files
        ∧ Elsewhere host.disk.engine.next host.disk disk := by
  obtain ⟨left, attaching, shows⟩ :=
    attach_error { host.disk with files := files } beside connected
  have opening := openConnection_attach sqlite config opened
  rw [attaching] at opening
  refine ⟨{ host.disk with files := left }, ?_, shows, fun _ _ => rfl, Nat.le_refl _⟩
  rw [getConnection, absent]
  dsimp only
  rw [opening]
  rfl

/-- A connection that is made is tuned, and kept or closed again. -/
theorem getConnection_connected (absent : handler.connection? db = none)
    (opened
      : host.files.openFile sqlite.policy sqlite.empty (join config.databasesFolder db)
        = some (base ++ [db], inode, files))
    (beside : Beside config.databasesFolder ⟨base, db, inode, host.disk.engine.next⟩ files)
    {state : Local} {image : Image γ}
    (connected : sqlite.connect (sqlite.renew (files.imageAt base db inode)) = (.ok state, image))
    : ∃ disk,
        getConnection (fileBackend (attachedEngine sqlite)) config db handler host
            = (match sqlite.executeBatch (image, state) (tuningBatch config) with
              | (.error err, left) =>
                  (.error err, handler,
                    {
                      host.reach (base ++ [db]) files with
                      disk :=
                        disk.finish ⟨base, db, inode, host.disk.engine.next⟩ (sqlite.close left)
                    })
              | (.ok (), _) =>
                  (.ok ⟨base, db, inode, host.disk.engine.next⟩,
                    handler.insert db ⟨base, db, inode, host.disk.engine.next⟩,
                    { host.reach (base ++ [db]) files with disk := disk }))
        ∧ Finds config.databasesFolder ⟨base, db, inode, host.disk.engine.next⟩
            (sqlite.executeBatch (image, state) (tuningBatch config)).2 disk
        ∧ Elsewhere host.disk.engine.next host.disk disk
        ∧ host.disk.engine.next < disk.engine.next := by
  obtain ⟨attached, attaching, finds, apart, numbered⟩ :=
    attach_ok { host.disk with files := files } beside connected
  have entered : Elsewhere host.disk.engine.next host.disk attached := ⟨apart.opened, apart.next⟩
  have opening := openConnection_attach sqlite config opened
  rw [attaching] at opening
  have tuning
      : (fileBackend (attachedEngine sqlite)).executeBatch
          { host.reach (base ++ [db]) files with disk := attached }
          ⟨base, db, inode, host.disk.engine.next⟩ (tuningBatch config)
        = ((sqlite.executeBatch (image, state) (tuningBatch config)).1,
          {
            host.reach (base ++ [db]) files with
            disk :=
              attached.leave ⟨base, db, inode, host.disk.engine.next⟩
                (sqlite.executeBatch (image, state) (tuningBatch config)).2
          }) := by
    simp only [fileBackend, attachedEngine, finds.get, Host.onDisk]
  obtain ⟨tunedFinds, tunedApart⟩ :=
    finds.leave (sqlite.executeBatch (image, state) (tuningBatch config)).2
  refine ⟨_, ?_, tunedFinds, entered.trans tunedApart,
    Nat.lt_of_lt_of_le numbered tunedApart.next⟩
  rw [getConnection, absent]
  dsimp only
  rw [opening]
  dsimp only [Host.onDisk]
  rw [tuning]
  cases tuned : sqlite.executeBatch (image, state) (tuningBatch config) with
  | mk outcome left =>
      rw [tuned] at tunedFinds
      cases outcome with
      | error err => simp only [fileBackend, attachedEngine, tunedFinds.get]
      | ok _ => rfl

/-- A query of a database that is not open answers and leaves behind what a session does that is not
connected: by cases on connecting and on tuning.
-/
theorem runQuery_opened {session : Nat} {connections : Nat → Option Local} (text : trim sql ≠ "")
    (own : sqlite.ownText sql = true) (absent : handler.connection? db = none)
    (unconnected : connections session = none)
    (opened
      : host.files.openFile sqlite.policy sqlite.empty (join config.databasesFolder db)
        = some (base ++ [db], inode, files))
    (beside : Beside config.databasesFolder ⟨base, db, inode, host.disk.engine.next⟩ files)
    : ∃ handler' disk' image connections',
        runQuery (fileBackend (attachedEngine sqlite)) config db sql handler host
            = ((Slot.runOn sqlite config session sql (files.imageAt base db inode)
                connections).1,
              handler', { host.reach (base ++ [db]) files with disk := disk' })
        ∧ (Slot.runOn sqlite config session sql (files.imageAt base db inode) connections).2
          = .database image connections'
        ∧ OpenedAs config.databasesFolder ⟨base, db, inode, host.disk.engine.next⟩ session handler
            handler' connections connections' image host.disk disk' := by
  unfold Slot.runOn
  rw [unconnected]
  dsimp only
  cases connected : sqlite.connect (sqlite.renew (files.imageAt base db inode)) with
  | mk result image =>
      cases result with
      | error err =>
          obtain ⟨disk, got, shows, elsewhere⟩ :=
            getConnection_unconnected sqlite config absent opened beside connected
          exact ⟨handler, disk, image, connections, runQuery_failed text got, rfl, shows, elsewhere,
            .inl ⟨rfl, rfl⟩⟩
      | ok state =>
          obtain ⟨disk, got, finds, elsewhere, numbered⟩ :=
            getConnection_connected sqlite config absent opened beside connected
          dsimp only
          cases tuned : sqlite.executeBatch (image, state) (tuningBatch config) with
          | mk outcome left =>
              rw [tuned] at got finds
              cases outcome with
              | error err =>
                  obtain ⟨shows, closed⟩ := finds.finish (sqlite.close left)
                  exact ⟨handler, _, sqlite.close left, connections, runQuery_failed text got, rfl,
                    shows, elsewhere.trans closed, .inl ⟨rfl, rfl⟩⟩
              | ok _ =>
                  obtain ⟨disk', ran, last, again⟩ :=
                    runQuery_attached sqlite config text own got finds
                  exact ⟨_, disk', _, _, ran, rfl, last.shows, elsewhere.trans again,
                    .inr ⟨_, rfl, rfl, last.isOpen, Nat.lt_of_lt_of_le numbered again.next⟩⟩

end Opening

end Queries

-----------------------------------------------------------------------------------------
-- The map that the files and the caches make up
-----------------------------------------------------------------------------------------

section Sharing

variable {γ Local Stmt : Type}

/-- The connection of each session to a database, if it is attached to the given file. -/
def connectionsTo (server : Server (Host γ (Handles Local)) Attachment) (db : String)
    (inode session : Nat)
    : Option Local :=
  match (server.sessions session).connection? db with
  | none => none
  | some conn =>
      if conn.inode = inode then (server.world.disk.engine.find conn).map Opened.state else none

/-- What a name denotes: its file and the sidecars beside it, with the connections that are attached
to that file.
-/
def slotAt (base : Loc) (server : Server (Host γ (Handles Local)) Attachment) (db : String)
    : Slot (Image γ) Local :=
  match server.world.files.nodes (base ++ [db]) with
  | none => .absent
  | some (.file inode) =>
      .database (server.world.files.imageAt base db inode) (connectionsTo server db inode)
  | some _ => .obstacle

/-- The databases that the server's files and caches make up under some names. -/
def sharedOf (names : List String) (base : Loc)
    (server : Server (Host γ (Handles Local)) Attachment)
    : SharedDatabases (Image γ) Local where
  slots := fun db => if db ∈ names then slotAt base server db else .absent
  authenticated := fun session => (server.sessions session).authenticated

/-- None of the names is that of a file of another one. -/
def Unrelated (names : List String) : Prop :=
  ∀ db ∈ names, ∀ other ∈ names, other ≠ db → ¬ Related db other

/-- A connection in a cache: it is open, and it was opened under its own name. -/
structure Connected (names : List String) (base : Loc) (host : Host γ (Handles Local))
    (db : String) (conn : Attachment) : Prop where
  plain : PlainName db
  used : db ∈ names
  parent : conn.parent = base
  name : conn.name = db
  isOpen : (host.disk.engine.find conn).isSome = true
  handled : conn.handle < host.disk.engine.next

/-- Every connection in a cache is at home under its own name, and is nobody else's. The sidecars of
the names are no directories.
-/
structure AttachedServer (sqlite : Sqlite γ Local Stmt) (names : List String) (config : Config)
    (base : Loc) (server : Server (Host γ (Handles Local)) Attachment) : Prop where
  atHome : AtHome (attachedUse sqlite) config base server
  clear
    : ∀ db ∈ names, ∀ s : Sidecar, server.world.files.nodes (s.loc base db) ≠ some .dir
  connected
    : ∀ session db conn,
        (server.sessions session).connection? db = some conn
        → Connected names base server.world db conn
  distinct
    : ∀ session db conn session' db' conn',
        (server.sessions session).connection? db = some conn
        → (server.sessions session').connection? db' = some conn'
        → conn.handle = conn'.handle
        → session = session' ∧ db = db'
  keys : ∀ session, ((server.sessions session).databases.map Prod.fst).Nodup

variable {sqlite : Sqlite γ Local Stmt} {names : List String} {config : Config} {base : Loc}
  {server server' : Server (Host γ (Handles Local)) Attachment} {db : String}

theorem Connected.home {host : Host γ (Handles Local)} {conn : Attachment}
    (connected : Connected names base host db conn)
    : conn.home = base ++ [db] := by
  rw [Attachment.home, connected.parent, connected.name]

/-- A connection that is still open stays connected. -/
theorem Connected.later {host host' : Host γ (Handles Local)} {conn : Attachment}
    (connected : Connected names base host db conn)
    (isOpen : (host'.disk.engine.find conn).isSome = true)
    (next : host.disk.engine.next ≤ host'.disk.engine.next)
    : Connected names base host' db conn :=
  ⟨connected.plain, connected.used, connected.parent, connected.name, isOpen,
    Nat.lt_of_lt_of_le connected.handled next⟩

/-- Where a database shows, no sidecar of its is a directory. -/
theorem Connected.clear {host : Host γ (Handles Local)} {conn : Attachment}
    (connected : Connected names base host db conn) {folder : String} {image : Image γ}
    {files : FileSystem γ} (shows : Shows folder conn image files) (s : Sidecar)
    : files.nodes (s.loc base db) ≠ some .dir := by
  have clear := shows.beside.clear s
  rwa [Attachment.sidecar, connected.parent, connected.name] at clear

theorem AttachedServer.files (attached : AttachedServer sqlite names config base server)
    : PlainFiles config.databasesFolder base server.world.files :=
  attached.atHome.held.files

/-- The number of the next connection is nobody's yet. -/
theorem AttachedServer.handle_ne_next (attached : AttachedServer sqlite names config base server)
    {session : Nat} {conn : Attachment}
    (cached : (server.sessions session).connection? db = some conn)
    : conn.handle ≠ server.world.disk.engine.next :=
  Nat.ne_of_lt (attached.connected session db conn cached).handled

/-- The file of a connection has a number that is used. -/
theorem AttachedServer.numbered (attached : AttachedServer sqlite names config base server)
    {session : Nat} {conn : Attachment}
    (cached : (server.sessions session).connection? db = some conn)
    : conn.inode < server.world.files.nextInode := by
  have connected := attached.connected session db conn cached
  obtain ⟨opened, found⟩ := Option.isSome_iff_exists.mp connected.isOpen
  exact attached.atHome.held.bounded conn db conn.inode connected.home ⟨opened, found, .inl rfl⟩

/-- A name whose files and connections stay as they are denotes what it denoted. -/
theorem slotAt_same {other : String}
    (same : SameDatabase base other server.world.files server'.world.files)
    (caches
      : ∀ session,
          (server'.sessions session).connection? other
          = (server.sessions session).connection? other)
    (opened
      : ∀ session conn,
          (server.sessions session).connection? other = some conn
          → server'.world.disk.engine.find conn = server.world.disk.engine.find conn)
    : slotAt base server' other = slotAt base server other := by
  unfold slotAt
  rw [same.nodes other List.mem_cons_self]
  cases node : server.world.files.nodes (base ++ [other]) with
  | none => rfl
  | some kind =>
      cases kind with
      | dir => rfl
      | symlink target => rfl
      | file inode =>
          have image
              : server'.world.files.imageAt base other inode
                = server.world.files.imageAt base other inode := by
            rw [FileSystem.imageAt, FileSystem.imageAt,
              same.contents other List.mem_cons_self inode node, Image.mk.injEq]
            exact ⟨rfl, funext fun s => same.contentsAt (s.mem_ownNames other)⟩
          dsimp only
          rw [image]
          refine congrArg (Slot.database _) ?_
          funext session
          unfold connectionsTo
          rw [caches session]
          cases cached : (server.sessions session).connection? other with
          | none => rfl
          | some conn =>
              dsimp only
              rw [opened session conn cached]

/-- A database becomes what is given, and no other database changes. -/
structure Becomes (sqlite : Sqlite γ Local Stmt) (names : List String) (config : Config)
    (base : Loc) (server server' : Server (Host γ (Handles Local)) Attachment) (db : String)
    (slot : Slot (Image γ) Local) : Prop where
  attached : AttachedServer sqlite names config base server'
  here : slotAt base server' db = slot
  others : ∀ other ∈ names, other ≠ db → slotAt base server' other = slotAt base server other

theorem Becomes.trans {middle : Server (Host γ (Handles Local)) Attachment}
    {slot slot' : Slot (Image γ) Local}
    (first : Becomes sqlite names config base server middle db slot)
    (second : Becomes sqlite names config base middle server' db slot')
    : Becomes sqlite names config base server server' db slot' :=
  ⟨second.attached, second.here,
    fun other used different =>
      (second.others other used different).trans (first.others other used different)⟩

theorem AttachedServer.unchanged (attached : AttachedServer sqlite names config base server)
    {session : Nat} {slot : Slot (Image γ) Local} (here : slotAt base server db = slot)
    : Becomes sqlite names config base server
        (server.setSession session (server.sessions session) server.world) db slot := by
  rw [Server.setSession_same]
  exact ⟨attached, here, fun _ _ _ => rfl⟩

-----------------------------------------------------------------------------------------
-- What one session does to one database
-----------------------------------------------------------------------------------------

/-- A session has worked on a database: with a connection of its own, or a new one. -/
structure WorksOn (sqlite : Sqlite γ Local Stmt) (names : List String) (config : Config)
    (base : Loc) (server : Server (Host γ (Handles Local)) Attachment) (session : Nat)
    (db : String) (handle : Nat) (handler : RequestHandler Attachment)
    (host : Host γ (Handles Local)) : Prop where
  done : DoneFor (attachedUse sqlite) config.databasesFolder base db server.world host
  elsewhere : Elsewhere handle server.world.disk host.disk
  mine
    : ∀ s other conn,
        (server.sessions s).connection? other = some conn
        → conn.handle = handle
        → s = session ∧ other = db
  clear : ∀ s : Sidecar, host.files.nodes (s.loc base db) ≠ some .dir
  caches
    : ∀ other,
        other ≠ db → handler.connection? other = (server.sessions session).connection? other
  keys : (handler.databases.map Prod.fst).Nodup
  entries
    : ∀ found ∈ handler.databases,
        found ∈ (server.sessions session).databases
        ∨ found.1 = db ∧ found.2.home = base ++ [db]
  own
    : ∀ conn,
        handler.connection? db = some conn
        → ((server.sessions session).connection? db = some conn
            ∨ conn.handle = server.world.disk.engine.next)
          ∧ Connected names base host db conn

namespace WorksOn

variable {session handle : Nat} {handler : RequestHandler Attachment}
  {host : Host γ (Handles Local)}

/-- Connections of others, and to other databases, stay open as they are. -/
theorem find (works : WorksOn sqlite names config base server session db handle handler host)
    {s : Nat} {other : String} {conn : Attachment}
    (cached : (server.sessions s).connection? other = some conn)
    (foreign : ¬ (s = session ∧ other = db))
    : host.disk.engine.find conn = server.world.disk.engine.find conn :=
  works.elsewhere.find (fun same => foreign (works.mine s other conn cached same))

/-- What is cached afterwards was cached before, or is new. -/
theorem cached_before
    (works : WorksOn sqlite names config base server session db handle handler host) {s : Nat}
    {other : String} {conn : Attachment}
    (cached : ((server.setSession session handler host).sessions s).connection? other = some conn)
    : (server.sessions s).connection? other = some conn
      ∨ s = session ∧ other = db ∧ conn.handle = server.world.disk.engine.next := by
  by_cases mine : s = session
  · subst mine
    rw [Server.setSession_self] at cached
    by_cases named : other = db
    · subst named
      rcases (works.own conn cached).1 with old | new
      · exact .inl old
      · exact .inr ⟨rfl, rfl, new⟩
    · exact .inl ((works.caches other named).symm.trans cached)
  · rw [Server.setSession_other _ _ _ _ mine] at cached
    exact .inl cached

/-- The server stays attached, and other databases stay what they are. -/
theorem attached (works : WorksOn sqlite names config base server session db handle handler host)
    (before : AttachedServer sqlite names config base server) (apart : Unrelated names)
    (used : db ∈ names) (plain : PlainName db)
    : AttachedServer sqlite names config base (server.setSession session handler host)
      ∧ ∀ other ∈ names,
          other ≠ db
          → slotAt base (server.setSession session handler host) other
            = slotAt base server other := by
  have alone {other : String} (inNames : other ∈ names) (different : other ≠ db) :=
    works.done.alone other (apart db used other inNames different)
  refine ⟨⟨?_, ?_, ?_, ?_, ?_⟩, ?_⟩
  · refine before.atHome.setSession session works.done.held ?_
    intro found member
    rcases works.entries found member with old | ⟨named, home⟩
    · exact .inl old
    · rw [named]
      exact .inr ⟨db, denotes_plain plain, home⟩
  · intro other inNames s
    by_cases named : other = db
    · rw [named]
      exact works.clear s
    · have same := (alone inNames named).same.nodes _ (s.mem_ownNames other)
      rw [Server.setSession_world, Sidecar.loc, same]
      exact before.clear other inNames s
  · intro s other conn cached
    by_cases here : s = session ∧ other = db
    · obtain ⟨rfl, rfl⟩ := here
      rw [Server.setSession_self] at cached
      exact (works.own conn cached).2
    · rcases works.cached_before cached with old | ⟨mine, named, -⟩
      · have connected := before.connected s other conn old
        refine connected.later ?_ works.elsewhere.next
        rw [Server.setSession_world, works.find old here]
        exact connected.isOpen
      · exact absurd ⟨mine, named⟩ here
  · intro s₁ db₁ conn₁ s₂ db₂ conn₂ cached₁ cached₂ same
    rcases works.cached_before cached₁ with old₁ | ⟨rfl, rfl, new₁⟩
    · rcases works.cached_before cached₂ with old₂ | ⟨rfl, rfl, new₂⟩
      · exact before.distinct s₁ db₁ conn₁ s₂ db₂ conn₂ old₁ old₂ same
      · exact absurd (same.trans new₂) (before.handle_ne_next old₁)
    · rcases works.cached_before cached₂ with old₂ | ⟨rfl, rfl, -⟩
      · exact absurd (same.symm.trans new₁) (before.handle_ne_next old₂)
      · exact ⟨rfl, rfl⟩
  · intro s
    by_cases mine : s = session
    · rw [mine, Server.setSession_self]
      exact works.keys
    · rw [Server.setSession_other _ _ _ _ mine]
      exact before.keys s
  · intro other inNames different
    refine slotAt_same (alone inNames different).same ?_ ?_
    · intro s
      by_cases mine : s = session
      · rw [mine, Server.setSession_self]
        exact works.caches other different
      · rw [Server.setSession_other _ _ _ _ mine]
    · intro s conn cached
      exact works.find cached (fun here => different here.2)

/-- The other sessions are connected to the database as they were. -/
theorem connectionsTo_other
    (works : WorksOn sqlite names config base server session db handle handler host)
    (inode : Nat) {s : Nat} (other : s ≠ session)
    : connectionsTo (server.setSession session handler host) db inode s
      = connectionsTo server db inode s := by
  unfold connectionsTo
  rw [Server.setSession_other _ _ _ _ other]
  cases cached : (server.sessions s).connection? db with
  | none => rfl
  | some conn =>
      dsimp only
      rw [Server.setSession_world, works.find cached (fun here => other here.1)]

/-- The database becomes what its files show, with the connections to it. -/
theorem becomes (works : WorksOn sqlite names config base server session db handle handler host)
    (before : AttachedServer sqlite names config base server) (apart : Unrelated names)
    (used : db ∈ names) (plain : PlainName db) {conn : Attachment} (home : conn.home = base ++ [db])
    {image : Image γ} (shows : Shows config.databasesFolder conn image host.files)
    {connections : Nat → Option Local}
    (connected
      : connectionsTo (server.setSession session handler host) db conn.inode = connections)
    : Becomes sqlite names config base server (server.setSession session handler host) db
        (.database image connections) := by
  obtain ⟨after, others⟩ := works.attached before apart used plain
  have node : host.files.nodes (base ++ [db]) = some (.file conn.inode) :=
    home ▸ shows.beside.current
  obtain ⟨parent, name⟩ := List.append_inj' home rfl
  refine ⟨after, ?_, others⟩
  unfold slotAt
  rw [Server.setSession_world, node]
  dsimp only
  rw [connected, ← shows.image, parent, List.singleton_inj.mp name]

end WorksOn

/-- A session that keeps its cache has worked on a database if its connection to it is still
good.
-/
theorem AttachedServer.worksOn (attached : AttachedServer sqlite names config base server)
    {session handle : Nat} {host : Host γ (Handles Local)}
    (done : DoneFor (attachedUse sqlite) config.databasesFolder base db server.world host)
    (elsewhere : Elsewhere handle server.world.disk host.disk)
    (mine
      : ∀ s other conn,
          (server.sessions s).connection? other = some conn
          → conn.handle = handle
          → s = session ∧ other = db)
    (clear : ∀ s : Sidecar, host.files.nodes (s.loc base db) ≠ some .dir)
    (own
      : ∀ conn,
          (server.sessions session).connection? db = some conn
          → Connected names base host db conn)
    : WorksOn sqlite names config base server session db handle (server.sessions session) host :=
  ⟨done, elsewhere, mine, clear, fun _ _ => rfl, attached.keys session,
    fun _ member => .inl member, fun conn cached => ⟨.inl cached, own conn cached⟩⟩

/-- The session's own connection to a file is the one in its cache. -/
theorem connectionsTo_own {session inode : Nat} {conn : Attachment} {opened : Opened Local}
    (cached : (server.sessions session).connection? db = some conn)
    (isOpen : server.world.disk.engine.find conn = some opened)
    : connectionsTo server db inode session
      = if conn.inode = inode then some opened.state else none := by
  unfold connectionsTo
  rw [cached]
  dsimp only
  rw [isOpen]
  rfl

theorem slotAt_none (node : server.world.files.nodes (base ++ [db]) = none)
    : slotAt base server db = .absent := by
  unfold slotAt
  rw [node]

theorem slotAt_dir (node : server.world.files.nodes (base ++ [db]) = some .dir)
    : slotAt base server db = .obstacle := by
  unfold slotAt
  rw [node]

theorem slotAt_file {inode : Nat}
    (there : server.world.files.nodes (base ++ [db]) = some (.file inode))
    : slotAt base server db
      = .database (server.world.files.imageAt base db inode) (connectionsTo server db inode) := by
  unfold slotAt
  rw [there]

-----------------------------------------------------------------------------------------
-- Queries
-----------------------------------------------------------------------------------------

/-- The session's connection to a database, if it has one, is to the file that the name denotes. -/
def NotStale (base : Loc) (server : Server (Host γ (Handles Local)) Attachment) (session : Nat)
    (db : String)
    : Prop :=
  ∀ conn,
    (server.sessions session).connection? db = some conn
    → server.world.files.nodes (base ++ [db]) = some (.file conn.inode)

/-- The files of a database are beside each other in a folder of plain files. -/
theorem AttachedServer.beside (attached : AttachedServer sqlite names config base server)
    (used : db ∈ names) {conn : Attachment} (parent : conn.parent = base) (name : conn.name = db)
    (node : server.world.files.nodes (base ++ [db]) = some (.file conn.inode))
    : Beside config.databasesFolder conn server.world.files := by
  refine ⟨parent ▸ attached.files, ?_, ?_⟩
  · rw [FileSystem.IsCurrent, Attachment.home, parent, name]
    exact node
  · intro s
    rw [Attachment.sidecar, parent, name]
    exact attached.clear db used s

/-- A query with a connection answers and leaves behind what the shared map does. -/
theorem AttachedServer.queryCached (attached : AttachedServer sqlite names config base server)
    (apart : Unrelated names) {session : Nat} {sql : String} {conn : Attachment}
    (text : trim sql ≠ "") (own : sqlite.ownText sql = true)
    (cached : (server.sessions session).connection? db = some conn)
    (node : server.world.files.nodes (base ++ [db]) = some (.file conn.inode))
    (done
      : DoneFor (attachedUse sqlite) config.databasesFolder base db server.world
          (runQuery (fileBackend (attachedEngine sqlite)) config db sql (server.sessions session)
            server.world).2.2)
    {ran : Except (Int64 × String) Value × RequestHandler Attachment × Host γ (Handles Local)}
    (runs
      : ran
        = runQuery (fileBackend (attachedEngine sqlite)) config db sql (server.sessions session)
            server.world)
    {expected : Except (Int64 × String) Value × Slot (Image γ) Local}
    (expects
      : expected
        = Slot.runOn sqlite config session sql (server.world.files.imageAt base db conn.inode)
            (connectionsTo server db conn.inode))
    : ran.1 = expected.1
      ∧ Becomes sqlite names config base server (server.setSession session ran.2.1 ran.2.2) db
          expected.2 := by
  subst runs expects
  have connected := attached.connected session db conn cached
  obtain ⟨opened, isOpen⟩ := Option.isSome_iff_exists.mp connected.isOpen
  have connection : connectionsTo server db conn.inode session = some opened.state := by
    rw [connectionsTo_own cached isOpen, if_pos rfl]
  have got
      : getConnection (fileBackend (attachedEngine sqlite)) config db (server.sessions session)
          server.world
        = (.ok conn, server.sessions session, server.world) := by
    rw [getConnection, cached]
  have finds
      : Finds config.databasesFolder conn
          (server.world.files.imageAt base db conn.inode, opened.state) server.world.disk := by
    refine ⟨⟨attached.beside connected.used connected.parent connected.name node, ?_⟩, ?_⟩
    · rw [connected.parent, connected.name]
      rfl
    · rw [isOpen, Option.map_some]
  obtain ⟨disk, same, last, apartDisk⟩ := runQuery_attached sqlite config text own got finds
  rw [same] at done ⊢
  unfold Slot.runOn
  rw [connection]
  have works
      : WorksOn sqlite names config base server session db conn.handle (server.sessions session)
          { server.world with disk := disk } := by
    refine attached.worksOn done apartDisk ?_ (connected.clear last.shows) ?_
    · intro s other conn' cached' same
      exact attached.distinct _ _ _ _ _ _ cached' cached same
    · intro conn' cached'
      obtain rfl : conn' = conn := Option.some.inj (cached'.symm.trans cached)
      refine connected.later ?_ apartDisk.next
      obtain ⟨now, found, -⟩ := Option.map_eq_some_iff.mp last.isOpen
      exact Option.isSome_iff_exists.mpr ⟨now, found⟩
  refine ⟨rfl, works.becomes attached apart connected.used connected.plain connected.home
    last.shows ?_⟩
  funext other
  by_cases mine : other = session
  · rw [if_pos mine, mine, connectionsTo, Server.setSession_self, cached]
    dsimp only
    rw [if_pos rfl]
    exact last.isOpen
  · rw [if_neg mine]
    exact works.connectionsTo_other conn.inode mine

/-- A query that opens its database answers and leaves behind what the shared map does. -/
theorem AttachedServer.queryOpened (attached : AttachedServer sqlite names config base server)
    (apart : Unrelated names) (used : db ∈ names) (plain : PlainName db) {session inode : Nat}
    {sql : String} {files : FileSystem γ} (text : trim sql ≠ "") (own : sqlite.ownText sql = true)
    (absent : (server.sessions session).connection? db = none)
    (opened
      : server.world.files.openFile sqlite.policy sqlite.empty (join config.databasesFolder db)
        = some (base ++ [db], inode, files))
    (beside : Beside config.databasesFolder ⟨base, db, inode, server.world.disk.engine.next⟩ files)
    (done
      : DoneFor (attachedUse sqlite) config.databasesFolder base db server.world
          (runQuery (fileBackend (attachedEngine sqlite)) config db sql (server.sessions session)
            server.world).2.2)
    {ran : Except (Int64 × String) Value × RequestHandler Attachment × Host γ (Handles Local)}
    (runs
      : ran
        = runQuery (fileBackend (attachedEngine sqlite)) config db sql (server.sessions session)
            server.world)
    {expected : Except (Int64 × String) Value × Slot (Image γ) Local}
    (expects
      : expected
        = Slot.runOn sqlite config session sql (files.imageAt base db inode)
            (connectionsTo server db inode))
    : ran.1 = expected.1
      ∧ Becomes sqlite names config base server (server.setSession session ran.2.1 ran.2.2) db
          expected.2 := by
  subst runs expects
  have unconnected : connectionsTo server db inode session = none := by
    rw [connectionsTo, absent]
  obtain ⟨handler, disk, image, connections, same, slot, left⟩ :=
    runQuery_opened sqlite config text own absent unconnected opened beside
  rw [same] at done ⊢
  rw [slot]
  have mine (s : Nat) (other : String) (conn : Attachment)
      (cached : (server.sessions s).connection? other = some conn)
      (same : conn.handle = server.world.disk.engine.next)
      : s = session ∧ other = db :=
    absurd same (attached.handle_ne_next cached)
  have clear (s : Sidecar) := left.shows.beside.clear s
  rcases left.kept with ⟨rfl, rfl⟩ | ⟨state, rfl, rfl, isOpen, numbered⟩
  · have works
        : WorksOn sqlite names config base server session db server.world.disk.engine.next
            (server.sessions session)
            { server.world.reach (base ++ [db]) files with disk := disk } := by
      refine attached.worksOn done left.elsewhere mine clear ?_
      intro conn cached
      exact nomatch absent.symm.trans cached
    refine ⟨rfl, works.becomes attached apart used plain rfl left.shows ?_⟩
    funext other
    by_cases this : other = session
    · rw [this, connectionsTo, Server.setSession_self, absent, unconnected]
    · exact works.connectionsTo_other inode this
  · have works
        : WorksOn sqlite names config base server session db server.world.disk.engine.next
            ((server.sessions session).insert db
              ⟨base, db, inode, server.world.disk.engine.next⟩)
            { server.world.reach (base ++ [db]) files with disk := disk } := by
      refine ⟨done, left.elsewhere, mine, clear, ?_, ?_, ?_, ?_⟩
      · intro other different
        rw [RequestHandler.connection?_insert, if_neg different]
      · refine List.nodup_cons.mpr ⟨?_, attached.keys session⟩
        intro member
        obtain ⟨entry, inList, named⟩ := List.mem_map.mp member
        have missing := List.lookup_eq_none_iff.mp absent entry inList
        exact bne_iff_ne.mp missing named.symm
      · intro found member
        rcases List.mem_cons.mp member with rfl | old
        · exact .inr ⟨rfl, rfl⟩
        · exact .inl old
      · intro conn cached
        rw [RequestHandler.connection?_insert, if_pos rfl] at cached
        obtain rfl := Option.some.inj cached
        obtain ⟨now, found, -⟩ := Option.map_eq_some_iff.mp isOpen
        exact ⟨.inr rfl, plain, used, rfl, rfl, Option.isSome_iff_exists.mpr ⟨now, found⟩,
          numbered⟩
    refine ⟨rfl, works.becomes attached apart used plain rfl left.shows ?_⟩
    funext other
    by_cases this : other = session
    · rw [if_pos this, this, connectionsTo, Server.setSession_self,
        RequestHandler.connection?_insert, if_pos rfl]
      dsimp only
      rw [if_pos rfl]
      exact isOpen
    · rw [if_neg this]
      exact works.connectionsTo_other inode this

variable (sqlite config) in
/-- What stands beside a new database is nothing to those who open it. -/
theorem Slot.runOn_empty {session : Nat} (sql : String) {image : Image γ}
    {connections : Nat → Option Local} (unconnected : connections session = none)
    (new : image.main = sqlite.empty)
    : runOn sqlite config session sql image connections
      = runOn sqlite config session sql (.alone sqlite.empty) connections := by
  have renewed {image : Image γ} (new : image.main = sqlite.empty)
      : sqlite.renew image = .alone sqlite.empty := by
    rw [Sqlite.renew, new, if_pos sqlite.isNew_empty]
  unfold runOn
  rw [unconnected]
  dsimp only
  rw [renewed new, renewed rfl]

/-- A database that has just been created is alone with what stood in the places of its sidecars. -/
theorem AttachedServer.beside_created (attached : AttachedServer sqlite names config base server)
    (used : db ∈ names) (handle : Nat)
    : Beside config.databasesFolder ⟨base, db, server.world.files.nextInode, handle⟩
        (server.world.files.createFile (base ++ [db]) sqlite.empty) := by
  refine ⟨attached.files.create db sqlite.empty,
    server.world.files.nodes_createFile_self (base ++ [db]) sqlite.empty, ?_⟩
  intro s
  have other : s.loc base db ≠ base ++ [db] := Attachment.sidecar_ne_home ⟨base, db, 0, 0⟩ s
  have same := server.world.files.nodes_createFile_other other sqlite.empty
  exact fun dir => attached.clear db used s (same.symm.trans dir)

/-- Nobody is connected to a file that is yet to be created. -/
theorem AttachedServer.connectionsTo_next
    (attached : AttachedServer sqlite names config base server) (db : String)
    : connectionsTo server db server.world.files.nextInode = fun _ => none := by
  funext s
  unfold connectionsTo
  cases cached : (server.sessions s).connection? db with
  | none => rfl
  | some conn => exact if_neg (Nat.ne_of_lt (attached.numbered cached))

/-- A query fails when its name leads to what cannot be opened. -/
theorem runQuery_obstacle {handler : RequestHandler Attachment} {host : Host γ (Handles Local)}
    {sql : String} (text : trim sql ≠ "") (absent : handler.connection? db = none)
    (closed
      : host.files.openFile sqlite.policy sqlite.empty (join config.databasesFolder db) = none)
    : runQuery (fileBackend (attachedEngine sqlite)) config db sql handler host
      = (.error (mapSqliteErr (cantOpen (join config.databasesFolder db))), handler, host) := by
  have failing
      : (fileBackend (attachedEngine sqlite)).openConnection host (join config.databasesFolder db)
        = (.error (cantOpen (join config.databasesFolder db)), host) := by
    have same
        : host.files.openFile (attachedEngine sqlite).policy (attachedEngine sqlite).empty
            (join config.databasesFolder db)
          = none :=
      closed
    change openDatabase (attachedEngine sqlite) host _ = _
    rw [openDatabase, same]
  have got
      : getConnection (fileBackend (attachedEngine sqlite)) config db handler host
        = (.error (cantOpen (join config.databasesFolder db)), handler, host) := by
    rw [getConnection, absent]
    dsimp only
    rw [failing]
  exact runQuery_failed text got

/-- A query answers and leaves behind what the shared map does, unless its connection is to a file
that has been deleted: by cases on the entry of the name.
-/
theorem AttachedServer.query (attached : AttachedServer sqlite names config base server)
    (apart : Unrelated names) (used : db ∈ names) (plain : PlainName db) {session : Nat}
    {sql : String}
    (own : sqlite.ownText sql = true) (notStale : trim sql ≠ "" → NotStale base server session db)
    {ran : Except (Int64 × String) Value × RequestHandler Attachment × Host γ (Handles Local)}
    (runs
      : ran
        = runQuery (fileBackend (attachedEngine sqlite)) config db sql (server.sessions session)
            server.world)
    {expected : Except (Int64 × String) Value × Slot (Image γ) Local}
    (expects : expected = (slotAt base server db).query sqlite config session db sql)
    : ran.1 = expected.1
      ∧ Becomes sqlite names config base server (server.setSession session ran.2.1 ran.2.2) db
          expected.2 := by
  have home (conn : Attachment) (cached : (server.sessions session).connection? db = some conn) :=
    attached.atHome.connection (denotes_plain plain) cached
  have done := (runQuery_done attachedEngine_staysHome attached.atHome.held (denotes_plain plain)
    own home).1
  unfold Slot.query at expects
  by_cases text : trim sql = ""
  · rw [if_pos text] at expects
    rw [runQuery_empty text] at runs
    subst runs expects
    exact ⟨rfl, attached.unchanged rfl⟩
  · rw [if_neg text] at expects
    have opening :=
      attached.files.folder.openFile_entry plain (attached.files.linkless db) sqlite.policy
        sqlite.empty
    have uncached (notFile : ∀ inode, server.world.files.nodes (base ++ [db]) ≠ some (.file inode))
        : (server.sessions session).connection? db = none := by
      cases cached : (server.sessions session).connection? db with
      | none => rfl
      | some conn => exact absurd (notStale text conn cached) (notFile conn.inode)
    cases node : server.world.files.nodes (base ++ [db]) with
    | none =>
        rw [node] at opening
        rw [slotAt_none node] at expects
        have empty
            : ((server.world.files.createFile (base ++ [db]) sqlite.empty).imageAt base db
                server.world.files.nextInode).main
              = sqlite.empty :=
          if_pos rfl
        refine attached.queryOpened apart used plain text own (uncached (by simp [node])) opening
          (attached.beside_created used _) done runs ?_
        rw [expects, attached.connectionsTo_next, Slot.runOn_empty sqlite config sql rfl empty]
    | some kind =>
        cases kind with
        | symlink target => exact absurd node (attached.files.linkless db target)
        | dir =>
            rw [node] at opening
            rw [runQuery_obstacle text (uncached (by simp [node])) opening] at runs
            rw [slotAt_dir node] at expects
            subst runs expects
            exact ⟨rfl, attached.unchanged (slotAt_dir node)⟩
        | file inode =>
            rw [node] at opening
            rw [slotAt_file node] at expects
            cases cached : (server.sessions session).connection? db with
            | none =>
                have beside
                    : Beside config.databasesFolder
                        ⟨base, db, inode, server.world.disk.engine.next⟩ server.world.files :=
                  attached.beside used rfl rfl node
                exact attached.queryOpened apart used plain text own cached opening beside done
                  runs expects
            | some conn =>
                have there := notStale text conn cached
                rw [node] at there
                obtain rfl : inode = conn.inode := Node.file.inj (Option.some.inj there)
                exact attached.queryCached apart text own cached node done runs expects

-----------------------------------------------------------------------------------------
-- Connections that are closed
-----------------------------------------------------------------------------------------

/-- A database whose file is removed is not there any more. -/
theorem AttachedServer.remove (attached : AttachedServer sqlite names config base server)
    (apart : Unrelated names) (used : db ∈ names) (plain : PlainName db) (session : Nat)
    {host : Host γ (Handles Local)}
    (removed : unlink server.world (join config.databasesFolder db) = some host)
    (same
      : host
        = server.world.reach (base ++ [db]) (server.world.files.setNode (base ++ [db]) none))
    : Becomes sqlite names config base server
        (server.setSession session (server.sessions session) host) db .absent := by
  have done := unlink_done attached.atHome.held (denotes_plain plain) removed
  have works
      : WorksOn sqlite names config base server session db server.world.disk.engine.next
          (server.sessions session) host := by
    subst same
    refine attached.worksOn done ⟨fun _ _ => rfl, Nat.le_refl _⟩ ?_ ?_ ?_
    · intro s other conn cached same
      exact absurd same (attached.handle_ne_next cached)
    · intro s
      have other := Attachment.sidecar_ne_home ⟨base, db, 0, 0⟩ s
      have same := server.world.files.nodes_setNode_other other none
      exact fun dir => attached.clear db used s (same.symm.trans dir)
    · intro conn cached
      have connected := attached.connected session db conn cached
      exact connected.later connected.isOpen (Nat.le_refl _)
  obtain ⟨after, others⟩ := works.attached attached apart used plain
  refine ⟨after, ?_, others⟩
  have gone : host.files.nodes (base ++ [db]) = none := by
    rw [same]
    exact server.world.files.nodes_setNode_self (base ++ [db]) none
  unfold slotAt
  rw [Server.setSession_world, gone]

/-- A session that closes its connection to a database has worked on it. -/
theorem AttachedServer.finishWorks (attached : AttachedServer sqlite names config base server)
    {session : Nat} {conn : Attachment} {image : Image γ}
    (cached : (server.sessions session).connection? db = some conn)
    (done
      : DoneFor (attachedUse sqlite) config.databasesFolder base db server.world
          { server.world with disk := server.world.disk.finish conn image })
    (clear
      : ∀ s : Sidecar,
          (server.world.disk.finish conn image).files.nodes (s.loc base db) ≠ some .dir)
    : WorksOn sqlite names config base server session db conn.handle
        ((server.sessions session).remove db)
        { server.world with disk := server.world.disk.finish conn image } := by
  refine ⟨done, ⟨fun h other => if_neg other, Nat.le_refl _⟩, ?_, clear, ?_, ?_, ?_, ?_⟩
  · intro s other conn' cached' same
    exact attached.distinct _ _ _ _ _ _ cached' cached same
  · intro other different
    rw [RequestHandler.connection?_remove, if_neg different]
  · exact (attached.keys session).sublist (List.Sublist.map Prod.fst List.filter_sublist)
  · intro entry member
    exact .inl (List.mem_of_mem_filter member)
  · intro conn' cached'
    rw [RequestHandler.connection?_remove, if_pos rfl] at cached'
    contradiction

/-- A session that has closed its connection to a database has none. -/
theorem connectionsTo_removed (session inode : Nat) (host : Host γ (Handles Local))
    : connectionsTo (server.setSession session ((server.sessions session).remove db) host) db inode
        session
      = none := by
  rw [connectionsTo, Server.setSession_self, RequestHandler.connection?_remove, if_pos rfl]

/-- The database that a connection is still to is left. -/
theorem AttachedServer.closeCurrent (attached : AttachedServer sqlite names config base server)
    (apart : Unrelated names) {session : Nat} {conn : Attachment} {opened : Opened Local}
    (cached : (server.sessions session).connection? db = some conn)
    (isOpen : server.world.disk.engine.find conn = some opened)
    (current : server.world.files.nodes (base ++ [db]) = some (.file conn.inode))
    {found : Image γ × Local} (finds : server.world.disk.get conn = some found)
    (done
      : DoneFor (attachedUse sqlite) config.databasesFolder base db server.world
          { server.world with disk := server.world.disk.finish conn (sqlite.close found) })
    : Becomes sqlite names config base server
        (server.setSession session ((server.sessions session).remove db)
          { server.world with disk := server.world.disk.finish conn (sqlite.close found) })
        db ((slotAt base server db).leave sqlite session) := by
  have connected := attached.connected session db conn cached
  have image
      : server.world.files.imageAt conn.parent conn.name conn.inode
        = server.world.files.imageAt base db conn.inode := by
    rw [connected.parent, connected.name]
  have finding
      : Finds config.databasesFolder conn
          (server.world.files.imageAt base db conn.inode, opened.state) server.world.disk :=
    ⟨⟨attached.beside connected.used connected.parent connected.name current, image⟩,
      by rw [isOpen, Option.map_some]⟩
  obtain rfl : _ = found := Option.some.inj (finding.get.symm.trans finds)
  have shows :=
    (finding.finish
      (sqlite.close (server.world.files.imageAt base db conn.inode, opened.state))).1
  have works := attached.finishWorks cached done (connected.clear shows)
  have leaves
      : (slotAt base server db).leave sqlite session
        = .database
            (sqlite.close (server.world.files.imageAt base db conn.inode, opened.state))
            (fun other =>
              if other = session then none else connectionsTo server db conn.inode other) := by
    rw [slotAt_file current, Slot.leave, connectionsTo_own cached isOpen, if_pos rfl]
  rw [leaves]
  refine works.becomes attached apart connected.used connected.plain connected.home shows ?_
  funext other
  by_cases this : other = session
  · rw [if_pos this, this, connectionsTo_removed]
  · rw [if_neg this]
    exact works.connectionsTo_other conn.inode this

/-- What a connection held of a deleted database is gone with it, and what its name denotes
stays.
-/
theorem AttachedServer.closeStale (attached : AttachedServer sqlite names config base server)
    (apart : Unrelated names) {session : Nat} {conn : Attachment} {opened : Opened Local}
    (cached : (server.sessions session).connection? db = some conn)
    (isOpen : server.world.disk.engine.find conn = some opened)
    (deleted : server.world.files.nodes (base ++ [db]) ≠ some (.file conn.inode))
    {image : Image γ}
    (done
      : DoneFor (attachedUse sqlite) config.databasesFolder base db server.world
          { server.world with disk := server.world.disk.finish conn image })
    : Becomes sqlite names config base server
        (server.setSession session ((server.sessions session).remove db)
          { server.world with disk := server.world.disk.finish conn image })
        db ((slotAt base server db).leave sqlite session) := by
  have connected := attached.connected session db conn cached
  have stale : ¬ server.world.disk.files.IsCurrent conn := by
    rw [FileSystem.IsCurrent, connected.home]
    exact deleted
  have files : (server.world.disk.finish conn image).files = server.world.files := if_neg stale
  have works := attached.finishWorks cached done
    (fun s => files ▸ attached.clear db connected.used s)
  obtain ⟨after, others⟩ := works.attached attached apart connected.used connected.plain
  refine ⟨after, ?_, others⟩
  have world
      : ({ server.world with disk := server.world.disk.finish conn image }
          : Host γ (Handles Local)).files
        = server.world.files :=
    files
  unfold slotAt
  rw [Server.setSession_world, world]
  cases node : server.world.files.nodes (base ++ [db]) with
  | none => rfl
  | some kind =>
      cases kind with
      | dir => rfl
      | symlink target => rfl
      | file inode =>
          have different : conn.inode ≠ inode := by
            rintro rfl
            exact deleted node
          have own : connectionsTo server db inode session = none := by
            rw [connectionsTo_own cached isOpen, if_neg different]
          dsimp only
          rw [Slot.leave, own]
          refine congrArg (Slot.database _) ?_
          funext other
          by_cases this : other = session
          · rw [this, connectionsTo_removed, own]
          · exact works.connectionsTo_other inode this

/-- A session that closes a connection leaves its database, if the connection is still to it. -/
theorem AttachedServer.close (attached : AttachedServer sqlite names config base server)
    (apart : Unrelated names) {session : Nat} {conn : Attachment}
    (cached : (server.sessions session).connection? db = some conn)
    : Becomes sqlite names config base server
        (server.setSession session ((server.sessions session).remove db)
          ((fileBackend (attachedEngine sqlite)).close server.world conn))
        db ((slotAt base server db).leave sqlite session) := by
  have connected := attached.connected session db conn cached
  obtain ⟨opened, isOpen⟩ := Option.isSome_iff_exists.mp connected.isOpen
  have done
      : DoneFor (attachedUse sqlite) config.databasesFolder base db server.world
          ((fileBackend (attachedEngine sqlite)).close server.world conn) :=
    Effect.doneFor connected.home attached.atHome.held
      (attachedEngine_staysHome.close server.world.disk conn)
  obtain ⟨found, finds⟩ : ∃ found, server.world.disk.get conn = some found := by
    rw [Disk.get, isOpen]
    exact ⟨_, rfl⟩
  have closing
      : (fileBackend (attachedEngine sqlite)).close server.world conn
        = { server.world with disk := server.world.disk.finish conn (sqlite.close found) } := by
    simp only [fileBackend, attachedEngine, finds]
  rw [closing] at done ⊢
  by_cases current : server.world.files.nodes (base ++ [db]) = some (.file conn.inode)
  · exact attached.closeCurrent apart cached isOpen current finds done
  · exact attached.closeStale apart cached isOpen current done

/-- A server with the same connections in its caches has the same databases. -/
theorem AttachedServer.sameCaches (attached : AttachedServer sqlite names config base server)
    (session : Nat) (handler : RequestHandler Attachment)
    (entries : ∀ found ∈ handler.databases, found ∈ (server.sessions session).databases)
    (caches
      : ∀ db, handler.connection? db = (server.sessions session).connection? db)
    (keys : (handler.databases.map Prod.fst).Nodup)
    : AttachedServer sqlite names config base (server.setSession session handler server.world)
      ∧ ∀ db,
          slotAt base (server.setSession session handler server.world) db
          = slotAt base server db := by
  have same (s : Nat) (db : String)
      : ((server.setSession session handler server.world).sessions s).connection? db
        = (server.sessions s).connection? db := by
    by_cases mine : s = session
    · rw [mine, Server.setSession_self, caches]
    · rw [Server.setSession_other _ _ _ _ mine]
  refine ⟨⟨?_, attached.clear, ?_, ?_, ?_⟩, ?_⟩
  · exact attached.atHome.setSession session attached.atHome.held
      (fun found member => .inl (entries found member))
  · intro s db conn cached
    exact attached.connected s db conn ((same s db).symm.trans cached)
  · intro s db conn s' db' conn' cached cached'
    exact attached.distinct s db conn s' db' conn' ((same s db).symm.trans cached)
      ((same s' db').symm.trans cached')
  · intro s
    by_cases mine : s = session
    · rw [mine, Server.setSession_self]
      exact keys
    · rw [Server.setSession_other _ _ _ _ mine]
      exact attached.keys s
  · intro db
    exact slotAt_same ⟨fun _ _ => rfl, fun _ _ _ _ => rfl⟩ (fun s => same s db) (fun _ _ _ => rfl)

/-- A session that has left is gone. -/
theorem Slot.leave_leave (sqlite : Sqlite γ Local Stmt) (session : Nat)
    (slot : Slot (Image γ) Local)
    : (slot.leave sqlite session).leave sqlite session = slot.leave sqlite session := by
  cases slot with
  | absent => rfl
  | obstacle => rfl
  | database data connections =>
      cases connected : connections session with
      | none => simp [leave, connected]
      | some state => simp [leave, connected]

/-- A session without connections has nothing to leave. -/
theorem leave_unconnected {session : Nat}
    (absent : (server.sessions session).connection? db = none)
    : (slotAt base server db).leave sqlite session = slotAt base server db := by
  unfold slotAt
  cases server.world.files.nodes (base ++ [db]) with
  | none => rfl
  | some kind =>
      cases kind with
      | dir => rfl
      | symlink target => rfl
      | file inode =>
          have unconnected : connectionsTo server db inode session = none := by
            rw [connectionsTo, absent]
          simp [Slot.leave, unconnected]

/-- A session that leaves closes all its connections, by induction on them. -/
theorem AttachedServer.closeAll (attached : AttachedServer sqlite names config base server)
    (apart : Unrelated names) (session : Nat)
    : AttachedServer sqlite names config base
        (server.setSession session .new
          (SqliteServer.closeAll (fileBackend (attachedEngine sqlite)) (server.sessions session)
            server.world))
      ∧ ∀ db ∈ names,
          slotAt base
              (server.setSession session .new
                (SqliteServer.closeAll (fileBackend (attachedEngine sqlite))
                  (server.sessions session) server.world))
              db
            = (slotAt base server db).leave sqlite session := by
  generalize entries : (server.sessions session).databases = databases
  induction databases generalizing server with
  | nil =>
      have none_ (db : String) : (server.sessions session).connection? db = none := by
        rw [RequestHandler.connection?, entries]
        rfl
      have unchanged
          : SqliteServer.closeAll (fileBackend (attachedEngine sqlite)) (server.sessions session)
              server.world
            = server.world := by
        rw [SqliteServer.closeAll, entries]
        rfl
      rw [unchanged]
      obtain ⟨still, slots⟩ := attached.sameCaches session .new
        (fun found member => absurd member List.not_mem_nil)
        (fun db => (none_ db).symm) List.nodup_nil
      exact ⟨still, fun db _ => (slots db).trans (leave_unconnected (none_ db)).symm⟩
  | cons entry rest ih =>
      obtain ⟨db, conn⟩ := entry
      have cached : (server.sessions session).connection? db = some conn := by
        rw [RequestHandler.connection?, entries, List.lookup_cons, beq_self_eq_true]
      have keys := attached.keys session
      rw [entries, List.map_cons, List.nodup_cons] at keys
      have others : ((server.sessions session).remove db).databases = rest := by
        rw [RequestHandler.remove, entries]
        dsimp only
        rw [List.filter_cons_of_neg (by simp), List.filter_eq_self]
        intro entry member
        rw [bne_iff_ne]
        rintro rfl
        exact keys.1 (List.mem_map.mpr ⟨entry, member, rfl⟩)
      have becomes := attached.close apart cached
      obtain ⟨still, slots⟩ := ih becomes.attached (by rw [Server.setSession_self, others])
      have twice
          : (server.setSession session ((server.sessions session).remove db)
                ((fileBackend (attachedEngine sqlite)).close server.world conn)).setSession session
                .new
              (SqliteServer.closeAll (fileBackend (attachedEngine sqlite))
                ((server.sessions session).remove db)
                ((fileBackend (attachedEngine sqlite)).close server.world conn))
            = server.setSession session .new
                (SqliteServer.closeAll (fileBackend (attachedEngine sqlite))
                  (server.sessions session) server.world) := by
        have all
            : SqliteServer.closeAll (fileBackend (attachedEngine sqlite))
                ((server.sessions session).remove db)
                ((fileBackend (attachedEngine sqlite)).close server.world conn)
              = SqliteServer.closeAll (fileBackend (attachedEngine sqlite))
                  (server.sessions session) server.world := by
          rw [SqliteServer.closeAll, SqliteServer.closeAll, others, entries, List.foldl_cons]
        rw [all, Server.setSession, Server.setSession, Server.mk.injEq]
        refine ⟨?_, rfl⟩
        funext other
        dsimp only [Server.setSession]
        split_ifs <;> rfl
      rw [Server.setSession_self, Server.setSession_world, twice] at still slots
      refine ⟨still, ?_⟩
      intro other used
      rw [slots other used]
      by_cases same : other = db
      · rw [same, becomes.here, Slot.leave_leave]
      · rw [becomes.others other used same]

end Sharing

end SqliteServer
