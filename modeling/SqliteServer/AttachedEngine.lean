import SqliteServer.BackendMaps

/-! An engine whose connections stay attached to the files they opened, whatever becomes of the
names of these. Beside each database it keeps sidecar files, and it finds them by name.
-/

namespace SqliteServer

open Files

-----------------------------------------------------------------------------------------
-- Files of a database
-----------------------------------------------------------------------------------------

/-- The files that SQLite keeps beside a database. -/
inductive Sidecar where
  | wal
  | shm
  | journal
deriving DecidableEq

def Sidecar.ending : Sidecar → String
  | .wal => "-wal"
  | .shm => "-shm"
  | .journal => "-journal"

def Sidecar.all : List Sidecar := [.wal, .shm, .journal]

/-- Where a sidecar of the database with a name in a directory is. -/
def Sidecar.loc (s : Sidecar) (parent : Loc) (name : String) : Loc := parent ++ [name ++ s.ending]

/-- What the files of a database contain: its own, and those of its sidecars that are there. -/
structure Image (γ : Type) where
  main : γ
  sidecars : Sidecar → Option γ

instance {γ : Type} [DecidableEq γ] : DecidableEq (Image γ) := fun image other =>
  decidable_of_iff
    (image.main = other.main ∧ ∀ s ∈ Sidecar.all, image.sidecars s = other.sidecars s)
    (by
      obtain ⟨main, sidecars⟩ := image
      obtain ⟨main', sidecars'⟩ := other
      rw [Image.mk.injEq]
      refine and_congr_right fun _ => ⟨fun same => ?_, fun same s _ => congrFun same s⟩
      funext s
      cases s <;> exact same _ (by decide))

/-- A database without sidecars. -/
def Image.alone {γ : Type} (main : γ) : Image γ := ⟨main, fun _ => none⟩

/-- A connection: the directory and the name under which it opened its file, the file's number, and
its own.
-/
structure Attachment where
  parent : Loc
  name : String
  inode : Nat
  handle : Nat
deriving DecidableEq

namespace Attachment

def home (conn : Attachment) : Loc := conn.parent ++ [conn.name]

def sidecar (conn : Attachment) (s : Sidecar) : Loc := s.loc conn.parent conn.name

/-- Where the parts of an image are left. -/
def parts {γ : Type} (conn : Attachment) (image : Image γ) : List (Loc × Option γ) :=
  (conn.home, some image.main)
    :: Sidecar.all.map (fun s => (conn.sidecar s, image.sidecars s))

end Attachment

/-- An open connection: its own state, and the sidecars that it holds open. -/
structure Opened (Local : Type) where
  conn : Attachment
  state : Local
  held : Sidecar → Option Nat

/-- The open connections, and an unused number. -/
structure Handles (Local : Type) where
  opened : Nat → Option (Opened Local)
  next : Nat

namespace Handles

variable {Local : Type} (handles : Handles Local)

/-- What is open as a connection. -/
def find (conn : Attachment) : Option (Opened Local) :=
  (handles.opened conn.handle).filter (fun opened => opened.conn = conn)

/-- The handles with something else, or nothing, open under a number. -/
def set (handle : Nat) (opened? : Option (Opened Local)) : Handles Local :=
  { handles with
    opened := fun other => if other = handle then opened? else handles.opened other }

end Handles

-----------------------------------------------------------------------------------------
-- SQLite
-----------------------------------------------------------------------------------------

/-- SQLite as one connection sees it: each operation finds the files of its database and the
connection's own state, and leaves both behind. How it does that is a parameter, and so is what
texts and statements do that name other files. A database that nothing was written to has no use for
sidecars.
-/
structure Sqlite (γ Local Stmt : Type) where
  policy : Policy
  empty : γ
  isNew : γ → Bool
  isNew_empty : isNew empty = true
  connect : Image γ → Except RusqliteError Local × Image γ
  executeBatch : Image γ × Local → String → Except RusqliteError Unit × Image γ × Local
  prepare : Image γ × Local → String → Except RusqliteError Stmt × Image γ × Local
  columnNames : Stmt → List String
  query : Image γ × Local → Stmt → Rows (Image γ × Local)
  close : Image γ × Local → Image γ
  ownText : String → Bool
  ownStmt : Stmt → Bool
  ownStmt_prepare
    : ∀ found sql stmt,
        ownText sql = true → (prepare found sql).1 = .ok stmt → ownStmt stmt = true
  foreignPrepare
    : Disk γ (Handles Local) → Attachment → String
      → Except RusqliteError Stmt × Disk γ (Handles Local)
  foreignQuery : Disk γ (Handles Local) → Attachment → Stmt → Rows (Disk γ (Handles Local))

/-- What a new connection finds: sidecars beside a new database are left over from another. -/
def Sqlite.renew {γ Local Stmt : Type} (sqlite : Sqlite γ Local Stmt) (image : Image γ)
    : Image γ :=
  if sqlite.isNew image.main then .alone image.main else image

/-- The error of SQLite on a connection that is closed. -/
def closedConnection : RusqliteError :=
  .sqliteFailure 21 (some "bad parameter or other API misuse") "bad parameter or other API misuse"

-----------------------------------------------------------------------------------------
-- Files that connections find and leave
-----------------------------------------------------------------------------------------

namespace Files.FileSystem

variable {γ Local : Type} (files : FileSystem γ)

/-- The number of the regular file at a location. -/
def inodeAt (loc : Loc) : Option Nat :=
  match files.nodes loc with
  | some (.file inode) => some inode
  | _ => none

/-- The files after what is at a location was written, created or removed. Nothing is done to
directories and links.
-/
def leaveAt (loc : Loc) (data? : Option γ) : FileSystem γ :=
  match files.nodes loc, data? with
  | some (.file inode), some data => files.setContents inode data
  | some (.file _), none => files.setNode loc none
  | none, some data => files.createFile loc data
  | _, _ => files

def leaveParts (parts : List (Loc × Option γ)) : FileSystem γ :=
  parts.foldl (fun files part => files.leaveAt part.1 part.2) files

/-- A connection's file still has the name under which it was opened. -/
def IsCurrent (conn : Attachment) : Prop := files.nodes conn.home = some (.file conn.inode)

instance (conn : Attachment) : Decidable (files.IsCurrent conn) :=
  inferInstanceAs (Decidable (files.nodes conn.home = some (.file conn.inode)))

/-- The files of a database: its own, and the sidecars that are found by its name. -/
def imageAt (parent : Loc) (name : String) (inode : Nat) : Image γ :=
  ⟨files.contents inode, fun s => files.contentsAt (s.loc parent name)⟩

/-- The files that a connection holds open. -/
def imageHeld (opened : Opened Local) : Image γ :=
  ⟨files.contents opened.conn.inode, fun s => (opened.held s).map files.contents⟩

/-- The files after a sidecar was left in the file that a connection holds open for it. -/
def leaveSidecar (opened : Opened Local) (image : Image γ) (s : Sidecar) : FileSystem γ :=
  match opened.held s, image.sidecars s with
  | some inode, some data => files.setContents inode data
  | _, _ => files

/-- The files after an image was left in those that a connection holds open. -/
def leaveHeld (opened : Opened Local) (image : Image γ) : FileSystem γ :=
  Sidecar.all.foldl (fun files s => files.leaveSidecar opened image s)
    (files.setContents opened.conn.inode image.main)

/-- The sidecars that a connection holds, once it has used those beside its database. -/
def heldBy (conn : Attachment) : Sidecar → Option Nat := fun s => files.inodeAt (conn.sidecar s)

end Files.FileSystem

namespace Disk

variable {γ Local : Type} (disk : Disk γ (Handles Local))

/-- What a connection finds, if it is open. One whose file has lost its name finds what it holds. -/
def get (conn : Attachment) : Option (Image γ × Local) :=
  (disk.engine.find conn).map
    (fun opened =>
      (if disk.files.IsCurrent conn then
          disk.files.imageAt conn.parent conn.name conn.inode
        else disk.files.imageHeld opened,
        opened.state))

/-- The disk after an open connection has left an image and its own state behind. -/
def leave (conn : Attachment) (left : Image γ × Local) : Disk γ (Handles Local) :=
  match disk.engine.find conn with
  | none => disk
  | some opened =>
      if disk.files.IsCurrent conn then
        let files := disk.files.leaveParts (conn.parts left.1)
        ⟨files, disk.engine.set conn.handle (some ⟨conn, left.2, files.heldBy conn⟩)⟩
      else
        ⟨disk.files.leaveHeld opened left.1,
          disk.engine.set conn.handle (some { opened with state := left.2 })⟩

/-- The disk after a connection was closed. One whose file has lost its name leaves the files as
they are.
-/
def finish (conn : Attachment) (image : Image γ) : Disk γ (Handles Local) where
  files :=
    if disk.files.IsCurrent conn then disk.files.leaveParts (conn.parts image) else disk.files
  engine := disk.engine.set conn.handle none

end Disk

-----------------------------------------------------------------------------------------
-- The engine
-----------------------------------------------------------------------------------------

section Engine

variable {γ Local Stmt : Type} (sqlite : Sqlite γ Local Stmt)

/-- Attach a new connection to a file. What is left over beside a new database is removed. -/
def Sqlite.attach (disk : Disk γ (Handles Local)) (loc : Loc) (inode : Nat)
    : Except RusqliteError Attachment × Disk γ (Handles Local) :=
  match loc.getLast? with
  | none => (.error (cantOpen ""), disk)
  | some name =>
      let conn : Attachment := ⟨loc.dropLast, name, inode, disk.engine.next⟩
      let found := sqlite.renew (disk.files.imageAt conn.parent conn.name inode)
      let renewed := disk.files.leaveParts (conn.parts found)
      match sqlite.connect found with
      | (.error err, image) =>
          (.error err, { disk with files := renewed.leaveParts (conn.parts image) })
      | (.ok state, image) =>
          let files := renewed.leaveParts (conn.parts image)
          (.ok conn,
            {
              files := files
              engine :=
                { disk.engine.set conn.handle (some ⟨conn, state, files.heldBy conn⟩) with
                  next := disk.engine.next + 1 }
            })

/-- The engine: every operation acts on the files of the connection's database, if no text or
statement names another file.
-/
def attachedEngine : Engine γ (Handles Local) Attachment Stmt where
  policy := sqlite.policy
  empty := sqlite.empty
  attach := sqlite.attach
  executeBatch := fun disk conn batch =>
    match disk.get conn with
    | none => (.error closedConnection, disk)
    | some found =>
        let ran := sqlite.executeBatch found batch
        (ran.1, disk.leave conn ran.2)
  prepare := fun disk conn sql =>
    if sqlite.ownText sql then
      match disk.get conn with
      | none => (.error closedConnection, disk)
      | some found =>
          let prepared := sqlite.prepare found sql
          (prepared.1, disk.leave conn prepared.2)
    else sqlite.foreignPrepare disk conn sql
  columnNames := sqlite.columnNames
  query := fun disk conn stmt =>
    if sqlite.ownStmt stmt then
      match disk.get conn with
      | none => .failed closedConnection disk
      | some found => (sqlite.query found stmt).map (disk.leave conn)
    else sqlite.foreignQuery disk conn stmt
  close := fun disk conn =>
    match disk.get conn with
    | none => disk
    | some found => disk.finish conn (sqlite.close found)

/-- A statement on a database: what it answers and what it leaves behind. -/
def Sqlite.runStatement (found : Image γ × Local) (sql : String)
    : Except (Int64 × String) Json.Value × Image γ × Local :=
  match sqlite.prepare found sql with
  | (.error err, left) => (.error (mapSqliteErr err), left)
  | (.ok stmt, left) =>
      match collectRows (sqlite.columnNames stmt) (sqlite.query left stmt) [] with
      | (.error err, left) => (.error (mapSqliteErr err), left)
      | (.ok rows, left) =>
          (.ok
            (.ofFields
              [
                ("columns", .array ((sqlite.columnNames stmt).map .string)),
                ("data", .array rows)
              ]),
            left)

end Engine

end SqliteServer
