import SqliteServer.Commands
import SqliteServer.Files.Folders

/-! SQLite on a file system. What the engine does to files through a connection is a parameter;
which file a path opens or removes is not.
-/

namespace SqliteServer

open Json Files

/-- The file system and the state of the engine. -/
structure Disk (γ σ : Type) where
  files : FileSystem γ
  engine : σ

/-- An engine: how it follows paths, the contents it gives a new file, and its operations. It is
attached to the file it opened by the file's location and number.
-/
structure Engine (γ σ Conn Stmt : Type) where
  policy : Policy
  empty : γ
  attach : Disk γ σ → Loc → Nat → Except RusqliteError Conn × Disk γ σ
  executeBatch : Disk γ σ → Conn → String → Except RusqliteError Unit × Disk γ σ
  prepare : Disk γ σ → Conn → String → Except RusqliteError Stmt × Disk γ σ
  columnNames : Stmt → List String
  query : Disk γ σ → Conn → Stmt → Rows (Disk γ σ)
  close : Disk γ σ → Conn → Disk γ σ

/-- A file that was opened, created or removed, and the tree it was found in. -/
structure Access where
  tree : List (Loc × Node)
  loc : Loc
deriving DecidableEq

def Access.nodes (access : Access) (loc : Loc) : Option Node := access.tree.lookup loc

/-- A disk with a record of the files reached through database names. -/
structure Host (γ σ : Type) where
  disk : Disk γ σ
  accesses : List Access

namespace Host

variable {γ σ : Type} (host : Host γ σ)

def files : FileSystem γ := host.disk.files

/-- The host after an operation on the disk. -/
def onDisk {α : Type} (result : α × Disk γ σ) : α × Host γ σ :=
  (result.1, { host with disk := result.2 })

/-- The host after the file at `loc` was reached. -/
def reach (loc : Loc) (files : FileSystem γ) : Host γ σ :=
  {
    disk := { host.disk with files := files }
    accesses := ⟨host.files.entries, loc⟩ :: host.accesses
  }

end Host

/-- The rows of a statement in a wider world. -/
def Rows.map {World World' : Type} (f : World → World') : Rows World → Rows World'
  | .done world => .done (f world)
  | .failed err world => .failed err (f world)
  | .row cells abandoned rest => .row cells (f abandoned) (rest.map f)

/-- The error when a path leads to no file that SQLite could open; rusqlite adds the path. -/
def cantOpen (path : String) : RusqliteError :=
  .sqliteFailure 14 (some ("unable to open database file: " ++ path)) "unable to open database file"

section FileBackend

variable {γ σ Conn Stmt : Type} (engine : Engine γ σ Conn Stmt)

/-- Open the file a path leads to, or create it, and attach to it. -/
def openDatabase (host : Host γ σ) (path : String) : Except RusqliteError Conn × Host γ σ :=
  match host.files.openFile engine.policy engine.empty path with
  | none => (.error (cantOpen path), host)
  | some (loc, inode, files) =>
      let reached := host.reach loc files
      reached.onDisk (engine.attach reached.disk loc inode)

/-- Remove the entry a path leads to. -/
def unlink (host : Host γ σ) (path : String) : Option (Host γ σ) :=
  (host.files.unlinkTarget path).map (fun loc => host.reach loc (host.files.setNode loc none))

def fileBackend : Backend (Host γ σ) Conn Stmt where
  pathExists := fun host path => host.files.pathExists path
  canonicalize := fun host path => host.files.canonicalize path
  readDir := fun host path =>
    (host.files.readDir path).map (List.map (fun entry => ⟨Wire.utf8Bytes entry.1, entry.2⟩))
  removeFile := unlink
  openConnection := openDatabase engine
  executeBatch := fun host conn batch => host.onDisk (engine.executeBatch host.disk conn batch)
  prepare := fun host conn sql => host.onDisk (engine.prepare host.disk conn sql)
  columnNames := engine.columnNames
  query := fun host conn stmt =>
    (engine.query host.disk conn stmt).map (fun disk => { host with disk := disk })
  close := fun host conn => { host with disk := engine.close host.disk conn }

end FileBackend

end SqliteServer
