import SqliteServer.FolderConfinement
import SqliteServer.Files.PlainFolders

/-! The files that belong to a database, and what an engine does to files that belong to another.
-/

namespace SqliteServer

open Json Files

-----------------------------------------------------------------------------------------
-- Names
-----------------------------------------------------------------------------------------

/-- The names of the files of a database: its own and those of its sidecars. -/
def ownNames (db : String) : List String := [db, db ++ "-wal", db ++ "-shm", db ++ "-journal"]

/-- One of the names is that of a file of the other. -/
def Related (db other : String) : Prop := db ∈ ownNames other ∨ other ∈ ownNames db

/-- Of the endings of one text, one is the end of the other. -/
theorem prefix_of_endings {first second ending other : String}
    (same : first ++ ending = second ++ other)
    : ending.toList.reverse <+: other.toList.reverse
      ∨ other.toList.reverse <+: ending.toList.reverse := by
  have both
      : ending.toList.reverse ++ first.toList.reverse
        = other.toList.reverse ++ second.toList.reverse := by
    rw [← List.reverse_append, ← List.reverse_append, ← String.toList_append,
      ← String.toList_append, same]
  exact List.prefix_or_prefix_of_prefix ⟨_, rfl⟩ ⟨_, both.symm⟩

/-- Two names with endings that are not ends of each other are different. -/
theorem append_ne {first second ending other : String}
    (different
      : ¬ (ending.toList.reverse <+: other.toList.reverse
        ∨ other.toList.reverse <+: ending.toList.reverse))
    : first ++ ending ≠ second ++ other :=
  fun same => different (prefix_of_endings same)

/-- Databases with a common file have related names: no two endings of sidecars clash. -/
theorem related_of_common {name db other : String} (first : name ∈ ownNames db)
    (second : name ∈ ownNames other)
    : Related db other := by
  simp only [ownNames, List.mem_cons, List.not_mem_nil, or_false] at first second
  have self {ending : String} (same : db ++ ending = other ++ ending) : Related db other := by
    rw [(String.append_left_inj ending).mp same]
    exact .inl List.mem_cons_self
  rcases first with rfl | rfl | rfl | rfl
  · exact .inl (by simpa [ownNames] using second)
  · rcases second with same | same | same | same
    · exact .inr (by simp [ownNames, ← same])
    · exact self same
    · exact absurd same (append_ne (by decide))
    · exact absurd same (append_ne (by decide))
  · rcases second with same | same | same | same
    · exact .inr (by simp [ownNames, ← same])
    · exact absurd same (append_ne (by decide))
    · exact self same
    · exact absurd same (append_ne (by decide))
  · rcases second with same | same | same | same
    · exact .inr (by simp [ownNames, ← same])
    · exact absurd same (append_ne (by decide))
    · exact absurd same (append_ne (by decide))
    · exact self same

/-- The locations of the files of the database at a location. -/
def ownFiles (loc : Loc) : List Loc :=
  match loc.getLast? with
  | none => []
  | some db => (ownNames db).map (fun name => loc.dropLast ++ [name])

theorem ownFiles_child (base : Loc) (db : String)
    : ownFiles (base ++ [db]) = (ownNames db).map (fun name => base ++ [name]) := by
  simp [ownFiles]

theorem mem_ownFiles {base : Loc} {db name : String}
    : base ++ [name] ∈ ownFiles (base ++ [db]) ↔ name ∈ ownNames db := by
  simp [ownFiles_child]

-----------------------------------------------------------------------------------------
-- Engines
-----------------------------------------------------------------------------------------

/-- Files change at the locations of one database only, and what is new is a new regular file. Only
what is there, or what the connection holds open, gets other contents.
-/
structure Within {γ : Type} (locs : List Loc) (held : Nat → Prop) (files files' : FileSystem γ)
    : Prop where
  nodes : ∀ loc, loc ∉ locs → files'.nodes loc = files.nodes loc
  regular
    : ∀ loc node,
        files'.nodes loc = some node
        → files.nodes loc = some node
          ∨ ∃ inode,
              node = .file inode ∧ files.nextInode ≤ inode ∧ inode < files'.nextInode
  fresh
    : ∀ loc loc' inode,
        files.nodes loc ≠ some (.file inode)
        → files.nodes loc' ≠ some (.file inode)
        → files'.nodes loc = some (.file inode)
        → files'.nodes loc' = some (.file inode)
        → loc = loc'
  nextInode : files.nextInode ≤ files'.nextInode
  contents
    : ∀ inode,
        inode < files.nextInode
        → ¬ held inode
        → (∀ loc ∈ locs, files.nodes loc ≠ some (.file inode))
        → files'.contents inode = files.contents inode

/-- What an engine has to do with files: where each connection was opened, which files it holds
open, and which texts and statements name no other file.
-/
structure FileUse (σ Conn Stmt : Type) where
  home : Conn → Loc
  held : σ → Conn → Nat → Prop
  ownText : String → Prop
  ownStmt : Stmt → Prop

section Use

variable {γ σ Conn Stmt : Type} (use : FileUse σ Conn Stmt)

/-- An operation changes the files of the database at a location, and connections come to hold only
files of their own databases.
-/
structure Effect (loc : Loc) (holder : Nat → Prop) (disk disk' : Disk γ σ) : Prop where
  within : Within (ownFiles loc) holder disk.files disk'.files
  held
    : ∀ conn inode,
        use.held disk'.engine conn inode
        → use.held disk.engine conn inode
          ∨ ∃ own ∈ ownFiles (use.home conn),
              disk.files.nodes own = some (.file inode)
              ∨ disk'.files.nodes own = some (.file inode)

/-- What SQLite does to files while no statement names another file: a connection changes and opens
the files of the database it was opened for, and no others.
-/
structure StaysHome (engine : Engine γ σ Conn Stmt) : Prop where
  attach
    : ∀ disk loc inode,
        disk.files.nodes loc = some (.file inode)
        → Effect use loc (fun _ => False) disk (engine.attach disk loc inode).2
          ∧ ∀ conn, (engine.attach disk loc inode).1 = .ok conn → use.home conn = loc
  executeBatch
    : ∀ disk conn config,
        Effect use (use.home conn) (use.held disk.engine conn) disk
          (engine.executeBatch disk conn (tuningBatch config)).2
  prepare
    : ∀ disk conn sql,
        use.ownText sql
        → Effect use (use.home conn) (use.held disk.engine conn) disk
            (engine.prepare disk conn sql).2
          ∧ ∀ stmt, (engine.prepare disk conn sql).1 = .ok stmt → use.ownStmt stmt
  query
    : ∀ disk conn stmt,
        use.ownStmt stmt
        → (engine.query disk conn stmt).AllWorlds
            (Effect use (use.home conn) (use.held disk.engine conn) disk)
  close
    : ∀ disk conn,
        Effect use (use.home conn) (use.held disk.engine conn) disk (engine.close disk conn)

/-- The folder has no links, and what connections hold of it are files of their own databases. -/
structure HeldAtHome (folder : String) (base : Loc) (disk : Disk γ σ) : Prop where
  files : PlainFiles folder base disk.files
  bounded
    : ∀ conn db inode,
        use.home conn = base ++ [db]
        → use.held disk.engine conn inode
        → inode < disk.files.nextInode
  own
    : ∀ conn db name inode,
        use.home conn = base ++ [db]
        → use.held disk.engine conn inode
        → disk.files.nodes (base ++ [name]) = some (.file inode)
        → name ∈ ownNames db

end Use

-----------------------------------------------------------------------------------------
-- Databases that are left alone
-----------------------------------------------------------------------------------------

/-- The files of a database are there as they were, with the same contents. -/
structure SameDatabase {γ : Type} (base : Loc) (db : String) (files files' : FileSystem γ)
    : Prop where
  nodes : ∀ name ∈ ownNames db, files'.nodes (base ++ [name]) = files.nodes (base ++ [name])
  contents
    : ∀ name ∈ ownNames db,
        ∀ inode,
          files.nodes (base ++ [name]) = some (.file inode)
          → files'.contents inode = files.contents inode

/-- What the files of a database contain, as far as they are there. -/
def ownContents {γ : Type} (base : Loc) (db : String) (files : FileSystem γ) : List (Option γ) :=
  (ownNames db).map (fun name => files.contentsAt (base ++ [name]))

/-- The files of the database contain what they did. -/
theorem SameDatabase.contentsAt {γ : Type} {base : Loc} {db name : String}
    {files files' : FileSystem γ} (same : SameDatabase base db files files')
    (own : name ∈ ownNames db)
    : files'.contentsAt (base ++ [name]) = files.contentsAt (base ++ [name]) := by
  unfold FileSystem.contentsAt
  rw [same.nodes name own]
  cases there : files.nodes (base ++ [name]) with
  | none => rfl
  | some node =>
      cases node with
      | dir => rfl
      | symlink target => rfl
      | file inode => exact congrArg some (same.contents name own inode there)

theorem SameDatabase.ownContents {γ : Type} {base : Loc} {db : String}
    {files files' : FileSystem γ} (same : SameDatabase base db files files')
    : ownContents base db files' = ownContents base db files :=
  List.map_congr_left (fun _ own => same.contentsAt own)

/-- No file of a database is opened, created, changed or removed. -/
structure LeavesAlone {γ σ : Type} (base : Loc) (db : String) (host host' : Host γ σ) : Prop where
  same : SameDatabase base db host.files host'.files
  reached
    : ∃ new,
        host'.accesses = new ++ host.accesses
        ∧ ∀ access ∈ new, ∀ name ∈ ownNames db, access.loc ≠ base ++ [name]

theorem SameDatabase.trans {γ : Type} {base : Loc} {db : String}
    {files files' files'' : FileSystem γ} (first : SameDatabase base db files files')
    (second : SameDatabase base db files' files'')
    : SameDatabase base db files files'' := by
  refine ⟨?_, ?_⟩
  · intro name own
    exact (second.nodes name own).trans (first.nodes name own)
  · intro name own inode there
    have still : files'.nodes (base ++ [name]) = some (.file inode) :=
      (first.nodes name own).trans there
    exact (second.contents name own inode still).trans (first.contents name own inode there)

theorem LeavesAlone.refl {γ σ : Type} (base : Loc) (db : String) (host : Host γ σ)
    : LeavesAlone base db host host :=
  ⟨⟨fun _ _ => rfl, fun _ _ _ _ => rfl⟩, [], rfl, by simp⟩

theorem LeavesAlone.trans {γ σ : Type} {base : Loc} {db : String} {host host' host'' : Host γ σ}
    (first : LeavesAlone base db host host') (second : LeavesAlone base db host' host'')
    : LeavesAlone base db host host'' := by
  obtain ⟨new, accesses, elsewhere⟩ := first.reached
  obtain ⟨new', accesses', elsewhere'⟩ := second.reached
  refine ⟨first.same.trans second.same, new' ++ new, ?_, ?_⟩
  · rw [accesses', accesses, List.append_assoc]
  · intro access member
    rcases List.mem_append.mp member with late | early
    · exact elsewhere' access late
    · exact elsewhere access early

/-- What is done for a database: connections hold what they held or files of their own databases,
and every database with an unrelated name is left alone.
-/
structure DoneFor {γ σ Conn Stmt : Type} (use : FileUse σ Conn Stmt) (folder : String) (base : Loc)
    (db : String) (host host' : Host γ σ) : Prop where
  held : HeldAtHome use folder base host'.disk
  alone : ∀ other, ¬ Related db other → LeavesAlone base other host host'

theorem DoneFor.trans {γ σ Conn Stmt : Type} {use : FileUse σ Conn Stmt} {folder db : String}
    {base : Loc} {host host' host'' : Host γ σ} (first : DoneFor use folder base db host host')
    (second : DoneFor use folder base db host' host'')
    : DoneFor use folder base db host host'' :=
  ⟨second.held,
    fun other unrelated => (first.alone other unrelated).trans (second.alone other unrelated)⟩

section Effects

variable {γ σ Conn Stmt : Type} {use : FileUse σ Conn Stmt} {folder db : String} {base : Loc}
  {host : Host γ σ}

theorem HeldAtHome.done (held : HeldAtHome use folder base host.disk) (db : String)
    : DoneFor use folder base db host host :=
  ⟨held, fun other _ => LeavesAlone.refl base other host⟩

/-- An engine's operation keeps the files of the folder plain. -/
theorem Within.plainFiles {files files' : FileSystem γ} {holder : Nat → Prop}
    (within : Within (ownFiles (base ++ [db])) holder files files')
    (plain : PlainFiles folder base files)
    : PlainFiles folder base files' := by
  refine ⟨plain.folder.transfer ?_, ?_, ?_, ?_⟩
  · intro front isPrefix
    refine within.nodes front ?_
    intro own
    rw [ownFiles_child] at own
    obtain ⟨name, -, same⟩ := List.mem_map.mp own
    exact PlainFolder.ne_entry isPrefix same.symm
  · intro name target there
    rcases within.regular _ _ there with was | ⟨inode, file, -⟩
    · exact plain.linkless name target was
    · contradiction
  · intro name other inode there there'
    by_cases was : files.nodes (base ++ [name]) = some (.file inode)
    · rcases within.regular _ _ there' with was' | ⟨i, file, new, -⟩
      · exact plain.single name other inode was was'
      · obtain rfl := Node.file.inj file
        exact absurd (plain.numbered name _ was) (Nat.not_lt.mpr new)
    · by_cases was' : files.nodes (base ++ [other]) = some (.file inode)
      · rcases within.regular _ _ there with same | ⟨i, file, new, -⟩
        · exact absurd same was
        · obtain rfl := Node.file.inj file
          exact absurd (plain.numbered other _ was') (Nat.not_lt.mpr new)
      · have same := within.fresh _ _ inode was was' there there'
        exact List.singleton_inj.mp (List.append_cancel_left same)
  · intro name inode there
    rcases within.regular _ _ there with was | ⟨i, file, -, bound⟩
    · exact Nat.lt_of_lt_of_le (plain.numbered name inode was) within.nextInode
    · obtain rfl := Node.file.inj file
      exact bound

/-- An engine's operation for a connection is done for its database. What it changes elsewhere it
would have to hold open, and it holds nothing elsewhere.
-/
theorem Effect.done {holder : Nat → Prop} {disk' : Disk γ σ}
    (effect : Effect use (base ++ [db]) holder host.disk disk')
    (atHome : HeldAtHome use folder base host.disk)
    (holds
      : ∀ inode,
          holder inode
          → ∃ conn, use.home conn = base ++ [db] ∧ use.held host.disk.engine conn inode)
    : DoneFor use folder base db host { host with disk := disk' } := by
  have plain := effect.within.plainFiles atHome.files
  refine ⟨⟨plain, ?_, ?_⟩, ?_⟩
  · intro conn name inode home held
    rcases effect.held conn inode held with was | ⟨own, member, there⟩
    · exact Nat.lt_of_lt_of_le (atHome.bounded conn name inode home was) effect.within.nextInode
    · rw [home, ownFiles_child] at member
      obtain ⟨ownName, -, rfl⟩ := List.mem_map.mp member
      rcases there with before | after
      · exact Nat.lt_of_lt_of_le (atHome.files.numbered ownName inode before)
          effect.within.nextInode
      · exact plain.numbered ownName inode after
  · intro conn name other inode home held there
    rcases effect.held conn inode held with was | ⟨own, member, found⟩
    · rcases effect.within.regular _ _ there with before | ⟨i, file, new, -⟩
      · exact atHome.own conn name other inode home was before
      · obtain rfl := Node.file.inj file
        exact absurd (atHome.bounded conn name inode home was) (Nat.not_lt.mpr new)
    · rw [home, ownFiles_child] at member
      obtain ⟨ownName, inOwn, rfl⟩ := List.mem_map.mp member
      rcases found with before | after
      · rcases effect.within.regular _ _ there with was | ⟨i, file, new, -⟩
        · rwa [atHome.files.single other ownName inode was before]
        · obtain rfl := Node.file.inj file
          exact absurd (atHome.files.numbered ownName inode before) (Nat.not_lt.mpr new)
      · rwa [plain.single other ownName inode there after]
  · intro other unrelated
    have elsewhere {name : String} (own : name ∈ ownNames other) : name ∉ ownNames db :=
      fun ours => unrelated (related_of_common ours own)
    refine ⟨⟨?_, ?_⟩, [], rfl, by simp⟩
    · intro name own
      exact effect.within.nodes _ (fun ours => elsewhere own (mem_ownFiles.mp ours))
    · intro name own inode there
      refine effect.within.contents inode (atHome.files.numbered name inode there) ?_ ?_
      · intro held
        obtain ⟨conn, home, holding⟩ := holds inode held
        exact elsewhere own (atHome.own conn db name inode home holding there)
      · intro loc member found
        rw [ownFiles_child] at member
        obtain ⟨ownName, inOwn, rfl⟩ := List.mem_map.mp member
        refine elsewhere own ?_
        rwa [atHome.files.single name ownName inode there found]

/-- What reaches a database by name leaves every database alone that has no file of that name. -/
theorem leavesAlone_reach {other : String} {files : FileSystem γ}
    (nodes
      : ∀ name,
          name ≠ db → files.nodes (base ++ [name]) = host.files.nodes (base ++ [name]))
    (contents
      : ∀ name inode,
          host.files.nodes (base ++ [name]) = some (.file inode)
          → files.contents inode = host.files.contents inode)
    (foreign : db ∉ ownNames other)
    : LeavesAlone base other host (host.reach (base ++ [db]) files) := by
  have elsewhere {name : String} (own : name ∈ ownNames other) : name ≠ db := by
    rintro rfl
    exact foreign own
  refine ⟨⟨?_, ?_⟩, [⟨host.files.entries, base ++ [db]⟩], rfl, ?_⟩
  · intro name own
    exact nodes name (elsewhere own)
  · intro name _ inode there
    exact contents name inode there
  · intro access member name own same
    rw [List.mem_singleton.mp member] at same
    exact elsewhere own (List.singleton_inj.mp (List.append_cancel_left same)).symm

/-- What reaches a database by name is done for it, if it leaves what others hold alone. -/
theorem HeldAtHome.reach (atHome : HeldAtHome use folder base host.disk)
    {files : FileSystem γ} (plain : PlainFiles folder base files)
    (nodes
      : ∀ name,
          name ≠ db → files.nodes (base ++ [name]) = host.files.nodes (base ++ [name]))
    (self
      : ∀ inode,
          files.nodes (base ++ [db]) = some (.file inode)
          → host.files.nodes (base ++ [db]) = some (.file inode)
            ∨ host.files.nextInode ≤ inode)
    (nextInode : host.files.nextInode ≤ files.nextInode)
    (contents
      : ∀ inode,
          inode < host.files.nextInode → files.contents inode = host.files.contents inode)
    : DoneFor use folder base db host (host.reach (base ++ [db]) files) := by
  refine ⟨⟨plain, ?_, ?_⟩, ?_⟩
  · intro conn name inode home held
    exact Nat.lt_of_lt_of_le (atHome.bounded conn name inode home held) nextInode
  · intro conn name other inode home held there
    refine atHome.own conn name other inode home held ?_
    by_cases same : other = db
    · subst same
      rcases self inode there with was | new
      · exact was
      · exact absurd (atHome.bounded conn name inode home held) (Nat.not_lt.mpr new)
    · exact (nodes other same).symm.trans there
  · intro other unrelated
    exact leavesAlone_reach nodes
      (fun name inode there => contents inode (atHome.files.numbered name inode there))
      (fun own => unrelated (.inl own))

end Effects

end SqliteServer
