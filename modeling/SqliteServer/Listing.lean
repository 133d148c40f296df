import SqliteServer.AttachedFiles
import SqliteServer.ClientErrors
import SqliteServer.DatabaseNames
import SqliteServer.FolderConfinement

/-! What `LIST` shows, against the names that the name check accepts. -/

namespace SqliteServer

open Json Files Wire Runs

-----------------------------------------------------------------------------------------
-- Names of entries
-----------------------------------------------------------------------------------------

/-- A name that the system gives to entries: no separator in it, and neither one dot nor two. -/
def IsFileName (bytes : Bytes) : Prop :=
  bytes ≠ [] ∧ bytes ≠ [0x2e] ∧ bytes ≠ [0x2e, 0x2e] ∧ 0x2f ∉ bytes

/-- The text of an entry's name is a plain name, even if some bytes are replaced. -/
theorem plainName_fromUtf8Lossy {bytes : Bytes} (fileName : IsFileName bytes)
    : PlainName (fromUtf8Lossy bytes) := by
  obtain ⟨notEmpty, notDot, notParent, noSlash⟩ := fileName
  have dot {b : UInt8} {rest : Bytes} {chars : List Char}
      (decoded : lossyFrom 0 (b :: rest) = '.' :: chars)
      : b = 0x2e ∧ lossyFrom 0 rest = chars := by
    obtain ⟨same, later⟩ := lossyFrom_ascii decoded (by decide)
    exact ⟨UInt8.toNat_inj.mp same, later⟩
  have nothing {rest : Bytes} (decoded : lossyFrom 0 rest = []) : rest = [] := by
    cases rest with
    | nil => rfl
    | cons b others => cases decoded
  have text {s : String} (same : fromUtf8Lossy bytes = s) : lossyFrom 0 bytes = s.toList := by
    rw [← same, fromUtf8Lossy, String.toList_ofList]
  refine ⟨?_, ?_, ?_, ?_⟩
  · intro empty
    exact notEmpty (nothing (text empty))
  · intro single
    cases bytes with
    | nil => exact notEmpty rfl
    | cons b rest =>
        obtain ⟨rfl, later⟩ := dot (text single)
        rw [nothing later] at notDot
        exact notDot rfl
  · intro double
    cases bytes with
    | nil => exact notEmpty rfl
    | cons b rest =>
        obtain ⟨rfl, later⟩ := dot (text double)
        cases rest with
        | nil => cases later
        | cons b' rest' =>
            obtain ⟨rfl, last⟩ := dot later
            rw [nothing last] at notParent
            exact notParent rfl
  · intro slash
    rw [fromUtf8Lossy, String.toList_ofList] at slash
    obtain ⟨b, member, same⟩ := mem_of_lossyFrom slash (by decide)
    obtain rfl : b = 0x2f := UInt8.toNat_inj.mp same
    exact noSlash member

-----------------------------------------------------------------------------------------
-- Folders
-----------------------------------------------------------------------------------------

section Folder

variable {γ σ Conn Stmt : Type} (engine : Engine γ σ Conn Stmt)
  (others : Host γ σ → String → List DirEntry) (config : Config)

/-- SQLite on a file system whose folders have other entries besides, with names that are no text
and that no path leads to.
-/
def folderBackend : Backend (Host γ σ) Conn Stmt :=
  { fileBackend engine with
    readDir := fun host path =>
      ((fileBackend engine).readDir host path).map (fun entries => entries ++ others host path) }

/-- The response to `LIST` has the name. -/
def Lists (host : Host γ σ) (name : String) : Prop :=
  ∃ items,
    (handleList (folderBackend engine others) config host).get "list" = some (.array items)
    ∧ .string name ∈ items

/-- All entries have names that a system gives. -/
structure WellNamed (host : Host γ σ) : Prop where
  texts : ∀ entry ∈ host.files.entries, ∀ name ∈ entry.1, PlainName name
  others : ∀ entry ∈ others host config.databasesFolder, IsFileName entry.fileName

/-- The name is that of a link which leads to something that is no entry of the folder. -/
def LeavingLink (files : FileSystem γ) (folder name : String) : Prop :=
  ∃ base target loc,
    files.resolve kernelPolicy folder = .found base
    ∧ files.nodes (base ++ [name]) = some (.symlink target)
    ∧ files.resolve kernelPolicy (join folder name) = .found loc
    ∧ ¬ DirectChild files.nodes folder loc

variable {engine others config} {host : Host γ σ} {name : String}

/-- What is listed is what leads to a file and does not end as a sidecar's name does. -/
theorem lists_iff
    : Lists engine others config host name
      ↔ (∃ entry ∈ ((folderBackend engine others).readDir host config.databasesFolder).getD [],
          entry.isFile = true ∧ fromUtf8Lossy entry.fileName = name)
        ∧ isSqliteSidecarFile name = false := by
  have response (items : List Value)
      : (Value.ofFields [("list", .array items)]).get "list" = some (.array items) :=
    Value.get_ofFields (by simp) (by simp)
  unfold Lists handleList
  dsimp only
  rw [response]
  simp only [Option.some.injEq, Value.array.injEq, exists_eq_left', List.mem_map,
    List.mem_filter, Value.string.injEq, Bool.not_eq_true', and_assoc]
  constructor
  · intro found
    obtain ⟨_, shown, noSidecar, rfl⟩ := found
    exact ⟨shown, noSidecar⟩
  · intro shown
    exact ⟨name, shown.1, shown.2, rfl⟩

/-- An entry that is no link is what its name leads to, if its name leads anywhere. -/
theorem resolve_noLink {base : Loc} {policy : Policy}
    (absolute : isAbsolute config.databasesFolder = true) (plain : PlainName name)
    (atBase : host.files.resolve kernelPolicy config.databasesFolder = .found base)
    (noLink : ∀ target, host.files.nodes (base ++ [name]) ≠ some (.symlink target)) {loc : Loc}
    (found : host.files.resolve policy (join config.databasesFolder name) = .found loc)
    : loc = base ++ [name] := by
  have parts : elements name = [name] := elements_of_noSlash plain.2.2.2
  obtain ⟨-, relative, -⟩ := components_of_elements parts rfl plain
  have solid : isTrivial name = false := by
    simp [isTrivial, plain.1, plain.2.1]
  have view : policy.view (elements name) = [name] := by
    rw [parts, policy.view_cons solid, policy.view_nil]
  rcases resolve_join policy absolute relative atBase (view ▸ List.cons_ne_nil name []) with
    failed | ⟨left, walked⟩
  · rw [failed] at found
    contradiction
  · rw [walked, view] at found
    by_cases dir : host.files.nodes base = some .dir
    · rw [walk_entry dir plain List.all_nil noLink] at found
      cases node : host.files.nodes (base ++ [name]) with
      | none =>
          rw [node] at found
          dsimp only at found
          split_ifs at found
      | some kind =>
          rw [node] at found
          dsimp only at found
          split_ifs at found
          exact (Outcome.found.inj found).symm
    · rw [walk_eq, walkParts, if_neg dir] at found
      contradiction

theorem accepted_of_folderBackend
    (safe : isSafeDatabaseName (folderBackend engine others) config host name = true)
    : Accepted host.files config.databasesFolder name := by
  have same : isSafeDatabaseName (fileBackend engine) config host name = true := safe
  exact accepted_of_safe same

/-- A plain name in the folder is accepted exactly if it is not that of a leaving link. -/
theorem plainName_accepted {base : Loc} (absolute : isAbsolute config.databasesFolder = true)
    (atBase : host.files.resolve kernelPolicy config.databasesFolder = .found base)
    (plain : PlainName name)
    : isSafeDatabaseName (folderBackend engine others) config host name = true
      ↔ ¬ LeavingLink host.files config.databasesFolder name := by
  constructor
  · intro safe ⟨_, target, loc, _, _, found, outside⟩
    have exists_ : host.files.pathExists (join config.databasesFolder name) = true := by
      rw [FileSystem.pathExists, found]
    have accepted : Accepted host.files config.databasesFolder name :=
      accepted_of_folderBackend safe
    obtain ⟨base', entry, atBase', atFull⟩ := accepted.child exists_
    rw [Outcome.found.inj (found.symm.trans atFull)] at outside
    exact outside ⟨base', entry, atBase', rfl⟩
  · intro stays
    cases seen : host.files.pathExists (join config.databasesFolder name) with
    | false => exact (isSafeDatabaseName_missing seen).mpr (.inl plain)
    | true =>
        obtain ⟨loc, found⟩ : ∃ loc, host.files.resolve kernelPolicy
            (join config.databasesFolder name) = .found loc := by
          unfold FileSystem.pathExists at seen
          split at seen
          · rename_i loc found
            exact ⟨loc, found⟩
          · contradiction
        -- without a link the name leads to its entry, and a link does not lead away
        have child : DirectChild host.files.nodes config.databasesFolder loc := by
          by_contra outside
          refine stays ?_
          by_cases link : ∃ target, host.files.nodes (base ++ [name]) = some (.symlink target)
          · obtain ⟨target, symlink⟩ := link
            exact ⟨base, target, loc, atBase, symlink, found, outside⟩
          · have here := resolve_noLink absolute plain atBase (not_exists.mp link) found
            exact absurd ⟨base, name, atBase, here⟩ outside
        obtain ⟨base', entry, atBase', rfl⟩ := child
        obtain rfl : base' = base := Outcome.found.inj (atBase'.symm.trans atBase)
        have folderText
            : host.files.canonicalize config.databasesFolder = some (pathText base') := by
          rw [FileSystem.canonicalize, atBase]
        have fullText
            : host.files.canonicalize (join config.databasesFolder name)
              = some (pathText (base' ++ [entry])) := by
          rw [FileSystem.canonicalize, found]
        obtain ⟨loc, same, -, allPlain⟩ := canonicalize_eq_some fullText
        obtain rfl : base' ++ [entry] = loc := Outcome.found.inj (found.symm.trans same)
        have stripped :=
          stripPrefix_child (fun part member => allPlain part (List.mem_append_left _ member))
            (allPlain entry (by simp))
        obtain ⟨nonempty, relative, one⟩ :=
          components_of_elements (elements_of_noSlash plain.2.2.2) rfl plain
        unfold isSafeDatabaseName
        rw [if_neg nonempty, relative, if_neg Bool.false_ne_true, one]
        have exists_
            : (folderBackend engine others).pathExists host (join config.databasesFolder name)
              = true :=
          seen
        have folderCanonical
            : (folderBackend engine others).canonicalize host config.databasesFolder
              = some (pathText base') :=
          folderText
        have fullCanonical
            : (folderBackend engine others).canonicalize host (join config.databasesFolder name)
              = some (pathText (base' ++ [entry])) :=
          fullText
        dsimp only
        rw [if_pos exists_, folderCanonical, fullCanonical]
        dsimp only
        rw [stripped]
        rfl

/-- Every listed name is a plain name in the folder. -/
theorem plainName_of_lists (named : WellNamed others config host)
    (lists : Lists engine others config host name)
    : PlainName name
      ∧ ∃ base, host.files.resolve kernelPolicy config.databasesFolder = .found base
          ∧ host.files.nodes base = some .dir := by
  obtain ⟨⟨entry, member, -, rfl⟩, -⟩ := lists_iff.mp lists
  dsimp only [folderBackend, fileBackend] at member
  cases read : host.files.readDir config.databasesFolder with
  | none =>
      rw [read] at member
      contradiction
  | some names =>
      rw [read] at member
      obtain ⟨base, atBase, dir⟩ := dir_of_readDir read
      refine ⟨?_, base, atBase, dir⟩
      rcases List.mem_append.mp member with text | other
      · obtain ⟨found, inNames, rfl⟩ := List.mem_map.mp text
        obtain ⟨node, inEntries⟩ := entry_of_mem_readDir atBase read inNames
        rw [fromUtf8Lossy_utf8Bytes]
        exact named.texts _ inEntries found.1 (by simp)
      · exact plainName_fromUtf8Lossy (named.others entry other)

/-- A plain name that is a regular file of the folder is listed, unless it ends as a sidecar's name
does.
-/
theorem lists_of_file {base : Loc} {inode : Nat} (plain : PlainName name)
    (noSidecar : isSqliteSidecarFile name = false)
    (atBase : host.files.resolve kernelPolicy config.databasesFolder = .found base)
    (dir : host.files.nodes base = some .dir)
    (file : host.files.nodes (base ++ [name]) = some (.file inode))
    : Lists engine others config host name := by
  obtain ⟨names, read, member⟩ := mem_readDir atBase dir plain file
  refine lists_iff.mpr ⟨⟨⟨utf8Bytes name, true⟩, ?_, rfl, fromUtf8Lossy_utf8Bytes name⟩, noSidecar⟩
  dsimp only [folderBackend, fileBackend]
  rw [read]
  exact List.mem_append_left _ (List.mem_map.mpr ⟨(name, true), member, rfl⟩)

end Folder

-----------------------------------------------------------------------------------------
-- Databases over runs
-----------------------------------------------------------------------------------------

/-- There is a regular file at a location. -/
def FileAt {γ : Type} (loc : Loc) (files : FileSystem γ) : Prop :=
  ∃ inode, files.nodes loc = some (.file inode)

/-- The engine removes no file but sidecars. -/
structure SparesDatabases {γ σ Conn Stmt : Type} (engine : Engine γ σ Conn Stmt) : Prop where
  attach
    : ∀ disk loc inode parent name,
        isSqliteSidecarFile name = false
        → FileAt (parent ++ [name]) disk.files
        → FileAt (parent ++ [name]) (engine.attach disk loc inode).2.files
  executeBatch
    : ∀ disk conn batch parent name,
        isSqliteSidecarFile name = false
        → FileAt (parent ++ [name]) disk.files
        → FileAt (parent ++ [name]) (engine.executeBatch disk conn batch).2.files
  prepare
    : ∀ disk conn sql parent name,
        isSqliteSidecarFile name = false
        → FileAt (parent ++ [name]) disk.files
        → FileAt (parent ++ [name]) (engine.prepare disk conn sql).2.files
  query
    : ∀ disk conn stmt parent name,
        isSqliteSidecarFile name = false
        → FileAt (parent ++ [name]) disk.files
        → (engine.query disk conn stmt).AllWorlds
            (fun disk' => FileAt (parent ++ [name]) disk'.files)
  close
    : ∀ disk conn parent name,
        isSqliteSidecarFile name = false
        → FileAt (parent ++ [name]) disk.files
        → FileAt (parent ++ [name]) (engine.close disk conn).files

section Runs

variable {γ σ Conn Stmt : Type} (engine : Engine γ σ Conn Stmt)
  (others : Host γ σ → String → List DirEntry) (config : Config) (serde : SerdeJson)

/-- The event is a deletion of the database that is answered with success. -/
def Deletes (db : String) (server : Server (Host γ σ) Conn) (session : Nat) (req : String)
    : Prop :=
  (∃ json, requested config serde (server.sessions session) req = some (json, .deleteDb db))
  ∧ (handleRequest (folderBackend engine others) config serde req (server.sessions session)
      server.world).1
    = resultResponse "ok"

/-- The folder is where its path leads, the database is no link in it, and if the session has the
database open, there is a file of its name.
-/
structure InPlace (base : Loc) (db : String) (server : Server (Host γ σ) Conn) (session : Nat)
    : Prop where
  folder : server.world.files.resolve kernelPolicy config.databasesFolder = .found base
  noLink : ∀ target, server.world.files.nodes (base ++ [db]) ≠ some (.symlink target)
  current
    : ∀ conn,
        (server.sessions session).connection? db = some conn
        → FileAt (base ++ [db]) server.world.files

/-- The database is not deleted, the folder stays where it is, and nobody else removes the file. -/
def Undisturbed (base : Loc) (db : String) (server : Server (Host γ σ) Conn)
    : ServerEvent (Host γ σ) → Prop
  | .request session req =>
      server.world.files.resolve kernelPolicy config.databasesFolder = .found base
      ∧ ¬ Deletes engine others config serde db server session req
  | .disconnect _ => True
  | .environment host =>
      FileAt (base ++ [db]) server.world.files → FileAt (base ++ [db]) host.files

variable {engine others config serde} {base : Loc} {name : String}

/-- Using connections keeps a database's file. -/
theorem keeps_fileAt (others : Host γ σ → String → List DirEntry) (spares : SparesDatabases engine)
    (noSidecar : isSqliteSidecarFile name = false)
    : Keeps (folderBackend engine others) (fun _ => True)
        (fun host => FileAt (base ++ [name]) host.files) where
  executeBatch := fun host conn batch _ there =>
    spares.executeBatch host.disk conn batch base name noSidecar there
  prepare := fun host conn sql _ there =>
    spares.prepare host.disk conn sql base name noSidecar there
  query := fun host conn stmt _ there =>
    Rows.allWorlds_map (f := fun disk => { host with disk := disk })
      (spares.query host.disk conn stmt base name noSidecar there)
  close := fun host conn _ there => spares.close host.disk conn base name noSidecar there

/-- Opening a database keeps the files of the others. -/
theorem opens_fileAt (spares : SparesDatabases engine)
    (noSidecar : isSqliteSidecarFile name = false) {host : Host γ σ}
    (there : FileAt (base ++ [name]) host.files) (db : String)
    : OpensOwned (folderBackend engine others) config (fun _ => True)
        (fun host => FileAt (base ++ [name]) host.files) host db := by
  refine ⟨?_, fun _ _ _ => trivial⟩
  change FileAt _ (openDatabase engine host (join config.databasesFolder db)).2.files
  rw [openDatabase]
  cases opened
    : host.files.openFile engine.policy engine.empty (join config.databasesFolder db) with
  | none => exact there
  | some file =>
      obtain ⟨loc, inode, files⟩ := file
      obtain ⟨kept, same⟩ := there
      exact spares.attach _ loc inode base name noSidecar ⟨kept, openFile_keeps opened same⟩

/-- A database that was opened is there: it is the file that its name denotes. -/
theorem fileAt_of_opened (spares : SparesDatabases engine) (plain : PlainName name)
    (noSidecar : isSqliteSidecarFile name = false)
    (absolute : isAbsolute config.databasesFolder = true) {host host' : Host γ σ} {conn : Conn}
    (atBase : host.files.resolve kernelPolicy config.databasesFolder = .found base)
    (noLink : ∀ target, host.files.nodes (base ++ [name]) ≠ some (.symlink target))
    (opened
      : (folderBackend engine others).openConnection host (join config.databasesFolder name)
        = (.ok conn, host'))
    : FileAt (base ++ [name]) host'.files := by
  change openDatabase engine host (join config.databasesFolder name) = _ at opened
  rw [openDatabase] at opened
  cases file
    : host.files.openFile engine.policy engine.empty (join config.databasesFolder name) with
  | none =>
      rw [file] at opened
      cases opened
  | some found =>
      obtain ⟨loc, inode, files⟩ := found
      rw [file] at opened
      have parts : elements name = [name] := elements_of_noSlash plain.2.2.2
      obtain ⟨-, relative, -⟩ := components_of_elements parts rfl plain
      obtain rfl : loc = base ++ [name] :=
        openTarget_entry absolute relative atBase parts rfl plain noLink
          (openTarget_of_openFile file)
      have attached :=
        spares.attach (host.reach (base ++ [name]) files).disk (base ++ [name]) inode base name
          noSidecar ⟨inode, openFile_opens file⟩
      have same := congrArg Prod.snd opened
      dsimp only at same
      rw [← same]
      exact attached

/-- Removing another name keeps the file of a database. -/
theorem unlink_fileAt {db : String} (absolute : isAbsolute config.databasesFolder = true)
    {host host' : Host γ σ}
    (atBase : host.files.resolve kernelPolicy config.databasesFolder = .found base)
    (safe : isSafeDatabaseName (folderBackend engine others) config host db = true)
    (different : db ≠ name) (there : FileAt (base ++ [name]) host.files)
    (removed : unlink host (join config.databasesFolder db) = some host')
    : FileAt (base ++ [name]) host'.files := by
  rw [unlink, Option.map_eq_some_iff] at removed
  obtain ⟨loc, removes, rfl⟩ := removed
  have accepted : Accepted host.files config.databasesFolder db :=
    accepted_of_folderBackend safe
  obtain ⟨entry, trailing, parts, trivial, plain⟩ := accepted.parts
  obtain ⟨rfl, base', atBase', rfl⟩ :=
    unlinkTarget_entry absolute accepted.relative parts trivial removes
  obtain rfl : base' = base := Outcome.found.inj (atBase'.symm.trans atBase)
  obtain rfl : db = entry :=
    elements_injective (parts.trans (elements_of_noSlash plain.2.2.2).symm)
  obtain ⟨inode, same⟩ := there
  refine ⟨inode, (host.files.nodes_setNode_other ?_ none).trans same⟩
  simpa using Ne.symm different

/-- A request that does not delete a database keeps its file. -/
theorem request_fileAt (spares : SparesDatabases engine)
    (noSidecar : isSqliteSidecarFile name = false)
    (absolute : isAbsolute config.databasesFolder = true)
    {server : Server (Host γ σ) Conn} {session : Nat} {req : String}
    (atBase : server.world.files.resolve kernelPolicy config.databasesFolder = .found base)
    (remains : ¬ Deletes engine others config serde name server session req)
    (there : FileAt (base ++ [name]) server.world.files)
    : FileAt (base ++ [name])
        (handleRequest (folderBackend engine others) config serde req (server.sessions session)
          server.world).2.2.files := by
  refine (handleRequest_keeps (keeps_fileAt others spares noSidecar) (fun _ _ _ _ => trivial) there
    (fun _ db _ _ _ _ _ => opens_fileAt spares noSidecar there db) ?_).1
  intro json db host request safe removed
  by_cases same : db = name
  · subst same
    refine absurd ⟨⟨json, request⟩, ?_⟩ remains
    rw [handleRequest_deleteDb _ request, if_pos safe, removed]
    dsimp only
    cases (server.sessions session).connection? db <;> rfl
  · exact unlink_fileAt absolute atBase safe same there removed

/-- A query that leaves its session with the database open leaves the file in the folder. -/
theorem runQuery_fileAt (spares : SparesDatabases engine) (plain : PlainName name)
    (noSidecar : isSqliteSidecarFile name = false)
    (absolute : isAbsolute config.databasesFolder = true) {handler : RequestHandler Conn}
    {host : Host γ σ} {sql : String}
    (atBase : host.files.resolve kernelPolicy config.databasesFolder = .found base)
    (noLink : ∀ target, host.files.nodes (base ++ [name]) ≠ some (.symlink target))
    (cached
      : ∀ conn, handler.connection? name = some conn → FileAt (base ++ [name]) host.files)
    {conn : Conn}
    (open'
      : (runQuery (folderBackend engine others) config name sql handler host).2.1.connection? name
        = some conn)
    : FileAt (base ++ [name])
        (runQuery (folderBackend engine others) config name sql handler host).2.2.files := by
  by_cases text : trim sql = ""
  · rw [runQuery_empty text] at open' ⊢
    exact cached conn open'
  · rw [runQuery_handler handler host text] at open'
    have gets :=
      getConnection_cases (folderBackend engine others) config name handler host
    cases got : getConnection (folderBackend engine others) config name handler host with
    | mk result rest =>
        obtain ⟨next, host'⟩ := rest
        rw [got] at open' gets
        dsimp only at open' gets
        cases gets with
        | cached conn' there =>
            exact runQuery_got (keeps_fileAt others spares noSidecar) text got trivial
              (cached _ there)
        | unopened err _ absent opened =>
            rw [absent] at open'
            contradiction
        | untuned conn' err _ _ absent opened tuned =>
            rw [absent] at open'
            contradiction
        | kept conn' host'' _ absent opened tuned =>
            have there := fileAt_of_opened spares plain noSidecar absolute atBase noLink opened
            have still :=
              (keeps_fileAt others spares noSidecar).executeBatch host'' conn'
                (tuningBatch config) trivial there
            rw [tuned] at still
            exact runQuery_got (keeps_fileAt others spares noSidecar) text got trivial still

/-- A step that does not delete a database keeps its file. -/
theorem step_fileAt (spares : SparesDatabases engine)
    (noSidecar : isSqliteSidecarFile name = false)
    (absolute : isAbsolute config.databasesFolder = true)
    {server : Server (Host γ σ) Conn} {event : ServerEvent (Host γ σ)}
    (there : FileAt (base ++ [name]) server.world.files)
    (undisturbed : Undisturbed engine others config serde base name server event)
    : FileAt (base ++ [name])
        (server.step (folderBackend engine others) config serde event).1.world.files := by
  cases event with
  | environment host => exact undisturbed there
  | disconnect session =>
      exact closeAll_keeps (keeps_fileAt others spares noSidecar)
        (fun _ _ => trivial) there
  | request session req =>
      exact request_fileAt spares noSidecar absolute undisturbed.1 undisturbed.2 there

/-- A request with the name of an accepted database is never told that it has none: by cases on the
gate and the command.
-/
theorem names_database {host : Host γ σ} {handler : RequestHandler Conn} {req : String}
    {json : Value} (parsed : parseRequest serde req = .ok json)
    (named : (json.get "db").bind Value.asStr = some name)
    (safe : isSafeDatabaseName (folderBackend engine others) config host name = true)
    : (handleRequest (folderBackend engine others) config serde req handler host).1.get
          "generic_error"
      ≠ some (jsonInt noDatabaseSpecified) := by
  have result (text : String)
      : (resultResponse text).get "generic_error" ≠ some (jsonInt noDatabaseSpecified) := by
    rw [resultResponse_keys (by decide) text]
    exact nofun
  have other {code : Int64} (different : jsonInt code ≠ jsonInt noDatabaseSpecified)
      (request : Value)
      : (genericError code request).get "generic_error" ≠ some (jsonInt noDatabaseSpecified) := by
    rw [genericError_code]
    exact fun same => different (Option.some.inj same)
  have dispatched
      : (dispatch (folderBackend engine others) config req json handler host).1.get "generic_error"
        ≠ some (jsonInt noDatabaseSpecified) := by
    unfold dispatch
    cases (json.get "cmd").bind Value.asStr with
    | none => exact other (by decide) _
    | some cmd =>
        dsimp only
        split_ifs
        · unfold handleQuery queryArguments
          rw [named]
          cases (json.get "query").bind Value.asStr with
          | none => exact other (by decide) _
          | some sql =>
              dsimp only
              rw [if_pos safe]
              dsimp only
              rw [runQuery_keys (by simp) json name sql handler host]
              exact nofun
        · have listed
              : (handleList (folderBackend engine others) config host).get "generic_error" = none :=
            Value.get_ofFields_other (by simp)
          rw [listed]
          exact nofun
        · unfold handleDeleteDb
          rw [named]
          dsimp only
          rw [if_pos safe]
          cases (folderBackend engine others).removeFile host
              (join config.databasesFolder name) with
          | none => exact result "error"
          | some host' =>
              dsimp only
              cases handler.connection? name with
              | none => exact result "ok"
              | some conn => exact result "ok"
        · exact other (by decide) _
  unfold handleRequest
  rw [parsed]
  dsimp only
  split_ifs
  · cases (json.get "auth").bind Value.asStr with
    | none => exact dispatched
    | some auth =>
        dsimp only
        split_ifs
        · exact result "ok"
        · exact dispatched
  · cases (json.get "auth").bind Value.asStr with
    | none => exact result "error"
    | some auth =>
        dsimp only
        split_ifs
        · exact result "ok"
        · exact result "error"
  · exact dispatched

/-- After a query in place that succeeds, its database is a file of the folder. -/
theorem fileAt_of_query (spares : SparesDatabases engine) (plain : PlainName name)
    (noSidecar : isSqliteSidecarFile name = false)
    (absolute : isAbsolute config.databasesFolder = true)
    {server : Server (Host γ σ) Conn} {session : Nat} {req sql : String}
    (inPlace : InPlace config base name server session)
    (completed
      : ExecutesToCompletion (folderBackend engine others) config serde (server.sessions session)
          server.world name sql req)
    : FileAt (base ++ [name])
        (server.step (folderBackend engine others) config serde
          (.request session req)).1.world.files := by
  obtain ⟨json, value, request, safe, ran⟩ := completed
  obtain ⟨conn, open'⟩ := connection?_of_runQuery ran
  rw [Server.step, Server.setSession_world, handleRequest_query _ request, if_pos safe]
  exact runQuery_fileAt spares plain noSidecar absolute inPlace.folder inPlace.noLink
    inPlace.current open'

variable (engine others config serde)

/-- What is listed is accepted by the name check unless it is a leaving link, and then no request
with the name is told that it names no database. Conversely, after a query of a plain name that
succeeds in place, the name is listed until it is deleted: every step keeps the file.
-/
theorem list_agrees (absolute : isAbsolute config.databasesFolder = true)
    : (∀ host name,
        WellNamed others config host
        → Lists engine others config host name
        → (isSafeDatabaseName (folderBackend engine others) config host name = true
            ↔ ¬ LeavingLink host.files config.databasesFolder name)
          ∧ (¬ LeavingLink host.files config.databasesFolder name
            → ∀ handler req json,
                parseRequest serde req = .ok json
                → (json.get "db").bind Value.asStr = some name
                → (handleRequest (folderBackend engine others) config serde req handler host).1.get
                      "generic_error"
                    ≠ some (jsonInt noDatabaseSpecified)))
      ∧ (SparesDatabases engine
        → ∀ host before later session req sql base name,
            PlainName name
            → isSqliteSidecarFile name = false
            → InPlace config base name
                (after (Server.step (folderBackend engine others) config serde) (.start host)
                  before)
                session
            → ExecutesToCompletion (folderBackend engine others) config serde
                ((after (Server.step (folderBackend engine others) config serde) (.start host)
                  before).sessions session)
                (after (Server.step (folderBackend engine others) config serde) (.start host)
                  before).world
                name sql req
            → Along (Server.step (folderBackend engine others) config serde)
                (Undisturbed engine others config serde base name)
                (after (Server.step (folderBackend engine others) config serde) (.start host)
                  (before ++ [.request session req]))
                later
            → (after (Server.step (folderBackend engine others) config serde) (.start host)
                  (before ++ .request session req :: later)).world.files.resolve kernelPolicy
                    config.databasesFolder
                = .found base
            → (after (Server.step (folderBackend engine others) config serde) (.start host)
                  (before ++ .request session req :: later)).world.files.nodes base
                = some .dir
            → Lists engine others config
                (after (Server.step (folderBackend engine others) config serde) (.start host)
                  (before ++ .request session req :: later)).world
                name) := by
  refine ⟨?_, ?_⟩
  · intro host name named lists
    obtain ⟨plain, base, atBase, -⟩ := plainName_of_lists named lists
    have accepted
        : isSafeDatabaseName (folderBackend engine others) config host name = true
          ↔ ¬ LeavingLink host.files config.databasesFolder name :=
      plainName_accepted absolute atBase plain
    exact ⟨accepted, fun stays handler req json parsed about =>
      names_database parsed about (accepted.mpr stays)⟩
  · intro spares host before later session req sql base name plain noSidecar inPlace completed
      undisturbed atBase dir
    have created := fileAt_of_query spares plain noSidecar absolute inPlace completed
    have split
        : before ++ .request session req :: later
          = (before ++ [.request session req]) ++ later := by
      rw [List.append_assoc, List.singleton_append]
    rw [split, after_append] at atBase dir ⊢
    rw [after_append] at undisturbed atBase dir ⊢
    obtain ⟨inode, file⟩ := Along.invariant
      (I := fun server => FileAt (base ++ [name]) server.world.files)
      (fun _ _ there allowed => step_fileAt spares noSidecar absolute there allowed)
      created undisturbed
    exact lists_of_file plain noSidecar atBase dir file

end Runs

-----------------------------------------------------------------------------------------
-- Attached connections
-----------------------------------------------------------------------------------------

section Attached

variable {γ Local Stmt : Type} {sqlite : Sqlite γ Local Stmt} {loc : Loc} {files : FileSystem γ}

theorem isSqliteSidecarFile_ending (name : String) (s : Sidecar)
    : isSqliteSidecarFile (name ++ s.ending) = true := by
  have ends : endsWith (name ++ s.ending) s.ending = true := by
    rw [endsWith, String.toList_append, List.isSuffixOf_iff_suffix]
    exact List.suffix_append _ _
  unfold isSqliteSidecarFile
  cases s with
  | wal => rw [show endsWith (name ++ Sidecar.wal.ending) "-wal" = true from ends]; rfl
  | shm =>
      rw [show endsWith (name ++ Sidecar.shm.ending) "-shm" = true from ends, Bool.or_true]; rfl
  | journal =>
      rw [show endsWith (name ++ Sidecar.journal.ending) "-journal" = true from ends, Bool.or_true]

/-- A file stays when parts are left, unless it is one that is removed: by induction on the
parts.
-/
theorem FileAt.leaveParts {parts : List (Loc × Option γ)} (there : FileAt loc files)
    (stays : ∀ part ∈ parts, part.1 = loc → part.2.isSome = true)
    : FileAt loc (files.leaveParts parts) := by
  induction parts generalizing files with
  | nil => exact there
  | cons part rest ih =>
      refine ih ?_ (fun later member => stays later (List.mem_cons_of_mem _ member))
      dsimp only
      by_cases same : part.1 = loc
      · obtain ⟨inode, node⟩ := there
        obtain ⟨data, left⟩ := Option.isSome_iff_exists.mp (stays part List.mem_cons_self same)
        rw [left, same]
        unfold FileSystem.leaveAt
        rw [node]
        exact ⟨inode, node⟩
      · obtain ⟨inode, node⟩ := there
        exact ⟨inode, (nodes_leaveAt_other (Ne.symm same) part.2).trans node⟩

/-- Of the parts of an image only sidecars are ever removed. -/
theorem FileAt.leaveImage {parent : Loc} {name : String} (there : FileAt (parent ++ [name]) files)
    (noSidecar : isSqliteSidecarFile name = false) (conn : Attachment) (image : Image γ)
    : FileAt (parent ++ [name]) (files.leaveParts (conn.parts image)) := by
  refine there.leaveParts ?_
  intro part member same
  rcases List.mem_cons.mp member with rfl | beside
  · rfl
  · obtain ⟨s, -, rfl⟩ := List.mem_map.mp beside
    have names := List.singleton_inj.mp (List.append_inj_right' same rfl)
    rw [← names, isSqliteSidecarFile_ending] at noSidecar
    contradiction

theorem FileAt.leave {parent : Loc} {name : String} {disk : Disk γ (Handles Local)}
    (there : FileAt (parent ++ [name]) disk.files) (noSidecar : isSqliteSidecarFile name = false)
    (conn : Attachment) (left : Image γ × Local)
    : FileAt (parent ++ [name]) (disk.leave conn left).files := by
  unfold Disk.leave
  cases disk.engine.find conn with
  | none => exact there
  | some opened =>
      dsimp only
      split_ifs
      · exact there.leaveImage noSidecar conn left.1
      · obtain ⟨inode, node⟩ := there
        have within : Within [] (fun _ => True) disk.files (disk.files.leaveHeld opened left.1) :=
          within_leaveHeld [] trivial (fun _ _ _ => trivial) disk.files left.1
        exact ⟨inode, (within.nodes _ List.not_mem_nil).trans node⟩

/-- Attached connections remove no file but sidecars, if no text names another file. -/
theorem attachedEngine_spares (ownText : ∀ sql, sqlite.ownText sql = true)
    (ownStmt : ∀ stmt, sqlite.ownStmt stmt = true)
    : SparesDatabases (attachedEngine sqlite) where
  attach disk loc inode parent name noSidecar there := by
    change FileAt (parent ++ [name]) (sqlite.attach disk loc inode).2.files
    unfold Sqlite.attach
    cases loc.getLast? with
    | none => exact there
    | some entry =>
        dsimp only
        generalize sqlite.renew (disk.files.imageAt loc.dropLast entry inode) = found
        have left (conn : Attachment) (image : Image γ) :=
          (there.leaveImage noSidecar conn found).leaveImage noSidecar conn image
        cases sqlite.connect found with
        | mk result image => cases result <;> exact left _ image
  executeBatch disk conn batch parent name noSidecar there := by
    unfold attachedEngine
    dsimp only
    cases disk.get conn with
    | none => exact there
    | some found => exact there.leave noSidecar conn _
  prepare disk conn sql parent name noSidecar there := by
    unfold attachedEngine
    dsimp only
    rw [if_pos (ownText sql)]
    cases disk.get conn with
    | none => exact there
    | some found => exact there.leave noSidecar conn _
  query disk conn stmt parent name noSidecar there := by
    unfold attachedEngine
    dsimp only
    rw [if_pos (ownStmt stmt)]
    cases disk.get conn with
    | none => exact there
    | some found =>
        dsimp only
        generalize sqlite.query found stmt = rows
        induction rows with
        | done left => exact there.leave noSidecar conn left
        | failed err left => exact there.leave noSidecar conn left
        | row cells abandoned rest ih => exact ⟨there.leave noSidecar conn abandoned, ih⟩
  close disk conn parent name noSidecar there := by
    unfold attachedEngine
    dsimp only
    cases disk.get conn with
    | none => exact there
    | some found =>
        unfold Disk.finish
        dsimp only
        split_ifs
        · exact there.leaveImage noSidecar conn _
        · exact there

end Attached

-----------------------------------------------------------------------------------------
-- Concrete folders
-----------------------------------------------------------------------------------------

/-- A folder without entries whose names are no text. -/
def noOthers : Host Unit Unit → String → List DirEntry := fun _ _ => []

/-- A query that was let through and ran was executed to completion. -/
theorem executesToCompletion_of_ran {World Conn Stmt : Type} {backend : Backend World Conn Stmt}
    {config : Config} {serde : SerdeJson} {handler : RequestHandler Conn} {world : World}
    {db sql req : String}
    (command : (requested config serde handler req).map Prod.snd = some (.query db sql))
    (safe : isSafeDatabaseName backend config world db = true)
    (ran : (runQuery backend config db sql handler world).1.toBool = true)
    : ExecutesToCompletion backend config serde handler world db sql req := by
  obtain ⟨⟨json, _⟩, request, rfl⟩ := Option.map_eq_some_iff.mp command
  cases result : (runQuery backend config db sql handler world).1 with
  | error err =>
      rw [result] at ran
      contradiction
  | ok value => exact ⟨json, value, request, safe, result⟩

theorem not_lists_of_nil {config : Config} {host : Host Unit Unit} {name : String}
    (nothing
      : (handleList (folderBackend idleEngine noOthers) config host).get "list"
        = some (.array []))
    : ¬ Lists idleEngine noOthers config host name := by
  intro ⟨items, listed, member⟩
  obtain rfl : [] = items := Value.array.inj (Option.some.inj (nothing.symm.trans listed))
  contradiction

/-- A database that a query creates is listed while another session uses it, also after another
database was deleted and the connections are gone.
-/
theorem list_agrees_created
    : Lists (attachedEngine walSqlite) (fun _ _ => []) (.standard "/srv/sqlite" "")
        (after
          (Server.step (folderBackend (attachedEngine walSqlite) (fun _ _ => []))
            (.standard "/srv/sqlite" "") unsignedReader)
          (.start emptyFolder)
          [
            .request 1 (queryOf "other" "SELECT 1"),
            .request 0 (queryOf "mydb" "CREATE TABLE t(x)"),
            .request 1 (queryOf "mydb" "SELECT x FROM t"),
            .request 1 (deletionOf "other"),
            .disconnect 0,
            .disconnect 1
          ]).world
        "mydb" := by
  have keeps {server : Server (Host Page (Handles Bool)) Attachment} {session : Nat} {req : String}
      (command : Command)
      (asks
        : (requested (.standard "/srv/sqlite" "") unsignedReader (server.sessions session)
            req).map Prod.snd
          = some command)
      (different : command ≠ .deleteDb "mydb")
      : ¬ Deletes (attachedEngine walSqlite) (fun _ _ => []) (.standard "/srv/sqlite" "")
          unsignedReader "mydb" server session req := by
    rintro ⟨⟨json, deletes⟩, -⟩
    rw [deletes] at asks
    exact different (Option.some.inj asks).symm
  have absent
      : (after
          (Server.step (folderBackend (attachedEngine walSqlite) (fun _ _ => []))
            (.standard "/srv/sqlite" "") unsignedReader)
          (.start emptyFolder)
          [.request 1 (queryOf "other" "SELECT 1")]).world.files.nodes
            (["srv", "sqlite"] ++ ["mydb"])
        = none := by
    decide +kernel
  have unopened
      : ((after
          (Server.step (folderBackend (attachedEngine walSqlite) (fun _ _ => []))
            (.standard "/srv/sqlite" "") unsignedReader)
          (.start emptyFolder)
          [.request 1 (queryOf "other" "SELECT 1")]).sessions 0).connection? "mydb"
        = none := by
    decide +kernel
  refine (list_agrees (attachedEngine walSqlite) (fun _ _ => []) (.standard "/srv/sqlite" "")
    unsignedReader (by decide)).2 (attachedEngine_spares (fun _ => rfl) (fun _ => rfl)) emptyFolder
    [.request 1 (queryOf "other" "SELECT 1")]
    [
      .request 1 (queryOf "mydb" "SELECT x FROM t"),
      .request 1 (deletionOf "other"),
      .disconnect 0,
      .disconnect 1
    ] 0 (queryOf "mydb" "CREATE TABLE t(x)") "CREATE TABLE t(x)" ["srv", "sqlite"] "mydb"
    (by decide) (by decide) ⟨?_, ?_, ?_⟩ ?_
    ⟨⟨?_, keeps (.query "mydb" "SELECT x FROM t") ?_ (by decide)⟩,
      ⟨?_, keeps (.deleteDb "other") ?_ (by decide)⟩, trivial, trivial, trivial⟩ ?_ ?_
  · decide +kernel
  · intro target link
    exact absurd (absent.symm.trans link) (by simp)
  · intro conn cached
    exact absurd (unopened.symm.trans cached) (by simp)
  · exact executesToCompletion_of_ran (by decide +kernel) (by decide +kernel) (by decide +kernel)
  · decide +kernel
  · decide +kernel
  · decide +kernel
  · decide +kernel
  · decide +kernel
  · decide +kernel

/-- A link that leads out of the folder is listed and rejected. A database with a sidecar's name or
with a trailing separator can be queried and is not listed, and neither is a link once what it leads
to has been deleted, nor what a session still has open of a database that another session deleted.
-/
theorem list_disagrees
    : (¬ ∀ host name,
          WellNamed noOthers (.standard "/srv/sqlite" "") host
          → Lists idleEngine noOthers (.standard "/srv/sqlite" "") host name
          → isSafeDatabaseName (folderBackend idleEngine noOthers) (.standard "/srv/sqlite" "") host
                name
              = true)
      ∧ (¬ ∀ host name,
          ExecutesToCompletion (folderBackend idleEngine noOthers) (.standard "/srv/sqlite" "")
            unsignedReader .new host name "SELECT 1" (queryOf name "SELECT 1")
          → Lists idleEngine noOthers (.standard "/srv/sqlite" "")
              (after
                (Server.step (folderBackend idleEngine noOthers) (.standard "/srv/sqlite" "")
                  unsignedReader)
                (.start host) [.request 0 (queryOf name "SELECT 1")]).world
              name)
      ∧ (¬ ∀ host name other,
          name ≠ other
          → ExecutesToCompletion (folderBackend idleEngine noOthers) (.standard "/srv/sqlite" "")
              unsignedReader .new host name "SELECT 1" (queryOf name "SELECT 1")
          → Lists idleEngine noOthers (.standard "/srv/sqlite" "")
              (after
                (Server.step (folderBackend idleEngine noOthers) (.standard "/srv/sqlite" "")
                  unsignedReader)
                (.start host)
                [.request 0 (queryOf name "SELECT 1"), .request 0 (deletionOf other)]).world
              name)
      ∧ (¬ ∀ host name,
          isSqliteSidecarFile name = false
          → ExecutesToCompletion (folderBackend idleEngine noOthers) (.standard "/srv/sqlite" "")
              unsignedReader .new host name "SELECT 1" (queryOf name "SELECT 1")
          → Lists idleEngine noOthers (.standard "/srv/sqlite" "")
              (after
                (Server.step (folderBackend idleEngine noOthers) (.standard "/srv/sqlite" "")
                  unsignedReader)
                (.start host) [.request 0 (queryOf name "SELECT 1")]).world
              name)
      ∧ (¬ ∀ host before name,
          PlainName name
          → isSqliteSidecarFile name = false
          → ExecutesToCompletion (folderBackend idleEngine noOthers) (.standard "/srv/sqlite" "")
              unsignedReader
              ((after
                (Server.step (folderBackend idleEngine noOthers) (.standard "/srv/sqlite" "")
                  unsignedReader)
                (.start host) before).sessions 0)
              (after
                (Server.step (folderBackend idleEngine noOthers) (.standard "/srv/sqlite" "")
                  unsignedReader)
                (.start host) before).world
              name "SELECT 1" (queryOf name "SELECT 1")
          → Lists idleEngine noOthers (.standard "/srv/sqlite" "")
              (after
                (Server.step (folderBackend idleEngine noOthers) (.standard "/srv/sqlite" "")
                  unsignedReader)
                (.start host) (before ++ [.request 0 (queryOf name "SELECT 1")])).world
              name) := by
  refine ⟨?_, ?_, ?_, ?_, ?_⟩
  · intro claim
    have accepted := claim
      (hostWith [(["etc", "passwd"], .file 0), (["srv", "sqlite", "out"], .symlink "/etc/passwd")])
      "out"
      ⟨by decide, by intro entry member; contradiction⟩
      ⟨[.string "out"], by decide +kernel, by decide⟩
    exact absurd accepted (by decide +kernel)
  · intro claim
    exact not_lists_of_nil (by decide +kernel) (claim (hostWith []) "my-wal"
      (executesToCompletion_of_ran (by decide +kernel) (by decide +kernel) (by decide +kernel)))
  · intro claim
    exact not_lists_of_nil (by decide +kernel) (claim
      (hostWith [(["srv", "sqlite", "old"], .file 0), (["srv", "sqlite", "same"], .symlink "old")])
      "same" "old" (by decide)
      (executesToCompletion_of_ran (by decide +kernel) (by decide +kernel) (by decide +kernel)))
  · intro claim
    have listed := claim (hostWith []) "mydb/" (by decide)
      (executesToCompletion_of_ran (by decide +kernel) (by decide +kernel) (by decide +kernel))
    obtain ⟨items, found, member⟩ := listed
    have only
        : (handleList (folderBackend idleEngine noOthers) (.standard "/srv/sqlite" "")
              (after
                (Server.step (folderBackend idleEngine noOthers) (.standard "/srv/sqlite" "")
                  unsignedReader)
                (.start (hostWith [])) [.request 0 (queryOf "mydb/" "SELECT 1")]).world).get "list"
          = some (.array [.string "mydb"]) := by
      decide +kernel
    obtain rfl : [.string "mydb"] = items :=
      Value.array.inj (Option.some.inj (only.symm.trans found))
    exact absurd member (by decide)
  · intro claim
    exact not_lists_of_nil (by decide +kernel) (claim (hostWith [])
      [.request 0 (queryOf "mydb" "SELECT 1"), .request 1 (deletionOf "mydb")] "mydb" (by decide)
      (by decide)
      (executesToCompletion_of_ran (by decide +kernel) (by decide +kernel) (by decide +kernel)))

end SqliteServer
