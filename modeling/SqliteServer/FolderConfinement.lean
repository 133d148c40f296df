import SqliteServer.FileBackend

/-! Which files the server reaches through database names. -/

namespace SqliteServer

open Json Files Runs

-----------------------------------------------------------------------------------------
-- Accepted names
-----------------------------------------------------------------------------------------

section Names

variable {γ σ Conn Stmt : Type} {engine : Engine γ σ Conn Stmt} {config : Config}
  {host : Host γ σ} {files : FileSystem γ} {folder name : String} {policy : Policy} {loc : Loc}

/-- What the name check has found out about a name that it accepts. -/
structure Accepted (files : FileSystem γ) (folder name : String) : Prop where
  relative : isAbsolute name = false
  parts
    : ∃ entry trailing,
        elements name = entry :: trailing
        ∧ trailing.all isTrivial = true
        ∧ PlainName entry
  child
    : files.pathExists (join folder name) = true
      → ∃ base entry,
          files.resolve kernelPolicy folder = .found base
          ∧ files.resolve kernelPolicy (join folder name) = .found (base ++ [entry])

theorem accepted_of_safe
    (safe : isSafeDatabaseName (fileBackend engine) config host name = true)
    : Accepted host.files config.databasesFolder name := by
  unfold isSafeDatabaseName at safe
  split at safe
  · contradiction
  · rename_i nonempty
    split at safe
    · contradiction
    · rename_i relative
      rw [Bool.not_eq_true] at relative
      split at safe
      · rename_i entry one
        refine ⟨relative, ?_, ?_⟩
        · obtain ⟨trailing, parts⟩ := elements_of_components relative nonempty one
          exact ⟨entry, trailing, parts⟩
        · intro exists_
          have seen
              : (fileBackend engine).pathExists host (join config.databasesFolder name) = true :=
            exists_
          dsimp only at safe
          rw [if_pos seen] at safe
          split at safe
          · rename_i folderText fullText atFolder atFull
            obtain ⟨base, atBase, rfl, basePlain⟩ := canonicalize_eq_some atFolder
            obtain ⟨loc, atLoc, rfl, locPlain⟩ := canonicalize_eq_some atFull
            split at safe
            · rename_i rel stripped
              obtain ⟨child, rfl⟩ :=
                child_of_stripPrefix locPlain basePlain stripped (of_decide_eq_true safe)
              exact ⟨base, child, atBase, atLoc⟩
            · contradiction
          · contradiction
      · contradiction

/-- The name of an entry that is a link, which the check takes for a missing file, while opening
it leads out of the folder.
-/
structure EscapingLink (policy : Policy) (files : FileSystem γ) (folder name : String) : Prop where
  link
    : ∃ base entry trailing target,
        files.resolve kernelPolicy folder = .found base
        ∧ elements name = entry :: trailing
        ∧ files.nodes (base ++ [entry]) = some (.symlink target)
  unseen : files.pathExists (join folder name) = false
  leaves
    : ∃ loc,
        files.openTarget policy (join folder name) = some loc
        ∧ ¬ DirectChild files.nodes folder loc

/-- Opening an accepted name opens a child of the folder unless it is that of an escaping link.
What the check has seen is what is opened; what it has not seen is opened where it stands, unless
it is a link.
-/
theorem openTarget_accepted {base : Loc} (absolute : isAbsolute folder = true)
    (atBase : files.resolve kernelPolicy folder = .found base)
    (accepted : Accepted files folder name)
    (opens : files.openTarget policy (join folder name) = some loc)
    : DirectChild files.nodes folder loc ↔ ¬ EscapingLink policy files folder name := by
  constructor
  · intro child escaping
    obtain ⟨other, opensOther, outside⟩ := escaping.leaves
    rw [Option.some.inj (opens.symm.trans opensOther)] at child
    exact outside child
  · intro noEscape
    cases seen : files.pathExists (join folder name) with
    | true =>
        obtain ⟨found, entry, atFound, atFull⟩ := accepted.child seen
        exact ⟨found, entry, atFound, openTarget_of_found atFull opens⟩
    | false =>
        obtain ⟨entry, trailing, parts, trivial, plain⟩ := accepted.parts
        by_cases link : ∃ target, files.nodes (base ++ [entry]) = some (.symlink target)
        · obtain ⟨target, symlink⟩ := link
          by_contra outside
          exact noEscape
            ⟨⟨base, entry, trailing, target, atBase, parts, symlink⟩, seen, loc, opens, outside⟩
        · exact ⟨base, entry, atBase,
            openTarget_entry absolute accepted.relative atBase parts trivial plain
              (fun target symlink => link ⟨target, symlink⟩) opens⟩

/-- Removing an accepted name removes a child of the folder. -/
theorem unlinkTarget_accepted (absolute : isAbsolute folder = true)
    (accepted : Accepted files folder name)
    (removes : files.unlinkTarget (join folder name) = some loc)
    : DirectChild files.nodes folder loc := by
  obtain ⟨entry, trailing, parts, trivial, -⟩ := accepted.parts
  obtain ⟨-, base, atBase, child⟩ :=
    unlinkTarget_entry absolute accepted.relative parts trivial removes
  exact ⟨base, entry, atBase, child⟩

end Names

-----------------------------------------------------------------------------------------
-- Runs
-----------------------------------------------------------------------------------------

/-- Every file that was reached was a child of the folder. -/
def Confined {γ σ : Type} (folder : String) (host : Host γ σ) : Prop :=
  ∀ access ∈ host.accesses, DirectChild access.nodes folder access.loc

/-- Mapped rows end in mapped worlds, by induction on the rows. -/
theorem Rows.allWorlds_map {World World' : Type} {I : World' → Prop} {f : World → World'}
    {rows : Rows World} (all : rows.AllWorlds (fun world => I (f world)))
    : (rows.map f).AllWorlds I := by
  induction rows with
  | done world => exact all
  | failed err world => exact all
  | row cells abandoned rest ih => exact ⟨all.1, ih all.2⟩

theorem Rows.allWorlds_of_forall {World : Type} {I : World → Prop} (all : ∀ world, I world)
    (rows : Rows World)
    : rows.AllWorlds I := by
  induction rows with
  | done world => exact all world
  | failed err world => exact all world
  | row cells abandoned rest ih => exact ⟨all abandoned, ih⟩

section Server

variable {γ σ Conn Stmt : Type} (engine : Engine γ σ Conn Stmt) (config : Config)
  (serde : SerdeJson)

/-- No query opens an escaping link, and the folder of the databases is there. The environment may
change everything but what was reached.
-/
def NoEscape (server : Server (Host γ σ) Conn) : ServerEvent (Host γ σ) → Prop
  | .request session req =>
      ∀ json db sql,
        requested config serde (server.sessions session) req = some (json, .query db sql)
        → isSafeDatabaseName (fileBackend engine) config server.world db = true
        → trim sql ≠ ""
        → (server.sessions session).connection? db = none
        → (∃ base, server.world.files.resolve kernelPolicy config.databasesFolder = .found base)
          ∧ ¬ EscapingLink engine.policy server.world.files config.databasesFolder db
  | .disconnect _ => True
  | .environment host => host.accesses = server.world.accesses

variable {engine config serde}

/-- Statements do not change which files were reached by name. -/
theorem keeps_confined
    : Keeps (fileBackend engine) (fun _ => True) (Confined config.databasesFolder) where
  executeBatch := fun _ _ _ _ holds => holds
  prepare := fun _ _ _ _ holds => holds
  query := fun host conn stmt _ holds =>
    Rows.allWorlds_map (f := fun disk => { host with disk := disk })
      (Rows.allWorlds_of_forall (fun _ => holds) (engine.query host.disk conn stmt))
  close := fun _ _ _ holds => holds

/-- Reaching a child of the folder keeps everything confined. -/
theorem confined_reach {folder : String} {host : Host γ σ} {loc : Loc}
    (child : DirectChild host.files.nodes folder loc) (holds : Confined folder host)
    (files : FileSystem γ)
    : Confined folder (host.reach loc files) := by
  intro access member
  rcases List.mem_cons.mp member with rfl | old
  · exact child
  · exact holds access old

/-- A step that meets no escaping link keeps everything confined. -/
theorem step_confined (absolute : isAbsolute config.databasesFolder = true)
    {server : Server (Host γ σ) Conn} {event : ServerEvent (Host γ σ)}
    (holds : Confined config.databasesFolder server.world)
    (noEscape : NoEscape engine config serde server event)
    : Confined config.databasesFolder
        (server.step (fileBackend engine) config serde event).1.world := by
  cases event with
  | environment host =>
      intro access member
      exact holds access (noEscape ▸ member)
  | disconnect session =>
      exact closeAll_keeps keeps_confined (fun _ _ => trivial) holds
  | request session req =>
      refine (handleRequest_keeps keeps_confined (fun _ _ _ _ => trivial) holds ?_ ?_).1
      · intro json db sql request safe nonempty fresh
        obtain ⟨⟨base, atBase⟩, inside⟩ := noEscape json db sql request safe nonempty fresh
        refine ⟨?_, fun _ _ _ => trivial⟩
        change Confined _ (openDatabase engine server.world (join config.databasesFolder db)).2
        rw [openDatabase]
        cases opened : server.world.files.openFile engine.policy engine.empty
            (join config.databasesFolder db) with
        | none => exact holds
        | some file =>
            have child : DirectChild server.world.files.nodes config.databasesFolder file.1 :=
              (openTarget_accepted absolute atBase (accepted_of_safe safe)
                (openTarget_of_openFile opened)).mpr inside
            exact confined_reach child holds file.2.2
      · intro json db host request safe removed
        change unlink server.world (join config.databasesFolder db) = some host at removed
        rw [unlink, Option.map_eq_some_iff] at removed
        obtain ⟨loc, removes, rfl⟩ := removed
        exact confined_reach (unlinkTarget_accepted absolute (accepted_of_safe safe) removes)
          holds _

/-- In every run that meets no escaping link, everything reached by name is a child of the
folder: by induction on the events.
-/
theorem accesses_confined (absolute : isAbsolute config.databasesFolder = true)
    (server : Server (Host γ σ) Conn) (start : server.world.accesses = [])
    (events : List (ServerEvent (Host γ σ)))
    (noEscape
      : Along (Server.step (fileBackend engine) config serde) (NoEscape engine config serde) server
          events)
    : ∀ access ∈
          (after (Server.step (fileBackend engine) config serde) server events).world.accesses,
        DirectChild access.nodes config.databasesFolder access.loc := by
  have nothing : Confined config.databasesFolder server.world := by
    intro access member
    rw [start] at member
    contradiction
  exact Along.invariant (I := fun state => Confined config.databasesFolder state.world)
    (fun _ _ holds allowed => step_confined absolute holds allowed) nothing noEscape

end Server

/-- An engine that opens files and does nothing with them. It follows links itself and ignores
what leads nowhere in a path.
-/
def idleEngine : Engine Unit Unit Loc Unit where
  policy := ⟨200, true⟩
  empty := ()
  attach := fun disk loc _ => (.ok loc, disk)
  executeBatch := fun disk _ _ => (.ok (), disk)
  prepare := fun disk _ _ => (.ok (), disk)
  columnNames := fun _ => []
  query := fun disk _ _ => .done disk
  close := fun disk _ => disk

/-- A host with the folder `/srv/sqlite` and the given entries besides. -/
def hostWith (entries : List (Loc × Node)) : Host Unit Unit where
  disk :=
    {
      files :=
        {
          entries :=
            [
              ([], .dir),
              (["etc"], .dir),
              (["srv"], .dir),
              (["srv", "sqlite"], .dir)
            ] ++ entries
          contents := fun _ => ()
          nextInode := 1
        }
      engine := ()
    }
  accesses := []

/-- A query through a link inside the folder. -/
theorem accesses_confined_link
    : Confined "/srv/sqlite"
        (after
          (Server.step (fileBackend idleEngine) (.standard "/srv/sqlite" "") unsignedReader)
          (.start
            (hostWith
              [
                (["srv", "sqlite", "old"], .file 0),
                (["srv", "sqlite", "same"], .symlink "old")
              ]))
          [
            .request 0
              "\x7b\"cmd\":\"QUERY\",\"db\":\"same\",\"query\":\"SELECT 1\"\x7d"
          ]).world := by
  refine accesses_confined (by decide) _ rfl _ ⟨?_, trivial⟩
  intro json db sql request _ _ _
  have command
      : (requested (.standard "/srv/sqlite" "") unsignedReader (.new : RequestHandler Loc)
          "\x7b\"cmd\":\"QUERY\",\"db\":\"same\",\"query\":\"SELECT 1\"\x7d").map Prod.snd
        = some (.query "same" "SELECT 1") := by
    decide +kernel
  have same : db = "same" := by
    have := (congrArg (Option.map Prod.snd) request).symm.trans command
    simp only [Option.map_some, Option.some.injEq, Command.query.injEq] at this
    exact this.1
  subst same
  refine ⟨⟨["srv", "sqlite"], by decide +kernel⟩, ?_⟩
  intro escaping
  exact absurd escaping.unseen (by decide +kernel)

/-- A query through a dangling link creates a file where the link leads to. -/
theorem query_escapes
    : ¬ ∀ (engine : Engine Unit Unit Loc Unit) (config : Config) (serde : SerdeJson)
        (server : Server (Host Unit Unit) Loc) (requests : List (Nat × String)),
        isAbsolute config.databasesFolder = true
        → server.world.accesses = []
        → ∀ access ∈
            (after (Server.step (fileBackend engine) config serde) server
              (requests.map (fun r => .request r.1 r.2))).world.accesses,
            DirectChild access.nodes config.databasesFolder access.loc := by
  intro claim
  have outside := claim idleEngine (.standard "/srv/sqlite" "") unsignedReader
    (.start (hostWith [(["srv", "sqlite", "out"], .symlink "/etc/new")]))
    [(0, "\x7b\"cmd\":\"QUERY\",\"db\":\"out\",\"query\":\"SELECT 1\"\x7d")] (by decide) rfl
    ⟨(hostWith [(["srv", "sqlite", "out"], .symlink "/etc/new")]).files.entries, ["etc", "new"]⟩
    (by decide +kernel)
  obtain ⟨base, name, atBase, child⟩ := outside
  have here
      : walk elements
            (hostWith [(["srv", "sqlite", "out"], .symlink "/etc/new")]).files.nodes
            kernelPolicy.links [] (elements "/srv/sqlite")
          = .found ["srv", "sqlite"] := by
    decide +kernel
  rw [← Outcome.found.inj (here.symm.trans atBase)] at child
  simp at child

end SqliteServer
