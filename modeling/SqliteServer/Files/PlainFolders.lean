import SqliteServer.Files.Folders

/-! Folders that are reached without links, and their entries that are no links. -/

namespace SqliteServer.Files

-----------------------------------------------------------------------------------------
-- Walking down
-----------------------------------------------------------------------------------------

/-- The parts of a path that lead somewhere. -/
def solidParts (parts : List String) : List String := parts.filter (fun part => !isTrivial part)

theorem solidParts_view (policy : Policy) (parts : List String)
    : solidParts (policy.view parts) = solidParts parts := by
  cases drops : policy.dropsTrivial <;> simp [Policy.view, solidParts, drops]

theorem solidParts_folderElements (folder : String)
    : solidParts (folderElements folder) = solidParts (elements folder) := by
  by_cases slash : folder.toList.getLast? = some '/'
  · obtain ⟨front, -, parts⟩ := elements_of_endsWithSlash slash
    rw [folderElements, if_pos slash, parts, List.dropLast_concat]
    simp [solidParts, isTrivial]
  · rw [folderElements, if_neg slash]

/-- A walk down through directories goes on from the last of them, by induction on the parts. -/
theorem walkParts_descend (elementsOf : String → List String) (nodes : Loc → Option Node)
    (follow : Loc → List String → Outcome) (first rest : List String) {cur : Loc}
    (descends : ".." ∉ solidParts first)
    (dirs : ∀ front, front <+: solidParts first → nodes (cur ++ front) = some .dir)
    : walkParts elementsOf nodes follow (first ++ rest) cur
      = walkParts elementsOf nodes follow rest (cur ++ solidParts first) := by
  induction first generalizing cur with
  | nil => simp [solidParts]
  | cons part more ih =>
      have here : nodes cur = some .dir := by
        have start := dirs [] List.nil_prefix
        rwa [List.append_nil] at start
      rw [List.cons_append, walkParts, if_pos here]
      cases solid : isTrivial part with
      | true =>
          have same : solidParts (part :: more) = solidParts more := by
            simp [solidParts, solid]
          rw [same] at descends dirs ⊢
          exact ih descends dirs
      | false =>
          have same : solidParts (part :: more) = part :: solidParts more := by
            simp [solidParts, solid]
          rw [same] at descends dirs ⊢
          rw [List.mem_cons, not_or] at descends
          have next : nodes (cur ++ [part]) = some .dir :=
            dirs [part] ⟨solidParts more, rfl⟩
          rw [if_neg Bool.false_ne_true, if_neg (Ne.symm descends.1), next]
          dsimp only
          rw [ih descends.2, List.append_assoc, List.singleton_append]
          intro front isPrefix
          rw [List.append_assoc, List.singleton_append]
          exact dirs (part :: front) (List.cons_prefix_cons.mpr ⟨rfl, isPrefix⟩)

-----------------------------------------------------------------------------------------
-- Plain folders
-----------------------------------------------------------------------------------------

/-- A folder whose path goes down to it through directories only. -/
structure PlainFolder {γ : Type} (fs : FileSystem γ) (folder : String) (base : Loc) : Prop where
  absolute : isAbsolute folder = true
  parts : solidParts (elements folder) = base
  descends : ".." ∉ base
  dirs : ∀ front, front <+: base → fs.nodes front = some .dir

/-- No entry of the folder is a link. -/
def Linkless {γ : Type} (fs : FileSystem γ) (base : Loc) : Prop :=
  ∀ name target, fs.nodes (base ++ [name]) ≠ some (.symlink target)

namespace PlainFolder

variable {γ : Type} {fs : FileSystem γ} {folder : String} {base : Loc} {name : String}

theorem dir (plainFolder : PlainFolder fs folder base) : fs.nodes base = some .dir :=
  plainFolder.dirs base (List.prefix_refl base)

/-- A walk along the parts of a plain folder's path goes on from the folder. -/
theorem walkParts_folder (plainFolder : PlainFolder fs folder base) {first : List String}
    (same : solidParts first = base) (elementsOf : String → List String)
    (follow : Loc → List String → Outcome) (rest : List String)
    : walkParts elementsOf fs.nodes follow (first ++ rest) []
      = walkParts elementsOf fs.nodes follow rest base := by
  subst same
  exact walkParts_descend elementsOf fs.nodes follow first rest plainFolder.descends
    plainFolder.dirs

/-- The path of a plain folder leads to it, however paths are read. -/
theorem resolve (plainFolder : PlainFolder fs folder base) (policy : Policy)
    : fs.resolve policy folder = .found base := by
  have same : solidParts (policy.elementsOf folder) = base := by
    rw [Policy.elementsOf, solidParts_view, plainFolder.parts]
  rw [FileSystem.resolve, walk_eq, ← List.append_nil (policy.elementsOf folder),
    plainFolder.walkParts_folder same, walkParts]

/-- The path of an entry that is no link leads to it. -/
theorem resolve_entry (plainFolder : PlainFolder fs folder base) (plain : PlainName name)
    (noLink : ∀ target, fs.nodes (base ++ [name]) ≠ some (.symlink target)) (policy : Policy)
    : fs.resolve policy (join folder name)
      = match fs.nodes (base ++ [name]) with
        | none => .missing base name
        | some _ => .found (base ++ [name]) := by
  have parts : elements name = [name] := elements_of_noSlash plain.2.2.2
  obtain ⟨-, relative, -⟩ := components_of_elements parts rfl plain
  have folderNonempty : folder ≠ "" := by
    rintro rfl
    have absolute := plainFolder.absolute
    simp [isAbsolute] at absolute
  have solid : isTrivial name = false := by simp [isTrivial, plain.1, plain.2.1]
  have same : solidParts (policy.view (folderElements folder)) = base := by
    rw [solidParts_view, solidParts_folderElements, plainFolder.parts]
  rw [FileSystem.resolve, Policy.elementsOf, elements_join relative folderNonempty, parts,
    policy.view_append, policy.view_cons solid, policy.view_nil, walk_eq,
    plainFolder.walkParts_folder same, ← walk_eq,
    walk_entry plainFolder.dir plain List.all_nil noLink]
  cases fs.nodes (base ++ [name]) with
  | none => simp
  | some node => simp

/-- Opening an entry opens the file there, or creates it. -/
theorem openFile_entry (plainFolder : PlainFolder fs folder base) (plain : PlainName name)
    (noLink : ∀ target, fs.nodes (base ++ [name]) ≠ some (.symlink target)) (policy : Policy)
    (empty : γ)
    : fs.openFile policy empty (join folder name)
      = match fs.nodes (base ++ [name]) with
        | none =>
            some (base ++ [name], fs.nextInode, fs.createFile (base ++ [name]) empty)
        | some (.file inode) => some (base ++ [name], inode, fs)
        | some _ => none := by
  rw [FileSystem.openFile, FileSystem.openTarget, plainFolder.resolve_entry plain noLink]
  cases entry : fs.nodes (base ++ [name]) with
  | none => simp [entry]
  | some node =>
      cases node with
      | dir => simp [entry]
      | file inode => simp [entry]
      | symlink target => exact absurd entry (noLink target)

/-- Removing an entry removes the file there. -/
theorem unlinkTarget_entry (plainFolder : PlainFolder fs folder base) (plain : PlainName name)
    (noLink : ∀ target, fs.nodes (base ++ [name]) ≠ some (.symlink target))
    : fs.unlinkTarget (join folder name)
      = match fs.nodes (base ++ [name]) with
        | some (.file _) => some (base ++ [name])
        | _ => none := by
  have parts : elements name = [name] := elements_of_noSlash plain.2.2.2
  obtain ⟨-, relative, -⟩ := components_of_elements parts rfl plain
  have folderNonempty : folder ≠ "" := by
    rintro rfl
    have absolute := plainFolder.absolute
    simp [isAbsolute] at absolute
  have solid : isTrivial name = false := by simp [isTrivial, plain.1, plain.2.1]
  have atFolder
      : walk kernelPolicy.elementsOf fs.nodes kernelPolicy.links [] (folderElements folder)
        = .found base :=
    walk_folderElements (plainFolder.resolve kernelPolicy)
  rw [FileSystem.unlinkTarget, elements_join relative folderNonempty, parts, List.getLast?_concat,
    List.dropLast_concat]
  dsimp only
  rw [if_neg (by simp [solid, plain.2.2.1]), atFolder]
  dsimp only
  rw [if_pos plainFolder.dir]
  cases entry : fs.nodes (base ++ [name]) with
  | none => rfl
  | some node =>
      cases node with
      | dir => rfl
      | file inode => rfl
      | symlink target => exact absurd entry (noLink target)

/-- What does not touch the directories down to a folder leaves it a plain folder. -/
theorem transfer {fs' : FileSystem γ} (plainFolder : PlainFolder fs folder base)
    (same : ∀ front, front <+: base → fs'.nodes front = fs.nodes front)
    : PlainFolder fs' folder base :=
  ⟨plainFolder.absolute, plainFolder.parts, plainFolder.descends,
    fun front isPrefix => (same front isPrefix).trans (plainFolder.dirs front isPrefix)⟩

/-- A folder is not its own entry. -/
theorem ne_entry {front : Loc} (isPrefix : front <+: base) : front ≠ base ++ [name] := by
  rintro rfl
  have short := isPrefix.length_le
  rw [List.length_append, List.length_singleton] at short
  omega

theorem setNode (plainFolder : PlainFolder fs folder base) (node : Option Node)
    : PlainFolder (fs.setNode (base ++ [name]) node) folder base :=
  plainFolder.transfer (fun _ isPrefix => fs.nodes_setNode_other (ne_entry isPrefix) node)

end PlainFolder

-----------------------------------------------------------------------------------------
-- Plain files
-----------------------------------------------------------------------------------------

/-- A folder without links, symbolic or hard: what its path and its entries lead to is there. -/
structure PlainFiles {γ : Type} (folder : String) (base : Loc) (files : FileSystem γ) : Prop where
  folder : PlainFolder files folder base
  linkless : Linkless files base
  single
    : ∀ name other inode,
        files.nodes (base ++ [name]) = some (.file inode)
        → files.nodes (base ++ [other]) = some (.file inode)
        → name = other
  numbered
    : ∀ name inode, files.nodes (base ++ [name]) = some (.file inode) → inode < files.nextInode

namespace PlainFiles

variable {γ : Type} {files files' : FileSystem γ} {folder : String} {base : Loc}

/-- A folder without entries has no links among them. -/
theorem ofEmpty (plainFolder : PlainFolder files folder base)
    (empty : ∀ name, files.nodes (base ++ [name]) = none)
    : PlainFiles folder base files := by
  refine ⟨plainFolder, ?_, ?_, ?_⟩
  · intro name target
    rw [empty]
    simp
  · intro name other inode there
    rw [empty] at there
    contradiction
  · intro name inode there
    rw [empty] at there
    contradiction

/-- Files stay plain when only their contents change. -/
theorem same (plain : PlainFiles folder base files) (nodes : files'.nodes = files.nodes)
    (nextInode : files'.nextInode = files.nextInode)
    : PlainFiles folder base files' := by
  refine ⟨plain.folder.transfer (fun _ _ => by rw [nodes]), ?_, ?_, ?_⟩
  · intro name target
    rw [nodes]
    exact plain.linkless name target
  · intro name other inode
    rw [nodes]
    exact plain.single name other inode
  · intro name inode
    rw [nodes, nextInode]
    exact plain.numbered name inode

theorem create (plain : PlainFiles folder base files) (db : String) (data : γ)
    : PlainFiles folder base (files.createFile (base ++ [db]) data) := by
  have other {name : String} (different : name ≠ db)
      : (files.createFile (base ++ [db]) data).nodes (base ++ [name])
        = files.nodes (base ++ [name]) :=
    files.nodes_createFile_other (by simpa using different) data
  have self := files.nodes_createFile_self (base ++ [db]) data
  have kinds {name : String} {inode : Nat}
      (there
        : (files.createFile (base ++ [db]) data).nodes (base ++ [name]) = some (.file inode))
      : (name = db ∧ inode = files.nextInode)
        ∨ (name ≠ db ∧ files.nodes (base ++ [name]) = some (.file inode)) := by
    by_cases named : name = db
    · subst named
      rw [self] at there
      exact .inl ⟨rfl, (Node.file.inj (Option.some.inj there)).symm⟩
    · rw [other named] at there
      exact .inr ⟨named, there⟩
  refine ⟨plain.folder.transfer ?_, ?_, ?_, ?_⟩
  · intro front isPrefix
    exact files.nodes_createFile_other (PlainFolder.ne_entry isPrefix) data
  · intro name target
    by_cases named : name = db
    · subst named
      rw [self]
      simp
    · rw [other named]
      exact plain.linkless name target
  · intro name name' inode there there'
    rcases kinds there with ⟨rfl, rfl⟩ | ⟨-, old⟩
    · rcases kinds there' with ⟨rfl, -⟩ | ⟨-, old'⟩
      · rfl
      · exact absurd (plain.numbered name' _ old') (Nat.lt_irrefl _)
    · rcases kinds there' with ⟨-, rfl⟩ | ⟨-, old'⟩
      · exact absurd (plain.numbered name _ old) (Nat.lt_irrefl _)
      · exact plain.single name name' inode old old'
  · intro name inode there
    change inode < files.nextInode + 1
    rcases kinds there with ⟨-, rfl⟩ | ⟨-, old⟩
    · exact Nat.lt_succ_self _
    · exact Nat.lt_succ_of_lt (plain.numbered name inode old)

theorem remove (plain : PlainFiles folder base files) (db : String)
    : PlainFiles folder base (files.setNode (base ++ [db]) none) := by
  have kinds {name : String} {node : Node}
      (there : (files.setNode (base ++ [db]) none).nodes (base ++ [name]) = some node)
      : files.nodes (base ++ [name]) = some node := by
    by_cases named : name = db
    · subst named
      rw [files.nodes_setNode_self] at there
      contradiction
    · rwa [files.nodes_setNode_other (by simpa using named)] at there
  refine ⟨plain.folder.setNode none, ?_, ?_, ?_⟩
  · intro name target there
    exact plain.linkless name target (kinds there)
  · intro name other inode there there'
    exact plain.single name other inode (kinds there) (kinds there')
  · intro name inode there
    exact plain.numbered name inode (kinds there)

end PlainFiles

end SqliteServer.Files
