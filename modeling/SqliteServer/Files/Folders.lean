import SqliteServer.Files.FileSystem

/-! The entries of a folder: where the path of a folder and a name leads. -/

namespace SqliteServer.Files

-----------------------------------------------------------------------------------------
-- Walking to an entry
-----------------------------------------------------------------------------------------

@[simp]
theorem kernelPolicy_view (parts : List String) : kernelPolicy.view parts = parts := rfl

@[simp]
theorem kernelPolicy_elementsOf : kernelPolicy.elementsOf = elements := rfl

section Entry

variable {elementsOf : String → List String} {nodes : Loc → Option Node}

/-- How a walk goes on at a link. -/
def follow (elementsOf : String → List String) (nodes : Loc → Option Node)
    : Nat → Loc → List String → Outcome
  | 0 => fun _ _ => .failed
  | links + 1 => walk elementsOf nodes links

theorem walk_eq (links : Nat) (cur : Loc) (parts : List String)
    : walk elementsOf nodes links cur parts
      = walkParts elementsOf nodes (follow elementsOf nodes links) parts cur := by
  cases links <;> rfl

@[simp]
theorem walk_nil (links : Nat) (cur : Loc) : walk elementsOf nodes links cur [] = .found cur := by
  rw [walk_eq, walkParts]

/-- Parts that lead nowhere lead a walk nowhere, but only a directory has them: by induction on
the parts.
-/
theorem walk_trivial {trailing : List String} (trivial : trailing.all isTrivial = true)
    (links : Nat) (cur : Loc)
    : walk elementsOf nodes links cur trailing
      = if nodes cur = some .dir ∨ trailing = [] then .found cur else .failed := by
  rw [walk_eq]
  induction trailing with
  | nil => simp [walkParts]
  | cons part rest ih =>
      rw [List.all_cons, Bool.and_eq_true] at trivial
      by_cases dir : nodes cur = some .dir
      · rw [walkParts, if_pos dir, if_pos trivial.1, ih trivial.2, if_pos (Or.inl dir),
          if_pos (Or.inl dir)]
      · rw [walkParts, if_neg dir, if_neg (by simp [dir])]

/-- A walk to an entry of a directory that is no link. -/
theorem walk_entry {cur : Loc} {name : String} {trailing : List String}
    (dir : nodes cur = some .dir) (plain : PlainName name)
    (trivial : trailing.all isTrivial = true)
    (noLink : ∀ target, nodes (cur ++ [name]) ≠ some (.symlink target)) (links : Nat)
    : walk elementsOf nodes links cur (name :: trailing)
      = match nodes (cur ++ [name]) with
        | none => if trailing = [] then .missing cur name else .failed
        | some node => if node = .dir ∨ trailing = [] then .found (cur ++ [name]) else .failed := by
  obtain ⟨notEmpty, notDot, notParent, -⟩ := plain
  have solid : isTrivial name = false := by simp [isTrivial, notEmpty, notDot]
  have beyond
      : walkParts elementsOf nodes (follow elementsOf nodes links) trailing (cur ++ [name])
        = if nodes (cur ++ [name]) = some .dir ∨ trailing = [] then .found (cur ++ [name])
          else .failed := by
    rw [← walk_eq, walk_trivial trivial]
  rw [walk_eq, walkParts, if_pos dir, solid, if_neg (by decide), if_neg notParent]
  cases entry : nodes (cur ++ [name]) with
  | none => rfl
  | some node =>
      cases node with
      | symlink target => exact absurd entry (noLink target)
      | dir => simpa [entry] using beyond
      | file inode => simpa [entry] using beyond

end Entry

-----------------------------------------------------------------------------------------
-- Entries of a folder
-----------------------------------------------------------------------------------------

section Folder

variable {γ : Type} {fs : FileSystem γ} {folder : String} {base : Loc}

/-- A location directly in the folder, links in the folder's path followed. -/
def DirectChild (nodes : Loc → Option Node) (folder : String) (loc : Loc) : Prop :=
  ∃ base name,
    walk elements nodes kernelPolicy.links [] (elements folder) = .found base
    ∧ loc = base ++ [name]

/-- The path of a folder leads where it leads without its last separator. -/
theorem walk_folderElements {policy : Policy} (at_ : fs.resolve policy folder = .found base)
    : walk policy.elementsOf fs.nodes policy.links [] (policy.view (folderElements folder))
      = .found base := by
  by_cases slash : folder.toList.getLast? = some '/'
  · obtain ⟨front, -, parts⟩ := elements_of_endsWithSlash slash
    rw [FileSystem.resolve, Policy.elementsOf, parts, Policy.view_append] at at_
    rw [folderElements, if_pos slash, parts, List.dropLast_concat]
    by_cases dropped : policy.view [""] = []
    · rwa [dropped, List.append_nil] at at_
    · have last : (policy.view [""]).all isTrivial = true := by
        cases drops : policy.dropsTrivial <;> simp [Policy.view, drops, isTrivial]
      rcases walk_append dropped policy.links [] (policy.view (elements front)) with
        ⟨failed, -⟩ | ⟨loc, left, first, whole⟩
      · rw [failed] at at_
        contradiction
      · rw [at_, walk_trivial last] at whole
        split at whole
        · rw [first, Outcome.found.inj whole]
        · contradiction
  · rw [folderElements, if_neg slash]
    exact at_

/-- What a program finds under a name in a folder is what it finds there from the folder. -/
theorem resolve_join (policy : Policy) {name : String} (absolute : isAbsolute folder = true)
    (relative : isAbsolute name = false) (at_ : fs.resolve kernelPolicy folder = .found base)
    (nonempty : policy.view (elements name) ≠ [])
    : fs.resolve policy (join folder name) = .failed
      ∨ ∃ left,
          fs.resolve policy (join folder name)
            = walk policy.elementsOf fs.nodes left base (policy.view (elements name)) := by
  have folderNonempty : folder ≠ "" := by
    rintro rfl
    simp [isAbsolute] at absolute
  rw [FileSystem.resolve, Policy.elementsOf, elements_join relative folderNonempty,
    Policy.view_append]
  rcases walk_append nonempty policy.links [] (policy.view (folderElements folder)) with
    ⟨failed, -⟩ | ⟨loc, left, first, whole⟩
  · exact Or.inl failed
  · have kernel := walk_folderElements at_
    rcases policy.walk_agrees kernelPolicy.links policy.links [] (folderElements folder)
      with failed | same | failed
    · rw [kernelPolicy_view, kernelPolicy_elementsOf, failed] at kernel
      contradiction
    · rw [kernelPolicy_view, kernelPolicy_elementsOf] at kernel
      rw [first, kernel] at same
      exact Or.inr ⟨left, by rw [← whole, Outcome.found.inj same]⟩
    · rw [first] at failed
      contradiction

theorem resolve_of_folderElements
    (reached
      : walk elements fs.nodes kernelPolicy.links [] (folderElements folder) = .found base)
    (dir : fs.nodes base = some .dir)
    : fs.resolve kernelPolicy folder = .found base := by
  rw [FileSystem.resolve, kernelPolicy_elementsOf]
  by_cases slash : folder.toList.getLast? = some '/'
  · obtain ⟨front, -, parts⟩ := elements_of_endsWithSlash slash
    rw [folderElements, if_pos slash, parts, List.dropLast_concat] at reached
    rw [parts]
    rcases walk_append (List.cons_ne_nil "" []) kernelPolicy.links [] (elements front) with
      ⟨-, nowhere⟩ | ⟨loc, left, first, whole⟩
    · exact absurd reached (nowhere base)
    · have here : base = loc := Outcome.found.inj (reached.symm.trans first)
      subst here
      rw [← whole, walk_trivial (by decide), if_pos (Or.inl dir)]
  · rw [folderElements, if_neg slash] at reached
    exact reached

/-- The system's canonical path of a location reads back as the location. -/
theorem canonicalize_eq_some {path text : String} (canonical : fs.canonicalize path = some text)
    : ∃ loc,
        fs.resolve kernelPolicy path = .found loc
        ∧ text = pathText loc
        ∧ ∀ name ∈ loc, PlainName name := by
  rw [FileSystem.canonicalize] at canonical
  cases outcome : fs.resolve kernelPolicy path with
  | found loc =>
      rw [outcome] at canonical
      refine ⟨loc, rfl, (Option.some.inj canonical).symm, ?_⟩
      exact walk_plain (fun _ _ member => noSlash_of_mem_elements member) kernelPolicy.links []
        (elements path) nofun (fun _ member => noSlash_of_mem_elements member) loc outcome
  | missing parent name => simp [outcome] at canonical
  | failed => simp [outcome] at canonical

/-- A path that is another one and one more component is a child of it. -/
theorem child_of_stripPrefix {loc : Loc} {rel : List Component}
    (plain : ∀ name ∈ loc, PlainName name) (basePlain : ∀ name ∈ base, PlainName name)
    (stripped : stripPrefix (pathText loc) (pathText base) = some rel) (one : rel.length = 1)
    : ∃ name, loc = base ++ [name] := by
  rw [stripPrefix, components_pathText plain, components_pathText basePlain] at stripped
  split at stripped
  · rename_i isPrefix
    rw [List.isPrefixOf_iff_prefix] at isPrefix
    have normals : base.map Component.normal <+: loc.map Component.normal :=
      (List.cons_prefix_cons.mp isPrefix).2
    have front : base = loc.take base.length := by
      have same := List.prefix_iff_eq_take.mp normals
      rw [List.length_map, ← List.map_take] at same
      exact List.map_injective_iff.mpr (fun _ _ => Component.normal.inj) same
    obtain ⟨rest, rfl⟩ := List.prefix_iff_eq_take.mpr front
    have count : rest.length = 1 := by
      have := congrArg List.length (Option.some.inj stripped)
      simp only [List.length_drop, List.length_cons, List.length_map, List.length_append] at this
      omega
    obtain ⟨name, rfl⟩ := List.length_eq_one_iff.mp count
    exact ⟨name, rfl⟩
  · contradiction

/-- The file that is opened is at the location the path leads to. -/
theorem openTarget_of_openFile {policy : Policy} {empty : γ} {path : String} {loc : Loc}
    {inode : Nat} {files : FileSystem γ}
    (opened : fs.openFile policy empty path = some (loc, inode, files))
    : fs.openTarget policy path = some loc := by
  rw [FileSystem.openFile] at opened
  cases target : fs.openTarget policy path with
  | none => simp [target] at opened
  | some found =>
      rw [target] at opened
      dsimp only at opened
      split at opened <;> exact congrArg some (Prod.mk.inj (Option.some.inj opened)).1

/-- Opening a path opens what it leads to or creates what is missing there. -/
theorem openTarget_eq_some {policy : Policy} {path : String} {target : Loc}
    (opens : fs.openTarget policy path = some target)
    : fs.resolve policy path = .found target
      ∨ ∃ parent name,
          fs.resolve policy path = .missing parent name ∧ target = parent ++ [name] := by
  rw [FileSystem.openTarget] at opens
  cases outcome : fs.resolve policy path with
  | failed => simp [outcome] at opens
  | missing parent name =>
      rw [outcome] at opens
      exact Or.inr ⟨parent, name, rfl, (Option.some.inj opens).symm⟩
  | found loc =>
      rw [outcome] at opens
      dsimp only at opens
      split at opens
      · exact Or.inl (congrArg Outcome.found (Option.some.inj opens))
      · contradiction

/-- Opening a path that leads somewhere opens what is there. -/
theorem openTarget_of_found {policy : Policy} {path : String} {loc target : Loc}
    (found : fs.resolve kernelPolicy path = .found loc)
    (opens : fs.openTarget policy path = some target)
    : target = loc := by
  have agrees : Policy.Agrees (fs.resolve kernelPolicy path) (fs.resolve policy path) :=
    policy.walk_agrees kernelPolicy.links policy.links [] (elements path)
  rw [found] at agrees
  rcases agrees with failed | same | failed
  · contradiction
  · rcases openTarget_eq_some opens with here | ⟨parent, name, missing, -⟩
    · exact Outcome.found.inj (here.symm.trans same)
    · rw [same] at missing
      contradiction
  · rcases openTarget_eq_some opens with here | ⟨parent, name, missing, -⟩
    · rw [failed] at here
      contradiction
    · rw [failed] at missing
      contradiction

/-- Opening an entry of a folder that is no link opens or creates that entry. -/
theorem openTarget_entry {policy : Policy} {name entry : String} {trailing : List String}
    {target : Loc} (absolute : isAbsolute folder = true) (relative : isAbsolute name = false)
    (at_ : fs.resolve kernelPolicy folder = .found base) (parts : elements name = entry :: trailing)
    (trivial : trailing.all isTrivial = true) (plain : PlainName entry)
    (noLink : ∀ link, fs.nodes (base ++ [entry]) ≠ some (.symlink link))
    (opens : fs.openTarget policy (join folder name) = some target)
    : target = base ++ [entry] := by
  have solid : isTrivial entry = false := by
    obtain ⟨notEmpty, notDot, -⟩ := plain
    simp [isTrivial, notEmpty, notDot]
  have view : policy.view (elements name) = entry :: policy.view trailing := by
    rw [parts, policy.view_cons solid]
  have viewTrivial : (policy.view trailing).all isTrivial = true := by
    rw [List.all_eq_true] at trivial ⊢
    intro part member
    refine trivial part ?_
    cases drops : policy.dropsTrivial with
    | true =>
        rw [Policy.view, if_pos drops] at member
        exact (List.mem_filter.mp member).1
    | false => rwa [Policy.view, if_neg (by simp [drops])] at member
  rcases resolve_join policy absolute relative at_ (view ▸ List.cons_ne_nil entry _)
    with failed | ⟨left, walked⟩
  · rcases openTarget_eq_some opens with found | ⟨parent, last, missing, -⟩
    · rw [failed] at found
      contradiction
    · rw [failed] at missing
      contradiction
  · by_cases dir : fs.nodes base = some .dir
    · rw [view, walk_entry dir plain viewTrivial noLink] at walked
      rcases openTarget_eq_some opens with found | ⟨parent, last, missing, rfl⟩
      · rw [walked] at found
        cases node : fs.nodes (base ++ [entry]) with
        | none =>
            rw [node] at found
            dsimp only at found
            split_ifs at found
        | some kind =>
            rw [node] at found
            dsimp only at found
            split_ifs at found
            exact (Outcome.found.inj found).symm
      · rw [walked] at missing
        cases node : fs.nodes (base ++ [entry]) with
        | none =>
            rw [node] at missing
            dsimp only at missing
            split_ifs at missing
            obtain ⟨rfl, rfl⟩ := Outcome.missing.inj missing
            rfl
        | some kind =>
            rw [node] at missing
            dsimp only at missing
            split_ifs at missing
    · have nowhere : fs.resolve policy (join folder name) = .failed := by
        rw [walked, view, walk_eq, walkParts, if_neg dir]
      rcases openTarget_eq_some opens with found | ⟨parent, last, missing, -⟩
      · rw [nowhere] at found
        contradiction
      · rw [nowhere] at missing
        contradiction

/-- What removing an entry of a folder removes is a child of the folder, named without trailing
separators.
-/
theorem unlinkTarget_entry {name entry : String} {trailing : List String} {target : Loc}
    (absolute : isAbsolute folder = true) (relative : isAbsolute name = false)
    (parts : elements name = entry :: trailing) (trivial : trailing.all isTrivial = true)
    (removes : fs.unlinkTarget (join folder name) = some target)
    : trailing = []
      ∧ ∃ base, fs.resolve kernelPolicy folder = .found base ∧ target = base ++ [entry] := by
  have folderNonempty : folder ≠ "" := by
    rintro rfl
    simp [isAbsolute] at absolute
  rw [FileSystem.unlinkTarget, elements_join relative folderNonempty, parts] at removes
  cases trailing with
  | nil =>
      rw [List.getLast?_concat, List.dropLast_concat] at removes
      dsimp only at removes
      split at removes
      · contradiction
      · split at removes
        · rename_i parent reached
          split at removes
          · rename_i dir
            refine ⟨rfl, parent, resolve_of_folderElements reached dir, ?_⟩
            split at removes
            · exact (Option.some.inj removes).symm
            · exact (Option.some.inj removes).symm
            · contradiction
          · contradiction
        · contradiction
  | cons next rest =>
      obtain ⟨last, ends⟩ := List.getLast?_isSome.mpr (List.cons_ne_nil next rest) |>
        Option.isSome_iff_exists.mp
      have lastTrivial : isTrivial last = true :=
        List.all_eq_true.mp trivial last (List.mem_of_getLast? ends)
      have whole : (folderElements folder ++ entry :: next :: rest).getLast? = some last := by
        rw [List.getLast?_append_of_ne_nil _ (by simp), List.getLast?_cons_cons, ends]
      rw [whole] at removes
      simp [lastTrivial] at removes

/-- A child's path is the folder's and one more component. -/
theorem stripPrefix_child {name : String} (plain : ∀ part ∈ base, PlainName part)
    (namePlain : PlainName name)
    : stripPrefix (pathText (base ++ [name])) (pathText base) = some [.normal name] := by
  have childPlain : ∀ part ∈ base ++ [name], PlainName part := by
    intro part member
    rcases List.mem_append.mp member with old | new
    · exact plain part old
    · rwa [List.mem_singleton.mp new]
  have isPrefix
      : (Component.rootDir :: base.map Component.normal).isPrefixOf
          (Component.rootDir :: (base ++ [name]).map Component.normal) = true := by
    rw [List.isPrefixOf_iff_prefix, List.map_append]
    exact ⟨[.normal name], by simp⟩
  rw [stripPrefix, components_pathText childPlain, components_pathText plain, if_pos isPrefix]
  simp

/-- Opening a file changes nothing, or creates the file. -/
theorem openFile_files {policy : Policy} {empty : γ} {path : String} {loc : Loc} {inode : Nat}
    {files : FileSystem γ}
    (opened : fs.openFile policy empty path = some (loc, inode, files))
    : files = fs ∨ files = fs.createFile loc empty := by
  rw [FileSystem.openFile] at opened
  cases target : fs.openTarget policy path with
  | none => simp [target] at opened
  | some found =>
      rw [target] at opened
      dsimp only at opened
      split at opened
      · obtain ⟨-, -, rfl⟩ := Option.some.inj opened |> Prod.mk.inj |>.imp_right Prod.mk.inj
        exact .inl rfl
      · obtain ⟨rfl, -, rfl⟩ := Option.some.inj opened |> Prod.mk.inj |>.imp_right Prod.mk.inj
        exact .inr rfl

/-- Opening a file keeps the files that are there. -/
theorem openFile_keeps {policy : Policy} {empty : γ} {path : String} {loc other : Loc}
    {inode kept : Nat} {files : FileSystem γ}
    (opened : fs.openFile policy empty path = some (loc, inode, files))
    (there : fs.nodes other = some (.file kept))
    : files.nodes other = some (.file kept) := by
  rw [FileSystem.openFile] at opened
  cases target : fs.openTarget policy path with
  | none => simp [target] at opened
  | some found =>
      rw [target] at opened
      dsimp only at opened
      split at opened
      · obtain ⟨-, -, rfl⟩ := Option.some.inj opened |> Prod.mk.inj |>.imp_right Prod.mk.inj
        exact there
      · rename_i notFile
        obtain ⟨-, -, rfl⟩ := Option.some.inj opened |> Prod.mk.inj |>.imp_right Prod.mk.inj
        rw [fs.nodes_createFile_other, there]
        rintro rfl
        exact notFile kept there

/-- Opening a file leaves a file there. -/
theorem openFile_opens {policy : Policy} {empty : γ} {path : String} {loc : Loc} {inode : Nat}
    {files : FileSystem γ}
    (opened : fs.openFile policy empty path = some (loc, inode, files))
    : files.nodes loc = some (.file inode) := by
  rw [FileSystem.openFile] at opened
  cases target : fs.openTarget policy path with
  | none => simp [target] at opened
  | some found =>
      rw [target] at opened
      dsimp only at opened
      split at opened
      · rename_i there
        obtain ⟨rfl, rfl, rfl⟩ := Option.some.inj opened |> Prod.mk.inj |>.imp_right Prod.mk.inj
        exact there
      · obtain ⟨rfl, rfl, rfl⟩ := Option.some.inj opened |> Prod.mk.inj |>.imp_right Prod.mk.inj
        exact fs.nodes_createFile_self _ _

/-- The entry of a folder that is a file is read as one. -/
theorem mem_readDir {name : String} {inode : Nat}
    (at_ : fs.resolve kernelPolicy folder = .found base) (dir : fs.nodes base = some .dir)
    (plain : PlainName name) (file : fs.nodes (base ++ [name]) = some (.file inode))
    : ∃ names, fs.readDir folder = some names ∧ (name, true) ∈ names := by
  rw [FileSystem.readDir, at_]
  dsimp only
  rw [if_pos dir]
  refine ⟨_, rfl, List.mem_map.mpr ⟨name, ?_, ?_⟩⟩
  · rw [List.mem_eraseDups, List.mem_filterMap]
    obtain ⟨front, back, entries, -⟩ := List.lookup_eq_some_iff.mp file
    refine ⟨(base ++ [name], .file inode), List.mem_filter.mpr ⟨?_, ?_⟩, ?_⟩
    · rw [entries]
      simp
    · simp
    · simp
  · have walked
        : walk kernelPolicy.elementsOf fs.nodes kernelPolicy.links base [name] = _ :=
      walk_entry dir plain List.all_nil (by simp [file]) kernelPolicy.links
    rw [file] at walked
    simp only [or_true, if_true] at walked
    rw [walked]
    simp [file, Node.isFile]

/-- Only a directory is read. -/
theorem dir_of_readDir {names : List (String × Bool)} (read : fs.readDir folder = some names)
    : ∃ base, fs.resolve kernelPolicy folder = .found base ∧ fs.nodes base = some .dir := by
  rw [FileSystem.readDir] at read
  cases outcome : fs.resolve kernelPolicy folder with
  | missing parent last => simp [outcome] at read
  | failed => simp [outcome] at read
  | found base =>
      rw [outcome] at read
      dsimp only at read
      split_ifs at read with dir
      exact ⟨base, rfl, dir⟩

/-- A name that is read in a folder is that of an entry. -/
theorem entry_of_mem_readDir {name : String} {isFile : Bool} {names : List (String × Bool)}
    (at_ : fs.resolve kernelPolicy folder = .found base) (read : fs.readDir folder = some names)
    (member : (name, isFile) ∈ names)
    : ∃ node, (base ++ [name], node) ∈ fs.entries := by
  rw [FileSystem.readDir, at_] at read
  dsimp only at read
  split_ifs at read with dir
  obtain rfl := Option.some.inj read
  obtain ⟨read', inNames, same⟩ := List.mem_map.mp member
  obtain rfl : read' = name := congrArg Prod.fst same
  rw [List.mem_eraseDups, List.mem_filterMap] at inNames
  obtain ⟨entry, kept, last⟩ := inNames
  obtain ⟨inEntries, parent⟩ := List.mem_filter.mp kept
  have whole : base ++ [read'] = entry.1 := by
    rw [← of_decide_eq_true parent]
    exact List.dropLast_append_getLast? _ last
  exact ⟨entry.2, whole ▸ inEntries⟩

end Folder

end SqliteServer.Files
