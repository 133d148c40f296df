import SqliteServer.Files.Paths

/-! File systems with directories, files and symbolic links, and how the system follows a path
in them. Opening follows every link; removing an entry does not follow the last one.
-/

namespace SqliteServer.Files

/-- A location: the names from the root down. -/
abbrev Loc := List String

inductive Node where
  | dir
  | file (inode : Nat)
  | symlink (target : String)
deriving DecidableEq

def Node.isFile : Node → Bool
  | .file _ => true
  | _ => false

/-- The node at each location, what each file contains, and an unused file number. -/
structure FileSystem (γ : Type) where
  entries : List (Loc × Node)
  contents : Nat → γ
  nextInode : Nat

def FileSystem.nodes {γ : Type} (fs : FileSystem γ) (loc : Loc) : Option Node :=
  fs.entries.lookup loc

/-- Where a path leads: to something, to a name its directory lacks, or nowhere. -/
inductive Outcome where
  | found (loc : Loc)
  | missing (parent : Loc) (name : String)
  | failed
deriving DecidableEq

/-- How a program reads paths: how many links it follows, and whether it drops the parts that
lead nowhere before looking at anything, so that a file may be named with a trailing slash.
-/
structure Policy where
  links : Nat
  dropsTrivial : Bool

/-- The system itself follows at most forty links. -/
def kernelPolicy : Policy := ⟨40, false⟩

/-- The parts of a path that a program looks at. -/
def Policy.view (policy : Policy) (parts : List String) : List String :=
  if policy.dropsTrivial then parts.filter (fun part => !isTrivial part) else parts

def Policy.elementsOf (policy : Policy) (path : String) : List String :=
  policy.view (elements path)

section Walk

variable (elementsOf : String → List String) (nodes : Loc → Option Node)

/-- Walk along the parts of a path, with a way to go on at a link. -/
def walkParts (follow : Loc → List String → Outcome) : List String → Loc → Outcome
  | [], cur => .found cur
  | part :: rest, cur =>
      if nodes cur = some .dir then
        if isTrivial part then walkParts follow rest cur
        else if part = ".." then walkParts follow rest cur.dropLast
        else
          match nodes (cur ++ [part]) with
          | none => if rest = [] then .missing cur part else .failed
          | some (.symlink target) =>
              follow (if isAbsolute target then [] else cur) (elementsOf target ++ rest)
          | some _ => walkParts follow rest (cur ++ [part])
      else .failed

/-- Walk along the parts of a path, following a limited number of links. -/
def walk : Nat → Loc → List String → Outcome
  | 0, cur, parts => walkParts elementsOf nodes (fun _ _ => .failed) parts cur
  | links + 1, cur, parts => walkParts elementsOf nodes (walk links) parts cur

end Walk

section Operations

variable {γ : Type} (fs : FileSystem γ)

/-- Where an absolute path leads. -/
def FileSystem.resolve (policy : Policy) (path : String) : Outcome :=
  walk policy.elementsOf fs.nodes policy.links [] (policy.elementsOf path)

/-- Whether a path leads to something, links followed. -/
def FileSystem.pathExists (path : String) : Bool :=
  match fs.resolve kernelPolicy path with
  | .found _ => true
  | _ => false

/-- The path without links, dots and empty parts. -/
def FileSystem.canonicalize (path : String) : Option String :=
  match fs.resolve kernelPolicy path with
  | .found loc => some (pathText loc)
  | _ => none

/-- The location of the file that opening a path opens or creates. -/
def FileSystem.openTarget (policy : Policy) (path : String) : Option Loc :=
  match fs.resolve policy path with
  | .found loc =>
      match fs.nodes loc with
      | some (.file _) => some loc
      | _ => none
  | .missing parent name => some (parent ++ [name])
  | .failed => none

/-- The location of the entry that removing a path removes: its last part must be a name, and a
link there is not followed.
-/
def FileSystem.unlinkTarget (path : String) : Option Loc :=
  match (elements path).getLast? with
  | none => none
  | some name =>
      if isTrivial name ∨ name = ".." then none
      else
        match walk kernelPolicy.elementsOf fs.nodes kernelPolicy.links []
            (elements path).dropLast with
        | .found parent =>
            if fs.nodes parent = some .dir then
              match fs.nodes (parent ++ [name]) with
              | some (.file _) | some (.symlink _) => some (parent ++ [name])
              | _ => none
            else none
        | _ => none

/-- The file system with another node, or none, at a location. -/
def FileSystem.setNode (loc : Loc) (node : Option Node) : FileSystem γ :=
  { fs with
    entries := (node.map (fun n => (loc, n))).toList ++ fs.entries.filter (fun e => e.1 != loc) }

/-- The file system with other contents of a file. -/
def FileSystem.setContents (inode : Nat) (data : γ) : FileSystem γ :=
  { fs with contents := fun other => if other = inode then data else fs.contents other }

/-- What the regular file at a location contains. -/
def FileSystem.contentsAt (loc : Loc) : Option γ :=
  match fs.nodes loc with
  | some (.file inode) => some (fs.contents inode)
  | _ => none

/-- A new file at a location, with its number. -/
def FileSystem.createFile (loc : Loc) (data : γ) : FileSystem γ :=
  { (fs.setNode loc (some (.file fs.nextInode))).setContents fs.nextInode data with
    nextInode := fs.nextInode + 1 }

def FileSystem.removeFile (path : String) : Option (FileSystem γ) :=
  (fs.unlinkTarget path).map (fun loc => fs.setNode loc none)

/-- Open the file at a path, creating it with the given contents if it is missing. -/
def FileSystem.openFile (policy : Policy) (empty : γ) (path : String)
    : Option (Loc × Nat × FileSystem γ) :=
  match fs.openTarget policy path with
  | none => none
  | some loc =>
      match fs.nodes loc with
      | some (.file inode) => some (loc, inode, fs)
      | _ => some (loc, fs.nextInode, fs.createFile loc empty)

/-- The names in a directory, each with whether it leads to a regular file. -/
def FileSystem.readDir (path : String) : Option (List (String × Bool)) :=
  match fs.resolve kernelPolicy path with
  | .found dir =>
      if fs.nodes dir = some .dir then
        let names :=
          (fs.entries.filter (fun e => e.1.dropLast = dir)).filterMap (fun e => e.1.getLast?)
        some
          (names.eraseDups.map
            (fun name =>
              (name,
                match walk kernelPolicy.elementsOf fs.nodes kernelPolicy.links dir [name] with
                | .found loc => (fs.nodes loc).any Node.isFile
                | _ => false)))
      else none
  | _ => none

@[simp]
theorem FileSystem.nodes_setNode_self (loc : Loc) (node : Option Node)
    : (fs.setNode loc node).nodes loc = node := by
  cases node with
  | none =>
      refine List.lookup_eq_none_iff.mpr ?_
      intro entry kept
      have other := (List.mem_filter.mp kept).2
      rw [bne_iff_ne] at other
      exact bne_iff_ne.mpr other.symm
  | some node => simp [nodes, setNode]

theorem FileSystem.nodes_setNode_other {loc other : Loc} (different : other ≠ loc)
    (node : Option Node)
    : (fs.setNode loc node).nodes other = fs.nodes other := by
  have rest : (fs.entries.filter (fun e => e.1 != loc)).lookup other = fs.entries.lookup other := by
    induction fs.entries with
    | nil => rfl
    | cons entry later ih =>
        by_cases same : entry.1 = loc
        · have skip : (other == entry.1) = false := by simp [same, different]
          rw [List.filter_cons_of_neg (by simp [same]), ih, List.lookup_cons, skip]
        · rw [List.filter_cons_of_pos (by simp [same]), List.lookup_cons, List.lookup_cons, ih]
  cases node with
  | none => simpa [nodes, setNode] using rest
  | some node =>
      have skip : (other == loc) = false := beq_eq_false_iff_ne.mpr different
      simpa [nodes, setNode, List.lookup_cons, skip] using rest

@[simp]
theorem FileSystem.nodes_createFile_self (loc : Loc) (data : γ)
    : (fs.createFile loc data).nodes loc = some (.file fs.nextInode) :=
  fs.nodes_setNode_self loc _

theorem FileSystem.nodes_createFile_other {loc other : Loc} (different : other ≠ loc) (data : γ)
    : (fs.createFile loc data).nodes other = fs.nodes other :=
  fs.nodes_setNode_other different _

end Operations

-----------------------------------------------------------------------------------------
-- Walking
-----------------------------------------------------------------------------------------

namespace Policy

variable (policy : Policy)

@[simp]
theorem view_nil : policy.view [] = [] := by
  cases drops : policy.dropsTrivial <;> simp [view, drops]

@[simp]
theorem view_append (first second : List String)
    : policy.view (first ++ second) = policy.view first ++ policy.view second := by
  cases drops : policy.dropsTrivial <;> simp [view, drops]

theorem view_cons {part : String} (solid : isTrivial part = false) (rest : List String)
    : policy.view (part :: rest) = part :: policy.view rest := by
  cases drops : policy.dropsTrivial <;> simp [view, drops, solid]

/-- The first outcome is a failure, or the second is the same or a failure. -/
def Agrees (first second : Outcome) : Prop :=
  first = .failed ∨ second = first ∨ second = .failed

variable {nodes : Loc → Option Node}

/-- Programs agree on where a path leads as long as they agree on the links, by induction on the
parts.
-/
theorem walkParts_agrees {follow follow' : Loc → List String → Outcome}
    (links
      : ∀ cur parts, Agrees (follow cur parts) (follow' cur (policy.view parts)))
    (parts : List String) (cur : Loc)
    : Agrees (walkParts elements nodes follow parts cur)
        (walkParts policy.elementsOf nodes follow' (policy.view parts) cur) := by
  induction parts generalizing cur with
  | nil => exact Or.inr (Or.inl (by rw [view_nil, walkParts, walkParts]))
  | cons part rest ih =>
      by_cases dir : nodes cur = some .dir
      · cases solid : isTrivial part with
        | true =>
            have raw
                : walkParts elements nodes follow (part :: rest) cur
                  = walkParts elements nodes follow rest cur := by
              rw [walkParts, if_pos dir, if_pos solid]
            have viewed
                : walkParts policy.elementsOf nodes follow' (policy.view (part :: rest)) cur
                  = walkParts policy.elementsOf nodes follow' (policy.view rest) cur := by
              cases drops : policy.dropsTrivial with
              | true => simp [view, drops, solid]
              | false => simp [view, drops, walkParts, dir, solid]
            rw [raw, viewed]
            exact ih cur
        | false =>
            rw [view_cons policy solid, walkParts, walkParts, if_pos dir, if_pos dir, solid]
            simp only [Bool.false_eq_true, if_false]
            split
            · exact ih cur.dropLast
            · cases nodes (cur ++ [part]) with
              | none =>
                  by_cases last : rest = []
                  · exact Or.inr (Or.inl (by simp [last]))
                  · exact Or.inl (by simp [last])
              | some node =>
                  cases node with
                  | dir => exact ih (cur ++ [part])
                  | file inode => exact ih (cur ++ [part])
                  | symlink target =>
                      have jump := links (if isAbsolute target then [] else cur)
                        (elements target ++ rest)
                      rwa [view_append] at jump
      · exact Or.inl (by rw [walkParts, if_neg dir])

/-- Programs agree on where a path leads, unless one of them runs out of links, by induction on
the links they may follow.
-/
theorem walk_agrees (links others : Nat) (cur : Loc) (parts : List String)
    : Agrees (walk elements nodes links cur parts)
        (walk policy.elementsOf nodes others cur (policy.view parts)) := by
  induction links generalizing others cur parts with
  | zero =>
      cases others with
      | zero => exact policy.walkParts_agrees (fun _ _ => Or.inl rfl) parts cur
      | succ others => exact policy.walkParts_agrees (fun _ _ => Or.inl rfl) parts cur
  | succ links ih =>
      cases others with
      | zero => exact policy.walkParts_agrees (fun _ _ => Or.inr (Or.inr rfl)) parts cur
      | succ others => exact policy.walkParts_agrees (ih others) parts cur

end Policy

section Append

variable {elementsOf : String → List String} {nodes : Loc → Option Node}

/-- The walk along more parts goes on from where the first parts lead, with some links left; it
fails if they lead nowhere.
-/
def Continues (elementsOf : String → List String) (nodes : Loc → Option Node) (first : Outcome)
    (second : List String) (whole : Outcome) : Prop :=
  (whole = .failed ∧ ∀ loc, first ≠ .found loc)
  ∨ ∃ loc left, first = .found loc ∧ walk elementsOf nodes left loc second = whole

/-- A walk passes the end of each first part of its path, as long as the walks beyond links do:
by induction on the first part.
-/
theorem walkParts_append {follow : Loc → List String → Outcome} {second : List String}
    (more : second ≠ []) (links : Nat)
    (here
      : ∀ cur, walkParts elementsOf nodes follow second cur
          = walk elementsOf nodes links cur second)
    (beyond
      : ∀ cur first,
          Continues elementsOf nodes (follow cur first) second (follow cur (first ++ second)))
    (first : List String) (cur : Loc)
    : Continues elementsOf nodes (walkParts elementsOf nodes follow first cur) second
        (walkParts elementsOf nodes follow (first ++ second) cur) := by
  induction first generalizing cur with
  | nil => exact Or.inr ⟨cur, links, by rw [walkParts], (here cur).symm⟩
  | cons part rest ih =>
      by_cases dir : nodes cur = some .dir
      · rw [List.cons_append, walkParts, walkParts, if_pos dir, if_pos dir]
        split
        · exact ih cur
        · split
          · exact ih cur.dropLast
          · cases nodes (cur ++ [part]) with
            | none =>
                refine Or.inl ⟨by simp [more], ?_⟩
                intro loc
                dsimp only
                split <;> exact nofun
            | some node =>
                cases node with
                | dir => exact ih (cur ++ [part])
                | file inode => exact ih (cur ++ [part])
                | symlink target =>
                    have jump := beyond (if isAbsolute target then [] else cur)
                      (elementsOf target ++ rest)
                    rwa [List.append_assoc] at jump
      · exact Or.inl
          ⟨by rw [List.cons_append, walkParts, if_neg dir],
            by rw [walkParts, if_neg dir]; exact fun _ => nofun⟩

/-- A walk passes the end of each first part of its path, by induction on the links. -/
theorem walk_append {second : List String} (more : second ≠ []) (links : Nat) (cur : Loc)
    (first : List String)
    : Continues elementsOf nodes (walk elementsOf nodes links cur first) second
        (walk elementsOf nodes links cur (first ++ second)) := by
  induction links generalizing cur first with
  | zero =>
      exact walkParts_append more 0 (fun _ => rfl) (fun _ _ => Or.inl ⟨rfl, fun _ => nofun⟩) first
        cur
  | succ links ih =>
      exact walkParts_append more (links + 1) (fun _ => rfl) ih first cur

/-- Every part of a location that is found is a plain name. -/
def EndsPlain (outcome : Outcome) : Prop :=
  ∀ loc, outcome = .found loc → ∀ name ∈ loc, PlainName name

/-- A walk over parts without separators ends at plain names if it does beyond links, by
induction on the parts.
-/
theorem walkParts_plain {follow : Loc → List String → Outcome}
    (names : ∀ path, ∀ part ∈ elementsOf path, '/' ∉ part.toList)
    (beyond
      : ∀ cur parts,
          (∀ name ∈ cur, PlainName name)
          → (∀ part ∈ parts, '/' ∉ part.toList)
          → EndsPlain (follow cur parts))
    (parts : List String) (cur : Loc) (start : ∀ name ∈ cur, PlainName name)
    (named : ∀ part ∈ parts, '/' ∉ part.toList)
    : EndsPlain (walkParts elementsOf nodes follow parts cur) := by
  induction parts generalizing cur with
  | nil =>
      intro loc found
      rw [walkParts] at found
      exact Outcome.found.inj found ▸ start
  | cons part rest ih =>
      have later : ∀ p ∈ rest, '/' ∉ p.toList := fun p member =>
        named p (List.mem_cons_of_mem _ member)
      rw [walkParts]
      split
      · split
        · exact ih cur start later
        · rename_i solid
          split
          · exact ih cur.dropLast (fun name member => start name (List.dropLast_subset _ member))
              later
          · rename_i notParent
            have plain : ∀ name ∈ cur ++ [part], PlainName name := by
              intro name member
              rcases List.mem_append.mp member with old | new
              · exact start name old
              · rw [List.mem_singleton.mp new]
                simp only [isTrivial, decide_eq_true_eq, not_or] at solid
                exact ⟨solid.1, solid.2, notParent, named part List.mem_cons_self⟩
            split
            · intro loc found
              split at found <;> contradiction
            · refine beyond _ _ ?_ ?_
              · split
                · simp
                · exact start
              · intro p member
                rcases List.mem_append.mp member with inTarget | inRest
                · exact names _ p inTarget
                · exact later p inRest
            · exact ih (cur ++ [part]) plain later
      · intro loc found
        contradiction

/-- A walk from the root ends at plain names, by induction on the links. -/
theorem walk_plain (names : ∀ path, ∀ part ∈ elementsOf path, '/' ∉ part.toList)
    (links : Nat) (cur : Loc) (parts : List String) (start : ∀ name ∈ cur, PlainName name)
    (named : ∀ part ∈ parts, '/' ∉ part.toList)
    : EndsPlain (walk elementsOf nodes links cur parts) := by
  induction links generalizing cur parts with
  | zero =>
      exact walkParts_plain names (fun _ _ _ _ _ failed => by contradiction) parts cur start named
  | succ links ih => exact walkParts_plain names ih parts cur start named

end Append

end SqliteServer.Files
