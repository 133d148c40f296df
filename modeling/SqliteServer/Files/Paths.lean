import Mathlib.Data.List.Basic

/-! Unix paths as strings: their parts between separators, and their components. -/

namespace SqliteServer.Files

/-- The parts of a path between its separators, empty ones included. -/
def elements (path : String) : List String := (path.toList.splitOn '/').map String.ofList

inductive Component where
  | rootDir
  | curDir
  | parentDir
  | normal (name : String)
deriving DecidableEq

def isAbsolute (path : String) : Bool := path.toList.head? = some '/'

/-- The component a part stands for. Empty parts and `.` stand for none. -/
def component? (part : String) : Option Component :=
  if part = "" ∨ part = "." then none
  else if part = ".." then some .parentDir
  else some (.normal part)

/-- The components of a path. A `.` counts only at the start of a relative path. -/
def components (path : String) : List Component :=
  (if isAbsolute path then [.rootDir]
    else if (elements path).head? = some "." then [.curDir]
    else [])
  ++ (elements path).filterMap component?

/-- Append a path to another; an absolute path replaces it. -/
def join (base path : String) : String :=
  if isAbsolute path then path
  else if base.toList.getLast? = none ∨ base.toList.getLast? = some '/' then base ++ path
  else base ++ "/" ++ path

/-- The components of a path after those of a prefix. -/
def stripPrefix (path base : String) : Option (List Component) :=
  if (components base).isPrefixOf (components path) then
    some ((components path).drop (components base).length)
  else none

/-- A name that is a component of its own and nothing else. -/
def PlainName (name : String) : Prop :=
  name ≠ "" ∧ name ≠ "." ∧ name ≠ ".." ∧ '/' ∉ name.toList

instance (name : String) : Decidable (PlainName name) :=
  inferInstanceAs (Decidable (_ ∧ _ ∧ _ ∧ _))

/-- A part that leads nowhere: an empty one or `.`. -/
def isTrivial (part : String) : Bool := part = "" ∨ part = "."

-----------------------------------------------------------------------------------------
-- Elements
-----------------------------------------------------------------------------------------

theorem elements_ne_nil (path : String) : elements path ≠ [] := by
  simp [elements, List.splitOn_ne_nil]

/-- A text without separators is its only element. -/
theorem elements_of_noSlash {name : String} (noSlash : '/' ∉ name.toList)
    : elements name = [name] := by
  simp [elements, List.splitOn_eq_singleton noSlash]

/-- No part of a split text contains the separator, by induction on the text. -/
theorem not_mem_of_mem_splitOn {separator : Char} {text part : List Char}
    (member : part ∈ text.splitOn separator)
    : separator ∉ part := by
  induction text generalizing part with
  | nil =>
      rw [List.splitOn_nil, List.mem_singleton] at member
      simp [member]
  | cons c rest ih =>
      rw [List.splitOn_cons_eq_if_modifyHead] at member
      by_cases same : c = separator
      · simp only [same, beq_self_eq_true, if_true, List.mem_cons] at member
        rcases member with rfl | later
        · exact List.not_mem_nil
        · exact ih later
      · cases parts : rest.splitOn separator with
        | nil => exact absurd parts (List.splitOn_ne_nil separator rest)
        | cons first others =>
            simp only [beq_iff_eq, same, if_false, parts, List.modifyHead_cons,
              List.mem_cons] at member
            rcases member with rfl | later
            · intro inside
              rcases List.mem_cons.mp inside with head | tail
              · exact same head.symm
              · exact ih (by rw [parts]; exact List.mem_cons_self) tail
            · exact ih (by rw [parts]; exact List.mem_cons_of_mem _ later)

theorem noSlash_of_mem_elements {path part : String} (member : part ∈ elements path)
    : '/' ∉ part.toList := by
  obtain ⟨chars, split, rfl⟩ := List.mem_map.mp member
  rw [String.toList_ofList]
  exact not_mem_of_mem_splitOn split

/-- A separator joins the elements of two texts. -/
theorem elements_append_slash (first second : String)
    : elements (first ++ "/" ++ second) = elements first ++ elements second := by
  simp [elements, List.splitOn_append_cons_self]

/-- The elements of a joined path are those of the folder, without a last empty one, and those
of the name.
-/
def folderElements (folder : String) : List String :=
  if folder.toList.getLast? = some '/' then (elements folder).dropLast else elements folder

theorem elements_of_endsWithSlash {folder : String} (slash : folder.toList.getLast? = some '/')
    : ∃ front, folder = front ++ "/" ∧ elements folder = elements front ++ [""] := by
  obtain ⟨front, eq⟩ := List.getLast?_eq_some_iff.mp slash
  have split : folder = String.ofList front ++ "/" := by
    rw [← String.ofList_toList (s := folder), eq, String.ofList_append]
  refine ⟨String.ofList front, split, ?_⟩
  have joined := elements_append_slash (String.ofList front) ""
  rw [String.append_empty, ← split] at joined
  rw [joined]
  rfl

theorem elements_join {folder name : String} (relative : isAbsolute name = false)
    (nonempty : folder ≠ "")
    : elements (join folder name) = folderElements folder ++ elements name := by
  by_cases slash : folder.toList.getLast? = some '/'
  · obtain ⟨front, rfl, parts⟩ := elements_of_endsWithSlash slash
    rw [folderElements, if_pos slash, parts, List.dropLast_concat, join, relative]
    simp only [Bool.false_eq_true, if_false]
    rw [if_pos (Or.inr slash), elements_append_slash]
  · have last : folder.toList.getLast? ≠ none := by
      simpa using nonempty
    rw [folderElements, if_neg slash, join, relative]
    simp only [Bool.false_eq_true, if_false]
    rw [if_neg (by simp [last, slash]), elements_append_slash]

-----------------------------------------------------------------------------------------
-- Names of one component
-----------------------------------------------------------------------------------------

/-- A relative path that is not empty does not begin with an empty element. -/
theorem head_elements_ne_empty {path first : String} {others : List String}
    (relative : isAbsolute path = false) (nonempty : path ≠ "")
    (parts : elements path = first :: others)
    : first ≠ "" := by
  cases chars : path.toList with
  | nil => exact absurd (String.toList_eq_nil_iff.mp chars) nonempty
  | cons c rest =>
      have notSlash : c ≠ '/' := by
        rintro rfl
        simp [isAbsolute, chars] at relative
      rw [elements, chars, List.splitOn_cons_eq_if_modifyHead] at parts
      cases split : rest.splitOn '/' with
      | nil => exact absurd split (List.splitOn_ne_nil '/' rest)
      | cons head tail =>
          simp only [beq_iff_eq, notSlash, if_false, split, List.modifyHead_cons,
            List.map_cons, List.cons.injEq] at parts
          rw [← parts.1]
          simp

theorem component?_eq_none {part : String} : component? part = none ↔ isTrivial part = true := by
  unfold component? isTrivial
  split_ifs with trivial parent
  · simp [trivial]
  · simp [trivial]
  · simp [trivial]

/-- A relative path with one normal component is a plain name, with nothing but empty elements
and dots after it.
-/
theorem elements_of_components {path name : String} (relative : isAbsolute path = false)
    (nonempty : path ≠ "") (one : components path = [.normal name])
    : ∃ trailing,
        elements path = name :: trailing
        ∧ trailing.all isTrivial = true
        ∧ PlainName name := by
  cases parts : elements path with
  | nil => exact absurd parts (elements_ne_nil path)
  | cons first others =>
      have notEmpty := head_elements_ne_empty relative nonempty parts
      have present : first ∈ elements path := by
        rw [parts]
        exact List.mem_cons_self
      have noSlash : '/' ∉ first.toList := noSlash_of_mem_elements present
      have notDot : first ≠ "." := by
        rintro rfl
        simp [components, relative, parts] at one
      have notParent : first ≠ ".." := by
        rintro rfl
        simp [components, relative, parts, component?] at one
      have single : component? first = some (.normal first) := by
        simp [component?, notEmpty, notDot, notParent]
      simp only [components, relative, parts, Bool.false_eq_true, if_false, List.head?_cons,
        Option.some.injEq, notDot, List.nil_append, List.filterMap_cons, single,
        List.cons.injEq, Component.normal.injEq, List.filterMap_eq_nil_iff] at one
      obtain ⟨rfl, trivial⟩ := one
      refine ⟨others, rfl, ?_, notEmpty, notDot, notParent, noSlash⟩
      rw [List.all_eq_true]
      intro part member
      exact component?_eq_none.mp (trivial part member)

/-- An absolute path begins with an empty element. -/
theorem head_elements_of_absolute {path : String} (absolute : isAbsolute path = true)
    : (elements path).head? = some "" := by
  obtain ⟨rest, chars⟩ := List.head?_eq_some_iff.mp (of_decide_eq_true absolute)
  rw [elements, chars, List.splitOn_cons_eq_if_modifyHead, if_pos (by decide)]
  rfl

/-- A plain name with nothing but empty elements and dots after it is one normal component. -/
theorem components_of_elements {path entry : String} {trailing : List String}
    (parts : elements path = entry :: trailing) (trivial : trailing.all isTrivial = true)
    (plain : PlainName entry)
    : path ≠ "" ∧ isAbsolute path = false ∧ components path = [.normal entry] := by
  obtain ⟨notEmpty, notDot, notParent, -⟩ := plain
  have nonempty : path ≠ "" := by
    rintro rfl
    exact notEmpty (List.cons.inj parts).1.symm
  have relative : isAbsolute path = false := by
    by_contra absolute
    rw [Bool.not_eq_false] at absolute
    have head := head_elements_of_absolute absolute
    rw [parts, List.head?_cons, Option.some.injEq] at head
    exact notEmpty head
  have rest : trailing.filterMap component? = [] := by
    rw [List.filterMap_eq_nil_iff]
    intro part member
    exact component?_eq_none.mpr (List.all_eq_true.mp trivial part member)
  have first : component? entry = some (.normal entry) := by
    simp [component?, notEmpty, notDot, notParent]
  refine ⟨nonempty, relative, ?_⟩
  rw [components, relative, parts, List.filterMap_cons, first, rest]
  simp [notDot]

/-- The elements of a path determine it. -/
theorem elements_injective {path other : String} (same : elements path = elements other)
    : path = other := by
  have parts : path.toList.splitOn '/' = other.toList.splitOn '/' :=
    List.map_injective_iff.mpr (fun _ _ => String.ofList_injective) same
  have chars := congrArg ['/'].intercalate parts
  rw [List.intercalate_splitOn, List.intercalate_splitOn] at chars
  exact String.toList_injective chars

/-- The path of a location from the root. -/
def pathText (loc : List String) : String :=
  String.ofList ('/' :: ['/'].intercalate (loc.map String.toList))

/-- The components of a location of plain names. -/
theorem components_pathText {loc : List String} (plain : ∀ name ∈ loc, PlainName name)
    : components (pathText loc) = .rootDir :: loc.map .normal := by
  have normal : loc.filterMap component? = loc.map .normal := by
    induction loc with
    | nil => rfl
    | cons name others ih =>
        obtain ⟨notEmpty, notDot, notParent, -⟩ := plain name List.mem_cons_self
        have single : component? name = some (.normal name) := by
          simp [component?, notEmpty, notDot, notParent]
        rw [List.filterMap_cons, single, List.map_cons,
          ih (fun n member => plain n (List.mem_cons_of_mem _ member))]
  have absolute : isAbsolute (pathText loc) = true := by
    simp [isAbsolute, pathText]
  have parts : (elements (pathText loc)).filterMap component? = loc.filterMap component? := by
    cases loc with
    | nil => decide
    | cons name others =>
        have split : elements (pathText (name :: others)) = "" :: name :: others := by
          have noSlash : ∀ chars ∈ (name :: others).map String.toList, '/' ∉ chars := by
            intro chars member
            obtain ⟨part, present, rfl⟩ := List.mem_map.mp member
            exact (plain part present).2.2.2
          rw [elements, pathText, String.toList_ofList, List.splitOn_cons_eq_if_modifyHead,
            if_pos (by decide), List.splitOn_intercalate '/' noSlash (by simp)]
          simp
        rw [split]
        rfl
  rw [components, absolute, if_pos rfl, parts, normal]
  rfl

end SqliteServer.Files
