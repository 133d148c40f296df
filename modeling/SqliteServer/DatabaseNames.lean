import SqliteServer.Authentication

/-! Which names the name check accepts, and which entries they denote. -/

namespace SqliteServer

open Json Files

/-- A plain name with separators after it, and nothing but dots between them. -/
def HasTrailing (name : String) : Prop :=
  ∃ entry trailing,
    elements name = entry :: trailing
    ∧ trailing ≠ []
    ∧ trailing.all isTrivial = true
    ∧ PlainName entry

section Check

variable {World Conn Stmt : Type} {backend : Backend World Conn Stmt} {config : Config}
  {world : World} {name : String}

/-- What leads nowhere is accepted if it is a plain name, whatever separators follow it. -/
theorem isSafeDatabaseName_missing
    (missing : backend.pathExists world (join config.databasesFolder name) = false)
    : isSafeDatabaseName backend config world name = true
      ↔ PlainName name ∨ HasTrailing name := by
  constructor
  · intro safe
    unfold isSafeDatabaseName at safe
    split at safe
    · contradiction
    · rename_i nonempty
      split at safe
      · contradiction
      · rename_i relative
        rw [Bool.not_eq_true] at relative
        split at safe
        · rename_i entry one
          obtain ⟨trailing, parts, trivial, plain⟩ :=
            elements_of_components relative nonempty one
          cases trailing with
          | nil =>
              refine Or.inl ?_
              have same : name = entry :=
                elements_injective (parts.trans (elements_of_noSlash plain.2.2.2).symm)
              rwa [same]
          | cons part rest => exact Or.inr ⟨entry, part :: rest, parts, nofun, trivial, plain⟩
        · contradiction
  · intro either
    obtain ⟨entry, trailing, parts, trivial, plain⟩ :
        ∃ entry trailing, elements name = entry :: trailing ∧ trailing.all isTrivial = true
          ∧ PlainName entry := by
      rcases either with plain | ⟨entry, trailing, parts, -, trivial, plain⟩
      · exact ⟨name, [], elements_of_noSlash plain.2.2.2, rfl, plain⟩
      · exact ⟨entry, trailing, parts, trivial, plain⟩
    obtain ⟨nonempty, relative, one⟩ := components_of_elements parts trivial plain
    simp [isSafeDatabaseName, nonempty, relative, one, missing]

/-- A name with trailing separators is no plain name. -/
theorem not_plainName_of_hasTrailing (trailing : HasTrailing name) : ¬ PlainName name := by
  obtain ⟨entry, rest, parts, more, -, -⟩ := trailing
  rintro ⟨-, -, -, noSlash⟩
  rw [elements_of_noSlash noSlash] at parts
  exact more (List.cons.inj parts).2.symm

/-- Plain names in one folder lead to different entries. -/
theorem join_injective {folder other : String} (absolute : isAbsolute folder = true)
    (plain : PlainName name) (otherPlain : PlainName other)
    (same : components (join folder name) = components (join folder other))
    : name = other := by
  have folderNonempty : folder ≠ "" := by
    rintro rfl
    simp [isAbsolute] at absolute
  have joined (n : String) (p : PlainName n)
      : components (join folder n)
        = (if isAbsolute (join folder n) then [.rootDir]
            else if (elements (join folder n)).head? = some "." then [.curDir] else [])
          ++ (folderElements folder).filterMap component? ++ [.normal n] := by
    obtain ⟨-, relative, -⟩ := components_of_elements (elements_of_noSlash p.2.2.2) rfl p
    have single : component? n = some (.normal n) := by
      simp [component?, p.1, p.2.1, p.2.2.1]
    rw [components, elements_join relative folderNonempty, List.filterMap_append,
      elements_of_noSlash p.2.2.2, List.filterMap_cons, single, List.append_assoc]
    rfl
  have last := congrArg List.getLast? same
  rw [joined name plain, joined other otherPlain, List.getLast?_concat, List.getLast?_concat,
    Option.some.injEq, Component.normal.injEq] at last
  exact last

/-- The name check keeps to the rule for plain names exactly on names without trailing
separators, and two of those that it accepts do not lead to the same entry.
-/
theorem nameCheck_iff (backend : Backend World Conn Stmt) (config : Config)
    (absolute : isAbsolute config.databasesFolder = true) (world : World) (name : String)
    (missing : backend.pathExists world (join config.databasesFolder name) = false)
    : ((isSafeDatabaseName backend config world name = true
          ↔ name ≠ "" ∧ '/' ∉ name.toList ∧ name ≠ "." ∧ name ≠ "..")
        ↔ ¬ HasTrailing name)
      ∧ ∀ other,
          backend.pathExists world (join config.databasesFolder other) = false
          → isSafeDatabaseName backend config world name = true
          → isSafeDatabaseName backend config world other = true
          → ¬ HasTrailing name
          → ¬ HasTrailing other
          → components (join config.databasesFolder name)
            = components (join config.databasesFolder other)
          → name = other := by
  have rule : (name ≠ "" ∧ '/' ∉ name.toList ∧ name ≠ "." ∧ name ≠ "..") ↔ PlainName name := by
    unfold PlainName
    tauto
  constructor
  · rw [rule, isSafeDatabaseName_missing missing]
    constructor
    · intro agrees trailing
      exact not_plainName_of_hasTrailing trailing (agrees.mp (Or.inr trailing))
    · intro noTrailing
      exact ⟨fun either => either.resolve_right noTrailing, Or.inl⟩
  · intro other otherMissing safe otherSafe noTrailing otherNoTrailing same
    have plain := ((isSafeDatabaseName_missing missing).mp safe).resolve_right noTrailing
    have otherPlain :=
      ((isSafeDatabaseName_missing otherMissing).mp otherSafe).resolve_right otherNoTrailing
    exact join_injective absolute plain otherPlain same

end Check

/-- `mydb` and `notes` are accepted and denote different entries. -/
theorem nameCheck_mydb
    : ((isSafeDatabaseName emptyBackend (.standard "/srv/sqlite" "") () "mydb" = true
          ↔ "mydb" ≠ "" ∧ '/' ∉ "mydb".toList ∧ "mydb" ≠ "." ∧ "mydb" ≠ "..")
        ↔ ¬ HasTrailing "mydb")
      ∧ components (join "/srv/sqlite" "mydb") ≠ components (join "/srv/sqlite" "notes") := by
  obtain ⟨rule, entries⟩ :=
    nameCheck_iff emptyBackend (.standard "/srv/sqlite" "") (by decide) () "mydb" rfl
  have noTrailing (name : String) (plain : PlainName name) : ¬ HasTrailing name := fun trailing =>
    not_plainName_of_hasTrailing trailing plain
  refine ⟨rule, fun same => ?_⟩
  have equal := entries "notes" rfl (by decide) (by decide) (noTrailing _ (by decide))
    (noTrailing _ (by decide)) same
  exact absurd equal (by decide)

/-- `mydb/` is accepted, has a separator and denotes the entry `mydb`. -/
theorem nameCheck_separator
    : ¬ ∀ (backend : Backend Unit Unit Unit) (config : Config) (name : String),
        backend.pathExists () (join config.databasesFolder name) = false
        → (isSafeDatabaseName backend config () name = true
          ↔ name ≠ "" ∧ '/' ∉ name.toList ∧ name ≠ "." ∧ name ≠ "..") := by
  intro claim
  have rule := claim emptyBackend (.standard "/srv/sqlite" "") "mydb/" rfl
  exact absurd (rule.mp (by decide)).2.1 (by decide)

end SqliteServer
