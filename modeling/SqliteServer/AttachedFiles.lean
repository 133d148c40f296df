import SqliteServer.AttachedEngine
import SqliteServer.DatabaseFiles
import Mathlib.Data.List.Infix
import Mathlib.Data.List.Nodup

/-! What attached connections do to files: they change those of their own databases and no others,
and find what they left.
-/

namespace SqliteServer

open Files

-----------------------------------------------------------------------------------------
-- Changes within a database
-----------------------------------------------------------------------------------------

section Within

variable {γ Local : Type} {locs : List Loc} {held : Nat → Prop}
  {files files' files'' : FileSystem γ}

theorem Within.refl (locs : List Loc) (held : Nat → Prop) (files : FileSystem γ)
    : Within locs held files files :=
  ⟨fun _ _ => rfl, fun _ _ there => .inl there, fun _ _ _ new _ there => absurd there new,
    Nat.le_refl _, fun _ _ _ _ => rfl⟩

/-- A file that was not at a location before is new, and numbered by then. -/
theorem Within.new (within : Within locs held files files') {loc : Loc} {inode : Nat}
    (before : files.nodes loc ≠ some (.file inode))
    (after : files'.nodes loc = some (.file inode))
    : files.nextInode ≤ inode ∧ inode < files'.nextInode := by
  rcases within.regular loc _ after with was | ⟨i, file, bounds⟩
  · exact absurd was before
  · obtain rfl := Node.file.inj file
    exact bounds

/-- One change after the other: what is new after the second was not there before the first. -/
theorem Within.trans (first : Within locs held files files')
    (second : Within locs held files' files'')
    : Within locs held files files'' := by
  refine ⟨?_, ?_, ?_, Nat.le_trans first.nextInode second.nextInode, ?_⟩
  · intro loc outside
    exact (second.nodes loc outside).trans (first.nodes loc outside)
  · intro loc node there
    rcases second.regular loc node there with middle | ⟨inode, file, new, numbered⟩
    · rcases first.regular loc node middle with was | ⟨inode, file, new, numbered⟩
      · exact .inl was
      · exact .inr ⟨inode, file, new, Nat.lt_of_lt_of_le numbered second.nextInode⟩
    · exact .inr ⟨inode, file, Nat.le_trans first.nextInode new, numbered⟩
  · intro loc loc' inode before before' there there'
    by_cases middle : files'.nodes loc = some (.file inode)
    · by_cases middle' : files'.nodes loc' = some (.file inode)
      · exact first.fresh loc loc' inode before before' middle middle'
      · have old := (first.new before middle).2
        exact absurd (second.new middle' there').1 (Nat.not_le.mpr old)
    · by_cases middle' : files'.nodes loc' = some (.file inode)
      · have old := (first.new before' middle').2
        exact absurd (second.new middle there).1 (Nat.not_le.mpr old)
      · exact second.fresh loc loc' inode middle middle' there there'
  · intro inode old free elsewhere
    rw [second.contents inode (Nat.lt_of_lt_of_le old first.nextInode) free,
      first.contents inode old free elsewhere]
    intro loc member middle
    exact absurd (first.new (elsewhere loc member) middle).1 (Nat.not_le.mpr old)

/-- What is held open is written. -/
theorem within_setContents {inode : Nat} (holds : held inode) (data : γ)
    : Within locs held files (files.setContents inode data) := by
  refine ⟨fun _ _ => rfl, fun _ _ there => .inl there, fun _ _ _ new _ there => absurd there new,
    Nat.le_refl _, ?_⟩
  intro other _ free _
  refine if_neg ?_
  rintro rfl
  exact free holds

/-- A file is created where nothing was. -/
theorem within_createFile {loc : Loc} (member : loc ∈ locs) (data : γ)
    : Within locs held files (files.createFile loc data) := by
  have self := files.nodes_createFile_self loc data
  have created {loc' : Loc} {inode : Nat}
      (before : files.nodes loc' ≠ some (.file inode))
      (there : (files.createFile loc data).nodes loc' = some (.file inode))
      : loc' = loc := by
    by_contra different
    rw [files.nodes_createFile_other different] at there
    exact before there
  refine ⟨?_, ?_, ?_, Nat.le_succ _, ?_⟩
  · intro other outside
    refine files.nodes_createFile_other ?_ data
    rintro rfl
    exact outside member
  · intro loc' node' there
    by_cases same : loc' = loc
    · subst same
      obtain rfl := Option.some.inj (self.symm.trans there)
      exact .inr ⟨files.nextInode, rfl, Nat.le_refl _, Nat.lt_succ_self _⟩
    · rw [files.nodes_createFile_other same] at there
      exact .inl there
  · intro loc₁ loc₂ inode before before' there there'
    rw [created before there, created before' there']
  · intro inode old _ _
    exact if_neg (Nat.ne_of_lt old)

/-- What is at a location is removed. -/
theorem within_removeNode {loc : Loc} (member : loc ∈ locs)
    : Within locs held files (files.setNode loc none) := by
  have kept {loc' : Loc} {node' : Node} (there : (files.setNode loc none).nodes loc' = some node')
      : files.nodes loc' = some node' := by
    by_cases same : loc' = loc
    · rw [same, files.nodes_setNode_self] at there
      contradiction
    · rwa [files.nodes_setNode_other same] at there
  refine ⟨?_, fun _ _ there => .inl (kept there),
    fun _ _ _ new _ there => absurd (kept there) new, Nat.le_refl _, fun _ _ _ _ => rfl⟩
  intro other outside
  refine files.nodes_setNode_other ?_ none
  rintro rfl
  exact outside member

/-- The file at a location is written. -/
theorem within_writeAt {loc : Loc} {inode : Nat} (member : loc ∈ locs)
    (node : files.nodes loc = some (.file inode)) (data : γ)
    : Within locs held files (files.setContents inode data) := by
  refine ⟨fun _ _ => rfl, fun _ _ there => .inl there, fun _ _ _ new _ there => absurd there new,
    Nat.le_refl _, ?_⟩
  intro other _ _ elsewhere
  refine if_neg ?_
  rintro rfl
  exact elsewhere loc member node

/-- What is at a location is written, created or removed, or stays. -/
theorem within_leaveAt {loc : Loc} (member : loc ∈ locs) (data? : Option γ)
    : Within locs held files (files.leaveAt loc data?) := by
  unfold FileSystem.leaveAt
  cases node : files.nodes loc with
  | none =>
      cases data? with
      | none => exact Within.refl locs held files
      | some data => exact within_createFile member data
  | some kind =>
      cases kind with
      | dir => exact Within.refl locs held files
      | symlink target => exact Within.refl locs held files
      | file inode =>
          cases data? with
          | some data => exact within_writeAt member node data
          | none => exact within_removeNode member

theorem within_leaveParts {parts : List (Loc × Option γ)}
    (inside : ∀ part ∈ parts, part.1 ∈ locs) (files : FileSystem γ)
    : Within locs held files (files.leaveParts parts) := by
  induction parts generalizing files with
  | nil => exact Within.refl locs held files
  | cons part rest ih =>
      exact (within_leaveAt (inside part List.mem_cons_self) part.2).trans
        (ih (fun later member => inside later (List.mem_cons_of_mem _ member)) _)

/-- Elsewhere nothing is left. -/
theorem nodes_leaveAt_other {loc other : Loc} (different : other ≠ loc) (data? : Option γ)
    : (files.leaveAt loc data?).nodes other = files.nodes other := by
  have within : Within [loc] (fun _ => False) files (files.leaveAt loc data?) :=
    within_leaveAt List.mem_cons_self data?
  refine within.nodes other ?_
  rwa [List.mem_singleton]

theorem nodes_leaveParts_other {parts : List (Loc × Option γ)} {loc : Loc}
    (outside : loc ∉ parts.map Prod.fst) (files : FileSystem γ)
    : (files.leaveParts parts).nodes loc = files.nodes loc := by
  have within : Within (parts.map Prod.fst) (fun _ => False) files (files.leaveParts parts) :=
    within_leaveParts (fun _ member => List.mem_map_of_mem member) files
  exact within.nodes loc outside

/-- An image is left in files that are held open. -/
theorem within_leaveHeld (locs : List Loc) {opened : Opened Local}
    (self : held opened.conn.inode) (sidecars : ∀ s inode, opened.held s = some inode → held inode)
    (files : FileSystem γ) (image : Image γ)
    : Within locs held files (files.leaveHeld opened image) := by
  have one (s : Sidecar) (files : FileSystem γ)
      : Within locs held files (files.leaveSidecar opened image s) := by
    unfold FileSystem.leaveSidecar
    split
    · rename_i inode data found _
      exact within_setContents (sidecars s inode found) data
    · exact Within.refl locs held files
  have each (list : List Sidecar) (files : FileSystem γ)
      : Within locs held files
          (list.foldl (fun files s => files.leaveSidecar opened image s) files) := by
    induction list generalizing files with
    | nil => exact Within.refl locs held files
    | cons s rest ih => exact (one s files).trans (ih _)
  exact (within_setContents self image.main).trans (each Sidecar.all _)

end Within

-----------------------------------------------------------------------------------------
-- Places of an image
-----------------------------------------------------------------------------------------

theorem Sidecar.mem_ownNames (s : Sidecar) (db : String) : db ++ s.ending ∈ ownNames db := by
  cases s <;> simp [ownNames, Sidecar.ending]

namespace Attachment

variable {γ : Type} (conn : Attachment)

theorem home_ownFiles : conn.home ∈ ownFiles conn.home :=
  mem_ownFiles.mpr List.mem_cons_self

theorem sidecar_ownFiles (s : Sidecar) : conn.sidecar s ∈ ownFiles conn.home :=
  mem_ownFiles.mpr (s.mem_ownNames conn.name)

theorem parts_ownFiles {image : Image γ} {part : Loc × Option γ} (member : part ∈ conn.parts image)
    : part.1 ∈ ownFiles conn.home := by
  rcases List.mem_cons.mp member with rfl | beside
  · exact conn.home_ownFiles
  · obtain ⟨s, -, rfl⟩ := List.mem_map.mp beside
    exact conn.sidecar_ownFiles s

/-- No sidecar has the name of the database. -/
theorem sidecar_ne_home (s : Sidecar) : conn.sidecar s ≠ conn.home := by
  intro same
  have names := congrArg String.length (List.singleton_inj.mp (List.append_cancel_left same))
  rw [String.length_append] at names
  cases s <;> simp [Sidecar.ending] at names

theorem sidecar_injective {s t : Sidecar} (same : conn.sidecar s = conn.sidecar t) : s = t := by
  have names := List.singleton_inj.mp (List.append_cancel_left same)
  have endings := (String.append_right_inj conn.name).mp names
  revert endings
  cases s <;> cases t <;> decide

/-- The parts of an image have different places. -/
theorem parts_nodup (image : Image γ) : ((conn.parts image).map Prod.fst).Nodup := by
  rw [parts, List.map_cons, List.map_map, List.nodup_cons]
  constructor
  · intro member
    obtain ⟨s, -, same⟩ := List.mem_map.mp member
    exact conn.sidecar_ne_home s same
  · exact List.Nodup.map (fun _ _ same => conn.sidecar_injective same) (by decide)

end Attachment

-----------------------------------------------------------------------------------------
-- Finding what was left
-----------------------------------------------------------------------------------------

section Left

variable {γ : Type} {folder : String} {base : Loc} {files : FileSystem γ}

/-- What was left at a location is found there. -/
theorem contentsAt_leaveAt {loc : Loc} (noDir : files.nodes loc ≠ some .dir)
    (noLink : ∀ target, files.nodes loc ≠ some (.symlink target)) (data? : Option γ)
    : (files.leaveAt loc data?).contentsAt loc = data?
      ∧ (files.leaveAt loc data?).nodes loc ≠ some .dir := by
  unfold FileSystem.leaveAt
  cases node : files.nodes loc with
  | none =>
      cases data? with
      | none => exact ⟨by rw [FileSystem.contentsAt, node], by simp [node]⟩
      | some data =>
          have self := files.nodes_createFile_self loc data
          refine ⟨?_, by simp [self]⟩
          rw [FileSystem.contentsAt, self]
          exact congrArg some (if_pos rfl)
  | some kind =>
      cases kind with
      | dir => exact absurd node noDir
      | symlink target => exact absurd node (noLink target)
      | file inode =>
          cases data? with
          | none =>
              have self := files.nodes_setNode_self loc none
              exact ⟨by rw [FileSystem.contentsAt, self], by simp [self]⟩
          | some data =>
              have self : (files.setContents inode data).nodes loc = some (.file inode) := node
              refine ⟨?_, by simp [self]⟩
              rw [FileSystem.contentsAt, self]
              exact congrArg some (if_pos rfl)

/-- What is at other entries of a plain folder stays there. -/
theorem contentsAt_leaveAt_other (plain : PlainFiles folder base files) {name other : String}
    (different : other ≠ name) (data? : Option γ)
    : (files.leaveAt (base ++ [name]) data?).contentsAt (base ++ [other])
      = files.contentsAt (base ++ [other]) := by
  have within : Within [base ++ [name]] (fun _ => False) files
      (files.leaveAt (base ++ [name]) data?) :=
    within_leaveAt List.mem_cons_self data?
  have elsewhere : base ++ [other] ∉ [base ++ [name]] := by simpa using different
  unfold FileSystem.contentsAt
  rw [within.nodes _ elsewhere]
  cases node : files.nodes (base ++ [other]) with
  | none => rfl
  | some kind =>
      cases kind with
      | dir => rfl
      | symlink target => rfl
      | file inode =>
          refine congrArg some
            (within.contents inode (plain.numbered other inode node) (fun held => held) ?_)
          intro loc member there
          rw [List.mem_singleton.mp member] at there
          exact different (plain.single other name inode node there)

theorem Files.PlainFiles.leaveAt (plain : PlainFiles folder base files) (name : String)
    (data? : Option γ)
    : PlainFiles folder base (files.leaveAt (base ++ [name]) data?) := by
  have within : Within (ownFiles (base ++ [name])) (fun _ => False) files
      (files.leaveAt (base ++ [name]) data?) :=
    within_leaveAt (mem_ownFiles.mpr List.mem_cons_self) data?
  exact within.plainFiles plain

/-- What was left at several entries of a plain folder is found there, by induction on them. -/
theorem Files.PlainFiles.leaveParts (plain : PlainFiles folder base files)
    {parts : List (Loc × Option γ)} (entries : ∀ part ∈ parts, ∃ name, part.1 = base ++ [name])
    (distinct : (parts.map Prod.fst).Nodup)
    (noDir : ∀ part ∈ parts, files.nodes part.1 ≠ some .dir)
    : PlainFiles folder base (files.leaveParts parts)
      ∧ (∀ part ∈ parts,
          (files.leaveParts parts).contentsAt part.1 = part.2
          ∧ (files.leaveParts parts).nodes part.1 ≠ some .dir)
      ∧ ∀ name,
          base ++ [name] ∉ parts.map Prod.fst
          → (files.leaveParts parts).contentsAt (base ++ [name])
            = files.contentsAt (base ++ [name]) := by
  induction parts generalizing files with
  | nil => exact ⟨plain, fun _ member => absurd member List.not_mem_nil, fun _ _ => rfl⟩
  | cons part rest ih =>
      obtain ⟨loc, data?⟩ := part
      obtain ⟨name, rfl⟩ : ∃ name, loc = base ++ [name] := entries _ List.mem_cons_self
      rw [List.map_cons, List.nodup_cons] at distinct
      obtain ⟨left, noDirLeft⟩ :=
        contentsAt_leaveAt (noDir _ List.mem_cons_self) (plain.linkless name) data?
      have others {part : Loc × Option γ} (member : part ∈ rest)
          : (files.leaveAt (base ++ [name]) data?).nodes part.1 = files.nodes part.1 := by
        refine nodes_leaveAt_other ?_ data?
        intro same
        have inRest : part.1 ∈ rest.map Prod.fst := List.mem_map_of_mem member
        exact distinct.1 (same ▸ inRest)
      obtain ⟨still, found, kept⟩ := ih (plain.leaveAt name data?)
        (fun later member => entries later (List.mem_cons_of_mem _ member)) distinct.2
        (fun later member => others member ▸ noDir later (List.mem_cons_of_mem _ member))
      have last
          : (((files.leaveAt (base ++ [name]) data?).leaveParts rest).nodes (base ++ [name]))
            = (files.leaveAt (base ++ [name]) data?).nodes (base ++ [name]) :=
        nodes_leaveParts_other distinct.1 _
      refine ⟨still, ?_, ?_⟩
      · intro later member
        rcases List.mem_cons.mp member with rfl | inRest
        · exact ⟨(kept name distinct.1).trans left, last ▸ noDirLeft⟩
        · exact found later inRest
      · intro other outside
        rw [List.map_cons, List.mem_cons, not_or] at outside
        refine (kept other outside.2).trans (contentsAt_leaveAt_other plain ?_ data?)
        rintro rfl
        exact outside.1 rfl

/-- The files of a connection's database are there, by the names that it knows. -/
structure Beside (folder : String) (conn : Attachment) (files : FileSystem γ) : Prop where
  plain : PlainFiles folder conn.parent files
  current : files.IsCurrent conn
  clear : ∀ s, files.nodes (conn.sidecar s) ≠ some .dir

theorem contentsAt_home {conn : Attachment} (current : files.IsCurrent conn)
    : files.contentsAt conn.home = some (files.contents conn.inode) := by
  rw [FileSystem.contentsAt, show files.nodes conn.home = some (.file conn.inode) from current]

/-- A connection finds the image that was left by name. -/
theorem Beside.leaveParts {conn : Attachment} (beside : Beside folder conn files)
    (image : Image γ)
    : Beside folder conn (files.leaveParts (conn.parts image))
      ∧ (files.leaveParts (conn.parts image)).imageAt conn.parent conn.name conn.inode = image := by
  have noDir : ∀ part ∈ conn.parts image, files.nodes part.1 ≠ some .dir := by
    intro part member
    rcases List.mem_cons.mp member with rfl | sidecar
    · intro dir
      exact absurd (beside.current.symm.trans dir) (by simp)
    · obtain ⟨s, -, rfl⟩ := List.mem_map.mp sidecar
      exact beside.clear s
  have entries : ∀ part ∈ conn.parts image, ∃ name, part.1 = conn.parent ++ [name] := by
    intro part member
    rcases List.mem_cons.mp member with rfl | sidecar
    · exact ⟨conn.name, rfl⟩
    · obtain ⟨s, -, rfl⟩ := List.mem_map.mp sidecar
      exact ⟨conn.name ++ s.ending, rfl⟩
  obtain ⟨plain, found, -⟩ :=
    beside.plain.leaveParts entries (conn.parts_nodup image) noDir
  have inParts (s : Sidecar) : (conn.sidecar s, image.sidecars s) ∈ conn.parts image :=
    List.mem_cons_of_mem _ (List.mem_map.mpr ⟨s, by cases s <;> decide, rfl⟩)
  have current : (files.leaveParts (conn.parts image)).IsCurrent conn := by
    have same : files.leaveAt conn.home (some image.main)
        = files.setContents conn.inode image.main := by
      unfold FileSystem.leaveAt
      rw [show files.nodes conn.home = some (.file conn.inode) from beside.current]
    have rest
        : ((files.leaveAt conn.home (some image.main)).leaveParts
            (Sidecar.all.map (fun s => (conn.sidecar s, image.sidecars s)))).nodes conn.home
          = (files.leaveAt conn.home (some image.main)).nodes conn.home := by
      refine nodes_leaveParts_other ?_ _
      rw [List.map_map]
      intro member
      obtain ⟨s, -, home⟩ := List.mem_map.mp member
      exact conn.sidecar_ne_home s home
    exact rest.trans (same ▸ beside.current)
  refine ⟨⟨plain, current, fun s => (found _ (inParts s)).2⟩, ?_⟩
  have main := (found _ List.mem_cons_self).1
  dsimp only at main
  rw [contentsAt_home current, Option.some.injEq] at main
  rw [FileSystem.imageAt, main, Image.mk.injEq]
  exact ⟨rfl, funext fun s => (found _ (inParts s)).1⟩

end Left

-----------------------------------------------------------------------------------------
-- Open connections
-----------------------------------------------------------------------------------------

namespace Handles

variable {Local : Type} {handles : Handles Local} {conn other : Attachment} {opened : Opened Local}

theorem find_eq_some
    : handles.find conn = some opened
      ↔ handles.opened conn.handle = some opened ∧ opened.conn = conn := by
  rw [find, Option.filter_eq_some_iff, decide_eq_true_eq]

/-- What is open as a connection after another was set. -/
theorem find_set {opened? : Option (Opened Local)}
    (own : ∀ opened ∈ opened?, opened.conn = conn)
    : (handles.set conn.handle opened?).find other = if other = conn then opened?
      else if other.handle = conn.handle then none else handles.find other := by
  rw [find, set]
  dsimp only
  by_cases same : other = conn
  · subst same
    rw [if_pos rfl, if_pos rfl]
    cases opened? with
    | none => rfl
    | some opened => simp [own opened rfl]
  · rw [if_neg same]
    by_cases handle : other.handle = conn.handle
    · rw [if_pos handle, if_pos handle]
      cases opened? with
      | none => rfl
      | some opened =>
          have different : opened.conn ≠ other := by
            rw [own opened rfl]
            exact Ne.symm same
          simp [different]
    · rw [if_neg handle, if_neg handle]
      rfl

end Handles

section Use

variable {γ Local Stmt : Type} (sqlite : Sqlite γ Local Stmt)

/-- Attached connections are at home where they opened their files. -/
def attachedUse : FileUse (Handles Local) Attachment Stmt where
  home := Attachment.home
  held := fun handles conn inode =>
    ∃ opened,
      handles.find conn = some opened
      ∧ (inode = conn.inode ∨ ∃ s, opened.held s = some inode)
  ownText := fun sql => sqlite.ownText sql = true
  ownStmt := fun stmt => sqlite.ownStmt stmt = true

variable {sqlite}

/-- What a connection holds beside its database is a file there. -/
theorem nodes_of_heldBy {files : FileSystem γ} {conn : Attachment} {s : Sidecar} {inode : Nat}
    (held : files.heldBy conn s = some inode)
    : files.nodes (conn.sidecar s) = some (.file inode) := by
  unfold FileSystem.heldBy FileSystem.inodeAt at held
  split at held
  · rename_i i node
    rw [Option.some.inj held] at node
    exact node
  · contradiction

theorem effect_refl (loc : Loc) (holder : Nat → Prop) (disk : Disk γ (Handles Local))
    : Effect (attachedUse sqlite) loc holder disk disk :=
  ⟨Within.refl _ _ _, fun _ _ held => .inl held⟩

/-- A connection that leaves an image changes the files of its own database, or those it holds. -/
theorem leave_effect (disk : Disk γ (Handles Local)) (conn : Attachment)
    (left : Image γ × Local)
    : Effect (attachedUse sqlite) conn.home ((attachedUse sqlite).held disk.engine conn) disk
        (disk.leave conn left) := by
  unfold Disk.leave
  cases found : disk.engine.find conn with
  | none => exact effect_refl _ _ disk
  | some opened =>
      obtain ⟨-, own⟩ := Handles.find_eq_some.mp found
      dsimp only
      split_ifs with current
      · have within : Within (ownFiles conn.home) ((attachedUse sqlite).held disk.engine conn)
            disk.files (disk.files.leaveParts (conn.parts left.1)) :=
          within_leaveParts (fun _ member => conn.parts_ownFiles member) _
        generalize disk.files.leaveParts (conn.parts left.1) = files at within ⊢
        refine ⟨within, ?_⟩
        rintro other inode ⟨now, there, holds⟩
        dsimp only at there
        rw [Handles.find_set (by simp)] at there
        split_ifs at there with same
        · subst same
          obtain rfl := Option.some.inj there
          rcases holds with rfl | ⟨s, beside⟩
          · exact .inl ⟨opened, found, .inl rfl⟩
          · exact .inr ⟨other.sidecar s, other.sidecar_ownFiles s, .inr (nodes_of_heldBy beside)⟩
        · exact .inl ⟨now, there, holds⟩
      · refine ⟨within_leaveHeld _ ?_ ?_ _ _, ?_⟩
        · rw [own]
          exact ⟨opened, found, .inl rfl⟩
        · intro s inode held
          exact ⟨opened, found, .inr ⟨s, held⟩⟩
        · rintro other inode ⟨now, there, holds⟩
          dsimp only at there
          rw [Handles.find_set (by simp [own])] at there
          split_ifs at there with same
          · subst same
            obtain rfl := Option.some.inj there
            exact .inl ⟨opened, found, holds⟩
          · exact .inl ⟨now, there, holds⟩

/-- Attaching changes the files of the database that is opened. -/
theorem attach_effect {disk : Disk γ (Handles Local)} {loc : Loc} {inode : Nat}
    (there : disk.files.nodes loc = some (.file inode))
    : Effect (attachedUse sqlite) loc (fun _ => False) disk (sqlite.attach disk loc inode).2
      ∧ ∀ conn, (sqlite.attach disk loc inode).1 = .ok conn → conn.home = loc := by
  unfold Sqlite.attach
  cases last : loc.getLast? with
  | none => exact ⟨effect_refl _ _ disk, nofun⟩
  | some name =>
      have home : loc.dropLast ++ [name] = loc := List.dropLast_append_getLast? name last
      dsimp only
      generalize same : (⟨loc.dropLast, name, inode, disk.engine.next⟩ : Attachment) = conn
      have atHome : conn.home = loc := by
        rw [← same]
        exact home
      generalize sqlite.renew (disk.files.imageAt loc.dropLast name inode) = before
      have handle : disk.engine.next = conn.handle := by rw [← same]
      have left (image : Image γ)
          : Within (ownFiles loc) (fun _ => False) disk.files
              ((disk.files.leaveParts (conn.parts before)).leaveParts (conn.parts image)) :=
        (within_leaveParts (fun _ member => atHome ▸ conn.parts_ownFiles member) _).trans
          (within_leaveParts (fun _ member => atHome ▸ conn.parts_ownFiles member) _)
      cases sqlite.connect before with
      | mk result image =>
          have within := left image
          cases result with
          | error err =>
              dsimp only
              generalize
                (disk.files.leaveParts (conn.parts before)).leaveParts (conn.parts image) = files
                at within ⊢
              exact ⟨⟨within, fun _ _ held => .inl held⟩, nofun⟩
          | ok state =>
              dsimp only
              generalize
                (disk.files.leaveParts (conn.parts before)).leaveParts (conn.parts image) = files
                at within ⊢
              refine ⟨⟨within, ?_⟩, ?_⟩
              · rintro other held ⟨opened, found, holds⟩
                dsimp only at found
                rw [handle] at found
                have found'
                    : (disk.engine.set conn.handle (some ⟨conn, state, files.heldBy conn⟩)).find
                        other
                      = some opened :=
                  found
                rw [Handles.find_set (by simp)] at found'
                split_ifs at found' with mine
                · subst mine
                  obtain rfl := Option.some.inj found'
                  rcases holds with rfl | ⟨s, beside⟩
                  · refine .inr ⟨other.home, other.home_ownFiles, .inl ?_⟩
                    rw [atHome, there, ← same]
                  · exact .inr
                      ⟨other.sidecar s, other.sidecar_ownFiles s, .inr (nodes_of_heldBy beside)⟩
                · exact .inl ⟨opened, found', holds⟩
              · intro other attached
                rw [← Except.ok.inj attached]
                exact atHome

/-- Closing a connection changes the files of its own database. -/
theorem finish_effect (disk : Disk γ (Handles Local)) (conn : Attachment) (image : Image γ)
    : Effect (attachedUse sqlite) conn.home ((attachedUse sqlite).held disk.engine conn) disk
        (disk.finish conn image) := by
  refine ⟨?_, ?_⟩
  · unfold Disk.finish
    dsimp only
    split_ifs
    · exact within_leaveParts (fun _ member => conn.parts_ownFiles member) _
    · exact Within.refl _ _ _
  · rintro other inode ⟨opened, found, holds⟩
    dsimp only [Disk.finish] at found
    rw [Handles.find_set (by simp)] at found
    split_ifs at found
    exact .inl ⟨opened, found, holds⟩

/-- Attached connections stay at home: each operation changes the files of its database, or those
that its connection holds open.
-/
theorem attachedEngine_staysHome
    : StaysHome (attachedUse sqlite) (attachedEngine sqlite) where
  attach disk loc inode there := attach_effect there
  executeBatch disk conn config := by
    unfold attachedEngine
    dsimp only
    cases disk.get conn with
    | none => exact effect_refl _ _ disk
    | some found => exact leave_effect disk conn _
  prepare disk conn sql own := by
    unfold attachedEngine
    dsimp only
    rw [if_pos (show sqlite.ownText sql = true from own)]
    cases disk.get conn with
    | none => exact ⟨effect_refl _ _ disk, nofun⟩
    | some found =>
        exact ⟨leave_effect disk conn _,
          fun stmt prepared => sqlite.ownStmt_prepare found sql stmt own prepared⟩
  query disk conn stmt own := by
    unfold attachedEngine
    dsimp only
    rw [if_pos (show sqlite.ownStmt stmt = true from own)]
    cases disk.get conn with
    | none => exact effect_refl _ _ disk
    | some found =>
        dsimp only
        generalize sqlite.query found stmt = rows
        induction rows with
        | done left => exact leave_effect disk conn left
        | failed err left => exact leave_effect disk conn left
        | row cells abandoned rest ih => exact ⟨leave_effect disk conn abandoned, ih⟩
  close disk conn := by
    unfold attachedEngine
    dsimp only
    cases disk.get conn with
    | none => exact effect_refl _ _ disk
    | some found => exact finish_effect disk conn _

end Use

-----------------------------------------------------------------------------------------
-- A small engine with a log
-----------------------------------------------------------------------------------------

/-- What the files of a small engine hold: nothing, pages with the table `t` or without it, a log of
such pages, or the number of connections that use the log.
-/
inductive Page where
  | blank
  | pages (table : Bool)
  | log (table : Bool)
  | index (users : Nat)
deriving DecidableEq

def Page.hasTable : Page → Bool
  | .pages table => table
  | .log table => table
  | _ => false

/-- A query, the creation of the table, and a query of the table. -/
inductive TableStatement where
  | one
  | create
  | select
deriving DecidableEq

namespace Image

/-- Whether the table is there: the log knows better than the database. -/
def hasTable (image : Image Page) : Bool := ((image.sidecars .wal).getD image.main).hasTable

def users (image : Image Page) : Nat :=
  match image.sidecars .shm with
  | some (.index users) => users
  | _ => 0

/-- A database with its log in use. -/
def logged (main : Page) (table : Bool) (users : Nat) : Image Page where
  main := main
  sidecars
    | .wal => some (.log table)
    | .shm => some (.index users)
    | .journal => none

/-- The log is in use and is not there. -/
def lost (image : Image Page) : Bool := image.users ≠ 0 && (image.sidecars .wal).isNone

end Image

def ioError : RusqliteError := .sqliteFailure 10 (some "disk I/O error") "disk I/O error"

/-- SQLite in small. A connection that has been set up uses the log beside its database; the last
one that is closed moves the log into the database and removes it.
-/
def walSqlite : Sqlite Page Bool TableStatement where
  policy := ⟨200, true⟩
  empty := .blank
  isNew := fun main => main = .blank
  isNew_empty := rfl
  connect := fun image => (.ok false, image)
  executeBatch := fun (image, joined) _ =>
    if image.lost then (.error ioError, image, joined)
    else if joined then (.ok (), image, joined)
    else (.ok (), .logged (.pages image.main.hasTable) image.hasTable (image.users + 1), true)
  prepare := fun (image, joined) sql =>
    if image.lost then (.error ioError, image, joined)
    else if sql = "SELECT 1" then (.ok .one, image, joined)
    else if sql = "CREATE TABLE t(x)" then
      if image.hasTable then
        (.error (.sqlInputError 1 "table t already exists" sql 13), image, joined)
      else (.ok .create, image, joined)
    else if sql = "SELECT x FROM t" then
      if image.hasTable then (.ok .select, image, joined)
      else
        (.error (.sqliteFailure 1 (some "no such table: t") "SQL logic error"), image, joined)
    else (.error (.sqliteFailure 1 (some "incomplete input") "SQL logic error"), image, joined)
  columnNames
    | .one => ["1"]
    | .create => []
    | .select => ["x"]
  query := fun (image, joined) stmt =>
    match stmt with
    | .one => .row [.integer 1] (image, joined) (.done (image, joined))
    | .create => .done (.logged image.main true image.users, joined)
    | .select => .done (image, joined)
  close := fun (image, joined) =>
    if !joined || image.lost then image
    else if image.users ≤ 1 then .alone (.pages image.hasTable)
    else .logged image.main image.hasTable (image.users - 1)
  ownText := fun _ => true
  ownStmt := fun _ => true
  ownStmt_prepare := fun _ _ _ _ _ => rfl
  foreignPrepare := fun disk _ _ => (.error closedConnection, disk)
  foreignQuery := fun disk _ _ => .failed closedConnection disk

/-- A host with an empty folder `/srv/sqlite`. -/
def emptyFolder : Host Page (Handles Bool) where
  disk :=
    {
      files :=
        {
          entries := [([], .dir), (["srv"], .dir), (["srv", "sqlite"], .dir)]
          contents := fun _ => .blank
          nextInode := 1
        }
      engine := ⟨fun _ => none, 0⟩
    }
  accesses := []

theorem emptyFolder_plain : PlainFiles "/srv/sqlite" ["srv", "sqlite"] emptyFolder.files := by
  have dirs : ∀ front ∈ ["srv", "sqlite"].inits, emptyFolder.files.nodes front = some .dir := by
    decide
  refine .ofEmpty ⟨by decide, by decide, by decide, ?_⟩ ?_
  · intro front isPrefix
    exact dirs front ((List.mem_inits front _).mpr isPrefix)
  · intro name
    refine List.lookup_eq_none_iff.mpr ?_
    simp [emptyFolder, Host.files]

end SqliteServer
