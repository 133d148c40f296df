import SqliteServer.Regex.Matching

/-! A replacement of all matches as a fold over the pieces of the text. -/

namespace SqliteServer.Regex

/-- A character between the matches, or a match. -/
inductive Piece where
  | copied (c : Char)
  | matched (found : Match)

/-- The pieces of a text; `skip` characters still belong to the last match. -/
def Pattern.piecesFrom (pattern : Pattern) : Nat → List Char → List Piece
  | _, [] => []
  | skip + 1, _ :: rest => pattern.piecesFrom skip rest
  | 0, c :: rest =>
      match pattern.matchAt (c :: rest) with
      | some found => .matched found :: pattern.piecesFrom (found.consumed.length - 1) rest
      | none => .copied c :: pattern.piecesFrom 0 rest

section Replace

variable {σ τ : Type}

def replacePieces (replacer : σ → Match → List Char × σ) : σ → List Piece → List Char
  | _, [] => []
  | state, .copied c :: rest => c :: replacePieces replacer state rest
  | state, .matched found :: rest =>
      (replacer state found).1 ++ replacePieces replacer (replacer state found).2 rest

theorem Pattern.replaceFrom_pieces (pattern : Pattern) (replacer : σ → Match → List Char × σ)
    (skip : Nat) (state : σ) (text : List Char)
    : pattern.replaceFrom replacer skip state text
      = replacePieces replacer state (pattern.piecesFrom skip text) := by
  induction text generalizing skip state with
  | nil => cases skip <;> rfl
  | cons c rest ih =>
      cases skip with
      | succ skip => exact ih skip state
      | zero =>
          rw [Pattern.replaceFrom, Pattern.piecesFrom]
          cases pattern.matchAt (c :: rest) with
          | none => simp only [replacePieces, ih]
          | some found => simp only [replacePieces, ih]

/-- Two replacers whose states stay related write the same text if and only if they agree on every
match, provided that they write differently wherever they do not. By induction on the pieces.
-/
theorem replacePieces_eq_iff (Related : σ → τ → Prop) {first : σ → Match → List Char × σ}
    {second : τ → Match → List Char × τ} {Good : Match → Prop} {pieces : List Piece}
    (agree
      : ∀ s t found, Related s t → Good found → .matched found ∈ pieces →
          (first s found).1 = (second t found).1
          ∧ Related (first s found).2 (second t found).2)
    (differ
      : ∀ s t found a b, Related s t → ¬ Good found → .matched found ∈ pieces →
          (first s found).1 ++ a ≠ (second t found).1 ++ b)
    {s : σ} {t : τ} (related : Related s t)
    : replacePieces first s pieces = replacePieces second t pieces
      ↔ ∀ found, .matched found ∈ pieces → Good found := by
  induction pieces generalizing s t with
  | nil => simp [replacePieces]
  | cons piece rest ih =>
      have later := @ih
        (fun s t found inner good member =>
          agree s t found inner good (List.mem_cons_of_mem _ member))
        (fun s t found a b inner bad member =>
          differ s t found a b inner bad (List.mem_cons_of_mem _ member))
      cases piece with
      | copied c =>
          rw [replacePieces, replacePieces, List.cons.injEq, later related]
          simp
      | matched found =>
          rw [replacePieces, replacePieces]
          by_cases good : Good found
          · obtain ⟨same, next⟩ := agree s t found related good List.mem_cons_self
            rw [same, List.append_cancel_left_eq, later next]
            simp [good]
          · refine iff_of_false (differ s t found _ _ related good List.mem_cons_self) ?_
            intro all
            exact good (all found List.mem_cons_self)

end Replace

end SqliteServer.Regex
