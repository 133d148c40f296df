import SqliteServer.KeyRepair

/-! Where the repair pattern matches in the text of a syntax tree. As long as every match is a
whole key, the repaired text is the same tree with its keys in double quotes.
-/

namespace SqliteServer

open Json Regex

-----------------------------------------------------------------------------------------
-- Matches at and after a position
-----------------------------------------------------------------------------------------

/-- At most one quote character. -/
def OptionalQuote (text : Text) : Prop := text = [] ∨ ∃ c, isQuote c = true ∧ text = [c]

theorem dropQuote_split (text : Text)
    : ∃ quote, OptionalQuote quote ∧ text = quote ++ dropQuote text := by
  cases text with
  | nil => exact ⟨[], Or.inl rfl, rfl⟩
  | cons c rest =>
      by_cases quote : isQuote c
      · exact ⟨[c], Or.inr ⟨c, quote, rfl⟩, by simp [dropQuote, quote]⟩
      · exact ⟨[], Or.inl rfl, by simp [dropQuote, quote]⟩

theorem OptionalQuote.dropQuote_append {quote : Text} (optional : OptionalQuote quote)
    {c : Char} (plain : isQuote c = false) (rest : Text)
    : dropQuote (quote ++ c :: rest) = c :: rest := by
  rcases optional with rfl | ⟨d, isQuote, rfl⟩
  · simp [dropQuote, plain]
  · simp [dropQuote, isQuote]

/-- A match is a name with an optional quote on either side and a colon. -/
theorem keyMatch?_iff {text key rest : Text}
    : keyMatch? text = some (key, rest)
      ↔ ∃ before after,
          OptionalQuote before
          ∧ OptionalQuote after
          ∧ key ≠ []
          ∧ key.all isKeyChar = true
          ∧ text = before ++ (key ++ (after ++ ':' :: rest)) := by
  constructor
  · intro matched
    obtain ⟨before, opening, split⟩ := dropQuote_split text
    obtain ⟨after, closing, close⟩ := dropQuote_split ((dropQuote text).dropWhile isKeyChar)
    rw [keyMatch?] at matched
    split at matched
    · rename_i tail colon
      split at matched
      · contradiction
      · rename_i nonempty
        obtain ⟨rfl, rfl⟩ := Prod.mk.inj (Option.some.inj matched)
        refine ⟨before, after, opening, closing, nonempty, List.all_takeWhile, ?_⟩
        rw [← colon, ← close, List.takeWhile_append_dropWhile]
        exact split
    · contradiction
  · rintro ⟨before, after, opening, closing, nonempty, chars, rfl⟩
    obtain ⟨c, others, rfl⟩ := List.exists_cons_of_ne_nil nonempty
    have all := List.all_eq_true.mp chars
    have body := opening.dropQuote_append (isKeyChar_plain (all c (by simp))).1
      (others ++ (after ++ ':' :: rest))
    have colon := closing.dropQuote_append (c := ':') (by decide) rest
    have stop : (after ++ ':' :: rest).takeWhile isKeyChar = []
        ∧ (after ++ ':' :: rest).dropWhile isKeyChar = after ++ ':' :: rest := by
      rcases closing with rfl | ⟨d, quote, rfl⟩
      · simp [show isKeyChar ':' = false by decide]
      · have plain : isKeyChar d = false := by
          by_contra key
          have := (isKeyChar_plain (by simpa using key)).1
          simp [quote] at this
        simp [plain]
    rw [List.cons_append] at *
    rw [keyMatch?, body, ← List.cons_append, List.takeWhile_append_of_pos all,
      List.dropWhile_append_of_pos all, stop.1, stop.2, colon]
    simp

/-- A name begins no match across a colon-free text, whatever surrounds it. -/
theorem keyMatch?_none {text : Text} (noColon : ':' ∉ text) : keyMatch? text = none := by
  cases matched : keyMatch? text with
  | none => rfl
  | some found =>
      obtain ⟨before, after, -, -, -, -, rfl⟩ := keyMatch?_iff.mp matched
      simp at noColon

/-- Only a quote, a letter or a digit can begin a match. -/
theorem keyMatch?_head {c : Char} (quote : isQuote c = false) (key : isKeyChar c = false)
    (rest : Text)
    : keyMatch? (c :: rest) = none := by
  simp only [keyMatch?, dropQuote, quote, Bool.false_eq_true, if_false, List.takeWhile_cons, key,
    if_true]
  split <;> rfl

theorem keyMatch?_append {text key rest : Text} (matched : keyMatch? text = some (key, rest))
    (more : Text)
    : keyMatch? (text ++ more) = some (key, rest ++ more) := by
  obtain ⟨before, after, opening, closing, nonempty, chars, rfl⟩ := keyMatch?_iff.mp matched
  exact keyMatch?_iff.mpr
    ⟨before, after, opening, closing, nonempty, chars, by simp [List.append_assoc]⟩

/-- A text that continues no match begun before it. -/
def Apart (text : Text) : Prop :=
  ∀ c, text.head? = some c → isKeyChar c = false ∧ isQuote c = false ∧ c ≠ ':'

theorem Json.Delimited.apart {text : Text} (delimited : Delimited text) : Apart text := by
  intro c head
  rcases delimited c head with space | rfl | rfl | rfl
  · simp only [isSpace, Bool.or_eq_true, decide_eq_true_eq] at space
    rcases space with ((rfl | rfl) | rfl) | rfl <;> decide
  · decide
  · decide
  · decide

/-- No match crosses into an apart text, nor out of a text that contains a colon. -/
theorem keyMatch?_append_none {text more : Text} (unmatched : keyMatch? text = none)
    (sealed : Apart more ∨ ':' ∈ text)
    : keyMatch? (text ++ more) = none := by
  cases crossing : keyMatch? (text ++ more) with
  | none => rfl
  | some found =>
      obtain ⟨key, rest⟩ := found
      obtain ⟨before, after, opening, closing, nonempty, chars, split⟩ :=
        keyMatch?_iff.mp crossing
      have inside (c : Char) (member : c ∈ before ++ (key ++ after))
          : isKeyChar c = true ∨ isQuote c = true := by
        rcases List.mem_append.mp member with first | later
        · rcases opening with rfl | ⟨d, quote, rfl⟩
          · simp at first
          · exact Or.inr (List.mem_singleton.mp first ▸ quote)
        · rcases List.mem_append.mp later with name | last
          · exact Or.inl (List.all_eq_true.mp chars c name)
          · rcases closing with rfl | ⟨d, quote, rfl⟩
            · simp at last
            · exact Or.inr (List.mem_singleton.mp last ▸ quote)
      have noColon : ':' ∉ before ++ (key ++ after) := by
        intro member
        rcases inside ':' member with name | quote
        · exact absurd name (by decide)
        · exact absurd quote (by decide)
      rw [show before ++ (key ++ (after ++ ':' :: rest))
        = (before ++ (key ++ after)) ++ ':' :: rest by simp [List.append_assoc]] at split
      rcases List.append_eq_append_iff.mp split with ⟨part, whole, tail⟩ | ⟨part, whole, tail⟩
      · -- The match reaches into `more`: its next character there is its own or its colon.
        rcases sealed with apart | colon
        · cases part with
          | nil => exact absurd rfl (apart ':' (by simp [tail])).2.2
          | cons c others =>
              have plain := apart c (by simp [tail])
              rcases inside c (by simp [whole]) with name | quote
              · simp [plain.1] at name
              · simp [plain.2.1] at quote
        · exact absurd (by simp [whole, colon]) noColon
      · cases part with
        | nil =>
            rcases sealed with apart | colon
            · have seen := apart ':' (by simp [← show ':' :: rest = more by simpa using tail])
              exact absurd rfl seen.2.2
            · exact absurd (by simpa [whole] using colon) noColon
        | cons c others =>
            -- The colon already lies in `text`, so `text` has the match itself.
            obtain ⟨rfl, rfl⟩ := List.cons.inj tail
            have matched : keyMatch? text = some (key, others) :=
              keyMatch?_iff.mpr
                ⟨before, after, opening, closing, nonempty, chars,
                  by rw [whole]; simp [List.append_assoc]⟩
            simp [unmatched] at matched

-----------------------------------------------------------------------------------------
-- The first match of a text
-----------------------------------------------------------------------------------------

/-- The text before the first match, its name, and the text after it. -/
def firstMatch? : Text → Option (Text × Text × Text)
  | [] => none
  | c :: tail =>
      match keyMatch? (c :: tail) with
      | some (key, rest) => some ([], key, rest)
      | none => (firstMatch? tail).map (fun found => (c :: found.1, found.2))

/-- A first match splits its text, by induction up to the match. -/
theorem firstMatch?_split {text before key rest : Text}
    (first : firstMatch? text = some (before, key, rest))
    : ∃ tail, text = before ++ tail ∧ keyMatch? tail = some (key, rest) := by
  induction text generalizing before with
  | nil => simp [firstMatch?] at first
  | cons c others ih =>
      cases here : keyMatch? (c :: others) with
      | some found =>
          simp only [firstMatch?, here, Option.some.injEq, Prod.mk.injEq] at first
          obtain ⟨rfl, rfl, rfl⟩ := first
          exact ⟨c :: others, rfl, here⟩
      | none =>
          simp only [firstMatch?, here, Option.map_eq_some_iff, Prod.exists, Prod.mk.injEq]
            at first
          obtain ⟨part, _, _, later, rfl, rfl, rfl⟩ := first
          obtain ⟨tail, rfl, matched⟩ := ih later
          exact ⟨tail, rfl, matched⟩

theorem firstMatch?_none {text : Text} (noColon : ':' ∉ text) : firstMatch? text = none := by
  induction text with
  | nil => rfl
  | cons c others ih =>
      simp only [List.mem_cons, not_or] at noColon
      have here : keyMatch? (c :: others) = none := keyMatch?_none (by simp [noColon])
      simp [firstMatch?, here, ih noColon.2]

/-- A text whose suffixes all stop matches from crossing into `more`. -/
def Sealed (text more : Text) : Prop := Apart more ∨ text.getLast? = some ':'

theorem Sealed.tail {c d : Char} {others more : Text} (sealed : Sealed (c :: d :: others) more)
    : Sealed (d :: others) more :=
  sealed.imp_right (fun last => by simpa using last)

theorem Sealed.keyMatch?_none {text more : Text} (sealed : Sealed text more)
    (unmatched : keyMatch? text = none)
    : keyMatch? (text ++ more) = none :=
  keyMatch?_append_none unmatched (sealed.imp_right (fun last => List.mem_of_getLast? last))

/-- A text without a match is copied, by induction on the text. -/
theorem repairKeys_append {text more : Text} (unmatched : firstMatch? text = none)
    (sealed : Sealed text more)
    : repairKeys (text ++ more) = text ++ repairKeys more := by
  induction text with
  | nil => rfl
  | cons c others ih =>
      cases here : keyMatch? (c :: others) with
      | some found => simp [firstMatch?, here] at unmatched
      | none =>
          simp only [firstMatch?, here, Option.map_eq_none_iff] at unmatched
          have copied := sealed.keyMatch?_none here
          rw [List.cons_append] at copied ⊢
          rw [repairKeys_copy copied]
          cases others with
          | nil => rfl
          | cons d rest => rw [ih unmatched sealed.tail]; rfl

/-- The text before the first match is copied and the match is quoted, by induction up to
the match.
-/
theorem repairKeys_firstMatch {text more before key rest : Text}
    (first : firstMatch? text = some (before, key, rest)) (sealed : Sealed text more)
    : repairKeys (text ++ more)
      = before ++ '"' :: (key ++ '"' :: ':' :: repairKeys (rest ++ more)) := by
  induction text generalizing before with
  | nil => simp [firstMatch?] at first
  | cons c others ih =>
      cases here : keyMatch? (c :: others) with
      | some found =>
          simp only [firstMatch?, here, Option.some.injEq, Prod.mk.injEq] at first
          obtain ⟨rfl, rfl, rfl⟩ := first
          exact repairKeys_match (keyMatch?_append here more)
      | none =>
          simp only [firstMatch?, here, Option.map_eq_some_iff, Prod.exists, Prod.mk.injEq]
            at first
          obtain ⟨part, _, _, later, rfl, rfl, rfl⟩ := first
          have copied := sealed.keyMatch?_none here
          rw [List.cons_append] at copied ⊢
          rw [repairKeys_copy copied]
          cases others with
          | nil => simp [firstMatch?] at later
          | cons d rest => rw [ih later sealed.tail]; rfl

/-- Characters that are neither quotes, letters nor digits are copied one by one. -/
theorem repairKeys_plain {c : Char} (quote : isQuote c = false) (key : isKeyChar c = false)
    (rest : Text)
    : repairKeys (c :: rest) = c :: repairKeys rest :=
  repairKeys_copy (keyMatch?_head quote key rest)

/-- Whitespace is copied, by induction on it. -/
theorem repairKeys_spaces (spaces : Spaces) (rest : Text)
    : repairKeys (spaces.val ++ rest) = spaces.val ++ repairKeys rest := by
  obtain ⟨blank, all⟩ := spaces
  induction blank with
  | nil => rfl
  | cons c others ih =>
      simp only [List.all_cons, Bool.and_eq_true] at all
      have delimited : Delimited [c] := delimited_cons.mpr (Or.inl all.1)
      have plain := delimited.apart c rfl
      rw [List.cons_append, repairKeys_plain plain.2.1 plain.1, ih all.2]
      rfl

end SqliteServer
