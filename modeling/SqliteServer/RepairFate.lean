import SqliteServer.RepairedTexts

/-! What the first stray match of the repair pattern does to a text: nothing, a parse error, or
a key with another end. Values with a stray match are always refused; keys need not be.
-/

namespace SqliteServer

open Json Regex

/-- `kept`: every match is a whole key. `broken`: the first stray match leaves a text no JSON
reader accepts. `moved`: it moves the end of a double-quoted key.
-/
inductive Fate where
  | kept
  | broken
  | moved
deriving DecidableEq

/-- The first part that is not kept decides. -/
def Fate.andThen : Fate → Fate → Fate
  | .kept, later => later
  | .broken, _ => .broken
  | .moved, _ => .moved

/-- The text of a literal, with the colon of a key that has no whitespace before it. -/
def keyText (lit : StringLit) (adjacent : Bool) : Text :=
  '"' :: (lit.raw ++ '"' :: if adjacent then [':'] else [])

/-- A string value that contains a match gets a quote in the middle. -/
def valueFate (lit : StringLit) : Fate :=
  if firstMatch? (keyText lit false) = none then .kept else .broken

/-- A match at the end of a key that already has both double quotes changes nothing. Any other
match puts a quote into the key: it closes the key early, unless it follows a backslash or
takes the opening quote, and then the key ends right before the inserted colon.
-/
def literalKeyFate (lit : StringLit) (adjacent : Bool) : Fate :=
  match firstMatch? (keyText lit adjacent) with
  | none => .kept
  | some (before, key, rest) =>
      if rest = [] ∧ before ++ '"' :: (key ++ ['"', ':']) = keyText lit adjacent then .kept
      else
        match before with
        | [] => .moved
        | _ :: content => if isContent content then .broken else .moved

/-- An unquoted key is repaired only when its colon follows at once. -/
def keyFate (key : Key) (gap : Spaces) : Fate :=
  match key with
  | .quoted lit => literalKeyFate lit gap.val.isEmpty
  | .single _ | .bare _ => if gap.val.isEmpty then .kept else .broken

mutual
def syntaxFate : Syntax → Fate
  | .string lit => valueFate lit
  | .array elements => elementsFate elements
  | .object members => membersFate members
  | _ => .kept

def elementsFate : Elements → Fate
  | .last _ value _ => syntaxFate value
  | .more _ value _ others => (syntaxFate value).andThen (elementsFate others)

def membersFate : Members → Fate
  | .last _ key gap _ value _ => (keyFate key gap).andThen (syntaxFate value)
  | .more _ key gap _ value _ others =>
      (keyFate key gap).andThen ((syntaxFate value).andThen (membersFate others))
end

theorem Fate.andThen_kept {first second : Fate}
    : first.andThen second = .kept ↔ first = .kept ∧ second = .kept := by
  cases first <;> simp [Fate.andThen]

theorem Fate.andThen_broken {first second : Fate}
    : first.andThen second = .broken ↔ first = .broken ∨ first = .kept ∧ second = .broken := by
  cases first <;> simp [Fate.andThen]

-----------------------------------------------------------------------------------------
-- Texts in which every match is a whole key
-----------------------------------------------------------------------------------------

/-- The literal that spells a name. -/
def Json.KeyName.literal (key : KeyName) : StringLit :=
  ⟨key.name, isContent_keyChars key.keyChars⟩

def quoteKey : Key → Key
  | .quoted lit => .quoted lit
  | .single key => .quoted key.literal
  | .bare key => .quoted key.literal

mutual
/-- The same tree with every key in double quotes. -/
def quoteSyntax : Syntax → Syntax
  | .array elements => .array (quoteElements elements)
  | .object members => .object (quoteMembers members)
  | tree => tree

def quoteElements : Elements → Elements
  | .last before value after => .last before (quoteSyntax value) after
  | .more before value after others =>
      .more before (quoteSyntax value) after (quoteElements others)

def quoteMembers : Members → Members
  | .last before key gap lead value after =>
      .last before (quoteKey key) gap lead (quoteSyntax value) after
  | .more before key gap lead value after others =>
      .more before (quoteKey key) gap lead (quoteSyntax value) after (quoteMembers others)
end

theorem quoteKey_strict (key : Key) : (quoteKey key).strict = true := by
  cases key <;> rfl

/-- Quoting a key keeps the name it denotes. -/
theorem quoteKey_denote (key : Key) : (quoteKey key).denote = key.denote := by
  cases key with
  | quoted lit => rfl
  | single name =>
      simp [quoteKey, Key.denote, StringLit.denote, KeyName.literal,
        unescape_keyChars name.keyChars]
  | bare name =>
      simp [quoteKey, Key.denote, StringLit.denote, KeyName.literal,
        unescape_keyChars name.keyChars]

mutual
theorem quoteSyntax_strict (tree : Syntax) : (quoteSyntax tree).strict = true := by
  cases tree with
  | array elements => simpa [quoteSyntax, Syntax.strict] using quoteElements_strict elements
  | object members => simpa [quoteSyntax, Syntax.strict] using quoteMembers_strict members
  | null | bool | number | string | emptyArray | emptyObject => rfl

theorem quoteElements_strict (elements : Elements)
    : (quoteElements elements).strict = true := by
  cases elements with
  | last before value after =>
      simpa [quoteElements, Elements.strict] using quoteSyntax_strict value
  | more before value after others =>
      simp [quoteElements, Elements.strict, quoteSyntax_strict value, quoteElements_strict others]

theorem quoteMembers_strict (members : Members) : (quoteMembers members).strict = true := by
  cases members with
  | last before key gap lead value after =>
      simp [quoteMembers, Members.strict, quoteKey_strict, quoteSyntax_strict value]
  | more before key gap lead value after others =>
      simp [quoteMembers, Members.strict, quoteKey_strict, quoteSyntax_strict value,
        quoteMembers_strict others]
end

section Denote

variable (readNumber : Text → Option Number)

mutual
/-- Quoting keys keeps the value of a tree, by induction on the tree. -/
theorem quoteSyntax_denote (tree : Syntax)
    : (quoteSyntax tree).denote readNumber = tree.denote readNumber := by
  cases tree with
  | array elements => simp [quoteSyntax, Syntax.denote, quoteElements_denote elements]
  | object members => simp [quoteSyntax, Syntax.denote, quoteMembers_denote members]
  | null | bool | number | string | emptyArray | emptyObject => rfl

theorem quoteElements_denote (elements : Elements)
    : (quoteElements elements).denote readNumber = elements.denote readNumber := by
  cases elements with
  | last before value after => simp [quoteElements, Elements.denote, quoteSyntax_denote value]
  | more before value after others =>
      simp [quoteElements, Elements.denote, quoteSyntax_denote value,
        quoteElements_denote others]

theorem quoteMembers_denote (members : Members)
    : (quoteMembers members).denote readNumber = members.denote readNumber := by
  cases members with
  | last before key gap lead value after =>
      simp [quoteMembers, Members.denote, quoteKey_denote, quoteSyntax_denote value]
  | more before key gap lead value after others =>
      simp [quoteMembers, Members.denote, quoteKey_denote, quoteSyntax_denote value,
        quoteMembers_denote others]
end

end Denote

/-- A string value without a match is copied. -/
theorem repairKeys_value {lit : StringLit} (kept : valueFate lit = .kept) {rest : Text}
    (apart : Apart rest)
    : repairKeys (lit.write rest) = lit.write (repairKeys rest) := by
  have unmatched : firstMatch? (keyText lit false) = none := by
    by_contra matched
    simp [valueFate, matched] at kept
  have copied := repairKeys_append unmatched (Or.inl apart)
  simpa [keyText, StringLit.write] using copied

/-- Whitespace before the colon keeps matches away from it. -/
theorem apart_gap {gap : Spaces} (nonempty : gap.val.isEmpty = false) (rest : Text)
    : Apart (gap.val ++ rest) := by
  obtain ⟨blank, all⟩ := gap
  cases blank with
  | nil => simp at nonempty
  | cons c others =>
      simp only [List.all_cons, Bool.and_eq_true] at all
      exact Json.Delimited.apart (delimited_cons.mpr (Or.inl all.1))

/-- What follows the text of a quoted key up to its value. -/
def gapText (gap : Spaces) : Text := if gap.val.isEmpty then [] else gap.val ++ [':']

theorem write_gap (lit : StringLit) (gap : Spaces) (rest : Text)
    : lit.write (gap.val ++ ':' :: rest)
      = keyText lit gap.val.isEmpty ++ (gapText gap ++ rest) := by
  by_cases empty : gap.val.isEmpty
  · have none : gap.val = [] := List.isEmpty_iff.mp empty
    simp [StringLit.write, keyText, gapText, none]
  · simp [StringLit.write, keyText, gapText, empty]

/-- No match crosses the end of a quoted key: it ends with its colon or before whitespace. -/
theorem sealed_gap (lit : StringLit) (gap : Spaces) (rest : Text)
    : Sealed (keyText lit gap.val.isEmpty) (gapText gap ++ rest) := by
  by_cases empty : gap.val.isEmpty
  · exact Or.inr (by simp [keyText, empty, List.getLast?_cons])
  · rw [Bool.not_eq_true] at empty
    refine Or.inl ?_
    simpa [gapText, empty] using apart_gap empty (':' :: rest)

theorem repairKeys_gap (gap : Spaces) (rest : Text)
    : repairKeys (gapText gap ++ rest) = gapText gap ++ repairKeys rest := by
  by_cases empty : gap.val.isEmpty
  · simp [gapText, empty]
  · simp only [gapText, empty, Bool.false_eq_true, if_false, List.append_assoc]
    rw [repairKeys_spaces, List.singleton_append, repairKeys_plain (by decide) (by decide)]
    rfl

/-- A kept key comes out in double quotes, with its colon where it was. -/
theorem repairKeys_key {key : Key} {gap : Spaces} (kept : keyFate key gap = .kept)
    (rest : Text)
    : repairKeys (key.write (gap.val ++ ':' :: rest))
      = (quoteKey key).write (gap.val ++ ':' :: repairKeys rest) := by
  cases key with
  | quoted lit =>
      have sealed := sealed_gap lit gap rest
      simp only [keyFate, literalKeyFate] at kept
      simp only [Key.write, quoteKey, write_gap]
      cases first : firstMatch? (keyText lit gap.val.isEmpty) with
      | none => rw [repairKeys_append first sealed, repairKeys_gap]
      | some found =>
          obtain ⟨before, name, tail⟩ := found
          simp only [first] at kept
          split at kept
          · rename_i whole
            obtain ⟨rfl, same⟩ := whole
            rw [repairKeys_firstMatch first sealed, List.nil_append, repairKeys_gap, ← same]
            simp [List.append_assoc]
          · split at kept
            · contradiction
            · split at kept <;> contradiction
  | single name =>
      have empty : gap.val = [] := by
        by_contra nonempty
        simp [keyFate, nonempty] at kept
      have matched
          : keyMatch? ('\'' :: (name.name ++ '\'' :: ':' :: rest)) = some (name.name, rest) :=
        keyMatch?_iff.mpr
          ⟨['\''], ['\''], Or.inr ⟨_, by decide, rfl⟩, Or.inr ⟨_, by decide, rfl⟩,
            name.nonempty, name.keyChars, rfl⟩
      simp [Key.write, quoteKey, StringLit.write, KeyName.literal, empty,
        repairKeys_match matched]
  | bare name =>
      have empty : gap.val = [] := by
        by_contra nonempty
        simp [keyFate, nonempty] at kept
      have matched : keyMatch? (name.name ++ ':' :: rest) = some (name.name, rest) :=
        keyMatch?_iff.mpr
          ⟨[], [], Or.inl rfl, Or.inl rfl, name.nonempty, name.keyChars, rfl⟩
      simp [Key.write, quoteKey, StringLit.write, KeyName.literal, empty,
        repairKeys_match matched]

/-- A colon-free token before a delimiter is copied. -/
theorem repairKeys_token {token rest : Text} (noColon : ':' ∉ token)
    (delimited : Delimited rest)
    : repairKeys (token ++ rest) = token ++ repairKeys rest :=
  repairKeys_append (firstMatch?_none noColon) (Or.inl delimited.apart)

theorem number_noColon (lit : NumberLit) : ':' ∉ lit.lexeme := by
  intro member
  have wellFormed := lit.wellFormed
  simp only [isNumber, Bool.and_eq_true, List.all_eq_true] at wellFormed
  exact absurd (wellFormed.1 ':' member) (by decide)

theorem delimited_closer (after : Spaces) {c : Char} (closer : c = ',' ∨ c = ']' ∨ c = '}')
    (rest : Text)
    : Delimited (after.val ++ c :: rest) :=
  (delimited_cons.mpr (Or.inr closer)).spaces after

mutual
/-- If nothing breaks or moves, the repaired text is the text of the tree with its keys
quoted; by induction on the tree, each part being followed by a delimiter.
-/
theorem repairKeys_tree (tree : Syntax) (kept : syntaxFate tree = .kept) {rest : Text}
    (delimited : Delimited rest)
    : repairKeys (tree.write rest) = (quoteSyntax tree).write (repairKeys rest) := by
  cases tree with
  | null =>
      have noColon : ':' ∉ ['n', 'u', 'l', 'l'] := by decide
      have copied := repairKeys_token noColon delimited
      simpa [Syntax.write, quoteSyntax] using copied
  | bool b =>
      cases b with
      | true =>
          have noColon : ':' ∉ ['t', 'r', 'u', 'e'] := by decide
          have copied := repairKeys_token noColon delimited
          simpa [Syntax.write, quoteSyntax] using copied
      | false =>
          have noColon : ':' ∉ ['f', 'a', 'l', 's', 'e'] := by decide
          have copied := repairKeys_token noColon delimited
          simpa [Syntax.write, quoteSyntax] using copied
  | number lit => exact repairKeys_token (number_noColon lit) delimited
  | string lit => exact repairKeys_value (by simpa [syntaxFate] using kept) delimited.apart
  | emptyArray inner =>
      rw [Syntax.write, repairKeys_plain (by decide) (by decide), repairKeys_spaces,
        repairKeys_plain (by decide) (by decide)]
      rfl
  | emptyObject inner =>
      rw [Syntax.write, repairKeys_plain (by decide) (by decide), repairKeys_spaces,
        repairKeys_plain (by decide) (by decide)]
      rfl
  | array elements =>
      rw [Syntax.write, repairKeys_plain (by decide) (by decide),
        repairKeys_elements elements (by simpa [syntaxFate] using kept) (Or.inl rfl)]
      rfl
  | object members =>
      rw [Syntax.write, repairKeys_plain (by decide) (by decide),
        repairKeys_members members (by simpa [syntaxFate] using kept) (Or.inr rfl)]
      rfl

theorem repairKeys_elements (elements : Elements) (kept : elementsFate elements = .kept)
    {c : Char} (closer : c = ']' ∨ c = '}') {rest : Text}
    : repairKeys (elements.write (c :: rest))
      = (quoteElements elements).write (c :: repairKeys rest) := by
  have plain : isQuote c = false ∧ isKeyChar c = false := by
    rcases closer with rfl | rfl <;> decide
  cases elements with
  | last before value after =>
      rw [Elements.write, repairKeys_spaces,
        repairKeys_tree value (by simpa [elementsFate] using kept)
          (delimited_closer after (Or.inr closer) rest),
        repairKeys_spaces, repairKeys_plain plain.1 plain.2]
      rfl
  | more before value after others =>
      simp only [elementsFate, Fate.andThen_kept] at kept
      rw [Elements.write, repairKeys_spaces,
        repairKeys_tree value kept.1 (delimited_closer after (Or.inl rfl) _), repairKeys_spaces,
        repairKeys_plain (by decide) (by decide), repairKeys_elements others kept.2 closer]
      rfl

theorem repairKeys_members (members : Members) (kept : membersFate members = .kept)
    {c : Char} (closer : c = ']' ∨ c = '}') {rest : Text}
    : repairKeys (members.write (c :: rest))
      = (quoteMembers members).write (c :: repairKeys rest) := by
  have plain : isQuote c = false ∧ isKeyChar c = false := by
    rcases closer with rfl | rfl <;> decide
  cases members with
  | last before key gap lead value after =>
      simp only [membersFate, Fate.andThen_kept] at kept
      rw [Members.write, repairKeys_spaces, repairKeys_key kept.1, repairKeys_spaces,
        repairKeys_tree value kept.2 (delimited_closer after (Or.inr closer) rest),
        repairKeys_spaces, repairKeys_plain plain.1 plain.2]
      rfl
  | more before key gap lead value after others =>
      simp only [membersFate, Fate.andThen_kept] at kept
      rw [Members.write, repairKeys_spaces, repairKeys_key kept.1, repairKeys_spaces,
        repairKeys_tree value kept.2.1 (delimited_closer after (Or.inl rfl) _), repairKeys_spaces,
        repairKeys_plain (by decide) (by decide), repairKeys_members others kept.2.2 closer]
      rfl
end

end SqliteServer
