import SqliteServer.Json.Completeness

/-! Compact renderings of a value: no whitespace, strings escaped where they must be, and each
key either in double quotes or, if it is a run of letters and digits, bare.
-/

namespace SqliteServer.Json

-----------------------------------------------------------------------------------------
-- Strings
-----------------------------------------------------------------------------------------

/-- A lowercase hexadecimal digit. -/
def hexChar (n : Nat) : Char := if n < 10 then Char.ofNat (48 + n) else Char.ofNat (87 + n)

/-- Quotes, backslashes and control characters are escaped, by a letter where there is one. -/
def escapeChar (c : Char) : Text :=
  if c = '"' then ['\\', '"']
  else if c = '\\' then ['\\', '\\']
  else if c = '\x08' then ['\\', 'b']
  else if c = '\t' then ['\\', 't']
  else if c = '\n' then ['\\', 'n']
  else if c = '\x0c' then ['\\', 'f']
  else if c = '\r' then ['\\', 'r']
  else if c < ' ' then
    ['\\', 'u', '0', '0', hexChar (c.toNat / 16), hexChar (c.toNat % 16)]
  else [c]

def escapeText (text : Text) : Text := text.flatMap escapeChar

/-- A control character's escape reads back as the character; all thirty-two are tried. -/
theorem controlEscape_reads (n : Nat) (control : n < 32)
    : codeUnit? '0' '0' (hexChar (n / 16)) (hexChar (n % 16)) = some n
      ∧ hexChar (n / 16) ≠ '"' ∧ hexChar (n % 16) ≠ '"'
      ∧ hexChar (n / 16) ≠ '\\' ∧ hexChar (n % 16) ≠ '\\'
      ∧ ¬ hexChar (n / 16) < ' ' ∧ ¬ hexChar (n % 16) < ' ' := by
  revert control n
  decide

/-- An escaped character is read back, whatever content follows it. -/
theorem unescape_escapeChar (c : Char) (rest : Text)
    : unescape (escapeChar c ++ rest) = (unescape rest).map (fun tail => c :: tail) := by
  have letter (e d : Char) (notU : e ≠ 'u') (escape : escape? e = some d)
      : unescape ('\\' :: e :: rest) = (unescape rest).map (fun tail => d :: tail) := by
    rw [unescape]
    · simp only [escape, Option.bind_eq_bind, Option.bind_some]
      cases unescape rest <;> rfl
    · exact fun _ _ _ _ _ same _ => notU same
  unfold escapeChar
  split_ifs with quote slash backspace tab newline feed carriage control
  · exact quote ▸ letter '"' '"' (by decide) rfl
  · exact slash ▸ letter '\\' '\\' (by decide) rfl
  · exact backspace ▸ letter 'b' '\x08' (by decide) rfl
  · exact tab ▸ letter 't' '\t' (by decide) rfl
  · exact newline ▸ letter 'n' '\n' (by decide) rfl
  · exact feed ▸ letter 'f' '\x0c' (by decide) rfl
  · exact carriage ▸ letter 'r' '\r' (by decide) rfl
  · have low : c.toNat < 32 := control
    have read := (controlEscape_reads c.toNat low).1
    simp only [List.cons_append, List.nil_append, unescape, read, Option.bind_eq_bind,
      Option.bind_some]
    rw [if_neg (by omega), if_neg (by omega), Char.ofNat_toNat]
    cases unescape rest <;> rfl
  · rw [List.singleton_append, unescape]
    · exact fun _ _ _ _ _ same _ => slash same
    · exact fun _ _ same _ => slash same

/-- Escaping and reading back gives the text, by induction on it. -/
theorem unescape_escapeText (text : Text) : unescape (escapeText text) = some text := by
  induction text with
  | nil => rfl
  | cons c rest ih =>
      rw [escapeText, List.flatMap_cons, unescape_escapeChar]
      rw [escapeText] at ih
      rw [ih]
      rfl

/-- An escaped character is content, whatever content follows it. -/
theorem isContent_escapeChar (c : Char) (rest : Text)
    : isContent (escapeChar c ++ rest) = isContent rest := by
  unfold escapeChar
  split_ifs with quote slash backspace tab newline feed carriage control
  all_goals try rfl
  · have low : c.toNat < 32 := control
    obtain ⟨-, quote₁, quote₂, slash₁, slash₂, printable₁, printable₂⟩ :=
      controlEscape_reads c.toNat low
    have zero : isContent ('\\' :: 'u' :: '0' :: '0' :: hexChar (c.toNat / 16)
        :: hexChar (c.toNat % 16) :: rest)
        = isContent ('0' :: '0' :: hexChar (c.toNat / 16) :: hexChar (c.toNat % 16) :: rest) :=
      rfl
    simp only [List.cons_append, List.nil_append, zero]
    rw [isContent_plain (by decide) (by decide), isContent_plain (by decide) (by decide),
      isContent_plain quote₁ slash₁, isContent_plain quote₂ slash₂]
    simp [printable₁, printable₂, show ¬ '0' < ' ' by decide]
  · rw [List.singleton_append, isContent_plain quote slash]
    simp [control]

theorem isContent_escapeText (text : Text) : isContent (escapeText text) = true := by
  induction text with
  | nil => rfl
  | cons c rest ih =>
      rw [escapeText] at ih
      rw [escapeText, List.flatMap_cons, isContent_escapeChar, ih]

/-- The literal of a string. -/
def literalOf (s : String) : StringLit := ⟨escapeText s.toList, isContent_escapeText s.toList⟩

theorem literalOf_denote (s : String) : (literalOf s).denote = some s := by
  simp [literalOf, StringLit.denote, unescape_escapeText]

-----------------------------------------------------------------------------------------
-- Values
-----------------------------------------------------------------------------------------

def noSpace : Spaces := ⟨[], rfl⟩

/-- A key that may be written without quotes. -/
def isPlainKey (key : String) : Bool := key.toList ≠ [] && key.toList.all isKeyChar

theorem isPlainKey_iff {key : String}
    : isPlainKey key = true ↔ key.toList ≠ [] ∧ key.toList.all isKeyChar = true := by
  rw [isPlainKey, Bool.and_eq_true, decide_eq_true_eq]

/-- The name a plain key spells. -/
def plainName (key : String) (plain : isPlainKey key = true) : KeyName where
  name := key.toList
  nonempty := (isPlainKey_iff.mp plain).1
  keyChars := (isPlainKey_iff.mp plain).2

/-- A key is written bare on request, if it may be. -/
def keyOf (bare : Bool) (key : String) : Key :=
  if plain : isPlainKey key = true then
    if bare then .bare (plainName key plain) else .quoted (literalOf key)
  else .quoted (literalOf key)

section Rendering

variable (printNumber : Number → NumberLit) (bare : List Nat → Bool)

mutual
/-- The compact tree of a value. `bare` chooses the unquoted keys by their position: the index
of the member, then those of the enclosing members and elements.
-/
def treeOf (position : List Nat) : Value → Syntax
  | .null => .null
  | .bool b => .bool b
  | .number n => .number (printNumber n)
  | .string s => .string (literalOf s)
  | .array items =>
      match elementsOf position 0 items with
      | some elements => .array elements
      | none => .emptyArray noSpace
  | .object fields =>
      match membersOf position 0 fields with
      | some members => .object members
      | none => .emptyObject noSpace

def elementsOf (position : List Nat) (index : Nat) : List Value → Option Elements
  | [] => none
  | value :: values =>
      match elementsOf position (index + 1) values with
      | some others => some (.more noSpace (treeOf (index :: position) value) noSpace others)
      | none => some (.last noSpace (treeOf (index :: position) value) noSpace)

def membersOf (position : List Nat) (index : Nat) : List (String × Value) → Option Members
  | [] => none
  | (key, value) :: fields =>
      match membersOf position (index + 1) fields with
      | some others =>
          some
            (.more noSpace (keyOf (bare (index :: position)) key) noSpace noSpace
              (treeOf (index :: position) value) noSpace others)
      | none =>
          some
            (.last noSpace (keyOf (bare (index :: position)) key) noSpace noSpace
              (treeOf (index :: position) value) noSpace)
end

/-- The compact rendering with the chosen keys bare. -/
def compact (value : Value) : String :=
  String.ofList ((treeOf printNumber bare [] value).write [])

end Rendering

/-- The compact rendering in plain JSON. -/
def compactStrict (printNumber : Number → NumberLit) (value : Value) : String :=
  compact printNumber (fun _ => false) value

end SqliteServer.Json
