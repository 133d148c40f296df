import SqliteServer.Json.Rendering

/-! Strings written in ASCII only: every other character as the escapes of its UTF-16 code units.
-/

namespace SqliteServer.Json

-----------------------------------------------------------------------------------------
-- Code units
-----------------------------------------------------------------------------------------

/-- The escape of a code unit, in four lowercase digits. -/
def unitEscape (unit : Nat) : Text :=
  [
    '\\',
    'u',
    hexChar (unit / 0x1000 % 16),
    hexChar (unit / 0x100 % 16),
    hexChar (unit / 0x10 % 16),
    hexChar (unit % 16)
  ]

/-- A hexadecimal digit reads back and is plain content; all sixteen are tried. -/
theorem hexChar_reads (n : Nat) (digit : n < 16)
    : hexDigit? (hexChar n) = some n
      ∧ hexChar n ≠ '"'
      ∧ hexChar n ≠ '\\'
      ∧ ¬ hexChar n < ' ' := by
  revert digit n
  decide

theorem codeUnit?_unit {unit : Nat} (bound : unit < 0x10000)
    : codeUnit? (hexChar (unit / 0x1000 % 16)) (hexChar (unit / 0x100 % 16))
        (hexChar (unit / 0x10 % 16)) (hexChar (unit % 16))
      = some unit := by
  have digit (n : Nat) : hexDigit? (hexChar (n % 16)) = some (n % 16) :=
    (hexChar_reads (n % 16) (Nat.mod_lt n (by decide))).1
  rw [codeUnit?, digit, digit, digit, digit]
  simp only [Option.bind_eq_bind, Option.bind_some, Option.pure_def, Option.some.injEq]
  omega

/-- A code unit's escape is content, whatever content follows it. -/
theorem isContent_unitEscape (unit : Nat) (rest : Text)
    : isContent (unitEscape unit ++ rest) = isContent rest := by
  have plain (n : Nat) (text : Text) : isContent (hexChar (n % 16) :: text) = isContent text := by
    obtain ⟨-, quote, slash, printable⟩ := hexChar_reads (n % 16) (Nat.mod_lt n (by decide))
    rw [isContent_plain quote slash]
    simp [printable]
  have opened (text : Text) : isContent ('\\' :: 'u' :: text) = isContent text := rfl
  rw [unitEscape]
  simp only [List.cons_append, List.nil_append]
  rw [opened, plain, plain, plain, plain]

-----------------------------------------------------------------------------------------
-- Characters
-----------------------------------------------------------------------------------------

/-- Characters past the first 65536 are written as a pair of surrogates. -/
def unitsEscape (c : Char) : Text :=
  if c.toNat < 0x10000 then unitEscape c.toNat
  else
    unitEscape (0xd800 + (c.toNat - 0x10000) / 0x400)
      ++ unitEscape (0xdc00 + (c.toNat - 0x10000) % 0x400)

/-- Quotes, backslashes and what ASCII does not print are escaped, by a letter if there is one. -/
def asciiEscape (c : Char) : Text :=
  if c = '"' then ['\\', '"']
  else if c = '\\' then ['\\', '\\']
  else if c = '\n' then ['\\', 'n']
  else if c = '\r' then ['\\', 'r']
  else if c = '\t' then ['\\', 't']
  else if c = '\x0c' then ['\\', 'f']
  else if c = '\x08' then ['\\', 'b']
  else if ' ' ≤ c ∧ c ≤ '~' then [c]
  else unitsEscape c

def asciiText (text : Text) : Text := text.flatMap asciiEscape

/-- No character is a surrogate or lies past the last one. -/
theorem char_range (c : Char)
    : (c.toNat < 0xd800 ∨ 0xe000 ≤ c.toNat) ∧ c.toNat < 0x110000 := by
  have valid := c.valid
  rw [UInt32.isValidChar, Nat.isValidChar] at valid
  have same : c.val.toNat = c.toNat := rfl
  omega

/-- The escape of a character that is no surrogate is read as it. -/
theorem unescape_unit (c : Char) (small : c.toNat < 0x10000) (rest : Text)
    : unescape (unitEscape c.toNat ++ rest) = (unescape rest).map (fun tail => c :: tail) := by
  obtain ⟨outside, -⟩ := char_range c
  have read := codeUnit?_unit small
  rw [unitEscape]
  simp only [List.cons_append, List.nil_append, unescape, read, Option.bind_eq_bind,
    Option.bind_some]
  rw [if_neg (by omega), if_neg (by omega), Char.ofNat_toNat]
  cases unescape rest <;> rfl

/-- A pair of surrogates is read as the character that it stands for. -/
theorem unescape_pair (c : Char) (large : 0x10000 ≤ c.toNat) (rest : Text)
    : unescape
        (unitEscape (0xd800 + (c.toNat - 0x10000) / 0x400)
          ++ (unitEscape (0xdc00 + (c.toNat - 0x10000) % 0x400) ++ rest))
      = (unescape rest).map (fun tail => c :: tail) := by
  obtain ⟨-, last⟩ := char_range c
  have pair
      : ∃ high low,
          0xd800 + (c.toNat - 0x10000) / 0x400 = high
          ∧ 0xdc00 + (c.toNat - 0x10000) % 0x400 = low
          ∧ (0xd800 ≤ high ∧ high < 0xdc00)
          ∧ (0xdc00 ≤ low ∧ low < 0xe000)
          ∧ 0x10000 + (high - 0xd800) * 0x400 + (low - 0xdc00) = c.toNat :=
    ⟨_, _, rfl, rfl, by omega, by omega, by omega⟩
  obtain ⟨high, low, writtenHigh, writtenLow, isHigh, isLow, value⟩ := pair
  have readHigh := codeUnit?_unit (show high < 0x10000 by omega)
  have readLow := codeUnit?_unit (show low < 0x10000 by omega)
  rw [writtenHigh, writtenLow, unitEscape, unitEscape]
  simp only [List.cons_append, List.nil_append, unescape, readHigh, readLow, Option.bind_eq_bind,
    Option.bind_some]
  rw [if_pos isHigh, if_pos isLow, value, Char.ofNat_toNat]
  cases unescape rest <;> rfl

theorem unescape_unitsEscape (c : Char) (rest : Text)
    : unescape (unitsEscape c ++ rest) = (unescape rest).map (fun tail => c :: tail) := by
  unfold unitsEscape
  split_ifs with small
  · exact unescape_unit c small rest
  · rw [List.append_assoc]
    exact unescape_pair c (Nat.not_lt.mp small) rest

/-- An escaped character is read back, whatever content follows it. -/
theorem unescape_asciiEscape (c : Char) (rest : Text)
    : unescape (asciiEscape c ++ rest) = (unescape rest).map (fun tail => c :: tail) := by
  have letter (e d : Char) (notU : e ≠ 'u') (escape : escape? e = some d)
      : unescape ('\\' :: e :: rest) = (unescape rest).map (fun tail => d :: tail) := by
    rw [unescape]
    · simp only [escape, Option.bind_eq_bind, Option.bind_some]
      cases unescape rest <;> rfl
    · exact fun _ _ _ _ _ same _ => notU same
  unfold asciiEscape
  split_ifs with quote slash newline carriage tab feed backspace printable
  · exact quote ▸ letter '"' '"' (by decide) rfl
  · exact slash ▸ letter '\\' '\\' (by decide) rfl
  · exact newline ▸ letter 'n' '\n' (by decide) rfl
  · exact carriage ▸ letter 'r' '\r' (by decide) rfl
  · exact tab ▸ letter 't' '\t' (by decide) rfl
  · exact feed ▸ letter 'f' '\x0c' (by decide) rfl
  · exact backspace ▸ letter 'b' '\x08' (by decide) rfl
  · rw [List.singleton_append, unescape]
    · exact fun _ _ _ _ _ same _ => slash same
    · exact fun _ _ same _ => slash same
  · exact unescape_unitsEscape c rest

theorem isContent_unitsEscape (c : Char) (rest : Text)
    : isContent (unitsEscape c ++ rest) = isContent rest := by
  unfold unitsEscape
  split_ifs
  · exact isContent_unitEscape _ rest
  · rw [List.append_assoc, isContent_unitEscape, isContent_unitEscape]

theorem isContent_asciiEscape (c : Char) (rest : Text)
    : isContent (asciiEscape c ++ rest) = isContent rest := by
  unfold asciiEscape
  split_ifs with quote slash newline carriage tab feed backspace printable
  all_goals try rfl
  · rw [List.singleton_append, isContent_plain quote slash]
    simp [not_lt.mpr printable.1]
  · exact isContent_unitsEscape c rest

-----------------------------------------------------------------------------------------
-- Literals
-----------------------------------------------------------------------------------------

theorem isContent_asciiText (text : Text) : isContent (asciiText text) = true := by
  induction text with
  | nil => rfl
  | cons c rest ih =>
      rw [asciiText] at ih
      rw [asciiText, List.flatMap_cons, isContent_asciiEscape, ih]

/-- Escaping and reading back gives the text, by induction on it. -/
theorem unescape_asciiText (text : Text) : unescape (asciiText text) = some text := by
  induction text with
  | nil => rfl
  | cons c rest ih =>
      rw [asciiText, List.flatMap_cons, unescape_asciiEscape]
      rw [asciiText] at ih
      rw [ih]
      rfl

/-- The literal of a string in ASCII. -/
def asciiLiteral (s : String) : StringLit := ⟨asciiText s.toList, isContent_asciiText s.toList⟩

theorem asciiLiteral_denote (s : String) : (asciiLiteral s).denote = some s := by
  simp [asciiLiteral, StringLit.denote, unescape_asciiText]

end SqliteServer.Json
