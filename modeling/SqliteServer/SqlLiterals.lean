import SqliteServer.BlobLiterals
import SqliteServer.ParameterBinding
import SqliteServer.Sql.TokenRuns

/-! What SQLite reads in the literals that the Rust client writes for its parameters. -/

namespace SqliteServer

open Binary64 Wire

-----------------------------------------------------------------------------------------
-- Reading a literal
-----------------------------------------------------------------------------------------

namespace Sql

/-- The text that SQLite reads, which ends at a NUL. -/
def beforeNul (text : List Char) : List Char := text.takeWhile (fun c => c ≠ '\x00')

/-- The characters of a string literal, from after its first quote. -/
def dequote : List Char → List Char
  | [] => []
  | c :: rest =>
      if c = '\'' then
        match rest with
        | '\'' :: more => '\'' :: dequote more
        | _ => []
      else c :: dequote rest

def exponentOf : List Char → Int
  | _ :: '-' :: digits => -Nat.ofDigitChars 10 digits 0
  | _ :: '+' :: digits => Nat.ofDigitChars 10 digits 0
  | _ :: digits => Nat.ofDigitChars 10 digits 0
  | [] => 0

/-- The number that a numeral with a point or an exponent denotes. -/
def floatDecimal (text : List Char) : Decimal :=
  let whole := text.takeWhile Char.isDigit
  let afterWhole := text.dropWhile Char.isDigit
  let pointed := match afterWhole with
    | '.' :: rest => rest
    | _ => []
  let fraction := pointed.takeWhile Char.isDigit
  let mark := if afterWhole.head? = some '.' then pointed.dropWhile Char.isDigit else afterWhole
  ⟨Nat.ofDigitChars 10 (whole ++ fraction) 0, exponentOf mark - fraction.length⟩

/-- The bits of a float from its sign and the index of its magnitude. -/
def floatBits (negative : Bool) (index : Nat) : UInt64 :=
  UInt64.ofNat (if negative then 2 ^ 63 + index else index)

/-- The value of a numeral, which may follow a minus sign. A whole number that does not fit is a
REAL. Hexadecimal numerals and digit separators are left out.
-/
def numberValue (negative : Bool) (token : Token) : Option ValueRef :=
  match token.kind with
  | .integer =>
      let n := Nat.ofDigitChars 10 token.text 0
      if ¬ token.text.all Char.isDigit then none
      else if n < 2 ^ 63 ∨ (negative ∧ n = 2 ^ 63) then
        some (.integer (Int64.ofInt (if negative then -n else n)))
      else some (.real (floatBits negative (nearest (integerRatio n))))
  | .float => some (.real (floatBits negative (nearest (floatDecimal token.text).ratio)))
  | _ => none

def literalValue (token : Token) : Option ValueRef :=
  match token.kind with
  | .word => if token.text.map Char.toUpper = ['N', 'U', 'L', 'L'] then some .null else none
  | .string => some (.text (utf8Bytes (String.ofList (dequote token.text.tail))))
  | .blob =>
      (RustClient.unhex (utf8Bytes (String.ofList (token.text.drop 2).dropLast))).map ValueRef.blob
  | _ => numberValue false token

/-- The value of an expression that is a literal, with a minus sign if it is a number. -/
def readLiteral (sql : List Char) : Option ValueRef :=
  match (tokens (beforeNul sql)).filter (fun t => t.kind ≠ .space && t.kind ≠ .comment) with
  | [token] => literalValue token
  | [sign, token] => if sign.text = ['-'] then numberValue true token else none
  | _ => none

end Sql

/-- The value of a parameter. -/
def RustClient.Param.denoted : RustClient.Param → ValueRef
  | .null => .null
  | .bool b => .integer (if b then 1 else 0)
  | .int n => .integer n
  | .real bits => if isNaN bits then .null else .real bits
  | .text s => .text (utf8Bytes s)
  | .blob bytes => .blob bytes

-----------------------------------------------------------------------------------------
-- Tokens of the literals
-----------------------------------------------------------------------------------------

open Sql

theorem tokens_literal {c : Char} {chars : List Char} {final : State}
    (ran : run [] (start c) chars = some final)
    : tokens (c :: chars) = [⟨final.kind, c :: chars⟩] := by
  have read := tokens_run ran
  rwa [List.append_nil, lex_end] at read

theorem tokens_negative {c : Char} {chars : List Char} {final : State}
    (digit : c.isDigit = true) (ran : run [] (start c) chars = some final)
    : tokens ('-' :: c :: chars) = [⟨.operator, ['-']⟩, ⟨final.kind, c :: chars⟩] := by
  have stopped : step .minus c chars = none := by
    have minus := digit_ne digit (show '-'.isDigit = false by decide)
    have arrow := digit_ne digit (show '>'.isDigit = false by decide)
    simp [step, minus, arrow]
  have split : tokens ('-' :: c :: chars) = ⟨.operator, ['-']⟩ :: tokens (c :: chars) :=
    lex_stop ['-'] stopped
  rw [split, tokens_literal ran]

theorem beforeNul_solid {text : List Char} (solid : '\x00' ∉ text)
    : beforeNul text = text := by
  refine List.takeWhile_eq_self_iff.mpr fun c member => ?_
  rw [decide_eq_true_eq]
  rintro rfl
  exact solid member

/-- A literal without a NUL that is one token has its value. -/
theorem readLiteral_token {c : Char} {chars : List Char} {final : State}
    (solid : '\x00' ∉ c :: chars) (ran : run [] (start c) chars = some final)
    (seen : final.kind ≠ .space ∧ final.kind ≠ .comment)
    : readLiteral (c :: chars) = literalValue ⟨final.kind, c :: chars⟩ := by
  simp only [readLiteral, beforeNul_solid solid, tokens_literal ran]
  simp [seen]

theorem readLiteral_negative {c : Char} {chars : List Char} {final : State}
    (solid : '\x00' ∉ c :: chars) (digit : c.isDigit = true)
    (ran : run [] (start c) chars = some final)
    (seen : final.kind ≠ .space ∧ final.kind ≠ .comment)
    : readLiteral ('-' :: c :: chars) = numberValue true ⟨final.kind, c :: chars⟩ := by
  have whole : '\x00' ∉ '-' :: c :: chars := by
    rw [List.mem_cons, not_or]
    exact ⟨by decide, solid⟩
  simp only [readLiteral, beforeNul_solid whole, tokens_negative digit ran]
  simp [seen]

-----------------------------------------------------------------------------------------
-- Whole numbers
-----------------------------------------------------------------------------------------

theorem digits_solid {text : List Char} (all : ∀ c ∈ text, c.isDigit = true)
    : '\x00' ∉ text := by
  intro member
  exact absurd (all _ member) (by decide)

theorem plain_solid (d : Decimal)
    : '\x00' ∉ d.plain := by
  have whole (n : Nat) := digits_solid (toDigits_digits n)
  by_cases pointed : 0 ≤ d.exponent
  · rw [Decimal.plain, if_pos pointed]
    exact whole _
  · have places := digits_solid
      (zeroPadded_digits (-d.exponent).toNat (d.digits % 10 ^ (-d.exponent).toNat))
    simp [Decimal.plain, pointed, whole, places]

/-- A numeral without a point is read as the number it is. -/
theorem readLiteral_whole (n : Nat)
    : readLiteral (Nat.toDigits 10 n)
        = (if n < 2 ^ 63 then some (.integer (Int64.ofInt n))
          else some (.real (floatBits false (nearest (integerRatio n)))))
      ∧ readLiteral ('-' :: Nat.toDigits 10 n)
        = (if n ≤ 2 ^ 63 then some (.integer (Int64.ofInt (-n)))
          else some (.real (floatBits true (nearest (integerRatio n))))) := by
  have value : Nat.ofDigitChars 10 (Nat.toDigits 10 n) 0 = n :=
    Nat.ofDigitChars_toDigits (by decide) (by decide)
  have all := toDigits_digits n
  obtain ⟨c, chars, digits, digit⟩ := toDigits_head n
  rw [digits] at value all ⊢
  obtain ⟨phase, either, ran⟩ := run_digits all
  have kind : (State.number phase false).kind = .integer := by
    rcases either with rfl | rfl <;> rfl
  have seen
      : (State.number phase false).kind ≠ .space
        ∧ (State.number phase false).kind ≠ .comment := by
    rw [kind]
    decide
  have number : (c :: chars).all Char.isDigit = true := List.all_eq_true.mpr all
  constructor
  · rw [readLiteral_token (digits_solid all) (ran []) seen, kind]
    simp [literalValue, numberValue, value, number]
  · rw [readLiteral_negative (digits_solid all) digit (ran []) seen, kind]
    have bound : n < 2 ^ 63 ∨ n = 2 ^ 63 ↔ n ≤ 2 ^ 63 := by omega
    simp only [numberValue, value, number, not_true_eq_false, if_false, true_and, bound, if_true]

/-- Every 64-bit integer is read as itself, also the least one. -/
theorem readLiteral_int (n : Int64)
    : readLiteral (RustClient.serializeSqlValue (.int n)) = some (.integer n) := by
  have lower := n.le_toInt
  have upper := n.toInt_lt
  rw [RustClient.serializeSqlValue, toString_int]
  by_cases negative : n.toInt < 0
  · have size : n.toInt.natAbs ≤ 2 ^ 63 := by omega
    have value : -(n.toInt.natAbs : Int) = n.toInt := by omega
    rw [if_pos negative, (readLiteral_whole _).2, if_pos size, value, Int64.ofInt_toInt]
  · have size : n.toInt.natAbs < 2 ^ 63 := by omega
    have value : (n.toInt.natAbs : Int) = n.toInt := by omega
    rw [if_neg negative, (readLiteral_whole _).1, if_pos size, value, Int64.ofInt_toInt]

-----------------------------------------------------------------------------------------
-- Texts and byte sequences
-----------------------------------------------------------------------------------------

theorem dequote_other {c : Char} (rest : List Char) (other : c ≠ '\'')
    : dequote (c :: rest) = c :: dequote rest := by
  conv_lhs => unfold dequote
  exact if_neg other

theorem dequote_doubled (rest : List Char)
    : dequote ('\'' :: '\'' :: rest) = '\'' :: dequote rest :=
  rfl

theorem dequote_doubleQuotes (s : List Char)
    : dequote (doubleQuotes s ++ ['\'']) = s := by
  induction s with
  | nil => rfl
  | cons c more ih =>
      rw [doubleQuotes] at ih
      rw [doubleQuotes, List.flatMap_cons]
      by_cases quote : c = '\''
      · rw [if_pos quote, quote]
        exact (dequote_doubled _).trans (congrArg (List.cons '\'') ih)
      · rw [if_neg quote, List.singleton_append, List.cons_append, dequote_other _ quote, ih]

theorem doubleQuotes_mem {s : List Char} {c : Char}
    : c ∈ doubleQuotes s ↔ c ∈ s := by
  rw [doubleQuotes, List.mem_flatMap]
  constructor
  · rintro ⟨d, member, inner⟩
    split_ifs at inner with quote
    · simp only [List.mem_cons, List.not_mem_nil, or_false, or_self] at inner
      rwa [inner, ← quote]
    · rw [List.mem_singleton] at inner
      rwa [inner]
  · intro member
    refine ⟨c, member, ?_⟩
    split_ifs with quote
    · rw [quote]
      exact List.mem_cons_self
    · exact List.mem_cons_self

/-- A text without a NUL is read as itself. -/
theorem readLiteral_text {s : String} (solid : '\x00' ∉ s.toList)
    : readLiteral (quoteText s.toList) = some (.text (utf8Bytes s)) := by
  have whole : '\x00' ∉ '\'' :: (doubleQuotes s.toList ++ ['\'']) := by
    simp [doubleQuotes_mem, solid]
  have read := readLiteral_token whole (run_string [] s.toList) (by decide)
  rw [quoteText]
  refine read.trans ?_
  simp [literalValue, State.kind, dequote_doubleQuotes]

/-- A text with a NUL ends in it, before its closing quote. -/
theorem readLiteral_nul {s : String} (nul : '\x00' ∈ s.toList)
    : readLiteral (quoteText s.toList) = none := by
  obtain ⟨before, after, split, solid⟩ := List.eq_append_cons_of_mem nul
  have cut : beforeNul (quoteText s.toList) = '\'' :: doubleQuotes before := by
    have whole
        : quoteText s.toList
          = ('\'' :: doubleQuotes before) ++ '\x00' :: (doubleQuotes after ++ ['\'']) := by
      simp [quoteText, split, doubleQuotes]
    have inside : ∀ c ∈ '\'' :: doubleQuotes before, decide (c ≠ '\x00') = true := by
      intro c member
      rw [decide_eq_true_eq]
      rintro rfl
      rw [List.mem_cons, doubleQuotes_mem] at member
      rcases member with quote | inner
      · exact absurd quote (by decide)
      · exact solid inner
    rw [whole, beforeNul, List.takeWhile_append_of_pos inside]
    simp
  have ran : run [] (start '\'') (doubleQuotes before) = some (.quoted .single) :=
    run_doubleQuotes [] before
  simp only [readLiteral, cut, tokens_literal ran]
  rfl

theorem hexByte_chars
    : ∀ b, (RustClient.hexVal b).isSome = true →
        Sql.isHexDigit (asciiChar b) = true ∧ asciiChar b ≠ '\x00' := by
  refine byte_forall ?_
  decide +kernel

/-- The digits of a BLOB literal come in pairs and are hexadecimal. -/
theorem serialize_blob (bytes : Bytes)
    : ∃ digits,
        RustClient.serializeSqlValue (.blob bytes) = 'X' :: '\'' :: (digits ++ ['\''])
        ∧ digits.length % 2 = 0
        ∧ (∀ c ∈ digits, Sql.isHexDigit c = true ∧ c ≠ '\x00')
        ∧ RustClient.unhex (utf8Bytes (String.ofList digits)) = some bytes := by
  obtain ⟨even, digits⟩ := (RustClient.unhex_some_iff _).mp ⟨bytes, RustClient.unhex_hexBytes bytes⟩
  have ascii : ∀ b ∈ hexBytes bytes, b < (0x80 : UInt8) := by
    intro b member
    exact (hexVal_some (digits b member)).1
  refine ⟨(hexBytes bytes).map asciiChar, ?_, by rwa [List.length_map], ?_, ?_⟩
  · simp [RustClient.serializeSqlValue, toHex_hexBytes]
  · intro c member
    obtain ⟨b, inner, rfl⟩ := List.mem_map.mp member
    exact hexByte_chars b (digits b inner)
  · rw [utf8Bytes_ascii ascii, RustClient.unhex_hexBytes]

/-- Bytes are read as themselves. -/
theorem readLiteral_blob (bytes : Bytes)
    : readLiteral (RustClient.serializeSqlValue (.blob bytes)) = some (.blob bytes) := by
  obtain ⟨digits, text, even, chars, read⟩ := serialize_blob bytes
  have solid : '\x00' ∉ 'X' :: '\'' :: (digits ++ ['\'']) := by
    simp only [List.mem_cons, List.mem_append, List.not_mem_nil, or_false]
    rintro (x | quote | inner | quote)
    · exact absurd x (by decide)
    · exact absurd quote (by decide)
    · exact (chars _ inner).2 rfl
    · exact absurd quote (by decide)
  have ran := run_blob [] (fun c member => (chars c member).1) even
  have body : ('X' :: '\'' :: (digits ++ ['\''])).drop 2 = digits ++ ['\''] := rfl
  rw [text, readLiteral_token solid ran (by decide)]
  simp only [literalValue, State.kind, body, List.dropLast_concat, read, Option.map_some]

-----------------------------------------------------------------------------------------
-- Floats
-----------------------------------------------------------------------------------------

/-- A numeral with a point denotes its decimal. -/
theorem floatDecimal_pointed {whole fraction : List Char}
    (digits : ∀ c ∈ whole, c.isDigit = true) (places : ∀ c ∈ fraction, c.isDigit = true)
    : floatDecimal (whole ++ '.' :: fraction)
      = ⟨Nat.ofDigitChars 10 (whole ++ fraction) 0, -fraction.length⟩ := by
  have point : ('.' :: fraction).takeWhile Char.isDigit = [] := rfl
  have before : (whole ++ '.' :: fraction).takeWhile Char.isDigit = whole := by
    rw [List.takeWhile_append_of_pos digits, point, List.append_nil]
  have after : (whole ++ '.' :: fraction).dropWhile Char.isDigit = '.' :: fraction := by
    rw [List.dropWhile_append_of_pos digits]
    rfl
  have inside : fraction.takeWhile Char.isDigit = fraction := List.takeWhile_eq_self_iff.mpr places
  have none : fraction.dropWhile Char.isDigit = [] := List.dropWhile_eq_nil_iff.mpr places
  simp [floatDecimal, before, after, inside, none, exponentOf]

/-- A numeral with a point is read as the nearest float. -/
theorem readLiteral_pointed {d : Decimal} (negative : d.exponent < 0)
    : readLiteral d.plain = some (.real (floatBits false (nearest d.ratio)))
      ∧ readLiteral ('-' :: d.plain) = some (.real (floatBits true (nearest d.ratio))) := by
  have read := plain_digits negative
  have fits : d.digits % 10 ^ (-d.exponent).toNat < 10 ^ (-d.exponent).toNat :=
    Nat.mod_lt _ (by positivity)
  have length := zeroPadded_length (by omega) fits
  have places := zeroPadded_digits (-d.exponent).toNat (d.digits % 10 ^ (-d.exponent).toNat)
  have all := toDigits_digits (d.digits / 10 ^ (-d.exponent).toNat)
  have text
      : d.plain
        = Nat.toDigits 10 (d.digits / 10 ^ (-d.exponent).toNat)
          ++ '.' :: zeroPadded (-d.exponent).toNat (d.digits % 10 ^ (-d.exponent).toNat) :=
    if_neg (by omega)
  have value := floatDecimal_pointed all places
  obtain ⟨c, chars, digits, digit⟩ := toDigits_head (d.digits / 10 ^ (-d.exponent).toNat)
  rw [read, length] at value
  rw [digits] at all text value
  have exponent : -((-d.exponent).toNat : Int) = d.exponent := by omega
  rw [exponent] at value
  generalize zeroPadded (-d.exponent).toNat (d.digits % 10 ^ (-d.exponent).toNat) = fraction at *
  have solid := plain_solid d
  rw [text, List.cons_append] at solid
  have ran := run_decimal [] all places
  rw [text, List.cons_append]
  rw [List.cons_append] at value
  constructor
  · rw [readLiteral_token solid ran (by decide)]
    exact congrArg (fun e => some (ValueRef.real (floatBits false (nearest (Decimal.ratio e)))))
      value
  · rw [readLiteral_negative solid digit ran (by decide)]
    exact congrArg (fun e => some (ValueRef.real (floatBits true (nearest (Decimal.ratio e)))))
      value

theorem floatBits_eq (bits : UInt64)
    : floatBits (isNegative bits) (magnitudeIndex bits) = bits := by
  have bound := bits.toNat_lt
  have value
      : (if isNegative bits then 2 ^ 63 + magnitudeIndex bits else magnitudeIndex bits)
        = bits.toNat := by
    simp only [isNegative, magnitudeIndex, decide_eq_true_eq]
    split_ifs <;> omega
  rw [floatBits, value, UInt64.ofNat_toNat]

/-- The parameters whose literals denote them. A float must not be a whole number less than
`2 ^ 63`, and a text must not have a NUL.
-/
def SerializesExactly : RustClient.Param → Prop
  | .real bits =>
      ¬ (magnitudeIndex bits < infinite
        ∧ Integral (magnitudeIndex bits)
        ∧ magnitude (magnitudeIndex bits) < 2 ^ 63 * one)
  | .text s => '\x00' ∉ s.toList
  | _ => True

/-- The literal of a finite float denotes it unless it is a whole number below `2 ^ 63`. -/
theorem readLiteral_finite {bits : UInt64} (finite : magnitudeIndex bits < infinite)
    : readLiteral (RustClient.serializeSqlValue (.real bits)) = some (.real bits)
      ↔ SerializesExactly (.real bits) := by
  have value := floatBits_eq bits
  have back := nearest_shortest finite
  rw [serialize_finite finite]
  by_cases integral : Integral (magnitudeIndex bits)
  · have whole := (shortest_exponent_iff finite).mpr integral
    have near := nearest_decimal_integer whole
    obtain ⟨side, other⟩ := shortest_lt_power63 finite integral
    have small
        : magnitude (magnitudeIndex bits) < 2 ^ 63 * one
          ↔ (shortest (magnitudeIndex bits)).integer < 2 ^ 63 := by
      rw [side, ← magnitude_power 63, magnitude_strictMono.lt_iff_lt]
    have text
        : (shortest (magnitudeIndex bits)).plain
          = Nat.toDigits 10 (shortest (magnitudeIndex bits)).integer := if_pos whole
    have bound
        : (shortest (magnitudeIndex bits)).integer ≤ 2 ^ 63
          ↔ (shortest (magnitudeIndex bits)).integer < 2 ^ 63 := by omega
    obtain ⟨positive, negative⟩ := readLiteral_whole (shortest (magnitudeIndex bits)).integer
    simp only [bound] at negative
    rw [text, SerializesExactly, small]
    by_cases below : (shortest (magnitudeIndex bits)).integer < 2 ^ 63
    · refine iff_of_false ?_ (not_not.mpr ⟨finite, integral, below⟩)
      rw [if_pos below] at positive negative
      split_ifs
      · rw [negative]
        simp
      · rw [positive]
        simp
    · refine iff_of_true ?_ (fun exactly => below exactly.2.2)
      rw [if_neg below, near, back] at positive negative
      split_ifs with sign
      · rw [negative, ← sign, value]
      · rw [positive, ← Bool.eq_false_iff.mpr sign, value]
  · have pointed := (shortest_exponent_iff finite).not.mpr integral
    obtain ⟨positive, negative⟩ :=
      readLiteral_pointed (d := shortest (magnitudeIndex bits)) (by omega)
    refine iff_of_true ?_ (fun exactly => integral exactly.2.1)
    rw [back] at positive negative
    split_ifs with sign
    · rw [negative, ← sign, value]
    · rw [positive, ← Bool.eq_false_iff.mpr sign, value]

/-- A NaN is read as NULL and an infinity as itself. -/
theorem readLiteral_special {bits : UInt64} (special : infinite ≤ magnitudeIndex bits)
    : readLiteral (RustClient.serializeSqlValue (.real bits))
      = some (RustClient.Param.real bits).denoted := by
  by_cases nan : isNaN bits = true
  · rw [RustClient.serializeSqlValue, if_pos nan, RustClient.Param.denoted, if_pos nan]
    decide +kernel
  · have index : magnitudeIndex bits = infinite := by
      simp only [isNaN, decide_eq_true_eq] at nan
      omega
    have unbounded : isInfinite bits = true := by
      rw [isInfinite, decide_eq_true_eq]
      exact index
    have value := floatBits_eq bits
    have positive
        : readLiteral "9e999".toList = some (.real (floatBits false infinite)) := by
      decide +kernel
    have negative
        : readLiteral "-9e999".toList = some (.real (floatBits true infinite)) := by
      decide +kernel
    rw [RustClient.serializeSqlValue, if_neg nan, if_pos unbounded, RustClient.Param.denoted,
      if_neg nan]
    rw [index] at value
    split_ifs with sign
    · rw [negative, ← sign, value]
    · rw [positive, ← Bool.eq_false_iff.mpr sign, value]

/-- What SQLite reads in the literal of a parameter is the parameter, except for whole floats, which
become INTEGER, and for texts with a NUL, which are not read to their end.
-/
theorem literals_denote_iff (param : RustClient.Param)
    : readLiteral (RustClient.serializeSqlValue param) = some param.denoted
      ↔ SerializesExactly param := by
  cases param with
  | null => exact iff_of_true (by decide +kernel) trivial
  | bool b => cases b <;> exact iff_of_true (by decide +kernel) trivial
  | int n => exact iff_of_true (readLiteral_int n) trivial
  | blob bytes => exact iff_of_true (readLiteral_blob bytes) trivial
  | text s =>
      by_cases nul : '\x00' ∈ s.toList
      · refine iff_of_false ?_ (not_not.mpr nul)
        rw [RustClient.serializeSqlValue, readLiteral_nul nul]
        rintro ⟨⟩
      · exact iff_of_true (readLiteral_text nul) nul
  | real bits =>
      by_cases finite : magnitudeIndex bits < infinite
      · have number : isNaN bits = false := by
          simp only [isNaN, decide_eq_false_iff_not]
          omega
        rw [RustClient.Param.denoted, number]
        exact readLiteral_finite finite
      · exact iff_of_true (readLiteral_special (by omega)) (fun exactly => finite exactly.1)

/-- The float 3 becomes an INTEGER. -/
theorem wholeFloat_integer
    : ¬ ∀ param, readLiteral (RustClient.serializeSqlValue param) = some param.denoted := by
  intro exactly
  have three := exactly (.real 0x4008000000000000)
  exact absurd three (by decide +kernel)

end SqliteServer
