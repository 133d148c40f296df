import SqliteServer.Binary64.Decimals
import SqliteServer.Cidr
import SqliteServer.QueryValues
import SqliteServer.Regex.Replacement

/-! How the example clients put parameters into a query. -/

namespace SqliteServer

open Binary64 Regex Wire

/-- The decimal digits of Unicode and their values. -/
structure DecimalDigits where
  value : Char → Option Nat
  ascii
    : ∀ c, c.toNat < 0x80 →
        value c = if isAsciiDigit c = true then some (c.toNat - '0'.toNat) else none

def DecimalDigits.isDigit (decimal : DecimalDigits) (c : Char) : Bool := (decimal.value c).isSome

/-- The pattern `\?(\d+)|\?`. -/
def placeholderRe (decimal : DecimalDigits) : Pattern :=
  .alt
    (.seq (.chars (fun c => c = '?')) (.group 1 (.plus decimal.isDigit)))
    (.chars (fun c => c = '?'))

/-- A text as an SQL literal, with single quotes doubled. -/
def quoteText (s : List Char) : List Char :=
  '\'' :: (s.flatMap (fun c => if c = '\'' then ['\'', '\''] else [c]) ++ ['\''])

/-- The index of the magnitude of a float. -/
def magnitudeIndex (bits : UInt64) : Nat := bits.toNat % 2 ^ 63

def isNegative (bits : UInt64) : Bool := decide (2 ^ 63 ≤ bits.toNat)

def isNaN (bits : UInt64) : Bool := decide (infinite < magnitudeIndex bits)

def isInfinite (bits : UInt64) : Bool := decide (magnitudeIndex bits = infinite)

namespace RustClient

/-- What a `usize` is below. -/
def usizeLimit : Nat := 2 ^ 64

/-- A slice, whose length is a `usize`. -/
structure Slice (α : Type) where
  items : List α
  fits : items.length < usizeLimit

inductive Param where
  | null
  | bool (b : Bool)
  | int (n : Int64)
  | real (bits : UInt64)
  | text (s : String)
  | blob (bytes : Bytes)

/-- How a float is displayed: the shortest decimal that reads back, without an exponent. -/
def floatToString (bits : UInt64) : List Char :=
  let magnitude :=
    if isInfinite bits then ['i', 'n', 'f'] else (shortest (magnitudeIndex bits)).plain
  if isNaN bits then ['N', 'a', 'N']
  else if isNegative bits then '-' :: magnitude
  else magnitude

def serializeSqlValue : Param → List Char
  | .null => "NULL".toList
  | .bool b => if b then ['1'] else ['0']
  | .int n => (toString n.toInt).toList
  | .real bits =>
      if isNaN bits then "NULL".toList
      else if isInfinite bits then
        if isNegative bits then "-9e999".toList else "9e999".toList
      else floatToString bits
  | .text s => quoteText s.toList
  | .blob bytes => "X'".toList ++ (toHex bytes).toList ++ ['\'']

/-- Replace one placeholder; `next` counts the values taken by bare ones. -/
def replacement (params : Slice Param) (next : Nat) (caps : Match) : List Char × Nat :=
  match caps.captures.lookup 1 with
  | some digits =>
      let index := (parseUnsigned usizeLimit (String.ofList digits)).getD 0
      if inside : 1 ≤ index ∧ index ≤ params.items.length then
        (serializeSqlValue params.items[index - 1], next)
      else (caps.consumed, next)
  | none =>
      if inside : next < params.items.length then
        (serializeSqlValue params.items[next], next + 1)
      else (['?'], next)

def bind (decimal : DecimalDigits) (sql : List Char) (params : Slice Param) : List Char :=
  (placeholderRe decimal).replaceAll (replacement params) 0 sql

end RustClient

namespace PythonClient

/-- A parameter. Any other object is known by its text. -/
inductive Parameter where
  | none
  | bool (b : Bool)
  | int (n : Int)
  | float (bits : UInt64)
  | bytes (bytes : Bytes)
  | str (s : String)
  | other (str : String)

/-- `strFloat` is how Python displays a finite float. -/
def serializeSqlValue (strFloat : UInt64 → String) : Parameter → List Char
  | .none => "NULL".toList
  | .bool b => if b then ['1'] else ['0']
  | .float bits =>
      if isNaN bits then "NULL".toList
      else if isInfinite bits then
        if isNegative bits then "-9e999".toList else "9e999".toList
      else (strFloat bits).toList
  | .int n => (toString n).toList
  | .bytes bytes => "X'".toList ++ (toHex bytes).toList ++ ['\'']
  | .str s => quoteText s.toList
  | .other str => quoteText str.toList

/-- `int` of a run of decimal digits. -/
def intOfDigits (decimal : DecimalDigits) (digits : List Char) : Nat :=
  digits.foldl (fun n c => n * 10 + (decimal.value c).getD 0) 0

/-- Replace one placeholder; `paramIter` holds the values that bare ones have not taken. -/
def replacement (decimal : DecimalDigits) (strFloat : UInt64 → String) (params : List Parameter)
    (paramIter : List Parameter) (caps : Match)
    : List Char × List Parameter :=
  let digits := (caps.captures.lookup 1).getD []
  if digits ≠ [] then
    let index : Int := intOfDigits decimal digits - 1
    if inside : 0 ≤ index ∧ index < params.length then
      (serializeSqlValue strFloat params[index.toNat], paramIter)
    else (caps.consumed, paramIter)
  else
    match paramIter with
    | value :: rest => (serializeSqlValue strFloat value, rest)
    | [] => (['?'], [])

def clientSidePrepare (decimal : DecimalDigits) (strFloat : UInt64 → String) (query : List Char)
    (params : List Parameter)
    : List Char :=
  (placeholderRe decimal).replaceAll (replacement decimal strFloat params) params query

end PythonClient

-----------------------------------------------------------------------------------------
-- Literals
-----------------------------------------------------------------------------------------

/-- The text of an integer is its digits, after a minus sign if it is negative. -/
theorem toString_int (n : Int)
    : (toString n).toList
      = if n < 0 then '-' :: Nat.toDigits 10 n.natAbs else Nat.toDigits 10 n.natAbs := by
  rw [Int.toString_eq_repr]
  cases n with
  | ofNat m =>
      rw [if_neg (by simp)]
      exact Nat.toList_repr
  | negSucc m =>
      rw [if_pos (Int.negSucc_lt_zero m)]
      simp [Int.repr, Int.natAbs]

/-- A numeral begins with a digit. -/
theorem toDigits_head (n : Nat)
    : ∃ c rest, Nat.toDigits 10 n = c :: rest ∧ c.isDigit = true := by
  cases digits : Nat.toDigits 10 n with
  | nil => exact absurd digits Nat.toDigits_ne_nil
  | cons c rest =>
      have all := toDigits_digits n
      rw [digits] at all
      exact ⟨c, rest, rfl, all c List.mem_cons_self⟩

theorem plain_head (d : Decimal)
    : ∃ c rest, d.plain = c :: rest ∧ c.isDigit = true := by
  simp only [Decimal.plain]
  split_ifs
  · exact toDigits_head _
  · obtain ⟨c, rest, digits, digit⟩ := toDigits_head (d.digits / 10 ^ (-d.exponent).toNat)
    exact ⟨c, _, by rw [digits]; rfl, digit⟩

theorem serialize_finite {bits : UInt64} (finite : magnitudeIndex bits < infinite)
    : RustClient.serializeSqlValue (.real bits)
      = if isNegative bits then '-' :: (shortest (magnitudeIndex bits)).plain
        else (shortest (magnitudeIndex bits)).plain := by
  have number : isNaN bits = false := by
    simp only [isNaN, decide_eq_false_iff_not]
    omega
  have bounded : isInfinite bits = false := by
    simp only [isInfinite, decide_eq_false_iff_not]
    omega
  simp [RustClient.serializeSqlValue, RustClient.floatToString, number, bounded]

theorem serialize_real (bits : UInt64)
    : (∃ text ∈ ["NULL", "9e999", "-9e999"],
        RustClient.serializeSqlValue (.real bits) = text.toList)
      ∨ ∃ (d : Decimal) (negative : Bool),
          RustClient.serializeSqlValue (.real bits)
          = if negative then '-' :: d.plain else d.plain := by
  by_cases finite : magnitudeIndex bits < infinite
  · exact Or.inr ⟨_, _, serialize_finite finite⟩
  · refine Or.inl ?_
    rw [RustClient.serializeSqlValue]
    split_ifs with nan inf negative
    · exact ⟨"NULL", by decide, rfl⟩
    · exact ⟨"-9e999", by decide, rfl⟩
    · exact ⟨"9e999", by decide, rfl⟩
    · simp only [isNaN, isInfinite, decide_eq_true_eq] at nan inf
      omega

theorem serialize_int (n : Int64)
    : ∃ (d : Decimal) (negative : Bool),
        RustClient.serializeSqlValue (.int n)
        = if negative then '-' :: d.plain else d.plain := by
  refine ⟨⟨n.toInt.natAbs, 0⟩, decide (n.toInt < 0), ?_⟩
  rw [RustClient.serializeSqlValue, toString_int]
  simp [Decimal.plain, Decimal.integer]

/-- What holds of every form of a literal holds of the literals: a number is a decimal after a sign,
apart from those written in full here.
-/
theorem serializeSqlValue_forms {p : List Char → Prop}
    (fixed : ∀ text ∈ ["NULL", "1", "0", "9e999", "-9e999"], p text.toList)
    (number : ∀ (d : Decimal) (negative : Bool), p (if negative then '-' :: d.plain else d.plain))
    (quoted : ∀ s, p (quoteText s))
    (blob : ∀ bytes, p (RustClient.serializeSqlValue (.blob bytes)))
    (param : RustClient.Param)
    : p (RustClient.serializeSqlValue param) := by
  cases param with
  | null => exact fixed "NULL" (by decide)
  | bool b =>
      cases b with
      | true => exact fixed "1" (by decide)
      | false => exact fixed "0" (by decide)
  | text s => exact quoted s.toList
  | blob bytes => exact blob bytes
  | int n =>
      obtain ⟨d, negative, shown⟩ := serialize_int n
      rw [shown]
      exact number d negative
  | real bits =>
      obtain ⟨text, member, shown⟩ | ⟨d, negative, shown⟩ := serialize_real bits
      · rw [shown]
        refine fixed text ?_
        simp only [List.mem_cons, List.not_mem_nil, or_false] at member ⊢
        rcases member with null | positive | negative
        · exact Or.inl null
        · exact Or.inr (Or.inr (Or.inr (Or.inl positive)))
        · exact Or.inr (Or.inr (Or.inr (Or.inr negative)))
      · rw [shown]
        exact number d negative

/-- No literal begins like a placeholder. -/
theorem serializeSqlValue_head (param : RustClient.Param)
    : ∃ c rest, RustClient.serializeSqlValue param = c :: rest ∧ c ≠ '?' := by
  refine serializeSqlValue_forms (p := fun text => ∃ c rest, text = c :: rest ∧ c ≠ '?')
    ?_ ?_ ?_ ?_ param
  · simp
  · intro d negative
    cases negative with
    | true => exact ⟨'-', _, rfl, by decide⟩
    | false =>
        obtain ⟨c, rest, digits, digit⟩ := plain_head d
        refine ⟨c, rest, digits, ?_⟩
        rintro rfl
        exact absurd digit (by decide)
  · exact fun s => ⟨'\'', _, rfl, by decide⟩
  · exact fun bytes => ⟨'X', _, rfl, by decide⟩

end SqliteServer
