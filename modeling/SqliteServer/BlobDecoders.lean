import SqliteServer.BlobLiterals
import SqliteServer.Regex.Matching

/-! The Python client's decoder of BLOB literals, and where it differs from the Rust client's. -/

namespace SqliteServer

open Regex Wire

-----------------------------------------------------------------------------------------
-- The decoder
-----------------------------------------------------------------------------------------

namespace PythonClient

/-- What the decoder raises: its own error or the one of `bytes.fromhex`. -/
inductive ValueError where
  | notALiteral (message : String)
  | notHexadecimal
deriving DecidableEq

/-- The arguments of the decoder. -/
inductive BlobValue where
  | none
  | bytes (bytes : Bytes)
  | str (text : String)

/-- The pattern `[Xx]'([0-9A-Fa-f]*)'`. -/
def blobLiteralRe : Pattern :=
  .seq (.chars (fun c => c = 'X' || c = 'x'))
    (.seq (.chars (fun c => c = '\''))
      (.seq (.group 1 (.opt (.plus isHexDigit))) (.chars (fun c => c = '\''))))

/-- The position of `$`: the end of the text, or before a newline that ends it. -/
def atDollar : List Char → Bool
  | [] => true
  | ['\n'] => true
  | _ => false

/-- The match from `^` to `$`. -/
def matchBlobLiteral (text : String) : Option Match :=
  (blobLiteralRe.matches text.toList).find? (fun found => atDollar found.rest)

def isAsciiSpace (c : Char) : Bool := c = ' ' || ('\t' ≤ c && c ≤ '\r')

def digitValue (c : Char) : Option UInt8 :=
  if c.toNat < 0x80 then RustClient.hexVal (UInt8.ofNat c.toNat) else none

/-- `bytes.fromhex`: pairs of digits, with whitespace between the pairs. -/
def fromHex : List Char → Except ValueError Bytes
  | [] => .ok []
  | [c] => if isAsciiSpace c then .ok [] else .error .notHexadecimal
  | c :: d :: rest =>
      if isAsciiSpace c then fromHex (d :: rest)
      else
        match digitValue c, digitValue d with
        | some high, some low => (fromHex rest).map (fun bytes => ((high <<< 4) ||| low) :: bytes)
        | _, _ => .error .notHexadecimal

/-- The bytes of a BLOB column. `repr` is how Python displays a text. -/
def decodeBlobLiteral (repr : String → String) : BlobValue → Except ValueError (Option Bytes)
  | .none => .ok none
  | .bytes bytes => .ok (some bytes)
  | .str text =>
      match matchBlobLiteral text with
      | none => .error (.notALiteral ("Not a BLOB literal: " ++ repr text))
      | some found => (fromHex (found.capture 1)).map some

end PythonClient

-----------------------------------------------------------------------------------------
-- What it accepts
-----------------------------------------------------------------------------------------

namespace PythonClient

/-- The closing quote. -/
def closingQuote (digits text : List Char) : List Match :=
  match text with
  | '\'' :: rest => [⟨[(1, digits)], digits ++ ['\''], rest⟩]
  | _ => []

theorem closingQuote_matches (digits text : List Char)
    : ((Pattern.chars (fun c => c = '\'')).matches text).map
        (fun right =>
          (⟨[(1, digits)] ++ right.captures, digits ++ right.consumed, right.rest⟩ : Match))
      = closingQuote digits text := by
  cases text with
  | nil => rfl
  | cons c rest =>
      by_cases quote : c = '\''
      · subst quote
        rfl
      · simp [Pattern.matches, closingQuote, quote]

/-- The digits and the quote after them. -/
def quotedDigits : Pattern :=
  .seq (.group 1 (.opt (.plus isHexDigit))) (.chars (fun c => c = '\''))

/-- The digits cannot end early, as a quote is no digit. -/
theorem quotedDigits_matches (text : List Char)
    : quotedDigits.matches text
      = closingQuote (text.takeWhile isHexDigit) (text.dropWhile isHexDigit) := by
  have blocked (run : List Char) (c : Char) (rest : List Char) (digit : isHexDigit c = true)
      : closingQuote run (c :: rest) = [] := by
    have other : c ≠ '\'' := by
      rintro rfl
      exact absurd digit (by decide)
    simp [closingQuote, other]
  have whole := flatMap_runs closingQuote blocked text
  have unfolded
      : quotedDigits.matches text
        = (runs isHexDigit text).flatMap (fun run => closingQuote run.1 run.2)
          ++ closingQuote [] text := by
    simp only [← closingQuote_matches]
    simp [quotedDigits, Pattern.matches, List.flatMap_map, List.flatMap_append]
  rw [unfolded, whole]
  cases text with
  | nil => rfl
  | cons c rest =>
      by_cases digit : isHexDigit c = true
      · simp [digit, blocked]
      · simp [digit]

/-- The pattern is an X, a quote and the digits. -/
theorem blobLiteralRe_matches (text : List Char)
    : blobLiteralRe.matches text
      = match text with
        | x :: quote :: body =>
            if (x = 'X' ∨ x = 'x') ∧ quote = '\'' then
              (quotedDigits.matches body).map
                (fun right => ⟨right.captures, x :: quote :: right.consumed, right.rest⟩)
            else []
        | _ => [] := by
  have split
      : blobLiteralRe
        = .seq (.chars (fun c => c = 'X' || c = 'x'))
            (.seq (.chars (fun c => c = '\'')) quotedDigits) := rfl
  rw [split]
  cases text with
  | nil => rfl
  | cons x afterX =>
      by_cases lead : x = 'X' ∨ x = 'x'
      · cases afterX with
        | nil => simp [Pattern.matches]
        | cons quote body =>
            by_cases opens : quote = '\''
            · simp [Pattern.matches, lead, opens, List.map_map, Function.comp_def]
            · simp [Pattern.matches, lead, opens]
      · cases afterX with
        | nil => simp [Pattern.matches]
        | cons quote body => simp [Pattern.matches, lead]

/-- Digits between quotes after an X, and then `rest`. -/
def Quoted (text : List Char) (digits rest : List Char) : Prop :=
  ∃ x,
    text = x :: '\'' :: (digits ++ '\'' :: rest)
    ∧ (x = 'X' ∨ x = 'x')
    ∧ digits.all isHexDigit = true

/-- Such a text has one match. -/
theorem blobLiteralRe_quoted {text digits rest : List Char} (quoted : Quoted text digits rest)
    : ∃ consumed, blobLiteralRe.matches text = [⟨[(1, digits)], consumed, rest⟩] := by
  obtain ⟨x, rfl, lead, all⟩ := quoted
  have stop : isHexDigit '\'' = false := by decide
  have inside : ∀ digit ∈ digits, isHexDigit digit = true := List.all_eq_true.mp all
  refine ⟨x :: '\'' :: (digits ++ ['\'']), ?_⟩
  rw [blobLiteralRe_matches]
  simp only [lead, true_and, if_true]
  rw [quotedDigits_matches, List.takeWhile_append_of_pos inside,
    List.dropWhile_append_of_pos inside]
  simp [stop, closingQuote]

/-- Every match is one of such a text. -/
theorem blobLiteralRe_mem {text : List Char} {found : Match}
    (member : found ∈ blobLiteralRe.matches text)
    : Quoted text (found.capture 1) found.rest := by
  rw [blobLiteralRe_matches] at member
  split at member
  · rename_i x quote body
    split at member
    · rename_i framed
      obtain ⟨lead, rfl⟩ := framed
      rw [quotedDigits_matches] at member
      unfold closingQuote at member
      split at member
      · rename_i rest after
        simp only [List.map_cons, List.map_nil, List.mem_singleton] at member
        subst member
        refine ⟨x, ?_, lead, ?_⟩
        · have whole := List.takeWhile_append_dropWhile (p := isHexDigit) (l := body)
          rw [after] at whole
          simp [Match.capture, whole]
        · simp [Match.capture]
      · cases member
    · cases member
  · cases member

theorem atDollar_iff (rest : List Char)
    : atDollar rest = true ↔ rest = [] ∨ rest = ['\n'] := by
  unfold atDollar
  split <;> simp_all

/-- A text is read if it is such a text and ends there, or in a newline. -/
theorem decodeBlobLiteral_quoted (repr : String → String) {text : String}
    {digits rest : List Char} (quoted : Quoted text.toList digits rest)
    (ends : rest = [] ∨ rest = ['\n'])
    : decodeBlobLiteral repr (.str text) = (fromHex digits).map some := by
  obtain ⟨consumed, only⟩ := blobLiteralRe_quoted quoted
  have found : matchBlobLiteral text = some ⟨[(1, digits)], consumed, rest⟩ := by
    rw [matchBlobLiteral, only]
    simp [(atDollar_iff rest).mpr ends]
  simp only [decodeBlobLiteral, found]
  rfl

theorem decodeBlobLiteral_unquoted (repr : String → String) {text : String}
    (unquoted : ¬ ∃ digits rest, Quoted text.toList digits rest ∧ (rest = [] ∨ rest = ['\n']))
    : ∃ error, decodeBlobLiteral repr (.str text) = .error error := by
  cases matched : matchBlobLiteral text with
  | none => exact ⟨_, by simp only [decodeBlobLiteral, matched]; rfl⟩
  | some found =>
      have quoted := blobLiteralRe_mem (List.mem_of_find?_eq_some matched)
      have ends : atDollar found.rest = true := by simpa using List.find?_some matched
      exact absurd ⟨_, _, quoted, (atDollar_iff _).mp ends⟩ unquoted

theorem digitValue_asciiChar
    : ∀ b, (RustClient.hexVal b).isSome = true →
        isAsciiSpace (asciiChar b) = false ∧ digitValue (asciiChar b) = RustClient.hexVal b := by
  refine byte_forall ?_
  decide +kernel

/-- On digits, `bytes.fromhex` reads pairs, by induction on them. -/
theorem fromHex_digits (hex : Bytes)
    (digits : ∀ digit ∈ hex, (RustClient.hexVal digit).isSome = true)
    : fromHex (hex.map asciiChar)
      = match RustClient.unhex hex with
        | some b => .ok b
        | none => .error .notHexadecimal := by
  fun_induction RustClient.unhex hex with
  | case1 => rfl
  | case2 a =>
      obtain ⟨solid, -⟩ := digitValue_asciiChar a (digits a (by simp))
      simp [fromHex, solid]
  | case3 a c rest high low bytes inner second first ih =>
      obtain ⟨solid, highValue⟩ := digitValue_asciiChar a (digits a (by simp))
      obtain ⟨-, lowValue⟩ := digitValue_asciiChar c (digits c (by simp))
      have others := ih (fun digit member => digits digit (by simp [member]))
      simp [fromHex, solid, highValue, lowValue, first, second, others, inner, Except.map]
  | case4 a c rest unread ih =>
      obtain ⟨solid, highValue⟩ := digitValue_asciiChar a (digits a (by simp))
      obtain ⟨-, lowValue⟩ := digitValue_asciiChar c (digits c (by simp))
      have others := ih (fun digit member => digits digit (by simp [member]))
      obtain ⟨high, first⟩ := Option.isSome_iff_exists.mp (digits a (by simp))
      obtain ⟨low, second⟩ := Option.isSome_iff_exists.mp (digits c (by simp))
      cases inner : RustClient.unhex rest with
      | some bytes => exact absurd inner (unread high low bytes first second)
      | none =>
          simp [fromHex, solid, highValue, lowValue, first, second, others, inner, Except.map]

end PythonClient

-----------------------------------------------------------------------------------------
-- Where the decoders agree
-----------------------------------------------------------------------------------------

open PythonClient

theorem quoted_unique {text digits rest others after : List Char}
    (quoted : Quoted text digits rest) (again : Quoted text others after)
    : digits = others ∧ rest = after := by
  obtain ⟨consumed, one⟩ := blobLiteralRe_quoted quoted
  obtain ⟨consumed', other⟩ := blobLiteralRe_quoted again
  rw [one] at other
  simp only [List.cons.injEq, Match.mk.injEq, Prod.mk.injEq, true_and, and_true] at other
  exact ⟨other.1, other.2.2⟩

/-- A literal is digits between quotes with nothing after them, in pairs. -/
theorem isBlobLiteral_quoted (s : String)
    : IsBlobLiteral s ↔ ∃ digits, Quoted s.toList digits [] ∧ digits.length % 2 = 0 := by
  constructor
  · rintro ⟨x, digits, shape, lead, all, even⟩
    exact ⟨digits, ⟨x, shape, lead, all⟩, even⟩
  · rintro ⟨digits, ⟨x, shape, lead, all⟩, even⟩
    exact ⟨x, digits, shape, lead, all, even⟩

/-- A text with a newline after a literal. -/
def EndsInNewline (s : String) : Prop := ∃ t, s = t ++ "\n" ∧ IsBlobLiteral t

theorem endsInNewline_quoted (s : String)
    : EndsInNewline s ↔ ∃ digits, Quoted s.toList digits ['\n'] ∧ digits.length % 2 = 0 := by
  constructor
  · rintro ⟨t, rfl, x, digits, shape, lead, all, even⟩
    exact ⟨digits, ⟨x, by simp [shape], lead, all⟩, even⟩
  · rintro ⟨digits, ⟨x, shape, lead, all⟩, even⟩
    refine ⟨String.ofList (x :: '\'' :: (digits ++ ['\''])), ?_, ?_⟩
    · rw [← String.toList_inj, shape]
      simp
    · exact ⟨x, digits, by rw [String.toList_ofList], lead, all, even⟩

/-- The Rust client reads the digits between the quotes when nothing follows. -/
theorem decodeBlobLiteral_digits {s : String} {hex : Bytes}
    (quoted : Quoted s.toList (hex.map asciiChar) [])
    (digits : ∀ digit ∈ hex, (RustClient.hexVal digit).isSome = true)
    : RustClient.decodeBlobLiteral s = .ok (RustClient.unhex hex) := by
  obtain ⟨x, shape, lead, -⟩ := quoted
  rcases lead with rfl | rfl
  · have framed := (framed_iff s 0x58 hex (Or.inl rfl) digits).mpr shape
    exact RustClient.decodeBlobLiteral_framed framed (Or.inl rfl)
  · have framed := (framed_iff s 0x78 hex (Or.inr rfl) digits).mpr shape
    exact RustClient.decodeBlobLiteral_framed framed (Or.inr rfl)

theorem decodeBlobLiteral_refused {s : String} (other : ¬ IsBlobLiteral s)
    : RustClient.decodeBlobLiteral s = .ok none := by
  obtain ⟨answer, decoded⟩ := RustClient.decodeBlobLiteral_ok s
  cases answer with
  | none => exact decoded
  | some b => exact absurd ((decodeBlobLiteral_iff s).mp ⟨b, decoded⟩) other

/-- The decoders agree on a text if both read the same bytes or both read none. -/
def DecodersAgree (repr : String → String) (s : String) : Prop :=
  (∀ b,
    RustClient.decodeBlobLiteral s = .ok (some b)
    ↔ PythonClient.decodeBlobLiteral repr (.str s) = .ok (some b))
  ∧ (RustClient.decodeBlobLiteral s = .ok none
    ↔ ∃ error, PythonClient.decodeBlobLiteral repr (.str s) = .error error)

theorem decodersAgree_some {repr : String → String} {s : String} {b : Bytes}
    (rust : RustClient.decodeBlobLiteral s = .ok (some b))
    (python : PythonClient.decodeBlobLiteral repr (.str s) = .ok (some b))
    : DecodersAgree repr s := by
  rw [DecodersAgree, rust, python]
  simp

theorem decodersAgree_none {repr : String → String} {s : String}
    (rust : RustClient.decodeBlobLiteral s = .ok none)
    (python : ∃ error, PythonClient.decodeBlobLiteral repr (.str s) = .error error)
    : DecodersAgree repr s := by
  obtain ⟨error, raised⟩ := python
  rw [DecodersAgree, rust, raised]
  simp

/-- Nothing after the digits: both clients read them. -/
theorem decodersAgree_closed (repr : String → String) {s : String} {hex : Bytes}
    (quoted : Quoted s.toList (hex.map asciiChar) [])
    (digits : ∀ digit ∈ hex, (RustClient.hexVal digit).isSome = true)
    : DecodersAgree repr s := by
  have rust := decodeBlobLiteral_digits quoted digits
  have python := decodeBlobLiteral_quoted repr quoted (Or.inl rfl)
  rw [fromHex_digits hex digits] at python
  cases unhexed : RustClient.unhex hex with
  | none =>
      rw [unhexed] at rust python
      exact decodersAgree_none rust ⟨_, python⟩
  | some b =>
      rw [unhexed] at rust python
      exact decodersAgree_some rust python

/-- A newline after the digits: only the Python client reads them, if they come in pairs. -/
theorem decodersAgree_newline (repr : String → String) {s : String} {hex : Bytes}
    (quoted : Quoted s.toList (hex.map asciiChar) ['\n'])
    (digits : ∀ digit ∈ hex, (RustClient.hexVal digit).isSome = true)
    : DecodersAgree repr s ↔ hex.length % 2 ≠ 0 := by
  have refused : RustClient.decodeBlobLiteral s = .ok none := by
    refine decodeBlobLiteral_refused fun literal => ?_
    obtain ⟨others, again, -⟩ := (isBlobLiteral_quoted s).mp literal
    cases (quoted_unique quoted again).2
  have python := decodeBlobLiteral_quoted repr quoted (Or.inr rfl)
  have paired := RustClient.unhex_some_iff hex
  rw [fromHex_digits hex digits] at python
  cases unhexed : RustClient.unhex hex with
  | none =>
      rw [unhexed] at python paired
      refine iff_of_true (decodersAgree_none refused ⟨_, python⟩) ?_
      intro even
      obtain ⟨b, read⟩ := paired.mpr ⟨even, digits⟩
      cases read
  | some b =>
      rw [unhexed] at python paired
      refine iff_of_false ?_ (not_not.mpr (paired.mp ⟨b, rfl⟩).1)
      intro agree
      have both := (agree.1 b).mpr python
      rw [refused] at both
      cases both

/-- The decoders agree on all texts but a literal with a newline after it, which only the Python
client reads. By cases on what follows the digits between quotes, if there are any.
-/
theorem decodersAgree_iff (repr : String → String) (s : String)
    : DecodersAgree repr s ↔ ¬ EndsInNewline s := by
  rw [endsInNewline_quoted]
  by_cases quoted : ∃ digits rest, Quoted s.toList digits rest ∧ (rest = [] ∨ rest = ['\n'])
  · obtain ⟨digits, rest, quoted, ends⟩ := quoted
    obtain ⟨hex, rfl, read⟩ := digits_bytes quoted.choose_spec.2.2
    rcases ends with rfl | rfl
    · refine iff_of_true (decodersAgree_closed repr quoted read) ?_
      rintro ⟨others, again, -⟩
      cases (quoted_unique quoted again).2
    · rw [decodersAgree_newline repr quoted read, not_iff_not]
      constructor
      · intro even
        exact ⟨_, quoted, by simpa using even⟩
      · rintro ⟨others, again, even⟩
        rw [← (quoted_unique quoted again).1] at even
        simpa using even
  · have literal : ¬ IsBlobLiteral s := by
      intro literal
      obtain ⟨digits, inner, -⟩ := (isBlobLiteral_quoted s).mp literal
      exact quoted ⟨digits, [], inner, Or.inl rfl⟩
    have refused := decodeBlobLiteral_refused literal
    refine iff_of_true
      (decodersAgree_none refused (decodeBlobLiteral_unquoted repr quoted)) ?_
    rintro ⟨digits, inner, -⟩
    exact quoted ⟨digits, ['\n'], inner, Or.inr rfl⟩

/-- The Rust client refuses a literal with a newline after it. -/
theorem newlineLiteral_disagree
    : ¬ ∀ repr s, DecodersAgree repr s := by
  intro agree
  have both := (agree (fun text => text) "X'00'\n").1 [0]
  have python
      : PythonClient.decodeBlobLiteral (fun text => text) (.str "X'00'\n") = .ok (some [0]) := by
    decide +kernel
  have rust : RustClient.decodeBlobLiteral "X'00'\n" = .ok none := by
    decide +kernel
  rw [python, rust] at both
  simp at both

end SqliteServer
