import SqliteServer.Cidr
import SqliteServer.QueryValues

/-! BLOB literals: what the server writes and what the Rust client reads. Indexing and slicing are
checked, and a failed check is a panic.
-/

namespace SqliteServer

open Json Wire

-----------------------------------------------------------------------------------------
-- The decoder
-----------------------------------------------------------------------------------------

namespace RustClient

def hexVal (c : UInt8) : Option UInt8 :=
  if 0x30 ≤ c ∧ c ≤ 0x39 then some (c - 0x30)
  else if 0x61 ≤ c ∧ c ≤ 0x66 then some (c - 0x61 + 10)
  else if 0x41 ≤ c ∧ c ≤ 0x46 then some (c - 0x41 + 10)
  else none

/-- Whether a character starts or the text ends at a byte. -/
def isCharBoundary (bytes : Bytes) (i : Nat) : Bool :=
  match bytes[i]? with
  | some b => i = 0 || !isContinuation b
  | none => i = bytes.length

/-- The bytes of a part of a text, which must not cut through a character. -/
def slice (text : String) (start stop : Nat) : Except Halt Bytes :=
  let bytes := utf8Bytes text
  if start ≤ stop ∧ stop ≤ bytes.length ∧ isCharBoundary bytes start = true
      ∧ isCharBoundary bytes stop = true then
    .ok ((bytes.take stop).drop start)
  else .error .panic

/-- The loop over the digits, two at a time. -/
def decodeDigits (h : Bytes) (i : Nat) (out : Bytes) : Except Halt (Option Bytes) :=
  if _inside : i < h.length then do
    match hexVal (← index h i) with
    | none => return none
    | some high =>
        match hexVal (← index h (i + 1)) with
        | none => return none
        | some low => decodeDigits h (i + 2) (out ++ [(high <<< 4) ||| low])
  else .ok (some out)
termination_by h.length - i

/-- The bytes of an `X'..'` literal, or none. -/
def decodeBlobLiteral (literal : String) : Except Halt (Option Bytes) := do
  let bytes := utf8Bytes literal
  if bytes.length < 3 then return none
  let first ← index bytes 0
  if ¬ (first = 0x58 ∨ first = 0x78) then return none
  let second ← index bytes 1
  if second ≠ 0x27 then return none
  if bytes.getLast? ≠ some 0x27 then return none
  let hex ← slice literal 2 (bytes.length - 1)
  if hex.length % 2 ≠ 0 then return none
  decodeDigits hex 0 []

end RustClient

-----------------------------------------------------------------------------------------
-- Texts
-----------------------------------------------------------------------------------------

/-- The text of a BLOB in a response. -/
def blobText (b : Bytes) : String := "X'" ++ toHex b ++ "'"

def isHexDigit (c : Char) : Bool :=
  ('0' ≤ c && c ≤ '9') || ('a' ≤ c && c ≤ 'f') || ('A' ≤ c && c ≤ 'F')

/-- `X` or `x`, and an even number of hexadecimal digits between single quotes. -/
def IsBlobLiteral (s : String) : Prop :=
  ∃ x digits,
    s.toList = x :: '\'' :: (digits ++ ['\''])
    ∧ (x = 'X' ∨ x = 'x')
    ∧ digits.all isHexDigit = true
    ∧ digits.length % 2 = 0

/-- The character of one byte. -/
def asciiChar (b : UInt8) : Char := Char.ofNat b.toNat

theorem utf8EncodeChar_ascii
    : ∀ n < 128, String.utf8EncodeChar (asciiChar (UInt8.ofNat n)) = [UInt8.ofNat n] := by
  decide

/-- A text of one-byte characters has these bytes, by induction on them. -/
theorem utf8Bytes_ascii {bytes : Bytes} (ascii : ∀ b ∈ bytes, b < 0x80)
    : utf8Bytes (String.ofList (bytes.map asciiChar)) = bytes := by
  rw [utf8Bytes, String.toList_ofList]
  induction bytes with
  | nil => rfl
  | cons b rest ih =>
      have one := utf8EncodeChar_ascii b.toNat
        (UInt8.lt_iff_toNat_lt.mp (ascii b List.mem_cons_self))
      rw [UInt8.ofNat_toNat] at one
      rw [List.map_cons, List.flatMap_cons, one,
        ih (fun other member => ascii other (List.mem_cons_of_mem _ member))]
      rfl

theorem utf8Bytes_injective {s t : String} (same : utf8Bytes s = utf8Bytes t) : s = t := by
  rw [← fromUtf8Lossy_utf8Bytes s, same, fromUtf8Lossy_utf8Bytes]

/-- The encoding of a character starts with a byte that continues none, and is that byte alone if it
is small.
-/
theorem utf8EncodeChar_head (c : Char)
    : ∃ lead others,
        String.utf8EncodeChar c = lead :: others
        ∧ isContinuation lead = false
        ∧ (lead < 0x80 → others = []) := by
  have wide {n code : Nat} (value : n = code) (small : code < 256) (lead : 192 ≤ code)
      : isContinuation (UInt8.ofNat n) = false ∧ ¬ UInt8.ofNat n < 0x80 := by
    have byte := toNat_ofNat_byte (value ▸ small)
    rw [UInt8.lt_iff_toNat_lt, isContinuation, decide_eq_false_iff_not, byte, value]
    simp only [UInt8.reduceToNat]
    omega
  simp only [String.utf8EncodeChar]
  split_ifs with one two three
  · refine ⟨_, _, rfl, ?_, fun _ => rfl⟩
    rw [isContinuation, decide_eq_false_iff_not, toNat_ofNat_byte (by omega)]
    omega
  · obtain ⟨leads, large⟩ := wide rfl (show c.val.toNat / 64 % 32 + 192 < 256 by omega) (by omega)
    exact ⟨_, _, rfl, leads, fun small => absurd small large⟩
  · obtain ⟨leads, large⟩ := wide rfl (show c.val.toNat / 4096 % 16 + 224 < 256 by omega) (by omega)
    exact ⟨_, _, rfl, leads, fun small => absurd small large⟩
  · obtain ⟨leads, large⟩ :=
      wide rfl (show c.val.toNat / 262144 % 8 + 240 < 256 by omega) (by omega)
    exact ⟨_, _, rfl, leads, fun small => absurd small large⟩

/-- After a small byte of a text, another text begins. -/
theorem utf8Bytes_rest {s : String} {b : UInt8} {bytes : Bytes} (small : b < 0x80)
    (begins : utf8Bytes s = b :: bytes)
    : ∃ t, utf8Bytes t = bytes := by
  rw [utf8Bytes] at begins
  cases chars : s.toList with
  | nil => simp [chars] at begins
  | cons c rest =>
      obtain ⟨lead, others, encoded, -, alone⟩ := utf8EncodeChar_head c
      rw [chars, List.flatMap_cons, encoded, List.cons_append] at begins
      obtain ⟨rfl, rfl⟩ := List.cons.inj begins
      exact ⟨String.ofList rest, by rw [alone small, utf8Bytes, String.toList_ofList]; rfl⟩

/-- No text begins within a character. -/
theorem utf8Bytes_head {s : String} {b : UInt8} {bytes : Bytes} (begins : utf8Bytes s = b :: bytes)
    : isContinuation b = false := by
  rw [utf8Bytes] at begins
  cases chars : s.toList with
  | nil => simp [chars] at begins
  | cons c rest =>
      obtain ⟨lead, others, encoded, leads, -⟩ := utf8EncodeChar_head c
      rw [chars, List.flatMap_cons, encoded, List.cons_append] at begins
      obtain ⟨rfl, -⟩ := List.cons.inj begins
      exact leads

-----------------------------------------------------------------------------------------
-- Digits
-----------------------------------------------------------------------------------------

namespace RustClient

/-- The bytes of a run of hexadecimal digits, two for each. -/
def unhex : Bytes → Option Bytes
  | [] => some []
  | [_] => none
  | a :: b :: rest =>
      match hexVal a, hexVal b, unhex rest with
      | some high, some low, some bytes => some (((high <<< 4) ||| low) :: bytes)
      | _, _, _ => none

/-- The loop reads what is left of an even number of digits, and never panics. -/
theorem decodeDigits_eq (h : Bytes) (i : Nat) (out : Bytes) (even : (h.length - i) % 2 = 0)
    : decodeDigits h i out = .ok ((unhex (h.drop i)).map (fun bytes => out ++ bytes)) := by
  induction i, out using decodeDigits.induct h with
  | case1 i out inside ih =>
      have next : i + 1 < h.length := by omega
      have first : index h i = .ok h[i] := by rw [index, List.getElem?_eq_getElem inside]
      have second : index h (i + 1) = .ok h[i + 1] := by rw [index, List.getElem?_eq_getElem next]
      rw [decodeDigits, dif_pos inside, first, second, List.drop_eq_getElem_cons inside,
        List.drop_eq_getElem_cons next]
      simp only [bind, Except.bind, unhex]
      cases high : hexVal h[i] with
      | none => rfl
      | some upper =>
          cases low : hexVal h[i + 1] with
          | none => rfl
          | some lower =>
              have rest := ih upper lower (by omega)
              simp only [rest]
              cases unhex (h.drop (i + 2)) with
              | none => rfl
              | some bytes => simp
  | case2 i out beyond =>
      rw [decodeDigits, dif_neg beyond, List.drop_eq_nil_of_le (by omega)]
      simp [unhex]

/-- Digits that are read come in pairs, by induction on the reading. -/
theorem unhex_even {hex bytes : Bytes} (read : unhex hex = some bytes)
    : hex.length % 2 = 0 := by
  fun_induction unhex hex generalizing bytes with
  | case1 => rfl
  | case2 => cases read
  | case3 a b rest high low others inner second first ih =>
      have := ih inner
      simp only [List.length_cons]
      omega
  | case4 => cases read

/-- A text between quotes after an X is read digit by digit. -/
theorem decodeBlobLiteral_framed {s : String} {x : UInt8} {hex : Bytes}
    (framed : utf8Bytes s = x :: 0x27 :: (hex ++ [0x27])) (lead : x = 0x58 ∨ x = 0x78)
    : decodeBlobLiteral s = .ok (unhex hex) := by
  have small : x < 0x80 := by rcases lead with rfl | rfl <;> decide
  obtain ⟨quoted, afterX⟩ := utf8Bytes_rest small framed
  obtain ⟨body, afterQuote⟩ := utf8Bytes_rest (by decide) afterX
  have length : (utf8Bytes s).length = hex.length + 3 := by simp [framed]
  have last : (utf8Bytes s).getLast? = some 0x27 := by
    rw [framed, ← List.cons_append, ← List.cons_append, List.getLast?_concat]
  have opens : isCharBoundary (utf8Bytes s) 2 = true := by
    rw [framed]
    cases hex with
    | nil => rfl
    | cons digit rest =>
        have starts := utf8Bytes_head (b := digit) afterQuote
        simp [isCharBoundary, starts]
  have closes : isCharBoundary (utf8Bytes s) (hex.length + 2) = true := by
    have quote : isContinuation 0x27 = false := by decide
    simp [isCharBoundary, framed, quote]
  have inner : slice s 2 (hex.length + 2) = .ok hex := by
    rw [slice, length, if_pos ⟨by omega, by omega, opens, closes⟩, framed]
    simp
  have first : index (utf8Bytes s) 0 = .ok x := by rw [framed]; rfl
  have second : index (utf8Bytes s) 1 = .ok 0x27 := by rw [framed]; rfl
  simp only [decodeBlobLiteral, first, second, last, bind, Except.bind, lead, length]
  by_cases even : hex.length % 2 = 0
  · have digits := decodeDigits_eq hex 0 [] even
    simp [inner, even, digits]
  · have unread : unhex hex = none := by
      cases read : unhex hex with
      | none => rfl
      | some bytes => exact absurd (unhex_even read) even
    simp [inner, even, unread]
    rfl

/-- A text that is not framed so is refused without a panic. -/
theorem decodeBlobLiteral_other {s : String}
    (unframed
      : ¬ ∃ x hex, utf8Bytes s = x :: 0x27 :: (hex ++ [0x27]) ∧ (x = 0x58 ∨ x = 0x78))
    : decodeBlobLiteral s = .ok none := by
  cases bytes : utf8Bytes s with
  | nil => simp [decodeBlobLiteral, bytes]; rfl
  | cons x afterX =>
      cases afterX with
      | nil => simp [decodeBlobLiteral, bytes]; rfl
      | cons quote rest =>
          cases rest with
          | nil => simp [decodeBlobLiteral, bytes]; rfl
          | cons c rest =>
              by_cases lead : x = 0x58 ∨ x = 0x78
              · by_cases opens : quote = 0x27
                · by_cases closes : (c :: rest).getLast (List.cons_ne_nil c rest) = 0x27
                  · have split := List.dropLast_append_getLast (List.cons_ne_nil c rest)
                    rw [closes] at split
                    exact absurd ⟨x, _, by rw [bytes, opens, split], lead⟩ unframed
                  · have last : (c :: rest).getLast? ≠ some 0x27 := by
                      rw [List.getLast?_eq_some_getLast (List.cons_ne_nil c rest)]
                      exact fun same => closes (Option.some.inj same)
                    simp [decodeBlobLiteral, bytes, index, bind, Except.bind, lead, opens, last]
                    rfl
                · simp [decodeBlobLiteral, bytes, index, bind, Except.bind, lead, opens]
                  rfl
              · simp [decodeBlobLiteral, bytes, index, bind, Except.bind, lead]
                rfl

/-- Only such a text is read, and then as its digits say. -/
theorem decodeBlobLiteral_some (s : String) (b : Bytes)
    : decodeBlobLiteral s = .ok (some b)
      ↔ ∃ x hex,
          utf8Bytes s = x :: 0x27 :: (hex ++ [0x27])
          ∧ (x = 0x58 ∨ x = 0x78)
          ∧ unhex hex = some b := by
  constructor
  · intro decoded
    by_cases framed : ∃ x hex, utf8Bytes s = x :: 0x27 :: (hex ++ [0x27]) ∧ (x = 0x58 ∨ x = 0x78)
    · obtain ⟨x, hex, bytes, lead⟩ := framed
      rw [decodeBlobLiteral_framed bytes lead] at decoded
      exact ⟨x, hex, bytes, lead, Except.ok.inj decoded⟩
    · rw [decodeBlobLiteral_other framed] at decoded
      cases decoded
  · rintro ⟨x, hex, bytes, lead, read⟩
    rw [decodeBlobLiteral_framed bytes lead, read]

/-- No text makes the decoder panic. -/
theorem decodeBlobLiteral_ok (s : String)
    : ∃ answer, decodeBlobLiteral s = .ok answer := by
  by_cases framed : ∃ x hex, utf8Bytes s = x :: 0x27 :: (hex ++ [0x27]) ∧ (x = 0x58 ∨ x = 0x78)
  · obtain ⟨x, hex, bytes, lead⟩ := framed
    exact ⟨_, decodeBlobLiteral_framed bytes lead⟩
  · exact ⟨_, decodeBlobLiteral_other framed⟩

end RustClient

-----------------------------------------------------------------------------------------
-- Digits as characters
-----------------------------------------------------------------------------------------

open RustClient

/-- The digit of half a byte, as a byte. -/
def hexByte (half : UInt8) : UInt8 := UInt8.ofNat (hexDigits.getD half.toNat '0').toNat

/-- The digits of a byte sequence, as bytes. -/
def hexBytes (b : Bytes) : Bytes :=
  b.flatMap (fun byte : UInt8 => [hexByte (byte >>> 4), hexByte (byte &&& 0x0f)])

theorem byte_forall {p : UInt8 → Prop} (each : ∀ n < 256, p (UInt8.ofNat n))
    : ∀ b, p b := by
  intro b
  have this := each b.toNat b.toNat_lt
  rwa [UInt8.ofNat_toNat] at this

theorem half_forall {p : UInt8 → Prop} (each : ∀ n < 16, p (UInt8.ofNat n))
    : ∀ half < 16, p half := by
  intro half inside
  have this := each half.toNat (UInt8.lt_iff_toNat_lt.mp inside)
  rwa [UInt8.ofNat_toNat] at this

/-- What a digit's byte says of its character. -/
theorem hexVal_char
    : ∀ b, ∀ half ∈ hexVal b,
        b < 0x80
        ∧ half < 16
        ∧ isHexDigit (asciiChar b) = true
        ∧ hexDigits.getD half.toNat '0' = (asciiChar b).toLower := by
  refine byte_forall ?_
  decide +kernel

theorem hexByte_read
    : ∀ half < 16,
        hexVal (hexByte half) = some half
        ∧ hexDigits.getD half.toNat '0' = asciiChar (hexByte half) := by
  refine half_forall ?_
  decide

theorem halves
    : ∀ b : UInt8, b >>> 4 < 16 ∧ b &&& 0x0f < 16 ∧ ((b >>> 4) <<< 4) ||| (b &&& 0x0f) = b := by
  refine byte_forall ?_
  decide +kernel

theorem joined_halves
    : ∀ high < (16 : UInt8), ∀ low < (16 : UInt8),
        ((high <<< 4) ||| low) >>> 4 = high ∧ ((high <<< 4) ||| low) &&& 0x0f = low := by
  refine half_forall fun m inM => half_forall ?_
  revert m
  decide +kernel

theorem hexDigit_byte {c : Char} (digit : isHexDigit c = true)
    : ∃ b, asciiChar b = c ∧ (hexVal b).isSome = true := by
  have small : c.toNat < 128 := by
    simp only [isHexDigit, Bool.or_eq_true, Bool.and_eq_true, decide_eq_true_eq, Char.le_def,
      UInt32.le_iff_toNat_le] at digit
    have value : c.toNat = c.val.toNat := rfl
    rcases digit with (⟨-, upper⟩ | ⟨-, upper⟩) | ⟨-, upper⟩
    · exact value ▸ Nat.lt_of_le_of_lt upper (by decide)
    · exact value ▸ Nat.lt_of_le_of_lt upper (by decide)
    · exact value ▸ Nat.lt_of_le_of_lt upper (by decide)
  have each
      : ∀ n < 128, isHexDigit (Char.ofNat n) = true → (hexVal (UInt8.ofNat n)).isSome = true := by
    decide +kernel
  refine ⟨UInt8.ofNat c.toNat, ?_, each c.toNat small (by rwa [Char.ofNat_toNat])⟩
  rw [asciiChar, toNat_ofNat_byte (by omega), Char.ofNat_toNat]

theorem hexVal_some {b : UInt8} (digit : (hexVal b).isSome = true)
    : b < 0x80 ∧ isHexDigit (asciiChar b) = true := by
  obtain ⟨half, read⟩ := Option.isSome_iff_exists.mp digit
  obtain ⟨small, -, char, -⟩ := hexVal_char b half read
  exact ⟨small, char⟩

namespace RustClient

/-- Digits are read if they are digits and come in pairs, by induction on the pairs. -/
theorem unhex_some_iff (hex : Bytes)
    : (∃ b, unhex hex = some b)
      ↔ hex.length % 2 = 0 ∧ ∀ digit ∈ hex, (hexVal digit).isSome = true := by
  fun_induction unhex hex with
  | case1 => simp
  | case2 => simp
  | case3 a b rest high low bytes inner second first ih =>
      obtain ⟨even, digits⟩ := ih.mp ⟨bytes, inner⟩
      refine iff_of_true ⟨_, rfl⟩ ⟨?_, ?_⟩
      · simp only [List.length_cons]
        omega
      · simpa [first, second] using digits
  | case4 a b rest unread ih =>
      refine iff_of_false (fun found => by simp at found) ?_
      rintro ⟨even, digits⟩
      obtain ⟨high, first⟩ := Option.isSome_iff_exists.mp (digits a (by simp))
      obtain ⟨low, second⟩ := Option.isSome_iff_exists.mp (digits b (by simp))
      have others : rest.length % 2 = 0 := by
        simp only [List.length_cons] at even
        omega
      obtain ⟨bytes, inner⟩ := ih.mpr ⟨others, fun digit member => digits digit (by simp [member])⟩
      exact unread high low bytes first second inner

/-- What is read from the digits of a byte sequence, by induction on it. -/
theorem unhex_hexBytes (b : Bytes)
    : unhex (hexBytes b) = some b := by
  induction b with
  | nil => rfl
  | cons byte rest ih =>
      obtain ⟨upper, lower, joined⟩ := halves byte
      have high := (hexByte_read _ upper).1
      have low := (hexByte_read _ lower).1
      rw [hexBytes] at ih
      simp only [hexBytes, List.flatMap_cons, List.cons_append, List.nil_append, unhex, high, low,
        ih, joined]

end RustClient

/-- The digits of the server. -/
theorem toHex_hexBytes (b : Bytes)
    : toHex b = String.ofList ((hexBytes b).map asciiChar) := by
  rw [toHex, hexBytes, List.map_flatMap]
  congr 2
  funext byte
  obtain ⟨upper, lower, -⟩ := halves byte
  simp only [List.map_cons, List.map_nil, (hexByte_read _ upper).2, (hexByte_read _ lower).2]

/-- The server writes the digits that were read, in lower case, by induction on the pairs. -/
theorem toHex_unhex {hex b : Bytes} (read : unhex hex = some b)
    : (toHex b).toList = hex.map (fun digit => (asciiChar digit).toLower) := by
  rw [toHex, String.toList_ofList]
  fun_induction unhex hex generalizing b with
  | case1 =>
      cases read
      rfl
  | case2 => cases read
  | case3 a c rest high low bytes inner second first ih =>
      cases read
      obtain ⟨-, upper, -, highChar⟩ := hexVal_char a high first
      obtain ⟨-, lower, -, lowChar⟩ := hexVal_char c low second
      obtain ⟨highHalf, lowHalf⟩ := joined_halves high upper low lower
      rw [List.flatMap_cons, highHalf, lowHalf, highChar, lowChar, ih inner]
      rfl
  | case4 => cases read

-----------------------------------------------------------------------------------------
-- Round trips
-----------------------------------------------------------------------------------------

/-- The first character in upper case and the others in lower case. -/
def canonicalCase (s : String) : String :=
  match s.toList with
  | x :: rest => String.ofList (x.toUpper :: rest.map Char.toLower)
  | [] => s

theorem digits_bytes {digits : List Char} (all : digits.all isHexDigit = true)
    : ∃ hex : Bytes,
        hex.map asciiChar = digits ∧ ∀ digit ∈ hex, (hexVal digit).isSome = true := by
  induction digits with
  | nil => exact ⟨[], rfl, by simp⟩
  | cons c rest ih =>
      rw [List.all_cons, Bool.and_eq_true] at all
      obtain ⟨b, rfl, digit⟩ := hexDigit_byte all.1
      obtain ⟨hex, rfl, digits⟩ := ih all.2
      exact ⟨b :: hex, rfl, List.forall_mem_cons.mpr ⟨digit, digits⟩⟩

/-- The bytes of a literal, and the literal of such bytes. -/
theorem framed_iff (s : String) (x : UInt8) (hex : Bytes) (lead : x = 0x58 ∨ x = 0x78)
    (digits : ∀ digit ∈ hex, (hexVal digit).isSome = true)
    : utf8Bytes s = x :: 0x27 :: (hex ++ [0x27])
      ↔ s.toList = asciiChar x :: '\'' :: (hex.map asciiChar ++ ['\'']) := by
  have ascii : ∀ b ∈ x :: 0x27 :: (hex ++ [0x27]), b < (0x80 : UInt8) := by
    intro b member
    simp only [List.mem_cons, List.mem_append, List.not_mem_nil, or_false] at member
    rcases member with rfl | rfl | inner | rfl
    · rcases lead with rfl | rfl <;> decide
    · decide
    · exact (hexVal_some (digits b inner)).1
    · decide
  have bytes := utf8Bytes_ascii ascii
  have quote : asciiChar 0x27 = '\'' := by decide
  have chars
      : (x :: 0x27 :: (hex ++ [0x27])).map asciiChar
        = asciiChar x :: '\'' :: (hex.map asciiChar ++ ['\'']) := by
    simp [quote]
  rw [chars] at bytes
  constructor
  · intro framed
    rw [utf8Bytes_injective (framed.trans bytes.symm), String.toList_ofList]
  · intro shape
    rw [← bytes, ← shape, String.ofList_toList]

/-- A text is a literal if its bytes are framed digits that are read. -/
theorem isBlobLiteral_iff (s : String)
    : IsBlobLiteral s
      ↔ ∃ x hex b,
          utf8Bytes s = x :: 0x27 :: (hex ++ [0x27])
          ∧ (x = 0x58 ∨ x = 0x78)
          ∧ unhex hex = some b := by
  constructor
  · rintro ⟨x, digits, shape, lead, all, even⟩
    obtain ⟨hex, rfl, read⟩ := digits_bytes all
    obtain ⟨b, unhexed⟩ := (unhex_some_iff hex).mpr ⟨by simpa using even, read⟩
    rcases lead with rfl | rfl
    · exact ⟨0x58, hex, b, (framed_iff s _ hex (Or.inl rfl) read).mpr shape, Or.inl rfl, unhexed⟩
    · exact ⟨0x78, hex, b, (framed_iff s _ hex (Or.inr rfl) read).mpr shape, Or.inr rfl, unhexed⟩
  · rintro ⟨x, hex, b, framed, lead, unhexed⟩
    obtain ⟨even, read⟩ := (unhex_some_iff hex).mp ⟨b, unhexed⟩
    refine ⟨asciiChar x, hex.map asciiChar, (framed_iff s x hex lead read).mp framed, ?_, ?_, ?_⟩
    · rcases lead with rfl | rfl <;> decide
    · rw [List.all_eq_true]
      intro c member
      obtain ⟨digit, inner, rfl⟩ := List.mem_map.mp member
      exact (hexVal_some (read digit inner)).2
    · simpa using even

/-- The decoder reads exactly the literals. -/
theorem decodeBlobLiteral_iff (s : String)
    : (∃ b, decodeBlobLiteral s = .ok (some b)) ↔ IsBlobLiteral s := by
  rw [isBlobLiteral_iff]
  constructor
  · rintro ⟨b, decoded⟩
    obtain ⟨x, hex, framed, lead, read⟩ := (decodeBlobLiteral_some s b).mp decoded
    exact ⟨x, hex, b, framed, lead, read⟩
  · rintro ⟨x, hex, b, framed, lead, read⟩
    exact ⟨b, (decodeBlobLiteral_some s b).mpr ⟨x, hex, framed, lead, read⟩⟩

theorem blobText_toList (b : Bytes)
    : (blobText b).toList = 'X' :: '\'' :: ((toHex b).toList ++ ['\'']) := by
  simp [blobText]

/-- What the server writes for bytes is read back as them. -/
theorem decodeBlobLiteral_blobText (b : Bytes)
    : decodeBlobLiteral (blobText b) = .ok (some b) := by
  have digits : ∀ digit ∈ hexBytes b, (hexVal digit).isSome = true :=
    ((unhex_some_iff _).mp ⟨b, unhex_hexBytes b⟩).2
  refine (decodeBlobLiteral_some _ b).mpr ⟨0x58, hexBytes b, ?_, Or.inl rfl, unhex_hexBytes b⟩
  refine (framed_iff _ _ _ (Or.inl rfl) digits).mpr ?_
  rw [blobText_toList, toHex_hexBytes, String.toList_ofList]
  rfl

/-- What is read is written back in the server's case. -/
theorem canonicalCase_decoded {s : String} {b : Bytes}
    (decoded : decodeBlobLiteral s = .ok (some b))
    : blobText b = canonicalCase s := by
  obtain ⟨x, hex, framed, lead, read⟩ := (decodeBlobLiteral_some s b).mp decoded
  have digits := ((unhex_some_iff hex).mp ⟨b, read⟩).2
  have shape := (framed_iff s x hex lead digits).mp framed
  have upper : (asciiChar x).toUpper = 'X' := by rcases lead with rfl | rfl <;> decide
  have quote : '\''.toLower = '\'' := by decide
  rw [← String.toList_inj, blobText_toList, canonicalCase, shape, toHex_unhex read]
  simp [upper, quote]

/-- The decoder reads what the server writes for every byte sequence. It never panics, reads exactly
the literals, and each of them is, up to case, what the server writes for its bytes.
-/
theorem blobLiterals_roundTrip
    : (∀ b, ∃ text,
        valueRefToJson (.blob b) = .string text ∧ decodeBlobLiteral text = .ok (some b))
      ∧ ∀ s,
          (∃ answer, decodeBlobLiteral s = .ok answer)
          ∧ ((∃ b, decodeBlobLiteral s = .ok (some b)) ↔ IsBlobLiteral s)
          ∧ ∀ b,
              decodeBlobLiteral s = .ok (some b)
              → valueRefToJson (.blob b) = .string (canonicalCase s) := by
  constructor
  · intro b
    exact ⟨blobText b, rfl, decodeBlobLiteral_blobText b⟩
  · intro s
    refine ⟨decodeBlobLiteral_ok s, decodeBlobLiteral_iff s, ?_⟩
    intro b decoded
    exact congrArg Value.string (canonicalCase_decoded decoded)

end SqliteServer
