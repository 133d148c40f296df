import Mathlib.Data.List.Basic

/-! UTF-8 bytes of a string, and decoding with replacement: every maximal part of a byte text
that is no character, nor the start of one, becomes one replacement character.
-/

namespace SqliteServer.Wire

abbrev Bytes := List UInt8

/-- The bytes of a string. -/
def utf8Bytes (s : String) : Bytes := s.toList.flatMap String.utf8EncodeChar

def replacement : Char := '\uFFFD'

def isContinuation (b : UInt8) : Bool := b.toNat / 64 = 2

/-- The second byte of a three-byte character: no overlong forms and no surrogates. -/
def isSecondOfThree (lead second : UInt8) : Bool :=
  if lead = 0xE0 then 0xA0 ≤ second && second ≤ 0xBF
  else if lead = 0xED then 0x80 ≤ second && second ≤ 0x9F
  else isContinuation second

/-- The second byte of a four-byte character: no overlong forms and none above the last code. -/
def isSecondOfFour (lead second : UInt8) : Bool :=
  if lead = 0xF0 then 0x90 ≤ second && second ≤ 0xBF
  else if lead = 0xF4 then 0x80 ≤ second && second ≤ 0x8F
  else isContinuation second

/-- The character that starts with `lead`, and how many of the following bytes belong to it. -/
def decodeFirst (lead : UInt8) (rest : Bytes) : Char × Nat :=
  let bits (b : UInt8) (width : Nat) := b.toNat % width
  if lead < 0x80 then (Char.ofNat lead.toNat, 0)
  else if 0xC2 ≤ lead && lead ≤ 0xDF then
    match rest with
    | b :: _ =>
        if isContinuation b then (Char.ofNat (bits lead 32 * 64 + bits b 64), 1)
        else (replacement, 0)
    | [] => (replacement, 0)
  else if 0xE0 ≤ lead && lead ≤ 0xEF then
    match rest with
    | b :: others =>
        if isSecondOfThree lead b then
          match others with
          | c :: _ =>
              if isContinuation c then
                (Char.ofNat ((bits lead 16 * 64 + bits b 64) * 64 + bits c 64), 2)
              else (replacement, 1)
          | [] => (replacement, 1)
        else (replacement, 0)
    | [] => (replacement, 0)
  else if 0xF0 ≤ lead && lead ≤ 0xF4 then
    match rest with
    | b :: others =>
        if isSecondOfFour lead b then
          match others with
          | c :: further =>
              if isContinuation c then
                match further with
                | d :: _ =>
                    if isContinuation d then
                      (Char.ofNat
                        (((bits lead 8 * 64 + bits b 64) * 64 + bits c 64) * 64 + bits d 64), 3)
                    else (replacement, 2)
                | [] => (replacement, 2)
              else (replacement, 1)
          | [] => (replacement, 1)
        else (replacement, 0)
    | [] => (replacement, 0)
  else (replacement, 0)

/-- Decode after skipping the bytes that still belong to the last character. -/
def lossyFrom : Nat → Bytes → List Char
  | _, [] => []
  | skip + 1, _ :: rest => lossyFrom skip rest
  | 0, b :: rest => (decodeFirst b rest).1 :: lossyFrom (decodeFirst b rest).2 rest

def fromUtf8Lossy (bytes : Bytes) : String := String.ofList (lossyFrom 0 bytes)

/-- A byte given by its value. -/
theorem toNat_ofNat_byte {n : Nat} (small : n < 256) : (UInt8.ofNat n).toNat = n := by
  simpa using Nat.mod_eq_of_lt small

/-- `b` is the continuation byte with the last six bits of `n`. -/
def Continues (b : UInt8) (n : Nat) : Prop := b.toNat = n % 64 + 128

theorem Continues.isContinuation {b : UInt8} {n : Nat} (continues : Continues b n)
    : Wire.isContinuation b = true := by
  rw [Wire.isContinuation, decide_eq_true_eq, continues]
  omega

theorem Continues.bits {b : UInt8} {n : Nat} (continues : Continues b n)
    : b.toNat % 64 = n % 64 := by
  rw [continues]
  omega

section Widths

variable {code : Nat} {lead b c d : UInt8} (rest : Bytes)

theorem decodeFirst_one (first : lead.toNat = code) (ascii : code ≤ 0x7f)
    : decodeFirst lead rest = (Char.ofNat code, 0) := by
  have one : lead < 0x80 := by
    rw [UInt8.lt_iff_toNat_lt, first]
    exact Nat.lt_succ_of_le ascii
  simp [decodeFirst, one, first]

theorem decodeFirst_two (first : lead.toNat = code / 64 % 32 + 192)
    (second : Continues b code) (above : 0x7f < code) (below : code ≤ 0x7ff)
    : decodeFirst lead (b :: rest) = (Char.ofNat code, 1) := by
  have range : ¬ lead < 0x80 ∧ 0xC2 ≤ lead ∧ lead ≤ 0xDF := by
    simp only [UInt8.lt_iff_toNat_lt, UInt8.le_iff_toNat_le, first, UInt8.reduceToNat]
    omega
  have whole : lead.toNat % 32 * 64 + code % 64 = code := by omega
  simp [decodeFirst, range, second.isContinuation, second.bits, whole]

theorem decodeFirst_three (first : lead.toNat = code / 4096 % 16 + 224)
    (second : Continues b (code / 64)) (third : Continues c code) (above : 0x7ff < code)
    (below : code ≤ 0xffff) (valid : code < 0xD800 ∨ 0xDFFF < code)
    : decodeFirst lead (b :: c :: rest) = (Char.ofNat code, 2) := by
  have range : ¬ lead < 0x80 ∧ ¬ lead ≤ 0xDF ∧ 0xE0 ≤ lead ∧ lead ≤ 0xEF := by
    simp only [UInt8.lt_iff_toNat_lt, UInt8.le_iff_toNat_le, first, UInt8.reduceToNat]
    omega
  have allowed : isSecondOfThree lead b = true := by
    rw [Continues] at second
    unfold isSecondOfThree
    split_ifs with overlong surrogate
    · have zero := congrArg UInt8.toNat overlong
      simp only [Bool.and_eq_true, decide_eq_true_eq, UInt8.le_iff_toNat_le,
        UInt8.reduceToNat] at zero ⊢
      omega
    · have last := congrArg UInt8.toNat surrogate
      simp only [Bool.and_eq_true, decide_eq_true_eq, UInt8.le_iff_toNat_le,
        UInt8.reduceToNat] at last ⊢
      omega
    · exact Continues.isContinuation second
  have whole : (lead.toNat % 16 * 64 + code / 64 % 64) * 64 + code % 64 = code := by omega
  simp [decodeFirst, range, allowed, third.isContinuation, second.bits, third.bits, whole]

theorem decodeFirst_four (first : lead.toNat = code / 262144 % 8 + 240)
    (second : Continues b (code / 4096)) (third : Continues c (code / 64))
    (fourth : Continues d code) (above : 0xffff < code) (below : code < 0x110000)
    : decodeFirst lead (b :: c :: d :: rest) = (Char.ofNat code, 3) := by
  have range
      : ¬ lead < 0x80 ∧ ¬ lead ≤ 0xDF ∧ ¬ lead ≤ 0xEF ∧ 0xF0 ≤ lead ∧ lead ≤ 0xF4 := by
    simp only [UInt8.lt_iff_toNat_lt, UInt8.le_iff_toNat_le, first, UInt8.reduceToNat]
    omega
  have allowed : isSecondOfFour lead b = true := by
    rw [Continues] at second
    unfold isSecondOfFour
    split_ifs with overlong last
    · have zero := congrArg UInt8.toNat overlong
      simp only [Bool.and_eq_true, decide_eq_true_eq, UInt8.le_iff_toNat_le,
        UInt8.reduceToNat] at zero ⊢
      omega
    · have four := congrArg UInt8.toNat last
      simp only [Bool.and_eq_true, decide_eq_true_eq, UInt8.le_iff_toNat_le,
        UInt8.reduceToNat] at four ⊢
      omega
    · exact Continues.isContinuation second
  have whole
      : ((lead.toNat % 8 * 64 + code / 4096 % 64) * 64 + code / 64 % 64) * 64 + code % 64
        = code := by
    omega
  simp [decodeFirst, range, allowed, third.isContinuation, fourth.isContinuation, second.bits,
    third.bits, fourth.bits, whole]

end Widths

/-- Every character decodes from its own bytes, whatever follows them: one case per width. -/
theorem lossyFrom_encode (char : Char) (rest : Bytes)
    : lossyFrom 0 (String.utf8EncodeChar char ++ rest) = char :: lossyFrom 0 rest := by
  obtain ⟨code, eq⟩ : ∃ code, char.val.toNat = code := ⟨_, rfl⟩
  have valid : code < 0xD800 ∨ 0xDFFF < code ∧ code < 0x110000 := eq ▸ char.valid
  have same : Char.ofNat code = char := eq ▸ Char.ofNat_toNat char
  have byte (n : Nat) (small : n < 256) := toNat_ofNat_byte small
  have continues (n : Nat) : Continues (UInt8.ofNat (n % 64 + 128)) n := byte _ (by omega)
  simp only [String.utf8EncodeChar, eq]
  split_ifs with one two three
  · have first := decodeFirst_one rest (byte code (by omega)) one
    simp only [List.cons_append, List.nil_append, lossyFrom, first, same]
  · have first := decodeFirst_two rest (byte (code / 64 % 32 + 192) (by omega))
      (continues code) (by omega) two
    simp only [List.cons_append, List.nil_append, lossyFrom, first, same]
  · have first := decodeFirst_three rest (byte (code / 4096 % 16 + 224) (by omega))
      (continues (code / 64)) (continues code) (by omega) three (by omega)
    simp only [List.cons_append, List.nil_append, lossyFrom, first, same]
  · have first := decodeFirst_four rest (byte (code / 262144 % 8 + 240) (by omega))
      (continues (code / 4096)) (continues (code / 64)) (continues code) (by omega) (by omega)
    simp only [List.cons_append, List.nil_append, lossyFrom, first, same]

/-- Decoding the bytes of a string gives the string, by induction on its characters. -/
theorem fromUtf8Lossy_utf8Bytes (s : String) : fromUtf8Lossy (utf8Bytes s) = s := by
  have all (chars : List Char)
      : lossyFrom 0 (chars.flatMap String.utf8EncodeChar) = chars := by
    induction chars with
    | nil => rfl
    | cons c rest ih => rw [List.flatMap_cons, lossyFrom_encode, ih]
  rw [fromUtf8Lossy, utf8Bytes, all, String.ofList_toList]

-----------------------------------------------------------------------------------------
-- Characters of one byte
-----------------------------------------------------------------------------------------

theorem toNat_charOfNat {code : Nat} (valid : code < 0xD800 ∨ 0xDFFF < code ∧ code < 0x110000)
    : (Char.ofNat code).toNat = code := by
  have isValid : code.isValidChar := valid
  rw [Char.ofNat, dif_pos isValid]
  rfl

/-- The codes of three bytes are neither small nor surrogates. -/
theorem three_valid {lead second : UInt8} (range : 0xE0 ≤ lead.toNat ∧ lead.toNat ≤ 0xEF)
    (allowed : isSecondOfThree lead second = true) (third : Nat)
    : 0x80 ≤ (lead.toNat % 16 * 64 + second.toNat % 64) * 64 + third % 64
      ∧ ((lead.toNat % 16 * 64 + second.toNat % 64) * 64 + third % 64 < 0xD800
        ∨ 0xDFFF < (lead.toNat % 16 * 64 + second.toNat % 64) * 64 + third % 64
          ∧ (lead.toNat % 16 * 64 + second.toNat % 64) * 64 + third % 64 < 0x110000) := by
  unfold isSecondOfThree at allowed
  split_ifs at allowed with overlong surrogate
  · have zero := congrArg UInt8.toNat overlong
    simp only [Bool.and_eq_true, decide_eq_true_eq, UInt8.le_iff_toNat_le,
      UInt8.reduceToNat] at zero allowed
    omega
  · have last := congrArg UInt8.toNat surrogate
    simp only [Bool.and_eq_true, decide_eq_true_eq, UInt8.le_iff_toNat_le,
      UInt8.reduceToNat] at last allowed
    omega
  · have notFirst : lead.toNat ≠ 0xE0 := fun same => overlong (UInt8.toNat_inj.mp same)
    have notLast : lead.toNat ≠ 0xED := fun same => surrogate (UInt8.toNat_inj.mp same)
    rw [isContinuation, decide_eq_true_eq] at allowed
    omega

/-- The codes of four bytes are neither small nor beyond the last. -/
theorem four_valid {lead second : UInt8} (range : 0xF0 ≤ lead.toNat ∧ lead.toNat ≤ 0xF4)
    (allowed : isSecondOfFour lead second = true) (third fourth : Nat)
    : 0xDFFF < ((lead.toNat % 8 * 64 + second.toNat % 64) * 64 + third % 64) * 64 + fourth % 64
      ∧ ((lead.toNat % 8 * 64 + second.toNat % 64) * 64 + third % 64) * 64 + fourth % 64
        < 0x110000 := by
  unfold isSecondOfFour at allowed
  split_ifs at allowed with overlong beyond
  · have zero := congrArg UInt8.toNat overlong
    simp only [Bool.and_eq_true, decide_eq_true_eq, UInt8.le_iff_toNat_le,
      UInt8.reduceToNat] at zero allowed
    omega
  · have last := congrArg UInt8.toNat beyond
    simp only [Bool.and_eq_true, decide_eq_true_eq, UInt8.le_iff_toNat_le,
      UInt8.reduceToNat] at last allowed
    omega
  · have notFirst : lead.toNat ≠ 0xF0 := fun same => overlong (UInt8.toNat_inj.mp same)
    have notLast : lead.toNat ≠ 0xF4 := fun same => beyond (UInt8.toNat_inj.mp same)
    rw [isContinuation, decide_eq_true_eq] at allowed
    omega

/-- A byte that is no character of its own decodes to none of those characters: one case per width.
-/
theorem decodeFirst_wide {lead : UInt8} (wide : ¬ lead < 0x80) (rest : Bytes)
    : 0x80 ≤ (decodeFirst lead rest).1.toNat := by
  have default : 0x80 ≤ replacement.toNat := by decide
  unfold decodeFirst
  dsimp only
  rw [if_neg wide]
  split_ifs with two three four
  · simp only [Bool.and_eq_true, decide_eq_true_eq, UInt8.le_iff_toNat_le,
      UInt8.reduceToNat] at two
    cases rest with
    | nil => exact default
    | cons b others =>
        dsimp only
        split_ifs
        · rw [toNat_charOfNat (by omega)]
          omega
        · exact default
  · simp only [Bool.and_eq_true, decide_eq_true_eq, UInt8.le_iff_toNat_le,
      UInt8.reduceToNat] at three
    cases rest with
    | nil => exact default
    | cons b others =>
        dsimp only
        split_ifs with allowed
        · cases others with
          | nil => exact default
          | cons c further =>
              dsimp only
              split_ifs
              · obtain ⟨large, valid⟩ := three_valid three allowed c.toNat
                rw [toNat_charOfNat valid]
                exact large
              · exact default
        · exact default
  · simp only [Bool.and_eq_true, decide_eq_true_eq, UInt8.le_iff_toNat_le,
      UInt8.reduceToNat] at four
    cases rest with
    | nil => exact default
    | cons b others =>
        dsimp only
        split_ifs with allowed
        · cases others with
          | nil => exact default
          | cons c further =>
              dsimp only
              split_ifs
              · cases further with
                | nil => exact default
                | cons d last =>
                    dsimp only
                    split_ifs
                    · have valid := four_valid four allowed c.toNat d.toNat
                      rw [toNat_charOfNat (Or.inr valid)]
                      omega
                    · exact default
              · exact default
        · exact default
  · exact default

/-- A decoded character of one byte is that byte, and decoding goes on after it. -/
theorem lossyFrom_ascii {b : UInt8} {rest : Bytes} {c : Char} {chars : List Char}
    (decoded : lossyFrom 0 (b :: rest) = c :: chars) (ascii : c.toNat < 0x80)
    : b.toNat = c.toNat ∧ lossyFrom 0 rest = chars := by
  rw [lossyFrom] at decoded
  obtain ⟨first, later⟩ := List.cons.inj decoded
  by_cases one : b < 0x80
  · have small := UInt8.lt_iff_toNat_lt.mp one
    simp only [UInt8.reduceToNat] at small
    have single := decodeFirst_one rest (Eq.refl b.toNat) (by omega)
    rw [single] at first later
    refine ⟨?_, later⟩
    rw [← first, toNat_charOfNat (by omega)]
  · have wide := decodeFirst_wide one rest
    rw [first] at wide
    omega

/-- A decoded character of one byte is among the bytes, by induction on them. -/
theorem mem_of_lossyFrom {skip : Nat} {bytes : Bytes} {c : Char} (member : c ∈ lossyFrom skip bytes)
    (ascii : c.toNat < 0x80)
    : ∃ b ∈ bytes, b.toNat = c.toNat := by
  induction bytes generalizing skip with
  | nil => cases skip <;> contradiction
  | cons b rest ih =>
      cases skip with
      | succ skip =>
          obtain ⟨b', inRest, same⟩ := ih member
          exact ⟨b', List.mem_cons_of_mem _ inRest, same⟩
      | zero =>
          rcases List.mem_cons.mp member with first | later
          · have decoded
                : lossyFrom 0 (b :: rest) = c :: lossyFrom (decodeFirst b rest).2 rest := by
              rw [lossyFrom, first]
            exact ⟨b, List.mem_cons_self, (lossyFrom_ascii decoded ascii).1⟩
          · obtain ⟨b', inRest, same⟩ := ih later
            exact ⟨b', List.mem_cons_of_mem _ inRest, same⟩

end SqliteServer.Wire
