import SqliteServer.Wire.Utf8
import Mathlib.Data.List.Infix
import Mathlib.Tactic.Ring

/-! Streams that arrive in pieces, and frames: a little-endian length before each body. A stream
has exactly one longest prefix of complete frames, however it is cut.
-/

namespace SqliteServer.Wire

section Pieces

variable {α : Type}

/-- Read exactly `n` elements of a stream that arrives in pieces, or fail at its end. Each read
takes what has arrived, up to what is still missing.
-/
def readExact : Nat → List (List α) → Option (List α × List (List α))
  | 0, pieces => some ([], pieces)
  | _ + 1, [] => none
  | n + 1, piece :: later =>
      if n + 1 ≤ piece.length then some (piece.take (n + 1), piece.drop (n + 1) :: later)
      else
        (readExact (n + 1 - piece.length) later).map (fun read => (piece ++ read.1, read.2))

/-- What has arrived is read, whatever the cuts, by induction on the pieces. -/
theorem readExact_append {pieces : List (List α)} {wanted tail : List α}
    (stream : pieces.flatten = wanted ++ tail)
    : ∃ left, readExact wanted.length pieces = some (wanted, left) ∧ left.flatten = tail := by
  induction pieces generalizing wanted with
  | nil =>
      obtain ⟨rfl, rfl⟩ := List.append_eq_nil_iff.mp stream.symm
      exact ⟨[], rfl, rfl⟩
  | cons piece later ih =>
      cases wanted with
      | nil => exact ⟨piece :: later, rfl, stream⟩
      | cons first others =>
          rw [List.flatten_cons] at stream
          rw [List.length_cons, readExact, ← List.length_cons (a := first)]
          split
          · rename_i inside
            have front := congrArg (List.take (first :: others).length) stream
            have back := congrArg (List.drop (first :: others).length) stream
            rw [List.take_append_of_le_length inside, List.take_left] at front
            rw [List.drop_append_of_le_length inside, List.drop_left] at back
            exact ⟨_, by rw [front], by rw [List.flatten_cons, back]⟩
          · rename_i missing
            -- All of the piece is read, and the rest from the later pieces.
            obtain ⟨gap, whole, rest⟩ | ⟨gap, whole, rest⟩ :=
              List.append_eq_append_iff.mp stream
            · obtain ⟨left, read, flat⟩ := ih rest
              have count : (first :: others).length - piece.length = gap.length := by
                rw [whole, List.length_append, Nat.add_sub_cancel_left]
              exact ⟨left, by rw [count, read, whole]; rfl, flat⟩
            · rw [whole, List.length_append] at missing
              omega

/-- A stream that is too short is not read, by induction on the pieces. -/
theorem readExact_short {n : Nat} {pieces : List (List α)} (short : pieces.flatten.length < n)
    : readExact n pieces = none := by
  induction pieces generalizing n with
  | nil =>
      cases n with
      | zero => simp at short
      | succ n => rfl
  | cons piece later ih =>
      rw [List.flatten_cons, List.length_append] at short
      cases n with
      | zero => simp at short
      | succ n =>
          have missing : ¬ n + 1 ≤ piece.length := by omega
          rw [readExact, if_neg missing, ih (by omega), Option.map_none]

/-- A read splits the stream, whatever the cuts. -/
theorem readExact_split {n : Nat} {pieces left : List (List α)} {bytes : List α}
    (read : readExact n pieces = some (bytes, left))
    : bytes.length = n ∧ pieces.flatten = bytes ++ left.flatten := by
  by_cases short : pieces.flatten.length < n
  · simp [readExact_short short] at read
  · have count : (pieces.flatten.take n).length = n := by
      rw [List.length_take]
      omega
    obtain ⟨rest, taken, flat⟩ := readExact_append (List.take_append_drop n pieces.flatten).symm
    rw [count, read] at taken
    obtain ⟨rfl, rfl⟩ := Prod.mk.inj (Option.some.inj taken)
    exact ⟨count, by rw [flat, List.take_append_drop]⟩

end Pieces

/-- The four bytes of a length, least significant first. -/
def toLeBytes (n : UInt32) : Bytes :=
  [
    UInt8.ofNat n.toNat,
    UInt8.ofNat (n.toNat / 2 ^ 8),
    UInt8.ofNat (n.toNat / 2 ^ 16),
    UInt8.ofNat (n.toNat / 2 ^ 24)
  ]

def fromLeBytes (bytes : Bytes) : UInt32 :=
  UInt32.ofNat (bytes.foldr (fun b n => b.toNat + 2 ^ 8 * n) 0)

@[simp]
theorem length_toLeBytes (n : UInt32) : (toLeBytes n).length = 4 := rfl

@[simp]
theorem fromLeBytes_toLeBytes (n : UInt32) : fromLeBytes (toLeBytes n) = n := by
  have bound := n.toNat_lt
  have digits
      : n.toNat % 256
          + 256 * (n.toNat / 256 % 256
            + 256 * (n.toNat / 65536 % 256 + 256 * (n.toNat / 16777216 % 256)))
        = n.toNat := by
    omega
  apply UInt32.toNat_inj.mp
  simp [fromLeBytes, toLeBytes, digits]

/-- Four bytes are the bytes of the length they encode. -/
theorem toLeBytes_fromLeBytes {bytes : Bytes} (four : bytes.length = 4)
    : toLeBytes (fromLeBytes bytes) = bytes := by
  obtain ⟨a, b, c, d, rfl⟩ : ∃ a b c d, bytes = [a, b, c, d] := by
    match bytes, four with
    | [a, b, c, d], _ => exact ⟨a, b, c, d, rfl⟩
  have boundA := a.toNat_lt
  have boundB := b.toNat_lt
  have boundC := c.toNat_lt
  have boundD := d.toNat_lt
  have digit (byte : UInt8) (n : Nat) (low : n % 256 = byte.toNat) : UInt8.ofNat n = byte := by
    apply UInt8.toNat_inj.mp
    simpa using low
  simp only [toLeBytes, fromLeBytes, List.foldr_cons, List.foldr_nil, UInt32.toNat_ofNat',
    List.cons.injEq, and_true]
  refine ⟨digit a _ ?_, digit b _ ?_, digit c _ ?_, digit d _ ?_⟩
  · omega
  · omega
  · omega
  · omega

/-- A length of any size is cut to 32 bits. -/
def lengthHeader (n : Nat) : Bytes := toLeBytes (UInt32.ofNat n)

/-- A body after its length. -/
def frame (body : Bytes) : Bytes := lengthHeader body.length ++ body

def wire (bodies : List Bytes) : Bytes := bodies.flatMap frame

/-- No frame with a body within the limit begins the stream. -/
def NoFrame (limit : UInt32) (stream : Bytes) : Prop :=
  ∀ body tail, body.length ≤ limit.toNat → stream ≠ frame body ++ tail

/-- The frames within the limit at the start of a stream, as many as there are, and the rest. -/
structure LongestSplit (limit : UInt32) (stream : Bytes) (bodies : List Bytes) (rest : Bytes)
    : Prop where
  joined : stream = wire bodies ++ rest
  admitted : ∀ body ∈ bodies, body.length ≤ limit.toNat
  longest
    : ∀ others,
        (∀ body ∈ others, body.length ≤ limit.toNat)
        → wire others <+: stream
        → others <+: bodies

section Split

variable {limit : UInt32}

theorem lengthHeader_reads {n : Nat} (within : n ≤ limit.toNat)
    : (fromLeBytes (lengthHeader n)).toNat = n := by
  have bound := limit.toNat_lt
  rw [lengthHeader, fromLeBytes_toLeBytes]
  exact UInt32.toNat_ofNat_of_lt' (Nat.lt_of_le_of_lt within bound)

/-- A stream begins with one frame at most. -/
theorem frame_injective {body other tail rest : Bytes} (within : body.length ≤ limit.toNat)
    (otherWithin : other.length ≤ limit.toNat)
    (same : frame body ++ tail = frame other ++ rest)
    : body = other ∧ tail = rest := by
  rw [frame, frame, List.append_assoc, List.append_assoc] at same
  obtain ⟨headers, bodies⟩ := List.append_inj same rfl
  have lengths : body.length = other.length := by
    rw [← lengthHeader_reads within, headers, lengthHeader_reads otherWithin]
  exact List.append_inj bodies lengths

/-- Splitting until no frame is left is longest, by induction on the frames. -/
theorem LongestSplit.of_noFrame {bodies : List Bytes} {rest : Bytes}
    (admitted : ∀ body ∈ bodies, body.length ≤ limit.toNat) (stop : NoFrame limit rest)
    : LongestSplit limit (wire bodies ++ rest) bodies rest := by
  refine ⟨rfl, admitted, ?_⟩
  induction bodies with
  | nil =>
      intro others within begins
      cases others with
      | nil => exact List.nil_prefix
      | cons body later =>
          obtain ⟨tail, eq⟩ := begins
          rw [wire, List.flatMap_cons, List.append_assoc] at eq
          exact absurd eq.symm (stop body _ (within body (by simp)))
  | cons body later ih =>
      intro others within begins
      cases others with
      | nil => exact List.nil_prefix
      | cons other more =>
          obtain ⟨tail, eq⟩ := begins
          simp only [wire, List.flatMap_cons, List.append_assoc] at eq
          obtain ⟨rfl, remaining⟩ :=
            frame_injective (within other (by simp)) (admitted body (by simp)) eq
          have shorter := ih (fun b member => admitted b (List.mem_cons_of_mem _ member)) more
            (fun b member => within b (List.mem_cons_of_mem _ member)) ⟨tail, remaining⟩
          exact List.cons_prefix_cons.mpr ⟨rfl, shorter⟩

/-- Whether a stream begins with a frame can be read off its first four bytes. -/
theorem frame_or_noFrame (limit : UInt32) (stream : Bytes)
    : (∃ body tail, body.length ≤ limit.toNat ∧ stream = frame body ++ tail)
      ∨ NoFrame limit stream := by
  by_cases begins : ∃ body tail, body.length ≤ limit.toNat ∧ stream = frame body ++ tail
  · exact Or.inl begins
  · refine Or.inr ?_
    intro body tail within eq
    exact begins ⟨body, tail, within, eq⟩

/-- Every stream splits into its frames and a rest that begins with none, by induction on its
length.
-/
theorem exists_frames (limit : UInt32) (stream : Bytes)
    : ∃ bodies rest,
        stream = wire bodies ++ rest
        ∧ (∀ body ∈ bodies, body.length ≤ limit.toNat)
        ∧ NoFrame limit rest := by
  rcases frame_or_noFrame limit stream with ⟨body, tail, within, eq⟩ | stop
  · have shorter : tail.length < stream.length := by
      simp only [eq, frame, lengthHeader, List.length_append, length_toLeBytes]
      omega
    obtain ⟨bodies, rest, split, admitted, stop⟩ := exists_frames limit tail
    refine ⟨body :: bodies, rest, ?_, List.forall_mem_cons.mpr ⟨within, admitted⟩, stop⟩
    rw [eq, split, wire, wire, List.flatMap_cons, List.append_assoc]
  · exact ⟨[], stream, rfl, by simp, stop⟩
termination_by stream.length

end Split

end SqliteServer.Wire
