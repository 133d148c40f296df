import SqliteServer.Binary64.Rounding

/-! Decimals, and the shortest one that rounds to a magnitude. -/

namespace SqliteServer.Binary64

/-- The number `digits * 10 ^ exponent`. -/
structure Decimal where
  digits : Nat
  exponent : Int
deriving DecidableEq

def Decimal.ratio (d : Decimal) : Ratio where
  num := d.digits * 10 ^ d.exponent.toNat * (2 * one)
  den := 10 ^ (-d.exponent).toNat
  positive := by positivity

/-- The ratio rounds to a magnitude, tested at the two middles around it. -/
def Ratio.roundsTo (q : Ratio) (k : Nat) : Bool :=
  q.upTo k && (k = 0 || !q.upTo (k - 1))

/-- The one of two neighbouring decimals that rounds to a magnitude; if both do, the upper one if it
is no farther.
-/
def pick (k : Nat) (low high : Decimal) (up : Bool) : Option Decimal :=
  if low.ratio.roundsTo k then some (if high.ratio.roundsTo k && up then high else low)
  else if high.ratio.roundsTo k then some high
  else none

/-- The decimal with this exponent that is closest to a magnitude among those that round to it. -/
def candidate (k : Nat) (exponent : Int) : Option Decimal :=
  let num := magnitude k * 10 ^ (-exponent).toNat
  let den := one * 10 ^ exponent.toNat
  pick k ⟨num / den, exponent⟩ ⟨num / den + 1, exponent⟩ (decide (den ≤ 2 * (num % den)))

/-- One in units of the last exponent, which divides every magnitude. -/
@[irreducible] def fives : Nat := 5 ^ places

/-- The first candidate from an exponent downwards. At the last exponent magnitudes are exact. -/
def shortestFrom (k : Nat) : Nat → Decimal
  | 0 => ⟨magnitude k * fives, -places⟩
  | n + 1 => (candidate k (n + 1 - places)).getD (shortestFrom k n)

/-- The shortest decimal that rounds to a magnitude. -/
def shortest (k : Nat) : Decimal :=
  if k = 0 then ⟨0, 0⟩ else shortestFrom k (309 + places)

-----------------------------------------------------------------------------------------
-- Reading back
-----------------------------------------------------------------------------------------

theorem roundsTo_iff (q : Ratio) (k : Nat)
    : q.roundsTo k = true ↔ Rounds q k := by
  rw [Ratio.roundsTo, Bool.and_eq_true, Rounds, and_congr_right_iff]
  intro here
  rw [Bool.or_eq_true, decide_eq_true_eq, Bool.not_eq_true']
  constructor
  · rintro (rfl | past) j less
    · omega
    · refine Bool.eq_false_iff.mpr fun early => ?_
      rw [upTo_monotone q j (k - 1) (by omega) early] at past
      cases past
  · intro none
    by_cases zero : k = 0
    · exact Or.inl zero
    · exact Or.inr (none (k - 1) (by omega))

theorem pick_rounds {k : Nat} {low high d : Decimal} {up : Bool}
    (found : pick k low high up = some d)
    : d.ratio.roundsTo k = true ∧ (d = low ∨ d = high) := by
  unfold pick at found
  split_ifs at found with lowReads highReads highReads
  · rw [Bool.and_eq_true] at highReads
    cases found
    exact ⟨highReads.1, Or.inr rfl⟩
  · cases found
    exact ⟨lowReads, Or.inl rfl⟩
  · cases found
    exact ⟨highReads, Or.inr rfl⟩

theorem candidate_rounds {k : Nat} {exponent : Int} {d : Decimal}
    (found : candidate k exponent = some d)
    : d.ratio.roundsTo k = true ∧ d.exponent = exponent := by
  obtain ⟨reads, rfl | rfl⟩ := pick_rounds found
  · exact ⟨reads, rfl⟩
  · exact ⟨reads, rfl⟩

theorem one_fives
    : one * fives = 10 ^ places := by
  unfold one fives
  rw [← Nat.mul_pow]

/-- A magnitude is a decimal if the exponent is small enough. -/
theorem nearest_exact {k n scale : Nat} (finite : k < infinite) (scaled : one * scale = 10 ^ n)
    : nearest (Decimal.mk (magnitude k * scale) (-n)).ratio = k := by
  refine nearest_magnitude finite ?_
  simp only [Decimal.ratio, neg_neg, Int.toNat_natCast, Int.toNat_neg_natCast, Nat.pow_zero,
    Nat.mul_one]
  rw [← scaled]
  ring

/-- Every search reads back, by induction on the exponents left. -/
theorem nearest_shortestFrom {k : Nat} (finite : k < infinite) (n : Nat)
    : nearest (shortestFrom k n).ratio = k := by
  induction n with
  | zero => exact nearest_exact finite one_fives
  | succ n ih =>
      rw [shortestFrom]
      cases found : candidate k (n + 1 - places) with
      | none => exact ih
      | some d =>
          exact (nearest_eq_iff finite).mpr ((roundsTo_iff _ k).mp (candidate_rounds found).1)

/-- The shortest decimal reads back. -/
theorem nearest_shortest {k : Nat} (finite : k < infinite)
    : nearest (shortest k).ratio = k := by
  rw [shortest]
  split_ifs with zero
  · rw [zero]
    exact nearest_magnitude (by decide) (by simp [Decimal.ratio, magnitude])
  · exact nearest_shortestFrom finite _

-----------------------------------------------------------------------------------------
-- Integers
-----------------------------------------------------------------------------------------

/-- The magnitude is an integer. -/
def Integral (k : Nat) : Prop := one ∣ magnitude k

/-- An integral magnitude is a candidate without a fractional part. -/
theorem candidate_integral {k : Nat} (finite : k < infinite) (integral : Integral k)
    : (candidate k 0).isSome = true := by
  obtain ⟨n, value⟩ := integral
  have low : (Decimal.mk n 0).ratio.roundsTo k = true := by
    refine (roundsTo_iff _ k).mpr ((nearest_eq_iff finite).mp (nearest_magnitude finite ?_))
    rw [value]
    simp only [Decimal.ratio, Int.toNat_zero, neg_zero, Nat.pow_zero]
    ring
  have whole : magnitude k * 10 ^ (-0 : Int).toNat / (one * 10 ^ (0 : Int).toNat) = n := by
    rw [value, neg_zero, Int.toNat_zero, Nat.pow_zero, Nat.mul_one, Nat.mul_one,
      Nat.mul_div_cancel_left n one_pos]
  simp only [candidate, whole]
  rw [pick, if_pos low]
  rfl

/-- A search ends at or above an exponent that has a candidate, by induction on the exponents left.
-/
theorem shortestFrom_exponent {k m : Nat} (n : Nat) (le : m < n)
    (found : (candidate k (m + 1 - places)).isSome = true)
    : (m + 1 - places : Int) ≤ (shortestFrom k n).exponent := by
  induction n with
  | zero => omega
  | succ n ih =>
      rw [shortestFrom]
      cases here : candidate k (n + 1 - places) with
      | some d =>
          rw [Option.getD_some, (candidate_rounds here).2]
          omega
      | none =>
          rw [Option.getD_none]
          by_cases last : m = n
          · rw [last, here] at found
            cases found
          · exact ih (by omega)

theorem shortest_integral {k : Nat} (finite : k < infinite) (integral : Integral k)
    : 0 ≤ (shortest k).exponent := by
  have step : (places - 1 : Nat) + 1 - (places : Int) = 0 := by
    rw [places_eq]
    rfl
  have found := candidate_integral finite integral
  rw [← step] at found
  rw [shortest]
  split_ifs
  · exact le_refl 0
  · have bound := shortestFrom_exponent (309 + places) (by omega) found
    rwa [step] at bound

/-- The ratio of an integer. -/
def integerRatio (n : Nat) : Ratio := (Decimal.mk n 0).ratio

theorem integerRatio_le {m n : Nat} (le : m ≤ n)
    : nearest (integerRatio m) ≤ nearest (integerRatio n) := by
  refine nearest_monotone ?_
  simp only [integerRatio, Decimal.ratio, Int.toNat_zero, neg_zero, Nat.pow_zero, Nat.mul_one]
  exact Nat.mul_le_mul_right _ le

/-- An integer that is a magnitude is nearest to it. -/
theorem nearest_integer {k n : Nat} (finite : k < infinite) (value : magnitude k = n * one)
    : nearest (integerRatio n) = k := by
  refine nearest_magnitude finite ?_
  rw [value]
  simp only [integerRatio, Decimal.ratio, Int.toNat_zero, neg_zero, Nat.pow_zero]
  ring

/-- Large magnitudes have no binary places. -/
theorem integral_large {k : Nat} (large : (1023 + 52) * 2 ^ 52 ≤ k)
    : Integral k := by
  have exponent : places ≤ k / 2 ^ 52 - 1 := by
    rw [places_eq]
    omega
  rw [Integral, magnitude, if_neg (by omega)]
  unfold one
  exact Dvd.dvd.mul_left (Nat.pow_dvd_pow 2 exponent) _

/-- The index of `2 ^ n`. -/
theorem magnitude_power (n : Nat)
    : magnitude ((1023 + n) * 2 ^ 52) = 2 ^ n * one := by
  -- The exponent is a variable here, as such a power is not to be evaluated.
  obtain ⟨exponent, large⟩ : ∃ exponent, exponent = 1022 := ⟨1022, rfl⟩
  have unit := one_eq 52 exponent (by omega)
  have normal
      : magnitude ((1023 + n) * 2 ^ 52 + 0) = (2 ^ 52 + 0) * 2 ^ (1023 + n - 1) :=
    magnitude_normal (by omega) (by omega)
  have split : 1023 + n - 1 = n + exponent := by omega
  rw [Nat.add_zero, Nat.add_zero, split, Nat.pow_add] at normal
  rw [normal, unit, Nat.mul_left_comm]

theorem power_finite {n : Nat} (small : n < 1024)
    : (1023 + n) * 2 ^ 52 < infinite := by
  rw [infinite]
  omega

/-- An integer rounds to an integer. -/
theorem integral_nearest (n : Nat)
    : Integral (nearest (integerRatio n)) := by
  by_cases small : n < 2 ^ 52
  · obtain ⟨k, finite, value⟩ := magnitude_integer (n := n) (by omega)
    rw [nearest_integer finite value, Integral, value]
    exact Dvd.intro_left n rfl
  · have power := nearest_integer (power_finite (n := 52) (by decide)) (magnitude_power 52)
    have above := integerRatio_le (Nat.le_of_not_lt small)
    rw [power] at above
    exact integral_large above

/-- The integer that a decimal without a fractional part is. -/
def Decimal.integer (d : Decimal) : Nat := d.digits * 10 ^ d.exponent.toNat

theorem nearest_decimal_integer {d : Decimal} (whole : 0 ≤ d.exponent)
    : nearest (integerRatio d.integer) = nearest d.ratio := by
  refine nearest_congr ?_
  have none : (-d.exponent).toNat = 0 := by omega
  simp only [integerRatio, Decimal.integer, Decimal.ratio, none, Int.toNat_zero, neg_zero,
    Nat.pow_zero, Nat.mul_one]

/-- The shortest decimal has a fractional part unless the magnitude is an integer. -/
theorem shortest_exponent_iff {k : Nat} (finite : k < infinite)
    : 0 ≤ (shortest k).exponent ↔ Integral k := by
  constructor
  · intro whole
    have near := nearest_decimal_integer whole
    rw [nearest_shortest finite] at near
    exact near ▸ integral_nearest _
  · exact shortest_integral finite

theorem shortest_power63
    : shortest ((1023 + 63) * 2 ^ 52) = ⟨9223372036854776, 3⟩ := by
  decide +kernel

/-- The decimal of an integer is on the same side of `2 ^ 63` as the integer. -/
theorem shortest_lt_power63 {k : Nat} (finite : k < infinite) (integral : Integral k)
    : ((shortest k).integer < 2 ^ 63 ↔ k < (1023 + 63) * 2 ^ 52)
      ∧ (shortest k).integer ≠ 2 ^ 63 := by
  have near := nearest_decimal_integer (shortest_integral finite integral)
  rw [nearest_shortest finite] at near
  have power := nearest_integer (power_finite (n := 63) (by decide)) (magnitude_power 63)
  have other : k = (1023 + 63) * 2 ^ 52 → (shortest k).integer = 9223372036854776000 := by
    intro same
    rw [same, shortest_power63]
    rfl
  refine ⟨⟨?_, ?_⟩, ?_⟩
  · intro less
    have le := integerRatio_le less.le
    rw [near, power] at le
    rcases Nat.lt_or_eq_of_le le with below | same
    · exact below
    · rw [other same] at less
      omega
  · intro less
    by_contra above
    have le := integerRatio_le (Nat.le_of_not_lt above)
    rw [near, power] at le
    omega
  · intro same
    rw [same, power] at near
    rw [other near.symm] at same
    omega

-----------------------------------------------------------------------------------------
-- Texts
-----------------------------------------------------------------------------------------

def zeroPadded (width n : Nat) : List Char :=
  List.replicate (width - (Nat.toDigits 10 n).length) '0' ++ Nat.toDigits 10 n

/-- The text of a decimal, without an exponent. -/
def Decimal.plain (d : Decimal) : List Char :=
  let width := (-d.exponent).toNat
  if 0 ≤ d.exponent then Nat.toDigits 10 d.integer
  else Nat.toDigits 10 (d.digits / 10 ^ width) ++ '.' :: zeroPadded width (d.digits % 10 ^ width)

theorem zeroPadded_length {width n : Nat} (positive : 0 < width) (fits : n < 10 ^ width)
    : (zeroPadded width n).length = width := by
  have short := (Nat.length_toDigits_le_iff (by decide) positive).mpr fits
  rw [zeroPadded, List.length_append, List.length_replicate]
  omega

theorem toDigits_digits (n : Nat)
    : ∀ c ∈ Nat.toDigits 10 n, c.isDigit = true := by
  intro c member
  exact Nat.isDigit_of_mem_toDigits (by decide) (by decide) member

theorem zeroPadded_digits (width n : Nat)
    : ∀ c ∈ zeroPadded width n, c.isDigit = true := by
  intro c member
  rcases List.mem_append.mp member with zero | digit
  · rw [List.eq_of_mem_replicate zero]
    rfl
  · exact toDigits_digits _ _ digit

/-- The digits before and after the point read back. -/
theorem plain_digits {d : Decimal} (negative : d.exponent < 0)
    : Nat.ofDigitChars 10
        (Nat.toDigits 10 (d.digits / 10 ^ (-d.exponent).toNat)
          ++ zeroPadded (-d.exponent).toNat (d.digits % 10 ^ (-d.exponent).toNat)) 0
      = d.digits := by
  have places : 0 < (-d.exponent).toNat := by omega
  generalize (-d.exponent).toNat = width at *
  have length := zeroPadded_length places (Nat.mod_lt d.digits (by positivity))
  have fraction
      : Nat.ofDigitChars 10 (zeroPadded width (d.digits % 10 ^ width)) 0
        = d.digits % 10 ^ width := by
    rw [zeroPadded, Nat.ofDigitChars_append, Nat.ofDigitChars_replicate_zero, Nat.mul_zero,
      Nat.ofDigitChars_toDigits (by decide) (by decide)]
  rw [Nat.ofDigitChars_append, Nat.ofDigitChars_toDigits (by decide) (by decide),
    Nat.ofDigitChars_eq_ofDigitChars_zero, length, fraction]
  exact Nat.div_add_mod d.digits (10 ^ width)

end SqliteServer.Binary64
