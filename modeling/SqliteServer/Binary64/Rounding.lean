import Mathlib.Algebra.Order.Ring.Nat
import Mathlib.Data.Nat.Log
import Mathlib.Order.Monotone.Basic
import Mathlib.Tactic.Linarith
import Mathlib.Tactic.Positivity
import Mathlib.Tactic.Ring

/-! The magnitudes of double-precision numbers, and the one nearest to a ratio.

An index is the bits of a number without its sign, so indices are in the order of the magnitudes.
Magnitudes are counted in units of the smallest one, which is `2 ^ (-1074)`.
-/

namespace SqliteServer.Binary64

def magnitude (k : Nat) : Nat :=
  if k < 2 ^ 52 then k else (2 ^ 52 + k % 2 ^ 52) * 2 ^ (k / 2 ^ 52 - 1)

/-- The number of binary places of the smallest magnitude. -/
@[irreducible] def places : Nat := 1074

/-- The number of units in one. -/
@[irreducible] def one : Nat := 2 ^ places

/-- The index of infinity; those below it are finite. -/
def infinite : Nat := 0x7ff * 2 ^ 52

/-- The first of `2 ^ n` numbers from `low` that satisfies a monotone test, by bisection. -/
def firstFrom (test : Nat → Bool) : Nat → Nat → Nat
  | 0, low => if test low then low else low + 1
  | n + 1, low =>
      if test (low + 2 ^ n - 1) then firstFrom test n low else firstFrom test n (low + 2 ^ n)

/-- A ratio in half units, so that the middle of two magnitudes is their sum. -/
structure Ratio where
  num : Nat
  den : Nat
  positive : 0 < den

/-- The ratio does not lie past the middle of a magnitude and the next one. A tie goes to the even
index.
-/
def Ratio.upTo (q : Ratio) (k : Nat) : Bool :=
  let middle := (magnitude k + magnitude (k + 1)) * q.den
  q.num < middle || (q.num = middle && k % 2 = 0)

@[irreducible] def nearest (q : Ratio) : Nat := min (firstFrom q.upTo 63 0) infinite

-----------------------------------------------------------------------------------------
-- Magnitudes
-----------------------------------------------------------------------------------------

theorem magnitude_lt_succ (k : Nat)
    : magnitude k < magnitude (k + 1) := by
  by_cases small : k + 1 < 2 ^ 52
  · rw [magnitude, magnitude, if_pos small, if_pos (by omega)]
    omega
  · rw [magnitude, magnitude, if_neg small]
    by_cases last : k < 2 ^ 52
    · have edge : k + 1 = 2 ^ 52 := by omega
      rw [if_pos last, edge]
      norm_num
      omega
    · rw [if_neg last]
      have positive : 0 < 2 ^ (k / 2 ^ 52 - 1) := by positivity
      by_cases wraps : k % 2 ^ 52 + 1 = 2 ^ 52
      · have fraction : (k + 1) % 2 ^ 52 = 0 := by omega
        have exponent : (k + 1) / 2 ^ 52 - 1 = k / 2 ^ 52 - 1 + 1 := by omega
        calc
          (2 ^ 52 + k % 2 ^ 52) * 2 ^ (k / 2 ^ 52 - 1)
          _ < (2 ^ 52 * 2) * 2 ^ (k / 2 ^ 52 - 1) := by
            exact Nat.mul_lt_mul_of_pos_right (by omega) positive
          _ = (2 ^ 52 + (k + 1) % 2 ^ 52) * 2 ^ ((k + 1) / 2 ^ 52 - 1) := by
            rw [fraction, exponent]
            ring
      · have fraction : (k + 1) % 2 ^ 52 = k % 2 ^ 52 + 1 := by omega
        have exponent : (k + 1) / 2 ^ 52 = k / 2 ^ 52 := by omega
        rw [fraction, exponent]
        exact Nat.mul_lt_mul_of_pos_right (by omega) positive

theorem magnitude_strictMono : StrictMono magnitude :=
  strictMono_nat_of_lt_succ magnitude_lt_succ

theorem places_eq
    : places = 1074 := by
  unfold places
  rfl

theorem one_pos
    : 0 < one := by
  unfold one
  positivity

theorem one_eq (m n : Nat) (split : m + n = 1074)
    : one = 2 ^ m * 2 ^ n := by
  unfold one
  rw [← Nat.pow_add, split, places_eq]

/-- A normal magnitude from its exponent and fraction. -/
theorem magnitude_normal {exponent fraction : Nat} (normal : 0 < exponent)
    (small : fraction < 2 ^ 52)
    : magnitude (exponent * 2 ^ 52 + fraction) = (2 ^ 52 + fraction) * 2 ^ (exponent - 1) := by
  have remainder : (exponent * 2 ^ 52 + fraction) % 2 ^ 52 = fraction := by omega
  have quotient : (exponent * 2 ^ 52 + fraction) / 2 ^ 52 = exponent := by omega
  rw [magnitude, if_neg (by omega), remainder, quotient]

/-- Small integers are magnitudes. -/
theorem magnitude_integer {n : Nat} (small : n < 2 ^ 53)
    : ∃ k < infinite, magnitude k = n * one := by
  by_cases zero : n = 0
  · exact ⟨0, by decide, by rw [zero, Nat.zero_mul]; rfl⟩
  · have lower := Nat.log2_self_le zero
    have upper := Nat.lt_log2_self (n := n)
    have digits : n.log2 ≤ 52 := by
      have := (Nat.log2_lt zero).mpr small
      omega
    have high : 2 ^ 52 ≤ n * 2 ^ (52 - n.log2) := by
      calc
        2 ^ 52 = 2 ^ n.log2 * 2 ^ (52 - n.log2) := by rw [← Nat.pow_add, Nat.add_sub_cancel' digits]
        _ ≤ n * 2 ^ (52 - n.log2) := Nat.mul_le_mul_right _ lower
    have low : n * 2 ^ (52 - n.log2) < 2 ^ 53 := by
      calc
        n * 2 ^ (52 - n.log2) < 2 ^ (n.log2 + 1) * 2 ^ (52 - n.log2) :=
          Nat.mul_lt_mul_of_pos_right upper (by positivity)
        _ = 2 ^ 53 := by rw [← Nat.pow_add]; congr 1; omega
    refine ⟨(1023 + n.log2) * 2 ^ 52 + (n * 2 ^ (52 - n.log2) - 2 ^ 52), ?_, ?_⟩
    · rw [infinite]
      omega
    · rw [magnitude_normal (by omega) (by omega), Nat.add_sub_cancel' high,
        one_eq (52 - n.log2) (1022 + n.log2) (by omega), Nat.mul_assoc]
      congr 3
      omega

-----------------------------------------------------------------------------------------
-- Bisection
-----------------------------------------------------------------------------------------

/-- Nothing before the found number satisfies the test, and the number does if it is in the range.
By induction on the number of halvings.
-/
theorem firstFrom_spec {test : Nat → Bool}
    (monotone : ∀ a b, a ≤ b → test a = true → test b = true) (n low : Nat)
    : firstFrom test n low ≤ low + 2 ^ n
      ∧ (∀ j, low ≤ j → j < firstFrom test n low → test j = false)
      ∧ (firstFrom test n low < low + 2 ^ n → test (firstFrom test n low) = true) := by
  induction n generalizing low with
  | zero =>
      by_cases here : test low = true
      · rw [firstFrom, if_pos here]
        exact ⟨by omega, by omega, fun _ => here⟩
      · rw [firstFrom, if_neg here]
        refine ⟨by omega, ?_, by omega⟩
        intro j after before
        have same : j = low := by omega
        rw [same]
        exact Bool.eq_false_iff.mpr here
  | succ n ih =>
      have positive : 0 < 2 ^ n := by positivity
      by_cases half : test (low + 2 ^ n - 1) = true
      · obtain ⟨bound, before, found⟩ := ih low
        rw [firstFrom, if_pos half]
        refine ⟨by omega, before, ?_⟩
        intro inside
        by_cases edge : firstFrom test n low < low + 2 ^ n
        · exact found edge
        · have earlier := before (low + 2 ^ n - 1) (by omega) (by omega)
          rw [half] at earlier
          cases earlier
      · obtain ⟨bound, before, found⟩ := ih (low + 2 ^ n)
        rw [firstFrom, if_neg half]
        refine ⟨by omega, ?_, fun inside => found (by omega)⟩
        intro j after within
        by_cases beyond : low + 2 ^ n ≤ j
        · exact before j beyond within
        · refine Bool.eq_false_iff.mpr fun early => half ?_
          exact monotone _ _ (by omega) early

theorem upTo_iff (q : Ratio) (k : Nat)
    : q.upTo k = true
      ↔ q.num < (magnitude k + magnitude (k + 1)) * q.den
        ∨ q.num = (magnitude k + magnitude (k + 1)) * q.den ∧ k % 2 = 0 := by
  simp [Ratio.upTo]

theorem middle_lt (k : Nat)
    : magnitude k + magnitude (k + 1) < magnitude (k + 1) + magnitude (k + 1 + 1) := by
  have first := magnitude_lt_succ k
  have second := magnitude_lt_succ (k + 1)
  omega

theorem middle_strictMono : StrictMono fun k => magnitude k + magnitude (k + 1) :=
  strictMono_nat_of_lt_succ middle_lt

theorem upTo_monotone (q : Ratio)
    : ∀ a b, a ≤ b → q.upTo a = true → q.upTo b = true := by
  intro a b le before
  rcases Nat.eq_or_lt_of_le le with rfl | less
  · exact before
  · rw [upTo_iff] at *
    have middles := Nat.mul_lt_mul_of_pos_right (middle_strictMono less) q.positive
    simp only at middles
    rcases before with under | ⟨tie, -⟩
    · exact Or.inl (by omega)
    · exact Or.inl (by omega)

/-- A smaller ratio is not past a middle that a larger one is not past. -/
theorem upTo_antitone {q r : Ratio} (le : q.num * r.den ≤ r.num * q.den) {k : Nat}
    (upTo : r.upTo k = true)
    : q.upTo k = true := by
  rw [upTo_iff] at *
  generalize magnitude k + magnitude (k + 1) = middle at *
  rcases upTo with under | ⟨tie, even⟩
  · left
    have scaled : q.num * r.den < middle * q.den * r.den := by
      calc
        q.num * r.den ≤ r.num * q.den := le
        _ < middle * r.den * q.den := Nat.mul_lt_mul_of_pos_right under q.positive
        _ = middle * q.den * r.den := by ring
    exact Nat.lt_of_mul_lt_mul_right scaled
  · have scaled : q.num * r.den ≤ middle * q.den * r.den := by
      calc
        q.num * r.den ≤ r.num * q.den := le
        _ = middle * q.den * r.den := by rw [tie]; ring
    have bound := Nat.le_of_mul_le_mul_right scaled r.positive
    rcases Nat.lt_or_eq_of_le bound with under | same
    · exact Or.inl under
    · exact Or.inr ⟨same, even⟩

-----------------------------------------------------------------------------------------
-- The nearest magnitude
-----------------------------------------------------------------------------------------

theorem nearest_min (q : Ratio)
    : nearest q = min (firstFrom q.upTo 63 0) infinite := by
  unfold nearest
  rfl

/-- The ratio lies between the middles around a magnitude. -/
def Rounds (q : Ratio) (k : Nat) : Prop :=
  q.upTo k = true ∧ ∀ j < k, q.upTo j = false

theorem nearest_eq_iff {q : Ratio} {k : Nat} (finite : k < infinite)
    : nearest q = k ↔ Rounds q k := by
  have top : infinite < 2 ^ 63 := by decide
  obtain ⟨-, before, found⟩ := firstFrom_spec (upTo_monotone q) 63 0
  constructor
  · intro near
    rw [nearest_min] at near
    have first : firstFrom q.upTo 63 0 = k := by omega
    rw [first] at before found
    exact ⟨found (by omega), fun j less => before j (Nat.zero_le j) less⟩
  · rintro ⟨here, none⟩
    have notAfter : firstFrom q.upTo 63 0 ≤ k := by
      by_contra after
      have missed := before k (Nat.zero_le k) (by omega)
      rw [here] at missed
      cases missed
    have notBefore : k ≤ firstFrom q.upTo 63 0 := by
      by_contra earlier
      have hit := found (by omega)
      rw [none _ (by omega)] at hit
      cases hit
    rw [nearest_min]
    omega

/-- Rounding keeps the order. -/
theorem nearest_monotone {q r : Ratio} (le : q.num * r.den ≤ r.num * q.den)
    : nearest q ≤ nearest r := by
  obtain ⟨bound, before, -⟩ := firstFrom_spec (upTo_monotone q) 63 0
  obtain ⟨-, -, found⟩ := firstFrom_spec (upTo_monotone r) 63 0
  have first : firstFrom q.upTo 63 0 ≤ firstFrom r.upTo 63 0 := by
    by_contra larger
    have hit := upTo_antitone le (found (by omega))
    rw [before _ (Nat.zero_le _) (by omega)] at hit
    cases hit
  rw [nearest_min, nearest_min]
  omega

theorem nearest_congr {q r : Ratio} (same : q.num * r.den = r.num * q.den)
    : nearest q = nearest r :=
  Nat.le_antisymm (nearest_monotone same.le) (nearest_monotone same.ge)

/-- A magnitude is nearest to itself. -/
theorem nearest_magnitude {q : Ratio} {k : Nat} (finite : k < infinite)
    (exact' : q.num = 2 * magnitude k * q.den)
    : nearest q = k := by
  refine (nearest_eq_iff finite).mpr ⟨?_, ?_⟩
  · refine (upTo_iff q k).mpr (Or.inl ?_)
    rw [exact']
    have above := magnitude_lt_succ k
    exact Nat.mul_lt_mul_of_pos_right (by omega) q.positive
  · intro j less
    refine Bool.eq_false_iff.mpr fun upTo => ?_
    rw [upTo_iff, exact'] at upTo
    have below : magnitude j < magnitude k := magnitude_strictMono less
    have next : magnitude (j + 1) ≤ magnitude k := magnitude_strictMono.monotone less
    have middles : (magnitude j + magnitude (j + 1)) * q.den < 2 * magnitude k * q.den :=
      Nat.mul_lt_mul_of_pos_right (by omega) q.positive
    rcases upTo with under | ⟨tie, -⟩ <;> omega

end SqliteServer.Binary64
