import Mathlib.Data.List.Basic
import Mathlib.Data.List.Pairwise
import Mathlib.Data.String.Basic

/-! JSON values whose objects keep their fields sorted by key, with overwriting insertion. -/

namespace SqliteServer.Json

-----------------------------------------------------------------------------------------
-- Numbers and values
-----------------------------------------------------------------------------------------

/-- The bit pattern of a finite 64-bit float: its exponent field is not all ones. -/
structure FiniteFloat where
  bits : UInt64
  finite : (bits >>> 52) &&& 0x7ff ≠ 0x7ff
deriving DecidableEq

/-- A JSON number as a reader stores it: unsigned, negative, or floating. -/
inductive Number where
  | posInt (n : UInt64)
  | negInt (n : Int64) (negative : n < 0)
  | float (f : FiniteFloat)
deriving DecidableEq

/-- A signed integer is stored as unsigned as soon as it is not negative. -/
def Number.ofInt64 (n : Int64) : Number :=
  if negative : n < 0 then .negInt n negative else .posInt n.toUInt64

/-- A JSON value. Object fields are listed in increasing key order. -/
inductive Value where
  | null
  | bool (b : Bool)
  | number (n : Number)
  | string (s : String)
  | array (items : List Value)
  | object (fields : List (String × Value))

namespace Value

mutual
/-- Equality of values is decidable, by recursion on the first value. -/
def decEq : (left right : Value) → Decidable (left = right)
  | .null, .null => isTrue rfl
  | .bool a, .bool b => decidable_of_iff (a = b) (by simp)
  | .number a, .number b => decidable_of_iff (a = b) (by simp)
  | .string a, .string b => decidable_of_iff (a = b) (by simp)
  | .array a, .array b =>
      have := decEqItems a b
      decidable_of_iff (a = b) (by simp)
  | .object a, .object b =>
      have := decEqFields a b
      decidable_of_iff (a = b) (by simp)
  | .null, .bool _ | .null, .number _ | .null, .string _ | .null, .array _
  | .null, .object _ | .bool _, .null | .bool _, .number _ | .bool _, .string _
  | .bool _, .array _ | .bool _, .object _ | .number _, .null | .number _, .bool _
  | .number _, .string _ | .number _, .array _ | .number _, .object _
  | .string _, .null | .string _, .bool _ | .string _, .number _ | .string _, .array _
  | .string _, .object _ | .array _, .null | .array _, .bool _ | .array _, .number _
  | .array _, .string _ | .array _, .object _ | .object _, .null | .object _, .bool _
  | .object _, .number _ | .object _, .string _ | .object _, .array _ =>
      isFalse (by simp)

/-- Equality of item lists, by recursion beside `decEq`. -/
def decEqItems : (left right : List Value) → Decidable (left = right)
  | [], [] => isTrue rfl
  | a :: as, b :: bs =>
      have := decEq a b
      have := decEqItems as bs
      decidable_of_iff (a = b ∧ as = bs) (by simp)
  | [], _ :: _ | _ :: _, [] => isFalse (by simp)

/-- Equality of field lists, by recursion beside `decEq`. -/
def decEqFields : (left right : List (String × Value)) → Decidable (left = right)
  | [], [] => isTrue rfl
  | (j, a) :: as, (k, b) :: bs =>
      have := decEq a b
      have := decEqFields as bs
      decidable_of_iff (j = k ∧ a = b ∧ as = bs) (by simp [and_assoc])
  | [], _ :: _ | _ :: _, [] => isFalse (by simp)
end

instance : DecidableEq Value := decEq

end Value

-----------------------------------------------------------------------------------------
-- Ordered fields
-----------------------------------------------------------------------------------------

section Fields

variable {α : Type}

/-- Put `value` under `key`, keeping the key order and replacing an earlier value. -/
def insertField (key : String) (value : α) : List (String × α) → List (String × α)
  | [] => [(key, value)]
  | (k, v) :: rest =>
      if key < k then (key, value) :: (k, v) :: rest
      else if key = k then (key, value) :: rest
      else (k, v) :: insertField key value rest

/-- The value stored under `key`, if there is one. -/
def field? (key : String) : List (String × α) → Option α
  | [] => none
  | (k, v) :: rest => if key = k then some v else field? key rest

/-- An inserted key reads back as its value, by induction on the fields. -/
@[simp]
theorem field?_insertField_self (key : String) (value : α) (fields : List (String × α))
    : field? key (insertField key value fields) = some value := by
  induction fields with
  | nil => simp [insertField, field?]
  | cons head rest ih =>
      obtain ⟨k, v⟩ := head
      by_cases before : key < k
      · simp [insertField, before, field?]
      · by_cases same : key = k
        · simp [insertField, same, field?]
        · simp [insertField, before, same, field?, ih]

/-- Inserting a key leaves every other key's value alone, by induction on the fields. -/
theorem field?_insertField_ne {key other : String} (different : other ≠ key) (value : α)
    (fields : List (String × α))
    : field? other (insertField key value fields) = field? other fields := by
  induction fields with
  | nil => simp [insertField, field?, different]
  | cons head rest ih =>
      obtain ⟨k, v⟩ := head
      by_cases before : key < k
      · simp [insertField, before, field?, different]
      · by_cases same : key = k
        · subst same
          simp [insertField, field?, different]
        · simp [insertField, before, same, field?, ih]

/-- The keys of a field list are strictly increasing. -/
def FieldsSorted (fields : List (String × α)) : Prop :=
  (fields.map Prod.fst).Pairwise (· < ·)

/-- The keys after an insertion are the old keys and the new one, by induction. -/
theorem mem_keys_insertField {key k : String} {value : α} {fields : List (String × α)}
    : k ∈ (insertField key value fields).map Prod.fst
      ↔ k = key ∨ k ∈ fields.map Prod.fst := by
  induction fields with
  | nil => simp [insertField]
  | cons head rest ih =>
      obtain ⟨j, v⟩ := head
      by_cases before : key < j
      · simp [insertField, before]
      · by_cases same : key = j
        · subst same
          simp [insertField]
        · simp only [insertField, before, same, if_false, List.map_cons, List.mem_cons, ih]
          tauto

/-- Insertion keeps the key order, by induction with the new key compared at each field. -/
theorem FieldsSorted.insertField {fields : List (String × α)} (sorted : FieldsSorted fields)
    (key : String) (value : α)
    : FieldsSorted (insertField key value fields) := by
  induction fields with
  | nil => simp [Json.insertField, FieldsSorted]
  | cons head rest ih =>
      obtain ⟨k, v⟩ := head
      have tail : FieldsSorted rest := (List.pairwise_cons.mp sorted).2
      have above := (List.pairwise_cons.mp sorted).1
      by_cases before : key < k
      · simp only [Json.insertField, before, if_true, FieldsSorted, List.map_cons]
        refine List.pairwise_cons.mpr ⟨?_, sorted⟩
        intro j member
        rcases List.mem_cons.mp member with rfl | later
        · exact before
        · exact lt_trans before (above j later)
      · by_cases same : key = k
        · subst same
          simpa [Json.insertField, FieldsSorted] using sorted
        · simp only [Json.insertField, before, same, if_false, FieldsSorted, List.map_cons]
          refine List.pairwise_cons.mpr ⟨?_, ih tail⟩
          intro j member
          rcases mem_keys_insertField.mp member with rfl | old
          · exact lt_of_le_of_ne (not_lt.mp before) (Ne.symm same)
          · exact above j old

/-- Insert the given fields from left to right; a repeated key keeps its last value. -/
def insertFields (fields : List (String × α)) (start : List (String × α))
    : List (String × α) :=
  fields.foldl (fun built entry => insertField entry.1 entry.2 built) start

/-- Inserting several fields keeps the key order, by induction on the new fields. -/
theorem FieldsSorted.insertFields {start : List (String × α)} (sorted : FieldsSorted start)
    (fields : List (String × α))
    : FieldsSorted (insertFields fields start) := by
  induction fields generalizing start with
  | nil => exact sorted
  | cons head rest ih => exact ih (sorted.insertField head.1 head.2)

/-- Inserting fields leaves a name alone that none of them has, by induction on the fields. -/
theorem field?_insertFields_other {name : String} {fields : List (String × α)}
    (absent : ∀ entry ∈ fields, entry.1 ≠ name) (start : List (String × α))
    : field? name (insertFields fields start) = field? name start := by
  induction fields generalizing start with
  | nil => rfl
  | cons head rest ih =>
      have different : name ≠ head.1 := (absent head List.mem_cons_self).symm
      calc
        field? name (insertFields rest (insertField head.1 head.2 start))
            = field? name (insertField head.1 head.2 start) :=
          ih (fun entry member => absent entry (List.mem_cons_of_mem _ member)) _
        _ = field? name start := field?_insertField_ne different head.2 start

/-- Of fields with different keys, each reads back after all are inserted: by induction on them,
the later ones leaving it alone.
-/
theorem field?_insertFields_of_mem {key : String} {value : α} {fields : List (String × α)}
    (distinct : (fields.map Prod.fst).Nodup) (member : (key, value) ∈ fields)
    (start : List (String × α))
    : field? key (insertFields fields start) = some value := by
  induction fields generalizing start with
  | nil => contradiction
  | cons head rest ih =>
      rw [List.map_cons, List.nodup_cons] at distinct
      rcases List.mem_cons.mp member with rfl | later
      · have absent : ∀ entry ∈ rest, entry.1 ≠ key := by
          intro entry inside same
          exact distinct.1 (List.mem_map.mpr ⟨entry, inside, same⟩)
        exact (field?_insertFields_other absent _).trans (field?_insertField_self key value start)
      · exact ih distinct.2 later _

end Fields

-----------------------------------------------------------------------------------------
-- Reading values
-----------------------------------------------------------------------------------------

namespace Value

/-- An object literal: fields are inserted in the order written. -/
def ofFields (fields : List (String × Value)) : Value := .object (insertFields fields [])

/-- The value under a key; only objects have keys. -/
def get (key : String) : Value → Option Value
  | .object fields => field? key fields
  | _ => none

/-- An object literal has only the keys written. -/
theorem get_ofFields_other {key : String} {fields : List (String × Value)}
    (absent : ∀ entry ∈ fields, entry.1 ≠ key)
    : (ofFields fields).get key = none :=
  field?_insertFields_other absent []

/-- An object literal has the fields written, if their keys are different. -/
theorem get_ofFields {key : String} {value : Value} {fields : List (String × Value)}
    (distinct : (fields.map Prod.fst).Nodup) (member : (key, value) ∈ fields)
    : (ofFields fields).get key = some value :=
  field?_insertFields_of_mem distinct member []

def asStr : Value → Option String
  | .string s => some s
  | _ => none

def asArray : Value → Option (List Value)
  | .array items => some items
  | _ => none

def asObject : Value → Option (List (String × Value))
  | .object fields => some fields
  | _ => none

end Value

end SqliteServer.Json
