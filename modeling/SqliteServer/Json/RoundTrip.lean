import SqliteServer.Json.Rendering

/-! A value is read back from its compact text if its numbers are, and every value that is read
has its fields in order.
-/

namespace SqliteServer.Json

-----------------------------------------------------------------------------------------
-- Values within values
-----------------------------------------------------------------------------------------

mutual
/-- A property of a value and of every value in it. -/
def Value.Within (P : Value → Prop) : Value → Prop
  | .array items => P (.array items) ∧ itemsWithin P items
  | .object fields => P (.object fields) ∧ fieldsWithin P fields
  | .null => P .null
  | .bool b => P (.bool b)
  | .number n => P (.number n)
  | .string s => P (.string s)

def itemsWithin (P : Value → Prop) : List Value → Prop
  | [] => True
  | value :: values => value.Within P ∧ itemsWithin P values

def fieldsWithin (P : Value → Prop) : List (String × Value) → Prop
  | [] => True
  | (_, value) :: fields => value.Within P ∧ fieldsWithin P fields
end

mutual
/-- How deep arrays and objects are nested. -/
def Value.depth : Value → Nat
  | .array items => itemsDepth items + 1
  | .object fields => fieldsDepth fields + 1
  | .null | .bool _ | .number _ | .string _ => 0

def itemsDepth : List Value → Nat
  | [] => 0
  | value :: values => max value.depth (itemsDepth values)

def fieldsDepth : List (String × Value) → Nat
  | [] => 0
  | (_, value) :: fields => max value.depth (fieldsDepth fields)
end

mutual
/-- How deep the brackets of a text are nested. -/
def Syntax.depth : Syntax → Nat
  | .emptyArray _ | .emptyObject _ => 1
  | .array elements => elements.depth + 1
  | .object members => members.depth + 1
  | .null | .bool _ | .number _ | .string _ => 0

def Elements.depth : Elements → Nat
  | .last _ value _ => value.depth
  | .more _ value _ others => max value.depth others.depth

def Members.depth : Members → Nat
  | .last _ _ _ _ value _ => value.depth
  | .more _ _ _ _ value _ others => max value.depth others.depth
end

/-- The fields of an object are in order. -/
def FieldsInOrder : Value → Prop
  | .object fields => FieldsSorted fields
  | _ => True

section Within

variable {P : Value → Prop}

theorem itemsWithin_iff {items : List Value}
    : itemsWithin P items ↔ ∀ value ∈ items, value.Within P := by
  induction items with
  | nil => simp [itemsWithin]
  | cons value values ih => rw [itemsWithin, ih, List.forall_mem_cons]

theorem fieldsWithin_iff {fields : List (String × Value)}
    : fieldsWithin P fields ↔ ∀ entry ∈ fields, entry.2.Within P := by
  induction fields with
  | nil => simp [fieldsWithin]
  | cons entry fields ih =>
      obtain ⟨key, value⟩ := entry
      rw [fieldsWithin, ih, List.forall_mem_cons]

theorem Value.within_array {items : List Value}
    : (Value.array items).Within P ↔ P (.array items) ∧ ∀ value ∈ items, value.Within P := by
  rw [Value.Within, itemsWithin_iff]

theorem Value.within_object {fields : List (String × Value)}
    : (Value.object fields).Within P
      ↔ P (.object fields) ∧ ∀ entry ∈ fields, entry.2.Within P := by
  rw [Value.Within, fieldsWithin_iff]

theorem Value.Within.here {value : Value} (within : value.Within P) : P value := by
  cases value with
  | array items => exact (Value.within_array.mp within).1
  | object fields => exact (Value.within_object.mp within).1
  | null | bool | number | string => exact within

mutual
theorem Value.within_of_forall (all : ∀ value, P value) (value : Value) : value.Within P := by
  cases value with
  | array items => exact ⟨all _, itemsWithin_of_forall all items⟩
  | object fields => exact ⟨all _, fieldsWithin_of_forall all fields⟩
  | null | bool | number | string => exact all _

theorem itemsWithin_of_forall (all : ∀ value, P value) (items : List Value)
    : itemsWithin P items := by
  cases items with
  | nil => trivial
  | cons value values =>
      exact ⟨value.within_of_forall all, itemsWithin_of_forall all values⟩

theorem fieldsWithin_of_forall (all : ∀ value, P value) (fields : List (String × Value))
    : fieldsWithin P fields := by
  cases fields with
  | nil => trivial
  | cons entry others =>
      exact ⟨entry.2.within_of_forall all, fieldsWithin_of_forall all others⟩
end

end Within

theorem itemsDepth_le {items : List Value} {bound : Nat}
    : itemsDepth items ≤ bound ↔ ∀ value ∈ items, value.depth ≤ bound := by
  induction items with
  | nil => simp [itemsDepth]
  | cons value values ih => rw [itemsDepth, Nat.max_le, ih, List.forall_mem_cons]

theorem fieldsDepth_le {fields : List (String × Value)} {bound : Nat}
    : fieldsDepth fields ≤ bound ↔ ∀ entry ∈ fields, entry.2.depth ≤ bound := by
  induction fields with
  | nil => simp [fieldsDepth]
  | cons entry fields ih =>
      obtain ⟨key, value⟩ := entry
      rw [fieldsDepth, Nat.max_le, ih, List.forall_mem_cons]

-----------------------------------------------------------------------------------------
-- Fields in order
-----------------------------------------------------------------------------------------

section Fields

variable {α : Type}

/-- After an insertion there are the new field and old ones, by induction on the fields. -/
theorem mem_insertField {key : String} {value : α} {fields : List (String × α)}
    {entry : String × α} (member : entry ∈ insertField key value fields)
    : entry = (key, value) ∨ entry ∈ fields := by
  induction fields with
  | nil => exact Or.inl (List.mem_singleton.mp member)
  | cons head rest ih =>
      obtain ⟨k, v⟩ := head
      rw [insertField] at member
      split_ifs at member
      · exact List.mem_cons.mp member
      · rcases List.mem_cons.mp member with rfl | old
        · exact Or.inl rfl
        · exact Or.inr (List.mem_cons_of_mem _ old)
      · rcases List.mem_cons.mp member with rfl | later
        · exact Or.inr List.mem_cons_self
        · exact (ih later).imp_right (List.mem_cons_of_mem _)

theorem mem_insertFields {fields start : List (String × α)} {entry : String × α}
    (member : entry ∈ insertFields fields start)
    : entry ∈ fields ∨ entry ∈ start := by
  induction fields generalizing start with
  | nil => exact Or.inr member
  | cons head rest ih =>
      rcases ih member with later | inserted
      · exact Or.inl (List.mem_cons_of_mem _ later)
      · rcases mem_insertField inserted with rfl | old
        · exact Or.inl List.mem_cons_self
        · exact Or.inr old

/-- A key above all others is inserted at the end, by induction on the fields before it. -/
theorem insertField_last {key : String} {fields : List (String × α)}
    (above : ∀ k ∈ fields.map Prod.fst, k < key) (value : α)
    : insertField key value fields = fields ++ [(key, value)] := by
  induction fields with
  | nil => rfl
  | cons head rest ih =>
      obtain ⟨k, v⟩ := head
      have before : k < key := above k List.mem_cons_self
      rw [insertField, if_neg before.asymm, if_neg before.ne',
        ih (fun k member => above k (List.mem_cons_of_mem _ member)), List.cons_append]

/-- Fields in order are inserted one behind the other, by induction on them. -/
theorem insertFields_sorted {fields start : List (String × α)}
    (sorted : FieldsSorted (start ++ fields))
    : insertFields fields start = start ++ fields := by
  induction fields generalizing start with
  | nil => exact (List.append_nil start).symm
  | cons head rest ih =>
      have above : ∀ k ∈ start.map Prod.fst, k < head.1 := by
        rw [FieldsSorted, List.map_append, List.pairwise_append] at sorted
        exact fun k member => sorted.2.2 k member head.1 List.mem_cons_self
      have inserted := insertField_last above head.2
      have split : start ++ head :: rest = (start ++ [head]) ++ rest := by simp
      change insertFields rest (insertField head.1 head.2 start) = start ++ head :: rest
      rw [inserted, split]
      exact ih (split ▸ sorted)

end Fields

/-- What holds of the values of an object literal holds of those in the object. -/
theorem Value.within_ofFields {P : Value → Prop} {fields : List (String × Value)}
    (here : P (.ofFields fields)) (within : ∀ entry ∈ fields, entry.2.Within P)
    : (Value.ofFields fields).Within P := by
  refine Value.within_object.mpr ⟨here, ?_⟩
  intro entry member
  rcases mem_insertFields member with new | none
  · exact within entry new
  · contradiction

/-- An object literal is in order. -/
theorem Value.inOrder_ofFields {fields : List (String × Value)}
    (within : ∀ entry ∈ fields, entry.2.Within FieldsInOrder)
    : (Value.ofFields fields).Within FieldsInOrder := by
  have empty : FieldsSorted ([] : List (String × Value)) := List.Pairwise.nil
  exact Value.within_ofFields (empty.insertFields fields) within

theorem Value.depth_ofFields {fields : List (String × Value)} (bound : Nat)
    (within : ∀ entry ∈ fields, entry.2.depth ≤ bound)
    : (Value.ofFields fields).depth ≤ bound + 1 := by
  refine Nat.succ_le_succ (fieldsDepth_le.mpr ?_)
  intro entry member
  rcases mem_insertFields member with new | none
  · exact within entry new
  · contradiction

/-- What stands under a key is nested less deep. -/
theorem Value.depth_get {key : String} {value inner : Value} (found : value.get key = some inner)
    : inner.depth < value.depth := by
  cases value with
  | null | bool | number | string | array => cases found
  | object fields =>
      have member : (key, inner) ∈ fields := by
        change field? key fields = some inner at found
        induction fields with
        | nil => cases found
        | cons head rest ih =>
            obtain ⟨k, v⟩ := head
            rw [field?] at found
            split_ifs at found with same
            · cases found
              rw [same]
              exact List.mem_cons_self
            · exact List.mem_cons_of_mem _ (ih found)
      exact Nat.lt_succ_of_le (fieldsDepth_le.mp (Nat.le_refl _) (key, inner) member)

-----------------------------------------------------------------------------------------
-- Reading what was written
-----------------------------------------------------------------------------------------

mutual
/-- A value with other numbers. -/
def Value.mapNumbers (f : Number → Number) : Value → Value
  | .array items => .array (itemsMapNumbers f items)
  | .object fields => .object (fieldsMapNumbers f fields)
  | .number n => .number (f n)
  | .null => .null
  | .bool b => .bool b
  | .string s => .string s

def itemsMapNumbers (f : Number → Number) : List Value → List Value
  | [] => []
  | value :: values => value.mapNumbers f :: itemsMapNumbers f values

def fieldsMapNumbers (f : Number → Number) : List (String × Value) → List (String × Value)
  | [] => []
  | (key, value) :: fields => (key, value.mapNumbers f) :: fieldsMapNumbers f fields
end

theorem itemsMapNumbers_eq_map (f : Number → Number) (items : List Value)
    : itemsMapNumbers f items = items.map (Value.mapNumbers f) := by
  induction items with
  | nil => rfl
  | cons value values ih => rw [itemsMapNumbers, ih, List.map_cons]

theorem fieldsMapNumbers_eq_map (f : Number → Number) (fields : List (String × Value))
    : fieldsMapNumbers f fields = fields.map (fun entry => (entry.1, entry.2.mapNumbers f)) := by
  induction fields with
  | nil => rfl
  | cons entry others ih => rw [fieldsMapNumbers, ih, List.map_cons]

/-- Other numbers leave the keys as they are. -/
theorem FieldsSorted.mapNumbers {fields : List (String × Value)} (sorted : FieldsSorted fields)
    (f : Number → Number)
    : FieldsSorted (fieldsMapNumbers f fields) := by
  have keys : (fieldsMapNumbers f fields).map Prod.fst = fields.map Prod.fst := by
    rw [fieldsMapNumbers_eq_map, List.map_map]
    rfl
  rw [FieldsSorted, keys]
  exact sorted

/-- What stands under a key has other numbers, too. -/
theorem field?_mapNumbers (f : Number → Number) (key : String) (fields : List (String × Value))
    : field? key (fieldsMapNumbers f fields) = (field? key fields).map (Value.mapNumbers f) := by
  induction fields with
  | nil => rfl
  | cons entry others ih =>
      rw [fieldsMapNumbers, field?, field?, ih]
      split_ifs <;> rfl

theorem Value.get_mapNumbers (f : Number → Number) (key : String) (value : Value)
    : (value.mapNumbers f).get key = (value.get key).map (Value.mapNumbers f) := by
  cases value with
  | object fields => exact field?_mapNumbers f key fields
  | null | bool | number | string | array => rfl

/-- A number that is left as it is. -/
def FixesNumber (f : Number → Number) : Value → Prop
  | .number n => f n = n
  | _ => True

mutual
/-- A value is left as it is if its numbers are. -/
theorem Value.mapNumbers_fixed {f : Number → Number} {value : Value}
    (fixed : value.Within (FixesNumber f))
    : value.mapNumbers f = value := by
  cases value with
  | null | bool | string => rfl
  | number n =>
      have same : f n = n := fixed
      rw [Value.mapNumbers, same]
  | array items => rw [Value.mapNumbers, itemsMapNumbers_fixed fixed.2]
  | object fields => rw [Value.mapNumbers, fieldsMapNumbers_fixed fixed.2]

theorem itemsMapNumbers_fixed {f : Number → Number} {items : List Value}
    (fixed : itemsWithin (FixesNumber f) items)
    : itemsMapNumbers f items = items := by
  cases items with
  | nil => rfl
  | cons value values =>
      rw [itemsMapNumbers, Value.mapNumbers_fixed fixed.1, itemsMapNumbers_fixed fixed.2]

theorem fieldsMapNumbers_fixed {f : Number → Number} {fields : List (String × Value)}
    (fixed : fieldsWithin (FixesNumber f) fields)
    : fieldsMapNumbers f fields = fields := by
  cases fields with
  | nil => rfl
  | cons entry others =>
      rw [fieldsMapNumbers, Value.mapNumbers_fixed fixed.1, fieldsMapNumbers_fixed fixed.2]
end

mutual
theorem Value.depth_mapNumbers (f : Number → Number) (value : Value)
    : (value.mapNumbers f).depth = value.depth := by
  cases value with
  | null | bool | number | string => rfl
  | array items => rw [Value.mapNumbers, Value.depth, Value.depth, itemsDepth_mapNumbers f items]
  | object fields =>
      rw [Value.mapNumbers, Value.depth, Value.depth, fieldsDepth_mapNumbers f fields]

theorem itemsDepth_mapNumbers (f : Number → Number) (items : List Value)
    : itemsDepth (itemsMapNumbers f items) = itemsDepth items := by
  cases items with
  | nil => rfl
  | cons value values =>
      rw [itemsMapNumbers, itemsDepth, itemsDepth, value.depth_mapNumbers f,
        itemsDepth_mapNumbers f values]

theorem fieldsDepth_mapNumbers (f : Number → Number) (fields : List (String × Value))
    : fieldsDepth (fieldsMapNumbers f fields) = fieldsDepth fields := by
  cases fields with
  | nil => rfl
  | cons entry others =>
      rw [fieldsMapNumbers, fieldsDepth, fieldsDepth, entry.2.depth_mapNumbers f,
        fieldsDepth_mapNumbers f others]
end

/-- A number's text is read as a number. -/
def NumberReadsAs (readNumber : Text → Option Number) (printNumber : Number → NumberLit)
    (f : Number → Number)
    : Value → Prop
  | .number n => readNumber (printNumber n).lexeme = some (f n)
  | _ => True

/-- A number is read back from its text. -/
def NumberReadsBack (readNumber : Text → Option Number) (printNumber : Number → NumberLit)
    : Value → Prop
  | .number n => readNumber (printNumber n).lexeme = some n
  | _ => True

theorem keyOf_denote (bare : Bool) (key : String) : (keyOf bare key).denote = some key := by
  unfold keyOf
  split_ifs
  · simp [Key.denote, plainName]
  · exact literalOf_denote key
  · exact literalOf_denote key

section Trees

variable {readNumber : Text → Option Number} {printNumber : Number → NumberLit}
  {f : Number → Number} (bare : List Nat → Bool)

mutual
/-- The tree of a value stands for the value with the numbers that are read, whichever keys are
bare: by recursion on the value, whose fields are inserted in order.
-/
theorem denote_treeOf_as (position : List Nat) {value : Value}
    (ordered : value.Within FieldsInOrder)
    (numbers : value.Within (NumberReadsAs readNumber printNumber f))
    : (treeOf printNumber bare position value).denote readNumber = some (value.mapNumbers f) := by
  cases value with
  | null | bool => rfl
  | number n =>
      have read : readNumber (printNumber n).lexeme = some (f n) := numbers
      simp [treeOf, Syntax.denote, read, Value.mapNumbers]
  | string s => simp [treeOf, Syntax.denote, literalOf_denote, Value.mapNumbers]
  | array items =>
      have all := denote_elementsOf position 0 ordered.2 numbers.2
      cases parts : elementsOf printNumber bare position 0 items with
      | none =>
          rw [parts] at all
          simp only [treeOf, parts, Syntax.denote]
          exact congrArg (some ∘ Value.array) (Option.some.inj all)
      | some elements =>
          rw [parts] at all
          simp only [treeOf, parts, Syntax.denote]
          exact congrArg (Option.map Value.array) all
  | object fields =>
      have all := denote_membersOf position 0 ordered.2 numbers.2
      cases parts : membersOf printNumber bare position 0 fields with
      | none =>
          rw [parts] at all
          simp only [treeOf, parts, Syntax.denote]
          exact congrArg (some ∘ Value.object) (Option.some.inj all)
      | some members =>
          rw [parts] at all
          simp only [treeOf, parts, Syntax.denote]
          have read : members.denote readNumber = some (fieldsMapNumbers f fields) := all
          have sorted : FieldsSorted fields := ordered.1
          have inserted
              : insertFields (fieldsMapNumbers f fields) [] = fieldsMapNumbers f fields :=
            insertFields_sorted (sorted.mapNumbers f)
          rw [read, Option.map_some, inserted, Value.mapNumbers]

theorem denote_elementsOf (position : List Nat) (index : Nat) {items : List Value}
    (ordered : itemsWithin FieldsInOrder items)
    (numbers : itemsWithin (NumberReadsAs readNumber printNumber f) items)
    : (elementsOf printNumber bare position index items).elim (some [])
        (Elements.denote readNumber)
      = some (itemsMapNumbers f items) := by
  cases items with
  | nil => rfl
  | cons value values =>
      have here := denote_treeOf_as (index :: position) ordered.1 numbers.1
      have later := denote_elementsOf position (index + 1) ordered.2 numbers.2
      rw [elementsOf]
      cases parts : elementsOf printNumber bare position (index + 1) values with
      | none =>
          rw [parts] at later
          have nothing : [] = itemsMapNumbers f values := Option.some.inj later
          simp [Elements.denote, here, itemsMapNumbers, ← nothing]
      | some others =>
          rw [parts] at later
          have read : others.denote readNumber = some (itemsMapNumbers f values) := later
          simp [Elements.denote, here, read, itemsMapNumbers]

theorem denote_membersOf (position : List Nat) (index : Nat) {fields : List (String × Value)}
    (ordered : fieldsWithin FieldsInOrder fields)
    (numbers : fieldsWithin (NumberReadsAs readNumber printNumber f) fields)
    : (membersOf printNumber bare position index fields).elim (some [])
        (Members.denote readNumber)
      = some (fieldsMapNumbers f fields) := by
  cases fields with
  | nil => rfl
  | cons entry others =>
      obtain ⟨key, value⟩ := entry
      have here := denote_treeOf_as (index :: position) ordered.1 numbers.1
      have later := denote_membersOf position (index + 1) ordered.2 numbers.2
      rw [membersOf]
      cases parts : membersOf printNumber bare position (index + 1) others with
      | none =>
          rw [parts] at later
          have nothing : [] = fieldsMapNumbers f others := Option.some.inj later
          simp [Members.denote, keyOf_denote, here, fieldsMapNumbers, ← nothing]
      | some members =>
          rw [parts] at later
          have read : members.denote readNumber = some (fieldsMapNumbers f others) := later
          simp [Members.denote, keyOf_denote, here, read, fieldsMapNumbers]
end

/-- The tree of a value stands for it, whichever keys are bare, if its numbers are read back. -/
theorem denote_treeOf (position : List Nat) {value : Value} (ordered : value.Within FieldsInOrder)
    (numbers : value.Within (NumberReadsBack readNumber printNumber))
    : (treeOf printNumber bare position value).denote readNumber = some value := by
  have same : NumberReadsBack readNumber printNumber = NumberReadsAs readNumber printNumber id := by
    funext value
    cases value <;> rfl
  have fixed : value.Within (FixesNumber id) := by
    refine value.within_of_forall fun inner => ?_
    cases inner with
    | number n => exact rfl
    | null | bool | string | array | object => trivial
  rw [denote_treeOf_as bare position ordered (same ▸ numbers), Value.mapNumbers_fixed fixed]

mutual
/-- The text of a value is nested as deep as the value. -/
theorem depth_treeOf (position : List Nat) (value : Value)
    : (treeOf printNumber bare position value).depth = value.depth := by
  cases value with
  | null | bool | number | string => rfl
  | array items =>
      have all := depth_elementsOf position 0 items
      cases parts : elementsOf printNumber bare position 0 items with
      | none =>
          rw [parts] at all
          simp [treeOf, parts, Syntax.depth, Value.depth, ← all]
      | some elements =>
          rw [parts] at all
          simp [treeOf, parts, Syntax.depth, Value.depth, ← all]
  | object fields =>
      have all := depth_membersOf position 0 fields
      cases parts : membersOf printNumber bare position 0 fields with
      | none =>
          rw [parts] at all
          simp [treeOf, parts, Syntax.depth, Value.depth, ← all]
      | some members =>
          rw [parts] at all
          simp [treeOf, parts, Syntax.depth, Value.depth, ← all]

theorem depth_elementsOf (position : List Nat) (index : Nat) (items : List Value)
    : (elementsOf printNumber bare position index items).elim 0 Elements.depth
      = itemsDepth items := by
  cases items with
  | nil => rfl
  | cons value values =>
      have here := depth_treeOf (index :: position) value
      have later := depth_elementsOf position (index + 1) values
      rw [elementsOf, itemsDepth, ← here, ← later]
      cases elementsOf printNumber bare position (index + 1) values with
      | none => exact (Nat.max_zero _).symm
      | some others => rfl

theorem depth_membersOf (position : List Nat) (index : Nat) (fields : List (String × Value))
    : (membersOf printNumber bare position index fields).elim 0 Members.depth
      = fieldsDepth fields := by
  cases fields with
  | nil => rfl
  | cons entry others =>
      obtain ⟨key, value⟩ := entry
      have here := depth_treeOf (index :: position) value
      have later := depth_membersOf position (index + 1) others
      rw [membersOf, fieldsDepth, ← here, ← later]
      cases membersOf printNumber bare position (index + 1) others with
      | none => exact (Nat.max_zero _).symm
      | some members => rfl
end

end Trees

section Depth

variable {readNumber : Text → Option Number}

mutual
/-- A value is nested at most as deep as its text; repeated keys may leave less of it. -/
theorem Syntax.depth_denote (tree : Syntax) {value : Value}
    (read : tree.denote readNumber = some value)
    : value.depth ≤ tree.depth := by
  cases tree with
  | null | bool | emptyArray | emptyObject =>
      cases read
      exact Nat.le_refl _
  | number lit =>
      obtain ⟨n, -, rfl⟩ := Option.map_eq_some_iff.mp read
      exact Nat.le_refl 0
  | string lit =>
      obtain ⟨s, -, rfl⟩ := Option.map_eq_some_iff.mp read
      exact Nat.le_refl 0
  | array elements =>
      obtain ⟨items, found, rfl⟩ := Option.map_eq_some_iff.mp read
      exact Nat.succ_le_succ (elements.depth_denote found)
  | object members =>
      obtain ⟨fields, found, rfl⟩ := Option.map_eq_some_iff.mp read
      have within := fieldsDepth_le.mp (members.depth_denote found)
      exact Value.depth_ofFields members.depth within

theorem Elements.depth_denote (elements : Elements) {items : List Value}
    (read : elements.denote readNumber = some items)
    : itemsDepth items ≤ elements.depth := by
  cases elements with
  | last before value after =>
      obtain ⟨item, found, rfl⟩ := Option.map_eq_some_iff.mp read
      exact Nat.max_le.mpr ⟨value.depth_denote found, Nat.zero_le _⟩
  | more before value after others =>
      obtain ⟨item, found, later⟩ := Option.bind_eq_some_iff.mp read
      obtain ⟨items, rest, rfl⟩ := Option.map_eq_some_iff.mp later
      exact max_le_max (value.depth_denote found) (others.depth_denote rest)

theorem Members.depth_denote (members : Members) {fields : List (String × Value)}
    (read : members.denote readNumber = some fields)
    : fieldsDepth fields ≤ members.depth := by
  cases members with
  | last before key gap lead value after =>
      obtain ⟨name, -, named⟩ := Option.bind_eq_some_iff.mp read
      obtain ⟨item, found, rfl⟩ := Option.map_eq_some_iff.mp named
      exact Nat.max_le.mpr ⟨value.depth_denote found, Nat.zero_le _⟩
  | more before key gap lead value after others =>
      obtain ⟨name, -, named⟩ := Option.bind_eq_some_iff.mp read
      obtain ⟨item, found, later⟩ := Option.bind_eq_some_iff.mp named
      obtain ⟨fields, rest, rfl⟩ := Option.map_eq_some_iff.mp later
      exact max_le_max (value.depth_denote found) (others.depth_denote rest)
end

end Depth

section Strict

variable (printNumber : Number → NumberLit)

theorem keyOf_strict (key : String) : (keyOf false key).strict = true := by
  unfold keyOf
  split <;> rfl

mutual
/-- Without bare keys the text is plain JSON. -/
theorem strict_treeOf (position : List Nat) (value : Value)
    : (treeOf printNumber (fun _ => false) position value).strict = true := by
  cases value with
  | null | bool | number | string => rfl
  | array items =>
      have all := strict_elementsOf position 0 items
      cases parts : elementsOf printNumber (fun _ => false) position 0 items with
      | none => simp [treeOf, parts, Syntax.strict]
      | some elements =>
          rw [parts] at all
          simpa [treeOf, parts, Syntax.strict] using all
  | object fields =>
      have all := strict_membersOf position 0 fields
      cases parts : membersOf printNumber (fun _ => false) position 0 fields with
      | none => simp [treeOf, parts, Syntax.strict]
      | some members =>
          rw [parts] at all
          simpa [treeOf, parts, Syntax.strict] using all

theorem strict_elementsOf (position : List Nat) (index : Nat) (items : List Value)
    : (elementsOf printNumber (fun _ => false) position index items).all Elements.strict
      = true := by
  cases items with
  | nil => rfl
  | cons value values =>
      have here := strict_treeOf (index :: position) value
      have later := strict_elementsOf position (index + 1) values
      rw [elementsOf]
      cases parts : elementsOf printNumber (fun _ => false) position (index + 1) values with
      | none => simpa [Elements.strict] using here
      | some others =>
          rw [parts] at later
          simpa [Elements.strict, here] using later

theorem strict_membersOf (position : List Nat) (index : Nat) (fields : List (String × Value))
    : (membersOf printNumber (fun _ => false) position index fields).all Members.strict
      = true := by
  cases fields with
  | nil => rfl
  | cons entry others =>
      obtain ⟨key, value⟩ := entry
      have here := strict_treeOf (index :: position) value
      have later := strict_membersOf position (index + 1) others
      rw [membersOf]
      cases parts : membersOf printNumber (fun _ => false) position (index + 1) others with
      | none => simp [Members.strict, keyOf_strict, here]
      | some members =>
          rw [parts] at later
          simpa [Members.strict, keyOf_strict, here] using later
end

end Strict

-----------------------------------------------------------------------------------------
-- What is read
-----------------------------------------------------------------------------------------

section Parse

variable (readNumber : Text → Option Number)

/-- Numbers and keywords have no fields. -/
theorem parseScalar_inOrder {text rest : Text} {value : Value}
    (read
      : parseNumber readNumber text = some (value, rest)
        ∨ parseKeyword text = some (value, rest))
    : value.Within FieldsInOrder := by
  rcases read with number | keyword
  · unfold parseNumber at number
    dsimp only at number
    split_ifs at number
    obtain ⟨n, -, same⟩ := Option.map_eq_some_iff.mp number
    cases same
    trivial
  · unfold parseKeyword at keyword
    split at keyword <;> cases keyword <;> trivial

/-- What the parser reads is in order: by induction on the fuel, the fields read so far being in
order.
-/
theorem parseValue_inOrder (fuel : Nat)
    : (∀ {text rest : Text} {value : Value},
        parseValue readNumber fuel text = some (value, rest) → value.Within FieldsInOrder)
      ∧ (∀ {done : List Value} {text rest : Text} {value : Value},
          (∀ item ∈ done, item.Within FieldsInOrder)
          → parseElements readNumber fuel done text = some (value, rest)
          → value.Within FieldsInOrder)
      ∧ (∀ {done : List (String × Value)} {text rest : Text} {value : Value},
          FieldsSorted done
          → (∀ entry ∈ done, entry.2.Within FieldsInOrder)
          → parseMembers readNumber fuel done text = some (value, rest)
          → value.Within FieldsInOrder) := by
  induction fuel with
  | zero =>
      refine ⟨?_, ?_, ?_⟩
      · intro text rest value read
        simp [parseValue] at read
      · intro done text rest value before read
        simp [parseElements] at read
      · intro done text rest value sorted before read
        simp [parseMembers] at read
  | succ fuel ih =>
      obtain ⟨values, elements, members⟩ := ih
      refine ⟨?_, ?_, ?_⟩
      · intro text rest value read
        cases text with
        | nil => simp [parseValue] at read
        | cons c text =>
            rw [parseValue] at read
            split_ifs at read
            · obtain ⟨result, -, same⟩ := Option.map_eq_some_iff.mp read
              cases same
              trivial
            · split at read
              · cases read
                exact Value.within_array.mpr ⟨trivial, fun item none => absurd none (by simp)⟩
              · exact elements (fun item none => absurd none (by simp)) read
            · split at read
              · cases read
                exact Value.within_object.mpr
                  ⟨List.Pairwise.nil, fun entry none => absurd none (by simp)⟩
              · have empty : FieldsSorted ([] : List (String × Value)) := List.Pairwise.nil
                exact members empty (fun entry none => absurd none (by simp)) read
            · exact parseScalar_inOrder readNumber (Or.inl read)
            · exact parseScalar_inOrder readNumber (Or.inr read)
      · intro done text rest value before read
        rw [parseElements] at read
        cases first : parseValue readNumber fuel text with
        | none => simp [first] at read
        | some result =>
            have all : ∀ item ∈ done ++ [result.1], item.Within FieldsInOrder := by
              intro item member
              rcases List.mem_append.mp member with old | new
              · exact before item old
              · rw [List.mem_singleton.mp new]
                exact values first
            simp only [first] at read
            split at read
            · exact elements all read
            · cases read
              exact Value.within_array.mpr ⟨trivial, all⟩
            · cases read
      · intro done text rest value sorted before read
        unfold parseMembers at read
        split at read
        · split at read
          · cases read
          · rename_i key afterKey _
            split at read
            · split at read
              · cases read
              · rename_i first afterValue found
                have all : ∀ entry ∈ insertField key first done, entry.2.Within FieldsInOrder := by
                  intro entry member
                  rcases mem_insertField member with rfl | old
                  · exact values found
                  · exact before entry old
                split at read
                · exact members (sorted.insertField key first) all read
                · cases read
                  exact Value.within_object.mpr ⟨sorted.insertField key first, all⟩
                · cases read
            · cases read
        · cases read

theorem parse_inOrder {text : Text} {value : Value} (read : parse readNumber text = some value)
    : value.Within FieldsInOrder := by
  unfold parse at read
  split at read
  · rename_i found
    split_ifs at read
    cases read
    exact (parseValue_inOrder readNumber _).1 found
  · cases read

end Parse

end SqliteServer.Json
