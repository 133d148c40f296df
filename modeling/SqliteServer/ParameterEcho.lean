import SqliteServer.ClientViews
import SqliteServer.SqlLiterals

/-! What a client binds into a query is what it reads back from the text of a response. -/

namespace SqliteServer

open Binary64 Json Sql Wire

-----------------------------------------------------------------------------------------
-- Typed columns
-----------------------------------------------------------------------------------------

/-- A JSON number as a signed integer, if it is one that fits. -/
def asI64 : Value → Option Int64
  | .number (.posInt n) => if n.toNat < 2 ^ 63 then some n.toInt64 else none
  | .number (.negInt n _) => some n
  | _ => none

/-- The bits of a JSON number as a float; an integer becomes the nearest one. -/
def asF64 : Value → Option UInt64
  | .number (.posInt n) => some (floatBits false (nearest (integerRatio n.toNat)))
  | .number (.negInt n _) => some (floatBits true (nearest (integerRatio n.toInt.natAbs)))
  | .number (.float f) => some f.bits
  | _ => none

namespace RustClient

section Row

variable (row : List (String × Value)) (column : String)

def getI64 : Option Int64 := (field? column row).bind asI64

def getF64 : Option UInt64 := (field? column row).bind asF64

def getStr : Option String := (field? column row).bind Value.asStr

/-- An absent column counts as null. -/
def isNull : Bool :=
  match field? column row with
  | some .null | none => true
  | _ => false

/-- The bytes of a BLOB column, decoded from its literal. -/
def blob : Except Halt (Option Bytes) :=
  match getStr row column with
  | some literal => decodeBlobLiteral literal
  | none => .ok none

end Row

/-- The row gives the parameter back, read with the type of the parameter. -/
def Echoed (row : List (String × Value)) (column : String) : Param → Prop
  | .null => isNull row column = true
  | .bool b => getI64 row column = some (if b then 1 else 0)
  | .int n => getI64 row column = some n
  | .real bits => getF64 row column = some bits
  | .text s => getStr row column = some s
  | .blob bytes => blob row column = .ok (some bytes)

/-- A reader that reads numbers so keeps a float. -/
def KeepsFloat (f : Number → Number) (bits : UInt64) : Prop :=
  ∀ number, fromFloat bits = some number → f number = number

/-- The parameters that come back: all but infinities, NaN, negative zero, texts with a NUL and
floats that SQLite keeps as REAL and the reader does not keep.
-/
def ComesBack (f : Number → Number) : Param → Prop
  | .real bits =>
      magnitudeIndex bits < infinite
      ∧ bits ≠ 0x8000000000000000
      ∧ (SerializesExactly (.real bits) → KeepsFloat f bits)
  | .text s => '\x00' ∉ s.toList
  | _ => True

end RustClient

/-- A reader of numbers keeps integers, and reads floats as floats. -/
structure KeepsKinds (f : Number → Number) : Prop where
  integers : ∀ n, f (Number.ofInt64 n) = Number.ofInt64 n
  floats : ∀ x, ∃ y, f (.float x) = .float y

/-- A cell that is no REAL is read back as it was written. -/
theorem KeepsKinds.cell {f : Number → Number} (kinds : KeepsKinds f) {cell : ValueRef}
    (exact' : ∀ bits, cell ≠ .real bits)
    : (valueRefToJson cell).mapNumbers f = valueRefToJson cell := by
  cases cell with
  | null => rfl
  | integer n => rw [valueRefToJson, Value.mapNumbers, kinds.integers]
  | real bits => exact absurd rfl (exact' bits)
  | text bytes => rfl
  | blob bytes => rfl

-----------------------------------------------------------------------------------------
-- Integers
-----------------------------------------------------------------------------------------

theorem toNat_toUInt64 {n : Int64} (natural : ¬ n < 0) : (n.toUInt64.toNat : Int) = n.toInt := by
  have lower : 0 ≤ n.toInt := by
    rw [Int64.lt_iff_toInt_lt] at natural
    exact not_lt.mp natural
  have cond := BitVec.toInt_eq_toNat_cond n.toBitVec
  have same : n.toInt = n.toBitVec.toInt := rfl
  have bits : n.toUInt64.toNat = n.toBitVec.toNat := rfl
  rw [bits]
  split_ifs at cond
  · omega
  · have bound := n.toBitVec.isLt
    omega

/-- An INTEGER is read back as itself. -/
theorem asI64_integer (n : Int64) : asI64 (valueRefToJson (.integer n)) = some n := by
  rw [valueRefToJson, Number.ofInt64]
  split_ifs with negative
  · rfl
  · have value := toNat_toUInt64 negative
    have upper := n.toInt_lt
    have fits : n.toUInt64.toNat < 2 ^ 63 := by omega
    rw [asI64, if_pos fits]
    rfl

/-- Read as a float, an INTEGER is the nearest one. -/
theorem asF64_integer (n : Int64)
    : asF64 (valueRefToJson (.integer n))
      = some (floatBits (decide (n.toInt < 0)) (nearest (integerRatio n.toInt.natAbs))) := by
  have zero : (0 : Int64).toInt = 0 := rfl
  rw [valueRefToJson, Number.ofInt64]
  split_ifs with negative
  · rw [Int64.lt_iff_toInt_lt, zero] at negative
    rw [asF64, decide_eq_true negative]
  · have value := toNat_toUInt64 negative
    have same : n.toUInt64.toNat = n.toInt.natAbs := by omega
    rw [Int64.lt_iff_toInt_lt, zero] at negative
    rw [asF64, decide_eq_false negative, same]

-----------------------------------------------------------------------------------------
-- Floats
-----------------------------------------------------------------------------------------

/-- A float is finite if its exponent field is not all ones. -/
theorem finite_iff (bits : UInt64)
    : (bits >>> 52) &&& 0x7ff ≠ 0x7ff ↔ magnitudeIndex bits < infinite := by
  have field : ((bits >>> 52) &&& 0x7ff).toNat = bits.toNat / 2 ^ 52 % 2 ^ 11 := by
    rw [UInt64.toNat_and, UInt64.toNat_shiftRight, Nat.shiftRight_eq_div_pow,
      show (0x7ff : UInt64).toNat = 2 ^ 11 - 1 from rfl, Nat.and_two_pow_sub_one_eq_mod]
    rfl
  rw [ne_eq, ← UInt64.toNat_inj, field, magnitudeIndex, infinite]
  have ones : (0x7ff : UInt64).toNat = 0x7ff := rfl
  rw [ones]
  omega

/-- The literal of a whole float below `2 ^ 63` is read as the integer it is. -/
theorem readLiteral_wholeFloat {bits : UInt64} (finite : magnitudeIndex bits < infinite)
    (whole : ¬ SerializesExactly (.real bits))
    : ∃ n : Nat,
        n < 2 ^ 63
        ∧ nearest (integerRatio n) = magnitudeIndex bits
        ∧ readLiteral (RustClient.serializeSqlValue (.real bits))
          = some (.integer (Int64.ofInt (if isNegative bits then -n else n))) := by
  obtain ⟨-, integral, small⟩ := not_not.mp whole
  have exponent := (shortest_exponent_iff finite).mpr integral
  obtain ⟨side, -⟩ := shortest_lt_power63 finite integral
  have below : (shortest (magnitudeIndex bits)).integer < 2 ^ 63 := by
    rw [← magnitude_power 63, magnitude_strictMono.lt_iff_lt] at small
    exact side.mpr small
  have near
      : nearest (integerRatio (shortest (magnitudeIndex bits)).integer) = magnitudeIndex bits :=
    (nearest_decimal_integer exponent).trans (nearest_shortest finite)
  have text
      : (shortest (magnitudeIndex bits)).plain
        = Nat.toDigits 10 (shortest (magnitudeIndex bits)).integer := if_pos exponent
  obtain ⟨positive, negative⟩ := readLiteral_whole (shortest (magnitudeIndex bits)).integer
  rw [if_pos below] at positive
  rw [if_pos below.le] at negative
  refine ⟨_, below, near, ?_⟩
  rw [serialize_finite finite, text]
  split_ifs
  · exact negative
  · exact positive

/-- The integer that a whole float was read as is the float again, unless it was negative zero. -/
theorem asF64_wholeFloat {bits : UInt64} {n : Nat} (small : n < 2 ^ 63)
    (near : nearest (integerRatio n) = magnitudeIndex bits) (signed : bits ≠ 0x8000000000000000)
    : asF64 (valueRefToJson (.integer (Int64.ofInt (if isNegative bits then -n else n))))
      = some bits := by
  have zero : nearest (integerRatio 0) = 0 := nearest_integer (by decide) (Nat.zero_mul one).symm
  have positive : isNegative bits = true → 0 < n := by
    intro negative
    refine Nat.pos_of_ne_zero ?_
    rintro rfl
    have bound := bits.toNat_lt
    rw [zero, magnitudeIndex] at near
    rw [isNegative, decide_eq_true_eq] at negative
    exact signed (UInt64.toNat_inj.mp (show bits.toNat = 2 ^ 63 by omega))
  have value
      : (Int64.ofInt (if isNegative bits then -n else n)).toInt
        = if isNegative bits then -(n : Int) else n := by
    refine Int64.toInt_ofInt_of_le ?_ ?_
    · split_ifs <;> omega
    · split_ifs <;> omega
  have sign : decide ((if isNegative bits then -(n : Int) else n) < 0) = isNegative bits := by
    cases negative : isNegative bits with
    | true =>
        have := positive negative
        rw [if_pos rfl, decide_eq_true_eq]
        omega
    | false =>
        rw [if_neg (by decide), decide_eq_false_iff_not]
        omega
  have size : (if isNegative bits then -(n : Int) else n).natAbs = n := by
    split_ifs <;> omega
  rw [asF64_integer, value, sign, size, near, floatBits_eq]

theorem asF64_zero : asF64 (valueRefToJson (.integer 0)) = some (floatBits false 0) := by
  have near : nearest (integerRatio 0) = 0 := nearest_integer (by decide) (Nat.zero_mul one).symm
  have zero : (0 : Int64).toInt = 0 := rfl
  rw [asF64_integer, zero, Int.natAbs_zero, near]
  rfl

-----------------------------------------------------------------------------------------
-- Parameters
-----------------------------------------------------------------------------------------

namespace RustClient

/-- A finite REAL comes back from its text if the reader keeps it. -/
theorem readBack_real {f : Number → Number} (kinds : KeepsKinds f) {bits : UInt64}
    (finite : magnitudeIndex bits < infinite)
    : asF64 ((valueRefToJson (.real bits)).mapNumbers f) = some bits ↔ KeepsFloat f bits := by
  have number := (finite_iff bits).mpr finite
  have encoded : fromFloat bits = some (.float ⟨bits, number⟩) := dif_pos number
  obtain ⟨y, read⟩ := kinds.floats ⟨bits, number⟩
  have keeps : KeepsFloat f bits ↔ f (.float ⟨bits, number⟩) = .float ⟨bits, number⟩ := by
    rw [KeepsFloat, encoded]
    simp
  rw [keeps, valueRefToJson, encoded]
  dsimp only
  rw [Value.mapNumbers, read, asF64, Option.some.injEq, Number.float.injEq]
  constructor
  · rintro rfl
    rfl
  · rintro rfl
    rfl

/-- A float comes back from what SQLite reads in its literal if it is finite and not negative zero,
and the reader keeps it: an INTEGER that was made of it is the same number.
-/
theorem echoed_real {f : Number → Number} (kinds : KeepsKinds f) {bits : UInt64} {cell : ValueRef}
    (stored : readLiteral (serializeSqlValue (.real bits)) = some cell)
    : asF64 ((valueRefToJson cell).mapNumbers f) = some bits ↔ ComesBack f (.real bits) := by
  by_cases finite : magnitudeIndex bits < infinite
  · by_cases exactly : SerializesExactly (.real bits)
    · have signed : bits ≠ 0x8000000000000000 := by
        rintro rfl
        exact absurd ((readLiteral_finite finite).mpr exactly) (by decide)
      rw [(readLiteral_finite finite).mpr exactly, Option.some.injEq] at stored
      rw [← stored, readBack_real kinds finite]
      exact ⟨fun keeps => ⟨finite, signed, fun _ => keeps⟩, fun back => back.2.2 exactly⟩
    · obtain ⟨n, small, near, read⟩ := readLiteral_wholeFloat finite exactly
      by_cases signed : bits = 0x8000000000000000
      · have lost
            : readLiteral (serializeSqlValue (.real 0x8000000000000000)) = some (.integer 0) := by
          decide
        rw [signed, lost, Option.some.injEq] at stored
        rw [signed, ← stored, kinds.cell (by simp)]
        refine iff_of_false (by rw [asF64_zero]; decide) ?_
        rintro ⟨-, other, -⟩
        exact other rfl
      · rw [read, Option.some.injEq] at stored
        rw [← stored, kinds.cell (by simp), asF64_wholeFloat small near signed]
        exact iff_of_true rfl ⟨finite, signed, fun kept => absurd kept exactly⟩
  · rw [readLiteral_special (by omega), Option.some.injEq] at stored
    refine iff_of_false ?_ (fun back => finite back.1)
    rw [← stored, Param.denoted]
    split_ifs
    · rintro ⟨⟩
    · have null : valueRefToJson (.real bits) = .null := by
        rw [valueRefToJson, fromFloat, dif_neg (fun field => finite ((finite_iff bits).mp field))]
      rw [null]
      rintro ⟨⟩

/-- In a row that is read, a parameter comes back from the cell that SQLite reads in its literal: by
cases on the parameter, with the typed reading of each kind of cell.
-/
theorem echoed_iff {f : Number → Number} (kinds : KeepsKinds f) {object : List (String × Value)}
    {name : String} {cell : ValueRef} {param : Param}
    (found : field? name object = some ((valueRefToJson cell).mapNumbers f))
    (stored : readLiteral (serializeSqlValue param) = some cell)
    : Echoed object name param ↔ ComesBack f param := by
  cases param with
  | null =>
      have read : readLiteral (serializeSqlValue .null) = some .null := by decide
      rw [read, Option.some.injEq] at stored
      rw [← stored] at found
      refine iff_of_true ?_ trivial
      rw [Echoed, isNull, found]
      rfl
  | bool b =>
      have read
          : readLiteral (serializeSqlValue (.bool b)) = some (.integer (if b then 1 else 0)) := by
        cases b <;> decide
      rw [read, Option.some.injEq] at stored
      rw [← stored, kinds.cell (by simp)] at found
      refine iff_of_true ?_ trivial
      rw [Echoed, getI64, found, Option.bind_some, asI64_integer]
  | int n =>
      rw [readLiteral_int, Option.some.injEq] at stored
      rw [← stored, kinds.cell (by simp)] at found
      refine iff_of_true ?_ trivial
      rw [Echoed, getI64, found, Option.bind_some, asI64_integer]
  | real bits => rw [Echoed, getF64, found, Option.bind_some, echoed_real kinds stored]
  | text s =>
      by_cases nul : '\x00' ∈ s.toList
      · rw [serializeSqlValue, readLiteral_nul nul] at stored
        cases stored
      · rw [serializeSqlValue, readLiteral_text nul, Option.some.injEq] at stored
        rw [← stored, kinds.cell (by simp)] at found
        refine iff_of_true ?_ nul
        rw [Echoed, getStr, found, valueRefToJson, fromUtf8Lossy_utf8Bytes]
        rfl
  | blob bytes =>
      rw [readLiteral_blob, Option.some.injEq] at stored
      rw [← stored, kinds.cell (by simp)] at found
      refine iff_of_true ?_ trivial
      have literal : getStr object name = some (blobText bytes) := by
        rw [getStr, found]
        rfl
      rw [Echoed, blob, literal]
      exact decodeBlobLiteral_blobText bytes

end RustClient

-----------------------------------------------------------------------------------------
-- The text of a response
-----------------------------------------------------------------------------------------

/-- The rows of a result set are filled with its cells. -/
theorem ResultSet.filled (result : ResultSet)
    : FilledRows result.columns
        (result.rows.map (fun row => .object (rowObject result.columns row))) := by
  intro row member
  obtain ⟨cells, inRows, rfl⟩ := List.mem_map.mp member
  have enough : 0 + result.columns.length ≤ cells.length := by
    rw [Nat.zero_add, result.rectangular cells inRows]
  exact ⟨cells, _, fillRow_eq cells 0 result.columns [] enough, rfl⟩

/-- The response to a result set is in order, and flat. -/
theorem ResultSet.payload_shape (result : ResultSet)
    : result.payload.Within FieldsInOrder ∧ result.payload.depth < recursionLimit := by
  obtain ⟨names, depth⟩ := strings_flat result.columns
  have flat := result.filled.flat
  have rows
      : (Value.array
            (result.rows.map (fun row => .object (rowObject result.columns row)))).Within
          FieldsInOrder :=
    Value.within_array.mpr ⟨trivial, fun row member => (flat row member).1⟩
  have rowsDepth
      : (Value.array
            (result.rows.map (fun row => .object (rowObject result.columns row)))).depth
        ≤ 2 :=
    Nat.succ_le_succ (itemsDepth_le.mpr fun row member => (flat row member).2)
  have three : result.payload.depth ≤ 2 + 1 :=
    Value.depth_ofFields 2 (by simpa using ⟨le_trans depth (by decide), rowsDepth⟩)
  exact ⟨Value.inOrder_ofFields (by simpa using ⟨names, rows⟩),
    lt_of_le_of_lt three (by decide)⟩

/-- The rows that a client reads are those of the result set, with the numbers it reads. -/
theorem ResultSet.rows_mapNumbers (result : ResultSet) (f : Number → Number)
    : RustClient.rows (result.payload.mapNumbers f)
      = result.rows.map (fun row => fieldsMapNumbers f (rowObject result.columns row)) := by
  have data
      : (result.payload.mapNumbers f).get "data"
        = some
            (.array
              (result.rows.map
                (fun row => .object (fieldsMapNumbers f (rowObject result.columns row))))) := by
    rw [Value.get_mapNumbers, result.payload_data, Option.map_some, Value.mapNumbers,
      itemsMapNumbers_eq_map, List.map_map]
    rfl
  rw [RustClient.rows, RustClient.data, data]
  simp [Value.asArray, List.filterMap_map, Function.comp_def, Value.asObject]

/-- What a client binds is what it reads back: the text of a response is read, and in every row of
what was read, under a column that held what SQLite reads in the literal of a parameter, the client
finds the parameter, unless it is an infinity, NaN or negative zero, or a REAL that the reader does
not keep.
-/
theorem parameters_echoed_iff (result : ResultSet) {serde : SerdeJson} (faithful : serde.Faithful)
    {printNumber : Number → NumberLit} {f : Number → Number}
    (numbers : result.payload.Within (NumberReadsAs serde.readNumber printNumber f))
    (kinds : KeepsKinds f) {r i : Nat} {row : List ValueRef} {name : String} {cell : ValueRef}
    {param : RustClient.Param} (here : result.rows[r]? = some row)
    (named : result.columns[i]? = some name)
    (last : ∀ k, i < k → result.columns[k]? ≠ some name) (cellAt : row[i]? = some cell)
    (stored : readLiteral (RustClient.serializeSqlValue param) = some cell)
    : ∃ payload object,
        serde.fromStr (compactStrict printNumber result.payload) = .ok payload
        ∧ (RustClient.rows payload)[r]? = some object
        ∧ (RustClient.Echoed object name param ↔ RustClient.ComesBack f param) := by
  obtain ⟨ordered, shallow⟩ := result.payload_shape
  refine ⟨_, fieldsMapNumbers f (rowObject result.columns row),
    faithful.readsAs ordered numbers shallow, ?_, ?_⟩
  · rw [result.rows_mapNumbers, List.getElem?_map, here]
    rfl
  · have found : field? name (rowObject result.columns row) = some (valueRefToJson cell) :=
      field?_last named last (by rw [List.getElem?_map, cellAt, Option.map_some]) []
    exact RustClient.echoed_iff kinds (by rw [field?_mapNumbers, found, Option.map_some]) stored

/-- A row of a text and the number three. -/
def boundRow : ResultSet where
  columns := ["name", "score"]
  rows := [[.text (utf8Bytes "O'Brien"), .integer 3]]
  rectangular := by decide

theorem parameters_echoed_three
    : ∃ payload object,
        shallowReader.fromStr (compactStrict printUnsigned boundRow.payload) = .ok payload
        ∧ (RustClient.rows payload)[0]? = some object
        ∧ (RustClient.Echoed object "score" (.int 3) ↔ RustClient.ComesBack id (.int 3)) := by
  have last : ∀ k, 1 < k → boundRow.columns[k]? ≠ some "score" := by
    intro k above
    rw [List.getElem?_eq_none (show boundRow.columns.length ≤ k from above)]
    rintro ⟨⟩
  have payload
      : boundRow.payload
        = .object
            [
              ("columns", .array [.string "name", .string "score"]),
              ("data",
                .array [.object [("name", .string "O'Brien"), ("score", .number (.posInt 3))]])
            ] := by
    decide +kernel
  have read : readUnsigned (printUnsigned (.posInt 3)).lexeme = some (.posInt 3) := by
    decide +kernel
  have numbers
      : boundRow.payload.Within (NumberReadsAs shallowReader.readNumber printUnsigned id) := by
    rw [payload]
    exact ⟨trivial, ⟨trivial, trivial, trivial, trivial⟩,
      ⟨trivial, ⟨trivial, trivial, read, trivial⟩, trivial⟩, trivial⟩
  exact parameters_echoed_iff boundRow shallowReader_faithful numbers
    ⟨fun _ => rfl, fun x => ⟨x, rfl⟩⟩ (r := 0) (i := 1) rfl rfl last rfl (readLiteral_int 3)

end SqliteServer
