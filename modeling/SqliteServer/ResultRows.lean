import SqliteServer.Handler
import Mathlib.Data.Nat.Find

/-! Which cells of a result set can be found in a response, and what the clients make of it. -/

namespace SqliteServer

open Json

/-- A result set: every row has one cell for each column. -/
structure ResultSet where
  columns : List String
  rows : List (List ValueRef)
  rectangular : ∀ row ∈ rows, row.length = columns.length

/-- All rows of a statement and the world after the last, if no step fails. -/
def Rows.complete {World : Type} : Rows World → Option (List (List ValueRef) × World)
  | .done world => some ([], world)
  | .failed _ _ => none
  | .row cells _ rest => rest.complete.map (fun found => (cells :: found.1, found.2))

theorem Rows.complete_row {World : Type} (cells : List ValueRef) (abandoned : World)
    (rest : Rows World)
    : (Rows.row cells abandoned rest).complete
      = rest.complete.map (fun found => (cells :: found.1, found.2)) :=
  rfl

/-- The object of a row: each name with the last of its cells. -/
def rowObject (columns : List String) (cells : List ValueRef) : List (String × Value) :=
  insertFields (columns.zip (cells.map valueRefToJson)) []

/-- Filling a row inserts the cells under the names in order, by induction on the names. -/
theorem fillRow_eq (cells : List ValueRef) (i : Nat) (names : List String)
    (object : List (String × Value)) (enough : i + names.length ≤ cells.length)
    : fillRow cells i names object
      = .ok (insertFields (names.zip ((cells.drop i).map valueRefToJson)) object) := by
  induction names generalizing i object with
  | nil => rfl
  | cons name rest ih =>
      rw [List.length_cons] at enough
      have inside : i < cells.length := by omega
      have cell : cells[i]? = some cells[i] := List.getElem?_eq_getElem inside
      rw [fillRow, getRef, cell, List.drop_eq_getElem_cons inside]
      dsimp only
      rw [ih (i + 1) _ (by omega)]
      rfl

/-- The objects of a complete result set are those of its rows, by induction on the steps. -/
theorem collectRows_complete {World : Type} {columns : List String} {steps : Rows World}
    {rows : List (List ValueRef)} {final : World} (complete : steps.complete = some (rows, final))
    (wide : ∀ row ∈ rows, columns.length ≤ row.length) (rowsData : List Value)
    : collectRows columns steps rowsData
      = (.ok (rowsData ++ rows.map (fun row => .object (rowObject columns row))), final) := by
  induction steps generalizing rows rowsData with
  | done world =>
      obtain ⟨rfl, rfl⟩ := Prod.mk.inj (Option.some.inj complete)
      rw [collectRows, List.map_nil, List.append_nil]
  | failed err world => simp [Rows.complete] at complete
  | row cells abandoned rest ih =>
      simp only [Rows.complete, Option.map_eq_some_iff, Prod.mk.injEq] at complete
      obtain ⟨⟨later, last⟩, found, rfl, rfl⟩ := complete
      have filled := fillRow_eq cells 0 columns [] (by simpa using wide cells List.mem_cons_self)
      rw [collectRows, filled]
      dsimp only
      rw [ih found (fun row member => wide row (List.mem_cons_of_mem _ member)),
        List.append_assoc]
      rfl

-----------------------------------------------------------------------------------------
-- Cells by name
-----------------------------------------------------------------------------------------

/-- A row that is built from cells under names has, under a name, the last cell with that name:
by induction on the names, later ones being inserted over earlier ones.
-/
theorem field?_last {α : Type} {names : List String} {values : List α} {j : Nat} {name : String}
    {value : α} (here : names[j]? = some name) (last : ∀ k, j < k → names[k]? ≠ some name)
    (cell : values[j]? = some value) (start : List (String × α))
    : field? name (insertFields (names.zip values) start) = some value := by
  induction names generalizing values j start with
  | nil => simp at here
  | cons first rest ih =>
      cases values with
      | nil => simp at cell
      | cons v others =>
          cases j with
          | zero =>
              rw [List.getElem?_cons_zero, Option.some.injEq] at here cell
              subst here cell
              have absent : ∀ entry ∈ rest.zip others, entry.1 ≠ first := by
                intro entry member same
                obtain ⟨k, found⟩ := List.getElem?_of_mem (List.of_mem_zip member).1
                exact last (k + 1) (Nat.succ_pos k) (by rw [List.getElem?_cons_succ, found, same])
              exact (field?_insertFields_other absent _).trans (field?_insertField_self _ _ _)
          | succ j =>
              rw [List.getElem?_cons_succ] at here cell
              refine ih here ?_ cell _
              intro k above
              have := last (k + 1) (Nat.succ_lt_succ above)
              rwa [List.getElem?_cons_succ] at this

/-- Of the columns with the name of a given one, there is a last. -/
theorem exists_last_named {columns : List String} {i : Nat} {name : String}
    (here : columns[i]? = some name)
    : ∃ j, i ≤ j ∧ columns[j]? = some name ∧ ∀ k, j < k → columns[k]? ≠ some name := by
  have inside : i ≤ columns.length := Nat.le_of_lt (List.getElem?_eq_some_iff.mp here).1
  refine ⟨Nat.findGreatest (fun k => columns[k]? = some name) columns.length,
    Nat.le_findGreatest inside here,
    Nat.findGreatest_spec (P := fun k => columns[k]? = some name) inside here, ?_⟩
  intro k above
  by_cases within : k ≤ columns.length
  · exact Nat.findGreatest_is_greatest above within
  · rw [List.getElem?_eq_none (by omega)]
    exact nofun

-----------------------------------------------------------------------------------------
-- What the clients read
-----------------------------------------------------------------------------------------

/-- `data[r][name]` of a response. -/
def dataCell (payload : Value) (r : Nat) (name : String) : Option Value :=
  (((payload.get "data").bind Value.asArray).bind (fun data => data[r]?)).bind (Value.get name)

namespace RustClient

/-- The column names of a query result. -/
def columns (payload : Value) : List String :=
  (((payload.get "columns").bind Value.asArray).map (List.filterMap Value.asStr)).getD []

def data (payload : Value) : List Value :=
  ((payload.get "data").bind Value.asArray).getD []

/-- The first column of the first row; without column names, the row's first key. -/
def scalar (payload : Value) : Option Value :=
  match (data payload).head?.bind Value.asObject with
  | none => none
  | some first =>
      match (columns payload).head?.or (first.head?.map Prod.fst) with
      | none => none
      | some key => field? key first

end RustClient

namespace PythonClient

/-- Every payload is made a dictionary. -/
def normalise : Value → Value
  | .array items => .object [("data", .array items)]
  | .object fields => .object fields
  | _ => .object []

/-- The rows of a query result: only dictionaries count. -/
def rows (payload : Value) : List (List (String × Value)) :=
  match (normalise payload).get "data" with
  | some (.array items) => items.filterMap Value.asObject
  | _ => []

def columns (payload : Value) : List Value :=
  match (normalise payload).get "columns" with
  | some (.array items) => items
  | _ => []

/-- The first column of the first row. A row without keys counts as none, and a column name that
is a list or a dictionary raises an error.
-/
def scalar (payload default' : Value) : Option Value :=
  match (rows payload).head? with
  | none | some [] => some default'
  | some (first :: others) =>
      match (columns payload).head?.getD (.string first.1) with
      | .string key => some ((field? key (first :: others)).getD default')
      | .array _ | .object _ => none
      | _ => some default'

end PythonClient

-----------------------------------------------------------------------------------------
-- Responses
-----------------------------------------------------------------------------------------

namespace ResultSet

variable (result : ResultSet)

/-- The response to a query with this result set. -/
def payload : Value :=
  .ofFields
    [
      ("columns", .array (result.columns.map .string)),
      ("data", .array (result.rows.map (fun row => .object (rowObject result.columns row))))
    ]

theorem payload_columns
    : result.payload.get "columns" = some (.array (result.columns.map .string)) :=
  Value.get_ofFields (by simp) (by simp)

theorem payload_data
    : result.payload.get "data"
      = some (.array (result.rows.map (fun row => .object (rowObject result.columns row)))) :=
  Value.get_ofFields (by simp) (by simp)

variable {result}

theorem dataCell_payload {r : Nat} {row : List ValueRef} (here : result.rows[r]? = some row)
    (name : String)
    : dataCell result.payload r name = field? name (rowObject result.columns row) := by
  rw [dataCell, payload_data]
  simp [Value.asArray, here, Value.get]

/-- Under a column name stands the last cell of the row that has it. -/
theorem dataCell_last {r j : Nat} {row : List ValueRef} {name : String} {cell : ValueRef}
    (here : result.rows[r]? = some row) (named : result.columns[j]? = some name)
    (last : ∀ k, j < k → result.columns[k]? ≠ some name) (cellAt : row[j]? = some cell)
    : dataCell result.payload r name = some (valueRefToJson cell) := by
  rw [dataCell_payload here]
  exact field?_last named last (by rw [List.getElem?_map, cellAt, Option.map_some]) []

/-- Both clients look the first column's name up in the first row. -/
theorem scalar_payload {name : String} (first : result.columns.head? = some name)
    (nonempty : result.rows ≠ []) (default' : Value)
    : RustClient.scalar result.payload = dataCell result.payload 0 name
      ∧ PythonClient.scalar result.payload default' = dataCell result.payload 0 name := by
  obtain ⟨row, rest, rows⟩ := List.exists_cons_of_ne_nil nonempty
  obtain ⟨names, columns⟩ := List.head?_eq_some_iff.mp first
  have here : result.rows[0]? = some row := by rw [rows, List.getElem?_cons_zero]
  obtain ⟨j, -, named, last⟩ :=
    exists_last_named (show result.columns[0]? = some name by rw [columns]; rfl)
  have inside : j < row.length := by
    rw [result.rectangular row (by rw [rows]; exact List.mem_cons_self)]
    exact (List.getElem?_eq_some_iff.mp named).1
  have found := dataCell_last here named last (List.getElem?_eq_getElem inside)
  have object := (dataCell_payload here name).symm.trans found
  rw [found]
  constructor
  · rw [RustClient.scalar, RustClient.data, RustClient.columns, payload_data, payload_columns]
    simp [Value.asArray, Value.asObject, rows, columns, Value.asStr]
    simpa [columns] using object
  · cases fields : rowObject result.columns row with
    | nil => simp [fields, field?] at object
    | cons entry others =>
        have same : PythonClient.normalise result.payload = result.payload := rfl
        rw [PythonClient.scalar, PythonClient.rows, PythonClient.columns, same, payload_data,
          payload_columns]
        rw [columns] at fields
        simp [Value.asObject, rows, columns, fields]
        rw [← fields, ← columns, object]
        rfl

end ResultSet

section Query

variable {World Conn Stmt : Type} (backend : Backend World Conn Stmt) (config : Config)

/-- The response to a statement that steps through a result set to its end. -/
theorem stepQuery_complete {world final : World} {conn : Conn} {stmt : Stmt} (result : ResultSet)
    (complete : (backend.query world conn stmt).complete = some (result.rows, final))
    : stepQuery backend conn stmt result.columns world = (.ok result.payload, final) := by
  have wide : ∀ row ∈ result.rows, result.columns.length ≤ row.length := fun row member =>
    (result.rectangular row member).ge
  rw [stepQuery, collectRows_complete complete wide]
  rfl

/-- The response to a query that was prepared and steps through a result set to its end. -/
theorem runQuery_complete {db query : String} {handler handler' : RequestHandler Conn}
    {world world' final : World} {conn : Conn} {stmt : Stmt} (result : ResultSet)
    (prepared
      : prepareQuery backend config db query handler world
        = (.ok (conn, stmt, result.columns), handler', world'))
    (complete : (backend.query world' conn stmt).complete = some (result.rows, final))
    : runQuery backend config db query handler world = (.ok result.payload, handler', final) := by
  rw [runQuery, prepared]
  dsimp only
  rw [stepQuery_complete backend result complete]

/-- A response to a query has the column names in order and one object for each row in order. A
row's object has, under the name of a column, the last cell with that name; so no cell is lost if
the names are distinct. The scalar of both clients is the first row's cell under the first
column's name.
-/
theorem query_result_cells {db query : String} {handler handler' : RequestHandler Conn}
    {world world' final : World} {conn : Conn} {stmt : Stmt} (result : ResultSet)
    (prepared
      : prepareQuery backend config db query handler world
        = (.ok (conn, stmt, result.columns), handler', world'))
    (complete : (backend.query world' conn stmt).complete = some (result.rows, final))
    : ∃ payload,
        runQuery backend config db query handler world = (.ok payload, handler', final)
        ∧ payload.get "columns" = some (.array (result.columns.map .string))
        ∧ (∃ data, payload.get "data" = some (.array data) ∧ data.length = result.rows.length)
        ∧ (∀ (r i : Nat) row name,
            result.rows[r]? = some row
            → result.columns[i]? = some name
            → ∃ j cell,
                i ≤ j
                ∧ result.columns[j]? = some name
                ∧ (∀ k, j < k → result.columns[k]? ≠ some name)
                ∧ row[j]? = some cell
                ∧ dataCell payload r name = some (valueRefToJson cell))
        ∧ (result.columns.Nodup
          → ∀ (r i : Nat) row name cell,
              result.rows[r]? = some row
              → result.columns[i]? = some name
              → row[i]? = some cell
              → dataCell payload r name = some (valueRefToJson cell))
        ∧ (∀ name default',
            result.columns.head? = some name
            → result.rows ≠ []
            → RustClient.scalar payload = dataCell payload 0 name
              ∧ PythonClient.scalar payload default' = dataCell payload 0 name) := by
  refine ⟨result.payload, runQuery_complete backend config result prepared complete,
    result.payload_columns, ⟨_, result.payload_data, List.length_map ..⟩, ?_, ?_, ?_⟩
  · intro r i row name here named
    obtain ⟨j, after, last, isLast⟩ := exists_last_named named
    have width : row.length = result.columns.length :=
      result.rectangular row (List.mem_of_getElem? here)
    have inside : j < row.length := width ▸ (List.getElem?_eq_some_iff.mp last).1
    have cellAt : row[j]? = some row[j] := List.getElem?_eq_getElem inside
    exact ⟨j, row[j], after, last, isLast, cellAt,
      ResultSet.dataCell_last here last isLast cellAt⟩
  · intro distinct r i row name cell here named cellAt
    refine ResultSet.dataCell_last here named ?_ cellAt
    intro k after same
    have inside : i < result.columns.length := (List.getElem?_eq_some_iff.mp named).1
    exact Nat.ne_of_lt after ((List.getElem?_inj inside distinct).mp (named.trans same.symm))
  · intro name default' first nonempty
    exact ResultSet.scalar_payload first nonempty default'

end Query

/-- The steps through some rows. -/
def rowSteps : List (List ValueRef) → Rows Unit
  | [] => .done ()
  | cells :: rest => .row cells () (rowSteps rest)

/-- A world in which every statement has the given column names and rows. -/
def answering (columns : List String) (rows : List (List ValueRef)) : Backend Unit Unit Unit where
  pathExists := fun _ _ => false
  canonicalize := fun _ _ => none
  readDir := fun _ _ => none
  removeFile := fun _ _ => none
  openConnection := fun _ _ => (.ok (), ())
  executeBatch := fun _ _ _ => (.ok (), ())
  prepare := fun _ _ _ => (.ok (), ())
  columnNames := fun _ => columns
  query := fun _ _ _ => rowSteps rows
  close := fun _ _ => ()

/-- One row of two columns with the same name. -/
def twiceNamed : ResultSet where
  columns := ["a", "a"]
  rows := [[.integer 1, .integer 2]]
  rectangular := by decide

theorem twiceNamed_prepared
    : prepareQuery (answering twiceNamed.columns twiceNamed.rows) (.standard "/srv/sqlite" "") "db"
          "SELECT 1 AS a, 2 AS a" .new ()
      = (.ok ((), (), twiceNamed.columns), ⟨[("db", ())], false⟩, ()) := by
  rfl

theorem query_result_cells_twice
    : ∃ payload,
        runQuery (answering twiceNamed.columns twiceNamed.rows) (.standard "/srv/sqlite" "") "db"
            "SELECT 1 AS a, 2 AS a" .new ()
          = (.ok payload, ⟨[("db", ())], false⟩, ())
        ∧ RustClient.scalar payload = dataCell payload 0 "a" := by
  obtain ⟨payload, run, -, -, -, -, scalars⟩ :=
    query_result_cells _ _ twiceNamed twiceNamed_prepared rfl
  exact ⟨payload, run, (scalars "a" .null rfl (by decide)).1⟩

/-- The first of two cells with one name cannot be read from the response. -/
theorem query_loses_cell
    : ¬ ∀ (backend : Backend Unit Unit Unit) (config : Config) (db query : String)
        (handler handler' : RequestHandler Unit) (result : ResultSet),
        prepareQuery backend config db query handler ()
          = (.ok ((), (), result.columns), handler', ())
        → (backend.query () () ()).complete = some (result.rows, ())
        → ∃ payload,
            (runQuery backend config db query handler ()).1 = .ok payload
            ∧ ∀ (r i : Nat) (row : List ValueRef) name cell,
                result.rows[r]? = some row
                → result.columns[i]? = some name
                → row[i]? = some cell
                → dataCell payload r name = some (valueRefToJson cell) := by
  intro claim
  obtain ⟨payload, run, cells⟩ := claim _ _ _ _ _ _ twiceNamed twiceNamed_prepared rfl
  rw [runQuery_complete _ _ twiceNamed twiceNamed_prepared rfl] at run
  have second : dataCell payload 0 "a" = some (valueRefToJson (.integer 2)) := by
    rw [← Except.ok.inj run]
    decide +kernel
  have first := cells 0 0 [.integer 1, .integer 2] "a" (.integer 1) rfl rfl rfl
  exact absurd (first.symm.trans second) (by decide +kernel)

end SqliteServer
