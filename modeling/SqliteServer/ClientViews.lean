import SqliteServer.ClientErrors
import SqliteServer.ResponseForms
import SqliteServer.ResultRows

/-! Both clients read the same from the text of every response. -/

namespace SqliteServer

open Json

namespace RustClient

/-- The rows of a query result: only objects count. -/
def rows (payload : Value) : List (List (String × Value)) :=
  (data payload).filterMap Value.asObject

def len (payload : Value) : Nat := (data payload).length

def isEmpty (payload : Value) : Bool := (data payload).isEmpty

def first (payload : Value) : Option (List (String × Value)) := (rows payload).head?

end RustClient

namespace PythonClient

def len (payload : Value) : Nat := (rows payload).length

/-- A result is truthy only when there are rows. -/
def bool (payload : Value) : Bool := decide (0 < len payload)

def first (payload : Value) : Option (List (String × Value)) := (rows payload).head?

/-- Every value of a column across all rows; rows without it are left out. -/
def column (payload : Value) (name : String) : List Value := (rows payload).filterMap (field? name)

end PythonClient

/-- Both clients read the same from a payload; the scalar is the default where there is none. -/
structure ReadAlike (toString : Value → String) (payload : Value) : Prop where
  columns : PythonClient.columns payload = (RustClient.columns payload).map .string
  rows : PythonClient.rows payload = RustClient.rows payload
  len : PythonClient.len payload = RustClient.len payload
  empty : PythonClient.bool payload = !RustClient.isEmpty payload
  first : PythonClient.first payload = RustClient.first payload
  column
    : ∀ name,
        PythonClient.column payload name = (RustClient.rows payload).filterMap (field? name)
  scalar
    : ∀ default',
        PythonClient.scalar payload default' = some ((RustClient.scalar payload).getD default')
  errors : PythonClient.reportsError payload = (RustClient.serverError toString payload).isSome

section Payloads

variable (toString : Value → String)

/-- What the accessors give follows from the columns, the rows and their number. -/
theorem ReadAlike.of_rows {payload : Value}
    (columns : PythonClient.columns payload = (RustClient.columns payload).map .string)
    (rows : PythonClient.rows payload = RustClient.rows payload)
    (len : PythonClient.len payload = RustClient.len payload)
    (scalar
      : ∀ default',
          PythonClient.scalar payload default'
          = some ((RustClient.scalar payload).getD default'))
    (errors
      : PythonClient.reportsError payload = (RustClient.serverError toString payload).isSome)
    : ReadAlike toString payload where
  columns := columns
  rows := rows
  len := len
  empty := by
    rw [PythonClient.bool, len, RustClient.isEmpty, RustClient.len]
    cases RustClient.data payload <;> rfl
  first := by rw [PythonClient.first, rows, RustClient.first]
  column name := by rw [PythonClient.column, rows]
  scalar := scalar
  errors := errors

/-- Without the fields of a result set, there are no columns and no rows. -/
theorem RustClient.empty_other (fields : List (String × Value))
    (columns : ∀ entry ∈ fields, entry.1 ≠ "columns") (data : ∀ entry ∈ fields, entry.1 ≠ "data")
    : RustClient.columns (.ofFields fields) = [] ∧ RustClient.data (.ofFields fields) = [] := by
  constructor
  · rw [RustClient.columns, Value.get_ofFields_other columns]
    rfl
  · rw [RustClient.data, Value.get_ofFields_other data]
    rfl

/-- Without the fields of a result set, both clients see an empty one. -/
theorem readAlike_other {payload : Value} (same : PythonClient.normalise payload = payload)
    (columns : payload.get "columns" = none) (data : payload.get "data" = none)
    (errors
      : PythonClient.reportsError payload = (RustClient.serverError toString payload).isSome)
    : ReadAlike toString payload := by
  have noColumns : RustClient.columns payload = [] := by
    rw [RustClient.columns, columns]
    rfl
  have noData : RustClient.data payload = [] := by
    rw [RustClient.data, data]
    rfl
  have empty : PythonClient.rows payload = [] := by
    rw [PythonClient.rows, same, data]
  refine .of_rows toString ?_ ?_ ?_ (fun default' => ?_) errors
  · rw [PythonClient.columns, same, columns, noColumns]
    rfl
  · rw [empty, RustClient.rows, noData]
    rfl
  · rw [PythonClient.len, empty, RustClient.len, noData]
    rfl
  · rw [PythonClient.scalar, empty, RustClient.scalar, noData]
    rfl

/-- A response with a generic error is an error for both clients. -/
theorem error_generic {fields : List (String × Value)} {code : Value}
    (generic : (Value.ofFields fields).get "generic_error" = some code)
    (noMessage : ∀ entry ∈ fields, entry.1 ≠ "error_message")
    : PythonClient.reportsError (.ofFields fields)
      = (RustClient.serverError toString (.ofFields fields)).isSome := by
  have message : (Value.ofFields fields).get "error_message" = none :=
    Value.get_ofFields_other noMessage
  unfold Value.get Value.ofFields at generic message
  dsimp only at generic message
  unfold RustClient.serverError PythonClient.reportsError Value.ofFields
  simp [Value.asObject, message, generic]

/-- A filled row has the column names as its keys, by induction on them. -/
theorem fillRow_keys {cells : List ValueRef} {i : Nat} {names : List String}
    {object filled : List (String × Value)} (ok : fillRow cells i names object = .ok filled)
    {key : String}
    : key ∈ filled.map Prod.fst ↔ key ∈ names ∨ key ∈ object.map Prod.fst := by
  induction names generalizing i object with
  | nil =>
      cases ok
      simp
  | cons name rest ih =>
      rw [fillRow] at ok
      cases cell : getRef cells i with
      | error err => simp [cell] at ok
      | ok valueRef =>
          simp only [cell] at ok
          rw [ih ok, mem_keys_insertField, List.mem_cons]
          tauto

/-- The payload of a result set gives its columns and rows back. -/
theorem RustClient.result_payload (columns : List String) (rowsData : List Value)
    : RustClient.columns
          (.ofFields [("columns", .array (columns.map .string)), ("data", .array rowsData)])
        = columns
      ∧ RustClient.data
          (.ofFields [("columns", .array (columns.map .string)), ("data", .array rowsData)])
        = rowsData := by
  constructor
  · rw [RustClient.columns, Value.get_ofFields (by simp) List.mem_cons_self]
    simp [Value.asArray, List.filterMap_map, Function.comp_def, Value.asStr]
  · rw [RustClient.data,
      Value.get_ofFields (by simp) (List.mem_cons_of_mem _ List.mem_cons_self)]
    rfl

/-- Both clients read a result set alike whose rows are objects with a key for every column. -/
theorem readAlike_queried {payload : Value} (same : PythonClient.normalise payload = payload)
    {columns : List String} {rowsData : List Value}
    (columnsField : payload.get "columns" = some (.array (columns.map .string)))
    (dataField : payload.get "data" = some (.array rowsData))
    (objects
      : ∀ row ∈ rowsData,
          ∃ object, row = .object object ∧ ∀ name ∈ columns, name ∈ object.map Prod.fst)
    (errors
      : PythonClient.reportsError payload = (RustClient.serverError toString payload).isSome)
    : ReadAlike toString payload := by
  have names : RustClient.columns payload = columns := by
    rw [RustClient.columns, columnsField]
    simp [Value.asArray, List.filterMap_map, Function.comp_def, Value.asStr]
  have data : RustClient.data payload = rowsData := by
    rw [RustClient.data, dataField]
    rfl
  have pythonColumns : PythonClient.columns payload = columns.map .string := by
    rw [PythonClient.columns, same, columnsField]
  have rows : PythonClient.rows payload = rowsData.filterMap Value.asObject := by
    rw [PythonClient.rows, same, dataField]
  refine .of_rows toString ?_ ?_ ?_ (fun default' => ?_) errors
  · rw [pythonColumns, names]
  · rw [rows, RustClient.rows, data]
  · rw [PythonClient.len, rows, RustClient.len, data, List.length_filterMap_eq_countP,
      List.countP_eq_length]
    intro row member
    obtain ⟨object, rfl, -⟩ := objects row member
    rfl
  · rw [PythonClient.scalar, rows, RustClient.scalar, data, names, pythonColumns]
    cases rowsData with
    | nil => rfl
    | cons row others =>
        obtain ⟨object, rfl, keys⟩ := objects row List.mem_cons_self
        cases columns with
        | nil => cases object <;> rfl
        | cons name rest =>
            have present : name ∈ object.map Prod.fst := keys name List.mem_cons_self
            cases object with
            | nil => cases present
            | cons entry fields =>
                change some ((field? name (entry :: fields)).getD default')
                  = some ((field? name (entry :: fields)).getD default')
                rfl

end Payloads

-----------------------------------------------------------------------------------------
-- Responses as they are read
-----------------------------------------------------------------------------------------

section Numbers

variable (f : Number → Number)

theorem asStr_mapNumbers (value : Value) : (value.mapNumbers f).asStr = value.asStr := by
  cases value <;> rfl

theorem normalise_mapNumbers (fields : List (String × Value))
    : PythonClient.normalise ((Value.ofFields fields).mapNumbers f)
      = (Value.ofFields fields).mapNumbers f := by
  rw [Value.ofFields, Value.mapNumbers, PythonClient.normalise]

/-- Other numbers make no error, and hide none. -/
theorem errors_mapNumbers (toString : Value → String) (payload : Value)
    : PythonClient.reportsError (payload.mapNumbers f) = PythonClient.reportsError payload
      ∧ (RustClient.serverError toString (payload.mapNumbers f)).isSome
        = (RustClient.serverError toString payload).isSome := by
  cases payload with
  | null | bool | number | string | array => exact ⟨rfl, rfl⟩
  | object fields =>
      have text (value? : Option Value)
          : (value?.map (Value.mapNumbers f)).bind Value.asStr = value?.bind Value.asStr := by
        cases value? with
        | none => rfl
        | some value => exact asStr_mapNumbers f value
      rw [Value.mapNumbers]
      constructor
      · simp only [PythonClient.reportsError, field?_mapNumbers, Option.isSome_map]
      · simp only [RustClient.serverError, Value.asObject, field?_mapNumbers, Option.isSome_map,
          text]
        cases (field? "error_message" fields).bind Value.asStr with
        | some message => rfl
        | none =>
            dsimp only
            split_ifs <;> rfl

end Numbers

/-- Both clients read a response alike, with whatever numbers: by cases on its form. -/
theorem ResponseForm.readAlike {serde : SerdeJson} {req : String} {response : Value}
    (form : ResponseForm serde req response) (f : Number → Number) (toString : Value → String)
    : ReadAlike toString (response.mapNumbers f) := by
  have errors
      (before
        : PythonClient.reportsError response
          = (RustClient.serverError toString response).isSome)
      : PythonClient.reportsError (response.mapNumbers f)
        = (RustClient.serverError toString (response.mapNumbers f)).isSome := by
    obtain ⟨python, rust⟩ := errors_mapNumbers f toString response
    rw [python, rust, before]
  have other {fields : List (String × Value)} (same : response = .ofFields fields)
      (columns : ∀ entry ∈ fields, entry.1 ≠ "columns") (data : ∀ entry ∈ fields, entry.1 ≠ "data")
      (before
        : PythonClient.reportsError response
          = (RustClient.serverError toString response).isSome)
      : ReadAlike toString (response.mapNumbers f) := by
    refine readAlike_other toString ?_ ?_ ?_ (errors before)
    · rw [same, normalise_mapNumbers]
    · rw [same, Value.get_mapNumbers, Value.get_ofFields_other columns]
      rfl
    · rw [same, Value.get_mapNumbers, Value.get_ofFields_other data]
      rfl
  cases form with
  | @unreadable message refused =>
      have generic
          : (Value.ofFields
              [
                ("generic_error", jsonInt invalidFormat),
                ("message", .string message),
                ("request", .string req)
              ]).get "generic_error"
            = some (jsonInt invalidFormat) :=
        Value.get_ofFields (by simp) (by simp)
      exact other rfl (by simp) (by simp) (error_generic toString generic (by simp))
  | result result =>
      have noError := noError_of_keys toString [("result", .string result)] (by simp)
      exact other rfl (by simp) (by simp)
        (by rw [resultResponse, noError.1, noError.2]; rfl)
  | noCommand code =>
      have error := error_genericError toString code (.string req)
      exact other rfl (by simp) (by simp) (error.2.trans error.1.symm)
  | @invalid code json parsed =>
      have error := error_genericError toString code json
      exact other rfl (by simp) (by simp) (error.2.trans error.1.symm)
  | @failed err json parsed =>
      have error := error_queryResponse toString json err
      exact other rfl (by simp) (by simp) (error.2.trans error.1.symm)
  | listed names =>
      have noError := noError_of_keys toString [("list", .array (names.map .string))] (by simp)
      exact other rfl (by simp) (by simp) (by rw [noError.1, noError.2]; rfl)
  | @queried columns rowsData filled =>
      have noError := noError_of_keys toString
        [("columns", .array (columns.map .string)), ("data", .array rowsData)] (by simp)
      have columnsField
          : ((Value.ofFields [
                ("columns", .array (columns.map .string)),
                ("data", .array rowsData)
              ]).mapNumbers f).get "columns"
            = some (.array (columns.map .string)) := by
        have strings : (columns.map Value.string).map (Value.mapNumbers f)
            = columns.map Value.string := by
          rw [List.map_map]
          rfl
        rw [Value.get_mapNumbers, Value.get_ofFields (by simp) List.mem_cons_self,
          Option.map_some, Value.mapNumbers, itemsMapNumbers_eq_map, strings]
      have dataField
          : ((Value.ofFields [
                ("columns", .array (columns.map .string)),
                ("data", .array rowsData)
              ]).mapNumbers f).get "data"
            = some (.array (rowsData.map (Value.mapNumbers f))) := by
        rw [Value.get_mapNumbers,
          Value.get_ofFields (by simp) (List.mem_cons_of_mem _ List.mem_cons_self),
          Option.map_some, Value.mapNumbers, itemsMapNumbers_eq_map]
      refine readAlike_queried toString (normalise_mapNumbers f _) columnsField dataField ?_
        (errors (by rw [noError.1, noError.2]; rfl))
      intro row member
      obtain ⟨before, inRows, rfl⟩ := List.mem_map.mp member
      obtain ⟨cells, object, ok, rfl⟩ := filled before inRows
      refine ⟨fieldsMapNumbers f object, by rw [Value.mapNumbers], ?_⟩
      intro name named
      rw [fieldsMapNumbers_eq_map, List.map_map]
      exact (fillRow_keys ok).mpr (Or.inl named)

/-- Python's `json.loads`: it reads JSON texts that are nested one level deeper than serde_json
reads them, and more.
-/
structure PythonClient.JsonLoads (loads : SerdeJson) : Prop where
  complete
    : ∀ (tree : Syntax) value,
        tree.strict = true
        → tree.depth ≤ recursionLimit
        → tree.denote loads.readNumber = some value
        → loads.fromStr (requestText noSpace noSpace tree) = .ok value

/-- From the text of a response both clients read the same, if their readers take its numbers alike.
The Python client reads every response, and the Rust client all but those that echo a request nested
as deep as its reader goes.
-/
theorem responses_readAlike {World Conn Stmt : Type} (backend : Backend World Conn Stmt)
    (config : Config) {serde loads : SerdeJson} (faithful : serde.Faithful)
    (python : PythonClient.JsonLoads loads) {printNumber : Number → NumberLit}
    {f : Number → Number} (toString : Value → String) (req : String)
    (handler : RequestHandler Conn) (world : World)
    (rustNumbers
      : (handleRequest backend config serde req handler world).1.Within
          (NumberReadsAs serde.readNumber printNumber f))
    (pythonNumbers
      : (handleRequest backend config serde req handler world).1.Within
          (NumberReadsAs loads.readNumber printNumber f))
    : let response := (handleRequest backend config serde req handler world).1
      let text := compactStrict printNumber response
      ∃ payload,
        loads.fromStr text = .ok payload
        ∧ ReadAlike toString payload
        ∧ (serde.fromStr text = .ok payload
          ↔ ¬ ∃ json, Echoes serde req response json ∧ json.depth + 1 = recursionLimit) := by
  intro response text
  have form : ResponseForm serde req response :=
    handleRequest_form backend config serde req handler world
  obtain ⟨ordered, -⟩ := form.shape faithful.sound
  have depth : (treeOf printNumber (fun _ => false) [] response).depth = response.depth :=
    depth_treeOf _ [] response
  refine ⟨response.mapNumbers f, ?_, form.readAlike f toString, ?_⟩
  · exact python.complete _ _ (strict_treeOf printNumber [] response)
      (depth ▸ form.depth_le faithful) (denote_treeOf_as _ [] ordered pythonNumbers)
  · rw [← form.shallow_iff faithful]
    constructor
    · intro read
      rw [← response.depth_mapNumbers f]
      exact faithful.shallow _ _ read
    · exact faithful.readsAs ordered rustNumbers

theorem unsignedReader_loads : PythonClient.JsonLoads unsignedReader where
  complete tree value strict _ denoted := by
    have parsed := parse_write readUnsigned noSpace noSpace tree strict
    have whole : (requestText noSpace noSpace tree).toList = tree.write [] := String.toList_ofList
    unfold unsignedReader
    dsimp only
    rw [whole, show tree.write [] = noSpace.val ++ tree.write noSpace.val from rfl, parsed,
      show tree.denote readUnsigned = some value from denoted]

/-- Both clients read the answer to an unknown command alike. -/
theorem responses_readAlike_unknown
    : ∃ payload,
        unsignedReader.fromStr
              (compactStrict printUnsigned
                (handleRequest emptyBackend (.standard "/srv/a" "") shallowReader
                  "\x7b\"cmd\":\"STATUS\"\x7d" .new ()).1)
            = .ok payload
        ∧ ReadAlike (fun _ => "") payload
        ∧ (shallowReader.fromStr
                (compactStrict printUnsigned
                  (handleRequest emptyBackend (.standard "/srv/a" "") shallowReader
                    "\x7b\"cmd\":\"STATUS\"\x7d" .new ()).1)
              = .ok payload
          ↔ ¬ ∃ json,
              Echoes shallowReader "\x7b\"cmd\":\"STATUS\"\x7d"
                (handleRequest emptyBackend (.standard "/srv/a" "") shallowReader
                  "\x7b\"cmd\":\"STATUS\"\x7d" .new ()).1
                json
              ∧ json.depth + 1 = recursionLimit) := by
  have response
      : (handleRequest emptyBackend (.standard "/srv/a" "") shallowReader
          "\x7b\"cmd\":\"STATUS\"\x7d" .new ()).1
        = .object
            [
              ("generic_error", .number (.posInt 2)),
              ("request", .string "\x7b\"cmd\":\"STATUS\"\x7d")
            ] := by
    decide +kernel
  have read : readUnsigned (printUnsigned (.posInt 2)).lexeme = some (.posInt 2) := by
    decide +kernel
  refine responses_readAlike emptyBackend (.standard "/srv/a" "") shallowReader_faithful
    unsignedReader_loads (f := id) (fun _ => "") "\x7b\"cmd\":\"STATUS\"\x7d" .new () ?_ ?_
  · rw [response]
    exact ⟨trivial, read, trivial, trivial⟩
  · rw [response]
    exact ⟨trivial, read, trivial, trivial⟩

end SqliteServer
