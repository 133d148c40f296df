import SqliteServer.Authentication
import SqliteServer.Commands
import SqliteServer.Json.RoundTrip
import SqliteServer.RenderedRequests

/-! What a response can be, and when the client's JSON reader can read it. -/

namespace SqliteServer

open Json Files

-----------------------------------------------------------------------------------------
-- Forms
-----------------------------------------------------------------------------------------

/-- The objects of rows that were filled with cells under the column names. -/
def FilledRows (columns : List String) (rowsData : List Value) : Prop :=
  ∀ row ∈ rowsData, ∃ cells object, fillRow cells 0 columns [] = .ok object ∧ row = .object object

/-- What a response can be. -/
inductive ResponseForm (serde : SerdeJson) (req : String) : Value → Prop where
  | unreadable {message : String} (refused : parseRequest serde req = .error message)
      : ResponseForm serde req
          (.ofFields
            [
              ("generic_error", jsonInt invalidFormat),
              ("message", .string message),
              ("request", .string req)
            ])
  | result (result : String) : ResponseForm serde req (resultResponse result)
  | noCommand (code : Int64) : ResponseForm serde req (genericError code (.string req))
  | invalid (code : Int64) {json : Value} (parsed : parseRequest serde req = .ok json)
      : ResponseForm serde req (genericError code json)
  | failed (err : Int64 × String) {json : Value} (parsed : parseRequest serde req = .ok json)
      : ResponseForm serde req (queryResponse json (.error err))
  | listed (names : List String)
      : ResponseForm serde req (.ofFields [("list", .array (names.map .string))])
  | queried {columns : List String} {rowsData : List Value}
      (filled : FilledRows columns rowsData)
      : ResponseForm serde req
          (.ofFields [("columns", .array (columns.map .string)), ("data", .array rowsData)])

/-- Collected rows are filled, by induction on the steps. -/
theorem collectRows_filled {World : Type} {columns : List String} {steps : Rows World}
    {rowsData collected : List Value} {world : World} (before : FilledRows columns rowsData)
    (ok : collectRows columns steps rowsData = (.ok collected, world))
    : FilledRows columns collected := by
  induction steps generalizing rowsData with
  | done final =>
      cases ok
      exact before
  | failed err final => cases ok
  | row cells abandoned rest ih =>
      rw [collectRows] at ok
      cases filled : fillRow cells 0 columns [] with
      | error err => simp [filled] at ok
      | ok object =>
          simp only [filled] at ok
          refine ih (fun row member => ?_) ok
          rcases List.mem_append.mp member with old | new
          · exact before row old
          · exact ⟨cells, object, filled, List.mem_singleton.mp new⟩

section Handler

variable {World Conn Stmt : Type} (backend : Backend World Conn Stmt) (config : Config)
  {serde : SerdeJson} {req : String} {json : Value}

theorem runQuery_form (parsed : parseRequest serde req = .ok json) (db query : String)
    (handler : RequestHandler Conn) (world : World)
    : ResponseForm serde req
        (queryResponse json (runQuery backend config db query handler world).1) := by
  unfold runQuery
  rcases prepareQuery backend config db query handler world
    with ⟨err | ⟨conn, stmt, columns⟩, next, reached⟩
  · exact .failed err parsed
  · dsimp only
    unfold stepQuery
    cases collected : collectRows columns (backend.query reached conn stmt) [] with
    | mk outcome final =>
        cases outcome with
        | error err => exact .failed (mapSqliteErr err) parsed
        | ok rowsData =>
            exact .queried
              (collectRows_filled (fun row none => absurd none List.not_mem_nil) collected)

theorem dispatch_form (parsed : parseRequest serde req = .ok json)
    (handler : RequestHandler Conn) (world : World)
    : ResponseForm serde req (dispatch backend config req json handler world).1 := by
  unfold dispatch
  cases (json.get "cmd").bind Value.asStr with
  | none => exact .noCommand noCommandSpecified
  | some cmd =>
      dsimp only
      split_ifs
      · unfold handleQuery queryArguments
        cases (json.get "db").bind Value.asStr with
        | none => exact .invalid noDatabaseSpecified parsed
        | some db =>
            cases (json.get "query").bind Value.asStr with
            | none => exact .invalid errorReadingFromClient parsed
            | some query =>
                dsimp only
                split_ifs
                · dsimp only
                  exact runQuery_form backend config parsed db query handler world
                · exact .invalid noDatabaseSpecified parsed
      · exact .listed _
      · unfold handleDeleteDb
        cases (json.get "db").bind Value.asStr with
        | none => exact .invalid noDatabaseSpecified parsed
        | some db =>
            dsimp only
            split_ifs
            · cases backend.removeFile world (join config.databasesFolder db) with
              | none => exact .result "error"
              | some removed =>
                  dsimp only
                  cases handler.connection? db with
                  | none => exact .result "ok"
                  | some conn => exact .result "ok"
            · exact .invalid noDatabaseSpecified parsed
      · exact .noCommand unknownCommand

variable (serde req) in
/-- Every response has one of the forms: by cases on the request, the gate and the command. -/
theorem handleRequest_form (handler : RequestHandler Conn) (world : World)
    : ResponseForm serde req (handleRequest backend config serde req handler world).1 := by
  unfold handleRequest
  cases parsed : parseRequest serde req with
  | error message => exact .unreadable parsed
  | ok json =>
      have dispatched := dispatch_form backend config parsed handler world
      by_cases open' : config.auth = ""
      · simpa [open'] using dispatched
      · simp only [ne_eq, open', not_false_eq_true, if_true]
        cases (json.get "auth").bind Value.asStr with
        | none =>
            dsimp only
            split_ifs
            · exact dispatched
            · exact .result "error"
        | some auth =>
            dsimp only
            split_ifs
            · exact .result "ok"
            · exact dispatched
            · exact .result "error"

end Handler

-----------------------------------------------------------------------------------------
-- Order and depth
-----------------------------------------------------------------------------------------

/-- Filling a row keeps its fields in order and its values encodings of cells: by induction on the
names.
-/
theorem fillRow_cells {cells : List ValueRef} {i : Nat} {names : List String}
    {object filled : List (String × Value)} (sorted : FieldsSorted object)
    (encoded : ∀ entry ∈ object, ∃ cell, entry.2 = valueRefToJson cell)
    (ok : fillRow cells i names object = .ok filled)
    : FieldsSorted filled ∧ ∀ entry ∈ filled, ∃ cell, entry.2 = valueRefToJson cell := by
  induction names generalizing i object with
  | nil =>
      cases ok
      exact ⟨sorted, encoded⟩
  | cons name rest ih =>
      rw [fillRow] at ok
      cases cell : getRef cells i with
      | error err => simp [cell] at ok
      | ok valueRef =>
          simp only [cell] at ok
          refine ih (sorted.insertField name _) (fun entry member => ?_) ok
          rcases mem_insertField member with rfl | old
          · exact ⟨valueRef, rfl⟩
          · exact encoded entry old

/-- The encoding of a cell is a scalar. -/
theorem valueRefToJson_scalar (cell : ValueRef)
    : (valueRefToJson cell).Within FieldsInOrder ∧ (valueRefToJson cell).depth = 0 := by
  cases cell with
  | null | integer | text | blob => exact ⟨trivial, rfl⟩
  | real bits =>
      rw [valueRefToJson]
      cases fromFloat bits <;> exact ⟨trivial, rfl⟩

/-- The rows of a response are in order, and flat. -/
theorem FilledRows.flat {columns : List String} {rowsData : List Value}
    (filled : FilledRows columns rowsData)
    : ∀ row ∈ rowsData, row.Within FieldsInOrder ∧ row.depth ≤ 1 := by
  intro row member
  obtain ⟨cells, object, ok, rfl⟩ := filled row member
  have empty : FieldsSorted ([] : List (String × Value)) := List.Pairwise.nil
  obtain ⟨sorted, encoded⟩ := fillRow_cells empty (fun entry none => absurd none (by simp)) ok
  constructor
  · refine Value.within_object.mpr ⟨sorted, fun entry inside => ?_⟩
    obtain ⟨cell, same⟩ := encoded entry inside
    rw [same]
    exact (valueRefToJson_scalar cell).1
  · refine Nat.succ_le_succ (fieldsDepth_le.mpr fun entry inside => ?_)
    obtain ⟨cell, same⟩ := encoded entry inside
    rw [same, (valueRefToJson_scalar cell).2]

theorem SerdeJson.Sound.inOrder {serde : SerdeJson} (sound : serde.Sound) {req : String}
    {json : Value} (parsed : parseRequest serde req = .ok json)
    : json.Within FieldsInOrder := by
  unfold parseRequest at parsed
  split at parsed
  · rename_i read
    cases parsed
    exact parse_inOrder serde.readNumber (sound _ _ read)
  · exact parse_inOrder serde.readNumber (sound _ _ parsed)

/-- What a request becomes in a response to it. -/
def Echoes (serde : SerdeJson) (req : String) (response json : Value) : Prop :=
  parseRequest serde req = .ok json
  ∧ (response.get "request" = some json ∨ response.get "query" = some json)

/-- A list of strings is in order, and flat. -/
theorem strings_flat (names : List String)
    : (Value.array (names.map .string)).Within FieldsInOrder
      ∧ (Value.array (names.map .string)).depth ≤ 1 := by
  constructor
  · refine Value.within_array.mpr ⟨trivial, fun value member => ?_⟩
    obtain ⟨name, -, rfl⟩ := List.mem_map.mp member
    trivial
  · refine Nat.succ_le_succ (itemsDepth_le.mpr fun value member => ?_)
    obtain ⟨name, -, rfl⟩ := List.mem_map.mp member
    exact Nat.le_refl 0

/-- Responses are in order, and nested at most three deep unless they echo a request. -/
theorem ResponseForm.shape {serde : SerdeJson} {req : String} {response : Value}
    (form : ResponseForm serde req response) (sound : serde.Sound)
    : response.Within FieldsInOrder
      ∧ (response.depth ≤ 3
        ∨ ∃ json, Echoes serde req response json ∧ response.depth ≤ json.depth + 1) := by
  have few {depth : Nat} (one : depth ≤ 0 + 1) : depth ≤ 3 := le_trans one (by decide)
  cases form with
  | unreadable refused =>
      constructor
      · exact Value.inOrder_ofFields (by simp [jsonInt, Value.Within, FieldsInOrder])
      · exact Or.inl (few (Value.depth_ofFields 0 (by simp [jsonInt, Value.depth])))
  | result result =>
      constructor
      · exact Value.inOrder_ofFields (by simp [Value.Within, FieldsInOrder])
      · exact Or.inl (few (Value.depth_ofFields 0 (by simp [Value.depth])))
  | noCommand code =>
      constructor
      · exact Value.inOrder_ofFields (by simp [jsonInt, Value.Within, FieldsInOrder])
      · exact Or.inl (few (Value.depth_ofFields 0 (by simp [jsonInt, Value.depth])))
  | @invalid code json parsed =>
      constructor
      · refine Value.inOrder_ofFields ?_
        simp [jsonInt, Value.Within, FieldsInOrder, sound.inOrder parsed]
      · refine Or.inr ⟨json, ⟨parsed, Or.inl (Value.get_ofFields (by simp) (by simp))⟩, ?_⟩
        exact Value.depth_ofFields json.depth (by simp [jsonInt, Value.depth])
  | @failed err json parsed =>
      obtain ⟨code, message⟩ := err
      constructor
      · refine Value.inOrder_ofFields ?_
        simp [jsonInt, Value.Within, FieldsInOrder, sound.inOrder parsed]
      · refine Or.inr ⟨json, ⟨parsed, Or.inr (Value.get_ofFields (by simp) (by simp))⟩, ?_⟩
        exact Value.depth_ofFields json.depth (by simp [jsonInt, Value.depth])
  | listed names =>
      obtain ⟨within, depth⟩ := strings_flat names
      constructor
      · exact Value.inOrder_ofFields (by simpa using within)
      · exact Or.inl (le_trans (Value.depth_ofFields 1 (by simpa using depth)) (by decide))
  | @queried columns rowsData filled =>
      obtain ⟨within, depth⟩ := strings_flat columns
      have flat := filled.flat
      have rows : (Value.array rowsData).Within FieldsInOrder :=
        Value.within_array.mpr ⟨trivial, fun row member => (flat row member).1⟩
      have rowsDepth : (Value.array rowsData).depth ≤ 2 :=
        Nat.succ_le_succ (itemsDepth_le.mpr fun row member => (flat row member).2)
      constructor
      · exact Value.inOrder_ofFields (by simpa using ⟨within, rows⟩)
      · refine Or.inl (Value.depth_ofFields 2 ?_)
        simpa using ⟨le_trans depth (by decide), rowsDepth⟩

-----------------------------------------------------------------------------------------
-- Reading responses
-----------------------------------------------------------------------------------------

/-- The reader refuses texts that are nested this deep. -/
def recursionLimit : Nat := 128

/-- The reader accepts the JSON texts that have a value and are not nested too deep. -/
structure SerdeJson.Faithful (serde : SerdeJson) : Prop where
  sound : serde.Sound
  shallow : ∀ text value, serde.fromStr text = .ok value → value.depth < recursionLimit
  complete
    : ∀ (tree : Syntax) value,
        tree.strict = true
        → tree.depth < recursionLimit
        → tree.denote serde.readNumber = some value
        → serde.fromStr (requestText noSpace noSpace tree) = .ok value

section Reading

variable {serde : SerdeJson} {printNumber : Number → NumberLit}

/-- A value in order, whose numbers are read back, is read back if it is not nested too deep. -/
theorem SerdeJson.Faithful.readsBack (faithful : serde.Faithful) {value : Value}
    (ordered : value.Within FieldsInOrder)
    (numbers : value.Within (NumberReadsBack serde.readNumber printNumber))
    : serde.fromStr (compactStrict printNumber value) = .ok value
      ↔ value.depth < recursionLimit := by
  constructor
  · exact faithful.shallow _ value
  · intro shallow
    have depth : (treeOf printNumber (fun _ => false) [] value).depth = value.depth :=
      depth_treeOf _ [] value
    exact faithful.complete _ value (strict_treeOf printNumber [] value) (depth ▸ shallow)
      (denote_treeOf _ [] ordered numbers)

theorem SerdeJson.Faithful.shallow_request (faithful : serde.Faithful) {req : String} {json : Value}
    (parsed : parseRequest serde req = .ok json)
    : json.depth < recursionLimit := by
  unfold parseRequest at parsed
  split at parsed
  · rename_i read
    cases parsed
    exact faithful.shallow _ _ read
  · exact faithful.shallow _ _ parsed

/-- A value in order that is not nested too deep is read with the numbers that its texts give. -/
theorem SerdeJson.Faithful.readsAs (faithful : serde.Faithful) {f : Number → Number} {value : Value}
    (ordered : value.Within FieldsInOrder)
    (numbers : value.Within (NumberReadsAs serde.readNumber printNumber f))
    (shallow : value.depth < recursionLimit)
    : serde.fromStr (compactStrict printNumber value) = .ok (value.mapNumbers f) := by
  have depth : (treeOf printNumber (fun _ => false) [] value).depth = value.depth :=
    depth_treeOf _ [] value
  exact faithful.complete _ _ (strict_treeOf printNumber [] value) (depth ▸ shallow)
    (denote_treeOf_as _ [] ordered numbers)

/-- No response is nested deeper than the reader goes and one level more. -/
theorem ResponseForm.depth_le {req : String} {response : Value}
    (form : ResponseForm serde req response) (faithful : serde.Faithful)
    : response.depth ≤ recursionLimit := by
  obtain ⟨-, flat | ⟨json, echoes, nested⟩⟩ := form.shape faithful.sound
  · exact le_trans flat (by decide)
  · have shallow := faithful.shallow_request echoes.1
    omega

/-- A response is nested less deep than the reader goes unless it echoes a request nested as deep
as that: its depth is that of what it echoes and one more.
-/
theorem ResponseForm.shallow_iff {req : String} {response : Value}
    (form : ResponseForm serde req response) (faithful : serde.Faithful)
    : response.depth < recursionLimit
      ↔ ¬ ∃ json, Echoes serde req response json ∧ json.depth + 1 = recursionLimit := by
  obtain ⟨-, depth⟩ := form.shape faithful.sound
  constructor
  · intro shallow found
    obtain ⟨json, ⟨-, echoed⟩, deep⟩ := found
    have inside : json.depth < response.depth := by
      rcases echoed with request | query
      · exact Value.depth_get request
      · exact Value.depth_get query
    omega
  · intro noEcho
    rcases depth with flat | ⟨json, echoes, nested⟩
    · exact lt_of_le_of_lt flat (by decide)
    · have shallow := faithful.shallow_request echoes.1
      have other : json.depth + 1 ≠ recursionLimit := fun deep => noEcho ⟨json, echoes, deep⟩
      omega

/-- A response is read back unless it echoes a request nested as deep as the reader goes. -/
theorem ResponseForm.readsBack {req : String} {response : Value}
    (form : ResponseForm serde req response) (faithful : serde.Faithful)
    (numbers : response.Within (NumberReadsBack serde.readNumber printNumber))
    : serde.fromStr (compactStrict printNumber response) = .ok response
      ↔ ¬ ∃ json, Echoes serde req response json ∧ json.depth + 1 = recursionLimit := by
  obtain ⟨ordered, -⟩ := form.shape faithful.sound
  rw [faithful.readsBack ordered numbers, form.shallow_iff faithful]

end Reading

/-- Every response is read back by its client, except one that echoes a request nested as deep as
the reader goes.
-/
theorem responses_readBack {World Conn Stmt : Type} (backend : Backend World Conn Stmt)
    (config : Config) (serde : SerdeJson) (faithful : serde.Faithful)
    (printNumber : Number → NumberLit) (req : String) (handler : RequestHandler Conn)
    (world : World)
    (numbers
      : (handleRequest backend config serde req handler world).1.Within
          (NumberReadsBack serde.readNumber printNumber))
    : serde.fromStr
          (compactStrict printNumber (handleRequest backend config serde req handler world).1)
        = .ok (handleRequest backend config serde req handler world).1
      ↔ ¬ ∃ json,
          Echoes serde req (handleRequest backend config serde req handler world).1 json
          ∧ json.depth + 1 = recursionLimit :=
  (handleRequest_form backend config serde req handler world).readsBack faithful numbers

/-- A reader of unsigned integers that refuses what is nested too deep. -/
def shallowReader : SerdeJson where
  fromStr text :=
    match Json.parse readUnsigned text.toList with
    | some value =>
        if value.depth < recursionLimit then .ok value else .error "recursion limit exceeded"
    | none => .error "invalid JSON"
  readNumber := readUnsigned

theorem shallowReader_faithful : shallowReader.Faithful where
  sound text value accepted := by
    unfold shallowReader at accepted
    dsimp only at accepted
    split at accepted
    · rename_i found parsed
      split_ifs at accepted
      cases accepted
      exact parsed
    · cases accepted
  shallow text value accepted := by
    unfold shallowReader at accepted
    dsimp only at accepted
    split at accepted
    · split_ifs at accepted with shallow
      cases accepted
      exact shallow
    · cases accepted
  complete tree value strict shallow denoted := by
    have parsed := parse_write readUnsigned noSpace noSpace tree strict
    have depth : value.depth < recursionLimit :=
      lt_of_le_of_lt (tree.depth_denote denoted) shallow
    have whole : (requestText noSpace noSpace tree).toList = tree.write [] := String.toList_ofList
    unfold shallowReader
    dsimp only
    rw [whole, show tree.write [] = noSpace.val ++ tree.write noSpace.val from rfl, parsed,
      show tree.denote readUnsigned = some value from denoted]
    exact if_pos depth

/-- The answer to an unknown command is read back. -/
theorem responses_readBack_unknown
    : shallowReader.fromStr
          (compactStrict printUnsigned
            (handleRequest emptyBackend (.standard "/srv/a" "") shallowReader
              "\x7b\"cmd\":\"STATUS\"\x7d" .new ()).1)
        = .ok
            (handleRequest emptyBackend (.standard "/srv/a" "") shallowReader
              "\x7b\"cmd\":\"STATUS\"\x7d" .new ()).1
      ↔ ¬ ∃ json,
          Echoes shallowReader "\x7b\"cmd\":\"STATUS\"\x7d"
            (handleRequest emptyBackend (.standard "/srv/a" "") shallowReader
              "\x7b\"cmd\":\"STATUS\"\x7d" .new ()).1
            json
          ∧ json.depth + 1 = recursionLimit := by
  have response
      : (handleRequest emptyBackend (.standard "/srv/a" "") shallowReader
          "\x7b\"cmd\":\"STATUS\"\x7d" .new ()).1
        = .object
            [
              ("generic_error", .number (.posInt 2)),
              ("request", .string "\x7b\"cmd\":\"STATUS\"\x7d")
            ] := by
    decide +kernel
  have read : readUnsigned (printUnsigned (.posInt 2)).lexeme = some (.posInt 2) := by
    decide +kernel
  refine responses_readBack emptyBackend (.standard "/srv/a" "") shallowReader
    shallowReader_faithful printUnsigned "\x7b\"cmd\":\"STATUS\"\x7d" .new () ?_
  rw [response]
  exact ⟨trivial, read, trivial, trivial⟩

end SqliteServer
