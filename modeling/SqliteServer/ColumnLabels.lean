import SqliteServer.CompiledStatements
import SqliteServer.QueryPhases
import SqliteServer.Runs

/-! Under which columns the values of a response stand while other sessions change the schema. -/

namespace SqliteServer

open Json Files Runs

/-- A response has these columns, and every value of a row under the name of its column. -/
structure Labelled (columns : List String) (rows : List (List ValueRef)) (payload : Value)
    : Prop where
  names : payload.get "columns" = some (.array (columns.map .string))
  length : ∃ data, payload.get "data" = some (.array data) ∧ data.length = rows.length
  cells
    : ∀ (r : Nat) row name value,
        rows[r]? = some row
        → (dataCell payload r name = some value
          ↔ ∃ (i : Nat) (cell : ValueRef),
              columns[i]? = some name ∧ row[i]? = some cell ∧ value = valueRefToJson cell)

/-- With distinct columns, the response to a result set is labelled. -/
theorem ResultSet.labelled (result : ResultSet) (distinct : result.columns.Nodup)
    : Labelled result.columns result.rows result.payload := by
  have labels {r i : Nat} {row : List ValueRef} {name : String} {cell : ValueRef}
      (here : result.rows[r]? = some row) (named : result.columns[i]? = some name)
      (cellAt : row[i]? = some cell)
      : dataCell result.payload r name = some (valueRefToJson cell) := by
    refine ResultSet.dataCell_last here named ?_ cellAt
    intro k after same
    have inside : i < result.columns.length := (List.getElem?_eq_some_iff.mp named).1
    exact Nat.ne_of_lt after ((List.getElem?_inj inside distinct).mp (named.trans same.symm))
  refine ⟨result.payload_columns, ⟨_, result.payload_data, List.length_map ..⟩, ?_⟩
  intro r row name value here
  constructor
  · intro found
    by_cases known : name ∈ result.columns
    · obtain ⟨i, inside, rfl⟩ := List.getElem_of_mem known
      have width := result.rectangular row (List.mem_of_getElem? here)
      have named := List.getElem?_eq_getElem inside
      have cellAt : row[i]? = some (row.get ⟨i, width ▸ inside⟩) := List.getElem?_eq_getElem _
      exact ⟨i, _, named, cellAt, Option.some.inj (found.symm.trans (labels here named cellAt))⟩
    · have absent
          : ∀ entry ∈ result.columns.zip (row.map valueRefToJson), entry.1 ≠ name := by
        rintro entry member rfl
        exact known (List.of_mem_zip member).1
      rw [ResultSet.dataCell_payload here, rowObject, field?_insertFields_other absent] at found
      cases found
  · rintro ⟨i, cell, named, cellAt, rfl⟩
    exact labels here named cellAt

section Server

variable {γ Schema Rest Program : Type} [DecidableEq Schema]
  (sqlite : SchemaSqlite γ Schema Rest Program) (config : Config) (serde : SerdeJson)

/-- The server on the engine that compiles its statements. -/
abbrev SchemaServer : Type :=
  PhasedServer (Host γ (Handles (SchemaHandle Schema Rest))) Attachment sqlite.Statement

def schemaStep (phased : SchemaServer sqlite)
    (event : PhasedEvent (Host γ (Handles (SchemaHandle Schema Rest))))
    : SchemaServer sqlite × List (Nat × Value) :=
  phased.step (fileBackend (attachedEngine sqlite.toSqlite)) config serde event

/-- A session steps its query to the end: the connection finds its database so, the program has
these rows, and the response is no error.
-/
structure Answers (phased : SchemaServer sqlite) (session : Nat)
    (pending : Pending Attachment sqlite.Statement) (found : Image γ × SchemaHandle Schema Rest)
    (program : Program) (rows : List (List ValueRef)) (payload : Value)
    : Prop where
  waiting : phased.pending session = some pending
  attached : phased.server.world.disk.get pending.conn = some found
  executed : sqlite.executed found pending.stmt = .ok program
  complete : ∃ final, (sqlite.query found pending.stmt).complete = some (rows, final)
  responds : (schemaStep sqlite config serde phased (.proceed session)).2 = [(session, payload)]
  success : (payload.get "data").isSome = true

/-- In a response to a statement whose columns are distinct, the values stand under the columns of
the program that was executed.
-/
def LabelsRows (phased : SchemaServer sqlite)
    : PhasedEvent (Host γ (Handles (SchemaHandle Schema Rest))) → Prop
  | .proceed session =>
      ∀ pending found program rows payload,
        Answers sqlite config serde phased session pending found program rows payload
        → (sqlite.columnNames program).Nodup
        → Labelled (sqlite.columnNames program) rows payload
  | _ => True

/-- The values stand under the right columns exactly if the query's text has the same columns
against the schema it was prepared with as against the current one.
-/
def LabelsUnlessChanged (phased : SchemaServer sqlite)
    : PhasedEvent (Host γ (Handles (SchemaHandle Schema Rest))) → Prop
  | .proceed session =>
      ∀ pending found program rows payload,
        Answers sqlite config serde phased session pending found program rows payload
        → (sqlite.columnNames program).Nodup
        → (Labelled (sqlite.columnNames program) rows payload
          ↔ sqlite.columnsAt pending.stmt.schema pending.stmt.sql
            = sqlite.columnsAt (sqlite.current found) pending.stmt.sql)
  | _ => True

variable {sqlite config serde}

/-- The response to a query has no rows if stepping it failed. -/
theorem queryResponse_error (json : Value) (err : Int64 × String)
    : (queryResponse json (.error err)).get "data" = none := by
  obtain ⟨code, message⟩ := err
  exact Value.get_ofFields_other (by simp)

/-- A query that steps without an error has the columns it was prepared with. -/
theorem stepQuery_columns {World Conn Stmt : Type} {backend : Backend World Conn Stmt} {conn : Conn}
    {stmt : Stmt} {columns : List String} {world final : World} {payload : Value}
    (stepped : stepQuery backend conn stmt columns world = (.ok payload, final))
    : payload.get "columns" = some (.array (columns.map .string)) := by
  rw [stepQuery] at stepped
  cases collected : collectRows columns (backend.query world conn stmt) [] with
  | mk result last =>
      rw [collected] at stepped
      cases result with
      | error err => cases stepped
      | ok data =>
          obtain rfl := Except.ok.inj (Prod.mk.inj stepped).1
          exact Value.get_ofFields (by simp) (by simp)

/-- In a wider world, a statement ends well with the same rows. -/
theorem Answers.steps {phased : SchemaServer sqlite} {session : Nat}
    {pending : Pending Attachment sqlite.Statement} {found : Image γ × SchemaHandle Schema Rest}
    {program : Program} {rows : List (List ValueRef)} {payload : Value}
    (answers : Answers sqlite config serde phased session pending found program rows payload)
    : ∃ final,
        ((fileBackend (attachedEngine sqlite.toSqlite)).query phased.server.world pending.conn
              pending.stmt).complete
          = some (rows, final) := by
  obtain ⟨final, complete⟩ := answers.complete
  have stepping
      : (fileBackend (attachedEngine sqlite.toSqlite)).query phased.server.world pending.conn
            pending.stmt
        = ((sqlite.query found pending.stmt).map (phased.server.world.disk.leave pending.conn)).map
            (fun disk => { phased.server.world with disk := disk }) := by
    rw [fileBackend, attachedEngine]
    dsimp only
    rw [answers.attached]
    rfl
  rw [stepping, Rows.complete_map, Rows.complete_map, complete]
  exact ⟨_, rfl⟩

/-- A response that is no error has the columns the query was prepared with, and it is labelled if
these are the columns of what was executed.
-/
theorem Answers.labelled {phased : SchemaServer sqlite} {session : Nat}
    {pending : Pending Attachment sqlite.Statement} {found : Image γ × SchemaHandle Schema Rest}
    {program : Program} {rows : List (List ValueRef)} {payload : Value}
    (answers : Answers sqlite config serde phased session pending found program rows payload)
    (distinct : (sqlite.columnNames program).Nodup)
    : Labelled (sqlite.columnNames program) rows payload
      ↔ pending.columns = sqlite.columnNames program := by
  have responds := answers.responds
  rw [schemaStep, PhasedServer.step, answers.waiting] at responds
  dsimp only at responds
  obtain rfl := (Prod.mk.inj (List.cons.inj responds).1).2
  have success := answers.success
  rw [Pending.proceed] at success ⊢
  dsimp only at success ⊢
  constructor
  · intro labelled
    have names := labelled.names
    cases stepped : stepQuery (fileBackend (attachedEngine sqlite.toSqlite)) pending.conn
        pending.stmt pending.columns phased.server.world with
    | mk result final =>
        rw [stepped] at success names
        cases result with
        | error err =>
            rw [queryResponse_error] at success
            cases success
        | ok payload =>
            have prepared := stepQuery_columns stepped
            have same := Value.array.inj (Option.some.inj (prepared.symm.trans names))
            exact List.map_injective_iff.mpr (fun _ _ => Value.string.inj) same
  · intro same
    obtain ⟨final, steps⟩ := answers.steps
    obtain ⟨_, complete⟩ := answers.complete
    obtain ⟨program', executed, wide⟩ := SchemaSqlite.query_executed complete
    obtain rfl := Except.ok.inj (executed.symm.trans answers.executed)
    let result : ResultSet :=
      ⟨sqlite.columnNames program', rows, Rows.Wide.of_complete wide complete⟩
    rw [same, stepQuery_complete _ result steps]
    exact result.labelled distinct

/-- Before each step of a query, its prepared columns are those of its text against the schema it
was prepared with.
-/
theorem PhasedServer.Prepared.labels {phased : SchemaServer sqlite}
    (prepared : phased.Prepared (fileBackend (attachedEngine sqlite.toSqlite)))
    (event : PhasedEvent (Host γ (Handles (SchemaHandle Schema Rest))))
    : LabelsUnlessChanged sqlite config serde phased event := by
  cases event with
  | proceed session =>
      intro pending found program rows payload answers distinct
      have executed := answers.executed
      rw [SchemaSqlite.executed_eq_compile] at executed
      have current
          : sqlite.columnsAt (sqlite.current found) pending.stmt.sql
            = .ok (sqlite.columnNames program) := by
        rw [SchemaSqlite.columnsAt, executed]
        rfl
      have columns : pending.columns = sqlite.columnNames pending.stmt.program :=
        prepared session pending answers.waiting
      rw [answers.labelled distinct, columns, pending.stmt.columnsAt, current, Except.ok.injEq]
  | request session req => trivial
  | disconnect session => trivial
  | environment world => trivial

variable (sqlite config serde)

/-- In every run, each response to a query has its values under the right columns exactly if the
query's text has the same columns against the schema it was prepared with as against the schema that
its first step finds: the queries in the middle stay prepared along the run.
-/
theorem rows_labelled (host : Host γ (Handles (SchemaHandle Schema Rest)))
    (events : List (PhasedEvent (Host γ (Handles (SchemaHandle Schema Rest)))))
    : Along (schemaStep sqlite config serde) (LabelsUnlessChanged sqlite config serde)
        (.start host) events := by
  have start : (PhasedServer.start host : SchemaServer sqlite).Prepared
      (fileBackend (attachedEngine sqlite.toSqlite)) := by
    intro session pending none
    cases none
  exact Along.strengthen (P := fun _ _ => True) (fun _ event prepared _ => prepared.step event)
    (fun _ event prepared _ => prepared.labels event) start
    (along_of_forall (fun _ _ _ => trivial) _)

end Server

-----------------------------------------------------------------------------------------
-- A table that is altered
-----------------------------------------------------------------------------------------

/-- The programs on a table `t`: give it these columns, or list its row. -/
inductive TableProgram where
  | define (columns : List String)
  | list (columns : List String)
deriving DecidableEq

/-- Databases with one table `t` and one row, whose cells are the names of their columns. -/
def tableSchemas : SchemaSqlite (List String) (List String) Unit TableProgram where
  policy := ⟨200, true⟩
  empty := []
  isNew := List.isEmpty
  isNew_empty := rfl
  connect := fun image => (.ok ⟨none, ()⟩, image)
  executeBatch := fun found _ => (.ok (), found)
  close := Prod.fst
  schema := fun found => found.1.main
  compile := fun schema sql =>
    if sql = "CREATE TABLE t(a)" then .ok (.define ["a"])
    else if sql = "ALTER TABLE t ADD COLUMN b" then .ok (.define (schema ++ ["b"]))
    else if sql = "SELECT * FROM t" then .ok (.list schema)
    else .error (.other "unknown statement")
  columnNames := fun program =>
    match program with
    | .define _ => []
    | .list columns => columns
  parameterCount := fun _ => 0
  run := fun found program =>
    match program with
    | .define columns => .done (.alone columns, { found.2 with cached := some columns })
    | .list columns =>
        .row (columns.map (fun column => .text (Wire.utf8Bytes column))) found (.done found)
  run_wide := by
    intro found program
    cases program with
    | define columns => trivial
    | list columns => exact ⟨List.length_map .., trivial⟩

/-- A host with an empty folder `/srv/sqlite`. -/
def tableHost : Host (List String) (Handles (SchemaHandle (List String) Unit)) where
  disk :=
    {
      files :=
        {
          entries := [([], .dir), (["srv"], .dir), (["srv", "sqlite"], .dir)]
          contents := fun _ => []
          nextInode := 1
        }
      engine := ⟨fun _ => none, 0⟩
    }
  accesses := []

/-- A session creates a table, and another adds a column to it. The first asks for all columns. -/
def alteredTable
    : List (PhasedEvent (Host (List String) (Handles (SchemaHandle (List String) Unit)))) :=
  [
    .request 0 (queryOf "mydb" "CREATE TABLE t(a)"),
    .proceed 0,
    .request 1 (queryOf "mydb" "ALTER TABLE t ADD COLUMN b"),
    .proceed 1,
    .request 0 (queryOf "mydb" "SELECT * FROM t")
  ]

/-- The server when the first session's second query is prepared. -/
def alteredServer : SchemaServer tableSchemas :=
  after (schemaStep tableSchemas (.standard "/srv/sqlite" "") unsignedReader) (.start tableHost)
    alteredTable

/-- The response has the columns before the change, and the new column is missing. -/
theorem altered_mislabelled
    : ¬ ∀ events,
        Along (schemaStep tableSchemas (.standard "/srv/sqlite" "") unsignedReader)
          (LabelsRows tableSchemas (.standard "/srv/sqlite" "") unsignedReader) (.start tableHost)
          events := by
  intro claim
  obtain ⟨-, atLast, -⟩ := along_append.mp (claim (alteredTable ++ [.proceed 0]))
  have labels
      : LabelsRows tableSchemas (.standard "/srv/sqlite" "") unsignedReader alteredServer
          (.proceed 0) :=
    atLast
  obtain ⟨pending, waiting⟩ : ∃ pending, alteredServer.pending 0 = some pending :=
    Option.isSome_iff_exists.mp (by decide +kernel)
  have attached
      : ∀ pending ∈ alteredServer.pending 0,
          alteredServer.server.world.disk.get pending.conn
          = some (.alone ["a", "b"], ⟨some ["a"], ()⟩) := by
    decide +kernel
  have text : ∀ pending ∈ alteredServer.pending 0, pending.stmt.sql = "SELECT * FROM t" := by
    decide +kernel
  have rows
      : ∀ pending ∈ alteredServer.pending 0,
          (tableSchemas.query (.alone ["a", "b"], ⟨some ["a"], ()⟩) pending.stmt).complete.map
              Prod.fst
            = some [[.text [97], .text [98]]] := by
    decide +kernel
  obtain ⟨⟨_, final⟩, complete, rfl⟩ := Option.map_eq_some_iff.mp (rows pending waiting)
  have executed
      : tableSchemas.executed (.alone ["a", "b"], ⟨some ["a"], ()⟩) pending.stmt
        = .ok (.list ["a", "b"]) := by
    rw [SchemaSqlite.executed_eq_compile, text pending waiting]
    rfl
  have responds
      : (schemaStep tableSchemas (.standard "/srv/sqlite" "") unsignedReader alteredServer
            (.proceed 0)).2
        = [
            (0,
              .ofFields
                [
                  ("columns", .array [.string "a"]),
                  ("data", .array [.object [("a", .string "a")]])
                ])
          ] := by
    decide +kernel
  have labelled := labels pending (.alone ["a", "b"], ⟨some ["a"], ()⟩) (.list ["a", "b"])
    [[.text [97], .text [98]]] _
    ⟨waiting, attached pending waiting, executed, ⟨final, complete⟩, responds,
      by decide +kernel⟩
    (by decide)
  exact absurd labelled.names (by decide +kernel)

end SqliteServer
