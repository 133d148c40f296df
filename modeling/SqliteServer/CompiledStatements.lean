import SqliteServer.AttachedEngine
import SqliteServer.ResultRows

/-! SQLite as a compiler: a statement is compiled against the schema that its connection remembers,
and again at its first step if the schema has changed.
-/

namespace SqliteServer

open Json

/-- What a connection keeps: the schema it has read, if any, and the rest of its state. -/
structure SchemaHandle (Schema Rest : Type) where
  cached : Option Schema
  rest : Rest
deriving DecidableEq

/-- Every row of a statement has as many cells as it has columns. -/
def Rows.Wide {World : Type} (width : Nat) : Rows World → Prop
  | .done _ => True
  | .failed _ _ => True
  | .row cells _ rest => cells.length = width ∧ rest.Wide width

/-- SQLite with its compiler: what programs there are, how they are compiled against a schema and
how they run are parameters, as is the schema that a connection finds in its database.
-/
structure SchemaSqlite (γ Schema Rest Program : Type) where
  policy : Files.Policy
  empty : γ
  isNew : γ → Bool
  isNew_empty : isNew empty = true
  connect : Image γ → Except RusqliteError (SchemaHandle Schema Rest) × Image γ
  executeBatch
    : Image γ × SchemaHandle Schema Rest → String
      → Except RusqliteError Unit × Image γ × SchemaHandle Schema Rest
  close : Image γ × SchemaHandle Schema Rest → Image γ
  schema : Image γ × Rest → Schema
  compile : Schema → String → Except RusqliteError Program
  columnNames : Program → List String
  parameterCount : Program → Nat
  run : Image γ × SchemaHandle Schema Rest → Program → Rows (Image γ × SchemaHandle Schema Rest)
  run_wide : ∀ found program, (run found program).Wide (columnNames program).length

namespace SchemaSqlite

variable {γ Schema Rest Program : Type} [DecidableEq Schema]
  (sqlite : SchemaSqlite γ Schema Rest Program)

/-- A statement: its text, and its program with the schema it was compiled against. -/
structure Statement (sqlite : SchemaSqlite γ Schema Rest Program) where
  sql : String
  schema : Schema
  program : Program
  compiled : sqlite.compile schema sql = .ok program

/-- The schema that a connection finds in its database. -/
def current (found : Image γ × SchemaHandle Schema Rest) : Schema :=
  sqlite.schema (found.1, found.2.rest)

/-- A connection that has read the schema of its database. -/
def reread (found : Image γ × SchemaHandle Schema Rest) : Image γ × SchemaHandle Schema Rest :=
  (found.1, { found.2 with cached := some (sqlite.current found) })

/-- Compile a statement against a schema. -/
def compileStatement (schema : Schema) (sql : String) : Except RusqliteError sqlite.Statement :=
  match compiled : sqlite.compile schema sql with
  | .error err => .error err
  | .ok program => .ok ⟨sql, schema, program, compiled⟩

/-- A statement is compiled against the schema that the connection remembers. The schema is read if
there is none or if the statement cannot be compiled against it.
-/
def prepare (found : Image γ × SchemaHandle Schema Rest) (sql : String)
    : Except RusqliteError sqlite.Statement × Image γ × SchemaHandle Schema Rest :=
  let fresh := (sqlite.compileStatement (sqlite.current found) sql, sqlite.reread found)
  match found.2.cached with
  | none => fresh
  | some schema =>
      match sqlite.compileStatement schema sql with
      | .ok stmt => (.ok stmt, found)
      | .error _ => fresh

/-- The program that is executed at the first step: if the schema has changed, the statement is
compiled again.
-/
def executed (found : Image γ × SchemaHandle Schema Rest) (stmt : sqlite.Statement)
    : Except RusqliteError Program :=
  if stmt.schema = sqlite.current found then .ok stmt.program
  else sqlite.compile (sqlite.current found) stmt.sql

/-- Stepping a statement, which is given no parameters. -/
def query (found : Image γ × SchemaHandle Schema Rest) (stmt : sqlite.Statement)
    : Rows (Image γ × SchemaHandle Schema Rest) :=
  if sqlite.parameterCount stmt.program ≠ 0 then
    .failed
      (.other
        ("Wrong number of parameters passed to query. Got 0, needed "
          ++ toString (sqlite.parameterCount stmt.program)))
      found
  else
    match sqlite.executed found stmt with
    | .error err => .failed err (sqlite.reread found)
    | .ok program =>
        if stmt.schema = sqlite.current found then sqlite.run found program
        else sqlite.run (sqlite.reread found) program

/-- The compiler and the rest, as one connection sees it. Every text is about its own database. -/
def toSqlite : Sqlite γ (SchemaHandle Schema Rest) sqlite.Statement where
  policy := sqlite.policy
  empty := sqlite.empty
  isNew := sqlite.isNew
  isNew_empty := sqlite.isNew_empty
  connect := sqlite.connect
  executeBatch := sqlite.executeBatch
  prepare := sqlite.prepare
  columnNames := fun stmt => sqlite.columnNames stmt.program
  query := sqlite.query
  close := sqlite.close
  ownText := fun _ => true
  ownStmt := fun _ => true
  ownStmt_prepare := fun _ _ _ _ _ => rfl
  foreignPrepare := fun disk _ _ => (.error closedConnection, disk)
  foreignQuery := fun disk _ _ => .failed closedConnection disk

/-- The columns of a text that is compiled against a schema. -/
def columnsAt (schema : Schema) (sql : String) : Except RusqliteError (List String) :=
  (sqlite.compile schema sql).map sqlite.columnNames

variable {sqlite}

omit [DecidableEq Schema] in
theorem Statement.columnsAt (stmt : sqlite.Statement)
    : sqlite.columnsAt stmt.schema stmt.sql = .ok (sqlite.columnNames stmt.program) := by
  rw [SchemaSqlite.columnsAt, stmt.compiled]
  rfl

/-- What is executed is the statement's text, compiled against the schema of the database. -/
theorem executed_eq_compile (found : Image γ × SchemaHandle Schema Rest) (stmt : sqlite.Statement)
    : sqlite.executed found stmt = sqlite.compile (sqlite.current found) stmt.sql := by
  rw [executed]
  split_ifs with unchanged
  · rw [← unchanged, stmt.compiled]
  · rfl

/-- Of a statement whose steps end well, a program was executed, and all rows have its width. -/
theorem query_executed {found : Image γ × SchemaHandle Schema Rest} {stmt : sqlite.Statement}
    {rows : List (List ValueRef)} {final : Image γ × SchemaHandle Schema Rest}
    (complete : (sqlite.query found stmt).complete = some (rows, final))
    : ∃ program,
        sqlite.executed found stmt = .ok program
        ∧ (sqlite.query found stmt).Wide (sqlite.columnNames program).length := by
  rw [query] at complete ⊢
  by_cases parameters : sqlite.parameterCount stmt.program ≠ 0
  · rw [if_pos parameters] at complete
    cases complete
  · rw [if_neg parameters] at complete ⊢
    cases ran : sqlite.executed found stmt with
    | error err =>
        rw [ran] at complete
        cases complete
    | ok program =>
        refine ⟨program, rfl, ?_⟩
        dsimp only
        split_ifs
        · exact sqlite.run_wide found program
        · exact sqlite.run_wide _ program

end SchemaSqlite

-----------------------------------------------------------------------------------------
-- Rows
-----------------------------------------------------------------------------------------

section Rows

variable {World World' : Type}

theorem Rows.Wide.of_complete {steps : Rows World} {width : Nat} (wide : steps.Wide width)
    {rows : List (List ValueRef)} {final : World} (complete : steps.complete = some (rows, final))
    : ∀ row ∈ rows, row.length = width := by
  induction steps generalizing rows with
  | done world =>
      obtain ⟨rfl, -⟩ := Prod.mk.inj (Option.some.inj complete)
      exact fun row member => absurd member List.not_mem_nil
  | failed err world => cases complete
  | row cells abandoned rest ih =>
      rw [complete_row, Option.map_eq_some_iff] at complete
      obtain ⟨⟨later, last⟩, found, same⟩ := complete
      obtain ⟨rfl, rfl⟩ := Prod.mk.inj same
      intro row member
      rcases List.mem_cons.mp member with rfl | inLater
      · exact wide.1
      · exact ih wide.2 found row inLater

/-- The rows are the same in a wider world. -/
theorem Rows.complete_map (f : World → World') (steps : Rows World)
    : (steps.map f).complete = steps.complete.map (fun found => (found.1, f found.2)) := by
  induction steps with
  | done world => rfl
  | failed err world => rfl
  | row cells abandoned rest ih =>
      rw [Rows.map, complete_row, complete_row, ih, Option.map_map, Option.map_map]
      rfl

end Rows

end SqliteServer
