import SqliteServer.AttachedEngine
import SqliteServer.Authentication

/-! What the databases of the server are for its clients: one shared map from names to databases.
This states the behaviour that is asked for; it knows no files and no cache.
-/

namespace SqliteServer

open Json Files

/-- What a name denotes: no database, a database with the connections of the sessions to it, or
something that cannot be opened.
-/
inductive Slot (Db Local : Type) where
  | absent
  | database (data : Db) (connections : Nat → Option Local)
  | obstacle

/-- The shared map, and which sessions have authenticated. -/
structure SharedDatabases (Db Local : Type) where
  slots : String → Slot Db Local
  authenticated : Nat → Bool

/-- What clients do: send a request, or leave. -/
inductive ClientEvent where
  | request (session : Nat) (req : String)
  | disconnect (session : Nat)
deriving DecidableEq

def ClientEvent.toServer {World : Type} : ClientEvent → ServerEvent World
  | .request session req => .request session req
  | .disconnect session => .disconnect session

section Shared

variable {γ Local Stmt : Type} (sqlite : Sqlite γ Local Stmt) (config : Config)
  (serde : SerdeJson)

namespace Slot

/-- A statement of a session on a database. On first use the session connects, and leaves again if
its connection cannot be tuned.
-/
def runOn (session : Nat) (sql : String) (data : Image γ) (connections : Nat → Option Local)
    : Except (Int64 × String) Value × Slot (Image γ) Local :=
  let keep (left : Image γ × Local) : Slot (Image γ) Local :=
    .database left.1 (fun other => if other = session then some left.2 else connections other)
  match connections session with
  | some state =>
      let ran := sqlite.runStatement (data, state) sql
      (ran.1, keep ran.2)
  | none =>
      match sqlite.connect (sqlite.renew data) with
      | (.error err, data) => (.error (mapSqliteErr err), .database data connections)
      | (.ok state, data) =>
          match sqlite.executeBatch (data, state) (tuningBatch config) with
          | (.error err, left) =>
              (.error (mapSqliteErr err), .database (sqlite.close left) connections)
          | (.ok (), left) =>
              let ran := sqlite.runStatement left sql
              (ran.1, keep ran.2)

/-- A query of a session: a database that is not there is created empty. -/
def query (session : Nat) (db sql : String) (slot : Slot (Image γ) Local)
    : Except (Int64 × String) Value × Slot (Image γ) Local :=
  if trim sql = "" then (.error (sqliteMisuse, "empty query"), slot)
  else
    match slot with
    | .absent => runOn sqlite config session sql (.alone sqlite.empty) (fun _ => none)
    | .database data connections => runOn sqlite config session sql data connections
    | .obstacle => (.error (mapSqliteErr (cantOpen (join config.databasesFolder db))), .obstacle)

/-- A deletion: the database is gone with all connections to it. -/
def delete : Slot (Image γ) Local → String × Slot (Image γ) Local
  | .database _ _ => ("ok", .absent)
  | slot => ("error", slot)

/-- The end of a session's connection. -/
def leave (session : Nat) : Slot (Image γ) Local → Slot (Image γ) Local
  | .database data connections =>
      match connections session with
      | some state =>
          .database (sqlite.close (data, state))
            (fun other => if other = session then none else connections other)
      | none => .database data connections
  | slot => slot

end Slot

namespace SharedDatabases

/-- The databases with another one under a name. -/
def set (shared : SharedDatabases (Image γ) Local) (db : String) (slot : Slot (Image γ) Local)
    : SharedDatabases (Image γ) Local :=
  { shared with slots := fun other => if other = db then slot else shared.slots other }

/-- The response to an event that is a query or a deletion, and the databases after any event. -/
def step (shared : SharedDatabases (Image γ) Local)
    : ClientEvent → SharedDatabases (Image γ) Local × List (Nat × Value)
  | .request session req =>
      let gate : RequestHandler Local := ⟨[], shared.authenticated session⟩
      match requested config serde gate req with
      | some (json, .query db sql) =>
          let ran := (shared.slots db).query sqlite config session db sql
          (shared.set db ran.2, [(session, queryResponse json ran.1)])
      | some (_, .deleteDb db) =>
          let deleted := (shared.slots db).delete
          (shared.set db deleted.2, [(session, resultResponse deleted.1)])
      | _ =>
          ({ shared with
              authenticated := fun other =>
                shared.authenticated other
                || (other = session && config.auth ≠ "" && carriesPassword serde config req) },
            [])
  | .disconnect session =>
      ({
          slots := fun db => (shared.slots db).leave sqlite session
          authenticated := fun other => other ≠ session && shared.authenticated other
        },
        [])

end SharedDatabases

end Shared

end SqliteServer
