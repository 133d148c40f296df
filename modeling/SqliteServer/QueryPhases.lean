import SqliteServer.Commands

/-! Requests in two halves: a query is prepared, and later stepped. Between the halves, other
sessions do what they like.
-/

namespace SqliteServer

open Json Runs

/-- A query that has not been stepped yet, with the column names it was prepared with. -/
structure Pending (Conn Stmt : Type) where
  json : Value
  conn : Conn
  stmt : Stmt
  columns : List String

/-- A server, and the queries that its sessions are in the middle of. -/
structure PhasedServer (World Conn Stmt : Type) where
  server : Server World Conn
  pending : Nat → Option (Pending Conn Stmt)

/-- A request goes as far as the first step of its query, and the query proceeds later. -/
inductive PhasedEvent (World : Type) where
  | request (session : Nat) (req : String)
  | proceed (session : Nat)
  | disconnect (session : Nat)
  | environment (world : World)

section Phases

variable {World Conn Stmt : Type} (backend : Backend World Conn Stmt) (config : Config)
  (serde : SerdeJson)

/-- A request as far as the first step of its query: the query, or the response if there is nothing
to step.
-/
def beginRequest (req : String) (handler : RequestHandler Conn) (world : World)
    : (Value ⊕ Pending Conn Stmt) × RequestHandler Conn × World :=
  let handled := handleRequest backend config serde req handler world
  match requested config serde handler req with
  | some (json, .query db sql) =>
      if isSafeDatabaseName backend config world db then
        match prepareQuery backend config db sql handler world with
        | (.error err, handler, world) => (.inl (queryResponse json (.error err)), handler, world)
        | (.ok (conn, stmt, columns), handler, world) =>
            (.inr ⟨json, conn, stmt, columns⟩, handler, world)
      else (.inl handled.1, handled.2)
  | _ => (.inl handled.1, handled.2)

/-- The steps of a query, and its response. -/
def Pending.proceed (pending : Pending Conn Stmt) (world : World) : Value × World :=
  let stepped := stepQuery backend pending.conn pending.stmt pending.columns world
  (queryResponse pending.json stepped.1, stepped.2)

/-- What a request begins, taken to its end. -/
def finishRequest
    : (Value ⊕ Pending Conn Stmt) × RequestHandler Conn × World
      → Value × RequestHandler Conn × World
  | (.inl response, handler, world) => (response, handler, world)
  | (.inr pending, handler, world) =>
      ((pending.proceed backend world).1, handler, (pending.proceed backend world).2)

namespace PhasedServer

/-- A server no client has connected to. -/
def start (world : World) : PhasedServer World Conn Stmt := ⟨.start world, fun _ => none⟩

def setPending (phased : PhasedServer World Conn Stmt) (session : Nat)
    (pending : Option (Pending Conn Stmt))
    : PhasedServer World Conn Stmt :=
  {
    phased with
    pending := fun other => if other = session then pending else phased.pending other
  }

/-- The server after an event, and the responses. A session in the middle of a query does nothing
else before the response.
-/
def step (phased : PhasedServer World Conn Stmt)
    : PhasedEvent World → PhasedServer World Conn Stmt × List (Nat × Value)
  | .request session req =>
      match phased.pending session with
      | some _ => (phased, [])
      | none =>
          let begun :=
            beginRequest backend config serde req (phased.server.sessions session)
              phased.server.world
          let server := phased.server.setSession session begun.2.1 begun.2.2
          match begun.1 with
          | .inl response => ({ phased with server := server }, [(session, response)])
          | .inr pending => ({ phased with server := server }.setPending session (some pending), [])
  | .proceed session =>
      match phased.pending session with
      | none => (phased, [])
      | some pending =>
          let proceeded := pending.proceed backend phased.server.world
          ({ phased with server := { phased.server with world := proceeded.2 } }.setPending session
              none,
            [(session, proceeded.1)])
  | .disconnect session =>
      match phased.pending session with
      | some _ => (phased, [])
      | none =>
          let server := (phased.server.step backend config serde (.disconnect session)).1
          ({ phased with server := server }, [])
  | .environment world => ({ phased with server := { phased.server with world := world } }, [])

end PhasedServer

end Phases

section Phased

variable {World Conn Stmt : Type} {backend : Backend World Conn Stmt} {config : Config}
  {serde : SerdeJson}

/-- Both halves of a request, one after the other, are the request. -/
theorem finishRequest_beginRequest (req : String) (handler : RequestHandler Conn) (world : World)
    : finishRequest backend (beginRequest backend config serde req handler world)
      = handleRequest backend config serde req handler world := by
  rw [beginRequest]
  cases request : requested config serde handler req with
  | none => rfl
  | some found =>
      obtain ⟨json, command⟩ := found
      cases command with
      | other => rfl
      | deleteDb db => rfl
      | query db sql =>
          dsimp only
          by_cases safe : isSafeDatabaseName backend config world db = true
          · rw [if_pos safe, handleRequest_query backend request, if_pos safe, runQuery]
            cases prepareQuery backend config db sql handler world with
            | mk result rest =>
                cases result with
                | error err => rfl
                | ok prepared => rfl
          · rw [if_neg safe]
            rfl

/-- What a request leaves to be stepped has the column names of its statement. -/
theorem columns_of_beginRequest {req : String} {handler : RequestHandler Conn} {world : World}
    {pending : Pending Conn Stmt}
    (begun : (beginRequest backend config serde req handler world).1 = .inr pending)
    : pending.columns = backend.columnNames pending.stmt := by
  rw [beginRequest] at begun
  cases request : requested config serde handler req with
  | none => simp [request] at begun
  | some found =>
      obtain ⟨json, command⟩ := found
      rw [request] at begun
      cases command with
      | other => cases begun
      | deleteDb db => cases begun
      | query db sql =>
          dsimp only at begun
          split_ifs at begun with safe
          rw [prepareQuery] at begun
          split_ifs at begun with text
          cases got : getConnection backend config db handler world with
          | mk result rest =>
              obtain ⟨next, world'⟩ := rest
              rw [got] at begun
              cases result with
              | error err => cases begun
              | ok conn =>
                  dsimp only at begun
                  cases prepared : backend.prepare world' conn sql with
                  | mk stmtResult world'' =>
                      rw [prepared] at begun
                      cases stmtResult with
                      | error err => cases begun
                      | ok stmt =>
                          obtain rfl := Sum.inr.inj begun
                          rfl

namespace PhasedServer

/-- Every query in the middle was prepared with the column names of its statement. -/
def Prepared (backend : Backend World Conn Stmt) (phased : PhasedServer World Conn Stmt) : Prop :=
  ∀ session pending,
    phased.pending session = some pending
    → pending.columns = backend.columnNames pending.stmt

theorem Prepared.setPending {phased : PhasedServer World Conn Stmt}
    (prepared : phased.Prepared backend) (session : Nat) {pending : Option (Pending Conn Stmt)}
    (new : ∀ query, pending = some query → query.columns = backend.columnNames query.stmt)
    : (phased.setPending session pending).Prepared backend := by
  intro other query found
  by_cases mine : other = session
  · exact new query ((if_pos mine).symm.trans found)
  · exact prepared other query ((if_neg mine).symm.trans found)

/-- Every event keeps the queries in the middle prepared: cases on the event. -/
theorem Prepared.step {phased : PhasedServer World Conn Stmt} (prepared : phased.Prepared backend)
    (event : PhasedEvent World)
    : (phased.step backend config serde event).1.Prepared backend := by
  cases event with
  | request session req =>
      rw [PhasedServer.step]
      cases phased.pending session with
      | some pending => exact prepared
      | none =>
          dsimp only
          cases begun : (beginRequest backend config serde req (phased.server.sessions session)
              phased.server.world).1 with
          | inl response => exact prepared
          | inr pending =>
              refine Prepared.setPending (fun other query found => prepared other query found)
                session ?_
              rintro query ⟨⟩
              exact columns_of_beginRequest begun
  | proceed session =>
      rw [PhasedServer.step]
      cases phased.pending session with
      | none => exact prepared
      | some pending =>
          exact Prepared.setPending (fun other query found => prepared other query found) session
            (by rintro query ⟨⟩)
  | disconnect session =>
      rw [PhasedServer.step]
      cases phased.pending session with
      | some pending => exact prepared
      | none => exact prepared
  | environment world => exact prepared

end PhasedServer

end Phased

end SqliteServer
