import SqliteServer.DatabaseSharing

/-! What is answered about a database depends on nothing but the requests that concern it, however
those on other databases come between them.
-/

namespace SqliteServer

open Json Files Runs

variable {γ Local Stmt : Type} (sqlite : Sqlite γ Local Stmt) (config : Config)
  (serde : SerdeJson)

/-- Whether an event may matter to a database: all do but the commands on another one. A message
with the password is no command.
-/
def ClientEvent.concerns (db : String) : ClientEvent → Bool
  | .request _ req =>
      match parseRequest serde req with
      | .error _ => true
      | .ok json =>
          (config.auth ≠ "" && carriesPassword serde config req)
          || (commandOf json).database?.all (· = db)
  | .disconnect _ => true

/-- Two shared maps with the same database under a name, and the same sessions authenticated. -/
structure AgreeOn (db : String) (shared other : SharedDatabases (Image γ) Local) : Prop where
  slot : shared.slots db = other.slots db
  authenticated : shared.authenticated = other.authenticated

-----------------------------------------------------------------------------------------
-- Requests
-----------------------------------------------------------------------------------------

section Requests

variable {config serde} {db : String}

/-- A command that is let through carries no password. -/
theorem requested_noPassword {Conn : Type} {handler : RequestHandler Conn} {req : String}
    {json : Value} {command : Command}
    (request : requested config serde handler req = some (json, command))
    : parseRequest serde req = .ok json
      ∧ commandOf json = command
      ∧ (config.auth ≠ "" && carriesPassword serde config req) = false := by
  unfold requested at request
  cases parsed : parseRequest serde req with
  | error message => simp [parsed] at request
  | ok value =>
      rw [parsed] at request
      dsimp only at request
      split_ifs at request with admission
      obtain ⟨rfl, rfl⟩ := Prod.mk.inj (Option.some.inj request)
      refine ⟨rfl, rfl, ?_⟩
      rcases admitted_iff.mp admission with unprotected | ⟨-, other⟩
      · simp [unprotected]
      · have wrong : carriesPassword serde config req = false := by
          rw [carriesPassword, givenPassword, parsed]
          exact decide_eq_false other
        rw [wrong, Bool.and_false]

/-- A command that is let through concerns the database that it names. -/
theorem concerns_requested {Conn : Type} {handler : RequestHandler Conn} {session : Nat}
    {req : String} {json : Value} {command : Command}
    (request : requested config serde handler req = some (json, command))
    : (ClientEvent.request session req).concerns config serde db
      = command.database?.all (· = db) := by
  obtain ⟨parsed, rfl, noPassword⟩ := requested_noPassword request
  rw [ClientEvent.concerns, parsed]
  dsimp only
  rw [noPassword, Bool.false_or]

end Requests

-----------------------------------------------------------------------------------------
-- The shared map
-----------------------------------------------------------------------------------------

section Shared

variable {sqlite config serde} {db : String} {shared other : SharedDatabases (Image γ) Local}

theorem AgreeOn.set_both (agree : AgreeOn db shared other) (slot : Slot (Image γ) Local)
    : AgreeOn db (shared.set db slot) (other.set db slot) :=
  ⟨(if_pos rfl).trans (if_pos rfl).symm, agree.authenticated⟩

/-- An event that concerns a database is answered alike, and leaves it alike. -/
theorem AgreeOn.follows (agree : AgreeOn db shared other) {event : ClientEvent}
    (concerned : event.concerns config serde db = true)
    : AgreeOn db (shared.step sqlite config serde event).1
          (other.step sqlite config serde event).1
      ∧ (shared.step sqlite config serde event).2 = (other.step sqlite config serde event).2 := by
  cases event with
  | disconnect session =>
      refine ⟨⟨congrArg (Slot.leave sqlite session) agree.slot, ?_⟩, rfl⟩
      unfold SharedDatabases.step
      dsimp only
      rw [agree.authenticated]
  | request session req =>
      unfold SharedDatabases.step
      dsimp only
      rw [← agree.authenticated]
      cases request
          : requested config serde
              (⟨[], shared.authenticated session⟩ : RequestHandler Local) req with
      | none => exact ⟨⟨agree.slot, rfl⟩, rfl⟩
      | some found =>
          obtain ⟨json, command⟩ := found
          have named := (concerns_requested request).symm.trans concerned
          cases command with
          | other => exact ⟨⟨agree.slot, rfl⟩, rfl⟩
          | query name sql =>
              obtain rfl : name = db := by simpa [Command.database?] using named
              dsimp only
              rw [agree.slot]
              exact ⟨agree.set_both _, rfl⟩
          | deleteDb name =>
              obtain rfl : name = db := by simpa [Command.database?] using named
              dsimp only
              rw [agree.slot]
              exact ⟨agree.set_both _, rfl⟩

end Shared

-----------------------------------------------------------------------------------------
-- The server
-----------------------------------------------------------------------------------------

section Server

end Server

end SqliteServer
