import SqliteServer.BackendMaps
import SqliteServer.Histories

/-! A backend with a record of what is done through its connections. Every opening gives a new
handle, named by how many were given before.
-/

namespace SqliteServer

open Json Files Runs

-----------------------------------------------------------------------------------------
-- Recording
-----------------------------------------------------------------------------------------

/-- What is done through a handle. -/
inductive Call where
  | opened (handle : Nat) (path : String)
  | executed (handle : Nat) (batch : String) (succeeded : Bool)
  | prepared (handle : Nat) (sql : String)
  | queried (handle : Nat)
deriving DecidableEq

def Call.handle : Call → Nat
  | .opened handle _ => handle
  | .executed handle _ _ => handle
  | .prepared handle _ => handle
  | .queried handle => handle

/-- Calls that compile or run the SQL of a client. -/
def Call.isStatement : Call → Bool
  | .prepared _ _ => true
  | .queried _ => true
  | _ => false

/-- A connection and the name of its handle. -/
structure Handle (Conn : Type) where
  id : Nat
  conn : Conn

/-- A world with the number of handles given and the calls recorded. -/
structure Recorded (World : Type) where
  world : World
  given : Nat
  calls : List Call

namespace Recorded

variable {World : Type} (recorded : Recorded World)

/-- The world after a call. -/
def record (world : World) (call : Call) : Recorded World :=
  ⟨world, recorded.given, recorded.calls ++ [call]⟩

end Recorded

section Backend

variable {World Conn Stmt : Type} (backend : Backend World Conn Stmt)

/-- A backend that records what is done through its handles. -/
def recorded : Backend (Recorded World) (Handle Conn) Stmt where
  pathExists r path := backend.pathExists r.world path
  canonicalize r path := backend.canonicalize r.world path
  readDir r path := backend.readDir r.world path
  removeFile r path := (backend.removeFile r.world path).map (fun world => { r with world })
  openConnection r path :=
    match backend.openConnection r.world path with
    | (.error err, world) => (.error err, { r with world })
    | (.ok conn, world) =>
        (.ok ⟨r.given, conn⟩, ⟨world, r.given + 1, r.calls ++ [.opened r.given path]⟩)
  executeBatch r handle batch :=
    let executed := backend.executeBatch r.world handle.conn batch
    (executed.1, r.record executed.2 (.executed handle.id batch executed.1.isOk))
  prepare r handle sql :=
    let prepared := backend.prepare r.world handle.conn sql
    (prepared.1, r.record prepared.2 (.prepared handle.id sql))
  columnNames := backend.columnNames
  query r handle stmt :=
    (backend.query r.world handle.conn stmt).map
      (fun world => r.record world (.queried handle.id))
  close r handle := { r with world := backend.close r.world handle.conn }

/-- Recording changes nothing but the record. -/
def forget : BackendMap (recorded backend) backend where
  world := Recorded.world
  conn := Handle.conn
  pathExists _ _ := rfl
  canonicalize _ _ := rfl
  readDir _ _ := rfl
  removeFile r path := by
    dsimp only [recorded]
    cases backend.removeFile r.world path <;> rfl
  openConnection r path := by
    dsimp only [recorded]
    cases backend.openConnection r.world path with
    | mk result world => cases result <;> rfl
  executeBatch _ _ _ := rfl
  prepare _ _ _ := rfl
  columnNames := rfl
  query r handle stmt := by
    dsimp only [recorded]
    rw [Rows.map_map]
    exact (Rows.map_id _).symm
  close _ _ := rfl

end Backend

-----------------------------------------------------------------------------------------
-- Recorded servers
-----------------------------------------------------------------------------------------

/-- What happened in a session: a request with its command, its response and its calls, or the
end of the session.
-/
inductive Deed where
  | answered (session : Nat) (command : Command) (response : Value) (calls : List Call)
  | ended (session : Nat)

namespace Deed

def session : Deed → Nat
  | .answered session _ _ _ => session
  | .ended session => session

def calls : Deed → List Call
  | .answered _ _ _ calls => calls
  | .ended _ => []

end Deed

section Server

variable {World Conn Stmt : Type} (backend : Backend World Conn Stmt) (config : Config)
  (serde : SerdeJson)

/-- The command a request is handled by; one that is refused has none of its own. -/
def handledCommand {Conn : Type} (handler : RequestHandler Conn) (req : String) : Command :=
  ((requested config serde handler req).map Prod.snd).getD .other

/-- A server over a recorded backend, and what happened in it. -/
def recordedStep (server : Server (Recorded World) (Handle Conn))
    : ServerEvent World → Server (Recorded World) (Handle Conn) × List Deed
  | .request session req =>
      let handler := server.sessions session
      let handled :=
        handleRequest (recorded backend) config serde req handler { server.world with calls := [] }
      (server.setSession session handled.2.1 handled.2.2,
        [.answered session (handledCommand config serde handler req) handled.1 handled.2.2.calls])
  | .disconnect session =>
      (server.setSession session .new
          (closeAll (recorded backend) (server.sessions session) server.world),
        [.ended session])
  | .environment world => ({ server with world := { server.world with world } }, [])

/-- A server seen through a map of backends. -/
def Server.map {World' Conn' : Type} (f : World → World') (g : Conn → Conn')
    (server : Server World Conn)
    : Server World' Conn' where
  sessions session := (server.sessions session).map g
  world := f server.world

/-- The answers among some deeds. -/
def Deed.answers : Deed → List (Nat × Value)
  | .answered session _ response _ => [(session, response)]
  | .ended _ => []

variable {backend config serde}

theorem Server.map_setSession {World' Conn' : Type} (f : World → World') (g : Conn → Conn')
    (server : Server World Conn) (session : Nat) (handler : RequestHandler Conn) (world : World)
    : (server.setSession session handler world).map f g
      = (server.map f g).setSession session (handler.map g) (f world) := by
  rw [map, map, setSession, setSession, mk.injEq]
  refine ⟨?_, rfl⟩
  funext other
  dsimp only
  split_ifs <;> rfl

/-- Recording changes no step of a server, and no answer. -/
theorem recordedStep_forget (server : Server (Recorded World) (Handle Conn))
    (event : ServerEvent World)
    : Server.step backend config serde (server.map Recorded.world Handle.conn) event
      = ((recordedStep backend config serde server event).1.map Recorded.world Handle.conn,
          (recordedStep backend config serde server event).2.flatMap Deed.answers) := by
  cases event with
  | environment world => rfl
  | disconnect session =>
      have closed :=
        (forget backend).closeAll (server.sessions session) server.world
      rw [recordedStep, Server.step, Server.map_setSession]
      dsimp only
      exact congrArg (fun world => (Server.setSession _ session .new world, [])) closed
  | request session req =>
      have handled :=
        (forget backend).handleRequest config (server.sessions session)
          { server.world with calls := [] } serde req
      rw [recordedStep, Server.step, Server.map_setSession]
      dsimp only
      exact congrArg
        (fun result => (Server.setSession _ session result.2.1 result.2.2, [(session, result.1)]))
        handled

/-- Recording changes no run of a server, by induction on the events. -/
theorem recorded_run_forget (server : Server (Recorded World) (Handle Conn))
    (events : List (ServerEvent World))
    : after (Server.step backend config serde) (server.map Recorded.world Handle.conn) events
      = (after (recordedStep backend config serde) server events).map Recorded.world
          Handle.conn := by
  induction events generalizing server with
  | nil => rfl
  | cons event rest ih => rw [after, after, recordedStep_forget, ih]

end Server

end SqliteServer
