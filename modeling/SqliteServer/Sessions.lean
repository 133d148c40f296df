import SqliteServer.Handler
import SqliteServer.Runs

/-! The server as any number of sessions over one world, in any interleaving of their requests.
-/

namespace SqliteServer

open Json

/-- Every session with its handler, and the world they share. -/
structure Server (World Conn : Type) where
  sessions : Nat → RequestHandler Conn
  world : World

/-- What happens to a server. The world may change by itself between two requests. -/
inductive ServerEvent (World : Type) where
  | request (session : Nat) (req : String)
  | disconnect (session : Nat)
  | environment (world : World)

section Step

variable {World Conn Stmt : Type} (backend : Backend World Conn Stmt) (config : Config)
  (serde : SerdeJson)

/-- A server no client has connected to. -/
def Server.start (world : World) : Server World Conn := ⟨fun _ => .new, world⟩

def Server.setSession (server : Server World Conn) (session : Nat)
    (handler : RequestHandler Conn) (world : World)
    : Server World Conn where
  sessions := fun other => if other = session then handler else server.sessions other
  world := world

/-- Close the connections of a session that ends. -/
def closeAll (handler : RequestHandler Conn) (world : World) : World :=
  handler.databases.foldl (fun world entry => backend.close world entry.2) world

/-- The server after an event, and the response, with its session, to a request. -/
def Server.step (server : Server World Conn)
    : ServerEvent World → Server World Conn × List (Nat × Value)
  | .request session req =>
      let handled :=
        handleRequest backend config serde req (server.sessions session) server.world
      (server.setSession session handled.2.1 handled.2.2, [(session, handled.1)])
  | .disconnect session =>
      (server.setSession session .new (closeAll backend (server.sessions session) server.world), [])
  | .environment world => ({ server with world := world }, [])

end Step

section Frame

variable {World Conn : Type} (server : Server World Conn) (session : Nat)
  (handler : RequestHandler Conn) (world : World)

@[simp]
theorem Server.setSession_self
    : (server.setSession session handler world).sessions session = handler :=
  if_pos rfl

theorem Server.setSession_other {other : Nat} (different : other ≠ session)
    : (server.setSession session handler world).sessions other = server.sessions other :=
  if_neg different

@[simp]
theorem Server.setSession_world
    : (server.setSession session handler world).world = world :=
  rfl

theorem Server.setSession_handler
    : server.setSession session (server.sessions session) world
      = { server with world := world } := by
  obtain ⟨sessions, _⟩ := server
  rw [setSession, mk.injEq]
  refine ⟨?_, rfl⟩
  funext other
  split_ifs with same
  · rw [same]
  · rfl

theorem Server.setSession_same
    : server.setSession session (server.sessions session) server.world = server :=
  server.setSession_handler session server.world

end Frame

end SqliteServer
