import SqliteServer.Json.Value

/-! The runtime configuration. -/

namespace SqliteServer

inductive IpAddr where
  | v4 (octets : Vector UInt8 4)
  | v6 (octets : Vector UInt8 16)
deriving DecidableEq

structure SocketAddr where
  ip : IpAddr
  port : UInt16
deriving DecidableEq

/-- A network of the IP whitelist. -/
structure Cidr where
  network : IpAddr
  prefixLen : UInt8
deriving DecidableEq

structure Config where
  listenAddr : SocketAddr
  workers : UInt64
  databasesFolder : String
  clientMaxPacketSize : UInt32
  busyTimeoutMs : UInt64
  /-- Without a password, no client needs to authenticate. -/
  auth : String
  ipWhitelist : List Cidr
deriving DecidableEq

/-- Where a server listens that was told no address, or one that cannot be resolved. -/
def defaultEndpoint : SocketAddr := ⟨.v4 #v[127, 0, 0, 1], 3333⟩

/-- The settings of a server that was given a folder and a password and nothing else. -/
def Config.standard (databasesFolder auth : String) : Config where
  listenAddr := defaultEndpoint
  workers := 4
  databasesFolder := databasesFolder
  clientMaxPacketSize := 16777216
  busyTimeoutMs := 5000
  auth := auth
  ipWhitelist := []

end SqliteServer
