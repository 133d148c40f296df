import SqliteServer.Cidr
import SqliteServer.Files.Paths
import SqliteServer.KeyRepair

/-! Loading the configuration, from command line flags or from a JSON file. -/

namespace SqliteServer

open Json Files

/-- What loading asks of the system: `toSocketAddrs` resolves a host name and a port. -/
structure HostSystem where
  parseAddr : String → Option IpAddr
  toSocketAddrs : String → UInt16 → Option (List SocketAddr)
  currentDir : Except String String
  pathExists : String → Bool
  readToString : String → Except String String
  availableParallelism : Option UInt64

/-- The command line, its numbers as their declared types hold them. -/
structure Args where
  version : Bool
  config : Option String
  ip : String
  port : UInt16
  auth : String
  ipWhitelist : String
  databasesFolder : String
  workers : Option UInt64
  clientMaxPacketSize : UInt32
  busyTimeoutMs : UInt64

def defaultBusyTimeoutMs : UInt64 := 5000

section Loading

variable (system : HostSystem)

/-- The first IPv4 address of a host, or else its first; without one, the default endpoint. -/
def resolveEndpoint (ip : String) (port : UInt16) : SocketAddr :=
  match system.toSocketAddrs ip port with
  | some addrs => ((addrs.find? (fun a => a.ip.isIpv4)).or addrs.head?).getD defaultEndpoint
  | none => defaultEndpoint

def absolutePath (path : String) : Except Halt String :=
  if isAbsolute path then .ok path
  else
    match system.currentDir with
    | .ok dir => .ok (join dir path)
    | .error e => .error (.error ("Cannot resolve current directory: " ++ e))

/-- The folder made absolute; it must exist. -/
def resolveDatabasePath (path : String) : Except Halt String := do
  let absolute ← absolutePath system path
  if system.pathExists absolute then return absolute
  else throw (.error ("Databases folder does not exist in: " ++ absolute))

def defaultWorkers : UInt64 := system.availableParallelism.getD 1

def requireStr (json : Value) (key : String) : Except Halt String := do
  let value ← okOr (json.get key) ("Missing key: " ++ key ++ " in config")
  okOr value.asStr ("Key " ++ key ++ " must be a string")

/-- Only integers from 0 up that fit 64 bits. -/
def asU64 : Value → Option UInt64
  | .number (.posInt n) => some n
  | _ => none

def requireU64 (json : Value) (key : String) : Except Halt UInt64 := do
  let value ← okOr (json.get key) ("Missing key: " ++ key ++ " in config")
  okOr (asU64 value) ("Key " ++ key ++ " must be a non-negative number")

/-- Optional, since config files of the older server have no such key. -/
def busyTimeoutFrom (json : Value) : Except Halt UInt64 :=
  match json.get "busy_timeout_ms" with
  | some v => okOr (asU64 v) "Key busy_timeout_ms must be a non-negative number"
  | none => .ok defaultBusyTimeoutMs

/-- Optional; without a password, authentication is disabled. -/
def authFrom (json : Value) : Except Halt String :=
  match json.get "auth" with
  | some v => okOr v.asStr "Key auth must be a string"
  | none => .ok ""

/-- The settings of a config file, narrowed to the widths of the fields. -/
def Config.fromJson (json : Value) : Except Halt Config := do
  let listenIp ← requireStr json "listen_ip"
  let listenPort := (← requireU64 json "listen_port").toUInt16
  let busyTimeoutMs ← busyTimeoutFrom json
  let auth ← authFrom json
  let ipWhitelist ← parseWhitelistJson system.parseAddr json
  let workers ← requireU64 json "workers"
  let databasesFolder ← resolveDatabasePath system (← requireStr json "databases_folder")
  let clientMaxPacketSize := (← requireU64 json "client_max_packet_size").toUInt32
  return {
    listenAddr := resolveEndpoint system listenIp listenPort
    workers
    databasesFolder
    clientMaxPacketSize
    busyTimeoutMs
    auth
    ipWhitelist
  }

def Config.fromFile (serde : SerdeJson) (path : String) : Except Halt Config :=
  if system.pathExists path then
    match system.readToString path with
    | .error e => .error (.error ("Config read error: " ++ e))
    | .ok text =>
        match serde.fromStr text with
        | .error e => .error (.error ("Config parse error: " ++ e))
        | .ok json => Config.fromJson system json
  else .error (.error ("Config file does not exist in: " ++ path))

/-- The configuration of a command line: from its config file if it names one, and otherwise
from its flags. There is none if only the version is asked for.
-/
def Config.parse (serde : SerdeJson) (args : Args) : Except Halt (Option Config) :=
  if args.version then .ok none
  else
    match args.config with
    | some path => (Config.fromFile system serde path).map some
    | none => do
        let databasesFolder ← resolveDatabasePath system args.databasesFolder
        let ipWhitelist ← parseWhitelistCsv system.parseAddr args.ipWhitelist
        return some {
          listenAddr := resolveEndpoint system args.ip args.port
          workers := args.workers.getD (defaultWorkers system)
          databasesFolder
          clientMaxPacketSize := args.clientMaxPacketSize
          busyTimeoutMs := args.busyTimeoutMs
          auth := args.auth
          ipWhitelist
        }

end Loading

end SqliteServer
