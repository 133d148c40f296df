import SqliteServer.IpWhitelist
import SqliteServer.RequestParsing

/-! Settings written both ways: as command line flags and in a config file. -/

namespace SqliteServer

open Json Files

-----------------------------------------------------------------------------------------
-- Settings
-----------------------------------------------------------------------------------------

/-- Settings that can be written both ways: the whitelist's entries survive a comma-separated
list.
-/
structure Settings where
  ip : String
  folder : String
  auth : String
  port : Nat
  workers : Nat
  maxPacketSize : Nat
  busyTimeout : Nat
  whitelist : List String
  listed : ∀ entry ∈ whitelist, entry ≠ "" ∧ ',' ∉ entry.toList ∧ trim entry = entry

namespace Settings

/-- The flags; a number that does not fit the type of its flag is refused. -/
def args (settings : Settings) : Option Args :=
  if settings.port < 2 ^ 16 ∧ settings.workers < 2 ^ 64 ∧ settings.maxPacketSize < 2 ^ 32
      ∧ settings.busyTimeout < 2 ^ 64 then
    some {
      version := false
      config := none
      ip := settings.ip
      port := UInt16.ofNat settings.port
      auth := settings.auth
      ipWhitelist := ",".intercalate settings.whitelist
      databasesFolder := settings.folder
      workers := some (UInt64.ofNat settings.workers)
      clientMaxPacketSize := UInt32.ofNat settings.maxPacketSize
      busyTimeoutMs := UInt64.ofNat settings.busyTimeout
    }
  else none

/-- The fields of a config file, for a reader that stores an integer as `numberOf` says. -/
def fields (settings : Settings) (numberOf : Nat → Number) : List (String × Value) := [
  ("client_max_packet_size", .number (numberOf settings.maxPacketSize)),
  ("workers", .number (numberOf settings.workers)),
  ("listen_ip", .string settings.ip),
  ("listen_port", .number (numberOf settings.port)),
  ("busy_timeout_ms", .number (numberOf settings.busyTimeout)),
  ("databases_folder", .string settings.folder),
  ("auth", .string settings.auth),
  ("ip_whitelist", .array (settings.whitelist.map .string))
]

def json (settings : Settings) (numberOf : Nat → Number) : Value :=
  .ofFields (settings.fields numberOf)

/-- All numbers are 64-bit. -/
def FitsWords (settings : Settings) : Prop :=
  settings.port < 2 ^ 64 ∧ settings.workers < 2 ^ 64 ∧ settings.maxPacketSize < 2 ^ 64
  ∧ settings.busyTimeout < 2 ^ 64

/-- A text is read as the object of the settings; a reader may refuse one with a number beyond
64 bits, which no integer of its own can hold.
-/
def WrittenIn (settings : Settings) (serde : SerdeJson) (numberOf : Nat → Number) (text : String)
    : Prop :=
  serde.fromStr text = .ok (settings.json numberOf)
  ∨ ¬ settings.FitsWords ∧ ∃ message, serde.fromStr text = .error message

end Settings

/-- The loaded settings of the flags, unless they are refused. -/
def loadFlags (system : HostSystem) (serde : SerdeJson) (settings : Settings) : Option Config :=
  match settings.args with
  | none => none
  | some args => (Config.parse system serde args).toOption.join

def loadFile (system : HostSystem) (serde : SerdeJson) (path : String) : Option Config :=
  (Config.fromFile system serde path).toOption

/-- Each number of a configuration is the one written. -/
def Settings.NumbersAsWritten (settings : Settings) (config : Config) : Prop :=
  config.listenAddr.port.toNat = settings.port
  ∧ config.workers.toNat = settings.workers
  ∧ config.clientMaxPacketSize.toNat = settings.maxPacketSize
  ∧ config.busyTimeoutMs.toNat = settings.busyTimeout

/-- Both ways fail, or both give one configuration with the numbers as written. -/
def Settings.Agree (settings : Settings) (flags file : Option Config) : Prop :=
  flags = none ∧ file = none
  ∨ ∃ config, flags = some config ∧ file = some config ∧ settings.NumbersAsWritten config

/-- Addresses of a host and a port are at that port. -/
def HostSystem.KeepsPorts (system : HostSystem) : Prop :=
  ∀ ip port addrs, system.toSocketAddrs ip port = some addrs → ∀ addr ∈ addrs, addr.port = port

/-- The host has an address at the port; otherwise the server listens at port 3333. -/
def Settings.PortKept (settings : Settings) (system : HostSystem) : Prop :=
  (∃ addrs, system.toSocketAddrs settings.ip (UInt16.ofNat settings.port) = some addrs ∧ addrs ≠ [])
  ∨ settings.port = 3333

/-- What a config file needs for being loaded. -/
structure Settings.Loadable (settings : Settings) (system : HostSystem) : Prop where
  words : settings.FitsWords
  folder : ∃ folder, resolveDatabasePath system settings.folder = .ok folder
  entries : ∀ entry ∈ settings.whitelist, (writtenNetwork system.parseAddr entry).isSome = true

-----------------------------------------------------------------------------------------
-- The two whitelists
-----------------------------------------------------------------------------------------

/-- The entries of pieces joined with commas are the pieces, trimmed, that are not empty then. -/
theorem csvEntries_joined {s : String} {pieces : List (List Char)}
    (joined : s.toList = [','].intercalate pieces) (nonempty : pieces ≠ [])
    (noComma : ∀ piece ∈ pieces, ',' ∉ piece)
    : csvEntries s
      = (pieces.map (fun piece => trim (String.ofList piece))).filter (fun e => e ≠ "") := by
  rw [csvEntries, joined, List.splitOn_intercalate ',' noComma nonempty]

/-- The entries of a list joined with commas are read back. -/
theorem csvEntries_intercalate {entries : List String}
    (listed : ∀ entry ∈ entries, entry ≠ "" ∧ ',' ∉ entry.toList ∧ trim entry = entry)
    : csvEntries (",".intercalate entries) = entries := by
  cases entries with
  | nil => rfl
  | cons first rest =>
      have noComma : ∀ piece ∈ (first :: rest).map String.toList, ',' ∉ piece := by
        intro piece member
        obtain ⟨entry, inList, rfl⟩ := List.mem_map.mp member
        exact (listed entry inList).2.1
      have trimmed
          : (first :: rest).map ((fun piece => trim (String.ofList piece)) ∘ String.toList)
            = first :: rest := by
        calc
          (first :: rest).map ((fun piece => trim (String.ofList piece)) ∘ String.toList)
              = (first :: rest).map id := by
            refine List.map_congr_left ?_
            intro entry member
            rw [Function.comp_apply, String.ofList_toList]
            exact (listed entry member).2.2
          _ = first :: rest := List.map_id _
      have joined
          : (",".intercalate (first :: rest)).toList
            = [','].intercalate ((first :: rest).map String.toList) :=
        String.toList_intercalate
      rw [csvEntries_joined joined (List.cons_ne_nil _ _) noComma, List.map_map, trimmed,
        List.filter_eq_self]
      intro entry member
      exact decide_eq_true (listed entry member).1

theorem toOption_eq_some {α : Type} {x : Except Halt α} {a : α}
    : x.toOption = some a ↔ x = .ok a := by
  cases x <;> simp [Except.toOption]

theorem mapM_asStr_strings (entries : List String)
    : (entries.map Value.string).mapM Value.asStr = some entries := by
  induction entries with
  | nil => rfl
  | cons first rest ih =>
      rw [List.map_cons, List.mapM_cons, ih]
      rfl

-----------------------------------------------------------------------------------------
-- The two ways
-----------------------------------------------------------------------------------------

section Agreement

variable {system : HostSystem}

/-- The settings with a folder and networks, narrowed to the widths of the fields. -/
def Settings.narrowed (settings : Settings) (system : HostSystem) (folder : String)
    (nets : List Cidr) : Config where
  listenAddr := resolveEndpoint system settings.ip (UInt16.ofNat settings.port)
  workers := UInt64.ofNat settings.workers
  databasesFolder := folder
  clientMaxPacketSize := UInt32.ofNat settings.maxPacketSize
  busyTimeoutMs := UInt64.ofNat settings.busyTimeout
  auth := settings.auth
  ipWhitelist := nets

/-- The folder and the networks that both ways compute alike. -/
def Settings.Resolved (settings : Settings) (system : HostSystem) (folder : String)
    (nets : List Cidr) : Prop :=
  resolveDatabasePath system settings.folder = .ok folder
  ∧ settings.whitelist.mapM (Cidr.parse system.parseAddr) = .ok nets

/-- A reader's integers: those below 2^64 are words, and no others. -/
def ReadsWords (numberOf : Nat → Number) : Prop :=
  ∀ n, asU64 (.number (numberOf n)) = if n < 2 ^ 64 then some (UInt64.ofNat n) else none

section File

variable {numberOf : Nat → Number}

theorem get_json {settings : Settings} {key : String} {value : Value}
    (member : (key, value) ∈ settings.fields numberOf)
    : (settings.json numberOf).get key = some value := by
  refine Value.get_ofFields ?_ member
  simp [Settings.fields]

theorem requireStr_json {settings : Settings} {key s : String}
    (member : (key, .string s) ∈ settings.fields numberOf)
    : requireStr (settings.json numberOf) key = .ok s := by
  rw [requireStr, get_json member]
  rfl

theorem asU64_numberOf (reads : ReadsWords numberOf) (n : Nat) (word : UInt64)
    : asU64 (.number (numberOf n)) = some word ↔ n < 2 ^ 64 ∧ UInt64.ofNat n = word := by
  rw [reads, Option.ite_none_right_eq_some, Option.some.injEq]

theorem requireU64_json (reads : ReadsWords numberOf) {settings : Settings} {key : String} {n : Nat}
    (member : (key, .number (numberOf n)) ∈ settings.fields numberOf) (word : UInt64)
    : requireU64 (settings.json numberOf) key = .ok word
      ↔ n < 2 ^ 64 ∧ UInt64.ofNat n = word := by
  rw [requireU64, get_json member, ← asU64_numberOf reads, ← okOr_eq_ok]
  rfl

theorem busyTimeoutFrom_json (reads : ReadsWords numberOf) (settings : Settings) (word : UInt64)
    : busyTimeoutFrom (settings.json numberOf) = .ok word
      ↔ settings.busyTimeout < 2 ^ 64 ∧ UInt64.ofNat settings.busyTimeout = word := by
  have member
      : ("busy_timeout_ms", .number (numberOf settings.busyTimeout))
        ∈ settings.fields numberOf := by
    simp [Settings.fields]
  rw [busyTimeoutFrom, get_json member, ← asU64_numberOf reads, ← okOr_eq_ok]

theorem authFrom_json (settings : Settings)
    : authFrom (settings.json numberOf) = .ok settings.auth := by
  have member : ("auth", .string settings.auth) ∈ settings.fields numberOf := by
    simp [Settings.fields]
  rw [authFrom, get_json member]
  rfl

theorem parseWhitelistJson_json (settings : Settings) (parseAddr : String → Option IpAddr)
    : parseWhitelistJson parseAddr (settings.json numberOf)
      = settings.whitelist.mapM (Cidr.parse parseAddr) := by
  have member
      : ("ip_whitelist", .array (settings.whitelist.map .string)) ∈ settings.fields numberOf := by
    simp [Settings.fields]
  rw [parseWhitelistJson, get_json member]
  exact parseItems_texts (mapM_asStr_strings settings.whitelist)

/-- A file of settings is loaded iff its numbers are words and its folder and its whitelist are
accepted; its numbers are then narrowed.
-/
theorem fromJson_settings (reads : ReadsWords numberOf) (settings : Settings) (config : Config)
    : Config.fromJson system (settings.json numberOf) = .ok config
      ↔ settings.FitsWords
        ∧ ∃ folder nets,
            settings.Resolved system folder nets
            ∧ settings.narrowed system folder nets = config := by
  have port : ("listen_port", .number (numberOf settings.port)) ∈ settings.fields numberOf := by
    simp [Settings.fields]
  have workers : ("workers", .number (numberOf settings.workers)) ∈ settings.fields numberOf := by
    simp [Settings.fields]
  have packet
      : ("client_max_packet_size", .number (numberOf settings.maxPacketSize))
        ∈ settings.fields numberOf := by
    simp [Settings.fields]
  have ip : ("listen_ip", .string settings.ip) ∈ settings.fields numberOf := by
    simp [Settings.fields]
  have folder : ("databases_folder", .string settings.folder) ∈ settings.fields numberOf := by
    simp [Settings.fields]
  have narrow (n : Nat) : (UInt64.ofNat n).toUInt16 = UInt16.ofNat n := UInt64.toUInt16_ofNat' n
  have narrow' (n : Nat) : (UInt64.ofNat n).toUInt32 = UInt32.ofNat n := UInt64.toUInt32_ofNat' n
  unfold Config.fromJson
  rw [requireStr_json ip, authFrom_json, parseWhitelistJson_json, requireStr_json folder]
  constructor
  · intro loaded
    obtain ⟨_, ⟨⟩, loaded⟩ := bind_eq_ok loaded
    obtain ⟨_, portRead, loaded⟩ := bind_eq_ok loaded
    obtain ⟨_, busyRead, loaded⟩ := bind_eq_ok loaded
    obtain ⟨_, ⟨⟩, loaded⟩ := bind_eq_ok loaded
    obtain ⟨nets, parsed, loaded⟩ := bind_eq_ok loaded
    obtain ⟨_, workersRead, loaded⟩ := bind_eq_ok loaded
    obtain ⟨_, ⟨⟩, loaded⟩ := bind_eq_ok loaded
    obtain ⟨dir, resolved, loaded⟩ := bind_eq_ok loaded
    obtain ⟨_, packetRead, loaded⟩ := bind_eq_ok loaded
    obtain ⟨portFits, rfl⟩ := (requireU64_json reads port _).mp portRead
    obtain ⟨workersFit, rfl⟩ := (requireU64_json reads workers _).mp workersRead
    obtain ⟨packetFits, rfl⟩ := (requireU64_json reads packet _).mp packetRead
    obtain ⟨busyFits, rfl⟩ := (busyTimeoutFrom_json reads settings _).mp busyRead
    rw [narrow, narrow'] at loaded
    exact ⟨⟨portFits, workersFit, packetFits, busyFits⟩, dir, nets, ⟨resolved, parsed⟩,
      Except.ok.inj loaded⟩
  · rintro ⟨⟨portFits, workersFit, packetFits, busyFits⟩, dir, nets, ⟨resolved, parsed⟩, rfl⟩
    rw [(requireU64_json reads port _).mpr ⟨portFits, rfl⟩,
      (requireU64_json reads workers _).mpr ⟨workersFit, rfl⟩,
      (requireU64_json reads packet _).mpr ⟨packetFits, rfl⟩,
      (busyTimeoutFrom_json reads settings _).mpr ⟨busyFits, rfl⟩, parsed]
    dsimp only [bind, Except.bind]
    rw [resolved, narrow, narrow']
    rfl

/-- What loading a written file gives: the narrowed settings, if they are loadable. -/
theorem loadFile_settings (reads : ReadsWords numberOf) {serde : SerdeJson} {path text : String}
    {settings : Settings} (exists_ : system.pathExists path = true)
    (read : system.readToString path = .ok text) (written : settings.WrittenIn serde numberOf text)
    (config : Config)
    : loadFile system serde path = some config
      ↔ settings.FitsWords
        ∧ ∃ folder nets,
            settings.Resolved system folder nets
            ∧ settings.narrowed system folder nets = config := by
  unfold loadFile Config.fromFile
  rw [if_pos exists_, read]
  dsimp only
  rcases written with parsed | ⟨beyond, message, refused⟩
  · rw [parsed, ← fromJson_settings reads, toOption_eq_some]
  · rw [refused]
    exact iff_of_false nofun (fun loaded => beyond loaded.1)

end File

/-- What loading the flags gives: the same, if the flags are not refused. -/
theorem loadFlags_settings (serde : SerdeJson) (settings : Settings) (config : Config)
    : loadFlags system serde settings = some config
      ↔ (settings.port < 2 ^ 16 ∧ settings.workers < 2 ^ 64 ∧ settings.maxPacketSize < 2 ^ 32
          ∧ settings.busyTimeout < 2 ^ 64)
        ∧ ∃ folder nets,
            settings.Resolved system folder nets
            ∧ settings.narrowed system folder nets = config := by
  unfold loadFlags Settings.args
  split_ifs with fits
  · rw [and_iff_right fits]
    dsimp only
    rw [Option.join_eq_some_iff, toOption_eq_some, Config.parse, if_neg (by simp)]
    dsimp only [parseWhitelistCsv]
    rw [csvEntries_intercalate settings.listed]
    constructor
    · intro loaded
      obtain ⟨folder, resolved, loaded⟩ := bind_eq_ok loaded
      obtain ⟨nets, parsed, loaded⟩ := bind_eq_ok loaded
      exact ⟨folder, nets, ⟨resolved, parsed⟩, Option.some.inj (Except.ok.inj loaded)⟩
    · rintro ⟨folder, nets, ⟨resolved, parsed⟩, rfl⟩
      dsimp only [bind, Except.bind]
      rw [resolved, parsed]
      rfl
  · exact iff_of_false nofun (fun loaded => fits loaded.1)

/-- A setting is loadable iff its folder and its networks are computed. -/
theorem loadable_iff (settings : Settings)
    : settings.Loadable system
      ↔ settings.FitsWords ∧ ∃ folder nets, settings.Resolved system folder nets := by
  constructor
  · rintro ⟨words, ⟨folder, resolved⟩, entries⟩
    obtain ⟨nets, parsed, -⟩ := parseEntries_ok entries
    exact ⟨words, folder, nets, resolved, parsed⟩
  · rintro ⟨words, folder, nets, resolved, parsed⟩
    refine ⟨words, ⟨folder, resolved⟩, ?_⟩
    intro entry member
    by_contra malformed
    rw [Option.not_isSome_iff_eq_none] at malformed
    obtain ⟨message, refused⟩ := parseEntries_error ⟨entry, member, malformed⟩
    cases parsed.symm.trans refused

/-- The server listens at the port of its settings if the host has an address. -/
theorem resolveEndpoint_port (keeps : system.KeepsPorts) (ip : String) (port : UInt16)
    : (resolveEndpoint system ip port).port = port
      ↔ (∃ addrs, system.toSocketAddrs ip port = some addrs ∧ addrs ≠ []) ∨ port = 3333 := by
  unfold resolveEndpoint
  cases resolved : system.toSocketAddrs ip port with
  | none => simp [defaultEndpoint, eq_comm]
  | some addrs =>
      cases addrs with
      | nil => simp [defaultEndpoint, eq_comm]
      | cons first rest =>
          refine iff_of_true ?_ (.inl ⟨_, rfl, List.cons_ne_nil _ _⟩)
          dsimp only
          cases found : (first :: rest).find? (fun addr => addr.ip.isIpv4) with
          | none => exact keeps ip port _ resolved first List.mem_cons_self
          | some addr => exact keeps ip port _ resolved addr (List.mem_of_find?_eq_some found)

/-- Narrowing keeps the numbers that fit, and the port if it is the server's. -/
theorem narrowed_numbers (keeps : system.KeepsPorts) {settings : Settings}
    (port : settings.port < 2 ^ 16) (workers : settings.workers < 2 ^ 64)
    (packet : settings.maxPacketSize < 2 ^ 32) (busy : settings.busyTimeout < 2 ^ 64)
    (folder : String) (nets : List Cidr)
    : settings.NumbersAsWritten (settings.narrowed system folder nets)
      ↔ settings.PortKept system := by
  have word : (UInt16.ofNat settings.port).toNat = settings.port :=
    UInt16.toNat_ofNat_of_lt' port
  have default : UInt16.ofNat settings.port = 3333 ↔ settings.port = 3333 := by
    rw [← UInt16.toNat_inj, word]
    rfl
  unfold Settings.NumbersAsWritten Settings.PortKept
  rw [← default, ← resolveEndpoint_port keeps, ← UInt16.toNat_inj, word]
  refine and_iff_left ⟨?_, ?_, ?_⟩
  · exact UInt64.toNat_ofNat_of_lt' workers
  · exact UInt32.toNat_ofNat_of_lt' packet
  · exact UInt64.toNat_ofNat_of_lt' busy

/-- The two ways agree iff settings that a file can hold have a port and a packet size of the
widths of their fields, and a host with an address: the file's numbers are narrowed, the flags'
are refused.
-/
theorem settings_agree_iff {serde : SerdeJson} {numberOf : Nat → Number} {path text : String}
    {settings : Settings} (reads : ReadsWords numberOf) (keeps : system.KeepsPorts)
    (exists_ : system.pathExists path = true) (read : system.readToString path = .ok text)
    (written : settings.WrittenIn serde numberOf text)
    : settings.Agree (loadFlags system serde settings) (loadFile system serde path)
      ↔ (settings.Loadable system
        → settings.port < 2 ^ 16 ∧ settings.maxPacketSize < 2 ^ 32
          ∧ settings.PortKept system) := by
  have file := loadFile_settings reads exists_ read written
  rw [loadable_iff]
  constructor
  · rintro (⟨-, noFile⟩ | ⟨config, loadedFlags, -, numbers⟩) ⟨words, folder, nets, resolved⟩
    · have loaded := (file _).mpr ⟨words, folder, nets, resolved, rfl⟩
      rw [noFile] at loaded
      contradiction
    · obtain ⟨⟨port, workers, packet, busy⟩, folder', nets', -, rfl⟩ :=
        (loadFlags_settings serde settings config).mp loadedFlags
      have kept := (narrowed_numbers keeps port workers packet busy folder' nets').mp numbers
      exact ⟨port, packet, kept⟩
  · intro fits
    by_cases loads : settings.FitsWords ∧ ∃ folder nets, settings.Resolved system folder nets
    · obtain ⟨port, packet, kept⟩ := fits loads
      obtain ⟨words, folder, nets, resolved⟩ := loads
      refine .inr ⟨settings.narrowed system folder nets, ?_, ?_, ?_⟩
      · exact (loadFlags_settings serde settings _).mpr
          ⟨⟨port, words.2.1, packet, words.2.2.2⟩, folder, nets, resolved, rfl⟩
      · exact (file _).mpr ⟨words, folder, nets, resolved, rfl⟩
      · exact (narrowed_numbers keeps port words.2.1 packet words.2.2.2 folder nets).mpr kept
    · left
      constructor
      · refine Option.eq_none_iff_forall_ne_some.mpr ?_
        intro config loaded
        obtain ⟨⟨port, workers, packet, busy⟩, folder, nets, resolved, -⟩ :=
          (loadFlags_settings serde settings config).mp loaded
        have words : settings.FitsWords :=
          ⟨port.trans (by decide), workers, packet.trans (by decide), busy⟩
        exact loads ⟨words, folder, nets, resolved⟩
      · refine Option.eq_none_iff_forall_ne_some.mpr ?_
        intro config loaded
        obtain ⟨words, folder, nets, resolved, -⟩ := (file config).mp loaded
        exact loads ⟨words, folder, nets, resolved⟩

end Agreement

/-- A host that resolves only its own address. -/
def loopbackHost (text : String) : HostSystem where
  parseAddr s := if s = "127.0.0.1" then some defaultEndpoint.ip else none
  toSocketAddrs ip port := if ip = "127.0.0.1" then some [⟨defaultEndpoint.ip, port⟩] else none
  currentDir := .ok "/"
  pathExists path := path == "/etc/sqlite-server.json" || path == "/srv/a"
  readToString path := if path = "/etc/sqlite-server.json" then .ok text else .error "not found"
  availableParallelism := some 4

theorem loopbackHost_keepsPorts (text : String) : (loopbackHost text).KeepsPorts := by
  intro ip port addrs resolved addr member
  dsimp only [loopbackHost] at resolved
  split_ifs at resolved
  obtain rfl := Option.some.inj resolved
  rw [List.mem_singleton.mp member]

/-- Words are stored as integers, and greater numbers as floats. -/
def wordOrFloat (n : Nat) : Number :=
  if n < 2 ^ 64 then .posInt (UInt64.ofNat n) else .float ⟨0x43f0000000000000, by decide⟩

theorem wordOrFloat_readsWords : ReadsWords wordOrFloat := by
  intro n
  unfold wordOrFloat
  split_ifs <;> rfl

def loopbackSettings (port : Nat) : Settings where
  ip := "127.0.0.1"
  folder := "/srv/a"
  auth := ""
  port := port
  workers := 3
  maxPacketSize := 1024
  busyTimeout := 1234
  whitelist := ["127.0.0.1"]
  listed := by decide

/-- The file of these settings, with the digits of the port. -/
def loopbackFile (port : String) : String :=
  "\x7b\"client_max_packet_size\":1024,\"workers\":3,"
  ++ "\"listen_ip\":\"127.0.0.1\",\"listen_port\":" ++ port
  ++ ",\"busy_timeout_ms\":1234,\"databases_folder\":\"/srv/a\",\"auth\":\"\","
  ++ "\"ip_whitelist\":[\"127.0.0.1\"]\x7d"

theorem settings_agree_loopback
    : (loopbackSettings 4567).Agree
          (loadFlags (loopbackHost (loopbackFile "4567")) unsignedReader (loopbackSettings 4567))
          (loadFile (loopbackHost (loopbackFile "4567")) unsignedReader "/etc/sqlite-server.json")
      ↔ ((loopbackSettings 4567).Loadable (loopbackHost (loopbackFile "4567"))
        → (loopbackSettings 4567).port < 2 ^ 16 ∧ (loopbackSettings 4567).maxPacketSize < 2 ^ 32
          ∧ (loopbackSettings 4567).PortKept (loopbackHost (loopbackFile "4567"))) :=
  settings_agree_iff wordOrFloat_readsWords (loopbackHost_keepsPorts _) (by decide) rfl
    (.inl (by decide +kernel))

/-- Port 68869 is refused as a flag; the file gives port 3333. -/
theorem settings_disagree_port
    : ¬ (loopbackSettings 68869).Agree
        (loadFlags (loopbackHost (loopbackFile "68869")) unsignedReader (loopbackSettings 68869))
        (loadFile (loopbackHost (loopbackFile "68869")) unsignedReader
          "/etc/sqlite-server.json") := by
  rintro (⟨-, noFile⟩ | ⟨config, flags, -, -⟩)
  · have loaded
        : (loadFile (loopbackHost (loopbackFile "68869")) unsignedReader
            "/etc/sqlite-server.json").isSome = true := by
      decide +kernel
    rw [noFile, Option.isSome_none] at loaded
    exact Bool.false_ne_true loaded
  · exact absurd ((loadFlags_settings _ _ config).mp flags).1.1 (by decide)

end SqliteServer
