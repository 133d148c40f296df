import SqliteServer.ConfigLoading
import SqliteServer.RequestParsing

/-! Which peers the accept loop lets in. -/

namespace SqliteServer

open Json

-----------------------------------------------------------------------------------------
-- Accepting
-----------------------------------------------------------------------------------------

/-- What the listener gives: a peer or an error. -/
inductive Incoming where
  | connection (peer : SocketAddr)
  | failed (err : String)

def Incoming.peer? : Incoming → Option SocketAddr
  | .connection peer => some peer
  | .failed _ => none

/-- The peers that the accept loop starts handlers for, in order, until the shutdown. -/
def acceptLoop (config : Config) : List Incoming → Except Halt (List SocketAddr)
  | [] => .ok []
  | .failed _ :: later => acceptLoop config later
  | .connection peer :: later => do
      let allowed ← config.isIpAllowed peer.ip
      let started ← acceptLoop config later
      return if allowed then peer :: started else started

section Decision

variable {parseAddr : String → Option IpAddr}

/-- Some entry's network, as written, has the family and the first bits of the address. -/
def MatchesEntry (parseAddr : String → Option IpAddr) (entries : List String) (ip : IpAddr)
    : Prop :=
  ∃ entry ∈ entries,
    ∃ network, writtenNetwork parseAddr entry = some network ∧ MatchesNetwork network ip

/-- Well-formed entries are parsed into as many networks, one of which contains an address iff it
matches an entry: by induction on the entries.
-/
theorem parseEntries_ok {entries : List String}
    (wellFormed : ∀ entry ∈ entries, (writtenNetwork parseAddr entry).isSome = true)
    : ∃ nets,
        entries.mapM (Cidr.parse parseAddr) = .ok nets
        ∧ nets.length = entries.length
        ∧ ∀ ip, ∃ result,
            anyContains ip nets = .ok result
            ∧ (result = true ↔ MatchesEntry parseAddr entries ip) := by
  induction entries with
  | nil => exact ⟨[], rfl, rfl, fun ip => ⟨false, rfl, by simp [MatchesEntry]⟩⟩
  | cons entry rest ih =>
      obtain ⟨network, written⟩ :=
        Option.isSome_iff_exists.mp (wellFormed entry List.mem_cons_self)
      obtain ⟨net, parsed, contains⟩ := parse_ok written
      obtain ⟨nets, parsedRest, length, any⟩ :=
        ih (fun e member => wellFormed e (List.mem_cons_of_mem _ member))
      refine ⟨net :: nets, by rw [List.mapM_cons, parsed, parsedRest]; rfl, by simp [length], ?_⟩
      intro ip
      obtain ⟨here, decided, decides⟩ := contains ip
      obtain ⟨there, decidedRest, decidesRest⟩ := any ip
      have split
          : MatchesEntry parseAddr (entry :: rest) ip
            ↔ MatchesNetwork network ip ∨ MatchesEntry parseAddr rest ip := by
        simp only [MatchesEntry, List.mem_cons, exists_eq_or_imp, written, Option.some.injEq,
          exists_eq_left']
      rw [split, ← decides, ← decidesRest]
      cases here with
      | true => exact ⟨true, by rw [anyContains, decided]; rfl, by simp⟩
      | false =>
          refine ⟨there, ?_, by simp⟩
          rw [anyContains, decided]
          exact decidedRest

/-- One malformed entry refuses the whole list, by induction on the entries before it. -/
theorem parseEntries_error {entries : List String}
    (malformed : ∃ entry ∈ entries, writtenNetwork parseAddr entry = none)
    : ∃ message, entries.mapM (Cidr.parse parseAddr) = .error (.error message) := by
  induction entries with
  | nil => simp at malformed
  | cons entry rest ih =>
      cases written : writtenNetwork parseAddr entry with
      | none =>
          exact ⟨_, by rw [List.mapM_cons, parse_error written]; rfl⟩
      | some network =>
          obtain ⟨net, parsed, -⟩ := parse_ok written
          have later : ∃ e ∈ rest, writtenNetwork parseAddr e = none := by
            obtain ⟨e, member, none'⟩ := malformed
            rcases List.mem_cons.mp member with rfl | inRest
            · rw [written] at none'
              contradiction
            · exact ⟨e, inRest, none'⟩
          obtain ⟨message, refused⟩ := ih later
          exact ⟨message, by rw [List.mapM_cons, parsed, refused]; rfl⟩

/-- The accept loop starts handlers for the peers that the whitelist decides to let in, by
induction on what is accepted.
-/
theorem acceptLoop_ok {config : Config} (decide' : IpAddr → Bool)
    (decided : ∀ ip, config.isIpAllowed ip = .ok (decide' ip)) (accepted : List Incoming)
    : acceptLoop config accepted
      = .ok ((accepted.filterMap Incoming.peer?).filter (fun peer => decide' peer.ip)) := by
  induction accepted with
  | nil => rfl
  | cons event later ih =>
      cases event with
      | failed err => rw [acceptLoop, ih]; rfl
      | connection peer =>
          rw [acceptLoop, decided, ih]
          cases allowed : decide' peer.ip with
          | false => simp [allowed, Incoming.peer?, bind, Except.bind, pure, Except.pure]
          | true => simp [allowed, Incoming.peer?, bind, Except.bind, pure, Except.pure]

/-- The accept loop starts a handler for exactly the peers that match an entry, or for every peer
if there are no entries.
-/
def DecidesByPrefix (parseAddr : String → Option IpAddr) (entries : List String) (config : Config)
    : Prop :=
  ∃ allowed : IpAddr → Bool,
    (∀ ip, allowed ip = true ↔ entries = [] ∨ MatchesEntry parseAddr entries ip)
    ∧ ∀ accepted,
        acceptLoop config accepted
        = .ok ((accepted.filterMap Incoming.peer?).filter (fun peer => allowed peer.ip))

/-- A configuration with the networks of some entries decides by them. -/
theorem decidesByPrefix_of_parsed {entries : List String} {config : Config}
    (parsed : entries.mapM (Cidr.parse parseAddr) = .ok config.ipWhitelist)
    : DecidesByPrefix parseAddr entries config := by
  have wellFormed : ∀ entry ∈ entries, (writtenNetwork parseAddr entry).isSome = true := by
    intro entry member
    by_contra none'
    rw [Option.not_isSome_iff_eq_none] at none'
    obtain ⟨message, refused⟩ := parseEntries_error ⟨entry, member, none'⟩
    rw [parsed] at refused
    contradiction
  obtain ⟨nets, parsedNets, length, any⟩ := parseEntries_ok wellFormed
  obtain rfl : config.ipWhitelist = nets := Except.ok.inj (parsed.symm.trans parsedNets)
  choose result decided decides using any
  have empty : config.ipWhitelist.isEmpty = true ↔ entries = [] := by
    rw [List.isEmpty_iff, ← List.length_eq_zero_iff, length, List.length_eq_zero_iff]
  have allowed
      : ∀ ip, ∃ allowed,
          config.isIpAllowed ip = .ok allowed
          ∧ (allowed = true ↔ entries = [] ∨ MatchesEntry parseAddr entries ip) := by
    intro ip
    rw [← empty, ← decides, ← Bool.or_eq_true]
    unfold Config.isIpAllowed
    cases config.ipWhitelist.isEmpty with
    | true => exact ⟨true, rfl, by simp⟩
    | false => exact ⟨result ip, decided ip, by simp⟩
  choose decision ok prefix_ using allowed
  exact ⟨decision, prefix_, acceptLoop_ok decision ok⟩

/-- The entries that a config file writes, if its list has only texts. -/
def jsonEntries (json : Value) : Option (List String) :=
  match json.get "ip_whitelist" with
  | none => some []
  | some (.array items) => items.mapM Value.asStr
  | some _ => none

/-- The entries that a command line or its config file writes, if that file can be read. -/
def whitelistEntries (system : HostSystem) (serde : SerdeJson) (args : Args)
    : Option (List String) :=
  match args.config with
  | none => some (csvEntries args.ipWhitelist)
  | some path =>
      match system.readToString path with
      | .error _ => none
      | .ok text =>
          match serde.fromStr text with
          | .error _ => none
          | .ok json => jsonEntries json

/-- The list of a config file is parsed as its texts are, if it has only texts. -/
theorem parseItems_texts {items : List Value} {entries : List String}
    (texts : items.mapM Value.asStr = some entries)
    : items.mapM (parseWhitelistItem parseAddr) = entries.mapM (Cidr.parse parseAddr) := by
  induction items generalizing entries with
  | nil =>
      obtain rfl : [] = entries := Option.some.inj texts
      rfl
  | cons item rest ih =>
      rw [List.mapM_cons] at texts
      cases text : item.asStr with
      | none => simp [text] at texts
      | some s =>
          cases later : rest.mapM Value.asStr with
          | none => simp [text, later] at texts
          | some others =>
              simp only [text, later, Option.bind_eq_bind, Option.bind_some, Option.pure_def,
                Option.some.injEq] at texts
              subst texts
              rw [List.mapM_cons, List.mapM_cons, ih later, parseWhitelistItem, text]
              rfl

/-- A list of the config file with anything but texts is refused. -/
theorem parseItems_ok {items : List Value} {nets : List Cidr}
    (parsed : items.mapM (parseWhitelistItem parseAddr) = .ok nets)
    : ∃ entries, items.mapM Value.asStr = some entries := by
  induction items generalizing nets with
  | nil => exact ⟨[], rfl⟩
  | cons item rest ih =>
      rw [List.mapM_cons] at parsed
      obtain ⟨net, first, parsed⟩ := bind_eq_ok parsed
      obtain ⟨nets', others, -⟩ := bind_eq_ok parsed
      obtain ⟨s, text, -⟩ := bind_eq_ok first
      obtain ⟨entries, texts⟩ := ih others
      exact ⟨s :: entries, by rw [List.mapM_cons, okOr_eq_ok.mp text, texts]; rfl⟩

end Decision

-----------------------------------------------------------------------------------------
-- Whole configurations
-----------------------------------------------------------------------------------------

/-- A computation that does not panic. -/
def Calm {α : Type} (x : Except Halt α) : Prop := x ≠ .error .panic

namespace Calm

variable {α β : Type}

theorem ok (a : α) : Calm (.ok a) := nofun

theorem error (message : String) : Calm (.error (.error message) : Except Halt α) := nofun

theorem okOr (value? : Option α) (message : String) : Calm (okOr value? message) := by
  cases value? with
  | none => exact error message
  | some value => exact ok value

theorem bind {x : Except Halt α} {f : α → Except Halt β} (first : Calm x) (later : ∀ a, Calm (f a))
    : Calm (x >>= f) := by
  cases x with
  | error halt =>
      intro panics
      cases panics
      exact first rfl
  | ok a => exact later a

theorem map {x : Except Halt α} (f : α → β) (calm : Calm x) : Calm (x.map f) := by
  cases x with
  | error halt =>
      intro panics
      cases panics
      exact calm rfl
  | ok a => exact ok _

theorem mapM {f : α → Except Halt β} (calm : ∀ a, Calm (f a)) (items : List α)
    : Calm (items.mapM f) := by
  induction items with
  | nil => exact ok []
  | cons item rest ih =>
      rw [List.mapM_cons]
      exact (calm item).bind (fun _ => ih.bind (fun _ => ok _))

end Calm

section Loading

variable (system : HostSystem)

theorem parse_calm (parseAddr : String → Option IpAddr) (entry : String)
    : Calm (Cidr.parse parseAddr entry) := by
  cases written : writtenNetwork parseAddr entry with
  | none =>
      rw [parse_error written]
      exact Calm.error _
  | some network =>
      obtain ⟨net, parsed, -⟩ := parse_ok written
      rw [parsed]
      exact Calm.ok net

theorem parseWhitelistJson_calm (parseAddr : String → Option IpAddr) (json : Value)
    : Calm (parseWhitelistJson parseAddr json) := by
  unfold parseWhitelistJson
  split
  · exact Calm.ok _
  · exact Calm.mapM (fun _ => (Calm.okOr _ _).bind (fun s => parse_calm parseAddr s)) _
  · exact Calm.error _

theorem resolveDatabasePath_calm (path : String) : Calm (resolveDatabasePath system path) := by
  unfold resolveDatabasePath
  refine Calm.bind ?_ ?_
  · unfold absolutePath
    split
    · exact Calm.ok _
    · split
      · exact Calm.ok _
      · exact Calm.error _
  · intro absolute
    split
    · exact Calm.ok _
    · exact Calm.error _

theorem requireStr_calm (json : Value) (key : String) : Calm (requireStr json key) :=
  (Calm.okOr _ _).bind (fun _ => Calm.okOr _ _)

theorem requireU64_calm (json : Value) (key : String) : Calm (requireU64 json key) :=
  (Calm.okOr _ _).bind (fun _ => Calm.okOr _ _)

theorem busyTimeoutFrom_calm (json : Value) : Calm (busyTimeoutFrom json) := by
  unfold busyTimeoutFrom
  split
  · exact Calm.okOr _ _
  · exact Calm.ok _

theorem authFrom_calm (json : Value) : Calm (authFrom json) := by
  unfold authFrom
  split
  · exact Calm.okOr _ _
  · exact Calm.ok _

theorem fromJson_calm (json : Value) : Calm (Config.fromJson system json) := by
  unfold Config.fromJson
  refine (requireStr_calm json _).bind (fun listenIp => ?_)
  refine (requireU64_calm json _).bind (fun listenPort => ?_)
  refine (busyTimeoutFrom_calm json).bind (fun busyTimeoutMs => ?_)
  refine (authFrom_calm json).bind (fun auth => ?_)
  refine (parseWhitelistJson_calm _ json).bind (fun ipWhitelist => ?_)
  refine (requireU64_calm json _).bind (fun workers => ?_)
  refine (requireStr_calm json _).bind (fun folder => ?_)
  refine (resolveDatabasePath_calm system folder).bind (fun databasesFolder => ?_)
  exact (requireU64_calm json _).bind (fun clientMaxPacketSize => Calm.ok _)

theorem fromFile_calm (serde : SerdeJson) (path : String)
    : Calm (Config.fromFile system serde path) := by
  unfold Config.fromFile
  split
  · split
    · exact Calm.error _
    · split
      · exact Calm.error _
      · exact fromJson_calm system _
  · exact Calm.error _

/-- Loading a configuration never panics. -/
theorem configParse_calm (serde : SerdeJson) (args : Args)
    : Calm (Config.parse system serde args) := by
  unfold Config.parse
  split
  · exact Calm.ok _
  · split
    · exact (fromFile_calm system serde _).map _
    · refine (resolveDatabasePath_calm system _).bind (fun databasesFolder => ?_)
      refine (Calm.mapM (parse_calm _) _).bind (fun ipWhitelist => ?_)
      exact Calm.ok _

/-- The whitelist of a loaded file is its array's. -/
theorem fromJson_whitelist {json : Value} {config : Config}
    (loaded : Config.fromJson system json = .ok config)
    : parseWhitelistJson system.parseAddr json = .ok config.ipWhitelist := by
  unfold Config.fromJson at loaded
  obtain ⟨listenIp, -, loaded⟩ := bind_eq_ok loaded
  obtain ⟨listenPort, -, loaded⟩ := bind_eq_ok loaded
  obtain ⟨busyTimeoutMs, -, loaded⟩ := bind_eq_ok loaded
  obtain ⟨auth, -, loaded⟩ := bind_eq_ok loaded
  obtain ⟨ipWhitelist, parsed, loaded⟩ := bind_eq_ok loaded
  obtain ⟨workers, -, loaded⟩ := bind_eq_ok loaded
  obtain ⟨folder, -, loaded⟩ := bind_eq_ok loaded
  obtain ⟨databasesFolder, -, loaded⟩ := bind_eq_ok loaded
  obtain ⟨clientMaxPacketSize, -, loaded⟩ := bind_eq_ok loaded
  obtain rfl := Except.ok.inj loaded
  exact parsed

/-- What a loaded file writes. -/
theorem fromFile_ok {serde : SerdeJson} {path : String} {config : Config}
    (loaded : Config.fromFile system serde path = .ok config)
    : ∃ text json,
        system.readToString path = .ok text
        ∧ serde.fromStr text = .ok json
        ∧ Config.fromJson system json = .ok config := by
  unfold Config.fromFile at loaded
  split_ifs at loaded
  cases read : system.readToString path with
  | error e =>
      rw [read] at loaded
      cases loaded
  | ok text =>
      rw [read] at loaded
      dsimp only at loaded
      cases parsed : serde.fromStr text with
      | error e =>
          rw [parsed] at loaded
          cases loaded
      | ok json =>
          rw [parsed] at loaded
          exact ⟨text, json, rfl, parsed, loaded⟩

/-- The list of an accepted file has only texts, which are all parsed. -/
theorem fromJson_entries {json : Value} {config : Config}
    (loaded : Config.fromJson system json = .ok config)
    : ∃ entries,
        jsonEntries json = some entries
        ∧ entries.mapM (Cidr.parse system.parseAddr) = .ok config.ipWhitelist := by
  have parsed := fromJson_whitelist system loaded
  unfold parseWhitelistJson at parsed
  unfold jsonEntries
  cases list : json.get "ip_whitelist" with
  | none =>
      rw [list] at parsed
      exact ⟨[], rfl, parsed⟩
  | some value =>
      rw [list] at parsed
      cases value with
      | array items =>
          obtain ⟨entries, texts⟩ := parseItems_ok parsed
          exact ⟨entries, texts, parseItems_texts texts ▸ parsed⟩
      | _ => cases parsed

/-- The entries of an accepted configuration are all parsed, into its whitelist. -/
theorem configParse_entries {serde : SerdeJson} {args : Args} {config : Config}
    (loaded : Config.parse system serde args = .ok (some config))
    : ∃ entries,
        whitelistEntries system serde args = some entries
        ∧ entries.mapM (Cidr.parse system.parseAddr) = .ok config.ipWhitelist := by
  unfold Config.parse at loaded
  split_ifs at loaded
  · cases loaded
  unfold whitelistEntries
  cases named : args.config with
  | none =>
      rw [named] at loaded
      obtain ⟨databasesFolder, -, loaded⟩ := bind_eq_ok loaded
      obtain ⟨ipWhitelist, parsed, loaded⟩ := bind_eq_ok loaded
      obtain rfl := Option.some.inj (Except.ok.inj loaded)
      exact ⟨_, rfl, parsed⟩
  | some path =>
      rw [named] at loaded
      dsimp only at loaded
      cases file : Config.fromFile system serde path with
      | error halt =>
          rw [file] at loaded
          cases loaded
      | ok config' =>
          rw [file] at loaded
          obtain rfl := Option.some.inj (Except.ok.inj loaded)
          obtain ⟨text, json, read, parsed, fromJson⟩ := fromFile_ok system file
          dsimp only
          rw [read]
          dsimp only
          rw [parsed]
          exact fromJson_entries system fromJson

/-- Only asking for the version gives no configuration. -/
theorem configParse_none {serde : SerdeJson} {args : Args}
    (loaded : Config.parse system serde args = .ok none)
    : args.version = true := by
  unfold Config.parse at loaded
  split_ifs at loaded with version
  · exact version
  cases named : args.config with
  | none =>
      rw [named] at loaded
      obtain ⟨databasesFolder, -, loaded⟩ := bind_eq_ok loaded
      obtain ⟨ipWhitelist, -, loaded⟩ := bind_eq_ok loaded
      cases loaded
  | some path =>
      rw [named] at loaded
      dsimp only at loaded
      cases file : Config.fromFile system serde path with
      | error halt =>
          rw [file] at loaded
          cases loaded
      | ok config =>
          rw [file] at loaded
          cases loaded

/-- The whitelist decides by prefix: handlers are started for exactly the peers with the family
and the first bits of some entry as written, a malformed entry refuses the configuration, and
neither parsing nor matching ever panics.
-/
theorem whitelist_decides_by_prefix (serde : SerdeJson) (args : Args)
    : (∀ config,
        Config.parse system serde args = .ok (some config)
        → ∃ entries,
            whitelistEntries system serde args = some entries
            ∧ DecidesByPrefix system.parseAddr entries config)
      ∧ (∀ entries,
          args.version = false
          → whitelistEntries system serde args = some entries
          → (∃ entry ∈ entries, writtenNetwork system.parseAddr entry = none)
          → ∃ message, Config.parse system serde args = .error (.error message))
      ∧ Config.parse system serde args ≠ .error .panic
      ∧ ∀ (addr : IpAddr) (prefixLen : UInt8),
          prefixLen.toNat ≤ addr.width
          → ∃ network,
              canonicalize addr prefixLen = .ok network
              ∧ ∀ ip, ∃ result, Cidr.contains ⟨network, prefixLen⟩ ip = .ok result := by
  refine ⟨?_, ?_, configParse_calm system serde args, ?_⟩
  · intro config loaded
    obtain ⟨entries, written, parsed⟩ := configParse_entries system loaded
    exact ⟨entries, written, decidesByPrefix_of_parsed parsed⟩
  · intro entries run written malformed
    cases loaded : Config.parse system serde args with
    | error halt =>
        cases halt with
        | panic => exact absurd loaded (configParse_calm system serde args)
        | error message => exact ⟨message, rfl⟩
    | ok config? =>
        cases config? with
        | none => cases run.symm.trans (configParse_none system loaded)
        | some config =>
            obtain ⟨entries', written', parsed⟩ := configParse_entries system loaded
            obtain rfl : entries = entries' := Option.some.inj (written.symm.trans written')
            obtain ⟨message, refused⟩ := parseEntries_error malformed
            cases parsed.symm.trans refused
  · intro addr prefixLen fits
    obtain ⟨network, canonical, -⟩ := canonicalize_ok addr prefixLen
    refine ⟨network, canonical, ?_⟩
    intro ip
    obtain ⟨result, contained, -⟩ := contains_canonicalize fits canonical ip
    exact ⟨result, contained⟩

end Loading

/-- The network of an office. -/
def officeNetwork : IpAddr := .v4 #v[10, 0, 0, 0]

/-- A host that reads one address, that of the office's network. -/
def officeHost : HostSystem where
  parseAddr s := if s = "10.0.0.0" then some officeNetwork else none
  toSocketAddrs _ _ := none
  currentDir := .ok "/"
  pathExists path := path == "/srv/sqlite"
  readToString _ := .error "not found"
  availableParallelism := some 4

/-- The flags of a server for this network. -/
def officeArgs : Args where
  version := false
  config := none
  ip := "127.0.0.1"
  port := 3333
  auth := ""
  ipWhitelist := "10.0.0.0/8"
  databasesFolder := "/srv/sqlite"
  workers := none
  clientMaxPacketSize := 16777216
  busyTimeoutMs := 5000

/-- A peer from the network is let in, and one from elsewhere is refused. -/
theorem whitelist_decides_by_prefix_office
    : ∃ config,
        Config.parse officeHost unsignedReader officeArgs = .ok (some config)
        ∧ acceptLoop config
              [
                .connection ⟨.v4 #v[10, 1, 2, 3], 40000⟩,
                .connection ⟨.v4 #v[192, 168, 0, 1], 40000⟩
              ]
            = .ok [⟨.v4 #v[10, 1, 2, 3], 40000⟩] := by
  have loads
      : ((Config.parse officeHost unsignedReader officeArgs).toOption.bind id).isSome = true := by
    decide +kernel
  obtain ⟨config, found⟩ := Option.isSome_iff_exists.mp loads
  have loaded : Config.parse officeHost unsignedReader officeArgs = .ok (some config) := by
    cases parsed : Config.parse officeHost unsignedReader officeArgs with
    | error halt =>
        rw [parsed] at found
        cases found
    | ok config? =>
        rw [parsed] at found
        exact congrArg Except.ok found
  obtain ⟨accepted, -⟩ := whitelist_decides_by_prefix officeHost unsignedReader officeArgs
  obtain ⟨entries, written, allowed, decides, accepts⟩ := accepted config loaded
  have only : whitelistEntries officeHost unsignedReader officeArgs = some ["10.0.0.0/8"] := by
    decide +kernel
  obtain rfl : ["10.0.0.0/8"] = entries := Option.some.inj (only.symm.trans written)
  have network
      : writtenNetwork officeHost.parseAddr "10.0.0.0/8" = some (.v4 #v[10, 0, 0, 0], 8) := by
    decide +kernel
  have decision (ip : IpAddr)
      : allowed ip = true ↔ MatchesNetwork (.v4 #v[10, 0, 0, 0], 8) ip := by
    rw [decides]
    simp [MatchesEntry, network]
  have inside : allowed (.v4 #v[10, 1, 2, 3]) = true :=
    (decision _).mpr ⟨rfl, by unfold SamePrefix; decide⟩
  have outside : allowed (.v4 #v[192, 168, 0, 1]) = false := by
    rw [← Bool.not_eq_true, decision]
    rintro ⟨-, same⟩
    exact absurd (same 0 (by decide)) (by decide)
  refine ⟨config, loaded, ?_⟩
  rw [accepts]
  simp [Incoming.peer?, inside, outside]

end SqliteServer
