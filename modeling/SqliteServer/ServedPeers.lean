import SqliteServer.Authentication
import SqliteServer.Dialogues

/-! Whom the server serves: the peers that match an entry of the whitelist, and nobody else. -/

namespace SqliteServer

open Json Wire Runs

/-- The peer that asks for a connection. -/
def NetworkEvent.peer? {World : Type} : NetworkEvent World → Option SocketAddr
  | .connect peer => some peer
  | _ => none

/-- A server that decides by its entries decides so about each address. -/
theorem DecidesByPrefix.decision {parseAddr : String → Option IpAddr} {entries : List String}
    {config : Config} (decides : DecidesByPrefix parseAddr entries config)
    : ∃ allowed : IpAddr → Bool,
        (∀ ip, allowed ip = true ↔ entries = [] ∨ MatchesEntry parseAddr entries ip)
        ∧ ∀ ip, config.isIpAllowed ip = .ok (allowed ip) := by
  obtain ⟨allowed, matches', accepts⟩ := decides
  refine ⟨allowed, matches', ?_⟩
  intro ip
  have alone := accepts [.connection ⟨ip, 0⟩]
  rw [acceptLoop, acceptLoop] at alone
  cases decided : config.isIpAllowed ip with
  | error halt =>
      rw [decided] at alone
      cases alone
  | ok result =>
      rw [decided] at alone
      cases result <;> cases lets : allowed ip
      · rfl
      · simp [bind, Except.bind, pure, Except.pure, Incoming.peer?, lets] at alone
      · simp [bind, Except.bind, pure, Except.pure, Incoming.peer?, lets] at alone
      · rfl

section Peers

variable {World Conn Stmt : Type} (backend : Backend World Conn Stmt) {config : Config}
  (serde : SerdeJson) (toText : Value → Option String) (fromSlice : Bytes → Except String Value)
  {allowed : IpAddr → Bool}

/-- A step lets the peer in that asks for a connection, if it is allowed. -/
theorem Network.step_peers (decided : ∀ ip, config.isIpAllowed ip = .ok (allowed ip))
    (network : Network World Conn) (event : NetworkEvent World)
    : (network.step backend config serde toText fromSlice event).1.callers.map (·.peer)
      = network.callers.map (·.peer)
        ++ event.peer?.toList.filter (fun peer => allowed peer.ip) := by
  have modified (i : Nat) (f : Caller → Caller) (same : ∀ caller, (f caller).peer = caller.peer)
      : (network.callers.modify i f).map (·.peer) = network.callers.map (·.peer) := by
    refine List.ext_getElem (by simp) ?_
    intro j inside _
    rw [List.getElem_map, List.getElem_map, List.getElem_modify]
    split_ifs
    · exact same _
    · rfl
  unfold step
  cases event with
  | connect peer =>
      dsimp only
      rw [decided]
      cases lets : allowed peer.ip with
      | false => simp [NetworkEvent.peer?, lets]
      | true => simp [NetworkEvent.peer?, lets, Caller.new]
  | call i text => exact (modified i _ (·.peer_call text)).trans (List.append_nil _).symm
  | receive i =>
      exact (modified i _ (fun caller => (caller.receive_frame fromSlice).2)).trans
        (List.append_nil _).symm
  | environment world => exact (List.append_nil _).symm
  | act i action sent =>
      refine Eq.trans ?_ (List.append_nil _).symm
      dsimp only
      cases network.process.tasks[i]? with
      | none => rfl
      | some task =>
          cases client : network.callers[i]? with
          | none => rfl
          | some caller =>
              dsimp only
              split_ifs
              · cases TaskState.step backend config serde toText
                    ⟨network.process.limiter, task, network.process.world⟩ action with
                | none => rfl
                | some result =>
                    dsimp only
                    refine List.ext_getElem? fun j => ?_
                    rw [List.getElem?_map, List.getElem?_map]
                    by_cases same : i = j
                    · subst same
                      rw [List.getElem?_set_self (List.getElem?_eq_some_iff.mp client).1, client]
                      rfl
                    · rw [List.getElem?_set_ne same]
              · rfl

/-- The connections are those of the allowed peers, in the order in which they asked: by induction
on the run.
-/
theorem Network.run_peers (decided : ∀ ip, config.isIpAllowed ip = .ok (allowed ip))
    (network : Network World Conn) (events : List (NetworkEvent World))
    : (after (step backend config serde toText fromSlice) network events).callers.map (·.peer)
      = network.callers.map (·.peer)
        ++ (events.filterMap NetworkEvent.peer?).filter (fun peer => allowed peer.ip) := by
  induction events generalizing network with
  | nil => exact (List.append_nil _).symm
  | cons event rest ih =>
      have first := network.step_peers backend serde toText fromSlice decided event
      rw [after, ih, first, List.append_assoc, List.filterMap_cons]
      cases event.peer? with
      | none => rfl
      | some peer =>
          cases lets : allowed peer.ip with
          | false => simp [lets]
          | true => simp [lets]

/-- A step handles requests of existing connections only. -/
theorem Network.step_requests (network : Network World Conn) (event : NetworkEvent World) {i : Nat}
    {req : String}
    (handled
      : .request i req ∈ (network.step backend config serde toText fromSlice event).2)
    : i < network.callers.length := by
  unfold step at handled
  cases event with
  | connect peer =>
      dsimp only at handled
      split at handled <;> cases handled
  | call j text => cases handled
  | receive j => cases handled
  | environment world => cases List.mem_singleton.mp handled
  | act j action sent =>
      dsimp only at handled
      cases found : network.process.tasks[j]? with
      | none => simp [found] at handled
      | some task =>
          cases client : network.callers[j]? with
          | none => simp [found, client] at handled
          | some caller =>
              simp only [found, client] at handled
              split_ifs at handled
              · cases stepped
                    : TaskState.step backend config serde toText
                        ⟨network.process.limiter, task, network.process.world⟩ action with
                | none => simp [stepped] at handled
                | some result =>
                    simp only [stepped] at handled
                    unfold performed at handled
                    split at handled
                    · cases List.mem_singleton.mp handled
                      exact (List.getElem?_eq_some_iff.mp client).1
                    · simp at handled
                    · simp at handled
              · cases handled

/-- A step closes no client's end of a connection. -/
theorem Network.step_callers (network : Network World Conn) (event : NetworkEvent World)
    : network.callers.length
      ≤ (network.step backend config serde toText fromSlice event).1.callers.length := by
  unfold step
  cases event with
  | connect peer =>
      dsimp only
      split
      · simp
      · exact Nat.le_refl _
  | call i text => simp
  | receive i => simp
  | environment world => exact Nat.le_refl _
  | act i action sent =>
      dsimp only
      split
      · split_ifs
        · split
          · exact Nat.le_refl _
          · simp
        · exact Nat.le_refl _
      · exact Nat.le_refl _

/-- Whoever is served matches an entry. With a configuration that was loaded from flags or a file,
the connections of every run are exactly those of the peers that match an entry of its whitelist as
written, in the order in which they asked (of all peers if there are no entries), and every request
that is handled came over one of them.
-/
theorem served_allowed (system : HostSystem) (args : Args)
    (loaded : Config.parse system serde args = .ok (some config))
    : ∃ entries,
        whitelistEntries system serde args = some entries
        ∧ ∃ allowed : IpAddr → Bool,
            (∀ ip, allowed ip = true ↔ entries = [] ∨ MatchesEntry system.parseAddr entries ip)
            ∧ ∀ (world : World) (events : List (NetworkEvent World)),
                (after (Network.step backend config serde toText fromSlice)
                      (Network.start config world) events).callers.map (·.peer)
                    = (events.filterMap NetworkEvent.peer?).filter (fun peer => allowed peer.ip)
                ∧ ∀ i req,
                    .request i req ∈
                        outputs (Network.step backend config serde toText fromSlice)
                          (Network.start config world : Network World Conn) events
                    → ∃ caller,
                        (after (Network.step backend config serde toText fromSlice)
                            (Network.start config world) events).callers[i]? = some caller
                        ∧ (entries = []
                          ∨ MatchesEntry system.parseAddr entries caller.peer.ip) := by
  obtain ⟨entries, written, parsed⟩ := configParse_entries system loaded
  obtain ⟨allowed, matches', decided⟩ := (decidesByPrefix_of_parsed parsed).decision
  refine ⟨entries, written, allowed, matches', fun world events => ?_⟩
  have peers := (Network.start config world : Network World Conn).run_peers backend serde toText
    fromSlice decided events
  refine ⟨peers, fun i req handled => ?_⟩
  have inside
      : ∀ i req,
          .request i req ∈
              outputs (Network.step backend config serde toText fromSlice)
                (Network.start config world : Network World Conn) events
          → i < (after (Network.step backend config serde toText fromSlice)
                  (Network.start config world) events).callers.length :=
    outputs_invariant
      (I := fun served (network : Network World Conn) =>
        ∀ i req, .request i req ∈ served → i < network.callers.length)
      (fun _ network event before i req member =>
        (List.mem_append.mp member).elim
          (fun old =>
            Nat.lt_of_lt_of_le (before i req old)
              (network.step_callers backend serde toText fromSlice event))
          (fun new =>
            Nat.lt_of_lt_of_le
              (network.step_requests backend serde toText fromSlice event new)
              (network.step_callers backend serde toText fromSlice event)))
      (fun _ _ none => absurd none List.not_mem_nil) events
  have client := List.getElem?_eq_getElem (inside i req handled)
  refine ⟨_, client, (matches' _).mp ?_⟩
  have member := List.mem_map_of_mem (f := (·.peer)) (List.mem_of_getElem? client)
  rw [peers] at member
  exact (List.mem_filter.mp member).2

end Peers

-----------------------------------------------------------------------------------------
-- An office
-----------------------------------------------------------------------------------------

/-- The configuration of the server for the office's network. -/
def officeConfig : Config :=
  { Config.standard "/srv/sqlite" "" with
    ipWhitelist := [⟨officeNetwork, 8⟩] }

/-- A stranger and a peer from the office ask for connections, and the first connection lists. -/
def officeCalls : List (NetworkEvent Unit) :=
  [
    .connect ⟨.v4 #v[192, 168, 0, 1], 40000⟩,
    .connect ⟨.v4 #v[10, 1, 2, 3], 40001⟩,
    .call 0 "\x7b\"cmd\":\"LIST\"\x7d",
    .act 0 (.read [14, 0, 0, 0]) 0,
    .act 0 (.read (utf8Bytes "\x7b\"cmd\":\"LIST\"\x7d")) 0,
    .act 0 .acquire 0,
    .act 0 .enter 0,
    .act 0 .respond 0
  ]

/-- The stranger is refused, and the request is that of the peer from the office. -/
theorem served_allowed_office
    : (after
            (Network.step emptyBackend officeConfig unsignedReader writeCompact
              fun _ => .error "EOF while parsing a value")
            (Network.start officeConfig ()) officeCalls).callers.map (·.peer)
          = [⟨.v4 #v[10, 1, 2, 3], 40001⟩]
      ∧ ∃ caller,
          (after
              (Network.step emptyBackend officeConfig unsignedReader writeCompact
                fun _ => .error "EOF while parsing a value")
              (Network.start officeConfig ()) officeCalls).callers[0]? = some caller
          ∧ MatchesEntry officeHost.parseAddr ["10.0.0.0/8"] caller.peer.ip := by
  have loaded : Config.parse officeHost unsignedReader officeArgs = .ok (some officeConfig) := by
    decide +kernel
  obtain ⟨entries, written, allowed, matches', runs⟩ :=
    served_allowed emptyBackend unsignedReader writeCompact
      (fun _ => .error "EOF while parsing a value") officeHost officeArgs loaded
  have only : whitelistEntries officeHost unsignedReader officeArgs = some ["10.0.0.0/8"] := by
    decide +kernel
  obtain rfl : ["10.0.0.0/8"] = entries := Option.some.inj (only.symm.trans written)
  obtain ⟨peers, requests⟩ := runs () officeCalls
  have network
      : writtenNetwork officeHost.parseAddr "10.0.0.0/8" = some (.v4 #v[10, 0, 0, 0], 8) := by
    decide +kernel
  have decision (ip : IpAddr)
      : allowed ip = true ↔ MatchesNetwork (.v4 #v[10, 0, 0, 0], 8) ip := by
    rw [matches']
    simp [MatchesEntry, network]
  have inside : allowed (.v4 #v[10, 1, 2, 3]) = true :=
    (decision _).mpr ⟨rfl, by unfold SamePrefix; decide⟩
  have outside : allowed (.v4 #v[192, 168, 0, 1]) = false := by
    rw [← Bool.not_eq_true, decision]
    rintro ⟨-, same⟩
    exact absurd (same 0 (by decide)) (by decide)
  constructor
  · rw [peers]
    simp [officeCalls, NetworkEvent.peer?, inside, outside]
  · obtain ⟨caller, client, listed⟩ := requests 0 "\x7b\"cmd\":\"LIST\"\x7d"
      (List.mem_singleton_self (ServerEvent.request 0 "\x7b\"cmd\":\"LIST\"\x7d"))
    exact ⟨caller, client, listed.resolve_left (by decide)⟩

end SqliteServer
