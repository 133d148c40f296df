import SqliteServer.RequestParsing
import SqliteServer.Sessions

/-! What an unauthenticated session can do and learn. -/

namespace SqliteServer

open Json Runs

/-- The string a request gives as its password, if it can be parsed and gives one. -/
def givenPassword (serde : SerdeJson) (req : String) : Option String :=
  match parseRequest serde req with
  | .ok json => (json.get "auth").bind Value.asStr
  | .error _ => none

def carriesPassword (serde : SerdeJson) (config : Config) (req : String) : Bool :=
  givenPassword serde req = some config.auth

section Handler

variable {World Conn Stmt : Type} (backend : Backend World Conn Stmt) (config : Config)

/-- Opening a connection authenticates nobody. -/
theorem getConnection_authenticated (db : String) (handler : RequestHandler Conn) (world : World)
    : (getConnection backend config db handler world).2.1.authenticated
      = handler.authenticated := by
  unfold getConnection
  split
  · rfl
  · split
    · rfl
    · split <;> rfl

theorem runQuery_authenticated (db query : String) (handler : RequestHandler Conn) (world : World)
    : (runQuery backend config db query handler world).2.1.authenticated
      = handler.authenticated := by
  have opened := getConnection_authenticated backend config db handler world
  unfold runQuery prepareQuery
  by_cases empty : trim query = ""
  · simp only [empty, if_true]
  · simp only [empty, if_false]
    cases connection : getConnection backend config db handler world with
    | mk result rest =>
        rw [connection] at opened
        cases result with
        | error err => exact opened
        | ok conn =>
            cases prepared : backend.prepare rest.2 conn query with
            | mk stmt world =>
                cases stmt with
                | error err => simpa [prepared] using opened
                | ok stmt => simpa [prepared] using opened

/-- No command changes whether a session is authenticated. -/
theorem dispatch_authenticated (req : String) (json : Value) (handler : RequestHandler Conn)
    (world : World)
    : (dispatch backend config req json handler world).2.1.authenticated
      = handler.authenticated := by
  unfold dispatch
  split
  · rfl
  · split
    · unfold handleQuery
      split
      · rfl
      · exact runQuery_authenticated backend config _ _ handler world
    · split
      · rfl
      · split
        · unfold handleDeleteDb
          split
          · rfl
          · split
            · split
              · rfl
              · split <;> rfl
            · rfl
        · rfl

variable (serde : SerdeJson)

/-- The response to a request before authentication without the password. -/
def unauthenticatedResponse (req : String) : Value :=
  match parseRequest serde req with
  | .error message =>
      .ofFields
        [
          ("generic_error", jsonInt invalidFormat),
          ("message", .string message),
          ("request", .string req)
        ]
  | .ok _ => resultResponse "error"

variable {config}

/-- Before authentication, a request without the password changes nothing, and its response
depends on its text alone.
-/
theorem handleRequest_unauthenticated (protected' : config.auth ≠ "") {req : String}
    (wrong : carriesPassword serde config req = false) {handler : RequestHandler Conn}
    (fresh : handler.authenticated = false) (world : World)
    : handleRequest backend config serde req handler world
      = (unauthenticatedResponse serde req, handler, world) := by
  have other : givenPassword serde req ≠ some config.auth := of_decide_eq_false wrong
  unfold handleRequest unauthenticatedResponse
  cases parsed : parseRequest serde req with
  | error message => rfl
  | ok json =>
      rw [givenPassword, parsed] at other
      dsimp only at other ⊢
      rw [if_pos protected']
      cases given : (json.get "auth").bind Value.asStr with
      | none => simp [fresh]
      | some auth =>
          have different : auth ≠ config.auth := fun same => other (by rw [given, same])
          simp [fresh, different]

/-- A session is authenticated after a request iff it was before or the request carries the
password.
-/
theorem handleRequest_authenticated (protected' : config.auth ≠ "") (req : String)
    (handler : RequestHandler Conn) (world : World)
    : (handleRequest backend config serde req handler world).2.1.authenticated
      = (handler.authenticated || carriesPassword serde config req) := by
  cases fresh : handler.authenticated with
  | false =>
      cases right : carriesPassword serde config req with
      | false => rw [handleRequest_unauthenticated backend serde protected' right fresh, fresh]; rfl
      | true =>
          have given : givenPassword serde req = some config.auth := of_decide_eq_true right
          unfold handleRequest
          cases parsed : parseRequest serde req with
          | error message => simp [givenPassword, parsed] at given
          | ok json =>
              rw [givenPassword, parsed] at given
              dsimp only at given ⊢
              rw [if_pos protected', given]
              simp
  | true =>
      have kept (json : Value) := dispatch_authenticated backend config req json handler world
      rw [fresh] at kept
      unfold handleRequest
      cases parsed : parseRequest serde req with
      | error message => simp [fresh]
      | ok json =>
          dsimp only
          rw [if_pos protected']
          cases given : (json.get "auth").bind Value.asStr with
          | none => simp [fresh, kept]
          | some auth =>
              by_cases same : auth = config.auth
              · simp [same]
              · simp [same, fresh, kept]

end Handler

-----------------------------------------------------------------------------------------
-- Sessions
-----------------------------------------------------------------------------------------

section Sessions

variable {World Conn Stmt : Type} (backend : Backend World Conn Stmt) (config : Config)
  (serde : SerdeJson) (session : Nat)

/-- The requests of a session among the events of a server. -/
def requestsOf (events : List (ServerEvent World)) : List String :=
  events.filterMap
    (fun event =>
      match event with
      | .request other req => if other = session then some req else none
      | _ => none)

/-- The responses to a session among those of a server. -/
def responsesTo (responses : List (Nat × Value)) : List Value :=
  responses.filterMap (fun response => if response.1 = session then some response.2 else none)

def StaysConnected (events : List (ServerEvent World)) : Prop :=
  ∀ event ∈ events, event ≠ .disconnect session

/-- No request of the session changes anything on the server: neither the world nor any handler.
At the end the session has no database open and is not authenticated.
-/
structure Untouched (server : Server World Conn) (events : List (ServerEvent World)) : Prop where
  steps
    : Along (Server.step backend config serde)
        (fun server event =>
          ∀ req, event = .request session req
            → (server.step backend config serde event).1 = server)
        server events
  fresh : (after (Server.step backend config serde) server events).sessions session = .new

/-- The events of other sessions leave a session alone. -/
theorem step_other (server : Server World Conn) {event : ServerEvent World}
    (notRequest : ∀ req, event ≠ .request session req) (connected : event ≠ .disconnect session)
    : (server.step backend config serde event).1.sessions session = server.sessions session
      ∧ responsesTo session (server.step backend config serde event).2 = [] := by
  cases event with
  | request other req =>
      have different : session ≠ other := fun same => notRequest req (by rw [same])
      exact ⟨
        server.setSession_other other _ _ different,
        by simp [Server.step, responsesTo, different.symm]
      ⟩
  | disconnect other =>
      have different : session ≠ other := fun same => connected (by rw [same])
      exact ⟨server.setSession_other other _ _ different, rfl⟩
  | environment world => exact ⟨rfl, rfl⟩

/-- The requests of a session after an event that is none of them. -/
theorem requestsOf_other {event : ServerEvent World}
    (notRequest : ∀ req, event ≠ .request session req) (events : List (ServerEvent World))
    : requestsOf session (event :: events) = requestsOf session events := by
  cases event with
  | request other req =>
      have different : other ≠ session := fun same => notRequest req (by rw [same])
      simp [requestsOf, different]
  | disconnect other => rfl
  | environment world => rfl

theorem responsesTo_append (first second : List (Nat × Value))
    : responsesTo session (first ++ second)
      = responsesTo session first ++ responsesTo session second :=
  List.filterMap_append

/-- An event is a request of the session or none. -/
theorem request_or_other (event : ServerEvent World)
    : (∃ req, event = .request session req) ∨ ∀ req, event ≠ .request session req := by
  by_cases mine : ∃ req, event = .request session req
  · exact Or.inl mine
  · exact Or.inr (fun req same => mine ⟨req, same⟩)

variable {config}

/-- A fresh session that never gives the password touches nothing, and its responses depend on
its requests alone: by induction on the events, in which the session stays fresh.
-/
theorem unauthenticated_run (protected' : config.auth ≠ "") {server : Server World Conn}
    (fresh : server.sessions session = .new) {events : List (ServerEvent World)}
    (connected : StaysConnected session events)
    (wrong : ∀ req ∈ requestsOf session events, carriesPassword serde config req = false)
    : Untouched backend config serde session server events
      ∧ responsesTo session (outputs (Server.step backend config serde) server events)
        = (requestsOf session events).map (unauthenticatedResponse serde) := by
  induction events generalizing server with
  | nil => exact ⟨⟨trivial, fresh⟩, rfl⟩
  | cons event rest ih =>
      have later : StaysConnected session rest := fun e member =>
        connected e (List.mem_cons_of_mem _ member)
      rcases request_or_other session event with ⟨req, rfl⟩ | other
      · have requests
            : requestsOf session (ServerEvent.request session req :: rest)
              = req :: requestsOf session rest := by
          simp [requestsOf]
        rw [requests] at wrong ⊢
        have still : (server.sessions session).authenticated = false := by
          rw [fresh]
          rfl
        have handled := handleRequest_unauthenticated backend serde protected'
          (wrong req List.mem_cons_self) still server.world
        have kept
            : server.step backend config serde (.request session req)
              = (server, [(session, unauthenticatedResponse serde req)]) := by
          have same
              : server.setSession session (server.sessions session) server.world = server := by
            cases server with
            | mk sessions world =>
                simp only [Server.setSession, Server.mk.injEq, and_true]
                funext other
                split
                · rename_i equal
                  rw [equal]
                · rfl
          simp only [Server.step, handled, same]
        obtain ⟨untouched, responses⟩ :=
          ih fresh later (fun r member => wrong r (List.mem_cons_of_mem _ member))
        refine ⟨⟨⟨?_, ?_⟩, ?_⟩, ?_⟩
        · intro _ _
          rw [kept]
        · rw [kept]
          exact untouched.steps
        · rw [after, kept]
          exact untouched.fresh
        · rw [outputs, kept, responsesTo_append, responses]
          simp [responsesTo]
      · rw [requestsOf_other session other] at wrong ⊢
        obtain ⟨alone, silent⟩ :=
          step_other backend config serde session server other
            (connected event List.mem_cons_self)
        obtain ⟨untouched, responses⟩ := ih (alone.trans fresh) later wrong
        refine ⟨⟨⟨fun req same => absurd same (other req), untouched.steps⟩, untouched.fresh⟩, ?_⟩
        rw [outputs, responsesTo_append, silent, responses, List.nil_append]

/-- A session is authenticated iff it was or one of its requests carried the password, by
induction on the events.
-/
theorem authenticated_run (protected' : config.auth ≠ "") (server : Server World Conn)
    {events : List (ServerEvent World)} (connected : StaysConnected session events)
    : ((after (Server.step backend config serde) server events).sessions session).authenticated
      = ((server.sessions session).authenticated
          || (requestsOf session events).any (carriesPassword serde config)) := by
  induction events generalizing server with
  | nil => simp [after, requestsOf]
  | cons event rest ih =>
      have later : StaysConnected session rest := fun e member =>
        connected e (List.mem_cons_of_mem _ member)
      rw [after, ih _ later]
      rcases request_or_other session event with ⟨req, rfl⟩ | other
      · have handled := handleRequest_authenticated backend serde protected' req
          (server.sessions session) server.world
        simp [Server.step, handled, requestsOf, Bool.or_assoc]
      · have alone := (step_other backend config serde session server other
          (connected event List.mem_cons_self)).1
        rw [alone, requestsOf_other session other]

end Sessions

section TwoServers

variable {World₁ Conn₁ Stmt₁ World₂ Conn₂ Stmt₂ : Type}
variable (backend₁ : Backend World₁ Conn₁ Stmt₁) (backend₂ : Backend World₂ Conn₂ Stmt₂)
variable (config₁ config₂ : Config) (serde : SerdeJson) (session₁ session₂ : Nat)

/-- Two fresh sessions on servers with different passwords, worlds and histories that send the
same requests, none with the password, get the same responses and touch nothing. On every run a
session is authenticated exactly after it has sent the password, and stays so.
-/
theorem sessions_indistinguishable (protected₁ : config₁.auth ≠ "")
    (protected₂ : config₂.auth ≠ "") (server₁ : Server World₁ Conn₁)
    (server₂ : Server World₂ Conn₂) (fresh₁ : server₁.sessions session₁ = .new)
    (fresh₂ : server₂.sessions session₂ = .new) (events₁ : List (ServerEvent World₁))
    (events₂ : List (ServerEvent World₂)) (connected₁ : StaysConnected session₁ events₁)
    (connected₂ : StaysConnected session₂ events₂)
    : (requestsOf session₁ events₁ = requestsOf session₂ events₂
        → (∀ req ∈ requestsOf session₁ events₁, carriesPassword serde config₁ req = false)
        → (∀ req ∈ requestsOf session₂ events₂, carriesPassword serde config₂ req = false)
        → responsesTo session₁ (outputs (Server.step backend₁ config₁ serde) server₁ events₁)
            = responsesTo session₂ (outputs (Server.step backend₂ config₂ serde) server₂ events₂)
          ∧ Untouched backend₁ config₁ serde session₁ server₁ events₁
          ∧ Untouched backend₂ config₂ serde session₂ server₂ events₂)
      ∧ (∀ before later,
          events₁ = before ++ later
          → ((after (Server.step backend₁ config₁ serde) server₁ before).sessions
                session₁).authenticated
              = (requestsOf session₁ before).any (carriesPassword serde config₁)
            ∧ (((after (Server.step backend₁ config₁ serde) server₁ before).sessions
                  session₁).authenticated = true
              → ((after (Server.step backend₁ config₁ serde) server₁ events₁).sessions
                  session₁).authenticated = true)) := by
  constructor
  · intro same wrong₁ wrong₂
    obtain ⟨untouched₁, responses₁⟩ :=
      unauthenticated_run backend₁ serde session₁ protected₁ fresh₁ connected₁ wrong₁
    obtain ⟨untouched₂, responses₂⟩ :=
      unauthenticated_run backend₂ serde session₂ protected₂ fresh₂ connected₂ wrong₂
    exact ⟨by rw [responses₁, responses₂, same], untouched₁, untouched₂⟩
  · rintro before later rfl
    have connectedBefore : StaysConnected session₁ before := fun event member =>
      connected₁ event (List.mem_append_left _ member)
    have connectedLater : StaysConnected session₁ later := fun event member =>
      connected₁ event (List.mem_append_right _ member)
    have now := authenticated_run backend₁ serde session₁ protected₁ server₁ connectedBefore
    rw [fresh₁] at now
    refine ⟨now, ?_⟩
    intro authenticated
    rw [after_append, authenticated_run backend₁ serde session₁ protected₁ _ connectedLater,
      authenticated, Bool.true_or]

end TwoServers

/-- A world without files, in which no database can be opened. -/
def emptyBackend : Backend Unit Unit Unit where
  pathExists := fun _ _ => false
  canonicalize := fun _ _ => none
  readDir := fun _ _ => none
  removeFile := fun _ _ => none
  openConnection := fun _ _ => (.error (.other "unable to open database file"), ())
  executeBatch := fun _ _ _ => (.ok (), ())
  prepare := fun _ _ _ => (.ok (), ())
  columnNames := fun _ => []
  query := fun _ _ _ => .done ()
  close := fun _ _ => ()

/-- A session that lists the databases and gives a wrong password learns nothing about its
server, on which another session has authenticated.
-/
theorem sessions_indistinguishable_list
    : responsesTo 0
          (outputs (Server.step emptyBackend (.standard "/srv/a" "s3cret") unsignedReader)
            (.start ())
            [
              .request 1 "\x7b\"auth\":\"s3cret\"\x7d",
              .request 0 "\x7bcmd:\"LIST\"\x7d",
              .request 0 "\x7b\"auth\":\"guess\"\x7d"
            ])
        = responsesTo 0
            (outputs (Server.step emptyBackend (.standard "/srv/b" "hunter2") unsignedReader)
              (.start ())
              [
                .request 0 "\x7bcmd:\"LIST\"\x7d",
                .request 0 "\x7b\"auth\":\"guess\"\x7d"
              ]) :=
  ((sessions_indistinguishable emptyBackend emptyBackend (.standard "/srv/a" "s3cret")
    (.standard "/srv/b" "hunter2") unsignedReader 0 0 (by decide) (by decide) (.start ())
    (.start ()) rfl rfl
    [
      .request 1 "\x7b\"auth\":\"s3cret\"\x7d",
      .request 0 "\x7bcmd:\"LIST\"\x7d",
      .request 0 "\x7b\"auth\":\"guess\"\x7d"
    ]
    [.request 0 "\x7bcmd:\"LIST\"\x7d", .request 0 "\x7b\"auth\":\"guess\"\x7d"]
    (by simp [StaysConnected]) (by simp [StaysConnected])).1
    (by simp [requestsOf]) (by decide +kernel) (by decide +kernel)).1

end SqliteServer
