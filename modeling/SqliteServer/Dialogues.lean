import SqliteServer.ConnectionTasks
import SqliteServer.FramingRoundTrip
import SqliteServer.Histories
import SqliteServer.IpWhitelist

/-! The whole system: clients that call and wait, their sockets, and the tasks of the server.

A call is answered as if the requests were handled one at a time, in the order in which the server's
tasks leave their handlers.
-/

namespace SqliteServer

open Json Wire Runs

-----------------------------------------------------------------------------------------
-- Clients
-----------------------------------------------------------------------------------------

/-- A connection seen from its client: the requests it has sent, what `recv` has returned for them,
and the bytes on their way.
-/
structure Caller where
  peer : SocketAddr
  calls : List String
  results : List (Except String Value)
  toServer : Bytes
  toClient : Bytes

namespace Caller

def new (peer : SocketAddr) : Caller := ⟨peer, [], [], [], []⟩

/-- Send a request; a client that waits for a response sends none. -/
def call (caller : Caller) (text : String) : Caller :=
  if caller.results.length < caller.calls.length then caller
  else
    { caller with
      calls := caller.calls ++ [text]
      toServer := caller.toServer ++ send (utf8Bytes text) }

/-- Receive a response, if one is waited for and has arrived. -/
def receive (fromSlice : Bytes → Except String Value) (caller : Caller) : Caller :=
  if caller.results.length < caller.calls.length then
    match recv fromSlice [caller.toClient] with
    | some (result, left) =>
        { caller with results := caller.results ++ [result], toClient := left.flatten }
    | none => caller
  else caller

theorem calls_call (caller : Caller) (text : String) {t : String} (member : t ∈ caller.calls)
    : t ∈ (caller.call text).calls := by
  unfold call
  split_ifs
  · exact member
  · exact List.mem_append_left _ member

theorem peer_call (caller : Caller) (text : String)
    : (caller.call text).peer = caller.peer := by
  unfold call
  split_ifs <;> rfl

theorem receive_frame (fromSlice : Bytes → Except String Value) (caller : Caller)
    : (caller.receive fromSlice).calls = caller.calls
      ∧ (caller.receive fromSlice).peer = caller.peer := by
  unfold receive
  split_ifs
  · cases recv fromSlice [caller.toClient] <;> exact ⟨rfl, rfl⟩
  · exact ⟨rfl, rfl⟩

end Caller

-----------------------------------------------------------------------------------------
-- The system
-----------------------------------------------------------------------------------------

/-- The server's process and the client of each of its tasks. -/
structure Network (World Conn : Type) where
  process : Process World Conn
  callers : List Caller

/-- What can happen. When a write fails or is cancelled, `sent` bytes of it may have been written.
-/
inductive NetworkEvent (World : Type) where
  | connect (peer : SocketAddr)
  | call (client : Nat) (text : String)
  | act (task : Nat) (action : Action World) (sent : Nat)
  | receive (client : Nat)
  | environment (world : World)

/-- The bytes an action takes from the socket. -/
def Action.taken {World : Type} : Action World → Bytes
  | .read buf => buf
  | _ => []

/-- The bytes an action puts into the socket. -/
def Action.written {World : Type} (action : Action World) (point : Point) (sent : Nat) : Bytes :=
  match point, action with
  | .writing response, .write => response
  | .writing response, .writeFails => response.take sent
  | .writing response, .cancel => response.take sent
  | _, _ => []

namespace Network

variable {World Conn Stmt : Type}

/-- What a step of a task is for the sessions: its request, when the handler returns, or its end. -/
def performed (i : Nat) (before : Point) (next : TaskState World Conn)
    : List (ServerEvent World) :=
  match before, next.task.point with
  | .handling request, .writing _ => [.request i request]
  | _, .ended => [.disconnect i, .environment next.world]
  | _, _ => []

def start (config : Config) (world : World) : Network World Conn :=
  ⟨Process.start config world, []⟩

variable (backend : Backend World Conn Stmt) (config : Config) (serde : SerdeJson)
  (toText : Value → Option String) (fromSlice : Bytes → Except String Value)

/-- One step of the system, and what it is for the sessions. A task reads what is in its socket. -/
def step (network : Network World Conn) (event : NetworkEvent World)
    : Network World Conn × List (ServerEvent World) :=
  match event with
  | .connect peer =>
      match config.isIpAllowed peer.ip with
      | .ok true =>
          (⟨(network.process.step backend config serde toText .accept).1,
            network.callers ++ [.new peer]⟩, [])
      | _ => (network, [])
  | .call i text => ({ network with callers := network.callers.modify i (·.call text) }, [])
  | .act i action sent =>
      match network.process.tasks[i]?, network.callers[i]? with
      | some task, some caller =>
          if action.taken.isPrefixOf caller.toServer then
            match TaskState.step backend config serde toText
                ⟨network.process.limiter, task, network.process.world⟩ action with
            | none => (network, [])
            | some (next, _) =>
                (⟨⟨next.limiter, network.process.tasks.set i next.task, next.world⟩,
                  network.callers.set i
                    { caller with
                      toServer := caller.toServer.drop action.taken.length
                      toClient := caller.toClient ++ action.written task.point sent }⟩,
                  performed i task.point next)
          else (network, [])
      | _, _ => (network, [])
  | .receive i =>
      ({ network with callers := network.callers.modify i (·.receive fromSlice) }, [])
  | .environment world =>
      ({ network with process := { network.process with world := world } }, [.environment world])

end Network

-----------------------------------------------------------------------------------------
-- Steps of tasks
-----------------------------------------------------------------------------------------

section Steps

variable {World Conn Stmt : Type} {backend : Backend World Conn Stmt} {config : Config}
  {serde : SerdeJson} {toText : Value → Option String}

/-- What a step of a task can be, with the point it starts from. -/
inductive TaskStep (backend : Backend World Conn Stmt) (config : Config) (serde : SerdeJson)
    (toText : Value → Option String) (state : TaskState World Conn)
    : Action World → TaskState World Conn → Prop where
  | header {buf : Bytes} (at' : state.task.point = .readingHeader) (length : buf.length = 4)
      (within : ¬ fromLeBytes buf > config.clientMaxPacketSize)
      : TaskStep backend config serde toText state (.read buf)
          (state.goTo (.readingBody (fromLeBytes buf)))
  | refuse {buf : Bytes} (at' : state.task.point = .readingHeader) (length : buf.length = 4)
      : TaskStep backend config serde toText state (.read buf) (state.finish backend)
  | body {buf : Bytes} {packetSize : UInt32} (at' : state.task.point = .readingBody packetSize)
      (length : buf.length = packetSize.toNat)
      : TaskStep backend config serde toText state (.read buf)
          (state.goTo (.acquiring (fromUtf8Lossy buf)))
  | acquire {request : String} {limiter : Semaphore}
      (at' : state.task.point = .acquiring request)
      (granted : state.limiter.acquire = some limiter)
      : TaskStep backend config serde toText state .acquire
          ⟨limiter, ⟨state.task.handler, .acquired request, state.task.held + 1⟩, state.world⟩
  | enter {request : String} (at' : state.task.point = .acquired request)
      : TaskStep backend config serde toText state .enter (state.goTo (.handling request))
  | respond {request : String} {response : Value} {handler : RequestHandler Conn} {world : World}
      (at' : state.task.point = .handling request)
      (handled
        : handleRequest backend config serde request state.task.handler state.world
          = (response, handler, world))
      : TaskStep backend config serde toText state .respond
          ⟨state.limiter.release state.task.held,
            ⟨handler, .writing (frame (responseBody toText response)), 0⟩, world⟩
  | write {response : Bytes} (at' : state.task.point = .writing response)
      : TaskStep backend config serde toText state .write (state.goTo .readingHeader)
  | readFails (at' : state.task.point.reads = true)
      : TaskStep backend config serde toText state .readFails (state.finish backend)
  | writeFails {response : Bytes} (at' : state.task.point = .writing response)
      : TaskStep backend config serde toText state .writeFails (state.finish backend)
  | cancel (at' : state.task.point.waits = true)
      : TaskStep backend config serde toText state .cancel (state.finish backend)
  | panic {world : World} (at' : state.task.point.handles = true)
      : TaskStep backend config serde toText state (.panic world)
          { state.finish backend with world := world }

/-- Every step of a task is one of these, by cases on the action and the point. -/
theorem taskStep_of_step {state next : TaskState World Conn} {action : Action World}
    {events : List Event}
    (stepped : state.step backend config serde toText action = some (next, events))
    : TaskStep backend config serde toText state action next := by
  unfold TaskState.step at stepped
  cases action with
  | read buf =>
      dsimp only at stepped
      unfold TaskState.read at stepped
      cases point : state.task.point with
      | readingHeader =>
          rw [point] at stepped
          dsimp only at stepped
          split_ifs at stepped with length above
          · obtain ⟨rfl, -⟩ := Prod.mk.inj (Option.some.inj stepped)
            exact .refuse point length
          · obtain ⟨rfl, -⟩ := Prod.mk.inj (Option.some.inj stepped)
            exact .header point length above
      | readingBody packetSize =>
          rw [point] at stepped
          dsimp only at stepped
          split_ifs at stepped with length
          obtain ⟨rfl, -⟩ := Prod.mk.inj (Option.some.inj stepped)
          exact .body point length
      | _ =>
          rw [point] at stepped
          contradiction
  | readFails =>
      dsimp only at stepped
      split_ifs at stepped with reads
      obtain ⟨rfl, -⟩ := Prod.mk.inj (Option.some.inj stepped)
      exact .readFails reads
  | acquire =>
      obtain ⟨next', acquired, same⟩ := Option.map_eq_some_iff.mp stepped
      obtain ⟨rfl, -⟩ := Prod.mk.inj same
      unfold TaskState.acquire at acquired
      cases point : state.task.point with
      | acquiring request =>
          rw [point] at acquired
          obtain ⟨limiter, granted, rfl⟩ := Option.map_eq_some_iff.mp acquired
          exact .acquire point granted
      | _ =>
          rw [point] at acquired
          contradiction
  | enter =>
      cases point : state.task.point with
      | acquired request =>
          dsimp only at stepped
          rw [point] at stepped
          obtain ⟨rfl, -⟩ := Prod.mk.inj (Option.some.inj stepped)
          exact .enter point
      | _ =>
          dsimp only at stepped
          rw [point] at stepped
          contradiction
  | respond =>
      obtain ⟨next', responded, same⟩ := Option.map_eq_some_iff.mp stepped
      obtain ⟨rfl, -⟩ := Prod.mk.inj same
      unfold TaskState.respond at responded
      cases point : state.task.point with
      | handling request =>
          rw [point] at responded
          obtain rfl := Option.some.inj responded
          exact .respond point rfl
      | _ =>
          rw [point] at responded
          contradiction
  | panic world =>
      dsimp only at stepped
      split_ifs at stepped with handles
      obtain ⟨rfl, -⟩ := Prod.mk.inj (Option.some.inj stepped)
      exact .panic handles
  | write =>
      cases point : state.task.point with
      | writing response =>
          dsimp only at stepped
          rw [point] at stepped
          obtain ⟨rfl, -⟩ := Prod.mk.inj (Option.some.inj stepped)
          exact .write point
      | _ =>
          dsimp only at stepped
          rw [point] at stepped
          contradiction
  | writeFails =>
      dsimp only at stepped
      split_ifs at stepped with writes
      obtain ⟨rfl, -⟩ := Prod.mk.inj (Option.some.inj stepped)
      cases point : state.task.point with
      | writing response => exact .writeFails point
      | _ =>
          rw [point] at writes
          contradiction
  | cancel =>
      dsimp only at stepped
      split_ifs at stepped with waits
      obtain ⟨rfl, -⟩ := Prod.mk.inj (Option.some.inj stepped)
      exact .cancel waits

end Steps

-----------------------------------------------------------------------------------------
-- Requests and responses
-----------------------------------------------------------------------------------------

section Exchanges

variable {World Conn Stmt : Type} (backend : Backend World Conn Stmt) (config : Config)
  (serde : SerdeJson)

/-- A step of the server, with the request beside its response. -/
def Server.answer (server : Server World Conn) (event : ServerEvent World)
    : Server World Conn × List (Nat × String × Value) :=
  ((server.step backend config serde event).1,
    match event with
    | .request i req =>
        [(i, req, (handleRequest backend config serde req (server.sessions i) server.world).1)]
    | _ => [])

theorem after_answer (server : Server World Conn) (events : List (ServerEvent World))
    : after (Server.answer backend config serde) server events
      = after (Server.step backend config serde) server events := by
  induction events generalizing server with
  | nil => rfl
  | cons event rest ih => exact ih _

/-- The responses are those that the server's steps give. -/
theorem outputs_answer (server : Server World Conn) (events : List (ServerEvent World))
    : (outputs (Server.answer backend config serde) server events).map (fun e => (e.1, e.2.2))
      = outputs (Server.step backend config serde) server events := by
  induction events generalizing server with
  | nil => rfl
  | cons event rest ih =>
      have later := ih (server.step backend config serde event).1
      rw [outputs, outputs, List.map_append]
      cases event with
      | request i req => exact congrArg (List.cons _) later
      | disconnect i => exact later
      | environment world => exact later

/-- The part of one session. -/
def ofSession {α : Type} (i : Nat) (items : List (Nat × α)) : List α :=
  items.filterMap (fun item => if item.1 = i then some item.2 else none)

theorem ofSession_append {α : Type} (i : Nat) (first second : List (Nat × α))
    : ofSession i (first ++ second) = ofSession i first ++ ofSession i second :=
  List.filterMap_append

theorem ofSession_map {α : Type} (i j : Nat) (items : List α)
    : ofSession j (items.map (fun item => (i, item))) = if i = j then items else [] := by
  rw [ofSession, List.filterMap_map]
  split_ifs with same
  · simp [same]
  · simp [same]

end Exchanges

-----------------------------------------------------------------------------------------
-- Phases of a call
-----------------------------------------------------------------------------------------

section Phases

variable (toText : Value → Option String) (fromSlice : Bytes → Except String Value)

/-- What a client makes of a response. -/
def received (response : Value) : Except String Value := fromSlice (responseBody toText response)

/-- Where a call is, between its client and its task, after the exchanges that the session has had.
A task that has ended may leave a request unanswered or a response in part.
-/
inductive Phase (peer : SocketAddr) : List (String × Value) → Point → Caller → Prop where
  | idle (done : List (String × Value))
      : Phase peer done .readingHeader
          ⟨peer, done.map (·.1), done.map (received toText fromSlice ·.2), [], []⟩
  | sent (done : List (String × Value)) {text : String} (fits : Fits text)
      : Phase peer done .readingHeader
          ⟨peer, done.map (·.1) ++ [text], done.map (received toText fromSlice ·.2),
            send (utf8Bytes text), []⟩
  | reading (done : List (String × Value)) {text : String} (fits : Fits text)
      : Phase peer done (.readingBody (UInt32.ofNat (utf8Bytes text).length))
          ⟨peer, done.map (·.1) ++ [text], done.map (received toText fromSlice ·.2),
            utf8Bytes text, []⟩
  | serving (done : List (String × Value)) {text : String} {point : Point}
      (serves : point = .acquiring text ∨ point = .acquired text ∨ point = .handling text)
      : Phase peer done point
          ⟨peer, done.map (·.1) ++ [text], done.map (received toText fromSlice ·.2), [], []⟩
  | writing (done : List (String × Value)) (text : String) (response : Value)
      : Phase peer (done ++ [(text, response)]) (.writing (frame (responseBody toText response)))
          ⟨peer, done.map (·.1) ++ [text], done.map (received toText fromSlice ·.2), [], []⟩
  | written (done : List (String × Value)) (text : String) (response : Value)
      : Phase peer (done ++ [(text, response)]) .readingHeader
          ⟨peer, done.map (·.1) ++ [text], done.map (received toText fromSlice ·.2), [],
            frame (responseBody toText response)⟩
  | broken (done pending : List (String × Value)) (unanswered : List String)
      (toServer toClient : Bytes) (one : pending.length + unanswered.length ≤ 1)
      (some' : ∀ exchange ∈ pending, toClient <+: frame (responseBody toText exchange.2))
      (none' : pending = [] → toClient = [])
      : Phase peer (done ++ pending) .ended
          ⟨peer, (done ++ pending).map (·.1) ++ unanswered,
            done.map (received toText fromSlice ·.2), toServer, toClient⟩

variable {toText fromSlice} {peer : SocketAddr} {done : List (String × Value)} {point : Point}
  {caller : Caller}

/-- What the phases have in common: the results are those of the exchanges, except for at most one
whose response is on its way, and at most one call has not been handled.
-/
theorem Phase.summary (phase : Phase toText fromSlice peer done point caller)
    : ∃ received' pending unanswered,
        done = received' ++ pending
        ∧ pending.length + unanswered.length ≤ 1
        ∧ caller.results = received'.map (received toText fromSlice ·.2)
        ∧ caller.calls = done.map (·.1) ++ unanswered
        ∧ caller.peer = peer := by
  cases phase with
  | idle => exact ⟨done, [], [], by simp, by simp, rfl, by simp, rfl⟩
  | sent => exact ⟨done, [], [_], by simp, by simp, rfl, rfl, rfl⟩
  | reading => exact ⟨done, [], [_], by simp, by simp, rfl, rfl, rfl⟩
  | serving => exact ⟨done, [], [_], by simp, by simp, rfl, rfl, rfl⟩
  | writing before text response =>
      exact ⟨before, [(text, response)], [], rfl, by simp, rfl, by simp, rfl⟩
  | written before text response =>
      exact ⟨before, [(text, response)], [], rfl, by simp, rfl, by simp, rfl⟩
  | broken before pending unanswered _ _ one =>
      exact ⟨before, pending, unanswered, rfl, one, rfl, rfl, rfl⟩

/-- A call broken off, by the parts of its client's state. -/
theorem Phase.of_ended (before pending : List (String × Value)) (unanswered : List String)
    (split : done = before ++ pending) (one : pending.length + unanswered.length ≤ 1)
    (same : caller.peer = peer) (calls : caller.calls = done.map (·.1) ++ unanswered)
    (results : caller.results = before.map (received toText fromSlice ·.2))
    (some' : ∀ exchange ∈ pending, caller.toClient <+: frame (responseBody toText exchange.2))
    (none' : pending = [] → caller.toClient = [])
    : Phase toText fromSlice peer done .ended caller := by
  obtain ⟨peer', calls', results', toServer, toClient⟩ := caller
  subst split same calls results
  exact .broken before pending unanswered toServer toClient one some' none'

/-- A task that ends breaks the call off, after part of its response if it was writing one. -/
theorem Phase.breaks (phase : Phase toText fromSlice peer done point caller) {more : Bytes}
    (toServer : Bytes)
    (writes : more = [] ∨ ∃ response sent, point = .writing response ∧ more = response.take sent)
    : Phase toText fromSlice peer done .ended
        { caller with toServer := toServer, toClient := caller.toClient ++ more } := by
  have quiet (away : ∀ response, point ≠ .writing response) : more = [] := by
    rcases writes with none | ⟨response, sent, at', -⟩
    · exact none
    · exact absurd at' (away response)
  cases phase with
  | idle =>
      exact .of_ended done [] [] (by simp) (by simp) rfl (by simp) rfl (by simp) (by simp [quiet])
  | sent fits =>
      exact .of_ended done [] [_] (by simp) (by simp) rfl rfl rfl (by simp) (by simp [quiet])
  | reading fits =>
      exact .of_ended done [] [_] (by simp) (by simp) rfl rfl rfl (by simp) (by simp [quiet])
  | serving _ serves =>
      have away (response : Bytes) : point ≠ .writing response := by
        rintro rfl
        simp at serves
      exact .of_ended done [] [_] (by simp) (by simp) rfl rfl rfl (by simp) (by simp [quiet away])
  | writing before text response =>
      have part : more <+: frame (responseBody toText response) := by
        rcases writes with rfl | ⟨_, sent, at', rfl⟩
        · exact List.nil_prefix
        · cases at'
          exact List.take_prefix _ _
      exact .of_ended before [(text, response)] [] rfl (by simp) rfl (by simp) rfl
        (by simpa using part) (by simp)
  | written before text response =>
      exact .of_ended before [(text, response)] [] rfl (by simp) rfl (by simp) rfl
        (by simp [quiet]) (by simp)
  | broken before pending unanswered _ toClient one some' none' =>
      rw [quiet (by simp)]
      exact .of_ended before pending unanswered rfl one rfl rfl rfl
        (by simpa using some') (by simpa using none')

-----------------------------------------------------------------------------------------
-- Sockets
-----------------------------------------------------------------------------------------

theorem send_split {body buf : Bytes} (four : buf.length = 4) (prefix' : buf <+: send body)
    : fromLeBytes buf = UInt32.ofNat body.length ∧ (send body).drop buf.length = body := by
  obtain ⟨tail, split⟩ := prefix'
  obtain ⟨rfl, rfl⟩ := List.append_inj split four
  exact ⟨fromLeBytes_toLeBytes _, List.drop_left⟩

theorem recv_whole (fromSlice : Bytes → Except String Value) {response : Value}
    (fits : Fits (responseText toText response))
    : ∃ left,
        recv fromSlice [frame (responseBody toText response)]
          = some (received toText fromSlice response, left)
        ∧ left.flatten = [] :=
  recv_frame fromSlice fits (by simp [responseBody])

/-- A part of a frame is not received as a response. -/
theorem recv_part {text : String} (fits : Fits text) {part : Bytes}
    (prefix' : part <+: frame (utf8Bytes text)) (less : part ≠ frame (utf8Bytes text))
    : recv fromSlice [part] = none := by
  have flat : [part].flatten = part := by simp
  obtain ⟨tail, split⟩ := prefix'
  have missing : 0 < tail.length := by
    refine List.length_pos_iff.mpr ?_
    rintro rfl
    exact less (by simpa using split)
  have total := congrArg List.length split
  rw [frame, List.length_append, List.length_append] at total
  have four : (lengthHeader (utf8Bytes text).length).length = 4 := length_toLeBytes _
  by_cases short : part.length < 4
  · rw [recv, readExact_short (by rwa [flat])]
  · obtain ⟨body, rfl⟩ : lengthHeader (utf8Bytes text).length <+: part :=
      List.prefix_of_prefix_length_le (List.prefix_append _ _) ⟨tail, split⟩ (by omega)
    obtain ⟨left, header, rest⟩ := readExact_append flat
    rw [four] at header
    have count : (fromLeBytes (lengthHeader (utf8Bytes text).length)).toNat
        = (utf8Bytes text).length := by
      rw [fromLeBytes_lengthHeader, Nat.mod_eq_of_lt fits]
    rw [List.length_append] at total
    have partial'
        : readExact (fromLeBytes (lengthHeader (utf8Bytes text).length)).toNat left = none := by
      refine readExact_short ?_
      rw [rest, count]
      omega
    simp only [recv, header, partial']

-----------------------------------------------------------------------------------------
-- Steps of calls
-----------------------------------------------------------------------------------------

/-- A client that sends a request starts a call, unless it waits for one. -/
theorem Phase.call (phase : Phase toText fromSlice peer done point caller) (text : String)
    (fits : ∀ t ∈ (caller.call text).calls, Fits t)
    : Phase toText fromSlice peer done point (caller.call text) := by
  unfold Caller.call at fits ⊢
  cases phase with
  | idle =>
      rw [if_neg (by simp)] at fits ⊢
      exact .sent done (fits text (by simp))
  | sent _ known =>
      rw [if_pos (by simp)]
      exact .sent done known
  | reading _ known =>
      rw [if_pos (by simp)]
      exact .reading done known
  | serving _ serves =>
      rw [if_pos (by simp)]
      exact .serving done serves
  | writing before =>
      rw [if_pos (by simp)]
      exact .writing before _ _
  | written before =>
      rw [if_pos (by simp)]
      exact .written before _ _
  | broken before pending unanswered toServer toClient one some' none' =>
      dsimp only at fits ⊢
      split_ifs with waits
      · exact .broken before pending unanswered toServer toClient one some' none'
      · have nothing : pending = [] ∧ unanswered = [] := by
          simp only [List.length_map, List.length_append] at waits
          exact ⟨List.length_eq_zero_iff.mp (by omega), List.length_eq_zero_iff.mp (by omega)⟩
        obtain ⟨rfl, rfl⟩ := nothing
        exact .of_ended before [] [text] (by simp) (by simp) rfl (by simp) rfl (by simp)
          (by simpa using none')

/-- A client that receives takes the whole response of its call or nothing. -/
theorem Phase.receive (phase : Phase toText fromSlice peer done point caller)
    (fits : ∀ exchange ∈ done, Fits (responseText toText exchange.2))
    : Phase toText fromSlice peer done point (caller.receive fromSlice) := by
  have nothing : recv fromSlice [[]] = none := rfl
  unfold Caller.receive
  cases phase with
  | idle =>
      rw [if_neg (by simp)]
      exact .idle done
  | sent _ known =>
      rw [nothing, ite_self]
      exact .sent done known
  | reading _ known =>
      rw [nothing, ite_self]
      exact .reading done known
  | serving _ serves =>
      rw [nothing, ite_self]
      exact .serving done serves
  | writing before =>
      rw [nothing, ite_self]
      exact .writing before _ _
  | written before text response =>
      obtain ⟨left, whole, rest⟩ := recv_whole fromSlice (fits (text, response) (by simp))
      rw [if_pos (by simp), whole]
      dsimp only
      rw [rest]
      have next : Phase toText fromSlice peer (before ++ [(text, response)]) .readingHeader _ :=
        .idle (before ++ [(text, response)])
      rwa [List.map_append, List.map_append] at next
  | broken before pending unanswered toServer toClient one some' none' =>
      dsimp only
      split_ifs with waits
      · cases pending with
        | nil =>
            rw [none' rfl, nothing]
            exact .broken before [] unanswered toServer [] one (by simp) (by simp)
        | cons exchange others =>
            have alone : others = [] ∧ unanswered = [] := by
              rw [List.length_cons] at one
              exact ⟨List.length_eq_zero_iff.mp (by omega), List.length_eq_zero_iff.mp (by omega)⟩
            obtain ⟨rfl, rfl⟩ := alone
            have part := some' exchange List.mem_cons_self
            have known := fits exchange (by simp)
            by_cases full : toClient = frame (responseBody toText exchange.2)
            · obtain ⟨left, whole, rest⟩ := recv_whole fromSlice known
              rw [full, whole]
              dsimp only
              rw [rest]
              exact .of_ended (before ++ [exchange]) [] [] (by simp) (by simp) rfl (by simp)
                (by simp [received]) (by simp) (by simp)
            · rw [recv_part known part full]
              exact .broken before [exchange] [] toServer toClient one some' none'
      · exact .broken before pending unanswered toServer toClient one some' none'

variable {World Conn Stmt : Type} {backend : Backend World Conn Stmt} {config : Config}
  {serde : SerdeJson}

/-- The exchange that is complete when a task steps: the one of the request it handles. -/
def exchanged (backend : Backend World Conn Stmt) (config : Config) (serde : SerdeJson)
    (state : TaskState World Conn) (action : Action World)
    : List (String × Value) :=
  match state.task.point, action with
  | .handling request, .respond =>
      [(request,
        (handleRequest backend config serde request state.task.handler state.world).1)]
  | _, _ => []

/-- A step of a task takes its call on: by cases on the step, each of which starts from a point of
only some phases.
-/
theorem Phase.act {state next : TaskState World Conn} {action : Action World}
    (phase : Phase toText fromSlice peer done state.task.point caller)
    (step : TaskStep backend config serde toText state action next)
    (arrived : action.taken <+: caller.toServer) (sent : Nat)
    : Phase toText fromSlice peer (done ++ exchanged backend config serde state action)
        next.task.point
        { caller with
          toServer := caller.toServer.drop action.taken.length
          toClient := caller.toClient ++ action.written state.task.point sent } := by
  obtain ⟨limiter, ⟨handler, point, held⟩, world⟩ := state
  have quiet (none : exchanged backend config serde ⟨limiter, ⟨handler, point, held⟩, world⟩ action
      = []) {point' : Point} {caller' : Caller}
      (still : Phase toText fromSlice peer done point' caller')
      : Phase toText fromSlice peer
          (done ++ exchanged backend config serde ⟨limiter, ⟨handler, point, held⟩, world⟩ action)
          point' caller' := by
    rwa [none, List.append_nil]
  cases step with
  | @header buf at' length within =>
      cases at'
      refine quiet rfl ?_
      cases phase with
      | idle =>
          obtain rfl : buf = [] := List.prefix_nil.mp arrived
          cases length
      | sent _ fits =>
          obtain ⟨size, rest⟩ := send_split length arrived
          simp only [TaskState.goTo, Action.taken, Action.written, List.append_nil, size, rest]
          exact .reading done fits
      | serving _ serves => simp at serves
      | written =>
          obtain rfl : buf = [] := List.prefix_nil.mp arrived
          cases length
  | refuse at' length =>
      cases at'
      exact quiet rfl (phase.breaks _ (Or.inl rfl))
  | @body buf packetSize at' length =>
      cases at'
      refine quiet rfl ?_
      cases phase with
      | serving _ serves => simp at serves
      | @reading _ text fits =>
          rw [UInt32.toNat_ofNat', Nat.mod_eq_of_lt fits] at length
          obtain rfl : buf = utf8Bytes text := List.IsPrefix.eq_of_length arrived length
          simp only [TaskState.goTo, Action.taken, Action.written, List.append_nil,
            List.drop_length, fromUtf8Lossy_utf8Bytes]
          exact .serving done (Or.inl rfl)
  | acquire at' granted =>
      cases at'
      refine quiet rfl ?_
      cases phase with
      | serving _ serves =>
          rcases serves with same | same | same
          · cases same
            exact .serving done (Or.inr (Or.inl rfl))
          · cases same
          · cases same
  | enter at' =>
      cases at'
      refine quiet rfl ?_
      cases phase with
      | serving _ serves =>
          rcases serves with same | same | same
          · cases same
          · cases same
            exact .serving done (Or.inr (Or.inr rfl))
          · cases same
  | @respond request response _ _ at' handled =>
      cases at'
      have exchange
          : exchanged backend config serde
              ⟨limiter, ⟨handler, .handling request, held⟩, world⟩ .respond
            = [(request, response)] := by
        simp only [exchanged, handled]
      rw [exchange]
      cases phase with
      | serving _ serves =>
          rcases serves with same | same | same
          · cases same
          · cases same
          · cases same
            exact .writing done request response
  | write at' =>
      cases at'
      refine quiet rfl ?_
      cases phase with
      | serving _ serves => simp at serves
      | writing before text response => exact .written before text response
  | readFails at' =>
      refine quiet (by cases point <;> rfl) (phase.breaks _ (Or.inl ?_))
      cases point <;> rfl
  | writeFails at' =>
      cases at'
      exact quiet rfl (phase.breaks _ (Or.inr ⟨_, sent, rfl, rfl⟩))
  | cancel at' =>
      refine quiet (by cases point <;> rfl) (phase.breaks _ ?_)
      cases point with
      | writing response => exact Or.inr ⟨response, sent, rfl, rfl⟩
      | _ => exact Or.inl rfl
  | panic at' =>
      cases point with
      | handling request => exact quiet rfl (phase.breaks _ (Or.inl rfl))
      | _ => cases at'

end Phases

end SqliteServer
