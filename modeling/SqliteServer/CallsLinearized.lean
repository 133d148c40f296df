import SqliteServer.Authentication
import SqliteServer.Dialogues

/-! The calls of concurrent clients as one sequence of requests. -/

namespace SqliteServer

open Json Wire Runs

section Runs

variable {World Conn Stmt : Type} {backend : Backend World Conn Stmt} {config : Config}
  {serde : SerdeJson} {toText : Value → Option String} {fromSlice : Bytes → Except String Value}

/-- What a step of a task is for the sessions takes the server where the task takes it. -/
theorem TaskStep.performed {state next : TaskState World Conn} {action : Action World}
    (step : TaskStep backend config serde toText state action next) {server : Server World Conn}
    {i : Nat} (handler : server.sessions i = state.task.handler)
    (world : server.world = state.world)
    : after (Server.step backend config serde) server (Network.performed i state.task.point next)
        = server.setSession i next.task.handler next.world
      ∧ outputs (Server.answer backend config serde) server
          (Network.performed i state.task.point next)
        = (exchanged backend config serde state action).map (fun exchange => (i, exchange)) := by
  have unchanged : server.setSession i state.task.handler state.world = server := by
    rw [← handler, ← world]
    exact server.setSession_same i
  have ended {point : Point} {next : TaskState World Conn} (at' : next.task = ⟨.new, .ended, 0⟩)
      : after (Server.step backend config serde) server (Network.performed i point next)
          = server.setSession i next.task.handler next.world
        ∧ outputs (Server.answer backend config serde) server (Network.performed i point next)
          = [] := by
    have events
        : Network.performed i point next = [.disconnect i, .environment next.world] := by
      unfold Network.performed
      rw [at']
      cases point <;> rfl
    rw [events, at']
    exact ⟨rfl, rfl⟩
  obtain ⟨limiter, ⟨handler', point, held⟩, world'⟩ := state
  cases step with
  | header at' => cases at'; exact ⟨unchanged.symm, rfl⟩
  | body at' => cases at'; exact ⟨unchanged.symm, rfl⟩
  | acquire at' => cases at'; exact ⟨unchanged.symm, rfl⟩
  | enter at' => cases at'; exact ⟨unchanged.symm, rfl⟩
  | write at' => cases at'; exact ⟨unchanged.symm, rfl⟩
  | @respond request response handler'' world'' at' handled =>
      cases at'
      dsimp only at handler world handled
      rw [← handler, ← world] at handled
      constructor
      · change
          server.setSession i
            (handleRequest backend config serde request (server.sessions i) server.world).2.1
            (handleRequest backend config serde request (server.sessions i) server.world).2.2
          = server.setSession i handler'' world''
        rw [handled]
      · subst handler world
        rfl
  | refuse at' => cases at'; exact ended rfl
  | readFails at' => 
      refine ⟨(ended rfl).1, (ended rfl).2.trans ?_⟩
      cases point <;> rfl
  | writeFails at' => cases at'; exact ended rfl
  | cancel at' =>
      refine ⟨(ended rfl).1, (ended rfl).2.trans ?_⟩
      cases point <;> rfl
  | panic at' =>
      refine ⟨(ended rfl).1, (ended rfl).2.trans ?_⟩
      cases point <;> rfl

variable (backend config serde)

/-- The exchanges of a session in a run of the server: its requests with their responses. -/
def exchangesOf (world : World) (served : List (ServerEvent World)) (i : Nat)
    : List (String × Value) :=
  ofSession i (outputs (Server.answer backend config serde) (Server.start world) served)

theorem exchangesOf_append (world : World) (served more : List (ServerEvent World)) (i : Nat)
    : exchangesOf backend config serde world (served ++ more) i
      = exchangesOf backend config serde world served i
        ++ ofSession i
            (outputs (Server.answer backend config serde)
              (after (Server.step backend config serde) (Server.start world) served) more) := by
  rw [exchangesOf, outputs_append, ofSession_append, after_answer]
  rfl

variable (toText fromSlice)

/-- The system is where its server is after a run, each call in a phase that fits the exchanges of
its session in this run.
-/
structure Network.Linked (world : World) (served : List (ServerEvent World))
    (network : Network World Conn) : Prop where
  server
    : after (Server.step backend config serde) (Server.start world) served
      = network.process.server
  clients : network.callers.length = network.process.tasks.length
  fresh
    : ∀ i, network.callers.length ≤ i → exchangesOf backend config serde world served i = []
  phase
    : ∀ (i : Nat) task caller,
        network.process.tasks[i]? = some task
        → network.callers[i]? = some caller
        → (∀ text ∈ caller.calls, Fits text)
        → (∀ exchange ∈ exchangesOf backend config serde world served i,
            Fits (responseText toText exchange.2))
        → Phase toText fromSlice caller.peer (exchangesOf backend config serde world served i)
            task.point caller

variable {backend config serde toText fromSlice} {world : World}
  {served : List (ServerEvent World)} {network : Network World Conn}

theorem Network.Linked.start
    : Network.Linked backend config serde toText fromSlice world []
        (Network.start config world) where
  server := by
    rw [after, Server.start, Network.start, Process.server]
    rfl
  clients := rfl
  fresh _ _ := rfl
  phase i task caller found := by simp [Network.start, Process.start] at found

theorem Network.Linked.connect
    (linked : network.Linked backend config serde toText fromSlice world served)
    (peer : SocketAddr)
    : (Network.mk (network.process.step backend config serde toText .accept).1
        (network.callers ++ [.new peer])).Linked backend config serde toText fromSlice world
        served where
  server := linked.server.trans network.process.server_accept.symm
  clients := by
    have longer : (network.process.tasks ++ [Task.new]).length = _ := List.length_append
    rw [List.length_append, linked.clients]
    exact longer.symm
  fresh i outside := by
    rw [List.length_append] at outside
    exact linked.fresh i (by omega)
  phase i task caller found client texts responses := by
    have found' : (network.process.tasks ++ [Task.new])[i]? = some task := found
    rw [List.getElem?_append] at found' client
    rw [linked.clients] at client
    split_ifs at found' client with old
    · exact linked.phase i task caller found' client texts responses
    · rw [linked.fresh i (by rw [linked.clients]; omega)]
      rw [List.getElem?_singleton] at found' client
      split_ifs at found' client
      obtain rfl := Option.some.inj found'
      obtain rfl := Option.some.inj client
      exact .idle []

/-- A client's own step that keeps the phase of its call keeps the system linked. -/
theorem Network.Linked.modify
    (linked : network.Linked backend config serde toText fromSlice world served) (i : Nat)
    {f : Caller → Caller} (grows : ∀ caller, ∀ text ∈ caller.calls, text ∈ (f caller).calls)
    (peer : ∀ caller, (f caller).peer = caller.peer)
    (keeps
      : ∀ done point caller,
          Phase toText fromSlice caller.peer done point caller
          → (∀ text ∈ (f caller).calls, Fits text)
          → (∀ exchange ∈ done, Fits (responseText toText exchange.2))
          → Phase toText fromSlice caller.peer done point (f caller))
    : Network.Linked backend config serde toText fromSlice world served
        { network with callers := network.callers.modify i f } where
  server := linked.server
  clients := by
    rw [List.length_modify]
    exact linked.clients
  fresh j outside := by
    rw [List.length_modify] at outside
    exact linked.fresh j outside
  phase j task caller found client texts responses := by
    rw [List.getElem?_modify] at client
    obtain ⟨before, client', rfl⟩ := Option.map_eq_some_iff.mp client
    by_cases same : i = j
    · rw [if_pos same] at texts ⊢
      have known := linked.phase j task before found client'
        (fun text member => texts text (grows before text member)) responses
      rw [peer]
      exact keeps _ _ before known texts responses
    · rw [if_neg same] at texts ⊢
      exact linked.phase j task before found client' texts responses

theorem Network.Linked.act
    (linked : network.Linked backend config serde toText fromSlice world served) {i : Nat}
    {task : Task Conn} {caller : Caller} (found : network.process.tasks[i]? = some task)
    (client : network.callers[i]? = some caller) {action : Action World}
    {next : TaskState World Conn}
    (step
      : TaskStep backend config serde toText
          ⟨network.process.limiter, task, network.process.world⟩ action next)
    (arrived : action.taken <+: caller.toServer) (sent : Nat)
    : Network.Linked backend config serde toText fromSlice world
        (served ++ Network.performed i task.point next)
        ⟨⟨next.limiter, network.process.tasks.set i next.task, next.world⟩,
          network.callers.set i
            { caller with
              toServer := caller.toServer.drop action.taken.length
              toClient := caller.toClient ++ action.written task.point sent }⟩ := by
  have session : network.process.server.sessions i = task.handler := by
    dsimp only [Process.server]
    rw [found]
    rfl
  obtain ⟨reached, answers⟩ := step.performed session rfl
  have more (j : Nat)
      : exchangesOf backend config serde world
          (served ++ Network.performed i task.point next) j
        = exchangesOf backend config serde world served j
          ++ ofSession j
              ((exchanged backend config serde
                ⟨network.process.limiter, task, network.process.world⟩ action).map
                (fun exchange => (i, exchange))) := by
    rw [exchangesOf_append, linked.server, answers]
  constructor
  · rw [after_append, linked.server, reached]
    exact (network.process.server_set _ found _ _).symm
  · rw [List.length_set, List.length_set]
    exact linked.clients
  · intro j outside
    rw [List.length_set] at outside
    have inside : i < network.callers.length := (List.getElem?_eq_some_iff.mp client).1
    rw [more, linked.fresh j outside, ofSession_map, if_neg (by omega)]
    rfl
  · intro j task' caller' found' client' texts responses
    rw [more, ofSession_map] at responses ⊢
    by_cases same : i = j
    · subst same
      rw [if_pos rfl] at responses ⊢
      rw [List.getElem?_set_self (List.getElem?_eq_some_iff.mp found).1] at found'
      rw [List.getElem?_set_self (List.getElem?_eq_some_iff.mp client).1] at client'
      obtain rfl := Option.some.inj found'
      obtain rfl := Option.some.inj client'
      have known := linked.phase i task caller found client texts
        (fun exchange member => responses exchange (List.mem_append_left _ member))
      exact known.act step arrived sent
    · rw [if_neg same, List.append_nil] at responses ⊢
      rw [List.getElem?_set_ne same] at found' client'
      exact linked.phase j task' caller' found' client' texts responses

/-- Every step of the system keeps it linked, with what the step is for the sessions. -/
theorem Network.Linked.step
    (linked : network.Linked backend config serde toText fromSlice world served)
    (event : NetworkEvent World)
    : Network.Linked backend config serde toText fromSlice world
        (served ++ (network.step backend config serde toText fromSlice event).2)
        (network.step backend config serde toText fromSlice event).1 := by
  have unchanged
      : network.Linked backend config serde toText fromSlice world (served ++ []) := by
    rwa [List.append_nil]
  unfold Network.step
  cases event with
  | connect peer =>
      dsimp only
      split
      · exact (List.append_nil served).symm ▸ linked.connect peer
      · exact unchanged
  | call i text =>
      refine (List.append_nil served).symm ▸ linked.modify i ?_ ?_ ?_
      · exact fun caller _ member => caller.calls_call text member
      · exact fun caller => caller.peer_call text
      · exact fun _ _ _ phase fits _ => phase.call text fits
  | act i action sent =>
      dsimp only
      cases found : network.process.tasks[i]? with
      | none => exact unchanged
      | some task =>
          cases client : network.callers[i]? with
          | none => exact unchanged
          | some caller =>
              dsimp only
              split_ifs with arrived
              · cases stepped
                    : TaskState.step backend config serde toText
                        ⟨network.process.limiter, task, network.process.world⟩ action with
                | none => exact unchanged
                | some result =>
                    exact linked.act found client (taskStep_of_step stepped)
                      (List.isPrefixOf_iff_prefix.mp arrived) sent
              · exact unchanged
  | receive i =>
      refine (List.append_nil served).symm ▸ linked.modify i ?_ ?_ ?_
      · exact fun caller _ member => (caller.receive_frame fromSlice).1.symm ▸ member
      · exact fun caller => (caller.receive_frame fromSlice).2
      · exact fun _ _ _ phase _ responses => phase.receive responses
  | environment world' =>
      have exchanges (i : Nat)
          : exchangesOf backend config serde world (served ++ [.environment world']) i
            = exchangesOf backend config serde world served i := by
        rw [exchangesOf_append]
        exact List.append_nil _
      constructor
      · rw [after_append, linked.server]
        rfl
      · exact linked.clients
      · intro i outside
        rw [exchanges]
        exact linked.fresh i outside
      · intro i task caller found client texts responses
        rw [exchanges] at responses ⊢
        exact linked.phase i task caller found client texts responses

variable (backend config serde toText fromSlice world)

/-- The system as its clients see it: the server has handled `served` one by one, the exchanges of a
session are the calls of its client in order, and the client has their results in the same order.
Only the last result may be missing, or else the last call may not have been handled.
-/
structure Network.Linearized (served : List (ServerEvent World)) (network : Network World Conn)
    : Prop where
  server
    : after (Server.step backend config serde) (Server.start world) served
      = network.process.server
  answers
    : ∀ (i : Nat) caller,
        network.callers[i]? = some caller
        → (∀ text ∈ caller.calls, Fits text)
        → (∀ exchange ∈ exchangesOf backend config serde world served i,
            Fits (responseText toText exchange.2))
        → ∃ pending unanswered,
            caller.calls
              = (exchangesOf backend config serde world served i).map (·.1) ++ unanswered
            ∧ (exchangesOf backend config serde world served i).map
                  (received toText fromSlice ·.2)
              = caller.results ++ pending
            ∧ pending.length + unanswered.length ≤ 1
  others
    : ∀ i, network.callers.length ≤ i → exchangesOf backend config serde world served i = []

variable {backend config serde toText fromSlice world} in
theorem Network.Linked.linearized
    (linked : network.Linked backend config serde toText fromSlice world served)
    : network.Linearized backend config serde toText fromSlice world served where
  server := linked.server
  answers i caller client texts responses := by
    have inside : i < network.process.tasks.length := by
      rw [← linked.clients]
      exact (List.getElem?_eq_some_iff.mp client).1
    obtain ⟨before, pending, unanswered, split, one, results, calls, -⟩ :=
      (linked.phase i _ caller (List.getElem?_eq_getElem inside) client texts responses).summary
    refine ⟨pending.map (received toText fromSlice ·.2), unanswered, calls, ?_, ?_⟩
    · rw [split, List.map_append, results]
    · rwa [List.length_map]
  others := linked.fresh

/-- Every run keeps the system linked. By induction on the run, with the phase of every call as the
invariant.
-/
theorem linked_run (events : List (NetworkEvent World))
    : Network.Linked backend config serde toText fromSlice world
        (outputs (Network.step backend config serde toText fromSlice)
          (Network.start config world) events)
        (after (Network.step backend config serde toText fromSlice)
          (Network.start config world : Network World Conn) events) :=
  outputs_invariant
    (I := fun served network =>
      Network.Linked backend config serde toText fromSlice world served network)
    (fun _ _ event linked => linked.step event) Network.Linked.start events

end Runs

end SqliteServer
