import SqliteServer.CallsLinearized

/-! Every call returns whose statements end: the system comes to rest, and it rests only when no
client waits but for statements that do not end.
-/

namespace SqliteServer

open Json Wire Runs

-----------------------------------------------------------------------------------------
-- Steps of progress
-----------------------------------------------------------------------------------------

/-- The steps that the system takes by itself while nothing fails: tasks read, take permits, handle
and answer requests, and clients receive.
-/
def NetworkEvent.IsProgress {World : Type} : NetworkEvent World → Prop
  | .receive _ => True
  | .act _ (.read _) _ => True
  | .act _ .acquire _ => True
  | .act _ .enter _ => True
  | .act _ .respond _ => True
  | .act _ .write _ => True
  | _ => False

/-- The steps from a point to the next request. -/
def Point.ahead : Point → Nat
  | .readingHeader => 0
  | .readingBody _ => 5
  | .acquiring _ => 4
  | .acquired _ => 3
  | .handling _ => 2
  | .writing _ => 1
  | .ended => 0

/-- What a client's connection has ahead; a header of four bytes leads to the point farthest ahead.
-/
def Caller.ahead (caller : Caller) : Nat :=
  2 * caller.toServer.length + (caller.calls.length - caller.results.length)

section Progress

variable {World Conn Stmt : Type}

def Network.ahead (network : Network World Conn) : Nat :=
  (network.process.tasks.map (·.point.ahead)).sum + (network.callers.map Caller.ahead).sum

variable {backend : Backend World Conn Stmt} {config : Config} {serde : SerdeJson}
  {toText : Value → Option String} {fromSlice : Bytes → Except String Value}

/-- A step of progress brings a task ahead of what it takes from its client. -/
theorem TaskStep.ahead {state next : TaskState World Conn} {action : Action World}
    (step : TaskStep backend config serde toText state action next) {i sent : Nat}
    (progress : (NetworkEvent.act i action sent).IsProgress)
    : next.task.point.ahead < state.task.point.ahead + 2 * action.taken.length := by
  obtain ⟨limiter, ⟨handler, point, held⟩, world⟩ := state
  cases step with
  | header at' length =>
      cases at'
      simp [TaskState.goTo, Point.ahead, Action.taken, length]
  | refuse at' length =>
      cases at'
      simp [TaskState.finish, Point.ahead, Action.taken, length]
  | body at' =>
      cases at'
      exact Nat.lt_add_right _ (show 4 < 5 by decide)
  | acquire at' =>
      cases at'
      exact Nat.lt_add_right _ (show 3 < 4 by decide)
  | enter at' =>
      cases at'
      exact Nat.lt_add_right _ (show 2 < 3 by decide)
  | respond at' =>
      cases at'
      exact Nat.lt_add_right _ (show 1 < 2 by decide)
  | write at' =>
      cases at'
      exact Nat.lt_add_right _ (show 0 < 1 by decide)
  | readFails => cases progress
  | writeFails => cases progress
  | cancel => cases progress
  | panic => cases progress

variable (fromSlice) in
theorem Caller.receive_ahead (caller : Caller)
    : caller.receive fromSlice = caller ∨ (caller.receive fromSlice).ahead < caller.ahead := by
  unfold receive
  split_ifs with waits
  · cases recv fromSlice [caller.toClient] with
    | none => exact Or.inl rfl
    | some result =>
        refine Or.inr ?_
        simp only [ahead, List.length_append, List.length_singleton]
        omega
  · exact Or.inl rfl

variable (backend config serde toText fromSlice) in
/-- A step of progress changes nothing or leaves less ahead. -/
theorem Network.step_ahead (network : Network World Conn) {event : NetworkEvent World}
    (progress : event.IsProgress)
    : (network.step backend config serde toText fromSlice event).1 = network
      ∨ (network.step backend config serde toText fromSlice event).1.ahead < network.ahead := by
  cases event with
  | connect peer => cases progress
  | call i text => cases progress
  | environment world => cases progress
  | receive i =>
      change { network with callers := network.callers.modify i (·.receive fromSlice) } = network
        ∨ Network.ahead { network with callers := network.callers.modify i (·.receive fromSlice) }
          < network.ahead
      rw [List.modify_eq_set_getElem?]
      cases client : network.callers[i]? with
      | none => exact Or.inl rfl
      | some caller =>
          rcases Caller.receive_ahead fromSlice caller with same | less
          · have kept : network.callers.set i caller = network.callers := by
              obtain ⟨inside, rfl⟩ := List.getElem?_eq_some_iff.mp client
              exact List.set_getElem_self inside
            refine Or.inl ?_
            rw [Option.map_eq_map, Option.map_some, Option.getD_some, same, kept]
          · have callers := sum_map_set Caller.ahead (caller.receive fromSlice) client
            refine Or.inr ?_
            rw [Option.map_eq_map, Option.map_some, Option.getD_some]
            dsimp only [ahead]
            omega
  | act i action sent =>
      unfold step
      dsimp only
      cases found : network.process.tasks[i]? with
      | none => exact Or.inl rfl
      | some task =>
          cases client : network.callers[i]? with
          | none => exact Or.inl rfl
          | some caller =>
              dsimp only
              split_ifs with arrived
              · cases stepped
                    : TaskState.step backend config serde toText
                        ⟨network.process.limiter, task, network.process.world⟩ action with
                | none => exact Or.inl rfl
                | some result =>
                    refine Or.inr ?_
                    have task' := (taskStep_of_step stepped).ahead progress
                    have tasks :=
                      sum_map_set (fun t : Task Conn => t.point.ahead) result.1.task found
                    have callers := sum_map_set Caller.ahead
                      { caller with
                        toServer := caller.toServer.drop action.taken.length
                        toClient := caller.toClient ++ action.written task.point sent } client
                    have length := (List.isPrefixOf_iff_prefix.mp arrived).length_le
                    simp only [Caller.ahead, List.length_drop, ahead] at callers task' tasks ⊢
                    omega
              · exact Or.inl rfl

-----------------------------------------------------------------------------------------
-- The process in the system
-----------------------------------------------------------------------------------------

variable (backend config serde toText fromSlice) in
/-- A step of the system is a step of its process, or leaves the process as it is. -/
theorem Network.step_process (network : Network World Conn) (event : NetworkEvent World)
    : ∃ events,
        (network.step backend config serde toText fromSlice event).1.process
        = after (Process.step backend config serde toText) network.process events := by
  have unchanged
      : ∃ events,
          network.process
          = after (Process.step backend config serde toText) network.process events :=
    ⟨[], rfl⟩
  unfold step
  cases event with
  | connect peer =>
      dsimp only
      split
      · exact ⟨[.accept], rfl⟩
      · exact unchanged
  | call i text => exact unchanged
  | receive i => exact unchanged
  | environment world => exact ⟨[.environment world], rfl⟩
  | act i action sent =>
      dsimp only
      cases found : network.process.tasks[i]? with
      | none => exact unchanged
      | some task =>
          cases client : network.callers[i]? with
          | none => exact unchanged
          | some caller =>
              dsimp only
              split_ifs with arrived
              · cases stepped
                    : TaskState.step backend config serde toText
                        ⟨network.process.limiter, task, network.process.world⟩ action with
                | none => exact unchanged
                | some result =>
                    refine ⟨[.act i action], ?_⟩
                    simp only [after, Process.step, found, stepped]
              · exact unchanged

variable (backend config serde toText fromSlice) in
/-- The permits of the system's process stay balanced. -/
theorem Network.balanced (world : World) (events : List (NetworkEvent World))
    : (after (Network.step backend config serde toText fromSlice)
        (Network.start config world : Network World Conn) events).process.Balanced config := by
  have keeps (network : Network World Conn) (event : NetworkEvent World)
      (balanced : network.process.Balanced config)
      : (network.step backend config serde toText fromSlice event).1.process.Balanced config := by
    obtain ⟨steps, same⟩ := network.step_process backend config serde toText fromSlice event
    rw [same]
    exact after_invariant (I := fun process : Process World Conn => process.Balanced config)
      (fun _ step balanced => Process.step_balanced balanced step) balanced steps
  exact after_invariant (I := fun network : Network World Conn => network.process.Balanced config)
    keeps (Process.start_balanced world) events

-----------------------------------------------------------------------------------------
-- Rest
-----------------------------------------------------------------------------------------

/-- The steps of progress that can be made: a handler answers only if its statements end. -/
structure Network.Progresses (endless : World → RequestHandler Conn → String → Prop)
    (network : Network World Conn) (event : NetworkEvent World)
    : Prop where
  progress : event.IsProgress
  ends
    : ∀ i sent task request,
        event = .act i .respond sent
        → network.process.tasks[i]? = some task
        → task.point = .handling request
        → ¬ endless network.process.world task.handler request

variable (backend config serde toText fromSlice) in
/-- No step of progress that can be made changes anything. -/
def Network.AtRest (endless : World → RequestHandler Conn → String → Prop)
    (network : Network World Conn) : Prop :=
  ∀ event : NetworkEvent World,
    network.Progresses endless event
    → (network.step backend config serde toText fromSlice event).1 = network

variable {endless : World → RequestHandler Conn → String → Prop} {network : Network World Conn}
  {i : Nat} {task : Task Conn} {caller : Caller}

/-- All steps of progress but the answers can always be made. -/
theorem Network.progresses {event : NetworkEvent World} (progress : event.IsProgress)
    (other : ∀ i sent, event ≠ .act i .respond sent)
    : network.Progresses endless event :=
  ⟨progress, fun i sent _ _ responds => absurd responds (other i sent)⟩

/-- At rest no task can go on to another point. -/
theorem Network.AtRest.point
    (rest : network.AtRest backend config serde toText fromSlice endless)
    (found : network.process.tasks[i]? = some task) (client : network.callers[i]? = some caller)
    (action : Action World) (progress : network.Progresses endless (.act i action 0))
    (arrived : action.taken <+: caller.toServer) {next : TaskState World Conn}
    {events : List Event}
    (stepped
      : TaskState.step backend config serde toText
          ⟨network.process.limiter, task, network.process.world⟩ action
        = some (next, events))
    : next.task.point = task.point := by
  have same := rest (.act i action 0) progress
  simp only [step, found, client, List.isPrefixOf_iff_prefix.mpr arrived, if_true, stepped] at same
  have tasks := congrArg (fun network => network.process.tasks[i]?) same
  dsimp only at tasks
  rw [List.getElem?_set_self (List.getElem?_eq_some_iff.mp found).1, found] at tasks
  rw [Option.some.inj tasks]

/-- At rest a request that has a permit is in statements that do not end. -/
theorem Network.AtRest.runsOn
    (rest : network.AtRest backend config serde toText fromSlice endless)
    (found : network.process.tasks[i]? = some task) (client : network.callers[i]? = some caller)
    (under : task.point.underPermit = true)
    : ∃ request,
        task.point = .handling request ∧ endless network.process.world task.handler request := by
  cases point : task.point with
  | acquired request =>
      have stuck := rest.point found client .enter (progresses trivial (by simp)) List.nil_prefix
        (by simp only [TaskState.step, point]; rfl)
      rw [point] at stuck
      cases stuck
  | handling request =>
      refine ⟨request, rfl, ?_⟩
      by_contra ends
      have answers : network.Progresses endless (.act i .respond 0) := by
        refine ⟨trivial, ?_⟩
        rintro j sent other text ⟨⟩ found' handles
        obtain rfl := Option.some.inj (found.symm.trans found')
        obtain rfl := Point.handling.inj (point.symm.trans handles)
        exact ends
      have stuck := rest.point found client .respond answers List.nil_prefix
        (by simp only [TaskState.step, TaskState.respond, point]; rfl)
      rw [point] at stuck
      cases stuck
  | _ =>
      rw [point] at under
      cases under

/-- At rest all permits are left if every statement ends. -/
theorem Network.AtRest.permits
    (rest : network.AtRest backend config serde toText fromSlice endless)
    (balanced : network.process.Balanced config)
    (clients : network.callers.length = network.process.tasks.length)
    (ends
      : ∀ task ∈ network.process.tasks,
          ∀ request,
            task.point = .handling request
            → ¬ endless network.process.world task.handler request)
    : network.process.limiter.permits = max config.workers.toNat 1 := by
  have none' : network.process.underPermit = 0 := by
    refine List.countP_eq_zero.mpr ?_
    intro task member under
    obtain ⟨i, inside, rfl⟩ := List.getElem_of_mem member
    obtain ⟨request, handles, never⟩ :=
      rest.runsOn (List.getElem?_eq_getElem inside)
        (List.getElem?_eq_getElem (clients ▸ inside : i < network.callers.length)) under
    exact ends _ member request handles never
  have total := balanced.bounded.permits
  omega

/-- A task that reads a header goes on, whether or not the packet is too large. -/
theorem read_header {state : TaskState World Conn} (at' : state.task.point = .readingHeader)
    {buf : Bytes} (four : buf.length = 4)
    : ∃ next events,
        TaskState.step backend config serde toText state (.read buf) = some (next, events)
        ∧ next.task.point ≠ .readingHeader := by
  simp only [TaskState.step, TaskState.read, at', if_pos four]
  split_ifs
  · exact ⟨_, _, rfl, Point.noConfusion⟩
  · exact ⟨_, _, rfl, Point.noConfusion⟩

/-- A client waits in vain: its request is in statements that do not end, or waits for a permit that
such requests hold.
-/
def Network.Starved (endless : World → RequestHandler Conn → String → Prop)
    (network : Network World Conn) (task : Task Conn) : Prop :=
  ∃ request,
    (task.point = .handling request ∧ endless network.process.world task.handler request)
    ∨ (task.point = .acquiring request ∧ network.process.limiter.permits = 0)

/-- At rest a client of a running task waits only in vain: otherwise its call is not in a phase that
goes on.
-/
theorem Network.AtRest.returned
    (rest : network.AtRest backend config serde toText fromSlice endless)
    (found : network.process.tasks[i]? = some task) (client : network.callers[i]? = some caller)
    (running : task.point ≠ .ended) {done : List (String × Value)}
    (phase : Phase toText fromSlice caller.peer done task.point caller)
    (fits : ∀ exchange ∈ done, Fits (responseText toText exchange.2))
    : caller.results.length = caller.calls.length ∨ network.Starved endless task := by
  obtain ⟨handler, point, held⟩ := task
  obtain ⟨peer, calls, results, toServer, toClient⟩ := caller
  have stuck (action : Action World) (progress : network.Progresses endless (.act i action 0))
      (arrived : action.taken <+: toServer)
      (goes
        : ∃ next events,
            TaskState.step backend config serde toText
              ⟨network.process.limiter, ⟨handler, point, held⟩, network.process.world⟩ action
              = some (next, events)
            ∧ next.task.point ≠ point)
      : False := by
    obtain ⟨next, events, stepped, other⟩ := goes
    exact other (rest.point found client action progress arrived stepped)
  cases phase with
  | idle => exact .inl (by simp)
  | @sent _ text _ =>
      refine (stuck (.read (lengthHeader (utf8Bytes text).length)) (progresses trivial (by simp))
        (List.prefix_append _ _) ?_).elim
      exact read_header rfl (length_toLeBytes _)
  | @reading _ text fits =>
      have count : (utf8Bytes text).length = (UInt32.ofNat (utf8Bytes text).length).toNat := by
        rw [UInt32.toNat_ofNat', Nat.mod_eq_of_lt fits]
      refine (stuck (.read (utf8Bytes text)) (progresses trivial (by simp)) List.prefix_rfl
        ?_).elim
      simp only [TaskState.step, TaskState.read, if_pos count]
      exact ⟨_, _, rfl, Point.noConfusion⟩
  | serving _ serves =>
      rcases serves with rfl | rfl | rfl
      · by_cases permits : 0 < network.process.limiter.permits
        · refine (stuck .acquire (progresses trivial (by simp)) List.nil_prefix ?_).elim
          simp only [TaskState.step, TaskState.acquire, Semaphore.acquire, if_pos permits]
          exact ⟨_, _, rfl, Point.noConfusion⟩
        · exact .inr ⟨_, .inr ⟨rfl, Nat.eq_zero_of_not_pos permits⟩⟩
      · exact (stuck .enter (progresses trivial (by simp)) List.nil_prefix
          ⟨_, _, rfl, Point.noConfusion⟩).elim
      · obtain ⟨request, handles, never⟩ := rest.runsOn found client rfl
        exact .inr ⟨request, .inl ⟨handles, never⟩⟩
  | writing before text response =>
      exact (stuck .write (progresses trivial (by simp)) List.nil_prefix
        ⟨_, _, rfl, Point.noConfusion⟩).elim
  | written before text response =>
      obtain ⟨left, whole, -⟩ := recv_whole fromSlice (fits (text, response) (by simp))
      have same := rest (.receive i) (progresses trivial (by simp))
      have callers := congrArg (fun network => network.callers[i]?) same
      rw [show responseBody toText (text, response).2 = responseBody toText response from rfl]
        at whole
      simp only [step, List.getElem?_modify, client, if_true, Option.map_eq_map, Option.map_some,
        Option.some.injEq, Caller.receive, whole] at callers
      have lengths := congrArg (fun caller : Caller => caller.results.length) callers
      simp at lengths
  | broken => exact absurd rfl running

/-- Every call returns whose statements end. The system, wherever it is and without anything
failing, comes to rest after at most `ahead` steps. Wherever it rests, a client whose task still
runs waits only in vain; and if the statements in work there end, all permits are left and no such
client waits.
-/
theorem calls_return (backend : Backend World Conn Stmt) (config : Config) (serde : SerdeJson)
    (toText : Value → Option String) (fromSlice : Bytes → Except String Value)
    (endless : World → RequestHandler Conn → String → Prop) (world : World)
    (events : List (NetworkEvent World))
    : let step := Network.step backend config serde toText fromSlice
      let start : Network World Conn := Network.start config world
      let network := after step start events
      (∀ more,
        Along step (fun network event => event.IsProgress ∧ (step network event).1 ≠ network)
          network more
        → more.length ≤ network.ahead)
      ∧ (Network.AtRest backend config serde toText fromSlice endless network
        → (∀ (i : Nat) task caller,
            network.process.tasks[i]? = some task
            → network.callers[i]? = some caller
            → task.point ≠ .ended
            → (∀ text ∈ caller.calls, Fits text)
            → (∀ exchange ∈ exchangesOf backend config serde world (outputs step start events) i,
                Fits (responseText toText exchange.2))
            → caller.results.length = caller.calls.length
              ∨ (network.Starved endless task
                ∧ ∃ other ∈ network.process.tasks,
                    ∃ request,
                      other.point = .handling request
                      ∧ endless network.process.world other.handler request))
          ∧ ((∀ task ∈ network.process.tasks,
                ∀ request,
                  task.point = .handling request
                  → ¬ endless network.process.world task.handler request)
            → network.process.limiter.permits = max config.workers.toNat 1)) := by
  intro step start network
  constructor
  · intro more along
    have lowers (network : Network World Conn) (event : NetworkEvent World)
        (moves : event.IsProgress ∧ (step network event).1 ≠ network)
        : (step network event).1.ahead < network.ahead :=
      (network.step_ahead backend config serde toText fromSlice moves.1).resolve_left moves.2
    have bound := along.length_le lowers
    omega
  · intro rest
    have linked := linked_run backend config serde toText fromSlice world events
    have balanced : network.process.Balanced config :=
      Network.balanced backend config serde toText fromSlice world events
    refine ⟨fun i task caller found client running texts responses => ?_,
      rest.permits balanced linked.clients⟩
    have phase := linked.phase i task caller found client texts responses
    refine (rest.returned found client running phase responses).imp_right ?_
    intro starved
    refine ⟨starved, ?_⟩
    by_contra none'
    -- a client that waits for a permit waits while none is left
    have permits := rest.permits balanced linked.clients
      (fun other member request handles never => none' ⟨other, member, request, handles, never⟩)
    obtain ⟨request, ⟨handles, never⟩ | ⟨-, exhausted⟩⟩ := starved
    · exact none' ⟨task, List.mem_of_getElem? found, request, handles, never⟩
    · have few : network.process.limiter.permits = 0 := exhausted
      omega

end Progress

end SqliteServer
