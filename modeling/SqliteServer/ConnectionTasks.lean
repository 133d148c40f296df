import SqliteServer.Connection
import SqliteServer.Sessions

/-! Connections as concurrent tasks that share one semaphore. A task goes through the points of
its loop, one at a time, and drops what a block holds when it leaves the block.
-/

namespace SqliteServer

open Json Wire Runs

-----------------------------------------------------------------------------------------
-- Permits
-----------------------------------------------------------------------------------------

/-- A semaphore grants a permit only while one is left, and takes dropped permits back. -/
structure Semaphore where
  permits : Nat
deriving DecidableEq

namespace Semaphore

def acquire (limiter : Semaphore) : Option Semaphore :=
  if 0 < limiter.permits then some ⟨limiter.permits - 1⟩ else none

def release (limiter : Semaphore) (dropped : Nat) : Semaphore := ⟨limiter.permits + dropped⟩

end Semaphore

-----------------------------------------------------------------------------------------
-- Tasks
-----------------------------------------------------------------------------------------

/-- Where a task is in the loop over its requests. -/
inductive Point where
  | readingHeader
  | readingBody (packetSize : UInt32)
  | acquiring (request : String)
  | acquired (request : String)
  | handling (request : String)
  | writing (response : Bytes)
  | ended

namespace Point

def reads : Point → Bool
  | .readingHeader => true
  | .readingBody _ => true
  | _ => false

def handles : Point → Bool
  | .handling _ => true
  | _ => false

def writes : Point → Bool
  | .writing _ => true
  | _ => false

/-- Inside the block of a request: it executes, or is about to. -/
def underPermit : Point → Bool
  | .acquired _ => true
  | .handling _ => true
  | _ => false

/-- A task can be dropped wherever it waits. -/
def waits (point : Point) : Bool :=
  match point with
  | .acquiring _ => true
  | _ => point.reads || point.writes

end Point

/-- A task: its handler, its point, and how many permits it holds. -/
structure Task (Conn : Type) where
  handler : RequestHandler Conn
  point : Point
  held : Nat

def Task.new {Conn : Type} : Task Conn := ⟨.new, .readingHeader, 0⟩

/-- What can happen to a task. A panic leaves whatever world the handler had got to. -/
inductive Action (World : Type) where
  | read (buf : Bytes)
  | readFails
  | acquire
  | enter
  | respond
  | panic (world : World)
  | write
  | writeFails
  /-- The runtime drops a task that waits, when the server shuts down. -/
  | cancel

/-- What a task works on: itself, the semaphore and the world. -/
structure TaskState (World Conn : Type) where
  limiter : Semaphore
  task : Task Conn
  world : World

namespace TaskState

variable {World Conn Stmt : Type}

def goTo (state : TaskState World Conn) (point : Point) : TaskState World Conn :=
  { state with task := { state.task with point := point } }

/-- Leaving the block of a request drops its permit. -/
def leaveBlock (state : TaskState World Conn) : TaskState World Conn :=
  { state with
    limiter := state.limiter.release state.task.held
    task := { state.task with held := 0 } }

variable (backend : Backend World Conn Stmt)

/-- A task that ends drops its permits and its handler, which closes the connections. -/
def finish (state : TaskState World Conn) : TaskState World Conn where
  limiter := state.leaveBlock.limiter
  task := ⟨.new, .ended, 0⟩
  world := closeAll backend state.task.handler state.world

variable (config : Config) (serde : SerdeJson) (toText : Value → Option String)

/-- Read four bytes of length, and then the packet; a packet that is too large ends the task. -/
def read (state : TaskState World Conn) (buf : Bytes)
    : Option (TaskState World Conn × List Event) :=
  match state.task.point with
  | .readingHeader =>
      if buf.length = 4 then
        let packetSize := fromLeBytes buf
        if packetSize > config.clientMaxPacketSize then
          some (state.finish backend, [.header packetSize])
        else some (state.goTo (.readingBody packetSize), [.header packetSize])
      else none
  | .readingBody packetSize =>
      if buf.length = packetSize.toNat then
        some (state.goTo (.acquiring (fromUtf8Lossy buf)), [])
      else none
  | _ => none

/-- The block of a request is entered with a permit. -/
def acquire (state : TaskState World Conn) : Option (TaskState World Conn) :=
  match state.task.point with
  | .acquiring request =>
      state.limiter.acquire.map
        (fun limiter =>
          { state with
            limiter := limiter
            task := ⟨state.task.handler, .acquired request, state.task.held + 1⟩ })
  | _ => none

/-- The block of a request is left with its response. -/
def respond (state : TaskState World Conn) : Option (TaskState World Conn) :=
  match state.task.point with
  | .handling request =>
      let handled := handleRequest backend config serde request state.task.handler state.world
      let done : TaskState World Conn :=
        ⟨state.limiter, { state.task with handler := handled.2.1 }, handled.2.2⟩
      some (done.leaveBlock.goTo (.writing (frame (responseBody toText handled.1))))
  | _ => none

/-- One step of a task, if it is at a point for it, and what it reads, hands over or writes. The
effects of a request count when it returns.
-/
def step (state : TaskState World Conn) (action : Action World)
    : Option (TaskState World Conn × List Event) :=
  match action with
  | .read buf => state.read backend config buf
  | .readFails => if state.task.point.reads then some (state.finish backend, []) else none
  | .acquire => state.acquire.map (fun next => (next, []))
  | .enter =>
      match state.task.point with
      | .acquired request => some (state.goTo (.handling request), [.request request])
      | _ => none
  | .respond => (state.respond backend config serde toText).map (fun next => (next, []))
  | .panic world =>
      if state.task.point.handles then some ({ state.finish backend with world := world }, [])
      else none
  | .write =>
      match state.task.point with
      | .writing response => some (state.goTo .readingHeader, [.response response])
      | _ => none
  | .writeFails => if state.task.point.writes then some (state.finish backend, []) else none
  | .cancel => if state.task.point.waits then some (state.finish backend, []) else none

end TaskState

-----------------------------------------------------------------------------------------
-- The process
-----------------------------------------------------------------------------------------

/-- A running server: its semaphore, a task for each accepted connection, and the world. -/
structure Process (World Conn : Type) where
  limiter : Semaphore
  tasks : List (Task Conn)
  world : World

inductive ProcessEvent (World : Type) where
  | accept
  | act (task : Nat) (action : Action World)
  | environment (world : World)

namespace Process

variable {World Conn Stmt : Type}

/-- A process with no connections, and at least one permit. -/
def start (config : Config) (world : World) : Process World Conn :=
  ⟨⟨max config.workers.toNat 1⟩, [], world⟩

variable (backend : Backend World Conn Stmt) (config : Config) (serde : SerdeJson)
  (toText : Value → Option String)

/-- One step of a process; an action that its task cannot take changes nothing. -/
def step (process : Process World Conn) (event : ProcessEvent World)
    : Process World Conn × List (Nat × Event) :=
  match event with
  | .accept => ({ process with tasks := process.tasks ++ [.new] }, [])
  | .environment world => ({ process with world := world }, [])
  | .act i action =>
      match process.tasks[i]? with
      | none => (process, [])
      | some task =>
          match TaskState.step backend config serde toText ⟨process.limiter, task, process.world⟩
            action with
          | none => (process, [])
          | some (next, events) =>
              (⟨next.limiter, process.tasks.set i next.task, next.world⟩,
                events.map (fun event => (i, event)))

/-- The requests that execute or are about to. -/
def underPermit (process : Process World Conn) : Nat :=
  process.tasks.countP (fun task => task.point.underPermit)

/-- The requests inside the handler. -/
def handling (process : Process World Conn) : Nat :=
  process.tasks.countP (fun task => task.point.handles)

end Process

-----------------------------------------------------------------------------------------
-- Permits are conserved
-----------------------------------------------------------------------------------------

section Permits

variable {World Conn Stmt : Type} {backend : Backend World Conn Stmt} {config : Config}
  {serde : SerdeJson} {toText : Value → Option String}

/-- A task holds one permit inside the block of a request, and none elsewhere. -/
def Task.Fair (task : Task Conn) : Prop := task.held = if task.point.underPermit then 1 else 0

/-- What a step of a task can be: it goes to another point on the same side of the block, enters
or leaves the block, or ends.
-/
inductive Move (backend : Backend World Conn Stmt) (config : Config) (serde : SerdeJson)
    (state next : TaskState World Conn)
    : Prop where
  | goTo (point : Point) (same : point.underPermit = state.task.point.underPermit)
      (moved : next = state.goTo point)
  | enter (limiter : Semaphore) (request : String)
      (outside : state.task.point.underPermit = false)
      (granted : state.limiter.acquire = some limiter)
      (moved
        : next
          = ⟨limiter, ⟨state.task.handler, .acquired request, state.task.held + 1⟩, state.world⟩)
  | leave (request : String) (response : Bytes) (handler : RequestHandler Conn) (world : World)
      (handled
        : (handler, world)
          = (handleRequest backend config serde request state.task.handler state.world).2)
      (moved
        : next
          = ⟨state.limiter.release state.task.held, ⟨handler, .writing response, 0⟩, world⟩)
  | finish (moved : next = state.finish backend)
  | panic (world : World) (moved : next = { state.finish backend with world := world })

/-- Every step of a task is one of these, by cases on the action and the point. -/
theorem step_move {state next : TaskState World Conn} {action : Action World}
    {events : List Event}
    (stepped : state.step backend config serde toText action = some (next, events))
    : Move backend config serde state next := by
  have ends {may : Bool} {events : List Event}
      (ended : (if may then some (state.finish backend, []) else none) = some (next, events))
      : Move backend config serde state next := by
    split_ifs at ended
    obtain ⟨rfl, -⟩ := Prod.mk.inj (Option.some.inj ended)
    exact .finish rfl
  unfold TaskState.step at stepped
  cases action with
  | read buf =>
      dsimp only at stepped
      unfold TaskState.read at stepped
      cases point : state.task.point with
      | readingHeader =>
          rw [point] at stepped
          dsimp only at stepped
          split_ifs at stepped
          · obtain ⟨rfl, -⟩ := Prod.mk.inj (Option.some.inj stepped)
            exact .finish rfl
          · obtain ⟨rfl, -⟩ := Prod.mk.inj (Option.some.inj stepped)
            exact .goTo _ (by rw [point]; rfl) rfl
      | readingBody packetSize =>
          rw [point] at stepped
          dsimp only at stepped
          split_ifs at stepped
          obtain ⟨rfl, -⟩ := Prod.mk.inj (Option.some.inj stepped)
          exact .goTo _ (by rw [point]; rfl) rfl
      | _ =>
          rw [point] at stepped
          contradiction
  | readFails => exact ends stepped
  | acquire =>
      obtain ⟨next', acquired, same⟩ := Option.map_eq_some_iff.mp stepped
      obtain ⟨rfl, -⟩ := Prod.mk.inj same
      unfold TaskState.acquire at acquired
      cases point : state.task.point with
      | acquiring request =>
          rw [point] at acquired
          obtain ⟨limiter, granted, rfl⟩ := Option.map_eq_some_iff.mp acquired
          exact .enter limiter request (by rw [point]; rfl) granted rfl
      | _ =>
          rw [point] at acquired
          contradiction
  | enter =>
      cases point : state.task.point with
      | acquired request =>
          dsimp only at stepped
          rw [point] at stepped
          obtain ⟨rfl, -⟩ := Prod.mk.inj (Option.some.inj stepped)
          exact .goTo _ (by rw [point]; rfl) rfl
      | _ =>
          dsimp only at stepped
          rw [point] at stepped
          contradiction
  | respond =>
      obtain ⟨next', responded, same⟩ := Option.map_eq_some_iff.mp stepped
      obtain ⟨rfl, -⟩ := Prod.mk.inj same
      unfold TaskState.respond at responded
      cases point : state.task.point with
      | handling request =>
          rw [point] at responded
          exact .leave request _ _ _ rfl (Option.some.inj responded).symm
      | _ =>
          rw [point] at responded
          contradiction
  | panic world =>
      dsimp only at stepped
      split_ifs at stepped
      obtain ⟨rfl, -⟩ := Prod.mk.inj (Option.some.inj stepped)
      exact .panic world rfl
  | write =>
      cases point : state.task.point with
      | writing response =>
          dsimp only at stepped
          rw [point] at stepped
          obtain ⟨rfl, -⟩ := Prod.mk.inj (Option.some.inj stepped)
          exact .goTo _ (by rw [point]; rfl) rfl
      | _ =>
          dsimp only at stepped
          rw [point] at stepped
          contradiction
  | writeFails => exact ends stepped
  | cancel => exact ends stepped

/-- A task and the semaphore trade permits: the task stays fair, and none is lost. -/
structure Trades (before after : TaskState World Conn) : Prop where
  fair : after.task.Fair
  permits : after.limiter.permits + after.task.held = before.limiter.permits + before.task.held

/-- Every move trades permits: one is held from the entry of the block to its end. -/
theorem Move.trades {state next : TaskState World Conn}
    (move : Move backend config serde state next) (fair : state.task.Fair)
    : Trades state next := by
  cases move with
  | goTo point same moved =>
      subst moved
      refine ⟨?_, rfl⟩
      rw [Task.Fair, TaskState.goTo, same]
      exact fair
  | enter limiter request outside granted moved =>
      subst moved
      unfold Semaphore.acquire at granted
      split_ifs at granted with left_
      obtain rfl := Option.some.inj granted
      rw [Task.Fair, outside] at fair
      have none_ : state.task.held = 0 := fair
      refine ⟨?_, ?_⟩
      · rw [Task.Fair, none_]
        rfl
      · dsimp only
        omega
  | leave request response handler world handled moved =>
      subst moved
      exact ⟨rfl, rfl⟩
  | finish moved =>
      subst moved
      exact ⟨rfl, rfl⟩
  | panic world moved =>
      subst moved
      exact ⟨rfl, rfl⟩

/-- Replacing an item replaces its share of a sum, by induction on the list. -/
theorem sum_map_set {α : Type} (f : α → Nat) {items : List α} {i : Nat} {old : α} (new : α)
    (found : items[i]? = some old)
    : ((items.set i new).map f).sum + f old = (items.map f).sum + f new := by
  induction items generalizing i with
  | nil => simp at found
  | cons head rest ih =>
      cases i with
      | zero =>
          obtain rfl : head = old := Option.some.inj found
          simp only [List.set_cons_zero, List.map_cons, List.sum_cons]
          omega
      | succ i =>
          have := ih found
          simp only [List.set_cons_succ, List.map_cons, List.sum_cons]
          omega

namespace Process

/-- All permits are with the semaphore or held, each by the block of one request. -/
structure Balanced (config : Config) (process : Process World Conn) : Prop where
  fair : ∀ task ∈ process.tasks, task.Fair
  permits
    : process.limiter.permits + (process.tasks.map Task.held).sum = max config.workers.toNat 1

theorem start_balanced (world : World)
    : (start config world : Process World Conn).Balanced config :=
  ⟨fun _ member => absurd member List.not_mem_nil, rfl⟩

/-- Every step of the process keeps the balance: a task trades its permits with the semaphore. -/
theorem step_balanced {process : Process World Conn} (balanced : process.Balanced config)
    (event : ProcessEvent World)
    : (process.step backend config serde toText event).1.Balanced config := by
  unfold step
  cases event with
  | accept =>
      refine ⟨?_, ?_⟩
      · intro task member
        rcases List.mem_append.mp member with old | new
        · exact balanced.fair task old
        · rw [List.mem_singleton.mp new]
          rfl
      · rw [List.map_append, List.sum_append]
        exact balanced.permits
  | environment world => exact ⟨balanced.fair, balanced.permits⟩
  | act i action =>
      dsimp only
      cases found : process.tasks[i]? with
      | none => exact balanced
      | some task =>
          dsimp only
          cases stepped
              : TaskState.step backend config serde toText ⟨process.limiter, task, process.world⟩
                  action with
          | none => exact balanced
          | some result =>
              have trades :=
                (step_move stepped).trades (balanced.fair task (List.mem_of_getElem? found))
              refine ⟨?_, ?_⟩
              · intro other member
                rcases List.mem_or_eq_of_mem_set member with old | rfl
                · exact balanced.fair other old
                · exact trades.fair
              · have replaced := sum_map_set Task.held result.1.task found
                have traded := trades.permits
                have total := balanced.permits
                dsimp only at traded ⊢
                omega

/-- Fair tasks hold as many permits as there are requests under one, by induction on the tasks. -/
theorem sum_held {tasks : List (Task Conn)} (fair : ∀ task ∈ tasks, task.Fair)
    : (tasks.map Task.held).sum = tasks.countP (fun task => task.point.underPermit) := by
  induction tasks with
  | nil => rfl
  | cons task rest ih =>
      have first : task.held = if task.point.underPermit then 1 else 0 :=
        fair task List.mem_cons_self
      rw [List.map_cons, List.sum_cons, List.countP_cons, first,
        ih (fun other member => fair other (List.mem_cons_of_mem _ member))]
      exact Nat.add_comm _ _

theorem handling_le_underPermit (process : Process World Conn)
    : process.handling ≤ process.underPermit := by
  refine List.countP_mono_left ?_
  intro task _ handles
  cases point : task.point with
  | handling request => rfl
  | _ =>
      rw [point] at handles
      contradiction

end Process

/-- At most as many requests are inside the handler as there are workers, the permits left and the
requests under a permit add up to the workers, and a task holds at most one permit, and none while
it reads or writes.
-/
structure Process.Bounded (config : Config) (process : Process World Conn) : Prop where
  handling : process.handling ≤ max config.workers.toNat 1
  permits : process.limiter.permits + process.underPermit = max config.workers.toNat 1
  held : ∀ task ∈ process.tasks, task.held ≤ 1
  idle
    : ∀ task ∈ process.tasks, (task.point.reads || task.point.writes) = true → task.held = 0

theorem Process.Balanced.bounded {process : Process World Conn}
    (balanced : process.Balanced config)
    : process.Bounded config := by
  have permits : process.limiter.permits + process.underPermit = max config.workers.toNat 1 := by
    rw [underPermit, ← sum_held balanced.fair]
    exact balanced.permits
  refine ⟨?_, permits, ?_, ?_⟩
  · have := process.handling_le_underPermit
    omega
  · intro task member
    have fair : task.held = if task.point.underPermit then 1 else 0 := balanced.fair task member
    rw [fair]
    split_ifs <;> decide
  · intro task member away
    have fair : task.held = if task.point.underPermit then 1 else 0 := balanced.fair task member
    rw [fair]
    cases point : task.point with
    | acquired request =>
        rw [point] at away
        contradiction
    | handling request =>
        rw [point] at away
        contradiction
    | _ => rfl

/-- Execution is bounded in every state that a process reaches: its permits stay balanced. -/
theorem execution_bounded (backend : Backend World Conn Stmt) (config : Config)
    (serde : SerdeJson) (toText : Value → Option String) (world : World)
    (events : List (ProcessEvent World))
    : (after (Process.step backend config serde toText) (Process.start config world)
        events).Bounded config := by
  refine Process.Balanced.bounded ?_
  refine after_invariant ?_ (Process.start_balanced world) events
  intro process event balanced
  exact Process.step_balanced balanced event

-----------------------------------------------------------------------------------------
-- What the tasks do together
-----------------------------------------------------------------------------------------

/-- The sessions and the world of a process; a task that has ended is a session without state. -/
def Process.server (process : Process World Conn) : Server World Conn where
  sessions i := ((process.tasks[i]?).map Task.handler).getD .new
  world := process.world

/-- What a move does to the server: nothing, a request of its session, or the session's end. -/
theorem Move.explained {state next : TaskState World Conn}
    (move : Move backend config serde state next) {server : Server World Conn} {i : Nat}
    (handler : server.sessions i = state.task.handler) (world : server.world = state.world)
    : ∃ events,
        after (Server.step backend config serde) server events
        = server.setSession i next.task.handler next.world := by
  have unchanged : server.setSession i state.task.handler state.world = server := by
    rw [← handler, ← world]
    exact server.setSession_same i
  cases move with
  | goTo point same moved =>
      subst moved
      exact ⟨[], unchanged.symm⟩
  | enter limiter request outside granted moved =>
      subst moved
      exact ⟨[], unchanged.symm⟩
  | leave request response handler' world' handled moved =>
      subst moved
      refine ⟨[.request i request], ?_⟩
      rw [← handler, ← world] at handled
      obtain ⟨sameHandler, sameWorld⟩ := Prod.mk.inj handled
      rw [sameHandler, sameWorld]
      rfl
  | finish moved =>
      subst moved
      refine ⟨[.disconnect i], ?_⟩
      rw [TaskState.finish, ← handler, ← world]
      rfl
  | panic world' moved =>
      subst moved
      exact ⟨[.disconnect i, .environment world'], rfl⟩

/-- A new task is a session without state. -/
theorem Process.server_accept (process : Process World Conn)
    : Process.server { process with tasks := process.tasks ++ [.new] } = process.server := by
  rw [server, server, Server.mk.injEq]
  refine ⟨?_, rfl⟩
  funext i
  dsimp only
  rw [List.getElem?_append]
  split_ifs with old
  · rfl
  · rw [List.getElem?_eq_none (not_lt.mp old)]
    cases i - process.tasks.length <;> rfl

/-- A replaced task is a session with its handler. -/
theorem Process.server_set (process : Process World Conn) (limiter : Semaphore) {i : Nat}
    {old : Task Conn} (found : process.tasks[i]? = some old) (task : Task Conn) (world : World)
    : Process.server ⟨limiter, process.tasks.set i task, world⟩
      = process.server.setSession i task.handler world := by
  rw [server, Server.setSession, Server.mk.injEq]
  refine ⟨?_, rfl⟩
  funext other
  split_ifs with same
  · subst same
    obtain ⟨inside, -⟩ := List.getElem?_eq_some_iff.mp found
    rw [List.getElem?_set_self inside]
    rfl
  · rw [List.getElem?_set_ne (Ne.symm same)]
    rfl

/-- A step of a process takes its server through some events of the sessions. -/
theorem step_explained (backend : Backend World Conn Stmt) (config : Config) (serde : SerdeJson)
    (toText : Value → Option String) (process : Process World Conn) (event : ProcessEvent World)
    : ∃ events,
        (process.step backend config serde toText event).1.server
        = after (Server.step backend config serde) process.server events := by
  unfold Process.step
  cases event with
  | accept => exact ⟨[], process.server_accept⟩
  | environment world => exact ⟨[.environment world], rfl⟩
  | act i action =>
      dsimp only
      cases found : process.tasks[i]? with
      | none => exact ⟨[], rfl⟩
      | some task =>
          dsimp only
          cases stepped
              : TaskState.step backend config serde toText ⟨process.limiter, task, process.world⟩
                  action with
          | none => exact ⟨[], rfl⟩
          | some result =>
              have session : process.server.sessions i = task.handler := by
                dsimp only [Process.server]
                rw [found]
                rfl
              obtain ⟨events, explains⟩ := (step_move stepped).explained session rfl
              exact ⟨events, (process.server_set _ found _ _).trans explains.symm⟩

/-- The tasks of a process take their sessions through a run of requests and ends: whatever holds
of the server after all such runs holds of the process, by induction on its events.
-/
theorem process_refines (backend : Backend World Conn Stmt) (config : Config) (serde : SerdeJson)
    (toText : Value → Option String) (world : World) (events : List (ProcessEvent World))
    : ∃ requests,
        (after (Process.step backend config serde toText) (Process.start config world)
          events).server
        = after (Server.step backend config serde) (Server.start world) requests := by
  let I (process : Process World Conn) :=
    ∃ requests,
      process.server = after (Server.step backend config serde) (Server.start world) requests
  have start : I (Process.start config world) := ⟨[], rfl⟩
  have keeps process event (reached : I process)
      : I (process.step backend config serde toText event).1 := by
    obtain ⟨requests, reached⟩ := reached
    obtain ⟨more, explains⟩ := step_explained backend config serde toText process event
    refine ⟨requests ++ more, ?_⟩
    rw [explains, reached, after_append]
  exact after_invariant keeps start events

end Permits

end SqliteServer
