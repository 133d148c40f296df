import SqliteServer.CallsLinearized
import SqliteServer.ClientOperations
import Mathlib.Data.Set.List

/-! The operations of concurrent clients over their sockets, as one sequence at the service. -/

namespace SqliteServer

open Json Wire Runs RustClient

-----------------------------------------------------------------------------------------
-- Histories of the service
-----------------------------------------------------------------------------------------

/-- What happens at the service. -/
inductive ServiceEvent (World : Type) where
  | perform (session : Nat) (database : String) (op : Operation)
  | disconnect (session : Nat)
  | environment (world : World)

/-- An operation on a database, and what it gave. -/
structure Performed where
  database : String
  op : Operation
  reply : Reply

section Service

variable {World Conn Stmt : Type} (backend : Backend World Conn Stmt) (config : Config)
  (serde : SerdeJson) (printNumber : Number → NumberLit) (toString : Value → String)
  (decimal : DecimalDigits)

/-- What an event of the service is for the server. -/
def ServiceEvent.request : ServiceEvent World → ServerEvent World
  | .perform session database op => .request session (requestOf printNumber decimal database op)
  | .disconnect session => .disconnect session
  | .environment world => .environment world

/-- The service after an event, and what was performed with its session. -/
def Server.perform (server : Server World Conn)
    : ServiceEvent World → Server World Conn × List (Nat × Performed)
  | .perform session database op =>
      let served :=
        serve backend config toString decimal database op (server.sessions session) server.world
      (server.setSession session served.2.1 served.2.2, [(session, ⟨database, op, served.1⟩)])
  | .disconnect session =>
      (server.setSession session .new (closeAll backend (server.sessions session) server.world), [])
  | .environment world => ({ server with world := world }, [])

/-- The exchange of a request is that of an operation with its reply. -/
def Performed.ExchangedAs (done : Performed) (exchange : String × Value) : Prop :=
  exchange.1 = requestOf printNumber decimal done.database done.op
  ∧ done.op.reply toString exchange.2 = done.reply

variable {backend config serde}

/-- A run of the service is one of the server: the states are the same, and what is performed are
the operations of the exchanges. By induction on the events, with `operation_served` for each.
-/
theorem perform_run (faithful : serde.Faithful) (history : List (ServiceEvent World))
    (server : Server World Conn)
    : after (Server.step backend config serde) server
          (history.map (ServiceEvent.request printNumber decimal))
        = after (Server.perform backend config toString decimal) server history
      ∧ List.Forall₂
          (fun exchange done =>
            exchange.1 = done.1
            ∧ done.2.ExchangedAs printNumber toString decimal exchange.2)
          (outputs (Server.answer backend config serde) server
            (history.map (ServiceEvent.request printNumber decimal)))
          (outputs (Server.perform backend config toString decimal) server history) := by
  induction history generalizing server with
  | nil => exact ⟨rfl, .nil⟩
  | cons event rest ih =>
      cases event with
      | disconnect session => exact ih _
      | environment world => exact ih _
      | perform session database op =>
          have served := operation_served backend config printNumber toString decimal faithful
            database op (server.sessions session) server.world
          have reply := congrArg Prod.fst served
          have state := congrArg Prod.snd served
          dsimp only at reply state
          have same
              : (server.step backend config serde
                  (.request session (requestOf printNumber decimal database op))).1
                = (server.perform backend config toString decimal
                    (.perform session database op)).1 := by
            simp only [Server.step, Server.perform, state]
          obtain ⟨states, exchanges⟩ :=
            ih (server.perform backend config toString decimal (.perform session database op)).1
          constructor
          · rw [List.map_cons, after, after, ServiceEvent.request, same, states]
          · rw [List.map_cons, outputs, outputs, ServiceEvent.request]
            refine List.Forall₂.cons ⟨rfl, rfl, reply⟩ ?_
            rw [Server.answer, same]
            exact exchanges

/-- What was performed in a session are its exchanges. -/
theorem forall₂_ofSession {α β : Type} {R : α → β → Prop} (i : Nat) {first : List (Nat × α)}
    {second : List (Nat × β)}
    (related : List.Forall₂ (fun a b => a.1 = b.1 ∧ R a.2 b.2) first second)
    : List.Forall₂ R (ofSession i first) (ofSession i second) := by
  induction related with
  | nil => exact .nil
  | @cons a b as bs here later ih =>
      obtain ⟨same, inner⟩ := here
      rw [ofSession, ofSession, List.filterMap_cons, List.filterMap_cons, ← same]
      split_ifs
      · exact .cons inner ih
      · exact ih

end Service

-----------------------------------------------------------------------------------------
-- Operations over sockets
-----------------------------------------------------------------------------------------

section Network

variable {World Conn Stmt : Type} (backend : Backend World Conn Stmt) (config : Config)
  (serde : SerdeJson) (toText : Value → Option String)
  (fromSlice : Bytes → Except String Value)

theorem mem_modify {α : Type} {items : List α} {i : Nat} {f : α → α} {item : α}
    (member : item ∈ items.modify i f)
    : item ∈ items ∨ ∃ before ∈ items, item = f before := by
  obtain ⟨j, inside, rfl⟩ := List.getElem_of_mem member
  rw [List.getElem_modify]
  split_ifs
  · exact Or.inr ⟨_, List.getElem_mem _, rfl⟩
  · exact Or.inl (List.getElem_mem _)

/-- What holds of every text that a client calls with holds of all calls after a step. -/
theorem Network.calls_step {P : String → Prop} {network : Network World Conn}
    {event : NetworkEvent World} (all : ∀ caller ∈ network.callers, ∀ text ∈ caller.calls, P text)
    (made : ∀ i text, event = .call i text → P text)
    : ∀ caller ∈ (network.step backend config serde toText fromSlice event).1.callers,
        ∀ text ∈ caller.calls, P text := by
  unfold Network.step
  cases event with
  | connect peer =>
      dsimp only
      split
      · intro caller member
        rcases List.mem_append.mp member with old | new
        · exact all caller old
        · rw [List.mem_singleton.mp new]
          exact fun text none => absurd none List.not_mem_nil
      · exact all
  | environment world => exact all
  | call i text =>
      intro caller member
      rcases mem_modify member with old | ⟨before, old, rfl⟩
      · exact all caller old
      · intro asked inside
        unfold Caller.call at inside
        split_ifs at inside
        · exact all before old asked inside
        · rcases List.mem_append.mp inside with earlier | new
          · exact all before old asked earlier
          · rw [List.mem_singleton.mp new]
            exact made i text rfl
  | receive i =>
      intro caller member
      rcases mem_modify member with old | ⟨before, old, rfl⟩
      · exact all caller old
      · rw [(before.receive_frame fromSlice).1]
        exact all before old
  | act i action sent =>
      dsimp only
      cases network.process.tasks[i]? with
      | none => exact all
      | some task =>
          cases client : network.callers[i]? with
          | none => exact all
          | some caller =>
              dsimp only
              split_ifs
              · cases TaskState.step backend config serde toText
                  ⟨network.process.limiter, task, network.process.world⟩ action with
                | none => exact all
                | some result =>
                    intro other member
                    rcases List.mem_or_eq_of_mem_set member with old | rfl
                    · exact all other old
                    · exact all caller (List.mem_of_getElem? client)
              · exact all

/-- What holds of every text that a client calls with in a run holds of all calls after it. -/
theorem Network.calls_run (world : World) {P : String → Prop} {events : List (NetworkEvent World)}
    (made : ∀ i text, .call i text ∈ events → P text)
    : ∀ caller ∈
          (after (Network.step backend config serde toText fromSlice)
            (Network.start config world : Network World Conn) events).callers,
        ∀ text ∈ caller.calls, P text := by
  have along
      : Along (Network.step backend config serde toText fromSlice)
          (fun _ event => ∀ i text, event = .call i text → P text)
          (Network.start config world : Network World Conn) events := by
    refine along_of_forall (fun event member _ i text same => ?_) _
    rw [same] at member
    exact made i text member
  exact along.invariant
    (I := fun network => ∀ caller ∈ network.callers, ∀ text ∈ caller.calls, P text)
    (fun _ _ all made => Network.calls_step backend config serde toText fromSlice all made)
    (fun caller none => absurd none List.not_mem_nil)

/-- Every request of a run of the server is an exchange. -/
theorem exchanged_of_request (server : Server World Conn) {events : List (ServerEvent World)}
    {i : Nat} {req : String} (member : .request i req ∈ events)
    : ∃ response,
        (i, req, response) ∈ outputs (Server.answer backend config serde) server events := by
  induction events generalizing server with
  | nil => cases member
  | cons event rest ih =>
      rw [outputs]
      rcases List.mem_cons.mp member with rfl | later
      · exact ⟨_, List.mem_append_left _ List.mem_cons_self⟩
      · obtain ⟨response, found⟩ := ih (Server.answer backend config serde server event).1 later
        exact ⟨response, List.mem_append_right _ found⟩

theorem mem_ofSession {α : Type} {i : Nat} {item : α} {items : List (Nat × α)}
    : item ∈ ofSession i items ↔ (i, item) ∈ items := by
  rw [ofSession, List.mem_filterMap]
  constructor
  · rintro ⟨⟨j, other⟩, member, same⟩
    dsimp only at same
    split_ifs at same with here
    cases same
    rwa [← here]
  · intro member
    exact ⟨(i, item), member, if_pos rfl⟩

variable {backend config serde toText fromSlice}

/-- If all calls are requests of operations, what the server handled is a history of the service. -/
theorem Network.Linearized.history {world : World} {served : List (ServerEvent World)}
    {network : Network World Conn} {printNumber : Number → NumberLit} {decimal : DecimalDigits}
    (linearized : network.Linearized backend config serde toText fromSlice world served)
    (calls
      : ∀ caller ∈ network.callers, ∀ text ∈ caller.calls,
          (∃ database op, text = requestOf printNumber decimal database op) ∧ Fits text)
    (responses
      : ∀ i, ∀ exchange ∈ exchangesOf backend config serde world served i,
          Fits (responseText toText exchange.2))
    : ∃ history : List (ServiceEvent World),
        history.map (ServiceEvent.request printNumber decimal) = served := by
  have each
      : ∀ event ∈ served,
          ∃ happened : ServiceEvent World, happened.request printNumber decimal = event := by
    intro event member
    cases event with
    | disconnect session => exact ⟨.disconnect session, rfl⟩
    | environment world' => exact ⟨.environment world', rfl⟩
    | request i req =>
        obtain ⟨response, exchanged⟩ :=
          exchanged_of_request backend config serde (Server.start world) member
        have exchange : (req, response) ∈ exchangesOf backend config serde world served i :=
          mem_ofSession.mpr exchanged
        have inside : i < network.callers.length := by
          by_contra outside
          rw [linearized.others i (not_lt.mp outside)] at exchange
          cases exchange
        have client := List.getElem?_eq_getElem inside
        obtain ⟨pending, unanswered, asked, -⟩ := linearized.answers i _ client
          (fun text member => (calls _ (List.getElem_mem inside) text member).2) (responses i)
        have called : req ∈ network.callers[i].calls := by
          rw [asked]
          exact List.mem_append_left _ (List.mem_map_of_mem (f := fun e => e.1) exchange)
        obtain ⟨⟨database, op, same⟩, -⟩ := calls _ (List.getElem_mem inside) req called
        exact ⟨.perform i database op, by rw [ServiceEvent.request, same]⟩
  have whole :=
    Set.range_list_map
      (ServiceEvent.request printNumber decimal : ServiceEvent World → ServerEvent World)
  exact (Set.ext_iff.mp whole served).mpr each

/-- Every exchange of a run of the server is a request with a response to it. -/
theorem exchanged_form {server : Server World Conn} {events : List (ServerEvent World)} {i : Nat}
    {req : String} {response : Value}
    (member : (i, req, response) ∈ outputs (Server.answer backend config serde) server events)
    : ResponseForm serde req response := by
  induction events generalizing server with
  | nil => cases member
  | cons event rest ih =>
      rw [outputs] at member
      rcases List.mem_append.mp member with now | later
      · cases event with
        | request session asked =>
            cases List.mem_singleton.mp now
            exact handleRequest_form backend config serde req _ _
        | disconnect session => cases now
        | environment world => cases now
      · exact ih later

/-- The client reads the response to an operation as it was sent, with the numbers that its reader
makes of them: what it may echo is not nested.
-/
theorem received_operation (faithful : serde.Faithful) {printNumber : Number → NumberLit}
    {f : Number → Number} {decimal : DecimalDigits} {database : String} {op : Operation}
    {response : Value}
    (form : ResponseForm serde (requestOf printNumber decimal database op) response)
    (numbers : response.Within (NumberReadsAs serde.readNumber printNumber f))
    : serde.fromStr (compactStrict printNumber response) = .ok (response.mapNumbers f) := by
  refine faithful.readsAs (form.shape faithful.sound).1 numbers
    ((form.shallow_iff faithful).mpr ?_)
  rintro ⟨json, ⟨parsed, -⟩, deep⟩
  rw [parseRequest_requestOf faithful, Except.ok.injEq] at parsed
  have flat := (Operation.request_flat decimal database op).depth
  rw [parsed] at flat
  rw [recursionLimit] at deep
  omega

/-- The error message in the response to an operation has only integers: what it may echo is made of
strings.
-/
theorem serverError_operation (faithful : serde.Faithful) {printNumber : Number → NumberLit}
    {f : Number → Number} (integers : ∀ n, f (Number.ofInt64 n) = Number.ofInt64 n)
    (toString : Value → String) {decimal : DecimalDigits} {database : String} {op : Operation}
    {response : Value}
    (form : ResponseForm serde (requestOf printNumber decimal database op) response)
    : RustClient.serverError toString (response.mapNumbers f)
      = RustClient.serverError toString response := by
  have parses := parseRequest_requestOf faithful printNumber decimal database op
  have echoed {json : Value}
      (parsed : parseRequest serde (requestOf printNumber decimal database op) = .ok json)
      : json.Within (FixesNumber f) := by
    rw [parses, Except.ok.injEq] at parsed
    exact parsed ▸ (Operation.request_flat decimal database op).fixed f
  have code (n : Int64) : (jsonInt n).Within (FixesNumber f) := integers n
  have fixed {fields : List (String × Value)}
      (within : ∀ entry ∈ fields, entry.2.Within (FixesNumber f))
      : RustClient.serverError toString ((Value.ofFields fields).mapNumbers f)
        = RustClient.serverError toString (.ofFields fields) := by
    rw [Value.mapNumbers_fixed (Value.within_ofFields trivial within)]
  have silent {fields : List (String × Value)}
      (absent
        : ∀ key ∈ ["error_message", "error_code", "generic_error"], ∀ entry ∈ fields,
            entry.1 ≠ key)
      : RustClient.serverError toString ((Value.ofFields fields).mapNumbers f)
        = RustClient.serverError toString (.ofFields fields) := by
    have same := (errors_mapNumbers f toString (.ofFields fields)).2
    rw [(noError_of_keys toString fields absent).1] at same ⊢
    exact Option.isNone_iff_eq_none.mp (Option.isSome_eq_false_iff.mp same)
  cases form with
  | unreadable refused => exact nomatch parses.symm.trans refused
  | result result => exact silent (by simp)
  | noCommand number => exact fixed (by simpa using ⟨code number, trivial⟩)
  | invalid number parsed => exact fixed (by simpa using ⟨code number, echoed parsed⟩)
  | failed err parsed => exact fixed (by simpa using ⟨code err.1, trivial, echoed parsed⟩)
  | listed names => exact silent (by simp)
  | queried filled => exact silent (by simp)

end Network

-----------------------------------------------------------------------------------------
-- The system as a service
-----------------------------------------------------------------------------------------

section Clients

variable {World Conn Stmt : Type} (backend : Backend World Conn Stmt) (config : Config)
  (serde : SerdeJson) (printNumber : Number → NumberLit) (toString : Value → String)
  (decimal : DecimalDigits) (fromSlice : Bytes → Except String Value) (world : World)

/-- What is sent for a value. -/
def toText (value : Value) : Option String := some (compactStrict printNumber value)

/-- The clients' operations are performed one by one: in every run of the system in which clients
call with operations, the server is where the service is after a history, and every client has, in
the order of its calls, the outcomes that its operations had there, with the numbers that its reader
makes of them. Only the last may be missing.
-/
theorem operations_linearizable (faithful : serde.Faithful)
    (utf8 : ∀ text, fromSlice (utf8Bytes text) = serde.fromStr text) {f : Number → Number}
    (integers : ∀ n, f (Number.ofInt64 n) = Number.ofInt64 n)
    (events : List (NetworkEvent World))
    (calls
      : ∀ i text,
          .call i text ∈ events
          → (∃ database op, text = requestOf printNumber decimal database op) ∧ Fits text)
    (responses
      : ∀ i, ∀ exchange ∈
            exchangesOf backend config serde world
              (outputs (Network.step backend config serde (toText printNumber) fromSlice)
                (Network.start config world : Network World Conn) events)
              i,
          Fits (responseText (toText printNumber) exchange.2)
          ∧ exchange.2.Within (NumberReadsAs serde.readNumber printNumber f))
    : let step := Network.step backend config serde (toText printNumber) fromSlice
      let start : Network World Conn := Network.start config world
      ∃ history : List (ServiceEvent World),
        history.map (ServiceEvent.request printNumber decimal) = outputs step start events
        ∧ after (Server.perform backend config toString decimal) (Server.start world) history
          = (after step start events).process.server
        ∧ ∀ i caller,
            (after step start events).callers[i]? = some caller
            → ∃ pending unanswered,
                let performed :=
                  ofSession i
                    (outputs (Server.perform backend config toString decimal)
                      (Server.start world) history)
                caller.calls
                  = performed.map
                        (fun done => requestOf printNumber decimal done.database done.op)
                      ++ unanswered
                ∧ List.Forall₂
                    (fun result done =>
                      Except.map (done.op.reply toString ·) result
                      = .ok (done.reply.mapNumbers f))
                    (caller.results ++ pending) performed
                ∧ pending.length + unanswered.length ≤ 1 := by
  intro step start
  have linearized :=
    (linked_run backend config serde (toText printNumber) fromSlice world events).linearized
  have made
      : ∀ caller ∈ (after step start events).callers, ∀ text ∈ caller.calls,
          (∃ database op, text = requestOf printNumber decimal database op) ∧ Fits text :=
    Network.calls_run backend config serde (toText printNumber) fromSlice world calls
  have fit := fun i exchange member => (responses i exchange member).1
  obtain ⟨history, served⟩ := linearized.history made fit
  obtain ⟨states, exchanges⟩ :=
    perform_run printNumber toString decimal faithful history (Server.start world)
  rw [served] at states exchanges
  refine ⟨history, served, states.symm.trans linearized.server, fun i caller client => ?_⟩
  obtain ⟨pending, unanswered, asked, results, one⟩ := linearized.answers i caller client
    (fun text member => (made caller (List.mem_of_getElem? client) text member).2) (fit i)
  have done :=
    forall₂_ofSession
      (R := fun exchange done => Performed.ExchangedAs printNumber toString decimal done exchange)
      i exchanges
  refine ⟨pending, unanswered, ?_, ?_, one⟩
  · have texts := done.imp (fun exchange done exchanged => exchanged.1)
    rw [← List.forall₂_map_right_iff
      (f := fun done : Performed => requestOf printNumber decimal done.database done.op),
      ← List.forall₂_map_left_iff (f := fun exchange : String × Value => exchange.1),
      List.forall₂_eq_eq_eq] at texts
    rw [asked, ← texts]
    rfl
  · have known : ∀ exchange ∈ exchangesOf backend config serde world (outputs step start events) i,
        ResponseForm serde exchange.1 exchange.2
        ∧ exchange.2.Within (NumberReadsAs serde.readNumber printNumber f) := by
      intro exchange member
      exact ⟨exchanged_form (mem_ofSession.mp member), (responses i exchange member).2⟩
    rw [← results, List.forall₂_map_left_iff]
    refine ((List.forall₂_and_left _ _).mpr ⟨known, done⟩).imp ?_
    rintro ⟨req, response⟩ performed ⟨⟨form, numbers⟩, rfl, reply⟩
    have read : received (toText printNumber) fromSlice response = .ok (response.mapNumbers f) := by
      rw [received, responseBody, utf8]
      exact received_operation faithful form numbers
    have errors := serverError_operation faithful integers toString form
    rw [read, ← reply]
    exact congrArg Except.ok (Operation.reply_mapNumbers f toString errors performed.op)

end Clients

/-- The decimal digits of ASCII alone. -/
def asciiDecimal : DecimalDigits where
  value c := if isAsciiDigit c = true then some (c.toNat - '0'.toNat) else none
  ascii _ _ := rfl

/-- The client's reading of a response: its bytes are UTF-8. -/
def shallowFromSlice (bytes : Bytes) : Except String Value :=
  shallowReader.fromStr (fromUtf8Lossy bytes)

/-- A client on the server's host lists the databases. -/
def listCall : List (NetworkEvent Unit) :=
  [
    .connect ⟨defaultEndpoint.ip, 40000⟩,
    .call 0 "\x7b\"cmd\":\"LIST\"\x7d",
    .act 0 (.read [14, 0, 0, 0]) 0,
    .act 0 (.read (utf8Bytes "\x7b\"cmd\":\"LIST\"\x7d")) 0,
    .act 0 .acquire 0,
    .act 0 .enter 0,
    .act 0 .respond 0,
    .act 0 .write 0,
    .receive 0
  ]

/-- A client on the server's host lists the databases, as an operation. -/
theorem operations_linearizable_list
    : let step := Network.step emptyBackend plainConfig shallowReader (toText printUnsigned)
        shallowFromSlice
      let start : Network Unit Unit := Network.start plainConfig ()
      ∃ history : List (ServiceEvent Unit),
        history.map (ServiceEvent.request printUnsigned asciiDecimal) = outputs step start listCall
        ∧ after
            (Server.perform emptyBackend plainConfig (compactStrict printUnsigned) asciiDecimal)
            (Server.start ()) history
          = (after step start listCall).process.server
        ∧ ∀ i caller,
            (after step start listCall).callers[i]? = some caller
            → ∃ pending unanswered,
                let performed :=
                  ofSession i
                    (outputs
                      (Server.perform emptyBackend plainConfig (compactStrict printUnsigned)
                        asciiDecimal)
                      (Server.start ()) history)
                caller.calls
                  = performed.map
                        (fun done => requestOf printUnsigned asciiDecimal done.database done.op)
                      ++ unanswered
                ∧ List.Forall₂
                    (fun result done =>
                      Except.map (done.op.reply (compactStrict printUnsigned) ·) result
                      = .ok (done.reply.mapNumbers id))
                    (caller.results ++ pending) performed
                ∧ pending.length + unanswered.length ≤ 1 := by
  have response
      : (handleRequest emptyBackend plainConfig shallowReader "\x7b\"cmd\":\"LIST\"\x7d"
          .new ()).1
        = .object [("list", .array [])] := by
    decide +kernel
  refine operations_linearizable emptyBackend plainConfig shallowReader printUnsigned
    (compactStrict printUnsigned) asciiDecimal shallowFromSlice () shallowReader_faithful ?_
    (fun _ => rfl) listCall ?_ ?_
  · intro text
    rw [shallowFromSlice, fromUtf8Lossy_utf8Bytes]
  · intro i text called
    have same : text = "\x7b\"cmd\":\"LIST\"\x7d" := by
      simp only [listCall, List.mem_cons, NetworkEvent.call.injEq, reduceCtorEq, false_or,
        List.not_mem_nil, or_false] at called
      exact called.2
    rw [same]
    refine ⟨⟨"test", .list, by decide +kernel⟩, ?_⟩
    rw [Fits]
    decide +kernel
  · intro i exchange member
    have only
        : (i, exchange)
          ∈ [(0, "\x7b\"cmd\":\"LIST\"\x7d",
              (handleRequest emptyBackend plainConfig shallowReader
                "\x7b\"cmd\":\"LIST\"\x7d" .new ()).1)] :=
      mem_ofSession.mp member
    obtain ⟨-, rfl⟩ := Prod.mk.inj (List.mem_singleton.mp only)
    rw [response]
    refine ⟨?_, trivial, ⟨trivial, trivial⟩, trivial⟩
    rw [Fits]
    decide +kernel

end SqliteServer
