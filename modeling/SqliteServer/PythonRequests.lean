import SqliteServer.ClientOperations
import SqliteServer.Json.AsciiStrings

/-! The requests of the Python client. The server cannot tell them from those of the Rust client.
-/

namespace SqliteServer

open Json Files Runs

-----------------------------------------------------------------------------------------
-- Texts
-----------------------------------------------------------------------------------------

namespace PythonClient

/-- An entry of a dict of strings as `json.dumps` writes it. -/
def dumpsItem (item : String × String) (rest : Text) : Text :=
  (asciiLiteral item.1).write (':' :: ' ' :: (asciiLiteral item.2).write rest)

def dumpsItems : List (String × String) → Text → Text
  | [], rest => rest
  | [item], rest => dumpsItem item rest
  | item :: others, rest => dumpsItem item (',' :: ' ' :: dumpsItems others rest)

/-- What `json.dumps` makes of a dict of strings: ASCII, in the order of the dict, with a space
after each comma and each colon.
-/
def dumps (items : List (String × String)) : String :=
  String.ofList ('{' :: dumpsItems items ['}'])

/-- The text of `_send_query`. -/
def queryText (database query : String) : String :=
  dumps [("db", database), ("cmd", "QUERY"), ("query", query)]

/-- The text of `_send_auth`. -/
def authText (auth : String) : String := dumps [("auth", auth)]

end PythonClient

-----------------------------------------------------------------------------------------
-- Reading
-----------------------------------------------------------------------------------------

section Reading

def oneSpace : Spaces := ⟨[' '], by decide⟩

/-- The members of a dict of strings, the first after some spaces. -/
def dictMembers (before : Spaces) (item : String × String) : List (String × String) → Members
  | [] =>
      .last before (.quoted (asciiLiteral item.1)) noSpace oneSpace (.string (asciiLiteral item.2))
        noSpace
  | next :: others =>
      .more before (.quoted (asciiLiteral item.1)) noSpace oneSpace (.string (asciiLiteral item.2))
        noSpace (dictMembers oneSpace next others)

variable (before : Spaces) (item : String × String) (others : List (String × String))

/-- The members are written as the dict is, by induction on the other items. -/
theorem dictMembers_write (rest : Text)
    : (dictMembers before item others).write rest
      = before.val ++ PythonClient.dumpsItems (item :: others) rest := by
  induction others generalizing before item with
  | nil => rfl
  | cons next others ih =>
      rw [dictMembers, Members.write, ih]
      rfl

theorem dictMembers_denote (readNumber : Text → Option Number)
    : (dictMembers before item others).denote readNumber
      = some ((item :: others).map fun item => (item.1, .string item.2)) := by
  induction others generalizing before item with
  | nil => simp [dictMembers, Members.denote, Key.denote, Syntax.denote, asciiLiteral_denote]
  | cons next others ih =>
      rw [dictMembers, Members.denote, ih]
      simp [Key.denote, Syntax.denote, asciiLiteral_denote]

theorem dictMembers_strict : (dictMembers before item others).strict = true := by
  induction others generalizing before item with
  | nil => rfl
  | cons next others ih =>
      rw [dictMembers, Members.strict, ih]
      rfl

theorem dictMembers_depth : (dictMembers before item others).depth = 0 := by
  induction others generalizing before item with
  | nil => rfl
  | cons next others ih =>
      rw [dictMembers, Members.depth, ih]
      rfl

variable {serde : SerdeJson}

/-- The server reads a dict as the object of its items. -/
theorem parseRequest_dumps (faithful : serde.Faithful)
    : parseRequest serde (PythonClient.dumps (item :: others))
      = .ok (.ofFields ((item :: others).map fun item => (item.1, .string item.2))) := by
  have text
      : PythonClient.dumps (item :: others)
        = requestText noSpace noSpace (.object (dictMembers noSpace item others)) := by
    rw [requestText, Syntax.write, dictMembers_write]
    rfl
  have denoted
      : (Syntax.object (dictMembers noSpace item others)).denote serde.readNumber
        = some (.ofFields ((item :: others).map fun item => (item.1, .string item.2))) := by
    rw [Syntax.denote, dictMembers_denote]
    rfl
  have depth : (Syntax.object (dictMembers noSpace item others)).depth < recursionLimit := by
    rw [Syntax.depth, dictMembers_depth]
    decide
  have strict : (Syntax.object (dictMembers noSpace item others)).strict = true := by
    rw [Syntax.strict, dictMembers_strict]
  have read := faithful.complete _ _ strict depth denoted
  rw [parseRequest, text, read]

/-- The clients write the keys of a query in different orders. -/
theorem parseRequest_pythonQuery (faithful : serde.Faithful) (database query : String)
    : parseRequest serde (PythonClient.queryText database query)
      = .ok (RustClient.queryRequest database query) := by
  have read := parseRequest_dumps ("db", database) [("cmd", "QUERY"), ("query", query)] faithful
  have cmdFirst : "cmd" < "db" := by decide
  have dbLater : ¬ "db" < "cmd" := by decide
  have dbNotCmd : "db" ≠ "cmd" := by decide
  rw [PythonClient.queryText, read, RustClient.queryRequest]
  simp only [Value.ofFields, insertFields, insertField, List.map_cons, List.map_nil,
    List.foldl_cons, List.foldl_nil, if_pos cmdFirst, if_neg dbLater, if_neg dbNotCmd]

theorem parseRequest_pythonAuth (faithful : serde.Faithful) (auth : String)
    : parseRequest serde (PythonClient.authText auth) = .ok (RustClient.authRequest auth) :=
  parseRequest_dumps _ _ faithful

end Reading

-----------------------------------------------------------------------------------------
-- Handling
-----------------------------------------------------------------------------------------

section Handling

variable {World Conn Stmt : Type} (backend : Backend World Conn Stmt) (config : Config)
  {serde : SerdeJson}

/-- A query is handled by what it is read as. -/
theorem handleRequest_queryRequest {req req' database query : String}
    (parsed : parseRequest serde req = .ok (RustClient.queryRequest database query))
    (parsed' : parseRequest serde req' = .ok (RustClient.queryRequest database query))
    (handler : RequestHandler Conn) (world : World)
    : handleRequest backend config serde req handler world
      = handleRequest backend config serde req' handler world := by
  have dispatched (text : String) :=
    dispatch_commandOf backend config text (RustClient.queryRequest database query) handler world
  simp only [commandOf_queryRequest] at dispatched
  rw [handleRequest_gate backend config parsed, handleRequest_gate backend config parsed',
    dispatched, dispatched]

/-- The right password is accepted whatever else is sent. -/
theorem handleRequest_password {req : String} (protected' : config.auth ≠ "")
    (parsed : parseRequest serde req = .ok (RustClient.authRequest config.auth))
    (handler : RequestHandler Conn) (world : World)
    : handleRequest backend config serde req handler world
      = (resultResponse "ok", { handler with authenticated := true }, world) := by
  have given : (RustClient.authRequest config.auth).get "auth" = some (.string config.auth) :=
    Value.get_ofFields (by simp) List.mem_cons_self
  rw [handleRequest_gate backend config parsed, given]
  exact if_pos ⟨protected', rfl⟩

/-- The same event, or the same query or password from the one client and from the other. -/
inductive SentAlike (config : Config) (printNumber : Number → NumberLit)
    : ServerEvent World → ServerEvent World → Prop where
  | same (event : ServerEvent World) : SentAlike config printNumber event event
  | query (session : Nat) (database query : String)
      : SentAlike config printNumber (.request session (PythonClient.queryText database query))
          (.request session (compactStrict printNumber (RustClient.queryRequest database query)))
  | password (session : Nat) (protected' : config.auth ≠ "")
      : SentAlike config printNumber (.request session (PythonClient.authText config.auth))
          (.request session (compactStrict printNumber (RustClient.authRequest config.auth)))

variable {config} {printNumber : Number → NumberLit} {event event' : ServerEvent World}

/-- The server does not tell the clients apart: by cases on what they send. -/
theorem SentAlike.step (alike : SentAlike config printNumber event event')
    (faithful : serde.Faithful) (server : Server World Conn)
    : Server.step backend config serde server event
      = Server.step backend config serde server event' := by
  cases alike with
  | same => rfl
  | query session database query =>
      have rust
          : parseRequest serde (compactStrict printNumber (RustClient.queryRequest database query))
            = .ok (RustClient.queryRequest database query) :=
        parseRequest_flat faithful printNumber
          (flat_strings [("cmd", "QUERY"), ("db", database), ("query", query)])
      rw [Server.step, Server.step,
        handleRequest_queryRequest backend config (parseRequest_pythonQuery faithful database query)
          rust]
  | password session protected' =>
      have rust
          : parseRequest serde (compactStrict printNumber (RustClient.authRequest config.auth))
            = .ok (RustClient.authRequest config.auth) :=
        parseRequest_flat faithful printNumber (flat_strings [("auth", config.auth)])
      rw [Server.step, Server.step,
        handleRequest_password backend config protected'
          (parseRequest_pythonAuth faithful config.auth),
        handleRequest_password backend config protected' rust]

variable (config printNumber)

/-- A run in which the queries and passwords of Python clients are sent by Rust clients leads to the
same state, with the same answers: every step is the same, whichever client sends.
-/
theorem clients_exchangeable (faithful : serde.Faithful) (server : Server World Conn)
    (events events' : List (ServerEvent World))
    (alike : List.Forall₂ (SentAlike config printNumber) events events')
    : after (Server.step backend config serde) server events
        = after (Server.step backend config serde) server events'
      ∧ outputs (Server.step backend config serde) server events
        = outputs (Server.step backend config serde) server events' := by
  have agree (server : Server World Conn) (event event' : ServerEvent World)
      (alike : SentAlike config printNumber event event')
      : (Server.step backend config serde server event).1
            = (Server.step backend config serde server event').1
        ∧ List.Forall₂ (· = ·) (Server.step backend config serde server event).2
            (Server.step backend config serde server event').2 := by
    rw [alike.step backend faithful server, List.forall₂_eq_eq_eq]
    exact ⟨rfl, rfl⟩
  have run := exchange agree alike server
  rwa [List.forall₂_eq_eq_eq] at run

end Handling

/-- A Python client gives the password and queries, and a Rust client does in its place. -/
theorem clients_exchangeable_query
    : after (Server.step emptyBackend (.standard "/srv/a" "secret") shallowReader) (.start ())
          [
            .request 0 (PythonClient.authText "secret"),
            .request 0 (PythonClient.queryText "m\u00fcller" "SELECT 1")
          ]
        = after (Server.step emptyBackend (.standard "/srv/a" "secret") shallowReader) (.start ())
            [
              .request 0 (compactStrict printUnsigned (RustClient.authRequest "secret")),
              .request 0
                (compactStrict printUnsigned (RustClient.queryRequest "m\u00fcller" "SELECT 1"))
            ] := by
  have password : (Config.standard "/srv/a" "secret").auth ≠ "" := by decide
  exact (clients_exchangeable emptyBackend (.standard "/srv/a" "secret") printUnsigned
    shallowReader_faithful (.start ()) _ _
    (.cons (.password 0 password) (.cons (.query 0 "m\u00fcller" "SELECT 1") .nil))).1

end SqliteServer
