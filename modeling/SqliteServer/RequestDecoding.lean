import SqliteServer.FramingRoundTrip
import SqliteServer.Rejections

/-! Requests as the bytes of their frames: which of them are executed as they were sent. -/

namespace SqliteServer

open Json Files Wire

section Decoding

variable {World Conn Stmt : Type} (backend : Backend World Conn Stmt) (config : Config)
  (serde : SerdeJson) (toText : Value → Option String)

/-- A request, with the handler of its session and the world as the connection loop's state. -/
def sessionRequest (req : String) (state : RequestHandler Conn × World)
    : Value × RequestHandler Conn × World :=
  handleRequest backend config serde req state.1 state.2

/-- The bytes are those of a text. -/
def IsUtf8 (payload : Bytes) : Prop := ∃ sent, utf8Bytes sent = payload

/-- The text that the payload is decoded to is not accepted as a request. -/
def Unreadable (payload : Bytes) : Prop :=
  ∃ message, parseRequest serde (fromUtf8Lossy payload) = .error message

/-- A text is answered INVALID_FORMAT, and nothing is done. -/
def InvalidFormat (text : String) (state : RequestHandler Conn × World) : Prop :=
  (sessionRequest backend config serde text state).1.get "generic_error"
      = some (jsonInt invalidFormat)
  ∧ (sessionRequest backend config serde text state).2 = state

/-- A frame is executed only as sent: wherever it arrives, the text that the loop hands over has
the bytes of its payload, or it is answered INVALID_FORMAT. The arguments of a query that is run are
those of the text with these bytes.
-/
structure AsSent (state : RequestHandler Conn × World) (payload : Bytes) : Prop where
  text
    : ∀ input tail,
        input.flatten = frame payload ++ tail
        → ∃ text later,
            later.flatten = tail
            ∧ handle config (sessionRequest backend config serde) toText state input
              = .header (UInt32.ofNat payload.length)
                :: .request text
                :: .response
                    (frame
                      (responseBody toText (sessionRequest backend config serde text state).1))
                :: handle config (sessionRequest backend config serde) toText
                    (sessionRequest backend config serde text state).2 later
            ∧ (utf8Bytes text = payload ∨ InvalidFormat backend config serde text state)
  query
    : ∀ json db sql,
        requested config serde state.1 (fromUtf8Lossy payload) = some (json, .query db sql)
        → ∃ sent,
            utf8Bytes sent = payload
            ∧ requested config serde state.1 sent = some (json, .query db sql)

/-- Two payloads that are not the same are not read as one request. -/
def ToldApart (payload other : Bytes) : Prop :=
  payload ≠ other → fromUtf8Lossy payload = fromUtf8Lossy other → Unreadable serde payload

variable {backend config serde toText}

/-- The bytes of a text are decoded to the text. -/
theorem IsUtf8.bytes {payload : Bytes} (decodes : IsUtf8 payload)
    : utf8Bytes (fromUtf8Lossy payload) = payload := by
  obtain ⟨sent, rfl⟩ := decodes
  rw [fromUtf8Lossy_utf8Bytes]

theorem genericError_not_format {code : Int64} (other : jsonInt code ≠ jsonInt invalidFormat)
    (request : Value)
    : (genericError code request).get "generic_error" ≠ some (jsonInt invalidFormat) := by
  rw [genericError_code]
  exact fun same => other (Option.some.inj same)

theorem noCode_not_format {response : Value} (none : response.get "generic_error" = none)
    : response.get "generic_error" ≠ some (jsonInt invalidFormat) := by
  rw [none]
  exact fun same => by cases same

/-- No command is answered INVALID_FORMAT: cases on the command and its arguments. -/
theorem dispatch_not_format (req : String) (json : Value) (handler : RequestHandler Conn)
    (world : World)
    : (dispatch backend config req json handler world).1.get "generic_error"
      ≠ some (jsonInt invalidFormat) := by
  have result (text : String)
      : (resultResponse text).get "generic_error" ≠ some (jsonInt invalidFormat) :=
    noCode_not_format (resultResponse_keys (by decide) text)
  have noDatabase
      : (genericError noDatabaseSpecified json).get "generic_error"
        ≠ some (jsonInt invalidFormat) :=
    genericError_not_format (by decide) json
  rw [dispatch]
  cases (json.get "cmd").bind Value.asStr with
  | none => exact genericError_not_format (by decide) _
  | some cmd =>
      dsimp only
      split_ifs with query list delete
      · rw [handleQuery, queryArguments]
        cases (json.get "db").bind Value.asStr with
        | none => exact noDatabase
        | some db =>
            dsimp only
            cases (json.get "query").bind Value.asStr with
            | none => exact genericError_not_format (by decide) _
            | some sql =>
                dsimp only
                by_cases safe : isSafeDatabaseName backend config world db = true
                · rw [if_pos safe]
                  exact noCode_not_format (runQuery_keys (by decide) ..)
                · rw [if_neg safe]
                  exact noDatabase
      · exact noCode_not_format (Value.get_ofFields_other (by simp))
      · rw [handleDeleteDb]
        cases (json.get "db").bind Value.asStr with
        | none => exact noDatabase
        | some db =>
            dsimp only
            by_cases safe : isSafeDatabaseName backend config world db = true
            · rw [if_pos safe]
              cases backend.removeFile world (join config.databasesFolder db) with
              | none => exact result "error"
              | some world' =>
                  dsimp only
                  cases handler.connection? db with
                  | none => exact result "ok"
                  | some conn => exact result "ok"
            · rw [if_neg safe]
              exact noDatabase
      · exact genericError_not_format (by decide) _

/-- Exactly what cannot be parsed is answered INVALID_FORMAT: what can be is refused by the gate or
goes to a command.
-/
theorem invalidFormat_iff (text : String) (state : RequestHandler Conn × World)
    : InvalidFormat backend config serde text state
      ↔ ∃ message, parseRequest serde text = .error message := by
  constructor
  · rintro ⟨answered, -⟩
    cases parsed : parseRequest serde text with
    | error message => exact ⟨message, rfl⟩
    | ok json =>
        have result (text : String)
            : (resultResponse text).get "generic_error" ≠ some (jsonInt invalidFormat) :=
          noCode_not_format (resultResponse_keys (by decide) text)
        have command
            : (dispatch backend config text json state.1 state.2).1.get "generic_error"
              ≠ some (jsonInt invalidFormat) :=
          dispatch_not_format text json state.1 state.2
        refine absurd answered ?_
        rw [sessionRequest, handleRequest, parsed]
        dsimp only
        by_cases protected' : config.auth ≠ ""
        · rw [if_pos protected']
          cases (json.get "auth").bind Value.asStr with
          | none =>
              dsimp only
              split_ifs
              · exact command
              · exact result "error"
          | some auth =>
              dsimp only
              split_ifs
              · exact result "ok"
              · exact command
              · exact result "error"
        · rw [if_neg protected']
          exact command
  · rintro ⟨message, refused⟩
    rw [InvalidFormat, sessionRequest, handleRequest, refused]
    exact ⟨Value.get_ofFields (by simp) (by simp), rfl⟩

/-- What cannot be read asks for nothing. -/
theorem Unreadable.requested {payload : Bytes} (unreadable : Unreadable serde payload)
    (handler : RequestHandler Conn)
    : requested config serde handler (fromUtf8Lossy payload) = none := by
  obtain ⟨message, refused⟩ := unreadable
  rw [SqliteServer.requested, refused]

/-- A frame is executed only as sent exactly if its payload is UTF-8, or cannot be read anyway: the
loop hands over the decoded text.
-/
theorem asSent_iff (state : RequestHandler Conn × World) {payload : Bytes}
    (within : payload.length ≤ config.clientMaxPacketSize.toNat)
    : AsSent backend config serde toText state payload
      ↔ IsUtf8 payload ∨ Unreadable serde payload := by
  have served (input : List Bytes) (tail : Bytes)
      (stream : input.flatten = frame payload ++ tail)
      : ∃ later,
          later.flatten = tail
          ∧ handle config (sessionRequest backend config serde) toText state input
            = .header (UInt32.ofNat payload.length)
              :: .request (fromUtf8Lossy payload)
              :: .response
                  (frame
                    (responseBody toText
                      (sessionRequest backend config serde (fromUtf8Lossy payload) state).1))
              :: handle config (sessionRequest backend config serde) toText
                  (sessionRequest backend config serde (fromUtf8Lossy payload) state).2 later :=
    handle_frame config (sessionRequest backend config serde) toText within stream
  constructor
  · intro asSent
    obtain ⟨text, later, -, handed, kept⟩ :=
      asSent.text [frame payload] [] (by rw [List.flatten_singleton, List.append_nil])
    obtain ⟨later', -, handed'⟩ :=
      served [frame payload] [] (by rw [List.flatten_singleton, List.append_nil])
    have events := handed.symm.trans handed'
    have same : Event.request text = .request (fromUtf8Lossy payload) :=
      (List.cons.inj (List.cons.inj events).2).1
    obtain rfl : text = fromUtf8Lossy payload := Event.request.inj same
    rcases kept with bytes | refused
    · exact .inl ⟨_, bytes⟩
    · exact .inr ((invalidFormat_iff _ state).mp refused)
  · intro readable
    refine ⟨?_, ?_⟩
    · intro input tail stream
      obtain ⟨later, rest, handed⟩ := served input tail stream
      refine ⟨fromUtf8Lossy payload, later, rest, handed, ?_⟩
      rcases readable with decodes | unreadable
      · exact .inl decodes.bytes
      · exact .inr ((invalidFormat_iff _ state).mpr unreadable)
    · intro json db sql request
      rcases readable with decodes | unreadable
      · exact ⟨_, decodes.bytes, request⟩
      · rw [unreadable.requested] at request
        cases request

variable (backend serde toText)

/-- Two frames are executed only as sent, and told apart, exactly if each payload is UTF-8 or cannot
be read anyway.
-/
theorem requestsAsSent_iff (state : RequestHandler Conn × World) (payload other : Bytes)
    (within : payload.length ≤ config.clientMaxPacketSize.toNat)
    (within' : other.length ≤ config.clientMaxPacketSize.toNat)
    : (AsSent backend config serde toText state payload
        ∧ AsSent backend config serde toText state other
        ∧ ToldApart serde payload other)
      ↔ (IsUtf8 payload ∨ Unreadable serde payload) ∧ (IsUtf8 other ∨ Unreadable serde other) := by
  rw [asSent_iff state within, asSent_iff state within']
  constructor
  · rintro ⟨first, second, -⟩
    exact ⟨first, second⟩
  · rintro ⟨first, second⟩
    refine ⟨first, second, ?_⟩
    intro different same
    rcases first with decodes | unreadable
    · rcases second with decodes' | unreadable'
      · have bytes : payload = other := by
          rw [← decodes.bytes, ← decodes'.bytes, same]
        exact absurd bytes different
      · rwa [Unreadable, ← same] at unreadable'
    · exact unreadable

end Decoding

theorem requestsAsSent_list
    : AsSent emptyBackend (.standard "/srv/sqlite" "") unsignedReader writeCompact (.new, ())
        (utf8Bytes "\x7b\"cmd\":\"LIST\"\x7d")
      ∧ AsSent emptyBackend (.standard "/srv/sqlite" "") unsignedReader writeCompact (.new, ())
          (utf8Bytes "\x7b\"cmd\":\"DELETE_DB\",\"db\":\"é\"\x7d")
      ∧ ToldApart unsignedReader (utf8Bytes "\x7b\"cmd\":\"LIST\"\x7d")
          (utf8Bytes "\x7b\"cmd\":\"DELETE_DB\",\"db\":\"é\"\x7d") :=
  (requestsAsSent_iff emptyBackend unsignedReader writeCompact (.new, ())
    (utf8Bytes "\x7b\"cmd\":\"LIST\"\x7d")
    (utf8Bytes "\x7b\"cmd\":\"DELETE_DB\",\"db\":\"é\"\x7d")
    (by decide +kernel) (by decide +kernel)).mpr ⟨.inl ⟨_, rfl⟩, .inl ⟨_, rfl⟩⟩

/-- A query whose text contains a byte that is not UTF-8. -/
def latinQuery : Bytes :=
  utf8Bytes "\x7b\"cmd\":\"QUERY\",\"db\":\"mydb\",\"query\":\"SELECT '" ++ [0xE9]
    ++ utf8Bytes "'\"\x7d"

/-- The byte is replaced, and the query is run with another text than was sent. -/
theorem latinQuery_replaced
    : ¬ ∀ payload other : Bytes,
        payload.length ≤ (Config.standard "/srv/sqlite" "").clientMaxPacketSize.toNat
        → other.length ≤ (Config.standard "/srv/sqlite" "").clientMaxPacketSize.toNat
        → AsSent emptyBackend (.standard "/srv/sqlite" "") unsignedReader writeCompact
              (.new, ()) payload
          ∧ AsSent emptyBackend (.standard "/srv/sqlite" "") unsignedReader writeCompact
              (.new, ()) other
          ∧ ToldApart unsignedReader payload other := by
  intro claim
  have within
      : latinQuery.length ≤ (Config.standard "/srv/sqlite" "").clientMaxPacketSize.toNat := by
    decide +kernel
  have request
      : (requested (.standard "/srv/sqlite" "") unsignedReader (.new : RequestHandler Unit)
          (fromUtf8Lossy latinQuery)).map Prod.snd
        = some (.query "mydb" "SELECT '\uFFFD'") := by
    decide +kernel
  obtain ⟨⟨json, command⟩, found, rfl⟩ := Option.map_eq_some_iff.mp request
  obtain ⟨sent, bytes, -⟩ := (claim latinQuery latinQuery within within).1.query json _ _ found
  have replaced : utf8Bytes (fromUtf8Lossy latinQuery) ≠ latinQuery := by
    decide +kernel
  exact replaced (IsUtf8.bytes ⟨sent, bytes⟩)

end SqliteServer
