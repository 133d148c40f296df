import SqliteServer.Rejections
import SqliteServer.RepairedTexts
import SqliteServer.ResponseForms

/-! Repairing a repaired text changes nothing, so a client may send the repaired text of a request
in its place.
-/

namespace SqliteServer

open Json Regex Files Runs

-----------------------------------------------------------------------------------------
-- Texts
-----------------------------------------------------------------------------------------

/-- A repaired text begins with a repaired key or with a character that was copied. -/
theorem repairKeys_cons {text tail : Text} {c : Char} (repaired : repairKeys text = c :: tail)
    : (∃ key rest,
        keyMatch? text = some (key, rest)
        ∧ c = '"'
        ∧ tail = key ++ '"' :: ':' :: repairKeys rest)
      ∨ ∃ rest, text = c :: rest ∧ tail = repairKeys rest := by
  cases text with
  | nil => cases repaired
  | cons d rest =>
      cases matched : keyMatch? (d :: rest) with
      | some found =>
          rw [repairKeys_match matched] at repaired
          obtain ⟨rfl, rfl⟩ := List.cons.inj repaired
          exact Or.inl ⟨found.1, found.2, rfl, rfl, rfl⟩
      | none =>
          rw [repairKeys_copy matched] at repaired
          obtain ⟨rfl, rfl⟩ := List.cons.inj repaired
          exact Or.inr ⟨rest, rfl, rfl⟩

/-- A key is not empty and begins with a letter or a digit. -/
theorem keyMatch?_key {text key rest : Text} (matched : keyMatch? text = some (key, rest))
    : ∃ k others, key = k :: others ∧ isKeyChar k = true := by
  obtain ⟨-, -, -, -, nonempty, chars, -⟩ := keyMatch?_iff.mp matched
  obtain ⟨k, others, rfl⟩ := List.exists_cons_of_ne_nil nonempty
  exact ⟨k, others, rfl, List.all_eq_true.mp chars k List.mem_cons_self⟩

/-- Where the repair leaves a colon, perhaps after a quote, it stood there before: the quote that
opens a repaired key is followed by the key.
-/
theorem repairKeys_colon {text after rest : Text} (closing : OptionalQuote after)
    (repaired : repairKeys text = after ++ ':' :: rest)
    : ∃ rest', text = after ++ ':' :: rest' := by
  have colon {text rest : Text} (repaired : repairKeys text = ':' :: rest)
      : ∃ rest', text = ':' :: rest' := by
    rcases repairKeys_cons repaired with ⟨_, _, -, quote, -⟩ | ⟨rest', copied, -⟩
    · exact absurd quote (by decide)
    · exact ⟨rest', copied⟩
  rcases closing with rfl | ⟨q, -, rfl⟩
  · exact colon repaired
  · rcases repairKeys_cons repaired with ⟨key, _, matched, -, tail⟩ | ⟨rest', rfl, tail⟩
    · obtain ⟨k, others, rfl, isKey⟩ := keyMatch?_key matched
      obtain ⟨rfl, -⟩ := List.cons.inj tail
      exact absurd rfl (isKeyChar_plain isKey).2
    · obtain ⟨rest'', rfl⟩ := colon tail.symm
      exact ⟨rest'', rfl⟩

/-- Where the repair leaves a colon after letters and digits and perhaps a quote, they stood there
before: by induction on the letters and digits, none of which begins a repaired key.
-/
theorem repairKeys_run {text run after rest : Text} (chars : run.all isKeyChar = true)
    (closing : OptionalQuote after) (repaired : repairKeys text = run ++ (after ++ ':' :: rest))
    : ∃ rest', text = run ++ (after ++ ':' :: rest') := by
  induction run generalizing text with
  | nil => exact repairKeys_colon closing repaired
  | cons k run ih =>
      rw [List.all_cons, Bool.and_eq_true] at chars
      rcases repairKeys_cons repaired with ⟨_, _, -, rfl, -⟩ | ⟨later, rfl, tail⟩
      · exact absurd chars.1 (by decide)
      · obtain ⟨rest', rfl⟩ := ih chars.2 tail.symm
        exact ⟨rest', rfl⟩

/-- A character that begins no match begins none after the repair of what follows it. -/
theorem keyMatch?_repaired {c : Char} {rest : Text} (unmatched : keyMatch? (c :: rest) = none)
    : keyMatch? (c :: repairKeys rest) = none := by
  cases matched : keyMatch? (c :: repairKeys rest) with
  | none => rfl
  | some found =>
      obtain ⟨key, left⟩ := found
      obtain ⟨before, after, opening, closing, nonempty, chars, split⟩ := keyMatch?_iff.mp matched
      have original : ∃ left', keyMatch? (c :: rest) = some (key, left') := by
        rcases opening with rfl | ⟨q, quote, rfl⟩
        · obtain ⟨k, others, rfl⟩ := List.exists_cons_of_ne_nil nonempty
          obtain ⟨rfl, tail⟩ := List.cons.inj split
          rw [List.all_cons, Bool.and_eq_true] at chars
          obtain ⟨left', rfl⟩ := repairKeys_run chars.2 closing tail
          exact ⟨left',
            keyMatch?_iff.mpr
              ⟨[], after, Or.inl rfl, closing, nonempty, by simpa using chars, rfl⟩⟩
        · obtain ⟨rfl, tail⟩ := List.cons.inj split
          obtain ⟨left', rfl⟩ := repairKeys_run chars closing tail
          exact ⟨left',
            keyMatch?_iff.mpr ⟨[c], after, Or.inr ⟨c, quote, rfl⟩, closing, nonempty, chars, rfl⟩⟩
      obtain ⟨left', found⟩ := original
      rw [unmatched] at found
      contradiction

/-- A repaired key is a match, and its repair is itself. -/
theorem keyMatch?_quoted {text key rest : Text} (matched : keyMatch? text = some (key, rest))
    (more : Text)
    : keyMatch? ('"' :: (key ++ '"' :: ':' :: more)) = some (key, more) := by
  obtain ⟨-, -, -, -, nonempty, chars, -⟩ := keyMatch?_iff.mp matched
  have quote : OptionalQuote ['"'] := Or.inr ⟨'"', by decide, rfl⟩
  exact keyMatch?_iff.mpr ⟨['"'], ['"'], quote, quote, nonempty, chars, rfl⟩

/-- Repairing twice is repairing once, by induction on the length of the text. -/
theorem repairKeys_repairKeys (text : Text)
    : repairKeys (repairKeys text) = repairKeys text := by
  cases text with
  | nil => rfl
  | cons c rest =>
      cases matched : keyMatch? (c :: rest) with
      | none =>
          rw [repairKeys_copy matched, repairKeys_copy (keyMatch?_repaired matched),
            repairKeys_repairKeys rest]
      | some found =>
          obtain ⟨before, after, -, -, nonempty, -, split⟩ := keyMatch?_iff.mp matched
          have shorter : found.2.length < (c :: rest).length := by
            have lengths := congrArg List.length split
            simp only [List.length_append, List.length_cons] at lengths ⊢
            omega
          rw [repairKeys_match matched, repairKeys_match (keyMatch?_quoted matched _),
            repairKeys_repairKeys found.2]
termination_by text.length
decreasing_by
  · exact Nat.lt_succ_self rest.length
  · exact shorter

-----------------------------------------------------------------------------------------
-- Requests
-----------------------------------------------------------------------------------------

/-- A request as the server repairs it. -/
def repairedText (req : String) : String := String.ofList (repairKeys req.toList)

/-- The repaired text of a request is read as the request is. -/
theorem parseRequest_repaired {serde : SerdeJson} {req message : String}
    (refused : serde.fromStr req = .error message)
    : parseRequest serde (repairedText req) = parseRequest serde req := by
  unfold parseRequest
  rw [refused, repairedText, String.toList_ofList, repairKeys_repairKeys]
  dsimp only
  cases serde.fromStr (String.ofList (repairKeys req.toList)) with
  | ok value => rfl
  | error message => rfl

/-- The same response, or generic errors that are alike but for the requests they echo. -/
def SameAnswer (response other : Value) : Prop :=
  response = other
  ∨ (∃ code, response.get "generic_error" = some (jsonInt code))
    ∧ ∀ key, key ≠ "request" → response.get key = other.get key

/-- Objects that end with different requests are alike but for these. -/
theorem get_echo {key : String} (other : key ≠ "request") (fields : List (String × Value))
    (request request' : Value)
    : (Value.ofFields (fields ++ [("request", request)])).get key
      = (Value.ofFields (fields ++ [("request", request')])).get key := by
  have last (value : Value)
      : (Value.ofFields (fields ++ [("request", value)])).get key
        = field? key (insertFields fields []) := by
    rw [Value.ofFields, insertFields, List.foldl_append]
    exact field?_insertField_ne other value _
  rw [last, last]

/-- Generic errors with the same code are the same answer. -/
theorem sameAnswer_genericError (code : Int64) (request request' : Value)
    : SameAnswer (genericError code request) (genericError code request') :=
  .inr
    ⟨⟨code, genericError_code code request⟩,
      fun _ other => get_echo other [("generic_error", jsonInt code)] request request'⟩

section Requests

variable {World Conn Stmt : Type} (backend : Backend World Conn Stmt) (config : Config)

/-- A request is dispatched by what it is read as; its text is at most echoed. -/
theorem dispatch_echo (req req' : String) (json : Value) (handler : RequestHandler Conn)
    (world : World)
    : SameAnswer (dispatch backend config req json handler world).1
          (dispatch backend config req' json handler world).1
      ∧ (dispatch backend config req json handler world).2
        = (dispatch backend config req' json handler world).2 := by
  unfold dispatch
  cases (json.get "cmd").bind Value.asStr with
  | none => exact ⟨sameAnswer_genericError _ _ _, rfl⟩
  | some cmd =>
      dsimp only
      split_ifs
      · exact ⟨Or.inl rfl, rfl⟩
      · exact ⟨Or.inl rfl, rfl⟩
      · exact ⟨Or.inl rfl, rfl⟩
      · exact ⟨sameAnswer_genericError _ _ _, rfl⟩

/-- Requests that are read alike are handled alike: by cases on the gate. -/
theorem handleRequest_echo {serde : SerdeJson} {req req' : String}
    (same : parseRequest serde req = parseRequest serde req') (handler : RequestHandler Conn)
    (world : World)
    : SameAnswer (handleRequest backend config serde req handler world).1
          (handleRequest backend config serde req' handler world).1
      ∧ (handleRequest backend config serde req handler world).2
        = (handleRequest backend config serde req' handler world).2 := by
  unfold handleRequest
  rw [← same]
  cases parseRequest serde req with
  | error message =>
      refine ⟨.inr ⟨⟨invalidFormat, Value.get_ofFields (by simp) (by simp)⟩, ?_⟩, rfl⟩
      intro key other
      exact get_echo other
        [("generic_error", jsonInt invalidFormat), ("message", .string message)] _ _
  | ok json =>
      have echo := dispatch_echo backend config req req' json handler world
      dsimp only
      split_ifs
      · cases (json.get "auth").bind Value.asStr with
        | none => exact echo
        | some auth =>
            dsimp only
            split_ifs
            · exact ⟨Or.inl rfl, rfl⟩
            · exact echo
      · cases (json.get "auth").bind Value.asStr with
        | none => exact ⟨Or.inl rfl, rfl⟩
        | some auth =>
            dsimp only
            split_ifs
            · exact ⟨Or.inl rfl, rfl⟩
            · exact ⟨Or.inl rfl, rfl⟩
      · exact echo

end Requests

-----------------------------------------------------------------------------------------
-- Runs
-----------------------------------------------------------------------------------------

section Repaired

variable {World Conn Stmt : Type} (backend : Backend World Conn Stmt) (config : Config)

/-- The same event, or a request that is not JSON and what the server makes of it. -/
inductive Repaired (serde : SerdeJson) : ServerEvent World → ServerEvent World → Prop where
  | same (event : ServerEvent World) : Repaired serde event event
  | request {req message : String} (session : Nat) (refused : serde.fromStr req = .error message)
      : Repaired serde (.request session req) (.request session (repairedText req))

variable {serde : SerdeJson} {event event' : ServerEvent World}

/-- A request and its repair lead to the same server: by cases on the event. -/
theorem Repaired.step (repaired : Repaired serde event event') (server : Server World Conn)
    : (Server.step backend config serde server event).1
          = (Server.step backend config serde server event').1
      ∧ List.Forall₂ (fun answer other => answer.1 = other.1 ∧ SameAnswer answer.2 other.2)
          (Server.step backend config serde server event).2
          (Server.step backend config serde server event').2 := by
  cases repaired with
  | same => exact ⟨rfl, List.forall₂_same.mpr fun _ _ => ⟨rfl, Or.inl rfl⟩⟩
  | @request req _ session refused =>
      obtain ⟨answer, left⟩ :=
        handleRequest_echo backend config (parseRequest_repaired refused).symm
          (server.sessions session) server.world
      rw [Server.step, Server.step, left]
      exact ⟨rfl, .cons ⟨rfl, answer⟩ .nil⟩

/-- A client may repair the keys of its requests itself: a run in which some do leads to the same
state, with the same answers up to the requests that errors echo.
-/
theorem repairs_exchangeable (server : Server World Conn)
    (events events' : List (ServerEvent World))
    (repaired : List.Forall₂ (Repaired serde) events events')
    : after (Server.step backend config serde) server events
        = after (Server.step backend config serde) server events'
      ∧ List.Forall₂ (fun answer other => answer.1 = other.1 ∧ SameAnswer answer.2 other.2)
          (outputs (Server.step backend config serde) server events)
          (outputs (Server.step backend config serde) server events') :=
  exchange (fun server _ _ repaired => repaired.step backend config server) repaired server

end Repaired

/-- A client that leaves the quotes of a key out and one that writes them list the same. -/
theorem repairs_exchangeable_list
    : after (Server.step emptyBackend (.standard "/srv/a" "") shallowReader) (.start ())
          [.request 0 "\x7bcmd:\"LIST\"\x7d"]
        = after (Server.step emptyBackend (.standard "/srv/a" "") shallowReader) (.start ())
            [.request 0 (repairedText "\x7bcmd:\"LIST\"\x7d")] := by
  have refused : shallowReader.fromStr "\x7bcmd:\"LIST\"\x7d" = .error "invalid JSON" := by
    decide
  exact (repairs_exchangeable emptyBackend (.standard "/srv/a" "") (.start ()) _ _
    (.cons (.request 0 refused) .nil)).1

end SqliteServer
