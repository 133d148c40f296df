import SqliteServer.Connection
import SqliteServer.RenderedRequests

/-! Both directions of the framing: the receivers of the example clients on what the server
writes, and the server on what the Rust client sends.
-/

namespace SqliteServer

open Json Wire

/-- What the Rust client's `send` writes. -/
def send (body : Bytes) : Bytes := lengthHeader body.length ++ body

/-- The Rust client's `recv`; `fromSlice` reads the JSON text. -/
def recv (fromSlice : Bytes → Except String Value) (stream : List Bytes)
    : Option (Except String Value × List Bytes) :=
  match readExact 4 stream with
  | none => none
  | some (header, afterHeader) =>
      match readExact (fromLeBytes header).toNat afterHeader with
      | none => none
      | some (buf, left) => some (fromSlice buf, left)

/-- A socket's `recv` in the Python client: at most `size` bytes of what has arrived next, and
nothing only at the end of the stream.
-/
def recvChunk (size : Nat) : List Bytes → Bytes × List Bytes
  | [] => ([], [])
  | [] :: later => recvChunk size later
  | (b :: piece) :: later => ((b :: piece).take size, (b :: piece).drop size :: later)

/-- A received chunk is a part of the stream, by induction on the pieces. -/
theorem recvChunk_split (size : Nat) (stream : List Bytes)
    : stream.flatten = (recvChunk size stream).1 ++ (recvChunk size stream).2.flatten
      ∧ (recvChunk size stream).1.length ≤ size
      ∧ (0 < size → stream.flatten ≠ [] → (recvChunk size stream).1 ≠ []) := by
  induction stream with
  | nil => simp [recvChunk]
  | cons piece later ih =>
      cases piece with
      | nil => simpa [recvChunk] using ih
      | cons b others =>
          simp only [recvChunk, List.flatten_cons]
          refine ⟨?_, List.length_take_le _ _, ?_⟩
          · rw [← List.append_assoc, List.take_append_drop]
          · intro positive _
            simp
            omega

/-- The Python client's `_read_n_bytes`, with the data read so far. -/
def readNBytes (n : Nat) (data : Bytes) (stream : List Bytes) : Option Bytes × List Bytes :=
  if _missing : data.length < n then
    let received := recvChunk (n - data.length) stream
    if _closed : received.1 = [] then (none, received.2)
    else readNBytes n (data ++ received.1) received.2
  else (some data, stream)
termination_by n - data.length
decreasing_by
  have grows := List.length_pos_iff.mpr _closed
  simp only [List.length_append, received] at grows ⊢
  omega

/-- Strict UTF-8 decoding: only the bytes of a string have one. -/
def decodeUtf8 (bytes : Bytes) : Option String :=
  if utf8Bytes (fromUtf8Lossy bytes) = bytes then some (fromUtf8Lossy bytes) else none

/-- The text of a payload in the Python client: none if it is empty, and an error if it is not
UTF-8.
-/
def decodePayload (payload : Bytes) : Except Unit (Option String) :=
  if payload = [] then .ok none
  else
    match decodeUtf8 payload with
    | some text => .ok (some text)
    | none => .error ()

/-- The Python client's `_recv_data`, which gives no text at the end of the stream. -/
def recvData (stream : List Bytes) : Except Unit (Option String) × List Bytes :=
  match readNBytes 4 [] stream with
  | (none, left) => (.ok none, left)
  | (some header, afterHeader) =>
      match readNBytes (fromLeBytes header).toNat [] afterHeader with
      | (none, left) => (.ok none, left)
      | (some payload, left) => (decodePayload payload, left)

/-- The Python client reads what has arrived, however it is cut: by induction on what is still
wanted, of which every chunk is a nonempty prefix.
-/
theorem readNBytes_append (data : Bytes) {wanted tail : Bytes} {stream : List Bytes}
    (flat : stream.flatten = wanted ++ tail)
    : ∃ left,
        readNBytes (data.length + wanted.length) data stream = (some (data ++ wanted), left)
        ∧ left.flatten = tail := by
  by_cases done : wanted = []
  · subst done
    refine ⟨stream, ?_, flat⟩
    rw [readNBytes, dif_neg (by simp), List.append_nil]
  · have positive := List.length_pos_iff.mpr done
    have room : data.length + wanted.length - data.length = wanted.length := by omega
    have missing : data.length < data.length + wanted.length := by omega
    have arrived : stream.flatten ≠ [] := by
      rw [flat]
      exact List.append_ne_nil_of_left_ne_nil done tail
    have chunks := recvChunk_split wanted.length stream
    obtain ⟨chunk, later, eq⟩ : ∃ chunk later, recvChunk wanted.length stream = (chunk, later) :=
      ⟨_, _, rfl⟩
    rw [eq, flat] at chunks
    obtain ⟨split, bounded, nonempty⟩ := chunks
    have received : chunk ≠ [] := nonempty positive (flat ▸ arrived)
    obtain ⟨others, whole⟩ : chunk <+: wanted :=
      List.prefix_of_prefix_length_le ⟨_, split.symm⟩ (List.prefix_append _ _) bounded
    have following : later.flatten = others ++ tail := by
      rw [← whole, List.append_assoc] at split
      exact (List.append_cancel_left split).symm
    have lengths : chunk.length + others.length = wanted.length := by
      rw [← whole, List.length_append]
    have shorter : others.length < wanted.length := by
      have grows := List.length_pos_iff.mpr received
      omega
    obtain ⟨left, read, rest⟩ := readNBytes_append (data ++ chunk) following
    refine ⟨left, ?_, rest⟩
    rw [List.length_append, Nat.add_assoc, lengths] at read
    rw [readNBytes, dif_pos missing, room]
    simp only [eq, received, dite_false, read]
    rw [List.append_assoc, whole]
termination_by wanted.length

/-- The length a header gives back is the length modulo its width. -/
theorem fromLeBytes_lengthHeader (n : Nat)
    : (fromLeBytes (lengthHeader n)).toNat = n % 2 ^ 32 := by
  rw [lengthHeader, fromLeBytes_toLeBytes, UInt32.toNat_ofNat']

section Receivers

variable {n : Nat} {wanted tail : Bytes} {stream : List Bytes}

/-- The Rust client takes the bytes the header counts, and no more. -/
theorem recv_header (fromSlice : Bytes → Except String Value)
    (flat : stream.flatten = lengthHeader n ++ (wanted ++ tail))
    (count : wanted.length = n % 2 ^ 32)
    : ∃ left, recv fromSlice stream = some (fromSlice wanted, left) ∧ left.flatten = tail := by
  obtain ⟨afterHeader, header, rest⟩ := readExact_append flat
  obtain ⟨left, body, last⟩ := readExact_append rest
  rw [lengthHeader, length_toLeBytes, ← lengthHeader] at header
  rw [count, ← fromLeBytes_lengthHeader] at body
  exact ⟨left, by simp only [recv, header, body], last⟩

/-- The Python client takes the bytes the header counts, and no more. -/
theorem recvData_header (flat : stream.flatten = lengthHeader n ++ (wanted ++ tail))
    (count : wanted.length = n % 2 ^ 32)
    : ∃ left, recvData stream = (decodePayload wanted, left) ∧ left.flatten = tail := by
  obtain ⟨afterHeader, header, rest⟩ := readNBytes_append [] flat
  obtain ⟨left, body, last⟩ := readNBytes_append [] rest
  rw [lengthHeader, length_toLeBytes, ← lengthHeader, List.length_nil, Nat.zero_add] at header
  rw [count, List.length_nil, Nat.zero_add, ← fromLeBytes_lengthHeader] at body
  refine ⟨left, ?_, last⟩
  simp only [recvData, header, List.nil_append, body]

end Receivers

/-- Only the bytes of a text decode to it. -/
theorem decodePayload_text {payload : Bytes} {text : String}
    (decoded : decodePayload payload = .ok (some text))
    : payload = utf8Bytes text := by
  unfold decodePayload decodeUtf8 at decoded
  split at decoded
  · simp at decoded
  · split at decoded
    · rename_i found same
      split at same
      · rename_i encodes
        simp only [Except.ok.injEq, Option.some.injEq] at same decoded
        rw [← decoded, ← same, encodes]
      · contradiction
    · contradiction

theorem decodePayload_utf8Bytes {text : String} (nonempty : text ≠ "")
    : decodePayload (utf8Bytes text) = .ok (some text) := by
  have some' : utf8Bytes text ≠ [] := by
    intro none
    have empty := fromUtf8Lossy_utf8Bytes text
    rw [none] at empty
    exact nonempty empty.symm
  rw [decodePayload, if_neg some', decodeUtf8, fromUtf8Lossy_utf8Bytes, if_pos rfl]

/-- Each call of a receiver takes one frame and gives the result for its body. -/
def ReceivesInOrder {β : Type} (receive : List Bytes → Option (β × List Bytes))
    (result : String → β) : List String → List Bytes → Prop
  | [], stream => stream.flatten = []
  | text :: texts, stream =>
      ∃ left,
        receive stream = some (result text, left)
        ∧ left.flatten = wire (texts.map utf8Bytes)
        ∧ ReceivesInOrder receive result texts left

/-- A receiver that takes one frame takes all of them, by induction on the texts. -/
theorem receivesInOrder_of_frame {β : Type} {receive : List Bytes → Option (β × List Bytes)}
    {result : String → β} {texts : List String} {stream : List Bytes}
    (one
      : ∀ text ∈ texts, ∀ tail stream,
          stream.flatten = frame (utf8Bytes text) ++ tail
          → ∃ left, receive stream = some (result text, left) ∧ left.flatten = tail)
    (flat : stream.flatten = wire (texts.map utf8Bytes))
    : ReceivesInOrder receive result texts stream := by
  induction texts generalizing stream with
  | nil => exact flat
  | cons text others ih =>
      obtain ⟨left, received, rest⟩ := one text (by simp) _ stream flat
      exact ⟨left, received, rest,
        ih (fun t member => one t (List.mem_cons_of_mem _ member)) rest⟩

/-- The texts of the requests handed over. -/
def requestTexts (events : List Event) : List String :=
  events.filterMap
    (fun event =>
      match event with
      | .request text => some text
      | _ => none)

/-- The body of a text is within the limit of the server. -/
def within (config : Config) (text : String) : Bool :=
  (utf8Bytes text).length ≤ config.clientMaxPacketSize.toNat

/-- The end of a connection: the header of the first text that is too long, if there is one. -/
def refusedHeader (config : Config) (texts : List String) : List Event :=
  match texts.find? (fun text => !within config text) with
  | some text => [.header (UInt32.ofNat (utf8Bytes text).length)]
  | none => []

/-- Both receivers return exactly the texts of the responses, and the server is handed exactly
the requests before the first that is too long, where it closes the connection.
-/
structure FramingRoundTrip (config : Config) (toText : Value → Option String)
    (responses : List Value) (requests : List String) : Prop where
  rust
    : ∀ stream,
        stream.flatten = wire (responses.map (responseBody toText))
        → ∀ fromSlice,
            ReceivesInOrder (recv fromSlice) (fun text => fromSlice (utf8Bytes text))
              (responses.map (responseText toText)) stream
  python
    : ∀ stream,
        stream.flatten = wire (responses.map (responseBody toText))
        → ReceivesInOrder (fun stream => some (recvData stream)) (fun text => .ok (some text))
            (responses.map (responseText toText)) stream
  handed
    : ∀ (σ : Type) (handleRequest : String → σ → Value × σ) (handler : σ) (stream : List Bytes),
        stream.flatten = requests.flatMap (fun text => send (utf8Bytes text))
        → requestTexts (handle config handleRequest toText handler stream)
          = requests.takeWhile (within config)
  closes
    : ∀ (σ : Type) (handleRequest : String → σ → Value × σ) (handler : σ) (stream : List Bytes),
        stream.flatten = requests.flatMap (fun text => send (utf8Bytes text))
        → handle config handleRequest toText handler stream
          = served handleRequest toText handler
              ((requests.takeWhile (within config)).map utf8Bytes)
            ++ refusedHeader config requests

-----------------------------------------------------------------------------------------
-- Responses
-----------------------------------------------------------------------------------------

/-- A length that fits the header is sent as it is. -/
def Fits (text : String) : Prop := (utf8Bytes text).length < 2 ^ 32

theorem recv_frame (fromSlice : Bytes → Except String Value) {text : String} (fits : Fits text)
    {tail : Bytes} {stream : List Bytes} (flat : stream.flatten = frame (utf8Bytes text) ++ tail)
    : ∃ left,
        recv fromSlice stream = some (fromSlice (utf8Bytes text), left) ∧ left.flatten = tail := by
  rw [frame, List.append_assoc] at flat
  exact recv_header fromSlice flat (Nat.mod_eq_of_lt fits).symm

theorem recvData_frame {text : String} (fits : Fits text) (nonempty : text ≠ "") {tail : Bytes}
    {stream : List Bytes} (flat : stream.flatten = frame (utf8Bytes text) ++ tail)
    : ∃ left, recvData stream = (.ok (some text), left) ∧ left.flatten = tail := by
  rw [frame, List.append_assoc] at flat
  rw [← decodePayload_utf8Bytes nonempty]
  exact recvData_header flat (Nat.mod_eq_of_lt fits).symm

/-- A text whose length does not fit the header is cut: the Python client does not get it. -/
theorem fits_of_recvData {text : String} {tail : Bytes} {stream left : List Bytes}
    (flat : stream.flatten = frame (utf8Bytes text) ++ tail)
    (received : recvData stream = (.ok (some text), left))
    : Fits text := by
  have split := List.take_append_drop ((utf8Bytes text).length % 2 ^ 32) (utf8Bytes text)
  have count
      : ((utf8Bytes text).take ((utf8Bytes text).length % 2 ^ 32)).length
        = (utf8Bytes text).length % 2 ^ 32 := by
    rw [List.length_take]
    exact Nat.min_eq_left (Nat.mod_le _ _)
  rw [frame, List.append_assoc, ← split, List.append_assoc, split] at flat
  obtain ⟨others, read, -⟩ := recvData_header flat count
  rw [received] at read
  have whole := decodePayload_text (Prod.mk.inj read).1.symm
  rw [whole] at count
  have bound := Nat.mod_lt (utf8Bytes text).length (y := 2 ^ 32) (by decide)
  rw [← count] at bound
  exact bound

/-- If the Python client gets every text, every length fits, by induction on the texts. -/
theorem fits_of_receives {texts : List String} {stream : List Bytes}
    (flat : stream.flatten = wire (texts.map utf8Bytes))
    (receives
      : ReceivesInOrder (fun stream => some (recvData stream)) (fun text => .ok (some text)) texts
          stream)
    : ∀ text ∈ texts, Fits text := by
  induction texts generalizing stream with
  | nil => simp
  | cons text others ih =>
      obtain ⟨left, received, rest, later⟩ := receives
      rw [List.map_cons, wire, List.flatMap_cons] at flat
      exact List.forall_mem_cons.mpr
        ⟨fits_of_recvData flat (Option.some.inj received), ih rest later⟩

-----------------------------------------------------------------------------------------
-- Requests
-----------------------------------------------------------------------------------------

section Requests

variable (config : Config) (toText : Value → Option String)
variable {σ : Type} (handleRequest : String → σ → Value × σ) (handler : σ)

/-- A length above the limit is refused as long as the header still says so. -/
def Refusable (text : String) : Prop :=
  config.clientMaxPacketSize.toNat < (utf8Bytes text).length % 2 ^ 32

@[simp]
theorem requestTexts_append (before after : List Event)
    : requestTexts (before ++ after) = requestTexts before ++ requestTexts after :=
  List.filterMap_append

/-- The requests served are the texts decoded, by induction on the bodies. -/
theorem requestTexts_served (bodies : List Bytes)
    : requestTexts (served handleRequest toText handler bodies) = bodies.map fromUtf8Lossy := by
  induction bodies generalizing handler with
  | nil => rfl
  | cons body others ih =>
      have later := ih (handleRequest (fromUtf8Lossy body) handler).2
      simpa [requestTexts, served] using later

theorem requestTexts_refusedHeader (texts : List String)
    : requestTexts (refusedHeader config texts) = [] := by
  unfold refusedHeader
  split <;> rfl

/-- What is sent are frames. -/
theorem flatMap_send (texts : List String)
    : texts.flatMap (fun text => send (utf8Bytes text)) = wire (texts.map utf8Bytes) := by
  rw [wire, List.flatMap_map]
  rfl

/-- The texts up to the first that is too long, that one, and the others. -/
theorem split_within (texts : List String)
    : (texts.takeWhile (within config) = texts
        ∧ texts.find? (fun text => !within config text) = none)
      ∨ ∃ large later,
          texts = texts.takeWhile (within config) ++ large :: later
          ∧ texts.find? (fun text => !within config text) = some large
          ∧ within config large = false := by
  induction texts with
  | nil => simp
  | cons text others ih =>
      cases small : within config text with
      | false => exact Or.inr ⟨text, others, by simp [small], by simp [small], small⟩
      | true =>
          rcases ih with ⟨all, none⟩ | ⟨large, later, split, first, tooLarge⟩
          · exact Or.inl ⟨by simp [small, all], by simp [small, none]⟩
          · refine Or.inr ⟨large, later, ?_, by simp [small, first], tooLarge⟩
            simp only [small, List.takeWhile_cons_of_pos, List.cons_append]
            rw [← split]

/-- The bodies of the texts taken are within the limit. -/
theorem admitted_takeWhile (texts : List String)
    : ∀ body ∈ (texts.takeWhile (within config)).map utf8Bytes,
        body.length ≤ config.clientMaxPacketSize.toNat := by
  intro body member
  obtain ⟨text, taken, rfl⟩ := List.mem_map.mp member
  have small := List.all_eq_true.mp List.all_takeWhile text taken
  exact of_decide_eq_true small

/-- No frame within the limit begins a stream whose first header is above it. -/
theorem noFrame_of_refusable {text : String} (refusable : Refusable config text) (tail : Bytes)
    : NoFrame config.clientMaxPacketSize (frame (utf8Bytes text) ++ tail) := by
  intro body rest small same
  rw [frame, frame, List.append_assoc, List.append_assoc] at same
  have headers := (List.append_inj same rfl).1
  have count : body.length = (utf8Bytes text).length % 2 ^ 32 := by
    rw [← lengthHeader_reads small, ← headers, fromLeBytes_lengthHeader]
  rw [Refusable, ← count] at refusable
  omega

/-- If the header of the first text that is too long still says so, the server answers the texts
before it and closes the connection at it.
-/
theorem handle_closes {texts : List String} {stream : List Bytes}
    (flat : stream.flatten = wire (texts.map utf8Bytes))
    (refusable
      : ∀ large,
          texts.find? (fun text => !within config text) = some large → Refusable config large)
    : handle config handleRequest toText handler stream
      = served handleRequest toText handler ((texts.takeWhile (within config)).map utf8Bytes)
        ++ refusedHeader config texts := by
  rcases split_within config texts with ⟨all, none⟩ | ⟨large, later, split, first, -⟩
  · have nothing : NoFrame config.clientMaxPacketSize [] := by
      intro body tail _ same
      have lengths := congrArg List.length same
      simp [frame, lengthHeader] at lengths
      omega
    rw [refusedHeader, none]
    refine handle_served config handleRequest toText ?_ (admitted_takeWhile config texts) nothing
    rw [all, List.append_nil, flat]
  · have stop := noFrame_of_refusable config (refusable large first)
      (wire (later.map utf8Bytes))
    have header
        : refused (frame (utf8Bytes large) ++ wire (later.map utf8Bytes))
          = refusedHeader config texts := by
      rw [refusedHeader, first, refused, frame, if_neg (by simp [lengthHeader])]
      rw [List.append_assoc, List.take_left' (by simp [lengthHeader]), lengthHeader,
        fromLeBytes_toLeBytes]
    rw [← header]
    refine handle_served config handleRequest toText ?_ (admitted_takeWhile config texts) stop
    rw [flat]
    nth_rewrite 1 [split]
    simp [wire, List.map_append, List.flatMap_append]

/-- If the server is handed only the texts before the first that is too long, then the header of
that one is above the limit: otherwise a part of it would be handed over.
-/
theorem refusable_of_handed {texts : List String} {stream : List Bytes}
    (flat : stream.flatten = wire (texts.map utf8Bytes))
    (handed
      : requestTexts (handle config handleRequest toText handler stream)
        = texts.takeWhile (within config))
    (large : String)
    (first : texts.find? (fun text => !within config text) = some large)
    : Refusable config large := by
  by_contra small
  rw [Refusable, not_lt] at small
  rcases split_within config texts with ⟨-, none⟩ | ⟨other, later, split, found, -⟩
  · simp [first] at none
  · obtain rfl := Option.some.inj (first.symm.trans found)
    have cut := List.take_append_drop ((utf8Bytes large).length % 2 ^ 32) (utf8Bytes large)
    have count
        : ((utf8Bytes large).take ((utf8Bytes large).length % 2 ^ 32)).length
          = (utf8Bytes large).length % 2 ^ 32 := by
      rw [List.length_take]
      exact Nat.min_eq_left (Nat.mod_le _ _)
    -- The cut body is a frame of its own, with the same header.
    have begins
        : stream.flatten
          = wire
              ((texts.takeWhile (within config)).map utf8Bytes
                ++ [(utf8Bytes large).take ((utf8Bytes large).length % 2 ^ 32)])
            ++ ((utf8Bytes large).drop ((utf8Bytes large).length % 2 ^ 32)
              ++ wire (later.map utf8Bytes)) := by
      have header
          : lengthHeader ((utf8Bytes large).length % 2 ^ 32)
            = lengthHeader (utf8Bytes large).length := by
        rw [lengthHeader, lengthHeader]
        exact congrArg toLeBytes (UInt32.toNat_inj.mp (by simp))
      have one
          : frame ((utf8Bytes large).take ((utf8Bytes large).length % 2 ^ 32))
              ++ (utf8Bytes large).drop ((utf8Bytes large).length % 2 ^ 32)
            = frame (utf8Bytes large) := by
        rw [frame, count, header, List.append_assoc, cut, frame]
      rw [flat]
      nth_rewrite 1 [split]
      simp only [wire, List.map_append, List.map_cons, List.flatMap_append, List.flatMap_cons,
        List.flatMap_nil, List.append_nil, List.append_assoc, ← one]
    have admitted
        : ∀ body
            ∈ (texts.takeWhile (within config)).map utf8Bytes
              ++ [(utf8Bytes large).take ((utf8Bytes large).length % 2 ^ 32)],
            body.length ≤ config.clientMaxPacketSize.toNat := by
      intro body member
      rcases List.mem_append.mp member with taken | last
      · exact admitted_takeWhile config texts body taken
      · rw [List.mem_singleton.mp last, count]
        exact small
    obtain ⟨rest, -, run⟩ := handle_frames config handleRequest toText begins admitted
    have lengths := congrArg List.length handed
    rw [run, requestTexts_append, requestTexts_served] at lengths
    simp at lengths

end Requests

/-- The framing works in both directions exactly when every response fits the header and the
length of the first request above the limit is still above it modulo the width of the header.
-/
theorem framingRoundTrip_iff (config : Config) (toText : Value → Option String)
    (written : ∀ value text, toText value = some text → text ≠ "")
    (responses : List Value) (requests : List String)
    : FramingRoundTrip config toText responses requests
      ↔ (∀ response ∈ responses, (responseBody toText response).length < 2 ^ 32)
        ∧ ∀ large,
            requests.find? (fun text => !within config text) = some large
            → config.clientMaxPacketSize.toNat < (utf8Bytes large).length % 2 ^ 32 := by
  have bodies
      : responses.map (responseBody toText)
        = (responses.map (responseText toText)).map utf8Bytes := by
    rw [List.map_map]
    rfl
  constructor
  · intro roundTrip
    constructor
    · have received := roundTrip.python [wire (responses.map (responseBody toText))] (by simp)
      have fits := fits_of_receives (by simp [bodies]) received
      intro response member
      exact fits _ (List.mem_map_of_mem member)
    · have handed := roundTrip.handed Unit (fun _ _ => (.null, ())) ()
        [wire (requests.map utf8Bytes)] (by simp [flatMap_send])
      exact refusable_of_handed config toText _ () (by simp) handed
  · rintro ⟨fits, refusable⟩
    have fitting : ∀ text ∈ responses.map (responseText toText), Fits text := by
      intro text member
      obtain ⟨response, present, rfl⟩ := List.mem_map.mp member
      exact fits response present
    have nonempty : ∀ text ∈ responses.map (responseText toText), text ≠ "" := by
      intro text member
      obtain ⟨response, -, rfl⟩ := List.mem_map.mp member
      rw [responseText]
      cases found : toText response with
      | none => decide
      | some text => exact written response text found
    refine ⟨?_, ?_, ?_, ?_⟩
    · intro stream flat fromSlice
      exact receivesInOrder_of_frame
        (fun text member _ _ one => recv_frame fromSlice (fitting text member) one)
        (flat.trans (congrArg wire bodies))
    · intro stream flat
      apply receivesInOrder_of_frame _ (flat.trans (congrArg wire bodies))
      intro text member tail stream one
      obtain ⟨left, received, rest⟩ :=
        recvData_frame (fitting text member) (nonempty text member) one
      exact ⟨left, by rw [received], rest⟩
    · intro σ handleRequest handler stream flat
      rw [flatMap_send] at flat
      rw [handle_closes config toText handleRequest handler flat refusable, requestTexts_append,
        requestTexts_served, requestTexts_refusedHeader, List.append_nil, List.map_map]
      have same : fromUtf8Lossy ∘ utf8Bytes = id := funext fromUtf8Lossy_utf8Bytes
      rw [same, List.map_id]
    · intro σ handleRequest handler stream flat
      rw [flatMap_send] at flat
      exact handle_closes config toText handleRequest handler flat refusable

/-- The compact JSON text of a value, as a writer of values. -/
def writeCompact (value : Value) : Option String := some (compactStrict printUnsigned value)

theorem writeCompact_nonempty (value : Value) (text : String)
    (written : writeCompact value = some text)
    : text ≠ "" := by
  rintro rfl
  obtain ⟨c, tail, head, -⟩ :=
    (treeOf printUnsigned (fun _ => false) [] value).write_head []
  have same := congrArg String.toList (Option.some.inj written)
  rw [compactStrict, compact, String.toList_ofList, head] at same
  exact absurd same (by simp)

/-- A server without a password. -/
def plainConfig : Config := .standard "/srv/sqlite" ""

/-- Requests that are sent one behind the other. -/
def threeRequests : List String :=
  [
    "\x7b\"cmd\":\"QUERY\",\"db\":\"mydb\",\"query\":\"SELECT 'é'\"\x7d",
    "\x7b\"cmd\":\"LIST\"\x7d",
    "\x7b\"cmd\":\"DELETE_DB\",\"db\":\"mydb\"\x7d"
  ]

/-- Responses that are sent one behind the other. -/
def threeResponses : List Value :=
  [
    .ofFields
      [
        ("columns", .array [.string "'é'"]),
        ("data", .array [.object [("'é'", .string "é")]])
      ],
    .object [("list", .array [.string "mydb"])],
    .object [("result", .string "ok")]
  ]

theorem framingRoundTrip_three
    : FramingRoundTrip plainConfig writeCompact threeResponses threeRequests := by
  refine (framingRoundTrip_iff plainConfig writeCompact writeCompact_nonempty threeResponses
    threeRequests).mpr ⟨by decide +kernel, ?_⟩
  have all : threeRequests.find? (fun text => !within plainConfig text) = none := by
    decide +kernel
  intro large found
  rw [all] at found
  contradiction

/-- The JSON text of a string of `n` letters. -/
def letters (n : Nat) : String := String.ofList ('"' :: (List.replicate n 'a' ++ ['"']))

theorem length_letters (n : Nat) : (utf8Bytes (letters n)).length = n + 2 := by
  have letter : 'a'.utf8Size = 1 := by decide
  have quote : '"'.utf8Size = 1 := by decide
  simp [utf8Bytes, letters, List.length_flatMap, letter, quote]
  omega

/-- A request of exactly four gibibytes has a header of zero: it is not refused, and its bytes
are taken for further requests.
-/
theorem framingRoundTrip_large
    : (utf8Bytes (letters 4294967294)).length = 2 ^ 32
      ∧ ¬ FramingRoundTrip plainConfig writeCompact [] [letters 4294967294] := by
  have size := length_letters 4294967294
  refine ⟨size, ?_⟩
  intro roundTrip
  have tooLarge : within plainConfig (letters 4294967294) = false := by
    rw [within, size]
    decide
  have handed := roundTrip.handed Unit (fun _ _ => (.null, ())) ()
    [wire ([letters 4294967294].map utf8Bytes)] (by rw [flatMap_send, List.flatten_singleton])
  have refusable := refusable_of_handed plainConfig writeCompact (fun _ _ => (.null, ())) ()
    (by simp) handed (letters 4294967294) (by simp [tooLarge])
  rw [Refusable, size] at refusable
  exact absurd refusable (by decide)

end SqliteServer
