import SqliteServer.Config
import SqliteServer.Wire.Frames

/-! One connection: framed requests are read, handed to the request handler and answered with
one framed response each, until the stream ends or a packet is too large.
-/

namespace SqliteServer

open Json Wire

/-- What a connection does that can be observed: the length of a packet is read, its request is
handed over, its response is written.
-/
inductive Event where
  | header (packetSize : UInt32)
  | request (text : String)
  | response (bytes : Bytes)
deriving DecidableEq

section Handle

variable {σ : Type} (config : Config) (handleRequest : String → σ → Value × σ)
  (toText : Value → Option String)

/-- The text of a response; one that cannot be written becomes an empty object. -/
def responseText (response : Value) : String := (toText response).getD "\x7b\x7d"

def responseBody (response : Value) : Bytes := utf8Bytes (responseText toText response)

/-- The loop over the requests of a connection. -/
def handle (handler : σ) (input : List Bytes) : List Event :=
  match _header : readExact 4 input with
  | none => []
  | some (bytes, afterHeader) =>
      let packetSize := fromLeBytes bytes
      if packetSize > config.clientMaxPacketSize then [.header packetSize]
      else
        match _body : readExact packetSize.toNat afterHeader with
        | none => [.header packetSize]
        | some (buf, afterBody) =>
            let request := fromUtf8Lossy buf
            let handled := handleRequest request handler
            .header packetSize
              :: .request request
              :: .response (frame (responseBody toText handled.1))
              :: handle handled.2 afterBody
termination_by input.flatten.length
decreasing_by
  have first := readExact_split _header
  have second := readExact_split _body
  simp only [first.2, second.2, List.length_append]
  omega

/-- The events of whole requests: each is read, handed over and answered before the next. -/
def served (handler : σ) : List Bytes → List Event
  | [] => []
  | body :: bodies =>
      let handled := handleRequest (fromUtf8Lossy body) handler
      .header (UInt32.ofNat body.length)
        :: .request (fromUtf8Lossy body)
        :: .response (frame (responseBody toText handled.1))
        :: served handled.2 bodies

/-- The last event at a packet that is too large or incomplete: its length, if it is there. -/
def refused (rest : Bytes) : List Event :=
  if rest.length < 4 then [] else [.header (fromLeBytes (rest.take 4))]

/-- A whole request is answered, and the loop goes on after it. -/
theorem handle_frame {handler : σ} {input : List Bytes} {body tail : Bytes}
    (within : body.length ≤ config.clientMaxPacketSize.toNat)
    (stream : input.flatten = frame body ++ tail)
    : ∃ later,
        later.flatten = tail
        ∧ handle config handleRequest toText handler input
          = .header (UInt32.ofNat body.length)
            :: .request (fromUtf8Lossy body)
            :: .response
                (frame (responseBody toText (handleRequest (fromUtf8Lossy body) handler).1))
            :: handle config handleRequest toText
                (handleRequest (fromUtf8Lossy body) handler).2 later := by
  rw [frame, List.append_assoc] at stream
  obtain ⟨afterHeader, header, flat⟩ := readExact_append stream
  obtain ⟨later, read, rest⟩ := readExact_append flat
  have size := lengthHeader_reads within
  have allowed : ¬ fromLeBytes (lengthHeader body.length) > config.clientMaxPacketSize := by
    rw [gt_iff_lt, UInt32.lt_iff_toNat_lt, size]
    omega
  rw [← size] at read
  refine ⟨later, rest, ?_⟩
  rw [handle]
  split
  · rename_i missing
    exact absurd (missing.symm.trans header) (by simp)
  · rename_i bytes following first
    obtain ⟨rfl, rfl⟩ := Prod.mk.inj (Option.some.inj (first.symm.trans header))
    rw [if_neg allowed]
    split
    · rename_i missing
      exact absurd (missing.symm.trans read) (by simp)
    · rename_i buf others second
      obtain ⟨rfl, rfl⟩ := Prod.mk.inj (Option.some.inj (second.symm.trans read))
      rw [lengthHeader, fromLeBytes_toLeBytes]

/-- At anything but a whole request within the limit the loop stops. -/
theorem handle_noFrame {handler : σ} {input : List Bytes}
    (stop : NoFrame config.clientMaxPacketSize input.flatten)
    : handle config handleRequest toText handler input = refused input.flatten := by
  rw [handle]
  split
  · rename_i missing
    have short : input.flatten.length < 4 := by
      by_contra enough
      have count : (input.flatten.take 4).length = 4 := by
        rw [List.length_take]
        omega
      obtain ⟨left, read, -⟩ := readExact_append (List.take_append_drop 4 input.flatten).symm
      rw [count, missing] at read
      contradiction
    rw [refused, if_pos short]
  · rename_i bytes following first
    obtain ⟨four, stream⟩ := readExact_split first
    have header : refused input.flatten = [.header (fromLeBytes bytes)] := by
      have enough : ¬ input.flatten.length < 4 := by
        rw [stream, List.length_append]
        omega
      rw [refused, if_neg enough, stream, ← four, List.take_left]
    dsimp only
    split
    · exact header.symm
    · rename_i allowed
      split
      · exact header.symm
      · rename_i body later second
        -- A whole body within the limit would be a frame.
        obtain ⟨count, flat⟩ := readExact_split second
        have within : body.length ≤ config.clientMaxPacketSize.toNat := by
          rw [count]
          exact UInt32.le_iff_toNat_le.mp (UInt32.not_lt.mp allowed)
        have begins : frame body = bytes ++ body := by
          rw [frame, lengthHeader, count, UInt32.ofNat_toNat, toLeBytes_fromLeBytes four]
        exact absurd (by rw [stream, flat, begins, List.append_assoc])
          (stop body later.flatten within)

/-- The handler after the given requests. -/
def handlerAfter (handler : σ) : List Bytes → σ
  | [] => handler
  | body :: bodies => handlerAfter (handleRequest (fromUtf8Lossy body) handler).2 bodies

/-- Whole requests at the start of a stream are served, by induction on them. -/
theorem handle_frames {handler : σ} {input : List Bytes} {bodies : List Bytes} {rest : Bytes}
    (stream : input.flatten = wire bodies ++ rest)
    (admitted : ∀ body ∈ bodies, body.length ≤ config.clientMaxPacketSize.toNat)
    : ∃ later,
        later.flatten = rest
        ∧ handle config handleRequest toText handler input
          = served handleRequest toText handler bodies
            ++ handle config handleRequest toText (handlerAfter handleRequest handler bodies)
                later := by
  induction bodies generalizing handler input with
  | nil => exact ⟨input, stream, rfl⟩
  | cons body others ih =>
      rw [wire, List.flatMap_cons, List.append_assoc] at stream
      obtain ⟨following, flat, step⟩ :=
        handle_frame config handleRequest toText (admitted body (by simp)) stream
      obtain ⟨later, rest, run⟩ :=
        ih flat (fun b member => admitted b (List.mem_cons_of_mem _ member))
      exact ⟨later, rest, by rw [step, run]; rfl⟩

/-- On a stream of whole requests followed by anything else, the loop serves the requests and
stops.
-/
theorem handle_served {handler : σ} {input : List Bytes} {bodies : List Bytes} {rest : Bytes}
    (stream : input.flatten = wire bodies ++ rest)
    (admitted : ∀ body ∈ bodies, body.length ≤ config.clientMaxPacketSize.toNat)
    (stop : NoFrame config.clientMaxPacketSize rest)
    : handle config handleRequest toText handler input
      = served handleRequest toText handler bodies ++ refused rest := by
  obtain ⟨later, flat, run⟩ := handle_frames config handleRequest toText stream admitted
  rw [run, handle_noFrame config handleRequest toText (flat ▸ stop), flat]

/-- The loop serves exactly the complete frames within the limit at the start of the stream, in
order, and stops at what follows them, however the stream is cut into pieces.
-/
theorem handle_refines (handler : σ) (input : List Bytes)
    : ∃ bodies rest,
        LongestSplit config.clientMaxPacketSize input.flatten bodies rest
        ∧ handle config handleRequest toText handler input
          = served handleRequest toText handler bodies ++ refused rest := by
  obtain ⟨bodies, rest, stream, admitted, stop⟩ :=
    exists_frames config.clientMaxPacketSize input.flatten
  refine ⟨bodies, rest, ?_, ?_⟩
  · rw [stream]
    exact LongestSplit.of_noFrame admitted stop
  · exact handle_served config handleRequest toText stream admitted stop

/-- The events of requests that are sent as texts: each text is handed over as it is. -/
def servedTexts (handler : σ) : List String → List Event
  | [] => []
  | text :: texts =>
      let handled := handleRequest text handler
      .header (UInt32.ofNat (utf8Bytes text).length)
        :: .request text
        :: .response (frame (responseBody toText handled.1))
        :: servedTexts handled.2 texts

/-- Payloads that are UTF-8 are served as the texts they encode, by induction on them. -/
theorem served_utf8Bytes (handler : σ) (texts : List String)
    : served handleRequest toText handler (texts.map utf8Bytes)
      = servedTexts handleRequest toText handler texts := by
  induction texts generalizing handler with
  | nil => rfl
  | cons text texts ih =>
      simp only [List.map_cons, served, servedTexts, fromUtf8Lossy_utf8Bytes, ih]

/-- On a stream of frames whose payloads are texts in UTF-8, these very texts are handed over. -/
theorem handle_texts {handler : σ} {input : List Bytes} {texts : List String} {rest : Bytes}
    (stream : input.flatten = wire (texts.map utf8Bytes) ++ rest)
    (admitted : ∀ text ∈ texts, (utf8Bytes text).length ≤ config.clientMaxPacketSize.toNat)
    (stop : NoFrame config.clientMaxPacketSize rest)
    : handle config handleRequest toText handler input
      = servedTexts handleRequest toText handler texts ++ refused rest := by
  rw [← served_utf8Bytes]
  refine handle_served config handleRequest toText stream ?_ stop
  intro body member
  obtain ⟨text, inTexts, rfl⟩ := List.mem_map.mp member
  exact admitted text inTexts

end Handle

end SqliteServer
