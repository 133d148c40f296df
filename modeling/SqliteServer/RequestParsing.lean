import SqliteServer.Json.Rendering
import SqliteServer.RepairRefusal

/-! What `parseRequest` makes of texts with unquoted keys: which of them it accepts, and that
it reads them as what they say unless the repair moves the end of a key.
-/

namespace SqliteServer

open Json Regex

-----------------------------------------------------------------------------------------
-- Faithfulness
-----------------------------------------------------------------------------------------

/-- The request text of a tree, with whitespace around it. -/
def requestText (before after : Spaces) (tree : Syntax) : String :=
  String.ofList (before.val ++ tree.write after.val)

/-- If the request text of a tree is accepted, it is read as what the tree denotes. -/
def FaithfulRequest (serde : SerdeJson) (before after : Spaces) (tree : Syntax) : Prop :=
  ∀ value,
    parseRequest serde (requestText before after tree) = .ok value
    → tree.denote serde.readNumber = some value

/-- What the reader accepts of a tree's text is what the tree denotes. -/
theorem SerdeJson.Sound.denote {serde : SerdeJson} (sound : serde.Sound) (before after : Spaces)
    (tree : Syntax) (value : Value)
    (read : serde.fromStr (requestText before after tree) = .ok value)
    : tree.strict = true ∧ tree.denote serde.readNumber = some value := by
  have parsed := sound _ _ read
  rw [requestText, String.toList_ofList] at parsed
  cases strict : tree.strict with
  | true =>
      rw [parse_write serde.readNumber before after tree strict] at parsed
      exact ⟨rfl, parsed⟩
  | false => simp [parse_unquoted serde.readNumber before after tree strict] at parsed

/-- The repair is faithful to every text of the relaxed language unless it moves a key: a plain
JSON text is read at once, and otherwise the repaired text has the same value or none.
-/
theorem parseRequest_faithful (serde : SerdeJson) (sound : serde.Sound) (before after : Spaces)
    (tree : Syntax)
    (unmoved
      : (∃ value, serde.fromStr (requestText before after tree) = .ok value)
        ∨ syntaxFate tree ≠ .moved)
    : FaithfulRequest serde before after tree := by
  intro value accepted
  rw [parseRequest] at accepted
  cases read : serde.fromStr (requestText before after tree) with
  | ok direct =>
      simp only [read, Except.ok.injEq] at accepted
      exact accepted ▸ (sound.denote before after tree direct read).2
  | error message =>
      simp only [read, reduceCtorEq, exists_false, false_or] at accepted unmoved
      have parsed := sound _ _ accepted
      rw [requestText, String.toList_ofList, String.toList_ofList] at parsed
      cases fate : syntaxFate tree with
      | kept => rwa [parse_kept serde.readNumber before after tree fate] at parsed
      | broken => simp [parse_broken serde.readNumber before after tree fate] at parsed
      | moved => exact absurd fate unmoved

-----------------------------------------------------------------------------------------
-- A concrete reader
-----------------------------------------------------------------------------------------

/-- Reads an unsigned integer that fits 64 bits. -/
def readUnsigned (lexeme : Text) : Option Number :=
  let value := lexeme.foldl (fun n c => n * 10 + (c.toNat - '0'.toNat)) 0
  if lexeme.all isDigit && decide (value < 2 ^ 64) then some (.posInt (UInt64.ofNat value))
  else none

/-- The JSON reader whose only numbers are unsigned integers. -/
def unsignedReader : SerdeJson where
  fromStr text :=
    match Json.parse readUnsigned text.toList with
    | some value => .ok value
    | none => .error "invalid JSON"
  readNumber := readUnsigned

theorem unsignedReader_sound : unsignedReader.Sound := by
  intro text value accepted
  simp only [unsignedReader] at accepted ⊢
  split at accepted
  · rename_i parsed
    rw [parsed, Except.ok.inj accepted]
  · contradiction

/-- The tree of `{cmd:"LIST"}`. -/
def listRequest : Syntax :=
  .object
    (.last noSpace (.bare (plainName "cmd" (by decide))) noSpace noSpace
      (.string (literalOf "LIST")) noSpace)

theorem parseRequest_faithful_list
    : unsignedReader.Sound
      ∧ syntaxFate listRequest ≠ .moved
      ∧ parseRequest unsignedReader (requestText noSpace noSpace listRequest)
        = .ok (.object [("cmd", .string "LIST")])
      ∧ FaithfulRequest unsignedReader noSpace noSpace listRequest :=
  ⟨
    unsignedReader_sound,
    by decide,
    by decide +kernel,
    parseRequest_faithful unsignedReader unsignedReader_sound noSpace noSpace listRequest
      (Or.inr (by decide))
  ⟩

/-- The tree of `{x:1,"a\nb":2}`, whose second key contains a newline. -/
def newlineKey : Syntax :=
  .object
    (.more noSpace (.bare (plainName "x" (by decide))) noSpace noSpace
      (.number ⟨['1'], by decide⟩) noSpace
      (.last noSpace (.quoted (literalOf "a\nb")) noSpace noSpace
        (.number ⟨['2'], by decide⟩) noSpace))

/-- The newline's escape is taken for the start of a name: the request is accepted with the key
`a"b` in place of `a`, newline, `b`.
-/
theorem parseRequest_renames_key
    : parseRequest unsignedReader (requestText noSpace noSpace newlineKey)
        = .ok (.object [("a\"nb", .number (.posInt 2)), ("x", .number (.posInt 1))])
      ∧ newlineKey.denote unsignedReader.readNumber
        = some (.object [("a\nb", .number (.posInt 2)), ("x", .number (.posInt 1))])
      ∧ ¬ FaithfulRequest unsignedReader noSpace noSpace newlineKey := by
  have accepted
      : parseRequest unsignedReader (requestText noSpace noSpace newlineKey)
        = .ok (.object [("a\"nb", .number (.posInt 2)), ("x", .number (.posInt 1))]) := by
    decide +kernel
  have meant
      : newlineKey.denote unsignedReader.readNumber
        = some (.object [("a\nb", .number (.posInt 2)), ("x", .number (.posInt 1))]) := by
    decide +kernel
  refine ⟨accepted, meant, ?_⟩
  intro faithful
  have same := faithful _ accepted
  rw [meant] at same
  exact absurd same (by decide +kernel)

end SqliteServer
