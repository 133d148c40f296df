import SqliteServer.RequestParsing

/-! Which compact renderings with bare keys `parseRequest` accepts: those in which no string
value contains a match of the repair pattern.
-/

namespace SqliteServer

open Json Regex

-----------------------------------------------------------------------------------------
-- Matches inside a string
-----------------------------------------------------------------------------------------

/-- A text has no first match iff no suffix begins with one, by induction on the text. -/
theorem firstMatch?_eq_none {text : Text}
    : firstMatch? text = none ↔ ∀ tail, tail <:+ text → keyMatch? tail = none := by
  induction text with
  | nil => simp [firstMatch?, keyMatch?, dropQuote]
  | cons c others ih =>
      cases here : keyMatch? (c :: others) with
      | some found =>
          simp only [firstMatch?, here, reduceCtorEq, false_iff, not_forall]
          exact ⟨c :: others, List.suffix_refl _, by simp [here]⟩
      | none =>
          simp only [firstMatch?, here, Option.map_eq_none_iff, ih]
          constructor
          · intro later tail suffix
            rcases List.suffix_cons_iff.mp suffix with rfl | inner
            · exact here
            · exact later tail inner
          · intro all tail inner
            exact all tail (inner.trans (List.suffix_cons c others))

/-- The pattern matches somewhere iff there is a first match, by induction on the text. -/
theorem isMatch_eq_false {text : Text}
    : keyRepairRegex.isMatch text = false ↔ firstMatch? text = none := by
  induction text with
  | nil =>
      have none : keyRepairRegex.matchAt [] = none := matchAt_of_keyMatch_none rfl
      simp [Pattern.isMatch, none, firstMatch?]
  | cons c others ih =>
      cases here : keyMatch? (c :: others) with
      | some found =>
          obtain ⟨match', at', -⟩ := matchAt_of_keyMatch here
          simp [Pattern.isMatch, at', firstMatch?, here]
      | none =>
          simp [Pattern.isMatch, matchAt_of_keyMatch_none here, firstMatch?, here, ih]

/-- A match does not end with a quote, so a final quote can be taken away. -/
theorem keyMatch?_unquote {text : Text} (unmatched : keyMatch? text = none)
    : keyMatch? (text ++ ['"']) = none := by
  cases matched : keyMatch? (text ++ ['"']) with
  | none => rfl
  | some found =>
      obtain ⟨key, rest⟩ := found
      obtain ⟨before, after, opening, closing, nonempty, chars, shape⟩ := keyMatch?_iff.mp matched
      rcases List.eq_nil_or_concat rest with rfl | ⟨rest', c, rfl⟩
      · have last := congrArg List.getLast? shape
        rw [← List.append_assoc, ← List.append_assoc, List.getLast?_concat,
          List.getLast?_concat] at last
        exact absurd (Option.some.inj last) (by decide)
      · rw [List.concat_eq_append] at shape
        have regrouped
            : text ++ ['"'] = (before ++ (key ++ (after ++ ':' :: rest'))) ++ [c] := by
          rw [shape]
          simp [List.append_assoc]
        have same : text = before ++ (key ++ (after ++ ':' :: rest')) :=
          (List.append_inj' regrouped rfl).1
        have inner : keyMatch? text = some (key, rest') :=
          keyMatch?_iff.mpr ⟨before, after, opening, closing, nonempty, chars, same⟩
        simp [unmatched] at inner

/-- An opening quote is part of a match only if the text after it begins with one. -/
theorem keyMatch?_open {text : Text} (unmatched : keyMatch? text = none)
    : keyMatch? ('"' :: text) = none := by
  cases matched : keyMatch? ('"' :: text) with
  | none => rfl
  | some found =>
      obtain ⟨key, rest⟩ := found
      obtain ⟨before, after, opening, closing, nonempty, chars, shape⟩ := keyMatch?_iff.mp matched
      rcases opening with rfl | ⟨c, -, rfl⟩
      · obtain ⟨d, others, rfl⟩ := List.exists_cons_of_ne_nil nonempty
        obtain ⟨rfl, -⟩ := List.cons.inj shape
        have quote : isKeyChar '"' = true := List.all_eq_true.mp chars '"' (by simp)
        exact absurd quote (by decide)
      · have inner : keyMatch? text = some (key, rest) :=
          keyMatch?_iff.mpr
            ⟨[], after, Or.inl rfl, closing, nonempty, chars, (List.cons.inj shape).2⟩
        simp [unmatched] at inner

/-- The quotes around a string value take part in no match of their own. -/
theorem firstMatch?_enclosed {raw : Text}
    : firstMatch? ('"' :: (raw ++ ['"'])) = none ↔ firstMatch? raw = none := by
  constructor
  · intro unmatched
    rw [firstMatch?_eq_none] at unmatched ⊢
    intro tail suffix
    obtain ⟨front, rfl⟩ := suffix
    cases matched : keyMatch? tail with
    | none => rfl
    | some found =>
        have extended := keyMatch?_append matched ['"']
        rw [unmatched (tail ++ ['"']) ⟨'"' :: front, by simp⟩] at extended
        contradiction
  · intro unmatched
    rw [firstMatch?_eq_none] at unmatched ⊢
    have closed (tail : Text) (suffix : tail <:+ raw ++ ['"']) : keyMatch? tail = none := by
      rcases List.eq_nil_or_concat tail with rfl | ⟨front, c, rfl⟩
      · rfl
      · rw [List.concat_eq_append] at suffix ⊢
        obtain ⟨before, split⟩ := suffix
        rw [← List.append_assoc] at split
        obtain ⟨same, last⟩ := List.append_inj' split rfl
        rw [last]
        exact keyMatch?_unquote (unmatched front ⟨before, same⟩)
    intro tail suffix
    rcases List.suffix_cons_iff.mp suffix with rfl | inner
    · exact keyMatch?_open (closed _ (List.suffix_refl _))
    · exact closed tail inner

-----------------------------------------------------------------------------------------
-- The fate of a rendering
-----------------------------------------------------------------------------------------

mutual
/-- Every key, at every depth, is a nonempty run of letters and digits. -/
def plainKeys : Value → Bool
  | .array items => plainItems items
  | .object fields => plainFields fields
  | _ => true

def plainItems : List Value → Bool
  | [] => true
  | value :: values => plainKeys value && plainItems values

def plainFields : List (String × Value) → Bool
  | [] => true
  | (key, value) :: fields => isPlainKey key && plainKeys value && plainFields fields
end

mutual
/-- In no string value, as it is escaped in a text, does the repair pattern match. -/
def clearStrings : Value → Bool
  | .string s => !keyRepairRegex.isMatch (escapeText s.toList)
  | .array items => clearItems items
  | .object fields => clearFields fields
  | _ => true

def clearItems : List Value → Bool
  | [] => true
  | value :: values => clearStrings value && clearItems values

def clearFields : List (String × Value) → Bool
  | [] => true
  | (_, value) :: fields => clearStrings value && clearFields fields
end

/-- The fate of a text that is repaired only if `clear`. -/
def fateOf (clear : Bool) : Fate := if clear then .kept else .broken

theorem fateOf_and (first second : Bool)
    : fateOf (first && second) = (fateOf first).andThen (fateOf second) := by
  cases first <;> rfl

/-- Letters and digits need no escape, by induction on the name. -/
theorem escapeText_keyChars {name : Text} (chars : name.all isKeyChar = true)
    : escapeText name = name := by
  induction name with
  | nil => rfl
  | cons c rest ih =>
      simp only [List.all_cons, Bool.and_eq_true] at chars
      obtain ⟨quote, slash, printable⟩ := isKeyChar_printable chars.1
      have control (code : Char) (low : code < ' ') : c ≠ code := fun same =>
        printable (same ▸ low)
      have itself : escapeChar c = [c] := by
        simp [escapeChar, quote, slash, printable, control '\x08' (by decide),
          control '\t' (by decide), control '\n' (by decide), control '\x0c' (by decide),
          control '\r' (by decide)]
      rw [escapeText] at ih
      rw [escapeText, List.flatMap_cons, itself, ih chars.2, List.singleton_append]

/-- A plain key in double quotes is matched as a whole, and kept. -/
theorem keyFate_keyOf {key : String} (plain : isPlainKey key = true) (bare : Bool)
    : keyFate (keyOf bare key) noSpace = .kept := by
  obtain ⟨nonempty, chars⟩ := isPlainKey_iff.mp plain
  cases bare with
  | true => simp [keyOf, plain, keyFate, noSpace]
  | false =>
      have matched : keyMatch? (keyText (literalOf key) true) = some (key.toList, []) :=
        keyMatch?_iff.mpr
          ⟨['"'], ['"'], Or.inr ⟨'"', by decide, rfl⟩, Or.inr ⟨'"', by decide, rfl⟩,
            nonempty, chars, by simp [keyText, literalOf, escapeText_keyChars chars]⟩
      have first
          : firstMatch? (keyText (literalOf key) true) = some ([], key.toList, []) := by
        rw [keyText, firstMatch?, ← keyText, matched]
      have whole
          : '"' :: (key.toList ++ ['"', ':']) = keyText (literalOf key) true := by
        simp [keyText, literalOf, escapeText_keyChars chars]
      simp [keyOf, plain, keyFate, noSpace, literalKeyFate, first, whole]

section Rendering

variable (printNumber : Number → NumberLit) (bare : List Nat → Bool)

mutual
/-- A rendering with plain keys is repaired iff its strings are clear, by induction on the
value.
-/
theorem syntaxFate_treeOf (position : List Nat) (value : Value)
    (plain : plainKeys value = true)
    : syntaxFate (treeOf printNumber bare position value) = fateOf (clearStrings value) := by
  cases value with
  | null | bool | number => rfl
  | string s =>
      have enclosed
          : firstMatch? (keyText (literalOf s) false) = none
            ↔ keyRepairRegex.isMatch (escapeText s.toList) = false := by
        rw [isMatch_eq_false]
        exact firstMatch?_enclosed
      simp [treeOf, syntaxFate, valueFate, clearStrings, fateOf, enclosed]
  | array items =>
      have all := elementsFate_elementsOf position 0 items (by simpa [plainKeys] using plain)
      cases parts : elementsOf printNumber bare position 0 items with
      | none => simpa [treeOf, parts, syntaxFate, clearStrings] using all
      | some elements => simpa [treeOf, parts, syntaxFate, clearStrings] using all
  | object fields =>
      have all := membersFate_membersOf position 0 fields (by simpa [plainKeys] using plain)
      cases parts : membersOf printNumber bare position 0 fields with
      | none => simpa [treeOf, parts, syntaxFate, clearStrings] using all
      | some members => simpa [treeOf, parts, syntaxFate, clearStrings] using all

theorem elementsFate_elementsOf (position : List Nat) (index : Nat) (items : List Value)
    (plain : plainItems items = true)
    : (elementsOf printNumber bare position index items).elim .kept elementsFate
      = fateOf (clearItems items) := by
  cases items with
  | nil => rfl
  | cons value values =>
      simp only [plainItems, Bool.and_eq_true] at plain
      have here := syntaxFate_treeOf (index :: position) value plain.1
      have later := elementsFate_elementsOf position (index + 1) values plain.2
      rw [clearItems, fateOf_and, ← here, ← later, elementsOf]
      cases elementsOf printNumber bare position (index + 1) values with
      | none =>
          simp only [Option.elim, elementsFate]
          cases syntaxFate (treeOf printNumber bare (index :: position) value) <;> rfl
      | some others => rfl

theorem membersFate_membersOf (position : List Nat) (index : Nat)
    (fields : List (String × Value)) (plain : plainFields fields = true)
    : (membersOf printNumber bare position index fields).elim .kept membersFate
      = fateOf (clearFields fields) := by
  cases fields with
  | nil => rfl
  | cons field others =>
      obtain ⟨key, value⟩ := field
      simp only [plainFields, Bool.and_eq_true] at plain
      have name := keyFate_keyOf plain.1.1 (bare (index :: position))
      have here := syntaxFate_treeOf (index :: position) value plain.1.2
      have later := membersFate_membersOf position (index + 1) others plain.2
      rw [clearFields, fateOf_and, ← here, ← later, membersOf]
      cases membersOf printNumber bare position (index + 1) others with
      | none =>
          simp only [Option.elim, membersFate, name]
          cases syntaxFate (treeOf printNumber bare (index :: position) value) <;> rfl
      | some rest => simp [membersFate, name, Fate.andThen]
end

/-- Quoting the bare keys of a rendering gives the plain JSON rendering. -/
theorem quoteKey_keyOf (quoted : Bool) (key : String)
    : quoteKey (keyOf quoted key) = keyOf false key := by
  by_cases plain : isPlainKey key = true
  · have chars := (isPlainKey_iff.mp plain).2
    cases quoted with
    | false => simp [keyOf, plain, quoteKey]
    | true =>
        simp [keyOf, plain, quoteKey, plainName, KeyName.literal, literalOf,
          escapeText_keyChars chars]
  · simp [keyOf, plain, quoteKey]

mutual
theorem quoteSyntax_treeOf (position : List Nat) (value : Value)
    : quoteSyntax (treeOf printNumber bare position value)
      = treeOf printNumber (fun _ => false) position value := by
  cases value with
  | null | bool | number | string => rfl
  | array items =>
      have all := quoteElements_elementsOf position 0 items
      cases parts : elementsOf printNumber bare position 0 items with
      | none => simp [treeOf, parts, quoteSyntax, ← all]
      | some elements => simp [treeOf, parts, quoteSyntax, ← all]
  | object fields =>
      have all := quoteMembers_membersOf position 0 fields
      cases parts : membersOf printNumber bare position 0 fields with
      | none => simp [treeOf, parts, quoteSyntax, ← all]
      | some members => simp [treeOf, parts, quoteSyntax, ← all]

theorem quoteElements_elementsOf (position : List Nat) (index : Nat) (items : List Value)
    : (elementsOf printNumber bare position index items).map quoteElements
      = elementsOf printNumber (fun _ => false) position index items := by
  cases items with
  | nil => rfl
  | cons value values =>
      have here := quoteSyntax_treeOf (index :: position) value
      have later := quoteElements_elementsOf position (index + 1) values
      rw [elementsOf, elementsOf, ← later, ← here]
      cases elementsOf printNumber bare position (index + 1) values <;> rfl

theorem quoteMembers_membersOf (position : List Nat) (index : Nat)
    (fields : List (String × Value))
    : (membersOf printNumber bare position index fields).map quoteMembers
      = membersOf printNumber (fun _ => false) position index fields := by
  cases fields with
  | nil => rfl
  | cons field others =>
      obtain ⟨key, value⟩ := field
      have name := quoteKey_keyOf (bare (index :: position)) key
      have here := quoteSyntax_treeOf (index :: position) value
      have later := quoteMembers_membersOf position (index + 1) others
      rw [membersOf, membersOf, ← later, ← here, ← name]
      cases membersOf printNumber bare position (index + 1) others <;> rfl
end

end Rendering

mutual
/-- Plain JSON has no key to quote, by induction on the tree. -/
theorem quoteSyntax_of_strict (tree : Syntax) (strict : tree.strict = true)
    : quoteSyntax tree = tree := by
  cases tree with
  | array elements =>
      rw [quoteSyntax, quoteElements_of_strict elements (by simpa [Syntax.strict] using strict)]
  | object members =>
      rw [quoteSyntax, quoteMembers_of_strict members (by simpa [Syntax.strict] using strict)]
  | null | bool | number | string | emptyArray | emptyObject => rfl

theorem quoteElements_of_strict (elements : Elements) (strict : elements.strict = true)
    : quoteElements elements = elements := by
  cases elements with
  | last before value after =>
      rw [quoteElements, quoteSyntax_of_strict value (by simpa [Elements.strict] using strict)]
  | more before value after others =>
      simp only [Elements.strict, Bool.and_eq_true] at strict
      rw [quoteElements, quoteSyntax_of_strict value strict.1,
        quoteElements_of_strict others strict.2]

theorem quoteMembers_of_strict (members : Members) (strict : members.strict = true)
    : quoteMembers members = members := by
  cases members with
  | last before key gap lead value after =>
      simp only [Members.strict, Bool.and_eq_true] at strict
      obtain ⟨lit, rfl⟩ := Key.eq_quoted strict.1
      rw [quoteMembers, quoteSyntax_of_strict value strict.2, quoteKey]
  | more before key gap lead value after others =>
      simp only [Members.strict, Bool.and_eq_true] at strict
      obtain ⟨lit, rfl⟩ := Key.eq_quoted strict.1.1
      rw [quoteMembers, quoteSyntax_of_strict value strict.1.2,
        quoteMembers_of_strict others strict.2, quoteKey]
end

-----------------------------------------------------------------------------------------
-- Acceptance
-----------------------------------------------------------------------------------------

/-- A compact rendering is accepted iff no key was written bare or no string value contains a
match: the repair then yields exactly the plain JSON rendering, and otherwise breaks a string.
-/
theorem parseRequest_accepts_iff (serde : SerdeJson) (sound : serde.Sound)
    (printNumber : Number → NumberLit) (bare : List Nat → Bool)
    (fields : List (String × Value)) (plain : plainKeys (.object fields) = true)
    (accepts : ∃ value, serde.fromStr (compactStrict printNumber (.object fields)) = .ok value)
    : (∃ value, parseRequest serde (compact printNumber bare (.object fields)) = .ok value)
      ↔ (treeOf printNumber bare [] (.object fields)).strict = true
        ∨ clearStrings (.object fields) = true := by
  obtain ⟨read, accepted⟩ := accepts
  have quoted := quoteSyntax_treeOf printNumber bare [] (.object fields)
  have fate := syntaxFate_treeOf printNumber bare [] (.object fields) plain
  cases strict : (treeOf printNumber bare [] (.object fields)).strict with
  | true =>
      rw [quoteSyntax_of_strict _ strict] at quoted
      have same : compact printNumber bare (.object fields)
          = compactStrict printNumber (.object fields) := by
        rw [compactStrict, compact, compact, quoted]
      simp [parseRequest, same, accepted]
  | false =>
      have refused
          : ∀ value, serde.fromStr (compact printNumber bare (.object fields)) ≠ .ok value := by
        intro value direct
        have plainJson := (sound.denote noSpace noSpace _ value direct).1
        simp [strict] at plainJson
      have repaired
          : parseRequest serde (compact printNumber bare (.object fields))
            = serde.fromStr
                (String.ofList
                  (repairKeys ((treeOf printNumber bare [] (.object fields)).write []))) := by
        rw [parseRequest]
        cases direct : serde.fromStr (compact printNumber bare (.object fields)) with
        | ok value => exact absurd direct (refused value)
        | error message => simp [compact]
      rw [repaired]
      cases clear : clearStrings (.object fields) with
      | true =>
          rw [clear] at fate
          rw [repairKeys_tree _ fate delimited_nil, quoted]
          simpa using ⟨read, accepted⟩
      | false =>
          rw [clear] at fate
          simp only [Bool.false_eq_true, or_false, iff_false, not_exists]
          intro value taken
          have parsed := sound _ _ taken
          have broken := parse_broken serde.readNumber noSpace noSpace
            (treeOf printNumber bare [] (.object fields)) fate
          rw [String.toList_ofList] at parsed
          exact absurd (parsed.symm.trans broken) (by simp)

/-- Prints unsigned integers in decimal, and zero for the numbers `unsignedReader` lacks. -/
def printUnsigned : Number → NumberLit
  | .posInt n =>
      if digits : isNumber (toString n.toNat).toList = true then ⟨_, digits⟩
      else ⟨['0'], by decide⟩
  | _ => ⟨['0'], by decide⟩

/-- A rendering with a bare key of the request to list the databases is accepted. -/
theorem parseRequest_accepts_list
    : (∃ value,
        parseRequest unsignedReader
            (compact printUnsigned (fun _ => true) (.object [("cmd", .string "LIST")]))
          = .ok value)
      ↔ (treeOf printUnsigned (fun _ => true) []
            (.object [("cmd", .string "LIST")])).strict = true
        ∨ clearStrings (.object [("cmd", .string "LIST")]) = true :=
  parseRequest_accepts_iff unsignedReader unsignedReader_sound printUnsigned (fun _ => true)
    [("cmd", .string "LIST")] (by decide)
    ⟨.object [("cmd", .string "LIST")], by decide +kernel⟩

/-- A query with a time format: its text contains a letter before a colon. -/
def clockRequest : List (String × Value) :=
  [
    ("cmd", .string "QUERY"),
    ("db", .string "test"),
    ("query", .string "SELECT strftime('%H:%M')")
  ]

/-- With its keys bare, the query is refused although its plain JSON is accepted. -/
theorem parseRequest_refuses_clock
    : plainKeys (.object clockRequest) = true
      ∧ unsignedReader.fromStr (compactStrict printUnsigned (.object clockRequest))
        = .ok (.object clockRequest)
      ∧ ∀ value,
          parseRequest unsignedReader (compact printUnsigned (fun _ => true) (.object clockRequest))
            ≠ .ok value := by
  have refused
      : parseRequest unsignedReader (compact printUnsigned (fun _ => true) (.object clockRequest))
        = .error "invalid JSON" := by
    decide +kernel
  refine ⟨by decide +kernel, by decide +kernel, ?_⟩
  intro value accepted
  exact absurd (refused.symm.trans accepted) (by simp)

end SqliteServer
