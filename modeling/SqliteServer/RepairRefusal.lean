import SqliteServer.RepairFate

/-! Texts the strict parser refuses: unquoted keys left as they are, and repaired texts whose
first stray match breaks a string.
-/

namespace SqliteServer

open Json Regex

variable (readNumber : Text → Option Number)

/-- No value is read, or one that is followed by a character no value can be followed by. -/
def Stuck (result : Option (Value × Text)) : Prop :=
  ∀ value rest,
    result = some (value, rest)
    → ∃ c tail, rest = c :: tail ∧ (isKeyChar c = true ∨ c = ':')

theorem Stuck.none : Stuck none := by
  intro value rest result
  contradiction

/-- A name or a colon after a value is neither whitespace nor a separator nor a closer. -/
theorem stuck_solid {c : Char} (stuck : isKeyChar c = true ∨ c = ':')
    : isSpace c = false ∧ c ≠ ',' ∧ c ≠ ']' ∧ c ≠ '}' := by
  rcases stuck with key | rfl
  · refine ⟨?_, ?_, ?_, ?_⟩
    · by_contra space
      simp only [Bool.not_eq_false, isSpace, Bool.or_eq_true, decide_eq_true_eq] at space
      rcases space with ((rfl | rfl) | rfl) | rfl <;> exact absurd key (by decide)
    all_goals
      rintro rfl
      exact absurd key (by decide)
  · decide

theorem skipSpaces_solid {c : Char} (solid : isSpace c = false) (rest : Text)
    : skipSpaces (c :: rest) = c :: rest :=
  skipSpaces_append ⟨[], rfl⟩ solid rest

/-- A stuck element refuses its array. -/
theorem parseElements_stuck {fuel : Nat} {text : Text}
    (stuck : Stuck (parseValue readNumber fuel text)) (done : List Value)
    : parseElements readNumber (fuel + 1) done text = none := by
  rw [parseElements]
  cases read : parseValue readNumber fuel text with
  | none => rfl
  | some result =>
      obtain ⟨value, rest⟩ := result
      obtain ⟨c, tail, rfl, follows⟩ := stuck value rest read
      obtain ⟨solid, comma, bracket, -⟩ := stuck_solid follows
      simp [skipSpaces_solid solid, comma, bracket]

/-- A stuck member value refuses its object. -/
theorem parseMembers_stuck {fuel : Nat} (lit : StringLit) (gap : Spaces) {lead body : Text}
    (skipped : skipSpaces (lead ++ body) = body)
    (stuck : Stuck (parseValue readNumber fuel body)) (done : List (String × Value))
    : parseMembers readNumber (fuel + 1) done (lit.write (gap.val ++ ':' :: (lead ++ body)))
      = none := by
  rw [parseMembers_key _ _ _ _ _ skipped]
  cases lit.denote with
  | none => rfl
  | some key =>
      cases read : parseValue readNumber fuel body with
      | none => rfl
      | some result =>
          obtain ⟨value, rest⟩ := result
          obtain ⟨c, tail, rfl, follows⟩ := stuck value rest read
          obtain ⟨solid, comma, -, brace⟩ := stuck_solid follows
          simp [skipSpaces_solid solid, comma, brace]

/-- A key that is followed by a letter or a digit refuses its object. -/
theorem parseMembers_stuckKey (fuel : Nat) {text raw tail : Text} {c : Char}
    (split : lexString text = some (raw, c :: tail)) (key : isKeyChar c = true)
    (done : List (String × Value))
    : parseMembers readNumber fuel done ('"' :: text) = none := by
  cases fuel with
  | zero => rfl
  | succ fuel =>
      have colon := (isKeyChar_plain key).2
      have solid := (stuck_solid (Or.inl key)).1
      simp only [parseMembers, parseString, split]
      cases content : unescape raw with
      | none => simp [content]
      | some chars => simp [content, skipSpaces_solid solid, colon]

-----------------------------------------------------------------------------------------
-- Broken literals
-----------------------------------------------------------------------------------------

/-- The inserted quote after an open escape continues the content, by the recursion of
`isContent` on the text before it.
-/
theorem isContent_escapedQuote {content tail name : Text}
    (whole : isContent (content ++ tail) = true) (open' : isContent content = false)
    (chars : isContent name = true)
    : isContent (content ++ '"' :: name) = true := by
  induction content using isContent.induct with
  | case1 => simp [isContent] at open'
  | case2 rest => simp [isContent] at whole
  | case3 c rest ih =>
      simp only [List.cons_append, isContent] at whole open' ⊢
      exact ih whole open'
  | case4 => simpa [isContent] using chars
  | case5 c rest notQuote notEscape notLast ih =>
      have quote : c ≠ '"' := fun same => notQuote same
      have slash : c ≠ '\\' := by
        rintro rfl
        cases rest with
        | nil => exact notLast rfl rfl
        | cons d others => exact notEscape d others rfl rfl
      rw [List.cons_append, isContent_plain quote slash, Bool.and_eq_true] at whole
      rw [isContent_plain quote slash, whole.1, Bool.true_and] at open'
      rw [List.cons_append, isContent_plain quote slash, Bool.and_eq_true]
      exact ⟨whole.1, ih whole.2 open'⟩

/-- A match in a literal begins at its opening quote or inside its content. -/
theorem firstMatch?_literal {lit : StringLit} {adjacent : Bool} {before name rest : Text}
    (first : firstMatch? (keyText lit adjacent) = some (before, name, rest))
    : name ≠ []
      ∧ name.all isKeyChar = true
      ∧ (before = [] ∨ ∃ content tail, before = '"' :: content ∧ lit.raw = content ++ tail) := by
  obtain ⟨tail, split, matched⟩ := firstMatch?_split first
  obtain ⟨opening, after, -, -, nonempty, chars, shape⟩ := keyMatch?_iff.mp matched
  refine ⟨nonempty, chars, ?_⟩
  cases before with
  | nil => exact Or.inl rfl
  | cons c content =>
      refine Or.inr ⟨content, ?_⟩
      rw [keyText, List.cons_append] at split
      obtain ⟨rfl, inner⟩ := List.cons.inj split
      rcases List.append_eq_append_iff.mp inner with ⟨part, -, ending⟩ | ⟨part, whole, -⟩
      · -- From the closing quote on there is no letter or digit, so no name.
        exfalso
        obtain ⟨d, others, rfl⟩ := List.exists_cons_of_ne_nil nonempty
        simp only [List.all_cons, Bool.and_eq_true] at chars
        have inside : d ∈ '"' :: (if adjacent then [':'] else []) := by
          rw [ending, shape]
          simp
        have symbols : d = '"' ∨ d = ':' := by
          cases adjacent with
          | false => exact Or.inl (by simpa using inside)
          | true => simpa using inside
        rcases symbols with rfl | rfl <;> exact absurd chars.1 (by decide)
      · exact ⟨part, rfl, whole⟩

/-- After a match the repaired literal closes early, before the matched name or before the
inserted colon.
-/
theorem repairKeys_literal {lit : StringLit} {adjacent : Bool} {before name rest more : Text}
    (first : firstMatch? (keyText lit adjacent) = some (before, name, rest))
    (sealed : Sealed (keyText lit adjacent) more)
    : ∃ text raw c tail,
        repairKeys (keyText lit adjacent ++ more) = '"' :: text
        ∧ lexString text = some (raw, c :: tail)
        ∧ (c = ':' ∨ isKeyChar c = true)
        ∧ (∀ content, before = '"' :: content → isContent content = true → isKeyChar c = true) := by
  obtain ⟨nonempty, chars, place⟩ := firstMatch?_literal first
  obtain ⟨c, others, rfl⟩ := List.exists_cons_of_ne_nil nonempty
  have key : isKeyChar c = true := by
    simp only [List.all_cons, Bool.and_eq_true] at chars
    exact chars.1
  rw [repairKeys_firstMatch first sealed]
  rcases place with rfl | ⟨content, tail, rfl, whole⟩
  · refine ⟨_, c :: others, ':', _, rfl, lexString_content (isContent_keyChars chars) _,
      Or.inl rfl, ?_⟩
    intro content same
    contradiction
  · by_cases closed : isContent content = true
    · exact ⟨_, content, c, _, rfl, lexString_content closed _, Or.inr key, fun _ _ _ => key⟩
    · rw [Bool.not_eq_true] at closed
      have extended := isContent_escapedQuote (whole ▸ lit.closed) closed
        (isContent_keyChars chars)
      have split := lexString_content extended (':' :: repairKeys (rest ++ more))
      refine ⟨_, content ++ '"' :: c :: others, ':', repairKeys (rest ++ more), rfl, ?_,
        Or.inl rfl, ?_⟩
      · simpa [List.append_assoc] using split
      · intro other same isClosed
        obtain ⟨-, rfl⟩ := List.cons.inj same
        simp [closed] at isClosed

-----------------------------------------------------------------------------------------
-- Broken trees
-----------------------------------------------------------------------------------------

/-- The repair keeps a text's first character or puts a double quote in its place. -/
theorem repairKeys_head (c : Char) (rest : Text)
    : ∃ d tail, repairKeys (c :: rest) = d :: tail ∧ (d = c ∨ d = '"') := by
  cases here : keyMatch? (c :: rest) with
  | none => exact ⟨c, _, repairKeys_copy here, Or.inl rfl⟩
  | some found => exact ⟨'"', _, repairKeys_match here, Or.inr rfl⟩

theorem repairKeys_write_head (tree : Syntax) (rest : Text)
    : ∃ c tail, repairKeys (tree.write rest) = c :: tail ∧ isValueStart c = true := by
  obtain ⟨c, tail, eq, start⟩ := tree.write_head rest
  obtain ⟨d, others, repaired, same⟩ := repairKeys_head c tail
  refine ⟨d, others, by rw [eq, repaired], ?_⟩
  rcases same with rfl | rfl
  · exact start
  · decide

/-- Whitespace before a repaired value is skipped exactly. -/
theorem skipSpaces_repaired (spaces : Spaces) (tree : Syntax) (rest : Text)
    : skipSpaces (spaces.val ++ repairKeys (tree.write rest)) = repairKeys (tree.write rest) := by
  obtain ⟨c, tail, eq, start⟩ := repairKeys_write_head tree rest
  rw [eq, skipSpaces_append spaces (isValueStart_solid start).1]

/-- A string value with a match is read up to its new end, and the reader is stuck there. -/
theorem stuck_value {lit : StringLit} (broken : valueFate lit = .broken) {rest : Text}
    (apart : Apart rest) (fuel : Nat)
    : Stuck (parseValue readNumber fuel (repairKeys (lit.write rest))) := by
  cases first : firstMatch? (keyText lit false) with
  | none => simp [valueFate, first] at broken
  | some found =>
      obtain ⟨before, name, later⟩ := found
      obtain ⟨text, raw, c, tail, repaired, split, follows, -⟩ :=
        repairKeys_literal first (Or.inl apart)
      have written : lit.write rest = keyText lit false ++ rest := by
        simp [keyText, StringLit.write]
      rw [written, repaired]
      intro value remaining read
      cases fuel with
      | zero => simp [parseValue] at read
      | succ fuel =>
          simp only [parseValue, if_true, parseString, split, Option.map_eq_some_iff] at read
          obtain ⟨⟨content, others⟩, string, same⟩ := read
          cases content' : unescape raw with
          | none => simp [content'] at string
          | some chars =>
              simp only [content', Option.bind_eq_bind, Option.bind_some, Option.pure_def,
                Option.some.injEq, Prod.mk.injEq] at string same
              obtain ⟨-, rfl⟩ := string
              obtain ⟨-, rfl⟩ := same
              exact ⟨c, tail, rfl, follows.symm⟩

/-- A broken key refuses its object: it is unquoted, or a letter follows its new end. -/
theorem refused_key {key : Key} {gap : Spaces} (broken : keyFate key gap = .broken)
    (rest : Text) (fuel : Nat) (done : List (String × Value))
    : parseMembers readNumber fuel done (repairKeys (key.write (gap.val ++ ':' :: rest)))
      = none := by
  cases key with
  | quoted lit =>
      simp only [keyFate, literalKeyFate] at broken
      cases first : firstMatch? (keyText lit gap.val.isEmpty) with
      | none => simp [first] at broken
      | some found =>
          obtain ⟨before, name, later⟩ := found
          obtain ⟨-, -, place⟩ := firstMatch?_literal first
          obtain ⟨text, raw, c, tail, repaired, split, -, early⟩ :=
            repairKeys_literal first (sealed_gap lit gap rest)
          simp only [first] at broken
          rw [Key.write, write_gap, repaired]
          rcases place with rfl | ⟨content, _, rfl, -⟩
          · split at broken <;> contradiction
          · cases closed : isContent content with
            | true =>
                exact parseMembers_stuckKey readNumber fuel split (early content rfl closed) done
            | false =>
                simp only [closed, Bool.false_eq_true, if_false] at broken
                split at broken <;> contradiction
  | single name =>
      have nonempty : gap.val.isEmpty = false := by
        by_contra empty
        rw [Bool.not_eq_false] at empty
        simp only [keyFate, empty, if_true] at broken
        contradiction
      have noColon : ':' ∉ '\'' :: (name.name ++ ['\'']) := by
        intro member
        simp only [List.mem_cons, List.mem_append, Char.reduceEq, false_or,
          List.not_mem_nil, or_false] at member
        exact absurd (List.all_eq_true.mp name.keyChars ':' member) (by decide)
      have copied := repairKeys_append (firstMatch?_none noColon)
        (Or.inl (apart_gap nonempty (':' :: rest)))
      have written : (Key.single name).write (gap.val ++ ':' :: rest)
          = '\'' :: (name.name ++ ['\'']) ++ (gap.val ++ ':' :: rest) := by
        simp [Key.write]
      rw [written, copied]
      cases fuel <;> rfl
  | bare name =>
      have nonempty : gap.val.isEmpty = false := by
        by_contra empty
        rw [Bool.not_eq_false] at empty
        simp only [keyFate, empty, if_true] at broken
        contradiction
      have noColon : ':' ∉ name.name := by
        intro member
        exact absurd (List.all_eq_true.mp name.keyChars ':' member) (by decide)
      rw [Key.write, repairKeys_append (firstMatch?_none noColon)
        (Or.inl (apart_gap nonempty (':' :: rest)))]
      obtain ⟨c, others, eq⟩ := List.exists_cons_of_ne_nil name.nonempty
      have key : isKeyChar c = true :=
        List.all_eq_true.mp name.keyChars c (by simp [eq])
      have quote := (isKeyChar_printable key).1
      rw [eq]
      cases fuel with
      | zero => rfl
      | succ fuel => simp [parseMembers, quote]

/-- An array is refused if its remaining elements are, whatever is read before them. -/
theorem parseElements_more {fuel : Nat} {value : Syntax} (strict : value.strict = true)
    (after : Spaces) {tail : Text}
    (refused : ∀ done, parseElements readNumber fuel done (skipSpaces tail) = none)
    (done : List Value)
    : parseElements readNumber (fuel + 1) done (value.write (after.val ++ ',' :: tail)) = none := by
  have read := value.parseValue_write readNumber strict
    (delimited_closer after (Or.inl rfl) tail) fuel
  by_cases enough : value.cost ≤ fuel
  · rw [if_pos enough] at read
    cases meaning : value.denote readNumber with
    | none => simp [parseElements, read, meaning]
    | some v =>
        rw [meaning] at read
        rw [parseElements_next readNumber fuel done after (by decide) read, if_pos rfl]
        exact refused (done ++ [v])
  · rw [if_neg enough] at read
    simp [parseElements, read]

/-- An object is refused if its remaining members are, whatever is read before them. -/
theorem parseMembers_more {fuel : Nat} (lit : StringLit) (gap lead : Spaces) {value : Syntax}
    (strict : value.strict = true) (after : Spaces) {tail : Text}
    (refused : ∀ done, parseMembers readNumber fuel done (skipSpaces tail) = none)
    (done : List (String × Value))
    : parseMembers readNumber (fuel + 1) done
          (lit.write (gap.val ++ ':' :: (lead.val ++ value.write (after.val ++ ',' :: tail))))
      = none := by
  have read := value.parseValue_write readNumber strict
    (delimited_closer after (Or.inl rfl) tail) fuel
  rw [parseMembers_key _ _ _ _ _ (value.skipSpaces_write lead _), read]
  cases lit.denote with
  | none => rfl
  | some key =>
      by_cases enough : value.cost ≤ fuel
      · rw [if_pos enough]
        cases value.denote readNumber with
        | none => rfl
        | some v =>
            simp only [Option.map_some, Option.bind_some,
              skipSpaces_append after (c := ',') (by decide)]
            exact refused (insertField key v done)
      · rw [if_neg enough]
        rfl

/-- A key begins with a quote, a letter or a digit. -/
theorem Json.Key.write_head (key : Key) (rest : Text)
    : ∃ c tail, key.write rest = c :: tail ∧ isSpace c = false ∧ c ≠ '}' := by
  cases key with
  | quoted lit => exact ⟨'"', _, rfl, by decide, by decide⟩
  | single name => exact ⟨'\'', _, rfl, by decide, by decide⟩
  | bare name =>
      obtain ⟨c, others, eq⟩ := List.exists_cons_of_ne_nil name.nonempty
      have letter : isKeyChar c = true :=
        List.all_eq_true.mp name.keyChars c (by simp [eq])
      obtain ⟨solid, -, -, brace⟩ := stuck_solid (Or.inl letter)
      exact ⟨c, others ++ rest, by simp [Key.write, eq], solid, brace⟩

theorem repairKeys_key_head (key : Key) (rest : Text)
    : ∃ c tail, repairKeys (key.write rest) = c :: tail ∧ isSpace c = false ∧ c ≠ '}' := by
  obtain ⟨c, tail, eq, solid, brace⟩ := key.write_head rest
  obtain ⟨d, others, repaired, same⟩ := repairKeys_head c tail
  refine ⟨d, others, by rw [eq, repaired], ?_⟩
  rcases same with rfl | rfl
  · exact ⟨solid, brace⟩
  · decide

/-- Whitespace before a repaired key is skipped exactly. -/
theorem skipSpaces_repairedKey (spaces : Spaces) (key : Key) (rest : Text)
    : skipSpaces (spaces.val ++ repairKeys (key.write rest)) = repairKeys (key.write rest) := by
  obtain ⟨c, tail, eq, solid, -⟩ := repairKeys_key_head key rest
  rw [eq, skipSpaces_append spaces solid]

/-- The literal a quoted key consists of. -/
theorem quoteKey_eq (key : Key) : ∃ lit, quoteKey key = .quoted lit :=
  Key.eq_quoted (quoteKey_strict key)

/-- The repaired text of a nonempty array does not close it at once. -/
theorem repairKeys_elements_head (elements : Elements) (rest : Text)
    : ∃ c tail, skipSpaces (repairKeys (elements.write rest)) = c :: tail ∧ c ≠ ']' := by
  cases elements with
  | last before value after =>
      obtain ⟨c, tail, eq, start⟩ := repairKeys_write_head value (after.val ++ rest)
      refine ⟨c, tail, ?_, (isValueStart_solid start).2.1⟩
      rw [Elements.write, repairKeys_spaces, skipSpaces_repaired, eq]
  | more before value after others =>
      obtain ⟨c, tail, eq, start⟩ :=
        repairKeys_write_head value (after.val ++ ',' :: others.write rest)
      refine ⟨c, tail, ?_, (isValueStart_solid start).2.1⟩
      rw [Elements.write, repairKeys_spaces, skipSpaces_repaired, eq]

/-- The repaired text of a nonempty object does not close it at once. -/
theorem repairKeys_members_head (members : Members) (rest : Text)
    : ∃ c tail, skipSpaces (repairKeys (members.write rest)) = c :: tail ∧ c ≠ '}' := by
  cases members with
  | last before key gap lead value after =>
      obtain ⟨c, tail, eq, -, brace⟩ := repairKeys_key_head key
        (gap.val ++ ':' :: (lead.val ++ value.write (after.val ++ rest)))
      exact ⟨c, tail, by rw [Members.write, repairKeys_spaces, skipSpaces_repairedKey, eq], brace⟩
  | more before key gap lead value after others =>
      obtain ⟨c, tail, eq, -, brace⟩ := repairKeys_key_head key
        (gap.val ++ ':' :: (lead.val ++ value.write (after.val ++ ',' :: others.write rest)))
      exact ⟨c, tail, by rw [Members.write, repairKeys_spaces, skipSpaces_repairedKey, eq], brace⟩

mutual
/-- The first broken part of a tree refuses the repaired text, by induction on the tree; the
parts before it are read as they should be.
-/
theorem refused_tree (tree : Syntax) (broken : syntaxFate tree = .broken) {rest : Text}
    (delimited : Delimited rest) (fuel : Nat)
    : Stuck (parseValue readNumber fuel (repairKeys (tree.write rest))) := by
  cases tree with
  | string lit =>
      exact stuck_value readNumber (by simpa [syntaxFate] using broken) delimited.apart fuel
  | array elements =>
      rw [Syntax.write, repairKeys_plain (by decide) (by decide)]
      cases fuel with
      | zero => exact Stuck.none
      | succ fuel =>
          have none := refused_elements elements (by simpa [syntaxFate] using broken) rest fuel []
          obtain ⟨c, tail, body, open'⟩ := repairKeys_elements_head elements (']' :: rest)
          rw [parseValue_openArray readNumber fuel body open', ← body, none]
          exact Stuck.none
  | object members =>
      rw [Syntax.write, repairKeys_plain (by decide) (by decide)]
      cases fuel with
      | zero => exact Stuck.none
      | succ fuel =>
          have none := refused_members members (by simpa [syntaxFate] using broken) rest fuel []
          obtain ⟨c, tail, body, open'⟩ := repairKeys_members_head members ('}' :: rest)
          rw [parseValue_openObject readNumber fuel body open', ← body, none]
          exact Stuck.none
  | null | bool | number | emptyArray | emptyObject => simp [syntaxFate] at broken

theorem refused_elements (elements : Elements) (broken : elementsFate elements = .broken)
    (rest : Text) (fuel : Nat) (done : List Value)
    : parseElements readNumber fuel done (skipSpaces (repairKeys (elements.write (']' :: rest))))
      = none := by
  cases fuel with
  | zero => rfl
  | succ fuel =>
      cases elements with
      | last before value after =>
          rw [Elements.write, repairKeys_spaces, skipSpaces_repaired]
          exact parseElements_stuck readNumber
            (refused_tree value (by simpa [elementsFate] using broken)
              (delimited_closer after (Or.inr (Or.inl rfl)) rest) fuel) done
      | more before value after others =>
          rw [Elements.write, repairKeys_spaces, skipSpaces_repaired]
          simp only [elementsFate, Fate.andThen_broken] at broken
          rcases broken with here | ⟨kept, later⟩
          · exact parseElements_stuck readNumber
              (refused_tree value here (delimited_closer after (Or.inl rfl) _) fuel) done
          · rw [repairKeys_tree value kept (delimited_closer after (Or.inl rfl) _),
              repairKeys_spaces, repairKeys_plain (by decide) (by decide)]
            exact parseElements_more readNumber (quoteSyntax_strict value) after
              (refused_elements others later rest fuel) done

theorem refused_members (members : Members) (broken : membersFate members = .broken)
    (rest : Text) (fuel : Nat) (done : List (String × Value))
    : parseMembers readNumber fuel done (skipSpaces (repairKeys (members.write ('}' :: rest))))
      = none := by
  cases fuel with
  | zero => rfl
  | succ fuel =>
      cases members with
      | last before key gap lead value after =>
          rw [Members.write, repairKeys_spaces, skipSpaces_repairedKey]
          simp only [membersFate, Fate.andThen_broken] at broken
          rcases broken with here | ⟨kept, later⟩
          · exact refused_key readNumber here _ (fuel + 1) done
          · obtain ⟨lit, quoted⟩ := quoteKey_eq key
            rw [repairKeys_key kept, quoted, Key.write, repairKeys_spaces]
            exact parseMembers_stuck readNumber lit gap (skipSpaces_repaired lead value _)
              (refused_tree value later (delimited_closer after (Or.inr (Or.inr rfl)) rest) fuel)
              done
      | more before key gap lead value after others =>
          rw [Members.write, repairKeys_spaces, skipSpaces_repairedKey]
          simp only [membersFate, Fate.andThen_broken] at broken
          rcases broken with here | ⟨kept, here | ⟨valueKept, later⟩⟩
          · exact refused_key readNumber here _ (fuel + 1) done
          · obtain ⟨lit, quoted⟩ := quoteKey_eq key
            rw [repairKeys_key kept, quoted, Key.write, repairKeys_spaces]
            exact parseMembers_stuck readNumber lit gap (skipSpaces_repaired lead value _)
              (refused_tree value here (delimited_closer after (Or.inl rfl) _) fuel) done
          · obtain ⟨lit, quoted⟩ := quoteKey_eq key
            rw [repairKeys_key kept, quoted, Key.write, repairKeys_spaces,
              repairKeys_tree value valueKept (delimited_closer after (Or.inl rfl) _),
              repairKeys_spaces, repairKeys_plain (by decide) (by decide)]
            exact parseMembers_more readNumber lit gap lead (quoteSyntax_strict value) after
              (refused_members others later rest fuel) done
end

-----------------------------------------------------------------------------------------
-- Unrepaired texts
-----------------------------------------------------------------------------------------

/-- A key that is not double-quoted is no member. -/
theorem parseMembers_unquoted {key : Key} (unquoted : key.strict = false) (rest : Text)
    (fuel : Nat) (done : List (String × Value))
    : parseMembers readNumber fuel done (key.write rest) = none := by
  cases fuel with
  | zero => rfl
  | succ fuel =>
      cases key with
      | quoted lit => simp [Key.strict] at unquoted
      | single name => rfl
      | bare name =>
          obtain ⟨c, others, eq⟩ := List.exists_cons_of_ne_nil name.nonempty
          have letter : isKeyChar c = true :=
            List.all_eq_true.mp name.keyChars c (by simp [eq])
          simp [parseMembers, Key.write, eq, (isKeyChar_printable letter).1]

theorem skipSpaces_key (spaces : Spaces) (key : Key) (rest : Text)
    : skipSpaces (spaces.val ++ key.write rest) = key.write rest := by
  obtain ⟨c, tail, eq, solid, -⟩ := key.write_head rest
  rw [eq, skipSpaces_append spaces solid]

theorem members_head (members : Members) (rest : Text)
    : ∃ c tail, skipSpaces (members.write rest) = c :: tail ∧ c ≠ '}' := by
  cases members with
  | last before key gap lead value after =>
      obtain ⟨c, tail, eq, -, brace⟩ :=
        key.write_head (gap.val ++ ':' :: (lead.val ++ value.write (after.val ++ rest)))
      exact ⟨c, tail, by rw [Members.write, skipSpaces_key, eq], brace⟩
  | more before key gap lead value after others =>
      obtain ⟨c, tail, eq, -, brace⟩ := key.write_head
        (gap.val ++ ':' :: (lead.val ++ value.write (after.val ++ ',' :: others.write rest)))
      exact ⟨c, tail, by rw [Members.write, skipSpaces_key, eq], brace⟩

mutual
/-- A tree with an unquoted key is not plain JSON: the parser stops at its first such key.
By induction on the tree.
-/
theorem unquoted_tree (tree : Syntax) (unquoted : tree.strict = false) (rest : Text)
    (fuel : Nat)
    : parseValue readNumber fuel (tree.write rest) = none := by
  cases fuel with
  | zero => rfl
  | succ fuel =>
      cases tree with
      | array elements =>
          obtain ⟨c, tail, body, open'⟩ := elements.skipSpaces_write (']' :: rest)
          rw [Syntax.write, parseValue_openArray readNumber fuel body open', ← body]
          exact unquoted_elements elements (by simpa [Syntax.strict] using unquoted) rest fuel []
      | object members =>
          obtain ⟨c, tail, body, open'⟩ := members_head members ('}' :: rest)
          rw [Syntax.write, parseValue_openObject readNumber fuel body open', ← body]
          exact unquoted_members members (by simpa [Syntax.strict] using unquoted) rest fuel []
      | null | bool | number | string | emptyArray | emptyObject =>
          simp [Syntax.strict] at unquoted

theorem unquoted_elements (elements : Elements) (unquoted : elements.strict = false)
    (rest : Text) (fuel : Nat) (done : List Value)
    : parseElements readNumber fuel done (skipSpaces (elements.write (']' :: rest))) = none := by
  cases fuel with
  | zero => rfl
  | succ fuel =>
      cases elements with
      | last before value after =>
          rw [Elements.write, Syntax.skipSpaces_write]
          have none := unquoted_tree value (by simpa [Elements.strict] using unquoted)
            (after.val ++ ']' :: rest) fuel
          exact parseElements_stuck readNumber (none ▸ Stuck.none) done
      | more before value after others =>
          rw [Elements.write, Syntax.skipSpaces_write]
          cases strict : value.strict with
          | false =>
              have none := unquoted_tree value strict
                (after.val ++ ',' :: others.write (']' :: rest)) fuel
              exact parseElements_stuck readNumber (none ▸ Stuck.none) done
          | true =>
              have later : others.strict = false := by
                simpa [Elements.strict, strict] using unquoted
              exact parseElements_more readNumber strict after
                (unquoted_elements others later rest fuel) done

theorem unquoted_members (members : Members) (unquoted : members.strict = false)
    (rest : Text) (fuel : Nat) (done : List (String × Value))
    : parseMembers readNumber fuel done (skipSpaces (members.write ('}' :: rest))) = none := by
  cases fuel with
  | zero => rfl
  | succ fuel =>
      cases members with
      | last before key gap lead value after =>
          rw [Members.write, skipSpaces_key]
          cases quoted : key.strict with
          | false => exact parseMembers_unquoted readNumber quoted _ (fuel + 1) done
          | true =>
              obtain ⟨lit, rfl⟩ := Key.eq_quoted quoted
              have none := unquoted_tree value
                (by simpa [Members.strict, quoted] using unquoted)
                (after.val ++ '}' :: rest) fuel
              exact parseMembers_stuck readNumber lit gap (value.skipSpaces_write lead _)
                (none ▸ Stuck.none) done
      | more before key gap lead value after others =>
          rw [Members.write, skipSpaces_key]
          cases quoted : key.strict with
          | false => exact parseMembers_unquoted readNumber quoted _ (fuel + 1) done
          | true =>
              obtain ⟨lit, rfl⟩ := Key.eq_quoted quoted
              cases strict : value.strict with
              | false =>
                  have none := unquoted_tree value strict
                    (after.val ++ ',' :: others.write ('}' :: rest)) fuel
                  exact parseMembers_stuck readNumber lit gap (value.skipSpaces_write lead _)
                    (none ▸ Stuck.none) done
              | true =>
                  have later : others.strict = false := by
                    simpa [Members.strict, quoted, strict] using unquoted
                  exact parseMembers_more readNumber lit gap lead strict after
                    (unquoted_members others later rest fuel) done
end

-----------------------------------------------------------------------------------------
-- Whole texts
-----------------------------------------------------------------------------------------

/-- A text with an unquoted key has no value in plain JSON. -/
theorem parse_unquoted (before after : Spaces) (tree : Syntax) (unquoted : tree.strict = false)
    : Json.parse readNumber (before.val ++ tree.write after.val) = none := by
  rw [Json.parse, Syntax.skipSpaces_write, unquoted_tree readNumber tree unquoted]

/-- A text in which every match is a whole key is repaired to a text with its value. -/
theorem parse_kept (before after : Spaces) (tree : Syntax) (kept : syntaxFate tree = .kept)
    : Json.parse readNumber (repairKeys (before.val ++ tree.write after.val))
      = tree.denote readNumber := by
  have delimited : Delimited after.val := by
    simpa using delimited_nil.spaces after
  have copied : repairKeys after.val = after.val := by
    simpa [repairKeys, Pattern.replaceAll, Pattern.replaceFrom]
      using repairKeys_spaces after []
  rw [repairKeys_spaces, repairKeys_tree tree kept delimited, copied,
    Json.parse_write readNumber before after (quoteSyntax tree) (quoteSyntax_strict tree),
    quoteSyntax_denote]

/-- A text whose first stray match breaks a string is repaired to no JSON text. -/
theorem parse_broken (before after : Spaces) (tree : Syntax)
    (broken : syntaxFate tree = .broken)
    : Json.parse readNumber (repairKeys (before.val ++ tree.write after.val)) = none := by
  have delimited : Delimited after.val := by
    simpa using delimited_nil.spaces after
  rw [repairKeys_spaces, Json.parse, skipSpaces_repaired]
  have stuck := refused_tree readNumber tree broken delimited
    ((before.val ++ repairKeys (tree.write after.val)).length + 1)
  cases read : parseValue readNumber
      ((before.val ++ repairKeys (tree.write after.val)).length + 1)
      (repairKeys (tree.write after.val)) with
  | none => rfl
  | some result =>
      obtain ⟨value, rest⟩ := result
      obtain ⟨c, tail, rfl, follows⟩ := stuck value rest read
      simp [skipSpaces_solid (stuck_solid follows).1]

end SqliteServer
