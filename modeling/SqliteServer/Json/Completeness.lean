import Mathlib.Data.List.TakeWhile
import SqliteServer.Json.Syntax

/-! The parser reads the text of a strict tree as the value the tree denotes. -/

namespace SqliteServer.Json

-----------------------------------------------------------------------------------------
-- Tokens
-----------------------------------------------------------------------------------------

/-- An ordinary character is content as long as it is no control character. -/
theorem isContent_plain {c : Char} (quote : c ≠ '"') (slash : c ≠ '\\') (rest : Text)
    : isContent (c :: rest) = (!decide (c < ' ') && isContent rest) := by
  rw [isContent]
  · exact quote
  · exact fun _ _ same _ => slash same
  · exact fun same _ => slash same

/-- Letters and digits are printable and need no escape. -/
theorem isKeyChar_printable {c : Char} (key : isKeyChar c = true)
    : c ≠ '"' ∧ c ≠ '\\' ∧ ¬ c < ' ' := by
  refine ⟨?_, ?_, ?_⟩
  · rintro rfl
    exact absurd key (by decide)
  · rintro rfl
    exact absurd key (by decide)
  · intro control
    have low : c.toNat < 32 := control
    have codes : ∀ n < 32, isKeyChar (Char.ofNat n) = false := by decide
    have plain := codes c.toNat low
    rw [Char.ofNat_toNat, key] at plain
    contradiction

/-- Letters and digits need no escape, by induction on the name. -/
theorem isContent_keyChars {name : Text} (chars : name.all isKeyChar = true)
    : isContent name = true := by
  induction name with
  | nil => rfl
  | cons c others ih =>
      simp only [List.all_cons, Bool.and_eq_true] at chars
      obtain ⟨quote, slash, printable⟩ := isKeyChar_printable chars.1
      simp [isContent_plain quote slash, printable, ih chars.2]

/-- A name without escapes denotes itself, by induction on the name. -/
theorem unescape_keyChars {name : Text} (chars : name.all isKeyChar = true)
    : unescape name = some name := by
  induction name with
  | nil => rfl
  | cons c others ih =>
      simp only [List.all_cons, Bool.and_eq_true] at chars
      have slash := (isKeyChar_printable chars.1).2.1
      rw [unescape]
      · simp [ih chars.2]
      · exact fun _ _ _ _ _ same _ => slash same
      · exact fun _ _ same _ => slash same

/-- A raw content is split off at its closing quote, by the recursion of `isContent`. -/
theorem lexString_content {raw : Text} (closed : isContent raw = true) (rest : Text)
    : lexString (raw ++ '"' :: rest) = some (raw, rest) := by
  induction raw using isContent.induct with
  | case1 => rfl
  | case2 tail => simp [isContent] at closed
  | case3 c tail ih =>
      simp only [isContent] at closed
      simp [lexString, ih closed]
  | case4 => simp [isContent] at closed
  | case5 c tail notQuote notEscape notLast ih =>
      have slash : c ≠ '\\' := by
        rintro rfl
        cases tail with
        | nil => exact notLast rfl rfl
        | cons d others => exact notEscape d others rfl rfl
      rw [isContent] at closed
      · simp only [Bool.and_eq_true, Bool.not_eq_true', decide_eq_false_iff_not] at closed
        rw [List.cons_append, lexString]
        · simp [closed.1, ih closed.2]
        · exact fun same => notQuote same
        · exact fun d others same _ => slash same
      · exact fun same => notQuote same
      · exact fun d others same eq => notEscape d others same eq
      · exact fun same eq => notLast same eq

/-- A string literal is read as its denotation and the text after its closing quote. -/
theorem parseString_literal (lit : StringLit) (rest : Text)
    : parseString (lit.raw ++ '"' :: rest)
      = lit.denote.map (fun content => (content, rest)) := by
  simp only [parseString, lexString_content lit.closed, StringLit.denote]
  cases reading : unescape lit.raw <;> simp [reading]

/-- Whitespace before a character that is not whitespace is skipped exactly. -/
theorem skipSpaces_append (spaces : Spaces) {c : Char} (solid : isSpace c = false)
    (text : Text)
    : skipSpaces (spaces.val ++ c :: text) = c :: text := by
  have all := List.all_eq_true.mp spaces.property
  rw [skipSpaces, List.dropWhile_append_of_pos all, List.dropWhile_cons_of_neg]
  simp [solid]

/-- A text that begins where a value may end: nothing, whitespace, a comma or a closer. -/
def Delimited (text : Text) : Prop :=
  ∀ c, text.head? = some c → isSpace c = true ∨ c = ',' ∨ c = ']' ∨ c = '}'

@[simp]
theorem delimited_nil : Delimited [] := by
  intro c head
  simp at head

theorem delimited_cons {c : Char} {text : Text}
    : Delimited (c :: text) ↔ isSpace c = true ∨ c = ',' ∨ c = ']' ∨ c = '}' := by
  simp [Delimited]

/-- Whitespace keeps a text delimited, by cases on whether there is any. -/
theorem Delimited.spaces {text : Text} (delimited : Delimited text) (spaces : Spaces)
    : Delimited (spaces.val ++ text) := by
  obtain ⟨blank, all⟩ := spaces
  cases blank with
  | nil => exact delimited
  | cons c others =>
      simp only [List.all_cons, Bool.and_eq_true] at all
      exact delimited_cons.mpr (Or.inl all.1)

/-- No delimiter is part of a number. -/
theorem Delimited.takeWhile_number {text : Text} (delimited : Delimited text)
    : text.takeWhile isNumberChar = [] ∧ text.dropWhile isNumberChar = text := by
  cases text with
  | nil => simp
  | cons c others =>
      have outside : isNumberChar c = false := by
        rcases delimited_cons.mp delimited with space | rfl | rfl | rfl
        · simp only [isSpace, Bool.or_eq_true, decide_eq_true_eq] at space
          rcases space with ((rfl | rfl) | rfl) | rfl <;> decide
        · decide
        · decide
        · decide
      simp [outside]

/-- A number literal before a delimiter is read as a whole. -/
theorem parseNumber_literal (readNumber : Text → Option Number) (lit : NumberLit)
    {rest : Text} (delimited : Delimited rest)
    : parseNumber readNumber (lit.lexeme ++ rest)
      = (readNumber lit.lexeme).map (fun n => (.number n, rest)) := by
  have all : ∀ c ∈ lit.lexeme, isNumberChar c = true := by
    have wellFormed := lit.wellFormed
    simp only [isNumber, Bool.and_eq_true, List.all_eq_true] at wellFormed
    exact wellFormed.1
  obtain ⟨taken, dropped⟩ := delimited.takeWhile_number
  rw [parseNumber, List.takeWhile_append_of_pos all, List.dropWhile_append_of_pos all, taken,
    dropped, List.append_nil, if_pos lit.wellFormed]

-----------------------------------------------------------------------------------------
-- First characters
-----------------------------------------------------------------------------------------

/-- The characters a value can begin with. -/
def isValueStart (c : Char) : Bool :=
  c = '"' || c = '[' || c = '{' || c = '-' || isDigit c || c = 'n' || c = 't' || c = 'f'

/-- The start of a value is neither whitespace nor a closer. -/
theorem isValueStart_solid {c : Char} (start : isValueStart c = true)
    : isSpace c = false ∧ c ≠ ']' ∧ c ≠ '}' := by
  refine ⟨?_, ?_, ?_⟩
  · by_contra space
    simp only [Bool.not_eq_false, isSpace, Bool.or_eq_true, decide_eq_true_eq] at space
    rcases space with ((rfl | rfl) | rfl) | rfl <;> exact absurd start (by decide)
  · rintro rfl
    exact absurd start (by decide)
  · rintro rfl
    exact absurd start (by decide)

/-- A number begins with a minus sign or a digit, by cases on its first character. -/
theorem NumberLit.head (lit : NumberLit)
    : ∃ c tail, lit.lexeme = c :: tail ∧ (c = '-' ∨ isDigit c = true) := by
  obtain ⟨lexeme, wellFormed⟩ := lit
  simp only [isNumber, Bool.and_eq_true] at wellFormed
  cases lexeme with
  | nil => simp at wellFormed
  | cons c tail =>
      refine ⟨c, tail, rfl, ?_⟩
      by_cases minus : c = '-'
      · exact Or.inl minus
      · refine Or.inr ?_
        have body := wellFormed.2
        split at body
        · rename_i eq
          split at eq
          · rename_i same
            exact absurd (List.cons.inj same).1 minus
          · obtain ⟨rfl, -⟩ := List.cons.inj eq
            decide
        · rename_i eq
          split at eq
          · rename_i same
            exact absurd (List.cons.inj same).1 minus
          · obtain ⟨rfl, -⟩ := List.cons.inj eq
            exact (Bool.and_eq_true _ _ ▸ body).1
        · exact absurd body (by simp)

/-- Every value's text begins with a value start, by cases on the tree. -/
theorem Syntax.write_head (tree : Syntax) (rest : Text)
    : ∃ c tail, tree.write rest = c :: tail ∧ isValueStart c = true := by
  cases tree with
  | null => exact ⟨'n', _, rfl, by decide⟩
  | bool b =>
      cases b with
      | true => exact ⟨'t', _, rfl, by decide⟩
      | false => exact ⟨'f', _, rfl, by decide⟩
  | number lit =>
      obtain ⟨c, tail, eq, start⟩ := lit.head
      refine ⟨c, tail ++ rest, by simp [Syntax.write, eq], ?_⟩
      rcases start with rfl | digit
      · decide
      · simp [isValueStart, digit]
  | string lit => exact ⟨'"', _, rfl, by decide⟩
  | emptyArray inner => exact ⟨'[', _, rfl, by decide⟩
  | array elements => exact ⟨'[', _, rfl, by decide⟩
  | emptyObject inner => exact ⟨'{', _, rfl, by decide⟩
  | object members => exact ⟨'{', _, rfl, by decide⟩

/-- Whitespace before a value is skipped exactly. -/
theorem Syntax.skipSpaces_write (spaces : Spaces) (tree : Syntax) (rest : Text)
    : skipSpaces (spaces.val ++ tree.write rest) = tree.write rest := by
  obtain ⟨c, tail, eq, start⟩ := tree.write_head rest
  rw [eq, skipSpaces_append spaces (isValueStart_solid start).1]

-----------------------------------------------------------------------------------------
-- Values
-----------------------------------------------------------------------------------------

section Parse

variable (readNumber : Text → Option Number)

/-- A bracket followed by no immediate closer opens a list of elements. -/
theorem parseValue_openArray (fuel : Nat) {text tail : Text} {c : Char}
    (body : skipSpaces text = c :: tail) (open' : c ≠ ']')
    : parseValue readNumber (fuel + 1) ('[' :: text)
      = parseElements readNumber fuel [] (c :: tail) := by
  have quote : '[' ≠ '"' := by decide
  simp only [parseValue, quote, if_false, if_true, body]
  split
  · rename_i same
    exact absurd (List.cons.inj same).1 open'
  · rfl

/-- A brace followed by no immediate closer opens a list of members. -/
theorem parseValue_openObject (fuel : Nat) {text tail : Text} {c : Char}
    (body : skipSpaces text = c :: tail) (open' : c ≠ '}')
    : parseValue readNumber (fuel + 1) ('{' :: text)
      = parseMembers readNumber fuel [] (c :: tail) := by
  have quote : '{' ≠ '"' := by decide
  have bracket : '{' ≠ '[' := by decide
  simp only [parseValue, quote, bracket, if_false, if_true, body]
  split
  · rename_i same
    exact absurd (List.cons.inj same).1 open'
  · rfl

/-- An element list begins with the text of its first value. -/
theorem Elements.skipSpaces_write (elements : Elements) (rest : Text)
    : ∃ c tail, skipSpaces (elements.write rest) = c :: tail ∧ c ≠ ']' := by
  cases elements with
  | last before value after =>
      obtain ⟨c, tail, eq, start⟩ := value.write_head (after.val ++ rest)
      refine ⟨c, tail, ?_, (isValueStart_solid start).2.1⟩
      rw [Elements.write, Syntax.skipSpaces_write, eq]
  | more before value after others =>
      obtain ⟨c, tail, eq, start⟩ := value.write_head (after.val ++ ',' :: others.write rest)
      refine ⟨c, tail, ?_, (isValueStart_solid start).2.1⟩
      rw [Elements.write, Syntax.skipSpaces_write, eq]

theorem Key.eq_quoted {key : Key} (strict : key.strict = true)
    : ∃ lit, key = .quoted lit := by
  cases key with
  | quoted lit => exact ⟨lit, rfl⟩
  | single name => simp [Key.strict] at strict
  | bare name => simp [Key.strict] at strict

/-- A strict member list begins with the quote of its first key. -/
theorem Members.skipSpaces_write (members : Members) (strict : members.strict = true)
    (rest : Text)
    : ∃ tail, skipSpaces (members.write rest) = '"' :: tail := by
  cases members with
  | last before key gap lead value after =>
      simp only [Members.strict, Bool.and_eq_true] at strict
      obtain ⟨lit, rfl⟩ := Key.eq_quoted strict.1
      exact ⟨_, by rw [Members.write, Key.write, StringLit.write, skipSpaces_append _ (by decide)]⟩
  | more before key gap lead value after others =>
      simp only [Members.strict, Bool.and_eq_true] at strict
      obtain ⟨lit, rfl⟩ := Key.eq_quoted strict.1.1
      exact ⟨_, by rw [Members.write, Key.write, StringLit.write, skipSpaces_append _ (by decide)]⟩

/-- After a read value, a comma continues the elements and a bracket ends them. -/
theorem parseElements_next (fuel : Nat) (done : List Value) {text : Text} {value : Value}
    (after : Spaces) {c : Char} (solid : isSpace c = false) {rest : Text}
    (read : parseValue readNumber fuel text = some (value, after.val ++ c :: rest))
    : parseElements readNumber (fuel + 1) done text
      = if c = ',' then parseElements readNumber fuel (done ++ [value]) (skipSpaces rest)
        else if c = ']' then some (.array (done ++ [value]), rest)
        else none := by
  simp only [parseElements, read, skipSpaces_append after solid]
  split
  · rename_i same
    obtain ⟨rfl, rfl⟩ := List.cons.inj same
    rfl
  · rename_i same
    obtain ⟨rfl, rfl⟩ := List.cons.inj same
    rfl
  · rename_i comma bracket
    rw [if_neg (fun same => comma rest (by rw [same])),
      if_neg (fun same => bracket rest (by rw [same]))]

/-- A quoted key and its colon are followed by one value. `body` begins that value. -/
theorem parseMembers_key (fuel : Nat) (done : List (String × Value)) (lit : StringLit)
    (gap : Spaces) {lead body : Text} (skipped : skipSpaces (lead ++ body) = body)
    : parseMembers readNumber (fuel + 1) done
          (lit.write (gap.val ++ ':' :: (lead ++ body)))
      = lit.denote.bind
          (fun key =>
            (parseValue readNumber fuel body).bind
              (fun result =>
                match skipSpaces result.2 with
                | ',' :: rest =>
                    parseMembers readNumber fuel (insertField key result.1 done)
                      (skipSpaces rest)
                | '}' :: rest => some (.object (insertField key result.1 done), rest)
                | _ => none)) := by
  simp only [parseMembers, StringLit.write, parseString_literal]
  cases lit.denote with
  | none => rfl
  | some key =>
      simp only [Option.map_some, Option.bind_some, skipSpaces_append gap (c := ':') (by decide),
        skipped]
      cases parseValue readNumber fuel body <;> rfl

mutual
/-- With enough fuel a strict tree's text is read as its denotation, with less fuel not at
all; by induction on the tree, the remaining text staying untouched throughout.
-/
theorem Syntax.parseValue_write (tree : Syntax) (strict : tree.strict = true) {rest : Text}
    (delimited : Delimited rest) (fuel : Nat)
    : parseValue readNumber fuel (tree.write rest)
      = if tree.cost ≤ fuel then (tree.denote readNumber).map (fun value => (value, rest))
        else none := by
  cases fuel with
  | zero =>
      have positive : 0 < tree.cost := by cases tree <;> simp [Syntax.cost]
      rw [if_neg (by omega)]
      rfl
  | succ fuel =>
      cases tree with
      | null => simp [Syntax.write, parseValue, parseKeyword, Syntax.denote, Syntax.cost, isDigit]
      | bool b =>
          cases b <;>
            simp [Syntax.write, parseValue, parseKeyword, Syntax.denote, Syntax.cost, isDigit]
      | number lit =>
          obtain ⟨c, tail, eq, start⟩ := lit.head
          have read := parseNumber_literal readNumber lit delimited
          have other : c ≠ '"' ∧ c ≠ '[' ∧ c ≠ '{' := by
            rcases start with rfl | digit
            · decide
            · refine ⟨?_, ?_, ?_⟩ <;> rintro rfl <;> exact absurd digit (by decide)
          have number : (c = '-' || isDigit c) = true := by simpa using start
          simp only [Syntax.write, eq, List.cons_append] at read ⊢
          simp only [parseValue, other.1, other.2.1, other.2.2, number, if_false, if_true, read,
            Syntax.denote, Syntax.cost, eq, Option.map_map]
          simp [Function.comp_def]
      | string lit =>
          simp only [Syntax.write, StringLit.write, parseValue, if_true, parseString_literal,
            Syntax.denote, Syntax.cost, Option.map_map]
          simp [Function.comp_def]
      | emptyArray inner =>
          simp [Syntax.write, parseValue, skipSpaces_append inner (c := ']') (by decide),
            Syntax.denote, Syntax.cost]
      | emptyObject inner =>
          simp [Syntax.write, parseValue, skipSpaces_append inner (c := '}') (by decide),
            Syntax.denote, Syntax.cost]
      | array elements =>
          obtain ⟨c, tail, body, open'⟩ := elements.skipSpaces_write (']' :: rest)
          have inner := elements.parseElements_write (by simpa [Syntax.strict] using strict)
            rest fuel []
          rw [Syntax.write, parseValue_openArray readNumber fuel body open', ← body, inner]
          simp only [Syntax.cost, Nat.add_le_add_iff_right, Syntax.denote, Option.map_map,
            List.nil_append]
          rfl
      | object members =>
          have quoted : members.strict = true := by simpa [Syntax.strict] using strict
          obtain ⟨tail, body⟩ := members.skipSpaces_write quoted ('}' :: rest)
          have inner := members.parseMembers_write quoted rest fuel []
          rw [Syntax.write, parseValue_openObject readNumber fuel body (by decide), ← body, inner]
          simp only [Syntax.cost, Nat.add_le_add_iff_right, Syntax.denote, Option.map_map]
          rfl

theorem Elements.parseElements_write (elements : Elements) (strict : elements.strict = true)
    (rest : Text) (fuel : Nat) (done : List Value)
    : parseElements readNumber fuel done (skipSpaces (elements.write (']' :: rest)))
      = if elements.cost ≤ fuel then
          (elements.denote readNumber).map (fun values => (.array (done ++ values), rest))
        else none := by
  cases fuel with
  | zero =>
      have positive : 0 < elements.cost := by cases elements <;> simp [Elements.cost]
      rw [if_neg (by omega)]
      rfl
  | succ fuel =>
      cases elements with
      | last before value after =>
          have delimited : Delimited (after.val ++ ']' :: rest) :=
            (delimited_cons.mpr (by simp)).spaces after
          have read := value.parseValue_write (by simpa [Elements.strict] using strict)
            delimited fuel
          rw [Elements.write, Syntax.skipSpaces_write]
          simp only [Elements.cost, Nat.add_le_add_iff_right, Elements.denote, Option.map_map]
          by_cases enough : value.cost ≤ fuel
          · rw [if_pos enough] at read ⊢
            cases meaning : value.denote readNumber with
            | none => simp [parseElements, read, meaning]
            | some v =>
                rw [meaning] at read
                rw [parseElements_next readNumber fuel done after (by decide) read]
                simp
          · rw [if_neg enough] at read ⊢
            simp [parseElements, read]
      | more before value after others =>
          simp only [Elements.strict, Bool.and_eq_true] at strict
          have delimited : Delimited (after.val ++ ',' :: others.write (']' :: rest)) :=
            (delimited_cons.mpr (by simp)).spaces after
          have read := value.parseValue_write strict.1 delimited fuel
          rw [Elements.write, Syntax.skipSpaces_write]
          simp only [Elements.cost, Nat.add_le_add_iff_right, Elements.denote, Nat.max_le]
          by_cases enough : value.cost ≤ fuel
          · rw [if_pos enough] at read
            cases meaning : value.denote readNumber with
            | none => simp [parseElements, read, meaning]
            | some v =>
                rw [meaning] at read
                rw [parseElements_next readNumber fuel done after (by decide) read, if_pos rfl,
                  others.parseElements_write strict.2 rest fuel (done ++ [v])]
                simp only [enough, true_and, Option.bind_some, Option.map_map,
                  List.append_assoc, List.singleton_append]
                rfl
          · rw [if_neg enough] at read
            simp [parseElements, read, enough]

theorem Members.parseMembers_write (members : Members) (strict : members.strict = true)
    (rest : Text) (fuel : Nat) (done : List (String × Value))
    : parseMembers readNumber fuel done (skipSpaces (members.write ('}' :: rest)))
      = if members.cost ≤ fuel then
          (members.denote readNumber).map
            (fun fields => (.object (insertFields fields done), rest))
        else none := by
  cases fuel with
  | zero =>
      have positive : 0 < members.cost := by cases members <;> simp [Members.cost]
      rw [if_neg (by omega)]
      rfl
  | succ fuel =>
      cases members with
      | last before key gap lead value after =>
          simp only [Members.strict, Bool.and_eq_true] at strict
          obtain ⟨lit, rfl⟩ := Key.eq_quoted strict.1
          have delimited : Delimited (after.val ++ '}' :: rest) :=
            (delimited_cons.mpr (by simp)).spaces after
          have read := value.parseValue_write strict.2 delimited fuel
          rw [Members.write, Key.write, StringLit.write, skipSpaces_append _ (by decide),
            ← StringLit.write, parseMembers_key _ _ _ _ _ (value.skipSpaces_write lead _), read]
          simp only [Members.cost, Nat.add_le_add_iff_right, Members.denote, Key.denote]
          by_cases enough : value.cost ≤ fuel
          · simp only [enough, if_true]
            cases lit.denote with
            | none => rfl
            | some name =>
                cases value.denote readNumber with
                | none => rfl
                | some v => simp [skipSpaces_append after (c := '}') (by decide), insertFields]
          · simp [enough]
      | more before key gap lead value after others =>
          simp only [Members.strict, Bool.and_eq_true] at strict
          obtain ⟨lit, rfl⟩ := Key.eq_quoted strict.1.1
          have delimited : Delimited (after.val ++ ',' :: others.write ('}' :: rest)) :=
            (delimited_cons.mpr (by simp)).spaces after
          have read := value.parseValue_write strict.1.2 delimited fuel
          rw [Members.write, Key.write, StringLit.write, skipSpaces_append _ (by decide),
            ← StringLit.write, parseMembers_key _ _ _ _ _ (value.skipSpaces_write lead _), read]
          simp only [Members.cost, Nat.add_le_add_iff_right, Members.denote, Key.denote,
            Nat.max_le]
          by_cases enough : value.cost ≤ fuel
          · simp only [enough, if_true, true_and]
            cases lit.denote with
            | none => simp
            | some name =>
                cases value.denote readNumber with
                | none => simp
                | some v =>
                    simp only [Option.map_some, Option.bind_some,
                      skipSpaces_append after (c := ',') (by decide)]
                    rw [others.parseMembers_write strict.2 rest fuel (insertField name v done)]
                    simp only [Option.map_map]
                    rfl
          · simp [enough]
end

end Parse

-----------------------------------------------------------------------------------------
-- Whole texts
-----------------------------------------------------------------------------------------

/-- A key's text is followed by all of the remaining text. -/
theorem Key.write_length (key : Key) (rest : Text)
    : rest.length ≤ (key.write rest).length := by
  cases key with
  | quoted lit =>
      simp only [Key.write, StringLit.write, List.length_cons, List.length_append]
      omega
  | single name =>
      simp only [Key.write, List.length_cons, List.length_append]
      omega
  | bare name => simp only [Key.write, List.length_append]; omega

mutual
/-- A tree's cost is at most the length of its text, by induction on the tree. -/
theorem Syntax.cost_le (tree : Syntax) (rest : Text)
    : tree.cost + rest.length ≤ (tree.write rest).length := by
  cases tree with
  | null => simp only [Syntax.cost, Syntax.write, List.length_cons]; omega
  | bool b => cases b <;> simp only [Syntax.cost, Syntax.write, List.length_cons] <;> omega
  | number lit =>
      obtain ⟨c, tail, eq, -⟩ := lit.head
      simp only [Syntax.cost, Syntax.write, eq, List.cons_append, List.length_cons,
        List.length_append]
      omega
  | string lit =>
      simp only [Syntax.cost, Syntax.write, StringLit.write, List.length_cons, List.length_append]
      omega
  | emptyArray inner =>
      simp only [Syntax.cost, Syntax.write, List.length_cons, List.length_append]
      omega
  | emptyObject inner =>
      simp only [Syntax.cost, Syntax.write, List.length_cons, List.length_append]
      omega
  | array elements =>
      have inner := elements.cost_le (']' :: rest)
      simp only [Syntax.cost, Syntax.write, List.length_cons] at inner ⊢
      omega
  | object members =>
      have inner := members.cost_le ('}' :: rest)
      simp only [Syntax.cost, Syntax.write, List.length_cons] at inner ⊢
      omega

theorem Elements.cost_le (elements : Elements) (rest : Text)
    : elements.cost + rest.length ≤ (elements.write rest).length + 1 := by
  cases elements with
  | last before value after =>
      have inner := value.cost_le (after.val ++ rest)
      simp only [Elements.cost, Elements.write, List.length_append] at inner ⊢
      omega
  | more before value after others =>
      have inner := value.cost_le (after.val ++ ',' :: others.write rest)
      have tail := others.cost_le rest
      simp only [Elements.cost, Elements.write, List.length_append, List.length_cons] at inner ⊢
      omega

theorem Members.cost_le (members : Members) (rest : Text)
    : members.cost + rest.length ≤ (members.write rest).length + 1 := by
  cases members with
  | last before key gap lead value after =>
      have inner := value.cost_le (after.val ++ rest)
      have keyed := key.write_length
        (gap.val ++ ':' :: (lead.val ++ value.write (after.val ++ rest)))
      simp only [Members.cost, Members.write, List.length_append, List.length_cons]
        at inner keyed ⊢
      omega
  | more before key gap lead value after others =>
      have inner := value.cost_le (after.val ++ ',' :: others.write rest)
      have tail := others.cost_le rest
      have keyed := key.write_length
        (gap.val ++ ':' :: (lead.val ++ value.write (after.val ++ ',' :: others.write rest)))
      simp only [Members.cost, Members.write, List.length_append, List.length_cons]
        at inner keyed ⊢
      omega
end

/-- Whitespace up to the end of the text is skipped completely. -/
theorem skipSpaces_all (spaces : Spaces) : skipSpaces spaces.val = [] := by
  rw [skipSpaces, List.dropWhile_eq_nil_iff]
  exact List.all_eq_true.mp spaces.property

/-- A whole strict text has exactly the value its tree denotes, if any. -/
theorem parse_write (readNumber : Text → Option Number) (before after : Spaces)
    (tree : Syntax) (strict : tree.strict = true)
    : parse readNumber (before.val ++ tree.write after.val) = tree.denote readNumber := by
  have delimited : Delimited after.val := by
    simpa using delimited_nil.spaces after
  have enough : tree.cost ≤ (before.val ++ tree.write after.val).length + 1 := by
    have bound := tree.cost_le after.val
    simp only [List.length_append]
    omega
  rw [parse, Syntax.skipSpaces_write,
    tree.parseValue_write readNumber strict delimited, if_pos enough]
  cases tree.denote readNumber with
  | none => rfl
  | some value => simp [skipSpaces_all]

end SqliteServer.Json
