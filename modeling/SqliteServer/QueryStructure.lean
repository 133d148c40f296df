import SqliteServer.BinderAgreement
import SqliteServer.Sql.TokenLists
import SqliteServer.SqlLiterals

/-! The tokens of a query with its parameters, next to the tokens of the template. -/

namespace SqliteServer

open Binary64 Regex Sql RustClient

-----------------------------------------------------------------------------------------
-- The tokens that should be
-----------------------------------------------------------------------------------------

section Structure

variable (params : Slice Param)

/-- The value for a placeholder with these digits, if there is one, and the next bare value. -/
def slot (next : Nat) : List Char → Option (Param × Nat)
  | [] => params.items[next]?.map (fun param => (param, next + 1))
  | digits =>
      let index := (parseUnsigned usizeLimit (String.ofList digits)).getD 0
      if index = 0 then none else params.items[index - 1]?.map (fun param => (param, next))

/-- The value for a token, if the token is a placeholder. -/
def valueOf (next : Nat) (token : Token) : Option (Param × Nat) :=
  match token.text with
  | '?' :: digits => slot params next digits
  | _ => none

/-- The tokens with the literals of the values for the placeholders. -/
def boundTokens : Nat → List Token → List Token
  | _, [] => []
  | next, token :: rest =>
      match valueOf params next token with
      | some (param, after) => tokens (serializeSqlValue param) ++ boundTokens after rest
      | none => token :: boundTokens next rest

/-- The text of these tokens. -/
def boundText : Nat → List Token → List Char
  | _, [] => []
  | next, token :: rest =>
      match valueOf params next token with
      | some (param, after) => serializeSqlValue param ++ boundText after rest
      | none => token.text ++ boundText next rest

/-- The tokens of a value: NULL, or a literal after a sign if it is a negative number. -/
def IsLiteral : List Token → Prop
  | [token] =>
      token.kind ∈ [.integer, .float, .string, .blob] ∨ token = ⟨.word, "NULL".toList⟩
  | [sign, token] => sign = ⟨.operator, ['-']⟩ ∧ token.kind ∈ [.integer, .float]
  | _ => False

-----------------------------------------------------------------------------------------
-- When they are
-----------------------------------------------------------------------------------------

/-- No question mark in a text has a value, with the decimal digits after it as its number. -/
def Unvalued (decimal : DecimalDigits) (next : Nat) (text : List Char) : Prop :=
  ∀ before after,
    text = before ++ '?' :: after → slot params next (after.takeWhile decimal.isDigit) = none

/-- The head of a text, if there is one, is no decimal digit. -/
def NoDigit (decimal : DecimalDigits) (text : List Char) : Prop :=
  ∀ c ∈ text.head?, decimal.isDigit c = false

/-- A question mark inside another token has no value, and no placeholder that has one is followed
by a decimal digit, which would be one outside ASCII.
-/
def Spared (decimal : DecimalDigits) : Nat → List Token → Prop
  | _, [] => True
  | next, token :: rest =>
      match valueOf params next token with
      | some (_, after) =>
          NoDigit decimal (rest.map Token.text).flatten ∧ Spared decimal after rest
      | none => Unvalued params decimal next token.text ∧ Spared decimal next rest

def NoNul : Param → Prop
  | .text s => '\x00' ∉ s.toList
  | _ => True

/-- No text that is put in has a NUL. -/
def Solid : Nat → List Token → Prop
  | _, [] => True
  | next, token :: rest =>
      match valueOf params next token with
      | some (param, after) => NoNul param ∧ Solid after rest
      | none => Solid next rest

def unsigned : List Char → List Char
  | '-' :: body => body
  | body => body

/-- With the literals in place, no token is continued by the character after it. -/
def Separate : Nat → List Token → Prop
  | _, [] => True
  | next, token :: rest =>
      match valueOf params next token with
      | some (param, after) =>
          continued (unsigned (serializeSqlValue param)) (boundText params after rest) = false
          ∧ Separate after rest
      | none => continued token.text (boundText params next rest) = false ∧ Separate next rest

end Structure

-----------------------------------------------------------------------------------------
-- Literals
-----------------------------------------------------------------------------------------

/-- A decimal is one number that begins with a digit, whatever comes after it. -/
theorem plain_run (d : Decimal)
    : ∃ c chars final,
        d.plain = c :: chars
        ∧ c.isDigit = true
        ∧ final.kind ∈ [Kind.integer, Kind.float]
        ∧ ∀ rest, run rest (start c) chars = some final := by
  by_cases pointed : 0 ≤ d.exponent
  · obtain ⟨c, chars, digits, digit⟩ := toDigits_head d.integer
    have all := toDigits_digits d.integer
    rw [digits] at all
    obtain ⟨phase, either, ran⟩ := run_digits all
    have integer : (State.number phase false).kind = .integer := by
      rcases either with rfl | rfl <;> rfl
    refine ⟨c, chars, _, (if_pos pointed).trans digits, digit, ?_, ran⟩
    rw [integer]
    decide
  · obtain ⟨c, chars, digits, digit⟩ := toDigits_head (d.digits / 10 ^ (-d.exponent).toNat)
    have all := toDigits_digits (d.digits / 10 ^ (-d.exponent).toNat)
    rw [digits] at all
    have places := zeroPadded_digits (-d.exponent).toNat (d.digits % 10 ^ (-d.exponent).toNat)
    refine ⟨c, _, _, (if_neg pointed).trans ?_, digit, ?_, fun rest => run_decimal rest all places⟩
    · rw [digits]
      rfl
    · decide

/-- A literal that is one token whatever comes after it, or a minus sign and a number. -/
def LiteralShape (text : List Char) : Prop :=
  ∃ c chars final,
    (∀ rest, run rest (start c) chars = some final)
    ∧ (text = c :: chars
        ∧ c ≠ '-'
        ∧ (final.kind ∈ [.integer, .float, .string, .blob]
          ∨ Token.mk final.kind (c :: chars) = ⟨.word, "NULL".toList⟩)
      ∨ text = '-' :: c :: chars ∧ c.isDigit = true ∧ final.kind ∈ [.integer, .float])

theorem literalShape_signed (d : Decimal) (negative : Bool)
    : LiteralShape (if negative then '-' :: d.plain else d.plain) := by
  obtain ⟨c, chars, final, text, digit, number, ran⟩ := plain_run d
  refine ⟨c, chars, final, ran, ?_⟩
  cases negative with
  | false =>
      refine Or.inl ⟨text, digit_ne digit (show '-'.isDigit = false by decide), Or.inl ?_⟩
      exact List.mem_append_left [.string, .blob] number
  | true => exact Or.inr ⟨congrArg (List.cons '-') text, digit, number⟩

theorem literalShape (param : Param)
    : LiteralShape (serializeSqlValue param) := by
  refine serializeSqlValue_forms ?_ literalShape_signed ?_ ?_ param
  · intro text member
    simp only [List.mem_cons, List.not_mem_nil, or_false] at member
    rcases member with rfl | rfl | rfl | rfl | rfl
    · exact ⟨'N', _, _, fun rest => rfl, Or.inl ⟨rfl, by decide, Or.inr rfl⟩⟩
    · exact ⟨'1', _, _, fun rest => rfl, Or.inl ⟨rfl, by decide, Or.inl (by decide)⟩⟩
    · exact ⟨'0', _, _, fun rest => rfl, Or.inl ⟨rfl, by decide, Or.inl (by decide)⟩⟩
    · exact ⟨'9', _, _, fun rest => rfl, Or.inl ⟨rfl, by decide, Or.inl (by decide)⟩⟩
    · exact ⟨'9', _, _, fun rest => rfl, Or.inr ⟨rfl, by decide, by decide⟩⟩
  · exact fun s => ⟨'\'', _, _, fun rest => run_string rest s,
      Or.inl ⟨rfl, by decide, Or.inl (by decide)⟩⟩
  · intro bytes
    obtain ⟨digits, text, even, chars, -⟩ := serialize_blob bytes
    exact ⟨'X', _, _, fun rest => run_blob rest (fun c member => (chars c member).1) even,
      Or.inl ⟨text, by decide, Or.inl (by decide)⟩⟩

theorem isLiteral_tokens {text : List Char} (shape : LiteralShape text)
    : IsLiteral (tokens text) := by
  obtain ⟨c, chars, final, ran, ⟨rfl, -, literal⟩ | ⟨rfl, digit, number⟩⟩ := shape
  · rw [tokens_literal (ran [])]
    exact literal
  · rw [tokens_negative digit (ran [])]
    exact ⟨rfl, number⟩

/-- A literal in front of other tokens: its tokens come first if and only if its last one is not
continued.
-/
theorem lexes_literal {text : List Char} (shape : LiteralShape text) (rest : List Char)
    (list : List Token)
    : Lexes (text ++ rest) (tokens text ++ list)
      ↔ continued (unsigned text) rest = false ∧ Lexes rest list := by
  obtain ⟨c, chars, final, ran, ⟨rfl, other, -⟩ | ⟨rfl, digit, -⟩⟩ := shape
  · have same : unsigned (c :: chars) = c :: chars := by
      unfold unsigned
      split
      · rename_i body split
        exact absurd (List.cons.inj split).1 other
      · rfl
    have ends : endState? (c :: chars) = some final := ran []
    rw [same, continued_iff ends, tokens_literal (ran [])]
    exact lexes_token (ran rest)
  · have sign : Stops .minus (c :: chars ++ rest) := by
      have minus := digit_ne digit (show '-'.isDigit = false by decide)
      have arrow := digit_ne digit (show '>'.isDigit = false by decide)
      simp [Stops, step, minus, arrow]
    have first
        : Lexes ('-' :: [] ++ (c :: chars ++ rest))
            (⟨.operator, ['-']⟩ :: ⟨final.kind, c :: chars⟩ :: list)
          ↔ Stops .minus (c :: chars ++ rest)
            ∧ Lexes (c :: chars ++ rest) (⟨final.kind, c :: chars⟩ :: list) :=
      lexes_token (run_nil (c :: chars ++ rest) (start '-'))
    have ends : endState? (c :: chars) = some final := ran []
    rw [tokens_negative digit (ran []), unsigned, continued_iff ends]
    refine first.trans ?_
    rw [lexes_token (ran rest)]
    exact and_iff_right sign

-----------------------------------------------------------------------------------------
-- Tokens of the text that should be
-----------------------------------------------------------------------------------------

/-- The text of the tokens that should be has these tokens if and only if none of them is continued
by the next character. By induction on the tokens of the template.
-/
theorem lexes_bound (params : Slice Param) {text : List Char} {list : List Token}
    (lexed : Lexes text list) (next : Nat)
    : Lexes (boundText params next list) (boundTokens params next list)
      ↔ Separate params next list := by
  induction lexed generalizing next with
  | nil => exact iff_of_true .nil trivial
  | @cons c chars rest final list ran stopped later ih =>
      cases value : valueOf params next ⟨final.kind, c :: chars⟩ with
      | some taken =>
          obtain ⟨param, after⟩ := taken
          simp only [boundText, boundTokens, Separate, value]
          rw [lexes_literal (literalShape param), ih]
      | none =>
          have ends : endState? (c :: chars) = some final := run_local ran stopped []
          simp only [boundText, boundTokens, Separate, value]
          rw [continued_iff ends, lexes_token (run_local ran stopped _), ih]

-----------------------------------------------------------------------------------------
-- The text that is
-----------------------------------------------------------------------------------------

section Binder

variable (decimal : DecimalDigits) (params : Slice Param)

def bindText (next : Nat) (text : List Char) : List Char :=
  (placeholderRe decimal).replaceAll (replacement params) next text

theorem bindText_copy (next : Nat) {c : Char} (other : c ≠ '?') (rest : List Char)
    : bindText decimal params next (c :: rest) = c :: bindText decimal params next rest := by
  refine Pattern.replaceAll_copy _ _ ?_
  rw [placeholderRe_matchAt, if_neg other]

theorem bindText_append (next : Nat) {plain : List Char} (none : '?' ∉ plain) (rest : List Char)
    : bindText decimal params next (plain ++ rest)
      = plain ++ bindText decimal params next rest := by
  induction plain with
  | nil => rfl
  | cons c more ih =>
      rw [List.mem_cons, not_or] at none
      rw [List.cons_append, bindText_copy decimal params next (Ne.symm none.1), ih none.2,
        List.cons_append]

theorem slot_digits (next : Nat) {digits : List Char} (some' : digits ≠ [])
    : slot params next digits
      = if (parseUnsigned usizeLimit (String.ofList digits)).getD 0 = 0 then none
        else
          params.items[(parseUnsigned usizeLimit (String.ofList digits)).getD 0 - 1]?.map
            (fun param => (param, next)) := by
  cases digits with
  | nil => exact absurd rfl some'
  | cons c rest => rfl

/-- What the binder does with one placeholder. -/
theorem replacement_slot (next : Nat) (rest : List Char)
    : replacement params next (placeholderMatch decimal rest)
      = match slot params next (rest.takeWhile decimal.isDigit) with
        | some (param, after) => (serializeSqlValue param, after)
        | none => ((placeholderMatch decimal rest).consumed, next) := by
  by_cases bare : rest.takeWhile decimal.isDigit = []
  · rw [placeholderMatch, if_pos bare, bare]
    by_cases inside : next < params.items.length
    · simp [replacement, slot, inside]
    · simp [replacement, slot, inside]
  · rw [slot_digits params next bare, placeholderMatch, if_neg bare]
    generalize rest.takeWhile decimal.isDigit = digits
    generalize read : (parseUnsigned usizeLimit (String.ofList digits)).getD 0 = index
    by_cases zero : index = 0
    · simp [replacement, read, zero]
    · by_cases inside : index ≤ params.items.length
      · have lower : 1 ≤ index ∧ index ≤ params.items.length := by omega
        have place : index - 1 < params.items.length := by omega
        simp [replacement, read, zero, lower, place]
      · have outside : ¬ (1 ≤ index ∧ index ≤ params.items.length) := by omega
        have place : params.items[index - 1]? = none := List.getElem?_eq_none (by omega)
        simp [replacement, read, zero, outside, place]

theorem takeWhile_noQuestion (rest : List Char)
    : '?' ∉ rest.takeWhile decimal.isDigit := by
  intro member
  have digit := List.mem_takeWhile_imp member
  rw [question_noDigit] at digit
  cases digit

theorem placeholderMatch_parts (rest : List Char)
    : (placeholderMatch decimal rest).consumed = '?' :: rest.takeWhile decimal.isDigit
      ∧ (placeholderMatch decimal rest).rest = rest.dropWhile decimal.isDigit := by
  have whole := List.takeWhile_append_dropWhile (p := decimal.isDigit) (l := rest)
  rw [placeholderMatch]
  split_ifs with bare
  · rw [bare] at whole ⊢
    exact ⟨rfl, whole.symm⟩
  · exact ⟨rfl, rfl⟩

theorem bindText_mark (next : Nat) (rest : List Char)
    : bindText decimal params next ('?' :: rest)
      = match slot params next (rest.takeWhile decimal.isDigit) with
        | some (param, after) =>
            serializeSqlValue param
            ++ bindText decimal params after (rest.dropWhile decimal.isDigit)
        | none => '?' :: bindText decimal params next rest := by
  have matched
      : (placeholderRe decimal).matchAt ('?' :: rest) = some (placeholderMatch decimal rest) := by
    rw [placeholderRe_matchAt, if_pos rfl]
  obtain ⟨consumed, remaining⟩ := placeholderMatch_parts decimal rest
  have some' : (placeholderMatch decimal rest).consumed ≠ [] := by
    rw [consumed]
    exact List.cons_ne_nil _ _
  rw [bindText, Pattern.replaceAll_match _ _ matched some', replacement_slot, remaining]
  cases slot params next (rest.takeWhile decimal.isDigit) with
  | some taken => rfl
  | none =>
      have copied := bindText_append decimal params next (takeWhile_noQuestion decimal rest)
        (rest.dropWhile decimal.isDigit)
      rw [List.takeWhile_append_dropWhile] at copied
      simp only [consumed, copied, List.cons_append]
      rfl

-----------------------------------------------------------------------------------------
-- Question marks inside tokens
-----------------------------------------------------------------------------------------

/-- The states inside a token that take a question mark and stay inside it. -/
def inside : State → Bool
  | .lineComment | .blockOpening | .block _ | .quoted _ | .bracket | .malformedBlob
  | .arguments => true
  | _ => false

theorem step_question {state next : State} {rest : List Char}
    (stepped : step state '?' rest = some next)
    : inside next = true := by
  have space : isSpace '?' = false := by decide
  have idChar : isIdChar '?' = false := by decide
  have hex : Sql.isHexDigit '?' = false := by decide
  have unquoted (quote : Quote) : '?' ≠ quote.char := by
    cases quote <;> decide
  cases state with
  | lineComment | blockOpening | block _ | quoted _ | bracket | blob _ | malformedBlob
  | arguments =>
      simp [step, unquoted, hex, space] at stepped
      rw [← stepped]
      rfl
  | number phase _ =>
      cases phase <;> simp [step, numberStep, digitStep, afterDigits, idChar, hex] at stepped
  | _ => simp [step, unquoted, idChar, space] at stepped

theorem decimal_ne {c other : Char} (digit : decimal.isDigit c = true)
    (ascii : other.toNat < 0x80) (noDigit : isAsciiDigit other = false)
    : c ≠ other := by
  rintro rfl
  rw [DecimalDigits.isDigit, decimal.ascii c ascii, noDigit] at digit
  cases digit

theorem decimal_noSpace {c : Char} (digit : decimal.isDigit c = true)
    : isSpace c = false := by
  cases space : isSpace c with
  | false => rfl
  | true =>
      have small : c.toNat < 0x80 ∧ isAsciiDigit c = false := by
        simp only [isSpace, isAsciiDigit, Bool.or_eq_true, Bool.and_eq_true, decide_eq_true_eq,
          Char.le_def, UInt32.le_iff_toNat_le, Bool.and_eq_false_iff, decide_eq_false_iff_not]
          at space ⊢
        rcases space with rfl | ⟨-, upper⟩
        · decide
        · have bound : c.toNat ≤ 13 := upper
          exact ⟨by omega, Or.inl fun lower => absurd (Nat.le_trans lower upper) (by decide)⟩
      exact absurd rfl (decimal_ne decimal digit small.1 small.2)

theorem step_decimal {state : State} {c : Char} (rest : List Char)
    (within : inside state = true) (digit : decimal.isDigit c = true)
    : ∃ next, step state c rest = some next ∧ inside next = true := by
  have newline : c ≠ '\n' := decimal_ne decimal digit (by decide) (by decide)
  have quote : c ≠ '\'' := decimal_ne decimal digit (by decide) (by decide)
  have bracket : c ≠ ']' := decimal_ne decimal digit (by decide) (by decide)
  have closing : c ≠ ')' := decimal_ne decimal digit (by decide) (by decide)
  have slash : c ≠ '/' := decimal_ne decimal digit (by decide) (by decide)
  have space := decimal_noSpace decimal digit
  have unquoted (quote : Quote) : c ≠ quote.char := by
    cases quote <;> exact decimal_ne decimal digit (by decide) (by decide)
  cases state with
  | lineComment => exact ⟨_, if_neg newline, rfl⟩
  | blockOpening => exact ⟨_, rfl, rfl⟩
  | block star => exact ⟨_, if_neg (by simp [slash]), rfl⟩
  | quoted quote => exact ⟨_, if_neg (unquoted quote), rfl⟩
  | bracket => exact ⟨_, if_neg bracket, rfl⟩
  | malformedBlob => exact ⟨_, if_neg quote, rfl⟩
  | arguments => exact ⟨_, (if_neg closing).trans (if_neg (by simp [space])), rfl⟩
  | _ => cases within

/-- Decimal digits after a question mark inside a token end where the token does or before. -/
theorem run_decimals {state final : State} {chars rest : List Char}
    (ran : run rest state chars = some final) (within : inside state = true)
    (digits : ∀ c ∈ chars, decimal.isDigit c = true)
    : inside final = true := by
  induction chars generalizing state with
  | nil =>
      cases ran
      exact within
  | cons c more ih =>
      obtain ⟨digit, others⟩ := List.forall_mem_cons.mp digits
      obtain ⟨next, stepped, still⟩ := step_decimal decimal (more ++ rest) within digit
      rw [run_cons stepped] at ran
      exact ih ran still others

theorem noDigit_nil
    : NoDigit decimal [] := by
  intro c head
  cases head

theorem noDigit_append {first second : List Char} (no : NoDigit decimal first)
    (also : NoDigit decimal second)
    : NoDigit decimal (first ++ second) := by
  cases first with
  | nil => exact also
  | cons c rest => exact no

theorem NoDigit.takeWhile {text : List Char} (no : NoDigit decimal text)
    : text.takeWhile decimal.isDigit = [] := by
  cases text with
  | nil => rfl
  | cons c rest => rw [List.takeWhile_cons, no c rfl]; rfl

/-- The digits after a question mark inside a token are in the token. -/
theorem takeWhile_inside {state final : State} {chars rest after : List Char}
    (ran : run rest state ('?' :: chars) = some final) (stopped : Stops final rest)
    (ends : NoDigit decimal after)
    : (chars ++ (rest ++ after)).takeWhile decimal.isDigit
      = chars.takeWhile decimal.isDigit := by
  obtain ⟨next, stepped, later⟩ := run_head ran
  rw [List.takeWhile_append]
  split_ifs with whole
  · have digits : ∀ c ∈ chars, decimal.isDigit c = true :=
      List.takeWhile_eq_self_iff.mp ((List.takeWhile_prefix _).eq_of_length whole)
    have within := run_decimals decimal later (step_question stepped) digits
    have no : NoDigit decimal rest := by
      intro c head
      cases rest with
      | nil => cases head
      | cons d others =>
          cases head
          rw [← Bool.not_eq_true]
          intro digit
          obtain ⟨_, taken, -⟩ := step_decimal decimal others within digit
          cases stopped.symm.trans taken
    rw [(noDigit_append decimal no ends).takeWhile, List.append_nil,
      List.takeWhile_eq_self_iff.mpr digits]
  · rfl

theorem unvalued_cons (next : Nat) (c : Char) (more : List Char)
    : Unvalued params decimal next (c :: more)
      ↔ (c = '?' → slot params next (more.takeWhile decimal.isDigit) = none)
        ∧ Unvalued params decimal next more := by
  constructor
  · intro unvalued
    refine ⟨fun mark => unvalued [] more (congrArg (· :: more) mark), fun before after split => ?_⟩
    exact unvalued (c :: before) after (congrArg (List.cons c) split)
  · rintro ⟨here, later⟩ before after split
    cases before with
    | nil =>
        cases split
        exact here rfl
    | cons d before =>
        cases split
        exact later before after rfl

theorem literal_noMark (param : Param) (rest other : List Char)
    : serializeSqlValue param ++ rest ≠ '?' :: other := by
  obtain ⟨c, chars, literal, noMark⟩ := serializeSqlValue_head param
  rw [literal]
  intro same
  exact noMark (List.cons.inj same).1

/-- The characters of a token are kept if and only if no question mark among them has a value. By
induction on the characters.
-/
theorem bindText_inside {state final : State} {chars rest after out : List Char} (next : Nat)
    (ran : run rest state chars = some final) (stopped : Stops final rest)
    (ends : NoDigit decimal after)
    : bindText decimal params next (chars ++ (rest ++ after)) = chars ++ out
      ↔ Unvalued params decimal next chars
        ∧ bindText decimal params next (rest ++ after) = out := by
  induction chars generalizing state with
  | nil =>
      have unvalued : Unvalued params decimal next [] := by
        intro before after split
        exact absurd split.symm (by simp)
      exact (and_iff_right unvalued).symm
  | cons c more ih =>
      obtain ⟨_, -, later⟩ := run_head ran
      rw [unvalued_cons, and_assoc, ← ih later, List.cons_append, List.cons_append]
      by_cases mark : c = '?'
      · subst mark
        rw [bindText_mark, takeWhile_inside decimal ran stopped ends]
        cases value : slot params next (more.takeWhile decimal.isDigit) with
        | none => simp
        | some taken =>
            have other := literal_noMark taken.1
              (bindText decimal params taken.2
                ((more ++ (rest ++ after)).dropWhile decimal.isDigit))
              (more ++ out)
            simp [other]
      · rw [bindText_copy decimal params next mark]
        simp [mark]

-----------------------------------------------------------------------------------------
-- Placeholders
-----------------------------------------------------------------------------------------

/-- A placeholder is a question mark and ASCII digits. -/
theorem run_placeholder {chars rest : List Char} {final : State}
    (ran : run rest .placeholder chars = some final)
    : final = .placeholder ∧ ∀ c ∈ chars, isAsciiDigit c = true := by
  induction chars with
  | nil =>
      cases ran
      exact ⟨rfl, by simp⟩
  | cons c more ih =>
      obtain ⟨_, stepped, later⟩ := run_head ran
      simp only [step] at stepped
      split_ifs at stepped with digit
      cases stepped
      have ascii : isAsciiDigit c = true :=
        digit_forall (p := fun c => isAsciiDigit c = true) (by decide) digit
      exact ⟨(ih later).1, List.forall_mem_cons.mpr ⟨ascii, (ih later).2⟩⟩

theorem decimal_ascii {c : Char} (digit : isAsciiDigit c = true)
    : decimal.isDigit c = true := by
  rw [DecimalDigits.isDigit, value_asciiDigit decimal digit]
  rfl

/-- The number that is read is the one of the placeholder, if no other decimal digit follows. -/
theorem takeWhile_placeholder {digits rest : List Char}
    (all : ∀ c ∈ digits, isAsciiDigit c = true) (no : NoDigit decimal rest)
    : (digits ++ rest).takeWhile decimal.isDigit = digits
      ∧ (digits ++ rest).dropWhile decimal.isDigit = rest := by
  have decimals : ∀ c ∈ digits, decimal.isDigit c = true := fun c member =>
    decimal_ascii decimal (all c member)
  have whole := List.takeWhile_append_dropWhile (p := decimal.isDigit) (l := rest)
  rw [no.takeWhile, List.nil_append] at whole
  rw [List.takeWhile_append_of_pos decimals, List.dropWhile_append_of_pos decimals, whole,
    no.takeWhile, List.append_nil]
  exact ⟨rfl, rfl⟩

theorem slot_overlong (next : Nat) {digits rest : List Char} (stopped : Stops .placeholder rest)
    (all : ∀ c ∈ digits, isAsciiDigit c = true) (follows : ¬ NoDigit decimal rest)
    (after : List Char)
    : slot params next ((digits ++ (rest ++ after)).takeWhile decimal.isDigit) = none := by
  cases rest with
  | nil => exact absurd (noDigit_nil decimal) follows
  | cons c rest =>
      have digit : decimal.isDigit c = true := by
        by_contra other
        refine follows fun d head => ?_
        cases head
        exact Bool.eq_false_iff.mpr other
      have ascii : isAsciiDigit c = false := by
        rw [← Bool.not_eq_true]
        intro ascii
        have taken : c.isDigit = true := by
          simpa [isAsciiDigit, Char.isDigit, Char.le_def] using ascii
        simp [Stops, step, taken] at stopped
      have decimals : ∀ d ∈ digits, decimal.isDigit d = true := fun d member =>
        decimal_ascii decimal (all d member)
      rw [List.takeWhile_append_of_pos decimals, List.cons_append, List.takeWhile_cons,
        if_pos digit, slot_digits params next (by simp), parseUnsigned_other decimal]
      · rfl
      · intro d member
        rw [List.mem_append, List.mem_cons] at member
        rcases member with early | rfl | late
        · exact decimals d early
        · exact digit
        · exact List.mem_takeWhile_imp late
      · simp [ascii]

/-- A placeholder without a value is kept. -/
theorem bindText_kept (next : Nat) {digits rest : List Char}
    (all : ∀ c ∈ digits, isAsciiDigit c = true)
    (none : slot params next ((digits ++ rest).takeWhile decimal.isDigit) = none)
    : bindText decimal params next ('?' :: (digits ++ rest))
      = '?' :: (digits ++ bindText decimal params next rest) := by
  have noMark : '?' ∉ digits := fun member => absurd (all _ member) (by decide)
  rw [bindText_mark, none, bindText_append decimal params next noMark]

theorem unvalued_placeholder (next : Nat) {digits : List Char}
    (all : ∀ c ∈ digits, isAsciiDigit c = true) (none : slot params next digits = none)
    : Unvalued params decimal next ('?' :: digits) := by
  rw [unvalued_cons]
  constructor
  · intro _
    have taken := (takeWhile_placeholder decimal all (noDigit_nil decimal)).1
    rw [List.append_nil] at taken
    rw [taken, none]
  · rintro before after rfl
    exact absurd (all '?' (by simp)) (by decide)

-----------------------------------------------------------------------------------------
-- Runs
-----------------------------------------------------------------------------------------

theorem valueOf_other (next : Nat) (kind : Kind) {c : Char} (noMark : c ≠ '?')
    (chars : List Char)
    : valueOf params next ⟨kind, c :: chars⟩ = none := by
  unfold valueOf
  split
  · rename_i digits same
    exact absurd (List.cons.inj same).1 noMark
  · rfl

/-- What the binder makes of one token, with the text it should be in front of anything. -/
theorem bindText_token {c : Char} {chars rest : List Char} {final : State} (next : Nat)
    (ran : run rest (start c) chars = some final) (stopped : Stops final rest)
    (none : valueOf params next ⟨final.kind, c :: chars⟩ = none)
    {after : List Char} (ends : NoDigit decimal after) (out : List Char)
    : bindText decimal params next (c :: chars ++ (rest ++ after)) = c :: chars ++ out
      ↔ Unvalued params decimal next (c :: chars)
        ∧ bindText decimal params next (rest ++ after) = out := by
  by_cases mark : c = '?'
  · subst mark
    obtain ⟨rfl, all⟩ := run_placeholder ran
    have unvalued := unvalued_placeholder decimal params next all none
    have kept : bindText decimal params next ('?' :: (chars ++ (rest ++ after)))
        = '?' :: (chars ++ bindText decimal params next (rest ++ after)) := by
      refine bindText_kept decimal params next all ?_
      by_cases no : NoDigit decimal rest
      · rw [(takeWhile_placeholder decimal all (noDigit_append decimal no ends)).1]
        exact none
      · exact slot_overlong decimal params next stopped all no after
    rw [List.cons_append, kept, and_iff_right unvalued]
    simp
  · rw [unvalued_cons, List.cons_append, bindText_copy decimal params next mark,
      List.cons_append, List.cons_inj_right, bindText_inside decimal params next ran stopped ends]
    simp [mark]

theorem bindText_value {chars rest : List Char} {final : State} (next : Nat)
    (ran : run rest .placeholder chars = some final) (stopped : Stops final rest)
    {param : Param} {later : Nat} (value : slot params next chars = some (param, later))
    {after : List Char} (ends : NoDigit decimal after) (out : List Char)
    : bindText decimal params next ('?' :: (chars ++ (rest ++ after)))
        = serializeSqlValue param ++ out
      ↔ NoDigit decimal rest ∧ bindText decimal params later (rest ++ after) = out := by
  obtain ⟨rfl, all⟩ := run_placeholder ran
  by_cases no : NoDigit decimal rest
  · obtain ⟨taken, dropped⟩ :=
      takeWhile_placeholder decimal all (noDigit_append decimal no ends)
    rw [bindText_mark, taken, value, dropped, and_iff_right no]
    exact List.append_right_inj _
  · have none := slot_overlong decimal params next stopped all no after
    rw [bindText_kept decimal params next all none]
    exact iff_of_false (literal_noMark _ _ _).symm fun both => no both.1

/-- The binder turns the text of the tokens into the text that should be if and only if they are
spared. By induction on the tokens, with the counter as it is at each of them.
-/
theorem bindText_iff {text : List Char} {list : List Token} (lexed : Lexes text list)
    {after : List Char} (ends : NoDigit decimal after) (next : Nat)
    : ∃ last, ∀ out,
        bindText decimal params next (text ++ after) = boundText params next list ++ out
        ↔ Spared params decimal next list ∧ bindText decimal params last after = out := by
  induction lexed generalizing next with
  | nil => exact ⟨next, fun out => by simp [boundText, Spared]⟩
  | @cons c chars rest final list ran stopped later ih =>
      cases value : valueOf params next ⟨final.kind, c :: chars⟩ with
      | some taken =>
          obtain ⟨param, following⟩ := taken
          obtain ⟨last, same⟩ := ih following
          have mark : c = '?' := by
            by_contra noMark
            rw [valueOf_other params next _ noMark] at value
            cases value
          subst mark
          refine ⟨last, fun out => ?_⟩
          simp only [boundText, Spared, value, List.append_assoc, List.cons_append]
          rw [bindText_value decimal params next ran stopped value ends, same, later.texts,
            and_assoc]
      | none =>
          obtain ⟨last, same⟩ := ih next
          refine ⟨last, fun out => ?_⟩
          simp only [boundText, Spared, value]
          rw [List.append_assoc, List.append_assoc,
            bindText_token decimal params next ran stopped value ends, same, and_assoc]

theorem beforeNul_dropWhile (sql : List Char)
    : NoDigit decimal (sql.dropWhile (fun c => c ≠ '\x00'))
      ∧ ∀ next,
          beforeNul (bindText decimal params next (sql.dropWhile (fun c => c ≠ '\x00'))) = [] := by
  cases rest : sql.dropWhile (fun c => c ≠ '\x00') with
  | nil => exact ⟨noDigit_nil decimal, fun next => rfl⟩
  | cons c after =>
      have nul : c = '\x00' := by
        have stops := List.head?_dropWhile_not (fun c => decide (c ≠ '\x00')) sql
        rw [rest] at stops
        simpa using stops
      subst nul
      constructor
      · intro c head
        cases head
        rw [DecimalDigits.isDigit, decimal.ascii '\x00' (by decide)]
        decide
      · intro next
        rw [bindText_copy decimal params next (by decide)]
        rfl

theorem signed_solid (d : Decimal) (negative : Bool)
    : '\x00' ∉ (if negative then '-' :: d.plain else d.plain) := by
  cases negative with
  | false => exact plain_solid d
  | true => exact List.not_mem_cons_of_ne_of_not_mem (by decide) (plain_solid d)

/-- Only the literal of a text can have a NUL. -/
theorem serialize_solid (param : Param)
    : '\x00' ∉ serializeSqlValue param ↔ NoNul param := by
  cases param with
  | null => exact iff_of_true (by decide) trivial
  | bool b => cases b <;> exact iff_of_true (by decide) trivial
  | int n =>
      obtain ⟨d, negative, shown⟩ := serialize_int n
      rw [shown]
      exact iff_of_true (signed_solid d negative) trivial
  | real bits =>
      obtain ⟨text, member, shown⟩ | ⟨d, negative, shown⟩ := serialize_real bits
      · have fixed : ∀ text ∈ ["NULL", "9e999", "-9e999"], '\x00' ∉ text.toList := by decide
        rw [shown]
        exact iff_of_true (fixed text member) trivial
      · rw [shown]
        exact iff_of_true (signed_solid d negative) trivial
  | text s =>
      have quoted
          : serializeSqlValue (.text s) = '\'' :: (doubleQuotes s.toList ++ ['\'']) := rfl
      rw [quoted]
      simp [NoNul, doubleQuotes_mem]
  | blob bytes =>
      obtain ⟨digits, text, -, chars, -⟩ := serialize_blob bytes
      refine iff_of_true ?_ trivial
      have inner : '\x00' ∉ digits := fun member => (chars _ member).2 rfl
      rw [text]
      simp [inner]

theorem solid_iff {list : List Token} (plain : ∀ token ∈ list, '\x00' ∉ token.text) (next : Nat)
    : '\x00' ∉ boundText params next list ↔ Solid params next list := by
  induction list generalizing next with
  | nil => simp [boundText, Solid]
  | cons token rest ih =>
      obtain ⟨here, others⟩ := List.forall_mem_cons.mp plain
      cases value : valueOf params next token with
      | some taken => simp [boundText, Solid, value, serialize_solid, ih others]
      | none => simp [boundText, Solid, value, ih others, here]

/-- What SQLite reads of the query is the text that should be. -/
theorem beforeNul_bind (sql : List Char)
    : beforeNul (bind decimal sql params) = boundText params 0 (tokens (beforeNul sql))
      ↔ Spared params decimal 0 (tokens (beforeNul sql))
        ∧ Solid params 0 (tokens (beforeNul sql)) := by
  obtain ⟨ends, cut⟩ := beforeNul_dropWhile decimal params sql
  have lexed := (lexes_iff (beforeNul sql) _).mpr rfl
  obtain ⟨last, same⟩ := bindText_iff decimal params lexed ends 0
  have whole : beforeNul sql ++ sql.dropWhile (fun c => c ≠ '\x00') = sql :=
    List.takeWhile_append_dropWhile
  rw [whole] at same
  have plain : ∀ token ∈ tokens (beforeNul sql), '\x00' ∉ token.text := by
    intro token member nul
    have inText : '\x00' ∈ beforeNul sql := by
      rw [← lexed.texts]
      exact List.mem_flatten_of_mem (List.mem_map_of_mem member) nul
    simpa using List.mem_takeWhile_imp inText
  rw [← solid_iff params plain]
  constructor
  · intro read
    have split : bindText decimal params 0 sql
        = boundText params 0 (tokens (beforeNul sql))
          ++ (bind decimal sql params).dropWhile (fun c => c ≠ '\x00') := by
      rw [← read]
      exact List.takeWhile_append_dropWhile.symm
    refine ⟨((same _).mp split).1, fun nul => ?_⟩
    rw [← read] at nul
    simpa using List.mem_takeWhile_imp nul
  · rintro ⟨spared, solid⟩
    have split : bind decimal sql params = _ := (same _).mpr ⟨spared, rfl⟩
    have kept : ∀ c ∈ boundText params 0 (tokens (beforeNul sql)), decide (c ≠ '\x00') = true := by
      intro c member
      rw [decide_eq_true_eq]
      rintro rfl
      exact solid member
    rw [split, beforeNul, List.takeWhile_append_of_pos kept]
    exact (congrArg _ (cut last)).trans (List.append_nil _)

theorem boundTokens_texts (next : Nat) (list : List Token)
    : ((boundTokens params next list).map Token.text).flatten = boundText params next list := by
  induction list generalizing next with
  | nil => rfl
  | cons token rest ih =>
      cases value : valueOf params next token with
      | some taken =>
          have literal := ((lexes_iff (serializeSqlValue taken.1) _).mpr rfl).texts
          simp only [boundTokens, boundText, value, List.map_append, List.flatten_append, ih,
            literal]
      | none => simp only [boundTokens, boundText, value, List.map_cons, List.flatten_cons, ih]

/-- SQLite reads the tokens of the template, with those of a value for every placeholder that has
one.
-/
def KeepsStructure (sql : List Char) : Prop :=
  tokens (beforeNul (bind decimal sql params)) = boundTokens params 0 (tokens (beforeNul sql))
  ∧ ∀ param ∈ params.items, IsLiteral (tokens (serializeSqlValue param))

/-- The structure is kept if and only if no other question mark is replaced, no literal has a NUL,
and no token runs into the next one.
-/
theorem keepsStructure_iff (sql : List Char)
    : KeepsStructure decimal params sql
      ↔ Spared params decimal 0 (tokens (beforeNul sql))
        ∧ Solid params 0 (tokens (beforeNul sql))
        ∧ Separate params 0 (tokens (beforeNul sql)) := by
  have lexed := (lexes_iff (beforeNul sql) _).mpr rfl
  have literals : ∀ param ∈ params.items, IsLiteral (tokens (serializeSqlValue param)) :=
    fun param _ => isLiteral_tokens (literalShape param)
  rw [KeepsStructure, and_iff_left literals, ← lexes_iff, ← lexes_bound params lexed, ← and_assoc,
    ← beforeNul_bind]
  constructor
  · intro query
    have read := query.texts
    rw [boundTokens_texts] at read
    exact ⟨read.symm, read ▸ query⟩
  · rintro ⟨read, bound⟩
    rwa [read]

end Binder

/-- A text in place of a question mark inside a string ends the string. -/
theorem quotedMark_replaced
    : ¬ ∀ decimal params sql, KeepsStructure decimal params sql := by
  intro keeps
  have same := (keeps fullWidthDigits ⟨[.text ", a, "], by decide⟩ "SELECT '?'".toList).1
  revert same
  decide +kernel

end SqliteServer
