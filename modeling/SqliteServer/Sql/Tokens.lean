import Mathlib.Data.List.TakeWhile

/-! The lexical rules of SQLite, as an automaton that takes one character at a time.

A token is continued as long as its state takes the next character. The character after the next one
is looked at in three places, and is then part of the token.
-/

namespace SqliteServer.Sql

inductive Kind where
  | space
  | comment
  | string
  | quotedName
  | blob
  | integer
  | float
  | separated
  | word
  | variable
  | operator
  | illegal
deriving DecidableEq

structure Token where
  kind : Kind
  text : List Char
deriving DecidableEq

/-- How far a numeral has been read. -/
inductive Phase where
  | zero
  | whole
  | fraction
  | exponentMark
  | exponentSign
  | exponent
  | hexMark
  | hex
  | malformed
deriving DecidableEq

/-- The quotes that are doubled inside the token they delimit. -/
inductive Quote where
  | single
  | double
  | backtick
deriving DecidableEq

def Quote.char : Quote → Char
  | .single => '\''
  | .double => '"'
  | .backtick => '\x60'

/-- How far a token has been read. A complete token is continued by nothing. -/
inductive State where
  | complete (kind : Kind)
  | space
  | minus
  | arrow
  | lineComment
  | slash
  | blockOpening
  | block (star : Bool)
  | equals
  | less
  | greater
  | bang
  | pipe
  | quoted (quote : Quote)
  | quoteEnd (quote : Quote)
  | bracket
  | dot
  | number (phase : Phase) (separated : Bool)
  | letterX
  | blob (even : Bool)
  | malformedBlob
  | word
  | placeholder
  | sigil (named : Bool)
  | sigilColon (named : Bool)
  | arguments
deriving DecidableEq

def isSpace (c : Char) : Bool := c = ' ' || ('\t' ≤ c && c ≤ '\r')

def isHexDigit (c : Char) : Bool :=
  c.isDigit || ('a' ≤ c && c ≤ 'f') || ('A' ≤ c && c ≤ 'F')

def isIdChar (c : Char) : Bool :=
  c.isAlphanum || c = '_' || c = '$' || decide (0x80 ≤ c.toNat)

/-- The state after the first character of a token. -/
def start (c : Char) : State :=
  if c = '\ufeff' then .complete .space
  else if isSpace c && c ≠ '\x0b' then .space
  else if c.isDigit then .number (if c = '0' then .zero else .whole) false
  else if c = 'x' || c = 'X' then .letterX
  else if c.isAlpha || c = '_' || decide (0x80 ≤ c.toNat) then .word
  else
    match c with
    | '-' => .minus
    | '/' => .slash
    | '=' => .equals
    | '<' => .less
    | '>' => .greater
    | '!' => .bang
    | '|' => .pipe
    | '\'' => .quoted .single
    | '"' => .quoted .double
    | '\x60' => .quoted .backtick
    | '[' => .bracket
    | '.' => .dot
    | '?' => .placeholder
    | '$' | '@' | '#' | ':' => .sigil false
    | '(' | ')' | ';' | '+' | '*' | '%' | ',' | '&' | '~' => .complete .operator
    | _ => .complete .illegal

/-- The digits of a numeral may be separated by underscores. -/
def digitStep (phase : Phase) (separated : Bool) (c : Char) : Option State :=
  if c.isDigit then some (.number phase separated)
  else if c = '_' then some (.number phase true)
  else none

/-- What follows the digits before an exponent. -/
def afterDigits (separated : Bool) (c : Char) : Option State :=
  if c = 'e' || c = 'E' then some (.number .exponentMark separated)
  else if isIdChar c then some (.number .malformed separated)
  else none

def numberStep (phase : Phase) (separated : Bool) (c : Char) (rest : List Char) : Option State :=
  match phase with
  | .zero =>
      if c = 'x' || c = 'X' then some (.number .hexMark separated)
      else if c = '.' then some (.number .fraction separated)
      else (digitStep .whole separated c).or (afterDigits separated c)
  | .whole =>
      if c = '.' then some (.number .fraction separated)
      else (digitStep .whole separated c).or (afterDigits separated c)
  | .fraction => (digitStep .fraction separated c).or (afterDigits separated c)
  | .exponentMark =>
      if c.isDigit then some (.number .exponent separated)
      else if (c = '+' || c = '-') && rest.head?.any Char.isDigit then
        some (.number .exponentSign separated)
      else if isIdChar c then some (.number .malformed separated)
      else none
  | .exponentSign => if c.isDigit then some (.number .exponent separated) else none
  | .exponent =>
      (digitStep .exponent separated c).or
        (if isIdChar c then some (.number .malformed separated) else none)
  | .hexMark =>
      if isHexDigit c then some (.number .hex separated)
      else if isIdChar c then some (.number .malformed separated)
      else none
  | .hex =>
      if isHexDigit c then some (.number .hex separated)
      else if c = '_' then some (.number .hex true)
      else if isIdChar c then some (.number .malformed separated)
      else none
  | .malformed => if isIdChar c then some (.number .malformed separated) else none

/-- The state after one more character, or none where the token ends before it. -/
def step (state : State) (c : Char) (rest : List Char) : Option State :=
  match state with
  | .complete _ => none
  | .space => if isSpace c then some .space else none
  | .minus =>
      if c = '-' then some .lineComment else if c = '>' then some .arrow else none
  | .arrow => if c = '>' then some (.complete .operator) else none
  | .lineComment => if c = '\n' then none else some .lineComment
  | .slash => if c = '*' && !rest.isEmpty then some .blockOpening else none
  | .blockOpening => some (.block (c = '*'))
  | .block star => if star && c = '/' then some (.complete .comment) else some (.block (c = '*'))
  | .equals => if c = '=' then some (.complete .operator) else none
  | .less => if c = '=' || c = '>' || c = '<' then some (.complete .operator) else none
  | .greater => if c = '=' || c = '>' then some (.complete .operator) else none
  | .bang => if c = '=' then some (.complete .operator) else none
  | .pipe => if c = '|' then some (.complete .operator) else none
  | .quoted quote => if c = quote.char then some (.quoteEnd quote) else some (.quoted quote)
  | .quoteEnd quote => if c = quote.char then some (.quoted quote) else none
  | .bracket => if c = ']' then some (.complete .quotedName) else some .bracket
  | .dot => if c.isDigit then some (.number .fraction false) else none
  | .number phase separated => numberStep phase separated c rest
  | .letterX =>
      if c = '\'' then some (.blob true) else if isIdChar c then some .word else none
  | .blob even =>
      if isHexDigit c then some (.blob !even)
      else if c = '\'' then some (.complete (if even then .blob else .illegal))
      else some .malformedBlob
  | .malformedBlob => if c = '\'' then some (.complete .illegal) else some .malformedBlob
  | .word => if isIdChar c then some .word else none
  | .placeholder => if c.isDigit then some .placeholder else none
  | .sigil named =>
      if isIdChar c then some (.sigil true)
      else if c = '(' && named then some .arguments
      else if c = ':' && rest.head? = some ':' then some (.sigilColon named)
      else none
  | .sigilColon named => if c = ':' then some (.sigil named) else none
  | .arguments =>
      if c = ')' then some (.complete .variable) else if isSpace c then none else some .arguments

def numberKind (phase : Phase) (separated : Bool) : Kind :=
  match phase with
  | .zero | .whole | .hex => if separated then .separated else .integer
  | .fraction | .exponent => if separated then .separated else .float
  | .exponentMark | .exponentSign | .hexMark | .malformed => .illegal

/-- The kind of a token that ends in a state. -/
def State.kind : State → Kind
  | .complete kind => kind
  | .space => .space
  | .lineComment | .blockOpening | .block _ => .comment
  | .minus | .arrow | .slash | .equals | .less | .greater | .pipe | .dot => .operator
  | .quoteEnd quote => if quote = .single then .string else .quotedName
  | .number phase separated => numberKind phase separated
  | .letterX | .word => .word
  | .placeholder => .variable
  | .sigil named => if named then .variable else .illegal
  | .bang | .quoted _ | .bracket | .blob _ | .malformedBlob | .sigilColon _ | .arguments =>
      .illegal

/-- The tokens of a text whose first one has been read up to a state. -/
def lex (state : State) (taken : List Char) : List Char → List Token
  | [] => [⟨state.kind, taken⟩]
  | c :: rest =>
      match step state c rest with
      | some next => lex next (taken ++ [c]) rest
      | none => ⟨state.kind, taken⟩ :: lex (start c) [c] rest

/-- The tokens of a text, spaces and comments included. -/
def tokens : List Char → List Token
  | [] => []
  | c :: rest => lex (start c) [c] rest

example : (tokens "SELECT 'a''?', x'0f', ?1 -- ?".toList).map Token.kind
    = [.word, .space, .string, .operator, .space, .blob, .operator, .space, .variable, .space,
      .comment] := by
  decide +kernel

end SqliteServer.Sql
