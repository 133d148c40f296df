import SqliteServer.Json.Value

/-! The strict JSON grammar as an executable parser, one text at a time. The reading of a number's
digits is a parameter; everything else follows the grammar of JSON texts.
-/

namespace SqliteServer.Json

/-- The characters of a text, in order. -/
abbrev Text := List Char

-----------------------------------------------------------------------------------------
-- Character classes
-----------------------------------------------------------------------------------------

/-- Insignificant whitespace between tokens. -/
def isSpace (c : Char) : Bool := c = ' ' || c = '\n' || c = '\t' || c = '\r'

def isDigit (c : Char) : Bool := '0' ≤ c && c ≤ '9'

/-- The characters that can occur in a number. -/
def isNumberChar (c : Char) : Bool :=
  isDigit c || c = '-' || c = '+' || c = '.' || c = 'e' || c = 'E'

def skipSpaces (text : Text) : Text := text.dropWhile isSpace

-----------------------------------------------------------------------------------------
-- Numbers
-----------------------------------------------------------------------------------------

/-- An optional exponent and nothing else. -/
def isExponent : Text → Bool
  | [] => true
  | e :: rest =>
      let digits :=
        match rest with
        | '+' :: digits => digits
        | '-' :: digits => digits
        | digits => digits
      (e = 'e' || e = 'E') && digits ≠ [] && digits.all isDigit

/-- An optional fraction, then an optional exponent. -/
def isFraction : Text → Bool
  | '.' :: rest => rest.takeWhile isDigit ≠ [] && isExponent (rest.dropWhile isDigit)
  | rest => isExponent rest

/-- A number: no leading zeros, digits on both sides of the point, digits in the exponent. -/
def isNumber (lexeme : Text) : Bool :=
  lexeme.all isNumberChar
  && match (match lexeme with | '-' :: body => body | body => body) with
    | '0' :: rest => isFraction rest
    | c :: rest => isDigit c && isFraction (rest.dropWhile isDigit)
    | [] => false

-----------------------------------------------------------------------------------------
-- Strings
-----------------------------------------------------------------------------------------

/-- Split a text after an opening quote into the raw content and what follows the closing
quote. A backslash takes the next character with it; control characters are refused.
-/
def lexString : Text → Option (Text × Text)
  | [] => none
  | '"' :: rest => some ([], rest)
  | '\\' :: c :: rest => (lexString rest).map (fun split => ('\\' :: c :: split.1, split.2))
  | c :: rest =>
      if c < ' ' then none else (lexString rest).map (fun split => (c :: split.1, split.2))

/-- The raw contents `lexString` can return: closed escapes and no unescaped quote. -/
def isContent : Text → Bool
  | [] => true
  | '"' :: _ => false
  | '\\' :: _ :: rest => isContent rest
  | ['\\'] => false
  | c :: rest => !(c < ' ') && isContent rest

def hexDigit? (c : Char) : Option Nat :=
  if isDigit c then some (c.toNat - '0'.toNat)
  else if 'a' ≤ c && c ≤ 'f' then some (c.toNat - 'a'.toNat + 10)
  else if 'A' ≤ c && c ≤ 'F' then some (c.toNat - 'A'.toNat + 10)
  else none

/-- The code unit written by four hexadecimal digits. -/
def codeUnit? (a b c d : Char) : Option Nat := do
  let a ← hexDigit? a
  let b ← hexDigit? b
  let c ← hexDigit? c
  let d ← hexDigit? d
  return ((a * 16 + b) * 16 + c) * 16 + d

/-- The character a one-letter escape stands for. -/
def escape? : Char → Option Char
  | '"' => some '"'
  | '\\' => some '\\'
  | '/' => some '/'
  | 'b' => some '\x08'
  | 'f' => some '\x0c'
  | 'n' => some '\n'
  | 'r' => some '\r'
  | 't' => some '\t'
  | _ => none

/-- The characters a raw content denotes. A surrogate is read only as half of a pair. -/
def unescape : Text → Option Text
  | [] => some []
  | '\\' :: 'u' :: a :: b :: c :: d :: rest => do
      let unit ← codeUnit? a b c d
      if 0xd800 ≤ unit ∧ unit < 0xdc00 then
        match rest with
        | '\\' :: 'u' :: e :: f :: g :: h :: rest =>
            let low ← codeUnit? e f g h
            if 0xdc00 ≤ low ∧ low < 0xe000 then
              let tail ← unescape rest
              return Char.ofNat (0x10000 + (unit - 0xd800) * 0x400 + (low - 0xdc00)) :: tail
            else none
        | _ => none
      else if 0xdc00 ≤ unit ∧ unit < 0xe000 then none
      else
        let tail ← unescape rest
        return Char.ofNat unit :: tail
  | '\\' :: c :: rest => do
      let head ← escape? c
      let tail ← unescape rest
      return head :: tail
  | c :: rest => (unescape rest).map (fun tail => c :: tail)

-----------------------------------------------------------------------------------------
-- Values
-----------------------------------------------------------------------------------------

section Parser

variable (readNumber : Text → Option Number)

def parseString (text : Text) : Option (String × Text) := do
  let (raw, rest) ← lexString text
  let content ← unescape raw
  return (String.ofList content, rest)

def parseKeyword (text : Text) : Option (Value × Text) :=
  match text with
  | 'n' :: 'u' :: 'l' :: 'l' :: rest => some (.null, rest)
  | 't' :: 'r' :: 'u' :: 'e' :: rest => some (.bool true, rest)
  | 'f' :: 'a' :: 'l' :: 's' :: 'e' :: rest => some (.bool false, rest)
  | _ => none

/-- The longest run of number characters has to be a number as a whole. -/
def parseNumber (text : Text) : Option (Value × Text) :=
  let lexeme := text.takeWhile isNumberChar
  if isNumber lexeme then
    (readNumber lexeme).map (fun n => (.number n, text.dropWhile isNumberChar))
  else none

mutual
/-- One value and the text after it. Fuel bounds the recursion; see `parse`. -/
def parseValue : Nat → Text → Option (Value × Text)
  | 0, _ => none
  | _, [] => none
  | fuel + 1, c :: text =>
      if c = '"' then (parseString text).map (fun result => (.string result.1, result.2))
      else if c = '[' then
        match skipSpaces text with
        | ']' :: rest => some (.array [], rest)
        | rest => parseElements fuel [] rest
      else if c = '{' then
        match skipSpaces text with
        | '}' :: rest => some (.object [], rest)
        | rest => parseMembers fuel [] rest
      else if c = '-' || isDigit c then parseNumber readNumber (c :: text)
      else parseKeyword (c :: text)

/-- The remaining elements of an array, after the values read so far. -/
def parseElements : Nat → List Value → Text → Option (Value × Text)
  | 0, _, _ => none
  | fuel + 1, done, text =>
      match parseValue fuel text with
      | none => none
      | some (value, rest) =>
          match skipSpaces rest with
          | ',' :: rest => parseElements fuel (done ++ [value]) (skipSpaces rest)
          | ']' :: rest => some (.array (done ++ [value]), rest)
          | _ => none

/-- The remaining members of an object, after the fields read so far. -/
def parseMembers : Nat → List (String × Value) → Text → Option (Value × Text)
  | 0, _, _ => none
  | fuel + 1, done, text =>
      match text with
      | '"' :: text =>
          match parseString text with
          | none => none
          | some (key, rest) =>
              match skipSpaces rest with
              | ':' :: rest =>
                  match parseValue fuel (skipSpaces rest) with
                  | none => none
                  | some (value, rest) =>
                      match skipSpaces rest with
                      | ',' :: rest =>
                          parseMembers fuel (insertField key value done) (skipSpaces rest)
                      | '}' :: rest => some (.object (insertField key value done), rest)
                      | _ => none
              | _ => none
      | _ => none
end

/-- The value of a whole text, with whitespace allowed around it. Each recursive call of the
parser reads a character, so the text's length is enough fuel.
-/
def parse (text : Text) : Option Value :=
  match parseValue readNumber (text.length + 1) (skipSpaces text) with
  | some (value, rest) => if skipSpaces rest = [] then some value else none
  | none => none

end Parser

end SqliteServer.Json
