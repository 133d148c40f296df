import SqliteServer.Json.Parser

/-! Concrete syntax trees of JSON texts, in which an object key may also be a bare or a
single-quoted name. A tree keeps every character of its text, whitespace included.
-/

namespace SqliteServer.Json

/-- The letters and digits an unquoted key is made of. -/
def isKeyChar (c : Char) : Bool := c.isAlphanum

abbrev Spaces := { text : Text // text.all isSpace = true }

structure StringLit where
  raw : Text
  closed : isContent raw = true

structure NumberLit where
  lexeme : Text
  wellFormed : isNumber lexeme = true

structure KeyName where
  name : Text
  nonempty : name ≠ []
  keyChars : name.all isKeyChar = true

inductive Key where
  | quoted (lit : StringLit)
  | single (name : KeyName)
  | bare (name : KeyName)

mutual
inductive Syntax where
  | null
  | bool (b : Bool)
  | number (lit : NumberLit)
  | string (lit : StringLit)
  | emptyArray (inner : Spaces)
  | array (elements : Elements)
  | emptyObject (inner : Spaces)
  | object (members : Members)

inductive Elements where
  | last (before : Spaces) (value : Syntax) (after : Spaces)
  | more (before : Spaces) (value : Syntax) (after : Spaces) (rest : Elements)

/-- `gap` stands between the key and its colon, `lead` between the colon and the value. -/
inductive Members where
  | last (before : Spaces) (key : Key) (gap lead : Spaces) (value : Syntax) (after : Spaces)
  | more (before : Spaces) (key : Key) (gap lead : Spaces) (value : Syntax) (after : Spaces)
    (rest : Members)
end

-----------------------------------------------------------------------------------------
-- Texts and denotations
-----------------------------------------------------------------------------------------

def StringLit.write (lit : StringLit) (rest : Text) : Text := '"' :: (lit.raw ++ '"' :: rest)

def Key.write : Key → Text → Text
  | .quoted lit, rest => lit.write rest
  | .single key, rest => '\'' :: (key.name ++ '\'' :: rest)
  | .bare key, rest => key.name ++ rest

mutual
/-- The text of a tree, followed by `rest`. -/
def Syntax.write : Syntax → Text → Text
  | .null, rest => 'n' :: 'u' :: 'l' :: 'l' :: rest
  | .bool true, rest => 't' :: 'r' :: 'u' :: 'e' :: rest
  | .bool false, rest => 'f' :: 'a' :: 'l' :: 's' :: 'e' :: rest
  | .number lit, rest => lit.lexeme ++ rest
  | .string lit, rest => lit.write rest
  | .emptyArray inner, rest => '[' :: (inner.val ++ ']' :: rest)
  | .array elements, rest => '[' :: elements.write (']' :: rest)
  | .emptyObject inner, rest => '{' :: (inner.val ++ '}' :: rest)
  | .object members, rest => '{' :: members.write ('}' :: rest)

def Elements.write : Elements → Text → Text
  | .last before value after, rest => before.val ++ value.write (after.val ++ rest)
  | .more before value after others, rest =>
      before.val ++ value.write (after.val ++ ',' :: others.write rest)

def Members.write : Members → Text → Text
  | .last before key gap lead value after, rest =>
      before.val ++ key.write (gap.val ++ ':' :: (lead.val ++ value.write (after.val ++ rest)))
  | .more before key gap lead value after others, rest =>
      before.val
        ++ key.write
            (gap.val
              ++ ':' :: (lead.val ++ value.write (after.val ++ ',' :: others.write rest)))
end

def StringLit.denote (lit : StringLit) : Option String :=
  (unescape lit.raw).map String.ofList

/-- Bare and single-quoted keys are read as the name they spell. -/
def Key.denote : Key → Option String
  | .quoted lit => lit.denote
  | .single key => some (String.ofList key.name)
  | .bare key => some (String.ofList key.name)

section Denote

variable (readNumber : Text → Option Number)

mutual
/-- The value a tree stands for, if its numbers and escapes have one. -/
def Syntax.denote : Syntax → Option Value
  | .null => some .null
  | .bool b => some (.bool b)
  | .number lit => (readNumber lit.lexeme).map .number
  | .string lit => lit.denote.map .string
  | .emptyArray _ => some (.array [])
  | .array elements => elements.denote.map .array
  | .emptyObject _ => some (.object [])
  | .object members => members.denote.map (fun fields => .object (insertFields fields []))

def Elements.denote : Elements → Option (List Value)
  | .last _ value _ => value.denote.map (fun value => [value])
  | .more _ value _ others =>
      value.denote.bind (fun value => others.denote.map (fun values => value :: values))

def Members.denote : Members → Option (List (String × Value))
  | .last _ key _ _ value _ =>
      key.denote.bind (fun key => value.denote.map (fun value => [(key, value)]))
  | .more _ key _ _ value _ others =>
      key.denote.bind
        (fun key =>
          value.denote.bind
            (fun value => others.denote.map (fun fields => (key, value) :: fields)))
end

end Denote

def Key.strict : Key → Bool
  | .quoted _ => true
  | _ => false

mutual
/-- Every key is double-quoted, so the text is plain JSON. -/
def Syntax.strict : Syntax → Bool
  | .array elements => elements.strict
  | .object members => members.strict
  | _ => true

def Elements.strict : Elements → Bool
  | .last _ value _ => value.strict
  | .more _ value _ others => value.strict && others.strict

def Members.strict : Members → Bool
  | .last _ key _ _ value _ => key.strict && value.strict
  | .more _ key _ _ value _ others => key.strict && value.strict && others.strict
end

mutual
/-- The fuel `parseValue` needs for the text of a tree. -/
def Syntax.cost : Syntax → Nat
  | .array elements => elements.cost + 1
  | .object members => members.cost + 1
  | _ => 1

def Elements.cost : Elements → Nat
  | .last _ value _ => value.cost + 1
  | .more _ value _ others => max value.cost others.cost + 1

def Members.cost : Members → Nat
  | .last _ _ _ _ value _ => value.cost + 1
  | .more _ _ _ _ value _ others => max value.cost others.cost + 1
end

end SqliteServer.Json
