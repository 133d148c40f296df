import SqliteServer.Json.Value
import SqliteServer.Wire.Utf8

/-! The values and errors of the SQLite binding, and how the server reports them. -/

namespace SqliteServer

open Json Wire

/-- A column of a row. -/
inductive ValueRef where
  | null
  | integer (n : Int64)
  | real (bits : UInt64)
  | text (bytes : Bytes)
  | blob (bytes : Bytes)
deriving DecidableEq

def hexDigits : List Char :=
  ['0', '1', '2', '3', '4', '5', '6', '7', '8', '9', 'a', 'b', 'c', 'd', 'e', 'f']

def toHex (bytes : Bytes) : String :=
  String.ofList
    (bytes.flatMap
      (fun b : UInt8 =>
        [hexDigits.getD (b >>> 4).toNat '0', hexDigits.getD (b &&& 0x0f).toNat '0']))

/-- A float that is not finite has no JSON number. -/
def fromFloat (bits : UInt64) : Option Number :=
  if finite : (bits >>> 52) &&& 0x7ff ≠ 0x7ff then some (.float ⟨bits, finite⟩) else none

def valueRefToJson : ValueRef → Value
  | .null => .null
  | .integer n => .number (Number.ofInt64 n)
  | .real bits =>
      match fromFloat bits with
      | some number => .number number
      | none => .null
  | .text bytes => .string (fromUtf8Lossy bytes)
  | .blob bytes => .string ("X'" ++ toHex bytes ++ "'")

/-- The errors of the binding. `ffiText` and `text` are how the binding displays them. -/
inductive RusqliteError where
  | sqliteFailure (extendedCode : Int32) (message : Option String) (ffiText : String)
  | sqlInputError (extendedCode : Int32) (msg sql : String) (offset : Int32)
  | invalidColumnIndex (i : Nat)
  | other (text : String)
deriving DecidableEq

def RusqliteError.toString : RusqliteError → String
  | .sqliteFailure _ (some message) _ => message
  | .sqliteFailure _ none ffiText => ffiText
  | .sqlInputError _ msg sql offset =>
      msg ++ " in " ++ sql ++ " at offset " ++ ToString.toString offset.toInt
  | .invalidColumnIndex i => "Invalid column index: " ++ ToString.toString i
  | .other text => text

/-- The primary result code and the message of an error. -/
def mapSqliteErr : RusqliteError → Int64 × String
  | .sqliteFailure extendedCode message ffiText =>
      ((extendedCode &&& 0xff).toInt64, message.getD ffiText)
  | err => (1, err.toString)

/-- The rows of a running statement, each with its cells and the world in which the statement
is given up there. The steps end with the last row or with an error.
-/
inductive Rows (World : Type) where
  | row (cells : List ValueRef) (abandoned : World) (rest : Rows World)
  | done (world : World)
  | failed (err : RusqliteError) (world : World)

/-- A cell of the current row. -/
def getRef (cells : List ValueRef) (i : Nat) : Except RusqliteError ValueRef :=
  match cells[i]? with
  | some value => .ok value
  | none => .error (.invalidColumnIndex i)

/-- Put the cells of a row under the given names, from the `i`-th on. -/
def fillRow (cells : List ValueRef) : Nat → List String → List (String × Value)
    → Except RusqliteError (List (String × Value))
  | _, [], object => .ok object
  | i, name :: names, object =>
      match getRef cells i with
      | .error err => .error err
      | .ok valueRef =>
          fillRow cells (i + 1) names (insertField name (valueRefToJson valueRef) object)

/-- Collect the objects of all rows, or stop at the first error. -/
def collectRows {World : Type} (columns : List String) : Rows World → List Value
    → Except RusqliteError (List Value) × World
  | .done world, rowsData => (.ok rowsData, world)
  | .failed err world, _ => (.error err, world)
  | .row cells abandoned rest, rowsData =>
      match fillRow cells 0 columns [] with
      | .error err => (.error err, abandoned)
      | .ok object => collectRows columns rest (rowsData ++ [.object object])

end SqliteServer
