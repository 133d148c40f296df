import SqliteServer.Handler

/-! What SQLite takes from the statements that tune a connection. -/

namespace SqliteServer

/-- The name and the value of the pragma that a statement sets. -/
def pragma? (statement : List Char) : Option (String × String) :=
  match ("PRAGMA ".toList).isPrefixOf? (statement.dropWhile (· = ' ')) with
  | none => none
  | some setting =>
      match setting.splitOn '=' with
      | [name, value] => some (String.ofList name, String.ofList value)
      | _ => none

/-- The pragmas that a batch sets, in order. -/
def pragmas (batch : String) : List (String × String) :=
  (batch.toList.splitOn ';').filterMap pragma?

/-- SQLite reads the milliseconds of a timeout as a signed number of 32 bits; what does not fit is
no timeout.
-/
def pragmaTimeout (value : String) : Nat :=
  let n := Nat.ofDigitChars 10 value.toList 0
  if n < 2 ^ 31 then n else 0

/-- A batch sets the three pragmas, with the configured timeout. -/
def Tunes (config : Config) (batch : String) : Prop :=
  ∃ timeout,
    pragmas batch
      = [("journal_mode", "WAL"), ("busy_timeout", timeout), ("synchronous", "NORMAL")]
    ∧ pragmaTimeout timeout = config.busyTimeoutMs.toNat

/-- A pragma is read from its statement, if its value ends it. -/
theorem pragma?_setting {name value : String} (noEquals : '=' ∉ name.toList)
    (single : '=' ∉ value.toList)
    : pragma? (" PRAGMA ".toList ++ (name.toList ++ '=' :: value.toList)) = some (name, value) := by
  have parts
      : (name.toList ++ '=' :: value.toList).splitOn '=' = [name.toList, value.toList] := by
    rw [List.splitOn_append_cons_self_of_not_mem noEquals, List.splitOn_eq_singleton single]
  have setting
      : ("PRAGMA ".toList).isPrefixOf?
          ((" PRAGMA ".toList ++ (name.toList ++ '=' :: value.toList)).dropWhile (· = ' '))
        = some (name.toList ++ '=' :: value.toList) :=
    rfl
  rw [pragma?, setting]
  dsimp only
  rw [parts]
  dsimp only
  rw [String.ofList_toList, String.ofList_toList]

/-- The statements of the batch with any timeout. -/
theorem tuning_parts (timeout : String)
    : ("PRAGMA journal_mode=WAL; PRAGMA busy_timeout=" ++ timeout
        ++ "; PRAGMA synchronous=NORMAL;").toList
      = "PRAGMA journal_mode=WAL".toList
        ++ ';' :: ((" PRAGMA ".toList ++ ("busy_timeout".toList ++ '=' :: timeout.toList))
          ++ ';' :: (" PRAGMA synchronous=NORMAL".toList ++ ';' :: [])) := by
  have before
      : "PRAGMA journal_mode=WAL; PRAGMA busy_timeout=".toList
        = "PRAGMA journal_mode=WAL".toList
          ++ ';' :: (" PRAGMA ".toList ++ ("busy_timeout".toList ++ ['='])) := by
    decide
  have behind
      : "; PRAGMA synchronous=NORMAL;".toList
        = ';' :: (" PRAGMA synchronous=NORMAL".toList ++ [';']) := by
    decide
  have regroup (a b c d e : List Char)
      : a ++ ';' :: (b ++ (c ++ ['='])) ++ d ++ ';' :: (e ++ [';'])
        = a ++ ';' :: ((b ++ (c ++ '=' :: d)) ++ ';' :: (e ++ ';' :: [])) := by
    simp only [List.append_assoc, List.cons_append, List.nil_append]
  rw [String.toList_append, String.toList_append, before, behind]
  exact regroup _ _ _ _ _

/-- The batch of the server sets the three pragmas, with the digits of the timeout. -/
theorem pragmas_tuningBatch (config : Config)
    : pragmas (tuningBatch config)
      = [
          ("journal_mode", "WAL"),
          ("busy_timeout", toString config.busyTimeoutMs.toNat),
          ("synchronous", "NORMAL")
        ] := by
  generalize digits : toString config.busyTimeoutMs.toNat = timeout
  have noMark {c : Char} (mark : c.isDigit = false) : c ∉ timeout.toList := by
    intro member
    rw [← digits, Nat.toString_eq_repr, Nat.toList_repr] at member
    have digit : c.isDigit = true :=
      Nat.isDigit_of_mem_toDigits (b := 10) (by decide) (by decide) member
    rw [mark] at digit
    contradiction
  have batch
      : tuningBatch config
        = "PRAGMA journal_mode=WAL; PRAGMA busy_timeout=" ++ timeout
          ++ "; PRAGMA synchronous=NORMAL;" := by
    subst digits
    rfl
  have text := (congrArg String.toList batch).trans (tuning_parts timeout)
  have middle : ';' ∉ " PRAGMA ".toList ++ ("busy_timeout".toList ++ '=' :: timeout.toList) := by
    intro member
    rcases List.mem_append.mp member with early | late
    · exact absurd early (by decide)
    · rcases List.mem_append.mp late with name | value
      · exact absurd name (by decide)
      · rcases List.mem_cons.mp value with equals | inValue
        · exact absurd equals (by decide)
        · exact noMark (by decide) inValue
  rw [pragmas, text, List.splitOn_append_cons_self_of_not_mem (by decide),
    List.splitOn_append_cons_self_of_not_mem middle,
    List.splitOn_append_cons_self_of_not_mem (by decide), List.splitOn_nil]
  have first : pragma? "PRAGMA journal_mode=WAL".toList = some ("journal_mode", "WAL") := by
    decide
  have second := @pragma?_setting "busy_timeout" timeout (by decide)
    (noMark (by decide))
  have third : pragma? " PRAGMA synchronous=NORMAL".toList = some ("synchronous", "NORMAL") := by
    decide
  rw [List.filterMap_cons, first, List.filterMap_cons, second, List.filterMap_cons, third]
  rfl

theorem pragmaTimeout_toString (n : Nat)
    : pragmaTimeout (toString n) = if n < 2 ^ 31 then n else 0 := by
  have digits : (toString n).toList = Nat.toDigits 10 n := by
    rw [Nat.toString_eq_repr, Nat.toList_repr]
  rw [pragmaTimeout, digits, Nat.ofDigitChars_ten_toDigits]

/-- The batch of the server tunes a connection as configured exactly if the timeout fits. -/
theorem tunes_tuningBatch (config : Config)
    : Tunes config (tuningBatch config) ↔ config.busyTimeoutMs.toNat < 2 ^ 31 := by
  have read := pragmaTimeout_toString config.busyTimeoutMs.toNat
  constructor
  · rintro ⟨timeout, settings, configured⟩
    rw [pragmas_tuningBatch] at settings
    obtain rfl : toString config.busyTimeoutMs.toNat = timeout := by simpa using settings
    rw [read] at configured
    split_ifs at configured with fits
    · exact fits
    · rw [← configured]
      decide
  · intro fits
    exact ⟨_, pragmas_tuningBatch config, by rw [read, if_pos fits]⟩

end SqliteServer
