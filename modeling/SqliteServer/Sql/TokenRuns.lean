import SqliteServer.Sql.Tokens

/-! What the automaton does on a run of characters in front of others. -/

namespace SqliteServer.Sql

/-- The state after a run of characters in front of `rest`, if they continue the token. -/
def run (rest : List Char) : State → List Char → Option State
  | state, [] => some state
  | state, c :: more => (step state c (more ++ rest)).bind (fun next => run rest next more)

theorem run_nil (rest : List Char) (state : State)
    : run rest state [] = some state :=
  rfl

theorem run_cons {rest more : List Char} {state next : State} {c : Char}
    (stepped : step state c (more ++ rest) = some next)
    : run rest state (c :: more) = run rest next more := by
  rw [run, stepped]
  rfl

theorem run_head {rest more : List Char} {state final : State} {c : Char}
    (ran : run rest state (c :: more) = some final)
    : ∃ next, step state c (more ++ rest) = some next ∧ run rest next more = some final :=
  Option.bind_eq_some_iff.mp ran

theorem run_append (rest : List Char) (state : State) (first second : List Char)
    : run rest state (first ++ second)
      = (run (second ++ rest) state first).bind (fun next => run rest next second) := by
  induction first generalizing state with
  | nil => rfl
  | cons c more ih =>
      rw [List.cons_append, run, run, List.append_assoc]
      cases step state c (more ++ (second ++ rest)) with
      | none => rfl
      | some next => exact ih next

/-- A token that has been read so far is read on from the state of the run. -/
theorem lex_run {rest chars : List Char} {state final : State} (taken : List Char)
    (ran : run rest state chars = some final)
    : lex state taken (chars ++ rest) = lex final (taken ++ chars) rest := by
  induction chars generalizing state taken with
  | nil =>
      cases ran
      rw [List.append_nil]
      rfl
  | cons c more ih =>
      obtain ⟨next, stepped, later⟩ := run_head ran
      have read := ih (taken ++ [c]) later
      rw [List.append_assoc, List.singleton_append] at read
      rw [List.cons_append, lex, stepped]
      exact read

theorem tokens_run {rest chars : List Char} {c : Char} {final : State}
    (ran : run rest (start c) chars = some final)
    : tokens (c :: chars ++ rest) = lex final (c :: chars) rest :=
  lex_run [c] ran

theorem lex_end (state : State) (taken : List Char)
    : lex state taken [] = [⟨state.kind, taken⟩] :=
  rfl

/-- Where the state takes no more, the token is complete and the next one starts. -/
theorem lex_stop {state : State} {c : Char} {rest : List Char} (taken : List Char)
    (stopped : step state c rest = none)
    : lex state taken (c :: rest) = ⟨state.kind, taken⟩ :: tokens (c :: rest) := by
  rw [lex, stopped]
  rfl

-----------------------------------------------------------------------------------------
-- Numerals
-----------------------------------------------------------------------------------------

theorem digit_forall {p : Char → Prop} (each : ∀ n < 10, p (Char.ofNat (48 + n))) {c : Char}
    (digit : c.isDigit = true)
    : p c := by
  simp only [Char.isDigit, Bool.and_eq_true, decide_eq_true_eq, UInt32.le_iff_toNat_le,
    ge_iff_le] at digit
  have lower : 48 ≤ c.toNat := digit.1
  have upper : c.toNat ≤ 57 := digit.2
  have here := each (c.toNat - 48) (by omega)
  rwa [Nat.add_sub_cancel' lower, Char.ofNat_toNat] at here

theorem digit_ne {c other : Char} (digit : c.isDigit = true) (noDigit : other.isDigit = false)
    : c ≠ other := by
  rintro rfl
  rw [digit] at noDigit
  cases noDigit

theorem start_digit {c : Char} (digit : c.isDigit = true)
    : start c = .number (if c = '0' then .zero else .whole) false :=
  digit_forall (p := fun c => start c = .number (if c = '0' then .zero else .whole) false)
    (by decide) digit

theorem run_whole (rest : List Char) {digits : List Char}
    (all : ∀ c ∈ digits, c.isDigit = true)
    : run rest (.number .whole false) digits = some (.number .whole false) := by
  induction digits with
  | nil => rfl
  | cons c more ih =>
      obtain ⟨digit, others⟩ := List.forall_mem_cons.mp all
      have point := digit_ne digit (show '.'.isDigit = false by decide)
      have stepped
          : step (.number .whole false) c (more ++ rest) = some (.number .whole false) := by
        simp [step, numberStep, point, digitStep, digit]
      rw [run_cons stepped, ih others]

/-- A numeral of digits is read as a whole number. -/
theorem run_digits {c : Char} {digits : List Char} (all : ∀ d ∈ c :: digits, d.isDigit = true)
    : ∃ phase,
        (phase = .zero ∨ phase = .whole)
        ∧ ∀ rest, run rest (start c) digits = some (.number phase false) := by
  obtain ⟨digit, others⟩ := List.forall_mem_cons.mp all
  rw [start_digit digit]
  split_ifs with zero
  · cases digits with
    | nil => exact ⟨.zero, Or.inl rfl, fun rest => run_nil rest _⟩
    | cons d more =>
        obtain ⟨second, later⟩ := List.forall_mem_cons.mp others
        have point := digit_ne second (show '.'.isDigit = false by decide)
        have hex := digit_ne second (show 'x'.isDigit = false by decide)
        have upperHex := digit_ne second (show 'X'.isDigit = false by decide)
        have stepped (after : List Char)
            : step (.number .zero false) d after = some (.number .whole false) := by
          simp [step, numberStep, point, hex, upperHex, digitStep, second]
        refine ⟨.whole, Or.inr rfl, fun rest => ?_⟩
        rw [run_cons (stepped _), run_whole rest later]
  · exact ⟨.whole, Or.inr rfl, fun rest => run_whole rest others⟩

theorem run_fraction (rest : List Char) {digits : List Char}
    (all : ∀ c ∈ digits, c.isDigit = true)
    : run rest (.number .fraction false) digits = some (.number .fraction false) := by
  induction digits with
  | nil => rfl
  | cons c more ih =>
      obtain ⟨digit, others⟩ := List.forall_mem_cons.mp all
      have stepped
          : step (.number .fraction false) c (more ++ rest) = some (.number .fraction false) := by
        simp [step, numberStep, digitStep, digit]
      rw [run_cons stepped, ih others]

/-- Digits around a point are read as a number with a fraction. -/
theorem run_decimal (rest : List Char) {c : Char} {digits fraction : List Char}
    (whole : ∀ d ∈ c :: digits, d.isDigit = true) (all : ∀ d ∈ fraction, d.isDigit = true)
    : run rest (start c) (digits ++ '.' :: fraction) = some (.number .fraction false) := by
  obtain ⟨phase, either, ran⟩ := run_digits whole
  have stepped
      : step (.number phase false) '.' (fraction ++ rest) = some (.number .fraction false) := by
    rcases either with rfl | rfl <;> rfl
  rw [run_append, ran]
  exact (run_cons stepped).trans (run_fraction rest all)

-----------------------------------------------------------------------------------------
-- Strings and BLOB literals
-----------------------------------------------------------------------------------------

/-- A text with its single quotes doubled. -/
def doubleQuotes (s : List Char) : List Char :=
  s.flatMap (fun c => if c = '\'' then ['\'', '\''] else [c])

theorem run_doubleQuotes (rest s : List Char)
    : run rest (.quoted .single) (doubleQuotes s) = some (.quoted .single) := by
  induction s with
  | nil => rfl
  | cons c more ih =>
      rw [doubleQuotes] at ih
      rw [doubleQuotes, List.flatMap_cons]
      by_cases quote : c = '\''
      · rw [if_pos quote, List.cons_append, List.cons_append, List.nil_append]
        exact ih
      · have stepped (after : List Char)
            : step (.quoted .single) c after = some (.quoted .single) := by
          simp [step, Quote.char, quote]
        rw [if_neg quote, List.singleton_append, run_cons (stepped _)]
        exact ih

theorem run_string (rest s : List Char)
    : run rest (start '\'') (doubleQuotes s ++ ['\'']) = some (.quoteEnd .single) := by
  rw [show start '\'' = .quoted .single by decide, run_append, run_doubleQuotes]
  rfl

theorem run_hex (rest : List Char) {digits : List Char} (all : ∀ c ∈ digits, isHexDigit c = true)
    (even : Bool)
    : run rest (.blob even) digits
      = some (.blob (if digits.length % 2 = 0 then even else !even)) := by
  induction digits generalizing even with
  | nil => rfl
  | cons c more ih =>
      obtain ⟨digit, others⟩ := List.forall_mem_cons.mp all
      have stepped : step (.blob even) c (more ++ rest) = some (.blob !even) := by
        simp [step, digit]
      rw [run_cons stepped, ih others, List.length_cons]
      by_cases pairs : more.length % 2 = 0
      · rw [if_pos pairs, if_neg (by omega)]
      · rw [if_neg pairs, if_pos (by omega), Bool.not_not]

theorem run_blob (rest : List Char) {digits : List Char}
    (all : ∀ c ∈ digits, isHexDigit c = true) (pairs : digits.length % 2 = 0)
    : run rest (start 'X') ('\'' :: (digits ++ ['\''])) = some (.complete .blob) := by
  have opened
      : run rest (start 'X') ('\'' :: (digits ++ ['\'']))
        = run rest (.blob true) (digits ++ ['\'']) := rfl
  rw [opened, run_append, run_hex _ all, if_pos pairs]
  rfl

end SqliteServer.Sql
