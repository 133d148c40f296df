import SqliteServer.Sql.TokenRuns

/-! A text as a list of tokens, each of which ends in front of the next one. -/

namespace SqliteServer.Sql

/-- The state takes nothing of the text, so that a token read so far ends in front of it. -/
def Stops (state : State) : List Char → Prop
  | [] => True
  | c :: rest => step state c rest = none

inductive Lexes : List Char → List Token → Prop where
  | nil : Lexes [] []
  | cons {c : Char} {chars rest : List Char} {final : State} {list : List Token}
      (ran : run rest (start c) chars = some final)
      (stopped : Stops final rest)
      (later : Lexes rest list)
      : Lexes (c :: chars ++ rest) (⟨final.kind, c :: chars⟩ :: list)

/-- The rest of a text after some characters of a token, by induction on the rest. -/
theorem lexes_lex {c : Char} {chars : List Char} {state : State} {rest : List Char}
    (ran : run rest (start c) chars = some state)
    : Lexes (c :: chars ++ rest) (lex state (c :: chars) rest) := by
  induction rest generalizing c chars state with
  | nil => exact .cons ran trivial .nil
  | cons d rest ih =>
      cases stepped : step state d rest with
      | none =>
          have next : Lexes (d :: rest) (tokens (d :: rest)) := ih (run_nil rest (start d))
          rw [lex_stop _ stepped]
          exact .cons ran stepped next
      | some next =>
          have longer : run rest (start c) (chars ++ [d]) = some next := by
            rw [run_append, List.singleton_append, ran, Option.bind_some, run, List.nil_append,
              stepped]
            rfl
          have read := ih longer
          rw [← List.cons_append, List.append_assoc, List.singleton_append] at read
          rw [lex, stepped]
          exact read

theorem lexes_iff (text : List Char) (list : List Token)
    : Lexes text list ↔ tokens text = list := by
  constructor
  · intro lexed
    induction lexed with
    | nil => rfl
    | @cons c chars rest final list ran stopped later ih =>
        rw [tokens_run ran]
        cases rest with
        | nil =>
            rw [lex_end, ← ih]
            rfl
        | cons d rest => rw [lex_stop _ stopped, ih]
  · rintro rfl
    cases text with
    | nil => exact .nil
    | cons c rest => exact lexes_lex (run_nil rest (start c))

/-- The texts of the tokens are the text. -/
theorem Lexes.texts {text : List Char} {list : List Token} (lexed : Lexes text list)
    : (list.map Token.text).flatten = text := by
  induction lexed with
  | nil => rfl
  | cons ran stopped later ih => rw [List.map_cons, List.flatten_cons, ih]

/-- The first of the tokens, when its run is known. -/
theorem lexes_token {c : Char} {chars rest : List Char} {final : State} {list : List Token}
    (ran : run rest (start c) chars = some final)
    : Lexes (c :: chars ++ rest) (⟨final.kind, c :: chars⟩ :: list)
      ↔ Stops final rest ∧ Lexes rest list := by
  constructor
  · intro lexed
    generalize whole : c :: chars ++ rest = text at lexed
    generalize first : Token.mk final.kind (c :: chars) = token at lexed
    cases lexed with
    | @cons d others remaining reached _ again stopped later =>
        cases congrArg Token.text first
        cases List.append_cancel_left whole
        cases ran.symm.trans again
        exact ⟨stopped, later⟩
  · rintro ⟨stopped, later⟩
    exact .cons ran stopped later

-----------------------------------------------------------------------------------------
-- What comes after a token
-----------------------------------------------------------------------------------------

/-- Only the next character is looked at. -/
theorem step_head (state : State) (c d : Char) (rest other : List Char)
    : step state c (d :: rest) = step state c (d :: other) := by
  cases state with
  | number phase separated => cases phase <;> rfl
  | _ => rfl

/-- A step that depends on the character ahead is followed by one that takes it. -/
theorem step_ahead {state next : State} {c : Char} {rest : List Char}
    (stepped : step state c rest = some next) (stopped : Stops next rest) (other : List Char)
    : step state c other = some next := by
  cases state with
  | slash =>
      cases rest with
      | nil => simp [step] at stepped
      | cons d rest =>
          simp only [step] at stepped
          split_ifs at stepped
          cases stepped
          cases stopped
  | sigil named =>
      simp only [step] at stepped ⊢
      by_cases idChar : isIdChar c = true
      · rw [if_pos idChar] at stepped ⊢
        exact stepped
      · rw [if_neg idChar] at stepped ⊢
        by_cases opens : (decide (c = '(') && named) = true
        · rw [if_pos opens] at stepped ⊢
          exact stepped
        · rw [if_neg opens] at stepped
          split_ifs at stepped with colon
          cases stepped
          rw [Bool.and_eq_true, decide_eq_true_eq, decide_eq_true_eq] at colon
          cases rest with
          | nil => cases colon.2
          | cons d rest =>
              cases Option.some.inj colon.2
              cases stopped
  | number phase separated =>
      cases phase with
      | exponentMark =>
          simp only [step, numberStep] at stepped ⊢
          by_cases digit : c.isDigit = true
          · rw [if_pos digit] at stepped ⊢
            exact stepped
          · rw [if_neg digit] at stepped ⊢
            by_cases sign : ((decide (c = '+') || decide (c = '-')) && rest.head?.any Char.isDigit)
                = true
            · rw [if_pos sign] at stepped
              cases stepped
              rw [Bool.and_eq_true] at sign
              cases rest with
              | nil => cases sign.2
              | cons d rest =>
                  have first : d.isDigit = true := sign.2
                  simp [Stops, step, numberStep, first] at stopped
            · rw [if_neg sign] at stepped
              split_ifs at stepped with idChar
              have plus : c ≠ '+' := by
                rintro rfl
                exact absurd idChar (by decide)
              have minus : c ≠ '-' := by
                rintro rfl
                exact absurd idChar (by decide)
              simp only [plus, minus, decide_false, Bool.or_self, Bool.false_and,
                Bool.false_eq_true, if_false, idChar, if_true]
              exact stepped
      | _ => exact stepped
  | _ => exact stepped

/-- What a token is read as does not depend on what comes after it. By induction on the token. -/
theorem run_local {state final : State} {chars rest : List Char}
    (ran : run rest state chars = some final) (stopped : Stops final rest) (other : List Char)
    : run other state chars = some final := by
  induction chars generalizing state with
  | nil => exact ran
  | cons c more ih =>
      obtain ⟨next, stepped, later⟩ := run_head ran
      cases more with
      | nil =>
          cases later
          exact run_cons (step_ahead stepped stopped _)
      | cons d more =>
          rw [List.cons_append, step_head state c d _ (more ++ other)] at stepped
          exact (run_cons stepped).trans (ih later)

/-- The state at the end of a token. -/
def endState? : List Char → Option State
  | [] => none
  | c :: chars => run [] (start c) chars

/-- A token is continued by the character after it. -/
def continued (token : List Char) : List Char → Bool
  | [] => false
  | c :: rest => (endState? token).any (fun final => (step final c rest).isSome)

theorem continued_iff {token : List Char} {final : State} (ends : endState? token = some final)
    (rest : List Char)
    : continued token rest = false ↔ Stops final rest := by
  cases rest with
  | nil => exact iff_of_true rfl trivial
  | cons c rest => simp [continued, ends, Stops]

end SqliteServer.Sql
