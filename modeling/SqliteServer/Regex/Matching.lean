import Mathlib.Data.List.TakeWhile

/-! Regular expressions with capture groups under leftmost-first matching, and the replacement
of all matches in a text. Only expressions that never match the empty text are replaced.
-/

namespace SqliteServer.Regex

/-- The expressions of a backtracking matcher; `opt` and `plus` are greedy. -/
inductive Pattern where
  | chars (accepts : Char → Bool)
  | plus (accepts : Char → Bool)
  | opt (pattern : Pattern)
  | seq (first second : Pattern)
  | alt (first second : Pattern)
  | group (index : Nat) (pattern : Pattern)

/-- One way to match at the start of a text: captured groups, matched part and remainder. -/
structure Match where
  captures : List (Nat × List Char)
  consumed : List Char
  rest : List Char
deriving DecidableEq

/-- The text a group captured; a group that took no part in the match is empty. -/
def Match.capture (found : Match) (index : Nat) : List Char :=
  (found.captures.lookup index).getD []

/-- The nonempty runs of accepted characters at the start of a text, longest first. -/
def runs (accepts : Char → Bool) : List Char → List (List Char × List Char)
  | [] => []
  | c :: rest =>
      if accepts c then
        (runs accepts rest).map (fun run => (c :: run.1, run.2)) ++ [([c], rest)]
      else []

/-- All matches at the start of a text, in the order a backtracking matcher prefers them. -/
def Pattern.matches : Pattern → List Char → List Match
  | .chars accepts, text =>
      match text with
      | c :: rest => if accepts c then [⟨[], [c], rest⟩] else []
      | [] => []
  | .plus accepts, text => (runs accepts text).map (fun run => ⟨[], run.1, run.2⟩)
  | .opt pattern, text => pattern.matches text ++ [⟨[], [], text⟩]
  | .seq first second, text =>
      (first.matches text).flatMap
        (fun left =>
          (second.matches left.rest).map
            (fun right =>
              ⟨left.captures ++ right.captures, left.consumed ++ right.consumed, right.rest⟩))
  | .alt first second, text => first.matches text ++ second.matches text
  | .group index pattern, text =>
      (pattern.matches text).map
        (fun found => { found with captures := (index, found.consumed) :: found.captures })

/-- The preferred match at the start of a text. -/
def Pattern.matchAt (pattern : Pattern) (text : List Char) : Option Match :=
  (pattern.matches text).head?

/-- The text matches somewhere. -/
def Pattern.isMatch (pattern : Pattern) : List Char → Bool
  | [] => (pattern.matchAt []).isSome
  | c :: rest => (pattern.matchAt (c :: rest)).isSome || pattern.isMatch rest

section Replace

variable {σ : Type} (pattern : Pattern) (replacer : σ → Match → List Char × σ)

/-- Scan from left to right; `skip` characters still belong to the last match. The replacer
may carry a state from match to match.
-/
def Pattern.replaceFrom : Nat → σ → List Char → List Char
  | _, _, [] => []
  | skip + 1, state, _ :: rest => replaceFrom skip state rest
  | 0, state, c :: rest =>
      match pattern.matchAt (c :: rest) with
      | some found =>
          (replacer state found).1
          ++ replaceFrom (found.consumed.length - 1) (replacer state found).2 rest
      | none => c :: replaceFrom 0 state rest

def Pattern.replaceAll (state : σ) (text : List Char) : List Char :=
  pattern.replaceFrom replacer 0 state text

end Replace

-----------------------------------------------------------------------------------------
-- General facts
-----------------------------------------------------------------------------------------

/-- Every run is a prefix of its text, by induction on the text. -/
theorem runs_append {accepts : Char → Bool} {text : List Char} {run : List Char × List Char}
    (member : run ∈ runs accepts text)
    : text = run.1 ++ run.2 := by
  induction text generalizing run with
  | nil => simp [runs] at member
  | cons c rest ih =>
      by_cases accepted : accepts c
      · simp only [runs, accepted, if_true, List.mem_append, List.mem_map,
          List.mem_singleton] at member
        rcases member with ⟨shorter, inner, rfl⟩ | rfl
        · simp [ih inner]
        · simp
      · simp [runs, accepted] at member

/-- A match splits its text into the matched part and the rest, by induction on the pattern. -/
theorem Pattern.matches_append (pattern : Pattern) {text : List Char} {found : Match}
    (member : found ∈ pattern.matches text)
    : text = found.consumed ++ found.rest := by
  induction pattern generalizing text found with
  | chars accepts =>
      cases text with
      | nil => simp [Pattern.matches] at member
      | cons c rest =>
          by_cases accepted : accepts c
          · simp only [Pattern.matches, accepted, if_true, List.mem_singleton] at member
            subst member
            simp
          · simp [Pattern.matches, accepted] at member
  | plus accepts =>
      simp only [Pattern.matches, List.mem_map] at member
      obtain ⟨run, inner, rfl⟩ := member
      exact runs_append inner
  | opt pattern ih =>
      simp only [Pattern.matches, List.mem_append, List.mem_singleton] at member
      rcases member with inner | rfl
      · exact ih inner
      · simp
  | seq first second firstIH secondIH =>
      simp only [Pattern.matches, List.mem_flatMap, List.mem_map] at member
      obtain ⟨left, inLeft, right, inRight, rfl⟩ := member
      simp only [List.append_assoc, ← secondIH inRight]
      exact firstIH inLeft
  | alt first second firstIH secondIH =>
      simp only [Pattern.matches, List.mem_append] at member
      rcases member with inner | inner
      · exact firstIH inner
      · exact secondIH inner
  | group index pattern ih =>
      simp only [Pattern.matches, List.mem_map] at member
      obtain ⟨body, inner, rfl⟩ := member
      have split : text = body.consumed ++ body.rest := ih inner
      exact split

theorem Pattern.matchAt_append (pattern : Pattern) {text : List Char} {found : Match}
    (matched : pattern.matchAt text = some found)
    : text = found.consumed ++ found.rest :=
  pattern.matches_append (List.mem_of_mem_head? matched)

/-- Backtracking into a run is pointless when the continuation cannot begin with one of its
characters: only the whole run counts. By induction on the text.
-/
theorem flatMap_runs {β : Type} {accepts : Char → Bool}
    (continuation : List Char → List Char → List β)
    (blocked
      : ∀ run c rest, accepts c = true → continuation run (c :: rest) = [])
    (text : List Char)
    : (runs accepts text).flatMap (fun run => continuation run.1 run.2)
      = if text.takeWhile accepts = [] then []
        else continuation (text.takeWhile accepts) (text.dropWhile accepts) := by
  induction text generalizing continuation with
  | nil => simp [runs]
  | cons c rest ih =>
      by_cases accepted : accepts c
      · have longer := ih (fun run => continuation (c :: run))
          (fun run d tail inner => blocked (c :: run) d tail inner)
        simp only [runs, accepted, if_true, List.flatMap_append, List.flatMap_map,
          List.flatMap_cons, List.flatMap_nil, List.append_nil, longer,
          List.takeWhile_cons, List.dropWhile_cons, reduceCtorEq, if_false]
        cases rest with
        | nil => simp
        | cons d tail =>
            by_cases again : accepts d
            · simp [again, blocked [c] d tail again]
            · simp [again]
      · simp [runs, accepted]

section Replace

variable {σ : Type} (pattern : Pattern) (replacer : σ → Match → List Char × σ)

/-- Skipping drops characters, by induction on their number. -/
theorem Pattern.replaceFrom_skip (skip : Nat) (state : σ) (text : List Char)
    : pattern.replaceFrom replacer skip state text
      = pattern.replaceAll replacer state (text.drop skip) := by
  induction skip generalizing text with
  | zero => rfl
  | succ skip ih =>
      cases text with
      | nil => rfl
      | cons c rest => simpa [Pattern.replaceFrom] using ih rest

/-- Where nothing matches, a character is copied. -/
theorem Pattern.replaceAll_copy {state : σ} {c : Char} {rest : List Char}
    (unmatched : pattern.matchAt (c :: rest) = none)
    : pattern.replaceAll replacer state (c :: rest)
      = c :: pattern.replaceAll replacer state rest := by
  simp [Pattern.replaceAll, Pattern.replaceFrom, unmatched]

/-- Where something matches, it is replaced and the scan resumes after it. -/
theorem Pattern.replaceAll_match {state : σ} {text : List Char} {found : Match}
    (matched : pattern.matchAt text = some found) (nonempty : found.consumed ≠ [])
    : pattern.replaceAll replacer state text
      = (replacer state found).1
        ++ pattern.replaceAll replacer (replacer state found).2 found.rest := by
  have split := pattern.matchAt_append matched
  cases text with
  | nil => simp at split; exact absurd split.1 nonempty
  | cons c rest =>
      obtain ⟨tail, consumed⟩ : ∃ tail, found.consumed = c :: tail := by
        cases eq : found.consumed with
        | nil => exact absurd eq nonempty
        | cons d tail => rw [eq] at split; exact ⟨tail, by rw [(List.cons.inj split).1]⟩
      have remaining : rest = tail ++ found.rest := by
        rw [consumed] at split
        exact (List.cons.inj split).2
      simp only [Pattern.replaceAll, Pattern.replaceFrom, matched]
      rw [pattern.replaceFrom_skip, consumed, remaining]
      simp [Pattern.replaceAll]

end Replace

end SqliteServer.Regex
