import SqliteServer.Json.Completeness
import SqliteServer.Regex.Matching

/-! Parsing a request, with a second attempt after quoting its unquoted keys. -/

namespace SqliteServer

open Json Regex

/-- The JSON reader the server calls: an accepted text has a value, a refused one a message. -/
structure SerdeJson where
  fromStr : String → Except String Value
  readNumber : Text → Option Number

/-- What the reader accepts is a JSON text, read as its value. It may refuse more, such as
texts nested too deeply.
-/
def SerdeJson.Sound (serde : SerdeJson) : Prop :=
  ∀ text value,
    serde.fromStr text = .ok value → Json.parse serde.readNumber text.toList = some value

def isQuote (c : Char) : Bool := c = '\'' || c = '"'

/-- The pattern `(['"])?([a-zA-Z0-9]+)(['"])?:`. -/
def keyRepairRegex : Pattern :=
  .seq (.opt (.group 1 (.chars isQuote)))
    (.seq (.group 2 (.plus isKeyChar))
      (.seq (.opt (.group 3 (.chars isQuote))) (.chars (fun c => c = ':'))))

/-- Replace every match by its second group in double quotes, and the colon. -/
def repairKeys (text : Text) : Text :=
  keyRepairRegex.replaceAll (fun _ found => ('"' :: found.capture 2 ++ ['"', ':'], ())) () text

def parseRequest (serde : SerdeJson) (req : String) : Except String Value :=
  match serde.fromStr req with
  | .ok value => .ok value
  | .error _ => serde.fromStr (String.ofList (repairKeys req.toList))

-----------------------------------------------------------------------------------------
-- The pattern at one position
-----------------------------------------------------------------------------------------

def dropQuote : Text → Text
  | [] => []
  | c :: rest => if isQuote c then rest else c :: rest

/-- The name and the remaining text of a match, read off without backtracking. -/
def keyMatch? (text : Text) : Option (Text × Text) :=
  let body := dropQuote text
  match dropQuote (body.dropWhile isKeyChar) with
  | ':' :: rest =>
      if body.takeWhile isKeyChar = [] then none else some (body.takeWhile isKeyChar, rest)
  | _ => none

/-- Letters and digits are neither quotes nor colons. -/
theorem isKeyChar_plain {c : Char} (key : isKeyChar c = true)
    : isQuote c = false ∧ c ≠ ':' := by
  constructor
  · by_contra quote
    simp only [Bool.not_eq_false, isQuote, Bool.or_eq_true, decide_eq_true_eq] at quote
    rcases quote with rfl | rfl <;> exact absurd key (by decide)
  · rintro rfl
    exact absurd key (by decide)

/-- What follows the name: an optional quote and the colon. -/
def closing : Pattern := .seq (.opt (.group 3 (.chars isQuote))) (.chars (fun c => c = ':'))

/-- The name and what follows it. -/
def named : Pattern := .seq (.group 2 (.plus isKeyChar)) closing

/-- A colon, possibly after a quote, closes a match in one way. -/
theorem closing_matches {text rest : Text} (colon : dropQuote text = ':' :: rest)
    : ∃ found, closing.matches text = [found] ∧ found.rest = rest := by
  cases text with
  | nil => simp [dropQuote] at colon
  | cons c tail =>
      by_cases quote : isQuote c
      · simp only [dropQuote, quote, if_true] at colon
        subst colon
        have other : c ≠ ':' := by
          rintro rfl
          exact absurd quote (by decide)
        exact ⟨_, by simp [closing, Pattern.matches, quote, other]; rfl, rfl⟩
      · simp only [dropQuote, quote, Bool.false_eq_true, if_false, List.cons.injEq] at colon
        obtain ⟨rfl, rfl⟩ := colon
        exact ⟨_, by simp [closing, Pattern.matches, quote]; rfl, rfl⟩

theorem closing_nil {text : Text} (noColon : ∀ rest, dropQuote text ≠ ':' :: rest)
    : closing.matches text = [] := by
  cases text with
  | nil => simp [closing, Pattern.matches]
  | cons c tail =>
      by_cases quote : isQuote c
      · have other : c ≠ ':' := by
          rintro rfl
          exact absurd quote (by decide)
        simp only [dropQuote, quote, if_true] at noColon
        cases tail with
        | nil => simp [closing, Pattern.matches, quote, other]
        | cons d others =>
            have next : d ≠ ':' := fun same => noColon others (by rw [same])
            simp [closing, Pattern.matches, quote, other, next]
      · simp only [dropQuote, quote, Bool.false_eq_true, if_false] at noColon
        have other : c ≠ ':' := fun same => noColon tail (by rw [same])
        simp [closing, Pattern.matches, quote, other]

/-- Only the whole run of letters and digits can be the name. -/
theorem named_matches (text : Text)
    : named.matches text
      = if text.takeWhile isKeyChar = [] then []
        else
          (closing.matches (text.dropWhile isKeyChar)).map
            (fun right =>
              ⟨
                (2, text.takeWhile isKeyChar) :: right.captures,
                text.takeWhile isKeyChar ++ right.consumed,
                right.rest
              ⟩) := by
  have blocked (run : Text) (c : Char) (rest : Text) (key : isKeyChar c = true)
      : (closing.matches (c :: rest)).map
          (fun right =>
            (⟨(2, run) :: right.captures, run ++ right.consumed, right.rest⟩ : Match)) = [] := by
    obtain ⟨quote, colon⟩ := isKeyChar_plain key
    rw [closing_nil (by simp [dropQuote, quote, colon]), List.map_nil]
  have whole := flatMap_runs
    (fun run rest =>
      (closing.matches rest).map
        (fun right =>
          (⟨(2, run) :: right.captures, run ++ right.consumed, right.rest⟩ : Match)))
    blocked text
  rw [← whole]
  simp [named, Pattern.matches, List.flatMap_map]

/-- The pattern is a name, or a quote and a name; a quote itself starts no name. -/
theorem keyRepairRegex_matches (text : Text)
    : ∃ captures consumed,
        keyRepairRegex.matches text
        = (named.matches (dropQuote text)).map
            (fun right =>
              ⟨captures ++ right.captures, consumed ++ right.consumed, right.rest⟩)
        ∧ captures.lookup 2 = none := by
  cases text with
  | nil =>
      refine ⟨[], [], ?_, rfl⟩
      change (Pattern.seq _ named).matches [] = _
      simp [Pattern.matches, dropQuote]
  | cons c rest =>
      by_cases quote : isQuote c
      · have plain : isKeyChar c = false := by
          by_contra key
          have := (isKeyChar_plain (by simpa using key)).1
          simp [quote] at this
        have empty : named.matches (c :: rest) = [] := by simp [named_matches, plain]
        refine ⟨[(1, [c])], [c], ?_, rfl⟩
        change (Pattern.seq _ named).matches (c :: rest) = _
        simp [Pattern.matches, dropQuote, quote, empty]
      · refine ⟨[], [], ?_, rfl⟩
        change (Pattern.seq _ named).matches (c :: rest) = _
        simp [Pattern.matches, dropQuote, quote]

/-- The matcher finds what `keyMatch?` reads off. -/
theorem matchAt_of_keyMatch {text key rest : Text} (matched : keyMatch? text = some (key, rest))
    : ∃ found,
        keyRepairRegex.matchAt text = some found
        ∧ found.capture 2 = key
        ∧ found.rest = rest
        ∧ found.consumed ≠ [] := by
  obtain ⟨captures, consumed, all, fresh⟩ := keyRepairRegex_matches text
  rw [keyMatch?] at matched
  split at matched
  · rename_i tail colon
    split at matched
    · contradiction
    · rename_i nonempty
      obtain ⟨rfl, rfl⟩ := Prod.mk.inj (Option.some.inj matched)
      obtain ⟨found, one, rfl⟩ := closing_matches colon
      rw [named_matches, if_neg nonempty, one] at all
      simp only [List.map_cons, List.map_nil] at all
      refine ⟨_, congrArg List.head? all, ?_, rfl, ?_⟩
      · simp [Match.capture, List.lookup_append, fresh]
      · simp [nonempty]
  · contradiction

theorem matchAt_of_keyMatch_none {text : Text} (unmatched : keyMatch? text = none)
    : keyRepairRegex.matchAt text = none := by
  obtain ⟨captures, consumed, all, -⟩ := keyRepairRegex_matches text
  rw [keyMatch?] at unmatched
  rw [Pattern.matchAt, all, named_matches]
  split at unmatched
  · split at unmatched
    · rename_i empty
      simp [empty]
    · contradiction
  · rename_i noColon
    rw [closing_nil noColon]
    simp

-----------------------------------------------------------------------------------------
-- The repaired text
-----------------------------------------------------------------------------------------

theorem repairKeys_match {text key rest : Text} (matched : keyMatch? text = some (key, rest))
    : repairKeys text = '"' :: (key ++ '"' :: ':' :: repairKeys rest) := by
  obtain ⟨found, at', capture, rfl, nonempty⟩ := matchAt_of_keyMatch matched
  rw [repairKeys, Pattern.replaceAll_match _ _ at' nonempty]
  simp [capture, repairKeys]

theorem repairKeys_copy {c : Char} {rest : Text} (unmatched : keyMatch? (c :: rest) = none)
    : repairKeys (c :: rest) = c :: repairKeys rest :=
  Pattern.replaceAll_copy _ _ (matchAt_of_keyMatch_none unmatched)

end SqliteServer
