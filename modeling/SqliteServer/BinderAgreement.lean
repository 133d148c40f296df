import SqliteServer.ParameterBinding

/-! The binders of the example clients write the same query, except for numbered placeholders in
digits that only the Python client reads.
-/

namespace SqliteServer

open Binary64 Regex Wire

-----------------------------------------------------------------------------------------
-- Matches of the placeholder pattern
-----------------------------------------------------------------------------------------

section Placeholders

variable (decimal : DecimalDigits)

theorem question_noDigit
    : decimal.isDigit '?' = false := by
  rw [DecimalDigits.isDigit, decimal.ascii '?' (by decide)]
  decide

/-- The longest run comes first, by induction on the text. -/
theorem runs_head (accepts : Char → Bool) (text : List Char)
    : (runs accepts text).head?
      = if text.takeWhile accepts = [] then none
        else some (text.takeWhile accepts, text.dropWhile accepts) := by
  induction text with
  | nil => rfl
  | cons c rest ih =>
      by_cases accepted : accepts c = true
      · rw [runs, if_pos accepted, List.head?_append, List.head?_map, ih]
        simp only [List.takeWhile_cons, List.dropWhile_cons, accepted, if_true]
        by_cases single : rest.takeWhile accepts = []
        · have whole := List.takeWhile_append_dropWhile (p := accepts) (l := rest)
          rw [single, List.nil_append] at whole
          simp [single, whole]
        · simp [single]
      · simp [runs, accepted]

/-- The match at a placeholder. -/
def placeholderMatch (rest : List Char) : Match :=
  if rest.takeWhile decimal.isDigit = [] then ⟨[], ['?'], rest⟩
  else
    ⟨
      [(1, rest.takeWhile decimal.isDigit)],
      '?' :: rest.takeWhile decimal.isDigit,
      rest.dropWhile decimal.isDigit
    ⟩

theorem placeholderMatch_capture (rest : List Char)
    : (placeholderMatch decimal rest).capture 1 = rest.takeWhile decimal.isDigit := by
  rw [placeholderMatch]
  split_ifs with bare
  · exact bare.symm
  · rfl

theorem placeholderMatch_length (rest : List Char)
    : (placeholderMatch decimal rest).consumed.length - 1
      = (rest.takeWhile decimal.isDigit).length := by
  rw [placeholderMatch]
  split_ifs with bare
  · rw [bare]
    rfl
  · rfl

theorem placeholderRe_matchAt (c : Char) (rest : List Char)
    : (placeholderRe decimal).matchAt (c :: rest)
      = if c = '?' then some (placeholderMatch decimal rest) else none := by
  by_cases mark : c = '?'
  · have first := runs_head decimal.isDigit rest
    subst mark
    have matches'
        : (placeholderRe decimal).matches ('?' :: rest)
          = (runs decimal.isDigit rest).map
              (fun run => (⟨[(1, run.1)], '?' :: run.1, run.2⟩ : Match))
            ++ [⟨[], ['?'], rest⟩] := by
      simp [placeholderRe, Pattern.matches, Function.comp_def]
    rw [Pattern.matchAt, matches', List.head?_append, List.head?_map, first, if_pos rfl,
      placeholderMatch]
    split_ifs
    · rfl
    · rfl
  · simp [placeholderRe, Pattern.matchAt, Pattern.matches, mark]

/-- A placeholder in digits of which one is outside ASCII, with a number up to `count`. -/
def Misread (count : Nat) (digits : List Char) : Prop :=
  digits.all isAsciiDigit = false
  ∧ 1 ≤ PythonClient.intOfDigits decimal digits
  ∧ PythonClient.intOfDigits decimal digits ≤ count

/-- Such a placeholder is somewhere in a query. -/
def HasMisread (count : Nat) (sql : List Char) : Prop :=
  ∃ before after,
    sql = before ++ '?' :: after ∧ Misread decimal count (after.takeWhile decimal.isDigit)

theorem hasMisread_cons (count : Nat) (c : Char) (rest : List Char)
    : HasMisread decimal count (c :: rest)
      ↔ (c = '?' ∧ Misread decimal count (rest.takeWhile decimal.isDigit))
        ∨ HasMisread decimal count rest := by
  constructor
  · rintro ⟨before, after, split, misread⟩
    cases before with
    | nil =>
        obtain ⟨rfl, rfl⟩ := List.cons.inj split
        exact Or.inl ⟨rfl, misread⟩
    | cons d before =>
        obtain ⟨-, rfl⟩ := List.cons.inj split
        exact Or.inr ⟨before, after, rfl, misread⟩
  · rintro (⟨rfl, misread⟩ | ⟨before, after, rfl, misread⟩)
    · exact ⟨[], rest, rfl, misread⟩
    · exact ⟨c :: before, after, rfl, misread⟩

/-- The misread placeholders are among the matches, as no digit starts a match. By induction on the
text.
-/
theorem pieces_misread (count skip : Nat) (text : List Char)
    (inside : ∀ c ∈ text.take skip, decimal.isDigit c = true)
    : (∀ found,
        Piece.matched found ∈ (placeholderRe decimal).piecesFrom skip text →
        ¬ Misread decimal count (found.capture 1))
      ↔ ¬ HasMisread decimal count text := by
  induction text generalizing skip with
  | nil =>
      refine iff_of_true (by simp [Pattern.piecesFrom]) ?_
      rintro ⟨before, after, split, -⟩
      simp at split
  | cons c rest ih =>
      rw [hasMisread_cons]
      cases skip with
      | succ skip =>
          rw [List.take_succ_cons, List.forall_mem_cons] at inside
          have other : c ≠ '?' := by
            rintro rfl
            rw [question_noDigit] at inside
            cases inside.1
          rw [Pattern.piecesFrom, ih skip inside.2]
          simp [other]
      | zero =>
          rw [Pattern.piecesFrom, placeholderRe_matchAt]
          by_cases mark : c = '?'
          · have digits : ∀ d ∈ rest.take (rest.takeWhile decimal.isDigit).length,
                decimal.isDigit d = true := by
              rw [← List.prefix_iff_eq_take.mp (List.takeWhile_prefix _)]
              exact fun d member => List.mem_takeWhile_imp member
            have later := ih _ digits
            have capture := placeholderMatch_capture decimal rest
            simp only [mark, if_true, placeholderMatch_length, true_and]
            constructor
            · rintro all (misread | inner)
              · exact all _ List.mem_cons_self (capture ▸ misread)
              · exact later.mp (fun found member => all found (List.mem_cons_of_mem _ member)) inner
            · intro none found member
              rcases List.mem_cons.mp member with here | member
              · cases here
                exact fun misread => none (Or.inl (capture ▸ misread))
              · exact later.mpr (fun inner => none (Or.inr inner)) found member
          · simp only [mark, if_false, false_and, false_or]
            rw [← ih 0 (by simp)]
            simp

end Placeholders

-----------------------------------------------------------------------------------------
-- Parameters of both clients
-----------------------------------------------------------------------------------------

/-- The parameters that both clients have in common, floats apart. -/
inductive CommonParam where
  | null
  | bool (b : Bool)
  | int (n : Int64)
  | text (s : String)
  | bytes (data : Bytes)

def CommonParam.toRust : CommonParam → RustClient.Param
  | .null => .null
  | .bool b => .bool b
  | .int n => .int n
  | .text s => .text s
  | .bytes data => .blob data

def CommonParam.toPython : CommonParam → PythonClient.Parameter
  | .null => .none
  | .bool b => .bool b
  | .int n => .int n.toInt
  | .text s => .str s
  | .bytes data => .bytes data

def CommonParam.literal (param : CommonParam) : List Char :=
  RustClient.serializeSqlValue param.toRust

theorem literal_python (strFloat : UInt64 → String) (param : CommonParam)
    : PythonClient.serializeSqlValue strFloat param.toPython = param.literal := by
  cases param with
  | null => rfl
  | bool b => rfl
  | int n => rfl
  | text s => rfl
  | bytes data => rfl

-----------------------------------------------------------------------------------------
-- The numbers of placeholders
-----------------------------------------------------------------------------------------

theorem toNat_of_asciiDigit {c : Char} (digit : isAsciiDigit c = true)
    : c.toNat < 0x80 := by
  simp only [isAsciiDigit, Bool.and_eq_true, decide_eq_true_eq, Char.le_def,
    UInt32.le_iff_toNat_le] at digit
  exact Nat.lt_of_le_of_lt digit.2 (by decide)

theorem value_asciiDigit (decimal : DecimalDigits) {c : Char} (digit : isAsciiDigit c = true)
    : decimal.value c = some (c.toNat - '0'.toNat) := by
  rw [decimal.ascii c (toNat_of_asciiDigit digit), if_pos digit]

theorem withoutPlus_digits (decimal : DecimalDigits) {digits : List Char}
    (all : ∀ c ∈ digits, decimal.isDigit c = true)
    : withoutPlus digits = digits := by
  unfold withoutPlus
  split
  · have plus := all '+' List.mem_cons_self
    rw [DecimalDigits.isDigit, decimal.ascii '+' (by decide)] at plus
    exact absurd plus (by decide)
  · rfl

/-- Digits of ASCII are the same number for both clients, up to the bound of a `usize`. -/
theorem parseUnsigned_ascii (decimal : DecimalDigits) {digits : List Char} (some' : digits ≠ [])
    (all : ∀ c ∈ digits, decimal.isDigit c = true) (ascii : digits.all isAsciiDigit = true)
    : (parseUnsigned RustClient.usizeLimit (String.ofList digits)).getD 0
      = if PythonClient.intOfDigits decimal digits < RustClient.usizeLimit then
          PythonClient.intOfDigits decimal digits
        else 0 := by
  have value
      : digits.foldl (fun n c => n * 10 + (c.toNat - '0'.toNat)) 0
        = PythonClient.intOfDigits decimal digits := by
    refine List.foldl_ext _ _ _ fun n c member => ?_
    rw [value_asciiDigit decimal (List.all_eq_true.mp ascii c member)]
    rfl
  simp only [parseUnsigned, String.toList_ofList, withoutPlus_digits decimal all, value, some',
    ascii, ne_eq, not_false_eq_true, true_and]
  split_ifs
  · rfl
  · rfl

theorem parseUnsigned_other (decimal : DecimalDigits) {digits : List Char}
    (all : ∀ c ∈ digits, decimal.isDigit c = true) (other : digits.all isAsciiDigit = false)
    : parseUnsigned RustClient.usizeLimit (String.ofList digits) = none := by
  simp [parseUnsigned, String.toList_ofList, withoutPlus_digits decimal all, other]

-----------------------------------------------------------------------------------------
-- Agreement
-----------------------------------------------------------------------------------------

section Agreement

variable (decimal : DecimalDigits) (strFloat : UInt64 → String)

/-- The parameters in Rust. -/
def toSlice (params : RustClient.Slice CommonParam) : RustClient.Slice RustClient.Param where
  items := params.items.map CommonParam.toRust
  fits := by
    rw [List.length_map]
    exact params.fits

/-- The values left in the iterator are those from the counter on. -/
def IteratorAt (params : RustClient.Slice CommonParam) (next : Nat)
    (paramIter : List PythonClient.Parameter)
    : Prop :=
  paramIter = (params.items.drop next).map CommonParam.toPython

/-- A bare placeholder takes the same value, and both clients move on to the next one. -/
theorem replacement_bare (params : RustClient.Slice CommonParam) {next : Nat}
    {paramIter : List PythonClient.Parameter} (iterator : IteratorAt params next paramIter)
    {caps : Match} (bare : caps.captures.lookup 1 = none)
    : (RustClient.replacement (toSlice params) next caps).1
        = (PythonClient.replacement decimal strFloat (params.items.map CommonParam.toPython)
            paramIter caps).1
      ∧ IteratorAt params (RustClient.replacement (toSlice params) next caps).2
          (PythonClient.replacement decimal strFloat (params.items.map CommonParam.toPython)
            paramIter caps).2 := by
  by_cases inside : next < params.items.length
  · have left : params.items.drop next = params.items[next] :: params.items.drop (next + 1) :=
      List.drop_eq_getElem_cons inside
    have values
        : paramIter
          = params.items[next].toPython
            :: (params.items.drop (next + 1)).map CommonParam.toPython := by
      rw [iterator, left, List.map_cons]
    subst values
    simp [RustClient.replacement, PythonClient.replacement, bare, toSlice, inside, IteratorAt,
      literal_python, CommonParam.literal]
  · have none : paramIter = [] := by
      rw [iterator, List.drop_eq_nil_of_le (by omega), List.map_nil]
    subst none
    simp [RustClient.replacement, PythonClient.replacement, bare, toSlice, inside, iterator]

/-- The text for a numbered placeholder: the value with this number, or what stands there. -/
def numberedText (params : List CommonParam) (number : Nat) (kept : List Char) : List Char :=
  if inside : 1 ≤ number ∧ number ≤ params.length then params[number - 1].literal else kept

theorem replacement_rust (params : RustClient.Slice CommonParam) (next : Nat) {caps : Match}
    {digits : List Char} (numbered : caps.captures.lookup 1 = some digits)
    : RustClient.replacement (toSlice params) next caps
      = (numberedText params.items
          ((parseUnsigned RustClient.usizeLimit (String.ofList digits)).getD 0) caps.consumed,
        next) := by
  generalize read : (parseUnsigned RustClient.usizeLimit (String.ofList digits)).getD 0 = number
  by_cases inside : 1 ≤ number ∧ number ≤ params.items.length
  · simp [RustClient.replacement, numbered, read, numberedText, toSlice, inside,
      CommonParam.literal]
  · simp [RustClient.replacement, numbered, read, numberedText, toSlice, inside]

theorem replacement_python (params : List CommonParam)
    (paramIter : List PythonClient.Parameter) {caps : Match} {digits : List Char}
    (numbered : caps.captures.lookup 1 = some digits) (some' : digits ≠ [])
    : PythonClient.replacement decimal strFloat (params.map CommonParam.toPython) paramIter caps
      = (numberedText params (PythonClient.intOfDigits decimal digits) caps.consumed,
        paramIter) := by
  generalize read : PythonClient.intOfDigits decimal digits = number
  by_cases inside : 1 ≤ number ∧ number ≤ params.length
  · have index : (0 : Int) ≤ number - 1 ∧ (number - 1 : Int) < params.length := by omega
    have place : (number - 1 : Int).toNat = number - 1 := by omega
    simp [PythonClient.replacement, numbered, some', read, numberedText, inside, index, place,
      literal_python]
  · have index
        : ¬ ((0 : Int) ≤ number - 1
          ∧ (number - 1 : Int) < (params.map CommonParam.toPython).length) := by
      rw [List.length_map]
      omega
    simp only [PythonClient.replacement, numbered, Option.getD_some, read, numberedText]
    rw [if_pos some', dif_neg index, dif_neg inside]

/-- The numbers that both clients read agree. -/
theorem numberedText_agree (params : RustClient.Slice CommonParam) {digits : List Char}
    (some' : digits ≠ []) (all : ∀ c ∈ digits, decimal.isDigit c = true) (kept : List Char)
    (good : ¬ Misread decimal params.items.length digits)
    : numberedText params.items
          ((parseUnsigned RustClient.usizeLimit (String.ofList digits)).getD 0) kept
      = numberedText params.items (PythonClient.intOfDigits decimal digits) kept := by
  have fits := params.fits
  cases ascii : digits.all isAsciiDigit with
  | true =>
      rw [parseUnsigned_ascii decimal some' all ascii]
      split_ifs with small
      · rfl
      · rw [numberedText, numberedText, dif_neg (by omega), dif_neg (by omega)]
  | false =>
      have outside : ¬ (1 ≤ PythonClient.intOfDigits decimal digits
          ∧ PythonClient.intOfDigits decimal digits ≤ params.items.length) := by
        rintro ⟨lower, upper⟩
        exact good ⟨ascii, lower, upper⟩
      rw [parseUnsigned_other decimal all ascii, Option.getD_none, numberedText, numberedText,
        dif_neg (by omega), dif_neg outside]

/-- The Rust client keeps a misread placeholder, and the Python client writes a literal. -/
theorem numberedText_misread (params : List CommonParam) {digits : List Char}
    (all : ∀ c ∈ digits, decimal.isDigit c = true) (kept : List Char)
    (misread : Misread decimal params.length digits)
    : numberedText params
          ((parseUnsigned RustClient.usizeLimit (String.ofList digits)).getD 0) kept
        = kept
      ∧ ∃ param : CommonParam,
          numberedText params (PythonClient.intOfDigits decimal digits) kept = param.literal := by
  obtain ⟨other, lower, upper⟩ := misread
  constructor
  · rw [parseUnsigned_other decimal all other, Option.getD_none, numberedText, dif_neg (by omega)]
  · exact ⟨_, dif_pos ⟨lower, upper⟩⟩

/-- The matches in a query are placeholders, by induction on it. -/
theorem pieces_placeholders (skip : Nat) (text : List Char) {found : Match}
    (member : Piece.matched found ∈ (placeholderRe decimal).piecesFrom skip text)
    : ∃ rest, found = placeholderMatch decimal rest := by
  induction text generalizing skip with
  | nil => simp [Pattern.piecesFrom] at member
  | cons c rest ih =>
      cases skip with
      | succ skip => exact ih skip member
      | zero =>
          rw [Pattern.piecesFrom, placeholderRe_matchAt] at member
          by_cases mark : c = '?'
          · simp only [mark, if_true] at member
            rcases List.mem_cons.mp member with here | later
            · cases here
              exact ⟨rest, rfl⟩
            · exact ih _ later
          · simp only [mark, if_false] at member
            rcases List.mem_cons.mp member with here | later
            · cases here
            · exact ih _ later

/-- A placeholder is bare, or has digits. -/
theorem placeholderMatch_cases (rest : List Char)
    : (placeholderMatch decimal rest).captures.lookup 1 = none
        ∧ (placeholderMatch decimal rest).capture 1 = []
      ∨ ∃ digits,
          (placeholderMatch decimal rest).captures.lookup 1 = some digits
          ∧ (placeholderMatch decimal rest).capture 1 = digits
          ∧ (placeholderMatch decimal rest).consumed = '?' :: digits
          ∧ digits ≠ []
          ∧ ∀ c ∈ digits, decimal.isDigit c = true := by
  by_cases bare : rest.takeWhile decimal.isDigit = []
  · exact Or.inl (by rw [placeholderMatch, if_pos bare]; exact ⟨rfl, rfl⟩)
  · refine Or.inr ⟨rest.takeWhile decimal.isDigit, ?_⟩
    rw [placeholderMatch, if_neg bare]
    exact ⟨rfl, rfl, rfl, bare, fun c member => List.mem_takeWhile_imp member⟩

/-- The binders write the same query, unless a placeholder in it has a number up to the number of
parameters in digits that are not all of ASCII. By the replacement of one placeholder after the
other.
-/
theorem binders_agree_iff (sql : List Char) (params : RustClient.Slice CommonParam)
    : RustClient.bind decimal sql (toSlice params)
        = PythonClient.clientSidePrepare decimal strFloat sql
            (params.items.map CommonParam.toPython)
      ↔ ¬ HasMisread decimal params.items.length sql := by
  rw [← pieces_misread decimal params.items.length 0 sql (by simp), RustClient.bind,
    PythonClient.clientSidePrepare, Pattern.replaceAll, Pattern.replaceAll,
    Pattern.replaceFrom_pieces, Pattern.replaceFrom_pieces]
  refine replacePieces_eq_iff (IteratorAt params) ?_ ?_ ?_
  · intro next paramIter found iterator good member
    obtain ⟨rest, rfl⟩ := pieces_placeholders decimal 0 sql member
    rcases placeholderMatch_cases decimal rest with
      ⟨bare, -⟩ | ⟨digits, numbered, capture, -, some', all⟩
    · exact replacement_bare decimal strFloat params iterator bare
    · rw [capture] at good
      rw [replacement_rust params next numbered,
        replacement_python decimal strFloat params.items paramIter numbered some']
      exact ⟨numberedText_agree decimal params some' all _ good, iterator⟩
  · intro next paramIter found a b iterator bad member
    obtain ⟨rest, rfl⟩ := pieces_placeholders decimal 0 sql member
    rw [not_not] at bad
    rcases placeholderMatch_cases decimal rest with
      ⟨-, capture⟩ | ⟨digits, numbered, capture, consumed, some', all⟩
    · rw [capture] at bad
      cases bad.1
    · rw [capture] at bad
      rw [replacement_rust params next numbered,
        replacement_python decimal strFloat params.items paramIter numbered some']
      obtain ⟨kept, param, taken⟩ :=
        numberedText_misread decimal params.items all
          (placeholderMatch decimal rest).consumed bad
      obtain ⟨c, tail, literal, other⟩ := serializeSqlValue_head param.toRust
      rw [kept, taken, consumed, CommonParam.literal, literal]
      intro same
      exact other (List.cons.inj same).1.symm
  · rw [IteratorAt, List.drop_zero]

end Agreement

/-- The digits of ASCII and the full-width ones. -/
def fullWidthDigits : DecimalDigits where
  value c :=
    if isAsciiDigit c = true then some (c.toNat - '0'.toNat)
    else if 0xff10 ≤ c.toNat ∧ c.toNat ≤ 0xff19 then some (c.toNat - 0xff10)
    else none
  ascii c small := by
    split_ifs
    · rfl
    · omega
    · rfl

/-- The Rust client keeps `?１`, for which the Python client writes the first value. -/
theorem fullWidth_disagree
    : ¬ ∀ decimal strFloat sql params,
        params.items ≠ [] →
        RustClient.bind decimal sql (toSlice params)
        = PythonClient.clientSidePrepare decimal strFloat sql
            (params.items.map CommonParam.toPython) := by
  intro agree
  have texts := agree fullWidthDigits (fun _ => "") ['?', '１'] ⟨[.null], by decide⟩ (by decide)
  exact absurd texts (by decide +kernel)

end SqliteServer
