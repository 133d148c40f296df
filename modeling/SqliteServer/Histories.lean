import SqliteServer.Runs

/-! Histories that grow at their end: what holds of each event after those before it, and what has
happened since.
-/

namespace SqliteServer.Runs

variable {α : Type}

/-- `P` holds of each event of a history and the events before it. -/
def AtEach (P : List α → α → Prop) (history : List α) : Prop :=
  ∀ before event later, history = before ++ event :: later → P before event

/-- Some event has `P`, and no later one has `Q`. -/
def Since (P Q : α → Prop) (history : List α) : Prop :=
  ∃ before event later, history = before ++ event :: later ∧ P event ∧ ∀ e ∈ later, ¬ Q e

/-- A split of a history with one more event is at that event or before it. -/
theorem split_concat {history before later : List α} {last event : α}
    (split : history ++ [last] = before ++ event :: later)
    : (history = before ∧ last = event ∧ later = [])
      ∨ ∃ rest, history = before ++ event :: rest ∧ later = rest ++ [last] := by
  rcases List.eq_nil_or_concat later with rfl | ⟨rest, final, rfl⟩
  · left
    obtain ⟨same, one⟩ := List.append_inj' split rfl
    exact ⟨same, List.head_eq_of_cons_eq one, rfl⟩
  · right
    rw [List.concat_eq_append, ← List.cons_append, ← List.append_assoc] at split
    obtain ⟨same, one⟩ := List.append_inj' split rfl
    exact ⟨rest, same, by rw [List.concat_eq_append, List.head_eq_of_cons_eq one]⟩

namespace AtEach

variable {P : List α → α → Prop} {history : List α}

theorem nil : AtEach P [] := by
  intro before event later split
  simp at split

/-- A history with one more event: all events before have `P`, and so does the new one. -/
theorem concat {last : α} (each : AtEach P history) (new : P history last)
    : AtEach P (history ++ [last]) := by
  intro before event later split
  rcases split_concat split with ⟨rfl, rfl, rfl⟩ | ⟨rest, earlier, -⟩
  · exact new
  · exact each before event rest earlier

/-- Several more events have `P` one after the other, by induction on them. -/
theorem append {more : List α} (each : AtEach P history)
    (new : AtEach (fun before event => P (history ++ before) event) more)
    : AtEach P (history ++ more) := by
  induction more generalizing history with
  | nil => rwa [List.append_nil]
  | cons event rest ih =>
      rw [← List.singleton_append, ← List.append_assoc]
      refine ih (each.concat ?_) ?_
      · have first := new [] event rest rfl
        dsimp only at first
        rwa [List.append_nil] at first
      · intro before e later split
        rw [List.append_assoc]
        exact new (event :: before) e later (by rw [split]; rfl)

end AtEach

namespace Since

variable {P Q : α → Prop} {history : List α}

/-- One more event is the one sought, or leaves what was so before. -/
theorem concat_iff {last : α}
    : Since P Q (history ++ [last]) ↔ P last ∨ (Since P Q history ∧ ¬ Q last) := by
  constructor
  · intro ⟨before, event, later, split, holds, quiet⟩
    rcases split_concat split with ⟨rfl, rfl, rfl⟩ | ⟨rest, earlier, rfl⟩
    · exact .inl holds
    · right
      refine ⟨⟨before, event, rest, earlier, holds, ?_⟩, quiet last (by simp)⟩
      intro e member
      exact quiet e (List.mem_append_left _ member)
  · intro happened
    rcases happened with holds | ⟨⟨before, event, later, rfl, holds, quiet⟩, still⟩
    · exact ⟨history, last, [], rfl, holds, by simp⟩
    · refine ⟨before, event, later ++ [last], by simp, holds, ?_⟩
      intro e member
      rcases List.mem_append.mp member with old | new
      · exact quiet e old
      · rw [List.mem_singleton.mp new]
        exact still

theorem not_nil : ¬ Since P Q ([] : List α) := by
  intro ⟨before, event, later, split, _⟩
  simp at split

theorem exists_mem (since : Since P Q history) : ∃ event ∈ history, P event := by
  obtain ⟨before, event, later, rfl, holds, -⟩ := since
  exact ⟨event, by simp, holds⟩

end Since

section Machine

variable {State Event Output : Type} {step : State → Event → State × List Output}

/-- What every step keeps of the outputs so far and the state, a run keeps, by induction on the
events.
-/
theorem outputs_invariant {I : List Output → State → Prop}
    (keeps
      : ∀ history state event,
          I history state → I (history ++ (step state event).2) (step state event).1)
    {history : List Output} {state : State} (start : I history state) (events : List Event)
    : I (history ++ outputs step state events) (after step state events) := by
  induction events generalizing history state with
  | nil => rwa [outputs, after, List.append_nil]
  | cons event rest ih =>
      have first := ih (keeps history state event start)
      rwa [List.append_assoc] at first

end Machine

end SqliteServer.Runs
