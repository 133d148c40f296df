import Mathlib.Data.List.Basic
import Mathlib.Data.List.Forall2

/-! Runs of machines that answer events: states reached, outputs, invariants along a run, and
simulation of one machine by another.
-/

namespace SqliteServer.Runs

section Machine

variable {State Event Output : Type} (step : State → Event → State × List Output)

/-- The state after some events. -/
def after : State → List Event → State
  | state, [] => state
  | state, event :: events => after (step state event).1 events

/-- What some events are answered, in order. -/
def outputs : State → List Event → List Output
  | _, [] => []
  | state, event :: events => (step state event).2 ++ outputs (step state event).1 events

/-- `P` holds of every event of a run in the state it meets. -/
def Along (P : State → Event → Prop) : State → List Event → Prop
  | _, [] => True
  | state, event :: events => P state event ∧ Along P (step state event).1 events

variable {step}

/-- Running on gives the states of the longer run, by induction on the first events. -/
theorem after_append (state : State) (events more : List Event)
    : after step state (events ++ more) = after step (after step state events) more := by
  induction events generalizing state with
  | nil => rfl
  | cons event rest ih => exact ih (step state event).1

theorem outputs_append (state : State) (events more : List Event)
    : outputs step state (events ++ more)
      = outputs step state events ++ outputs step (after step state events) more := by
  induction events generalizing state with
  | nil => rfl
  | cons event rest ih =>
      rw [List.cons_append, outputs, outputs, after, ih, List.append_assoc]

/-- What every step keeps whatever it meets, a run keeps, by induction on the events. -/
theorem after_invariant {I : State → Prop} (keeps : ∀ state event, I state → I (step state event).1)
    {state : State} (start : I state) (events : List Event)
    : I (after step state events) := by
  induction events generalizing state with
  | nil => exact start
  | cons event rest ih => exact ih (keeps state event start)

/-- What every step keeps, a run keeps, by induction on the events. -/
theorem Along.invariant {P : State → Event → Prop} {I : State → Prop}
    (keeps : ∀ state event, I state → P state event → I (step state event).1)
    {state : State} {events : List Event} (start : I state) (along : Along step P state events)
    : I (after step state events) := by
  induction events generalizing state with
  | nil => exact start
  | cons event rest ih => exact ih (keeps state event start along.1) along.2

/-- A run whose steps lower a measure is no longer than the measure allows, by induction on the
events.
-/
theorem Along.length_le {P : State → Event → Prop} {measure : State → Nat}
    (lowers : ∀ state event, P state event → measure (step state event).1 < measure state)
    {state : State} {events : List Event} (along : Along step P state events)
    : events.length + measure (after step state events) ≤ measure state := by
  induction events generalizing state with
  | nil => exact Nat.le_of_eq (Nat.zero_add _)
  | cons event rest ih =>
      have first := lowers state event along.1
      have later := ih along.2
      rw [List.length_cons, after]
      omega

/-- What holds of the steps of a run with an invariant holds along it, by induction on the
events.
-/
theorem Along.strengthen {P Q : State → Event → Prop} {I : State → Prop}
    (keeps : ∀ state event, I state → P state event → I (step state event).1)
    (gives : ∀ state event, I state → P state event → Q state event)
    {state : State} {events : List Event} (start : I state) (along : Along step P state events)
    : Along step Q state events := by
  induction events generalizing state with
  | nil => trivial
  | cons event rest ih =>
      exact ⟨gives state event start along.1, ih (keeps state event start along.1) along.2⟩

/-- What holds along a run holds along its first events and, from where they lead, along the
others: by induction on the first events.
-/
theorem along_append {P : State → Event → Prop} {state : State} {events more : List Event}
    : Along step P state (events ++ more)
      ↔ Along step P state events ∧ Along step P (after step state events) more := by
  induction events generalizing state with
  | nil => rw [List.nil_append, Along, after, true_and]
  | cons event rest ih => rw [List.cons_append, Along, Along, after, ih, and_assoc]

/-- Two properties that hold along a run hold along it together, by induction on the events. -/
theorem Along.and {P Q : State → Event → Prop} {state : State} {events : List Event}
    (first : Along step P state events) (second : Along step Q state events)
    : Along step (fun s e => P s e ∧ Q s e) state events := by
  induction events generalizing state with
  | nil => trivial
  | cons event rest ih => exact ⟨⟨first.1, second.1⟩, ih first.2 second.2⟩

/-- Events that all have a property have it along any run. -/
theorem along_of_forall {P : State → Event → Prop} {events : List Event}
    (all : ∀ event ∈ events, ∀ state, P state event) (state : State)
    : Along step P state events := by
  induction events generalizing state with
  | nil => trivial
  | cons event rest ih =>
      exact ⟨all event List.mem_cons_self state,
        ih (fun e member => all e (List.mem_cons_of_mem _ member)) (step state event).1⟩

end Machine

section Simulation

variable {State Abstract Event Event' Output : Type}
variable {step : State → Event → State × List Output}
variable {step' : Abstract → Event' → Abstract × List Output}

/-- A machine simulated by another gives the same outputs, by induction on the events. -/
theorem outputs_simulated {R : State → Abstract → Prop} {P : State → Event → Prop}
    (abstract : Event → Event')
    (simulates
      : ∀ state spec event,
          R state spec
          → P state event
          → R (step state event).1 (step' spec (abstract event)).1
            ∧ (step state event).2 = (step' spec (abstract event)).2)
    {state : State} {spec : Abstract} {events : List Event} (start : R state spec)
    (along : Along step P state events)
    : outputs step state events = outputs step' spec (events.map abstract) := by
  induction events generalizing state spec with
  | nil => rfl
  | cons event rest ih =>
      obtain ⟨related, same⟩ := simulates state spec event start along.1
      rw [outputs, List.map_cons, outputs, same, ih related along.2]

/-- A machine simulated by another reaches a state that the other's state stands for. -/
theorem after_simulated {R : State → Abstract → Prop} {P : State → Event → Prop}
    (abstract : Event → Event')
    (simulates
      : ∀ state spec event,
          R state spec
          → P state event
          → R (step state event).1 (step' spec (abstract event)).1)
    {state : State} {spec : Abstract} {events : List Event} (start : R state spec)
    (along : Along step P state events)
    : R (after step state events) (after step' spec (events.map abstract)) := by
  induction events generalizing state spec with
  | nil => exact start
  | cons event rest ih => exact ih (simulates state spec event start along.1) along.2

end Simulation

section Exchange

variable {State Event Output : Type} {step : State → Event → State × List Output}

/-- Events that a machine takes alike, with related outputs, may stand for each other along a run:
by induction on the pairs of events.
-/
theorem exchange {Alike : Event → Event → Prop} {Related : Output → Output → Prop}
    (agree
      : ∀ state event event',
          Alike event event'
          → (step state event).1 = (step state event').1
            ∧ List.Forall₂ Related (step state event).2 (step state event').2)
    {events events' : List Event} (alike : List.Forall₂ Alike events events') (state : State)
    : after step state events = after step state events'
      ∧ List.Forall₂ Related (outputs step state events) (outputs step state events') := by
  induction alike generalizing state with
  | nil => exact ⟨rfl, .nil⟩
  | cons first _ ih =>
      obtain ⟨next, answers⟩ := agree state _ _ first
      obtain ⟨final, later⟩ := ih (step state _).1
      rw [after, after, outputs, outputs, ← next]
      exact ⟨final, List.rel_append answers later⟩

end Exchange

section Observation

variable {State Event Output : Type} (relevant : Event → Bool)
  (step : State → Event → State × List Output)

/-- A machine whose answers to other than relevant events are not seen. -/
def observed (state : State) (event : Event) : State × List Output :=
  ((step state event).1, if relevant event then (step state event).2 else [])

variable {relevant step} {R : State → State → Prop}

/-- Nothing is lost when all events are relevant. -/
theorem observed_all : observed (fun _ => true) step = step := rfl

/-- What is seen does not matter to where a run leads. -/
theorem after_observed (state : State) (events : List Event)
    : after (observed relevant step) state events = after step state events := by
  induction events generalizing state with
  | nil => rfl
  | cons event rest ih => exact ih (step state event).1

/-- What is seen does not matter to what holds along a run. -/
theorem Along.observed {P : State → Event → Prop} {state : State} {events : List Event}
    (along : Along step P state events)
    : Along (observed relevant step) P state events := by
  induction events generalizing state with
  | nil => trivial
  | cons event rest ih => exact ⟨along.1, ih along.2⟩

end Observation

end SqliteServer.Runs
