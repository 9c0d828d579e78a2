import Mathlib.Data.List.Induction

/-!
# Guarded event machines

A machine refuses an event that its state does not allow.  A run is a finite
list of events none of which is refused, so a statement about all runs is a
statement about all interleavings of the accepted events.  `run_induction`
packages the one induction on runs that every invariant proof needs.
-/

namespace Library

/-- A deterministic machine whose events may be refused in some states. -/
structure Machine (State Event : Type) where
  start : State
  next : State → Event → Option State

namespace Machine

variable {State Event : Type} (machine : Machine State Event)

/-- The state reached by a list of events, if none of them is refused. -/
def run (events : List Event) : Option State :=
  events.foldlM machine.next machine.start

@[simp] theorem run_nil : machine.run [] = some machine.start := rfl

theorem run_append (earlier later : List Event) :
    machine.run (earlier ++ later) =
      (machine.run earlier).bind (later.foldlM machine.next) := by
  simp [run, List.foldlM_append]

theorem run_concat_eq_some_iff
    {events : List Event} {event : Event} {target : State} :
    machine.run (events ++ [event]) = some target ↔
      ∃ middle, machine.run events = some middle ∧
        machine.next middle event = some target := by
  rw [run_append]
  simp [Option.bind_eq_some_iff]

variable {machine}

/-- Induction on the last event of a run.  The motive sees the whole history,
so it can relate the state to the events that produced it. -/
theorem run_induction {motive : List Event → State → Prop}
    (start : motive [] machine.start)
    (step : ∀ events middle event target,
      machine.run events = some middle →
      motive events middle →
      machine.next middle event = some target →
      motive (events ++ [event]) target)
    {events : List Event} {target : State}
    (reached : machine.run events = some target) :
    motive events target := by
  induction events using List.reverseRecOn generalizing target with
  | nil =>
      cases reached
      exact start
  | append_singleton events event induction =>
      obtain ⟨middle, before, last⟩ :=
        (run_concat_eq_some_iff machine).mp reached
      apply step events middle event target before _ last
      exact induction before

end Machine

end Library
