import Douban.Library.Machine

/-!
# Simulation of machines

Each event of one machine is a list of events of another, which may be empty.
A simulation carries runs over, so what holds of all runs of the second machine
holds of the runs of the first.
-/

namespace Library

/-- A function of the states that commutes with every step carries runs over,
refused ones included. -/
theorem Machine.run_map {State State' Event : Type}
    {machine : Machine State Event} {other : Machine State' Event}
    (forget : State → State') (start : forget machine.start = other.start)
    (next : ∀ state event, (machine.next state event).map forget =
      other.next (forget state) event) (events : List Event) :
    (machine.run events).map forget = other.run events := by
  induction events using List.reverseRecOn with
  | nil => exact congrArg some start
  | append_singleton events event induction =>
      rw [run_append, run_append, ← induction]
      cases machine.run events with
      | none => rfl
      | some middle => simpa using next middle event

/-- A machine whose steps are runs of another one.  The opening events bring
the other machine to where the simulation starts. -/
structure Simulation {State Event State' Event' : Type}
    (concrete : Machine State Event) (abstract : Machine State' Event') where
  state : State → State'
  event : Event → List Event'
  opening : List Event'
  start : abstract.run opening = some (state concrete.start)
  step : ∀ source event' target, concrete.next source event' = some target →
    (event event').foldlM abstract.next (state source) = some (state target)

namespace Simulation

variable {State Event State' Event' : Type}
  {concrete : Machine State Event} {abstract : Machine State' Event'}

theorem steps (simulation : Simulation concrete abstract)
    {events : List Event} {source target : State}
    (stepped : events.foldlM concrete.next source = some target) :
    (events.flatMap simulation.event).foldlM abstract.next
      (simulation.state source) = some (simulation.state target) := by
  induction events generalizing source with
  | nil =>
      cases stepped
      rfl
  | cons event events induction =>
      rw [List.foldlM_cons] at stepped
      obtain ⟨between, first, rest⟩ := Option.bind_eq_some_iff.mp stepped
      rw [List.flatMap_cons, List.foldlM_append]
      apply Option.bind_eq_some_iff.mpr
      exact ⟨simulation.state between, simulation.step _ _ _ first,
        induction rest⟩

theorem run (simulation : Simulation concrete abstract)
    {events : List Event} {target : State}
    (reached : concrete.run events = some target) :
    abstract.run (simulation.opening ++ events.flatMap simulation.event) =
      some (simulation.state target) := by
  rw [Machine.run_append, simulation.start]
  exact simulation.steps reached

end Simulation

end Library
