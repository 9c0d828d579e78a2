import Douban.Library.Machine
import Mathlib.Data.List.Perm.Basic

/-!
# Reordering the events of a run

An event waits for another one if both can be accepted the other way round
whenever they are accepted with the first one in front, and then lead to the
same state.  Events that wait for every event can be moved to the end of a run
and permuted there, so a run is decided by its other events in their order and
by which of these events occur.
-/

namespace Library

variable {State Event : Type}

namespace Machine

def Waits (machine : Machine State Event) (late early : Event) : Prop :=
  ∀ source between target, machine.next source late = some between →
    machine.next between early = some target →
    ∃ other, machine.next source early = some other ∧
      machine.next other late = some target

/-- The events of one kind after all others. -/
def lateLast (late : Event → Bool) (events : List Event) : List Event :=
  events.filter (fun event => !late event) ++ events.filter late

variable {machine : Machine State Event}

/-- An event that waits for each event of a list can follow the list. -/
theorem steps_of_waits {event : Event} {events : List Event}
    (waits : ∀ early ∈ events, machine.Waits event early)
    {source between target : State}
    (first : machine.next source event = some between)
    (rest : events.foldlM machine.next between = some target) :
    ∃ other, events.foldlM machine.next source = some other ∧
      machine.next other event = some target := by
  induction events generalizing source between with
  | nil =>
      cases rest
      exact ⟨source, rfl, first⟩
  | cons early events induction =>
      rw [List.foldlM_cons] at rest
      obtain ⟨after, second, rest⟩ := Option.bind_eq_some_iff.mp rest
      obtain ⟨other, exchanged, delayed⟩ :=
        waits early List.mem_cons_self source between after first second
      obtain ⟨final, stepped, last⟩ := induction
        (fun later member => waits later (List.mem_cons_of_mem early member))
        delayed rest
      refine ⟨final, ?_, last⟩
      rw [List.foldlM_cons]
      exact Option.bind_eq_some_iff.mpr ⟨other, exchanged, stepped⟩

section Late

variable {late : Event → Bool}
  (waits : ∀ event early, late event = true → machine.Waits event early)
  {events events' : List Event}

include waits

/-- The late events can all be accepted at the end. -/
theorem steps_lateLast {source target : State}
    (stepped : events.foldlM machine.next source = some target) :
    (lateLast late events).foldlM machine.next source = some target := by
  induction events generalizing source with
  | nil => exact stepped
  | cons event events induction =>
      rw [List.foldlM_cons] at stepped
      obtain ⟨between, first, rest⟩ := Option.bind_eq_some_iff.mp stepped
      have reordered := induction rest
      cases isLate : late event with
      | false =>
          simp only [lateLast, isLate, Bool.not_false, List.filter_cons_of_pos,
            List.cons_append, List.foldlM_cons, Bool.false_eq_true,
            not_false_eq_true, List.filter_cons_of_neg]
          exact Option.bind_eq_some_iff.mpr ⟨between, first, reordered⟩
      | true =>
          rw [lateLast, List.foldlM_append] at reordered
          obtain ⟨middle, early, last⟩ :=
            Option.bind_eq_some_iff.mp reordered
          obtain ⟨other, stepped, delayed⟩ := steps_of_waits
            (fun early _ => waits event early isLate) first early
          simp only [lateLast, isLate, Bool.not_true, Bool.false_eq_true,
            not_false_eq_true, List.filter_cons_of_neg,
            List.filter_cons_of_pos]
          rw [List.foldlM_append]
          apply Option.bind_eq_some_iff.mpr
          refine ⟨other, stepped, ?_⟩
          rw [List.foldlM_cons]
          exact Option.bind_eq_some_iff.mpr ⟨middle, delayed, last⟩

/-- Late events lead to the same state in any order. -/
theorem steps_of_perm (permuted : events.Perm events')
    (isLate : ∀ event ∈ events, late event = true) {source target : State}
    (stepped : events.foldlM machine.next source = some target) :
    events'.foldlM machine.next source = some target := by
  induction permuted generalizing source with
  | nil => exact stepped
  | cons event permuted induction =>
      rw [List.foldlM_cons] at stepped ⊢
      obtain ⟨between, first, rest⟩ := Option.bind_eq_some_iff.mp stepped
      apply Option.bind_eq_some_iff.mpr
      refine ⟨between, first, induction ?_ rest⟩
      intro later member
      exact isLate later (List.mem_cons_of_mem event member)
  | swap second first events =>
      rw [List.foldlM_cons] at stepped ⊢
      obtain ⟨between, before, rest⟩ := Option.bind_eq_some_iff.mp stepped
      rw [List.foldlM_cons] at rest
      obtain ⟨after, last, rest⟩ := Option.bind_eq_some_iff.mp rest
      obtain ⟨other, exchanged, delayed⟩ := waits first second
        (isLate first List.mem_cons_self) source between after before last
      apply Option.bind_eq_some_iff.mpr
      refine ⟨other, exchanged, ?_⟩
      rw [List.foldlM_cons]
      exact Option.bind_eq_some_iff.mpr ⟨after, delayed, rest⟩
  | trans permuted permuted' induction induction' =>
      apply induction' _ (induction isLate stepped)
      intro event member
      exact isLate event (permuted.mem_iff.mpr member)

theorem run_lateLast {state : State}
    (reached : machine.run events = some state) :
    machine.run (lateLast late events) = some state :=
  steps_lateLast waits reached

/-- Two runs with the same events in the same order, but for the late ones,
which are the same up to their order, reach the same state. -/
theorem run_unique (early : events.filter (fun event => !late event) =
      events'.filter fun event => !late event)
    (permuted : (events.filter late).Perm (events'.filter late))
    {state state' : State} (reached : machine.run events = some state)
    (reached' : machine.run events' = some state') : state = state' := by
  have ordered := run_lateLast waits reached
  have ordered' := run_lateLast waits reached'
  rw [lateLast, run_append] at ordered ordered'
  obtain ⟨middle, before, last⟩ := Option.bind_eq_some_iff.mp ordered
  obtain ⟨middle', before', last'⟩ := Option.bind_eq_some_iff.mp ordered'
  rw [early, before'] at before
  cases before
  have isLate : ∀ event ∈ events.filter late, late event = true := by
    intro event member
    exact (List.mem_filter.mp member).2
  rw [steps_of_perm waits permuted isLate last] at last'
  exact Option.some.inj last'

end Late

end Machine

end Library
