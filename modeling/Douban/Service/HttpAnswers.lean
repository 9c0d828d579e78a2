import Douban.Service.HttpRequest

/-!
# Answers to calls

The future of a call completes with the one answer that was accepted for it:
no answer is lost, none reaches another call, and a second one is refused.
-/

namespace Douban

open Dart Library

variable {ι : Type}

namespace HttpRequest

/-- The answers that a list of events gives to one call, in order. -/
def outcomesOf (index : Nat) (events : List (HttpEvent ι)) :
    List (Except DartError JsonValue) :=
  events.filterMap fun event =>
    match event with
    | .request _ => none
    | .complete position outcome =>
        if position = index then some outcome else none

@[simp] theorem outcomesOf_concat_request (index : Nat)
    (events : List (HttpEvent ι)) (invocation : Invocation ι) :
    outcomesOf index (events ++ [.request invocation]) =
      outcomesOf index events := by
  simp [outcomesOf]

theorem outcomesOf_concat_complete (index position : Nat)
    (events : List (HttpEvent ι)) (outcome : Except DartError JsonValue) :
    outcomesOf index (events ++ [.complete position outcome]) =
      outcomesOf index events ++
        if position = index then [outcome] else [] := by
  by_cases same : position = index
  · simp [outcomesOf, same]
  · simp [outcomesOf, same]

variable {package : DioPackage ι}

theorem exists_complete_of_pending {state : HttpState package} {index : Nat}
    {call : Call ι} (present : state.calls[index]? = some call)
    (pending : call.result = none) (outcome : Except DartError JsonValue) :
    ∃ target, complete state index outcome = some target := by
  rcases call with ⟨invocation, inters, flow, result⟩
  cases pending
  rw [complete, present]
  exact ⟨_, rfl⟩

/-- Invariant of the answers: a call holds what its answers give, and there
are none for a call that was never issued. -/
structure Answered (events : List (HttpEvent ι)) (state : HttpState package) :
    Prop where
  held : ∀ index call, state.calls[index]? = some call →
    (outcomesOf index events).map (finish call.invocation) =
      call.result.toList
  absent : ∀ index, state.calls.length ≤ index → outcomesOf index events = []

theorem request_answered {events : List (HttpEvent ι)}
    {state : HttpState package} (answered : Answered events state)
    (invocation : Invocation ι) :
    Answered (events ++ [.request invocation])
      (request state invocation) := by
  constructor
  · intro index call found
    rw [outcomesOf_concat_request]
    rw [request_calls] at found
    rcases getElem?_concat_cases found with ⟨_, old⟩ | ⟨rfl, rfl⟩
    · exact answered.held index call old
    · rw [answered.absent _ (le_refl _)]
      rfl
  · intro index beyond
    rw [outcomesOf_concat_request]
    rw [request_calls, List.length_append] at beyond
    apply answered.absent
    omega

theorem complete_answered {events : List (HttpEvent ι)}
    {state target : HttpState package} (answered : Answered events state)
    {position : Nat} {outcome : Except DartError JsonValue}
    (completed : complete state position outcome = some target) :
    Answered (events ++ [.complete position outcome]) target := by
  obtain ⟨finished, present, pending, calls, _⟩ := complete_cases completed
  obtain ⟨inRange, _⟩ := List.getElem?_eq_some_iff.mp present
  constructor
  · intro index call found
    rw [outcomesOf_concat_complete]
    rw [calls] at found
    by_cases same : position = index
    · subst same
      rw [List.getElem?_set_self inRange] at found
      cases found
      have before := answered.held position finished present
      rw [pending] at before
      simp [List.map_eq_nil_iff.mp before]
    · rw [List.getElem?_set_ne same] at found
      simpa [same] using answered.held index call found
  · intro index beyond
    rw [calls, List.length_set] at beyond
    have other : position ≠ index := by omega
    simp [outcomesOf_concat_complete, other, answered.absent index beyond]

theorem run_answered {events : List (HttpEvent ι)}
    {state : HttpState package}
    (reached : (machine package).run events = some state) :
    Answered events state := by
  apply Machine.run_induction
    (motive := fun events (state : HttpState package) =>
      Answered events state) _ _ reached
  · constructor
    · intro index call found
      simp [machine] at found
    · intro index _
      rfl
  · intro events middle event target _ answered last
    cases event with
    | request invocation =>
        cases last
        exact request_answered answered invocation
    | complete position outcome =>
        exact complete_answered answered last

/-- In every run the result of a call is what its cast makes of the only answer
accepted for it, and a call without an answer has none. -/
theorem result_of_outcomes {events : List (HttpEvent ι)}
    {state : HttpState package}
    (reached : (machine package).run events = some state)
    {index : Nat} {call : Call ι}
    (present : state.calls[index]? = some call) :
    (outcomesOf index events = [] ∧ call.result = none) ∨
      ∃ outcome, outcomesOf index events = [outcome] ∧
        call.result = some (outcome >>= call.invocation.castTo) := by
  have held := (run_answered reached).held index call present
  cases result : call.result with
  | none =>
      rw [result] at held
      exact .inl ⟨List.map_eq_nil_iff.mp held, rfl⟩
  | some value =>
      rw [result] at held
      obtain ⟨outcome, single, finished⟩ := List.map_eq_singleton_iff.mp held
      right
      refine ⟨outcome, single, ?_⟩
      rw [← finished, finish_eq]

/-- The second of two calls is answered, the first one is not. -/
def secondAnswered : List (HttpEvent Nat) :=
  [.request { url := "/login" }, .request { url := "/movies" },
    .complete 1 (.ok .null)]

theorem result_of_outcomes_secondAnswered :
    ∃ state call, (machine (DioPackage.listOnly Nat)).run secondAnswered =
        some state ∧
      state.calls[1]? = some call ∧
      ((outcomesOf 1 secondAnswered = [] ∧ call.result = none) ∨
        ∃ outcome, outcomesOf 1 secondAnswered = [outcome] ∧
          call.result = some (outcome >>= call.invocation.castTo)) := by
  have reached : (machine (DioPackage.listOnly Nat)).run secondAnswered =
      some _ := rfl
  exact ⟨_, _, reached, rfl, result_of_outcomes reached rfl⟩

end HttpRequest

end Douban
