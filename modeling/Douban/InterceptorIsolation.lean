import Douban.Service.HttpRequest

/-!
# Interceptor isolation

Every call installs its interceptors on the one shared client and nothing ever
removes them, so a call passes through the interceptors of all calls issued up
to it.  Only the first call of the process is isolated from the others.
-/

namespace Douban

open Dart Library

variable {ι : Type}

def Interceptor.wrapper? : Interceptor ι → Option InterceptorsWrapper
  | wrapper object => some object
  | given _ => none

/-- The call passes through its own logging interceptor, then through the
interceptor it was given, and through nothing else. -/
def Call.Isolated (index : Nat) (call : Call ι) : Prop :=
  call.flow = HttpRequest.inters index call.invocation.inter

namespace HttpRequest

variable {package : DioPackage ι}

theorem inters_ne_nil (call : Nat) (inter : Option ι) :
    inters call inter ≠ [] := by
  cases inter with
  | none => simp [inters]
  | some inter => simp [inters]

/-- Invariant of the shared client: the installed list is what the calls so
far contributed, and each call saw the list as it stood right after its own
contribution. -/
structure Accumulates (state : HttpState package) : Prop where
  installed : package.interceptors state.dio =
    (state.calls.map Call.inters).flatten
  own : ∀ index call, state.calls[index]? = some call →
    call.inters = inters index call.invocation.inter
  flows : ∀ index call, state.calls[index]? = some call →
    call.flow = accumulated (state.calls.map Call.inters) index

theorem start_accumulates : Accumulates (machine package).start := by
  constructor
  · exact package.create_interceptors options
  · intro index call found
    simp [machine] at found
  · intro index call found
    simp [machine] at found

theorem request_accumulates {state : HttpState package}
    (invariant : Accumulates state) (invocation : Invocation ι) :
    Accumulates (request state invocation) := by
  constructor
  · rw [request_interceptors, request_calls, invariant.installed]
    simp
  · intro index call found
    rw [request_calls] at found
    rcases getElem?_concat_cases found with ⟨_, old⟩ | ⟨rfl, rfl⟩
    · exact invariant.own index call old
    · rfl
  · intro index call found
    rw [request_calls] at found ⊢
    rw [List.map_append]
    rcases getElem?_concat_cases found with ⟨inRange, old⟩ | ⟨rfl, rfl⟩
    · rw [accumulated_append_of_lt (by simpa using inRange)]
      exact invariant.flows index call old
    · have last := accumulated_concat_length (state.calls.map Call.inters)
        (inters state.calls.length invocation.inter)
      rw [List.length_map] at last
      simp [last, invariant.installed]

theorem complete_accumulates {state target : HttpState package}
    (invariant : Accumulates state) {position : Nat}
    {outcome : Except DartError JsonValue}
    (completed : complete state position outcome = some target) :
    Accumulates target := by
  obtain ⟨finished, present, _, calls, interceptors⟩ :=
    complete_cases completed
  have sameInters : target.calls.map Call.inters =
      state.calls.map Call.inters := by
    rw [calls]
    exact map_set_result _ (fun _ _ => rfl) present _
  constructor
  · rw [interceptors, sameInters, invariant.installed]
  · intro index call found
    obtain ⟨before, old, sameInvocation, same, _⟩ :=
      complete_origin completed found
    rw [same, sameInvocation]
    exact invariant.own index before old
  · intro index call found
    obtain ⟨before, old, _, _, sameFlow⟩ := complete_origin completed found
    rw [sameInters, sameFlow]
    exact invariant.flows index before old

/-- Every run, with any interleaving of calls and answers. -/
theorem run_accumulates {events : List (HttpEvent ι)}
    {state : HttpState package}
    (reached : (machine package).run events = some state) :
    Accumulates state := by
  apply Machine.run_induction (motive := fun _ state => Accumulates state)
    start_accumulates _ reached
  intro events middle event target _ invariant last
  cases event with
  | request invocation =>
      cases last
      exact request_accumulates invariant invocation
  | complete position outcome =>
      exact complete_accumulates invariant last

theorem run_invocations {events : List (HttpEvent ι)}
    {state : HttpState package}
    (reached : (machine package).run events = some state) :
    state.calls.map Call.invocation = invocationsOf events := by
  apply Machine.run_induction
    (motive := fun events (state : HttpState package) =>
      state.calls.map Call.invocation = invocationsOf events) rfl _ reached
  intro events middle event target _ before last
  cases event with
  | request invocation =>
      cases last
      rw [request_calls, List.map_append, before]
      simp [invocationsOf]
  | complete position outcome =>
      obtain ⟨call, present, _, calls, _⟩ := complete_cases last
      rw [calls, map_set_result _ (fun _ _ => rfl) present, before]
      simp [invocationsOf]

theorem Accumulates.mem_iff {state : HttpState package}
    (invariant : Accumulates state) {index : Nat} {call : Call ι}
    (present : state.calls[index]? = some call)
    {interceptor : Interceptor ι} :
    interceptor ∈ call.flow ↔
      ∃ contributor earlier, contributor ≤ index ∧
        state.calls[contributor]? = some earlier ∧
        interceptor ∈ inters contributor earlier.invocation.inter := by
  rw [invariant.flows index call present, mem_accumulated_iff]
  constructor
  · intro found
    obtain ⟨contributor, contribution, notLater, contributed, member⟩ := found
    rw [List.getElem?_map] at contributed
    obtain ⟨earlier, earlierPresent, equality⟩ :=
      Option.map_eq_some_iff.mp contributed
    subst equality
    rw [invariant.own contributor earlier earlierPresent] at member
    exact ⟨contributor, earlier, notLater, earlierPresent, member⟩
  · intro found
    obtain ⟨contributor, earlier, notLater, earlierPresent, member⟩ := found
    refine ⟨contributor, earlier.inters, notLater, ?_, ?_⟩
    · rw [List.getElem?_map, earlierPresent, Option.map_some]
    · rwa [invariant.own contributor earlier earlierPresent]

/-- The interceptors of a call reach every later call, and no others do. -/
theorem mem_flow_iff {events : List (HttpEvent ι)}
    {state : HttpState package}
    (reached : (machine package).run events = some state)
    {index : Nat} {call : Call ι} (present : state.calls[index]? = some call)
    {interceptor : Interceptor ι} :
    interceptor ∈ call.flow ↔
      ∃ contributor earlier, contributor ≤ index ∧
        state.calls[contributor]? = some earlier ∧
        interceptor ∈ inters contributor earlier.invocation.inter :=
  (run_accumulates reached).mem_iff present

/-- Call number `index` runs `index + 1` logging interceptors: one for every
call up to it. -/
theorem loggers_of_flow {events : List (HttpEvent ι)}
    {state : HttpState package}
    (reached : (machine package).run events = some state)
    {index : Nat} {call : Call ι}
    (present : state.calls[index]? = some call) :
    call.flow.filterMap Interceptor.wrapper? =
      (List.range (index + 1)).map dInter := by
  have invariant := run_accumulates reached
  rw [invariant.flows index call present]
  apply filterMap_accumulated
  · intro contributor contribution contributed
    rw [List.getElem?_map] at contributed
    obtain ⟨earlier, earlierPresent, equality⟩ :=
      Option.map_eq_some_iff.mp contributed
    subst equality
    rw [invariant.own contributor earlier earlierPresent]
    cases earlier.invocation.inter with
    | none => rfl
    | some inter => rfl
  · obtain ⟨inRange, _⟩ := List.getElem?_eq_some_iff.mp present
    simpa using inRange

/-- In every run the calls together pass through a number of logging
interceptors that grows with the square of the number of calls. -/
theorem total_loggers {events : List (HttpEvent ι)}
    {state : HttpState package}
    (reached : (machine package).run events = some state) :
    2 * (state.calls.map fun call =>
        (call.flow.filterMap Interceptor.wrapper?).length).sum =
      state.calls.length * (state.calls.length + 1) := by
  have each : ∀ index count, (state.calls.map fun call =>
      (call.flow.filterMap Interceptor.wrapper?).length)[index]? =
        some count → count = index + 1 := by
    intro index count found
    rw [List.getElem?_map] at found
    obtain ⟨call, present, equality⟩ := Option.map_eq_some_iff.mp found
    rw [loggers_of_flow reached present] at equality
    simpa using equality.symm
  rw [two_mul_sum_of_successors each, List.length_map]

/-- In every run, a call is isolated exactly when it is the first one. -/
theorem isolated_iff_first {events : List (HttpEvent ι)}
    {state : HttpState package}
    (reached : (machine package).run events = some state)
    {index : Nat} {invocation : Invocation ι}
    (issued : (invocationsOf events)[index]? = some invocation) :
    ∃ call, state.calls[index]? = some call ∧
      call.invocation = invocation ∧ (call.Isolated index ↔ index = 0) := by
  have invariant := run_accumulates reached
  rw [← run_invocations reached, List.getElem?_map] at issued
  obtain ⟨call, present, equality⟩ := Option.map_eq_some_iff.mp issued
  subst equality
  refine ⟨call, present, rfl, ?_⟩
  have nonempty : ∀ contribution ∈ state.calls.map Call.inters,
      contribution ≠ [] := by
    intro contribution member
    obtain ⟨other, otherMember, equality⟩ := List.mem_map.mp member
    subst equality
    obtain ⟨position, otherPresent⟩ :=
      List.mem_iff_getElem?.mp otherMember
    rw [invariant.own position other otherPresent]
    exact inters_ne_nil _ _
  have contribution : (state.calls.map Call.inters)[index]? =
      some (inters index call.invocation.inter) := by
    rw [List.getElem?_map, present, Option.map_some,
      invariant.own index call present]
  rw [Call.Isolated, invariant.flows index call present]
  exact accumulated_eq_own_iff_first nonempty contribution

/-- A first call that hands in an interceptor, its answer, and a second call
that hands in none. -/
def tokenThenPlain : List (HttpEvent Nat) :=
  [.request { url := "/login", inter := some 7 },
    .complete 0 (.ok .null),
    .request { url := "/movies" }]

theorem isolated_iff_first_tokenThenPlain :
    ∃ state, (machine (DioPackage.listOnly Nat)).run tokenThenPlain =
        some state ∧
      ∃ call, state.calls[1]? = some call ∧
        call.invocation = { url := "/movies" } ∧
        (call.Isolated 1 ↔ 1 = 0) := by
  have reached : (machine (DioPackage.listOnly Nat)).run tokenThenPlain =
      some _ := rfl
  exact ⟨_, reached, isolated_iff_first reached rfl⟩

theorem mem_flow_iff_tokenThenPlain :
    ∃ state call, (machine (DioPackage.listOnly Nat)).run tokenThenPlain =
        some state ∧ state.calls[1]? = some call ∧
      (.given 7 ∈ call.flow ↔
        ∃ contributor earlier, contributor ≤ 1 ∧
          state.calls[contributor]? = some earlier ∧
          .given 7 ∈ inters contributor earlier.invocation.inter) := by
  have reached : (machine (DioPackage.listOnly Nat)).run tokenThenPlain =
      some _ := rfl
  exact ⟨_, _, reached, rfl, mem_flow_iff reached rfl⟩

theorem total_loggers_tokenThenPlain :
    ∃ state, (machine (DioPackage.listOnly Nat)).run tokenThenPlain =
        some state ∧
      2 * (state.calls.map fun call =>
          (call.flow.filterMap Interceptor.wrapper?).length).sum =
        state.calls.length * (state.calls.length + 1) := by
  have reached : (machine (DioPackage.listOnly Nat)).run tokenThenPlain =
      some _ := rfl
  exact ⟨_, reached, total_loggers reached⟩

/-- The second call passes through the logging interceptor and the interceptor
of the first one before its own. -/
theorem tokenThenPlain_not_isolated :
    ∃ state, (machine (DioPackage.listOnly Nat)).run tokenThenPlain =
        some state ∧
      ∃ call, state.calls[1]? = some call ∧
        call.invocation.inter = none ∧
        call.flow =
          [.wrapper (dInter 0), .given 7, .wrapper (dInter 1)] ∧
        ¬ call.Isolated 1 := by
  refine ⟨_, rfl, _, rfl, rfl, rfl, ?_⟩
  intro isolated
  have lengths := congrArg List.length isolated
  cases lengths

end HttpRequest

end Douban
