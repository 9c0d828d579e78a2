import Douban.InterceptorIsolation
import Douban.Library.Simulation
import Douban.Pages.HomeContent
import Douban.Service.HttpAnswers

/-!
# The application over the shared client

Home pages are mounted at any time, other code issues requests of its own, and
answers arrive in any order.  The client part of every run is a run of the HTTP
machine, so what holds of the client there holds here, and each page depends on
nothing but the answer to its own call.
-/

namespace Douban

open Dart Library
open HomeRequest (sampleResponse showSample)

/-- A mounted home page, with the call whose future it awaits. -/
structure Page where
  call : Nat
  process : Process DSHomeContentState

structure Application {ι : Type} (package : DioPackage ι) where
  http : HttpState package
  pages : List Page

inductive ApplicationEvent (ι : Type) where
  | mount
  | request (invocation : Invocation ι)
  | answer (index : Nat) (outcome : Except DartError JsonValue)
      (current : StackTrace)

/-- The call that `requestMovieList(0, 30)` makes. -/
def movieInvocation (ι : Type) : Invocation ι :=
  { url := HomeRequest.movieUrl 0 30 }

def Page.fresh (call : Nat) : Page :=
  { call, process := { console := [], memory := .initial } }

/-- The statements of the page that wait for the future of its call. -/
def Page.resume (showDouble : Double → DartString) (current : StackTrace)
    (result : Except DartError JsonValue) (page : Page) : Page :=
  let waiting :=
    DSHomeContentState.initState showDouble current fun _ => result
  { page with process := (waiting.perform page.process).2 }

namespace Application

variable {ι : Type} {package : DioPackage ι}

def mount (state : Application package) : Application package :=
  { http := HttpRequest.request state.http (movieInvocation ι)
    pages := state.pages ++ [Page.fresh state.http.calls.length] }

/-- An answer completes its call and resumes the page that awaits it. -/
def answer (showDouble : Double → DartString)
    (state : Application package) (index : Nat)
    (outcome : Except DartError JsonValue) (current : StackTrace) :
    Option (Application package) := do
  let http ← HttpRequest.complete state.http index outcome
  let result := HttpRequest.finish (movieInvocation ι) outcome
  let pages := state.pages.map fun page =>
    if page.call = index then page.resume showDouble current result else page
  return { http, pages }

def machine (showDouble : Double → DartString) (package : DioPackage ι) :
    Machine (Application package) (ApplicationEvent ι) :=
  { start := { http := (HttpRequest.machine package).start, pages := [] }
    next := fun state event =>
      match event with
      | .mount => some state.mount
      | .request invocation =>
          some { state with http := HttpRequest.request state.http invocation }
      | .answer index outcome current =>
          state.answer showDouble index outcome current }

end Application

/-- What the client sees of an event. -/
def ApplicationEvent.http {ι : Type} : ApplicationEvent ι → HttpEvent ι
  | mount => .request (movieInvocation ι)
  | request invocation => .request invocation
  | answer index outcome _ => .complete index outcome

namespace Application

variable {ι : Type} {package : DioPackage ι}
  {showDouble : Double → DartString}

theorem answer_cases {state target : Application package} {index : Nat}
    {outcome : Except DartError JsonValue} {current : StackTrace}
    (answered : state.answer showDouble index outcome current =
      some target) :
    HttpRequest.complete state.http index outcome = some target.http ∧
      target.pages = state.pages.map fun page =>
        if page.call = index then
          page.resume showDouble current
            (HttpRequest.finish (movieInvocation ι) outcome)
        else page := by
  obtain ⟨http, completed, rest⟩ := Option.bind_eq_some_iff.mp answered
  cases rest
  exact ⟨completed, rfl⟩

theorem answer_pageCalls {state target : Application package} {index : Nat}
    {outcome : Except DartError JsonValue} {current : StackTrace}
    (answered : state.answer showDouble index outcome current =
      some target) :
    target.pages.map Page.call = state.pages.map Page.call := by
  rw [(answer_cases answered).2, List.map_map]
  apply List.map_congr_left
  intro page _
  by_cases own : page.call = index
  · simp [own, Page.resume]
  · simp [own]

theorem next_http {state target : Application package}
    {event : ApplicationEvent ι}
    (stepped : (machine showDouble package).next state event = some target) :
    (HttpRequest.machine package).next state.http event.http =
      some target.http := by
  cases event with
  | mount =>
      cases stepped
      rfl
  | request invocation =>
      cases stepped
      rfl
  | answer index outcome current =>
      exact (answer_cases stepped).1

/-- The application drives the client event by event. -/
def simulation (showDouble : Double → DartString) (package : DioPackage ι) :
    Simulation (machine showDouble package) (HttpRequest.machine package) where
  state := http
  event := fun event => [event.http]
  opening := []
  start := rfl
  step := by
    intro source event target stepped
    simp [next_http stepped]

theorem run_http {events : List (ApplicationEvent ι)}
    {state : Application package}
    (reached : (machine showDouble package).run events = some state) :
    (HttpRequest.machine package).run (events.map ApplicationEvent.http) =
      some state.http := by
  rw [List.map_eq_flatMap]
  exact (simulation showDouble package).run reached

/-! ## Pages and their calls -/

/-- The `try` of `request` and its cast to `dynamic` pass the outcome on. -/
theorem finish_movieInvocation (outcome : Except DartError JsonValue) :
    HttpRequest.finish (movieInvocation ι) outcome = outcome := by
  rw [HttpRequest.finish_eq]
  cases outcome <;> rfl

end Application

/-- A page is as it was mounted until its call completes; from then on it is
what an answer to this call makes of it. -/
inductive Page.Follows {ι : Type} (showDouble : Double → DartString)
    (events : List (ApplicationEvent ι)) (page : Page) (call : Call ι) :
    Prop where
  | waiting :
      call.result = none → page = Page.fresh page.call →
      Follows showDouble events page call
  | resumed {outcome : Except DartError JsonValue} {current : StackTrace} :
      .answer page.call outcome current ∈ events →
      call.result = some outcome →
      page = (Page.fresh page.call).resume showDouble current outcome →
      Follows showDouble events page call

theorem Page.Follows.mono {ι : Type} {showDouble : Double → DartString}
    {events later : List (ApplicationEvent ι)} {page : Page} {call : Call ι}
    (follows : page.Follows showDouble events call) :
    page.Follows showDouble (events ++ later) call := by
  cases follows with
  | waiting pending fresh => exact .waiting pending fresh
  | resumed answered done resumed =>
      exact .resumed (List.mem_append_left later answered) done resumed

namespace Application

variable {ι : Type} {package : DioPackage ι}
  {showDouble : Double → DartString} {events : List (ApplicationEvent ι)}

/-- Invariant of the pages: each one awaits, or has followed, a movie request
of its own. -/
def Consistent (showDouble : Double → DartString)
    (events : List (ApplicationEvent ι)) (state : Application package) :
    Prop :=
  ∀ page ∈ state.pages, ∃ call,
    state.http.calls[page.call]? = some call ∧
      call.invocation = movieInvocation ι ∧
      page.Follows showDouble events call

theorem Consistent.mono {state : Application package}
    (consistent : Consistent showDouble events state)
    (later : List (ApplicationEvent ι)) :
    Consistent showDouble (events ++ later) state := by
  intro page mounted
  obtain ⟨call, present, invocation, follows⟩ := consistent page mounted
  exact ⟨call, present, invocation, follows.mono⟩

theorem mount_consistent {state : Application package}
    (consistent : Consistent showDouble events state) :
    Consistent showDouble events state.mount := by
  intro page member
  rcases List.mem_append.mp member with mounted | isNew
  · obtain ⟨call, present, invocation, follows⟩ := consistent page mounted
    exact ⟨call, HttpRequest.request_keeps present _, invocation, follows⟩
  · obtain rfl := List.mem_singleton.mp isNew
    obtain ⟨call, present, invocation, pending⟩ :=
      HttpRequest.request_present state.http (movieInvocation ι)
    exact ⟨call, present, invocation, .waiting pending rfl⟩

theorem answer_consistent {state target : Application package}
    {index : Nat} {outcome : Except DartError JsonValue}
    {current : StackTrace}
    (consistent : Consistent showDouble events state)
    (answered : state.answer showDouble index outcome current =
      some target) :
    Consistent showDouble (events ++ [.answer index outcome current])
      target := by
  obtain ⟨completed, pages⟩ := answer_cases answered
  obtain ⟨finished, present, pending, calls, _⟩ :=
    HttpRequest.complete_cases completed
  intro page member
  rw [pages] at member
  obtain ⟨before, mounted, equality⟩ := List.mem_map.mp member
  subst equality
  obtain ⟨call, awaited, invocation, follows⟩ :=
    consistent.mono [.answer index outcome current] before mounted
  by_cases own : before.call = index
  · subst own
    obtain rfl : finished = call := by
      rw [present] at awaited
      exact Option.some.inj awaited
    rw [if_pos rfl, calls, finish_movieInvocation]
    obtain ⟨inRange, _⟩ := List.getElem?_eq_some_iff.mp present
    refine ⟨_, List.getElem?_set_self inRange, invocation, ?_⟩
    cases follows with
    | waiting _ fresh =>
        apply Page.Follows.resumed
        · apply List.mem_append_right
          exact List.mem_singleton_self _
        · rw [invocation, finish_movieInvocation]
        · exact congrArg (Page.resume showDouble current outcome) fresh
    | resumed _ done _ =>
        rw [pending] at done
        cases done
  · rw [if_neg own, calls, List.getElem?_set_ne (Ne.symm own)]
    exact ⟨call, awaited, invocation, follows⟩

theorem run_consistent {state : Application package}
    (reached : (machine showDouble package).run events = some state) :
    Consistent showDouble events state := by
  apply Machine.run_induction (motive := Consistent showDouble) _ _ reached
  · intro page member
    cases member
  · intro events middle event target _ consistent last
    cases event with
    | mount =>
        cases last
        apply mount_consistent
        exact consistent.mono _
    | request invocation =>
        cases last
        intro page mounted
        obtain ⟨call, present, rest⟩ := consistent.mono _ page mounted
        exact ⟨call, HttpRequest.request_keeps present invocation, rest⟩
    | answer index outcome current =>
        exact answer_consistent consistent last

theorem run_pageCalls_nodup {state : Application package}
    (reached : (machine showDouble package).run events = some state) :
    (state.pages.map Page.call).Nodup := by
  apply Machine.run_induction
    (motive := fun _ (state : Application package) =>
      (state.pages.map Page.call).Nodup) _ _ reached
  · exact List.Pairwise.nil
  · intro events middle event target before distinct last
    cases event with
    | mount =>
        cases last
        rw [mount, List.map_append]
        apply List.nodup_append.mpr
        refine ⟨distinct, List.pairwise_singleton _ _, ?_⟩
        intro awaited member fresh isFresh same
        obtain ⟨page, mounted, isAwaited⟩ := List.mem_map.mp member
        obtain ⟨call, present, _⟩ := run_consistent before page mounted
        obtain ⟨inRange, _⟩ := List.getElem?_eq_some_iff.mp present
        have isNew : fresh = middle.http.calls.length :=
          List.mem_singleton.mp isFresh
        omega
    | request invocation =>
        cases last
        exact distinct
    | answer index outcome current =>
        rw [answer_pageCalls last]
        exact distinct

/-- In every run an answer changes one page at most. -/
theorem answer_changes_one {state target : Application package}
    (reached : (machine showDouble package).run events = some state)
    {index : Nat} {outcome : Except DartError JsonValue}
    {current : StackTrace}
    (answered : state.answer showDouble index outcome current =
      some target) :
    ∃ position : Nat, ∀ other, other ≠ position →
      target.pages[other]? = state.pages[other]? := by
  have distinct := run_pageCalls_nodup reached
  rw [(answer_cases answered).2]
  have kept : ∀ (other : Nat) (page : Page),
      state.pages[other]? = some page → page.call ≠ index →
        (state.pages.map fun page =>
          if page.call = index then
            page.resume showDouble current
              (HttpRequest.finish (movieInvocation ι) outcome)
          else page)[other]? = some page := by
    intro other page present different
    rw [List.getElem?_map, present, Option.map_some, if_neg different]
  by_cases awaited : ∃ (position : Nat) (page : Page),
      state.pages[position]? = some page ∧ page.call = index
  · obtain ⟨position, page, present, own⟩ := awaited
    refine ⟨position, ?_⟩
    intro other different
    cases found : state.pages[other]? with
    | none => rw [List.getElem?_map, found, Option.map_none]
    | some page' =>
        apply kept other page' found
        intro same
        apply different
        obtain ⟨inRange, _⟩ := List.getElem?_eq_some_iff.mp found
        have sameCall : (state.pages.map Page.call)[other]? =
            (state.pages.map Page.call)[position]? := by
          rw [List.getElem?_map, List.getElem?_map, found, present,
            Option.map_some, Option.map_some, same, own]
        exact (List.getElem?_inj (by simpa using inRange) distinct).mp
          sameCall
  · refine ⟨0, ?_⟩
    intro other _
    cases found : state.pages[other]? with
    | none => rw [List.getElem?_map, found, Option.map_none]
    | some page =>
        apply kept other page found
        intro same
        exact awaited ⟨other, page, found, same⟩

def sampleTrace : StackTrace :=
  (DSHomeContentState.callbackFrame 0 21 5).trace none

/-- Two pages over the least package. -/
def twoPages : Application (DioPackage.listOnly Nat) :=
  mount (mount (machine showSample (DioPackage.listOnly Nat)).start)

theorem run_twoPages :
    (machine showSample (DioPackage.listOnly Nat)).run
      [.mount, .mount] = some twoPages := rfl

theorem answer_changes_one_twoPages :
    ∃ target, twoPages.answer showSample 1 (.ok sampleResponse.json)
        sampleTrace = some target ∧
      ∃ position : Nat, ∀ other, other ≠ position →
        target.pages[other]? = twoPages.pages[other]? := by
  have accepted : twoPages.answer showSample 1 (.ok sampleResponse.json)
      sampleTrace = some _ := rfl
  exact ⟨_, accepted, answer_changes_one run_twoPages accepted⟩

/-! ## Answers and what pages make of them -/

/-- The answers that a list of events gives to one call, each with the stack
trace of the callback that it resumes. -/
def answersOf (index : Nat) (events : List (ApplicationEvent ι)) :
    List (Except DartError JsonValue × StackTrace) :=
  events.filterMap fun event =>
    match event with
    | .answer position outcome current =>
        if position = index then some (outcome, current) else none
    | _ => none

theorem mem_answersOf_iff {index : Nat}
    {outcome : Except DartError JsonValue} {current : StackTrace} :
    (outcome, current) ∈ answersOf index events ↔
      .answer index outcome current ∈ events := by
  constructor
  · intro member
    obtain ⟨event, inRun, given⟩ := List.mem_filterMap.mp member
    cases event with
    | mount => cases given
    | request invocation => cases given
    | answer position outcome' current' =>
        dsimp only at given
        split at given
        · rename_i same
          subst same
          cases given
          exact inRun
        · cases given
  · intro member
    exact List.mem_filterMap.mpr ⟨_, member, if_pos rfl⟩

theorem map_answersOf (index : Nat) (events : List (ApplicationEvent ι)) :
    (answersOf index events).map Prod.fst =
      HttpRequest.outcomesOf index (events.map ApplicationEvent.http) := by
  rw [answersOf, HttpRequest.outcomesOf, List.filterMap_map,
    List.map_filterMap]
  apply List.filterMap_congr
  intro event _
  cases event with
  | mount => rfl
  | request invocation => rfl
  | answer position outcome current =>
      by_cases same : position = index
      · simp [ApplicationEvent.http, same]
      · simp [ApplicationEvent.http, same]

theorem call_of_answer {state : Application package}
    (reached : (machine showDouble package).run events = some state)
    {index : Nat} {outcome : Except DartError JsonValue}
    {current : StackTrace}
    (answered : .answer index outcome current ∈ events) :
    ∃ call, state.http.calls[index]? = some call ∧
      call.result = some (HttpRequest.finish call.invocation outcome) := by
  have invariant := HttpRequest.run_answered (run_http reached)
  have given : outcome ∈ HttpRequest.outcomesOf index
      (events.map ApplicationEvent.http) := by
    rw [← map_answersOf]
    exact List.mem_map_of_mem (mem_answersOf_iff.mpr answered)
  cases present : state.http.calls[index]? with
  | none =>
      rw [invariant.absent index (List.getElem?_eq_none_iff.mp present)]
        at given
      cases given
  | some call =>
      have finished : HttpRequest.finish call.invocation outcome ∈
          call.result.toList := by
        rw [← invariant.held index call present]
        exact List.mem_map_of_mem given
      exact ⟨call, rfl, Option.mem_toList.mp finished⟩

/-- In every run a page is as it was mounted as long as its call has no answer;
from then on it has settled on the only one: nothing is lost, repeated or taken
from another answer, neither in the list nor on the console. -/
theorem page_settled {state : Application package}
    (reached : (machine showDouble package).run events = some state)
    {page : Page} (mounted : page ∈ state.pages) :
    (answersOf page.call events = [] ∧ page = Page.fresh page.call) ∨
      ∃ outcome current,
        answersOf page.call events = [(outcome, current)] ∧
          DSHomeContentState.Settled showDouble current (fun _ => outcome)
            page.process := by
  obtain ⟨call, present, _, follows⟩ := run_consistent reached page mounted
  have held := (HttpRequest.run_answered (run_http reached)).held _ _ present
  rw [← map_answersOf, List.map_map] at held
  cases follows with
  | waiting pending fresh =>
      left
      rw [pending] at held
      exact ⟨List.map_eq_nil_iff.mp held, fresh⟩
  | @resumed outcome current answered done resumed =>
      right
      rw [done] at held
      obtain ⟨only, single, _⟩ := List.map_eq_singleton_iff.mp held
      have given := mem_answersOf_iff.mpr answered
      rw [single] at given
      obtain rfl : (outcome, current) = only := List.mem_singleton.mp given
      refine ⟨outcome, current, single, ?_⟩
      rw [resumed]
      exact DSHomeContentState.initState_settled showDouble current _

/-- The second page after the answer to its call. -/
def answeredPage : Page :=
  (Page.fresh 1).resume showSample sampleTrace (.ok sampleResponse.json)

theorem run_answeredPage :
    ∃ state, (machine showSample (DioPackage.listOnly Nat)).run
        [.mount, .mount, .answer 1 (.ok sampleResponse.json) sampleTrace] =
          some state ∧
      answeredPage ∈ state.pages ∧
      ∃ call, state.http.calls[1]? = some call ∧
        call.result = some (.ok sampleResponse.json) :=
  ⟨_, rfl, List.mem_cons_of_mem _ (List.mem_singleton_self _), _, rfl, rfl⟩

theorem page_settled_answeredPage :
    (answersOf 1 [.mount, .mount,
          (.answer 1 (.ok sampleResponse.json) sampleTrace :
            ApplicationEvent Nat)] = [] ∧
        answeredPage = Page.fresh 1) ∨
      ∃ outcome current,
        answersOf 1 [.mount, .mount,
            (.answer 1 (.ok sampleResponse.json) sampleTrace :
              ApplicationEvent Nat)] =
          [(outcome, current)] ∧
          DSHomeContentState.Settled showSample current (fun _ => outcome)
            answeredPage.process := by
  obtain ⟨state, reached, mounted, _⟩ := run_answeredPage
  exact page_settled reached mounted

/-! ## What a page shows -/

theorem resume_fresh_memory (call : Nat) (current : StackTrace)
    (outcome : Except DartError JsonValue) :
    ((Page.fresh call).resume showDouble current outcome).process.memory =
      DSHomeContentState.loaded showDouble current fun _ => outcome := rfl

/-- If the callbacks run with readable frames, a page whose call was answered
by a response whose ratings decode to `double`s shows that response. -/
theorem page_faithful {state : Application package}
    (reached : (machine showDouble package).run events = some state)
    (readable : ∀ index outcome current,
      .answer index outcome current ∈ events →
        ∃ frame rest, current = Frame.trace frame rest ∧ frame.Readable)
    {page : Page} (mounted : page ∈ state.pages)
    {call : Call ι} (present : state.http.calls[page.call]? = some call)
    {response : WellFormedResponse}
    (done : call.result = some (.ok response.json))
    (doubles : ∀ record ∈ response.records,
      record.average.isDouble = true) :
    List.Forall₂ Faithful response.records
      page.process.memory.movies := by
  obtain ⟨own, ownPresent, _, follows⟩ :=
    run_consistent reached page mounted
  obtain rfl : own = call := by
    rw [present] at ownPresent
    exact (Option.some.inj ownPresent).symm
  cases follows with
  | waiting pending _ =>
      rw [done] at pending
      cases pending
  | @resumed outcome current answered result resumed =>
      rw [done] at result
      cases result
      obtain ⟨frame, rest, equality, canRead⟩ := readable _ _ _ answered
      subst equality
      rw [resumed, resume_fresh_memory]
      apply DSHomeContentState.loaded_faithful showDouble response rfl
        doubles
      exact Frame.parseTrace_of_readable canRead rest

/-- The application as it is: its callback stands in `home_content.dart`, so
its own frames never lose a movie. -/
theorem page_faithful_of_callbackFrame {state : Application package}
    (reached : (machine showDouble package).run events = some state)
    (frames : ∀ index outcome current,
      .answer index outcome current ∈ events →
        ∃ number line column rest, line < 2 ^ 63 ∧ column < 2 ^ 63 ∧
          current = (DSHomeContentState.callbackFrame number line
            column).trace rest)
    {page : Page} (mounted : page ∈ state.pages)
    {call : Call ι} (present : state.http.calls[page.call]? = some call)
    {response : WellFormedResponse}
    (done : call.result = some (.ok response.json))
    (doubles : ∀ record ∈ response.records,
      record.average.isDouble = true) :
    List.Forall₂ Faithful response.records
      page.process.memory.movies := by
  apply page_faithful reached _ mounted present done doubles
  intro index outcome current answered
  obtain ⟨number, line, column, rest, lineFits, columnFits, traced⟩ :=
    frames index outcome current answered
  refine ⟨_, rest, traced, ?_⟩
  exact DSHomeContentState.callbackFrame_readable number lineFits columnFits

theorem page_faithful_of_callbackFrame_answeredPage :
    List.Forall₂ Faithful sampleResponse.records
      answeredPage.process.memory.movies := by
  obtain ⟨state, reached, mounted, call, present, done⟩ := run_answeredPage
  have result : call.result = some (.ok sampleResponse.json) := done
  apply page_faithful_of_callbackFrame reached ?_ mounted present result
  · decide
  · intro index outcome current answered
    simp only [List.mem_cons, List.not_mem_nil, reduceCtorEq,
      ApplicationEvent.answer.injEq, false_or, or_false] at answered
    obtain ⟨_, _, traced⟩ := answered
    exact ⟨0, 21, 5, none, by omega, by omega, traced⟩

end Application

end Douban
