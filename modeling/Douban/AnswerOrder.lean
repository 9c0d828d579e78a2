import Douban.Application
import Douban.Library.Reordering

/-!
# The order of answers

Answers reach the application in any order, among each other and among the
requests.  None of this is visible in the end: what is decided by a run is
decided by its requests, in their order, and by which answers were accepted.
Of package dio, only the list of interceptors can be told apart.
-/

namespace Douban

open Dart Library
open HomeRequest (sampleResponse showSample)

variable {ι : Type}

/-- Everything of the client but the object of the package. -/
def HttpState.forget {package : DioPackage ι} (state : HttpState package) :
    HttpState (DioPackage.listOnly ι) :=
  { dio := package.interceptors state.dio
    calls := state.calls }

namespace HttpRequest

variable {package : DioPackage ι}

theorem request_forget (state : HttpState package)
    (invocation : Invocation ι) :
    (request state invocation).forget = request state.forget invocation := by
  simp [request, HttpState.forget, package.request_interceptors,
    package.request_flow, package.addAll_interceptors, DioPackage.listOnly]

theorem complete_forget (state : HttpState package) (index : Nat)
    (outcome : Except DartError JsonValue) :
    (complete state index outcome).map HttpState.forget =
      complete state.forget index outcome := by
  have same : state.forget.calls = state.calls := rfl
  unfold complete
  rw [same]
  split
  · have interceptors :=
      package.complete_interceptors state.dio outcome
    exact congrArg some (congrArg₂ HttpState.mk interceptors rfl)
  · rfl

theorem next_forget (state : HttpState package) (event : HttpEvent ι) :
    ((machine package).next state event).map HttpState.forget =
      (machine (DioPackage.listOnly ι)).next state.forget event := by
  cases event with
  | request invocation =>
      exact congrArg some (request_forget state invocation)
  | complete index outcome => exact complete_forget state index outcome

theorem complete_listOnly_iff {state target : HttpState (.listOnly ι)}
    {index : Nat} {outcome : Except DartError JsonValue} :
    complete state index outcome = some target ↔
      ∃ call, state.calls[index]? = some call ∧ call.result = none ∧
        target = { dio := state.dio
                   calls := state.calls.set index
                     { call with
                       result :=
                         some (finish call.invocation outcome) } } := by
  unfold complete
  constructor
  · intro completed
    split at completed
    · rename_i invocation inters flow found
      cases completed
      exact ⟨_, found, rfl, rfl⟩
    · cases completed
  · intro completed
    obtain ⟨⟨invocation, inters, flow, result⟩, found, pending, equality⟩ :=
      completed
    dsimp only at pending
    subst pending
    subst equality
    rw [found]
    rfl

theorem complete_waits_request (index : Nat)
    (outcome : Except DartError JsonValue) (invocation : Invocation ι) :
    (machine (DioPackage.listOnly ι)).Waits (.complete index outcome)
      (.request invocation) := by
  intro source between target first second
  obtain ⟨call, present, pending, equality⟩ :=
    complete_listOnly_iff.mp first
  subst equality
  cases second
  refine ⟨_, rfl, complete_listOnly_iff.mpr ⟨call, ?_, pending, ?_⟩⟩
  · exact request_keeps present invocation
  · obtain ⟨inRange, _⟩ := List.getElem?_eq_some_iff.mp present
    simp [request, DioPackage.listOnly, List.set_append_left _ _ inRange]

theorem complete_waits_complete (index index' : Nat)
    (outcome outcome' : Except DartError JsonValue) :
    (machine (DioPackage.listOnly ι)).Waits (.complete index outcome)
      (.complete index' outcome') := by
  intro source between target first second
  obtain ⟨call, present, pending, equality⟩ :=
    complete_listOnly_iff.mp first
  subst equality
  obtain ⟨call', present', pending', equality'⟩ :=
    complete_listOnly_iff.mp second
  subst equality'
  obtain ⟨inRange, _⟩ := List.getElem?_eq_some_iff.mp present
  have different : index ≠ index' := by
    intro same
    subst same
    rw [List.getElem?_set_self inRange] at present'
    cases present'
    cases pending'
  rw [List.getElem?_set_ne different] at present'
  refine ⟨_, complete_listOnly_iff.mpr ⟨call', present', pending', rfl⟩,
    complete_listOnly_iff.mpr ⟨call, ?_, pending, ?_⟩⟩
  · exact (List.getElem?_set_ne different.symm).trans present
  · rw [List.set_comm _ _ different]

theorem complete_waits (index : Nat) (outcome : Except DartError JsonValue)
    (event : HttpEvent ι) :
    (machine (DioPackage.listOnly ι)).Waits (.complete index outcome)
      event := by
  cases event with
  | request invocation =>
      exact complete_waits_request index outcome invocation
  | complete index' outcome' =>
      exact complete_waits_complete index index' outcome outcome'

end HttpRequest

def ApplicationEvent.isAnswer : ApplicationEvent ι → Bool
  | mount => false
  | request _ => false
  | answer _ _ _ => true

namespace Application

variable {package : DioPackage ι} {showDouble : Double → DartString}

def forget (state : Application package) :
    Application (DioPackage.listOnly ι) :=
  { http := state.http.forget
    pages := state.pages }

/-- What an event does to the pages, when it is accepted. -/
def nextPages (showDouble : Double → DartString)
    (state : Application package) : ApplicationEvent ι → List Page
  | .mount => state.pages ++ [Page.fresh state.http.calls.length]
  | .request _ => state.pages
  | .answer index outcome current => state.pages.map fun page =>
      if page.call = index then
        page.resume showDouble current
          (HttpRequest.finish (movieInvocation ι) outcome)
      else page

theorem next_eq_some_iff {state target : Application package}
    {event : ApplicationEvent ι} :
    (machine showDouble package).next state event = some target ↔
      (HttpRequest.machine package).next state.http event.http =
          some target.http ∧
        target.pages = state.nextPages showDouble event := by
  constructor
  · intro stepped
    refine ⟨next_http stepped, ?_⟩
    cases event with
    | mount =>
        cases stepped
        rfl
    | request invocation =>
        cases stepped
        rfl
    | answer index outcome current => exact (answer_cases stepped).2
  · intro parts
    obtain ⟨stepped, pages⟩ := parts
    rcases target with ⟨http, after⟩
    dsimp only at pages
    subst pages
    cases event with
    | mount =>
        cases stepped
        rfl
    | request invocation =>
        cases stepped
        rfl
    | answer index outcome current =>
        exact Option.bind_eq_some_iff.mpr ⟨http, stepped, rfl⟩

theorem next_forget (state : Application package)
    (event : ApplicationEvent ι) :
    ((machine showDouble package).next state event).map forget =
      (machine showDouble (DioPackage.listOnly ι)).next state.forget
        event := by
  have client := HttpRequest.next_forget state.http event.http
  cases event with
  | mount => exact congrArg some (congrArg₂ Application.mk
      (Option.some.inj client) rfl)
  | request invocation => exact congrArg some (congrArg₂ Application.mk
      (Option.some.inj client) rfl)
  | answer index outcome current =>
      have completed : (HttpRequest.complete state.http index outcome).map
          HttpState.forget =
            HttpRequest.complete state.forget.http index outcome := client
      simp only [machine, answer, ← completed]
      cases HttpRequest.complete state.http index outcome with
      | none => rfl
      | some http => rfl

theorem run_forget (package : DioPackage ι)
    (events : List (ApplicationEvent ι)) :
    ((machine showDouble package).run events).map forget =
      (machine showDouble (DioPackage.listOnly ι)).run events := by
  apply Machine.run_map
  · simp [machine, forget, HttpState.forget, HttpRequest.machine,
      package.create_interceptors, DioPackage.listOnly]
  · exact next_forget

/-- An answer can come later: the calls do not see when, and the page that
awaits it is the same one. -/
theorem answer_waits (index : Nat) (outcome : Except DartError JsonValue)
    (current : StackTrace) (early : ApplicationEvent ι) :
    (machine showDouble (DioPackage.listOnly ι)).Waits
      (.answer index outcome current) early := by
  intro source between target first second
  obtain ⟨completed, resumed⟩ := next_eq_some_iff.mp first
  obtain ⟨stepped, pages⟩ := next_eq_some_iff.mp second
  obtain ⟨other, exchanged, delayed⟩ := HttpRequest.complete_waits index
    outcome early.http source.http between.http target.http completed stepped
  obtain ⟨call, present, pending, equality⟩ :=
    HttpRequest.complete_listOnly_iff.mp completed
  obtain ⟨inRange, _⟩ := List.getElem?_eq_some_iff.mp present
  have calls : between.http.calls.length = source.http.calls.length := by
    simp [equality]
  refine ⟨{ http := other, pages := source.nextPages showDouble early },
    next_eq_some_iff.mpr ⟨exchanged, rfl⟩,
    next_eq_some_iff.mpr ⟨delayed, ?_⟩⟩
  rw [pages]
  cases early with
  | mount =>
      -- The new page awaits the new call, which has no answer yet.
      have isNew : source.http.calls.length ≠ index := by omega
      simp [nextPages, resumed, calls, Page.fresh, isNew]
  | request invocation => simp [nextPages, resumed]
  | answer index' outcome' current' =>
      obtain ⟨call', present', pending', _⟩ :=
        HttpRequest.complete_listOnly_iff.mp stepped
      have different : index ≠ index' := by
        intro same
        subst same
        rw [equality, List.getElem?_set_self inRange] at present'
        cases present'
        cases pending'
      simp only [nextPages, resumed, List.map_map]
      apply List.map_congr_left
      intro page _
      by_cases own : page.call = index
      · simp [own, different, Page.resume]
      · by_cases other : page.call = index'
        · simp [other, different.symm, Page.resume]
        · simp [own, other]

theorem waits_of_isAnswer (event early : ApplicationEvent ι)
    (isAnswer : event.isAnswer = true) :
    (machine showDouble (DioPackage.listOnly ι)).Waits event early := by
  cases event with
  | mount => cases isAnswer
  | request invocation => cases isAnswer
  | answer index outcome current =>
      exact answer_waits index outcome current early

/-- Two states that differ in the object of the package at most. -/
structure Agree (left right : Application package) : Prop where
  pages : left.pages = right.pages
  calls : left.http.calls = right.http.calls
  interceptors : package.interceptors left.http.dio =
    package.interceptors right.http.dio

theorem agree_of_forget {left right : Application package}
    (same : left.forget = right.forget) : Agree left right := by
  obtain ⟨clients, pages⟩ := Application.mk.inj same
  obtain ⟨interceptors, calls⟩ := HttpState.mk.inj clients
  exact ⟨pages, calls, interceptors⟩

theorem run_forget_of_reached {events : List (ApplicationEvent ι)}
    {state : Application package}
    (reached : (machine showDouble package).run events = some state) :
    (machine showDouble (DioPackage.listOnly ι)).run events =
      some state.forget := by
  rw [← run_forget package, reached]
  rfl

/-- Any run can be replayed with all of its answers at the end. -/
theorem run_answersLast {events : List (ApplicationEvent ι)}
    {state : Application package}
    (reached : (machine showDouble package).run events = some state) :
    ∃ replayed, (machine showDouble package).run
        (Machine.lateLast ApplicationEvent.isAnswer events) =
          some replayed ∧
      Agree replayed state := by
  have ordered := Machine.run_lateLast waits_of_isAnswer
    (run_forget_of_reached reached)
  rw [← run_forget package] at ordered
  obtain ⟨replayed, accepted, same⟩ := Option.map_eq_some_iff.mp ordered
  exact ⟨replayed, accepted, agree_of_forget same⟩

/-- The answer to the first page arrives before the second page is there. -/
def answerMountAnswer : List (ApplicationEvent Nat) :=
  [.mount, .answer 0 (.error (.dioError [])) sampleTrace, .mount,
    .answer 1 (.ok sampleResponse.json) sampleTrace]

theorem run_answersLast_answerMountAnswer :
    ∃ state replayed : Application (DioPackage.listOnly Nat),
      (machine showSample (DioPackage.listOnly Nat)).run
          answerMountAnswer = some state ∧
        (machine showSample (DioPackage.listOnly Nat)).run
          [.mount, .mount, .answer 0 (.error (.dioError [])) sampleTrace,
            .answer 1 (.ok sampleResponse.json) sampleTrace] = some replayed ∧
        Agree replayed state := by
  have reached : (machine showSample (DioPackage.listOnly Nat)).run
      answerMountAnswer = some _ := rfl
  obtain ⟨replayed, accepted, agree⟩ := run_answersLast reached
  exact ⟨_, replayed, reached, accepted, agree⟩

/-- Two runs with the same requests in the same order and the same answers in
any order end in the same pages, calls and interceptors. -/
theorem run_agree {events events' : List (ApplicationEvent ι)}
    (requests : events.filter (fun event => !event.isAnswer) =
      events'.filter fun event => !event.isAnswer)
    (answers : (events.filter ApplicationEvent.isAnswer).Perm
      (events'.filter ApplicationEvent.isAnswer))
    {state state' : Application package}
    (reached : (machine showDouble package).run events = some state)
    (reached' : (machine showDouble package).run events' = some state') :
    Agree state state' := by
  apply agree_of_forget
  exact Machine.run_unique waits_of_isAnswer requests answers
    (run_forget_of_reached reached) (run_forget_of_reached reached')

theorem run_agree_answerMountAnswer :
    ∃ state state' : Application (DioPackage.listOnly Nat),
      (machine showSample (DioPackage.listOnly Nat)).run
          answerMountAnswer = some state ∧
        (machine showSample (DioPackage.listOnly Nat)).run
          [.mount, .mount, .answer 1 (.ok sampleResponse.json) sampleTrace,
            .answer 0 (.error (.dioError [])) sampleTrace] = some state' ∧
        Agree state state' := by
  have reached : (machine showSample (DioPackage.listOnly Nat)).run
      answerMountAnswer = some _ := rfl
  have reached' : (machine showSample (DioPackage.listOnly Nat)).run
      [.mount, .mount, .answer 1 (.ok sampleResponse.json) sampleTrace,
        .answer 0 (.error (.dioError [])) sampleTrace] = some _ := rfl
  refine ⟨_, _, reached, reached', run_agree ?_ ?_ reached reached'⟩
  · rfl
  · exact List.Perm.swap _ _ []

end Application

end Douban
