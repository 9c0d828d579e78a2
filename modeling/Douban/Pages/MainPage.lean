import Douban.Application
import Douban.Library.Simulation
import Douban.Pages.HomeScreen

/-!
# The application as it is shipped

The main page keeps all of its pages in one indexed stack and switches between
them with the tab bar.  One of the pages is the home page, so the shared client
gets one request, whatever the user taps.
-/

namespace Douban

open Dart Library
open HomeRequest (sampleResponse showSample)

structure DSBottomBarItem where
  title : DartString
  icon : DartString
  activeIcon : DartString

/-- The constructor: both images of a tab are named after its icon. -/
def DSBottomBarItem.make (iconName title : DartString) : DSBottomBarItem :=
  { title
    icon := "assets/images/tabbar/" ++ iconName ++ "_black.png"
    activeIcon := "assets/images/tabbar/" ++ iconName ++ "_red.png" }

def tabbarItems : List DSBottomBarItem :=
  [.make "icon_home" "首页", .make "icon_IR" "IR门户",
    .make "icon_meeting" "一键参会", .make "icon_mine" "我的"]

/-- The pages of the stack: `DSHomePage()` or `DSMinePage()`. -/
inductive StackPage where
  | home
  | mine
  deriving DecidableEq, Repr

def pages : List StackPage := [.home, .mine, .mine, .mine]

structure DSMainPageState where
  currentIndex : Nat

namespace DSMainPageState

def initial : DSMainPageState := { currentIndex := 0 }

/-- The callback of the tab bar. -/
def onTap (state : DSMainPageState) (index : Nat) : DSMainPageState :=
  { state with currentIndex := index }

/-- The tab bar: under every icon its title, and the active icon for the
selected tab. -/
def tabBar (state : DSMainPageState) : List Widget :=
  tabbarItems.mapIdx fun index item =>
    .flex .vertical
      [.image (some (if index = state.currentIndex then item.activeIcon
          else item.icon)),
        .text (some item.title)]

/-- Every tab has its title, and only the selected one its active icon. -/
theorem tabBar_shows (state : DSMainPageState) {index : Nat}
    {item : DSBottomBarItem} (listed : tabbarItems[index]? = some item) :
    ∃ widget, state.tabBar[index]? = some widget ∧
      widget.texts = [item.title] ∧
      (widget.images = [item.activeIcon] ↔ index = state.currentIndex) := by
  have distinct : ∀ item ∈ tabbarItems, item.icon ≠ item.activeIcon := by
    decide
  have differs := distinct item (List.mem_of_getElem? listed)
  have images : ∀ src, Widget.images (.flex .vertical
      [.image (some src), .text (some item.title)]) = [src] := fun _ => rfl
  rw [tabBar, List.getElem?_mapIdx, listed]
  refine ⟨_, rfl, rfl, ?_⟩
  rw [images, List.singleton_inj]
  by_cases chosen : index = state.currentIndex
  · rw [if_pos chosen]
    exact iff_of_true rfl chosen
  · rw [if_neg chosen]
    exact iff_of_false differs chosen

end DSMainPageState

/-- The running application: the state of the main page and the pages over the
shared client. -/
structure MyApp {ι : Type} (package : DioPackage ι) where
  main : DSMainPageState
  application : Application package

inductive MyAppEvent where
  | tap (index : Nat)
  | answer (index : Nat) (outcome : Except DartError JsonValue)
      (current : StackTrace)

namespace MyApp

variable {ι : Type} {package : DioPackage ι}

/-- The stack builds a page when the main page is built for the first time,
visible or not; only the home page requests something. -/
def mountPage (application : Application package) :
    StackPage → Application package
  | .home => application.mount
  | .mine => application

def start (showDouble : Double → DartString) (package : DioPackage ι) :
    MyApp package :=
  { main := .initial
    application :=
      pages.foldl mountPage (Application.machine showDouble package).start }

/-- The tab bar offers the indices of its items. -/
def machine (showDouble : Double → DartString) (package : DioPackage ι) :
    Machine (MyApp package) MyAppEvent :=
  { start := start showDouble package
    next := fun state event =>
      match event with
      | .tap index =>
          if index < tabbarItems.length then
            some { state with main := state.main.onTap index }
          else none
      | .answer index outcome current => do
          let application ←
            state.application.answer showDouble index outcome current
          return { state with application } }

/-- The list of the home page, whether it is visible or not. -/
def homeScreen (debug : Bool) (showDouble : Double → DartString)
    (state : MyApp package) : List Widget :=
  state.application.pages.flatMap fun page =>
    page.process.memory.screen debug showDouble

/-- What the stack shows: the title of the visible page and its content. -/
def visible (debug : Bool) (showDouble : Double → DartString)
    (state : MyApp package) : List Widget :=
  match pages[state.main.currentIndex]? with
  | some .home =>
      .text (some "首页") :: homeScreen debug showDouble state
  | some .mine => [.text (some "我的"), .text (some "我的内容")]
  | none => []

end MyApp

/-- What the pages see of an event: a tap is nothing to them. -/
def MyAppEvent.application {ι : Type} : MyAppEvent → List (ApplicationEvent ι)
  | tap _ => []
  | answer index outcome current => [.answer index outcome current]

namespace MyApp

variable {ι : Type} {package : DioPackage ι}
  {showDouble : Double → DartString}

theorem answer_cases {state target : MyApp package} {index : Nat}
    {outcome : Except DartError JsonValue} {current : StackTrace}
    (stepped : (machine showDouble package).next state
      (.answer index outcome current) = some target) :
    state.application.answer showDouble index outcome current =
        some target.application ∧
      target.main = state.main := by
  obtain ⟨application, answered, equality⟩ :=
    Option.bind_eq_some_iff.mp stepped
  cases equality
  exact ⟨answered, rfl⟩

theorem tap_cases {state target : MyApp package} {index : Nat}
    (stepped : (machine showDouble package).next state (.tap index) =
      some target) :
    index < tabbarItems.length ∧
      target = { state with main := state.main.onTap index } := by
  by_cases offered : index < tabbarItems.length
  · simp only [machine, if_pos offered, Option.some.injEq] at stepped
    exact ⟨offered, stepped.symm⟩
  · simp [machine, offered] at stepped

/-- The shipped application is an application that mounts one home page at its
start and no other. -/
def simulation (showDouble : Double → DartString)
    (package : DioPackage ι) :
    Simulation (machine showDouble package)
      (Application.machine showDouble package) where
  state := application
  event := MyAppEvent.application
  opening := [.mount]
  start := rfl
  step := by
    intro source event target stepped
    cases event with
    | tap index =>
        obtain ⟨_, equality⟩ := tap_cases stepped
        subst equality
        rfl
    | answer index outcome current =>
        obtain ⟨answered, _⟩ := answer_cases stepped
        simp [MyAppEvent.application, Application.machine, answered]

theorem run_application {events : List MyAppEvent} {state : MyApp package}
    (reached : (machine showDouble package).run events = some state) :
    (Application.machine showDouble package).run
      (.mount :: events.flatMap MyAppEvent.application) =
        some state.application :=
  (simulation showDouble package).run reached

/-! ## What a run does to the tab bar and to the pages -/

/-- The taps of a run, in order. -/
def taps (events : List MyAppEvent) : List Nat :=
  events.filterMap fun event =>
    match event with
    | .tap index => some index
    | .answer _ _ _ => none

/-- The tab that is selected after some taps. -/
def selected (taps : List Nat) : Nat :=
  taps.getLast?.getD DSMainPageState.initial.currentIndex

theorem taps_append (earlier later : List MyAppEvent) :
    taps (earlier ++ later) = taps earlier ++ taps later :=
  List.filterMap_append

theorem selected_append (earlier later : List Nat) :
    selected (earlier ++ later) =
      later.getLast?.getD (selected earlier) := by
  rw [selected, List.getLast?_append, Option.getD_or]
  rfl

theorem selected_lt {taps : List Nat}
    (existing : ∀ index ∈ taps, index < tabbarItems.length) :
    selected taps < pages.length := by
  unfold selected
  cases last : taps.getLast? with
  | none => exact Nat.zero_lt_succ _
  | some index => exact existing index (List.mem_of_getLast? last)

/-- A tap moves the selection to a tab that exists; an answer is a step of the
application. -/
theorem next_eq_some_iff {source target : MyApp package}
    {event : MyAppEvent} :
    (machine showDouble package).next source event = some target ↔
      (∀ index ∈ taps [event], index < tabbarItems.length) ∧
        target.main.currentIndex =
          (taps [event]).getLast?.getD source.main.currentIndex ∧
        event.application.foldlM (Application.machine showDouble package).next
          source.application = some target.application := by
  rcases target with ⟨⟨selection⟩, application⟩
  cases event with
  | tap index =>
      constructor
      · intro stepped
        obtain ⟨offered, equality⟩ := tap_cases stepped
        cases equality
        exact ⟨by simpa [taps] using offered, rfl, rfl⟩
      · intro parts
        obtain ⟨offered, isSelected, ran⟩ := parts
        have bound := offered index (List.mem_singleton_self index)
        cases isSelected
        cases ran
        exact if_pos bound
  | answer index outcome current =>
      constructor
      · intro stepped
        obtain ⟨answered, same⟩ := answer_cases stepped
        refine ⟨by simp [taps], congrArg DSMainPageState.currentIndex same, ?_⟩
        simp [MyAppEvent.application, Application.machine, answered]
      · intro parts
        obtain ⟨_, isSelected, ran⟩ := parts
        cases isSelected
        have answered : source.application.answer showDouble index outcome
            current = some application := by
          simpa [MyAppEvent.application, Application.machine] using ran
        simp [machine, answered]

/-- The tab bar and the pages run independently of each other: a run is a
sequence of taps on tabs that exist, interleaved with a run of the application
that mounts one home page. -/
theorem run_eq_some_iff {events : List MyAppEvent} {state : MyApp package} :
    (machine showDouble package).run events = some state ↔
      (∀ index ∈ taps events, index < tabbarItems.length) ∧
        state.main.currentIndex = selected (taps events) ∧
        (Application.machine showDouble package).run
          (.mount :: events.flatMap MyAppEvent.application) =
            some state.application := by
  induction events using List.reverseRecOn generalizing state with
  | nil =>
      rcases state with ⟨⟨index⟩, application⟩
      have begun : (Application.machine showDouble package).run [.mount] =
          some (start showDouble package).application := rfl
      simp only [Machine.run_nil, Option.some.injEq, taps, List.filterMap_nil,
        List.not_mem_nil, false_implies, implies_true, true_and,
        List.flatMap_nil, begun]
      constructor
      · intro equality
        cases equality
        exact ⟨rfl, rfl⟩
      · intro parts
        obtain ⟨sameIndex, sameApplication⟩ := parts
        cases sameIndex
        cases sameApplication
        rfl
  | append_singleton events event induction =>
      rw [Machine.run_concat_eq_some_iff, taps_append, selected_append,
        List.flatMap_append, List.flatMap_singleton, ← List.cons_append,
        Machine.run_append, Option.bind_eq_some_iff]
      constructor
      · intro reached
        obtain ⟨middle, before, last⟩ := reached
        obtain ⟨existing, isSelected, ran⟩ := induction.mp before
        obtain ⟨offered, moved, stepped⟩ := next_eq_some_iff.mp last
        rw [isSelected] at moved
        refine ⟨?_, moved, middle.application, ran, stepped⟩
        intro index tapped
        rcases List.mem_append.mp tapped with earlier | later
        · exact existing index earlier
        · exact offered index later
      · intro parts
        obtain ⟨existing, moved, application, ran, stepped⟩ := parts
        refine ⟨{ main := ⟨selected (taps events)⟩, application }, ?_, ?_⟩
        · apply induction.mpr
          refine ⟨?_, rfl, ran⟩
          intro index earlier
          exact existing index (List.mem_append_left _ earlier)
        · apply next_eq_some_iff.mpr
          refine ⟨?_, moved, stepped⟩
          intro index later
          exact existing index (List.mem_append_right _ later)

/-! ## The only home page -/

theorem run_pageCalls {events : List MyAppEvent} {state : MyApp package}
    (reached : (machine showDouble package).run events = some state) :
    state.application.pages.map Page.call = [0] := by
  apply Machine.run_induction
    (motive := fun _ (state : MyApp package) =>
      state.application.pages.map Page.call = [0]) rfl _ reached
  intro events middle event target _ before last
  cases event with
  | tap index =>
      obtain ⟨_, equality⟩ := tap_cases last
      subst equality
      exact before
  | answer index outcome current =>
      rw [Application.answer_pageCalls (answer_cases last).1]
      exact before

theorem run_calls {events : List MyAppEvent} {state : MyApp package}
    (reached : (machine showDouble package).run events = some state) :
    ∃ call, state.application.http.calls = [call] ∧
      call.invocation = movieInvocation ι ∧
      call.flow = HttpRequest.inters 0 none := by
  have ran := run_application reached
  have client := Application.run_http ran
  have invocations := HttpRequest.run_invocations client
  have answersOnly : HttpRequest.invocationsOf
      ((events.flatMap MyAppEvent.application).map
        (ApplicationEvent.http (ι := ι))) = [] := by
    apply List.filterMap_eq_nil_iff.mpr
    intro event member
    obtain ⟨applicationEvent, inRun, equality⟩ := List.mem_map.mp member
    subst equality
    obtain ⟨source, _, produced⟩ := List.mem_flatMap.mp inRun
    cases source with
    | tap index => cases produced
    | answer index outcome current =>
        obtain rfl := List.mem_singleton.mp produced
        rfl
  have single : state.application.http.calls.map Call.invocation =
      [movieInvocation ι] := by
    rw [invocations, List.map_cons]
    simpa [HttpRequest.invocationsOf, ApplicationEvent.http] using answersOnly
  obtain ⟨call, calls, invocation⟩ := List.map_eq_singleton_iff.mp single
  have accumulates := HttpRequest.run_accumulates client
  have present : state.application.http.calls[0]? = some call := by
    rw [calls]
    rfl
  have whole : call.flow = call.inters := by
    rw [accumulates.flows 0 call present, calls]
    simp [accumulated]
  refine ⟨call, calls, invocation, ?_⟩
  rw [whole, accumulates.own 0 call present, invocation]
  rfl

/-- In every run of the shipped application there is one home page and one
call, which passes through nothing but its own logging interceptor; a tab that
exists is selected, and it is the one tapped last. -/
theorem run_isolated {events : List MyAppEvent} {state : MyApp package}
    (reached : (machine showDouble package).run events = some state) :
    ∃ page call, state.application.pages = [page] ∧
      state.application.http.calls = [call] ∧ page.call = 0 ∧
      call.flow = [.wrapper (HttpRequest.dInter 0)] ∧
      state.main.currentIndex < pages.length ∧
      state.main.currentIndex = selected (taps events) := by
  obtain ⟨page, single, isFirst⟩ :=
    List.map_eq_singleton_iff.mp (run_pageCalls reached)
  obtain ⟨call, calls, _, flow⟩ := run_calls reached
  obtain ⟨existing, isSelected, _⟩ := run_eq_some_iff.mp reached
  refine ⟨page, call, single, calls, isFirst, flow, ?_, isSelected⟩
  rw [isSelected]
  exact selected_lt existing

/-! ## What the user sees -/

theorem mem_application_iff {events : List MyAppEvent} {index : Nat}
    {outcome : Except DartError JsonValue} {current : StackTrace} :
    .answer index outcome current ∈
        (.mount :: events.flatMap (MyAppEvent.application (ι := ι))) ↔
      .answer index outcome current ∈ events := by
  constructor
  · intro member
    rcases List.mem_cons.mp member with impossible | produced
    · cases impossible
    · obtain ⟨source, inRun, isSource⟩ := List.mem_flatMap.mp produced
      cases source with
      | tap index => cases isSource
      | answer position result trace =>
          cases List.mem_singleton.mp isSource
          exact inRun
  · intro member
    apply List.mem_cons_of_mem
    apply List.mem_flatMap.mpr
    exact ⟨_, member, List.mem_singleton_self _⟩

theorem page_cases {events : List MyAppEvent} {state : MyApp package}
    (reached : (machine showDouble package).run events = some state) :
    ∃ page call, state.application.pages = [page] ∧
      state.application.http.calls = [call] ∧
      ((call.result = none ∧ page.process.memory = .initial) ∨
        ∃ outcome current, .answer 0 outcome current ∈ events ∧
          call.result = some outcome ∧
          page.process.memory =
            DSHomeContentState.loaded showDouble current
              fun _ => outcome) := by
  obtain ⟨call, calls, _, _⟩ := run_calls reached
  obtain ⟨page, single, isFirst⟩ :=
    List.map_eq_singleton_iff.mp (run_pageCalls reached)
  have ran := run_application reached
  obtain ⟨awaited, present, _, follows⟩ :=
    Application.run_consistent ran page (by simp [single])
  obtain rfl : awaited = call := by
    rw [isFirst, calls] at present
    exact (Option.some.inj present).symm
  refine ⟨page, awaited, single, calls, ?_⟩
  cases follows with
  | waiting pending fresh =>
      left
      refine ⟨pending, ?_⟩
      rw [fresh]
      rfl
  | @resumed outcome current inRun done resumed =>
      right
      rw [isFirst] at inRun
      refine ⟨outcome, current, mem_application_iff.mp inRun, done, ?_⟩
      conv_lhs => rw [resumed]
      rfl

theorem result_of_answer {events : List MyAppEvent} {state : MyApp package}
    (reached : (machine showDouble package).run events = some state)
    {index : Nat} {outcome : Except DartError JsonValue}
    {current : StackTrace}
    (answered : .answer index outcome current ∈ events) {call : Call ι}
    (calls : state.application.http.calls = [call]) :
    call.result = some outcome := by
  obtain ⟨answeredCall, present, done⟩ := Application.call_of_answer
    (run_application reached) (mem_application_iff.mpr answered)
  obtain ⟨only, calls', invocation, _⟩ := run_calls reached
  obtain rfl : answeredCall = only := by
    rw [calls'] at present
    exact List.mem_singleton.mp (List.mem_of_getElem? present)
  obtain rfl : answeredCall = call := by
    rw [calls] at calls'
    exact (List.singleton_inj.mp calls').symm
  rw [done, invocation, Application.finish_movieInvocation]

/-- In every run of the shipped application the user sees the page of the tab
tapped last, whose icon is the only active one; the home page lists what was
made of the answer to its request, or nothing as long as there is none. -/
theorem visible_eq {events : List MyAppEvent} {state : MyApp package}
    (reached : (machine showDouble package).run events = some state)
    (debug : Bool) :
    (∃ movies,
      ((movies = [] ∧ ∀ index outcome current,
          .answer index outcome current ∉ events) ∨
        ∃ outcome current, .answer 0 outcome current ∈ events ∧
          movies = (DSHomeContentState.loaded showDouble current
            fun _ => outcome).movies) ∧
      visible debug showDouble state =
        if selected (taps events) = 0 then
          .text (some "首页") :: movies.map fun movie =>
            .inflate (DSHomeMovieItem.build debug showDouble
              { movieItem := movie })
        else [.text (some "我的"), .text (some "我的内容")]) ∧
    ∀ index item, tabbarItems[index]? = some item →
      ∃ tab, state.main.tabBar[index]? = some tab ∧
        tab.texts = [item.title] ∧
        (tab.images = [item.activeIcon] ↔ index = selected (taps events)) := by
  obtain ⟨page, call, single, calls, settled⟩ := page_cases reached
  obtain ⟨existing, isSelected, _⟩ := run_eq_some_iff.mp reached
  refine ⟨⟨page.process.memory.movies, ?_, ?_⟩, ?_⟩
  · rcases settled with ⟨pending, fresh⟩ | ⟨outcome, current, inRun, _, loaded⟩
    · left
      constructor
      · rw [fresh]
        rfl
      · intro index outcome current answered
        have done := result_of_answer reached answered calls
        rw [pending] at done
        cases done
    · exact .inr ⟨outcome, current, inRun, by rw [loaded]⟩
  · have inRange := selected_lt existing
    rw [visible, isSelected]
    generalize selected (taps events) = index at inRange
    by_cases home : index = 0
    · subst home
      simp [pages, homeScreen, single, DSHomeContentState.screen_eq_map]
    · have mine : pages[index]? = some .mine := by
        have bound : index < 4 := inRange
        interval_cases index <;> first | rfl | exact (home rfl).elim
      rw [mine, if_neg home]
  · intro index item listed
    rw [← isSelected]
    exact state.main.tabBar_shows listed

/-- Once the service has answered, the list of the home page shows the response
exactly when every rating decodes to a `double`.  Tapping tabs before or after
the answer changes nothing. -/
theorem homeScreen_shows_iff {events : List MyAppEvent}
    {state : MyApp package}
    (reached : (machine showDouble package).run events = some state)
    (response : WellFormedResponse)
    (answered : ∃ current,
      .answer 0 (.ok response.json) current ∈ events)
    (frames : ∀ index outcome current,
      .answer index outcome current ∈ events →
        ∃ number line column rest, line < 2 ^ 63 ∧ column < 2 ^ 63 ∧
          current = (DSHomeContentState.callbackFrame number line
            column).trace rest)
    (debug : Bool) :
    List.Forall₂ (SubjectRecord.ShownBy · showDouble) response.records
        (homeScreen debug showDouble state) ↔
      ∀ record ∈ response.records, record.average.isDouble = true := by
  obtain ⟨current, answered⟩ := answered
  obtain ⟨page, call, single, calls, settled⟩ := page_cases reached
  have result := result_of_answer reached answered calls
  rcases settled with ⟨pending, _⟩ | ⟨outcome, trace, inRun, done, memory⟩
  · rw [result] at pending
    cases pending
  · rw [result] at done
    cases done
    obtain ⟨number, line, column, rest, lineFits, columnFits, traced⟩ :=
      frames _ _ _ inRun
    have readable := DSHomeContentState.callbackFrame_readable number
      lineFits columnFits
    have parsed := Frame.parseTrace_of_readable readable rest
    rw [← traced] at parsed
    rw [homeScreen, single, List.flatMap_cons, List.flatMap_nil,
      List.append_nil, memory]
    constructor
    · intro shown
      by_contra integral
      have lost : (DSHomeContentState.loaded showDouble trace
          fun _ => .ok response.json).movies = [] :=
        DSHomeContentState.loaded_of_integral showDouble response rfl integral
      rw [DSHomeContentState.screen_eq_map, lost, List.map_nil] at shown
      apply integral
      rw [List.forall₂_nil_right_iff.mp shown]
      simp
    · intro doubles
      apply DSHomeContentState.screen_of_faithful
      exact DSHomeContentState.loaded_faithful showDouble response rfl doubles
        parsed

/-- Two taps with the answer between them; the home page comes last. -/
def tapAnswerTap : List MyAppEvent :=
  [.tap 3, .answer 0 (.ok sampleResponse.json) Application.sampleTrace,
    .tap 0]

theorem homeScreen_shows_iff_tapAnswerTap :
    ∃ state, (machine showSample (DioPackage.listOnly Nat)).run
        tapAnswerTap = some state ∧
      (List.Forall₂ (SubjectRecord.ShownBy · showSample)
          sampleResponse.records (homeScreen true showSample state) ↔
        ∀ record ∈ sampleResponse.records,
          record.average.isDouble = true) := by
  have reached : (machine showSample (DioPackage.listOnly Nat)).run
      tapAnswerTap = some _ := rfl
  refine ⟨_, reached, homeScreen_shows_iff reached sampleResponse
    ⟨_, List.mem_cons_of_mem _ List.mem_cons_self⟩ ?_ true⟩
  intro index outcome current answered
  simp only [tapAnswerTap, List.mem_cons, List.not_mem_nil, reduceCtorEq,
    MyAppEvent.answer.injEq, false_or, or_false] at answered
  obtain ⟨_, _, traced⟩ := answered
  exact ⟨0, 21, 5, none, by omega, by omega, traced⟩

theorem visible_eq_tapAnswerTap :
    ∃ state, (machine showSample (DioPackage.listOnly Nat)).run
        tapAnswerTap = some state ∧
      (∃ movies,
        ((movies = [] ∧ ∀ index outcome current,
            .answer index outcome current ∉ tapAnswerTap) ∨
          ∃ outcome current, .answer 0 outcome current ∈ tapAnswerTap ∧
            movies = (DSHomeContentState.loaded showSample current
              fun _ => outcome).movies) ∧
        visible true showSample state =
          if selected (taps tapAnswerTap) = 0 then
            .text (some "首页") :: movies.map fun movie =>
              .inflate (DSHomeMovieItem.build true showSample
                { movieItem := movie })
          else [.text (some "我的"), .text (some "我的内容")]) ∧
      ∀ index item, tabbarItems[index]? = some item →
        ∃ tab, state.main.tabBar[index]? = some tab ∧
          tab.texts = [item.title] ∧
          (tab.images = [item.activeIcon] ↔
            index = selected (taps tapAnswerTap)) := by
  have reached : (machine showSample (DioPackage.listOnly Nat)).run
      tapAnswerTap = some _ := rfl
  exact ⟨_, reached, visible_eq reached true⟩

theorem run_isolated_tapAnswerTap :
    ∃ state : MyApp (DioPackage.listOnly Nat),
      (machine showSample (DioPackage.listOnly Nat)).run
          tapAnswerTap = some state ∧
        ∃ page call, state.application.pages = [page] ∧
          state.application.http.calls = [call] ∧ page.call = 0 ∧
          call.flow = [.wrapper (HttpRequest.dInter 0)] ∧
          state.main.currentIndex < pages.length ∧
          state.main.currentIndex = selected (taps tapAnswerTap) := by
  have reached : (machine showSample (DioPackage.listOnly Nat)).run
      tapAnswerTap = some _ := rfl
  exact ⟨_, reached, run_isolated reached⟩

end MyApp

end Douban
