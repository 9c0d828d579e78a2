import Douban.Application

/-!
# What a value meets in a flow

The options of a request, its response and its error each pass through one
handler of every interceptor in the flow of the call.  The handlers of the
logging interceptors print a line and hand their argument on.  The handlers
that callers hand in are theirs, so they are a parameter here.
-/

namespace Douban

open Dart Library

/-- The handlers of an interceptor. -/
inductive Phase where
  | request
  | response
  | error

def InterceptorsWrapper.text (object : InterceptorsWrapper) :
    Phase → DartString
  | .request => object.onRequest
  | .response => object.onResponse
  | .error => object.onError

section Handlers

variable {ι Memory α : Type}

/-- The three handlers of `dInter` differ in the text they print. -/
def InterceptorsWrapper.handle (object : InterceptorsWrapper) (phase : Phase)
    (argument : α) : Effect Memory α := do
  Effect.print (object.text phase)
  return argument

def Interceptor.handle (given : Phase → ι → α → Effect Memory α)
    (phase : Phase) : Interceptor ι → α → Effect Memory α
  | wrapper object => object.handle phase
  | .given inter => given phase inter

theorem InterceptorsWrapper.perform_handle (object : InterceptorsWrapper)
    (phase : Phase) (argument : α) (process : Process Memory) :
    (object.handle phase argument : Effect Memory α).perform process =
      (.ok argument, { process with
        console := process.console ++ [object.text phase] }) := rfl

/-- What the application relies on of the flows of package dio: the handlers
run in the order of the interceptors, and a value of the same kind that one of
them returns is what the next one gets.  A handler may also return a value of
another kind, as a `Response` or a `DioError` from `onRequest`, which ends the
phase; nothing is assumed about that. -/
structure DioFlow (ι Memory α : Type) where
  given : Phase → ι → α → Effect Memory α
  pass : Phase → List (Interceptor ι) → α → Effect Memory α
  pass_nil : ∀ phase argument, pass phase [] argument = pure argument
  pass_cons : ∀ {phase interceptor later argument process value middle},
    (interceptor.handle given phase argument).perform process =
      (.ok value, middle) →
    (pass phase (interceptor :: later) argument).perform process =
      (pass phase later value).perform middle

/-- The least package of that kind, where an error skips the later handlers. -/
def DioFlow.inOrder (given : Phase → ι → α → Effect Memory α) :
    DioFlow ι Memory α :=
  { given
    pass := fun phase flow argument =>
      flow.foldlM (fun argument interceptor =>
        interceptor.handle given phase argument) argument
    pass_nil := fun _ _ => rfl
    pass_cons := fun handled => Effect.perform_bind_of_ok handled _ }

/-- One interceptor acts on what travels through a flow, a value and the state
of the process, where `act` is what the handlers of the callers do. -/
def Interceptor.travel (phase : Phase)
    (act : ι → α → Process Memory → α × Process Memory)
    (travelled : α × Process Memory) : Interceptor ι → α × Process Memory
  | wrapper object =>
      (travelled.1, { travelled.2 with
        console := travelled.2.console ++ [object.text phase] })
  | .given inter => act inter travelled.1 travelled.2

theorem DioFlow.perform_pass (dio : DioFlow ι Memory α) {phase : Phase}
    (act : ι → α → Process Memory → α × Process Memory)
    {flow : List (Interceptor ι)}
    (returns : ∀ inter, .given inter ∈ flow → ∀ argument process,
      (dio.given phase inter argument).perform process =
        (.ok (act inter argument process).1,
          (act inter argument process).2))
    (argument : α) (process : Process Memory) :
    (dio.pass phase flow argument).perform process =
      (.ok (flow.foldl (Interceptor.travel phase act)
          (argument, process)).1,
        (flow.foldl (Interceptor.travel phase act)
          (argument, process)).2) := by
  induction flow generalizing argument process with
  | nil =>
      rw [dio.pass_nil]
      rfl
  | cons interceptor later induction =>
      have remaining := induction fun inter member =>
        returns inter (List.mem_cons_of_mem _ member)
      cases interceptor with
      | wrapper object =>
          have handled : ((Interceptor.wrapper object).handle dio.given phase
              argument).perform process = _ :=
            object.perform_handle phase argument process
          rw [dio.pass_cons handled]
          exact remaining _ _
      | given inter =>
          have handled : ((Interceptor.given inter).handle dio.given phase
              argument).perform process = _ :=
            returns inter List.mem_cons_self argument process
          rw [dio.pass_cons handled]
          exact remaining _ _

end Handlers

namespace HttpRequest

variable {ι Memory α : Type} {package : DioPackage ι}

/-- The line that every call prints in a phase. -/
def line (phase : Phase) : DartString := (dInter 0).text phase

theorem dInter_text (call : Nat) (phase : Phase) :
    (dInter call).text phase = line phase := by
  cases phase with
  | request => rfl
  | response => rfl
  | error => rfl

/-- What one call adds to the flows of itself and of all later calls: a line,
and then what its caller handed in. -/
def stage (phase : Phase) (act : ι → α → Process Memory → α × Process Memory)
    (travelled : α × Process Memory) (invocation : Invocation ι) :
    α × Process Memory :=
  let printed := { travelled.2 with
    console := travelled.2.console ++ [line phase] }
  match invocation.inter with
  | some inter => act inter travelled.1 printed
  | none => (travelled.1, printed)

theorem foldl_inters (phase : Phase)
    (act : ι → α → Process Memory → α × Process Memory)
    (travelled : α × Process Memory) (call : Nat)
    (invocation : Invocation ι) :
    (inters call invocation.inter).foldl (Interceptor.travel phase act)
      travelled = stage phase act travelled invocation := by
  unfold stage
  rw [← dInter_text call phase]
  cases invocation.inter with
  | none => rfl
  | some inter => rfl

/-- In every run the flow of call `index` consists of `index + 1` stages, one
for each call up to it, in order, as long as the handlers of the callers hand
on values of the same kind. -/
theorem pass_flow {events : List (HttpEvent ι)} {state : HttpState package}
    (reached : (machine package).run events = some state)
    {index : Nat} {call : Call ι} (present : state.calls[index]? = some call)
    (dio : DioFlow ι Memory α) (phase : Phase)
    (act : ι → α → Process Memory → α × Process Memory)
    (returns : ∀ inter, .given inter ∈ call.flow → ∀ argument process,
      (dio.given phase inter argument).perform process =
        (.ok (act inter argument process).1,
          (act inter argument process).2))
    (argument : α) (process : Process Memory) :
    ∃ value left,
      ((invocationsOf events).take (index + 1)).foldl (stage phase act)
          (argument, process) = (value, left) ∧
        (dio.pass phase call.flow argument).perform process =
          (.ok value, left) := by
  have invariant := run_accumulates reached
  have stages : call.flow.foldl (Interceptor.travel phase act)
      (argument, process) =
        ((invocationsOf events).take (index + 1)).foldl (stage phase act)
          (argument, process) := by
    rw [invariant.flows index call present, accumulated, List.foldl_flatten,
      ← List.map_take, List.foldl_map, ← run_invocations reached,
      ← List.map_take, List.foldl_map]
    apply List.foldl_ext
    intro travelled earlier taken
    obtain ⟨position, found⟩ :=
      List.mem_iff_getElem?.mp (List.mem_of_mem_take taken)
    rw [invariant.own position earlier found]
    exact foldl_inters phase act travelled position earlier.invocation
  refine ⟨_, _, rfl, ?_⟩
  rw [dio.perform_pass act returns, stages]

/-- Interceptors that add a token to what passes through them. -/
def tokens : DioFlow Nat Unit (List Nat) :=
  .inOrder fun _ token tokens => pure (tokens ++ [token])

/-- The token of the first caller gets into the request of the second one. -/
theorem pass_flow_tokenThenPlain :
    ∃ state call, (machine (DioPackage.listOnly Nat)).run tokenThenPlain =
        some state ∧ state.calls[1]? = some call ∧
      (tokens.pass .request call.flow []).perform
          { console := [], memory := () } =
        (.ok [7],
          { console := ["拦截了请求", "拦截了请求"], memory := () }) := by
  have reached : (machine (DioPackage.listOnly Nat)).run tokenThenPlain =
      some _ := rfl
  refine ⟨_, _, reached, rfl, ?_⟩
  obtain ⟨value, left, stages, passed⟩ :=
    pass_flow reached (show (_ : List (Call Nat))[1]? = some _ from rfl)
      tokens .request
      (fun token tokens process => (tokens ++ [token], process))
      (fun _ _ _ _ => rfl) [] { console := [], memory := () }
  rw [passed]
  cases stages
  rfl

/-! ## Flows without interceptors of callers -/

theorem flow_of_plain {events : List (HttpEvent ι)}
    {state : HttpState package}
    (reached : (machine package).run events = some state)
    (plain : ∀ invocation ∈ invocationsOf events, invocation.inter = none)
    {index : Nat} {call : Call ι}
    (present : state.calls[index]? = some call) :
    call.flow =
      (List.range (index + 1)).map fun call => .wrapper (dInter call) := by
  have logging : ∀ interceptor ∈ call.flow,
      ∃ object, interceptor = .wrapper object := by
    intro interceptor member
    obtain ⟨contributor, earlier, _, found, contributed⟩ :=
      ((run_accumulates reached).mem_iff present).mp member
    have issued : earlier.invocation ∈ invocationsOf events := by
      rw [← run_invocations reached]
      exact List.mem_map_of_mem (List.mem_of_getElem? found)
    rw [plain _ issued] at contributed
    exact ⟨_, List.mem_singleton.mp contributed⟩
  have whole : (call.flow.filterMap Interceptor.wrapper?).map .wrapper =
      call.flow := by
    generalize call.flow = flow at logging
    induction flow with
    | nil => rfl
    | cons interceptor later induction =>
        obtain ⟨object, equality⟩ := logging interceptor List.mem_cons_self
        subst equality
        have remaining := induction fun other member =>
          logging other (List.mem_cons_of_mem _ member)
        simp only [List.filterMap_cons, Interceptor.wrapper?, List.map_cons,
          remaining]
  rw [← whole, loggers_of_flow reached present, List.map_map]
  rfl

theorem foldl_loggers (phase : Phase)
    (act : ι → α → Process Memory → α × Process Memory)
    (argument : α) (process : Process Memory) (count : Nat) :
    ((List.range count).map fun call =>
        Interceptor.wrapper (dInter call)).foldl
          (Interceptor.travel phase act) (argument, process) =
      (argument, { process with
        console := process.console ++
          List.replicate count (line phase) }) := by
  induction count with
  | zero => simp
  | succ count induction =>
      rw [List.range_succ, List.map_append, List.foldl_append, induction,
        List.replicate_succ']
      simp [Interceptor.travel, dInter_text]

end HttpRequest

namespace Application

variable {ι Memory α : Type} {package : DioPackage ι}
  {showDouble : Double → DartString} {events : List (ApplicationEvent ι)}

/-- As long as other code hands in no interceptors, the options, the response
or the error of a page leave the flow of its call unchanged, and as many lines
are printed as there were calls up to it. -/
theorem page_pass {state : Application package}
    (reached : (machine showDouble package).run events = some state)
    (plain : ∀ invocation, .request invocation ∈ events →
      invocation.inter = none)
    {page : Page} (mounted : page ∈ state.pages)
    (dio : DioFlow ι Memory α) (phase : Phase) (argument : α)
    (process : Process Memory) :
    ∃ call, state.http.calls[page.call]? = some call ∧
      (dio.pass phase call.flow argument).perform process =
        (.ok argument, { process with
          console := process.console ++
            List.replicate (page.call + 1) (HttpRequest.line phase) }) := by
  obtain ⟨call, present, _, _⟩ := run_consistent reached page mounted
  refine ⟨call, present, ?_⟩
  have issued : ∀ invocation ∈ HttpRequest.invocationsOf
      (events.map ApplicationEvent.http), invocation.inter = none := by
    intro invocation member
    obtain ⟨clientEvent, inRun, isRequest⟩ := List.mem_filterMap.mp member
    obtain ⟨event, inEvents, equality⟩ := List.mem_map.mp inRun
    subst equality
    cases event with
    | mount =>
        cases isRequest
        rfl
    | request invocation =>
        cases isRequest
        exact plain _ inEvents
    | answer index outcome current => cases isRequest
  have flow := HttpRequest.flow_of_plain (run_http reached) issued present
  rw [flow, dio.perform_pass fun _ argument process => (argument, process),
    HttpRequest.foldl_loggers]
  intro inter member
  simp at member

/-- The second of two pages prints two lines for its error. -/
theorem page_pass_twoPages :
    ∃ call, twoPages.http.calls[1]? = some call ∧
      (HttpRequest.tokens.pass .error call.flow []).perform
          { console := [], memory := () } =
        (.ok [],
          { console := ["拦截了错误", "拦截了错误"], memory := () }) := by
  have mounted : Page.fresh 1 ∈ twoPages.pages :=
    List.mem_cons_of_mem _ (List.mem_singleton_self _)
  have plain : ∀ invocation,
      .request invocation ∈ ([.mount, .mount] : List (ApplicationEvent Nat)) →
        invocation.inter = none := by
    intro invocation member
    simp at member
  exact page_pass run_twoPages plain mounted HttpRequest.tokens .error [] _

end Application

end Douban
