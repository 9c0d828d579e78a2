import Douban.Dart.Json
import Douban.Library.Machine
import Douban.Library.Accumulation

/-!
# The shared HTTP client

`HttpRequest.request` runs without suspension up to its `await`: it allocates
the logging interceptor, installs the interceptors of the call on the one
static `Dio` object and issues the request.  The answer arrives later, in any
order relative to other calls.  The machine below has one event for each of
the two moments, so its runs are all interleavings of all calls.
-/

namespace Douban

open Dart Library

structure BaseOptions where
  baseUrl : DartString
  connectTimeout : Nat

namespace HTTPConfig

def baseUrl : DartString := "https://api.douban.com"

def timeout : Nat := 5000

end HTTPConfig

/-- The `InterceptorsWrapper` allocated by one call.  Each of its handlers
prints a text and hands its argument on; `call` tells the allocations apart. -/
structure InterceptorsWrapper where
  call : Nat
  onRequest : DartString
  onResponse : DartString
  onError : DartString
  deriving DecidableEq

/-- An interceptor object: a logging wrapper, or one handed in by a caller. -/
inductive Interceptor (ι : Type) where
  | wrapper (object : InterceptorsWrapper)
  | given (inter : ι)

structure Options where
  method : DartString

/-- The arguments of one call of `request<T>`; `castTo` is the cast `as T`. -/
structure Invocation (ι : Type) where
  url : DartString
  method : DartString := "get"
  params : Option (List (DartString × JsonValue)) := none
  inter : Option ι := none
  castTo : JsonValue → Except DartError JsonValue := .ok

/-- What `dio.request` is called with. -/
structure DioCall where
  url : DartString
  queryParameters : Option (List (DartString × JsonValue))
  options : Options

/-- What the application relies on of package dio: the interceptors are one
growable list that lives as long as the `Dio` object, `request` builds the flow
of its call from the list as it stands then, and neither issuing nor completing
a request changes the list. -/
structure DioPackage (ι : Type) where
  Dio : Type
  create : BaseOptions → Dio
  interceptors : Dio → List (Interceptor ι)
  addAll : Dio → List (Interceptor ι) → Dio
  request : Dio → DioCall → Dio × List (Interceptor ι)
  complete : Dio → Except DartError JsonValue → Dio
  create_interceptors : ∀ options, interceptors (create options) = []
  addAll_interceptors : ∀ dio added,
    interceptors (addAll dio added) = interceptors dio ++ added
  request_interceptors : ∀ dio call,
    interceptors (request dio call).1 = interceptors dio
  request_flow : ∀ dio call, (request dio call).2 = interceptors dio
  complete_interceptors : ∀ dio outcome,
    interceptors (complete dio outcome) = interceptors dio

/-- The least package of that kind: nothing but the list. -/
def DioPackage.listOnly (ι : Type) : DioPackage ι :=
  { Dio := List (Interceptor ι)
    create := fun _ => []
    interceptors := id
    addAll := fun dio added => dio ++ added
    request := fun dio _ => (dio, dio)
    complete := fun dio _ => dio
    create_interceptors := fun _ => rfl
    addAll_interceptors := fun _ _ => rfl
    request_interceptors := fun _ _ => rfl
    request_flow := fun _ _ => rfl
    complete_interceptors := fun _ _ => rfl }

/-- A call in progress or finished: the local list `inters` it installed, the
interceptors that its request, response and error pass through, and the value
or error its future completed with. -/
structure Call (ι : Type) where
  invocation : Invocation ι
  inters : List (Interceptor ι)
  flow : List (Interceptor ι)
  result : Option (Except DartError JsonValue)

structure HttpState {ι : Type} (package : DioPackage ι) where
  dio : package.Dio
  calls : List (Call ι)

inductive HttpEvent (ι : Type) where
  | request (invocation : Invocation ι)
  | complete (index : Nat) (outcome : Except DartError JsonValue)

namespace HttpRequest

variable {ι : Type}

def options : BaseOptions :=
  { baseUrl := HTTPConfig.baseUrl, connectTimeout := HTTPConfig.timeout }

/-- The interceptor every call allocates for itself. -/
def dInter (call : Nat) : InterceptorsWrapper :=
  { call
    onRequest := "拦截了请求"
    onResponse := "拦截了响应"
    onError := "拦截了错误" }

/-- The local list `inters` of a call. -/
def inters (call : Nat) (inter : Option ι) : List (Interceptor ι) :=
  let inters := [.wrapper (dInter call)]
  match inter with
  | some inter => inters ++ [.given inter]
  | none => inters

/-- `request` up to its `await`. -/
def request {package : DioPackage ι} (state : HttpState package)
    (invocation : Invocation ι) : HttpState package :=
  let options : Options := { method := invocation.method }
  let inters := inters state.calls.length invocation.inter
  let dio := package.addAll state.dio inters
  let issued := package.request dio
    { url := invocation.url
      queryParameters := invocation.params
      options }
  { dio := issued.1
    calls := state.calls ++
      [{ invocation, inters, flow := issued.2, result := none }] }

/-- `request` from its `await` on: the cast of the data, inside the `try` that
turns a `DioError` into an error of the future. -/
def finish (invocation : Invocation ι)
    (outcome : Except DartError JsonValue) : Except DartError JsonValue :=
  let body := do
    let data ← outcome
    invocation.castTo data
  match body with
  | .error (.dioError message) => .error (.dioError message)
  | result => result

/-- The answer to a pending call. -/
def complete {package : DioPackage ι} (state : HttpState package)
    (index : Nat) (outcome : Except DartError JsonValue) :
    Option (HttpState package) :=
  match state.calls[index]? with
  | some { invocation, inters, flow, result := none } =>
      let result := some (finish invocation outcome)
      some
        { dio := package.complete state.dio outcome
          calls := state.calls.set index
            { invocation, inters, flow, result } }
  | _ => none

def machine (package : DioPackage ι) :
    Machine (HttpState package) (HttpEvent ι) :=
  { start := { dio := package.create options, calls := [] }
    next := fun state event =>
      match event with
      | .request invocation => some (request state invocation)
      | .complete index outcome => complete state index outcome }

/-- The calls that a list of events issues, in order. -/
def invocationsOf (events : List (HttpEvent ι)) : List (Invocation ι) :=
  events.filterMap fun event =>
    match event with
    | .request invocation => some invocation
    | .complete _ _ => none

/-! ## What one event does -/

section Step

variable {package : DioPackage ι} {state target : HttpState package}

theorem finish_eq (invocation : Invocation ι)
    (outcome : Except DartError JsonValue) :
    finish invocation outcome = outcome >>= invocation.castTo := by
  unfold finish
  dsimp only
  split
  · rename_i message failed
    exact failed.symm
  · rfl

theorem request_calls (invocation : Invocation ι) :
    (request state invocation).calls = state.calls ++
      [{ invocation
         inters := inters state.calls.length invocation.inter
         flow := package.interceptors state.dio ++
           inters state.calls.length invocation.inter
         result := none }] := by
  simp [request, package.request_flow, package.addAll_interceptors]

/-- The new call comes last and is pending; the earlier calls stay. -/
theorem request_present (state : HttpState package)
    (invocation : Invocation ι) :
    ∃ call, (request state invocation).calls[state.calls.length]? =
        some call ∧ call.invocation = invocation ∧ call.result = none := by
  rw [request_calls, List.getElem?_concat_length]
  exact ⟨_, rfl, rfl, rfl⟩

theorem request_keeps {index : Nat} {call : Call ι}
    (present : state.calls[index]? = some call)
    (invocation : Invocation ι) :
    (request state invocation).calls[index]? = some call := by
  obtain ⟨inRange, _⟩ := List.getElem?_eq_some_iff.mp present
  rw [request_calls, List.getElem?_append_left inRange]
  exact present

theorem request_interceptors (invocation : Invocation ι) :
    package.interceptors (request state invocation).dio =
      package.interceptors state.dio ++
        inters state.calls.length invocation.inter := by
  simp [request, package.request_interceptors, package.addAll_interceptors]

theorem complete_cases {index : Nat}
    {outcome : Except DartError JsonValue}
    (completed : complete state index outcome = some target) :
    ∃ call, state.calls[index]? = some call ∧ call.result = none ∧
      target.calls = state.calls.set index
        { call with result := some (finish call.invocation outcome) } ∧
      package.interceptors target.dio = package.interceptors state.dio := by
  unfold complete at completed
  split at completed
  · rename_i invocation inters flow found
    cases completed
    exact ⟨_, found, rfl, rfl, package.complete_interceptors _ _⟩
  · cases completed

theorem map_set_result {α : Type} (field : Call ι → α)
    (ignores : ∀ call result, field { call with result } = field call)
    {calls : List (Call ι)} {index : Nat} {call : Call ι}
    (found : calls[index]? = some call)
    (result : Option (Except DartError JsonValue)) :
    (calls.set index { call with result }).map field = calls.map field := by
  obtain ⟨inRange, equality⟩ := List.getElem?_eq_some_iff.mp found
  subst equality
  rw [List.map_set, ignores]
  apply List.ext_getElem
  · simp
  · intro position left right
    by_cases same : index = position
    · subst same
      simp
    · simp [List.getElem_set_of_ne same]

theorem complete_origin {position index : Nat} {call : Call ι}
    {outcome : Except DartError JsonValue}
    (completed : complete state position outcome = some target)
    (found : target.calls[index]? = some call) :
    ∃ before, state.calls[index]? = some before ∧
      call.invocation = before.invocation ∧
      call.inters = before.inters ∧ call.flow = before.flow := by
  obtain ⟨finished, present, _, calls, _⟩ := complete_cases completed
  rw [calls] at found
  by_cases same : position = index
  · subst same
    obtain ⟨inRange, _⟩ := List.getElem?_eq_some_iff.mp present
    rw [List.getElem?_set_self inRange] at found
    cases found
    exact ⟨finished, present, rfl, rfl, rfl⟩
  · rw [List.getElem?_set_ne same] at found
    exact ⟨call, found, rfl, rfl, rfl⟩

end Step

end HttpRequest

end Douban
