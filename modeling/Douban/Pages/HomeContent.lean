import Douban.MovieListFidelity
import Douban.Utils.FrameRoundTrip

/-!
# The home page content

`initState` requests the movie list and stores it in a callback that logs
first.  Between the response and the stored movies stand the decoder and the
stack-frame parser, and each of them can lose the whole list.
-/

namespace Douban

open Dart

structure DSHomeContentState where
  movies : List MovieItem

namespace DSHomeContentState

/-- The page before its first frame. -/
def initial : DSHomeContentState := { movies := [] }

/-- The callback passed to `then`; `current` is its `StackTrace.current`. -/
def onMovies (showDouble : Double → DartString) (current : StackTrace)
    (res : List MovieItem) : Effect DSHomeContentState Unit := do
  let texts ← Effect.evaluate (res.mapM (MovieItem.toText showDouble))
  Effect.print ("then之后的结果:" ++ showList texts)
  dsLog "测试一条信息" current
  Effect.assign fun state => { state with movies := state.movies ++ res }

/-- `initState` with what awaiting the HTTP request gives for a url.  A future
that ends in an error skips the callback. -/
def initState (showDouble : Double → DartString) (current : StackTrace)
    (request : DartString → Except DartError JsonValue) :
    Effect DSHomeContentState Unit := do
  let res ← Effect.evaluate (HomeRequest.requestMovieList request 0 30)
  onMovies showDouble current res

section Callback

variable {showDouble : Double → DartString} {current : StackTrace}
  {res : List MovieItem} {texts : List DartString}
  {process : Process DSHomeContentState}

theorem perform_onMovies_of_ok {info : DSCustomTrace}
    (printed : res.mapM (MovieItem.toText showDouble) = .ok texts)
    (parsed : DSCustomTrace.parseTrace current = .ok info) :
    (onMovies showDouble current res).perform process =
      (.ok (),
        { console := process.console ++
            ["then之后的结果:" ++ showList texts] ++
            [logLine info "测试一条信息"]
          memory := { movies := process.memory.movies ++ res } }) := by
  rw [onMovies, printed,
    Effect.perform_bind_of_ok (Effect.perform_evaluate_ok texts process),
    Effect.perform_bind_of_ok (Effect.perform_print _ process),
    perform_dsLog_of_ok parsed, Effect.perform_assign]

/-- A frame that does not parse loses the movies after they were printed. -/
theorem perform_onMovies_of_error {error : DartError}
    (printed : res.mapM (MovieItem.toText showDouble) = .ok texts)
    (failed : DSCustomTrace.parseTrace current = .error error) :
    (onMovies showDouble current res).perform process =
      (.error error,
        { process with
          console := process.console ++
            ["then之后的结果:" ++ showList texts] }) := by
  rw [onMovies, printed,
    Effect.perform_bind_of_ok (Effect.perform_evaluate_ok texts process),
    Effect.perform_bind_of_ok (Effect.perform_print _ process),
    perform_dsLog_of_error failed]

end Callback

/-! ## From the response to the page -/

theorem toText_toMovie (showDouble : Double → DartString)
    (record : SubjectRecord) :
    ∃ text, record.toMovie.toText showDouble = .ok text := by
  have genres : record.toMovie.genres.toList =
      .ok (record.genres.map some) := CastList.toList_strings record.genres
  rw [MovieItem.toText, genres]
  exact ⟨_, rfl⟩

/-- What the page holds after its first frame and the answer to its request. -/
def loaded (showDouble : Double → DartString) (current : StackTrace)
    (request : DartString → Except DartError JsonValue) :
    DSHomeContentState :=
  ((initState showDouble current request).perform
    { console := [], memory := initial }).2.memory

/-- What a page printed and holds once its future has completed: nothing if the
response did not decode or could not be printed, the printed movies alone if
the trace did not parse, or else two lines and all of the movies. -/
inductive Settled (showDouble : Double → DartString) (current : StackTrace)
    (request : DartString → Except DartError JsonValue) :
    Process DSHomeContentState → Prop where
  | undecoded {failure : DartError} :
      HomeRequest.requestMovieList request 0 30 = .error failure →
      Settled showDouble current request { console := [], memory := initial }
  | unprinted {res : List MovieItem} {failure : DartError} :
      HomeRequest.requestMovieList request 0 30 = .ok res →
      res.mapM (MovieItem.toText showDouble) = .error failure →
      Settled showDouble current request { console := [], memory := initial }
  | unlogged {res : List MovieItem} {texts : List DartString}
      {failure : DartError} :
      HomeRequest.requestMovieList request 0 30 = .ok res →
      res.mapM (MovieItem.toText showDouble) = .ok texts →
      DSCustomTrace.parseTrace current = .error failure →
      Settled showDouble current request
        { console := ["then之后的结果:" ++ showList texts]
          memory := initial }
  | stored {res : List MovieItem} {texts : List DartString}
      {info : DSCustomTrace} :
      HomeRequest.requestMovieList request 0 30 = .ok res →
      res.mapM (MovieItem.toText showDouble) = .ok texts →
      DSCustomTrace.parseTrace current = .ok info →
      Settled showDouble current request
        { console :=
            ["then之后的结果:" ++ showList texts, logLine info "测试一条信息"]
          memory := { movies := res } }

theorem initState_settled (showDouble : Double → DartString)
    (current : StackTrace)
    (request : DartString → Except DartError JsonValue) :
    Settled showDouble current request
      ((initState showDouble current request).perform
        { console := [], memory := initial }).2 := by
  cases decoded : HomeRequest.requestMovieList request 0 30 with
  | error failure =>
      rw [initState, decoded, Effect.perform_bind_of_error
        (Effect.perform_evaluate_error _ _)]
      exact .undecoded decoded
  | ok res =>
      rw [initState, decoded, Effect.perform_bind_of_ok
        (Effect.perform_evaluate_ok _ _)]
      cases printed : res.mapM (MovieItem.toText showDouble) with
      | error failure =>
          rw [onMovies, printed, Effect.perform_bind_of_error
            (Effect.perform_evaluate_error _ _)]
          exact .unprinted decoded printed
      | ok texts =>
          cases parsed : DSCustomTrace.parseTrace current with
          | error failure =>
              rw [perform_onMovies_of_error printed parsed]
              exact .unlogged decoded printed parsed
          | ok info =>
              rw [perform_onMovies_of_ok printed parsed]
              exact .stored decoded printed parsed

section Response

variable (showDouble : Double → DartString) {current : StackTrace}
  (response : WellFormedResponse)
  {request : DartString → Except DartError JsonValue}

theorem loaded_of_integral
    (answered : request (HomeRequest.movieUrl 0 30) = .ok response.json)
    (integral : ¬ ∀ record ∈ response.records,
      record.average.isDouble = true) :
    (loaded showDouble current request).movies = [] := by
  have decoded := HomeRequest.moviesOfResult_of_isResponse response.presents
  simp only [List.all_eq_true, if_neg integral] at decoded
  rw [loaded, initState, HomeRequest.requestMovieList, answered,
    Library.ok_bind, decoded,
    Effect.perform_bind_of_error (Effect.perform_evaluate_error _ _)]
  rfl

theorem loaded_of_doubles
    (answered : request (HomeRequest.movieUrl 0 30) = .ok response.json)
    (doubles : ∀ record ∈ response.records,
      record.average.isDouble = true) :
    (loaded showDouble current request).movies =
      match DSCustomTrace.parseTrace current with
      | .ok _ => response.records.map SubjectRecord.toMovie
      | .error _ => [] := by
  have decoded := HomeRequest.moviesOfResult_of_isResponse response.presents
  simp only [List.all_eq_true, if_pos doubles] at decoded
  obtain ⟨texts, printed⟩ := Library.exists_mapM_eq_ok_iff.mpr
    (List.forall_mem_map.mpr fun record (_ : record ∈ response.records) =>
      toText_toMovie showDouble record)
  rw [loaded, initState, HomeRequest.requestMovieList, answered,
    Library.ok_bind, decoded,
    Effect.perform_bind_of_ok (Effect.perform_evaluate_ok _ _)]
  cases parsed : DSCustomTrace.parseTrace current with
  | error failure =>
      rw [perform_onMovies_of_error printed parsed]
      rfl
  | ok info =>
      rw [perform_onMovies_of_ok printed parsed]
      rfl

theorem loaded_faithful {info : DSCustomTrace}
    (answered : request (HomeRequest.movieUrl 0 30) = .ok response.json)
    (doubles : ∀ record ∈ response.records,
      record.average.isDouble = true)
    (parsed : DSCustomTrace.parseTrace current = .ok info) :
    List.Forall₂ Faithful response.records
      (loaded showDouble current request).movies := by
  rw [loaded_of_doubles showDouble response answered doubles, parsed]
  exact SubjectRecord.map_toMovie_faithful doubles

/-- The page shows a nonempty response faithfully exactly when every rating
decodes to a `double` and the stack trace of the callback parses. -/
theorem loaded_faithful_iff
    (answered : request (HomeRequest.movieUrl 0 30) = .ok response.json)
    (nonempty : response.records ≠ []) :
    List.Forall₂ Faithful response.records
        (loaded showDouble current request).movies ↔
      (∀ record ∈ response.records, record.average.isDouble = true) ∧
        ∃ info, DSCustomTrace.parseTrace current = .ok info := by
  have shown : ∀ {movies}, movies = [] →
      ¬ List.Forall₂ Faithful response.records movies := by
    intro movies empty faithful
    subst empty
    apply nonempty
    exact List.forall₂_nil_right_iff.mp faithful
  constructor
  · intro faithful
    by_cases doubles :
        ∀ record ∈ response.records, record.average.isDouble = true
    · cases parsed : DSCustomTrace.parseTrace current with
      | ok info => exact ⟨doubles, info, rfl⟩
      | error failure =>
          have lost : (loaded showDouble current request).movies = _ :=
            loaded_of_doubles showDouble response answered doubles
          rw [parsed] at lost
          exact (shown lost faithful).elim
    · exact (shown (loaded_of_integral showDouble response answered doubles)
        faithful).elim
  · intro loads
    obtain ⟨doubles, info, parsed⟩ := loads
    exact loaded_faithful showDouble response answered doubles parsed

end Response

/-- The frame of the callback in `home_content.dart`, under the path by which
`home.dart` imports it. -/
def callbackFrame (number line column : Nat) : Frame :=
  { number
    member := ⟨"_DSHomeContentState.initState.<anonymous closure>", by decide⟩
    location :=
      { scheme := .package
        root := 0
        segments := [⟨"flutter_project", by decide, by decide⟩,
          ⟨"Douban", by decide, by decide⟩, ⟨"pages", by decide, by decide⟩,
          ⟨"home", by decide, by decide⟩]
        closed := .inr (List.cons_ne_nil _ _) }
    stem := ⟨"home_content", by decide, by decide⟩
    line
    column }

theorem callbackFrame_readable (number : Nat) {line column : Nat}
    (lineFits : line < 2 ^ 63) (columnFits : column < 2 ^ 63) :
    (callbackFrame number line column).Readable := by
  apply Frame.readable_of_plain lineFits columnFits
  · have letters : ∀ character ∈ units "home_content",
        NameLetter character := by decide
    exact letters
  · -- Neither text depends on the numbers of the frame.
    have noDart : ¬ units "dart" <:+:
        (callbackFrame 0 0 0).lead ++ (callbackFrame 0 0 0).stem.text := by
      decide +kernel
    exact noDart

theorem loaded_faithful_iff_callbackFrame :
    List.Forall₂ Faithful HomeRequest.sampleResponse.records
        (loaded HomeRequest.showSample ((callbackFrame 0 21 5).trace none)
          fun _ => .ok HomeRequest.sampleResponse.json).movies ↔
      (∀ record ∈ HomeRequest.sampleResponse.records,
        record.average.isDouble = true) ∧
        ∃ info, DSCustomTrace.parseTrace
          ((callbackFrame 0 21 5).trace none) = .ok info :=
  loaded_faithful_iff _ HomeRequest.sampleResponse rfl
    (List.cons_ne_nil _ _)

end DSHomeContentState

end Douban
