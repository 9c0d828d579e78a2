import Douban.Application
import Douban.Model.MovieAcceptance
import Douban.Pages.HomeMovieItem
import Douban.Service.HttpAnswers

/-!
# The list of the home page

`DSHomeContent.build` hands the framework a list view whose items are built on
demand, one for each movie of the state.  Whatever the service answers, an item
of a page that is mounted can fail in one way only.
-/

namespace Douban

open Dart
open HomeRequest (sampleResponse showSample)

/-- What `ListView.builder` is given: the framework calls the builder for the
indices below the count that scroll into view. -/
structure ListViewBuilder where
  itemCount : Nat
  itemBuilder : Nat → Except BuildError DSHomeMovieItem

namespace DSHomeContentState

def build (state : DSHomeContentState) : ListViewBuilder :=
  { itemCount := state.movies.length
    itemBuilder := fun index => do
      let movie ← BuildError.lift (elementAt state.movies index)
      return { movieItem := movie } }

/-- The item at an index, when it is on display. -/
def itemAt (debug : Bool) (showDouble : Double → DartString)
    (state : DSHomeContentState) (index : Nat) : Widget :=
  .inflate (do
    let item ← state.build.itemBuilder index
    item.build debug showDouble)

/-- All items of the list, from top to bottom. -/
def screen (debug : Bool) (showDouble : Double → DartString)
    (state : DSHomeContentState) : List Widget :=
  (List.range state.build.itemCount).map (itemAt debug showDouble state)

theorem screen_eq_map (debug : Bool) (showDouble : Double → DartString)
    (state : DSHomeContentState) :
    screen debug showDouble state = state.movies.map fun movie =>
      .inflate (DSHomeMovieItem.build debug showDouble
        { movieItem := movie }) := by
  apply List.ext_getElem
  · simp [screen, build]
  · intro index left right
    have inRange : index < state.movies.length := by simpa using right
    simp [screen, itemAt, build, elementAt, inRange]

theorem screen_of_faithful {records : List SubjectRecord}
    {state : DSHomeContentState}
    (faithful : List.Forall₂ Faithful records state.movies)
    (debug : Bool) (showDouble : Double → DartString) :
    List.Forall₂ (SubjectRecord.ShownBy · showDouble) records
      (screen debug showDouble state) := by
  rw [screen_eq_map, List.forall₂_map_right_iff]
  apply faithful.imp
  intro record movie carries
  obtain ⟨widget, built, shown⟩ :=
    DSHomeMovieItem.build_of_faithful carries debug showDouble
  rw [built]
  exact shown

/-! ## Movies that the page holds -/

theorem readable_of_toText {showDouble : Double → DartString}
    {movie : MovieItem} {text : DartString}
    (printed : movie.toText showDouble = .ok text) :
    ∃ genres, movie.genres.toList = .ok genres := by
  rw [MovieItem.toText, Library.bind_eq_ok_iff] at printed
  obtain ⟨genres, readable, _⟩ := printed
  exact ⟨genres, readable⟩

/-- The callback prints the movies before it stores them, and printing reads
the genres: a movie with a genre that is not a text never reaches the page. -/
theorem readable_of_mem_loaded {showDouble : Double → DartString}
    {current : StackTrace}
    {request : DartString → Except DartError JsonValue} {movie : MovieItem}
    (held : movie ∈ (loaded showDouble current request).movies) :
    ∃ genres, movie.genres.toList = .ok genres := by
  have settled := initState_settled showDouble current request
  rw [loaded] at held
  generalize ((initState showDouble current request).perform
    { console := [], memory := initial }).2 = process at settled held
  cases settled with
  | undecoded _ => cases held
  | unprinted _ _ => cases held
  | unlogged _ _ _ => cases held
  | stored _ printed _ =>
      obtain ⟨text, shown⟩ :=
        Library.exists_mapM_eq_ok_iff.mp ⟨_, printed⟩ movie held
      exact readable_of_toText shown

theorem exists_toText_iff {showDouble : Double → DartString}
    {movie : MovieItem} :
    (∃ text, movie.toText showDouble = .ok text) ↔
      ∃ genres, movie.genres.toList = .ok genres := by
  constructor
  · intro printed
    obtain ⟨text, printed⟩ := printed
    exact readable_of_toText printed
  · intro readable
    obtain ⟨genres, readable⟩ := readable
    rw [MovieItem.toText, readable]
    exact ⟨_, rfl⟩

theorem loaded_of_readable {showDouble : Double → DartString}
    {current : StackTrace} {info : DSCustomTrace}
    {request : DartString → Except DartError JsonValue}
    {movies : List MovieItem}
    (decoded : HomeRequest.requestMovieList request 0 30 = .ok movies)
    (readable : ∀ movie ∈ movies, ∃ genres,
      movie.genres.toList = .ok genres)
    (parsed : DSCustomTrace.parseTrace current = .ok info) :
    (loaded showDouble current request).movies = movies := by
  obtain ⟨texts, printed⟩ := Library.exists_mapM_eq_ok_iff.mpr
    fun movie member => exists_toText_iff.mpr (readable movie member)
  rw [loaded, initState, decoded,
    Effect.perform_bind_of_ok (Effect.perform_evaluate_ok _ _),
    perform_onMovies_of_ok printed parsed]
  rfl

end DSHomeContentState

/-- An item that is built is a column, never the widget of an error. -/
theorem DSHomeMovieItem.inflate_build_eq_error_iff {debug : Bool}
    {showDouble : Double → DartString} {item : DSHomeMovieItem}
    {failure : BuildError} :
    Widget.inflate (item.build debug showDouble) = .error failure ↔
      item.build debug showDouble = .error failure := by
  cases built : item.build debug showDouble with
  | error raised => simp [Widget.inflate]
  | ok widget =>
      simp only [build, Library.bind_eq_ok_iff, Library.pure_eq_ok,
        Except.ok.injEq] at built
      obtain ⟨_, _, _, _, column⟩ := built
      subst column
      simp [Widget.inflate]

namespace Application

variable {ι : Type} {package : DioPackage ι}
  {showDouble : Double → DartString} {events : List (ApplicationEvent ι)}
  {state : Application package} {page : Page}

theorem readable_of_mounted
    (reached : (machine showDouble package).run events = some state)
    (mounted : page ∈ state.pages) {movie : MovieItem}
    (held : movie ∈ page.process.memory.movies) :
    ∃ genres, movie.genres.toList = .ok genres := by
  obtain ⟨call, _, _, follows⟩ := run_consistent reached page mounted
  cases follows with
  | waiting _ fresh =>
      rw [fresh] at held
      cases held
  | resumed _ _ resumed =>
      rw [resumed, resume_fresh_memory] at held
      exact DSHomeContentState.readable_of_mem_loaded held

theorem run_mountAnswer (showDouble : Double → DartString)
    (package : DioPackage ι) (outcome : Except DartError JsonValue)
    (current : StackTrace) :
    ∃ state, (machine showDouble package).run
        [.mount, .answer 0 outcome current] = some state ∧
      (Page.fresh 0).resume showDouble current outcome ∈ state.pages := by
  obtain ⟨call, present, _, pending⟩ := HttpRequest.request_present
    (machine showDouble package).start.http (movieInvocation ι)
  obtain ⟨http, completed⟩ :=
    HttpRequest.exists_complete_of_pending present pending outcome
  have first : HttpRequest.complete
      (machine showDouble package).start.mount.http 0 outcome =
        some http := completed
  obtain ⟨state, answered⟩ : ∃ state,
      (machine showDouble package).start.mount.answer showDouble 0 outcome
        current = some state := by
    rw [answer, first]
    exact ⟨_, rfl⟩
  refine ⟨state, answered, ?_⟩
  rw [(answer_cases answered).2, finish_movieInvocation]
  exact List.mem_singleton_self _

theorem movies_of_encodeMovies {movies : List MovieItem}
    (readable : ∀ movie ∈ movies, ∃ genres,
      movie.genres.toList = .ok genres) :
    ((Page.fresh 0).resume showDouble sampleTrace
      (.ok (encodeMovies movies))).process.memory.movies = movies := by
  have frame := DSHomeContentState.callbackFrame_readable 0
    (by omega : 21 < 2 ^ 63) (by omega : 5 < 2 ^ 63)
  rw [resume_fresh_memory]
  apply DSHomeContentState.loaded_of_readable _ readable
    (Frame.parseTrace_of_readable frame none)
  exact HomeRequest.moviesOfResult_encodeMovies movies

/-- What pages can hold at all: exactly the lists of movies whose genres can be
read. -/
theorem reachable_movies_iff (showDouble : Double → DartString)
    (package : DioPackage ι) (movies : List MovieItem) :
    (∃ events state page,
        (machine showDouble package).run events = some state ∧
          page ∈ state.pages ∧ page.process.memory.movies = movies) ↔
      ∀ movie ∈ movies, ∃ genres, movie.genres.toList = .ok genres := by
  constructor
  · intro reachable
    obtain ⟨events, state, page, reached, mounted, equality⟩ := reachable
    subst equality
    intro movie held
    exact readable_of_mounted reached mounted held
  · intro readable
    obtain ⟨state, reached, mounted⟩ := run_mountAnswer showDouble package
      (.ok (encodeMovies movies)) sampleTrace
    exact ⟨_, state, _, reached, mounted, movies_of_encodeMovies readable⟩

/-- In every run, whatever the answers were, an item of a page is replaced by
an error exactly in debug mode when its movie has no image or no original
title. -/
theorem page_item_eq_error_iff
    (reached : (machine showDouble package).run events = some state)
    (mounted : page ∈ state.pages) (debug : Bool) {index : Nat}
    {failure : BuildError} :
    (page.process.memory.screen debug showDouble)[index]? =
        some (.error failure) ↔
      ∃ movie, page.process.memory.movies[index]? = some movie ∧
        debug = true ∧
        (movie.imageURL = none ∨ movie.originalTitle = none) ∧
        failure = .assertionError := by
  rw [DSHomeContentState.screen_eq_map, List.getElem?_map,
    Option.map_eq_some_iff]
  apply exists_congr
  intro movie
  apply and_congr_right
  intro present
  obtain ⟨genres, readable⟩ :=
    readable_of_mounted reached mounted (List.mem_of_getElem? present)
  rw [DSHomeMovieItem.inflate_build_eq_error_iff,
    DSHomeMovieItem.build_eq_error_iff readable]

/-- The movies of the sample, the second one without its image. -/
def imageless : List MovieItem :=
  sampleResponse.records.map fun record =>
    { record.toMovie with
      imageURL := if record.rank = 2 then none else some record.medium }

theorem page_item_eq_error_iff_imageless :
    let page := (Page.fresh 0).resume showSample sampleTrace
      (.ok (encodeMovies imageless))
    (page.process.memory.screen true showSample)[1]? =
      some (.error .assertionError) := by
  obtain ⟨state, reached, mounted⟩ := run_mountAnswer showSample
    (DioPackage.listOnly Nat) (.ok (encodeMovies imageless)) sampleTrace
  have readable : ∀ movie ∈ imageless, ∃ genres,
      movie.genres.toList = .ok genres := by
    intro movie member
    obtain ⟨record, _, equality⟩ := List.mem_map.mp member
    subst equality
    exact ⟨_, CastList.toList_strings record.genres⟩
  apply (page_item_eq_error_iff reached mounted true).mpr
  rw [movies_of_encodeMovies readable]
  exact ⟨_, rfl, rfl, .inl rfl, rfl⟩

end Application

end Douban
