import Douban.Model.MovieResponse

/-!
# Fidelity of the movie list

On a well-formed response the decoder either returns one faithful movie for
each element, in order, or discards the whole list.  Which of the two happens
is decided by the ratings alone: the cast `as double` refuses a rating that
decodes to an `int`, as `9` does.
-/

namespace Douban

open Dart

theorem SubjectRecord.rating?_of_isDouble {record : SubjectRecord}
    (double : record.average.isDouble = true) :
    ∃ rating, record.rating? = some rating ∧
      record.average = .double rating := by
  cases number : record.average with
  | int value => simp [number, DartNum.isDouble] at double
  | double value => exact ⟨value, by simp [rating?, number], rfl⟩

theorem SubjectRecord.toMovie_faithful {record : SubjectRecord}
    (double : record.average.isDouble = true) :
    Faithful record record.toMovie := by
  obtain ⟨rating, converted, same⟩ := rating?_of_isDouble double
  constructor
  · rfl
  · rfl
  · rfl
  · rfl
  · exact ⟨rating, converted, .inl same⟩
  · exact CastList.toList_strings record.genres
  · simp [toMovie]
  · rfl
  · rfl

theorem SubjectRecord.map_toMovie_faithful {records : List SubjectRecord}
    (doubles : ∀ record ∈ records, record.average.isDouble = true) :
    List.Forall₂ Faithful records (records.map toMovie) := by
  apply List.forall₂_map_right_iff.mpr
  apply List.forall₂_same.mpr
  intro record member
  apply toMovie_faithful
  exact doubles record member

namespace HomeRequest

/-- The loop over the elements of `subjects`: all of them, or the error of the
first cast that fails. -/
theorem mapM_movieOfSubject {items : List JsonValue}
    {records : List SubjectRecord}
    (presented : List.Forall₂ IsElement items records) :
    items.mapM movieOfSubject =
      if records.all fun record => record.average.isDouble then
        .ok (records.map SubjectRecord.toMovie)
      else .error .castError := by
  induction presented with
  | nil => rfl
  | @cons item record items records element rest induction =>
      rw [List.mapM_cons, movieOfSubject_of_isElement element, induction]
      cases double : record.average.isDouble with
      | false => simp [double]
      | true =>
          by_cases others :
              (records.all fun record => record.average.isDouble) = true
          · simp [double, others]
          · simp [double, others]

theorem moviesOfResult_of_isResponse {result : JsonValue}
    {records : List SubjectRecord} (presented : IsResponse result records) :
    moviesOfResult result =
      if records.all fun record => record.average.isDouble then
        .ok (records.map SubjectRecord.toMovie)
      else .error .castError := by
  cases presented with
  | mk found elements =>
      simp [moviesOfResult_eq_traversal, found,
        mapM_movieOfSubject elements]

theorem moviesOfResult_eq_ok_iff {result : JsonValue}
    {movies : List MovieItem} :
    moviesOfResult result = .ok movies ↔
      ∃ entries items, result = .map entries ∧
        lookup entries "subjects" = .list items ∧
        List.Forall₂ (fun item movie => movieOfSubject item = .ok movie)
          items movies := by
  rw [moviesOfResult_eq_traversal]
  constructor
  · intro decoded
    cases result with
    | map entries =>
        rw [JsonValue.getKey_map, Library.ok_bind] at decoded
        cases found : lookup entries "subjects" with
        | list items =>
            simp only [found, JsonValue.asList_list, nonNull_some,
              Library.ok_bind] at decoded
            exact ⟨entries, items, rfl, found,
              Library.mapM_eq_ok_iff.mp decoded⟩
        | _ =>
            simp [found, JsonValue.asList, nonNull] at decoded
    | _ => simp [JsonValue.getKey] at decoded
  · intro decoded
    obtain ⟨entries, items, equality, found, related⟩ := decoded
    subst equality
    simp [found, Library.mapM_eq_ok_iff.mpr related]

/-- One element that does not decode loses the whole list, and the first such
element decides the error. -/
theorem moviesOfResult_eq_error_iff
    {entries : List (DartString × JsonValue)} {items : List JsonValue}
    (found : lookup entries "subjects" = .list items)
    {failure : DartError} :
    moviesOfResult (.map entries) = .error failure ↔
      ∃ before item after movies, items = before ++ item :: after ∧
        before.mapM movieOfSubject = .ok movies ∧
        movieOfSubject item = .error failure := by
  rw [moviesOfResult_eq_traversal, JsonValue.getKey_map, Library.ok_bind,
    found]
  simp only [JsonValue.asList_list, Library.ok_bind, nonNull_some]
  exact Library.mapM_eq_error_iff

/-- The movie list loads, faithfully, exactly when every rating of the response
decodes to a `double`. -/
theorem requestMovieList_faithful_iff (response : WellFormedResponse)
    (request : DartString → Except DartError JsonValue) (start count : Int)
    (answered : request (movieUrl start count) = .ok response.json) :
    (∃ movies, requestMovieList request start count = .ok movies ∧
        List.Forall₂ Faithful response.records movies) ↔
      ∀ record ∈ response.records, record.average.isDouble = true := by
  have decoded := moviesOfResult_of_isResponse response.presents
  simp only [requestMovieList, answered, Library.ok_bind, decoded,
    List.all_eq_true]
  constructor
  · intro loaded
    obtain ⟨movies, returned, _⟩ := loaded
    by_contra integral
    rw [if_neg integral] at returned
    cases returned
  · intro doubles
    exact ⟨response.records.map SubjectRecord.toMovie, if_pos doubles,
      SubjectRecord.map_toMovie_faithful doubles⟩

/-- An element of `subjects`; its rank, its title and its rating are left
open. -/
def movieElement (rank : Int) (title : DartString) (average : DartNum) :
    JsonValue :=
  .map [
    ("rank", .num (.int rank)),
    ("subject", .map [
      ("images", .map [("medium", .string "p1.webp")]),
      ("title", .string title),
      ("year", .string "2002"),
      ("rating", .map [("average", .num average)]),
      ("genres", .list [.string "drama", .string "action"]),
      ("casts", .list [.map [("name", .string "lead"),
        ("avatars", .null)]]),
      ("directors", .list [.map [("name", .string "maker"),
        ("avatars", .map [("medium", .string "p2.webp")])]]),
      ("original_title", .string "first title")])]

def movieRecord (rank : Int) (title : DartString) (average : DartNum) :
    SubjectRecord :=
  { rank
    title
    year := "2002"
    originalTitle := "first title"
    medium := "p1.webp"
    average
    genres := [units "drama", units "action"]
    casts := [⟨units "lead", none⟩]
    director := ⟨units "maker", some (units "p2.webp")⟩
    otherDirectors := [] }

theorem movieElement_isElement (rank : Int) (title : DartString)
    (average : DartNum) :
    IsElement (movieElement rank title average)
      (movieRecord rank title average) := by
  have cast : IsPerson (.map [("name", .string "lead"), ("avatars", .null)])
      ⟨units "lead", none⟩ := .mk rfl .none
  have director : IsPerson (.map [("name", .string "maker"),
      ("avatars", .map [("medium", .string "p2.webp")])])
      ⟨units "maker", some (units "p2.webp")⟩ := .mk rfl (.some rfl)
  apply IsElement.mk rfl rfl
  exact
    { images := ⟨_, rfl, rfl⟩
      title := rfl
      year := rfl
      rating := ⟨_, rfl, rfl⟩
      genres := rfl
      casts := ⟨_, rfl, .cons cast .nil⟩
      directors := ⟨_, rfl, .cons director .nil⟩
      originalTitle := rfl }

/-- Two movies with the ratings `9.5` and `8.5`. -/
def sampleResponse : WellFormedResponse :=
  { json := .map [("subjects", .list [
      movieElement 1 "film" (.double ⟨0x4023000000000000#64⟩),
      movieElement 2 "sequel" (.double ⟨0x4021000000000000#64⟩)])]
    records := [
      movieRecord 1 "film" (.double ⟨0x4023000000000000#64⟩),
      movieRecord 2 "sequel" (.double ⟨0x4021000000000000#64⟩)]
    presents := .mk rfl
      (.cons (movieElement_isElement _ _ _)
        (.cons (movieElement_isElement _ _ _) .nil)) }

/-- The texts of these two ratings. -/
def showSample (rating : Double) : DartString :=
  if rating.bits = 0x4023000000000000#64 then units "9.5" else units "8.5"

theorem requestMovieList_faithful_iff_fraction :
    (∃ movies,
        requestMovieList (fun _ => .ok sampleResponse.json) 0 30 =
          .ok movies ∧
        List.Forall₂ Faithful sampleResponse.records movies) ↔
      ∀ record ∈ sampleResponse.records, record.average.isDouble = true :=
  requestMovieList_faithful_iff sampleResponse _ 0 30 rfl

/-- Between a movie and something that is none, the rating `9` is the first
thing that does not decode. -/
def mixedItems : List JsonValue :=
  [movieElement 1 "film" (.double ⟨0x4023000000000000#64⟩),
    movieElement 2 "sequel" (.int 9), .null]

theorem moviesOfResult_eq_error_iff_integral :
    moviesOfResult (.map [("subjects", .list mixedItems)]) =
        .error .castError ∧
      movieOfSubject .null = .error .noSuchMethodError := by
  refine ⟨?_, rfl⟩
  apply (moviesOfResult_eq_error_iff rfl).mpr
  exact ⟨[_], _, [.null], [_], rfl, rfl, rfl⟩

/-- A response with one movie, whose rating is left open. -/
def oneMovie (average : DartNum) : JsonValue :=
  .map [("subjects", .list [movieElement 1 "film" average])]

def oneRecord (average : DartNum) : SubjectRecord :=
  movieRecord 1 "film" average

theorem oneMovie_isResponse (average : DartNum) :
    IsResponse (oneMovie average) [oneRecord average] :=
  .mk rfl (.cons (movieElement_isElement _ _ _) .nil)

/-- The rating `9` decodes to an `int`: the whole list is lost. -/
theorem requestMovieList_integral_rating :
    IsResponse (oneMovie (.int 9)) [oneRecord (.int 9)] ∧
      requestMovieList (fun _ => .ok (oneMovie (.int 9))) 0 30 =
        .error .castError ∧
      ¬ ∃ movies,
        requestMovieList (fun _ => .ok (oneMovie (.int 9))) 0 30 =
            .ok movies ∧
          List.Forall₂ Faithful [oneRecord (.int 9)] movies := by
  have presented := oneMovie_isResponse (.int 9)
  have failed : requestMovieList (fun _ => .ok (oneMovie (.int 9))) 0 30 =
      .error .castError := moviesOfResult_of_isResponse presented
  refine ⟨presented, failed, ?_⟩
  intro loaded
  obtain ⟨movies, returned, _⟩ := loaded
  rw [failed] at returned
  cases returned

end HomeRequest

end Douban
