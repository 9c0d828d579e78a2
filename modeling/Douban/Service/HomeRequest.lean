import Douban.Model.HomeModel

/-!
# Requesting the movie list

`requestMovieList` suspends once, at the HTTP request.  What it does with the
awaited result is `moviesOfResult`.
-/

namespace Douban

open Dart

namespace HomeRequest

def movieUrl (start count : Int) : DartString :=
  "/v2/movie/weekly?apikey=0df993c66c0c636e29ecbb5344252a4a&start=" ++
    showInt start ++ "&count=" ++ showInt count

/-- The element type test of the loop and the constructor call in it. -/
def movieOfSubject (sub : JsonValue) : Except DartError MovieItem := do
  MovieItem.fromMap (← sub.asMap)

/-- The loop `for (var sub in subjects) movies.add(...)`. -/
def moviesOfResult (result : JsonValue) :
    Except DartError (List MovieItem) := do
  let subjects ← nonNull (← (← result.getKey "subjects").asList)
  subjects.foldlM (fun movies sub => do
    let movie ← movieOfSubject sub
    return movies ++ [movie]) []

/-- `request` is what awaiting `HttpRequest.request` gives for a url. -/
def requestMovieList (request : DartString → Except DartError JsonValue)
    (start count : Int) : Except DartError (List MovieItem) := do
  let result ← request (movieUrl start count)
  moviesOfResult result

theorem moviesOfResult_eq_traversal (result : JsonValue) :
    moviesOfResult result = (do
      let subjects ← nonNull (← (← result.getKey "subjects").asList)
      subjects.mapM movieOfSubject) := by
  unfold moviesOfResult
  simp only [Library.foldlM_append_eq_mapM, List.nil_append, id_map']

/-- The url determines the range that it asks for. -/
theorem movieUrl_inj {start count start' count' : Int} :
    movieUrl start count = movieUrl start' count' ↔
      start = start' ∧ count = count' := by
  have separator : units "&count=" = unit '&' :: units "count=" := by decide
  have absent : ∀ value, unit '&' ∉ showInt value :=
    not_mem_showInt (by decide) (by decide)
  constructor
  · intro same
    simp only [movieUrl, List.append_assoc] at same
    have rest := List.append_cancel_left same
    rw [separator, List.cons_append, List.cons_append] at rest
    obtain ⟨sameStart, tail⟩ :=
      Library.append_cons_inj_of_not_mem (absent start) (absent start') rest
    exact ⟨showInt_inj.mp sameStart,
      showInt_inj.mp (List.append_cancel_left tail)⟩
  · intro same
    rw [same.1, same.2]

end HomeRequest

end Douban
