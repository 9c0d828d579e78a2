import Douban.MovieListFidelity
import Douban.Widgets.StandardRow

/-!
# The item of a movie

`DSHomeMovieItem.build` and its parts, from top to bottom.  The star row and
the dashed line are widgets of their own: an error in one of them replaces this
widget only, whereas an error in one of the parts below replaces the item.
-/

namespace Douban

open Dart

structure DSHomeMovieItem where
  movieItem : MovieItem

namespace DSHomeMovieItem

/-- `texts.join(" ")`, with `null` elements written out. -/
def joinBlank (texts : List (Option DartString)) : DartString :=
  (units " ").intercalate (texts.map (interpolate id))

section Build

variable (debug : Bool) (showDouble : Double → DartString)
  (item : DSHomeMovieItem)

def buildHeader : Widget :=
  .text (some ("No." ++ interpolate showInt item.movieItem.rank))

def buildContentImage : Except BuildError Widget := do
  Widget.assertNotNull debug item.movieItem.imageURL
  return .image item.movieItem.imageURL

def buildContentInfoTitle : Widget :=
  .rich [.icon .playCircleOutline (some (.ofInt 24)),
    .text item.movieItem.title,
    .text (some ("(" ++ interpolate id item.movieItem.playDate ++ ")"))]

def buildContentInfoRate : Widget :=
  .flex .horizontal
    [.inflate (DSStarRatingState.build
        (.standard item.movieItem.rating (.ofInt 20))),
      .text (some (interpolate showDouble item.movieItem.rating))]

def buildContentInfoDesc : Except BuildError Widget := do
  let genres ← BuildError.lift item.movieItem.genres.toList
  let genresString := joinBlank genres
  let directorString := item.movieItem.director.name
  let actorString := joinBlank (item.movieItem.casts.map fun item => item.name)
  return .text (some (genresString ++ " / " ++
    interpolate id directorString ++ " / " ++ actorString))

def buildContentInfo : Except BuildError Widget := do
  let title := buildContentInfoTitle item
  let rate := buildContentInfoRate showDouble item
  let desc ← buildContentInfoDesc item
  return .flex .vertical [title, rate, desc]

def buildContentLine : Widget :=
  .inflate (DSDashedLine.build
    { axis := .vertical
      dashedWidth := (Double.ofInt 4).div (.ofInt 10)
      dashedHeight := .ofInt 6
      count := 10 })

def buildContentWish : Widget :=
  .flex .vertical [.icon .turnedInNot none, .text (some "想看")]

def buildContent : Except BuildError Widget := do
  let image ← buildContentImage debug item
  let info ← buildContentInfo showDouble item
  return .flex .horizontal
    [image, .flex .horizontal [info, buildContentLine, buildContentWish]]

def buildFooter : Except BuildError Widget := do
  Widget.assertNotNull debug item.movieItem.originalTitle
  return .text item.movieItem.originalTitle

def build : Except BuildError Widget := do
  let header := buildHeader item
  let content ← buildContent debug showDouble item
  let footer ← buildFooter debug item
  return .flex .vertical [header, content, footer]

end Build

/-! ## When an item is built -/

theorem buildContentInfo_of_readable {movie : MovieItem}
    {genres : List (Option DartString)}
    (readable : movie.genres.toList = .ok genres)
    (showDouble : Double → DartString) :
    ∃ info, buildContentInfo showDouble { movieItem := movie } =
      .ok info := by
  rw [buildContentInfo, buildContentInfoDesc, readable]
  exact ⟨_, rfl⟩

/-- Once the genres can be read, the assertions of the framework are all that
can fail: a missing image or original title, in debug mode. -/
theorem build_eq_error_iff {debug : Bool}
    {showDouble : Double → DartString} {movie : MovieItem}
    {genres : List (Option DartString)}
    (readable : movie.genres.toList = .ok genres) {failure : BuildError} :
    build debug showDouble { movieItem := movie } = .error failure ↔
      debug = true ∧ (movie.imageURL = none ∨ movie.originalTitle = none) ∧
        failure = .assertionError := by
  obtain ⟨info, built⟩ := buildContentInfo_of_readable readable showDouble
  simp only [build, buildContent, buildContentImage, buildFooter, built,
    Library.ok_bind, bind_assoc]
  -- The image comes first; the original title is looked at after it.
  cases debug with
  | false =>
      simp only [Widget.assertNotNull_false, Library.ok_bind,
        Library.pure_eq_ok, reduceCtorEq, Bool.false_eq_true, false_and]
  | true =>
      cases movie.imageURL with
      | none =>
          simp only [Widget.assertNotNull_none, Library.error_bind,
            Except.error.injEq, true_or, true_and]
          exact eq_comm
      | some url =>
          cases movie.originalTitle with
          | none =>
              simp only [Widget.assertNotNull_some, Widget.assertNotNull_none,
                Library.ok_bind, Library.error_bind, Library.pure_eq_ok,
                Except.error.injEq, or_true, true_and]
              exact eq_comm
          | some title =>
              simp only [Widget.assertNotNull_some, Library.ok_bind,
                Library.pure_eq_ok, reduceCtorEq, or_self, false_and,
                and_false]

/-! ## What an item shows -/

/-- The star row of an item. -/
def starRow (rating : Option Double) : Widget :=
  .inflate (DSStarRatingState.build (.standard rating (.ofInt 20)))

section Row

variable {α : Type} {found : Widget → List α}

theorem collect_line (boxes : ∀ width height, found (.box width height) = []) :
    Widget.collect found buildContentLine = [] := by
  simp [buildContentLine, DSDashedLine.build, generate, Widget.inflate,
    Widget.collect, Widget.collectAll, boxes]

variable {rating : Double}

theorem collect_starRow_of_finite {value : Rat}
    (finite : rating.toRat? = some value) :
    Widget.collect found (starRow (some rating)) =
      (List.replicate 5
          (found (.icon .starBorder (some (.ofInt 20))))).flatten ++
        (List.replicate ((DSStarRatingState.fullStars
              (Double.binary64.nearest (value / 2))).toNat + 1)
          (found (.icon .star (some (.ofInt 20))))).flatten := by
  obtain ⟨width, built⟩ :=
    DSStarRatingState.build_standard_of_finite finite (.ofInt 20)
  have last : ∀ count (icons : List α),
      (List.replicate count icons).flatten ++ icons =
        (List.replicate (count + 1) icons).flatten := by
    intro count icons
    simp [List.replicate_succ']
  simp [starRow, built, Widget.inflate, Widget.collect, Widget.collectAll,
    Widget.collectAll_replicate]
  exact last _ _

theorem collect_starRow_of_special (special : rating.toRat? = none) :
    Widget.collect found (starRow (some rating)) =
      found (.error .unsupportedError) := by
  rw [starRow, DSStarRatingState.build_standard_of_special special]
  rfl

theorem collect_starRow_eq_nil
    (icons : ∀ name size, found (.icon name size) = [])
    (errors : ∀ raised, found (.error raised) = []) (rating : Double) :
    Widget.collect found (starRow (some rating)) = [] := by
  cases finite : rating.toRat? with
  | some value =>
      rw [collect_starRow_of_finite finite]
      simp [icons]
  | none => rw [collect_starRow_of_special finite, errors]

end Row

end DSHomeMovieItem

/-- The texts that an item should show, given the text of the rating. -/
def SubjectRecord.shownTexts (record : SubjectRecord)
    (rating : DartString) : List DartString :=
  ["No." ++ showInt record.rank, record.title, "(" ++ record.year ++ ")",
    rating,
    (units " ").intercalate record.genres ++ " / " ++ record.director.name ++
      " / " ++ (units " ").intercalate (record.casts.map PersonRecord.name),
    "想看", record.originalTitle]

/-- A widget shows the data of a record: every text in its place, the image,
and one star more than the rating is worth in full.  Only for a rating that is
not a finite number an error stands in the place of the stars. -/
structure SubjectRecord.ShownBy (record : SubjectRecord)
    (showDouble : Double → DartString) (widget : Widget) : Prop where
  texts : ∃ rating : Double, rating.NumericallyEquals record.average ∧
    widget.texts = record.shownTexts (showDouble rating)
  images : widget.images = [record.medium]
  failures : widget.failures = [] ↔
    ∃ value, record.average.toRat? = some value
  stars : ∀ value, record.average.toRat? = some value → 0 ≤ value →
    value ≤ 2 ^ 62 → widget.icons.count .star = ⌊value / 2⌋.toNat + 1

namespace DSHomeMovieItem

variable {record : SubjectRecord} {movie : MovieItem}

theorem joinBlank_some (texts : List DartString) :
    joinBlank (texts.map some) = (units " ").intercalate texts := by
  have same : (interpolate id : Option DartString → DartString) ∘ some =
      id := rfl
  rw [joinBlank, List.map_map, same, List.map_id]

theorem names_of_faithful (faithful : Faithful record movie) :
    (movie.casts.map fun item => item.name) =
      (record.casts.map PersonRecord.name).map some := by
  have names := congrArg (List.map Person.name) faithful.casts
  rw [List.map_map, List.map_map] at names
  rw [List.map_map]
  exact names

theorem directorName_of_faithful (faithful : Faithful record movie) :
    movie.director.name = some record.director.name :=
  congrArg Person.name faithful.director

theorem build_eq_of_faithful (faithful : Faithful record movie)
    (debug : Bool) (showDouble : Double → DartString) {rating : Double}
    (given : movie.rating = some rating) :
    build debug showDouble { movieItem := movie } = .ok
      (.flex .vertical
        [.text (some ("No." ++ showInt record.rank)),
          .flex .horizontal
            [.image (some record.medium),
              .flex .horizontal
                [.flex .vertical
                    [.rich
                        [.icon .playCircleOutline (some (.ofInt 24)),
                          .text (some record.title),
                          .text (some ("(" ++ record.year ++ ")"))],
                      .flex .horizontal
                        [starRow (some rating),
                          .text (some (showDouble rating))],
                      .text (some
                        ((units " ").intercalate record.genres ++ " / " ++
                          record.director.name ++ " / " ++
                          (units " ").intercalate
                            (record.casts.map PersonRecord.name)))],
                  buildContentLine, buildContentWish]],
          .text (some record.originalTitle)]) := by
  have genres := faithful.genres
  have names := names_of_faithful faithful
  have director := directorName_of_faithful faithful
  simp only [build, buildHeader, buildContent, buildContentImage,
    buildContentInfo, buildContentInfoTitle, buildContentInfoRate,
    buildContentInfoDesc, buildFooter, faithful.rank, faithful.imageURL,
    faithful.title, faithful.playDate, faithful.originalTitle, given, genres,
    names, director, joinBlank_some, BuildError.lift_ok,
    Widget.assertNotNull_some, Library.ok_bind, Library.pure_eq_ok,
    interpolate, id]
  rfl

theorem toRat?_of_numericallyEquals {rating : Double} {average : DartNum}
    (equal : rating.NumericallyEquals average) :
    rating.toRat? = average.toRat? := by
  rcases equal with same | ⟨value, isRating, isAverage⟩
  · subst same
    rfl
  · rw [isRating, isAverage]

/-- A movie that carries the data of a record is built into an item that shows
them, in debug mode as well. -/
theorem build_of_faithful (faithful : Faithful record movie)
    (debug : Bool) (showDouble : Double → DartString) :
    ∃ widget, build debug showDouble { movieItem := movie } = .ok widget ∧
      record.ShownBy showDouble widget := by
  obtain ⟨rating, given, equal⟩ := faithful.rating
  have number := toRat?_of_numericallyEquals equal
  have quiet : ∀ {α : Type} (found : Widget → List α),
      (∀ name size, found (.icon name size) = []) →
      (∀ raised, found (.error raised) = []) →
      Widget.collect found (starRow (some rating)) = [] :=
    fun _ icons errors => collect_starRow_eq_nil icons errors rating
  refine ⟨_, build_eq_of_faithful faithful debug showDouble given, ?_⟩
  constructor
  · refine ⟨rating, equal, ?_⟩
    have row := quiet Widget.leafTexts (fun _ _ => rfl) (fun _ => rfl)
    have line : Widget.collect Widget.leafTexts buildContentLine = [] :=
      collect_line fun _ _ => rfl
    simp [Widget.texts, Widget.collect, Widget.collectAll, Widget.leafTexts,
      row, line, buildContentWish, SubjectRecord.shownTexts]
  · have row := quiet Widget.leafImages (fun _ _ => rfl) (fun _ => rfl)
    have line : Widget.collect Widget.leafImages buildContentLine = [] :=
      collect_line fun _ _ => rfl
    simp [Widget.images, Widget.collect, Widget.collectAll, Widget.leafImages,
      row, line, buildContentWish]
  · have line : Widget.collect Widget.leafErrors buildContentLine = [] :=
      collect_line fun _ _ => rfl
    simp only [Widget.failures, Widget.collect, Widget.collectAll,
      Widget.leafErrors, line, buildContentWish, List.append_nil,
      List.nil_append, ← number]
    cases finite : rating.toRat? with
    | some value =>
        rw [collect_starRow_of_finite finite]
        simp [Widget.leafErrors]
    | none =>
        rw [collect_starRow_of_special finite]
        simp [Widget.leafErrors]
  · intro value isAverage nonneg inRange
    have finite : rating.toRat? = some value := by rw [number, isAverage]
    have line : Widget.collect Widget.leafIcons buildContentLine = [] :=
      collect_line fun _ _ => rfl
    have representable := Double.representable_of_toRat? finite
    have quotient : |Double.binary64.nearest (value / 2)| ≤ 2 ^ 62 := by
      apply DSStarRatingState.abs_nearest_quotient_le two_pos
      rw [abs_of_nonneg nonneg]
      linarith
    have stars : Widget.collect Widget.leafIcons (starRow (some rating)) = _ :=
      collect_starRow_of_finite finite
    rw [DSStarRatingState.fullStars_of_le quotient,
      DSStarRatingState.floor_nearest_half representable nonneg] at stars
    simp [Widget.icons, Widget.collect, Widget.collectAll, Widget.leafIcons,
      line, stars, buildContentWish]

end DSHomeMovieItem

end Douban
