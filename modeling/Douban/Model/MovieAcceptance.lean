import Douban.MovieListFidelity

/-!
# What the decoder accepts

The decoder accepts more than the responses that the service is meant to send:
`null` passes every cast, unknown keys are ignored, of the directors only the
first one is looked at, and the genres are not looked at.  The relations below
say for any JSON value which objects it decodes to, without reference to the
order in which the constructors read.
-/

namespace Douban

open Dart

/-- What a cast to a nullable type makes of a value of the type, or of
`null`. -/
inductive CastsTo {α : Type} (represent : α → JsonValue) :
    JsonValue → Option α → Prop where
  | null : CastsTo represent .null none
  | value (content : α) :
      CastsTo represent (represent content) (some content)

structure DecodesPerson (entries : List (DartString × JsonValue))
    (person : Person) : Prop where
  name : CastsTo .string (lookup entries "name") person.name
  avatarURL :
    (lookup entries "avatars" = .null ∧ person.avatarURL = none) ∨
      ∃ avatars, lookup entries "avatars" = .map avatars ∧
        CastsTo .string (lookup avatars "medium") person.avatarURL

def ItemDecodesPerson (item : JsonValue) (person : Person) : Prop :=
  ∃ entries, item = .map entries ∧ DecodesPerson entries person

structure DecodesSubject (subject : List (DartString × JsonValue))
    (movie : MovieItem) : Prop where
  imageURL : ∃ images, lookup subject "images" = .map images ∧
    CastsTo .string (lookup images "medium") movie.imageURL
  title : CastsTo .string (lookup subject "title") movie.title
  playDate : CastsTo .string (lookup subject "year") movie.playDate
  rating : ∃ rating, lookup subject "rating" = .map rating ∧
    CastsTo (.num ∘ .double) (lookup rating "average") movie.rating
  genres : lookup subject "genres" = .list movie.genres.source
  casts : ∃ items, lookup subject "casts" = .list items ∧
    List.Forall₂ (fun item actor => ItemDecodesPerson item actor.toPerson)
      items movie.casts
  director : ∃ first others,
    lookup subject "directors" = .list (first :: others) ∧
      ItemDecodesPerson first movie.director.toPerson
  originalTitle :
    CastsTo .string (lookup subject "original_title") movie.originalTitle

def DecodesMovie (item : JsonValue) (movie : MovieItem) : Prop :=
  ∃ element subject, item = .map element ∧
    lookup element "subject" = .map subject ∧
    CastsTo (.num ∘ .int) (lookup element "rank") movie.rank ∧
    DecodesSubject subject movie

/-! ## Accesses and casts -/

section Access

variable {value : JsonValue}

theorem asString_eq_ok_iff {text : Option DartString} :
    value.asString = .ok text ↔ CastsTo .string value text := by
  constructor
  · intro accepted
    cases value with
    | null =>
        cases accepted
        exact .null
    | string content =>
        cases accepted
        exact .value content
    | _ => cases accepted
  · intro casts
    cases casts with
    | null => rfl
    | value content => rfl

theorem asInt_eq_ok_iff {number : Option Int} :
    value.asInt = .ok number ↔ CastsTo (.num ∘ .int) value number := by
  constructor
  · intro accepted
    cases value with
    | null =>
        cases accepted
        exact .null
    | num content =>
        cases content with
        | int content =>
            cases accepted
            exact .value content
        | double content => cases accepted
    | _ => cases accepted
  · intro casts
    cases casts with
    | null => rfl
    | value content => rfl

theorem asDouble_eq_ok_iff {number : Option Double} :
    value.asDouble = .ok number ↔
      CastsTo (.num ∘ .double) value number := by
  constructor
  · intro accepted
    cases value with
    | null =>
        cases accepted
        exact .null
    | num content =>
        cases content with
        | int content => cases accepted
        | double content =>
            cases accepted
            exact .value content
    | _ => cases accepted
  · intro casts
    cases casts with
    | null => rfl
    | value content => rfl

theorem getKey_eq_ok_iff {key : DartString} {found : JsonValue} :
    value.getKey key = .ok found ↔
      ∃ entries, value = .map entries ∧ lookup entries key = found := by
  cases value <;> simp [JsonValue.getKey]

theorem castStrings_eq_ok_iff {view : CastList} :
    value.castStrings = .ok view ↔ value = .list view.source := by
  cases value with
  | list items =>
      rw [JsonValue.castStrings_list, Except.ok.injEq,
        JsonValue.list.injEq]
      constructor
      · intro same
        rw [← same]
      · intro same
        rw [same]
  | _ => simp [JsonValue.castStrings]

/-- `null` passes the cast to a list, but has no members. -/
theorem nonNull_asList_eq_ok_iff {items : List JsonValue} :
    (value.asList >>= nonNull) = .ok items ↔ value = .list items := by
  cases value <;> simp [JsonValue.asList, nonNull]

theorem asMap_bind_eq_ok_iff {α : Type} {result : α}
    {next : JsonMap → Except DartError α}
    (reads : ∃ failure, next none = .error failure) :
    (value.asMap >>= next) = .ok result ↔
      ∃ entries, value = .map entries ∧ next (some entries) = .ok result := by
  obtain ⟨failure, fails⟩ := reads
  cases value <;> simp [JsonValue.asMap, fails]

end Access

/-! ## The constructors -/

theorem Person.fromMap_eq_ok_iff
    {entries : List (DartString × JsonValue)} {person : Person} :
    Person.fromMap (some entries) = .ok person ↔
      DecodesPerson entries person := by
  simp only [Person.fromMap, JsonMap.get_some, Library.ok_bind,
    Library.bind_eq_ok_iff, asString_eq_ok_iff, Library.pure_eq_ok]
  constructor
  · intro decoded
    obtain ⟨name, nameCasts, rest⟩ := decoded
    by_cases absent : (lookup entries "avatars").isNull = true
    · rw [if_pos absent] at rest
      cases rest
      refine ⟨nameCasts, .inl ⟨?_, rfl⟩⟩
      cases found : lookup entries "avatars" with
      | null => rfl
      | _ =>
          rw [found] at absent
          cases absent
    · rw [if_neg absent] at rest
      simp only [Library.bind_eq_ok_iff, getKey_eq_ok_iff,
        asString_eq_ok_iff] at rest
      obtain ⟨medium, ⟨avatars, found, isMedium⟩, avatarURL, avatarCasts,
        equality⟩ := rest
      cases equality
      subst isMedium
      exact ⟨nameCasts, .inr ⟨avatars, found, avatarCasts⟩⟩
  · intro decodes
    refine ⟨person.name, decodes.name, ?_⟩
    rcases decodes.avatarURL with ⟨absent, none⟩ | ⟨avatars, found, casts⟩
    · rw [absent, JsonValue.isNull_null, if_pos rfl, ← none]
    · have read := asString_eq_ok_iff.mpr casts
      simp [found, read]

theorem wrapped_eq_ok_iff {α : Type} {wrap : Person → α}
    {unwrap : α → Person} (unwraps : ∀ person, unwrap (wrap person) = person)
    (wraps : ∀ value, wrap (unwrap value) = value)
    {entries : List (DartString × JsonValue)} {value : α} :
    (do return wrap (← Person.fromMap (some entries))) = .ok value ↔
      DecodesPerson entries (unwrap value) := by
  simp only [Library.bind_eq_ok_iff, Person.fromMap_eq_ok_iff,
    Library.pure_eq_ok, Except.ok.injEq]
  constructor
  · intro decoded
    obtain ⟨person, decodes, wrapped⟩ := decoded
    rw [← wrapped, unwraps]
    exact decodes
  · intro decodes
    exact ⟨_, decodes, wraps value⟩

theorem Director.fromMap_eq_ok_iff
    {entries : List (DartString × JsonValue)} {director : Director} :
    Director.fromMap (some entries) = .ok director ↔
      DecodesPerson entries director.toPerson :=
  wrapped_eq_ok_iff (fun _ => rfl) fun _ => rfl

theorem Actor.fromMap_eq_ok_iff
    {entries : List (DartString × JsonValue)} {actor : Actor} :
    Actor.fromMap (some entries) = .ok actor ↔
      DecodesPerson entries actor.toPerson :=
  wrapped_eq_ok_iff (fun _ => rfl) fun _ => rfl

theorem actorOfItem_eq_ok_iff {item : JsonValue} {actor : Actor} :
    (do Actor.fromMap (← item.asMap)) = .ok actor ↔
      ItemDecodesPerson item actor.toPerson := by
  rw [asMap_bind_eq_ok_iff ⟨_, rfl⟩]
  simp only [Actor.fromMap_eq_ok_iff]
  rfl

/-- The first element of a list of directors.  A string has a first code unit
and a map answers `null`, but neither leads to a director. -/
theorem directorOf_eq_ok_iff {directors : JsonValue} {director : Director} :
    (do Director.fromMap (← (← directors.getIndex 0).asMap)) =
        .ok director ↔
      ∃ first others, directors = .list (first :: others) ∧
        ItemDecodesPerson first director.toPerson := by
  cases directors with
  | list items =>
      cases items with
      | nil => simp [elementAt]
      | cons first others =>
          have decodes : (do Director.fromMap (← first.asMap)) =
              .ok director ↔ ItemDecodesPerson first director.toPerson := by
            rw [asMap_bind_eq_ok_iff ⟨_, rfl⟩]
            simp only [Director.fromMap_eq_ok_iff]
            rfl
          simpa [elementAt] using decodes
  | string text =>
      cases text with
      | nil => simp [JsonValue.getIndex, elementAt]
      | cons head tail =>
          simp [JsonValue.getIndex, elementAt, JsonValue.asMap]
  | map entries =>
      simp [JsonValue.getIndex, JsonValue.asMap, Director.fromMap,
        Person.fromMap, JsonMap.get]
  | _ => simp [JsonValue.getIndex]

theorem actorsOf_eq_ok_iff {items : List JsonValue} {actors : List Actor} :
    (items.mapM fun item => do Actor.fromMap (← item.asMap)) = .ok actors ↔
      List.Forall₂
        (fun item actor => ItemDecodesPerson item actor.toPerson)
        items actors := by
  rw [Library.mapM_eq_ok_iff]
  simp only [actorOfItem_eq_ok_iff]

theorem decodesMovie_of_fromMap
    {element : List (DartString × JsonValue)} {movie : MovieItem}
    (decoded : MovieItem.fromMap (some element) = .ok movie) :
    DecodesMovie (.map element) movie := by
  simp only [MovieItem.fromMap, JsonMap.get_some, Library.ok_bind,
    Library.bind_eq_ok_iff, asInt_eq_ok_iff] at decoded
  obtain ⟨rank, rankCasts, json, isMap, decoded⟩ := decoded
  cases found : lookup element "subject" with
  | map subject =>
      rw [found] at isMap
      cases isMap
      simp only [JsonMap.get_some, Except.ok.injEq, exists_eq_left',
        getKey_eq_ok_iff, asString_eq_ok_iff, asDouble_eq_ok_iff,
        castStrings_eq_ok_iff, actorsOf_eq_ok_iff, Library.pure_eq_ok]
        at decoded
      obtain ⟨medium, ⟨images, imagesFound, isMedium⟩, imageURL, imageCasts,
        title, titleCasts, playDate, playDateCasts,
        average, ⟨ratings, ratingsFound, isAverage⟩, rating, ratingCasts,
        genres, genresFound, nullable, isList, castItems, items,
        casts, actors, first, isFirst, entries, isEntries, director, directs,
        originalTitle, originalTitleCasts, equality⟩ := decoded
      cases equality
      subst isMedium
      subst isAverage
      have castsFound : lookup subject "casts" = .list castItems :=
        nonNull_asList_eq_ok_iff.mp
          (Library.bind_eq_ok_iff.mpr ⟨nullable, isList, items⟩)
      refine ⟨element, subject, rfl, found, rankCasts, ?_⟩
      exact
        { imageURL := ⟨images, imagesFound, imageCasts⟩
          title := titleCasts
          playDate := playDateCasts
          rating := ⟨ratings, ratingsFound, ratingCasts⟩
          genres := genresFound
          casts := ⟨castItems, castsFound, actors⟩
          director := directorOf_eq_ok_iff.mp
            (Library.bind_eq_ok_iff.mpr ⟨first, isFirst,
              Library.bind_eq_ok_iff.mpr ⟨entries, isEntries, directs⟩⟩)
          originalTitle := originalTitleCasts }
  | null =>
      rw [found] at isMap
      cases isMap
      simp [JsonMap.get] at decoded
  | _ =>
      rw [found] at isMap
      cases isMap

theorem fromMap_of_decodesSubject
    {element subject : List (DartString × JsonValue)} {movie : MovieItem}
    (found : lookup element "subject" = .map subject)
    (rank : CastsTo (.num ∘ .int) (lookup element "rank") movie.rank)
    (decodes : DecodesSubject subject movie) :
    MovieItem.fromMap (some element) = .ok movie := by
  obtain ⟨images, imagesFound, imageCasts⟩ := decodes.imageURL
  obtain ⟨ratings, ratingsFound, ratingCasts⟩ := decodes.rating
  obtain ⟨items, castsFound, actors⟩ := decodes.casts
  have rankRead := asInt_eq_ok_iff.mpr rank
  have imageRead := asString_eq_ok_iff.mpr imageCasts
  have titleRead := asString_eq_ok_iff.mpr decodes.title
  have playDateRead := asString_eq_ok_iff.mpr decodes.playDate
  have ratingRead := asDouble_eq_ok_iff.mpr ratingCasts
  have actorsRead := actorsOf_eq_ok_iff.mpr actors
  have originalTitleRead := asString_eq_ok_iff.mpr decodes.originalTitle
  have directorRead := directorOf_eq_ok_iff.mpr decodes.director
  simp only [Library.bind_eq_ok_iff] at directorRead
  obtain ⟨first, isFirst, entries, isEntries, directs⟩ := directorRead
  simp only [MovieItem.fromMap, JsonMap.get_some, JsonValue.asMap_map,
    JsonValue.getKey_map, JsonValue.castStrings_list,
    JsonValue.asList_list, nonNull_some, Library.ok_bind, found,
    imagesFound, ratingsFound, castsFound, decodes.genres, rankRead,
    imageRead, titleRead, playDateRead, ratingRead, actorsRead, isFirst,
    isEntries, directs, originalTitleRead]
  rfl

theorem movieOfSubject_eq_ok_iff {item : JsonValue} {movie : MovieItem} :
    HomeRequest.movieOfSubject item = .ok movie ↔
      DecodesMovie item movie := by
  rw [HomeRequest.movieOfSubject, asMap_bind_eq_ok_iff ⟨_, rfl⟩]
  constructor
  · intro decoded
    obtain ⟨element, equality, decoded⟩ := decoded
    subst equality
    exact decodesMovie_of_fromMap decoded
  · intro decodes
    obtain ⟨element, subject, equality, found, rank, decodes⟩ := decodes
    exact ⟨element, equality,
      fromMap_of_decodesSubject found rank decodes⟩

namespace HomeRequest

/-- For any JSON value the decoder returns a list of movies exactly when the
value is an object with a list of `subjects` each of which decodes to the movie
in its place. -/
theorem moviesOfResult_eq_ok_iff_decodes {result : JsonValue}
    {movies : List MovieItem} :
    moviesOfResult result = .ok movies ↔
      ∃ entries items, result = .map entries ∧
        lookup entries "subjects" = .list items ∧
        List.Forall₂ DecodesMovie items movies := by
  rw [moviesOfResult_eq_ok_iff]
  simp only [movieOfSubject_eq_ok_iff]

end HomeRequest

/-! ## Every movie is decoded from something -/

def encode {α : Type} (represent : α → JsonValue) :
    Option α → JsonValue
  | none => .null
  | some content => represent content

theorem castsTo_encode {α : Type} (represent : α → JsonValue)
    (content : Option α) :
    CastsTo represent (encode represent content) content := by
  cases content with
  | none => exact .null
  | some content => exact .value content

def encodeAvatars : Option DartString → JsonValue
  | none => .null
  | some url => .map [("medium", .string url)]

def encodePerson (person : Person) : JsonValue :=
  .map [("name", encode .string person.name),
    ("avatars", encodeAvatars person.avatarURL)]

/-- An element of `subjects` that decodes to a movie. -/
def encodeMovie (movie : MovieItem) : JsonValue :=
  .map [("rank", encode (.num ∘ .int) movie.rank),
    ("subject", .map [
      ("images", .map [("medium", encode .string movie.imageURL)]),
      ("title", encode .string movie.title),
      ("year", encode .string movie.playDate),
      ("rating", .map [("average", encode (.num ∘ .double) movie.rating)]),
      ("genres", .list movie.genres.source),
      ("casts", .list (movie.casts.map fun actor =>
        encodePerson actor.toPerson)),
      ("directors", .list [encodePerson movie.director.toPerson]),
      ("original_title", encode .string movie.originalTitle)])]

def encodeMovies (movies : List MovieItem) : JsonValue :=
  .map [("subjects", .list (movies.map encodeMovie))]

theorem itemDecodesPerson_encodePerson (person : Person) :
    ItemDecodesPerson (encodePerson person) person := by
  rcases person with ⟨name, avatarURL⟩
  refine ⟨_, rfl, castsTo_encode .string name, ?_⟩
  cases avatarURL with
  | none => exact .inl ⟨rfl, rfl⟩
  | some url => exact .inr ⟨_, rfl, .value url⟩

theorem decodesMovie_encodeMovie (movie : MovieItem) :
    DecodesMovie (encodeMovie movie) movie := by
  refine ⟨_, _, rfl, rfl, castsTo_encode _ movie.rank, ?_⟩
  have actors : List.Forall₂
      (fun item actor => ItemDecodesPerson item actor.toPerson)
      (movie.casts.map fun actor => encodePerson actor.toPerson)
      movie.casts := by
    apply List.forall₂_map_left_iff.mpr
    apply List.forall₂_same.mpr
    intro actor _
    exact itemDecodesPerson_encodePerson actor.toPerson
  exact
    { imageURL := ⟨_, rfl, castsTo_encode .string movie.imageURL⟩
      title := castsTo_encode .string movie.title
      playDate := castsTo_encode .string movie.playDate
      rating := ⟨_, rfl, castsTo_encode _ movie.rating⟩
      genres := rfl
      casts := ⟨_, rfl, actors⟩
      director := ⟨_, _, rfl,
        itemDecodesPerson_encodePerson movie.director.toPerson⟩
      originalTitle := castsTo_encode .string movie.originalTitle }

theorem HomeRequest.moviesOfResult_encodeMovies (movies : List MovieItem) :
    moviesOfResult (encodeMovies movies) = .ok movies := by
  apply moviesOfResult_eq_ok_iff.mpr
  refine ⟨_, _, rfl, rfl, ?_⟩
  apply List.forall₂_map_left_iff.mpr
  apply List.forall₂_same.mpr
  intro movie _
  exact movieOfSubject_eq_ok_iff.mpr (decodesMovie_encodeMovie movie)

end Douban
