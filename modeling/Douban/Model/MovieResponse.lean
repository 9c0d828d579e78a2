import Douban.Service.HomeRequest

/-!
# Well-formed movie responses

What the service sends and what the application must make of it, stated without
reference to the decoder.  A record holds the data of one element of
`subjects`; `IsResponse` says that a decoded JSON value presents a list of
records, and `Faithful` that a movie carries the data of a record.
-/

namespace Douban

open Dart

structure PersonRecord where
  name : DartString
  avatar : Option DartString

structure SubjectRecord where
  rank : Int
  title : DartString
  year : DartString
  originalTitle : DartString
  medium : DartString
  average : DartNum
  genres : List DartString
  casts : List PersonRecord
  director : PersonRecord
  otherDirectors : List PersonRecord

/-- `avatars` is absent, null, or an object with a string `medium`. -/
inductive IsAvatars : JsonValue → Option DartString → Prop where
  | none : IsAvatars .null none
  | some {entries : List (DartString × JsonValue)} {url : DartString} :
      lookup entries "medium" = .string url →
      IsAvatars (.map entries) (some url)

inductive IsPerson : JsonValue → PersonRecord → Prop where
  | mk {entries : List (DartString × JsonValue)} {person : PersonRecord} :
      lookup entries "name" = .string person.name →
      IsAvatars (lookup entries "avatars") person.avatar →
      IsPerson (.map entries) person

structure IsSubject (entries : List (DartString × JsonValue))
    (record : SubjectRecord) : Prop where
  images : ∃ images, lookup entries "images" = .map images ∧
    lookup images "medium" = .string record.medium
  title : lookup entries "title" = .string record.title
  year : lookup entries "year" = .string record.year
  rating : ∃ rating, lookup entries "rating" = .map rating ∧
    lookup rating "average" = .num record.average
  genres : lookup entries "genres" = .list (record.genres.map .string)
  casts : ∃ items, lookup entries "casts" = .list items ∧
    List.Forall₂ IsPerson items record.casts
  directors : ∃ items, lookup entries "directors" = .list items ∧
    List.Forall₂ IsPerson items (record.director :: record.otherDirectors)
  originalTitle :
    lookup entries "original_title" = .string record.originalTitle

inductive IsElement : JsonValue → SubjectRecord → Prop where
  | mk {element subject : List (DartString × JsonValue)}
      {record : SubjectRecord} :
      lookup element "rank" = .num (.int record.rank) →
      lookup element "subject" = .map subject →
      IsSubject subject record →
      IsElement (.map element) record

inductive IsResponse : JsonValue → List SubjectRecord → Prop where
  | mk {entries : List (DartString × JsonValue)} {items : List JsonValue}
      {records : List SubjectRecord} :
      lookup entries "subjects" = .list items →
      List.Forall₂ IsElement items records →
      IsResponse (.map entries) records

/-- A response together with the records it presents. -/
structure WellFormedResponse where
  json : JsonValue
  records : List SubjectRecord
  presents : IsResponse json records

def PersonRecord.toPerson (record : PersonRecord) : Person :=
  { name := some record.name, avatarURL := record.avatar }

/-- A movie carries exactly the data of a record. -/
structure Faithful (record : SubjectRecord) (movie : MovieItem) : Prop where
  rank : movie.rank = some record.rank
  imageURL : movie.imageURL = some record.medium
  title : movie.title = some record.title
  playDate : movie.playDate = some record.year
  rating : ∃ rating, movie.rating = some rating ∧
    rating.NumericallyEquals record.average
  genres : movie.genres.toList = .ok (record.genres.map some)
  casts : movie.casts.map Actor.toPerson =
    record.casts.map PersonRecord.toPerson
  director : movie.director.toPerson = record.director.toPerson
  originalTitle : movie.originalTitle = some record.originalTitle

/-! ## What the constructors do on presented data -/

def SubjectRecord.rating? (record : SubjectRecord) : Option Double :=
  match record.average with
  | .double value => some value
  | .int _ => none

/-- The movie that the decoder builds when it gets to build one. -/
def SubjectRecord.toMovie (record : SubjectRecord) : MovieItem :=
  { rank := some record.rank
    imageURL := some record.medium
    title := some record.title
    playDate := some record.year
    rating := record.rating?
    genres := ⟨record.genres.map .string⟩
    casts := record.casts.map fun person => { toPerson := person.toPerson }
    director := { toPerson := record.director.toPerson }
    originalTitle := some record.originalTitle }

theorem personOfItem_of_isPerson {item : JsonValue} {record : PersonRecord}
    (presented : IsPerson item record) :
    (do Person.fromMap (← item.asMap)) = .ok record.toPerson := by
  rcases record with ⟨recordName, avatar⟩
  cases presented with
  | @mk entries _ name avatars =>
      generalize found : lookup entries "avatars" = value at avatars
      cases avatars with
      | none => simp [Person.fromMap, name, found, PersonRecord.toPerson]
      | some medium =>
          simp [Person.fromMap, name, found, medium, PersonRecord.toPerson]

private theorem wrapped_of_isPerson {α : Type} (wrap : Person → α)
    {item : JsonValue} {record : PersonRecord}
    (presented : IsPerson item record) :
    (do
      let json ← item.asMap
      let person ← Person.fromMap json
      return wrap person) = .ok (wrap record.toPerson) := by
  have person := personOfItem_of_isPerson presented
  cases presented with
  | mk name avatars =>
      simp only [JsonValue.asMap_map, Library.ok_bind] at person ⊢
      simp [person]

theorem actorOfItem_of_isPerson {item : JsonValue} {record : PersonRecord}
    (presented : IsPerson item record) :
    (do Actor.fromMap (← item.asMap)) =
      .ok { toPerson := record.toPerson } :=
  wrapped_of_isPerson Actor.mk presented

theorem directorOfItem_of_isPerson {item : JsonValue} {record : PersonRecord}
    (presented : IsPerson item record) :
    (do Director.fromMap (← item.asMap)) =
      .ok { toPerson := record.toPerson } :=
  wrapped_of_isPerson Director.mk presented

theorem directorOfItems_of_isPerson {items : List JsonValue}
    {first : PersonRecord} {others : List PersonRecord}
    (presented : List.Forall₂ IsPerson items (first :: others)) :
    (do Director.fromMap (← (← elementAt items 0).asMap)) =
      .ok { toPerson := first.toPerson } := by
  cases presented with
  | cons head tail =>
      simpa [elementAt] using directorOfItem_of_isPerson head

/-- A presented element decodes unless its rating is an `int`. -/
theorem movieOfSubject_of_isElement {item : JsonValue}
    {record : SubjectRecord} (presented : IsElement item record) :
    HomeRequest.movieOfSubject item =
      if record.average.isDouble then .ok record.toMovie
      else .error .castError := by
  cases presented with
  | mk rank subject shape =>
      obtain ⟨images, imagesFound, medium⟩ := shape.images
      obtain ⟨rating, ratingFound, average⟩ := shape.rating
      obtain ⟨castItems, castsFound, casts⟩ := shape.casts
      obtain ⟨directorItems, directorsFound, directors⟩ := shape.directors
      have castsDecoded :
          (castItems.mapM fun item => do Actor.fromMap (← item.asMap)) =
            .ok (record.casts.map fun person =>
              { toPerson := person.toPerson }) :=
        Library.mapM_of_forall₂
          (fun _ _ present => actorOfItem_of_isPerson present) casts
      have directorDecoded := directorOfItems_of_isPerson directors
      simp only [Library.bind_eq_ok_iff] at directorDecoded
      obtain ⟨first, firstFound, entries, isMap, director⟩ := directorDecoded
      cases number : record.average with
      | int value =>
          simp [HomeRequest.movieOfSubject, MovieItem.fromMap, rank, subject,
            imagesFound, medium, shape.title, shape.year, ratingFound,
            average, number, DartNum.isDouble]
      | double value =>
          simp [HomeRequest.movieOfSubject, MovieItem.fromMap, rank, subject,
            imagesFound, medium, shape.title, shape.year, ratingFound,
            average, number, DartNum.isDouble, shape.genres, castsFound,
            castsDecoded, directorsFound, firstFound, isMap, director,
            shape.originalTitle, SubjectRecord.toMovie,
            SubjectRecord.rating?]

end Douban
