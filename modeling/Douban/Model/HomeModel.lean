import Douban.Dart.Json
import Douban.Dart.Number
import Douban.Library.Traversal

/-!
# The home page models

`Person`, `Actor`, `Director` and `MovieItem` with their `fromMap`
constructors, in the order in which the constructors read and cast the fields.
A constructor that raises produces no object.
-/

namespace Douban

open Dart

structure Person where
  name : Option DartString
  avatarURL : Option DartString
  deriving DecidableEq, Repr

structure Actor extends Person
  deriving DecidableEq, Repr

structure Director extends Person
  deriving DecidableEq, Repr

/-- One movie of the list.  Every field may hold `null` except the two lists
and the director, which come from constructor calls. -/
structure MovieItem where
  rank : Option Int
  imageURL : Option DartString
  title : Option DartString
  playDate : Option DartString
  rating : Option Double
  genres : CastList
  casts : List Actor
  director : Director
  originalTitle : Option DartString

def Person.fromMap (json : JsonMap) : Except DartError Person := do
  let name ← (← json.get "name").asString
  if (← json.get "avatars").isNull then
    return { name, avatarURL := none }
  else
    let avatarURL ← (← (← json.get "avatars").getKey "medium").asString
    return { name, avatarURL }

def Actor.fromMap (json : JsonMap) : Except DartError Actor := do
  let person ← Person.fromMap json
  return { toPerson := person }

def Director.fromMap (json : JsonMap) : Except DartError Director := do
  let person ← Person.fromMap json
  return { toPerson := person }

def MovieItem.fromMap (json : JsonMap) : Except DartError MovieItem := do
  let rank ← (← json.get "rank").asInt
  let subject ← (← json.get "subject").asMap
  let imageURL ← (← (← subject.get "images").getKey "medium").asString
  let title ← (← subject.get "title").asString
  let playDate ← (← subject.get "year").asString
  let rating ← (← (← subject.get "rating").getKey "average").asDouble
  let genres ← (← subject.get "genres").castStrings
  let castItems ← nonNull (← (← subject.get "casts").asList)
  let casts ← castItems.mapM fun item => do Actor.fromMap (← item.asMap)
  let director ← Director.fromMap
    (← (← (← subject.get "directors").getIndex 0).asMap)
  let originalTitle ← (← subject.get "original_title").asString
  return {
    rank, imageURL, title, playDate, rating, genres, casts, director,
    originalTitle }

/-! ## Text of a movie -/

/-- Interpolation of a value that may be `null`. -/
def interpolate {α : Type} (show? : α → DartString) :
    Option α → DartString
  | some value => show? value
  | none => "null"

/-- `toString` of a list whose elements have been converted already. -/
def showList (items : List DartString) : DartString :=
  "[" ++ (units ", ").intercalate items ++ "]"

/-- `MovieItem.toString`.  Converting the genres reads the view, so this is
where an element that is not a string raises.  The conversion of a double is
the core library's. -/
def MovieItem.toText (showDouble : Double → DartString)
    (item : MovieItem) : Except DartError DartString := do
  let genres ← item.genres.toList
  return "MovieItem\x7brank: " ++ interpolate showInt item.rank ++
    ", imageURL: " ++ interpolate id item.imageURL ++
    ", title: " ++ interpolate id item.title ++
    ", playDate: " ++ interpolate id item.playDate ++
    ", rating: " ++ interpolate showDouble item.rating ++
    ", genres: " ++ showList (genres.map (interpolate id)) ++
    ", casts: " ++ showList (item.casts.map fun _ => "Instance of 'Actor'") ++
    ", director: " ++ "Instance of 'Director'" ++
    ", originalTitle: " ++ interpolate id item.originalTitle ++ "\x7d"

end Douban
