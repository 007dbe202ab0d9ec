/-!
# Closed vocabularies

A vocabulary is a finite list of words, each with the name it has in requests, configurations and
messages.
-/

namespace GeoFacet

/-- A type whose values are listed and named. -/
class Vocabulary (α : Type) where
  all : List α
  name : α → String

/-- The word with exactly that name. -/
def Vocabulary.ofName? {α : Type} [Vocabulary α] (name : String) : Option α :=
  (Vocabulary.all : List α).find? fun a => Vocabulary.name a == name

end GeoFacet
