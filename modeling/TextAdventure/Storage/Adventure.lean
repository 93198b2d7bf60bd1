import TextAdventure.Storage.GameFiles

/-!
# Adventures

An adventure is all that a data directory holds: a fresh world, the tables of words as they are
written, and texts under names.
-/

set_option autoImplicit false

namespace TextAdventure

structure Adventure where
  world : World
  helpLines : List String
  tables : List (String × List String)
  stories : List (String × List String)
  art : List (String × List String)

namespace Adventure

def textsToJson (named : List (String × List String)) : Json :=
  Json.members (named.map fun (name, lines) => (name, Json.texts lines))

/-- The files of an adventure, each with its text. -/
def files (a : Adventure) : List (String × String) :=
  a.world.files ++ [
    (vocabularyFile, (textsToJson ((Vocabulary.helpMember, a.helpLines) :: a.tables)).toText),
    (storiesFile, (textsToJson a.stories).toText),
    (artFile, (textsToJson a.art).toText)]

end Adventure

end TextAdventure
