/-!
# Blanks and words

A blank is a character with the White_Space property.  Text is trimmed of blanks at both ends
and split at runs of blanks into words; no word is empty and none holds a blank.
-/

set_option autoImplicit false

namespace TextAdventure.Text

/-- The twenty-five characters with the White_Space property. -/
def isBlank (c : Char) : Bool :=
  let n := c.toNat
  (0x9 ≤ n && n ≤ 0xD) || n == 0x20 || n == 0x85 || n == 0xA0 || n == 0x1680 ||
    (0x2000 ≤ n && n ≤ 0x200A) || n == 0x2028 || n == 0x2029 || n == 0x202F ||
    n == 0x205F || n == 0x3000

/-- The list without its longest tail of elements that satisfy `p`. -/
def dropTail {α : Type} (p : α → Bool) (l : List α) : List α :=
  (l.reverse.dropWhile p).reverse

/-- The text without blanks at either end. -/
def trim (s : String) : String :=
  String.ofList (dropTail isBlank (s.toList.dropWhile isBlank))

/-- A run of characters read backwards, as a list of no run or one. -/
def closeRun : List Char → List String
  | [] => []
  | letters => [String.ofList letters.reverse]

/-- The maximal runs of characters that do not satisfy `stops`, in order, when the characters of
the first run that come before the text are `letters`, the last one first. -/
def runsAfter (stops : Char → Bool) (letters : List Char) : List Char → List String
  | [] => closeRun letters
  | c :: rest =>
      if stops c then closeRun letters ++ runsAfter stops [] rest
      else runsAfter stops (c :: letters) rest

/-- The maximal runs of characters that are not blank, in order. -/
def words (s : String) : List String :=
  runsAfter isBlank [] s.toList

/-- Whether the text holds nothing but blanks. -/
def isVoid (s : String) : Bool :=
  s.toList.all isBlank

end TextAdventure.Text
