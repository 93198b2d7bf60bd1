import TextAdventure.Text.CaseTable
import TextAdventure.Text.CasedTable

/-!
# Letter case

Two notions of case live side by side.  What the player types and the phrase tables are
lowered with the full case mapping, in which a capital sigma becomes a final sigma at the end
of a word.  Names are compared by ASCII letters alone, so that `É` and `é` stay different.
-/

set_option autoImplicit false

namespace TextAdventure.Text

/-- The form that the long list or else a run gives to a character, or the character itself. -/
def mapCase (long : List (Nat × List Nat)) (runs : List CaseRun) (c : Char) : List Char :=
  match long.lookup c.toNat with
  | some form => form.map Char.ofNat
  | none =>
      match runs.findSome? fun run => run.form? c.toNat with
      | some n => [Char.ofNat n]
      | none => [c]

/-- The lower form of a character by itself. -/
def lowerChar (c : Char) : List Char :=
  if c.toNat < 0x80 then [c.toLower] else mapCase longLower lowerRuns c

/-- The upper form of a character by itself. -/
def upperChar (c : Char) : List Char :=
  if c.toNat < 0x80 then [c.toUpper] else mapCase longUpper upperRuns c

def isCased (c : Char) : Bool := casedRanges.has c

def isCaseIgnorable (c : Char) : Bool := caseIgnorableRanges.has c

/-- Whether the first character that counts is one with a case. -/
def startsCased (cs : List Char) : Bool :=
  match cs.dropWhile isCaseIgnorable with
  | c :: _ => isCased c
  | [] => false

/-- The lower form of a capital sigma between `before`, read backwards, and `after`. -/
def lowerSigma (before after : List Char) : Char :=
  if startsCased before && !startsCased after then 'ς' else 'σ'

/-- The lower form of a text that follows `before`, read backwards. -/
def lowerAfter (before : List Char) : List Char → List Char
  | [] => []
  | c :: rest =>
      (if c = 'Σ' then [lowerSigma before rest] else lowerChar c) ++ lowerAfter (c :: before) rest

/-- The text in lower case. -/
def lower (s : String) : String :=
  String.ofList (lowerAfter [] s.toList)

/-- A name as it is shown: the first character in upper case, each other one in lower case by
itself. -/
def capitalize (s : String) : String :=
  match s.toList with
  | [] => ""
  | c :: rest => String.ofList (upperChar c ++ rest.flatMap lowerChar)

/-- Whether two names differ at most in the case of ASCII letters. -/
def sameName (a b : String) : Bool :=
  a.toList.map Char.toLower == b.toList.map Char.toLower

end TextAdventure.Text
