import TextAdventure.Dialogue

/-!
# Lines of input

Input is a sequence of bytes.  A line ends with a line feed or with the input; what it says is
told without the line feeds and carriage returns at its end, and it must be UTF-8 text.
-/

set_option autoImplicit false

namespace TextAdventure

/-- The bytes of each line, its line feed included; `held` is the line so far, the last byte
first. -/
def byteLinesFrom (held : List UInt8) : List UInt8 → List (List UInt8)
  | [] => if held.isEmpty then [] else [held.reverse]
  | b :: rest =>
      if b = 10 then (b :: held).reverse :: byteLinesFrom [] rest
      else byteLinesFrom (b :: held) rest

namespace InputLine

def ofBytes (bytes : List UInt8) : InputLine :=
  match String.fromUTF8? ⟨bytes.toArray⟩ with
  | some line =>
      .text (String.ofList
        (line.toList.reverse.dropWhile fun c => c == '\n' || c == '\r').reverse)
  | none => .garbled

/-- All lines of an input. -/
def allOfBytes (bytes : List UInt8) : List InputLine :=
  (byteLinesFrom [] bytes).map ofBytes

end InputLine

end TextAdventure
