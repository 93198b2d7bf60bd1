import TextAdventure.Text.BreakClass
import TextAdventure.Text.Width

/-!
# Where lines may break

The Unicode line breaking algorithm.  A text is first read as clusters, which are characters
with the marks that attach to them.  Whether a line may break between two clusters then depends
on what stands before the place, the nearest first, and on what stands after it.  The numbers in
the comments are those of the standard's rules; the first one that applies decides.
-/

set_option autoImplicit false

namespace TextAdventure.Text

namespace BreakClass

/-- Classes after which the line must end. -/
def forced : BreakClass → Bool
  | .bk | .cr | .lf | .nl => true
  | _ => false

/-- Marks that attach to what stands before them. -/
def attaches : BreakClass → Bool
  | .cm | .zwj => true
  | _ => false

/-- Whether marks attach to a character of the class (9). -/
def holdsMarks (k : BreakClass) : Bool :=
  !(k.forced || k = .sp || k = .zw)

/-- Letters of all kinds that stick together. -/
def letter : BreakClass → Bool
  | .al | .hl | .dottedCircle => true
  | _ => false

/-- Ideographs and emoji. -/
def pictorial : BreakClass → Bool
  | .id | .idReserved | .eb | .em => true
  | _ => false

/-- Parts of Hangul syllables. -/
def hangul : BreakClass → Bool
  | .jl | .jv | .jt | .h2 | .h3 => true
  | _ => false

def quote : BreakClass → Bool
  | .qu | .quInitial | .quFinal => true
  | _ => false

def closing : BreakClass → Bool
  | .cl | .cp => true
  | _ => false

def hyphen : BreakClass → Bool
  | .hy | .hh => true
  | _ => false

/-- Signs of an amount, before or after its number. -/
def unit : BreakClass → Bool
  | .pr | .po => true
  | _ => false

/-- Characters that a virama may follow. -/
def aksara : BreakClass → Bool
  | .ak | .as_ | .dottedCircle => true
  | _ => false

/-- Parts of one Hangul syllable (26). -/
def sameSyllable : BreakClass → BreakClass → Bool
  | .jl, .jl | .jl, .jv | .jl, .h2 | .jl, .h3 => true
  | .jv, .jv | .jv, .jt | .h2, .jv | .h2, .jt => true
  | .jt, .jt | .h3, .jt => true
  | _, _ => false

/-- Classes after which an opening quotation mark begins a quotation. -/
def beforeQuotation (k : BreakClass) : Bool :=
  k.forced || k = .op || k.quote || k = .gl || k = .sp || k = .zw

/-- Classes before which a closing quotation mark ends a quotation. -/
def afterQuotation (k : BreakClass) : Bool :=
  k.forced || k = .sp || k = .gl || k = .wj || k.closing || k.quote || k = .ex || k = .is ||
    k = .sy || k = .zw

/-- Classes after which a word begins. -/
def beforeWord (k : BreakClass) : Bool :=
  k.forced || k = .sp || k = .zw || k = .cb || k = .gl

end BreakClass

/-- A character with the marks that attach to it. -/
structure Cluster where
  kind : BreakClass
  /-- Whether the character is of an East Asian script or as wide as such a one. -/
  eastAsian : Bool
  /-- How many marks follow the character. -/
  marks : Nat
  /-- Whether it ends in a zero width joiner. -/
  joins : Bool
deriving DecidableEq

namespace Cluster

/-- A character without marks; a mark that attaches to nothing is a letter (10). -/
def ofChar (c : Char) : Cluster :=
  let k := breakClass c
  { kind := if k.attaches then .al else k, eastAsian := isEastAsian c, marks := 0,
    joins := k = .zwj }

/-- The clusters of a text that follows the cluster `current`. -/
def clustersAfter (current : Cluster) : List Char → List Cluster
  | [] => [current]
  | c :: rest =>
      let k := breakClass c
      if k.attaches && current.kind.holdsMarks then
        clustersAfter { current with marks := current.marks + 1, joins := k = .zwj } rest
      else current :: clustersAfter (ofChar c) rest

/-- The clusters of a text. -/
def ofText : List Char → List Cluster
  | [] => []
  | c :: rest => clustersAfter (ofChar c) rest

end Cluster

/-! ## Places between clusters

In all that follows `before` is what stands before a place, the nearest first, and `after` is what
stands after it. -/

namespace LineBreak

/-- Whether the nearest cluster has a class, if there is one. -/
def meets (p : BreakClass → Bool) (clusters : List Cluster) : Bool :=
  clusters.head?.any fun x => p x.kind

/-- Whether there is no cluster or the nearest has a class. -/
def endsOrMeets (p : BreakClass → Bool) (clusters : List Cluster) : Bool :=
  clusters.head?.all fun x => p x.kind

def meetsEastAsian (clusters : List Cluster) : Bool :=
  clusters.head?.any (·.eastAsian)

/-- What stands before the spaces. -/
def pastSpaces (before : List Cluster) : List Cluster :=
  before.dropWhile (·.kind = .sp)

/-- Whether an opening quotation mark, with or without spaces, begins a quotation (15a). -/
def opensQuotation (before : List Cluster) : Bool :=
  match pastSpaces before with
  | mark :: rest => mark.kind = .quInitial && endsOrMeets BreakClass.beforeQuotation rest
  | [] => false

/-- Whether a closing quotation mark ends a quotation (15b). -/
def closesQuotation (after : List Cluster) : Bool :=
  match after with
  | mark :: rest => mark.kind = .quFinal && endsOrMeets BreakClass.afterQuotation rest
  | [] => false

/-- Whether a decimal mark begins a number (15c). -/
def startsDecimal (after : List Cluster) : Bool :=
  match after with
  | mark :: rest => mark.kind = .is && meets (· = .nu) rest
  | [] => false

/-- Whether digits, solidi and separators that begin with a digit stand before a place (25). -/
def endsNumber (before : List Cluster) : Bool :=
  meets (· = .nu) (before.dropWhile fun x => x.kind = .sy || x.kind = .is)

/-- Whether a number comes, in an opening mark (25). -/
def startsBracketedNumber (after : List Cluster) : Bool :=
  match after with
  | mark :: rest =>
      mark.kind = .op && (meets (· = .nu) rest ||
        (meets (· = .is) rest && meets (· = .nu) rest.tail))
  | [] => false

/-- Whether an odd number of regional indicators stands before a place (30a). -/
def oddIndicators (before : List Cluster) : Bool :=
  (before.takeWhile (·.kind = .ri)).length % 2 == 1

/-- Whether a place right after `a` and before `b` is closed even to spaces, or opened against the
rules that follow (11 to 17). -/
def closesOver (a b : Cluster) (before after : List Cluster) : Bool :=
  let near := pastSpaces (a :: before)
  b.kind = .wj || a.kind = .wj || a.kind = .gl
    || (b.kind = .gl && !(a.kind = .sp || a.kind = .ba || a.kind.hyphen))
    || b.kind.closing || b.kind = .ex || b.kind = .sy
    || meets (· = .op) near
    || opensQuotation (a :: before) || closesQuotation (b :: after)
    || (b.kind = .is && !(a.kind = .sp && startsDecimal (b :: after)))
    || (b.kind = .ns && meets BreakClass.closing near)
    || (b.kind = .b2 && meets (· = .b2) near)

/-- Whether a quotation mark sticks to its neighbours; among East Asian characters it sticks only
to what it encloses (19). -/
def sticksToQuote (a b : Cluster) (before after : List Cluster) : Bool :=
  (b.kind.quote && !(b.kind = .quInitial && a.eastAsian && meetsEastAsian after))
    || (a.kind.quote && !(a.kind = .quFinal && b.eastAsian && meetsEastAsian before))

/-- Whether a hyphen sticks to the word that it begins, or to the Hebrew letter before it and what
follows (20a and 21a). -/
def sticksToHyphen (a b : Cluster) (before : List Cluster) : Bool :=
  a.kind.hyphen &&
    ((b.kind.letter && endsOrMeets BreakClass.beforeWord before)
      || (b.kind ≠ .hl && meets (· = .hl) before))

/-- Whether two clusters are parts of a number with its signs (25). -/
def sameNumber (a b : Cluster) (before after : List Cluster) : Bool :=
  (b.kind.unit && (endsNumber (a :: before) || (a.kind.closing && endsNumber before)))
    || (a.kind.unit && (b.kind = .nu || startsBracketedNumber (b :: after)))
    || (b.kind = .nu && (a.kind = .hy || a.kind = .is || endsNumber (a :: before)))

/-- Whether two clusters are parts of one syllable of a Brahmic script (28a). -/
def sameAksara (a b : Cluster) (before after : List Cluster) : Bool :=
  (a.kind = .ap && b.kind.aksara)
    || (a.kind.aksara && (b.kind = .vf || b.kind = .vi))
    || (a.kind = .vi && meets BreakClass.aksara before && b.kind.aksara && b.kind ≠ .as_)
    || (a.kind.aksara && b.kind.aksara && meets (· = .vf) after)

/-- Whether two clusters without spaces between them stick together (21 to 30b). -/
def sticksTogether (a b : Cluster) (before after : List Cluster) : Bool :=
  let x := a.kind
  let y := b.kind
  y = .ba || y.hyphen || y = .ns || x = .bb || y = .in_
    || (x = .sy && y = .hl)
    || (x.letter && y = .nu) || (x = .nu && y.letter)
    || (x = .pr && y.pictorial) || (x.pictorial && y = .po)
    || (x.unit && y.letter) || (x.letter && y.unit)
    || sameNumber a b before after
    || BreakClass.sameSyllable x y || (x.hangul && y = .po) || (x = .pr && y.hangul)
    || (x.letter && y.letter)
    || sameAksara a b before after
    || (x = .is && y.letter)
    || ((x.letter || x = .nu) && y = .op && !b.eastAsian)
    || (x = .cp && !a.eastAsian && (y.letter || y = .nu))
    || (y = .ri && oddIndicators (a :: before))
    || ((x = .eb || x = .idReserved) && y = .em)

/-- Whether a line may break between two clusters. -/
def mayBreakBetween (a b : Cluster) (before after : List Cluster) : Bool :=
  if a.kind.forced then !(a.kind = .cr && b.kind = .lf)
  else if b.kind.forced || b.kind = .sp || b.kind = .zw then false
  else if meets (· = .zw) (pastSpaces (a :: before)) then true
  else if a.joins || closesOver a b before after then false
  else if a.kind = .sp then true
  else if sticksToQuote a b before after then false
  else if a.kind = .cb || b.kind = .cb then true
  else !(sticksToHyphen a b before || sticksTogether a b before after)

/-- Whether a line may break at a place; at the end of a text it may. -/
def mayBreak (before after : List Cluster) : Bool :=
  match before, after with
  | a :: before, b :: after => mayBreakBetween a b before after
  | _, _ => true

/-- For each character of the clusters after `before`, whether a line may break after it. -/
def breaksFrom (before : List Cluster) : List Cluster → List Bool
  | [] => []
  | x :: after =>
      List.replicate x.marks false ++ mayBreak (x :: before) after :: breaksFrom (x :: before) after

end LineBreak

/-- For each character of a text, whether a line may break after it. -/
def breaksAfter (cs : List Char) : List Bool :=
  LineBreak.breaksFrom [] (Cluster.ofText cs)

end TextAdventure.Text
