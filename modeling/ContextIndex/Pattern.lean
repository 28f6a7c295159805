import ContextIndex.Text.CharClass

/-!
# Patterns

A pattern describes a piece of text, such as the head of a declaration, and marks a name in it.  It
is built from single characters, repetition of a class of characters, edges of words and beginnings
of lines, put one after another or offered in order of preference.  Repetition is of characters only,
so what a pattern matches at each position of a text is a *column*: one entry per position, computed
from the column of what comes after it.  A greedy repetition takes as many characters as it can and
gives them back one by one, so at a position it prefers the entry of the next position to its own; a
reluctant one prefers its own.  Hence a column holds the match a backtracking search finds first, and
the work is linear in the text.

`Pattern.search` is that backtracking search, written as such.  `Pattern.matches` scans a column
from the front: the leftmost match wins, and the scan goes on where the match stops.
-/

namespace ContextIndex

/-! ## Classes -/

/-- A class of characters. -/
inductive CharClass
  /-- One of these characters. -/
  | oneOf (cs : List Char)
  /-- Any character but these. -/
  | noneOf (cs : List Char)
  /-- White space. -/
  | space
  /-- A character of a word. -/
  | word
  /-- A character of either class. -/
  | either (a b : CharClass)
deriving Repr

/-- Membership of a character in a class. -/
def CharClass.holds : CharClass → Char → Bool
  | oneOf cs, c => cs.contains c
  | noneOf cs, c => !cs.contains c
  | space, c => Text.isSpace c
  | word, c => Text.isWordChar c
  | either a b, c => a.holds c || b.holds c

/-! ## Patterns -/

/-- A pattern for a piece of text. -/
inductive Pattern
  /-- Nothing. -/
  | empty
  /-- One character of a class. -/
  | one (c : CharClass)
  /-- Any number of characters of a class, as many as possible. -/
  | many (c : CharClass)
  /-- Any number of characters of a class, as few as possible. -/
  | few (c : CharClass)
  /-- A place where a character of a word meets a place without one. -/
  | edge
  /-- The beginning of a line. -/
  | lineStart
  /-- The place where the name starts. -/
  | nameStart
  /-- The place where the name stops. -/
  | nameStop
  /-- One pattern after another. -/
  | seq (p q : Pattern)
  /-- The first pattern or else the second. -/
  | orElse (p q : Pattern)
deriving Repr

namespace Pattern

/-- At least one character of a class, as many as possible. -/
def some (c : CharClass) : Pattern :=
  seq (one c) (many c)

/-- A pattern that may be missing. -/
def maybe (p : Pattern) : Pattern :=
  orElse p empty

/-- Patterns one after another. -/
def all : List Pattern → Pattern
  | [] => empty
  | p :: ps => seq p (all ps)

/-- The first pattern of a list that leads to a match. -/
def any : List Pattern → Pattern
  | [] => empty
  | [p] => p
  | p :: ps => orElse p (any ps)

/-- One given character. -/
def char (c : Char) : Pattern :=
  one (.oneOf [c])

/-- The characters of a text, each as it is. -/
def text (s : String) : Pattern :=
  all (s.toList.map char)

/-! ## Places and matches -/

/-- A place in a text: its offset in characters and the characters around it. -/
structure Place where
  /-- The characters before the place. -/
  offset : Nat
  /-- The character just before it. -/
  before : Option Char
  /-- The character just after it. -/
  after : Option Char
deriving Repr, Inhabited

/-- The places of a text from a given offset on, the one at its end included. -/
def placesFrom (offset : Nat) (before : Option Char) : List Char → List Place
  | [] => [⟨offset, before, none⟩]
  | c :: cs => ⟨offset, before, .some c⟩ :: placesFrom (offset + 1) (.some c) cs

/-- The places of a text. -/
def places (text : List Char) : List Place :=
  placesFrom 0 none text

/-- Whether a character stands there and belongs to a word. -/
def inWord (c : Option Char) : Bool :=
  c.any Text.isWordChar

/-- Whether a word starts or stops at a place. -/
def Place.isEdge (p : Place) : Bool :=
  inWord p.before != inWord p.after

/-- Whether a line starts at a place. -/
def Place.isLineStart (p : Place) : Bool :=
  p.before == none || p.before == .some '\n'

/-- How far a match goes and where the name lies in it, as offsets. -/
structure Reach where
  /-- Where the match stops. -/
  stop : Nat
  /-- Where the name starts. -/
  nameStart : Nat
  /-- Where the name stops. -/
  nameStop : Nat
deriving DecidableEq, Repr, Inhabited

/-! ## Columns -/

/-- The entries of a pattern at the places of a text. -/
abbrev Column := List (Option Reach)

/-- The entry that a repetition of `c` puts before those computed already.  If a character of the
class leads to the next place, `choose` decides between the entry there and the one of what follows,
which is the entry otherwise. -/
def repeatEntry (choose : Option Reach → Option Reach → Option Reach) (c : CharClass)
    (x : Place × Option Reach) (later : Column) : Column :=
  match x.1.after, later with
  | .some ch, next :: _ => (if c.holds ch then choose next x.2 else x.2) :: later
  | _, _ => x.2 :: later

/-- The column of a pattern, given the column of what comes after it. -/
def column (ps : List Place) : Pattern → Column → Column
  | empty, k => k
  | one c, k => List.zipWith (fun p r => if p.after.any c.holds then r else none) ps (k.tail ++ [none])
  | many c, k => (ps.zip k).foldr (repeatEntry (fun next own => next.or own) c) []
  | few c, k => (ps.zip k).foldr (repeatEntry (fun next own => own.or next) c) []
  | edge, k => List.zipWith (fun p r => if p.isEdge then r else none) ps k
  | lineStart, k => List.zipWith (fun p r => if p.isLineStart then r else none) ps k
  | nameStart, k => List.zipWith (fun p r => r.map fun m => { m with nameStart := p.offset }) ps k
  | nameStop, k => List.zipWith (fun p r => r.map fun m => { m with nameStop := p.offset }) ps k
  | seq p q, k => column ps p (column ps q k)
  | orElse p q, k => List.zipWith Option.or (column ps p k) (column ps q k)

/-- The column of the end of a pattern: a match stops where it stands. -/
def endColumn (ps : List Place) : Column :=
  ps.map fun p => .some ⟨p.offset, p.offset, p.offset⟩

/-- A match of a pattern in a text. -/
structure Match where
  /-- Where the match starts. -/
  start : Nat
  /-- Where it stops and where the name lies. -/
  reach : Reach
deriving DecidableEq, Repr, Inhabited

/-- The matches of a column that do not overlap, from the front.  `offset` is the place of the
first entry and `resume` the place from which a match may start. -/
def scan (offset resume : Nat) : Column → List Match
  | [] => []
  | none :: rs => scan (offset + 1) resume rs
  | .some r :: rs =>
    if offset < resume then scan (offset + 1) resume rs
    else ⟨offset, r⟩ :: scan (offset + 1) r.stop rs

/-- The matches of a pattern in a text. -/
def «matches» (p : Pattern) (text : List Char) : List Match :=
  let ps := places text
  scan 0 0 (column ps p (endColumn ps))

/-! ## The search that columns replace -/

/-- What a search does with the rest of a text: the character before it and the rest. -/
abbrev Continuation := Nat → Option Char → List Char → Option Reach

/-- As many characters of a class as possible, given back one by one. -/
def searchMany (c : CharClass) (k : Continuation) (offset : Nat) (before : Option Char) :
    List Char → Option Reach
  | [] => k offset before []
  | ch :: cs =>
    if c.holds ch then
      (searchMany c k (offset + 1) (.some ch) cs).or (k offset before (ch :: cs))
    else k offset before (ch :: cs)

/-- As few characters of a class as possible, and more of them one by one. -/
def searchFew (c : CharClass) (k : Continuation) (offset : Nat) (before : Option Char) :
    List Char → Option Reach
  | [] => k offset before []
  | ch :: cs =>
    if c.holds ch then
      (k offset before (ch :: cs)).or (searchFew c k (offset + 1) (.some ch) cs)
    else k offset before (ch :: cs)

/-- The first match a backtracking search finds at a place. -/
def search : Pattern → Continuation → Continuation
  | empty, k => k
  | one c, k => fun offset _ cs =>
    match cs with
    | [] => none
    | ch :: cs => if c.holds ch then k (offset + 1) (.some ch) cs else none
  | many c, k => searchMany c k
  | few c, k => searchFew c k
  | edge, k => fun offset before cs =>
    if inWord before != inWord cs.head? then k offset before cs else none
  | lineStart, k => fun offset before cs =>
    if before == none || before == .some '\n' then k offset before cs else none
  | nameStart, k => fun offset before cs =>
    (k offset before cs).map fun m => { m with nameStart := offset }
  | nameStop, k => fun offset before cs =>
    (k offset before cs).map fun m => { m with nameStop := offset }
  | seq p q, k => search p (search q k)
  | orElse p q, k => fun offset before cs =>
    (search p k offset before cs).or (search q k offset before cs)

end Pattern

end ContextIndex
