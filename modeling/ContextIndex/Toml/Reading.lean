import ContextIndex.Toml.Fault

/-!
# Readings

A reading takes something off the front of a text or says what keeps it from that.  Where several
things may stand, a reading that fails gives way to the next one, unless it has gone so far that
nothing else can be meant: then its fault is firm.
-/

namespace ContextIndex.Toml

/-- What keeps a reading from its end. -/
structure Snag where
  /-- What is wrong. -/
  fault : Fault := {}
  /-- What is ahead where it is wrong. -/
  ahead : List Char
  /-- Whether nothing else can be meant. -/
  firm : Bool := false

/-- Something at the front of a text, and what follows it. -/
abbrev Reading (α : Type) := Except Snag (α × List Char)

/-- A snag, told with the part of the document that it breaks, unless a smaller one is known. -/
def Snag.inside (part : Part) (s : Snag) : Snag :=
  { s with fault := { s.fault with part := s.fault.part.or (some part) } }

/-- A snag, told with more that could stand there. -/
def Snag.wanting (expected : List Expected) (s : Snag) : Snag :=
  { s with fault := { s.fault with expected := s.fault.expected ++ expected } }

/-- A snag, after which nothing else is tried. -/
def Snag.settled (s : Snag) : Snag :=
  { s with firm := true }

namespace Reading

variable {α β : Type}

/-- A reading of a part. -/
def inside (part : Part) (r : Reading α) : Reading α :=
  r.mapError (Snag.inside part)

/-- A reading where other things could stand. -/
def wanting (expected : List Expected) (r : Reading α) : Reading α :=
  r.mapError (Snag.wanting expected)

/-- A reading after which nothing else is tried. -/
def settled (r : Reading α) : Reading α :=
  r.mapError Snag.settled

/-- A reading of something else, if a reading fails and something else can be meant. -/
def orElse (r : Reading α) (other : Unit → Reading α) : Reading α :=
  match r with
  | .error s => if s.firm then .error s else other ()
  | .ok x => .ok x

/-- A reading of something that may be left out of a text. -/
def optional (r : Reading α) (cs : List Char) : Reading (Option α) :=
  match r with
  | .ok (a, rest) => .ok (some a, rest)
  | .error s => if s.firm then .error s else .ok (none, cs)

/-- A reading whose result is changed. -/
def give (f : α → β) (r : Reading α) : Reading β :=
  r.map fun (a, rest) => (f a, rest)

end Reading

/-- What is ahead after the next byte; a character of several bytes is not left in its middle. -/
def afterByte : List Char → List Char
  | [] => []
  | c :: cs => if c.toNat < 128 then cs else c :: cs

/-! ## Blanks, line breaks and comments -/

/-- The blanks inside a line. -/
def isBlank (c : Char) : Bool :=
  c == ' ' || c == '\t'

/-- The characters that a text may hold as they are, and all that a comment may hold. -/
def isPrintable (c : Char) : Bool :=
  c == '\t' || decide (0x20 ≤ c.toNat) && c.toNat != 0x7F

/-- A text without its leading blanks. -/
def skipBlanks (cs : List Char) : List Char :=
  cs.dropWhile isBlank

/-- What follows a comment on its line, if one stands here. -/
def skipComment : List Char → List Char
  | '#' :: cs => cs.dropWhile isPrintable
  | cs => cs

/-- The next line, if nothing but blanks and a comment stand before it. -/
def nextLine (cs : List Char) : Except Snag (List Char) :=
  match skipComment (skipBlanks cs) with
  | [] => .ok []
  | '\n' :: rest => .ok rest
  | '\r' :: '\n' :: rest => .ok rest
  | rest => .error { ahead := rest }

/-- A text without leading blanks, line breaks and comments.  A comment, inside which only its
characters are skipped, has to end with a line break. -/
def skipGaps (inComment : Bool) : List Char → Except Snag (List Char)
  | [] => if inComment then .error { ahead := [] } else .ok []
  | '\n' :: cs => skipGaps false cs
  | '\r' :: '\n' :: cs => skipGaps false cs
  | '\r' :: cs => .error { ahead := cs }
  | c :: cs =>
    if inComment then
      if isPrintable c then skipGaps true cs else .error { ahead := afterByte (c :: cs) }
    else if c = '#' then skipGaps true cs
    else if isBlank c then skipGaps false cs
    else .ok (c :: cs)

end ContextIndex.Toml
