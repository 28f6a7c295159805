/-!
# Paths

A path is a text whose parts are separated by slashes.  Joining is lexical: nothing is resolved, and
an absolute path stands for itself.  What a path leads to does not depend on single dots and
repeated slashes, and `..` leads back out of the part before it.
-/

namespace ContextIndex.Path

/-- Whether a path starts at the root. -/
def isAbsolute (path : String) : Bool :=
  path.toList.head? == some '/'

/-- A path seen from a base. -/
def join (base path : String) : String :=
  if isAbsolute path then path
  else
    match base.toList.getLast? with
    | none => path
    | some '/' => base ++ path
    | some _ => base ++ "/" ++ path

/-- The pieces of a text between the occurrences of a character. -/
def pieces (mark : Char) : List Char → List (List Char)
  | [] => [[]]
  | c :: cs =>
    if c = mark then [] :: pieces mark cs
    else match pieces mark cs with
      | [] => [[c]]
      | p :: ps => (c :: p) :: ps

/-- The parts of a path, none of them empty. -/
def segments (path : String) : List String :=
  ((pieces '/' path.toList).filter fun p => !p.isEmpty).map String.ofList

/-- One step on a path, from the parts gone so far, the last of them first. -/
def step (gone : List String) (part : String) : List String :=
  if part = "." then gone
  else if part = ".." then gone.drop 1
  else part :: gone

/-- The parts of the place a path leads to, from the root. -/
def place (path : String) : List String :=
  ((segments path).foldl step []).reverse

end ContextIndex.Path
