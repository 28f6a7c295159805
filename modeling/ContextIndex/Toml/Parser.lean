import ContextIndex.Toml.Moment
import ContextIndex.Toml.Statement
import ContextIndex.Toml.Text.Reader

/-!
# Reading TOML

A statement stands on a line of its own, with blanks and a comment around it; only brackets and
triple quotes reach over line breaks.  Arrays and tables between braces may lie inside each other up
to a limit, and so may the tables of a key.  Every value consumes at least one character, so the
length of the text bounds every reading; that bound is the fuel below, which `parse` computes.

An item of an array or a pair between braces that cannot be read ends the list before it, unless its
fault is firm; then the bracket or brace that ought to close the list is missing there.
-/

namespace ContextIndex.Toml

/-! ## Keys -/

/-- A name between quotes or apostrophes or without them. -/
def takeNameText (cs : List Char) : Reading (List Char) :=
  match cs with
  | '"' :: rest => takeQuoted rest
  | '\'' :: rest => takeLiteral rest
  | cs =>
    match cs.span isNameChar with
    | ([], rest) => .error { ahead := rest }
    | (s, rest) => .ok (s, rest)

/-- A name. -/
def takeName (cs : List Char) : Reading Name :=
  match takeNameText cs with
  | .ok (s, rest) => .ok (⟨String.ofList s, ⟨cs, rest⟩⟩, rest)
  | .error s => .error s

/-- How deep values and keys may lead. -/
def depthLimit : Nat := 79

/-- The names of a key with blanks around them.  A point that no name follows does not belong to
it; `fuel` bounds their number. -/
def takeNames : Nat → List Char → Reading (List Name)
  | 0, cs => .error { ahead := cs }
  | fuel + 1, cs =>
    match takeName (skipBlanks cs) with
    | .error s => .error s
    | .ok (name, rest) =>
      match skipBlanks rest with
      | '.' :: more =>
        match takeNames fuel more with
        | .ok (names, rest) => .ok (name :: names, rest)
        | .error s => if s.firm then .error s else .ok ([name], '.' :: more)
      | rest => .ok ([name], rest)

/-- A key with blanks around it. -/
def takeKey (cs : List Char) : Reading Key :=
  match (takeNames (cs.length + 1) cs).inside .key with
  | .error s => .error s
  | .ok (names, rest) =>
    if depthLimit < names.length then
      .error { fault := { cause := some .tooDeep }, ahead := cs }
    else
      match names.getLast? with
      | some name => .ok (⟨names.dropLast, name⟩, rest)
      | none => .error { ahead := cs }

/-- What follows the sign between a key and its value. -/
def skipEquals : List Char → Except Snag (List Char)
  | '=' :: cs => .ok cs
  | cs =>
    .error { fault := { expected := [.sign ".", .sign "="] }, ahead := cs, firm := true }

/-! ## Values -/

/-- What could stand where no value does. -/
def notValue {α : Type} (r : Reading α) : Reading α :=
  (r.inside .value).wanting [.sign "\"", .sign "'"]

/-- A word for a value. -/
def takeWord (word : String) (v : Toml) (firm : Bool) (cs : List Char) : Reading Toml :=
  notValue <| match afterWord? word cs with
    | some rest => .ok (v, rest)
    | none => .error { ahead := cs, firm }

/-- A date, a time or a number. -/
def takeNumeric (cs : List Char) : Reading Toml :=
  ((takeMoment cs).orElse fun _ => takeFloat cs).orElse fun _ => (takeInteger cs).give integer

/-- A value that is neither an array nor a table. -/
def takeScalar (cs : List Char) : Reading Toml :=
  match cs with
  | [] => .error { ahead := [] }
  | c :: _ =>
    if c = '"' ∨ c = '\'' then (takeText cs).give fun s => text (String.ofList s)
    else if c = '+' ∨ c = '-' ∨ c.isDigit then takeNumeric cs
    else if c = '_' then ((takeInteger cs).give integer).wanting [.leadingDigit]
    else if c = '.' then (takeFloat cs).wanting [.leadingDigit]
    else if c = 't' then takeWord "true" (boolean true) true cs
    else if c = 'f' then takeWord "false" (boolean false) true cs
    else if c = 'i' then takeWord "inf" (float "inf") false cs
    else if c = 'n' then takeWord "nan" (float "nan") false cs
    else notValue (.error { ahead := cs })

/-- A value inside too many others. -/
def tooDeepAt {α : Type} (cs : List Char) : Reading α :=
  .error { fault := { cause := some .tooDeep }, ahead := cs, firm := true }

/-- What follows the sign that closes a list, where `found` is ahead. -/
def closing {α : Type} (part : Part) (sign : Char) (a : α) (found : List Char) : Reading α :=
  match found with
  | c :: rest => if c = sign then .ok (a, rest) else missing
  | [] => missing
where
  /-- The sign is not there. -/
  missing : Reading α :=
    .error {
      fault := { part := some part, expected := [.sign (String.singleton sign)] }
      ahead := found
      firm := true }

mutual

/-- A value, with room for values inside it. -/
def takeValue : Nat → Nat → List Char → Reading Placed
  | 0, _, cs => .error { ahead := cs }
  | fuel + 1, room, cs =>
    (match cs with
      | '[' :: inner =>
        match room with
        | 0 => tooDeepAt cs
        | room + 1 => Reading.give array (takeArray fuel room inner)
      | '\x7b' :: inner =>
        match room with
        | 0 => tooDeepAt cs
        | room + 1 => Reading.give (table .inlined) (takeBraced fuel room inner)
      | cs => takeScalar cs : Reading Toml).map fun (v, rest) => ((some ⟨cs, rest⟩, v), rest)

/-- An array after its opening bracket.  Its last item may have a comma after it. -/
def takeArray : Nat → Nat → List Char → Except Snag (List Placed × List Char)
  | 0, _, cs => .error { ahead := cs }
  | fuel + 1, room, cs =>
    match cs with
    | ']' :: rest => .ok ([], rest)
    | cs => do
      let (items, rest) ← takeItems fuel room cs
      let rest := match items, rest with
        | _ :: _, ',' :: rest => rest
        | _, rest => rest
      let rest ← (skipGaps false rest).mapError Snag.settled
      closing .array ']' items rest

/-- The items of an array with commas between them, up to the first that is none. -/
def takeItems : Nat → Nat → List Char → Except Snag (List Placed × List Char)
  | 0, _, cs => .error { ahead := cs }
  | fuel + 1, room, cs =>
    match takeItem fuel room cs with
    | .error s => if s.firm then .error s else .ok ([], cs)
    | .ok (v, ',' :: rest) => do
      let (vs, after) ← takeItems fuel room rest
      return (v :: vs, if vs.isEmpty then ',' :: rest else after)
    | .ok (v, rest) => .ok ([v], rest)

/-- A value with blanks, line breaks and comments around it. -/
def takeItem : Nat → Nat → List Char → Except Snag (Placed × List Char)
  | 0, _, cs => .error { ahead := cs }
  | fuel + 1, room, cs => do
    let (v, rest) ← takeValue fuel room (← skipGaps false cs)
    return (v, ← skipGaps false rest)

/-- A table after its opening brace. -/
def takeBraced : Nat → Nat → List Char → Except Snag (Fields × List Char)
  | 0, _, cs => .error { ahead := cs }
  | fuel + 1, room, cs => do
    let (pairs, rest) ← takePairs fuel room cs
    match inlineTable pairs with
    | .error cause => .error { fault := { cause := some cause }, ahead := cs, firm := true }
    | .ok fields => closing .inlineTable '\x7d' fields (skipBlanks rest)

/-- The pairs of a table with commas between them, up to the first that is none. -/
def takePairs : Nat → Nat → List Char → Except Snag (List (Key × Placed) × List Char)
  | 0, _, cs => .error { ahead := cs }
  | fuel + 1, room, cs =>
    match takePair fuel room cs with
    | .error s => if s.firm then .error s else .ok ([], cs)
    | .ok (p, ',' :: rest) => do
      let (ps, after) ← takePairs fuel room rest
      return (p :: ps, if ps.isEmpty then ',' :: rest else after)
    | .ok (p, rest) => .ok ([p], rest)

/-- A pair between braces, with blanks around it. -/
def takePair : Nat → Nat → List Char → Except Snag ((Key × Placed) × List Char)
  | 0, _, cs => .error { ahead := cs }
  | fuel + 1, room, cs => do
    let (key, rest) ← takeKey cs
    let rest ← skipEquals rest
    let (v, rest) ← (takeValue fuel room (skipBlanks rest)).settled
    return ((key, v), skipBlanks rest)

end

/-! ## Documents -/

/-- What could stand where a line ought to end. -/
def lineEnd : List Expected :=
  [.newline, .sign "#"]

/-- The line after a statement. -/
def nextStatement (cs : List Char) : Except Snag (List Char) :=
  (nextLine cs).mapError fun s => (s.wanting lineEnd).settled

/-- What follows the signs that close a header. -/
def skipClosing (signs : String) (cs : List Char) : Except Snag (List Char) :=
  match afterWord? signs cs with
  | some rest => .ok rest
  | none => .error { fault := { expected := [.sign ".", .sign signs] }, ahead := cs, firm := true }

/-- A header that starts where `cs` is ahead and has its key where `inner` is, and the next line. -/
def takeHeaderKey (closing : String) (make : Key → Stretch → Statement) (cs inner : List Char) :
    Except Snag (Statement × List Char) := do
  let (key, rest) ← takeKey inner
  let rest ← skipClosing closing rest
  return (make key ⟨cs, rest⟩, ← nextStatement rest)

/-- A header, and the next line. -/
def takeHeader (cs : List Char) : Reading Statement :=
  match cs with
  | '[' :: '[' :: rest => takeHeaderKey "]]" .item cs rest
  | '[' :: c :: rest => takeHeaderKey "]" .header cs (c :: rest)
  | cs => .error { ahead := cs }

/-- A pair, and the next line. -/
def takeLinePair (cs : List Char) : Except Snag (Statement × List Char) := do
  let (key, rest) ← takeKey cs
  let rest ← skipEquals rest
  let (v, rest) ← takeValue (8 * rest.length + 8) depthLimit (skipBlanks rest)
  return (.pair key v, ← nextStatement rest)

/-- A document with a statement that starts where `cs` is ahead. -/
def Draft.addAt (d : Draft) (cs : List Char) (r : Reading Statement) :
    Except Snag (Draft × List Char) :=
  match r with
  | .error s => .error s
  | .ok (s, rest) =>
    match d.add s with
    | .ok d => .ok (d, rest)
    | .error cause => .error { fault := { cause := some cause }, ahead := cs }

/-- A document with the statements of a text; `fuel` bounds the number of lines. -/
def takeStatements : Nat → Draft → List Char → Except Snag Draft
  | 0, _, cs => .error { ahead := cs }
  | fuel + 1, d, cs =>
    match skipBlanks cs with
    | [] => .ok d
    | '\n' :: rest => takeStatements fuel d rest
    | '\r' :: '\n' :: rest => takeStatements fuel d rest
    | '\r' :: rest => .error { ahead := '\r' :: rest }
    | '#' :: rest => do takeStatements fuel d (← nextLine ('#' :: rest))
    | '[' :: rest => do
      let (d, rest) ← (d.addAt ('[' :: rest) (takeHeader ('[' :: rest))).mapError (Snag.inside .header)
      takeStatements fuel d rest
    | cs => do
      let (d, rest) ← d.addAt cs (takeLinePair cs)
      takeStatements fuel d rest

/-- A text without a byte order mark in front. -/
def dropMark : List Char → List Char
  | '\ufeff' :: cs => cs
  | cs => cs

/-- The document that a text writes, or its first fault. -/
def parse (cs : List Char) : Except Misreading Fields :=
  match takeStatements (cs.length + 1) {} (dropMark cs) with
  | .ok d => .ok d.root.fields
  | .error s => .error ⟨s.fault, .next s.ahead⟩

end ContextIndex.Toml
