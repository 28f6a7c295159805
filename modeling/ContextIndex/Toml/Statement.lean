import ContextIndex.Toml.Text.Writer
import ContextIndex.Toml.Value

/-!
# Statements of a TOML document

A document is a list of statements: a header opens a table, another kind of header adds a table to a
list of tables, and all else puts a value under a key.  A key may lead through tables.  The
statements say in turn what the document is, and they may contradict each other: no name is given
two values, no table is opened twice, and nothing is added to a table from a second place.
-/

namespace ContextIndex.Toml

/-- A key: the tables it leads through, and a name in the last of them. -/
structure Key where
  /-- The names of the tables, from the outside. -/
  way : List Name
  /-- The name. -/
  name : Name

/-- All names of a key. -/
def Key.path (k : Key) : List Name :=
  k.way ++ [k.name]

/-- The texts of names. -/
def textsOf (names : List Name) : List String :=
  names.map Name.text

/-- A statement. -/
inductive Statement
  /-- A value under a key. -/
  | pair (key : Key) (value : Placed)
  /-- A header that opens a table. -/
  | header (key : Key) (place : Stretch)
  /-- A header that adds a table to a list of tables. -/
  | item (key : Key) (place : Stretch)

/-! ## Tables under way -/

/-- A table that is being written. -/
structure Scope where
  /-- How it was opened. -/
  opening : Opening
  /-- Where it stands. -/
  place : Option Stretch := none
  /-- Its fields. -/
  fields : Fields := []

/-- The value that a table is. -/
def Scope.value (t : Scope) : Placed :=
  (t.place, table t.opening t.fields)

/-- What a name without quotes may hold. -/
def isNameChar (c : Char) : Bool :=
  c.isAlphanum || c == '-' || c == '_'

/-- A name as one would write it: without quotes if it can be. -/
def nameText (name : String) : String :=
  let cs := name.toList
  if cs.all isNameChar && !cs.isEmpty then name
  else
    let style := match styleOf cs with
      | .literal => TextStyle.literal
      | _ => .quoted
    String.ofList (writeText style cs)

/-- The place of tables under one name: from the first to the last. -/
def placeOfTables (items : List (Option Stretch × Fields)) : Option Stretch := do
  let first ← (← items.head?).1
  let last ← (← items.getLast?).1
  return ⟨first.start, last.stop⟩

/-- Tables under one name. -/
def tablesOf (items : List (Option Stretch × Fields)) : Placed :=
  (placeOfTables items, tables items)

/-- Changes the table at the end of a way; tables on it that are not there yet are opened.  A list of
tables stands for the last of them.  A way leads through no table between braces, unless all of it
lies between them, where it leads through no table in further braces; a dotted key leads through no
table that has a header. -/
def within (opening : Opening) (braced : Bool) (change : Scope → Except Cause Scope) :
    List Name → List Name → Scope → Except Cause Scope
  | _, [], t => change t
  | done, k :: ks, t =>
    match t.fields.find? k.text with
    | none => do
      let inner ← within opening braced change (done ++ [k]) ks { opening }
      return { t with fields := t.fields ++ [(k, inner.value)] }
    | some (place, table there fields) =>
      if there = .inlined && !braced then
        .error (.through (textsOf (done ++ [k])) (kindName (table there fields)))
      else if there = .inlined || (there = .header && opening = .dotted) then
        .error (.taken k.text)
      else do
        let inner ← within opening braced change (done ++ [k]) ks ⟨there, place, fields⟩
        return { t with fields := t.fields.replace k.text inner.value }
    | some (_, tables items) =>
      match items.getLast? with
      | none => .ok t
      | some (at?, last) => do
        let inner ← within opening braced change (done ++ [k]) ks ⟨.header, at?, last⟩
        return { t with
          fields := t.fields.replace k.text
            (tablesOf (items.dropLast ++ [(inner.place, inner.fields)])) }
    | some (_, v) => .error (.through (textsOf (done ++ [k])) (kindName v))

/-- Puts a value under a key of a table; `clash` tells that a name is taken.  The table that a
dotted key ends in has to be one that dotted keys have opened. -/
def put (braced : Bool) (clash : String → Cause) (key : Key) (v : Placed) (t : Scope) :
    Except Cause Scope :=
  let add (t : Scope) : Except Cause Scope :=
    match t.fields.find? key.name.text with
    | none => .ok { t with fields := t.fields ++ [(key.name, v)] }
    | some _ => .error (clash key.name.text)
  if key.way.isEmpty then add t
  else within .dotted braced
    (fun inner => if inner.opening = .dotted then add inner else .error (.taken key.name.text))
    [] key.way t

/-- A table between braces. -/
def inlineTable (pairs : List (Key × Placed)) : Except Cause Fields :=
  (pairs.foldlM (fun t (key, v) => put true .taken key v t) ({ opening := .inlined } : Scope)).map
    Scope.fields

/-- Opens the table of a header in the table around it.  It may be there already, if only headers of
tables inside it have been read; its place among the fields is that of its own header. -/
def openTable (key : Key) (place : Stretch) (t : Scope) : Except Cause Scope :=
  match t.fields.find? key.name.text with
  | none =>
    .ok { t with fields := t.fields ++ [(key.name, some place, table .header [])] }
  | some (_, table .implied inner) =>
    .ok { t with
      fields := t.fields.remove key.name.text ++ [(key.name, some place, table .header inner)] }
  | some _ => .error (.takenIn (nameText key.name.text) (textsOf key.way))

/-- Adds an empty table to the list of tables of a header. -/
def openItem (key : Key) (place : Stretch) (t : Scope) : Except Cause Scope :=
  match t.fields.find? key.name.text with
  | none => .ok { t with fields := t.fields ++ [(key.name, tablesOf [(some place, [])])] }
  | some (_, tables items) =>
    .ok { t with
      fields := t.fields.replace key.name.text (tablesOf (items ++ [(some place, [])])) }
  | some _ => .error (.takenIn (nameText key.name.text) (textsOf key.way))

/-- A table whose place reaches to the end of a value. -/
def Scope.reach (v : Placed) (t : Scope) : Scope :=
  match t.place, v.1 with
  | some p, some q => { t with place := some ⟨p.start, q.stop⟩ }
  | _, _ => t

/-! ## Documents -/

/-- A document as far as it is read: its values, and the way to the table that pairs go to. -/
structure Draft where
  /-- What has been read. -/
  root : Scope := { opening := .header }
  /-- The way to the table of the last header. -/
  here : List Name := []

/-- The document after one more statement. -/
def Draft.add (d : Draft) : Statement → Except Cause Draft
  | .pair key v => do
    let clash (name : String) : Cause := .takenIn name (textsOf d.here)
    let root ← within .implied false (fun t => put false clash key v (t.reach v)) [] d.here d.root
    return ⟨root, d.here⟩
  | .header key place => do
    let root ← within .implied false (openTable key place) [] key.way d.root
    return ⟨root, key.path⟩
  | .item key place => do
    let root ← within .implied false (openItem key place) [] key.way d.root
    return ⟨root, key.path⟩

end ContextIndex.Toml
