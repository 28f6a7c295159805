import ContextIndex.Text.Line

/-!
# Where a block ends

The end of a declared block is found from its first line.  In a language with braces it is the line
of the brace that balances the first one after the declared name.  In a language with indentation
the block goes on while lines are indented deeper than the first one.  Both scans are approximate:
braces in strings and comments count like any other.
-/

namespace ContextIndex.Extract

/-! ## Braces -/

/-- The state of a scan for the balancing brace. -/
inductive BraceScan
  /-- No opening brace so far; round and square brackets are open to this depth. -/
  | unseen (nesting : Nat)
  /-- Inside the block, with this many braces open. -/
  | inside (depth : Nat)
deriving DecidableEq, Repr

/-- The state after one character, or nothing if the block ends with it.  A semicolon before any
brace and outside brackets ends a declaration without a body. -/
def BraceScan.step : BraceScan → Char → Option BraceScan
  | .unseen nesting, c =>
    if c = '\x7b' then some (.inside 1)
    else if c = ';' then if nesting = 0 then none else some (.unseen nesting)
    else if c = '(' ∨ c = '[' then some (.unseen (nesting + 1))
    else if c = ')' ∨ c = ']' then some (.unseen (nesting - 1))
    else some (.unseen nesting)
  | .inside depth, c =>
    if c = '\x7b' then some (.inside (depth + 1))
    else if c = '\x7d' then if depth = 1 then none else some (.inside (depth - 1))
    else some (.inside depth)

/-- The state after some characters, or nothing if the block ends with one of them. -/
def BraceScan.run (state : BraceScan) (cs : List Char) : Option BraceScan :=
  cs.foldlM BraceScan.step state

/-- The line on which a scan ends.  `start` is the line of the declaration, `last` the last line of
the file and `line` the number of the next line.  Without any brace the block is its first line; a
block that stays open runs to the last line. -/
def scanBraces (start last line : Nat) : BraceScan → List (List Char) → Nat
  | .unseen _, [] => start
  | .inside _, [] => max last start
  | state, l :: ls =>
    match state.run l with
    | none => line
    | some next => scanBraces start last (line + 1) next ls

/-- The lines from a byte of a line on.  A place that is not in the line, or not between
characters, leaves nothing of it. -/
def linesFrom (ls : List (List Char)) (start column : Nat) : List (List Char) :=
  match ls.drop (start - 1) with
  | [] => []
  | l :: rest => (Text.dropBytes column l).getD [] :: rest

/-- The last line of the block declared at a byte of line `start`. -/
def braceBlockEnd (ls : List (List Char)) (start column : Nat) : Nat :=
  scanBraces start ls.length start (.unseen 0) (linesFrom ls start column)

/-! ## Indentation -/

/-- The last line of a block whose lines so far end with line `last`; `line` is the number of the
line before the next one.  Blank lines neither end a block nor belong to its end. -/
def scanIndented (base last line : Nat) : List (List Char) → Nat
  | [] => last
  | l :: ls =>
    if Text.isBlank l then scanIndented base last (line + 1) ls
    else if Text.indent l ≤ base then last
    else scanIndented base (line + 1) (line + 1) ls

/-- The last line of the block that starts on line `start`. -/
def indentedBlockEnd (ls : List (List Char)) (start : Nat) : Nat :=
  match ls[start - 1]? with
  | none => start
  | some first => scanIndented (Text.indent first) start start (ls.drop start)

end ContextIndex.Extract
