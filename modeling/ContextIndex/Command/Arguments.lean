import ContextIndex.Text.Digit
import ContextIndex.Word

/-!
# Arguments of a command line

The arguments of a command are words and switches.  A switch has a long name after two hyphens, and
perhaps a letter after one; letters may stand together.  A switch may take a value: behind an equals
sign, behind its letter, or as the next argument, which then is no switch.  A switch is given once.
Two hyphens end the switches.  Arguments are read from the first to the last, and the first that is
wrong, or that asks for help or the version, is the one that counts.
-/

namespace ContextIndex.Command

/-! ## What arguments may be -/

/-- A 64-bit quantity in decimal; a plus sign may stand before it. -/
def wordOf? (text : String) : Option Nat :=
  let digits := match text.toList with
    | '+' :: cs => cs
    | cs => cs
  (Text.numeral? 10 digits).filter (· < wordBound)

/-- What an argument may be. -/
inductive Operand
  /-- Any text. -/
  | text
  /-- A path, which is never empty. -/
  | path
  /-- A 64-bit quantity. -/
  | quantity
deriving DecidableEq, Repr

/-- Whether an argument is one of a sort. -/
def Operand.admits : Operand → String → Bool
  | text, _ => true
  | path, arg => !arg.isEmpty
  | quantity, arg => (wordOf? arg).isSome

/-- A switch. -/
structure Switch where
  /-- Its name. -/
  name : String
  /-- Its letter. -/
  letter : Option Char := none
  /-- The value it takes, if it takes one. -/
  value : Option Operand := none
deriving DecidableEq, Repr

/-- Why arguments say nothing to do. -/
inductive Stop
  /-- They are not what the command takes. -/
  | misuse
  /-- They ask for help. -/
  | help
  /-- They ask for the version. -/
  | version
deriving DecidableEq, Repr

/-- Arguments as far as they are read. -/
structure Arguments where
  /-- The switches with their values. -/
  switches : List (String × Option String) := []
  /-- The words. -/
  words : List String := []
deriving DecidableEq, Repr

namespace Arguments

/-- Whether a switch is given. -/
def has (a : Arguments) (name : String) : Bool :=
  a.switches.any fun s => s.1 == name

/-- The value of a switch. -/
def value? (a : Arguments) (name : String) : Option String :=
  (a.switches.lookup name).join

/-- The quantity that a switch gives. -/
def quantity? (a : Arguments) (name : String) : Option Nat :=
  (a.value? name).bind wordOf?

/-- The arguments with a switch that is not given yet, and its value if it takes one. -/
def give (a : Arguments) (w : Switch) (value : Option String) : Except Stop Arguments :=
  let fits := match w.value, value with
    | none, none => true
    | some sort, some v => sort.admits v
    | _, _ => false
  if !fits || a.has w.name then .error .misuse
  else .ok { a with switches := a.switches ++ [(w.name, value)] }

end Arguments

/-! ## Reading -/

/-- What the arguments of a command may be. -/
structure Signature where
  /-- The switches. -/
  switches : List Switch
  /-- The words, in order. -/
  words : List Operand := []
  /-- Whether the first word ends the arguments, since it names a command with its own; then the
  version may be asked for. -/
  namesCommand : Bool := false
deriving Repr

namespace Signature

variable (s : Signature)

/-- What an unknown name or letter of a switch means. -/
def stopFor (name : String) (letter : Option Char) : Stop :=
  if name = "help" ∨ letter = some 'h' then .help
  else if s.namesCommand ∧ (name = "version" ∨ letter = some 'V') then .version
  else .misuse

/-- Whether an argument is a switch and not a word. -/
def isSwitch (arg : String) : Bool :=
  match arg.toList with
  | '-' :: _ :: _ => true
  | _ => false

/-- Reads a word. -/
def readWord (a : Arguments) (arg : String) : Except Stop Arguments :=
  if (s.words[a.words.length]?).any fun sort => sort.admits arg then
    .ok { a with words := a.words ++ [arg] }
  else .error .misuse

/-- Reads a switch by its long name; the result may wait for its value. -/
def readLong (text : List Char) (a : Arguments) : Except Stop (Arguments × Option Switch) :=
  let (name, rest) := text.span (· ≠ '=')
  let name := String.ofList name
  let value := match rest with
    | [] => none
    | _ :: v => some (String.ofList v)
  match s.switches.find? fun w => w.name == name with
  | none => .error (if value.isSome then .misuse else s.stopFor name none)
  | some w =>
    if w.value.isSome ∧ value.isNone then .ok (a, some w)
    else (a.give w value).map (·, none)

/-- Reads switches by their letters; the last may wait for its value. -/
def readLetters : List Char → Arguments → Except Stop (Arguments × Option Switch)
  | [], a => .ok (a, none)
  | c :: cs, a =>
    match s.switches.find? fun w => w.letter == some c with
    | none => .error (s.stopFor "" (some c))
    | some w =>
      if w.value.isSome then
        match cs with
        | [] => .ok (a, some w)
        | '=' :: v => (a.give w (some (String.ofList v))).map (·, none)
        | v => (a.give w (some (String.ofList v))).map (·, none)
      else do readLetters cs (← a.give w none)

/-- Reads the arguments of a command after those that are read; the switch is one whose value comes
next.  What follows the word that ends them is left. -/
def read : Option Switch → Arguments → List String → Except Stop (Arguments × List String)
  | none, a, [] => .ok (a, [])
  | some _, _, [] => .error .misuse
  | some w, a, arg :: rest =>
    if isSwitch arg then .error .misuse
    else do read none (← a.give w (some arg)) rest
  | none, a, arg :: rest =>
    match arg.toList with
    | ['-', '-'] => (rest.foldlM s.readWord a).map (·, [])
    | '-' :: '-' :: text => do
      let (a, waiting) ← s.readLong text a
      read waiting a rest
    | '-' :: c :: cs => do
      let (a, waiting) ← s.readLetters (c :: cs) a
      read waiting a rest
    | _ =>
      if s.namesCommand then .ok (a, arg :: rest)
      else do read none (← s.readWord a arg) rest

end Signature

end ContextIndex.Command
