import ContextIndex.Domain.Folding
import ContextIndex.Domain.Punycode
import ContextIndex.Domain.Refused
import ContextIndex.Text.Joining
import ContextIndex.Text.Mark
import ContextIndex.Text.Normal

/-!
# Labels

The labels of a name stand between its dots.  A label may hold any characters, and is then written in
letters, digits and hyphens after `xn--`; one that starts so already is read first.  No label starts
with a mark, and a character that controls joining needs something to join.
-/

namespace ContextIndex.Domain

/-- A label of a name. -/
structure Label where
  /-- Its characters. -/
  text : List Char
  /-- The same in ASCII. -/
  ascii : List Char
deriving DecidableEq, Repr

/-- Whether all characters are in ASCII. -/
def isAscii (cs : List Char) : Bool :=
  cs.all fun c => decide (c.toNat < 0x80)

/-- What a label starts with if its characters are written in ASCII. -/
def announcement : List Char := "xn--".toList

/-! ## Joining -/

/-- The class of marks that suppress a vowel. -/
def vowelSuppressor : Nat := 9

/-- Whether a character that controls joining, after others, the last of them first, and before others
has something to join: a mark that suppresses a vowel before it, or, for the one that keeps letters
apart, two letters that would join. -/
def hasToJoin (c : Char) (back rest : List Char) : Bool :=
  (back.head?.any fun b => Text.combiningClass b == vowelSuppressor) ||
    (c == '\u200c' && (back.find? fun b => !Text.isTransparent b).any Text.joinsNext &&
      (rest.find? fun r => !Text.isTransparent r).any Text.joinsBack)

/-- Whether each character that controls joining has something to join, behind some characters, the
last of them first. -/
def joinersFit (back : List Char) : List Char → Bool
  | [] => true
  | c :: cs =>
    (!(c == '\u200c' || c == '\u200d') || hasToJoin c back cs) && joinersFit (c :: back) cs

/-! ## Reading -/

/-- The most characters of a label that are not all in ASCII. -/
def maxWide : Nat := 1000

/-- The most characters after the announcement. -/
def maxWritten : Nat := 2000

/-- Whether the characters of a label may stand together. -/
def isSound (cs : List Char) : Bool :=
  !(cs.head?.any fun c => Text.inRanges Text.markRanges c.toNat) && joinersFit [] cs &&
    (isAscii cs || decide (cs.length ≤ maxWide))

/-- Whether a character stands for itself. -/
def isPlain (c : Char) : Bool :=
  !isRefused c && fold c == [c]

/-- The characters that an announced label writes, which may not be written differently. -/
def announced? (cs : List Char) : Option (List Char) := do
  if maxWritten < cs.length ∨ cs.isEmpty ∨ cs.getLast? = some '-' then none
  let text ← decodeLabel? cs
  if text.all isPlain ∧ Text.composedForm text = text then some text else none

/-- The label that folded and composed characters write. -/
def Label.ofChars? (cs : List Char) : Option Label := do
  let text ← if announcement.isPrefixOf cs then
      if isAscii cs then announced? (cs.drop announcement.length) else none
    else some cs
  if isSound text then
    some ⟨text, if isAscii cs then cs else announcement ++ encodeLabel cs⟩
  else none

end ContextIndex.Domain
