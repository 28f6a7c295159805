import ContextIndex.Domain.Label

/-!
# Names of domains

A name is folded and composed before its labels are read.  If one of them has a character that is
written to the left, each label has to keep to one direction: it starts with a letter, ends with a
letter or a digit, and holds no letter of the other direction and not both kinds of digits.
-/

namespace ContextIndex.Domain

open Text (Direction direction)

/-! ## Direction -/

/-- Whether a character is written to the left. -/
def runsLeft (c : Char) : Bool :=
  [Direction.right, .arabicLetter, .arabicNumber].contains (direction c)

/-- What may stand in any label that keeps to one direction. -/
def weak : List Direction :=
  [.europeanNumber, .europeanSeparator, .commonSeparator, .europeanTerminator, .neutral, .boundary,
    .nonspacing]

/-- Characters without the marks at their end. -/
def withoutLastMarks (ds : List Direction) : List Direction :=
  (ds.reverse.dropWhile (· == .nonspacing)).reverse

/-- Whether a label keeps to one direction. -/
def keepsDirection (label : List Char) : Bool :=
  match label.map direction with
  | [] => true
  | first :: rest =>
    let rest := withoutLastMarks rest
    let last := rest.getLast?.getD first
    if first == .left then
      [Direction.left, .europeanNumber].contains last &&
        rest.all fun d => d == .left || weak.contains d
    else if first == .right || first == .arabicLetter then
      [Direction.right, .arabicLetter, .europeanNumber, .arabicNumber].contains last &&
        (rest.all fun d =>
          [Direction.right, .arabicLetter, .arabicNumber].contains d || weak.contains d) &&
        !(rest.contains .europeanNumber && rest.contains .arabicNumber)
    else false

/-! ## Names -/

/-- The labels of a name as it is written. -/
def labels? (name : List Char) : Option (List Label) :=
  if name.any isRefused then none
  else (Path.pieces '.' (Text.composedForm (name.flatMap fold))).mapM Label.ofChars?

/-- A name in ASCII, unless it breaks a rule or has a character that is denied. -/
def toAscii? (denied : Char → Bool) (name : List Char) : Option (List Char) := do
  let labels ← labels? name
  let texts := labels.map Label.text
  if texts.any (·.any denied) then none
  else if texts.any (·.any runsLeft) ∧ ¬ texts.all keepsDirection then none
  else some (List.intercalate ['.'] (labels.map Label.ascii))

end ContextIndex.Domain
