import ContextIndex.Text.CombiningClass
import ContextIndex.Text.Composition

/-!
# Composed texts

Texts that look alike may be written in several ways: a letter with a mark as one character or as two,
and marks of different classes in any order.  The composed form of a text takes all characters apart,
puts the marks in the order of their classes, and puts together what can be written as one character.
-/

namespace ContextIndex.Text

/-- How many times a character can be taken apart. -/
def maxParts : Nat := 3

/-- The characters that one stands for, taken apart a number of times. -/
def takenApart : Nat → Char → List Char
  | 0, c => [c]
  | n + 1, c =>
    match parts? c with
    | some (a, b) => takenApart n a ++ [b]
    | none => [c]

/-- A character put in front of a text, behind the marks of lower classes there. -/
def putMark (c : Char) : List Char → List Char
  | [] => [c]
  | d :: ds =>
    if 0 < combiningClass d ∧ combiningClass d < combiningClass c then d :: putMark c ds
    else c :: d :: ds

/-- A text with its marks in the order of their classes. -/
def orderMarks (cs : List Char) : List Char :=
  cs.foldr putMark []

/-- A character that marks may join, those behind it that did not, the last of them first, and a text
that follows them.  A mark joins unless one of the same class or a higher one stands in between. -/
def joined (base : Char) (apart : List Char) : List Char → List Char
  | [] => base :: apart.reverse
  | c :: cs =>
    let free := match apart with
      | [] => true
      | d :: _ => decide (combiningClass d < combiningClass c)
    match if free then composed? base c else none with
    | some whole => joined whole apart cs
    | none =>
      if combiningClass c = 0 then base :: apart.reverse ++ joined c [] cs
      else joined base (c :: apart) cs

/-- A text with its marks in order, put together. -/
def putTogether : List Char → List Char
  | [] => []
  | c :: cs => if combiningClass c = 0 then joined c [] cs else c :: putTogether cs

/-- The composed form of a text. -/
def composedForm (cs : List Char) : List Char :=
  putTogether (orderMarks (cs.flatMap (takenApart maxParts)))

example : composedForm "e\u0301".toList = "é".toList := by decide +kernel
example : composedForm "a\u0301\u0323".toList = "ạ\u0301".toList := by decide +kernel
example : composedForm "\u1112\u1161\u11ab".toList = "한".toList := by decide +kernel

end ContextIndex.Text
