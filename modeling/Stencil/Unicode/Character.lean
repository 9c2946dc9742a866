import Stencil.Unicode.Letter
import Stencil.Unicode.LetterCase
import Stencil.Unicode.Visible

/-!
# Classes of characters

The tables as predicates on `Char`. `isAlphanumeric` holds of every letter and every number, so a
text with a letter or a number in it always has an alphanumeric character. Like the tables they are
those of Unicode 15.0.
-/
namespace Stencil.Unicode

/-- Whether `c` is a letter or a number by its general category. -/
def isLetterOrNumber (c : Char) : Bool :=
  letter.contains c.toNat || decimalNumber.contains c.toNat || letterNumber.contains c.toNat
    || otherNumber.contains c.toNat

/-- Whether `c` is a number of any kind: a digit, a Roman numeral, a fraction. -/
def isNumeric (c : Char) : Bool :=
  decimalNumber.contains c.toNat || letterNumber.contains c.toNat || otherNumber.contains c.toNat

def isAlphabetic (c : Char) : Bool :=
  letter.contains c.toNat || letterNumber.contains c.toNat || otherAlphabetic.contains c.toNat

/-- Alphabetic or a number of any kind. -/
def isAlphanumeric (c : Char) : Bool :=
  isAlphabetic c || isNumeric c

/-- Whether `c` belongs to a word: alphabetic characters, digits, marks, connectors and the two
joiners. -/
def isWordChar (c : Char) : Bool :=
  isAlphabetic c || decimalNumber.contains c.toNat || mark.contains c.toNat
    || connector.contains c.toNat || c.toNat == 0x200C || c.toNat == 0x200D

def isLowercase (c : Char) : Bool := lowercase.contains c.toNat

def isUppercase (c : Char) : Bool := uppercase.contains c.toNat

def isCased (c : Char) : Bool := cased.contains c.toNat

def isCaseIgnorable (c : Char) : Bool := caseIgnorable.contains c.toNat

def extendsGrapheme (c : Char) : Bool := graphemeExtend.contains c.toNat

/-- Whether `c` has no visible form of its own; the space counts as visible. -/
def isInvisible (c : Char) : Bool := invisible.contains c.toNat

/-- Property White_Space. -/
def isBlank (c : Char) : Bool :=
  let n := c.toNat
  (9 ≤ n && n ≤ 13) || n == 0x20 || n == 0x85 || n == 0xA0 || n == 0x1680
    || (0x2000 ≤ n && n ≤ 0x200A) || n == 0x2028 || n == 0x2029 || n == 0x202F || n == 0x205F
    || n == 0x3000

theorem isAlphanumeric_of_isLetterOrNumber {c : Char} (h : isLetterOrNumber c = true) :
    isAlphanumeric c = true := by
  simp only [isLetterOrNumber, isAlphanumeric, isAlphabetic, isNumeric, Bool.or_eq_true] at h ⊢
  rcases h with ((h | h) | h) | h <;> simp [h]

end Stencil.Unicode
