import Stencil.Unicode.CaseMapping
import Stencil.Text.Split

/-!
# Identifiers made from a name

A name is cut into words wherever other characters than letters and numbers stand, and the words
are put together again in one of five styles. `separated` writes words with a separator between
them and starts a new word also at a capital letter beside a small one; `joined` writes the words
without any separator and capitalises their first letters. The styles are those of `cruet` 0.15.0.
-/
namespace Stencil.Identifier
open Stencil.Unicode
open Stencil.Text (dropEndWhile)

/-- Whether `c` can only stand between words. -/
def divides (c : Char) : Bool := !isAlphanumeric c

/-- Whether `c` is no small letter of the Latin alphabet: a capital, a digit or any other letter. -/
def standsOut (c : Char) : Bool := c == asciiUpper c

/-- Whether the character of `name` at position `i` is a small letter. -/
def isLowerAt (name : List Char) (i : Nat) : Bool :=
  match name[i]? with
  | some c => isLowercase c
  | none => false

/-- Writes the words of `cs`, a part of `name` that starts at byte `at`, each in the case of
`recase` and with `sep` between them. `fresh` holds where nothing of the present word has been
written. A character that stands out starts a word of its own when a neighbour is a small letter;
neighbours are taken by position `at` in `name`. -/
def separatedFrom (sep : Char) (recase : Char → Char) (name : List Char) :
    Bool → Nat → List Char → List Char
  | _, _, [] => []
  | fresh, at_, c :: rest =>
    let next := at_ + c.utf8Size
    if divides c then
      if fresh then separatedFrom sep recase name true next rest
      else sep :: separatedFrom sep recase name true next rest
    else if !fresh && standsOut c && (isLowerAt name (at_ + 1) || isLowerAt name (at_ - 1)) then
      sep :: recase c :: separatedFrom sep recase name false next rest
    else recase c :: separatedFrom sep recase name false next rest

/-- The words of a name with `sep` between them. -/
def separated (sep : Char) (recase : Char → Char) (name : List Char) : List Char :=
  separatedFrom sep recase name true 0 (dropEndWhile divides name)

/-- Where the writer of joined words stands. -/
structure Joint where
  /-- A letter or number has been written. -/
  begun : Bool
  /-- The next letter starts a word. -/
  newWord : Bool
  /-- The last character written in small form. -/
  last : Char

/-- Writes the words of `cs` without separators. A number ends a word, and so does a small letter
before a capital one. -/
def joinedFrom : Joint → List Char → List Char
  | _, [] => []
  | state, c :: rest =>
    if divides c then
      joinedFrom (if state.begun then { state with newWord := true } else state) rest
    else if isNumeric c then
      c :: joinedFrom { state with begun := true, newWord := true } rest
    else if state.newWord || (isLowercase state.last && isUppercase c) then
      asciiUpper c :: joinedFrom { state with begun := true, newWord := false } rest
    else
      asciiLower c :: joinedFrom { state with begun := true, last := c } rest

/-- The words of a name put together, the first one capitalised if `capital` holds. -/
def joined (capital : Bool) (name : List Char) : List Char :=
  joinedFrom { begun := false, newWord := capital, last := ' ' } (dropEndWhile divides name)

/-- `PaymentGateway` -/
def classCase (name : String) : String := String.ofList (joined true name.toList)

/-- `paymentGateway` -/
def camelCase (name : String) : String := String.ofList (joined false name.toList)

/-- `payment-gateway` -/
def dashCase (name : String) : String := String.ofList (separated '-' asciiLower name.toList)

/-- `payment_gateway` -/
def snakeCase (name : String) : String := String.ofList (separated '_' asciiLower name.toList)

/-- `PAYMENT_GATEWAY` -/
def constantCase (name : String) : String := String.ofList (separated '_' asciiUpper name.toList)

/-- A name in the five styles (`NameVariants`). -/
structure Variants where
  /-- `PaymentGateway` -/
  classStyle : String
  /-- `payment-gateway` -/
  dash : String
  /-- `paymentGateway` -/
  camel : String
  /-- `payment_gateway` -/
  snake : String
  /-- `PAYMENT_GATEWAY` -/
  constant : String
  deriving DecidableEq, Repr

/-- Every style of one name (`NameVariants.from_name`). -/
def Variants.ofName (name : String) : Variants where
  classStyle := classCase name
  dash := dashCase name
  camel := camelCase name
  snake := snakeCase name
  constant := constantCase name

end Stencil.Identifier
