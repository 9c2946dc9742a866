/-!
# Bytes that are read as text

The paths of the operating system are bytes. They are a text in UTF-8 as a rule, but need not be:
`lossy` reads any bytes as a text, in which the character U+FFFD stands for what is not UTF-8. It
stands for a single byte, or for all the bytes of a character that is broken off (`strayLength`).
-/
namespace Stencil.Text

/-- The bytes of several characters. -/
def encode (cs : List Char) : List UInt8 := cs.flatMap String.utf8EncodeChar

/-- The character at the front of bytes, if there is one. -/
def first? (bytes : List UInt8) : Option Char := (bytes.take 4).toByteArray.utf8DecodeChar? 0

/-- Whether a byte of a character is not its first one. -/
def isContinuation (b : UInt8) : Bool := 0x80 ≤ b && b ≤ 0xBF

/-- Whether a character of three or four bytes can begin with these two. -/
def isBroken (lead second : UInt8) : Bool :=
  if lead = 0xE0 then 0xA0 ≤ second && second ≤ 0xBF
  else if lead = 0xED then 0x80 ≤ second && second ≤ 0x9F
  else if lead = 0xF0 then 0x90 ≤ second && second ≤ 0xBF
  else if lead = 0xF4 then 0x80 ≤ second && second ≤ 0x8F
  else 0xE1 ≤ lead && lead ≤ 0xF3 && isContinuation second

/-- The number of bytes at the front, where there is no character, that are read as one U+FFFD. -/
def strayLength : List UInt8 → Nat
  | lead :: second :: third :: _ =>
    if isBroken lead second then if 0xF0 ≤ lead && isContinuation third then 3 else 2 else 1
  | [lead, second] => if isBroken lead second then 2 else 1
  | _ => 1

theorem strayLength_pos (bytes : List UInt8) : 0 < strayLength bytes := by
  fun_cases strayLength bytes <;> omega

/-- Bytes as a text. -/
def lossy : List UInt8 → List Char
  | [] => []
  | b :: rest =>
    match first? (b :: rest) with
    | some c => c :: lossy ((b :: rest).drop c.utf8Size)
    | none => '\uFFFD' :: lossy ((b :: rest).drop (strayLength (b :: rest)))
termination_by bytes => bytes.length
decreasing_by
  · have := c.utf8Size_pos
    simp only [List.length_drop, List.length_cons]
    omega
  · have := strayLength_pos (b :: rest)
    simp only [List.length_drop, List.length_cons]
    omega

example : lossy [0x61, 0xF1, 0x80, 0x80, 0xE1, 0x80, 0xC2, 0x62, 0xE2, 0x82, 0xAC] =
    ['a', '\uFFFD', '\uFFFD', '\uFFFD', 'b', '€'] := by
  decide +kernel

end Stencil.Text
