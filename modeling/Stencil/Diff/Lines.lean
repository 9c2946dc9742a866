/-!
# Lines of a text

A line ends with a line feed, a carriage return, or both in this order, and holds its end. The last
line may lack one. The lines put together are the text. Texts are cut as by `similar` 2.7.
-/
namespace Stencil.Diff

/-- A line with its end. -/
abbrev Line := List Char

/-- Puts a character in front of the first line. -/
def prepend (c : Char) : List Line → List Line
  | [] => [[c]]
  | line :: rest => (c :: line) :: rest

def lines : List Char → List Line
  | [] => []
  | '\r' :: '\n' :: rest => ['\r', '\n'] :: lines rest
  | c :: rest => if c = '\n' ∨ c = '\r' then [c] :: lines rest else prepend c (lines rest)

def isEnded (line : Line) : Bool :=
  match line.getLast? with
  | some c => c = '\n' || c = '\r'
  | none => false

theorem flatten_prepend (c : Char) (ls : List Line) : (prepend c ls).flatten = c :: ls.flatten := by
  cases ls <;> simp [prepend]

theorem flatten_lines (cs : List Char) : (lines cs).flatten = cs := by
  fun_induction lines cs with
  | case1 => rfl
  | case2 rest ih => simp [ih]
  | case3 c rest _ h ih => simp [ih]
  | case4 c rest _ h ih => simp [flatten_prepend, ih]

end Stencil.Diff
