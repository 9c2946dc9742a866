import Mathlib.Data.List.Basic

/-!
# Reading a text with quoted texts in it

A text is read from left to right: a single or double quote opens a quoted text, the same quote
closes it, and a backslash in it takes the next character along. Two readers that agree on where
quoted texts begin and end agree on what stands outside of them.
-/
namespace Stencil.Text

/-- Where the reading of a text stands. -/
inductive Reading
  | outside
  | inside (quote : Char)
  /-- In a quoted text, behind a backslash. -/
  | escaped (quote : Char)
  deriving DecidableEq, Repr

namespace Reading

def IsQuote (c : Char) : Prop := c = '"' ∨ c = '\''

instance : DecidablePred IsQuote := fun c => inferInstanceAs (Decidable (c = '"' ∨ c = '\''))

/-- Where the reading stands after a character. -/
def next : Reading → Char → Reading
  | outside, c => if IsQuote c then inside c else outside
  | inside q, c => if c = '\\' then escaped q else if c = q then outside else inside q
  | escaped q, _ => inside q

/-- Where the reading stands after a text. -/
def after (r : Reading) (cs : List Char) : Reading := cs.foldl next r

@[simp] theorem after_nil (r : Reading) : r.after [] = r := rfl

@[simp] theorem after_cons (r : Reading) (c : Char) (cs : List Char) :
    r.after (c :: cs) = (r.next c).after cs := rfl

@[simp] theorem after_append (r : Reading) (cs ds : List Char) :
    r.after (cs ++ ds) = (r.after cs).after ds :=
  List.foldl_append ..

theorem IsQuote.ne_backslash {c : Char} (h : IsQuote c) : c ≠ '\\' := by
  rintro rfl
  exact absurd h (by decide)

theorem next_of_isQuote {c : Char} (h : IsQuote c) : outside.next c = inside c := if_pos h

theorem next_outside {c : Char} (h : ¬ IsQuote c) : outside.next c = outside := if_neg h

theorem next_inside {c : Char} (hc : c ≠ '\\') (q : Char) :
    (inside q).next c = if c = q then outside else inside q :=
  if_neg hc

/-- Nothing is opened where there is no quote. -/
theorem after_outside {cs : List Char} (h : ∀ c ∈ cs, ¬ IsQuote c) :
    outside.after cs = outside := by
  induction cs with
  | nil => rfl
  | cons c rest ih =>
    rw [List.forall_mem_cons] at h
    rw [after_cons, next_outside h.1, ih h.2]

/-- Whether a quoted text that is open was opened by a quote. -/
def Sound : Reading → Prop
  | outside => True
  | inside q | escaped q => IsQuote q

theorem sound_outside : outside.Sound := trivial

theorem Sound.next {r : Reading} (h : r.Sound) (c : Char) : (r.next c).Sound := by
  cases r with
  | outside =>
    simp only [Reading.next]
    split
    · assumption
    · trivial
  | inside q =>
    simp only [Reading.next]
    split
    · exact h
    · split
      · trivial
      · exact h
  | escaped q => exact h

theorem Sound.after {r : Reading} (h : r.Sound) (cs : List Char) : (r.after cs).Sound := by
  induction cs generalizing r with
  | nil => exact h
  | cons c rest ih => exact ih (h.next c)

/-- Where there is no quote, what is open stays open. -/
theorem after_eq_outside_iff {r : Reading} (hr : r.Sound) {cs : List Char}
    (h : ∀ c ∈ cs, ¬ IsQuote c) : r.after cs = outside ↔ r = outside := by
  induction cs generalizing r with
  | nil => rfl
  | cons c rest ih =>
    rw [List.forall_mem_cons] at h
    rw [after_cons, ih (hr.next c) h.2]
    cases r with
    | outside => simp only [next_outside h.1]
    | inside q =>
      have hcq : c ≠ q := by
        rintro rfl
        exact h.1 hr
      simp only [Reading.next, if_neg hcq]
      split <;> simp
    | escaped q => simp [Reading.next]

end Reading
end Stencil.Text
