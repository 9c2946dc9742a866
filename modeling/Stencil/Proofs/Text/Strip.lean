import Mathlib.Data.List.DropRight
import Stencil.Text.Split

/-!
# Texts without their ends

What is taken from the end of a text satisfies the predicate (`exists_end`), and nothing more can be
taken from what is left; cutting off a front gives what was behind it (`afterStart_eq_some_iff`).
-/
namespace Stencil.Text
variable {p : Char → Bool}

theorem afterStart_eq_some_iff {front cs rest : List Char} :
    afterStart front cs = some rest ↔ cs = front ++ rest := by
  fun_induction afterStart front cs with
  | case1 cs => simp
  | case2 => simp
  | case3 f front cs ih => simp [ih]
  | case4 f front c cs hne => simp [Ne.symm hne]

theorem dropEndWhile_eq (p : Char → Bool) (cs : List Char) : dropEndWhile p cs = cs.rdropWhile p :=
  rfl

/-- A text is what is left of it and an end that satisfies the predicate. -/
theorem exists_end (p : Char → Bool) (cs : List Char) :
    ∃ tail, cs = dropEndWhile p cs ++ tail ∧ ∀ c ∈ tail, p c :=
  ⟨cs.rtakeWhile p, (List.rdropWhile_append_rtakeWhile ..).symm, fun _ => List.mem_rtakeWhile_imp⟩

theorem dropEndWhile_append (cs : List Char) {tail : List Char} (h : ∀ c ∈ tail, p c) :
    dropEndWhile p (cs ++ tail) = dropEndWhile p cs := by
  rw [dropEndWhile, List.reverse_append,
    List.dropWhile_append_of_pos fun c hc => h c (List.mem_reverse.1 hc), dropEndWhile]

/-- A text without ends has none that could be taken off. -/
theorem dropEndWhile_stripWhile (p : Char → Bool) (cs : List Char) :
    dropEndWhile p (stripWhile p cs) = stripWhile p cs :=
  List.rdropWhile_idempotent ..

/-- What can be taken from the ends does not count there. -/
theorem stripWhile_append (cs : List Char) {tail : List Char} (h : ∀ c ∈ tail, p c) :
    stripWhile p (cs ++ tail) = stripWhile p cs := by
  rw [stripWhile, stripWhile, List.dropWhile_append]
  cases cs.dropWhile p with
  | nil => simp [List.dropWhile_eq_nil_iff.2 h]
  | cons c rest => exact dropEndWhile_append _ h

theorem stripWhile_cons_of_pos {c : Char} (hc : p c) (cs : List Char) :
    stripWhile p (c :: cs) = stripWhile p cs := by
  rw [stripWhile, stripWhile, List.dropWhile_cons_of_pos hc]

theorem stripWhile_of_trim {s : String} (h : trim s = s) :
    stripWhile Unicode.isBlank s.toList = s.toList := by
  conv_rhs => rw [← h, trim, String.toList_ofList]

theorem stripWhile_cons {c : Char} (hc : ¬ p c) (cs : List Char) :
    stripWhile p (c :: cs) = dropEndWhile p (c :: cs) := by
  rw [stripWhile, List.dropWhile_cons_of_neg hc]

/-- Nothing is taken from the end of a text that has a kept character in front of a kept end. -/
theorem dropEndWhile_append_cons (front : List Char) {c : Char} {cs : List Char} (hc : ¬ p c)
    (hcs : dropEndWhile p cs = cs) :
    dropEndWhile p (front ++ c :: cs) = front ++ c :: cs := by
  refine List.rdropWhile_eq_self_iff.2 fun _ => ?_
  rw [List.getLast_append_of_ne_nil _ (List.cons_ne_nil c cs)]
  by_cases hne : cs = []
  · subst hne
    exact hc
  · rw [List.getLast_cons hne]
    exact List.rdropWhile_eq_self_iff.1 hcs hne

end Stencil.Text
