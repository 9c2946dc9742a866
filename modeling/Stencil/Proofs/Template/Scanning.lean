import Stencil.Proofs.Text.Quotes
import Stencil.Template.Placeholder

/-!
# Where placeholders end

A placeholder ends at the first two closing braces that stand outside of quoted texts (`cutClose`,
`bodyPieces_eq`), wherever else braces stand in it. If there are none, it reaches to the end of the
template.
-/
namespace Stencil.Template
open Text (Reading)

/-- What stands before and behind the first two closing braces outside of quoted texts. -/
def cutClose : Reading → List Char → Option (List Char × List Char)
  | _, [] => none
  | .outside, '\x7d' :: '\x7d' :: rest => some ([], rest)
  | r, c :: rest => (cutClose (r.next c) rest).map fun (before, after) => (c :: before, after)

theorem cutClose_cons {r : Reading} {c : Char} {rest : List Char}
    (h : ¬ (r = .outside ∧ c = '\x7d' ∧ rest.head? = some '\x7d')) : cutClose r (c :: rest) =
      (cutClose (r.next c) rest).map fun (before, after) => (c :: before, after) := by
  rw [cutClose]
  rintro rest' rfl rfl rfl
  exact h ⟨rfl, rfl, rfl⟩

/-- A text either starts with two closing braces outside of quoted texts or does not. -/
theorem closes_or_cutClose_cons (r : Reading) (c : Char) (rest : List Char) :
    (∃ after, r = .outside ∧ c = '\x7d' ∧ rest = '\x7d' :: after) ∨
      cutClose r (c :: rest) =
        (cutClose (r.next c) rest).map fun (before, after) => (c :: before, after) := by
  by_cases h : r = .outside ∧ c = '\x7d' ∧ rest.head? = some '\x7d'
  · obtain ⟨hr, hc, hrest⟩ := h
    obtain ⟨after, rfl⟩ := List.head?_eq_some_iff.1 hrest
    exact .inl ⟨after, hr, hc, rfl⟩
  · exact .inr (cutClose_cons h)

/-- What is found are two closing braces outside of quoted texts. -/
theorem cutClose_eq_some {r : Reading} {cs before after : List Char}
    (h : cutClose r cs = some (before, after)) :
    cs = before ++ '\x7d' :: '\x7d' :: after ∧ r.after before = .outside := by
  induction cs generalizing r before with
  | nil => cases h
  | cons c rest ih =>
    obtain ⟨after', rfl, rfl, rfl⟩ | hcons := closes_or_cutClose_cons r c rest
    · cases h
      exact ⟨rfl, rfl⟩
    · rw [hcons, Option.map_eq_some_iff] at h
      obtain ⟨⟨front, back⟩, hrest, hfront⟩ := h
      cases hfront
      obtain ⟨hcut, hread⟩ := ih hrest
      exact ⟨by rw [hcut, List.cons_append], hread⟩

/-- Where there are two closing braces outside of quoted texts, some are found. -/
theorem cutClose_ne_none {r : Reading} {before : List Char} (h : r.after before = .outside)
    (after : List Char) : cutClose r (before ++ '\x7d' :: '\x7d' :: after) ≠ none := by
  induction before generalizing r with
  | nil =>
    rw [Reading.after_nil] at h
    subst h
    exact Option.some_ne_none _
  | cons c rest ih =>
    rw [List.cons_append]
    obtain ⟨after', rfl, rfl, hrest⟩ | hcons :=
      closes_or_cutClose_cons r c (rest ++ '\x7d' :: '\x7d' :: after)
    · rw [hrest]
      exact Option.some_ne_none _
    · rw [hcons, Ne, Option.map_eq_none_iff]
      exact ih h

/-- What is found are the first two closing braces outside of quoted texts. -/
theorem cutClose_isPrefix {r : Reading} {cs before after before' after' : List Char}
    (h : cutClose r cs = some (before, after)) (hcs : cs = before' ++ '\x7d' :: '\x7d' :: after')
    (hread : r.after before' = .outside) : before <+: before' := by
  induction cs generalizing r before before' with
  | nil => cases h
  | cons c rest ih =>
    cases before' with
    | nil =>
      obtain ⟨rfl, rfl⟩ := List.cons.inj hcs
      rw [Reading.after_nil] at hread
      subst hread
      cases h
      exact List.nil_prefix
    | cons d front =>
      obtain ⟨rfl, hrest⟩ := List.cons.inj hcs
      obtain ⟨_, rfl, rfl, rfl⟩ | hcons := closes_or_cutClose_cons r c rest
      · cases h
        exact List.nil_prefix
      · rw [hcons, Option.map_eq_some_iff] at h
        obtain ⟨⟨found, back⟩, hfound, hbefore⟩ := h
        cases hbefore
        exact List.cons_prefix_cons.2 ⟨rfl, ih hfound hrest hread⟩

/-- What is found stays found, whatever follows. -/
theorem cutClose_append_of_some {r : Reading} {cs before after : List Char} (tail : List Char)
    (h : cutClose r cs = some (before, after)) :
    cutClose r (cs ++ tail) = some (before, after ++ tail) := by
  induction cs generalizing r before with
  | nil => cases h
  | cons c rest ih =>
    obtain ⟨after', rfl, rfl, hrest⟩ | hcons := closes_or_cutClose_cons r c (rest ++ tail)
    · cases rest with
      | nil => cases h
      | cons d more =>
        obtain ⟨rfl, -⟩ := List.cons.inj hrest
        cases h
        rfl
    · obtain ⟨after', rfl, rfl, rfl⟩ | hcons' := closes_or_cutClose_cons r c rest
      · cases h
        rfl
      · rw [hcons', Option.map_eq_some_iff] at h
        obtain ⟨⟨front, back⟩, hfound, hfront⟩ := h
        cases hfront
        rw [List.cons_append, hcons, ih hfound]
        rfl

/-- Where nothing is found, the search goes on in what follows. -/
theorem cutClose_append_of_none {r : Reading} {cs tail : List Char} (h : cutClose r cs = none)
    (htail : tail.head? ≠ some '\x7d') : cutClose r (cs ++ tail) =
      (cutClose (r.after cs) tail).map fun (before, after) => (cs ++ before, after) := by
  induction cs generalizing r with
  | nil => simp
  | cons c rest ih =>
    obtain ⟨after, rfl, rfl, hrest⟩ | hcons := closes_or_cutClose_cons r c (rest ++ tail)
    · -- The second brace is not the first character of the tail, so two were found before.
      cases rest with
      | nil => exact absurd (congrArg List.head? hrest) htail
      | cons d more =>
        obtain ⟨rfl, -⟩ := List.cons.inj hrest
        cases h
    · obtain ⟨after, rfl, rfl, rfl⟩ | hcons' := closes_or_cutClose_cons r c rest
      · cases h
      · rw [hcons', Option.map_eq_none_iff] at h
        rw [List.cons_append, hcons, ih h, Option.map_map]
        rfl

/-! ## The pieces of a placeholder -/

/-- Where the reading stands in a placeholder. -/
def readingOf : Option Char → Reading
  | none => .outside
  | some q => .inside q

theorem readingOf_opened (c : Char) :
    readingOf (if c = '"' ∨ c = '\'' then some c else none) = Reading.outside.next c :=
  apply_ite readingOf _ _ _

theorem readingOf_closed {q c : Char} (hc : c ≠ '\\') :
    readingOf (if c = q then none else some q) = (Reading.inside q).next c := by
  rw [Reading.next_inside hc]
  exact apply_ite readingOf _ _ _

theorem bodyPieces_outside {c : Char} {rest : List Char}
    (h : ¬ (c = '\x7d' ∧ rest.head? = some '\x7d')) (body : List Char) :
    bodyPieces none body (c :: rest) =
      bodyPieces (if c = '"' ∨ c = '\'' then some c else none) (c :: body) rest := by
  rw [bodyPieces]
  rintro rest' rfl rfl
  exact h ⟨rfl, rfl⟩

theorem bodyPieces_inside {c : Char} (hc : c ≠ '\\') (q : Char) (body rest : List Char) :
    bodyPieces (some q) body (c :: rest) =
      bodyPieces (if c = q then none else some q) (c :: body) rest := by
  rw [bodyPieces]
  · rintro rfl
    exact absurd rfl hc
  · rintro d more rfl
    exact absurd rfl hc

/-- A placeholder ends at the first two closing braces outside of quoted texts. -/
theorem bodyPieces_eq (quote : Option Char) (body cs : List Char) :
    bodyPieces quote body cs =
      match cutClose (readingOf quote) cs with
      | some (before, after) => .placeholder (body.reverse ++ before) :: pieces after
      | none => [.unterminated] := by
  -- A backslash takes a character along, so the induction is on the length.
  induction hn : cs.length using Nat.strongRecOn generalizing quote body cs with
  | ind n ih =>
    subst hn
    cases cs with
    | nil => simp [bodyPieces, cutClose]
    | cons c rest =>
      cases quote with
      | none =>
        by_cases h : c = '\x7d' ∧ rest.head? = some '\x7d'
        · obtain ⟨rfl, hrest⟩ := h
          obtain ⟨after, rfl⟩ := List.head?_eq_some_iff.1 hrest
          simp [bodyPieces, readingOf, cutClose]
        · rw [bodyPieces_outside h, ih _ (by simp) _ _ _ rfl, readingOf_opened, readingOf,
            cutClose_cons fun hclose => h hclose.2]
          cases cutClose (Reading.outside.next c) rest <;> simp
      | some q =>
        rw [readingOf, cutClose_cons (by simp)]
        by_cases hc : c = '\\'
        · subst hc
          cases rest with
          | nil => simp [bodyPieces, cutClose]
          | cons d more =>
            have hshorter : more.length < ('\\' :: d :: more).length := by
              simp only [List.length_cons]
              omega
            rw [bodyPieces, ih _ hshorter _ _ _ rfl, readingOf]
            simp only [Reading.next, if_true]
            rw [cutClose_cons (by simp), Reading.next]
            cases cutClose (Reading.inside q) more <;> simp
        · rw [bodyPieces_inside hc, ih _ (by simp) _ _ _ rfl, readingOf_closed hc]
          cases cutClose ((Reading.inside q).next c) rest <;> simp

end Stencil.Template
