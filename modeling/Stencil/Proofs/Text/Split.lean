import Stencil.Text.Split

/-!
# Pieces between separators

No piece holds a separator, texts that are joined with separators are cut there again
(`splitAt_join`, `split_intercalate`), and the pieces of a text give it back (`intercalate_split`).
-/
namespace Stencil.Text

section Pieces
variable {α : Type} [DecidableEq α] {sep : α}

theorem splitAt_cons_of_ne {c : α} (h : c ≠ sep) (cs : List α) :
    ∃ piece pieces, splitAt sep cs = piece :: pieces ∧
      splitAt sep (c :: cs) = (c :: piece) :: pieces := by
  obtain ⟨piece, pieces, hp⟩ := List.exists_cons_of_ne_nil (splitAt_ne_nil sep cs)
  exact ⟨piece, pieces, hp, by simp [splitAt, h, hp]⟩

theorem not_mem_of_mem_splitAt {cs piece : List α} (h : piece ∈ splitAt sep cs) :
    sep ∉ piece := by
  induction cs generalizing piece with
  | nil =>
    rw [splitAt, List.mem_singleton] at h
    simp [h]
  | cons c cs ih =>
    by_cases hc : c = sep
    · rw [splitAt, if_pos hc] at h
      rcases List.mem_cons.1 h with rfl | h
      · exact List.not_mem_nil
      · exact ih h
    · obtain ⟨first, rest, hp, hs⟩ := splitAt_cons_of_ne hc cs
      rw [hs] at h
      rcases List.mem_cons.1 h with rfl | h
      · have := ih (hp ▸ List.mem_cons_self)
        simp [this, Ne.symm hc]
      · exact ih (hp ▸ List.mem_cons_of_mem _ h)

theorem subset_of_mem_splitAt {cs piece : List α} (h : piece ∈ splitAt sep cs) : piece ⊆ cs := by
  induction cs generalizing piece with
  | nil =>
    rw [splitAt, List.mem_singleton] at h
    simp [h]
  | cons c cs ih =>
    by_cases hc : c = sep
    · rw [splitAt, if_pos hc] at h
      rcases List.mem_cons.1 h with rfl | h
      · exact List.nil_subset _
      · exact List.subset_cons_of_subset c (ih h)
    · obtain ⟨first, rest, hp, hs⟩ := splitAt_cons_of_ne hc cs
      rw [hs] at h
      rcases List.mem_cons.1 h with rfl | h
      · exact List.cons_subset_cons c (ih (hp ▸ List.mem_cons_self))
      · exact List.subset_cons_of_subset c (ih (hp ▸ List.mem_cons_of_mem _ h))

theorem splitAt_of_not_mem {cs : List α} (h : sep ∉ cs) : splitAt sep cs = [cs] := by
  induction cs with
  | nil => rfl
  | cons c cs ih =>
    obtain ⟨hc, hcs⟩ := List.ne_and_not_mem_of_not_mem_cons h
    obtain ⟨piece, pieces, hp, hs⟩ := splitAt_cons_of_ne (Ne.symm hc) cs
    rw [ih hcs] at hp
    cases hp
    exact hs

/-- There is one piece more than there are separators. -/
theorem length_splitAt (sep : α) (cs : List α) :
    (splitAt sep cs).length = cs.count sep + 1 := by
  induction cs with
  | nil => rfl
  | cons c cs ih =>
    by_cases hc : c = sep
    · rw [splitAt, if_pos hc, List.length_cons, ih, hc, List.count_cons_self]
    · obtain ⟨piece, pieces, hp, hs⟩ := splitAt_cons_of_ne hc cs
      rw [hs, List.count_cons_of_ne hc, ← ih, hp, List.length_cons, List.length_cons]

/-- What is in front of a text without a separator belongs to the first piece. -/
theorem splitAt_append_of_not_mem {front cs piece : List α} {pieces : List (List α)}
    (h : sep ∉ front) (hcs : splitAt sep cs = piece :: pieces) :
    splitAt sep (front ++ cs) = (front ++ piece) :: pieces := by
  induction front with
  | nil => exact hcs
  | cons c front ih =>
    obtain ⟨hc, hfront⟩ := List.ne_and_not_mem_of_not_mem_cons h
    obtain ⟨first, rest, hp, hs⟩ := splitAt_cons_of_ne (Ne.symm hc) (front ++ cs)
    rw [ih hfront] at hp
    cases hp
    exact hs

theorem splitAt_append (as bs : List α) :
    splitAt sep (as ++ sep :: bs) = splitAt sep as ++ splitAt sep bs := by
  induction as with
  | nil => simp [splitAt]
  | cons a as ih =>
    by_cases ha : a = sep
    · simp [splitAt, ha, ih]
    · obtain ⟨piece, pieces, hp, hs⟩ := splitAt_cons_of_ne ha as
      obtain ⟨piece', pieces', hp', hs'⟩ := splitAt_cons_of_ne ha (as ++ sep :: bs)
      rw [ih, hp] at hp'
      cases hp'
      rw [List.cons_append, hs', hs]
      rfl

omit [DecidableEq α] in
theorem join_cons {part : List α} {parts : List (List α)} (h : parts ≠ []) :
    join [sep] (part :: parts) = part ++ sep :: join [sep] parts := by
  obtain ⟨next, rest, rfl⟩ := List.exists_cons_of_ne_nil h
  simp [join]

/-- Cutting joined texts gives the pieces of each. -/
theorem splitAt_join {parts : List (List α)} (h : parts ≠ []) :
    splitAt sep (join [sep] parts) = parts.flatMap (splitAt sep) := by
  induction parts with
  | nil => exact absurd rfl h
  | cons part parts ih =>
    by_cases hp : parts = []
    · simp [hp, join]
    · rw [join_cons hp, splitAt_append, ih hp, List.flatMap_cons]

/-- Pieces without the separator are cut out again. -/
theorem splitAt_join_of_not_mem {parts : List (List α)} (h : parts ≠ [])
    (hs : ∀ part ∈ parts, sep ∉ part) : splitAt sep (join [sep] parts) = parts := by
  rw [splitAt_join h, List.flatMap_def,
    List.map_congr_left (g := fun part => [part]) fun part hp => splitAt_of_not_mem (hs part hp)]
  exact List.flatMap_singleton' parts

end Pieces

variable {sep : Char}

/-- Joining is interspersing with the separator. -/
theorem ofList_join (parts : List (List Char)) : String.ofList (join [sep] parts) =
    (String.ofList [sep]).intercalate (parts.map String.ofList) := by
  induction parts with
  | nil => simp [join]
  | cons part parts ih =>
    by_cases hp : parts = []
    · simp [hp, join]
    · have hne : parts.map String.ofList ≠ [] := by simpa using hp
      rw [join_cons hp, List.map_cons, String.intercalate_cons_of_ne_nil hne, ← ih,
        ← String.ofList_append, ← String.ofList_append]
      simp

theorem map_ofList_toList (names : List String) :
    (names.map String.toList).map String.ofList = names := by
  simp [Function.comp_def]

theorem toList_intercalate (sep : Char) (names : List String) :
    ((String.ofList [sep]).intercalate names).toList = join [sep] (names.map String.toList) := by
  have joined := @ofList_join sep (names.map String.toList)
  rw [map_ofList_toList] at joined
  rw [← joined, String.toList_ofList]

/-- Names without the separator are the pieces of their text. -/
theorem split_intercalate {names : List String} (h : names ≠ [])
    (hs : ∀ name ∈ names, sep ∉ name.toList) :
    split sep ((String.ofList [sep]).intercalate names) = names := by
  rw [split, toList_intercalate, splitAt_join_of_not_mem (by simpa using h) (by simpa using hs),
    map_ofList_toList]

/-- A text is its pieces with separators between them. -/
theorem intercalate_split (sep : Char) (s : String) :
    (String.ofList [sep]).intercalate (split sep s) = s := by
  rw [split, ← ofList_join, join_splitAt, String.ofList_toList]

end Stencil.Text
