import Stencil.Proofs.Text.Split
import Stencil.Proofs.Text.Strip

/-!
# Pieces without blanks around them

The words of a text are its pieces without the blanks around them; blank pieces are passed over.
Blanks around the text itself do not matter then (`words_trim`), and the words of texts that are
joined with the separator are the words of each (`words_intercalate`).
-/
namespace Stencil.Text
variable {sep : Char} {p : Char → Bool}

theorem stripWhile_stripWhile (p : Char → Bool) (cs : List Char) :
    stripWhile p (stripWhile p cs) = stripWhile p cs := by
  obtain ⟨tail, hcs, htail⟩ := exists_end p (cs.dropWhile p)
  have hstrip : stripWhile p cs ++ tail = cs.dropWhile p := hcs.symm
  calc stripWhile p (stripWhile p cs)
      = stripWhile p (stripWhile p cs ++ tail) := (stripWhile_append _ htail).symm
    _ = dropEndWhile p ((cs.dropWhile p).dropWhile p) := by rw [hstrip, stripWhile]
    _ = stripWhile p cs := by rw [List.dropWhile_idempotent, stripWhile]

theorem trim_trim (s : String) : trim (trim s) = trim s := by
  rw [trim, trim, String.toList_ofList, stripWhile_stripWhile]

/-- What is written behind a text belongs to its last piece, up to the next separator. -/
theorem exists_last_splitAt (sep : Char) (cs : List Char) :
    ∃ front last, splitAt sep cs = front ++ [last] ∧
      ∀ tail, sep ∉ tail → splitAt sep (cs ++ tail) = front ++ [last ++ tail] := by
  induction cs with
  | nil => exact ⟨[], [], rfl, fun tail htail => by simp [splitAt_of_not_mem htail]⟩
  | cons c rest ih =>
    obtain ⟨front, last, hrest, happend⟩ := ih
    by_cases hc : c = sep
    · refine ⟨[] :: front, last, by simp [splitAt, hc, hrest], fun tail htail => ?_⟩
      simp [splitAt, hc, happend tail htail]
    · cases front with
      | nil =>
        refine ⟨[], c :: last, by simp [splitAt, hc, hrest], fun tail htail => ?_⟩
        simp [splitAt, hc, happend tail htail]
      | cons first front =>
        refine ⟨(c :: first) :: front, last, by simp [splitAt, hc, hrest], fun tail htail => ?_⟩
        simp [splitAt, hc, happend tail htail]

section Stripped
variable (hsep : ¬ p sep)
include hsep

theorem map_stripWhile_splitAt_cons {c : Char} (hc : p c) (cs : List Char) :
    (splitAt sep (c :: cs)).map (stripWhile p) = (splitAt sep cs).map (stripWhile p) := by
  have hne : c ≠ sep := by
    rintro rfl
    exact hsep hc
  obtain ⟨piece, pieces, hcs, hcons⟩ := splitAt_cons_of_ne hne cs
  rw [hcons, hcs, List.map_cons, List.map_cons, stripWhile_cons_of_pos hc]

theorem map_stripWhile_splitAt_append (cs : List Char) {tail : List Char}
    (htail : ∀ c ∈ tail, p c) :
    (splitAt sep (cs ++ tail)).map (stripWhile p) = (splitAt sep cs).map (stripWhile p) := by
  obtain ⟨front, last, hcs, happend⟩ := exists_last_splitAt sep cs
  rw [happend tail fun hmem => hsep (htail sep hmem), hcs, List.map_append, List.map_append,
    List.map_singleton, List.map_singleton, stripWhile_append last htail]

/-- What is stripped from the ends of a text is stripped from its pieces as well. -/
theorem map_stripWhile_splitAt (cs : List Char) :
    (splitAt sep (stripWhile p cs)).map (stripWhile p) = (splitAt sep cs).map (stripWhile p) := by
  have hfront : (splitAt sep (cs.dropWhile p)).map (stripWhile p) =
      (splitAt sep cs).map (stripWhile p) := by
    induction cs with
    | nil => rfl
    | cons c rest ih =>
      by_cases hc : p c
      · rw [List.dropWhile_cons_of_pos hc, ih, map_stripWhile_splitAt_cons hsep hc]
      · rw [List.dropWhile_cons_of_neg hc]
  obtain ⟨tail, hcs, htail⟩ := exists_end p (cs.dropWhile p)
  rw [← hfront, hcs, map_stripWhile_splitAt_append hsep _ htail, stripWhile]

end Stripped

/-! ## Words -/

/-- The pieces of a text without the blanks around them, the blank ones left out. -/
def words (sep : Char) (s : String) : List String := ((split sep s).map trim).filter (· ≠ "")

theorem words_eq (sep : Char) (s : String) :
    words sep s = ((split sep s).filter fun piece => trim piece ≠ "").map trim :=
  List.filter_map

theorem map_trim_split (sep : Char) (s : String) : (split sep s).map trim =
    ((splitAt sep s.toList).map (stripWhile Unicode.isBlank)).map String.ofList := by
  simp [split, trim, Function.comp_def]

theorem words_trim (hsep : ¬ Unicode.isBlank sep) (s : String) :
    words sep (trim s) = words sep s := by
  rw [words, words, map_trim_split, map_trim_split, trim, String.toList_ofList,
    map_stripWhile_splitAt hsep]

theorem words_empty (sep : Char) : words sep "" = [] := by
  simp [words, split, splitAt, trim, stripWhile, dropEndWhile]

theorem words_intercalate (sep : Char) (parts : List String) :
    words sep ((String.ofList [sep]).intercalate parts) = parts.flatMap (words sep) := by
  by_cases h : parts = []
  · rw [h, String.intercalate_nil, words_empty, List.flatMap_nil]
  · have hsplit : split sep ((String.ofList [sep]).intercalate parts) =
        parts.flatMap (split sep) := by
      rw [split, toList_intercalate, splitAt_join (by simpa using h), List.map_flatMap,
        List.flatMap_map]
      rfl
    rw [words, hsplit, List.map_flatMap, List.filter_flatMap]
    rfl

end Stencil.Text
