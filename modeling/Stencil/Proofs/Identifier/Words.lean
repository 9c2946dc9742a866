import Mathlib.Data.List.DropRight
import Stencil.Identifier.Casing

/-!
# The words of identifiers

A name with a letter or a number in it has words, and each style writes the same ones: with a
separator between them (`separated_words`), or put together (`joined_isWord`). The separated styles
differ only in the separator and in the case of the letters (`map_separated`).
-/
namespace Stencil.Identifier
open Stencil.Unicode
open Stencil.Text (dropEndWhile join)

/-- Whether a text is one word: letters and numbers, one at least. -/
def IsWord (cs : List Char) : Prop := cs ≠ [] ∧ ∀ c ∈ cs, isAlphanumeric c

instance (cs : List Char) : Decidable (IsWord cs) :=
  decidable_of_iff (cs ≠ [] ∧ cs.all isAlphanumeric) (and_congr_right' List.all_eq_true)

theorem IsWord.cons {c : Char} (hc : isAlphanumeric c) {cs : List Char}
    (h : ∀ d ∈ cs, isAlphanumeric d) : IsWord (c :: cs) :=
  ⟨List.cons_ne_nil c cs, List.forall_mem_cons.2 ⟨hc, h⟩⟩

theorem divides_eq_false {c : Char} : divides c = false ↔ isAlphanumeric c := by
  simp [divides]

/-! ## Letter case -/

theorem isAlphanumeric_of_ascii {c : Char}
    (h : 65 ≤ c.toNat ∧ c.toNat ≤ 90 ∨ 97 ≤ c.toNat ∧ c.toNat ≤ 122) : isAlphanumeric c := by
  have table : letter = (65, 90, 1) :: (97, 122, 1) :: letter.drop 2 := rfl
  have found : letter.contains c.toNat := by
    rw [table]
    rcases h with ⟨low, high⟩ | ⟨low, high⟩
    · simp [Table.contains, high, Nat.not_lt.2 low, Nat.mod_one]
    · have h90 : ¬ c.toNat ≤ 90 := by omega
      have h65 : ¬ c.toNat < 65 := by omega
      simp [Table.contains, high, Nat.not_lt.2 low, h90, h65, Nat.mod_one]
  simp [isAlphanumeric, isAlphabetic, found]

theorem toNat_ofNat_of_ascii {n : Nat} (h : n < 128) : (Char.ofNat n).toNat = n := by
  have valid : n.isValidChar := .inl (by omega)
  rw [Char.ofNat, dif_pos valid]
  rfl

theorem asciiLower_eq (c : Char) : asciiLower c =
    if 65 ≤ c.toNat ∧ c.toNat ≤ 90 then Char.ofNat (c.toNat + 32) else c := rfl

theorem asciiUpper_eq (c : Char) : asciiUpper c =
    if 97 ≤ c.toNat ∧ c.toNat ≤ 122 then Char.ofNat (c.toNat - 32) else c := rfl

theorem isAlphanumeric_asciiLower {c : Char} (h : isAlphanumeric c) :
    isAlphanumeric (asciiLower c) := by
  rw [asciiLower_eq]
  split
  · exact isAlphanumeric_of_ascii (.inr (by rw [toNat_ofNat_of_ascii] <;> omega))
  · exact h

theorem isAlphanumeric_asciiUpper {c : Char} (h : isAlphanumeric c) :
    isAlphanumeric (asciiUpper c) := by
  rw [asciiUpper_eq]
  split
  · exact isAlphanumeric_of_ascii (.inl (by rw [toNat_ofNat_of_ascii] <;> omega))
  · exact h

/-- A capital form does not depend on the case of the letter. -/
theorem asciiUpper_asciiLower (c : Char) : asciiUpper (asciiLower c) = asciiUpper c := by
  rw [asciiLower_eq]
  split
  · rename_i hc
    have hlower : (Char.ofNat (c.toNat + 32)).toNat = c.toNat + 32 :=
      toNat_ofNat_of_ascii (by omega)
    rw [asciiUpper_eq, asciiUpper_eq, if_pos (by omega), if_neg (by omega), hlower,
      Nat.add_sub_cancel, Char.ofNat_toNat]
  · rfl

/-! ## Separated words -/

section Separated
variable {recase : Char → Char}

/-- The separated styles write the same words. -/
theorem map_separatedFrom {sep sep' : Char} {recase' f : Char → Char} (hsep : f sep = sep')
    (hrecase : ∀ c, isAlphanumeric c → f (recase c) = recase' c) (name : List Char) (fresh : Bool)
    (start : Nat) (cs : List Char) :
    (separatedFrom sep recase name fresh start cs).map f =
      separatedFrom sep' recase' name fresh start cs := by
  induction cs generalizing fresh start with
  | nil => rfl
  | cons c rest ih =>
    unfold separatedFrom
    by_cases hdiv : divides c
    · simp only [hdiv, if_true]
      split <;> simp [ih, hsep]
    · have halpha : isAlphanumeric c := divides_eq_false.1 (Bool.eq_false_iff.2 hdiv)
      simp only [hdiv, Bool.false_eq_true, if_false]
      split <;> simp [ih, hsep, hrecase c halpha]

theorem map_separated {sep sep' : Char} {recase' f : Char → Char} (hsep : f sep = sep')
    (hrecase : ∀ c, isAlphanumeric c → f (recase c) = recase' c) (name : List Char) :
    (separated sep recase name).map f = separated sep' recase' name :=
  map_separatedFrom hsep hrecase ..

theorem cons_join (sep c : Char) (word : List Char) (words : List (List Char)) :
    c :: join [sep] (word :: words) = join [sep] ((c :: word) :: words) := by
  cases words <;> rfl

/-- What is written of a text that does not end between words: words with separators between them.
The first one goes on the word that is being written and may be empty if there is one. -/
theorem separatedFrom_words (hrecase : ∀ c, isAlphanumeric c → isAlphanumeric (recase c))
    (sep : Char) (name : List Char) (fresh : Bool) (start : Nat) {cs : List Char}
    (hend : ∀ c ∈ cs.getLast?, isAlphanumeric c) (hne : fresh → cs ≠ []) :
    ∃ first words, (∀ c ∈ first, isAlphanumeric c) ∧ (fresh → first ≠ []) ∧
      (∀ word ∈ words, IsWord word) ∧
      separatedFrom sep recase name fresh start cs = join [sep] (first :: words) := by
  induction cs generalizing fresh start with
  | nil =>
    refine ⟨[], [], by simp, fun h => absurd rfl (hne h), by simp, rfl⟩
  | cons c rest ih =>
    have hrest : ∀ d ∈ rest.getLast?, isAlphanumeric d := by
      intro d hd
      rw [Option.mem_def] at hd
      exact hend d (by simp [List.getLast?_cons, hd])
    unfold separatedFrom
    by_cases hdiv : divides c
    · have hmore : rest ≠ [] := by
        rintro rfl
        exact absurd (divides_eq_false.2 (hend c rfl)) (by simp [hdiv])
      obtain ⟨first, words, hfirst, hfirstne, hwords, hout⟩ :=
        ih true (start + c.utf8Size) hrest fun _ => hmore
      simp only [hdiv, if_true, hout]
      cases fresh with
      | true => exact ⟨first, words, hfirst, hfirstne, hwords, rfl⟩
      | false =>
        exact ⟨[], first :: words, by simp, by simp,
          List.forall_mem_cons.2 ⟨⟨hfirstne rfl, hfirst⟩, hwords⟩, rfl⟩
    · have halpha := hrecase c (divides_eq_false.1 (Bool.eq_false_iff.2 hdiv))
      obtain ⟨first, words, hfirst, -, hwords, hout⟩ :=
        ih false (start + c.utf8Size) hrest (by simp)
      have hword : IsWord (recase c :: first) := .cons halpha hfirst
      simp only [hdiv, Bool.false_eq_true, if_false, hout]
      split
      · rename_i boundary
        have hfresh : fresh = false := by
          cases fresh with
          | true => simp at boundary
          | false => rfl
        exact ⟨[], (recase c :: first) :: words, by simp, by simp [hfresh],
          List.forall_mem_cons.2 ⟨hword, hwords⟩, congrArg (sep :: ·) (cons_join ..)⟩
      · exact ⟨recase c :: first, words, hword.2, fun _ => hword.1, hwords, cons_join ..⟩

end Separated

/-- What is left of a name with a letter or a number in it ends with one. -/
theorem dropEndWhile_divides {name : List Char} (h : ∃ c ∈ name, isAlphanumeric c) :
    (∃ c ∈ dropEndWhile divides name, isAlphanumeric c) ∧
      ∀ c ∈ (dropEndWhile divides name).getLast?, isAlphanumeric c := by
  constructor
  · obtain ⟨c, hmem, hc⟩ := h
    have hsplit : name.rdropWhile divides ++ name.rtakeWhile divides = name :=
      List.rdropWhile_append_rtakeWhile ..
    rw [← hsplit] at hmem
    rcases List.mem_append.1 hmem with hmem | hmem
    · exact ⟨c, hmem, hc⟩
    · exact absurd (List.mem_rtakeWhile_imp hmem) (by simp [divides_eq_false.2 hc])
  · intro c hlast
    obtain ⟨hne, rfl⟩ := List.mem_getLast?_eq_getLast hlast
    exact divides_eq_false.1 (Bool.eq_false_iff.2 (List.rdropWhile_last_not divides name hne))

/-- A name is written as words with separators between them. -/
theorem separated_words {recase : Char → Char}
    (hrecase : ∀ c, isAlphanumeric c → isAlphanumeric (recase c)) (sep : Char) {name : List Char}
    (h : ∃ c ∈ name, isAlphanumeric c) : ∃ words, words ≠ [] ∧ (∀ word ∈ words, IsWord word) ∧
      separated sep recase name = join [sep] words := by
  obtain ⟨⟨c, hc, -⟩, hend⟩ := dropEndWhile_divides h
  obtain ⟨first, words, hfirst, hne, hwords, hout⟩ :=
    separatedFrom_words hrecase sep name true 0 hend fun _ => List.ne_nil_of_mem hc
  exact ⟨first :: words, by simp, List.forall_mem_cons.2 ⟨⟨hne rfl, hfirst⟩, hwords⟩,
    hout⟩

/-! ## Joined words -/

/-- Joined words hold letters and numbers, one for each of the name. -/
theorem joinedFrom_alphanumeric (state : Joint) (cs : List Char) :
    (joinedFrom state cs).length = (cs.filter isAlphanumeric).length ∧
      ∀ c ∈ joinedFrom state cs, isAlphanumeric c := by
  induction cs generalizing state with
  | nil => simp [joinedFrom]
  | cons c rest ih =>
    unfold joinedFrom
    by_cases hdiv : divides c
    · have halpha : isAlphanumeric c = false := by simpa [divides] using hdiv
      simp only [hdiv, if_true]
      rw [List.filter_cons_of_neg (by simp [halpha])]
      exact ih _
    · have halpha : isAlphanumeric c := divides_eq_false.1 (Bool.eq_false_iff.2 hdiv)
      simp only [hdiv, Bool.false_eq_true, if_false]
      rw [List.filter_cons_of_pos halpha]
      split
      · simpa [halpha] using ih _
      · split
        · simpa [isAlphanumeric_asciiUpper halpha] using ih _
        · simpa [isAlphanumeric_asciiLower halpha] using ih _

/-- A name put together is one word. -/
theorem joined_isWord (capital : Bool) {name : List Char} (h : ∃ c ∈ name, isAlphanumeric c) :
    IsWord (joined capital name) := by
  obtain ⟨⟨c, hmem, hc⟩, -⟩ := dropEndWhile_divides h
  obtain ⟨hlength, halpha⟩ := joinedFrom_alphanumeric
    { begun := false, newWord := capital, last := ' ' } (dropEndWhile divides name)
  refine ⟨List.ne_nil_of_length_pos ?_, halpha⟩
  rw [joined, hlength]
  exact List.length_pos_of_mem (List.mem_filter.2 ⟨hmem, hc⟩)

/-! ## All styles -/

/-- A character of the dash style as the snake style has it. -/
def underscored (c : Char) : Char := if c = '-' then '_' else c

/-- Names that can be used as identifiers and in paths. -/
structure Variants.Usable (v : Variants) : Prop where
  /-- Words with single dashes between them. -/
  dash : ∃ words, words ≠ [] ∧ (∀ word ∈ words, IsWord word) ∧ v.dash.toList = join ['-'] words
  /-- The same with underscores. -/
  snake : v.snake = v.dash.map underscored
  /-- The same in capitals. -/
  constant : v.constant = v.snake.map asciiUpper
  classStyle : IsWord v.classStyle.toList
  camel : IsWord v.camel.toList

theorem ofName_usable {name : String} (h : ∃ c ∈ name.toList, isAlphanumeric c) :
    (Variants.ofName name).Usable where
  dash := by
    have hlower : ∀ c, isAlphanumeric c → isAlphanumeric (asciiLower c) := fun _ =>
      isAlphanumeric_asciiLower
    simpa [Variants.ofName, dashCase] using separated_words hlower '-' h
  snake := by
    have hletters : ∀ c, isAlphanumeric c → underscored (asciiLower c) = asciiLower c := by
      intro c hc
      refine if_neg fun hdash => ?_
      exact absurd (hdash ▸ isAlphanumeric_asciiLower hc) (by decide)
    rw [← String.toList_inj, String.toList_map]
    simp only [Variants.ofName, dashCase, snakeCase, String.toList_ofList]
    have hsep : underscored '-' = '_' := rfl
    exact (map_separated hsep hletters name.toList).symm
  constant := by
    rw [← String.toList_inj, String.toList_map]
    simp only [Variants.ofName, snakeCase, constantCase, String.toList_ofList]
    have hsep : asciiUpper '_' = '_' := rfl
    exact (map_separated hsep (fun c _ => asciiUpper_asciiLower c) name.toList).symm
  classStyle := by simpa [Variants.ofName, classCase] using joined_isWord true h
  camel := by simpa [Variants.ofName, camelCase] using joined_isWord false h

end Stencil.Identifier
