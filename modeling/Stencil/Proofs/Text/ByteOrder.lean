import Stencil.SortedMap

/-!
# The order of texts

Texts are ordered character by character. This is the order of their bytes, since a greater
character has greater bytes (`byteLT_iff_lt`).
-/
namespace Stencil.Text

/-- Whether the bytes of a text come before those of another one. -/
def ByteLT (s t : String) : Prop := s.toUTF8.data.toList < t.toUTF8.data.toList

theorem eq_digits (n : Nat) : n = 262144 * (n / 262144) + 4096 * (n / 4096 % 64) +
    64 * (n / 64 % 64) + n % 64 := by omega

theorem utf8EncodeChar_append_lt {a b : Char} (h : a < b) (xs ys : List UInt8) :
    String.utf8EncodeChar a ++ xs < String.utf8EncodeChar b ++ ys := by
  have hlt : a.val.toNat < b.val.toNat := h
  have hmax : b.val.toNat < 0x110000 := by
    have := b.valid
    simp only [UInt32.isValidChar, Nat.isValidChar] at this
    omega
  unfold String.utf8EncodeChar
  generalize a.val.toNat = m at *
  generalize b.val.toNat = n at *
  dsimp only
  -- sixteen cases by the lengths of the two encodings; the first digits that differ decide
  have hm := eq_digits m
  have hn := eq_digits n
  repeat' split
  all_goals
    simp only [List.cons_append, List.nil_append, List.cons_lt_cons_iff, UInt8.lt_iff_toNat_lt,
      ← UInt8.toNat_inj, UInt8.toNat_ofNat']
    simp (disch := omega) only [Nat.mod_eq_of_lt]
    omega

theorem utf8Encode_lt {cs ds : List Char} (h : cs < ds) :
    cs.flatMap String.utf8EncodeChar < ds.flatMap String.utf8EncodeChar := by
  induction cs generalizing ds with
  | nil =>
    cases ds with
    | nil => cases h
    | cons d ds =>
      obtain ⟨x, xs, e⟩ := List.exists_cons_of_ne_nil (String.utf8EncodeChar_ne_nil (c := d))
      rw [List.flatMap_nil, List.flatMap_cons, e]
      exact List.nil_lt_cons _ _
  | cons c cs ih =>
    cases ds with
    | nil => cases h
    | cons d ds =>
      rw [List.flatMap_cons, List.flatMap_cons]
      rcases List.cons_lt_cons_iff.1 h with hlt | ⟨rfl, hlt⟩
      · exact utf8EncodeChar_append_lt hlt _ _
      · exact List.append_left_lt (ih hlt)

theorem data_toUTF8 (s : String) :
    s.toUTF8.data.toList = s.toList.flatMap String.utf8EncodeChar := by
  rw [String.toUTF8_eq_toByteArray, ← String.utf8Encode_toList, List.utf8Encode,
    List.toList_data_toByteArray]

/-- The order of texts is the order of their bytes. -/
theorem byteLT_iff_lt (s t : String) : ByteLT s t ↔ s < t := by
  have mono {s t : String} (h : s < t) : ByteLT s t := by
    rw [ByteLT, data_toUTF8, data_toUTF8]
    exact utf8Encode_lt h
  refine ⟨fun h => ?_, mono⟩
  rcases KeyOrder.trichotomy s t with hlt | rfl | hgt
  · exact hlt
  · exact absurd h (List.lt_irrefl _)
  · exact absurd (mono hgt) (List.lt_asymm h)

end Stencil.Text
