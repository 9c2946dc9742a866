import Stencil.Proofs.Text.ByteOrder
import Stencil.Proofs.Text.Split
import Stencil.Text.Lossy

/-!
# The bytes of a text

Characters below 128 are single bytes, and all bytes of other characters are at least 128
(`utf8EncodeChar_cases`). So a byte below 128 is found where its character stands and nowhere else.
-/
namespace Stencil.Text

/-- The bytes of a character: itself if it is below 128, and else bytes that are not. -/
theorem utf8EncodeChar_cases (c : Char) :
    c.toNat < 128 ∧ String.utf8EncodeChar c = [c.toUInt8] ∨
      128 ≤ c.toNat ∧ ∀ b ∈ String.utf8EncodeChar c, 128 ≤ b.toNat := by
  by_cases hc : c.toNat < 128
  · have hsize : c.utf8Size = 1 :=
      Char.utf8Size_eq_one_iff.2 (UInt32.le_iff_toNat_le.2 (Nat.le_of_lt_succ hc))
    exact .inl ⟨hc, String.utf8EncodeChar_eq_singleton hsize⟩
  · refine .inr ⟨Nat.le_of_not_lt hc, ?_⟩
    have hc' : 128 ≤ c.val.toNat := Nat.le_of_not_lt hc
    unfold String.utf8EncodeChar
    generalize c.val.toNat = n at hc'
    dsimp only
    repeat' split
    all_goals
      simp only [List.mem_cons, List.not_mem_nil, or_false, forall_eq_or_imp, forall_eq,
        UInt8.toNat_ofNat']
      omega

theorem toNat_toUInt8 {c : Char} (hc : c.toNat < 128) : c.toUInt8.toNat = c.toNat := by
  rw [Char.toUInt8, UInt32.toNat_toUInt8]
  exact Nat.mod_eq_of_lt (by have : c.val.toNat < 128 := hc; omega)

/-- Characters below 128 are told apart by their bytes. -/
theorem toUInt8_inj {c d : Char} (hc : c.toNat < 128) (hd : d.toNat < 128) :
    c.toUInt8 = d.toUInt8 ↔ c = d := by
  constructor
  · intro h
    rw [← Char.ofNat_toNat c, ← Char.ofNat_toNat d, ← toNat_toUInt8 hc, ← toNat_toUInt8 hd, h]
  · rintro rfl
    rfl

theorem encode_cons (c : Char) (cs : List Char) :
    encode (c :: cs) = String.utf8EncodeChar c ++ encode cs := List.flatMap_cons

theorem encode_append (cs ds : List Char) : encode (cs ++ ds) = encode cs ++ encode ds :=
  List.flatMap_append

theorem length_encode (s : String) : (encode s.toList).length = s.utf8ByteSize := by
  rw [encode, ← data_toUTF8, Array.length_toList]
  rfl

/-- A byte below 128 is the first one of a text exactly if its character is. -/
theorem head?_encode_eq_some {d : Char} (hd : d.toNat < 128) (cs : List Char) :
    (encode cs).head? = some d.toUInt8 ↔ cs.head? = some d := by
  cases cs with
  | nil => simp [encode]
  | cons c rest =>
    rw [encode_cons]
    obtain ⟨hc, hbytes⟩ | ⟨hc, hbytes⟩ := utf8EncodeChar_cases c
    · rw [hbytes, List.singleton_append, List.head?_cons, List.head?_cons, Option.some_inj,
        Option.some_inj, toUInt8_inj hc hd]
    · obtain ⟨b, more, hb⟩ := List.exists_cons_of_ne_nil (String.utf8EncodeChar_ne_nil (c := c))
      have hb' : 128 ≤ b.toNat := hbytes b (hb ▸ List.mem_cons_self)
      rw [hb, List.cons_append, List.head?_cons, List.head?_cons, Option.some_inj, Option.some_inj]
      constructor
      · rintro rfl
        rw [toNat_toUInt8 hd] at hb'
        omega
      · rintro rfl
        omega

/-! ## Bytes as a text -/

theorem first?_encode (c : Char) (rest : List UInt8) :
    first? (String.utf8EncodeChar c ++ rest) = some c := by
  have hlength : (String.utf8EncodeChar c).length ≤ 4 := by
    rw [String.length_utf8EncodeChar]
    exact c.utf8Size_le_four
  rw [first?, List.take_append, List.take_of_length_le hlength, List.toByteArray_append]
  exact ByteArray.utf8DecodeChar?_utf8EncodeChar_append

/-- The bytes of a text are read as this text. -/
theorem lossy_encode (cs : List Char) : lossy (encode cs) = cs := by
  induction cs with
  | nil => rw [encode, List.flatMap_nil, lossy]
  | cons c rest ih =>
    obtain ⟨b, more, hb⟩ := List.exists_cons_of_ne_nil (String.utf8EncodeChar_ne_nil (c := c))
    have hfirst := first?_encode c (encode rest)
    have hdrop : (String.utf8EncodeChar c ++ encode rest).drop c.utf8Size = encode rest := by
      rw [← String.length_utf8EncodeChar c, List.drop_left]
    rw [hb, List.cons_append] at hfirst hdrop
    rw [encode_cons, hb, List.cons_append, lossy, hfirst]
    dsimp only
    rw [hdrop, ih]

theorem encode_injective : Function.Injective encode :=
  Function.LeftInverse.injective lossy_encode

theorem encode_singleton {c : Char} (hc : c.toNat < 128) : encode [c] = [c.toUInt8] := by
  obtain ⟨-, hbytes⟩ | ⟨hge, -⟩ := utf8EncodeChar_cases c
  · rw [encode_cons, hbytes]
    rfl
  · omega

/-- A character below 128 is in no other one. -/
theorem not_mem_utf8EncodeChar {c d : Char} (hd : d.toNat < 128) (hne : c ≠ d) :
    d.toUInt8 ∉ String.utf8EncodeChar c := by
  obtain ⟨hc, hbytes⟩ | ⟨-, high⟩ := utf8EncodeChar_cases c
  · rw [hbytes, List.mem_singleton, eq_comm, toUInt8_inj hc hd]
    exact hne
  · intro hmem
    have hge := high _ hmem
    rw [toNat_toUInt8 hd] at hge
    omega

/-- Bytes are cut where their text is. -/
theorem splitAt_encode {d : Char} (hd : d.toNat < 128) (cs : List Char) :
    splitAt d.toUInt8 (encode cs) = (splitAt d cs).map encode := by
  induction cs with
  | nil => rfl
  | cons c rest ih =>
    obtain ⟨piece, pieces, hp⟩ := List.exists_cons_of_ne_nil (splitAt_ne_nil d rest)
    rw [hp, List.map_cons] at ih
    by_cases hc : c = d
    · subst hc
      rw [← List.singleton_append, encode_append, encode_singleton hd, List.singleton_append,
        List.singleton_append, splitAt, if_pos rfl, ih, splitAt, if_pos rfl, hp]
      rfl
    · rw [encode_cons, splitAt_append_of_not_mem (not_mem_utf8EncodeChar hd hc) ih, splitAt,
        if_neg hc, hp, List.map_cons, encode_cons]

theorem encode_join {d : Char} (hd : d.toNat < 128) (parts : List (List Char)) :
    encode (join [d] parts) = join [d.toUInt8] (parts.map encode) := by
  induction parts with
  | nil => rfl
  | cons part parts ih =>
    by_cases hp : parts = []
    · simp [hp, join]
    · rw [join_cons hp, List.map_cons, join_cons (by simpa using hp), ← ih, encode_append,
        ← List.singleton_append, encode_append, encode_singleton hd, List.singleton_append]

/-! ## Places in bytes -/

section Places
variable {bytes : ByteArray} {i : Nat} {b : UInt8} {rest : List UInt8}

/-- What stands in the bytes from a place on. -/
def bytesFrom (bytes : ByteArray) (i : Nat) : List UInt8 := bytes.data.toList.drop i

theorem bytesFrom_eq_nil (h : bytesFrom bytes i = []) : ¬ i < bytes.size := by
  rw [bytesFrom, List.drop_eq_nil_iff, Array.length_toList] at h
  exact Nat.not_lt.2 h

theorem exists_getElem_of_bytesFrom (h : bytesFrom bytes i = b :: rest) :
    ∃ hi : i < bytes.size, bytes[i] = b := by
  have hi : i < bytes.size := by
    refine Nat.lt_of_not_le fun hle => ?_
    rw [bytesFrom, List.drop_eq_nil_of_le (by simpa using hle)] at h
    cases h
  refine ⟨hi, ?_⟩
  rw [bytesFrom, List.drop_eq_getElem_cons (by simpa using hi)] at h
  obtain ⟨hb, -⟩ := List.cons.inj h
  rwa [Array.getElem_toList] at hb

theorem bytesFrom_add {front : List UInt8} (h : bytesFrom bytes i = front ++ rest) :
    bytesFrom bytes (i + front.length) = rest := by
  rw [bytesFrom, ← List.drop_drop, ← bytesFrom, h, List.drop_left]

theorem bytesFrom_succ (h : bytesFrom bytes i = b :: rest) : bytesFrom bytes (i + 1) = rest := by
  rw [← List.singleton_append] at h
  exact bytesFrom_add h

theorem bytesFrom_cons {c : Char} {cs : List Char} (h : bytesFrom bytes i = encode (c :: cs)) :
    bytesFrom bytes (i + (String.utf8EncodeChar c).length) = encode cs :=
  bytesFrom_add (h.trans (encode_cons c cs))

theorem bytesFrom_succ_nil (h : bytesFrom bytes i = []) : bytesFrom bytes (i + 1) = [] := by
  rw [bytesFrom, ← List.drop_drop, ← bytesFrom, h, List.drop_nil]

theorem getElem?_eq_head?_bytesFrom (bytes : ByteArray) (i : Nat) :
    bytes[i]? = (bytesFrom bytes i).head? := by
  cases h : bytesFrom bytes i with
  | nil => exact getElem?_neg bytes i (bytesFrom_eq_nil h)
  | cons b rest =>
    obtain ⟨hi, hb⟩ := exists_getElem_of_bytesFrom h
    rw [getElem?_pos bytes i hi, hb, List.head?_cons]

theorem bytesFrom_append (front rest : String) :
    bytesFrom (front ++ rest).toUTF8 front.utf8ByteSize = encode rest.toList := by
  rw [bytesFrom, data_toUTF8, String.toList_append, List.flatMap_append, ← length_encode, encode,
    List.drop_left, encode]

end Places

end Stencil.Text
