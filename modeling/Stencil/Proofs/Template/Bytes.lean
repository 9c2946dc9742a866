import Mathlib.Order.Bounds.Basic
import Stencil.Proofs.Template.Concatenation
import Stencil.Proofs.Text.Bytes
import Stencil.Template.Bytes

/-!
# Closing braces among bytes

The closing braces of a placeholder are looked for byte by byte. Quotes, backslashes and braces are
below 128 and the bytes of all longer characters are not, so the scan stays in step with the reading
of the characters (`findCloseFrom_eq`); where it stops within a character, behind a backslash, the
bytes that are left say nothing to it (`findCloseFrom_within`). What it finds is thus between two
characters, and a template is only ever cut there: its first part is defined (`exists_cut`), it is
that of the characters (`FirstPart`), and so is the whole text (`renderFrom_append`).
-/
namespace Stencil.Template
open Text (Reading encode encode_cons bytesFrom bytesFrom_cons bytesFrom_succ toUInt8_inj)

/-! ## Single bytes -/

section Steps
variable {bytes : ByteArray} {i : Nat} {b : UInt8} {more : List UInt8}

theorem findCloseFrom_nil (h : bytesFrom bytes i = []) (quote : Option UInt8) :
    findCloseFrom bytes quote i = none := by
  rw [findCloseFrom, dif_neg (Text.bytesFrom_eq_nil h)]

theorem findCloseFrom_outside (h : bytesFrom bytes i = b :: more) : findCloseFrom bytes none i =
    if b = '"'.toUInt8 ∨ b = '\''.toUInt8 then findCloseFrom bytes (some b) (i + 1)
    else if b = '\x7d'.toUInt8 ∧ more.head? = some '\x7d'.toUInt8 then some i
    else findCloseFrom bytes none (i + 1) := by
  obtain ⟨hi, rfl⟩ := Text.exists_getElem_of_bytesFrom h
  rw [findCloseFrom, dif_pos hi, Text.getElem?_eq_head?_bytesFrom, bytesFrom_succ h]

theorem findCloseFrom_inside (h : bytesFrom bytes i = b :: more) (q : UInt8) :
    findCloseFrom bytes (some q) i =
      if b = '\\'.toUInt8 then findCloseFrom bytes (some q) (i + 2)
      else findCloseFrom bytes (if b = q then none else some q) (i + 1) := by
  obtain ⟨hi, rfl⟩ := Text.exists_getElem_of_bytesFrom h
  rw [findCloseFrom, dif_pos hi]
  by_cases hq : bytes[i] = q <;> simp [hq]

/-- Bytes from 128 on are passed over. -/
theorem findCloseFrom_high {front : List UInt8} (high : ∀ b ∈ front, 128 ≤ b.toNat)
    {quote : Option UInt8} (hquote : ∀ q ∈ quote, q.toNat < 128)
    (h : bytesFrom bytes i = front ++ more) :
    findCloseFrom bytes quote i = findCloseFrom bytes quote (i + front.length) := by
  induction front generalizing i with
  | nil => rfl
  | cons b rest ih =>
    obtain ⟨hb, hrest⟩ := List.forall_mem_cons.1 high
    have hne {c : UInt8} (hc : c.toNat < 128) : b ≠ c := by
      rintro rfl
      omega
    have hstep : findCloseFrom bytes quote i = findCloseFrom bytes quote (i + 1) := by
      cases quote with
      | none =>
        rw [findCloseFrom_outside h, if_neg (not_or.2 ⟨hne (by decide), hne (by decide)⟩),
          if_neg fun hclose => hne (by decide) hclose.1]
      | some q =>
        rw [findCloseFrom_inside h, if_neg (hne (by decide)), if_neg (hne (hquote q rfl))]
    rw [hstep, ih hrest (bytesFrom_succ h), List.length_cons, Nat.add_assoc, Nat.add_comm 1]

/-- Nothing is found within a character behind its first byte. -/
theorem findCloseFrom_within {c : Char} {quote : Option UInt8}
    (hquote : ∀ q ∈ quote, q.toNat < 128)
    (h : bytesFrom bytes i = String.utf8EncodeChar c ++ more) : findCloseFrom bytes quote (i + 1) =
      findCloseFrom bytes quote (i + (String.utf8EncodeChar c).length) := by
  obtain ⟨-, hbytes⟩ | ⟨-, high⟩ := Text.utf8EncodeChar_cases c
  · rw [hbytes, List.length_singleton]
  · obtain ⟨b, rest, hb⟩ := List.exists_cons_of_ne_nil (String.utf8EncodeChar_ne_nil (c := c))
    rw [hb] at h high ⊢
    rw [findCloseFrom_high (List.forall_mem_cons.1 high).2 hquote (bytesFrom_succ h),
      List.length_cons, Nat.add_assoc, Nat.add_comm 1]

end Steps

/-! ## Characters -/

section Characters
variable {bytes : ByteArray} {i : Nat} {c : Char} {cs rest : List Char}

theorem ne_of_toNat_lt {d : Char} (hc : 128 ≤ c.toNat) (hd : d.toNat < 128) : c ≠ d := by
  rintro rfl
  omega

theorem toNat_lt_of_isQuote {q : Char} (h : Reading.IsQuote q) : q.toNat < 128 := by
  rcases h with rfl | rfl <;> decide

theorem toNat_toUInt8_lt_of_isQuote {q : Char} (h : Reading.IsQuote q) :
    q.toUInt8.toNat < 128 := by
  rcases h with rfl | rfl <;> decide

theorem findCloseFrom_outside_char (h : bytesFrom bytes i = encode (c :: rest)) :
    findCloseFrom bytes none i =
      if c = '\x7d' ∧ rest.head? = some '\x7d' then some i
      else findCloseFrom bytes ((if c = '"' ∨ c = '\'' then some c else none).map Char.toUInt8)
        (i + (String.utf8EncodeChar c).length) := by
  rw [encode_cons] at h
  obtain ⟨hc, hbytes⟩ | ⟨hc, high⟩ := Text.utf8EncodeChar_cases c
  · rw [hbytes, List.singleton_append] at h
    rw [findCloseFrom_outside h, hbytes]
    simp (disch := decide) only [toUInt8_inj hc, Text.head?_encode_eq_some]
    by_cases hquote : c = '"' ∨ c = '\''
    · have hclose : ¬ (c = '\x7d' ∧ rest.head? = some '\x7d') := by
        rintro ⟨rfl, -⟩
        exact absurd hquote (by decide)
      rw [if_pos hquote, if_neg hclose, if_pos hquote]
      rfl
    · rw [if_neg hquote, if_neg hquote]
      rfl
  · have hne {d : Char} (hd : d.toNat < 128) : c ≠ d := ne_of_toNat_lt hc hd
    rw [findCloseFrom_high high (by simp) h, if_neg fun hclose => hne (by decide) hclose.1,
      if_neg (not_or.2 ⟨hne (by decide), hne (by decide)⟩)]
    rfl

theorem findCloseFrom_inside_char {q : Char} (hq : Reading.IsQuote q) (hc : c ≠ '\\')
    (h : bytesFrom bytes i = encode (c :: rest)) : findCloseFrom bytes (some q.toUInt8) i =
      findCloseFrom bytes ((if c = q then none else some q).map Char.toUInt8)
        (i + (String.utf8EncodeChar c).length) := by
  rw [encode_cons] at h
  obtain ⟨hlt, hbytes⟩ | ⟨hge, high⟩ := Text.utf8EncodeChar_cases c
  · rw [hbytes, List.singleton_append] at h
    have hne : c.toUInt8 ≠ '\\'.toUInt8 := fun heq => hc ((toUInt8_inj hlt (by decide)).1 heq)
    rw [findCloseFrom_inside h, if_neg hne, apply_ite (Option.map Char.toUInt8), hbytes]
    simp only [toUInt8_inj hlt (toNat_lt_of_isQuote hq)]
    rfl
  · have hne : c ≠ q := ne_of_toNat_lt hge (toNat_lt_of_isQuote hq)
    rw [findCloseFrom_high high (by simpa using toNat_toUInt8_lt_of_isQuote hq) h, if_neg hne]
    rfl

theorem findCloseFrom_skip (h : bytesFrom bytes i = encode ('\\' :: rest)) (q : UInt8) :
    findCloseFrom bytes (some q) i = findCloseFrom bytes (some q) (i + 2) := by
  have hbackslash : String.utf8EncodeChar '\\' = ['\\'.toUInt8] := rfl
  rw [encode_cons, hbackslash, List.singleton_append] at h
  rw [findCloseFrom_inside h, if_pos rfl]

/-- Of the character behind a backslash the scan passes over one byte, and finds nothing in the
others. -/
theorem findCloseFrom_backslash {q : Char} (hq : Reading.IsQuote q)
    (h : bytesFrom bytes i = encode ('\\' :: c :: rest)) : findCloseFrom bytes (some q.toUInt8) i =
      findCloseFrom bytes (some q.toUInt8) (i + 1 + (String.utf8EncodeChar c).length) := by
  have hbehind : bytesFrom bytes (i + 1) = String.utf8EncodeChar c ++ encode rest :=
    (bytesFrom_cons h).trans (encode_cons c rest)
  rw [findCloseFrom_skip h]
  exact findCloseFrom_within (by simpa using toNat_toUInt8_lt_of_isQuote hq) hbehind

theorem findCloseFrom_last_backslash (h : bytesFrom bytes i = encode ['\\']) (q : UInt8) :
    findCloseFrom bytes (some q) i = none := by
  have hend : bytesFrom bytes (i + 2) = [] := Text.bytesFrom_succ_nil (bytesFrom_cons h)
  rw [findCloseFrom_skip h, findCloseFrom_nil hend]

/-- The place behind a character, in bytes. -/
theorem map_place_cons (c : Char) (i : Nat) (found : Option (List Char × List Char)) :
    (found.map fun (before, after) => (c :: before, after)).map
        (fun parts => i + (encode parts.1).length) =
      found.map fun parts => i + (String.utf8EncodeChar c).length + (encode parts.1).length := by
  cases found with
  | none => rfl
  | some parts => simp [encode_cons, Nat.add_assoc]

/-- The scan of the bytes follows the reading of the characters. -/
theorem findCloseFrom_eq {quote : Option Char} (sound : (readingOf quote).Sound)
    (h : bytesFrom bytes i = encode cs) : findCloseFrom bytes (quote.map Char.toUInt8) i =
      (cutClose (readingOf quote) cs).map fun parts => i + (encode parts.1).length := by
  -- A backslash takes a character along, so the induction is on the length.
  induction hn : cs.length using Nat.strongRecOn generalizing quote i cs with
  | ind n ih =>
    subst hn
    cases cs with
    | nil =>
      rw [findCloseFrom_nil h]
      rfl
    | cons c rest =>
      have hrest := bytesFrom_cons h
      cases quote with
      | none =>
        rw [Option.map_none, findCloseFrom_outside_char h]
        by_cases hclose : c = '\x7d' ∧ rest.head? = some '\x7d'
        · obtain ⟨after, hafter⟩ := List.head?_eq_some_iff.1 hclose.2
          rw [if_pos hclose, hclose.1, hafter]
          rfl
        · have hsound := readingOf_opened c ▸ sound.next c
          rw [if_neg hclose, ih _ (by simp) hsound hrest rfl, readingOf_opened, readingOf,
            cutClose_cons fun hclose' => hclose hclose'.2, map_place_cons]
      | some q =>
        have hq : Reading.IsQuote q := sound
        rw [Option.map_some, readingOf]
        by_cases hc : c = '\\'
        · subst hc
          cases rest with
          | nil =>
            rw [findCloseFrom_last_backslash h]
            rfl
          | cons d more =>
            have hshorter : more.length < ('\\' :: d :: more).length := by
              simp only [List.length_cons]
              omega
            have hread : ((Reading.inside q).next '\\').next d = readingOf (some q) := rfl
            rw [findCloseFrom_backslash hq h, cutClose_cons (by simp), map_place_cons,
              cutClose_cons (by simp [Reading.next]), map_place_cons, hread]
            exact ih _ hshorter sound (bytesFrom_cons hrest) rfl
        · have hsound := readingOf_closed hc ▸ sound.next c
          rw [findCloseFrom_inside_char hq hc h, ih _ (by simp) hsound hrest rfl,
            readingOf_closed hc, cutClose_cons (by simp), map_place_cons]

end Characters

/-! ## Places in a template -/

/-- Whether two closing braces stand at a place of a template, outside of quoted texts if it is read
from `start` on. -/
def ClosesAt {template : String} (start : template.Pos) (close : Nat) : Prop :=
  ∃ before body after : String, start.Splits before (body ++ "\x7d\x7d" ++ after) ∧
    Reading.outside.after body.toList = .outside ∧ close = (before ++ body).utf8ByteSize

theorem exists_toList (cs : List Char) : ∃ s : String, s.toList = cs :=
  ⟨String.ofList cs, String.toList_ofList⟩

theorem toList_close (body after : String) : (body ++ "\x7d\x7d" ++ after).toList =
    body.toList ++ '\x7d' :: '\x7d' :: after.toList := by
  simp

/-- The body of a placeholder and what stands behind its closing braces. -/
theorem exists_body {rest : String} {parts : List Char × List Char}
    (h : cutClose .outside rest.toList = some parts) : ∃ body after : String,
      parts = (body.toList, after.toList) ∧ rest = body ++ "\x7d\x7d" ++ after ∧
        Reading.outside.after body.toList = .outside := by
  obtain ⟨before, behind⟩ := parts
  obtain ⟨htext, hread⟩ := cutClose_eq_some h
  obtain ⟨body, rfl⟩ := exists_toList before
  obtain ⟨after, rfl⟩ := exists_toList behind
  refine ⟨body, after, rfl, ?_, hread⟩
  rw [← String.toList_inj, htext, toList_close]

section Places
variable {template before rest : String} {start : template.Pos}

theorem byteIdx_of_splits (h : start.Splits before rest) :
    start.offset.byteIdx = before.utf8ByteSize := by
  rw [h.offset_eq_rawEndPos, String.byteIdx_rawEndPos]

theorem findClose_append (before rest : String) :
    findClose (before ++ rest) before.utf8ByteSize =
      (cutClose .outside rest.toList).map fun parts =>
        before.utf8ByteSize + (encode parts.1).length := by
  have hsound : (readingOf none).Sound := Reading.sound_outside
  exact findCloseFrom_eq hsound (Text.bytesFrom_append before rest)

theorem findClose_of_splits (h : start.Splits before rest) :
    findClose template start.offset.byteIdx = (cutClose .outside rest.toList).map fun parts =>
      before.utf8ByteSize + (encode parts.1).length := by
  rw [byteIdx_of_splits h, h.eq_append, findClose_append]

theorem isLeast_of_cutClose (h : start.Splits before rest) {parts : List Char × List Char}
    (hcut : cutClose .outside rest.toList = some parts) :
    IsLeast {close | ClosesAt start close} (before.utf8ByteSize + (encode parts.1).length) := by
  obtain ⟨body, after, rfl, hrest, hread⟩ := exists_body hcut
  constructor
  · refine ⟨before, body, after, h.of_eq rfl hrest, hread, ?_⟩
    rw [Text.length_encode, String.utf8ByteSize_append]
  · rintro close ⟨before', body', after', h', hread', rfl⟩
    obtain ⟨rfl, rfl⟩ := h.eq h'
    obtain ⟨more, hmore⟩ := cutClose_isPrefix hcut (toList_close body' after') hread'
    have hle : (encode body.toList).length ≤ (encode body'.toList).length := by
      rw [← hmore, Text.encode_append, List.length_append]
      exact Nat.le_add_right _ _
    rw [String.utf8ByteSize_append, ← Text.length_encode body']
    exact Nat.add_le_add_left hle _

theorem cutClose_ne_none_of_closesAt (h : start.Splits before rest) {close : Nat}
    (hclose : ClosesAt start close) : cutClose .outside rest.toList ≠ none := by
  obtain ⟨before', body, after, h', hread, rfl⟩ := hclose
  obtain ⟨rfl, rfl⟩ := h.eq h'
  rw [toList_close]
  exact cutClose_ne_none hread after.toList

/-- What is found are the first two closing braces outside of quoted texts. -/
theorem findClose_eq_some_iff {close : Nat} :
    findClose template start.offset.byteIdx = some close ↔
      IsLeast {close | ClosesAt start close} close := by
  rw [findClose_of_splits start.splits]
  constructor
  · intro hfound
    obtain ⟨parts, hcut, rfl⟩ := Option.map_eq_some_iff.1 hfound
    exact isLeast_of_cutClose start.splits hcut
  · intro hleast
    obtain ⟨parts, hcut⟩ :=
      Option.ne_none_iff_exists'.1 (cutClose_ne_none_of_closesAt start.splits hleast.1)
    rw [hcut, Option.map_some, (isLeast_of_cutClose start.splits hcut).unique hleast]

theorem findClose_eq_none_iff :
    findClose template start.offset.byteIdx = none ↔ ∀ close, ¬ ClosesAt start close := by
  rw [findClose_of_splits start.splits, Option.map_eq_none_iff]
  constructor
  · intro hnone close hclose
    exact cutClose_ne_none_of_closesAt start.splits hclose hnone
  · intro hnone
    rw [Option.eq_none_iff_forall_ne_some]
    intro parts hcut
    exact hnone _ (isLeast_of_cutClose start.splits hcut).1

example : findClose "\x7b\x7b '\\'\x7d\x7d' \x7d\x7d" 2 = some 10 := by decide +kernel

example : findClose "\x7b\x7b \"open \x7d\x7d" 2 = none := by decide +kernel

/-- Two closing braces stand between characters. -/
theorem isValid_of_closesAt {close : Nat} (h : ClosesAt start close) :
    start.offset.byteIdx ≤ close ∧ String.Pos.Raw.IsValid template ⟨close⟩ ∧
      String.Pos.Raw.IsValid template ⟨close + 2⟩ := by
  obtain ⟨before, body, after, hsplits, -, rfl⟩ := h
  refine ⟨?_, ?_, ?_⟩
  · rw [byteIdx_of_splits hsplits, String.utf8ByteSize_append]
    exact Nat.le_add_right _ _
  · refine String.Pos.Raw.isValid_iff_exists_append.2
      ⟨before ++ body, "\x7d\x7d" ++ after, ?_, rfl⟩
    rw [hsplits.eq_append]
    simp only [String.append_assoc]
  · refine String.Pos.Raw.isValid_iff_exists_append.2
      ⟨before ++ body ++ "\x7d\x7d", after, ?_, ?_⟩
    · rw [hsplits.eq_append]
      simp only [String.append_assoc]
    · rw [String.rawEndPos, String.utf8ByteSize_append (s := before ++ body)]
      rfl

end Places

/-! ## Slices -/

theorem exists_pos?_eq {s : String} {i : String.Pos.Raw} (h : i.IsValid s) :
    ∃ p, s.pos? i = some p ∧ p.offset = i := by
  rw [String.pos?, String.Slice.pos?,
    dif_pos (String.Pos.Raw.isValidForSlice_eq_true_iff.2 h.toSlice)]
  exact ⟨_, rfl, rfl⟩

/-- A slice between two boundaries is defined. -/
theorem slice?_eq_some {s a b c : String} (h : s = a ++ b ++ c) :
    slice? s a.utf8ByteSize (a.utf8ByteSize + b.utf8ByteSize) = some b := by
  have hfirst : String.Pos.Raw.IsValid s ⟨a.utf8ByteSize⟩ :=
    String.Pos.Raw.isValid_iff_exists_append.2 ⟨a, b ++ c, by rw [h, String.append_assoc], rfl⟩
  have hlast : String.Pos.Raw.IsValid s ⟨a.utf8ByteSize + b.utf8ByteSize⟩ :=
    String.Pos.Raw.isValid_iff_exists_append.2
      ⟨a ++ b, c, h, by rw [String.rawEndPos, String.utf8ByteSize_append]⟩
  obtain ⟨p, hp, hpo⟩ := exists_pos?_eq hfirst
  obtain ⟨q, hq, hqo⟩ := exists_pos?_eq hlast
  have hextract : s.extract p q = b := by
    rw [← String.toByteArray_inj, String.toByteArray_extract, hpo, hqo, h,
      String.toByteArray_append, String.toByteArray_append, ByteArray.append_assoc]
    exact (ByteArray.extract_append_size_add (i := 0)).trans (ByteArray.extract_append_eq_left rfl)
  rw [slice?, hp, hq]
  simp only [Option.bind_eq_bind, Option.bind_some, Nat.le_add_right, if_true, hextract]

/-- The rest of a text behind a boundary. -/
theorem slice?_rest (done rest : String) :
    slice? (done ++ rest) done.utf8ByteSize (done ++ rest).utf8ByteSize = some rest := by
  rw [String.utf8ByteSize_append]
  exact slice?_eq_some String.append_empty.symm

/-! ## Opening braces -/

theorem pieces_char_of_findOpen {c : Char} {rest : List Char}
    (h : ∀ more, c = '\x7b' → rest = '\x7b' :: more → False) :
    pieces (c :: rest) = .char c :: pieces rest := by
  refine pieces_char ?_
  rintro ⟨hc, hrest⟩
  obtain ⟨more, hmore⟩ := List.head?_eq_some_iff.1 hrest
  exact h more hc hmore

/-- In front of the first two opening braces a text is plain. -/
theorem findOpen_eq_some {cs : List Char} {n : Nat} (h : findOpen cs = some n) :
    ∃ front tail, cs = front ++ '\x7b' :: '\x7b' :: tail ∧ n = (encode front).length ∧
      pieces cs = front.map .char ++ pieces ('\x7b' :: '\x7b' :: tail) := by
  fun_induction findOpen cs generalizing n with
  | case1 => cases h
  | case2 tail =>
    cases h
    exact ⟨[], tail, rfl, rfl, rfl⟩
  | case3 c rest hopen ih =>
    obtain ⟨m, hm, rfl⟩ := Option.map_eq_some_iff.1 h
    obtain ⟨front, tail, hrest, rfl, hpieces⟩ := ih hm
    refine ⟨c :: front, tail, by rw [hrest, List.cons_append], ?_, ?_⟩
    · rw [encode_cons, List.length_append, String.length_utf8EncodeChar]
    · rw [pieces_char_of_findOpen hopen, hpieces, List.map_cons, List.cons_append]

/-- Without two opening braces next to each other a text is plain. -/
theorem pieces_of_findOpen_eq_none {cs : List Char} (h : findOpen cs = none) :
    pieces cs = cs.map .char := by
  fun_induction findOpen cs with
  | case1 => rw [pieces, List.map_nil]
  | case2 => cases h
  | case3 c rest hopen ih =>
    rw [pieces_char_of_findOpen hopen, ih (Option.map_eq_none_iff.1 h), List.map_cons]

/-- What stands in front of the first two opening braces and what stands behind them. -/
theorem exists_text_of_findOpen {rest : String} {n : Nat} (h : findOpen rest.toList = some n) :
    ∃ text tail : String, rest = text ++ "\x7b\x7b" ++ tail ∧ n = text.utf8ByteSize ∧
      pieces rest.toList =
        text.toList.map .char ++ pieces ('\x7b' :: '\x7b' :: tail.toList) := by
  obtain ⟨front, tail, hrest, rfl, hpieces⟩ := findOpen_eq_some h
  obtain ⟨text, rfl⟩ := exists_toList front
  obtain ⟨tail, rfl⟩ := exists_toList tail
  refine ⟨text, tail, ?_, Text.length_encode text, hpieces⟩
  rw [← String.toList_inj, hrest]
  simp

/-! ## The parts of a template -/

/-- What a cut behind `done` tells of the rest of a template: the pieces of its first part. -/
inductive FirstPart (done rest : String) : Cut → Prop
  | plain (pieces_eq : pieces rest.toList = rest.toList.map .char) :
    FirstPart done rest (.plain rest)
  | unterminated {front : List Char}
    (pieces_eq : pieces rest.toList = front.map .char ++ [.unterminated]) :
    FirstPart done rest .unterminated
  | placeholder {text body after : String}
    (rest_eq : rest = text ++ "\x7b\x7b" ++ body ++ "\x7d\x7d" ++ after)
    (pieces_eq : pieces rest.toList =
      text.toList.map .char ++ .placeholder body.toList :: pieces after.toList) :
    FirstPart done rest (.placeholder text body
      (done ++ (text ++ "\x7b\x7b" ++ body ++ "\x7d\x7d")).utf8ByteSize)

theorem size_open (done text : String) : done.utf8ByteSize + text.utf8ByteSize + 2 =
    (done ++ text ++ "\x7b\x7b").utf8ByteSize := by
  simp only [String.utf8ByteSize_append]
  rfl

/-- The places of a placeholder are those between which its body stands. -/
theorem cut_placeholder {template done rest text body after : String}
    (hrest : slice? template done.utf8ByteSize template.utf8ByteSize = some rest)
    (hopen : findOpen rest.toList = some text.utf8ByteSize)
    (htemplate : template = done ++ text ++ "\x7b\x7b" ++ body ++ "\x7d\x7d" ++ after)
    (hclose : findClose template (done ++ text ++ "\x7b\x7b").utf8ByteSize =
      some ((done ++ text ++ "\x7b\x7b").utf8ByteSize + body.utf8ByteSize)) :
    cut template done.utf8ByteSize = some (.placeholder text body
      (done ++ (text ++ "\x7b\x7b" ++ body ++ "\x7d\x7d")).utf8ByteSize) := by
  have hnext : (done ++ text ++ "\x7b\x7b").utf8ByteSize + body.utf8ByteSize + 2 =
      (done ++ (text ++ "\x7b\x7b" ++ body ++ "\x7d\x7d")).utf8ByteSize := by
    simp only [String.utf8ByteSize_append, Nat.add_assoc]
    rfl
  have htext : slice? template done.utf8ByteSize (done.utf8ByteSize + text.utf8ByteSize) =
      some text := by
    refine slice?_eq_some (c := "\x7b\x7b" ++ body ++ "\x7d\x7d" ++ after) ?_
    rw [htemplate]
    simp only [String.append_assoc]
  have hbody : slice? template (done ++ text ++ "\x7b\x7b").utf8ByteSize
      ((done ++ text ++ "\x7b\x7b").utf8ByteSize + body.utf8ByteSize) = some body := by
    refine slice?_eq_some (c := "\x7d\x7d" ++ after) ?_
    rw [htemplate]
    simp only [String.append_assoc]
  simp only [cut, hrest, hopen, size_open, hclose, htext, hbody, Option.bind_eq_bind,
    Option.bind_some, hnext]

/-- Behind a boundary all slices are defined, and so is the first part. -/
theorem exists_cut (done rest : String) :
    ∃ found, cut (done ++ rest) done.utf8ByteSize = some found ∧ FirstPart done rest found := by
  have hrest := slice?_rest done rest
  cases hopen : findOpen rest.toList with
  | none =>
    refine ⟨.plain rest, ?_, .plain (pieces_of_findOpen_eq_none hopen)⟩
    simp only [cut, hrest, hopen, Option.bind_eq_bind, Option.bind_some]
  | some n =>
    obtain ⟨text, tail, hsplit, rfl, hpieces⟩ := exists_text_of_findOpen hopen
    have htemplate : done ++ rest = done ++ text ++ "\x7b\x7b" ++ tail := by
      rw [hsplit]
      simp only [String.append_assoc]
    have hclose := findClose_append (done ++ text ++ "\x7b\x7b") tail
    rw [← htemplate] at hclose
    rw [pieces_open] at hpieces
    cases hcut : cutClose .outside tail.toList with
    | none =>
      rw [hcut] at hclose hpieces
      refine ⟨.unterminated, ?_, .unterminated hpieces⟩
      simp only [cut, hrest, hopen, size_open, hclose, Option.map_none, Option.bind_eq_bind,
        Option.bind_some]
    | some parts =>
      obtain ⟨body, after, rfl, htail, -⟩ := exists_body hcut
      rw [hcut, Option.map_some, Text.length_encode] at hclose
      rw [hcut] at hpieces
      have hparts : rest = text ++ "\x7b\x7b" ++ body ++ "\x7d\x7d" ++ after := by
        rw [hsplit, htail]
        simp only [String.append_assoc]
      have hwhole : done ++ rest = done ++ text ++ "\x7b\x7b" ++ body ++ "\x7d\x7d" ++ after := by
        rw [hparts]
        simp only [String.append_assoc]
      exact ⟨_, cut_placeholder hrest hopen hwhole hclose, .placeholder hparts hpieces⟩

/-! ## Texts -/

section Values
variable {value : List Char → Except TemplateFault (List Char)}

theorem renderFrom_of_cut {template : String} {cursor : Nat} {found : Cut}
    (h : cut template cursor = some found) : renderFrom value template cursor =
      match found with
      | .plain text => some (.ok text)
      | .unterminated => some (.error .unterminated)
      | .placeholder text body next =>
        match value body.toList with
        | .error fault => some (.error fault)
        | .ok result => (renderFrom value template next).map fun rest =>
          rest.map fun rest => text ++ String.ofList result ++ rest := by
  rw [renderFrom]
  split <;> rename_i hfound <;> rw [h] at hfound <;> cases hfound <;> rfl

/-- Behind a boundary the bytes give the text of the pieces. -/
theorem renderFrom_append (done rest : String) :
    renderFrom value (done ++ rest) done.utf8ByteSize =
      some ((renderPieces value (pieces rest.toList)).map String.ofList) := by
  -- A placeholder is passed as a whole, so the induction is on the length.
  induction hn : rest.utf8ByteSize using Nat.strongRecOn generalizing done rest with
  | ind n ih =>
    subst hn
    obtain ⟨found, hcut, hfirst⟩ := exists_cut done rest
    rw [renderFrom_of_cut hcut]
    cases hfirst with
    | plain hpieces =>
      rw [hpieces, renderPieces_char]
      exact congrArg (some ∘ Except.ok) String.ofList_toList.symm
    | unterminated hpieces =>
      rw [hpieces, renderPieces_append, renderPieces_char]
      rfl
    | @placeholder text body after hrest hpieces =>
      have hshorter : after.utf8ByteSize < rest.utf8ByteSize := by
        have hsize : ("\x7b\x7b" : String).utf8ByteSize = 2 := rfl
        simp only [hrest, String.utf8ByteSize_append, hsize]
        omega
      have hnext := ih _ hshorter (done ++ (text ++ "\x7b\x7b" ++ body ++ "\x7d\x7d")) after rfl
      rw [String.append_assoc, ← hrest] at hnext
      rw [hpieces, renderPieces_append, renderPieces_char, renderPieces]
      simp only [hnext]
      cases value body.toList with
      | error fault => rfl
      | ok result =>
        cases renderPieces value (pieces after.toList) with
        | error fault => rfl
        | ok behind =>
          simp [Except.map, bind, Except.bind, pure, Except.pure, String.ofList_append,
            String.append_assoc]

end Values

/-- By its bytes and by its characters a template has one text. -/
theorem renderBytes_eq (origin template : String) (c : Context) :
    renderBytes origin template c = some (render origin template c) := by
  have hall : renderFrom (evaluate c) ("" ++ template) 0 = _ := renderFrom_append "" template
  rw [String.empty_append] at hall
  rw [renderBytes, render, hall]
  cases renderPieces (evaluate c) (pieces template.toList) <;> rfl

/-- Behind a boundary the slices of the first part are defined, and what follows a placeholder is
behind a later boundary. -/
theorem cut_of_splits {template before rest : String} {start : template.Pos}
    (h : start.Splits before rest) :
    ∃ found, cut template start.offset.byteIdx = some found ∧
      ∀ text body next, found = .placeholder text body next →
        start.offset.byteIdx < next ∧ String.Pos.Raw.IsValid template ⟨next⟩ := by
  obtain ⟨found, hcut, hfirst⟩ := exists_cut before rest
  rw [← h.eq_append, ← byteIdx_of_splits h] at hcut
  refine ⟨found, hcut, ?_⟩
  rintro text body next rfl
  refine ⟨(lt_of_cut hcut).1, ?_⟩
  cases hfirst with
  | @placeholder _ _ after hrest =>
    refine String.Pos.Raw.isValid_iff_exists_append.2 ⟨_, after, ?_, rfl⟩
    rw [h.eq_append, String.append_assoc, ← hrest]

/-- **The closing braces of a placeholder are found among the bytes.** From every boundary on, the
place that is found is that of the first closing braces outside of quoted texts as the characters
are read, and none is found if there are none. The place and the place behind the braces are
boundaries, so that every slice of the template is defined and each placeholder is passed; the text
is that of the characters. -/
theorem closing_braces_found (template : String) (start : template.Pos) :
    (∀ close, findClose template start.offset.byteIdx = some close ↔
      IsLeast {close | ClosesAt start close} close) ∧
    (findClose template start.offset.byteIdx = none ↔ ∀ close, ¬ ClosesAt start close) ∧
    (∀ close, findClose template start.offset.byteIdx = some close →
      start.offset.byteIdx ≤ close ∧ String.Pos.Raw.IsValid template ⟨close⟩ ∧
        String.Pos.Raw.IsValid template ⟨close + 2⟩) ∧
    (∃ found, cut template start.offset.byteIdx = some found ∧
      ∀ text body next, found = .placeholder text body next →
        start.offset.byteIdx < next ∧ String.Pos.Raw.IsValid template ⟨next⟩) ∧
    ∀ origin c, renderBytes origin template c = some (render origin template c) := by
  refine ⟨fun close => findClose_eq_some_iff, findClose_eq_none_iff, fun close hfound => ?_,
    cut_of_splits start.splits, fun origin c => renderBytes_eq origin template c⟩
  exact isValid_of_closesAt (findClose_eq_some_iff.1 hfound).1

/-- Closing braces in a quoted text, behind a backslash and a character of two bytes. -/
def escapedBraces : String := "\x7b\x7b '\\é\x7d\x7d' \x7d\x7d"

/-- The beginning of the body. -/
def escapedBody : escapedBraces.Pos := escapedBraces.pos ⟨2⟩ (by decide +kernel)

theorem escapedBraces_passed :
    (findClose escapedBraces 2 = some 11 ∧ IsLeast {close | ClosesAt escapedBody close} 11 ∧
      String.Pos.Raw.IsValid escapedBraces ⟨11⟩) ∧
    cut escapedBraces 0 = some (.placeholder "" " '\\é\x7d\x7d' " 13) ∧
    String.Pos.Raw.IsValid escapedBraces ⟨13⟩ := by
  obtain ⟨hfound, -, hvalid, -⟩ := closing_braces_found escapedBraces escapedBody
  have hclose : findClose escapedBraces escapedBody.offset.byteIdx = some 11 := by decide +kernel
  refine ⟨⟨hclose, (hfound 11).1 hclose, (hvalid 11 hclose).2.1⟩, ?_⟩
  obtain ⟨-, -, -, ⟨found, hcut, hnext⟩, -⟩ :=
    closing_braces_found escapedBraces escapedBraces.startPos
  have hfirst : cut escapedBraces 0 = some (.placeholder "" " '\\é\x7d\x7d' " 13) := by
    decide +kernel
  have hplaceholder : found = .placeholder "" " '\\é\x7d\x7d' " 13 :=
    Option.some.inj (hcut.symm.trans hfirst)
  exact ⟨hfirst, (hnext _ _ _ hplaceholder).2⟩

end Stencil.Template
