import Mathlib.Data.List.Basic
import Stencil.Proofs.Diff.Patch
import Stencil.Proofs.Text.Split
import Stencil.Proofs.Text.Strip

/-!
# Diffs are read as they were made

`readHunks_shown`: from the lines that are shown for hunks a reader finds the hunks, if every line
end in their rows has a line feed. A row that lacks its end is found by its mark.
-/
namespace Stencil.Diff
open Patch

/-! ## Lines -/

/-- All lines that have an end have a line feed in it. -/
def FeedEnded (text : String) : Prop := ∀ line ∈ lines text.toList, line.getLast? ≠ some '\r'

instance (text : String) : Decidable (FeedEnded text) :=
  inferInstanceAs (Decidable (∀ line ∈ lines text.toList, line.getLast? ≠ some '\r'))

theorem not_mem_dropLast_of_mem_lines {cs : List Char} {line : Line} (h : line ∈ lines cs) :
    '\n' ∉ line.dropLast := by
  fun_induction lines cs generalizing line with
  | case1 => cases h
  | case2 rest ih =>
    rcases List.mem_cons.1 h with rfl | h
    · decide
    · exact ih h
  | case3 c rest _ hc ih =>
    rcases List.mem_cons.1 h with rfl | h
    · simp
    · exact ih h
  | case4 c rest _ hc ih =>
    obtain ⟨hn, -⟩ := not_or.1 hc
    cases hl : lines rest with
    | nil =>
      rw [hl, prepend, List.mem_singleton] at h
      simp [h]
    | cons first more =>
      rw [hl] at h ih
      rcases List.mem_cons.1 h with rfl | h
      · cases first with
        | nil => simp
        | cons d first =>
          rw [List.dropLast_cons_cons]
          exact List.not_mem_cons_of_ne_of_not_mem (Ne.symm hn) (ih List.mem_cons_self)
      · exact ih (List.mem_cons_of_mem _ h)

theorem feedLines_eq_lines {cs : List Char} (h : ∀ line ∈ lines cs, line.getLast? ≠ some '\r') :
    feedLines cs = lines cs := by
  fun_induction lines cs with
  | case1 => rfl
  | case2 rest ih =>
    rw [← ih fun line hl => h line (List.mem_cons_of_mem _ hl)]
    rfl
  | case3 c rest _ hc ih =>
    obtain rfl | rfl := hc
    · rw [← ih fun line hl => h line (List.mem_cons_of_mem _ hl)]
      rfl
    · exact absurd rfl (h ['\r'] List.mem_cons_self)
  | case4 c rest _ hc ih =>
    rw [feedLines, if_neg (not_or.1 hc).1, ih]
    cases hl : lines rest with
    | nil => exact List.forall_mem_nil _
    | cons first more =>
      rw [hl] at h
      intro line hline
      rcases List.mem_cons.1 hline with rfl | hline
      · cases line with
        | nil => simp
        | cons d line => simpa using h (c :: d :: line) List.mem_cons_self
      · exact h line (List.mem_cons_of_mem _ hline)

/-- The line ends with its only line feed. -/
def Fed (line : Line) : Prop := ∃ body, '\n' ∉ body ∧ line = body ++ ['\n']

theorem Fed.getLast? {line : Line} (h : Fed line) : line.getLast? = some '\n' := by
  obtain ⟨body, -, rfl⟩ := h
  exact List.getLast?_concat

theorem feedLines_append {line : Line} (h : Fed line) (rest : List Char) :
    feedLines (line ++ rest) = line :: feedLines rest := by
  obtain ⟨body, hbody, rfl⟩ := h
  induction body with
  | nil => rfl
  | cons c body ih =>
    obtain ⟨hc, hbody⟩ := List.ne_and_not_mem_of_not_mem_cons hbody
    rw [List.cons_append, List.cons_append, feedLines, if_neg (Ne.symm hc), ih hbody]
    rfl

theorem feedLines_flatten {ls : List Line} (h : ∀ line ∈ ls, Fed line) :
    feedLines ls.flatten = ls := by
  induction ls with
  | nil => rfl
  | cons line ls ih =>
    obtain ⟨hline, hls⟩ := List.forall_mem_cons.1 h
    rw [List.flatten_cons, feedLines_append hline, ih hls]

/-! ## Headers -/

theorem readNumber_toString (n : Nat) : readNumber (toString n).toList = some n := by
  rw [Nat.toString_eq_ofList_toDigits, String.toList_ofList, readNumber, if_pos,
    Nat.ofDigitChars_ten_toDigits]
  refine ⟨Nat.toDigits_ne_nil, List.all_eq_true.2 fun c hc => ?_⟩
  exact Nat.isDigit_of_mem_toDigits (by decide) (by decide) hc

theorem isDigit_of_mem_toString {n : Nat} {c : Char} (h : c ∈ (toString n).toList) : c.isDigit := by
  rw [Nat.toString_eq_ofList_toDigits, String.toList_ofList] at h
  exact Nat.isDigit_of_mem_toDigits (by decide) (by decide) h

theorem not_mem_toString {c : Char} (hc : c.isDigit = false) (n : Nat) :
    c ∉ (toString n).toList := fun h => by
  simp [isDigit_of_mem_toString h] at hc

theorem rangeText_eq (start stop : Nat) :
    rangeText start stop =
      if stop - start = 1 then toString (start + 1)
      else if stop - start = 0 then toString start ++ ",0"
      else toString (start + 1) ++ "," ++ toString (stop - start) := rfl

theorem not_mem_rangeText {c : Char} (hc : c.isDigit = false) (hcomma : c ≠ ',')
    (start stop : Nat) : c ∉ (rangeText start stop).toList := by
  rw [rangeText_eq]
  split
  · exact not_mem_toString hc _
  · split
    · have hzero : c ≠ '0' := fun e => by simp [e] at hc
      simp [-Nat.toString_eq_repr, not_mem_toString hc start, hcomma, hzero]
    · simp [-Nat.toString_eq_repr, not_mem_toString hc, hcomma]

theorem readRange_pair {first count : List Char} (hfirst : ',' ∉ first) (hcount : ',' ∉ count) :
    readRange (first ++ ',' :: count) =
      (readNumber first).bind fun n => (readNumber count).bind fun m => rangeAt n m := by
  rw [readRange, Text.splitAt_append, Text.splitAt_of_not_mem hfirst,
    Text.splitAt_of_not_mem hcount]
  rfl

theorem readRange_rangeText (start stop : Nat) :
    readRange (rangeText start stop).toList = some ⟨start, stop - start⟩ := by
  have hcomma (n : Nat) : ',' ∉ (toString n).toList := not_mem_toString (by decide) n
  rw [rangeText_eq]
  split
  · rename_i h
    rw [readRange, Text.splitAt_of_not_mem (hcomma _), h]
    simp only [readNumber_toString]
    rfl
  · split
    · rename_i h
      rw [String.toList_append, show ",0".toList = ',' :: (toString 0).toList from rfl,
        readRange_pair (hcomma _) (hcomma _), readNumber_toString, readNumber_toString, h]
      rfl
    · rename_i h
      rw [String.toList_append, String.toList_append, List.append_assoc,
        show ",".toList = [','] from rfl, List.singleton_append,
        readRange_pair (hcomma _) (hcomma _), readNumber_toString, readNumber_toString]
      simp [rangeAt, h]

def Patch.Range.text (r : Range) : String := rangeText r.start (r.start + r.count)

theorem text_range (start stop : Nat) :
    Range.text ⟨start, stop - start⟩ = rangeText start stop := by
  rw [Range.text, rangeText_eq, rangeText_eq, Nat.add_sub_cancel_left]

theorem readRange_text (r : Range) : readRange r.text.toList = some r := by
  rw [Range.text, readRange_rangeText, Nat.add_sub_cancel_left]

def headerLine (old new : Range) : Line :=
  ("@@ -" ++ old.text ++ " +" ++ new.text ++ " @@\n").toList

theorem readHeader_headerLine (old new : Range) :
    readHeader (headerLine old new) = some (old, new) := by
  have hblank (r : Range) : ' ' ∉ r.text.toList := not_mem_rangeText (by decide) (by decide) _ _
  have hjoin : headerLine old new = Text.join [' ']
      [['@', '@'], '-' :: old.text.toList, '+' :: new.text.toList, ['@', '@', '\n']] := by
    simp [headerLine, Text.join]
  rw [readHeader, hjoin, Text.splitAt_join_of_not_mem (by simp) (by simp [hblank])]
  simp [readRange_text]

theorem fed_headerLine (old new : Range) : Fed (headerLine old new) := by
  have hfeed (r : Range) : '\n' ∉ r.text.toList := not_mem_rangeText (by decide) (by decide) _ _
  exact ⟨("@@ -" ++ old.text ++ " +" ++ new.text ++ " @@").toList, by simp [hfeed],
    by simp [headerLine]⟩

/-! ## Rows -/

def signOf : Action → Char
  | .keep => ' '
  | .remove => '-'
  | .add => '+'

/-- The line can be shown: it has no line feed but at its end, and no other end. -/
def Whole (line : Line) : Prop := '\n' ∉ line.dropLast ∧ line.getLast? ≠ some '\r'

theorem whole_of_mem_lines {text : String} (h : FeedEnded text) {line : Line}
    (hl : line ∈ lines text.toList) : Whole line :=
  ⟨not_mem_dropLast_of_mem_lines hl, h line hl⟩

def Patch.Row.shown (r : Row) : List Line :=
  if isEnded r.line then [signOf r.action :: r.line]
  else [signOf r.action :: r.line ++ ['\n'], noEnd]

theorem feed_noEnd : "\n\\ No newline at end of file\n".toList = '\n' :: noEnd := rfl

theorem lineText_eq (r : Row) : lineText (signOf r.action) r.line = r.shown.flatten := by
  by_cases he : isEnded r.line
  · rw [lineText, Row.shown, if_pos he, if_pos he, List.flatten_singleton, List.append_nil]
  · rw [lineText, Row.shown, if_neg he, if_neg he, feed_noEnd]
    simp

theorem Whole.ended {line : Line} (h : Whole line) (he : isEnded line) : Fed line := by
  unfold isEnded at he
  split at he
  · rename_i c hc
    obtain ⟨body, rfl⟩ := List.getLast?_eq_some_iff.1 hc
    obtain ⟨hbody, hend⟩ := h
    rw [List.dropLast_concat] at hbody
    have hreturn : c ≠ '\r' := by simpa using hend
    obtain rfl : c = '\n' := by simpa [hreturn] using he
    exact ⟨body, hbody, rfl⟩
  · cases he

theorem Whole.not_ended {line : Line} (h : Whole line) (he : ¬ isEnded line) : '\n' ∉ line := by
  obtain rfl | ⟨body, c, rfl⟩ := List.eq_nil_or_concat line
  · simp
  · simp [isEnded] at he
    simpa [Whole, Ne.symm he.1] using h.1

theorem Fed.cons {line : Line} (h : Fed line) {c : Char} (hc : c ≠ '\n') : Fed (c :: line) := by
  obtain ⟨body, hbody, rfl⟩ := h
  exact ⟨c :: body, List.not_mem_cons_of_ne_of_not_mem (Ne.symm hc) hbody, rfl⟩

theorem fed_shown {r : Row} (h : Whole r.line) : ∀ line ∈ r.shown, Fed line := by
  have hsign : signOf r.action ≠ '\n' := by cases r.action <;> decide
  unfold Row.shown
  split
  · rename_i he
    simpa using (h.ended he).cons hsign
  · rename_i he
    have := Fed.cons ⟨r.line, h.not_ended he, rfl⟩ hsign
    simpa using ⟨this, ⟨"\\ No newline at end of file".toList, by decide, rfl⟩⟩

/-! ## From lines to rows and hunks -/

theorem ne_noEnd {line : Line} (h : line.head? ≠ some '\\') : line ≠ noEnd := fun e => h (e ▸ rfl)

theorem before_sign (r : Reading) {action : Action} {cs : List Char}
    (h : Fed (signOf action :: cs)) :
    r.before (signOf action :: cs) =
      some ⟨false, ⟨action, if r.marked then cs.dropLast else cs⟩ :: r.rows, r.hunks⟩ := by
  have hmark : signOf action :: cs ≠ noEnd := ne_noEnd (by cases action <;> simp [signOf])
  unfold Reading.before
  rw [if_neg hmark, if_neg (not_not_intro h.getLast?)]
  cases action <;> rfl

theorem before_header {r : Reading} (h : r.marked = false) (old new : Range) :
    r.before (headerLine old new) = some ⟨false, [], ⟨old, new, r.rows⟩ :: r.hunks⟩ := by
  have hend := (fed_headerLine old new).getLast?
  have hread := readHeader_headerLine old new
  obtain ⟨rest, hrest⟩ : ∃ rest, headerLine old new = '@' :: rest := ⟨_, by simp [headerLine]; rfl⟩
  rw [hrest] at hend hread ⊢
  rw [Reading.before, if_neg (ne_noEnd (by simp)), if_neg (not_not_intro hend)]
  simp [h, hread]

theorem readLines_cons (line : Line) (rest : List Line) :
    readLines (line :: rest) = (readLines rest).bind (·.before line) := rfl

theorem readLines_row {r : Row} (h : Whole r.line) {ls : List Line} {rows : List Row}
    {hunks : List Hunk} (hls : readLines ls = some ⟨false, rows, hunks⟩) :
    readLines (r.shown ++ ls) = some ⟨false, r :: rows, hunks⟩ := by
  have hfed := fed_shown h
  unfold Row.shown at hfed ⊢
  split at hfed
  · rename_i he
    rw [if_pos he, List.singleton_append, readLines_cons, hls, Option.bind_some,
      before_sign _ (hfed _ List.mem_cons_self)]
    rfl
  · rename_i he
    rw [if_neg he]
    have hmark : readLines (noEnd :: ls) = some ⟨true, rows, hunks⟩ := by
      rw [readLines_cons, hls]
      rfl
    have hsign := before_sign ⟨true, rows, hunks⟩ (hfed _ List.mem_cons_self)
    rw [List.cons_append, List.singleton_append, readLines_cons, hmark, Option.bind_some]
    simpa using hsign

theorem readLines_rows {rows : List Row} (h : ∀ r ∈ rows, Whole r.line) {ls : List Line}
    {rows' : List Row} {hunks : List Hunk} (hls : readLines ls = some ⟨false, rows', hunks⟩) :
    readLines (rows.flatMap Row.shown ++ ls) = some ⟨false, rows ++ rows', hunks⟩ := by
  induction rows with
  | nil => exact hls
  | cons r rows ih =>
    obtain ⟨hr, hrows⟩ := List.forall_mem_cons.1 h
    rw [List.flatMap_cons, List.append_assoc]
    exact readLines_row hr (ih hrows)

def Patch.Hunk.shown (h : Hunk) : List Line := headerLine h.old h.new :: h.rows.flatMap Row.shown

theorem readLines_hunks {hs : List Hunk} (h : ∀ h ∈ hs, ∀ r ∈ h.rows, Whole r.line) :
    readLines (hs.flatMap Hunk.shown) = some ⟨false, [], hs⟩ := by
  induction hs with
  | nil => rfl
  | cons hunk hs ih =>
    obtain ⟨hhunk, hhs⟩ := List.forall_mem_cons.1 h
    rw [List.flatMap_cons, Hunk.shown, List.cons_append, readLines_cons,
      readLines_rows hhunk (ih hhs), Option.bind_some, before_header rfl]
    simp

/-- Hunks are read from the lines that show them. -/
theorem readHunks_shown {hs : List Hunk} (h : ∀ h ∈ hs, ∀ r ∈ h.rows, Whole r.line) :
    readHunks (feedLines (hs.flatMap Hunk.shown).flatten) = some hs := by
  rw [feedLines_flatten, readHunks, readLines_hunks h]
  intro line hline
  obtain ⟨hunk, hhunk, hline⟩ := List.mem_flatMap.1 hline
  rcases List.mem_cons.1 hline with rfl | hline
  · exact fed_headerLine ..
  · obtain ⟨r, hr, hline⟩ := List.mem_flatMap.1 hline
    exact fed_shown (h hunk hhunk r hr) line hline

end Stencil.Diff
