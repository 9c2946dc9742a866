import Stencil.Expression.Token
import Stencil.Proofs.Result
import Stencil.Proofs.Text.Quotes
import Stencil.Proofs.Text.Strip

/-!
# Tokens and the texts they come from

The tokens of a text are those of its first part and those of the rest, if the cut is outside of
quoted texts and no token reaches across it (`ofText_append`). A text that has tokens leaves no
quoted text open (`after_of_ofText`), and blanks around it do not count (`ofText_strip`).
-/
namespace Stencil.Expression.Token
open Text (Reading)
open Text.Reading (IsQuote)

/-! ## Characters of tokens -/

/-- Whether a token may go on with a character; quoted texts go on with all characters. -/
def Continues (c : Char) : Prop := '*'.toNat ≤ c.toNat ∧ c.toNat ≤ 'z'.toNat

instance : DecidablePred Continues := fun _ => inferInstanceAs (Decidable (_ ∧ _))

theorem Continues.not_isQuote {c : Char} (h : Continues c) : ¬ IsQuote c := by
  rintro (rfl | rfl) <;> exact absurd h (by decide)

/-- Whether a character is a Latin letter, a digit or a mark. -/
def Printable (c : Char) : Prop := '!'.toNat ≤ c.toNat ∧ c.toNat ≤ '~'.toNat

instance : DecidablePred Printable := fun _ => inferInstanceAs (Decidable (_ ∧ _))

theorem not_printable_of_isBlank {c : Char} (h : Unicode.isBlank c) : ¬ Printable c := by
  unfold Unicode.isBlank at h
  simp only [Bool.or_eq_true, Bool.and_eq_true, decide_eq_true_eq, beq_iff_eq] at h
  have hlow : '!'.toNat = 33 := rfl
  have hhigh : '~'.toNat = 126 := rfl
  unfold Printable
  omega

theorem Continues.printable {c : Char} (h : Continues c) : Printable c := by
  have hstar : '*'.toNat = 42 := rfl
  have hz : 'z'.toNat = 122 := rfl
  have hlow : '!'.toNat = 33 := rfl
  have hhigh : '~'.toNat = 126 := rfl
  unfold Continues at h
  unfold Printable
  omega

theorem pair?_eq_some {c d : Char} {t : Token} (h : pair? c d = some t) :
    Printable c ∧ ¬ IsQuote c ∧ Continues d := by
  unfold pair? at h
  split at h
  all_goals first
    | exact ⟨by decide, by decide, by decide⟩
    | cases h

theorem single?_eq_some {c : Char} {t : Token} (h : single? c = some t) :
    Printable c ∧ ¬ IsQuote c := by
  unfold single? at h
  split at h
  all_goals first
    | exact ⟨by decide, by decide⟩
    | cases h

/-- A token may go on with the characters between two with which it may go on. -/
theorem continues_of_between {c : Char} (first last : Char) (hlow : first.val ≤ c.val)
    (hhigh : c.val ≤ last.val) (hfirst : Continues first) (hlast : Continues last) :
    Continues c :=
  ⟨hfirst.1.trans (UInt32.le_iff_toNat_le.1 hlow), (UInt32.le_iff_toNat_le.1 hhigh).trans hlast.2⟩

theorem continues_of_isAlphanum {c : Char} (h : c.isAlphanum) : Continues c := by
  obtain halpha | hdigit := Bool.or_eq_true_iff.1 h
  · obtain hupper | hlower := Bool.or_eq_true_iff.1 halpha
    · obtain ⟨hlow, hhigh⟩ := of_decide_eq_true hupper
      exact continues_of_between 'A' 'Z' hlow hhigh (by decide) (by decide)
    · obtain ⟨hlow, hhigh⟩ := Bool.and_eq_true_iff.1 hlower
      exact continues_of_between 'a' 'z' (of_decide_eq_true hlow) (of_decide_eq_true hhigh)
        (by decide) (by decide)
  · obtain ⟨hlow, hhigh⟩ := Bool.and_eq_true_iff.1 hdigit
    exact continues_of_between '0' '9' (of_decide_eq_true hlow) (of_decide_eq_true hhigh)
      (by decide) (by decide)

theorem continues_of_continuesName {c : Char} (h : continuesName c) : Continues c := by
  rw [continuesName, Bool.or_eq_true] at h
  rcases h with h | h
  · exact continues_of_isAlphanum h
  · obtain rfl := beq_iff_eq.1 h
    decide

theorem continues_of_hexDigit? {c : Char} (h : (Json.hexDigit? c).isSome) : Continues c := by
  have hstar : '*'.toNat = 42 := rfl
  have hz : 'z'.toNat = 122 := rfl
  unfold Json.hexDigit? at h
  simp only [Char.le_def, UInt32.le_iff_toNat_le] at h
  unfold Continues
  simp only [Char.reduceVal, UInt32.reduceToNat, Char.toNat] at *
  split at h
  · omega
  · split at h
    · omega
    · split at h
      · omega
      · cases h

theorem continues_of_next {hex : Bool} {part part' : NumberPart} {c : Char}
    (h : part.next hex c = some part') : Continues c := by
  unfold NumberPart.next at h
  split at h
  · rename_i hc
    obtain rfl := hc.1
    decide
  split at h
  · rename_i hc
    rcases hc.1 with rfl | rfl <;> decide
  split at h
  · rename_i hc
    rcases hc.1 with rfl | rfl <;> decide
  split at h
  · exact continues_of_isAlphanum (by simp [Char.isAlphanum, *])
  split at h
  · rename_i hc
    exact continues_of_hexDigit? hc.2.1
  split at h
  · rename_i hc
    subst hc
    decide
  · cases h

/-- Whether no token goes on from the text before `tail`. -/
def EndsTokens (tail : List Char) : Prop := ∀ c ∈ tail.head?, ¬ Continues c

/-! ## Quoted texts -/

section Quoted
variable {q : Char} {cs : List Char}

theorem cutQuoted_cons {c : Char} (hc : c ≠ '\\') (q : Char) (cs : List Char) :
    cutQuoted q (c :: cs) =
      if c = q then some ([], cs) else (cutQuoted q cs).map fun (s, rest) => (c :: s, rest) := by
  rw [cutQuoted]
  rintro d more rfl
  exact absurd rfl hc

/-- What is cut off ends at the quote that closes the text. -/
theorem cutQuoted_eq_some {body rest : List Char} (h : cutQuoted q cs = some (body, rest)) :
    cs = body ++ q :: rest ∧ (Reading.inside q).after body = .inside q := by
  fun_induction cutQuoted q cs generalizing body with
  | case1 => cases h
  | case2 c cs ih =>
    obtain ⟨⟨front, back⟩, hcut, hfront⟩ := Option.map_eq_some_iff.1 h
    cases hfront
    obtain ⟨rfl, hread⟩ := ih hcut
    exact ⟨rfl, hread⟩
  | case3 cs hescape =>
    cases h
    exact ⟨rfl, rfl⟩
  | case4 c cs hescape hc ih =>
    obtain ⟨⟨front, back⟩, hcut, hfront⟩ := Option.map_eq_some_iff.1 h
    cases hfront
    have hbackslash : c ≠ '\\' := by
      intro hbackslash
      cases cs with
      | nil => cases hcut
      | cons d more => exact hescape d more hbackslash rfl
    obtain ⟨rfl, hread⟩ := ih hcut
    refine ⟨rfl, ?_⟩
    rw [Reading.after_cons, Reading.next_inside hbackslash, if_neg hc, hread]

/-- A quoted text that is not closed is open at the end. -/
theorem after_of_cutQuoted_eq_none (h : cutQuoted q cs = none) :
    (Reading.inside q).after cs ≠ .outside := by
  fun_induction cutQuoted q cs with
  | case1 => simp
  | case2 c cs ih => exact ih (Option.map_eq_none_iff.1 h)
  | case3 cs => cases h
  | case4 c cs hescape hc ih =>
    have hrest := ih (Option.map_eq_none_iff.1 h)
    by_cases hbackslash : c = '\\'
    · cases cs with
      | nil => simp [Reading.next, hbackslash]
      | cons d more => exact (hescape d more hbackslash rfl).elim
    · rwa [Reading.after_cons, Reading.next_inside hbackslash, if_neg hc]

/-- Once a quoted text is closed, what follows does not count. -/
theorem cutQuoted_append {body rest : List Char} (hq : q ≠ '\\') (tail : List Char)
    (h : cutQuoted q cs = some (body, rest)) :
    cutQuoted q (cs ++ tail) = some (body, rest ++ tail) := by
  fun_induction cutQuoted q cs generalizing body with
  | case1 => cases h
  | case2 c cs ih =>
    obtain ⟨⟨front, back⟩, hcut, hfront⟩ := Option.map_eq_some_iff.1 h
    cases hfront
    rw [List.cons_append, List.cons_append, cutQuoted, ih hcut]
    rfl
  | case3 cs hescape =>
    cases h
    rw [List.cons_append, cutQuoted_cons hq, if_pos rfl]
  | case4 c cs hescape hc ih =>
    obtain ⟨⟨front, back⟩, hcut, hfront⟩ := Option.map_eq_some_iff.1 h
    cases hfront
    have hbackslash : c ≠ '\\' := by
      intro hbackslash
      cases cs with
      | nil => cases hcut
      | cons d more => exact hescape d more hbackslash rfl
    rw [List.cons_append, cutQuoted_cons hbackslash, if_neg hc, ih hcut]
    rfl

end Quoted

/-! ## Numbers -/

/-- The token of a number with these characters, which ends in the part `last`. -/
def numberValue (base : Nat) (run : List Char) (last : NumberPart) : Except ParseError Token :=
  let digits := run.filter (· ≠ '_')
  if run.getLast? = some '_' then .error .badNumber
  else if last = .whole ∨ last = .based then
    match inBase? base digits with
    | some n => if n < twoTo 128 then .ok (.int n) else .error .badNumber
    | none => .error .badNumber
  else match Decimal.parse? digits with
    | some x => .ok (.real x)
    | none => .error .badNumber

/-- The characters of the number behind its base, and the part in which it ends. -/
def runOf (cs : List Char) : List Char × NumberPart :=
  numberRun ((baseOf cs).1 = 16) (if (baseOf cs).1 = 10 then .whole else .based) (baseOf cs).2

theorem number_eq (cs : List Char) : number cs =
    (numberValue (baseOf cs).1 (runOf cs).1 (runOf cs).2).map fun t =>
      (t, (baseOf cs).2.drop (runOf cs).1.length) := by
  unfold number numberValue runOf
  dsimp only
  generalize numberRun _ _ _ = run
  split
  · rfl
  split
  · cases inBase? (baseOf cs).1 (run.1.filter (· ≠ '_')) with
    | none => rfl
    | some n =>
      dsimp only
      split <;> rfl
  · cases Decimal.parse? (run.1.filter (· ≠ '_')) <;> rfl

section Number
variable {cs tail : List Char}

theorem numberRun_append (ht : EndsTokens tail) (hex : Bool) (part : NumberPart) :
    numberRun hex part (cs ++ tail) = numberRun hex part cs := by
  induction cs generalizing part with
  | nil =>
    cases tail with
    | nil => rfl
    | cons c tail =>
      have hnext : part.next hex c = none := by
        cases hnext : part.next hex c with
        | none => rfl
        | some part' => exact absurd (continues_of_next hnext) (ht c rfl)
      rw [List.nil_append, numberRun, numberRun, hnext]
  | cons c cs ih =>
    rw [List.cons_append, numberRun, numberRun]
    cases part.next hex c with
    | none => rfl
    | some part' => simp only [ih]

theorem numberRun_spec (hex : Bool) (part : NumberPart) (cs : List Char) :
    (numberRun hex part cs).1 <+: cs ∧ ∀ c ∈ (numberRun hex part cs).1, Continues c := by
  induction cs generalizing part with
  | nil => simp [numberRun]
  | cons c cs ih =>
    rw [numberRun]
    cases hnext : part.next hex c with
    | none => simp
    | some part' =>
      obtain ⟨hstart, hrun⟩ := ih part'
      refine ⟨List.cons_prefix_cons.2 ⟨rfl, hstart⟩, ?_⟩
      exact List.forall_mem_cons.2 ⟨continues_of_next hnext, hrun⟩

theorem baseOf_cons {c : Char} (hc : c ≠ '0') (cs : List Char) :
    baseOf (c :: cs) = (10, c :: cs) := by
  rw [baseOf]
  rintro m rest ⟨⟩
  exact hc rfl

theorem baseOf_zero (m : Char) (rest : List Char) : baseOf ('0' :: m :: rest) =
    if m = 'b' ∨ m = 'B' then (2, rest)
    else if m = 'o' ∨ m = 'O' then (8, rest)
    else if m = 'x' ∨ m = 'X' then (16, rest)
    else (10, '0' :: m :: rest) := rfl

theorem baseOf_append (hcs : cs ≠ []) (ht : EndsTokens tail) :
    baseOf (cs ++ tail) = ((baseOf cs).1, (baseOf cs).2 ++ tail) := by
  cases cs with
  | nil => exact absurd rfl hcs
  | cons c cs =>
    by_cases hc : c = '0'
    · subst hc
      cases cs with
      | nil =>
        cases tail with
        | nil => rfl
        | cons m tail =>
          have hm : ¬ Continues m := ht m rfl
          rw [List.cons_append, List.nil_append, baseOf_zero, if_neg, if_neg, if_neg]
          · rfl
          all_goals
            rintro (rfl | rfl)
            all_goals exact hm (by decide)
      | cons m more =>
        simp only [List.cons_append, baseOf_zero]
        split
        · rfl
        split
        · rfl
        split <;> rfl
    · rw [List.cons_append, baseOf_cons hc, baseOf_cons hc, List.cons_append]

/-- A number that names no base has base ten. -/
theorem exists_base (cs : List Char) : ∃ front, cs = front ++ (baseOf cs).2 ∧
    (∀ c ∈ front, Continues c) ∧ (front = [] → (baseOf cs).1 = 10) := by
  have marked {m : Char} (hm : Continues m) : ∀ c ∈ ['0', m], Continues c :=
    List.forall_mem_cons.2 ⟨by decide, List.forall_mem_singleton.2 hm⟩
  unfold baseOf
  split
  · rename_i m rest
    split
    · rename_i hm
      exact ⟨['0', m], rfl, marked (by rcases hm with rfl | rfl <;> decide), by simp⟩
    split
    · rename_i hm
      exact ⟨['0', m], rfl, marked (by rcases hm with rfl | rfl <;> decide), by simp⟩
    split
    · rename_i hm
      exact ⟨['0', m], rfl, marked (by rcases hm with rfl | rfl <;> decide), by simp⟩
    · exact ⟨[], rfl, by simp, fun _ => rfl⟩
  · exact ⟨[], rfl, by simp, fun _ => rfl⟩

theorem number_append (hcs : cs ≠ []) (ht : EndsTokens tail) :
    number (cs ++ tail) = (number cs).map fun (t, rest) => (t, rest ++ tail) := by
  have hrun : runOf (cs ++ tail) = runOf cs := by
    rw [runOf, runOf, baseOf_append hcs ht, numberRun_append ht]
  have hlength : (runOf cs).1.length ≤ (baseOf cs).2.length :=
    (numberRun_spec ..).1.length_le
  rw [number_eq, number_eq, hrun, baseOf_append hcs ht, List.drop_append_of_le_length hlength]
  cases numberValue (baseOf cs).1 (runOf cs).1 (runOf cs).2 <;> rfl

theorem next_isSome_of_isDigit {hex : Bool} {part : NumberPart} {c : Char} (hc : c.isDigit) :
    (part.next hex c).isSome := by
  unfold NumberPart.next
  split_ifs <;> rfl

/-- What is read of a number, which starts with a digit. -/
theorem number_eq_ok {c : Char} {t : Token} {rest : List Char} (hc : c.isDigit)
    (h : number (c :: cs) = .ok (t, rest)) :
    ∃ used, c :: cs = used ++ rest ∧ used ≠ [] ∧ ∀ d ∈ used, Continues d := by
  rw [number_eq] at h
  obtain ⟨t', -, h⟩ := map_eq_ok.1 h
  obtain ⟨-, rfl⟩ := Prod.mk.inj h
  obtain ⟨front, hfront, hcontinues, hbase⟩ := exists_base (c :: cs)
  obtain ⟨hstart, hrun⟩ : (runOf (c :: cs)).1 <+: (baseOf (c :: cs)).2 ∧
      ∀ d ∈ (runOf (c :: cs)).1, Continues d := numberRun_spec ..
  refine ⟨front ++ (runOf (c :: cs)).1, ?_, ?_, ?_⟩
  · rw [List.append_assoc, List.prefix_iff_eq_append.1 hstart]
    exact hfront
  · intro hnil
    obtain ⟨rfl, hnone⟩ := List.append_eq_nil_iff.1 hnil
    -- Without a base, the run starts with the digit.
    rw [runOf, hbase rfl, ← List.nil_append (baseOf _).2, ← hfront, numberRun] at hnone
    split at hnone
    · cases hnone
    · rename_i hnext
      exact absurd (next_isSome_of_isDigit hc) (by rw [hnext]; simp)
  · intro d hd
    rcases List.mem_append.1 hd with hd | hd
    · exact hcontinues d hd
    · exact hrun d hd

end Number

/-! ## Single tokens -/

section One
variable {c : Char} {t : Token} {rest rest' tail : List Char}

/-- What is read of a token, and that it leaves no quoted text open. -/
theorem one_eq_ok (h : one c rest = .ok (t, rest')) :
    Printable c ∧ ∃ used, c :: rest = used ++ rest' ∧ used ≠ [] ∧
      Reading.outside.after used = .outside := by
  have plain : ∀ used : List Char, (∀ d ∈ used, ¬ IsQuote d) →
      Reading.outside.after used = .outside := fun _ => Reading.after_outside
  unfold one at h
  split at h
  · rename_i pair hpair
    obtain ⟨d, hd, hpair⟩ := Option.bind_eq_some_iff.1 hpair
    obtain ⟨more, rfl⟩ := List.head?_eq_some_iff.1 hd
    obtain ⟨hprintable, hquote, hcontinues⟩ := pair?_eq_some hpair
    cases h
    exact ⟨hprintable, [c, d], rfl, by simp, plain _ (by simp [hquote, hcontinues.not_isQuote])⟩
  split at h
  · rename_i single hsingle
    obtain ⟨hprintable, hquote⟩ := single?_eq_some hsingle
    cases h
    exact ⟨hprintable, [c], rfl, by simp, plain _ (by simp [hquote])⟩
  split at h
  · rename_i hquote
    have hprintable : Printable c := by rcases hquote with rfl | rfl <;> decide
    refine ⟨hprintable, ?_⟩
    split at h
    · cases h
    · rename_i body more hcut
      obtain ⟨rfl, hread⟩ := cutQuoted_eq_some hcut
      have hrest : rest' = more := by
        split at h <;> cases h
        rfl
      subst hrest
      refine ⟨c :: (body ++ [c]), by simp, by simp, ?_⟩
      rw [Reading.after_cons, Reading.next_of_isQuote hquote, Reading.after_append, hread,
        Reading.after_cons, Reading.next_inside (IsQuote.ne_backslash hquote), if_pos rfl,
        Reading.after_nil]
  split at h
  · rename_i hdigit
    obtain ⟨used, hused, hne, hcontinues⟩ := number_eq_ok hdigit h
    have hc : Continues c := continues_of_isAlphanum (by simp [Char.isAlphanum, hdigit])
    exact ⟨hc.printable, used, hused, hne, plain _ fun d hd => (hcontinues d hd).not_isQuote⟩
  split at h
  · rename_i hname
    have hc : continuesName c := by
      simp only [startsName, continuesName, Char.isAlphanum, Bool.or_eq_true] at hname ⊢
      tauto
    cases h
    refine ⟨(continues_of_continuesName hc).printable,
      (c :: rest).takeWhile continuesName, ?_, ?_, ?_⟩
    · exact (List.prefix_iff_eq_append.1 (List.takeWhile_prefix _)).symm
    · rw [List.takeWhile_cons_of_pos hc]
      exact List.cons_ne_nil _ _
    · exact plain _ fun d hd =>
        (continues_of_continuesName (List.mem_takeWhile_imp hd)).not_isQuote
  · cases h

theorem head?_bind_pair? (ht : EndsTokens tail) (c : Char) (rest : List Char) :
    (rest ++ tail).head?.bind (pair? c) = rest.head?.bind (pair? c) := by
  cases rest with
  | nil =>
    cases tail with
    | nil => rfl
    | cons d tail =>
      cases hpair : pair? c d with
      | none => exact hpair
      | some t => exact absurd (pair?_eq_some hpair).2.2 (ht d rfl)
  | cons d rest => rfl

theorem takeWhile_continuesName_append (ht : EndsTokens tail) (cs : List Char) :
    (cs ++ tail).takeWhile continuesName = cs.takeWhile continuesName := by
  have htail : tail.takeWhile continuesName = [] := by
    cases tail with
    | nil => rfl
    | cons d tail =>
      refine List.takeWhile_cons_of_neg fun hd => ht d rfl ?_
      exact continues_of_continuesName hd
  induction cs with
  | nil => exact htail
  | cons d cs ih => rw [List.cons_append, List.takeWhile_cons, List.takeWhile_cons, ih]

/-- A token is the same before a text that it does not go on in, if no quoted text is open there. -/
theorem one_append (ht : EndsTokens tail) (hread : Reading.outside.after (c :: rest) = .outside) :
    one c (rest ++ tail) = (one c rest).map fun (t, rest) => (t, rest ++ tail) := by
  unfold one
  rw [head?_bind_pair? ht]
  cases hpair : rest.head?.bind (pair? c) with
  | some t =>
    cases rest with
    | nil => cases hpair
    | cons d rest => rfl
  | none =>
    cases single? c with
    | some t => rfl
    | none =>
      dsimp only
      split
      · rename_i hquote
        rw [Reading.after_cons, Reading.next_of_isQuote hquote] at hread
        cases hcut : cutQuoted c rest with
        | none => exact absurd hread (after_of_cutQuoted_eq_none hcut)
        | some cut =>
          obtain ⟨body, more⟩ := cut
          rw [cutQuoted_append (IsQuote.ne_backslash hquote) tail hcut]
          cases hbody : unescape none (body.length + 1) body <;> simp only [hbody] <;> rfl
      split
      · exact number_append (List.cons_ne_nil c rest) ht
      split
      · rw [← List.cons_append, takeWhile_continuesName_append ht, List.drop_append_of_le_length
          (List.takeWhile_prefix _).length_le]
        rfl
      · rfl

end One

/-! ## All tokens -/

/-- What is left behind the first token is shorter than the text. -/
theorem length_lt_of_one {c : Char} {cs rest rest' : List Char} {t : Token}
    (hcs : cs.dropWhile isBlank = c :: rest) (h : one c rest = .ok (t, rest')) :
    rest'.length < cs.length := by
  obtain ⟨-, used, hused, hne, -⟩ := one_eq_ok h
  have hpos := List.length_pos_of_ne_nil hne
  have hle : (c :: rest).length ≤ cs.length := hcs ▸ (List.dropWhile_suffix _).length_le
  rw [hused, List.length_append] at hle
  omega

/-- More fuel than characters is enough. -/
theorem readAll_congr {m n : Nat} {cs : List Char} (hm : cs.length < m) (hn : cs.length < n) :
    readAll m cs = readAll n cs := by
  induction m generalizing n cs with
  | zero => omega
  | succ m ih =>
    cases n with
    | zero => omega
    | succ n =>
      rw [readAll, readAll]
      cases hcs : cs.dropWhile isBlank with
      | nil => rfl
      | cons c rest =>
        dsimp only
        cases hone : one c rest with
        | error e => rfl
        | ok found =>
          obtain ⟨t, rest'⟩ := found
          have hlt := length_lt_of_one hcs hone
          have hread : readAll m rest' = readAll n rest' := ih (by omega) (by omega)
          simp only [bind, Except.bind, hread]

/-- The tokens of a text are its first token and those of the rest. -/
theorem ofText_eq (cs : List Char) : ofText cs =
    (match cs.dropWhile isBlank with
    | [] => .ok []
    | c :: rest => do
      let (t, rest) ← one c rest
      pure (t :: (← ofText rest))) := by
  rw [ofText, readAll]
  cases hcs : cs.dropWhile isBlank with
  | nil => rfl
  | cons c rest =>
    dsimp only
    cases hone : one c rest with
    | error e => rfl
    | ok found =>
      obtain ⟨t, rest'⟩ := found
      have hlt := length_lt_of_one hcs hone
      have hread : readAll cs.length rest' = ofText rest' :=
        readAll_congr (by omega) (by omega)
      simp only [bind, Except.bind, hread]

/-- What holds of a text if it holds of what is behind its first token holds of all texts. -/
theorem induction_on_tokens {motive : List Char → Prop}
    (blank : ∀ cs, cs.dropWhile isBlank = [] → motive cs)
    (token : ∀ cs c rest, cs.dropWhile isBlank = c :: rest →
      (∀ t rest', one c rest = .ok (t, rest') → motive rest') → motive cs)
    (cs : List Char) : motive cs := by
  induction hn : cs.length using Nat.strongRecOn generalizing cs with
  | ind n ih =>
    subst hn
    cases hcs : cs.dropWhile isBlank with
    | nil => exact blank cs hcs
    | cons c rest =>
      exact token cs c rest hcs fun t rest' hone => ih _ (length_lt_of_one hcs hone) rest' rfl

theorem not_isQuote_of_isBlank {c : Char} (h : isBlank c) : ¬ IsQuote c := by
  rintro (rfl | rfl) <;> exact absurd h (by decide)

theorem after_dropWhile_isBlank (cs : List Char) :
    Reading.outside.after (cs.dropWhile isBlank) = Reading.outside.after cs := by
  have hblank : Reading.outside.after (cs.takeWhile isBlank) = .outside :=
    Reading.after_outside fun c hc => not_isQuote_of_isBlank (List.mem_takeWhile_imp hc)
  conv_rhs => rw [← List.takeWhile_append_dropWhile (p := isBlank) (l := cs)]
  rw [Reading.after_append, hblank]

/-- A text that has tokens leaves no quoted text open. -/
theorem after_of_ofText {cs : List Char} {ts : List Token} (h : ofText cs = .ok ts) :
    Reading.outside.after cs = .outside := by
  induction cs using induction_on_tokens generalizing ts with
  | blank cs hcs => rw [← after_dropWhile_isBlank, hcs, Reading.after_nil]
  | token cs c rest hcs ih =>
    rw [ofText_eq, hcs] at h
    obtain ⟨⟨t, rest'⟩, hone, h⟩ := bind_eq_ok.1 h
    obtain ⟨ts', hts', -⟩ := bind_eq_ok.1 h
    obtain ⟨-, used, hused, -, hread⟩ := one_eq_ok hone
    rw [← after_dropWhile_isBlank, hcs, hused, Reading.after_append, hread]
    exact ih t rest' hone hts'

/-- The tokens of a text are those of its two parts, if the cut is outside of quoted texts and no
token goes on behind it. -/
theorem ofText_append {cs tail : List Char} (ht : EndsTokens tail)
    (hread : Reading.outside.after cs = .outside) :
    ofText (cs ++ tail) = (do
      let ts ← ofText cs
      let us ← ofText tail
      pure (ts ++ us)) := by
  induction cs using induction_on_tokens with
  | blank cs hcs =>
    rw [ofText_eq (cs ++ tail), ofText_eq cs, List.dropWhile_append, hcs]
    simp only [List.isEmpty_nil, if_true]
    rw [← ofText_eq tail]
    cases ofText tail <;> rfl
  | token cs c rest hcs ih =>
    rw [← after_dropWhile_isBlank, hcs] at hread
    rw [ofText_eq (cs ++ tail), ofText_eq cs, List.dropWhile_append, hcs]
    simp only [List.isEmpty_cons, Bool.false_eq_true, if_false, List.cons_append]
    rw [one_append ht hread]
    cases hone : one c rest with
    | error e => rfl
    | ok found =>
      obtain ⟨t, rest'⟩ := found
      obtain ⟨-, used, hused, -, hused'⟩ := one_eq_ok hone
      rw [hused, Reading.after_append, hused'] at hread
      simp only [Except.map, bind, Except.bind, ih t rest' hone hread]
      cases ofText rest' with
      | error e => rfl
      | ok ts => cases ofText tail <;> rfl

theorem ofText_closeBrace (cs : List Char) : ofText ('\x7d' :: cs) = (do
    pure (.closeBrace :: (← ofText cs))) := by
  have hpair : ∀ d, pair? '\x7d' d = none := by
    intro d
    simp [pair?]
  have hone : one '\x7d' cs = .ok (.closeBrace, cs) := by
    unfold one
    cases cs with
    | nil => rfl
    | cons d cs =>
      simp only [List.head?_cons, Option.bind_some, hpair]
      rfl
  rw [ofText_eq, List.dropWhile_cons_of_neg (by decide)]
  simp only [hone]
  rfl

/-! ## Blanks around a text -/

theorem ofText_cons_blank {c : Char} (hc : isBlank c) (cs : List Char) :
    ofText (c :: cs) = ofText cs := by
  rw [ofText_eq, ofText_eq cs, List.dropWhile_cons_of_pos hc]

/-- Blanks before the first token do not count. -/
theorem ofText_dropWhile {cs : List Char} {ts : List Token} (h : ofText cs = .ok ts) :
    ofText (cs.dropWhile Unicode.isBlank) = .ok ts := by
  induction cs with
  | nil => exact h
  | cons c cs ih =>
    by_cases hblank : Unicode.isBlank c
    · rw [List.dropWhile_cons_of_pos hblank]
      refine ih ?_
      by_cases hc : isBlank c
      · rwa [ofText_cons_blank hc] at h
      · -- No token starts with a blank of another kind.
        rw [ofText_eq, List.dropWhile_cons_of_neg hc] at h
        obtain ⟨⟨t, rest⟩, hone, -⟩ := bind_eq_ok.1 h
        exact absurd (one_eq_ok hone).1 (not_printable_of_isBlank hblank)
    · rwa [List.dropWhile_cons_of_neg hblank]

theorem not_isQuote_of_unicodeBlank {c : Char} (h : Unicode.isBlank c) : ¬ IsQuote c := by
  rintro (rfl | rfl) <;> exact absurd h (by decide)

/-- Blanks behind the last token do not count. -/
theorem ofText_dropEndWhile {cs : List Char} {ts : List Token} (h : ofText cs = .ok ts) :
    ofText (Text.dropEndWhile Unicode.isBlank cs) = .ok ts := by
  obtain ⟨tail, htail, hblank⟩ := Text.exists_end Unicode.isBlank cs
  have hread : Reading.outside.after (Text.dropEndWhile Unicode.isBlank cs) = .outside := by
    have hwhole := after_of_ofText h
    rw [htail, Reading.after_append] at hwhole
    refine (Reading.after_eq_outside_iff (Reading.sound_outside.after _) ?_).1 hwhole
    exact fun c hc => not_isQuote_of_unicodeBlank (hblank c hc)
  have hends : EndsTokens tail := by
    intro c hc hcontinues
    have hmem : c ∈ tail := List.mem_of_mem_head? hc
    exact not_printable_of_isBlank (hblank c hmem) hcontinues.printable
  rw [htail, ofText_append hends hread] at h
  obtain ⟨us, hus, h⟩ := bind_eq_ok.1 h
  obtain ⟨vs, hvs, h⟩ := bind_eq_ok.1 h
  have hnil : vs = [] := by
    have hdrop := ofText_dropWhile hvs
    rw [List.dropWhile_eq_nil_iff.2 hblank] at hdrop
    exact (Except.ok.inj hdrop).symm
  subst hnil
  rw [← Except.ok.inj h, List.append_nil]
  exact hus

/-- Blanks around a text do not count. -/
theorem ofText_strip {cs : List Char} {ts : List Token} (h : ofText cs = .ok ts) :
    ofText (Text.stripWhile Unicode.isBlank cs) = .ok ts :=
  ofText_dropEndWhile (ofText_dropWhile h)

end Stencil.Expression.Token
