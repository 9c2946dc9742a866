import Mathlib
import Stencil.Proofs.Expression.Lexing
import Stencil.Proofs.Expression.Nesting
import Stencil.Proofs.Template.Rendering
import Stencil.Proofs.Template.Scanning

/-!
# Expressions in placeholders

Every expression may be written in a placeholder, except where two closing braces stand next to each
other in it outside of quoted texts, as they do at the end of a map within a map. The placeholder
then ends there, and since the braces of an expression are balanced, what stands before is no
expression (`placeholder_gives_outcome`). A blank between the two braces is enough to avoid this.
-/
namespace Stencil.Template
open Expression (Expr Token)
open Text (Reading)

/-- Whether two closing braces stand next to each other outside of quoted texts. -/
def ClosesEarly (cs : List Char) : Prop :=
  ∃ before after, cs = before ++ '\x7d' :: '\x7d' :: after ∧ Reading.outside.after before = .outside

theorem closesEarly_iff {cs : List Char} : ClosesEarly cs ↔ (cutClose .outside cs).isSome := by
  constructor
  · rintro ⟨before, after, rfl, hread⟩
    exact Option.isSome_iff_ne_none.2 (cutClose_ne_none hread after)
  · intro h
    obtain ⟨⟨before, after⟩, hcut⟩ := Option.isSome_iff_exists.1 h
    obtain ⟨htext, hread⟩ := cutClose_eq_some hcut
    exact ⟨before, after, htext, hread⟩

instance (cs : List Char) : Decidable (ClosesEarly cs) := decidable_of_iff _ closesEarly_iff.symm

/-! ## The expression -/

/-- Whether a text is an expression depends on its tokens only. -/
theorem parse_congr {cs cs' : List Char} (h : Token.ofText cs = Token.ofText cs') :
    Expression.parse cs = Expression.parse cs' := by
  rw [Expression.parse, Expression.parse, h]

theorem parse_sourceOf {cs : List Char} {e : Expr} (h : Expression.parse cs = .ok e) :
    Expression.parse (sourceOf cs) = .ok e := by
  obtain ⟨ts, hts, -⟩ := bind_eq_ok.1 h
  have hsource : Token.ofText (sourceOf cs) = .ok ts := Token.ofText_strip hts
  rwa [parse_congr (hsource.trans hts.symm)]

theorem sourceOf_padded (cs : List Char) : sourceOf (' ' :: (cs ++ [' '])) = sourceOf cs := by
  have hblank : ∀ c ∈ [' '], Unicode.isBlank c := List.forall_mem_singleton.2 (by decide)
  rw [sourceOf, Text.stripWhile_cons_of_pos (by decide), Text.stripWhile_append cs hblank, sourceOf]

/-- What stands before two closing braces in an expression is no expression. -/
theorem parse_front {before after : List Char} {e : Expr}
    (h : Expression.parse (before ++ '\x7d' :: '\x7d' :: after) = .ok e)
    (hread : Reading.outside.after before = .outside) :
    sourceOf before ≠ [] ∧ ∃ problem, Expression.parse (sourceOf before) = .error problem := by
  obtain ⟨ts, hts, hbalanced⟩ := Expression.balanced_of_parse h
  have hends : Token.EndsTokens ('\x7d' :: '\x7d' :: after) := by
    rintro c ⟨⟩
    decide
  rw [Token.ofText_append hends hread, Token.ofText_closeBrace] at hts
  obtain ⟨front, hfront, hts⟩ := bind_eq_ok.1 hts
  obtain ⟨back, hback, hts⟩ := bind_eq_ok.1 hts
  obtain ⟨back', -, hback⟩ := bind_eq_ok.1 hback
  cases hback
  cases hts
  have hsource : Token.ofText (sourceOf before) = .ok front :=
    Token.ofText_strip hfront
  constructor
  · intro hnil
    rw [hnil] at hsource
    cases hsource
    exact hbalanced.front_not_balanced Expression.Parser.balanced_nil
  · cases hparse : Expression.parse (sourceOf before) with
    | error problem => exact ⟨problem, rfl⟩
    | ok e' =>
      obtain ⟨ts', hts', hbalanced'⟩ := Expression.balanced_of_parse hparse
      cases hsource.symm.trans hts'
      exact absurd hbalanced' hbalanced.front_not_balanced

/-! ## The placeholder -/

/-- The template that consists of one placeholder. -/
def placeholderOf (text : String) : String := "\x7b\x7b " ++ text ++ " \x7d\x7d"

theorem pieces_placeholderOf (text : String) : pieces (placeholderOf text).toList =
    match cutClose .outside (' ' :: (text.toList ++ [' ', '\x7d', '\x7d'])) with
    | some (before, after) => .placeholder before :: pieces after
    | none => [.unterminated] := by
  have htext : (placeholderOf text).toList =
      '\x7b' :: '\x7b' :: ' ' :: (text.toList ++ [' ', '\x7d', '\x7d']) := by
    simp [placeholderOf]
  rw [htext, pieces, bodyPieces_eq]
  rfl

theorem pieces_placeholderOf_of_not_closesEarly {text : String}
    (hread : Reading.outside.after text.toList = .outside) (hclose : ¬ ClosesEarly text.toList) :
    pieces (placeholderOf text).toList = [.placeholder (' ' :: (text.toList ++ [' ']))] := by
  rw [closesEarly_iff, Option.not_isSome_iff_eq_none] at hclose
  rw [pieces_placeholderOf, cutClose_cons (by simp), Reading.next_outside (by decide),
    cutClose_append_of_none hclose (by simp), hread]
  rfl

theorem pieces_placeholderOf_of_closesEarly {text : String} (hclose : ClosesEarly text.toList) :
    ∃ before after, text.toList = before ++ '\x7d' :: '\x7d' :: after ∧
      Reading.outside.after before = .outside ∧ pieces (placeholderOf text).toList =
        .placeholder (' ' :: before) :: pieces (after ++ [' ', '\x7d', '\x7d']) := by
  obtain ⟨⟨before, after⟩, hcut⟩ := Option.isSome_iff_exists.1 (closesEarly_iff.1 hclose)
  obtain ⟨htext, hread⟩ := cutClose_eq_some hcut
  refine ⟨before, after, htext, hread, ?_⟩
  rw [pieces_placeholderOf, cutClose_cons (by simp), Reading.next_outside (by decide),
    cutClose_append_of_some _ hcut]
  rfl

theorem render_eq_of_pieces {origin template : String} {c : Context} {body : List Char}
    (h : pieces template.toList = [.placeholder body]) : render origin template c =
      match evaluate c body with
      | .ok text => .ok (String.ofList text)
      | .error fault => .error (.template origin fault) := by
  rw [render, h, renderPieces]
  cases evaluate c body with
  | error fault => rfl
  | ok text => simp [renderPieces, bind, Except.bind, pure, Except.pure]

/-- **What placeholders give.** An expression in a placeholder gives its outcome, whatever is nested
in it, as long as it has no two closing braces next to each other outside of quoted texts; such
braces end the placeholder, and what stands before them is no expression. -/
theorem placeholder_gives_outcome {text : String} {e : Expr}
    (parsed : Expression.parse text.toList = .ok e) (origin : String) (c : Context) :
    (¬ ClosesEarly text.toList → render origin (placeholderOf text) c =
      match outcome c (Text.trim text) e with
      | .ok result => .ok (String.ofList result)
      | .error fault => .error (.template origin fault)) ∧
    (ClosesEarly text.toList → ∃ before after problem,
      text.toList = before ++ '\x7d' :: '\x7d' :: after ∧
      render origin (placeholderOf text) c = .error
        (.template origin (.notAnExpression (String.ofList (sourceOf before)) problem))) := by
  constructor
  · intro hclose
    have hread : Reading.outside.after text.toList = .outside := by
      obtain ⟨ts, hts, -⟩ := bind_eq_ok.1 parsed
      exact Token.after_of_ofText hts
    have hparsed : Expression.parse (sourceOf (' ' :: (text.toList ++ [' ']))) = .ok e := by
      rw [sourceOf_padded]
      exact parse_sourceOf parsed
    rw [render_eq_of_pieces (pieces_placeholderOf_of_not_closesEarly hread hclose),
      evaluate_eq_outcome hparsed, sourceOf_padded]
    rfl
  · intro hclose
    obtain ⟨before, after, htext, hread, hpieces⟩ := pieces_placeholderOf_of_closesEarly hclose
    obtain ⟨hne, problem, hproblem⟩ := parse_front (htext ▸ parsed) hread
    have hsource : sourceOf (' ' :: before) = sourceOf before :=
      Text.stripWhile_cons_of_pos (by decide) before
    rw [← hsource] at hne hproblem
    refine ⟨before, after, problem, htext, render_eq_error ?_⟩
    rw [hpieces, renderPieces, evaluate_eq_notAnExpression hproblem hne c, hsource]
    rfl

def quotedBraces : String := "'\x7d\x7d' ~ name"

def nestedMap : String := "\x7b\"a\":\x7b\"b\":1\x7d\x7d"

theorem nestedMap_parsed : ∃ e, Expression.parse nestedMap.toList = .ok e := by
  have isOk : (Expression.parse nestedMap.toList).isOk := by decide +kernel
  cases h : Expression.parse nestedMap.toList with
  | ok e => exact ⟨e, rfl⟩
  | error problem =>
    rw [h] at isOk
    cases isOk

/-- Quoted braces leave a placeholder open, and those of nested maps do not. -/
theorem quotedBraces_nestedMap :
    (∀ origin c, render origin (placeholderOf quotedBraces) c = .ok ("\x7d\x7d" ++ c.name)) ∧
    ∀ origin c, ∃ before after problem,
      nestedMap.toList = before ++ '\x7d' :: '\x7d' :: after ∧
      render origin (placeholderOf nestedMap) c = .error
        (.template origin (.notAnExpression (String.ofList (sourceOf before)) problem)) := by
  constructor
  · intro origin c
    have parsed : Expression.parse quotedBraces.toList = .ok
        (.binary .concatenate (.literal (.text "\x7d\x7d")) (.name "name")) := by cbv
    rw [(placeholder_gives_outcome parsed origin c).1 (by decide)]
    have result : outcome c (Text.trim quotedBraces)
        (.binary .concatenate (.literal (.text "\x7d\x7d")) (.name "name")) =
          .ok ("\x7d\x7d" ++ c.name).toList := rfl
    rw [result]
    exact congrArg Except.ok String.ofList_toList
  · intro origin c
    obtain ⟨e, parsed⟩ := nestedMap_parsed
    exact (placeholder_gives_outcome parsed origin c).2 (by decide)

/-- An expression may have a value and yet be no placeholder. -/
theorem nestedMap_without_outcome :
    ¬ ∀ (text : String) (e : Expr), Expression.parse text.toList = .ok e →
      ∀ (origin : String) (c : Context), render origin (placeholderOf text) c =
        match outcome c (Text.trim text) e with
        | .ok result => .ok (String.ofList result)
        | .error fault => .error (.template origin fault) := by
  intro claim
  obtain ⟨e, parsed⟩ := nestedMap_parsed
  have rendered : render "t" (placeholderOf nestedMap) userContext = .error
      (.template "t" (.notAnExpression "\x7b\"a\":\x7b\"b\":1" .unexpectedEnd)) := by
    decide +kernel
  have expected := claim nestedMap e parsed "t" userContext
  rw [rendered] at expected
  cases houtcome : outcome userContext (Text.trim nestedMap) e with
  | ok result =>
    rw [houtcome] at expected
    cases expected
  | error fault =>
    rw [houtcome] at expected
    cases expected
    exact outcome_ne_notAnExpression houtcome

end Stencil.Template
