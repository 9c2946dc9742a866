import Stencil.Proofs.Result
import Stencil.Template.Render

/-!
# What rendering gives

The pieces of a template are rendered from left to right: the text of two parts is that of the first
and that of the second (`renderPieces_append`), and one placeholder without a text is enough for the
template to have none (`render_error_of_mem`). A placeholder that holds an expression has the
outcome of the expression (`evaluate_eq_outcome`).
-/
namespace Stencil.Template

/-! ## Placeholders -/

/-- The text of an expression in a placeholder. -/
def sourceOf (body : List Char) : List Char := Text.stripWhile Unicode.isBlank body

/-- What comes out of an expression that is written as `source`: the text of its value, or the
reason why it has none. -/
def outcome (c : Context) (source : String) (e : Expression.Expr) :
    Except TemplateFault (List Char) :=
  match unknownName? e with
  | some v => .error (.unknownVariable v source)
  | none =>
    match e.eval c.scope with
    | .error e => .error (.evaluation source e)
    | .ok v => .ok v.display.toList

/-- No outcome is that a text is no expression. -/
theorem outcome_ne_notAnExpression {c : Context} {source front : String} {e : Expression.Expr}
    {problem : Expression.ParseError} :
    outcome c source e ≠ .error (.notAnExpression front problem) := by
  unfold outcome
  split
  · simp
  · split <;> simp

theorem parse_nil_ne_ok (e : Expression.Expr) : Expression.parse [] ≠ .ok e := by
  intro h
  have hnil : Expression.parse [] = .error .unexpectedEnd := by cbv
  rw [hnil] at h
  cases h

/-- A placeholder that holds an expression has its outcome. -/
theorem evaluate_eq_outcome {body : List Char} {e : Expression.Expr}
    (h : Expression.parse (sourceOf body) = .ok e) (c : Context) :
    evaluate c body = outcome c (String.ofList (sourceOf body)) e := by
  have hne : (sourceOf body).isEmpty = false := by
    cases hs : sourceOf body with
    | nil => exact absurd (hs ▸ h) (parse_nil_ne_ok e)
    | cons c rest => rfl
  simp only [sourceOf] at h hne
  simp only [evaluate, hne, h]
  rfl

/-- A placeholder that holds something else names it. -/
theorem evaluate_eq_notAnExpression {body : List Char} {problem : Expression.ParseError}
    (h : Expression.parse (sourceOf body) = .error problem) (hne : sourceOf body ≠ [])
    (c : Context) :
    evaluate c body = .error (.notAnExpression (String.ofList (sourceOf body)) problem) := by
  have hne : (sourceOf body).isEmpty = false := List.isEmpty_eq_false_iff.2 hne
  simp only [sourceOf] at h hne
  simp only [evaluate, hne, h]
  rfl

/-! ## Pieces -/

section Pieces
variable {value : List Char → Except TemplateFault (List Char)}

theorem renderPieces_append (a b : List Piece) : renderPieces value (a ++ b) = (do
    let s ← renderPieces value a
    let t ← renderPieces value b
    pure (s ++ t)) := by
  induction a with
  | nil =>
    simp only [List.nil_append, renderPieces]
    cases renderPieces value b <;> rfl
  | cons piece rest ih =>
    cases piece with
    | char x =>
      simp only [List.cons_append, renderPieces, ih]
      cases renderPieces value rest <;> cases renderPieces value b <;> rfl
    | placeholder body =>
      simp only [List.cons_append, renderPieces, ih]
      cases value body <;> cases renderPieces value rest <;> cases renderPieces value b <;>
        simp [bind, Except.bind, pure, Except.pure]
    | unterminated => rfl

/-- A placeholder without a text fails with its own fault if what stands before it has a text. -/
theorem renderPieces_error {before after : List Piece} {body text : List Char}
    {fault : TemplateFault} (hbefore : renderPieces value before = .ok text)
    (hbody : value body = .error fault) :
    renderPieces value (before ++ .placeholder body :: after) = .error fault := by
  rw [renderPieces_append, hbefore, renderPieces, hbody]
  rfl

end Pieces

/-! ## Templates -/

section Templates
variable {c : Context} {origin template : String}

theorem render_eq_error {fault : TemplateFault}
    (h : renderPieces (evaluate c) (pieces template.toList) = .error fault) :
    render origin template c = .error (.template origin fault) := by
  rw [render, h]

/-- One placeholder without a text is enough for the template to have none. -/
theorem render_error_of_mem {body : List Char} {fault : TemplateFault}
    (hmem : .placeholder body ∈ pieces template.toList) (hbody : evaluate c body = .error fault) :
    ∃ fault, render origin template c = .error (.template origin fault) := by
  obtain ⟨before, after, hpieces⟩ := List.append_of_mem hmem
  cases hbefore : renderPieces (evaluate c) before with
  | ok text =>
    refine ⟨fault, render_eq_error ?_⟩
    rw [hpieces]
    exact renderPieces_error hbefore hbody
  | error first =>
    refine ⟨first, render_eq_error ?_⟩
    rw [hpieces, renderPieces_append, hbefore]
    rfl

end Templates

/-- The values of a run with the name `user` and no other options. -/
def userContext : Context where
  name := "user"
  className := "User"
  dashName := "user"
  camelName := "user"
  snakeName := "user"
  constantName := "USER"
  path := ""
  database := "none"
  messaging := "none"
  auth := "none"
  crud := "orm"
  operations := ["select", "insert", "update", "delete"]
  skipTests := false
  applyMigrations := false

example : (Options.normalize ⟨[], "", none⟩ [("name", .string "user")]).map Context.ofOptions =
    .ok userContext := by
  decide +kernel

end Stencil.Template
