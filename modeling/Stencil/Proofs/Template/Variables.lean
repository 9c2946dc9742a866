import Mathlib
import Stencil.Proofs.Expression.Evaluation
import Stencil.Proofs.Template.Rendering

/-!
# Variables are a closed vocabulary

Before an expression is evaluated, all its variables are looked for in the vocabulary: one that is
not in it is an error, also where it would not be evaluated, and of several such variables the first
in the order of texts is named. The vocabulary has a value for each of its names in every context,
so no variable of an expression that is evaluated is undefined (`variables_closed`).
-/
namespace Stencil.Template
open Expression (Expr)
open Expression.Expr (Occurs)

/-- The least of several texts is one of them, and none comes before it. -/
theorem least?_eq_some {texts : List String} {s : String} (h : least? texts = some s) :
    s ∈ texts ∧ ∀ t ∈ texts, s ≤ t := by
  induction texts generalizing s with
  | nil => cases h
  | cons first rest ih =>
    rw [least?] at h
    cases hrest : least? rest with
    | none =>
      rw [hrest] at h
      cases h
      cases rest with
      | nil => simp
      | cons next more =>
        rw [least?] at hrest
        split at hrest <;> cases hrest
    | some t =>
      rw [hrest] at h
      obtain ⟨ht, least⟩ := ih hrest
      have h : (if first < t then first else t) = s := Option.some.inj h
      by_cases hlt : first < t
      · rw [if_pos hlt] at h
        subst h
        refine ⟨List.mem_cons_self, List.forall_mem_cons.2 ⟨le_refl _, fun u hu => ?_⟩⟩
        exact le_trans (le_of_lt hlt) (least u hu)
      · rw [if_neg hlt] at h
        subst h
        exact ⟨List.mem_cons_of_mem _ ht, List.forall_mem_cons.2 ⟨not_lt.1 hlt, least⟩⟩

theorem least?_eq_none_iff {texts : List String} : least? texts = none ↔ texts = [] := by
  cases texts with
  | nil => simp [least?]
  | cons first rest =>
    rw [least?]
    split <;> simp

/-- Whether a variable of an expression is not in the vocabulary and is the first such variable in
the order of texts. -/
structure FirstUnknown (e : Expr) (first : String) : Prop where
  occurs : Occurs (.name first) e
  unknown : first ∉ Context.names
  least : ∀ v, Occurs (.name v) e → v ∉ Context.names → first ≤ v

theorem mem_unknown_iff {e : Expr} {v : String} :
    (v ∈ e.names.filter fun v => !Context.names.contains v) ↔
      Occurs (.name v) e ∧ v ∉ Context.names := by
  simp [List.mem_filter, Expr.mem_names_iff]

/-- The name that is found is that of the first unknown variable. -/
theorem firstUnknown_of_unknownName? {e : Expr} {first : String}
    (h : unknownName? e = some first) : FirstUnknown e first := by
  obtain ⟨hmem, least⟩ := least?_eq_some h
  obtain ⟨occurs, unknown⟩ := mem_unknown_iff.1 hmem
  exact ⟨occurs, unknown, fun v hv hunknown => least v (mem_unknown_iff.2 ⟨hv, hunknown⟩)⟩

/-- None is found exactly if all variables are in the vocabulary. -/
theorem unknownName?_eq_none_iff {e : Expr} :
    unknownName? e = none ↔ ∀ v, Occurs (.name v) e → v ∈ Context.names := by
  rw [unknownName?, least?_eq_none_iff, List.eq_nil_iff_forall_not_mem]
  simp only [mem_unknown_iff, not_and, not_not]

/-- Each name of the vocabulary has a value in every context. -/
theorem Context.exists_lookup (c : Context) {v : String} (h : v ∈ names) :
    ∃ value, c.scope.lookup v = some value ∧ value.isUndefined = false := by
  simp only [names, List.mem_cons, List.not_mem_nil, or_false] at h
  rcases h with rfl | rfl | rfl | rfl | rfl | rfl | rfl | rfl | rfl | rfl | rfl | rfl | rfl | rfl
  all_goals exact ⟨_, rfl, rfl⟩

theorem lookup_append_of_some {s s' : Expression.Scope} {v : String} {value : Expression.Value}
    (h : s.lookup v = some value) : (s ++ s').lookup v = some value := by
  rw [List.lookup_append, h, Option.some_or]

/-- **Variables are a closed vocabulary.** An expression with a variable that is not in the
vocabulary fails in every context and names the first such variable; a template with it fails, and
with this fault if nothing before it fails. In an expression without such variables every variable
has a value, and its placeholder gives what the evaluation gives, whatever values other names
had. -/
theorem variables_closed {body : List Char} {e : Expr}
    (parsed : Expression.parse (sourceOf body) = .ok e) :
    ((∃ v, Occurs (.name v) e ∧ v ∉ Context.names) → ∃ first, FirstUnknown e first ∧
      ∀ (c : Context) (origin template : String) (before after : List Piece),
        pieces template.toList = before ++ .placeholder body :: after →
        (∃ fault, render origin template c = .error (.template origin fault)) ∧
        ((∃ text, renderPieces (evaluate c) before = .ok text) →
          render origin template c = .error
            (.template origin (.unknownVariable first (String.ofList (sourceOf body)))))) ∧
    ((∀ v, Occurs (.name v) e → v ∈ Context.names) → ∀ c : Context,
      (∀ v, Occurs (.name v) e →
        ∃ value, c.scope.lookup v = some value ∧ value.isUndefined = false) ∧
      ∀ others, e.eval (c.scope ++ others) = e.eval c.scope ∧
        evaluate c body = match e.eval (c.scope ++ others) with
          | .ok value => .ok value.display.toList
          | .error problem => .error (.evaluation (String.ofList (sourceOf body)) problem)) := by
  constructor
  · rintro ⟨v, hv, hunknown⟩
    cases hfirst : unknownName? e with
    | none => exact absurd (unknownName?_eq_none_iff.1 hfirst v hv) hunknown
    | some first =>
      refine ⟨first, firstUnknown_of_unknownName? hfirst, ?_⟩
      intro c origin template before after hpieces
      have hbody : evaluate c body =
          .error (.unknownVariable first (String.ofList (sourceOf body))) := by
        rw [evaluate_eq_outcome parsed, outcome, hfirst]
      constructor
      · exact render_error_of_mem (hpieces ▸ by simp) hbody
      · rintro ⟨text, hbefore⟩
        refine render_eq_error ?_
        rw [hpieces]
        exact renderPieces_error hbefore hbody
  · intro known c
    have defined : ∀ v, Occurs (.name v) e →
        ∃ value, c.scope.lookup v = some value ∧ value.isUndefined = false :=
      fun v hv => c.exists_lookup (known v hv)
    have same : ∀ others, e.eval (c.scope ++ others) = e.eval c.scope := by
      refine fun others => Expr.eval_congr fun v hv => ?_
      obtain ⟨value, hvalue, -⟩ := defined v (Expr.mem_names_iff.1 hv)
      rw [hvalue, lookup_append_of_some hvalue]
    refine ⟨defined, fun others => ⟨same others, ?_⟩⟩
    rw [evaluate_eq_outcome parsed, outcome, unknownName?_eq_none_iff.2 known, same others]
    cases e.eval c.scope <;> rfl

/-- A choice between two unknown variables, of which only one could be evaluated. -/
def strayChoice : Expr := .choose (.name "zz") (.name "skip_tests") (some (.name "aa"))

/-- The choice fails in every context, and a variable of the vocabulary is defined in every one. -/
theorem strayChoice_unknown :
    (Expression.parse (sourceOf " zz if skip_tests else aa ".toList) = .ok strayChoice ∧
      ∀ c origin, render origin "-{{ zz if skip_tests else aa }}" c = .error
        (.template origin (.unknownVariable "aa" "zz if skip_tests else aa"))) ∧
    Expression.parse (sourceOf " name ".toList) = .ok (.name "name") ∧ ∀ (c : Context) others,
      (Expr.name "name").eval (c.scope ++ others) = (Expr.name "name").eval c.scope ∧
        evaluate c " name ".toList = .ok c.name.toList := by
  have parsed : Expression.parse (sourceOf " zz if skip_tests else aa ".toList) =
      .ok strayChoice := by cbv
  have parsed' : Expression.parse (sourceOf " name ".toList) = .ok (.name "name") := by cbv
  have occurs : Occurs (.name "aa") strayChoice := Expr.mem_names_iff.1 (by decide)
  obtain ⟨first, hfirst, fails⟩ := (variables_closed parsed).1 ⟨"aa", occurs, by decide⟩
  have hname : first ∈ strayChoice.names := Expr.mem_names_iff.2 hfirst.occurs
  have hle : first ≤ "aa" := hfirst.least "aa" occurs (by decide)
  have haa : first = "aa" := by
    have hunknown := hfirst.unknown
    simp only [strayChoice, Expr.names, Expr.namesOfOption, List.cons_append, List.nil_append,
      List.mem_cons, List.not_mem_nil, or_false] at hname
    rcases hname with rfl | rfl | rfl
    · exact absurd (by decide) hunknown
    · exact absurd hle (by decide)
    · rfl
  subst haa
  refine ⟨⟨parsed, fun c origin => ?_⟩, parsed', fun c others => ?_⟩
  · exact (fails c origin _ [.char '-'] [] (by cbv)).2 ⟨['-'], rfl⟩
  · have known : ∀ v, Occurs (.name v) (.name "name") → v ∈ Context.names := by
      intro v hv
      rw [← Expr.mem_names_iff] at hv
      obtain rfl := List.mem_singleton.1 hv
      decide
    obtain ⟨same, given⟩ := ((variables_closed parsed').2 known c).2 others
    exact ⟨same, given.trans (by rw [same]; rfl)⟩

end Stencil.Template
