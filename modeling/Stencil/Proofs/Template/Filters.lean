import Mathlib
import Stencil.Proofs.Expression.Evaluation
import Stencil.Proofs.Template.Rendering

/-!
# Filters that do not exist

The name of a filter is looked up when the filter is applied, not before. A filter that does not
exist is therefore an error where the evaluation comes to it, and only there: a branch that is not
taken may name any filter (`unknown_filters_noticed`). Where every evaluation comes to a part, as it
does if the part stands in no branch and behind no `and`, `or` or relation, the error is certain.
-/
namespace Stencil.Expression.Expr

/-! ## Applied filters -/

/-- The parts that every evaluation comes to. -/
def certain : Expr → List Expr
  | and l _ | or l _ => [l]
  | compare first chain => first :: (chain.take 1).map (·.2)
  | choose _ condition _ => [condition]
  | e => e.parts

theorem certain_subset_reached (s : Scope) (e : Expr) : e.certain ⊆ e.reached s := by
  cases e with
  | and l r | or l r => exact List.cons_subset_cons _ (List.nil_subset _)
  | compare first chain =>
    refine List.cons_subset_cons _ ?_
    cases chain with
    | nil => exact List.nil_subset _
    | cons link rest => exact List.cons_subset_cons _ (List.nil_subset _)
  | choose value condition otherwise => exact List.cons_subset_cons _ (List.nil_subset _)
  | _ => exact List.Subset.refl _

/-- Whether a filter is met on the way down from an expression. -/
def FilterWithin (next : Expr → List Expr) (n : String) (e : Expr) : Prop :=
  ∃ input arguments, Within next (filter n input arguments) e

theorem FilterWithin.mono {next next' : Expr → List Expr} (sub : ∀ e, next e ⊆ next' e) {n : String}
    {e : Expr} (h : FilterWithin next n e) : FilterWithin next' n e := by
  obtain ⟨input, arguments, h⟩ := h
  exact ⟨input, arguments, h.mono sub⟩

/-- What an evaluation comes to has a value if the whole has one. -/
theorem eval_within {s : Scope} {inner e : Expr} {v : Value} (h : Within (reached s) inner e)
    (hv : eval s e = .ok v) : ∃ w, eval s inner = .ok w := by
  induction h generalizing v with
  | here => exact ⟨v, hv⟩
  | inside hpart _ ih =>
    obtain ⟨w, hw⟩ := eval_reached hv _ hpart
    exact ih hw

/-- A filter that does not exist gives no value. -/
theorem eval_filter_unknown {s : Scope} {n : String} (unknown : Filter.ofName? n = none)
    (input : Expr) (arguments : List (Passing × Expr)) (v : Value) :
    eval s (filter n input arguments) ≠ .ok v := by
  intro h
  rw [eval, bind_eq_ok] at h
  obtain ⟨a, -, h⟩ := h
  obtain ⟨vs, -, h⟩ := bind_eq_ok.1 h
  simp only [unknown] at h
  cases h

/-- An expression has no value if its evaluation comes to a filter that does not exist. -/
theorem eval_error_of_filterWithin {s : Scope} {n : String} {e : Expr}
    (unknown : Filter.ofName? n = none) (h : FilterWithin (reached s) n e) :
    ∃ error, eval s e = .error error := by
  obtain ⟨input, arguments, h⟩ := h
  cases he : eval s e with
  | error error => exact ⟨error, rfl⟩
  | ok v =>
    obtain ⟨w, hw⟩ := eval_within h he
    exact absurd hw (eval_filter_unknown unknown input arguments w)

/-! ## Filters by other names -/

mutual

/-- The expression with other names for its filters. -/
def renameFilters (f : String → String) : Expr → Expr
  | literal l => literal l
  | name n => name n
  | list items => list (renameInList f items)
  | map entries => map (renameInEntries f entries)
  | negate e => negate (renameFilters f e)
  | not e => not (renameFilters f e)
  | binary op l r => binary op (renameFilters f l) (renameFilters f r)
  | and l r => and (renameFilters f l) (renameFilters f r)
  | or l r => or (renameFilters f l) (renameFilters f r)
  | compare first chain => compare (renameFilters f first) (renameInChain f chain)
  | choose value condition otherwise =>
    choose (renameFilters f value) (renameFilters f condition) (renameInOption f otherwise)
  | field e n => field (renameFilters f e) n
  | item e i => item (renameFilters f e) (renameFilters f i)
  | slice e start stop step =>
    slice (renameFilters f e) (renameInOption f start) (renameInOption f stop)
      (renameInOption f step)
  | call callee arguments => call (renameFilters f callee) (renameInArguments f arguments)
  | filter n input arguments =>
    filter (f n) (renameFilters f input) (renameInArguments f arguments)
  | test n input arguments => test n (renameFilters f input) (renameInArguments f arguments)

def renameInList (f : String → String) : List Expr → List Expr
  | [] => []
  | e :: rest => renameFilters f e :: renameInList f rest

def renameInEntries (f : String → String) : List (Expr × Expr) → List (Expr × Expr)
  | [] => []
  | (k, v) :: rest => (renameFilters f k, renameFilters f v) :: renameInEntries f rest

def renameInChain (f : String → String) : List (Relation × Expr) → List (Relation × Expr)
  | [] => []
  | (r, e) :: rest => (r, renameFilters f e) :: renameInChain f rest

def renameInArguments (f : String → String) : List (Passing × Expr) → List (Passing × Expr)
  | [] => []
  | (p, e) :: rest => (p, renameFilters f e) :: renameInArguments f rest

def renameInOption (f : String → String) : Option Expr → Option Expr
  | none => none
  | some e => some (renameFilters f e)

end

section Renaming
variable {f : String → String}

theorem renameInList_eq (items : List Expr) :
    renameInList f items = items.map (renameFilters f) := by
  induction items with
  | nil => rfl
  | cons e rest ih => rw [renameInList, ih, List.map_cons]

theorem renameInEntries_eq (entries : List (Expr × Expr)) :
    renameInEntries f entries =
      entries.map fun (k, v) => (renameFilters f k, renameFilters f v) := by
  induction entries with
  | nil => rfl
  | cons entry rest ih => rw [renameInEntries, ih, List.map_cons]

theorem renameInChain_eq (chain : List (Relation × Expr)) :
    renameInChain f chain = chain.map fun (r, e) => (r, renameFilters f e) := by
  induction chain with
  | nil => rfl
  | cons link rest ih => rw [renameInChain, ih, List.map_cons]

theorem renameInArguments_eq (arguments : List (Passing × Expr)) :
    renameInArguments f arguments = arguments.map fun (p, e) => (p, renameFilters f e) := by
  induction arguments with
  | nil => rfl
  | cons argument rest ih => rw [renameInArguments, ih, List.map_cons]

theorem renameInOption_eq (o : Option Expr) : renameInOption f o = o.map (renameFilters f) := by
  cases o <;> rfl

/-- The expression with another name for its filter, if it is the application of one. -/
def renameHead (f : String → String) : Expr → Expr
  | filter n input arguments => filter (f n) input arguments
  | e => e

/-- Filters are renamed at the head and in the parts. -/
theorem renameFilters_eq (e : Expr) :
    renameFilters f e = (renameHead f e).mapParts (renameFilters f) := by
  cases e <;>
    simp only [renameFilters, renameHead, mapParts, renameInList_eq, renameInEntries_eq,
      renameInChain_eq, renameInArguments_eq, renameInOption_eq]

theorem renameHead_eq_self {e : Expr}
    (h : ∀ n input arguments, e = filter n input arguments → f n = n) : renameHead f e = e := by
  cases e with
  | filter n input arguments => rw [renameHead, h n input arguments rfl]
  | _ => rfl

theorem callFailure_renameFilters (callee : Expr) :
    callFailure (renameFilters f callee) = callFailure callee := by
  cases callee <;> rfl

/-- The names of filters that an evaluation does not come to are of no account. -/
theorem eval_renameFilters {s : Scope} {e : Expr}
    (h : ∀ n, FilterWithin (reached s) n e → f n = n) :
    eval s (renameFilters f e) = eval s e := by
  induction e using induction_on_parts with
  | step e ih =>
    by_cases hname : ∀ text, e ≠ name text
    · have hhead : renameHead f e = e := by
        refine renameHead_eq_self ?_
        rintro n input arguments rfl
        exact h n ⟨input, arguments, .here⟩
      rw [renameFilters_eq, hhead]
      refine eval_mapParts hname callFailure_renameFilters fun part hpart => ?_
      refine ih part (reached_subset_parts s e hpart) fun n hn => h n ?_
      obtain ⟨input, arguments, hn⟩ := hn
      exact ⟨input, arguments, .inside hpart hn⟩
    · push Not at hname
      obtain ⟨text, rfl⟩ := hname
      rfl

theorem parts_mapParts (g : Expr → Expr) (e : Expr) : (e.mapParts g).parts = e.parts.map g := by
  cases e with
  | map entries => simp [mapParts, parts, List.map_flatMap, List.flatMap_map]
  | choose _ _ o => cases o <;> rfl
  | slice _ a b c => cases a <;> cases b <;> cases c <;> rfl
  | _ => simp [mapParts, parts]

theorem parts_renameFilters (e : Expr) :
    (renameFilters f e).parts = e.parts.map (renameFilters f) := by
  rw [renameFilters_eq, parts_mapParts]
  cases e <;> rfl

/-- The variables stay what they are. -/
theorem names_renameFilters (e : Expr) : (renameFilters f e).names = e.names := by
  induction e using induction_on_parts with
  | step e ih =>
    by_cases hname : ∀ text, e ≠ name text
    · have hname' : ∀ text, renameFilters f e ≠ name text := by
        cases e <;> simp_all [renameFilters]
      rw [names_eq hname, names_eq hname', parts_renameFilters, List.flatMap_map]
      exact List.flatMap_congr ih
    · push Not at hname
      obtain ⟨text, rfl⟩ := hname
      rfl

end Renaming
end Stencil.Expression.Expr

namespace Stencil.Template
open Expression (Expr Filter)
open Expression.Expr (FilterWithin)

/-- An expression that comes to a filter that does not exist has no text. -/
theorem outcome_error_of_filterWithin {c : Context} {n source : String} {e : Expr}
    (unknown : Filter.ofName? n = none) (h : FilterWithin (Expr.reached c.scope) n e) :
    ∃ fault, outcome c source e = .error fault := by
  obtain ⟨error, herror⟩ := Expr.eval_error_of_filterWithin unknown h
  rw [outcome]
  cases unknownName? e with
  | some v => exact ⟨_, rfl⟩
  | none =>
    rw [herror]
    exact ⟨_, rfl⟩

/-- The names of filters that an evaluation does not come to are of no account for the text. -/
theorem outcome_renameFilters {c : Context} {source : String} {e : Expr} {f : String → String}
    (h : ∀ n, FilterWithin (Expr.reached c.scope) n e → f n = n) :
    outcome c source (e.renameFilters f) = outcome c source e := by
  rw [outcome, outcome, unknownName?, Expr.names_renameFilters, Expr.eval_renameFilters h]
  rfl

/-- **Unknown filters are noticed where they are applied.** A template with a filter that does not
exist fails in every context that brings the evaluation to it, and so in every context at all if it
stands where every evaluation comes to. In the other contexts the placeholder gives what it would
give with any other filter in its place. -/
theorem unknown_filters_noticed {body : List Char} {e : Expr} {n : String}
    (parsed : Expression.parse (sourceOf body) = .ok e) (unknown : Filter.ofName? n = none) :
    (FilterWithin Expr.certain n e → ∀ (c : Context) (origin template : String),
      .placeholder body ∈ pieces template.toList →
        ∃ fault, render origin template c = .error (.template origin fault)) ∧
    ∀ c : Context,
      (FilterWithin (Expr.reached c.scope) n e → ∀ origin template : String,
        .placeholder body ∈ pieces template.toList →
          ∃ fault, render origin template c = .error (.template origin fault)) ∧
      (¬ FilterWithin (Expr.reached c.scope) n e → ∀ m : String, evaluate c body =
        outcome c (String.ofList (sourceOf body))
          (e.renameFilters fun k => if k = n then m else k)) := by
  have noticed : ∀ c : Context, FilterWithin (Expr.reached c.scope) n e →
      ∀ origin template : String, .placeholder body ∈ pieces template.toList →
        ∃ fault, render origin template c = .error (.template origin fault) := by
    intro c h origin template hmem
    obtain ⟨fault, hfault⟩ := outcome_error_of_filterWithin unknown h
    exact render_error_of_mem hmem ((evaluate_eq_outcome parsed c).trans hfault)
  refine ⟨?_, fun c => ⟨noticed c, fun h m => ?_⟩⟩
  · intro h c
    exact noticed c (h.mono (Expr.certain_subset_reached c.scope))
  · rw [evaluate_eq_outcome parsed, outcome_renameFilters]
    intro k hk
    refine if_neg ?_
    rintro rfl
    exact h hk

/-- A choice whose first branch applies a filter that does not exist. -/
def shoutedChoice : Expr :=
  .choose (.filter "shout" (.name "name") []) (.name "skip_tests") (some (.name "name"))

theorem shoutedChoice_parsed :
    Expression.parse (sourceOf " name|shout if skip_tests else name ".toList) =
      .ok shoutedChoice := by cbv

theorem shoutedChoice_reached (c : Context) : shoutedChoice.reached c.scope =
    [.name "skip_tests",
      if c.skipTests then .filter "shout" (.name "name") [] else .name "name"] := by
  have hverdict : Expr.verdict c.scope (.name "skip_tests") = .ok c.skipTests := rfl
  rw [shoutedChoice, Expr.reached, hverdict]
  cases c.skipTests <;> rfl

theorem shoutedChoice_spares {c : Context} (h : c.skipTests = false) :
    ¬ FilterWithin (Expr.reached c.scope) "shout" shoutedChoice := by
  rintro ⟨input, arguments, hwithin⟩
  -- Only two names are reached, and below a name there is nothing.
  obtain _ | ⟨hpart, hwithin⟩ := hwithin
  rw [shoutedChoice_reached, h] at hpart
  simp only [Bool.false_eq_true, if_false, List.mem_cons, List.not_mem_nil, or_false] at hpart
  rcases hpart with rfl | rfl
  all_goals
    obtain _ | ⟨hpart, -⟩ := hwithin
    cases hpart

/-- The choice fails in every run without tests, and with tests gives what it gives with a filter
that exists. Without the choice the filter fails in every run. -/
theorem shoutedChoice_noticed :
    (∀ c origin, ∃ fault, render origin "-{{ name|shout }}" c = .error (.template origin fault)) ∧
    (∀ c : Context, c.skipTests = true → ∀ origin, ∃ fault,
      render origin "{{ name|shout if skip_tests else name }}" c =
        .error (.template origin fault)) ∧
    ∀ c : Context, c.skipTests = false →
      evaluate c " name|shout if skip_tests else name ".toList =
        outcome c "name|shout if skip_tests else name"
          (.choose (.filter "upper" (.name "name") []) (.name "skip_tests")
            (some (.name "name"))) := by
  have unknown : Filter.ofName? "shout" = none := by decide
  have parsed : Expression.parse (sourceOf " name|shout ".toList) =
      .ok (.filter "shout" (.name "name") []) := by cbv
  refine ⟨fun c origin => ?_, fun c hc origin => ?_, fun c hc => ?_⟩
  · refine (unknown_filters_noticed parsed unknown).1 ⟨_, _, .here⟩ c origin _ ?_
    decide +kernel
  · refine ((unknown_filters_noticed shoutedChoice_parsed unknown).2 c).1 ?_ origin _ ?_
    · refine ⟨.name "name", [], .inside ?_ .here⟩
      rw [shoutedChoice_reached, hc]
      simp
    · decide +kernel
  · exact ((unknown_filters_noticed shoutedChoice_parsed unknown).2 c).2
      (shoutedChoice_spares hc) "upper"

/-- A template may apply a filter that does not exist and yet have a text. -/
theorem unknown_filter_without_error :
    ¬ ∀ (body : List Char) (e : Expr) (n : String),
      Expression.parse (sourceOf body) = .ok e → FilterWithin Expr.parts n e →
      Filter.ofName? n = none → ∀ (c : Context) (origin template : String),
        .placeholder body ∈ pieces template.toList →
          ∃ fault, render origin template c = .error (.template origin fault) := by
  intro claim
  have occurs : FilterWithin Expr.parts "shout" shoutedChoice :=
    ⟨.name "name", [], .inside (by simp [shoutedChoice, Expr.parts]) .here⟩
  obtain ⟨fault, hfault⟩ := claim " name|shout if skip_tests else name ".toList shoutedChoice
    "shout" shoutedChoice_parsed occurs (by decide) userContext "t"
    "{{ name|shout if skip_tests else name }}" (by decide +kernel)
  have rendered : render "t" "{{ name|shout if skip_tests else name }}" userContext =
      .ok "user" := by decide +kernel
  rw [rendered] at hfault
  cases hfault

end Stencil.Template
