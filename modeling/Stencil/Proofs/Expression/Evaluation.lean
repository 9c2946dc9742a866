import Stencil.Expression.Eval
import Stencil.Proofs.Expression.Parts
import Stencil.Proofs.Result

/-!
# What evaluation depends on

The value of an expression is made of the values of its parts, but not of all of them: a choice
takes one of its branches, `and` and `or` may stop at their first operand, and a comparison stops at
the first relation that does not hold. `reached` lists the parts that an evaluation comes to.

* `eval_mapParts`: no other parts count.
* `eval_congr`: of the names, only those of the variables count.
* `eval_reached`: an expression has a value only if all parts that are reached have one.
-/
namespace Stencil.Expression.Expr

/-! ## Reached parts -/

/-- The operands that are reached behind a left one. -/
def reachedChain (s : Scope) (left : Except EvalError Value) : List (Relation × Expr) → List Expr
  | [] => []
  | (r, e) :: rest => e :: match (do Value.relate r (← left) (← eval s e) : Except _ _) with
    | .ok true => reachedChain s (eval s e) rest
    | _ => []

/-- Whether an expression counts as true, if it has a value. -/
def verdict (s : Scope) (e : Expr) : Except EvalError Bool := do (← eval s e).truth

/-- The parts that an evaluation comes to, unless one before them has no value. -/
def reached (s : Scope) : Expr → List Expr
  | and l r => l :: match verdict s l with
    | .ok true => [r]
    | _ => []
  | or l r => l :: match verdict s l with
    | .ok false => [r]
    | _ => []
  | compare first chain => first :: reachedChain s (eval s first) chain
  | choose value condition otherwise => condition :: match verdict s condition with
    | .ok true => [value]
    | .ok false => otherwise.toList
    | .error _ => []
  | e => e.parts

theorem reachedChain_subset (s : Scope) (left : Except EvalError Value)
    (chain : List (Relation × Expr)) : reachedChain s left chain ⊆ chain.map (·.2) := by
  induction chain generalizing left with
  | nil => simp [reachedChain]
  | cons link rest ih =>
    rw [reachedChain, List.map_cons]
    refine List.cons_subset_cons _ ?_
    split
    · exact ih _
    · simp

theorem reached_subset_parts (s : Scope) (e : Expr) : e.reached s ⊆ e.parts := by
  cases e with
  | and l r | or l r =>
    rw [reached, parts]
    refine List.cons_subset_cons _ ?_
    split <;> simp
  | compare first chain => exact List.cons_subset_cons _ (reachedChain_subset s _ chain)
  | choose value condition otherwise =>
    rw [reached, parts]
    refine List.cons_subset_cons _ ?_
    split <;> simp
  | _ => exact List.Subset.refl _

/-! ## Other parts do not count -/

/-- The expression with other parts in the places of its own. -/
def mapParts (g : Expr → Expr) : Expr → Expr
  | literal l => literal l
  | name n => name n
  | list items => list (items.map g)
  | map entries => map (entries.map fun (k, v) => (g k, g v))
  | negate e => negate (g e)
  | not e => not (g e)
  | binary op l r => binary op (g l) (g r)
  | and l r => and (g l) (g r)
  | or l r => or (g l) (g r)
  | compare first chain => compare (g first) (chain.map fun (r, e) => (r, g e))
  | choose value condition otherwise => choose (g value) (g condition) (otherwise.map g)
  | field e n => field (g e) n
  | item e i => item (g e) (g i)
  | slice e start stop step => slice (g e) (start.map g) (stop.map g) (step.map g)
  | call callee arguments => call (g callee) (arguments.map fun (p, e) => (p, g e))
  | filter n input arguments => filter n (g input) (arguments.map fun (p, e) => (p, g e))
  | test n input arguments => test n (g input) (arguments.map fun (p, e) => (p, g e))

theorem mapParts_id (e : Expr) : e.mapParts id = e := by
  cases e <;> simp [mapParts]

/-- The failure in which a call of an expression ends. -/
def callFailure : Expr → EvalError
  | name n => .unknownFunction n
  | field _ n => .unknownMethod n
  | _ => .notCallable

theorem eval_call (s : Scope) (callee : Expr) (arguments : List (Passing × Expr)) :
    eval s (call callee arguments) = (do
      let _ ← eval s callee
      let _ ← evalArguments s arguments
      .error (callFailure callee)) := by
  cases callee <;> simp only [eval, callFailure]

section Congruence
variable {s s' : Scope} {g : Expr → Expr}

theorem evalList_map {items : List Expr} (h : ∀ e ∈ items, eval s' (g e) = eval s e) :
    evalList s' (items.map g) = evalList s items := by
  induction items with
  | nil => rfl
  | cons e rest ih =>
    rw [List.forall_mem_cons] at h
    simp only [List.map_cons, evalList, h.1, ih h.2]

theorem evalEntries_map {entries : List (Expr × Expr)}
    (h : ∀ e ∈ entries.flatMap fun (k, v) => [k, v], eval s' (g e) = eval s e) :
    evalEntries s' (entries.map fun (k, v) => (g k, g v)) = evalEntries s entries := by
  induction entries with
  | nil => rfl
  | cons entry rest ih =>
    obtain ⟨k, v⟩ := entry
    simp only [List.flatMap_cons, List.cons_append, List.nil_append, List.forall_mem_cons] at h
    simp only [List.map_cons, evalEntries, h.1, h.2.1, ih h.2.2]

theorem evalOr_map {default : Value} {o : Option Expr}
    (h : ∀ e ∈ o.toList, eval s' (g e) = eval s e) :
    evalOr default s' (o.map g) = evalOr default s o := by
  cases o with
  | none => rfl
  | some e => exact h e (by simp)

theorem evalArguments_map {arguments : List (Passing × Expr)}
    (h : ∀ e ∈ arguments.map (·.2), eval s' (g e) = eval s e) :
    evalArguments s' (arguments.map fun (p, e) => (p, g e)) = evalArguments s arguments := by
  induction arguments with
  | nil => rfl
  | cons argument rest ih =>
    rw [List.map_cons, List.forall_mem_cons] at h
    simp only [List.map_cons, evalArguments, h.1, ih h.2]

theorem evalChain_map {left : Value} {chain : List (Relation × Expr)}
    (h : ∀ e ∈ reachedChain s (.ok left) chain, eval s' (g e) = eval s e) :
    evalChain s' left (chain.map fun (r, e) => (r, g e)) = evalChain s left chain := by
  induction chain generalizing left with
  | nil => rfl
  | cons link rest ih =>
    obtain ⟨r, e⟩ := link
    rw [reachedChain, List.forall_mem_cons] at h
    simp only [List.map_cons, evalChain, h.1]
    cases he : eval s e with
    | error _ => rfl
    | ok right =>
      simp only [he, bind, Except.bind] at h ⊢
      cases hr : Value.relate r left right with
      | error _ => rfl
      | ok held =>
        cases held with
        | false => rfl
        | true =>
          simp only [hr] at h ⊢
          exact ih h.2

/-- Only the parts that are reached count for the value of an expression that is no variable, and
what a call calls. -/
theorem eval_mapParts {e : Expr} (hname : ∀ text, e ≠ name text)
    (hcall : ∀ callee, callFailure (g callee) = callFailure callee)
    (h : ∀ part ∈ e.reached s, eval s' (g part) = eval s part) :
    eval s' (e.mapParts g) = eval s e := by
  cases e with
  | name text => exact absurd rfl (hname text)
  | literal => rfl
  | list items =>
    have hitems : evalList s' (items.map g) = evalList s items := evalList_map h
    simp only [mapParts, eval, hitems]
  | map entries =>
    have hentries : evalEntries s' (entries.map fun (k, v) => (g k, g v)) = evalEntries s entries :=
      evalEntries_map h
    simp only [mapParts, eval, hentries]
  | negate | not | field | binary | item =>
    simp only [reached, parts, List.forall_mem_cons] at h
    simp only [mapParts, eval, h]
  | and l r | or l r =>
    rw [reached, List.forall_mem_cons, verdict] at h
    simp only [mapParts, eval, h.1]
    cases hl : eval s l with
    | error _ => rfl
    | ok a =>
      simp only [hl, bind, Except.bind] at h ⊢
      cases ha : a.truth with
      | error _ => rfl
      | ok held =>
        -- One verdict leaves the right operand out, the other one leads to it.
        simp only [ha] at h
        cases held
        all_goals first
          | rfl
          | exact h.2 r (by simp)
  | compare first chain =>
    rw [reached, List.forall_mem_cons] at h
    simp only [mapParts, eval, h.1]
    cases hfirst : eval s first with
    | error _ => rfl
    | ok left =>
      rw [hfirst] at h
      simp only [bind, Except.bind, evalChain_map h.2]
  | choose value condition otherwise =>
    rw [reached, List.forall_mem_cons, verdict] at h
    simp only [mapParts, eval, h.1]
    cases hcondition : eval s condition with
    | error _ => rfl
    | ok a =>
      simp only [hcondition, bind, Except.bind] at h ⊢
      cases ha : a.truth with
      | error _ => rfl
      | ok held =>
        cases held with
        | true =>
          simp only [ha] at h
          exact h.2 value (by simp)
        | false =>
          simp only [ha] at h
          exact evalOr_map h.2
  | slice e start stop step =>
    simp only [reached, parts, List.forall_mem_cons, List.forall_mem_append] at h
    simp only [mapParts, eval, h.1, evalOr_map h.2.1.1, evalOr_map h.2.1.2, evalOr_map h.2.2]
  | call callee arguments =>
    simp only [reached, parts, List.forall_mem_cons] at h
    simp only [mapParts, eval_call, h.1, evalArguments_map h.2, hcall]
  | filter n input arguments | test n input arguments =>
    simp only [reached, parts, List.forall_mem_cons] at h
    simp only [mapParts, eval, h.1, evalArguments_map h.2]

/-- The value of an expression depends on the values of its variables only. -/
theorem eval_congr {e : Expr} (h : ∀ v ∈ e.names, s.lookup v = s'.lookup v) :
    eval s e = eval s' e := by
  induction e using induction_on_parts with
  | step e ih =>
    by_cases hname : ∀ text, e ≠ name text
    · have hparts : ∀ part ∈ e.parts, eval s part = eval s' part := by
        intro part hpart
        refine ih part hpart fun v hv => h v ?_
        rw [names_eq hname]
        exact List.mem_flatMap_of_mem hpart hv
      have same : eval s (e.mapParts id) = eval s' e :=
        eval_mapParts hname (fun _ => rfl) fun part hpart =>
          hparts part (reached_subset_parts s' e hpart)
      rwa [mapParts_id] at same
    · push Not at hname
      obtain ⟨text, rfl⟩ := hname
      rw [eval, eval, h text (by simp [names])]

end Congruence

/-! ## Reached parts have values -/

section Reached
variable {s : Scope}

theorem evalList_reached {items : List Expr} {vs : List Value} (h : evalList s items = .ok vs) :
    ∀ e ∈ items, ∃ w, eval s e = .ok w := by
  induction items generalizing vs with
  | nil => simp
  | cons e rest ih =>
    rw [evalList, bind_eq_ok] at h
    obtain ⟨w, hw, h⟩ := h
    obtain ⟨ws, hws, -⟩ := bind_eq_ok.1 h
    rw [List.forall_mem_cons]
    exact ⟨⟨w, hw⟩, ih hws⟩

theorem evalEntries_reached {entries : List (Expr × Expr)} {vs : List (Value × Value)}
    (h : evalEntries s entries = .ok vs) :
    ∀ e ∈ entries.flatMap fun (k, v) => [k, v], ∃ w, eval s e = .ok w := by
  induction entries generalizing vs with
  | nil => simp
  | cons entry rest ih =>
    obtain ⟨k, e⟩ := entry
    rw [evalEntries, bind_eq_ok] at h
    obtain ⟨key, hkey, h⟩ := h
    obtain ⟨w, hw, h⟩ := bind_eq_ok.1 h
    obtain ⟨ws, hws, -⟩ := bind_eq_ok.1 h
    simp only [List.flatMap_cons, List.cons_append, List.nil_append, List.forall_mem_cons]
    exact ⟨⟨key, hkey⟩, ⟨w, hw⟩, ih hws⟩

theorem evalOr_reached {default v : Value} {o : Option Expr} (h : evalOr default s o = .ok v) :
    ∀ e ∈ o.toList, ∃ w, eval s e = .ok w := by
  cases o with
  | none => simp
  | some e =>
    rw [Option.toList_some, List.forall_mem_singleton]
    exact ⟨v, h⟩

/-- What a value that is passed adds to the arguments, and whether it adds to those by name. -/
def passed (v : Value) : Passing → Except EvalError (List Value × Bool)
  | .positional => .ok ([v], false)
  | .spread => v.spread.map fun vs => (vs, false)
  | .named _ => .ok ([], true)
  | .spreadNamed =>
    match v with
    | .map _ => .ok ([], true)
    | _ => .error .badArguments

theorem evalArguments_cons (s : Scope) (passing : Passing) (e : Expr)
    (rest : List (Passing × Expr)) : evalArguments s ((passing, e) :: rest) = (do
      let v ← eval s e
      let first ← passed v passing
      let more ← evalArguments s rest
      pure (first.1 ++ more.1, first.2 || more.2)) := by
  rw [evalArguments]
  refine congrArg (eval s e >>= ·) (funext fun v => ?_)
  cases passing with
  | positional | named => rfl
  | spread =>
    rw [passed]
    cases v.spread <;> rfl
  | spreadNamed => cases v <;> rfl

theorem evalArguments_reached {arguments : List (Passing × Expr)} {vs : List Value × Bool}
    (h : evalArguments s arguments = .ok vs) :
    ∀ e ∈ arguments.map (·.2), ∃ w, eval s e = .ok w := by
  induction arguments generalizing vs with
  | nil => simp
  | cons argument rest ih =>
    obtain ⟨passing, e⟩ := argument
    rw [evalArguments_cons, bind_eq_ok] at h
    obtain ⟨w, hw, h⟩ := h
    obtain ⟨first, -, h⟩ := bind_eq_ok.1 h
    obtain ⟨more, hmore, -⟩ := bind_eq_ok.1 h
    rw [List.map_cons, List.forall_mem_cons]
    exact ⟨⟨w, hw⟩, ih hmore⟩

theorem evalChain_reached {left : Value} {chain : List (Relation × Expr)} {b : Bool}
    (h : evalChain s left chain = .ok b) :
    ∀ e ∈ reachedChain s (.ok left) chain, ∃ w, eval s e = .ok w := by
  induction chain generalizing left b with
  | nil => simp [reachedChain]
  | cons link rest ih =>
    obtain ⟨r, e⟩ := link
    rw [evalChain, bind_eq_ok] at h
    obtain ⟨right, hright, h⟩ := h
    obtain ⟨held, hheld, h⟩ := bind_eq_ok.1 h
    rw [reachedChain, List.forall_mem_cons]
    refine ⟨⟨right, hright⟩, ?_⟩
    simp only [hright, bind, Except.bind, hheld]
    cases held with
    | false => simp
    | true => exact ih h

/-- An expression has a value only if all parts that are reached have one. -/
theorem eval_reached {e : Expr} {v : Value} (h : eval s e = .ok v) :
    ∀ part ∈ e.reached s, ∃ w, eval s part = .ok w := by
  cases e with
  | literal | name => simp [reached, parts]
  | list items =>
    rw [eval, bind_eq_ok] at h
    obtain ⟨vs, hvs, -⟩ := h
    exact evalList_reached hvs
  | map entries =>
    rw [eval, bind_eq_ok] at h
    obtain ⟨vs, hvs, -⟩ := h
    exact evalEntries_reached hvs
  | negate e | not e | field e n =>
    rw [eval, bind_eq_ok] at h
    obtain ⟨w, hw, -⟩ := h
    simp only [reached, parts, List.forall_mem_singleton]
    exact ⟨w, hw⟩
  | binary op l r | item l r =>
    rw [eval, bind_eq_ok] at h
    obtain ⟨a, ha, h⟩ := h
    obtain ⟨b, hb, -⟩ := bind_eq_ok.1 h
    simp only [reached, parts, List.forall_mem_cons]
    exact ⟨⟨a, ha⟩, ⟨b, hb⟩, by simp⟩
  | and l r | or l r =>
    rw [eval, bind_eq_ok] at h
    obtain ⟨a, ha, h⟩ := h
    obtain ⟨held, hheld, h⟩ := bind_eq_ok.1 h
    have hverdict : verdict s l = .ok held := bind_eq_ok.2 ⟨a, ha, hheld⟩
    rw [reached, hverdict, List.forall_mem_cons]
    refine ⟨⟨a, ha⟩, ?_⟩
    cases held <;> simp at h ⊢; exact ⟨v, h⟩
  | compare first chain =>
    rw [eval, bind_eq_ok] at h
    obtain ⟨a, ha, h⟩ := h
    obtain ⟨b, hb, -⟩ := bind_eq_ok.1 h
    rw [reached, ha, List.forall_mem_cons]
    exact ⟨⟨a, ha⟩, evalChain_reached hb⟩
  | choose value condition otherwise =>
    rw [eval, bind_eq_ok] at h
    obtain ⟨a, ha, h⟩ := h
    obtain ⟨held, hheld, h⟩ := bind_eq_ok.1 h
    have hverdict : verdict s condition = .ok held := bind_eq_ok.2 ⟨a, ha, hheld⟩
    rw [reached, hverdict, List.forall_mem_cons]
    refine ⟨⟨a, ha⟩, ?_⟩
    cases held with
    | true =>
      rw [List.forall_mem_singleton]
      exact ⟨v, h⟩
    | false => exact evalOr_reached h
  | slice e start stop step =>
    rw [eval, bind_eq_ok] at h
    obtain ⟨a, ha, h⟩ := h
    obtain ⟨b, hb, h⟩ := bind_eq_ok.1 h
    obtain ⟨c, hc, h⟩ := bind_eq_ok.1 h
    obtain ⟨d, hd, -⟩ := bind_eq_ok.1 h
    simp only [reached, parts, List.forall_mem_cons, List.forall_mem_append]
    exact ⟨⟨a, ha⟩, ⟨evalOr_reached hb, evalOr_reached hc⟩, evalOr_reached hd⟩
  | call callee arguments =>
    rw [eval_call, bind_eq_ok] at h
    obtain ⟨a, ha, h⟩ := h
    obtain ⟨vs, hvs, h⟩ := bind_eq_ok.1 h
    cases h
  | filter n input arguments | test n input arguments =>
    rw [eval, bind_eq_ok] at h
    obtain ⟨a, ha, h⟩ := h
    obtain ⟨vs, hvs, -⟩ := bind_eq_ok.1 h
    simp only [reached, parts, List.forall_mem_cons]
    exact ⟨⟨a, ha⟩, evalArguments_reached hvs⟩

end Reached

end Stencil.Expression.Expr
