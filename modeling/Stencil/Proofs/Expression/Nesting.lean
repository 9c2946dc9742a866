import Mathlib.Data.List.Basic
import Stencil.Expression.Parser
import Stencil.Proofs.Result

/-!
# Braces in expressions

Each reader of a part of an expression takes tokens from the front in which every brace that is
opened is closed (`reads`): the reader of a map takes the entries and their closing brace, and no
other reader looks at braces. So the tokens of an expression are balanced (`balanced_of_parse`), and
what stands before a closing brace of it is no expression.
-/
namespace Stencil.Expression
namespace Parser

/-! ## Balanced tokens -/

/-- How many braces are open after a token, if it does not close one too many. -/
def openAfter (d : Nat) : Token → Option Nat
  | .openBrace => some (d + 1)
  | .closeBrace => if d = 0 then none else some (d - 1)
  | _ => some d

/-- How many braces are open after several tokens, if none of them closes one too many. -/
def nesting (d : Nat) (ts : List Token) : Option Nat := ts.foldlM openAfter d

/-- Whether every brace that is opened is closed, and no other. -/
def Balanced (ts : List Token) : Prop := ∀ d, nesting d ts = some d

/-- Whether a token is neither an opening nor a closing brace. -/
def NoBrace (t : Token) : Prop := ∀ d, openAfter d t = some d

theorem nesting_append (d : Nat) (a b : List Token) :
    nesting d (a ++ b) = (nesting d a).bind fun d => nesting d b :=
  List.foldlM_append

theorem nesting_cons (d : Nat) (t : Token) (ts : List Token) :
    nesting d (t :: ts) = (openAfter d t).bind fun d => nesting d ts :=
  List.foldlM_cons ..

theorem balanced_nil : Balanced [] := fun _ => rfl

theorem Balanced.append {a b : List Token} (ha : Balanced a) (hb : Balanced b) :
    Balanced (a ++ b) := by
  intro d
  rw [nesting_append, ha d]
  exact hb d

theorem NoBrace.balanced {t : Token} (h : NoBrace t) : Balanced [t] := by
  intro d
  rw [nesting_cons, h d]
  rfl

theorem Balanced.inBraces {ts : List Token} (h : Balanced ts) :
    Balanced (.openBrace :: (ts ++ [.closeBrace])) := by
  intro d
  rw [nesting_cons, openAfter, Option.bind_some, nesting_append, h (d + 1)]
  rfl

/-- What stands before a closing brace of a balanced text is not balanced. -/
theorem Balanced.front_not_balanced {front back : List Token}
    (h : Balanced (front ++ .closeBrace :: back)) : ¬ Balanced front := by
  intro hfront
  have h := h 0
  rw [nesting_append, hfront 0, Option.bind_some, nesting_cons] at h
  cases h

/-! ## What readers take -/

/-- Whether `rest` is left of some tokens if balanced ones are taken from the front. -/
def Uses (ts rest : List Token) : Prop := ∃ used, ts = used ++ rest ∧ Balanced used

theorem Uses.refl (ts : List Token) : Uses ts ts := ⟨[], rfl, balanced_nil⟩

theorem Uses.trans {ts mid rest : List Token} (h : Uses ts mid) (h' : Uses mid rest) :
    Uses ts rest := by
  obtain ⟨a, rfl, ha⟩ := h
  obtain ⟨b, rfl, hb⟩ := h'
  exact ⟨a ++ b, (List.append_assoc ..).symm, ha.append hb⟩

theorem uses_cons {t : Token} (h : NoBrace t) (ts : List Token) : Uses (t :: ts) ts :=
  ⟨[t], rfl, h.balanced⟩

theorem Uses.inBraces {ts rest : List Token} (h : Uses ts (.closeBrace :: rest)) :
    Uses (.openBrace :: ts) rest := by
  obtain ⟨used, rfl, hused⟩ := h
  exact ⟨.openBrace :: (used ++ [.closeBrace]), by simp, hused.inBraces⟩

/-- Whether what a reader takes from the front of some tokens, if it succeeds, is balanced up to the
tokens `close` at its end. -/
def Takes {α : Type} (close ts : List Token) (r : Except ParseError (α × List Token)) : Prop :=
  ∀ a rest, r = .ok (a, rest) → Uses ts (close ++ rest)

theorem expect_eq_ok {t : Token} {ts rest : List Token} (h : expect t ts = .ok rest) :
    ∃ t', (t' == t) = true ∧ ts = t' :: rest := by
  cases ts with
  | nil => cases h
  | cons t' ts =>
    rw [expect] at h
    split at h
    · cases h
      exact ⟨t', ‹_›, rfl⟩
    · cases h

/-- A token that passes for one that is no brace is none either. -/
theorem NoBrace.of_beq {t t' : Token} (ht : NoBrace t) (h : (t' == t) = true) : NoBrace t' := by
  cases t' with
  | openBrace =>
    cases t with
    | openBrace => exact ht
    | _ => cases h
  | closeBrace =>
    cases t with
    | closeBrace => exact ht
    | _ => cases h
  | _ => exact fun _ => rfl

theorem eq_closeBrace_of_beq {t : Token} (h : (t == .closeBrace) = true) : t = .closeBrace := by
  cases t with
  | closeBrace => rfl
  | _ => cases h

section Takes
variable {α β : Type} {close ts : List Token}

theorem Takes.error {e : ParseError} : Takes close ts (.error e : Except _ (α × List Token)) := by
  intro a rest h
  cases h

/-- A reader that takes nothing. -/
theorem Takes.nothing {a : α} : Takes [] ts (.ok (a, ts)) := by
  rintro a rest ⟨⟩
  exact .refl ts

/-- A reader behind balanced tokens. -/
theorem Takes.after {mid : List Token} {r : Except ParseError (α × List Token)} (h : Uses ts mid)
    (hr : Takes close mid r) : Takes close ts r :=
  fun a rest ha => h.trans (hr a rest ha)

theorem Takes.cons {t : Token} (ht : NoBrace t) {r : Except ParseError (α × List Token)}
    (h : Takes close ts r) : Takes close (t :: ts) r :=
  h.after (uses_cons ht ts)

/-- One reader after another. -/
theorem Takes.bind {m : Except ParseError (α × List Token)}
    {k : α × List Token → Except ParseError (β × List Token)} (hm : Takes [] ts m)
    (hk : ∀ a rest, Takes close rest (k (a, rest))) : Takes close ts (m >>= k) := by
  intro b rest h
  obtain ⟨⟨a, mid⟩, ha, hb⟩ := bind_eq_ok.1 h
  exact (hm a mid ha).trans (hk a mid b rest hb)

/-- A reader that takes a closing brace behind an opening one. -/
theorem Takes.inBraces {m : Except ParseError (α × List Token)}
    {k : α × List Token → Except ParseError (β × List Token)} (hm : Takes [.closeBrace] ts m)
    (hk : ∀ a rest, Takes close rest (k (a, rest))) :
    Takes close (.openBrace :: ts) (m >>= k) := by
  intro b rest h
  obtain ⟨⟨a, mid⟩, ha, hb⟩ := bind_eq_ok.1 h
  exact (hm a mid ha).inBraces.trans (hk a mid b rest hb)

/-- What is made of what a reader gives, without taking more. -/
theorem Takes.map {m : Except ParseError (α × List Token)}
    {k : α × List Token → Except ParseError (β × List Token)} (hm : Takes close ts m)
    (hk : ∀ a rest, ∃ b, k (a, rest) = .ok (b, rest)) : Takes close ts (m >>= k) := by
  intro b rest h
  obtain ⟨⟨a, mid⟩, ha, hb⟩ := bind_eq_ok.1 h
  obtain ⟨b', hb'⟩ := hk a mid
  rw [hb'] at hb
  cases hb
  exact hm a _ ha

/-- A token that must come next. -/
theorem Takes.expect {t : Token} (ht : NoBrace t)
    {k : List Token → Except ParseError (β × List Token)} (hk : ∀ rest, Takes close rest (k rest)) :
    Takes close ts (Parser.expect t ts >>= k) := by
  intro b rest h
  obtain ⟨mid, hmid, hb⟩ := bind_eq_ok.1 h
  obtain ⟨t', ht', rfl⟩ := expect_eq_ok hmid
  exact (uses_cons (ht.of_beq ht') mid).trans (hk mid b rest hb)

/-- A closing brace that must come at the end. -/
theorem Takes.closeBrace {a : α} : Takes [.closeBrace] ts (do
    pure (a, ← Parser.expect .closeBrace ts)) := by
  intro a rest h
  obtain ⟨mid, hmid, hb⟩ := bind_eq_ok.1 h
  obtain ⟨t', ht', rfl⟩ := expect_eq_ok hmid
  obtain rfl := eq_closeBrace_of_beq ht'
  cases hb
  exact .refl _

end Takes

/-! ## The readers -/

theorem takes_expectName (ts : List Token) : Takes [] ts (expectName ts) := by
  cases ts with
  | nil => exact .error
  | cons t ts =>
    cases t with
    | name s => exact .cons (fun _ => rfl) .nothing
    | _ => exact .error

theorem takes_dottedName (ts : List Token) : Takes [] ts (dottedName ts) := by
  fun_induction dottedName ts with
  | case1 s t rest ih =>
    refine .cons (fun _ => rfl) (.cons (fun _ => rfl) ?_)
    exact ih.bind fun more rest => .nothing
  | case2 s rest => exact .cons (fun _ => rfl) .nothing
  | case3 => exact .error
  | case4 => exact .error

theorem uses_adjacentTexts (s : String) (ts : List Token) : Uses ts (adjacentTexts s ts).2 := by
  fun_induction adjacentTexts s ts with
  | case1 s t rest ih => exact (uses_cons (fun _ => rfl) rest).trans ih
  | case2 s rest => exact .refl rest

theorem uses_relation? {ts rest : List Token} {r : Relation}
    (h : relation? ts = .ok (some (r, rest))) : Uses ts rest := by
  unfold relation? at h
  split at h
  all_goals cases h
  all_goals first
    | exact uses_cons (fun _ => rfl) _
    | exact (uses_cons (fun _ => rfl) _).trans (uses_cons (fun _ => rfl) _)

/-- What each reader takes from the front of the tokens. -/
structure Reads (fuel : Nat) : Prop where
  expr : ∀ depth ts, Takes [] ts (expr fuel depth ts)
  conditional : ∀ depth ts, Takes [] ts (conditional fuel depth ts)
  choices : ∀ depth e ts, Takes [] ts (choices fuel depth e ts)
  leveled : ∀ level depth ts, Takes [] ts (leveled fuel level depth ts)
  operators : ∀ level depth e ts, Takes [] ts (operators fuel level depth e ts)
  operand : ∀ level depth ts, Takes [] ts (operand fuel level depth ts)
  negation : ∀ depth ts, Takes [] ts (negation fuel depth ts)
  relations : ∀ depth ts, Takes [] ts (relations fuel depth ts)
  signedOperand : ∀ depth ts, Takes [] ts (signedOperand fuel depth ts)
  signed : ∀ depth ts, Takes [] ts (signed fuel depth ts)
  subscripts : ∀ depth e ts, Takes [] ts (subscripts fuel depth e ts)
  subscript : ∀ depth e ts, Takes [] ts (subscript fuel depth e ts)
  filters : ∀ depth e ts, Takes [] ts (filters fuel depth e ts)
  arguments : ∀ depth first named ts, Takes [] ts (arguments fuel depth first named ts)
  argument : ∀ depth named ts, Takes [] ts (argument fuel depth named ts)
  atom : ∀ depth ts, Takes [] ts (atom fuel depth ts)
  listItems : ∀ depth close ts, NoBrace close → Takes [] ts (listItems fuel depth close ts)
  /-- The reader of the entries of a map takes the closing brace, too. -/
  mapEntries : ∀ depth ts, Takes [.closeBrace] ts (mapEntries fuel depth ts)

theorem noBrace_of_operator? {level : Level} {t : Token} {make : Expr → Expr → Expr}
    (h : level.operator? t = some make) : NoBrace t := by
  cases t with
  | openBrace | closeBrace => cases level <;> cases h
  | _ => exact fun _ => rfl

section Step
variable {fuel : Nat} (ih : Reads fuel)
include ih

theorem takes_expr (depth : Nat) (ts : List Token) : Takes [] ts (expr (fuel + 1) depth ts) := by
  cases depth with
  | zero =>
    rw [expr]
    · exact .error
    · simp
  | succ depth =>
    rw [expr]
    exact ih.conditional depth ts

theorem takes_conditional (depth : Nat) (ts : List Token) :
    Takes [] ts (conditional (fuel + 1) depth ts) := by
  rw [conditional]
  exact (ih.leveled _ _ _).bind fun value rest => ih.choices _ _ _

theorem takes_choices (depth : Nat) (e : Expr) (ts : List Token) :
    Takes [] ts (choices (fuel + 1) depth e ts) := by
  unfold choices
  split
  · refine .cons (fun _ => rfl) ?_
    refine (ih.leveled _ _ _).bind fun test rest => ?_
    dsimp only
    split
    · refine .cons (fun _ => rfl) ?_
      exact (ih.conditional _ _).bind fun otherwise rest => ih.choices _ _ _
    · exact ih.choices _ _ _
  · exact .nothing

theorem takes_leveled (level : Level) (depth : Nat) (ts : List Token) :
    Takes [] ts (leveled (fuel + 1) level depth ts) := by
  rw [leveled]
  exact (ih.operand _ _ _).bind fun left rest => ih.operators _ _ _ _

theorem takes_operators (level : Level) (depth : Nat) (e : Expr) (ts : List Token) :
    Takes [] ts (operators (fuel + 1) level depth e ts) := by
  unfold operators
  split
  · split
    · refine .cons (noBrace_of_operator? ‹_›) ?_
      exact (ih.operand _ _ _).bind fun right rest => ih.operators _ _ _ _
    · exact .nothing
  · exact .nothing

theorem takes_operand (level : Level) (depth : Nat) (ts : List Token) :
    Takes [] ts (operand (fuel + 1) level depth ts) := by
  cases level <;> rw [operand]
  case conjunction => exact ih.negation _ _
  case power => exact ih.signedOperand _ _
  all_goals exact ih.leveled _ _ _

theorem takes_negation (depth : Nat) (ts : List Token) :
    Takes [] ts (negation (fuel + 1) depth ts) := by
  unfold negation
  split
  · exact .cons (fun _ => rfl) ((ih.negation _ _).bind fun e rest => .nothing)
  · refine (ih.leveled _ _ _).bind fun first rest => ?_
    exact (ih.relations _ _).bind fun chain rest => .nothing

theorem takes_relations (depth : Nat) (ts : List Token) :
    Takes [] ts (relations (fuel + 1) depth ts) := by
  unfold relations
  cases hr : relation? ts with
  | error e => exact .error
  | ok found =>
    cases found with
    | none => exact .nothing
    | some found =>
      obtain ⟨r, rest⟩ := found
      refine .after (uses_relation? hr) ?_
      refine (ih.leveled _ _ _).bind fun e rest => ?_
      exact (ih.relations _ _).bind fun chain rest => .nothing

theorem takes_signedOperand (depth : Nat) (ts : List Token) :
    Takes [] ts (signedOperand (fuel + 1) depth ts) := by
  rw [signedOperand]
  refine (ih.signed _ _).bind fun e rest => ?_
  exact (ih.subscripts _ _ _).bind fun e rest => ih.filters _ _ _

theorem takes_signed (depth : Nat) (ts : List Token) :
    Takes [] ts (signed (fuel + 1) depth ts) := by
  unfold signed
  split
  · exact .cons (fun _ => rfl) ((ih.signed _ _).bind fun e rest => .nothing)
  · exact ih.atom _ _

theorem takes_subscripts (depth : Nat) (e : Expr) (ts : List Token) :
    Takes [] ts (subscripts (fuel + 1) depth e ts) := by
  unfold subscripts
  split
  · exact .cons (fun _ => rfl) (.cons (fun _ => rfl) (ih.subscripts _ _ _))
  · refine .cons (fun _ => rfl) ?_
    exact (takes_expectName _).bind fun name rest => ih.subscripts _ _ _
  · refine .cons (fun _ => rfl) ?_
    exact (ih.subscript _ _ _).bind fun e rest => ih.subscripts _ _ _
  · refine .cons (fun _ => rfl) ?_
    exact (ih.arguments _ _ _ _).bind fun arguments rest => ih.subscripts _ _ _
  · exact .nothing

theorem takes_subscript (depth : Nat) (e : Expr) (ts : List Token) :
    Takes [] ts (subscript (fuel + 1) depth e ts) := by
  unfold subscript
  extract_lets afterStart
  have hstart : ∀ start rest, Takes [] rest (afterStart (start, rest)) := by
    intro start rest
    simp -zeta only [afterStart]
    split
    · refine .cons (fun _ => rfl) ?_
      extract_lets afterStop
      have hstop : ∀ stop rest, Takes [] rest (afterStop (stop, rest)) := by
        intro stop rest
        simp -zeta only [afterStop]
        extract_lets afterStep
        have hstep : ∀ step rest, Takes [] rest (afterStep (step, rest)) :=
          fun step rest => .expect (fun _ => rfl) fun rest => .nothing
        split
        · exact .cons (fun _ => rfl) (hstep _ _)
        · refine .cons (fun _ => rfl) ?_
          exact (ih.expr _ _).bind fun i rest => hstep _ _
        · exact hstep _ _
      split
      · exact hstop _ _
      · exact hstop _ _
      · exact (ih.expr _ _).bind fun i rest => hstop _ _
    · exact .expect (fun _ => rfl) fun rest => .nothing
    · exact .error
  split
  · exact hstart _ _
  · exact (ih.expr _ _).bind fun i rest => hstart _ _

theorem takes_filters (depth : Nat) (e : Expr) (ts : List Token) :
    Takes [] ts (filters (fuel + 1) depth e ts) := by
  unfold filters
  split
  · refine .cons (fun _ => rfl) ?_
    refine (takes_dottedName _).bind fun name rest => ?_
    dsimp only
    split
    · refine .cons (fun _ => rfl) ?_
      exact (ih.arguments _ _ _ _).bind fun arguments rest => ih.filters _ _ _
    · exact ih.filters _ _ _
  · refine .cons (fun _ => rfl) ?_
    split
    rename_i rest _ negated mid hmid
    have huses : Uses rest mid := by
      split at hmid <;> cases hmid
      · exact uses_cons (fun _ => rfl) _
      · exact .refl _
    refine .after huses ?_
    refine (takes_dottedName _).bind fun name rest => ?_
    dsimp only
    split
    · refine .cons (fun _ => rfl) ?_
      exact (ih.arguments _ _ _ _).bind fun arguments rest => ih.filters _ _ _
    · split
      · refine (ih.signed _ _).bind fun a rest => ?_
        exact (ih.subscripts _ _ _).bind fun a rest => ih.filters _ _ _
      · exact ih.filters _ _ _
    · exact ih.filters _ _ _
  · exact .nothing

theorem takes_arguments (depth : Nat) (first named : Bool) (ts : List Token) :
    Takes [] ts (arguments (fuel + 1) depth first named ts) := by
  unfold arguments
  split
  · exact .cons (fun _ => rfl) .nothing
  · exact .cons (fun _ => rfl) (.cons (fun _ => rfl) .nothing)
  · exact .cons (fun _ => rfl) (ih.argument _ _ _)
  · exact ih.argument _ _ _
  · exact .error
  · exact .error

theorem takes_argument (depth : Nat) (named : Bool) (ts : List Token) :
    Takes [] ts (argument (fuel + 1) depth named ts) := by
  unfold argument
  split
  · refine .cons (fun _ => rfl) ?_
    refine (ih.expr _ _).bind fun e rest => ?_
    exact (ih.arguments _ _ _ _).bind fun more rest => .nothing
  · refine .cons (fun _ => rfl) ?_
    refine (ih.expr _ _).bind fun e rest => ?_
    exact (ih.arguments _ _ _ _).bind fun more rest => .nothing
  · refine (ih.expr _ _).bind fun e rest => ?_
    dsimp only
    split
    · refine .cons (fun _ => rfl) ?_
      refine (ih.leveled _ _ _).bind fun e rest => ?_
      exact (ih.arguments _ _ _ _).bind fun more rest => .nothing
    · split
      · exact .error
      · exact (ih.arguments _ _ _ _).bind fun more rest => .nothing

theorem takes_atom (depth : Nat) (ts : List Token) : Takes [] ts (atom (fuel + 1) depth ts) := by
  cases depth with
  | zero =>
    rw [atom]
    · exact .error
    · simp
  | succ depth =>
    unfold atom
    split
    · exact .error
    · exact .cons (fun _ => rfl) .nothing
    · exact .cons (fun _ => rfl) (.after (uses_adjacentTexts _ _) .nothing)
    · exact .cons (fun _ => rfl) .nothing
    · exact .cons (fun _ => rfl) .nothing
    · exact .cons (fun _ => rfl) (.cons (fun _ => rfl) .nothing)
    · refine .cons (fun _ => rfl) ?_
      refine (ih.expr _ _).bind fun e rest => ?_
      dsimp only
      split
      · refine .cons (fun _ => rfl) ?_
        exact (ih.listItems _ _ _ fun _ => rfl).bind fun more rest => .nothing
      · exact .expect (fun _ => rfl) fun rest => .nothing
    · refine .cons (fun _ => rfl) ?_
      exact (ih.listItems _ _ _ fun _ => rfl).bind fun items rest => .nothing
    · exact .inBraces (ih.mapEntries _ _) fun entries rest => .nothing
    · exact .error

theorem takes_listItems (depth : Nat) (close : Token) (ts : List Token) (hclose : NoBrace close) :
    Takes [] ts (listItems (fuel + 1) depth close ts) := by
  unfold listItems
  split
  · exact .error
  · split
    · exact .cons (hclose.of_beq ‹_›) .nothing
    · refine (ih.expr _ _).bind fun e rest => ?_
      dsimp only
      split
      · refine .cons (fun _ => rfl) ?_
        exact (ih.listItems _ _ _ hclose).bind fun more rest => .nothing
      · exact .expect hclose fun rest => .nothing

theorem takes_mapEntries (depth : Nat) (ts : List Token) :
    Takes [.closeBrace] ts (mapEntries (fuel + 1) depth ts) := by
  unfold mapEntries
  split
  · exact .error
  · rintro a rest ⟨⟩
    exact .refl _
  · refine (ih.expr _ _).bind fun k rest => ?_
    refine .expect (fun _ => rfl) fun rest => ?_
    refine (ih.expr _ _).bind fun v rest => ?_
    dsimp only
    split
    · refine .cons (fun _ => rfl) ?_
      exact (ih.mapEntries _ _).map fun more rest => ⟨_, rfl⟩
    · exact .closeBrace

end Step

/-- What every reader takes is balanced, whatever the fuel. -/
theorem reads (fuel : Nat) : Reads fuel := by
  induction fuel with
  | zero =>
    constructor <;> intros
    all_goals
      simp only [expr, conditional, choices, leveled, operators, operand, negation, relations,
        signedOperand, signed, subscripts, subscript, filters, arguments, argument, atom, listItems,
        mapEntries]
      exact .error
  | succ fuel ih =>
    exact {
      expr := takes_expr ih
      conditional := takes_conditional ih
      choices := takes_choices ih
      leveled := takes_leveled ih
      operators := takes_operators ih
      operand := takes_operand ih
      negation := takes_negation ih
      relations := takes_relations ih
      signedOperand := takes_signedOperand ih
      signed := takes_signed ih
      subscripts := takes_subscripts ih
      subscript := takes_subscript ih
      filters := takes_filters ih
      arguments := takes_arguments ih
      argument := takes_argument ih
      atom := takes_atom ih
      listItems := takes_listItems ih
      mapEntries := takes_mapEntries ih }

end Parser

/-- The tokens of an expression are balanced. -/
theorem balanced_of_parse {cs : List Char} {e : Expr} (h : parse cs = .ok e) :
    ∃ ts, Token.ofText cs = .ok ts ∧ Parser.Balanced ts := by
  obtain ⟨ts, hts, h⟩ := bind_eq_ok.1 h
  obtain ⟨⟨e', rest⟩, hexpr, h⟩ := bind_eq_ok.1 h
  refine ⟨ts, hts, ?_⟩
  have hrest : rest = [] := by
    cases rest with
    | nil => rfl
    | cons t rest => cases h
  subst hrest
  obtain ⟨used, hused, hbalanced⟩ := (Parser.reads _).expr _ _ _ _ hexpr
  rw [List.append_nil, List.append_nil] at hused
  rwa [hused]

end Stencil.Expression
