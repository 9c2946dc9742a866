import Mathlib.Data.List.Basic
import Stencil.Expression.Syntax

/-!
# Parts of expressions

The parts of an expression are the expressions that it is put together from. What holds of an
expression if it holds of its parts holds of all expressions (`induction_on_parts`), and an
expression occurs in another one if it is that one or occurs in a part of it. The variables that are
listed for an expression are those that occur in it, wherever they stand (`mem_names_iff`).
-/
namespace Stencil.Expression.Expr

/-- The expressions that an expression is put together from. -/
def parts : Expr → List Expr
  | literal _ | name _ => []
  | list items => items
  | map entries => entries.flatMap fun (k, v) => [k, v]
  | negate e | not e | field e _ => [e]
  | binary _ l r | and l r | or l r | item l r => [l, r]
  | compare first chain => first :: chain.map (·.2)
  | choose value condition otherwise => condition :: value :: otherwise.toList
  | slice e start stop step => e :: (start.toList ++ stop.toList ++ step.toList)
  | call callee arguments => callee :: arguments.map (·.2)
  | filter _ input arguments | test _ input arguments => input :: arguments.map (·.2)

theorem sizeOf_lt_of_mem_seconds {α : Type} [SizeOf α] {part : Expr} {l : List (α × Expr)}
    (h : part ∈ l.map (·.2)) : sizeOf part < sizeOf l := by
  obtain ⟨entry, hentry, rfl⟩ := List.mem_map.1 h
  have := List.sizeOf_lt_of_mem hentry
  cases entry
  simp only [Prod.mk.sizeOf_spec] at this ⊢
  omega

theorem sizeOf_lt_of_mem_toList {part : Expr} {o : Option Expr} (h : part ∈ o.toList) :
    sizeOf part < sizeOf o := by
  cases o with
  | none => cases h
  | some e =>
    obtain rfl := List.mem_singleton.1 h
    simp

/-- A part is smaller than the whole. -/
theorem sizeOf_lt_of_mem_parts {e part : Expr} (h : part ∈ e.parts) : sizeOf part < sizeOf e := by
  cases e with
  | literal | name => cases h
  | list items =>
    have : sizeOf part < sizeOf items := List.sizeOf_lt_of_mem h
    simp only [list.sizeOf_spec]
    omega
  | map entries =>
    obtain ⟨⟨k, v⟩, hentry, hpart⟩ := List.mem_flatMap.1 h
    have := List.sizeOf_lt_of_mem hentry
    simp only [Prod.mk.sizeOf_spec] at this
    simp only [List.mem_cons, List.not_mem_nil, or_false] at hpart
    rcases hpart with rfl | rfl <;> simp only [map.sizeOf_spec] <;> omega
  | negate | not | field =>
    obtain rfl := List.mem_singleton.1 h
    simp only [negate.sizeOf_spec, not.sizeOf_spec, field.sizeOf_spec]
    omega
  | binary | and | or | item =>
    simp only [parts, List.mem_cons, List.not_mem_nil, or_false] at h
    rcases h with rfl | rfl
    all_goals
      simp only [binary.sizeOf_spec, and.sizeOf_spec, or.sizeOf_spec, item.sizeOf_spec]
      omega
  | compare first chain =>
    rcases List.mem_cons.1 h with rfl | h
    · simp only [compare.sizeOf_spec]
      omega
    · have := sizeOf_lt_of_mem_seconds h
      simp only [compare.sizeOf_spec]
      omega
  | choose value condition otherwise =>
    simp only [parts, List.mem_cons] at h
    rcases h with rfl | rfl | h
    · simp only [choose.sizeOf_spec]
      omega
    · simp only [choose.sizeOf_spec]
      omega
    · have := sizeOf_lt_of_mem_toList h
      simp only [choose.sizeOf_spec]
      omega
  | slice e start stop step =>
    simp only [parts, List.mem_cons, List.mem_append] at h
    rcases h with rfl | (h | h) | h
    · simp only [slice.sizeOf_spec]
      omega
    all_goals
      have := sizeOf_lt_of_mem_toList h
      simp only [slice.sizeOf_spec]
      omega
  | call callee arguments =>
    rcases List.mem_cons.1 h with rfl | h
    · simp only [call.sizeOf_spec]
      omega
    · have := sizeOf_lt_of_mem_seconds h
      simp only [call.sizeOf_spec]
      omega
  | filter n input arguments | test n input arguments =>
    rcases List.mem_cons.1 h with rfl | h
    · simp
      omega
    · have := sizeOf_lt_of_mem_seconds h
      simp
      omega

/-- What holds of an expression if it holds of its parts holds of all expressions. -/
theorem induction_on_parts {motive : Expr → Prop}
    (step : ∀ e, (∀ part ∈ e.parts, motive part) → motive e) (e : Expr) : motive e := by
  induction e using (measure (sizeOf : Expr → Nat)).wf.induction with
  | _ e ih => exact step e fun part hpart => ih part (sizeOf_lt_of_mem_parts hpart)

/-- Whether an expression is another one or is met on the way down from it, where `next` lists the
parts that the way may go on to. -/
inductive Within (next : Expr → List Expr) (inner : Expr) : Expr → Prop
  | here : Within next inner inner
  | inside {e part : Expr} : part ∈ next e → Within next inner part → Within next inner e

/-- Whether an expression is another one or stands somewhere in it. -/
abbrev Occurs : Expr → Expr → Prop := Within parts

theorem occurs_iff {inner e : Expr} :
    Occurs inner e ↔ e = inner ∨ ∃ part ∈ e.parts, Occurs inner part := by
  constructor
  · rintro (_ | ⟨hpart, h⟩)
    · exact .inl rfl
    · exact .inr ⟨_, hpart, h⟩
  · rintro (rfl | ⟨part, hpart, h⟩)
    · exact .here
    · exact .inside hpart h

/-- What is met on fewer ways is met on more. -/
theorem Within.mono {next next' : Expr → List Expr} (sub : ∀ e, next e ⊆ next' e) {inner e : Expr}
    (h : Within next inner e) : Within next' inner e := by
  induction h with
  | here => exact .here
  | inside hpart _ ih => exact .inside (sub _ hpart) ih

/-! ## Variables -/

theorem namesOfList_eq (items : List Expr) : namesOfList items = items.flatMap names := by
  induction items with
  | nil => rfl
  | cons e rest ih => rw [namesOfList, ih, List.flatMap_cons]

theorem namesOfEntries_eq (entries : List (Expr × Expr)) :
    namesOfEntries entries = (entries.flatMap fun (k, v) => [k, v]).flatMap names := by
  induction entries with
  | nil => rfl
  | cons entry rest ih => simp [namesOfEntries, ih]

theorem namesOfChain_eq (chain : List (Relation × Expr)) :
    namesOfChain chain = (chain.map (·.2)).flatMap names := by
  induction chain with
  | nil => rfl
  | cons link rest ih => rw [namesOfChain, ih, List.map_cons, List.flatMap_cons]

theorem namesOfArguments_eq (arguments : List (Passing × Expr)) :
    namesOfArguments arguments = (arguments.map (·.2)).flatMap names := by
  induction arguments with
  | nil => rfl
  | cons argument rest ih => rw [namesOfArguments, ih, List.map_cons, List.flatMap_cons]

theorem namesOfOption_eq (o : Option Expr) : namesOfOption o = o.toList.flatMap names := by
  cases o with
  | none => rfl
  | some e => simp [namesOfOption]

/-- The variables of an expression that is no variable are those of its parts. -/
theorem names_eq {e : Expr} (h : ∀ text, e ≠ name text) : e.names = e.parts.flatMap names := by
  cases e with
  | name text => exact absurd rfl (h text)
  | literal => rfl
  | list items => exact namesOfList_eq items
  | map entries => exact namesOfEntries_eq entries
  | negate | not | field | binary | and | or | item => simp [names, parts]
  | compare first chain => rw [names, namesOfChain_eq, parts, List.flatMap_cons]
  | choose value condition otherwise => simp [names, parts, namesOfOption_eq]
  | slice e start stop step => simp [names, parts, namesOfOption_eq]
  | call callee arguments => rw [names, namesOfArguments_eq, parts, List.flatMap_cons]
  | filter n input arguments | test n input arguments =>
    rw [names, namesOfArguments_eq, parts, List.flatMap_cons]

/-- The listed variables are those that occur, wherever they stand. -/
theorem mem_names_iff {v : String} {e : Expr} : v ∈ e.names ↔ Occurs (name v) e := by
  induction e using induction_on_parts with
  | step e ih =>
    rw [occurs_iff]
    by_cases h : ∀ text, e ≠ name text
    · rw [names_eq h, List.mem_flatMap]
      simp only [h v, false_or]
      exact exists_congr fun part => and_congr_right fun hpart => ih part hpart
    · push Not at h
      obtain ⟨text, rfl⟩ := h
      simp [names, parts, eq_comm]

end Stencil.Expression.Expr
