import Stencil.Generator
import Stencil.Proofs.Commit.Steps

/-!
# Programs that only look

A query leaves every disk as it is, whatever its answer, and so does a program made of queries. A
preview is one (`isQuery_preview`), also where it fails.
-/
namespace Stencil
open Disk

/-- Whether a program leaves the files of every disk as they are. -/
def IsQuery {α : Type} (program : ExceptT Failure (StateM Disk) α) : Prop :=
  ∀ d, Alike d (d.attempt program).2 ∧ (d.attempt program).2.tree = d.tree

namespace IsQuery
variable {α β : Type}

theorem of_attempt {program : ExceptT Failure (StateM Disk) α} (h : IsQuery program) {d d' : Disk}
    {answer : Except Failure α} (e : d.attempt program = (answer, d')) :
    Alike d d' ∧ d'.tree = d.tree := by
  have := h d
  rwa [e] at this

theorem pure (a : α) : IsQuery (Pure.pure a) := fun d => ⟨.refl d, rfl⟩

theorem mk {x : StateM Disk (Except Failure α)}
    (h : ∀ d : Disk, Alike d (d.run x).2 ∧ (d.run x).2.tree = d.tree) : IsQuery (ExceptT.mk x) := h

theorem lift {x : StateM Disk α} (h : ∀ d : Disk, (d.run x).2 = d) : IsQuery (ExceptT.lift x) := by
  intro d
  rw [attempt_lift, h d]
  exact ⟨.refl d, rfl⟩

theorem bind {x : ExceptT Failure (StateM Disk) α} {f : α → ExceptT Failure (StateM Disk) β}
    (hx : IsQuery x) (hf : ∀ a, IsQuery (f a)) : IsQuery (x >>= f) := by
  intro d
  obtain ⟨ha, ht⟩ := hx d
  rw [attempt_bind]
  generalize d.attempt x = y at ha ht ⊢
  obtain ⟨answer, d₁⟩ := y
  cases answer with
  | error e => exact ⟨ha, ht⟩
  | ok a =>
    obtain ⟨ha', ht'⟩ := hf a d₁
    exact ⟨ha.trans ha', ht'.trans ht⟩

end IsQuery

/-! ## Previews -/

theorem isQuery_readText (r : Route) : IsQuery (Files.readText r) := by
  refine .bind (.mk fun d => ?_) fun bytes => .mk fun d => ⟨.refl d, rfl⟩
  exact read_still d r

theorem isQuery_ofFile (root : Route) (path content : String) :
    IsQuery (PlannedWrite.ofFile root path content) := by
  refine .bind (.lift fun d => rfl) fun isFile => ?_
  cases isFile with
  | false => exact .pure _
  | true => exact .bind (isQuery_readText _) fun old => .pure _

theorem isQuery_ofFiles (root : Route) (entries : List (String × String)) :
    IsQuery (PlannedWrite.ofFiles root entries) := by
  induction entries with
  | nil => exact .pure _
  | cons e rest ih => exact .bind (isQuery_ofFile root e.1 e.2) fun w => .bind ih fun more => .pure _

/-- A preview leaves the files as they are. -/
theorem isQuery_preview (g : Generator) (s : Staged) : IsQuery (g.preview s) := by
  refine .bind (.lift fun d => ?_) fun conflicts => .bind (isQuery_ofFiles _ _) fun ws => .pure _
  rw [Commit.conflicts_run]

end Stencil
