import Mathlib.Data.List.Forall2
import Stencil.Proofs.Preview.Query
import Stencil.Proofs.Staging.Stage

/-!
# What a preview tells

A preview looks for conflicts and compares staged files with those of the disk; it leaves the disk
as it is. `Plans` says what it tells of one path, `preview_ok` what it tells of a run.
-/
namespace Stencil
open Disk

theorem eq_toUTF8_of_fromUTF8? {bytes : ByteArray} {text : String}
    (h : String.fromUTF8? bytes = some text) : bytes = text.toUTF8 := by
  unfold String.fromUTF8? at h
  split at h
  · cases h
    rfl
  · cases h

/-! ## Plans -/

/-- What a plan tells of a path, by what the disk holds there. -/
inductive Plans (d : Disk) (root : Route) (path content : String) : PlannedWrite → Prop
  | absent (nothing : d.kind? (root.join path) ≠ some .file) :
      Plans d root path content ⟨path, .create, content.utf8ByteSize, none⟩
  | present {old : String} (found : d.find (root.join path) = .ok (.file old.toUTF8)) :
      Plans d root path content (.ofTexts path old content)

namespace Plans
variable {d d' : Disk} {root : Route} {path content : String} {w : PlannedWrite}

theorem of_tree_eq (ha : Alike d d') (ht : d'.tree = d.tree) (h : Plans d' root path content w) :
    Plans d root path content w := by
  cases h with
  | absent nothing => exact .absent (kind?_of_tree_eq ha ht _ ▸ nothing)
  | present found => exact .present ((find_iff_of_tree_eq ha ht _ _).1 found)

theorem path_eq (h : Plans d root path content w) : w.path = path := by
  cases h with
  | absent => rfl
  | present => unfold PlannedWrite.ofTexts; split <;> rfl

theorem bytes_eq (h : Plans d root path content w) : w.bytes = content.toUTF8.size := by
  cases h with
  | absent => rfl
  | present => unfold PlannedWrite.ofTexts; split <;> rfl

theorem action_ne_conflict (h : Plans d root path content w) : w.action ≠ .conflict := by
  cases h with
  | absent => simp
  | present => unfold PlannedWrite.ofTexts; split <;> simp

theorem action_eq_create_iff (h : Plans d root path content w) :
    w.action = .create ↔ d.kind? (root.join path) ≠ some .file := by
  cases h with
  | absent nothing => exact iff_of_true rfl nothing
  | present found =>
    refine iff_of_false ?_ fun e => e ((kind?_eq_some_iff _ _ _).2 ⟨_, found, rfl⟩)
    unfold PlannedWrite.ofTexts
    split <;> simp

theorem replaces_iff (h : Plans d root path content w) :
    (w.action = .overwrite ∨ w.action = .unchanged) ↔ d.kind? (root.join path) = some .file := by
  have hc := h.action_eq_create_iff
  have hn := h.action_ne_conflict
  cases hw : w.action <;> simp_all

theorem of_unchanged (h : Plans d root path content w) (hw : w.action = .unchanged) :
    d.find (root.join path) = .ok (.file content.toUTF8) := by
  cases h with
  | absent => cases hw
  | @present old found =>
    unfold PlannedWrite.ofTexts at hw
    split at hw
    · rename_i e
      rw [found, e]
    · cases hw

theorem of_overwrite (h : Plans d root path content w) (hw : w.action = .overwrite) :
    ∃ old, d.find (root.join path) = .ok (.file old) ∧ old ≠ content.toUTF8 := by
  cases h with
  | absent => cases hw
  | @present old found =>
    refine ⟨_, found, fun e => ?_⟩
    simp [PlannedWrite.ofTexts, String.toByteArray_inj.1 e] at hw

end Plans

theorem readText_ok {d d' : Disk} {r : Route} {text : String}
    (h : d.attempt (Files.readText r) = (.ok text, d')) : d.find r = .ok (.file text.toUTF8) := by
  obtain ⟨bytes, d₁, hread, hdecode⟩ := attempt_bind_eq_ok.1 h
  have hok := @read_ok d r
  rw [Files.orFail, attempt_mk, run_bind, run_read, run_pure] at hread
  generalize d.read r = x at hok hread
  obtain ⟨answer, d₂⟩ := x
  rw [attempt_mk, run_pure, Files.decode] at hdecode
  cases answer with
  | error fault => cases hread
  | ok content =>
    cases hread
    cases hs : String.fromUTF8? bytes with
    | none =>
      rw [hs] at hdecode
      cases hdecode
    | some text' =>
      rw [hs] at hdecode
      cases hdecode
      rw [← eq_toUTF8_of_fromUTF8? hs]
      exact hok rfl

theorem ofFile_ok {d d' : Disk} {root : Route} {path content : String} {w : PlannedWrite}
    (h : d.attempt (PlannedWrite.ofFile root path content) = (.ok w, d')) :
    Plans d root path content w := by
  obtain ⟨isFile, d₁, hfile, h⟩ := attempt_bind_eq_ok.1 h
  rw [attempt_lift, run_isFile] at hfile
  cases hfile
  split at h
  · obtain ⟨old, d₂, hread, h⟩ := attempt_bind_eq_ok.1 h
    cases h
    exact .present (readText_ok hread)
  · rename_i hno
    cases h
    exact .absent (by simpa using hno)

/-- A plan tells of each file what the disk holds. -/
theorem ofFiles_ok {d d' : Disk} {root : Route} {entries : List (String × String)}
    {ws : List PlannedWrite}
    (h : d.attempt (PlannedWrite.ofFiles root entries) = (.ok ws, d')) :
    List.Forall₂ (fun e w => Plans d root e.1 e.2 w) entries ws := by
  induction entries generalizing d ws with
  | nil =>
    cases h
    exact .nil
  | cons e rest ih =>
    obtain ⟨w, d₁, hw, h⟩ := attempt_bind_eq_ok.1 h
    obtain ⟨more, d₂, hmore, h⟩ := attempt_bind_eq_ok.1 h
    obtain ⟨ha, ht⟩ := (isQuery_ofFile root e.1 e.2).of_attempt hw
    cases h
    exact .cons (ofFile_ok hw) ((ih hmore).imp fun e w => Plans.of_tree_eq ha ht)

/-! ## Previews and commits -/

theorem commit_eq_run {g : Generator} {s : Staged} (h : s.failures = []) (d : Disk) :
    d.attempt (g.commit s) = d.run (Commit.run g.root s.options.force s.files) := by
  rw [Generator.commit, h]
  rfl

/-- If a file did not render, its failure is that of the commit. -/
theorem commit_of_failure {g : Generator} {s : Staged} {e : Failure} {rest : List Failure}
    (h : s.failures = e :: rest) (d : Disk) : d.attempt (g.commit s) = (.error e, d) := by
  rw [Generator.commit, h]
  rfl

/-- A run that does not stage fails; else it is a preview or a commit. -/
theorem attempt_generate (g : Generator) (schematic : String) (raw : RawOptions) (d : Disk) :
    d.attempt (g.generate schematic raw) =
      match g.stage schematic raw with
      | .error e => (.error e, d)
      | .ok s =>
        if s.options.dryRun then
          ((d.attempt (g.preview s)).1.map .preview, (d.attempt (g.preview s)).2)
        else ((d.attempt (g.commit s)).1.map .committed, (d.attempt (g.commit s)).2) := by
  unfold Generator.generate
  rw [attempt_bind, attempt_mk, run_pure]
  cases g.stage schematic raw with
  | error e => rfl
  | ok s => cases hdry : s.options.dryRun <;> simp [hdry, attempt_map]

section
variable {g : Generator} {schematic : String} {raw : RawOptions} {s : Staged}
  (hs : g.stage schematic raw = .ok s) (d : Disk)
include hs

theorem attempt_generate_dry (hdry : s.options.dryRun = true) :
    d.attempt (g.generate schematic raw) =
      ((d.attempt (g.preview s)).1.map .preview, (d.attempt (g.preview s)).2) := by
  rw [attempt_generate, hs]
  simp only [hdry, if_true]

theorem attempt_generate_commit (hdry : s.options.dryRun = false) :
    d.attempt (g.generate schematic raw) =
      ((d.attempt (g.commit s)).1.map .committed, (d.attempt (g.commit s)).2) := by
  rw [attempt_generate, hs]
  simp only [hdry, Bool.false_eq_true, if_false]

end

/-- What a preview tells: the conflicts of a commit, and the plan with the conflicts marked. -/
theorem preview_ok {g : Generator} {s : Staged} {d d' : Disk} {p : Preview}
    (h : d.attempt (g.preview s) = (.ok p, d')) :
    (p.options = s.options ∧ p.files = s.files ∧ p.failures = s.failures ∧
      p.conflicts = s.files.paths.filter (Commit.Blocks d g.root s.options.force)) ∧
    (∃ ws, List.Forall₂ (fun e w => Plans d g.root e.1 e.2 w) s.files.entries ws ∧
      p.writes = ws.map (Generator.markConflict p.conflicts)) ∧
    Alike d d' ∧ d'.tree = d.tree := by
  have still := (isQuery_preview g s).of_attempt h
  obtain ⟨conflicts, d₁, hc, h⟩ := attempt_bind_eq_ok.1 h
  rw [attempt_lift, Commit.conflicts_run] at hc
  cases hc
  obtain ⟨ws, d₂, hw, h⟩ := attempt_bind_eq_ok.1 h
  cases h
  exact ⟨⟨rfl, rfl, rfl, rfl⟩, ⟨ws, ofFiles_ok hw, rfl⟩, still⟩

end Stencil
