import Stencil.Proofs.Commit.Outcome
import Stencil.Proofs.Commit.Progress
import Stencil.Proofs.Commit.Rollback

/-!
# Commits without force

A commit without force replaces no file that it finds, but it looks for files before it makes
directories. If a `..` of the root leaves a directory that is missing, nothing below the root is
found, and once the directory is made, what lies there is replaced. `Overlooks` says when a staged
path is such a case.

Results:
* `unforced_keeps`: a commit without force keeps what is there, if no path is overlooked.
* `unforced_overlooks`: then no path is overlooked after the commit, either.
* `unforced_keeps_iff`: without mishaps, commits keep what is there only if no path is overlooked.
* `not_overlooks_of_exits`: no path is overlooked if each `..` of the root leaves a directory, so
  below a root without `..` none is (`not_overlooks_of_no_up`).
-/
namespace Stencil
open Disk

/-- Whether everything that a disk holds, files with their bytes, is on another one. -/
def Disk.Keeps (d d' : Disk) : Prop := ∀ l e, d.tree.at? l = some e → d'.tree.at? l = some e

namespace Disk.Keeps

theorem of_tree_eq {d d' : Disk} (h : d'.tree = d.tree) : d.Keeps d' := fun l e hs => by rw [h, hs]

theorem trans {d d' d'' : Disk} (h : d.Keeps d') (h' : d'.Keeps d'') : d.Keeps d'' :=
  fun l e hs => h' l e (h l e hs)

end Disk.Keeps

namespace Commit

/-! ## The place of the program -/

theorem Writes.alike {d d' : Disk} {r : Route} {content : ByteArray} {j j' : Journal}
    {answer : Except Fault Written} (h : Writes d r content j d' j' answer) : Alike d d' := by
  cases h with
  | stuck dirs => exact dirs.alike
  | unreadable dirs alike tree => exact dirs.alike.trans alike
  | replaced dirs found change done => exact dirs.alike.trans change.alike
  | created dirs absent change done => exact dirs.alike.trans change.alike

theorem WritesAll.alike {root : Route} {d d' : Disk} {j j' : Journal}
    {entries : List (String × String)} {answer : Except Fault CommitReport}
    (h : WritesAll root d j entries d' j' answer) : Alike d d' := by
  induction h with
  | done d j => exact .refl d
  | stopped first => exact first.alike
  | further first more ih => exact first.alike.trans ih

theorem restoreAll_alike (files : List (Route × ByteArray)) (d : Disk) :
    Alike d (d.run (restoreAll files)).2 := by
  induction files generalizing d with
  | nil => exact .refl d
  | cons x rest ih => exact (store_fileChange d x.1 x.2).alike.trans (ih _)

theorem removeFiles_alike (files : List Route) (d : Disk) :
    Alike d (d.run (removeFiles files)).2 := by
  induction files generalizing d with
  | nil => exact .refl d
  | cons r rest ih => exact (removeFile_fileChange d r).alike.trans (ih _)

theorem removeDirectories_alike (dirs : List Route) (d : Disk) :
    Alike d (d.run (removeDirectories dirs)).2 := by
  induction dirs generalizing d with
  | nil => exact .refl d
  | cons r rest ih =>
    have first : Alike d (d.removeDirectory r) := by
      unfold removeDirectory
      split <;> exact ⟨rfl, rfl⟩
    exact first.trans (ih _)

theorem undo_alike (j : Journal) (d : Disk) : Alike d (d.run (undo j)).2 := by
  rw [undo, run_bind, run_bind]
  exact (restoreAll_alike _ _).trans ((removeFiles_alike _ _).trans (removeDirectories_alike _ _))

/-- A commit goes through, or leaves the tree as it was; in either case it changes nothing else but
the mishap to come. -/
theorem run_cases (root : Route) (force : Bool) {s : Staging} (h : s.Valid) (d : Disk) :
    Alike d (d.run (run root force s)).2 ∧
      ((∃ report, (d.run (run root force s)).1 = .ok report) ∨
        (d.run (run root force s)).2.tree = d.tree) := by
  by_cases hc : s.paths.filter (Blocks d root force) = []
  · rw [run_of_no_conflicts hc]
    have ha := (writeAll_writesAll root s.entries ⟨[], [], []⟩ d).alike
    have hundo := @writeAll_undo_tree root s h d
    generalize d.run (writeAll root ⟨[], [], []⟩ s.entries) = x at ha hundo ⊢
    obtain ⟨⟨j, answer⟩, d₁⟩ := x
    cases answer with
    | ok report => exact ⟨ha, .inl ⟨report, rfl⟩⟩
    | error fault => exact ⟨ha.trans (undo_alike j d₁), .inr (hundo rfl)⟩
  · rw [run_of_conflicts hc]
    exact ⟨.refl d, .inr rfl⟩

/-! ## Overlooked files -/

/-- Whether a commit that looks for a path finds nothing, though something lies there and a file can
be written there. -/
structure Overlooks (d : Disk) (root : Route) (path : String) : Prop where
  valid : Layout.isValidPath path.toList
  free : Unobstructed d root [path]
  there : d.tree.at? (d.goal (root.join path)) ≠ none
  unseen : d.kind? (root.join path) = none

variable {d d' : Disk} {root : Route} {path : String}

/-- Nothing is overlooked below a root whose steps up leave directories: whatever lies there is
reached. -/
theorem not_overlooks_of_exits
    (up : ∀ l ∈ exits (d.start root) root.steps, d.tree.isDirectory l) (path : String) :
    ¬ Overlooks d root path := by
  intro h
  have hjoin : root.join path = _ := join_of_isValidPath h.valid
  have reached : d.Reaches (root.join path) := by
    refine reaches_of_exits ?_ (h.free.clear path List.mem_cons_self).allows h.there
    rw [start_join d h.valid, hjoin, exits_append, exits_down, List.append_nil]
    exact up
  exact h.there (at?_eq_none_of_reaches h.unseen reached (by rw [hjoin]))

theorem not_overlooks_of_no_up (hroot : .up ∉ root.steps) (path : String) :
    ¬ Overlooks d root path :=
  not_overlooks_of_exits (by simp [exits_of_no_up hroot]) path

theorem Clear.of_tree_eq {r : Route} (ha : Alike d d') (ht : d'.tree = d.tree) (h : Clear d' r) :
    Clear d r :=
  ⟨by simpa only [ha.start_eq, ht] using h.start, by simpa only [ha.trail_eq, ht] using h.trail,
    by simpa only [ha.goal_eq, ht] using h.goal, (ha.allows_iff r).1 h.allows⟩

theorem Overlooks.of_tree_eq (ha : Alike d d') (ht : d'.tree = d.tree)
    (h : Overlooks d' root path) : Overlooks d root path where
  valid := h.valid
  free :=
    ⟨fun p hp => (h.free.clear p hp).of_tree_eq ha ht, by
      simpa only [ha.goal_eq, ha.trail_eq] using h.free.apart⟩
  there := by simpa only [ha.goal_eq, ht] using h.there
  unseen := kind?_of_tree_eq ha ht _ ▸ h.unseen

/-! ## What is kept -/

theorem Unobstructed.of_mem {paths : List String} (h : Unobstructed d root paths)
    (hp : path ∈ paths) : Unobstructed d root [path] := by
  refine ⟨?_, ?_⟩ <;> simp only [List.mem_singleton, forall_eq]
  · exact h.clear path hp
  · exact h.apart path hp path hp

theorem kind?_eq_none_of_not_blocks (h : ¬ Blocks d root false path) :
    d.kind? (root.join path) = none := by
  simp only [Blocks, Bool.not_false, Bool.true_and, Bool.or_eq_true, not_or] at h
  simpa using h.2

section
variable {s : Staging} (valid : s.Valid) (sees : ∀ path, ¬ Overlooks d root path)
include valid sees

/-- **A commit without force keeps what is there,** if no path is overlooked. -/
theorem unforced_keeps : d.Keeps (d.run (run root false s)).2 := by
  obtain ⟨-, ⟨report, hok⟩ | ht⟩ := run_cases root false valid d
  · obtain ⟨hc, free, effect, -⟩ := run_ok_effect valid (Prod.ext hok rfl)
    intro l e hs
    rcases effect.at?_cases l with ⟨path, hp, rfl⟩ | ⟨path, hp, hmem⟩ | e'
    · have unseen := kind?_eq_none_of_not_blocks (List.filter_eq_nil_iff.1 hc path hp)
      exact absurd ⟨valid path hp, free.of_mem hp, by simp [hs], unseen⟩ (sees path)
    · cases e with
      | file content => exact absurd hs ((free.clear path hp).trail l hmem content)
      | directory => exact (FileTree.isDirectory_iff _ _).1 (effect.isDirectory_trail hp hmem)
    · rw [e', hs]
  · exact .of_tree_eq ht

/-- After a commit without force no path is overlooked that was not before. -/
theorem unforced_overlooks (path : String) :
    ¬ Overlooks (d.run (run root false s)).2 root path := by
  obtain ⟨ha, ⟨report, hok⟩ | ht⟩ := run_cases root false valid d
  · obtain ⟨-, -, effect, -⟩ := run_ok_effect valid (Prod.ext hok rfl)
    by_cases hnil : s.paths = []
    · have ht : (d.run (run root false s)).2.tree = d.tree := by
        refine FileTree.ext_at? fun l => ?_
        rcases effect.at?_cases l with ⟨p, hp, -⟩ | ⟨p, hp, -⟩ | e
        · exact absurd hp (hnil ▸ List.not_mem_nil)
        · exact absurd hp (hnil ▸ List.not_mem_nil)
        · exact e
      exact fun h => sees path (h.of_tree_eq ha ht)
    · -- the way to a file that was written is made of directories, and the root is on it
      obtain ⟨p, hp⟩ := List.exists_mem_of_ne_nil _ hnil
      refine not_overlooks_of_exits (fun l hl => effect.isDirectory_trail hp ?_) path
      rw [ha.start_eq] at hl
      rw [trail, start_join d (valid p hp), join_of_isValidPath (valid p hp), passed_append]
      exact List.mem_append_left _ (exits_subset_passed _ _ hl)
  · exact fun h => sees path (h.of_tree_eq ha ht)

end

/-! ## What is lost -/

theorem goal_mem_trail_of_mem_between (valid : Layout.isValidPath path.toList) {r : Route}
    (h : r ∈ between root path) : d.goal r ∈ d.trail (root.join path) := by
  obtain ⟨a, ha, rfl⟩ := List.mem_map.1 h
  obtain ⟨front, hf, rfl⟩ := List.mem_map.1 ha
  rw [Route.parse_of_isValidPath valid] at hf ⊢
  obtain ⟨hp, -, hne⟩ := (Route.mem_properFronts _ _).1 hf
  rw [trail, start_join d valid, join_of_isValidPath valid, mem_passed]
  exact ⟨root.steps ++ front, (List.prefix_append_right_inj _).2 hp,
    fun e => hne (List.append_cancel_left e), rfl⟩

/-- No file is found between the root and a path if none lies on the way to it. -/
theorem no_file_between_of_trail (valid : Layout.isValidPath path.toList)
    (trail : ∀ l ∈ d.trail (root.join path), ∀ content, d.tree.at? l ≠ some (.file content)) :
    (between root path).any (fun r => d.kind? r == some .file) = false := by
  refine List.any_eq_false.2 fun r hr hk => ?_
  obtain ⟨e, he, hkind⟩ := (kind?_eq_some_iff d r _).1 (beq_iff_eq.1 hk)
  cases e with
  | directory => cases hkind
  | file content =>
    exact trail _ (goal_mem_trail_of_mem_between valid hr) content ((find_eq_ok_iff _ _ _).1 he).2.1

/-- An overlooked path is no conflict. -/
theorem Overlooks.not_blocks (h : Overlooks d root path) : ¬ Blocks d root false path := by
  have no_file := no_file_between_of_trail h.valid (h.free.clear path List.mem_cons_self).trail
  simp [Blocks, no_file, h.unseen]

/-- A commit that goes through leaves every staged content at its place. -/
theorem at?_goal_of_run_ok {s : Staging} (valid : s.Valid) {force : Bool} {report : CommitReport}
    (hok : (d.run (run root force s)).1 = .ok report) {content : String}
    (hmem : (path, content) ∈ s.entries) :
    (d.run (run root force s)).2.tree.at? (d.goal (root.join path)) =
      some (.file content.toUTF8) := by
  obtain ⟨-, -, effect, -⟩ := run_ok_effect valid (Prod.ext hok rfl)
  exact effect.written (root.join path, content.toUTF8) (List.mem_map.2 ⟨_, hmem, rfl⟩)

/-- **When commits without force keep what is there.** Without mishaps, exactly if no path is
overlooked. -/
theorem unforced_keeps_iff (quiet : d.mishap = none) :
    (∀ s : Staging, s.Valid → d.Keeps (d.run (run root false s)).2) ↔
      ∀ path, ¬ Overlooks d root path := by
  constructor
  · intro keeps path h
    obtain ⟨e, he⟩ := Option.ne_none_iff_exists'.1 h.there
    obtain ⟨content, other⟩ : ∃ content : String, e ≠ .file content.toUTF8 := by
      by_cases hempty : e = .file "".toUTF8
      · refine ⟨"x", fun hx => ?_⟩
        have same := String.toByteArray_inj.1 (Entry.file.inj (hempty.symm.trans hx))
        exact absurd same (by decide)
      · exact ⟨"", hempty⟩
    have valid : (Staging.oneFile path content).Valid := by
      simpa [Staging.Valid, Staging.oneFile_paths] using h.valid
    have unblocked : (Staging.oneFile path content).paths.filter (Blocks d root false) = [] := by
      simpa [Staging.oneFile_paths] using h.not_blocks
    obtain ⟨report, hok⟩ := (run_succeeds_iff valid quiet).2 ⟨unblocked, h.free⟩
    have written := at?_goal_of_run_ok valid hok List.mem_cons_self
    have kept := keeps (Staging.oneFile path content) valid _ e he
    exact other (Option.some.inj (kept.symm.trans written))
  · intro sees s valid
    exact unforced_keeps valid sees

end Commit
end Stencil
