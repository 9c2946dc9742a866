import Stencil.Commit
import Stencil.Proofs.Disk.Calls

/-!
# The steps of a commit on a disk

What each part of a commit can do when it runs on a `Disk`, said once: `Creates` for making the
missing directories of a file, `Writes` for writing one file, `WritesAll` for all of them. The
conflict test leaves the disk alone (`conflicts_run`).
-/
namespace Stencil
open Disk

namespace Commit

/-! ## Looking -/

theorem anyFile_run (rs : List Route) (d : Disk) :
    d.run (anyFile rs) = (rs.any fun r => d.kind? r == some .file, d) := by
  induction rs with
  | nil => rfl
  | cons r rest ih =>
    rw [anyFile, run_bind, run_isFile]
    cases h : d.kind? r == some .file
    · simpa [h] using ih
    · simp [h]

/-- Whether a disk has something in the way of a path. -/
def Blocks (d : Disk) (root : Route) (force : Bool) (path : String) : Bool :=
  (between root path).any (fun r => d.kind? r == some .file) ||
    d.kind? (root.join path) == some .directory || (!force && (d.kind? (root.join path)).isSome)

theorem isConflict_run (root : Route) (force : Bool) (path : String) (d : Disk) :
    d.run (isConflict root force path) = (Blocks d root force path, d) := by
  rw [isConflict, run_bind, anyFile_run, Blocks]
  cases (between root path).any fun r => d.kind? r == some .file
  · simp only [Bool.false_eq_true, if_false, run_bind, run_isDirectory, Bool.false_or]
    by_cases hd : d.kind? (root.join path) = some .directory
    · simp [hd]
    · cases force <;> simp [hd]
  · simp

theorem conflictsAmong_run (root : Route) (force : Bool) (paths : List String) (d : Disk) :
    d.run (conflictsAmong root force paths) = (paths.filter (Blocks d root force), d) := by
  induction paths with
  | nil => rfl
  | cons path rest ih =>
    simp only [conflictsAmong, run_bind, isConflict_run, ih, run_pure, List.filter_cons]

/-- The conflicts are the paths that the disk blocks; looking for them changes nothing. -/
theorem conflicts_run (root : Route) (force : Bool) (s : Staging) (d : Disk) :
    d.run (conflicts root force s) = (s.paths.filter (Blocks d root force), d) :=
  conflictsAmong_run root force s.paths d

theorem missing_run (dirs : List Route) (d : Disk) :
    d.run (missing dirs) = (dirs.takeWhile fun r => (d.kind? r).isNone, d) := by
  induction dirs with
  | nil => rfl
  | cons dir rest ih =>
    rw [missing, run_bind, run_holds, List.takeWhile_cons]
    cases h : d.kind? dir with
    | none => simp [ih]
    | some k => simp

/-! ## Making directories -/

/-- How directories are made one after another: from a disk and a journal to those after, with the
answer. -/
inductive Creates : Disk → Journal → List Route → Disk → Journal → Except Fault Unit → Prop
  | done (d : Disk) (j : Journal) : Creates d j [] d j (.ok ())
  | made {d d₁ d₂ : Disk} {j j₂ : Journal} {dir : Route} {rest : List Route}
      {answer : Except Fault Unit} (can : d.CanCreate dir) (alike : Alike d d₁)
      (tree : d₁.tree = d.tree.put (d.goal dir) .directory)
      (more : Creates d₁ { j with directories := dir :: j.directories } rest d₂ j₂ answer) :
      Creates d j (dir :: rest) d₂ j₂ answer
  | present {d d₁ d₂ : Disk} {j j₂ : Journal} {dir : Route} {rest : List Route}
      {answer : Except Fault Unit} (found : d.find dir = .ok .directory) (alike : Alike d d₁)
      (tree : d₁.tree = d.tree) (more : Creates d₁ j rest d₂ j₂ answer) :
      Creates d j (dir :: rest) d₂ j₂ answer
  | failed {d d₁ : Disk} {j : Journal} {dir : Route} {rest : List Route} {fault : Fault}
      (alike : Alike d d₁) (tree : d₁.tree = d.tree) :
      Creates d j (dir :: rest) d₁ j (.error fault)

theorem kind?_eq_directory {d : Disk} {r : Route} (h : d.kind? r = some .directory) :
    d.find r = .ok .directory := by
  obtain ⟨e, he, hk⟩ := (kind?_eq_some_iff d r _).1 h
  cases e with
  | file content => cases hk
  | directory => exact he

theorem createDirectories_creates (dirs : List Route) (j : Journal) (d : Disk) :
    Creates d j dirs (d.run (createDirectories j dirs)).2 (d.run (createDirectories j dirs)).1.1
      (d.run (createDirectories j dirs)).1.2 := by
  induction dirs generalizing j d with
  | nil => exact .done d j
  | cons dir rest ih =>
    obtain ⟨ha, ⟨hok, hcan, ht⟩ | ⟨fault, herr, ht⟩⟩ := createDirectory_cases d dir
    · rw [createDirectories, run_bind, run_createDirectory, hok]
      exact .made hcan ha ht (ih _ _)
    · rw [createDirectories, run_bind, run_createDirectory, herr]
      by_cases hf : fault = .alreadyExists
      · simp only [hf, if_true, run_bind, run_isDirectory]
        by_cases hk : (d.createDirectory dir).2.kind? dir = some .directory
        · simp only [hk, beq_self_eq_true, if_true]
          have found := (find_iff_of_tree_eq ha ht dir _).1 (kind?_eq_directory hk)
          exact .present found ha ht (ih _ _)
        · simp only [beq_iff_eq, hk, if_false, run_pure]
          exact .failed ha ht
      · simp only [hf, if_false, run_pure]
        exact .failed ha ht

/-! ## Writing files -/

/-- The directories that a file needs and that are not there, the outermost first. -/
def unmade (d : Disk) (target : Route) : List Route :=
  (target.ancestors.reverse.takeWhile fun r => (d.kind? r).isNone).reverse

theorem missing_unmade (d : Disk) (target : Route) :
    d.run (missing target.ancestors.reverse) = ((unmade d target).reverse, d) := by
  rw [missing_run, unmade, List.reverse_reverse]

/-- How one file is written: from a disk and a journal to those after, with the answer. A file that
was to be written is in the journal before it is touched. -/
inductive Writes (d : Disk) (target : Route) (content : ByteArray) (j : Journal) :
    Disk → Journal → Except Fault Written → Prop
  | stuck {d₁ : Disk} {j₁ : Journal} {fault : Fault}
      (dirs : Creates d j (unmade d target) d₁ j₁ (.error fault)) :
      Writes d target content j d₁ j₁ (.error fault)
  | unreadable {d₁ d₂ : Disk} {j₁ : Journal} {fault : Fault}
      (dirs : Creates d j (unmade d target) d₁ j₁ (.ok ())) (alike : Alike d₁ d₂)
      (tree : d₂.tree = d₁.tree) :
      Writes d target content j d₂ j₁ (.error fault)
  | replaced {d₁ d₂ : Disk} {j₁ : Journal} {old : ByteArray} {answer : Except Fault Written}
      (dirs : Creates d j (unmade d target) d₁ j₁ (.ok ()))
      (found : d₁.find target = .ok (.file old)) (change : FileChange d₁ target d₂)
      (done : ∀ w, answer = .ok w →
        w = .overwritten ∧ d₂.tree.at? (d₁.goal target) = some (.file content)) :
      Writes d target content j d₂ { j₁ with overwritten := (target, old) :: j₁.overwritten } answer
  | created {d₁ d₂ : Disk} {j₁ : Journal} {answer : Except Fault Written}
      (dirs : Creates d j (unmade d target) d₁ j₁ (.ok ()))
      (absent : d₁.kind? target = none) (change : FileChange d₁ target d₂)
      (done : ∀ w, answer = .ok w → w = .created ∧ d₁.target target = .ok (d₁.goal target) ∧
        d₂.tree.at? (d₁.goal target) = some (.file content)) :
      Writes d target content j d₂ { j₁ with created := target :: j₁.created } answer

theorem writeFile_writes (target : Route) (content : String) (j : Journal) (d : Disk) :
    Writes d target content.toUTF8 j (d.run (writeFile target content j)).2
      (d.run (writeFile target content j)).1.1 (d.run (writeFile target content j)).1.2 := by
  have hdirs := createDirectories_creates (unmade d target) j d
  simp only [writeFile, run_bind, missing_unmade, List.reverse_reverse]
  generalize d.run (createDirectories j (unmade d target)) = x at hdirs ⊢
  obtain ⟨⟨j₁, answer⟩, d₁⟩ := x
  cases answer with
  | error fault => exact .stuck hdirs
  | ok u =>
    simp only [run_bind, run_holds]
    obtain hk | ⟨k, hk⟩ := Option.eq_none_or_eq_some (d₁.kind? target)
    · simp only [hk, Option.isSome_none, Bool.false_eq_true, if_false, run_bind, run_write]
      have hc := write_fileChange d₁ target content.toUTF8
      have hw := @write_ok d₁ target content.toUTF8
      generalize d₁.write target content.toUTF8 = x at hc hw ⊢
      obtain ⟨res, d₂⟩ := x
      cases res with
      | error fault => exact .created hdirs hk hc (by simp)
      | ok u' => exact .created hdirs hk hc fun w h => by cases h; exact ⟨rfl, hw rfl⟩
    · simp only [hk, Option.isSome_some, if_true, run_bind, run_read]
      obtain ⟨hra, hrt⟩ := read_still d₁ target
      have hr := @read_ok d₁ target
      generalize d₁.read target = x at hra hrt hr ⊢
      obtain ⟨old, d₂⟩ := x
      cases old with
      | error fault => exact .unreadable hdirs hra hrt
      | ok old =>
        simp only [run_bind, run_write]
        have hc := (write_fileChange d₂ target content.toUTF8).after hra hrt
        have hw := @write_ok d₂ target content.toUTF8
        rw [hra.goal_eq] at hw
        generalize d₂.write target content.toUTF8 = x at hc hw ⊢
        obtain ⟨res, d₃⟩ := x
        cases res with
        | error fault => exact .replaced hdirs (hr rfl) hc (by simp)
        | ok u' => exact .replaced hdirs (hr rfl) hc fun w h => by cases h; exact ⟨rfl, (hw rfl).2⟩

/-- How files are written one after another. -/
inductive WritesAll (root : Route) : Disk → Journal → List (String × String) → Disk → Journal →
    Except Fault CommitReport → Prop
  | done (d : Disk) (j : Journal) : WritesAll root d j [] d j (.ok ⟨[], []⟩)
  | stopped {d d₁ : Disk} {j j₁ : Journal} {path content : String} {rest : List (String × String)}
      {fault : Fault} (first : Writes d (root.join path) content.toUTF8 j d₁ j₁ (.error fault)) :
      WritesAll root d j ((path, content) :: rest) d₁ j₁ (.error fault)
  | further {d d₁ d₂ : Disk} {j j₁ j₂ : Journal} {path content : String}
      {rest : List (String × String)} {w : Written} {answer : Except Fault CommitReport}
      (first : Writes d (root.join path) content.toUTF8 j d₁ j₁ (.ok w))
      (more : WritesAll root d₁ j₁ rest d₂ j₂ answer) :
      WritesAll root d j ((path, content) :: rest) d₂ j₂ (answer.map (addTo · path w))

theorem writeAll_writesAll (root : Route) (entries : List (String × String)) (j : Journal)
    (d : Disk) :
    WritesAll root d j entries (d.run (writeAll root j entries)).2
      (d.run (writeAll root j entries)).1.1 (d.run (writeAll root j entries)).1.2 := by
  induction entries generalizing j d with
  | nil => exact .done d j
  | cons entry rest ih =>
    obtain ⟨path, content⟩ := entry
    have hfirst := writeFile_writes (root.join path) content j d
    simp only [writeAll, run_bind]
    generalize d.run (writeFile (root.join path) content j) = x at hfirst ⊢
    obtain ⟨⟨j₁, answer⟩, d₁⟩ := x
    cases answer with
    | error fault => exact .stopped hfirst
    | ok w =>
      have hmore := ih j₁ d₁
      simp only [run_bind]
      generalize d₁.run (writeAll root j₁ rest) = x at hmore ⊢
      obtain ⟨⟨j₂, answer⟩, d₂⟩ := x
      cases answer with
      | error fault => exact .further hfirst hmore
      | ok report => exact .further hfirst hmore

/-! ## Whole commits -/

theorem run_of_conflicts {root : Route} {force : Bool} {s : Staging} {d : Disk}
    (h : s.paths.filter (Blocks d root force) ≠ []) :
    d.run (run root force s) =
      (.error (.destinationConflict (s.paths.filter (Blocks d root force))), d) := by
  rw [run, run_bind, conflicts_run, if_neg (by simpa using h), run_pure]

theorem run_of_no_conflicts {root : Route} {force : Bool} {s : Staging} {d : Disk}
    (h : s.paths.filter (Blocks d root force) = []) :
    d.run (run root force s) =
      match d.run (writeAll root ⟨[], [], []⟩ s.entries) with
      | ((_, .ok report), d') => (.ok report, d')
      | ((j, .error fault), d') => (.error (.io fault), (d'.run (undo j)).2) := by
  rw [run, run_bind, conflicts_run, if_pos (by simpa using h), run_bind]
  generalize d.run (writeAll root ⟨[], [], []⟩ s.entries) = x
  obtain ⟨⟨j, answer⟩, d'⟩ := x
  cases answer <;> rfl

/-- A commit is refused exactly for its conflicts. -/
theorem run_refused_iff (root : Route) (force : Bool) (s : Staging) (d : Disk)
    (paths : List String) :
    (d.run (run root force s)).1 = .error (.destinationConflict paths) ↔
      s.paths.filter (Blocks d root force) ≠ [] ∧
        paths = s.paths.filter (Blocks d root force) := by
  by_cases hc : s.paths.filter (Blocks d root force) = []
  · rw [run_of_no_conflicts hc]
    refine iff_of_false ?_ fun h => h.1 hc
    generalize d.run (writeAll root ⟨[], [], []⟩ s.entries) = x
    obtain ⟨⟨j, answer⟩, d₁⟩ := x
    cases answer <;> simp
  · simp [run_of_conflicts hc, hc, eq_comm]

end Commit
end Stencil
