import Stencil.Proofs.Commit.Unforced
import Stencil.Proofs.Preview.Available
import Stencil.Proofs.Preview.Faithful

/-!
# Commits of what is there

After a commit the disk holds all that was staged (`settled_of_run_ok`). Such a disk is a fixed
point: a forced commit of the same files goes through and changes nothing (`Settled.run_forced`),
one without force is refused for all of them (`Settled.run_unforced`), and a forced preview finds
them all unchanged (`Settled.preview_forced`). This is so below any root.
-/
namespace Stencil
open Disk

namespace Commit
variable {d d' : Disk} {root : Route} {s : Staging}

/-- Whether a disk holds all staged files, with the staged contents. -/
def Settled (d : Disk) (root : Route) (s : Staging) : Prop :=
  ∀ e ∈ s.entries, d.find (root.join e.1) = .ok (.file e.2.toUTF8)

/-- A commit that goes through leaves a disk that holds what was staged. -/
theorem settled_of_run_ok (valid : s.Valid) {force : Bool} {report : CommitReport}
    (hok : d.run (run root force s) = (.ok report, d')) : Settled d' root s := by
  obtain ⟨-, free, effect, -⟩ := run_ok_effect valid hok
  intro e he
  exact effect.find_written free valid ((s.mem_entries e.1 e.2).1 he)

namespace Settled

theorem of_tree_eq (ha : Alike d d') (ht : d'.tree = d.tree) (h : Settled d root s) :
    Settled d' root s := fun e he => (find_iff_of_tree_eq ha ht _ _).2 (h e he)

section
variable (h : Settled d root s)
include h

theorem find_of_mem {path : String} (hp : path ∈ s.paths) :
    ∃ content, d.find (root.join path) = .ok (.file content) := by
  obtain ⟨e, he, rfl⟩ := List.mem_map.1 hp
  exact ⟨_, h e he⟩

theorem kind?_eq {path : String} (hp : path ∈ s.paths) :
    d.kind? (root.join path) = some .file := by
  obtain ⟨content, hfind⟩ := h.find_of_mem hp
  exact (kind?_eq_some_iff _ _ _).2 ⟨_, hfind, rfl⟩

/-- The way to a staged file is made of directories. -/
theorem isDirectory_trail {path : String} (hp : path ∈ s.paths) {l : Location}
    (hl : l ∈ d.trail (root.join path)) : d.tree.isDirectory l := by
  obtain ⟨content, hfind⟩ := h.find_of_mem hp
  exact ((find_eq_ok_iff _ _ _).1 hfind).1.1 l hl

/-- Nothing is in the way of files that are there. -/
theorem unobstructed (valid : s.Valid) : Unobstructed d root s.paths := by
  refine ⟨fun path hp => ?_, fun path hp path' hp' hmem => ?_⟩
  · obtain ⟨content, hfind⟩ := h.find_of_mem hp
    obtain ⟨reached, there, -⟩ := (find_eq_ok_iff _ _ _).1 hfind
    constructor
    case start => exact reached.1 _ (start_mem_trail d (steps_join_ne_nil (valid path hp)))
    case trail =>
      intro l hl content' hfile
      exact FileTree.not_isDirectory_of_file hfile (reached.1 l hl)
    case goal => exact FileTree.not_isDirectory_of_file there
    case allows => exact reached.2
  · obtain ⟨content, hfind⟩ := h.find_of_mem hp
    exact FileTree.not_isDirectory_of_file ((find_eq_ok_iff _ _ _).1 hfind).2.1
      (h.isDirectory_trail hp' hmem)

/-- Only a commit without force finds staged files that are there in its way. -/
theorem blocks_eq (valid : s.Valid) (force : Bool) {path : String} (hp : path ∈ s.paths) :
    Blocks d root force path = !force := by
  have no_file : (between root path).any (fun r => d.kind? r == some .file) = false :=
    no_file_between_of_trail (valid path hp) fun l hl content hfile =>
      FileTree.not_isDirectory_of_file hfile (h.isDirectory_trail hp hl)
  simp [Blocks, no_file, h.kind?_eq hp]

theorem conflicts_forced (valid : s.Valid) : s.paths.filter (Blocks d root true) = [] :=
  List.filter_eq_nil_iff.2 fun path hp => by simp [h.blocks_eq valid true hp]

theorem conflicts_unforced (valid : s.Valid) : s.paths.filter (Blocks d root false) = s.paths :=
  List.filter_eq_self.2 fun _ hp => h.blocks_eq valid false hp

/-- A commit without force is refused for all staged files, if there are any. -/
theorem run_unforced (valid : s.Valid) : d.run (run root false s) =
    (if s.paths = [] then .ok ⟨[], []⟩ else .error (.destinationConflict s.paths), d) := by
  have hc := h.conflicts_unforced valid
  split
  · rename_i hnil
    have entries : s.entries = [] := List.map_eq_nil_iff.1 hnil
    rw [run_of_no_conflicts (by rw [hc, hnil]), entries]
    rfl
  · rename_i hne
    rw [run_of_conflicts (by rwa [hc]), hc]

theorem reportOf_eq : reportOf d root s.paths = ⟨[], s.paths⟩ := by
  have there (path) (hp : path ∈ s.paths) : (d.tree.at? (d.goal (root.join path))).isSome := by
    obtain ⟨content, hfind⟩ := h.find_of_mem hp
    rw [((find_eq_ok_iff _ _ _).1 hfind).2.1]
    rfl
  rw [reportOf, CommitReport.mk.injEq]
  constructor
  · refine List.filter_eq_nil_iff.2 fun path hp => ?_
    simp [Option.isSome_iff_ne_none.1 (there path hp)]
  · exact List.filter_eq_self.2 there

/-- Writing files that are there changes nothing. -/
theorem tree_eq_of_effect (effect : Effect d (targets root s.entries) d') : d'.tree = d.tree := by
  refine FileTree.ext_at? fun l => ?_
  rcases effect.at?_cases l with ⟨path, hp, rfl⟩ | ⟨path, hp, hmem⟩ | e
  · obtain ⟨e, he, rfl⟩ := List.mem_map.1 hp
    rw [((find_eq_ok_iff _ _ _).1 (h e he)).2.1]
    exact effect.written (root.join e.1, e.2.toUTF8) (List.mem_map.2 ⟨e, he, rfl⟩)
  · rw [(FileTree.isDirectory_iff _ _).1 (effect.isDirectory_trail hp hmem),
      (FileTree.isDirectory_iff _ _).1 (h.isDirectory_trail hp hmem)]
  · exact e

/-- A forced commit replaces all staged files, by what they are. -/
theorem run_forced (quiet : d.mishap = none) (valid : s.Valid) :
    (d.run (run root true s)).1 = .ok ⟨[], s.paths⟩ ∧
      (d.run (run root true s)).2.tree = d.tree := by
  obtain ⟨report, hok⟩ :=
    (run_succeeds_iff valid quiet).2 ⟨h.conflicts_forced valid, h.unobstructed valid⟩
  obtain ⟨-, -, effect, rfl⟩ := run_ok_effect valid (Prod.ext hok rfl)
  exact ⟨h.reportOf_eq ▸ hok, h.tree_eq_of_effect effect⟩

end
end Settled

end Commit

/-! ## Previews -/

/-- What a plan tells of a file that is there as it should be. -/
def PlannedWrite.unchanged (e : String × String) : PlannedWrite :=
  ⟨e.1, .unchanged, e.2.utf8ByteSize, none⟩

section
variable {d : Disk} (quiet : d.mishap = none)
include quiet

theorem ofFile_of_find {root : Route} {path content : String}
    (h : d.find (root.join path) = .ok (.file content.toUTF8)) :
    d.attempt (PlannedWrite.ofFile root path content) =
      (.ok (PlannedWrite.unchanged (path, content)), d) := by
  have hk : d.kind? (root.join path) = some .file := (kind?_eq_some_iff _ _ _).2 ⟨_, h, rfl⟩
  have hread := attempt_readText quiet h
  have text : Files.decode content.toUTF8 = .ok content := decode_of_valid content.isValidUTF8
  rw [text] at hread
  rw [PlannedWrite.ofFile, attempt_bind, attempt_lift, run_isFile]
  simp only [hk, beq_self_eq_true, if_true, attempt_bind, hread, PlannedWrite.ofTexts]
  rfl

theorem ofFiles_of_find {root : Route} {entries : List (String × String)}
    (h : ∀ e ∈ entries, d.find (root.join e.1) = .ok (.file e.2.toUTF8)) :
    d.attempt (PlannedWrite.ofFiles root entries) =
      (.ok (entries.map PlannedWrite.unchanged), d) := by
  induction entries with
  | nil => rfl
  | cons e rest ih =>
    obtain ⟨first, others⟩ := List.forall_mem_cons.1 h
    simp only [PlannedWrite.ofFiles, attempt_bind, ofFile_of_find quiet first, ih others]
    rfl

/-- A forced preview of files that are there finds them all unchanged. -/
theorem Commit.Settled.preview_forced {g : Generator} {s : Staged} (valid : s.files.Valid)
    (h : Settled d g.root s.files) (force : s.options.force = true) : d.attempt (g.preview s) =
      (.ok { options := s.options, files := s.files
             writes := s.files.entries.map PlannedWrite.unchanged
             conflicts := [], failures := s.failures }, d) := by
  have plan : d.attempt (s.files.plan g.root) = _ := ofFiles_of_find quiet h
  have hc := h.conflicts_forced valid
  rw [← force] at hc
  simp only [Generator.preview, attempt_bind, attempt_lift, Commit.conflicts_run, hc, plan]
  rw [map_markConflict_nil]
  rfl

end
end Stencil
