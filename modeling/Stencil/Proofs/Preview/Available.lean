import Stencil.Proofs.Preview.Plan

/-!
# When a preview is available

A preview reads the files that are at staged paths as texts, to compare them; a commit only keeps
their bytes. So a preview fails over a file that is no text, while a commit replaces the file, or is
refused and leaves it.

* `preview_available_iff`: a preview answers exactly if the files at staged paths are texts, and for
  no other reason does it fail.
* `commit_without_preview`: a run that a commit carries out, and one that it refuses, neither of
  which has a preview.
-/
namespace Stencil
open Disk

/-- Whether a route leads to no file but one whose bytes are a text. -/
def Disk.HoldsText (d : Disk) (r : Route) : Prop :=
  ∀ bytes, d.find r = .ok (.file bytes) → bytes.IsValidUTF8

theorem decode_of_valid {bytes : ByteArray} (h : bytes.IsValidUTF8) :
    Files.decode bytes = .ok (String.fromUTF8 bytes h) := by
  rw [Files.decode, String.fromUTF8?, dif_pos h]

theorem decode_of_not_valid {bytes : ByteArray} (h : ¬ bytes.IsValidUTF8) :
    Files.decode bytes = .error (.io .notText) := by
  rw [Files.decode, String.fromUTF8?, dif_neg h]

section
variable {d : Disk} (quiet : d.mishap = none)
include quiet

/-- Without mishaps, reading a file as text is decoding its bytes. -/
theorem attempt_readText {r : Route} {bytes : ByteArray} (h : d.find r = .ok (.file bytes)) :
    d.attempt (Files.readText r) = (Files.decode bytes, d) := by
  have hread : d.attempt (Files.orFail (Files.read r)) = (.ok bytes, d) := by
    rw [Files.orFail, attempt_mk, run_bind, run_read, read_of_no_mishap quiet h]
    rfl
  rw [Files.readText, attempt_bind, hread]
  rfl

theorem ofFile_available {root : Route} {path : String} (h : d.HoldsText (root.join path))
    (content : String) : ∃ w, d.attempt (PlannedWrite.ofFile root path content) = (.ok w, d) := by
  rw [PlannedWrite.ofFile, attempt_bind, attempt_lift, run_isFile]
  by_cases hk : d.kind? (root.join path) = some .file
  · obtain ⟨entry, hfind, hentry⟩ := (kind?_eq_some_iff _ _ _).1 hk
    cases entry with
    | directory => cases hentry
    | file bytes =>
      have hread := attempt_readText quiet hfind
      rw [decode_of_valid (h bytes hfind)] at hread
      simp only [hk, beq_self_eq_true, if_true, attempt_bind, hread]
      exact ⟨_, rfl⟩
  · simp only [beq_iff_eq, hk, if_false]
    exact ⟨_, rfl⟩

theorem ofFile_unavailable {root : Route} {path : String} (h : ¬ d.HoldsText (root.join path))
    (content : String) :
    d.attempt (PlannedWrite.ofFile root path content) = (.error (.io .notText), d) := by
  simp only [HoldsText, not_forall] at h
  obtain ⟨bytes, hfind, hinvalid⟩ := h
  have hk : d.kind? (root.join path) = some .file := (kind?_eq_some_iff _ _ _).2 ⟨_, hfind, rfl⟩
  have hread := attempt_readText quiet hfind
  rw [decode_of_not_valid hinvalid] at hread
  rw [PlannedWrite.ofFile, attempt_bind, attempt_lift, run_isFile]
  simp only [hk, beq_self_eq_true, if_true, attempt_bind, hread]

theorem ofFiles_available {root : Route} {entries : List (String × String)}
    (h : ∀ e ∈ entries, d.HoldsText (root.join e.1)) :
    ∃ ws, d.attempt (PlannedWrite.ofFiles root entries) = (.ok ws, d) := by
  induction entries with
  | nil => exact ⟨[], rfl⟩
  | cons e rest ih =>
    obtain ⟨first, others⟩ := List.forall_mem_cons.1 h
    obtain ⟨w, hw⟩ := ofFile_available quiet first e.2
    obtain ⟨ws, hws⟩ := ih others
    refine ⟨w :: ws, ?_⟩
    simp only [PlannedWrite.ofFiles, attempt_bind, hw, hws]
    rfl

theorem ofFiles_unavailable {root : Route} {entries : List (String × String)}
    (h : ∃ e ∈ entries, ¬ d.HoldsText (root.join e.1)) :
    d.attempt (PlannedWrite.ofFiles root entries) = (.error (.io .notText), d) := by
  induction entries with
  | nil => simp at h
  | cons e rest ih =>
    by_cases first : d.HoldsText (root.join e.1)
    · obtain ⟨w, hw⟩ := ofFile_available quiet first e.2
      have hrest : ∃ e ∈ rest, ¬ d.HoldsText (root.join e.1) := by simpa [first] using h
      simp only [PlannedWrite.ofFiles, attempt_bind, hw, ih hrest]
    · simp only [PlannedWrite.ofFiles, attempt_bind, ofFile_unavailable quiet first e.2]

end

theorem preview_ok_of_plan {g : Generator} {s : Staged} {d : Disk} {ws : List PlannedWrite}
    (h : d.attempt (s.files.plan g.root) = (.ok ws, d)) :
    ∃ p, (d.attempt (g.preview s)).1 = .ok p := by
  simp only [Generator.preview, attempt_bind, attempt_lift, Commit.conflicts_run, h]
  exact ⟨_, rfl⟩

theorem preview_error_of_plan {g : Generator} {s : Staged} {d : Disk} {e : Failure}
    (h : d.attempt (s.files.plan g.root) = (.error e, d)) :
    (d.attempt (g.preview s)).1 = .error e := by
  simp only [Generator.preview, attempt_bind, attempt_lift, Commit.conflicts_run, h]

/-- **A preview is available** exactly if every file at a staged path is a text; if one is not, the
preview fails for this reason. It does not count what a commit of the run does, which never asks
whether a file is a text. -/
theorem preview_available_iff {g : Generator} {s : Staged} {d : Disk} (quiet : d.mishap = none) :
    ((∃ p, (d.attempt (g.preview s)).1 = .ok p) ↔
        ∀ path ∈ s.files.paths, d.HoldsText (g.root.join path)) ∧
      ((¬ ∀ path ∈ s.files.paths, d.HoldsText (g.root.join path)) →
        (d.attempt (g.preview s)).1 = .error (.io .notText)) := by
  have hpaths : (∀ path ∈ s.files.paths, d.HoldsText (g.root.join path)) ↔
      ∀ e ∈ s.files.entries, d.HoldsText (g.root.join e.1) := List.forall_mem_map
  rw [hpaths]
  by_cases h : ∀ e ∈ s.files.entries, d.HoldsText (g.root.join e.1)
  · obtain ⟨ws, hws⟩ := ofFiles_available quiet h
    exact ⟨iff_of_true (preview_ok_of_plan hws) h, absurd h⟩
  · have hbad : ∃ e ∈ s.files.entries, ¬ d.HoldsText (g.root.join e.1) := by simpa using h
    have failed := preview_error_of_plan (ofFiles_unavailable quiet hbad)
    exact ⟨iff_of_false (by simp [failed]) h, fun _ => failed⟩

/-- A disk with a text `b` and a file `c` that is no text. -/
def strayDisk : Disk :=
  { tree := FileTree.empty |>.put ["b"] (.file "old".toUTF8) |>.put ["c"] (.file ⟨#[0xff]⟩)
    here := [], admits := isCommonName, mishap := none }

/-- A file that is no text does no harm next to the staged paths. -/
theorem strayDisk_available : ∃ s, (pairGenerator ".").stage "pair" forcedOptions = .ok s ∧
    s.files.paths = ["a/x", "b"] ∧
      ∃ p, (strayDisk.attempt ((pairGenerator ".").preview s)).1 = .ok p := by
  obtain ⟨s, hs, -, hfiles, -⟩ := pairGenerator_stage "."
  have hpaths : s.files.paths = ["a/x", "b"] := by rw [hfiles]; rfl
  refine ⟨s, hs, hpaths, (preview_available_iff rfl).1.2 ?_⟩
  rw [hpaths, List.forall_mem_cons, List.forall_mem_singleton]
  constructor
  · intro bytes hfind
    cases hfind
  · intro bytes hfind
    have found : strayDisk.find ((pairGenerator ".").root.join "b") =
        .ok (.file "old".toUTF8) := rfl
    rw [found] at hfind
    cases hfind
    exact String.isValidUTF8 "old"

/-- A disk with a file `b` that is no text. -/
def binaryDisk : Disk :=
  { tree := FileTree.empty.put ["b"] (.file ⟨#[0xff]⟩), here := [], admits := fun _ => true
    mishap := none }

theorem binaryDisk_unavailable (force : Bool) : ∃ s,
    (pairGenerator ".").stage "pair" [("name", .string "user"), ("force", .bool force)] = .ok s ∧
      s.options.force = force ∧ s.files = .twoFiles ∧ s.failures = [] ∧
        (binaryDisk.attempt ((pairGenerator ".").preview s)).1 = .error (.io .notText) := by
  obtain ⟨s, hs, hforce, hfiles, hfailures⟩ := pairGenerator_stage_force "." force
  refine ⟨s, hs, hforce, hfiles, hfailures, ?_⟩
  have staged : "b" ∈ s.files.paths := by rw [hfiles]; decide
  have binary : ¬ binaryDisk.HoldsText ((pairGenerator ".").root.join "b") :=
    fun h => absurd (h ⟨#[0xff]⟩ rfl) (by decide)
  have hbad : ∃ e ∈ s.files.entries,
      ¬ binaryDisk.HoldsText ((pairGenerator ".").root.join e.1) := by
    obtain ⟨e, he, hb⟩ := List.mem_map.1 staged
    exact ⟨e, he, hb ▸ binary⟩
  exact preview_error_of_plan (ofFiles_unavailable rfl hbad)

/-- Over a file that is no text, neither a run that a commit carries out has a preview, nor one that
a commit refuses. -/
theorem commit_without_preview :
    (¬ ∀ (g : Generator) (schematic : String) (raw : RawOptions) (s : Staged) (d : Disk),
      g.stage schematic raw = .ok s → d.mishap = none → (∀ name, d.admits name) →
        (∃ report, (d.attempt (g.commit s)).1 = .ok report) →
          ∃ p, (d.attempt (g.preview s)).1 = .ok p) ∧
    ¬ ∀ (g : Generator) (schematic : String) (raw : RawOptions) (s : Staged) (d : Disk),
      g.stage schematic raw = .ok s → d.mishap = none → (∀ name, d.admits name) →
        (∃ paths, (d.attempt (g.commit s)).1 = .error (.destinationConflict paths)) →
          ∃ p, (d.attempt (g.preview s)).1 = .ok p := by
  constructor
  · intro claim
    obtain ⟨s, hs, hforce, hfiles, hfailures, hpreview⟩ := binaryDisk_unavailable true
    have carried : (binaryDisk.attempt ((pairGenerator ".").commit s)).1 =
        .ok ⟨["a/x"], ["b"]⟩ := by
      rw [commit_eq_run hfailures, hforce, hfiles]
      rfl
    obtain ⟨p, hp⟩ := claim _ _ _ s binaryDisk hs rfl (fun _ => rfl) ⟨_, carried⟩
    rw [hpreview] at hp
    cases hp
  · intro claim
    obtain ⟨s, hs, hforce, hfiles, hfailures, hpreview⟩ := binaryDisk_unavailable false
    have refused : (binaryDisk.attempt ((pairGenerator ".").commit s)).1 =
        .error (.destinationConflict ["b"]) := by
      rw [commit_eq_run hfailures, hforce, hfiles]
      rfl
    obtain ⟨p, hp⟩ := claim _ _ _ s binaryDisk hs rfl (fun _ => rfl) ⟨_, refused⟩
    rw [hpreview] at hp
    cases hp

end Stencil
