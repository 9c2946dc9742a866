import Stencil.Proofs.Commit.Outcome
import Stencil.Proofs.Commit.Progress
import Stencil.Proofs.Preview.Plan

/-!
# Clean previews

A preview that tells of no conflicts and no failures does not promise that a commit succeeds. It
looks below the root only, so it misses a file in the place of the root or above it, and it looks at
the disk as it is, so it misses staged paths that lie below one another, and what comes to light
when the directories of a root with `..` are made.

* `clean_preview_commits_iff`: a commit after a clean preview succeeds exactly if nothing is in the
  way of the staged files.
* `clean_preview_without_commit`: a preview is clean though a file is in the place of the root.
-/
namespace Stencil
open Disk

namespace Commit
variable {d : Disk} {root : Route} {force : Bool} {path : String}

/-! ## Roots without `..` -/

/-- Without conflicts no file lies between the root and a staged path. -/
theorem no_file_between (hroot : .up ∉ root.steps) (valid : Layout.isValidPath path.toList)
    (allows : d.Allows (root.join path)) (hb : ¬ Blocks d root force path) {front : List String}
    (hp : front <+: Text.split '/' path) (hne : front ≠ []) (hne' : front ≠ Text.split '/' path)
    (content : ByteArray) : d.tree.at? (d.goal root ++ front) ≠ some (.file content) := by
  intro hs
  let place : Route :=
    { absolute := root.absolute, steps := root.steps ++ front.map .down, directoryOnly := false }
  have hmem : place ∈ between root path := by
    refine List.mem_map.2 ⟨_, List.mem_map.2 ⟨front.map .down, ?_, rfl⟩, ?_⟩
    · rw [Route.mem_properFronts, Route.parse_of_isValidPath valid]
      refine ⟨hp.map _, by simpa using hne, fun e => hne' ?_⟩
      exact List.map_injective_iff.2 (fun _ _ => Step.down.inj) e
    · simp [Route.parse_of_isValidPath valid, Route.append, place]
  have hgoal : d.goal place = d.goal root ++ front := by
    rw [goal, walk_append, walk_down]
    rfl
  have hallows : d.Allows place := by
    intro name hname
    refine allows name ?_
    rw [join_of_isValidPath valid]
    exact (List.prefix_append_right_inj _).2 (hp.map _) |>.subset hname
  have hk : d.kind? place = some .file := by
    rw [kind?_of_no_up (by simp [place, hroot]) hallows rfl, hgoal, hs]
    rfl
  refine hb ?_
  have : (between root path).any (fun r => d.kind? r == some .file) :=
    List.any_eq_true.2 ⟨place, hmem, by simp [hk]⟩
  simp [Blocks, this]

/-- Below a root without `..` and without conflicts, only these can be in the way of staged files: a
file at the root or above it, a name that is not admitted, and a staged path below another one. -/
theorem unobstructed_iff_of_no_up (hroot : .up ∉ root.steps) {s : Staging} (valid : s.Valid)
    (hne : s.paths ≠ []) (hc : s.paths.filter (Blocks d root force) = []) :
    Unobstructed d root s.paths ↔ d.tree.isDirectory (d.start root) ∧
      (∀ l, d.start root <+: l → l <+: d.goal root → ∀ content,
        d.tree.at? l ≠ some (.file content)) ∧
      (∀ path ∈ s.paths, d.Allows (root.join path)) ∧
      ∀ path ∈ s.paths, ∀ path' ∈ s.paths,
        Text.split '/' path <+: Text.split '/' path' → path = path' := by
  have trail (path) (hp : path ∈ s.paths) (l) : l ∈ d.trail (root.join path) ↔ d.start root <+: l ∧
      l <+: d.goal root ++ Text.split '/' path ∧ l ≠ d.goal root ++ Text.split '/' path := by
    rw [mem_trail_of_no_up d (not_mem_join_of_no_up hroot (valid path hp)),
      start_join d (valid path hp), goal_join d (valid path hp)]
  have below : d.start root <+: d.goal root := by
    obtain ⟨names, hn⟩ := exists_names hroot
    rw [goal, hn, walk_down]
    exact List.prefix_append _ _
  constructor
  · intro free
    obtain ⟨first, hfirst⟩ := List.exists_mem_of_ne_nil _ hne
    refine ⟨?_, fun l hs hg => ?_, fun path hp => (free.clear path hp).allows,
      fun path hp path' hp' hle => ?_⟩
    · rw [← start_join d (valid first hfirst)]
      exact (free.clear first hfirst).start
    · refine (free.clear first hfirst).trail l ((trail first hfirst l).2 ⟨hs, ?_, ?_⟩)
      · exact hg.trans (List.prefix_append _ _)
      · rintro rfl
        have := hg.length_le
        rw [List.length_append] at this
        exact Route.split_ne_nil first (List.length_eq_zero_iff.1 (by omega))
    · by_contra hdiff
      refine free.apart path hp path' hp' ((trail path' hp' _).2 ?_)
      rw [goal_join d (valid path hp)]
      refine ⟨below.trans (List.prefix_append _ _), (List.prefix_append_right_inj _).2 hle, ?_⟩
      exact fun e => hdiff (Route.split_injective (List.append_cancel_left e))
  · rintro ⟨start, above, allows, apart⟩
    have free (path) (hp : path ∈ s.paths) : ¬ Blocks d root force path :=
      List.filter_eq_nil_iff.1 hc path hp
    refine ⟨fun path hp => ⟨?_, fun l hl content e => ?_, fun hd => ?_, allows path hp⟩,
      fun path hp path' hp' hmem => ?_⟩
    · rw [start_join d (valid path hp)]
      exact start
    · obtain ⟨hs, hle, hdiff⟩ := (trail path hp l).1 hl
      rcases List.prefix_or_prefix_of_prefix hle (List.prefix_append _ _) with hg | ⟨front, rfl⟩
      · exact above l hs hg content e
      · by_cases hf : front = []
        · exact above _ hs (by simp [hf]) content e
        · exact no_file_between hroot (valid path hp) (allows path hp) (free path hp)
            ((List.prefix_append_right_inj _).1 hle) hf (fun e => hdiff (by rw [e])) content e
    · have hk : d.kind? (root.join path) = some .directory := by
        rw [kind?_of_no_up (not_mem_join_of_no_up hroot (valid path hp)) (allows path hp)
          (by rw [join_of_isValidPath (valid path hp)]), (FileTree.isDirectory_iff _ _).1 hd]
        rfl
      exact free path hp (by simp [Blocks, hk])
    · obtain ⟨-, hle, hdiff⟩ := (trail path' hp' _).1 hmem
      rw [goal_join d (valid path hp)] at hle hdiff
      have same := apart path hp path' hp' ((List.prefix_append_right_inj _).1 hle)
      exact hdiff (by rw [same])

end Commit

/-- **After a clean preview,** and without mishaps, a commit succeeds exactly if nothing is in the
way of the staged files: neither the disk nor another staged path. -/
theorem clean_preview_commits_iff {g : Generator} {schematic : String} {raw : RawOptions}
    {s : Staged} (hs : g.stage schematic raw = .ok s) {d d' : Disk} (quiet : d.mishap = none)
    {p : Preview} (h : d.attempt (g.preview s) = (.ok p, d')) (hc : p.conflicts = [])
    (hf : p.failures = []) : (∃ report, (d.attempt (g.commit s)).1 = .ok report) ↔
      Commit.Unobstructed d g.root s.files.paths := by
  obtain ⟨⟨-, -, hfailures, hconflicts⟩, -⟩ := preview_ok h
  rw [commit_eq_run (hfailures ▸ hf), Commit.run_succeeds_iff (Generator.stage_valid hs) quiet]
  exact and_iff_right (hconflicts ▸ hc)

/-- A disk with nothing but a file `f`. -/
def fileDisk : Disk :=
  { tree := FileTree.empty.put ["f"] (.file "old".toUTF8), here := [], admits := fun _ => true
    mishap := none }

theorem exists_clean_preview {g : Generator} {s : Staged} {d : Disk}
    (told : (d.attempt (g.preview s)).1.map (fun p => (p.conflicts, p.failures)) = .ok ([], [])) :
    ∃ p d', d.attempt (g.preview s) = (.ok p, d') ∧ p.conflicts = [] ∧ p.failures = [] := by
  obtain ⟨p, hp, h⟩ := map_eq_ok.1 told
  rw [Prod.mk.injEq] at h
  exact ⟨p, _, Prod.ext hp rfl, h.1, h.2⟩

/-- Next to the file, nothing is in the way of two files. -/
theorem fileDisk_unobstructed : ∃ s, (pairGenerator ".").stage "pair" forcedOptions = .ok s ∧
    s.files = .twoFiles ∧ Commit.Unobstructed fileDisk (pairGenerator ".").root s.files.paths := by
  obtain ⟨s, hs, hforce, hfiles, hfailures⟩ := pairGenerator_stage "."
  obtain ⟨p, d', hp, hc, hf⟩ : ∃ p d', fileDisk.attempt ((pairGenerator ".").preview s) =
      (.ok p, d') ∧ p.conflicts = [] ∧ p.failures = [] := by
    refine exists_clean_preview ?_
    simp only [Generator.preview, hforce, hfiles, hfailures]
    rfl
  have done : (fileDisk.attempt ((pairGenerator ".").commit s)).1 = .ok ⟨["a/x", "b"], []⟩ := by
    rw [commit_eq_run hfailures, hforce, hfiles]
    rfl
  exact ⟨s, hs, hfiles, (clean_preview_commits_iff hs rfl hp hc hf).1 ⟨_, done⟩⟩

/-- With the file in the place of the root, a preview is clean, but a commit fails. -/
theorem clean_preview_without_commit :
    ¬ ∀ (g : Generator) (schematic : String) (raw : RawOptions) (s : Staged) (d d' : Disk)
      (p : Preview), g.stage schematic raw = .ok s → d.mishap = none →
        (∀ name, d.admits name) → d.attempt (g.preview s) = (.ok p, d') → p.conflicts = [] →
          p.failures = [] → ∃ report, (d.attempt (g.commit s)).1 = .ok report := by
  intro claim
  obtain ⟨s, hs, hforce, hfiles, hfailures⟩ := pairGenerator_stage "f"
  obtain ⟨p, d', hp, hc, hf⟩ : ∃ p d', fileDisk.attempt ((pairGenerator "f").preview s) =
      (.ok p, d') ∧ p.conflicts = [] ∧ p.failures = [] := by
    refine exists_clean_preview ?_
    simp only [Generator.preview, hforce, hfiles, hfailures]
    rfl
  have failed : (fileDisk.attempt ((pairGenerator "f").commit s)).1 =
      .error (.io .notADirectory) := by
    rw [commit_eq_run hfailures, hforce, hfiles]
    rfl
  obtain ⟨report, hok⟩ := claim _ _ _ s fileDisk d' p hs rfl (fun _ => rfl) hp hc hf
  rw [failed] at hok
  cases hok

end Stencil
