import Stencil.Proofs.Commit.Effect
import Stencil.Proofs.Text.ByteOrder

/-!
# What a successful commit does

`Outcome` says what a commit below a root is to do with the staged files, in terms of what the disk
held before and what it holds after. `run_ok_outcome`: a commit that succeeds has done this.
-/
namespace Stencil
open Disk

namespace Commit

/-- What a commit below a root is to do when it succeeds. -/
structure Outcome (d : Disk) (root : Route) (s : Staging) (report : CommitReport) (d' : Disk) :
    Prop where
  /-- Every staged path is a file with the staged content. -/
  written : ∀ path content, s.get? path = some content →
    d'.find (root.join path) = .ok (.file content.toUTF8)
  /-- The other files are the old ones, with their bytes. -/
  files : ∀ l, (∀ path ∈ s.paths, l ≠ d.goal (root.join path)) → ∀ content,
    d'.tree.at? l = some (.file content) ↔ d.tree.at? l = some (.file content)
  /-- The directories are the old ones and those above staged files. -/
  directories : ∀ l, d'.tree.isDirectory l ↔ d.tree.isDirectory l ∨
    ∃ path ∈ s.paths, l <+: d.goal (root.join path) ∧ l ≠ d.goal (root.join path)
  /-- Nothing is missing, and no file became a directory or the other way round. -/
  kept : ∀ l e, d.tree.at? l = some e → ∃ e', d'.tree.at? l = some e' ∧ e'.kind = e.kind
  created : report.created = s.paths.filter fun path => (d.kind? (root.join path)).isNone
  overwritten : report.overwritten =
    s.paths.filter fun path => d.kind? (root.join path) == some .file
  disjoint : report.created.Disjoint report.overwritten
  complete : (report.created ++ report.overwritten).Perm s.paths
  ordered : report.created.Pairwise Text.ByteLT ∧ report.overwritten.Pairwise Text.ByteLT

namespace Effect
variable {d d' : Disk} {root : Route} {s : Staging}

theorem at?_cases (h : Effect d (targets root s.entries) d') (l : Location) :
    (∃ path ∈ s.paths, l = d.goal (root.join path)) ∨
      (∃ path ∈ s.paths, l ∈ d.trail (root.join path)) ∨ d'.tree.at? l = d.tree.at? l := by
  by_cases hg : ∃ path ∈ s.paths, l = d.goal (root.join path)
  · exact .inl hg
  · by_cases ht : ∃ path ∈ s.paths, l ∈ d.trail (root.join path)
    · exact .inr (.inl ht)
    · refine .inr (.inr (h.others l ?_))
      simp only [targets, List.forall_mem_map]
      intro e he
      have hp : e.1 ∈ s.paths := List.mem_map_of_mem he
      exact ⟨fun hl => hg ⟨e.1, hp, hl⟩, fun hl => ht ⟨e.1, hp, hl⟩⟩

theorem at?_goal (h : Effect d (targets root s.entries) d') {path : String} (hp : path ∈ s.paths) :
    ∃ content, d'.tree.at? (d.goal (root.join path)) = some (.file content) := by
  obtain ⟨e, he, rfl⟩ := List.mem_map.1 hp
  exact ⟨_, h.written (root.join e.1, e.2.toUTF8) (List.mem_map.2 ⟨e, he, rfl⟩)⟩

theorem isDirectory_trail (h : Effect d (targets root s.entries) d') {path : String}
    (hp : path ∈ s.paths) {l : Location} (hl : l ∈ d.trail (root.join path)) :
    d'.tree.isDirectory l := by
  obtain ⟨e, he, rfl⟩ := List.mem_map.1 hp
  exact h.directories (root.join e.1, e.2.toUTF8) (List.mem_map.2 ⟨e, he, rfl⟩) l hl

section
variable (h : Effect d (targets root s.entries) d') (free : Unobstructed d root s.paths)
include h free

theorem find_written (valid : s.Valid) {path content : String} (hget : s.get? path = some content) :
    d'.find (root.join path) = .ok (.file content.toUTF8) := by
  have hmem : (path, content) ∈ s.entries := (s.mem_entries path content).2 hget
  have hp : path ∈ s.paths := List.mem_map_of_mem hmem
  refine (find_eq_ok_iff _ _ _).2 ⟨⟨fun l hl => ?_, ?_⟩, ?_, ?_⟩
  · rw [h.alike.trail_eq] at hl
    exact h.isDirectory_trail hp hl
  · exact (h.alike.allows_iff _).2 (free.clear path hp).allows
  · rw [h.alike.goal_eq]
    exact h.written (root.join path, content.toUTF8) (List.mem_map.2 ⟨_, hmem, rfl⟩)
  · simp [join_of_isValidPath (valid path hp)]

theorem file_iff {l : Location} (hl : ∀ path ∈ s.paths, l ≠ d.goal (root.join path))
    (content : ByteArray) :
    d'.tree.at? l = some (.file content) ↔ d.tree.at? l = some (.file content) := by
  rcases h.at?_cases l with ⟨path, hp, e⟩ | ⟨path, hp, hmem⟩ | e
  · exact absurd e (hl path hp)
  · refine iff_of_false (fun e => ?_) ((free.clear path hp).trail l hmem content)
    exact FileTree.not_isDirectory_of_file e (h.isDirectory_trail hp hmem)
  · rw [e]

theorem isDirectory_iff (l : Location) : d'.tree.isDirectory l ↔
    d.tree.isDirectory l ∨ ∃ path ∈ s.paths, l ∈ d.trail (root.join path) := by
  rcases h.at?_cases l with ⟨path, hp, rfl⟩ | ⟨path, hp, hmem⟩ | e
  · obtain ⟨content, hf⟩ := h.at?_goal hp
    refine iff_of_false (FileTree.not_isDirectory_of_file hf) ?_
    rintro (hd | ⟨path', hp', hmem⟩)
    · exact (free.clear path hp).goal hd
    · exact free.apart path hp path' hp' hmem
  · exact iff_of_true (h.isDirectory_trail hp hmem) (.inr ⟨path, hp, hmem⟩)
  · constructor
    · intro hd
      rw [FileTree.isDirectory, e] at hd
      exact .inl hd
    · rintro (hd | ⟨path, hp, hmem⟩)
      · rwa [FileTree.isDirectory, e]
      · exact h.isDirectory_trail hp hmem

/-- A successful write takes nothing away, and nothing becomes another kind of thing. -/
theorem kept {l : Location} {e : Entry} (hs : d.tree.at? l = some e) :
    ∃ e', d'.tree.at? l = some e' ∧ e'.kind = e.kind := by
  cases e with
  | directory =>
    have hd := (h.isDirectory_iff free l).2 (.inl ((FileTree.isDirectory_iff _ _).2 hs))
    exact ⟨.directory, (FileTree.isDirectory_iff _ _).1 hd, rfl⟩
  | file content =>
    by_cases hg : ∃ path ∈ s.paths, l = d.goal (root.join path)
    · obtain ⟨path, hp, rfl⟩ := hg
      obtain ⟨content', hf⟩ := h.at?_goal hp
      exact ⟨.file content', hf, rfl⟩
    · have hl : ∀ path ∈ s.paths, l ≠ d.goal (root.join path) := fun path hp e => hg ⟨path, hp, e⟩
      exact ⟨.file content, (h.file_iff free hl content).2 hs, rfl⟩

end
end Effect

/-- Below a root without `..`, the places on the way to staged files are those above them. -/
theorem mem_trails_iff {d : Disk} {root : Route} {s : Staging} (hroot : .up ∉ root.steps)
    (valid : s.Valid) (free : Unobstructed d root s.paths) (l : Location) :
    (d.tree.isDirectory l ∨ ∃ path ∈ s.paths, l ∈ d.trail (root.join path)) ↔
      d.tree.isDirectory l ∨
        ∃ path ∈ s.paths, l <+: d.goal (root.join path) ∧ l ≠ d.goal (root.join path) := by
  constructor
  · refine Or.imp_right fun ⟨path, hp, hmem⟩ => ⟨path, hp, ?_⟩
    exact ((mem_trail_of_no_up d (not_mem_join_of_no_up hroot (valid path hp)) l).1 hmem).2
  · rintro (hd | ⟨path, hp, above, hne⟩)
    · exact .inl hd
    · have hup := not_mem_join_of_no_up hroot (valid path hp)
      have hstart : d.start (root.join path) <+: d.goal (root.join path) := by
        have hne : (root.join path).steps ≠ [] := steps_join_ne_nil (valid path hp)
        exact ((mem_trail_of_no_up d hup _).1 (start_mem_trail d hne)).2.1
      rcases List.prefix_or_prefix_of_prefix hstart above with hle | hle
      · exact .inr ⟨path, hp, (mem_trail_of_no_up d hup l).2 ⟨hle, above, hne⟩⟩
      · left
        by_cases e : l = d.start (root.join path)
        · exact e ▸ (free.clear path hp).start
        · refine FileTree.isDirectory_above ?_ hle e
          rw [(FileTree.isDirectory_iff _ _).1 (free.clear path hp).start]
          simp

/-- The effect of writing the staged files, in terms of what is found along the routes. -/
theorem outcome_of_effect {root : Route} (hroot : .up ∉ root.steps) {s : Staging} (h : s.Valid)
    {d d' : Disk} (free : Unobstructed d root s.paths)
    (effect : Effect d (targets root s.entries) d') :
    Outcome d root s (reportOf d root s.paths) d' := by
  have kind (path) (hp : path ∈ s.paths) :
      d.kind? (root.join path) = (d.tree.at? (d.goal (root.join path))).map Entry.kind :=
    kind?_of_no_up (not_mem_join_of_no_up hroot (h path hp)) (free.clear path hp).allows
      (by simp [join_of_isValidPath (h path hp)])
  have created : (reportOf d root s.paths).created =
      s.paths.filter fun path => (d.kind? (root.join path)).isNone :=
    List.filter_congr fun path hp => by simp [kind path hp]
  have overwritten : (reportOf d root s.paths).overwritten =
      s.paths.filter fun path => d.kind? (root.join path) == some .file := by
    refine List.filter_congr fun path hp => ?_
    have hno := (free.clear path hp).goal
    rw [FileTree.isDirectory_iff] at hno
    rw [kind path hp]
    cases hs : d.tree.at? (d.goal (root.join path)) with
    | none => rfl
    | some e =>
      cases e with
      | file content => rfl
      | directory => exact absurd hs hno
  have ordered : s.paths.Pairwise Text.ByteLT :=
    s.paths_sorted.imp (Text.byteLT_iff_lt _ _).2
  exact {
    written := fun path content hget => effect.find_written free h hget
    files := fun l hl => effect.file_iff free hl
    directories := fun l => (effect.isDirectory_iff free l).trans (mem_trails_iff hroot h free l)
    kept := fun l e => effect.kept free
    created
    overwritten
    disjoint := reportOf_disjoint d root s.paths
    complete := reportOf_perm d root s.paths
    ordered := ⟨ordered.sublist List.filter_sublist, ordered.sublist List.filter_sublist⟩ }

/-- **A successful commit does exactly what it should.** Below a root without `..`, on any disk. -/
theorem run_ok_outcome {root : Route} (hroot : .up ∉ root.steps) {force : Bool} {s : Staging}
    (h : s.Valid) {d d' : Disk} {report : CommitReport}
    (hok : d.run (run root force s) = (.ok report, d')) : Outcome d root s report d' := by
  obtain ⟨-, free, effect, rfl⟩ := run_ok_effect h hok
  exact outcome_of_effect hroot h free effect

/-- A disk with a file `b` on which no call fails. -/
def soundDisk : Disk :=
  { tree := FileTree.empty.put ["b"] (.file "old".toUTF8), here := [], admits := isCommonName
    mishap := none }

theorem soundDisk_outcome :
    (soundDisk.run (run (Route.parse ".") true .twoFiles)).1 = .ok ⟨["a/x"], ["b"]⟩ ∧
      Outcome soundDisk (Route.parse ".") .twoFiles ⟨["a/x"], ["b"]⟩
        (soundDisk.run (run (Route.parse ".") true .twoFiles)).2 := by
  have done : (soundDisk.run (run (Route.parse ".") true .twoFiles)).1 =
      .ok ⟨["a/x"], ["b"]⟩ := by rfl
  exact ⟨done, run_ok_outcome (by decide) Staging.twoFiles_valid (Prod.ext done rfl)⟩

end Commit
end Stencil
