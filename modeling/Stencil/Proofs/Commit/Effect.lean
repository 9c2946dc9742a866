import Stencil.Proofs.Commit.Steps
import Stencil.Proofs.Staging.Place

/-!
# What writing does to a disk

A write that succeeds found nothing in its way (`Clear`), and changed the disk by the file and the
directories on the way to it (`Effect`). The files of a commit are written one after another: each
one meets the disk that the ones before left, yet it finds there what was there at first, as no file
is in the way of another one.

Results:
* `Writes.effect`: what one write found and did.
* `Effect.clear_iff`: when nothing is in the way of a file after another one was written.
* `WritesAll.effect`: what all writes found and did, told by the disk before the first.
* `run_ok_effect`: the same of a commit.
-/
namespace Stencil
open Disk

namespace Commit

/-! ## Making directories -/

namespace Creates
variable {d d' : Disk} {j j' : Journal} {dirs : List Route} {answer : Except Fault Unit}

theorem alike (h : Creates d j dirs d' j' answer) : Alike d d' := by
  induction h with
  | done d j => exact .refl d
  | made can alike tree more ih => exact alike.trans ih
  | present found alike tree more ih => exact alike.trans ih
  | failed alike tree => exact alike

/-- Directories are made where nothing was, and nowhere else is anything changed. -/
theorem at?_cases (h : Creates d j dirs d' j' answer) (l : Location) :
    d'.tree.at? l = d.tree.at? l ∨
      (d.tree.at? l = none ∧ d'.tree.at? l = some .directory ∧ ∃ a ∈ dirs, l = d.goal a) := by
  induction h with
  | done d j => exact .inl rfl
  | @made d d₁ d₂ j j₂ dir rest answer can alike tree more ih =>
    have hacc := can.accepts
    by_cases hl : l = d.goal dir
    · subst hl
      have made : d₁.tree.at? (d.goal dir) = some .directory := by
        rw [tree, FileTree.at?_put_self hacc]
      refine .inr ⟨can.2.1, ?_, dir, List.mem_cons_self, rfl⟩
      rcases ih with e | ⟨hn, -⟩
      · rw [e, made]
      · rw [made] at hn
        cases hn
    · have same : d₁.tree.at? l = d.tree.at? l := by
        rw [tree, FileTree.at?_put_of_ne hacc hl]
      rw [same] at ih
      refine ih.imp_right fun ⟨hn, hd, a, ha, e⟩ => ⟨hn, hd, a, List.mem_cons_of_mem _ ha, ?_⟩
      rw [e, alike.goal_eq]
  | present found alike tree more ih =>
    rw [tree] at ih
    refine ih.imp_right fun ⟨hn, hd, a, ha, e⟩ => ⟨hn, hd, a, List.mem_cons_of_mem _ ha, ?_⟩
    rw [e, alike.goal_eq]
  | failed alike tree => exact .inl (by rw [tree])

theorem isDirectory_of_isDirectory (h : Creates d j dirs d' j' answer) {l : Location}
    (hl : d.tree.isDirectory l) : d'.tree.isDirectory l := by
  rw [FileTree.isDirectory_iff] at hl ⊢
  rcases h.at?_cases l with e | ⟨-, e, -⟩
  · rw [e, hl]
  · exact e

/-- Nothing can be made before the place where the route begins is a directory. -/
theorem isDirectory_start {a : Route} (h : Creates d j (a :: dirs) d' j' (.ok ()))
    (ha : a.steps ≠ []) : d.tree.isDirectory (d.start a) := by
  have reached : d.Reaches a := by
    cases h with
    | made can => exact can.1
    | present found => exact ((find_eq_ok_iff _ _ _).1 found).1
  exact reached.1 _ (start_mem_trail d ha)

end Creates

/-! ## Writing files -/

/-- Whether nothing on a disk is in the way of a file at the end of a route. -/
structure Clear (d : Disk) (r : Route) : Prop where
  start : d.tree.isDirectory (d.start r)
  trail : ∀ l ∈ d.trail r, ∀ content, d.tree.at? l ≠ some (.file content)
  goal : ¬ d.tree.isDirectory (d.goal r)
  allows : d.Allows r

/-- Whether a disk is another one with some files written: they are there, so are the directories
on the way to them, and everything else is as it was. -/
structure Effect (d : Disk) (files : List (Route × ByteArray)) (d' : Disk) : Prop where
  alike : Alike d d'
  written : ∀ x ∈ files, d'.tree.at? (d.goal x.1) = some (.file x.2)
  directories : ∀ x ∈ files, ∀ l ∈ d.trail x.1, d'.tree.isDirectory l
  others : ∀ l, (∀ x ∈ files, l ≠ d.goal x.1 ∧ l ∉ d.trail x.1) → d'.tree.at? l = d.tree.at? l

theorem mem_ancestors_of_mem_unmade {d : Disk} {r a : Route} (h : a ∈ unmade d r) :
    a ∈ r.ancestors := by
  have := (List.takeWhile_prefix _).subset (List.mem_reverse.1 h)
  exact List.mem_reverse.1 this

/-- What a write that succeeds did: directories, then the file. -/
theorem Writes.of_ok {d d' : Disk} {r : Route} {content : ByteArray} {j j' : Journal} {w : Written}
    (h : Writes d r content j d' j' (.ok w)) :
    ∃ d₁ j₁, Creates d j (unmade d r) d₁ j₁ (.ok ()) ∧ d₁.target r = .ok (d₁.goal r) ∧
      FileChange d₁ r d' ∧ d'.tree.at? (d₁.goal r) = some (.file content) ∧
        (w = .created ↔ d₁.tree.at? (d₁.goal r) = none) := by
  cases h with
  | @replaced d₁ _ j₁ old _ dirs found change done =>
    obtain ⟨rfl, written⟩ := done w rfl
    refine ⟨d₁, j₁, dirs, target_of_find_file found, change, written, ?_⟩
    simp [((find_eq_ok_iff _ _ _).1 found).2.1]
  | @created d₁ _ j₁ _ dirs absent change done =>
    obtain ⟨rfl, target, written⟩ := done w rfl
    refine ⟨d₁, j₁, dirs, target, change, written, ?_⟩
    simp [at?_of_kind?_eq_none absent target]

/-- A write that succeeds found nothing in its way, and did what it should. -/
theorem Writes.effect {d d' : Disk} {r : Route} {content : ByteArray} {j j' : Journal} {w : Written}
    (h : Writes d r content j d' j' (.ok w)) (hr : r.steps ≠ []) :
    Clear d r ∧ Effect d [(r, content)] d' ∧ (w = .created ↔ d.tree.at? (d.goal r) = none) := by
  obtain ⟨d₁, j₁, dirs, target, change, written, hw⟩ := h.of_ok
  have ha := dirs.alike
  obtain ⟨reached, -, -, hno, -⟩ := (target_eq_ok_iff _ _ _).1 target
  rw [ha.goal_eq] at hno written hw
  have trail (l : Location) (hl : l ∈ d.trail r) : d₁.tree.isDirectory l :=
    reached.1 l (by rwa [ha.trail_eq])
  have goal : d₁.tree.at? (d.goal r) = d.tree.at? (d.goal r) := by
    rcases dirs.at?_cases (d.goal r) with e | ⟨-, e, -⟩
    · exact e
    · exact absurd ((FileTree.isDirectory_iff _ _).2 e) hno
  -- the first directory that was made or found shows that the route begins in one
  have start : d.tree.isDirectory (d.start r) := by
    generalize hu : unmade d r = made at dirs
    cases made with
    | nil =>
      cases dirs
      exact trail _ (start_mem_trail d hr)
    | cons a more =>
      have hmem : a ∈ unmade d r := by rw [hu]; exact List.mem_cons_self
      obtain ⟨-, e, hne⟩ := of_mem_ancestors (mem_ancestors_of_mem_unmade hmem) d
      exact e ▸ dirs.isDirectory_start hne
  refine ⟨⟨start, fun l hl content' e => ?_, fun hd => ?_, (ha.allows_iff r).1 reached.2⟩,
    ⟨ha.trans change.alike, ?_, ?_, ?_⟩, ?_⟩
  · rcases dirs.at?_cases l with e' | ⟨e', -⟩
    · exact FileTree.not_isDirectory_of_file (e'.trans e) (trail l hl)
    · rw [e] at e'
      cases e'
  · exact hno (dirs.isDirectory_of_isDirectory hd)
  · simpa using written
  · simpa [change.directories] using trail
  · intro l hl
    obtain ⟨hgoal, htrail⟩ := hl (r, content) List.mem_cons_self
    rw [change.at?_eq (by rwa [ha.goal_eq])]
    rcases dirs.at?_cases l with e | ⟨-, -, a, hmem, rfl⟩
    · exact e
    · exact absurd (of_mem_ancestors (mem_ancestors_of_mem_unmade hmem) d).1 htrail
  · rw [hw, goal]

/-! ## Writing many files -/

/-- Whether nothing is in the way of staged paths: neither the disk nor another staged path. -/
structure Unobstructed (d : Disk) (root : Route) (paths : List String) : Prop where
  clear : ∀ path ∈ paths, Clear d (root.join path)
  apart : ∀ path ∈ paths, ∀ path' ∈ paths,
    d.goal (root.join path) ∉ d.trail (root.join path')

namespace Effect
variable {d d₁ d₂ : Disk} {x y : Route} {content : ByteArray} {rest : List (Route × ByteArray)}

theorem goal_not_mem_trail (h : Effect d [(x, content)] d₁) : d.goal x ∉ d.trail x := by
  intro hmem
  exact FileTree.not_isDirectory_of_file (h.written _ List.mem_cons_self)
    (h.directories _ List.mem_cons_self _ hmem)

/-- After a file was written, nothing is in the way of another one exactly if nothing was before,
and neither of the two lies on the way to the other. -/
theorem clear_iff (h : Effect d [(x, content)] d₁) (hx : Clear d x) (hs : d.start y = d.start x)
    (hne : d.goal y ≠ d.goal x) :
    Clear d₁ y ↔ Clear d y ∧ d.goal x ∉ d.trail y ∧ d.goal y ∉ d.trail x := by
  have file : d₁.tree.at? (d.goal x) = some (.file content) := h.written _ List.mem_cons_self
  have dirs (l : Location) (hl : l ∈ d.trail x) : d₁.tree.isDirectory l :=
    h.directories _ List.mem_cons_self l hl
  have others (l : Location) (hg : l ≠ d.goal x) (ht : l ∉ d.trail x) :
      d₁.tree.at? l = d.tree.at? l := h.others l (by simpa using ⟨hg, ht⟩)
  constructor
  · intro hy
    have onward : d.goal x ∉ d.trail y := fun hmem =>
      hy.trail _ (by rwa [h.alike.trail_eq]) content file
    have back : d.goal y ∉ d.trail x := fun hmem =>
      hy.goal (by rw [h.alike.goal_eq]; exact dirs _ hmem)
    refine ⟨⟨hs ▸ hx.start, fun l hl content' e => ?_, fun hd => hy.goal ?_, ?_⟩, onward, back⟩
    · have hg : l ≠ d.goal x := fun e' => onward (e' ▸ hl)
      have ht : l ∉ d.trail x := fun hmem => hx.trail l hmem content' e
      exact hy.trail l (by rwa [h.alike.trail_eq]) content' (by rw [others l hg ht, e])
    · rw [FileTree.isDirectory_iff] at hd ⊢
      rw [h.alike.goal_eq, others _ hne back, hd]
    · exact (h.alike.allows_iff y).1 hy.allows
  · rintro ⟨hy, onward, back⟩
    refine ⟨?_, fun l hl content' e => ?_, fun hd => hy.goal ?_, (h.alike.allows_iff y).2 hy.allows⟩
    · rw [h.alike.start_eq]
      by_cases hmem : d.start y ∈ d.trail x
      · exact dirs _ hmem
      · have hg : d.start y ≠ d.goal x := fun e => hx.goal (e ▸ hy.start)
        rw [FileTree.isDirectory_iff, others _ hg hmem]
        exact (FileTree.isDirectory_iff _ _).1 hy.start
    · rw [h.alike.trail_eq] at hl
      by_cases hmem : l ∈ d.trail x
      · exact FileTree.not_isDirectory_of_file e (dirs l hmem)
      · have hg : l ≠ d.goal x := fun e' => onward (e' ▸ hl)
        rw [others l hg hmem] at e
        exact hy.trail l hl content' e
    · rw [h.alike.goal_eq] at hd
      rw [FileTree.isDirectory_iff] at hd ⊢
      rw [← others _ hne back, hd]

/-- A file that is not in the way of others stays as it was written. -/
theorem cons (h : Effect d [(x, content)] d₁) (more : Effect d₁ rest d₂)
    (apart : ∀ y ∈ rest, d.goal y.1 ≠ d.goal x ∧ d.goal x ∉ d.trail y.1 ∧ d.goal y.1 ∉ d.trail x) :
    Effect d ((x, content) :: rest) d₂ := by
  have written := more.written
  have directories := more.directories
  have others := more.others
  simp only [h.alike.goal_eq, h.alike.trail_eq] at written directories others
  refine ⟨h.alike.trans more.alike, ?_, ?_, fun l hl => ?_⟩
  · intro y hy
    rcases List.mem_cons.1 hy with rfl | hy
    · rw [others _ fun y hy => ⟨(apart y hy).1.symm, (apart y hy).2.1⟩]
      exact h.written _ List.mem_cons_self
    · exact written y hy
  · intro y hy l hl
    rcases List.mem_cons.1 hy with rfl | hy
    · by_cases on : ∃ z ∈ rest, l ∈ d.trail z.1
      · obtain ⟨z, hz, hmem⟩ := on
        exact directories z hz l hmem
      · rw [FileTree.isDirectory_iff, others l fun z hz => ⟨?_, fun hmem => on ⟨z, hz, hmem⟩⟩]
        · exact (FileTree.isDirectory_iff _ _).1 (h.directories _ List.mem_cons_self l hl)
        · rintro rfl
          exact (apart z hz).2.2 hl
    · exact directories y hy l hl
  · rw [others l fun y hy => hl y (List.mem_cons_of_mem _ hy)]
    exact h.others l (by simpa using hl _ List.mem_cons_self)

end Effect

/-- The files of staged entries. -/
def targets (root : Route) (entries : List (String × String)) : List (Route × ByteArray) :=
  entries.map fun e => (root.join e.1, e.2.toUTF8)

/-- What a commit reports of paths: whether something was at their places before. -/
def reportOf (d : Disk) (root : Route) (paths : List String) : CommitReport :=
  { created := paths.filter fun path => (d.tree.at? (d.goal (root.join path))).isNone
    overwritten := paths.filter fun path => (d.tree.at? (d.goal (root.join path))).isSome }

theorem reportOf_cons (d : Disk) (root : Route) (path : String) (paths : List String) {w : Written}
    (h : w = .created ↔ d.tree.at? (d.goal (root.join path)) = none) :
    reportOf d root (path :: paths) = addTo (reportOf d root paths) path w := by
  cases ha : d.tree.at? (d.goal (root.join path)) <;> cases w <;>
    simp_all [reportOf, addTo]

theorem reportOf_congr {d d' : Disk} {root : Route} {paths : List String}
    (h : ∀ path ∈ paths,
      d'.tree.at? (d'.goal (root.join path)) = d.tree.at? (d.goal (root.join path))) :
    reportOf d' root paths = reportOf d root paths := by
  rw [reportOf, reportOf]
  congr 1
  · exact List.filter_congr fun path hp => by rw [h path hp]
  · exact List.filter_congr fun path hp => by rw [h path hp]

/-- Nothing is in the way of staged files exactly if nothing is in the way of the first one, and
nothing is in the way of the others once that is written. -/
theorem Effect.unobstructed_cons_iff {d d₁ : Disk} {root : Route} {path : String}
    {content : ByteArray} {paths : List String} (h : Effect d [(root.join path, content)] d₁)
    (hc : Clear d (root.join path)) (valid : ∀ p ∈ path :: paths, Layout.isValidPath p.toList)
    (distinct : (path :: paths).Nodup) :
    Unobstructed d root (path :: paths) ↔ Unobstructed d₁ root paths := by
  obtain ⟨hpath, hpaths⟩ := List.forall_mem_cons.1 valid
  have clear_iff (p) (hp : p ∈ paths) := h.clear_iff hc
    ((start_join d (hpaths p hp)).trans (start_join d hpath).symm) fun e =>
      (List.nodup_cons.1 distinct).1 (goal_join_inj d (hpaths p hp) hpath e ▸ hp)
  constructor
  · rintro ⟨clear, apart⟩
    simp only [List.forall_mem_cons] at clear apart
    refine ⟨fun p hp => ?_, fun p hp p' hp' => ?_⟩
    · exact (clear_iff p hp).2 ⟨clear.2 p hp, apart.1.2 p hp, (apart.2 p hp).1⟩
    · rw [h.alike.goal_eq, h.alike.trail_eq]
      exact (apart.2 p hp).2 p' hp'
  · rintro ⟨clear, apart⟩
    have before (p) (hp : p ∈ paths) := (clear_iff p hp).1 (clear p hp)
    refine ⟨List.forall_mem_cons.2 ⟨hc, fun p hp => (before p hp).1⟩, ?_⟩
    simp only [List.forall_mem_cons]
    refine ⟨⟨h.goal_not_mem_trail, fun p hp => (before p hp).2.1⟩, fun p hp =>
      ⟨(before p hp).2.2, fun p' hp' => ?_⟩⟩
    have := apart p hp p' hp'
    rwa [h.alike.goal_eq, h.alike.trail_eq] at this

/-- Writes that all succeed found nothing in their way at first, and did what they should. -/
theorem WritesAll.effect {root : Route} {d d' : Disk} {j j' : Journal}
    {entries : List (String × String)} {answer : Except Fault CommitReport} {report : CommitReport}
    (hw : WritesAll root d j entries d' j' answer) (hok : answer = .ok report)
    (valid : ∀ p ∈ entries.map (·.1), Layout.isValidPath p.toList)
    (distinct : (entries.map (·.1)).Nodup) :
    Unobstructed d root (entries.map (·.1)) ∧ Effect d (targets root entries) d' ∧
      report = reportOf d root (entries.map (·.1)) := by
  induction hw generalizing report with
  | done d j =>
    cases hok
    exact ⟨⟨by simp, by simp⟩, ⟨.refl d, by simp [targets], by simp [targets], fun _ _ => rfl⟩, rfl⟩
  | stopped => cases hok
  | @further d d₁ d₂ j j₁ j₂ path content rest w answer first more ih =>
    cases answer with
    | error fault => cases hok
    | ok report' =>
      cases hok
      rw [List.map_cons] at valid distinct ⊢
      obtain ⟨hpath, hrest⟩ := List.forall_mem_cons.1 valid
      obtain ⟨fresh, hnodup⟩ := List.nodup_cons.1 distinct
      obtain ⟨clear, effect, hw⟩ := first.effect (steps_join_ne_nil hpath)
      -- this speaks of the disk after the first write; the rest brings it back to the one before
      obtain ⟨after, onward, rfl⟩ := ih rfl hrest hnodup
      have free := (effect.unobstructed_cons_iff clear valid distinct).2 after
      have differ (p) (hp : p ∈ rest.map (·.1)) :
          d.goal (root.join p) ≠ d.goal (root.join path) := fun e =>
        fresh (goal_join_inj d (hrest p hp) hpath e ▸ hp)
      have aside (p) (hp : p ∈ rest.map (·.1)) :
          d.goal (root.join p) ∉ d.trail (root.join path) :=
        free.apart p (List.mem_cons_of_mem _ hp) path List.mem_cons_self
      refine ⟨free, effect.cons onward ?_, ?_⟩
      · simp only [List.forall_mem_map]
        intro e he
        have hp : e.1 ∈ rest.map (·.1) := List.mem_map_of_mem he
        exact ⟨differ _ hp, free.apart path List.mem_cons_self _ (List.mem_cons_of_mem _ hp),
          aside _ hp⟩
      · have same : ∀ p ∈ rest.map (·.1),
            d₁.tree.at? (d₁.goal (root.join p)) = d.tree.at? (d.goal (root.join p)) := by
          intro p hp
          rw [effect.alike.goal_eq]
          exact effect.others _ (by simpa using ⟨differ p hp, aside p hp⟩)
        rw [reportOf_cons d root path _ hw, reportOf_congr same]

/-! ## Whole commits -/

theorem reportOf_disjoint (d : Disk) (root : Route) (paths : List String) :
    (reportOf d root paths).created.Disjoint (reportOf d root paths).overwritten := by
  intro path hc ho
  have hn := (List.mem_filter.1 hc).2
  have hs := (List.mem_filter.1 ho).2
  rw [Option.isNone_iff_eq_none] at hn
  rw [hn] at hs
  cases hs

theorem reportOf_perm (d : Disk) (root : Route) (paths : List String) :
    ((reportOf d root paths).created ++ (reportOf d root paths).overwritten).Perm paths := by
  have := List.filter_append_perm (fun path => (d.tree.at? (d.goal (root.join path))).isNone) paths
  simpa [reportOf] using this

/-- A commit that succeeds found no conflicts and nothing else in the way of the staged files; it
wrote them, with the directories on the way, and changed nothing else. -/
theorem run_ok_effect {root : Route} {force : Bool} {s : Staging} (h : s.Valid) {d d' : Disk}
    {report : CommitReport} (hok : d.run (run root force s) = (.ok report, d')) :
    s.paths.filter (Blocks d root force) = [] ∧ Unobstructed d root s.paths ∧
      Effect d (targets root s.entries) d' ∧ report = reportOf d root s.paths := by
  by_cases hc : s.paths.filter (Blocks d root force) = []
  · rw [run_of_no_conflicts hc] at hok
    have hw := writeAll_writesAll root s.entries ⟨[], [], []⟩ d
    generalize d.run (writeAll root ⟨[], [], []⟩ s.entries) = x at hok hw
    obtain ⟨⟨j, answer⟩, d₁⟩ := x
    cases answer with
    | error fault => cases hok
    | ok report' =>
      cases hok
      exact ⟨hc, hw.effect rfl h s.paths_nodup⟩
  · rw [run_of_conflicts hc] at hok
    cases hok

end Commit
end Stencil
