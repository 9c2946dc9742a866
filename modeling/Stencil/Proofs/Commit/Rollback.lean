import Stencil.Proofs.Commit.Steps
import Stencil.Proofs.Staging.Place

/-!
# A failed commit changes nothing

The disk in the middle of a commit differs from the one before in two ways: there are new
directories, and files are altered. `Made` says which trees arise by the directories of a journal,
`Altered` that a tree is such a tree but for the files of the journal. Undoing restores first the
files and then the directories, so it needs no order among the files, and of the directories only
that each was made where nothing was.

Results:
* `undo_tree`: undoing what a journal holds gives back the tree before.
* `writeAll_undoable`: wherever the writes of a commit stop, the journal can be undone.
* `run_error_tree`: a commit that fails leaves the tree as it was.
-/
namespace Stencil
open Disk

namespace Disk.FileTree
variable {t : FileTree} {l : Location}

/-- Taking away a directory that was just made gives back the tree. -/
theorem erase_put (hn : t.at? l = none) (h : t.Accepts l .directory) :
    (t.put l .directory).erase l = t := by
  have vacant : (t.put l .directory).isVacant l := by
    have hv : t.isVacant l := isVacant_of_not_isDirectory (not_isDirectory_of_none hn)
    rw [isVacant, List.isEmpty_iff, List.eq_nil_iff_forall_not_mem] at hv ⊢
    rintro ⟨r, e⟩ hmem
    obtain ⟨hr, hget⟩ := (mem_below _ l r e).1 hmem
    refine hv (r, e) ((mem_below _ l r e).2 ⟨hr, ?_⟩)
    rwa [put, dif_pos h, SortedMap.get?_insert, if_neg (by simpa using hr)] at hget
  refine ext_at? fun l' => ?_
  rw [at?_erase vacant h.1, at?_put h]
  by_cases e : l = l'
  · rw [if_pos e, ← e, hn]
  · rw [if_neg e, if_neg e]

end Disk.FileTree

namespace Commit

/-! ## New directories -/

/-- The trees that arise from the tree of a disk by making directories; the last one made comes
first in the list. -/
inductive Made (d₀ : Disk) : List Route → FileTree → Prop
  | nil : Made d₀ [] d₀.tree
  | cons {dirs : List Route} {t : FileTree} {r : Route} (before : Made d₀ dirs t)
      (can : Disk.CanCreate { d₀ with tree := t } r) :
      Made d₀ (r :: dirs) (t.put (d₀.goal r) .directory)

theorem removeDirectory_put {d d' : Disk} {r : Route} (h : d.CanCreate r) (ha : Alike d d')
    (ht : d'.tree = d.tree.put (d.goal r) .directory) :
    Alike d (d'.removeDirectory r) ∧ (d'.removeDirectory r).tree = d.tree := by
  have hacc := h.accepts
  have hr : d'.Reaches r := ha.reaches (fun l hl => by
    rw [ht, FileTree.isDirectory_put hacc, hl, Bool.or_true]) h.1
  have hl : d'.directory r = .ok (d.goal r) := by
    refine (directory_eq_ok_iff _ _ _).2 ⟨hr, ?_, (ha.goal_eq r).symm⟩
    rw [ha.goal_eq, ht, FileTree.isDirectory_put hacc]; simp
  simp only [removeDirectory, hl, ht]
  exact ⟨⟨ha.here, ha.admits⟩, FileTree.erase_put h.2.1 hacc⟩

theorem removeDirectories_tree {d₀ d : Disk} {dirs : List Route} {t : FileTree}
    (h : Made d₀ dirs t) (ha : Alike d₀ d) (ht : d.tree = t) :
    (d.run (removeDirectories dirs)).2.tree = d₀.tree := by
  induction h generalizing d with
  | nil => exact ht
  | @cons dirs t r before can ih =>
    have hd : Alike { d₀ with tree := t } d := ⟨ha.here, ha.admits⟩
    obtain ⟨ha', ht'⟩ := removeDirectory_put can hd ht
    rw [removeDirectories, run_bind, run_removeDirectory]
    exact ih ⟨ha'.here, ha'.admits⟩ ht'

/-! ## Altered files -/

/-- Whether the tree of a disk is `s` but for files that are new, or that had the bytes which are
listed with them. -/
structure Altered (s : FileTree) (d : Disk) (created : List Route)
    (overwritten : List (Route × ByteArray)) : Prop where
  directories : ∀ l, d.tree.isDirectory l = s.isDirectory l
  absent : ∀ r ∈ created, ∀ l, d.target r = .ok l → s.at? l = none
  known : ∀ x ∈ overwritten,
    d.target x.1 = .ok (d.goal x.1) ∧ s.at? (d.goal x.1) = some (.file x.2)
  others : ∀ l, d.tree.at? l = s.at? l ∨ (∃ r ∈ created, d.target r = .ok l) ∨
    ∃ x ∈ overwritten, l = d.goal x.1

namespace Altered
variable {s : FileTree} {d d' : Disk} {r : Route} {created : List Route}
  {overwritten : List (Route × ByteArray)}

theorem tree_eq (h : Altered s d [] []) : d.tree = s := by
  refine FileTree.ext_at? fun l => ?_
  rcases h.others l with e | ⟨r, hr, -⟩ | ⟨x, hx, -⟩
  · exact e
  · cases hr
  · cases hx

/-- A change to a file that is entered as new. -/
theorem create (h : Altered s d created overwritten) (hc : FileChange d r d')
    (hs : ∀ l, d.target r = .ok l → s.at? l = none) :
    Altered s d' (r :: created) overwritten := by
  refine ⟨fun l => by rw [hc.directories, h.directories], ?_, ?_, fun l => ?_⟩
  · intro r' hr' l hl
    rw [hc.target_iff] at hl
    rcases List.mem_cons.1 hr' with rfl | hr'
    · exact hs l hl
    · exact h.absent r' hr' l hl
  · intro x hx
    rw [hc.target_iff, hc.alike.goal_eq]
    exact h.known x hx
  · simp only [hc.target_iff, hc.alike.goal_eq, List.mem_cons]
    by_cases hl : d.target r = .ok l
    · exact .inr (.inl ⟨r, .inl rfl, hl⟩)
    · rw [hc.others l hl]
      exact (h.others l).imp_right (.imp_left fun ⟨r', hr', hl'⟩ => ⟨r', .inr hr', hl'⟩)

/-- A change to a file that is entered with its old bytes. -/
theorem overwrite {old : ByteArray} (h : Altered s d created overwritten) (hc : FileChange d r d')
    (ht : d.target r = .ok (d.goal r)) (hs : s.at? (d.goal r) = some (.file old)) :
    Altered s d' created ((r, old) :: overwritten) := by
  refine ⟨fun l => by rw [hc.directories, h.directories], ?_, ?_, fun l => ?_⟩
  · intro r' hr' l hl
    exact h.absent r' hr' l ((hc.target_iff r' l).1 hl)
  · intro x hx
    rw [hc.target_iff, hc.alike.goal_eq]
    rcases List.mem_cons.1 hx with rfl | hx
    · exact ⟨ht, hs⟩
    · exact h.known x hx
  · simp only [hc.target_iff, hc.alike.goal_eq, List.mem_cons]
    by_cases hl : l = d.goal r
    · exact .inr (.inr ⟨(r, old), .inl rfl, hl⟩)
    · rw [hc.at?_eq hl]
      exact (h.others l).imp_right (.imp_right fun ⟨x, hx, hl'⟩ => ⟨x, .inr hx, hl'⟩)

theorem restore {old : ByteArray} (h : Altered s d created ((r, old) :: overwritten)) :
    Altered s (d.store r old).2 created overwritten := by
  have hc := store_fileChange d r old
  obtain ⟨ht, hs⟩ := h.known (r, old) List.mem_cons_self
  refine ⟨fun l => by rw [hc.directories, h.directories], ?_, ?_, fun l => ?_⟩
  · intro r' hr' l hl
    exact h.absent r' hr' l ((hc.target_iff r' l).1 hl)
  · intro x hx
    rw [hc.target_iff, hc.alike.goal_eq]
    exact h.known x (List.mem_cons_of_mem _ hx)
  · simp only [hc.target_iff, hc.alike.goal_eq]
    by_cases hl : l = d.goal r
    · left
      rw [hl, store_at? ht, hs]
    · rw [hc.at?_eq hl]
      refine (h.others l).imp_right (.imp_right ?_)
      rintro ⟨x, hx, hl'⟩
      rcases List.mem_cons.1 hx with rfl | hx
      · exact absurd hl' hl
      · exact ⟨x, hx, hl'⟩

theorem removeFile (h : Altered s d (r :: created) overwritten) :
    Altered s (d.removeFile r) created overwritten := by
  have hc := removeFile_fileChange d r
  refine ⟨fun l => by rw [hc.directories, h.directories], ?_, ?_, fun l => ?_⟩
  · intro r' hr' l hl
    exact h.absent r' (List.mem_cons_of_mem _ hr') l ((hc.target_iff r' l).1 hl)
  · intro x hx
    rw [hc.target_iff, hc.alike.goal_eq]
    exact h.known x hx
  · simp only [hc.target_iff, hc.alike.goal_eq]
    by_cases hl : d.target r = .ok l
    · left
      rw [removeFile_at? hl, h.absent r List.mem_cons_self l hl]
    · rw [hc.others l hl]
      refine (h.others l).imp_right (.imp_left ?_)
      rintro ⟨r', hr', hl'⟩
      rcases List.mem_cons.1 hr' with rfl | hr'
      · exact absurd hl' hl
      · exact ⟨r', hr', hl'⟩

end Altered

/-! ## Undoing -/

theorem restoreAll_altered {s : FileTree} {d : Disk} {created : List Route}
    {overwritten : List (Route × ByteArray)} (h : Altered s d created overwritten) :
    Alike d (d.run (restoreAll overwritten)).2 ∧
      Altered s (d.run (restoreAll overwritten)).2 created [] := by
  induction overwritten generalizing d with
  | nil => exact ⟨.refl d, h⟩
  | cons x rest ih =>
    obtain ⟨r, old⟩ := x
    rw [restoreAll, run_bind, run_restore]
    obtain ⟨ha, h'⟩ := ih h.restore
    exact ⟨(store_fileChange d r old).alike.trans ha, h'⟩

theorem removeFiles_altered {s : FileTree} {d : Disk} {created : List Route}
    (h : Altered s d created []) :
    Alike d (d.run (removeFiles created)).2 ∧ Altered s (d.run (removeFiles created)).2 [] [] := by
  induction created generalizing d with
  | nil => exact ⟨.refl d, h⟩
  | cons r rest ih =>
    rw [removeFiles, run_bind, run_removeFile]
    obtain ⟨ha, h'⟩ := ih h.removeFile
    exact ⟨(removeFile_fileChange d r).alike.trans ha, h'⟩

/-- Whether undoing what a journal holds leads back to a disk. -/
def Undoable (d₀ d : Disk) (j : Journal) : Prop :=
  Alike d₀ d ∧ ∃ s, Made d₀ j.directories s ∧ Altered s d j.created j.overwritten

theorem undo_tree {d₀ d : Disk} {j : Journal} (h : Undoable d₀ d j) :
    (d.run (undo j)).2.tree = d₀.tree := by
  obtain ⟨ha, s, hm, halt⟩ := h
  obtain ⟨ha₁, h₁⟩ := restoreAll_altered halt
  obtain ⟨ha₂, h₂⟩ := removeFiles_altered h₁
  rw [undo, run_bind, run_bind]
  exact removeDirectories_tree hm ((ha.trans ha₁).trans ha₂) h₂.tree_eq

/-! ## Between two writes -/

/-- The middle of a commit, between two calls that succeed: what was there still is, and every file
of the journal is there. -/
structure Steady (d₀ : Disk) (s : FileTree) (d : Disk) (j : Journal) : Prop where
  alike : Alike d₀ d
  made : Made d₀ j.directories s
  altered : Altered s d j.created j.overwritten
  kept : ∀ l, s.at? l ≠ none → d.tree.at? l ≠ none
  written : ∀ r ∈ j.created, d.target r = .ok (d.goal r) ∧ d.tree.at? (d.goal r) ≠ none

def Journal.places (j : Journal) (d : Disk) : List Location :=
  j.created.map d.goal ++ j.overwritten.map fun x => d.goal x.1

theorem Journal.mem_places (j : Journal) (d : Disk) (l : Location) :
    l ∈ Journal.places j d ↔
      (∃ r ∈ j.created, l = d.goal r) ∨ ∃ x ∈ j.overwritten, l = d.goal x.1 := by
  simp only [Journal.places, List.mem_append, List.mem_map, eq_comm]

theorem Steady.init (d : Disk) : Steady d d.tree d ⟨[], [], []⟩ := by
  refine ⟨.refl d, .nil, ⟨fun _ => rfl, ?_, ?_, fun _ => .inl rfl⟩, fun _ h => h, ?_⟩ <;>
    simp

/-- With one directory more, files can be written where they could, but at its own place. -/
theorem target_of_put {d d' : Disk} {r r' : Route} {l : Location} (hc : d.CanCreate r)
    (ha : Alike d d') (ht : d'.tree = d.tree.put (d.goal r) .directory)
    (h : d.target r' = .ok l) (hne : l ≠ d.goal r) : d'.target r' = .ok l := by
  have more (l : Location) (hl : d.tree.isDirectory l) : d'.tree.isDirectory l := by
    rw [ht, FileTree.isDirectory_put hc.accepts, hl, Bool.or_true]
  obtain ⟨hr, hd, above, hno, rfl⟩ := (target_eq_ok_iff _ _ _).1 h
  refine (target_eq_ok_iff _ _ _).2 ⟨ha.reaches more hr, hd, ?_, ?_, (ha.goal_eq r').symm⟩
  · rw [ha.goal_eq]
    exact more _ above
  · rw [ha.goal_eq, ht, FileTree.isDirectory_put hc.accepts]
    simpa [Ne.symm hne] using hno

/-- What is there lies elsewhere than a directory that can be made. -/
theorem ne_goal_of_canCreate {d : Disk} {r : Route} {l : Location} (hc : d.CanCreate r)
    (hs : d.tree.at? l ≠ none) : l ≠ d.goal r := by
  rintro rfl
  exact hs hc.2.1

theorem target_of_put_of_exists {d d' : Disk} {r r' : Route} (hc : d.CanCreate r) (ha : Alike d d')
    (ht : d'.tree = d.tree.put (d.goal r) .directory) (h : d.target r' = .ok (d.goal r'))
    (hs : d.tree.at? (d.goal r') ≠ none) : d'.target r' = .ok (d'.goal r') := by
  rw [ha.goal_eq]
  exact target_of_put hc ha ht h (ne_goal_of_canCreate hc hs)

/-- A new directory in both trees leaves the same files altered, if none of these is missing. -/
theorem Altered.createDirectory {s : FileTree} {d d' : Disk} {r : Route} {created : List Route}
    {overwritten : List (Route × ByteArray)} (h : Altered s d created overwritten)
    (hc : d.CanCreate r) (ha : Alike d d') (ht : d'.tree = d.tree.put (d.goal r) .directory)
    (hacc : s.Accepts (d.goal r) .directory)
    (written : ∀ r' ∈ created, d.target r' = .ok (d.goal r') ∧ d.tree.at? (d.goal r') ≠ none)
    (kept : ∀ l, s.at? l ≠ none → d.tree.at? l ≠ none) :
    Altered (s.put (d.goal r) .directory) d' created overwritten := by
  refine ⟨fun l => ?_, ?_, ?_, fun l => ?_⟩
  · rw [ht, FileTree.isDirectory_put hc.accepts, FileTree.isDirectory_put hacc, h.directories]
  · intro r' hr' l hl
    obtain ⟨ht', hs'⟩ := written r' hr'
    obtain rfl : l = d.goal r' := by
      rw [target_of_put_of_exists hc ha ht ht' hs', ha.goal_eq] at hl
      exact (Except.ok.inj hl).symm
    rw [FileTree.at?_put_of_ne hacc (ne_goal_of_canCreate hc hs')]
    exact h.absent r' hr' _ ht'
  · intro x hx
    obtain ⟨ht', hs'⟩ := h.known x hx
    have there : d.tree.at? (d.goal x.1) ≠ none := kept _ (by simp [hs'])
    refine ⟨target_of_put_of_exists hc ha ht ht' there, ?_⟩
    rw [ha.goal_eq, FileTree.at?_put_of_ne hacc (ne_goal_of_canCreate hc there), hs']
  · by_cases hl : l = d.goal r
    · left
      rw [ht, hl, FileTree.at?_put_self hc.accepts, FileTree.at?_put_self hacc]
    · rw [ht, FileTree.at?_put_of_ne hc.accepts hl, FileTree.at?_put_of_ne hacc hl]
      refine (h.others l).imp_right (.imp ?_ ?_)
      · rintro ⟨r', hr', hl'⟩
        exact ⟨r', hr', target_of_put hc ha ht hl' hl⟩
      · rintro ⟨x, hx, rfl⟩
        exact ⟨x, hx, (ha.goal_eq x.1).symm⟩

namespace Steady
variable {d₀ d d' : Disk} {s : FileTree} {j : Journal} {r : Route}

theorem undoable (h : Steady d₀ s d j) : Undoable d₀ d j := ⟨h.alike, s, h.made, h.altered⟩

theorem of_tree_eq (h : Steady d₀ s d j) (ha : Alike d d') (ht : d'.tree = d.tree) :
    Steady d₀ s d' j := by
  refine ⟨h.alike.trans ha, h.made, ⟨?_, ?_, ?_, ?_⟩, ?_, ?_⟩
  · simpa [ht] using h.altered.directories
  · simpa only [target_iff_of_tree_eq ha ht] using h.altered.absent
  · simpa only [target_iff_of_tree_eq ha ht, ha.goal_eq] using h.altered.known
  · simpa only [target_iff_of_tree_eq ha ht, ha.goal_eq, ht] using h.altered.others
  · simpa only [ht] using h.kept
  · simpa only [target_iff_of_tree_eq ha ht, ha.goal_eq, ht] using h.written

theorem createDirectory (h : Steady d₀ s d j) (hc : d.CanCreate r) (ha : Alike d d')
    (ht : d'.tree = d.tree.put (d.goal r) .directory) :
    Steady d₀ (s.put (d.goal r) .directory) d' { j with directories := r :: j.directories } := by
  have hs : s.at? (d.goal r) = none := by
    by_contra e
    exact h.kept _ e hc.2.1
  have hcs : Disk.CanCreate { d₀ with tree := s } r := by
    have hback : Alike d { d₀ with tree := s } := ⟨h.alike.symm.here, h.alike.symm.admits⟩
    refine ⟨hback.reaches (fun l hl => by rwa [← h.altered.directories l]) hc.1, ?_, ?_⟩
    · rw [hback.goal_eq]
      exact hs
    · rw [hback.goal_eq]
      exact (h.altered.directories _).symm.trans hc.2.2
  have hgoal : d.goal r = d₀.goal r := h.alike.goal_eq r
  have haccs : s.Accepts (d.goal r) .directory := hgoal ▸ hcs.accepts
  refine ⟨h.alike.trans ha, hgoal ▸ .cons h.made hcs,
    h.altered.createDirectory hc ha ht haccs h.written h.kept, fun l hl => ?_, fun r' hr' => ?_⟩
  · by_cases e : l = d.goal r
    · rw [ht, e, FileTree.at?_put_self hc.accepts]
      simp
    · rw [FileTree.at?_put_of_ne haccs e] at hl
      rw [ht, FileTree.at?_put_of_ne hc.accepts e]
      exact h.kept l hl
  · obtain ⟨ht', hs'⟩ := h.written r' hr'
    refine ⟨target_of_put_of_exists hc ha ht ht' hs', ?_⟩
    rw [ha.goal_eq, ht, FileTree.at?_put_of_ne hc.accepts (ne_goal_of_canCreate hc hs')]
    exact hs'

/-- Nothing was altered at a place that no file of the journal has. -/
theorem at?_eq (h : Steady d₀ s d j) {l : Location} (hl : l ∉ Journal.places j d) :
    d.tree.at? l = s.at? l := by
  rw [Journal.mem_places] at hl
  rcases h.altered.others l with e | ⟨r, hr, e⟩ | hx
  · exact e
  · exact absurd (.inl ⟨r, hr, ((target_eq_ok_iff _ _ _).1 e).2.2.2.2⟩) hl
  · exact absurd (.inr hx) hl

theorem createDirectories {d₁ : Disk} {j₁ : Journal} {dirs : List Route}
    {answer : Except Fault Unit} (h : Steady d₀ s d j) (hc : Creates d j dirs d₁ j₁ answer) :
    ∃ s₁, Steady d₀ s₁ d₁ j₁ ∧ j₁.created = j.created ∧ j₁.overwritten = j.overwritten := by
  induction hc generalizing s with
  | done => exact ⟨s, h, rfl, rfl⟩
  | made can alike tree more ih => exact ih (h.createDirectory can alike tree)
  | present found alike tree more ih => exact ih (h.of_tree_eq alike tree)
  | failed alike tree => exact ⟨s, h.of_tree_eq alike tree, rfl, rfl⟩

/-- A changed file that is entered in the journal is no hindrance. -/
theorem change {j' : Journal} (h : Steady d₀ s d j) (hc : FileChange d r d')
    (altered : Altered s d' j'.created j'.overwritten) (hdirs : j'.directories = j.directories)
    (hcreated : ∀ r' ∈ j'.created, r' = r ∨ r' ∈ j.created) (ht : d.target r = .ok (d.goal r))
    (hs : d'.tree.at? (d.goal r) ≠ none) : Steady d₀ s d' j' := by
  have kept {l : Location} (hl : d.tree.at? l ≠ none) : d'.tree.at? l ≠ none := by
    by_cases e : l = d.goal r
    · rwa [e]
    · rwa [hc.at?_eq e]
  refine ⟨h.alike.trans hc.alike, hdirs ▸ h.made, altered, fun l hl => kept (h.kept l hl), ?_⟩
  intro r' hr'
  rw [hc.target_iff, hc.alike.goal_eq]
  rcases hcreated r' hr' with rfl | hr'
  · exact ⟨ht, hs⟩
  · exact ⟨(h.written r' hr').1, kept (h.written r' hr').2⟩

/-- A write can be undone at whatever call it stops, and leads on if it does not. -/
theorem writes {content : ByteArray} {j' : Journal} {answer : Except Fault Written}
    (h : Steady d₀ s d j) (hw : Writes d r content j d' j' answer)
    (fresh : d.goal r ∉ Journal.places j d) :
    Undoable d₀ d' j' ∧ ∀ w, answer = .ok w →
      Alike d d' ∧ (∃ s', Steady d₀ s' d' j') ∧
        ∀ l ∈ Journal.places j' d', l = d.goal r ∨ l ∈ Journal.places j d := by
  cases hw with
  | stuck dirs =>
    obtain ⟨s₁, h₁, -, -⟩ := h.createDirectories dirs
    exact ⟨h₁.undoable, fun w e => by cases e⟩
  | unreadable dirs alike tree =>
    obtain ⟨s₁, h₁, -, -⟩ := h.createDirectories dirs
    exact ⟨(h₁.of_tree_eq alike tree).undoable, fun w e => by cases e⟩
  | @replaced d₁ _ j₁ old _ dirs found change done =>
    obtain ⟨s₁, h₁, hcre, hover⟩ := h.createDirectories dirs
    have ha : Alike d d₁ := h.alike.symm.trans h₁.alike
    have hfresh : d₁.goal r ∉ Journal.places j₁ d₁ := by
      simpa only [Journal.mem_places, hcre, hover, ha.goal_eq] using fresh
    have ht := target_of_find_file found
    -- no file was altered here before, so these are the bytes from before the commit
    have hs : s₁.at? (d₁.goal r) = some (.file old) := by
      rw [← h₁.at?_eq hfresh]
      exact ((find_eq_ok_iff _ _ _).1 found).2.1
    have altered := h₁.altered.overwrite change ht hs
    refine ⟨⟨h₁.alike.trans change.alike, s₁, h₁.made, altered⟩, fun w e => ?_⟩
    have hd := (done w e).2
    refine ⟨ha.trans change.alike, ⟨s₁, h₁.change change altered rfl (fun _ => .inr) ht ?_⟩, ?_⟩
    · simp [hd]
    · intro l hl
      simp only [Journal.mem_places, hcre, hover, (ha.trans change.alike).goal_eq, List.mem_cons]
        at hl ⊢
      rcases hl with hl | ⟨x, rfl | hx, e'⟩
      · exact .inr (.inl hl)
      · exact .inl e'
      · exact .inr (.inr ⟨x, hx, e'⟩)
  | @created d₁ _ j₁ _ dirs absent change done =>
    obtain ⟨s₁, h₁, hcre, hover⟩ := h.createDirectories dirs
    have ha : Alike d d₁ := h.alike.symm.trans h₁.alike
    have hs (l : Location) (hl : d₁.target r = .ok l) : s₁.at? l = none := by
      by_contra e
      exact h₁.kept l e (at?_of_kind?_eq_none absent hl)
    have altered := h₁.altered.create change hs
    refine ⟨⟨h₁.alike.trans change.alike, s₁, h₁.made, altered⟩, fun w e => ?_⟩
    obtain ⟨-, ht, hd⟩ := done w e
    refine ⟨ha.trans change.alike, ⟨s₁, h₁.change change altered rfl ?_ ht ?_⟩, ?_⟩
    · exact fun r' hr' => List.mem_cons.1 hr'
    · simp [hd]
    · intro l hl
      simp only [Journal.mem_places, hcre, hover, (ha.trans change.alike).goal_eq, List.mem_cons]
        at hl ⊢
      rcases hl with ⟨x, rfl | hx, e'⟩ | hl
      · exact .inl e'
      · exact .inr (.inl ⟨x, hx, e'⟩)
      · exact .inr (.inr hl)

end Steady

theorem writeAll_undoable {root : Route} {d₀ d d' : Disk} {s : FileTree} {j j' : Journal}
    {entries : List (String × String)} {answer : Except Fault CommitReport}
    (hw : WritesAll root d j entries d' j' answer) (h : Steady d₀ s d j)
    (distinct : (entries.map fun e => d.goal (root.join e.1)).Nodup)
    (fresh : ∀ e ∈ entries, d.goal (root.join e.1) ∉ Journal.places j d) {fault : Fault}
    (herr : answer = .error fault) : Undoable d₀ d' j' := by
  -- every write that succeeds leaves a steady state, with its own place added to the journal's
  induction hw generalizing s with
  | done => cases herr
  | @stopped d d₁ j j₁ path content rest fault first =>
    exact (h.writes first (fresh (path, content) List.mem_cons_self)).1
  | @further d d₁ d₂ j j₁ j₂ path content rest w answer first more ih =>
    obtain ⟨-, hok⟩ := h.writes first (fresh (path, content) List.mem_cons_self)
    obtain ⟨ha, ⟨s', h'⟩, hplaces⟩ := hok w rfl
    rw [List.map_cons, List.nodup_cons] at distinct
    obtain ⟨hnew, distinct⟩ := distinct
    have hrest : answer = .error fault := by
      cases answer with
      | error e => exact herr
      | ok report => cases herr
    refine ih h' ?_ (fun e he hl => ?_) hrest
    · simpa only [ha.goal_eq] using distinct
    · rw [ha.goal_eq] at hl
      rcases hplaces _ hl with e' | hl
      · exact hnew (List.mem_map.2 ⟨e, he, e'⟩)
      · exact fresh e (List.mem_cons_of_mem _ he) hl

theorem nodup_goals (d : Disk) (root : Route) {s : Staging} (h : s.Valid) :
    (s.entries.map fun e => d.goal (root.join e.1)).Nodup := by
  rw [List.Nodup, List.pairwise_map]
  refine s.files.sorted.imp_of_mem fun {x y} hx hy hlt e => ?_
  have := goal_join_inj d (h x.1 (List.mem_map_of_mem hx)) (h y.1 (List.mem_map_of_mem hy)) e
  exact KeyOrder.irrefl _ (this ▸ hlt)

/-- Undoing writes that failed gives back the tree. -/
theorem writeAll_undo_tree {root : Route} {s : Staging} (h : s.Valid) {d d' : Disk} {j : Journal}
    {fault : Fault}
    (herr : d.run (writeAll root ⟨[], [], []⟩ s.entries) = ((j, .error fault), d')) :
    (d'.run (undo j)).2.tree = d.tree := by
  have hw := writeAll_writesAll root s.entries ⟨[], [], []⟩ d
  rw [herr] at hw
  exact undo_tree (writeAll_undoable hw (.init d) (nodup_goals d root h)
    (by simp [Journal.places]) rfl)

/-- **All or nothing.** A commit that fails, on any disk and at whichever call, leaves the tree of
files exactly as it was. -/
theorem run_error_tree (root : Route) (force : Bool) {s : Staging} (h : s.Valid) {d d' : Disk}
    {failure : Failure} (herr : d.run (run root force s) = (.error failure, d')) :
    d'.tree = d.tree := by
  by_cases hc : s.paths.filter (Blocks d root force) = []
  · rw [run_of_no_conflicts hc] at herr
    have hw := writeAll_writesAll root s.entries ⟨[], [], []⟩ d
    generalize d.run (writeAll root ⟨[], [], []⟩ s.entries) = x at herr hw
    obtain ⟨⟨j, answer⟩, d₁⟩ := x
    cases answer with
    | ok report => cases herr
    | error fault =>
      cases herr
      exact undo_tree (writeAll_undoable hw (.init d) (nodup_goals d root h)
        (by simp [Journal.places]) rfl)
  · rw [run_of_conflicts hc] at herr
    cases herr
    rfl

/-- A disk with a file `b` on which the fourth call fails and leaves other bytes of its target. -/
def fullDisk : Disk :=
  { tree := FileTree.empty.put ["b"] (.file "old".toUTF8), here := [], admits := isCommonName
    mishap := some ⟨3, .content "?".toUTF8, "full"⟩ }

theorem fullDisk_tree :
    (fullDisk.run (run (Route.parse ".") true .twoFiles)).1 = .error (.io (.outside "full")) ∧
      (fullDisk.run (run (Route.parse ".") true .twoFiles)).2.tree = fullDisk.tree := by
  have failed : (fullDisk.run (run (Route.parse ".") true .twoFiles)).1 =
      .error (.io (.outside "full")) := by rfl
  exact ⟨failed, run_error_tree (Route.parse ".") true Staging.twoFiles_valid (Prod.ext failed rfl)⟩

end Commit
end Stencil
