import Stencil.Proofs.Disk.Walk

/-!
# What the calls to a disk do

For each call: which disks it can leave, and what its answer tells about the disk before. A call
that writes or takes away a file changes at most the file at the goal of its route (`FileChange`);
directories come and go only through the calls that are about them.
-/
namespace Stencil
open Disk

namespace Disk

/-- Whether a disk is another one but for the file at the goal of a route. A route at which no file
can be written changes nothing. -/
structure FileChange (d : Disk) (r : Route) (d' : Disk) : Prop where
  alike : Alike d d'
  directories : ∀ l, d'.tree.isDirectory l = d.tree.isDirectory l
  others : ∀ l, d.target r ≠ .ok l → d'.tree.at? l = d.tree.at? l

namespace FileChange
variable {d d' : Disk} {r : Route}

theorem refl (d : Disk) (r : Route) : FileChange d r d :=
  ⟨.refl d, fun _ => rfl, fun _ _ => rfl⟩

theorem of_tree_eq (h : Alike d d') (ht : d'.tree = d.tree) : FileChange d r d' :=
  ⟨h, fun _ => by rw [ht], fun _ _ => by rw [ht]⟩

theorem reaches_iff (h : FileChange d r d') (r' : Route) : d'.Reaches r' ↔ d.Reaches r' :=
  ⟨h.alike.symm.reaches fun l hl => by rwa [← h.directories l],
    h.alike.reaches fun l hl => by rwa [h.directories l]⟩

theorem target_iff (h : FileChange d r d') (r' : Route) (l : Location) :
    d'.target r' = .ok l ↔ d.target r' = .ok l := by
  simp only [target_eq_ok_iff, h.reaches_iff, h.alike.goal_eq, h.directories]

theorem after {d₀ : Disk} (h : FileChange d r d') (ha : Alike d₀ d) (ht : d.tree = d₀.tree) :
    FileChange d₀ r d' := by
  refine ⟨ha.trans h.alike, fun l => by rw [h.directories, ht], fun l hl => ?_⟩
  rw [h.others l fun hl' => hl (((of_tree_eq (r := r) ha ht).target_iff r l).1 hl'), ht]

theorem at?_eq (h : FileChange d r d') {l : Location} (hl : l ≠ d.goal r) :
    d'.tree.at? l = d.tree.at? l :=
  h.others l fun ht => hl ((target_eq_ok_iff _ _ _).1 ht).2.2.2.2

end FileChange

section
variable {d d' : Disk} (h : Alike d d') (ht : d'.tree = d.tree)
include h ht

/-- Disks of one tree find the same along every route. -/
theorem find_iff_of_tree_eq (r : Route) (e : Entry) : d'.find r = .ok e ↔ d.find r = .ok e := by
  have hr := (FileChange.of_tree_eq (r := r) h ht).reaches_iff r
  simp only [find_eq_ok_iff, hr, h.goal_eq, ht]

theorem target_iff_of_tree_eq (r : Route) (l : Location) :
    d'.target r = .ok l ↔ d.target r = .ok l :=
  (FileChange.of_tree_eq (r := r) h ht).target_iff r l

theorem directory_iff_of_tree_eq (r : Route) (l : Location) :
    d'.directory r = .ok l ↔ d.directory r = .ok l := by
  have hr := (FileChange.of_tree_eq (r := r) h ht).reaches_iff r
  simp only [directory_eq_ok_iff, hr, h.goal_eq, ht]

end

theorem fileChange_put {d : Disk} {r : Route} {l : Location} (h : d.target r = .ok l)
    (content : ByteArray) :
    FileChange d r { d with tree := d.tree.put l (.file content) } := by
  obtain ⟨-, -, above, hno, rfl⟩ := (target_eq_ok_iff _ _ _).1 h
  have ha := (FileTree.accepts_file_iff d.tree _ content).2 ⟨above, hno⟩
  refine ⟨⟨rfl, rfl⟩, fun l => ?_, fun l hl => ?_⟩
  · rw [FileTree.isDirectory, FileTree.at?_put ha]
    split
    · rename_i e
      rw [← e, Bool.eq_false_iff.2 hno]; rfl
    · rfl
  · exact FileTree.at?_put_of_ne ha (by rintro rfl; exact hl h)

theorem at?_put_file {d : Disk} {r : Route} {l : Location} (h : d.target r = .ok l)
    (content : ByteArray) :
    (d.tree.put l (.file content)).at? (d.goal r) = some (.file content) := by
  obtain ⟨-, -, above, hno, rfl⟩ := (target_eq_ok_iff _ _ _).1 h
  exact FileTree.at?_put_self ((FileTree.accepts_file_iff d.tree _ content).2 ⟨above, hno⟩)

/-! ## Calls that undo a change -/

theorem store_fileChange (d : Disk) (r : Route) (content : ByteArray) :
    FileChange d r (d.store r content).2 := by
  unfold store
  split
  · exact .refl d r
  · rename_i h
    exact fileChange_put h content

theorem store_at? {d : Disk} {r : Route} {l : Location} (h : d.target r = .ok l)
    (content : ByteArray) : (d.store r content).2.tree.at? l = some (.file content) := by
  have := at?_put_file h content
  rw [← ((target_eq_ok_iff _ _ _).1 h).2.2.2.2] at this
  simpa [store, h] using this

theorem removeFile_fileChange (d : Disk) (r : Route) : FileChange d r (d.removeFile r) := by
  unfold removeFile
  split
  · exact .refl d r
  · rename_i l h
    obtain ⟨-, -, -, hno, rfl⟩ := (target_eq_ok_iff _ _ _).1 h
    have hv := FileTree.isVacant_of_not_isDirectory hno
    have hroot : d.goal r ≠ [] := fun e => hno (e ▸ d.tree.isDirectory_nil)
    refine ⟨⟨rfl, rfl⟩, fun l => ?_, fun l hl => ?_⟩
    · rw [FileTree.isDirectory, FileTree.at?_erase hv hroot]
      split
      · rename_i e
        rw [← e, Bool.eq_false_iff.2 hno]; rfl
      · rfl
    · rw [FileTree.at?_erase hv hroot, if_neg (by rintro rfl; exact hl h)]

theorem removeFile_at? {d : Disk} {r : Route} {l : Location} (h : d.target r = .ok l) :
    (d.removeFile r).tree.at? l = none := by
  obtain ⟨-, -, -, hno, rfl⟩ := (target_eq_ok_iff _ _ _).1 h
  have hroot : d.goal r ≠ [] := fun e => hno (e ▸ d.tree.isDirectory_nil)
  simp only [removeFile, h]
  rw [FileTree.at?_erase (FileTree.isVacant_of_not_isDirectory hno) hroot, if_pos rfl]

/-! ## Calls that may meet a mishap -/

theorem proceed_alike (d : Disk) : Alike d d.proceed.2 := by
  unfold proceed
  split
  · exact .refl d
  · split <;> exact ⟨rfl, rfl⟩

theorem proceed_tree (d : Disk) : d.proceed.2.tree = d.tree := by
  unfold proceed
  split
  · rfl
  · split <;> rfl

theorem proceed_of_no_mishap {d : Disk} (h : d.mishap = none) : d.proceed = (none, d) := by
  unfold proceed
  split
  · rfl
  · rename_i m hm
    rw [h] at hm; cases hm

theorem read_still (d : Disk) (r : Route) :
    Alike d (d.read r).2 ∧ (d.read r).2.tree = d.tree := by
  have hs : Alike d d.proceed.2 ∧ d.proceed.2.tree = d.tree := ⟨proceed_alike d, proceed_tree d⟩
  unfold read
  split
  · rename_i h; rw [h] at hs; exact hs
  · rename_i h; rw [h] at hs
    split <;> exact hs

theorem read_ok {d : Disk} {r : Route} {content : ByteArray} (h : (d.read r).1 = .ok content) :
    d.find r = .ok (.file content) := by
  have ha := proceed_alike d
  have ht := proceed_tree d
  unfold read at h
  split at h
  · cases h
  · rename_i d' hp
    rw [hp] at ha ht
    split at h
    · cases h
    · cases h
    · rename_i content' hf
      cases h
      exact (find_iff_of_tree_eq ha ht r _).1 hf

theorem read_of_no_mishap {d : Disk} (h : d.mishap = none) {r : Route} {content : ByteArray}
    (hf : d.find r = .ok (.file content)) : d.read r = (.ok content, d) := by
  simp [read, proceed_of_no_mishap h, hf]

theorem leave_fileChange (d : Disk) (r : Route) (left : Leftover) :
    FileChange d r (d.leave r left) := by
  cases left with
  | untouched => exact .refl d r
  | absent => exact removeFile_fileChange d r
  | content bytes => exact store_fileChange d r bytes

theorem write_fileChange (d : Disk) (r : Route) (content : ByteArray) :
    FileChange d r (d.write r content).2 := by
  have ha := proceed_alike d
  have ht := proceed_tree d
  unfold write
  split
  · rename_i h; rw [h] at ha ht
    exact (leave_fileChange _ r _).after ha ht
  · rename_i h; rw [h] at ha ht
    exact (store_fileChange _ r _).after ha ht

theorem write_ok {d : Disk} {r : Route} {content : ByteArray} (h : (d.write r content).1 = .ok ()) :
    d.target r = .ok (d.goal r) ∧
      (d.write r content).2.tree.at? (d.goal r) = some (.file content) := by
  have ha := proceed_alike d
  have ht := proceed_tree d
  unfold write at h ⊢
  split at h
  · cases h
  · rename_i d' hp
    rw [hp] at ha ht
    unfold store at h
    split at h
    · cases h
    · rename_i l hl
      have hl' := (target_iff_of_tree_eq ha ht r l).1 hl
      obtain rfl := ((target_eq_ok_iff _ _ _).1 hl').2.2.2.2
      exact ⟨hl', store_at? hl content⟩

theorem write_of_no_mishap {d : Disk} (h : d.mishap = none) {r : Route} {l : Location}
    (ht : d.target r = .ok l) (content : ByteArray) :
    d.write r content = (.ok (), { d with tree := d.tree.put l (.file content) }) := by
  simp [write, proceed_of_no_mishap h, store, ht]

/-! ## Directories -/

/-- What it takes to make a directory at the end of a route. -/
def CanCreate (d : Disk) (r : Route) : Prop :=
  d.Reaches r ∧ d.tree.at? (d.goal r) = none ∧ d.tree.isDirectory (d.goal r).dropLast

theorem CanCreate.accepts {d : Disk} {r : Route} (h : d.CanCreate r) :
    d.tree.Accepts (d.goal r) .directory :=
  (FileTree.accepts_directory_iff h.2.1).2 h.2.2

theorem createDirectory_cases (d : Disk) (r : Route) :
    Alike d (d.createDirectory r).2 ∧
      (((d.createDirectory r).1 = .ok () ∧ d.CanCreate r ∧
          (d.createDirectory r).2.tree = d.tree.put (d.goal r) .directory) ∨
        ∃ fault, (d.createDirectory r).1 = .error fault ∧
          (d.createDirectory r).2.tree = d.tree) := by
  have ha := proceed_alike d
  have ht := proceed_tree d
  unfold createDirectory
  split
  · rename_i h; rw [h] at ha ht
    exact ⟨ha, .inr ⟨_, rfl, ht⟩⟩
  · rename_i d' h; rw [h] at ha ht
    split
    · exact ⟨ha, .inr ⟨_, rfl, ht⟩⟩
    · rename_i l hl
      obtain ⟨hr, rfl⟩ := (locate_eq_ok_iff _ _ _).1 hl
      rw [(FileChange.of_tree_eq (r := r) ha ht).reaches_iff] at hr
      rw [ha.goal_eq, ht]
      split
      · exact ⟨ha, .inr ⟨_, rfl, ht⟩⟩
      · rename_i hn
        have hn : d.tree.at? (d.goal r) = none := by simpa using hn
        split
        · rename_i hacc
          exact ⟨⟨ha.here, ha.admits⟩,
            .inl ⟨rfl, ⟨hr, hn, (FileTree.accepts_directory_iff hn).1 hacc⟩, rfl⟩⟩
        · exact ⟨ha, .inr ⟨_, rfl, ht⟩⟩

theorem createDirectory_of_no_mishap {d : Disk} (h : d.mishap = none) {r : Route}
    (hc : d.CanCreate r) :
    d.createDirectory r = (.ok (), { d with tree := d.tree.put (d.goal r) .directory }) := by
  obtain ⟨hr, hn, hp⟩ := hc
  have hl := (locate_eq_ok_iff d r _).2 ⟨hr, rfl⟩
  have hacc := (FileTree.accepts_directory_iff hn).2 hp
  simp [createDirectory, proceed_of_no_mishap h, hl, hn, hacc]

theorem createDirectory_of_exists {d : Disk} (h : d.mishap = none) {r : Route} (hr : d.Reaches r)
    (hs : d.tree.at? (d.goal r) ≠ none) : d.createDirectory r = (.error .alreadyExists, d) := by
  have hl := (locate_eq_ok_iff d r _).2 ⟨hr, rfl⟩
  simp [createDirectory, proceed_of_no_mishap h, hl, Option.isSome_iff_ne_none, hs]

/-! ## Programs -/

/-- The answer of a program that runs on a disk, with the disk that it leaves. -/
def run {α : Type} (d : Disk) (program : StateM Disk α) : α × Disk := program d

@[simp] theorem run_pure {α : Type} (d : Disk) (a : α) : d.run (pure a) = (a, d) := rfl

@[simp] theorem run_bind {α β : Type} (d : Disk) (x : StateM Disk α) (f : α → StateM Disk β) :
    d.run (x >>= f) = (d.run x).2.run (f (d.run x).1) := rfl

@[simp] theorem run_map {α β : Type} (d : Disk) (f : α → β) (x : StateM Disk α) :
    d.run (f <$> x) = (f (d.run x).1, (d.run x).2) := rfl

@[simp] theorem run_read (d : Disk) (r : Route) : d.run (Files.read r) = d.read r := rfl

@[simp] theorem run_write (d : Disk) (r : Route) (content : ByteArray) :
    d.run (Files.write r content) = d.write r content := rfl

@[simp] theorem run_createDirectory (d : Disk) (r : Route) :
    d.run (Files.createDirectory r) = d.createDirectory r := rfl

@[simp] theorem run_restore (d : Disk) (r : Route) (content : ByteArray) :
    d.run (Files.restore r content) = ((), (d.store r content).2) := rfl

@[simp] theorem run_removeFile (d : Disk) (r : Route) :
    d.run (Files.removeFile r) = ((), d.removeFile r) := rfl

@[simp] theorem run_removeDirectory (d : Disk) (r : Route) :
    d.run (Files.removeDirectory r) = ((), d.removeDirectory r) := rfl

@[simp] theorem run_holds (d : Disk) (r : Route) :
    d.run (Files.holds r) = ((d.kind? r).isSome, d) := rfl

@[simp] theorem run_isFile (d : Disk) (r : Route) :
    d.run (Files.isFile r) = (d.kind? r == some .file, d) := rfl

@[simp] theorem run_isDirectory (d : Disk) (r : Route) :
    d.run (Files.isDirectory r) = (d.kind? r == some .directory, d) := rfl

/-- The answer of a program that may fail, with the disk that it leaves. -/
def attempt {α : Type} (d : Disk) (program : ExceptT Failure (StateM Disk) α) :
    Except Failure α × Disk := d.run program.run

@[simp] theorem attempt_mk {α : Type} (d : Disk) (x : StateM Disk (Except Failure α)) :
    d.attempt (ExceptT.mk x) = d.run x := rfl

@[simp] theorem attempt_lift {α : Type} (d : Disk) (x : StateM Disk α) :
    d.attempt (ExceptT.lift x) = (.ok (d.run x).1, (d.run x).2) := rfl

theorem attempt_bind {α β : Type} (d : Disk) (x : ExceptT Failure (StateM Disk) α)
    (f : α → ExceptT Failure (StateM Disk) β) : d.attempt (x >>= f) =
      match d.attempt x with
      | (.ok a, d₁) => d₁.attempt (f a)
      | (.error e, d₁) => (.error e, d₁) := by
  show d.run ((x >>= f).run) = _
  rw [ExceptT.run_bind, run_bind]
  unfold attempt
  generalize d.run x.run = y
  obtain ⟨a, d₁⟩ := y
  cases a <;> rfl

theorem attempt_bind_eq_ok {α β : Type} {d d' : Disk} {x : ExceptT Failure (StateM Disk) α}
    {f : α → ExceptT Failure (StateM Disk) β} {b : β} : d.attempt (x >>= f) = (.ok b, d') ↔
      ∃ a d₁, d.attempt x = (.ok a, d₁) ∧ d₁.attempt (f a) = (.ok b, d') := by
  rw [attempt_bind]
  generalize d.attempt x = y
  obtain ⟨a, d₁⟩ := y
  cases a with
  | error e => simp
  | ok a => simp

theorem attempt_map {α β : Type} (d : Disk) (x : ExceptT Failure (StateM Disk) α) (f : α → β) :
    d.attempt (f <$> x) = ((d.attempt x).1.map f, (d.attempt x).2) := by
  rw [map_eq_pure_bind, attempt_bind]
  generalize d.attempt x = y
  obtain ⟨answer, d₁⟩ := y
  cases answer <;> rfl

theorem kind?_eq_some_iff (d : Disk) (r : Route) (k : Kind) :
    d.kind? r = some k ↔ ∃ e, d.find r = .ok e ∧ e.kind = k := by
  unfold kind?
  cases d.find r <;> simp [Except.toOption]

theorem kind?_of_tree_eq {d d' : Disk} (ha : Alike d d') (ht : d'.tree = d.tree) (r : Route) :
    d'.kind? r = d.kind? r := by
  refine Option.ext fun k => ?_
  simp only [kind?_eq_some_iff, find_iff_of_tree_eq ha ht]

/-- What lies at the end of names alone is found there. -/
theorem kind?_of_no_up {d : Disk} {r : Route} (h : .up ∉ r.steps) (ha : d.Allows r)
    (hd : r.directoryOnly = false) : d.kind? r = (d.tree.at? (d.goal r)).map Entry.kind := by
  refine Option.ext fun k => ?_
  rw [kind?_eq_some_iff, Option.map_eq_some_iff]
  refine exists_congr fun e => and_congr_left fun _ => ?_
  rw [find_eq_ok_iff]
  constructor
  · exact fun hf => hf.2.1
  · intro hs
    exact ⟨reaches_of_no_up h ha (by simp [hs]), hs, by simp [hd]⟩

/-- Where nothing is found at the end of a route that can be followed, nothing lies. -/
theorem at?_eq_none_of_reaches {d : Disk} {r : Route} (h : d.kind? r = none) (hr : d.Reaches r)
    (hd : r.directoryOnly = false) : d.tree.at? (d.goal r) = none := by
  by_contra e
  obtain ⟨entry, he⟩ := Option.ne_none_iff_exists'.1 e
  have hf : d.find r = .ok entry := (find_eq_ok_iff _ _ _).2 ⟨hr, he, by simp [hd]⟩
  have := (kind?_eq_some_iff d r entry.kind).2 ⟨entry, hf, rfl⟩
  rw [h] at this
  cases this

theorem at?_of_kind?_eq_none {d : Disk} {r : Route} {l : Location} (h : d.kind? r = none)
    (ht : d.target r = .ok l) : d.tree.at? l = none := by
  obtain ⟨hr, hd, -, -, rfl⟩ := (target_eq_ok_iff _ _ _).1 ht
  exact at?_eq_none_of_reaches h hr hd

theorem target_of_find_file {d : Disk} {r : Route} {content : ByteArray}
    (h : d.find r = .ok (.file content)) : d.target r = .ok (d.goal r) := by
  obtain ⟨hr, hs, hd⟩ := (find_eq_ok_iff _ _ _).1 h
  have hdir : r.directoryOnly = false := by
    cases e : r.directoryOnly
    · rfl
    · cases hd e
  exact (target_eq_ok_iff _ _ _).2 ⟨hr, hdir, FileTree.isDirectory_dropLast (by simp [hs]),
    FileTree.not_isDirectory_of_file hs, rfl⟩

end Disk
end Stencil
