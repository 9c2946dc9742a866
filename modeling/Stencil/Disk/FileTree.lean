import Stencil.SortedMap
import Stencil.Disk.Route

/-!
# Trees of files

A `FileTree` holds an entry, a file or a directory, for each location but the root, which is always
a directory. Whatever holds an entry is a directory itself. There are no symbolic links and no
special files, and no two locations share one file.

## Results

* `at?_put`, `at?_erase`: what is where after a change.
* `ext_at?`: trees with the same entries are equal.
-/
namespace Stencil.Disk

/-- What is at a location. -/
inductive Entry
  | file (content : ByteArray)
  | directory

inductive Kind
  | file
  | directory
  deriving DecidableEq, Repr

def Entry.kind : Entry → Kind
  | .file _ => .file
  | .directory => .directory

def Entry.isDirectory : Entry → Bool
  | .file _ => false
  | .directory => true

/-- The entry at a location; the root is a directory. -/
def entryAt (entries : SortedMap Location Entry) (l : Location) : Option Entry :=
  if l = [] then some .directory else entries.get? l

structure FileTree where
  entries : SortedMap Location Entry
  rootless : entries.get? [] = none
  closed : ∀ l name, (entries.get? (l ++ [name])).isSome → entryAt entries l = some .directory

namespace FileTree

def empty : FileTree := ⟨.empty, rfl, fun _ _ h => by simp at h⟩

def at? (t : FileTree) (l : Location) : Option Entry := entryAt t.entries l

def isDirectory (t : FileTree) (l : Location) : Bool := (t.at? l).any Entry.isDirectory

/-- The locations that begin with `l` and go on, without this beginning. -/
def rest? (l : Location) (other : Location) : Option Location :=
  match l, other with
  | [], [] => none
  | [], name :: more => some (name :: more)
  | _ :: _, [] => none
  | x :: l, y :: other => if x = y then rest? l other else none

/-- Everything below a location, under locations that start there, each directory before what it
holds. -/
def below (t : FileTree) (l : Location) : List (Location × Entry) :=
  t.entries.toList.filterMap fun (other, e) => (rest? l other).map fun r => (r, e)

/-- The entries of a directory in the order of their names. -/
def children (t : FileTree) (l : Location) : List (String × Entry) :=
  (t.below l).filterMap fun
    | ([name], e) => some (name, e)
    | _ => none

/-- Whether nothing is below a location. -/
def isVacant (t : FileTree) (l : Location) : Bool := (t.below l).isEmpty

/-- Whether an entry may be put at a location: the place above is a directory, and no directory
gives way to a file. -/
def Accepts (t : FileTree) (l : Location) (e : Entry) : Prop :=
  l ≠ [] ∧ t.isDirectory l.dropLast ∧ (t.isDirectory l → e.isDirectory)

instance (t : FileTree) (l : Location) (e : Entry) : Decidable (t.Accepts l e) :=
  inferInstanceAs (Decidable (_ ∧ _ ∧ _))

theorem Entry.isDirectory_iff (e : Entry) : e.isDirectory ↔ e = .directory := by
  cases e <;> simp [Entry.isDirectory]

theorem isDirectory_iff (t : FileTree) (l : Location) :
    t.isDirectory l ↔ t.at? l = some .directory := by
  simp [isDirectory, Option.any_eq_true, Entry.isDirectory_iff]

/-! ## What is below -/

theorem rest?_eq_some_iff (l other r : Location) :
    rest? l other = some r ↔ r ≠ [] ∧ other = l ++ r := by
  induction l generalizing other with
  | nil => cases other <;> grind [rest?]
  | cons x l ih =>
    cases other with
    | nil => simp [rest?]
    | cons y other => by_cases h : x = y <;> simp [rest?, h, ih, eq_comm]

theorem mem_below (t : FileTree) (l r : Location) (e : Entry) :
    (r, e) ∈ t.below l ↔ r ≠ [] ∧ t.entries.get? (l ++ r) = some e := by
  simp only [below, List.mem_filterMap, Option.map_eq_some_iff, Prod.mk.injEq]
  constructor
  · rintro ⟨⟨other, e'⟩, hmem, r', hr, rfl, rfl⟩
    obtain ⟨hne, rfl⟩ := (rest?_eq_some_iff _ _ _).1 hr
    exact ⟨hne, (SortedMap.mem_toList _ _ _).1 hmem⟩
  · rintro ⟨hne, hget⟩
    exact ⟨(l ++ r, e), (SortedMap.mem_toList _ _ _).2 hget, r,
      (rest?_eq_some_iff _ _ _).2 ⟨hne, rfl⟩, rfl, rfl⟩

theorem get?_eq_none_of_isVacant {t : FileTree} {l : Location} (h : t.isVacant l) (name : String) :
    t.entries.get? (l ++ [name]) = none := by
  cases he : t.entries.get? (l ++ [name]) with
  | none => rfl
  | some e =>
    have : ([name], e) ∈ t.below l := (t.mem_below l [name] e).2 ⟨by simp, he⟩
    rw [List.isEmpty_iff.1 h] at this
    exact absurd this List.not_mem_nil

/-! ## Changes -/

theorem rootless_insert (t : FileTree) {l : Location} (e : Entry) (h : l ≠ []) :
    (t.entries.insert l e).get? [] = none := by
  simp [SortedMap.get?_insert, h, t.rootless]

theorem closed_insert (t : FileTree) {l : Location} {e : Entry} (h : t.Accepts l e) (l' : Location)
    (name : String) (some' : ((t.entries.insert l e).get? (l' ++ [name])).isSome) :
    entryAt (t.entries.insert l e) l' = some .directory := by
  obtain ⟨_, above, keeps⟩ := h
  simp only [isDirectory_iff, Entry.isDirectory_iff] at above keeps
  have dir : t.at? l' = some .directory := by
    rw [SortedMap.get?_insert] at some'
    by_cases hl : l = l' ++ [name]
    · simpa [hl] using above
    · exact t.closed l' name (by simpa [hl] using some')
  by_cases root : l' = []
  · simp [entryAt, root]
  · simp only [entryAt, root, if_false, SortedMap.get?_insert]
    by_cases same : l = l'
    · simp [same, keeps (same ▸ dir)]
    · simpa [same, at?, entryAt, root] using dir

theorem closed_erase (t : FileTree) {l : Location} (h : t.isVacant l) (l' : Location)
    (name : String) (some' : ((t.entries.erase l).get? (l' ++ [name])).isSome) :
    entryAt (t.entries.erase l) l' = some .directory := by
  rw [SortedMap.get?_erase] at some'
  by_cases hl : l = l' ++ [name]
  · simp [hl] at some'
  · simp only [hl, if_false] at some'
    have dir := t.closed l' name some'
    by_cases root : l' = []
    · simp [entryAt, root]
    · simp only [entryAt, root, if_false, SortedMap.get?_erase] at dir ⊢
      by_cases same : l = l'
      · subst same
        simp [get?_eq_none_of_isVacant h name] at some'
      · simpa [same] using dir

def put (t : FileTree) (l : Location) (e : Entry) : FileTree :=
  if h : t.Accepts l e then ⟨t.entries.insert l e, t.rootless_insert e h.1, t.closed_insert h⟩
  else t

/-- Takes away the entry at a location that has nothing below it. -/
def erase (t : FileTree) (l : Location) : FileTree :=
  if h : t.isVacant l then
    ⟨t.entries.erase l, by rw [SortedMap.get?_erase, t.rootless, ite_self], t.closed_erase h⟩
  else t

theorem at?_put {t : FileTree} {l : Location} {e : Entry} (h : t.Accepts l e) (l' : Location) :
    (t.put l e).at? l' = if l = l' then some e else t.at? l' := by
  simp only [put, h, dif_pos, at?, entryAt, SortedMap.get?_insert]
  by_cases root : l' = []
  · simp [root, h.1]
  · simp [root]

theorem at?_erase {t : FileTree} {l : Location} (h : t.isVacant l) (hl : l ≠ []) (l' : Location) :
    (t.erase l).at? l' = if l = l' then none else t.at? l' := by
  simp only [erase, h, dif_pos, at?, entryAt, SortedMap.get?_erase]
  by_cases root : l' = []
  · simp [root, hl]
  · simp [root]

theorem ext_at? {t t' : FileTree} (h : ∀ l, t.at? l = t'.at? l) : t = t' := by
  have : t.entries = t'.entries := SortedMap.ext_get? fun l => by
    by_cases root : l = []
    · simp [root, t.rootless, t'.rootless]
    · simpa [at?, entryAt, root] using h l
  cases t; cases t'; simp_all

end FileTree
end Stencil.Disk
