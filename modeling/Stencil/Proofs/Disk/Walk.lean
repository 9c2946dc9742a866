import Mathlib.Data.List.Induction
import Stencil.Disk.Basic

/-!
# Where routes lead

A route is followed through the directories of a disk, but where it ends is a matter of its steps
alone: a name goes down, `..` goes up. `goal` is that place and `trail` lists the places on the way.

Results:
* `locate_eq_ok_iff`: a route leads to its goal exactly if every place of its trail is a directory
  and its names are admitted (`Reaches`).
* `find_eq_ok_iff`, `target_eq_ok_iff`: what is found there, and when a file can be written there.
* `of_mem_ancestors`: the ancestors of a route lead to the places of its trail.
* `reaches_of_exits`: a route reaches whatever lies at its goal if each `..` leaves a directory.
* `reaches_of_no_up`: so does a route without `..`.
-/
namespace Stencil
open Disk

namespace Disk

/-! ## Trees -/

namespace FileTree

theorem at?_nil (t : FileTree) : t.at? [] = some .directory := by simp [at?, entryAt]

theorem isDirectory_nil (t : FileTree) : t.isDirectory [] := by
  rw [isDirectory_iff, at?_nil]

theorem not_isDirectory_of_file {t : FileTree} {l : Location} {content : ByteArray}
    (h : t.at? l = some (.file content)) : ¬ t.isDirectory l := by
  rw [isDirectory_iff, h]
  simp

theorem not_isDirectory_of_none {t : FileTree} {l : Location} (h : t.at? l = none) :
    ¬ t.isDirectory l := by
  rw [isDirectory_iff, h]
  simp

theorem isDirectory_of_at?_concat {t : FileTree} {l : Location} {name : String}
    (h : t.at? (l ++ [name]) ≠ none) : t.isDirectory l := by
  rw [isDirectory_iff]
  refine t.closed l name ?_
  simpa [at?, entryAt, Option.isSome_iff_ne_none] using h

/-- Above anything there are directories. -/
theorem isDirectory_above {t : FileTree} {l l' : Location} (h : t.at? l' ≠ none)
    (hp : l <+: l') (hne : l ≠ l') : t.isDirectory l := by
  obtain ⟨more, rfl⟩ := hp
  induction more using List.reverseRecOn with
  | nil => simp at hne
  | append_singleton more name ih =>
    have above : t.isDirectory (l ++ more) :=
      isDirectory_of_at?_concat (by rwa [← List.append_assoc] at h)
    by_cases hm : more = []
    · simpa [hm] using above
    · refine ih ?_ (by simpa using hm)
      rw [(isDirectory_iff _ _).1 above]; simp

theorem isDirectory_dropLast {t : FileTree} {l : Location} (h : t.at? l ≠ none) :
    t.isDirectory l.dropLast := by
  rcases List.eq_nil_or_concat l with rfl | ⟨l, name, rfl⟩
  · exact t.isDirectory_nil
  · rw [List.concat_eq_append] at h ⊢
    rw [List.dropLast_concat]
    exact isDirectory_of_at?_concat h

/-- Nothing lies below what is no directory. -/
theorem isVacant_of_not_isDirectory {t : FileTree} {l : Location} (h : ¬ t.isDirectory l) :
    t.isVacant l := by
  rw [isVacant, List.isEmpty_iff, List.eq_nil_iff_forall_not_mem]
  rintro ⟨r, e⟩ hmem
  obtain ⟨hr, hget⟩ := (t.mem_below l r e).1 hmem
  have there : t.at? (l ++ r) ≠ none := by simp [at?, entryAt, hr, hget]
  exact h (isDirectory_above there (List.prefix_append l r) (by simpa using hr))

theorem accepts_file_iff (t : FileTree) (l : Location) (content : ByteArray) :
    t.Accepts l (.file content) ↔ t.isDirectory l.dropLast ∧ ¬ t.isDirectory l := by
  have root : ¬ t.isDirectory l → l ≠ [] := fun h hl => h (hl ▸ t.isDirectory_nil)
  simp only [Accepts, Entry.isDirectory, Bool.false_eq_true]
  exact ⟨fun h => ⟨h.2.1, h.2.2⟩, fun h => ⟨root h.2, h.1, h.2⟩⟩

theorem accepts_directory_iff {t : FileTree} {l : Location} (h : t.at? l = none) :
    t.Accepts l .directory ↔ t.isDirectory l.dropLast := by
  have root : l ≠ [] := by rintro rfl; rw [at?_nil] at h; cases h
  simp [Accepts, Entry.isDirectory, root]

theorem at?_put_self {t : FileTree} {l : Location} {e : Entry} (h : t.Accepts l e) :
    (t.put l e).at? l = some e := by
  rw [at?_put h, if_pos rfl]

theorem at?_put_of_ne {t : FileTree} {l l' : Location} {e : Entry} (h : t.Accepts l e)
    (hne : l' ≠ l) : (t.put l e).at? l' = t.at? l' := by
  rw [at?_put h, if_neg (Ne.symm hne)]

theorem isDirectory_put {t : FileTree} {l : Location} (h : t.Accepts l .directory) (l' : Location) :
    (t.put l .directory).isDirectory l' = (decide (l = l') || t.isDirectory l') := by
  rw [isDirectory, at?_put h]
  by_cases e : l = l' <;> simp [e, isDirectory, Entry.isDirectory]

end FileTree

/-! ## Walks -/

/-- Where a step leads by its name alone. -/
def Step.move (l : Location) : Step → Location
  | .up => l.dropLast
  | .down name => l ++ [name]

/-- Where steps lead by their names alone. -/
def walk (l : Location) (steps : List Step) : Location := steps.foldl Step.move l

/-- The places that steps leave on their way, the first one first. -/
def passed (l : Location) : List Step → List Location
  | [] => []
  | s :: rest => l :: passed (s.move l) rest

@[simp] theorem walk_nil (l : Location) : walk l [] = l := rfl

@[simp] theorem walk_cons (l : Location) (s : Step) (rest : List Step) :
    walk l (s :: rest) = walk (s.move l) rest := rfl

theorem walk_append (l : Location) (a b : List Step) : walk l (a ++ b) = walk (walk l a) b :=
  List.foldl_append

theorem passed_append (l : Location) (a b : List Step) :
    passed l (a ++ b) = passed l a ++ passed (walk l a) b := by
  induction a generalizing l with
  | nil => rfl
  | cons s rest ih => simp [passed, ih]

theorem walk_down (l : Location) (names : List String) : walk l (names.map .down) = l ++ names := by
  induction names generalizing l with
  | nil => simp
  | cons name rest ih => simp [Step.move, ih]

/-- The places on the way are where the proper fronts of the steps lead. -/
theorem mem_passed (l : Location) (steps : List Step) (p : Location) :
    p ∈ passed l steps ↔ ∃ front, front <+: steps ∧ front ≠ steps ∧ p = walk l front := by
  induction steps generalizing l with
  | nil =>
    simp only [passed, List.not_mem_nil, List.prefix_nil, false_iff]
    rintro ⟨front, rfl, hne, -⟩
    exact hne rfl
  | cons s rest ih =>
    simp only [passed, List.mem_cons, ih]
    constructor
    · rintro (rfl | ⟨front, hp, hne, rfl⟩)
      · exact ⟨[], List.nil_prefix, by simp, rfl⟩
      · exact ⟨s :: front, List.cons_prefix_cons.2 ⟨rfl, hp⟩, by simpa using hne, rfl⟩
    · rintro ⟨front, hp, hne, rfl⟩
      cases front with
      | nil => exact .inl rfl
      | cons x front =>
        obtain ⟨rfl, hrest⟩ := List.cons_prefix_cons.1 hp
        exact .inr ⟨front, hrest, by simpa using hne, rfl⟩

theorem exists_names {steps : List Step} (h : .up ∉ steps) :
    ∃ names : List String, steps = names.map .down := by
  induction steps with
  | nil => exact ⟨[], rfl⟩
  | cons s rest ih =>
    obtain ⟨hs, hrest⟩ := not_or.1 (List.mem_cons.not.1 h)
    obtain ⟨names, rfl⟩ := ih hrest
    cases s with
    | up => exact absurd rfl hs
    | down name => exact ⟨name :: names, rfl⟩

/-! ## Routes -/

def start (d : Disk) (r : Route) : Location := if r.absolute then [] else d.here

/-- Where a route leads by its steps alone. -/
def goal (d : Disk) (r : Route) : Location := walk (d.start r) r.steps

/-- The places on the way along a route, without its goal. -/
def trail (d : Disk) (r : Route) : List Location := passed (d.start r) r.steps

/-- Whether the names of a route are admitted. -/
def Allows (d : Disk) (r : Route) : Prop := ∀ name, .down name ∈ r.steps → d.admits name

/-- Whether a route can be followed to its end. -/
def Reaches (d : Disk) (r : Route) : Prop := (∀ l ∈ d.trail r, d.tree.isDirectory l) ∧ d.Allows r

theorem step_eq_ok_iff (d : Disk) (l l' : Location) (s : Step) :
    d.step l s = .ok l' ↔
      d.tree.isDirectory l ∧ (∀ name, .down name = s → d.admits name) ∧ l' = s.move l := by
  rw [FileTree.isDirectory_iff]
  unfold step
  cases h : d.tree.at? l with
  | none => simp
  | some e =>
    cases e with
    | file content => simp
    | directory =>
      cases s with
      | up => simpa [Step.move] using eq_comm
      | down name =>
        by_cases ha : d.admits name
        · simpa [Step.move, ha] using eq_comm
        · simp [ha]

theorem follow_eq_ok_iff (d : Disk) (l l' : Location) (steps : List Step) :
    d.follow l steps = .ok l' ↔
      (∀ p ∈ passed l steps, d.tree.isDirectory p) ∧
        (∀ name, .down name ∈ steps → d.admits name) ∧ l' = walk l steps := by
  induction steps generalizing l with
  | nil => simpa [follow, passed] using eq_comm
  | cons s rest ih =>
    simp only [follow, passed, walk_cons, List.mem_cons, forall_eq_or_imp]
    cases hs : d.step l s with
    | error e =>
      have hno : ¬ ∃ l', d.step l s = .ok l' := by simp [hs]
      simp only [step_eq_ok_iff] at hno
      refine iff_of_false (by simp [bind, Except.bind]) ?_
      rintro ⟨⟨hl, -⟩, ha, -⟩
      exact hno ⟨_, hl, fun name h => ha name (.inl h), rfl⟩
    | ok m =>
      obtain ⟨hl, ha, rfl⟩ := (step_eq_ok_iff _ _ _ _).1 hs
      simp only [bind, Except.bind, ih]
      constructor
      · rintro ⟨hp, hn, rfl⟩
        exact ⟨⟨hl, hp⟩, fun name h => h.elim (ha name) (hn name), rfl⟩
      · rintro ⟨⟨-, hp⟩, hn, rfl⟩
        exact ⟨hp, fun name h => hn name (.inr h), rfl⟩

/-- A route leads to its goal or nowhere. -/
theorem locate_eq_ok_iff (d : Disk) (r : Route) (l : Location) :
    d.locate r = .ok l ↔ d.Reaches r ∧ l = d.goal r := by
  unfold locate Reaches Allows goal trail
  rw [show (if r.absolute then [] else d.here) = d.start r from rfl, follow_eq_ok_iff, and_assoc]

theorem find_eq_ok_iff (d : Disk) (r : Route) (e : Entry) :
    d.find r = .ok e ↔ d.Reaches r ∧ d.tree.at? (d.goal r) = some e ∧
      (r.directoryOnly → e = .directory) := by
  unfold find
  cases hl : d.locate r with
  | error f =>
    have : ¬ d.Reaches r := fun h => by
      rw [(locate_eq_ok_iff _ _ _).2 ⟨h, rfl⟩] at hl; cases hl
    simp [bind, Except.bind, this]
  | ok l =>
    obtain ⟨hr, rfl⟩ := (locate_eq_ok_iff _ _ _).1 hl
    simp only [bind, Except.bind, hr, true_and]
    cases ha : d.tree.at? (d.goal r) with
    | none => simp
    | some e' =>
      cases e' with
      | directory => cases e <;> simp
      | file content => cases h : r.directoryOnly <;> cases e <;> simp

theorem directory_eq_ok_iff (d : Disk) (r : Route) (l : Location) :
    d.directory r = .ok l ↔ d.Reaches r ∧ d.tree.isDirectory (d.goal r) ∧ l = d.goal r := by
  rw [FileTree.isDirectory_iff]
  unfold directory
  cases hl : d.locate r with
  | error f =>
    have : ¬ d.Reaches r := fun h => by
      rw [(locate_eq_ok_iff _ _ _).2 ⟨h, rfl⟩] at hl; cases hl
    simp [bind, Except.bind, this]
  | ok m =>
    obtain ⟨hr, rfl⟩ := (locate_eq_ok_iff _ _ _).1 hl
    simp only [bind, Except.bind, hr, true_and]
    cases ha : d.tree.at? (d.goal r) with
    | none => simp
    | some e => cases e <;> simp [eq_comm]

theorem target_eq_ok_iff (d : Disk) (r : Route) (l : Location) :
    d.target r = .ok l ↔ d.Reaches r ∧ r.directoryOnly = false ∧
      d.tree.isDirectory (d.goal r).dropLast ∧ ¬ d.tree.isDirectory (d.goal r) ∧ l = d.goal r := by
  unfold target
  cases hl : d.locate r with
  | error f =>
    have : ¬ d.Reaches r := fun h => by
      rw [(locate_eq_ok_iff _ _ _).2 ⟨h, rfl⟩] at hl; cases hl
    simp [bind, Except.bind, this]
  | ok m =>
    obtain ⟨hr, rfl⟩ := (locate_eq_ok_iff _ _ _).1 hl
    simp only [bind, Except.bind, hr, true_and, FileTree.accepts_file_iff]
    cases r.directoryOnly <;> by_cases hd : d.tree.isDirectory (d.goal r) <;>
      by_cases hp : d.tree.isDirectory (d.goal r).dropLast <;> simp [hd, hp, eq_comm]

/-! ## Other disks -/

/-- Whether two disks are the same but for their trees and mishaps. -/
structure Alike (d d' : Disk) : Prop where
  here : d'.here = d.here
  admits : d'.admits = d.admits

namespace Alike
variable {d d' d'' : Disk}

theorem refl (d : Disk) : Alike d d := ⟨rfl, rfl⟩

theorem symm (h : Alike d d') : Alike d' d := ⟨h.here.symm, h.admits.symm⟩

theorem trans (h : Alike d d') (h' : Alike d' d'') : Alike d d'' :=
  ⟨h'.here.trans h.here, h'.admits.trans h.admits⟩

theorem start_eq (h : Alike d d') (r : Route) : d'.start r = d.start r := by
  simp [start, h.here]

theorem goal_eq (h : Alike d d') (r : Route) : d'.goal r = d.goal r := by
  simp [goal, h.start_eq]

theorem trail_eq (h : Alike d d') (r : Route) : d'.trail r = d.trail r := by
  simp [trail, h.start_eq]

theorem allows_iff (h : Alike d d') (r : Route) : d'.Allows r ↔ d.Allows r := by
  simp [Allows, h.admits]

/-- With more directories a route can still be followed. -/
theorem reaches (h : Alike d d') (more : ∀ l, d.tree.isDirectory l → d'.tree.isDirectory l)
    {r : Route} (hr : d.Reaches r) : d'.Reaches r := by
  refine ⟨fun l hl => more l (hr.1 l ?_), (h.allows_iff r).2 hr.2⟩
  rwa [h.trail_eq] at hl

end Alike

/-! ## Ancestors -/

theorem Route.mem_properFronts {α : Type} (l front : List α) :
    front ∈ properFronts l ↔ front <+: l ∧ front ≠ [] ∧ front ≠ l := by
  fun_induction properFronts l generalizing front with
  | case1 =>
    simp only [List.not_mem_nil, List.prefix_nil, false_iff]
    exact fun h => h.2.1 h.1
  | case2 x =>
    simp only [List.not_mem_nil, false_iff]
    rintro ⟨hp, hne, hne'⟩
    obtain ⟨y, front, rfl⟩ := List.exists_cons_of_ne_nil hne
    obtain ⟨rfl, hmore⟩ := List.cons_prefix_cons.1 hp
    exact hne' (by rw [List.prefix_nil.1 hmore])
  | case3 x y rest ih =>
    simp only [List.mem_cons, List.mem_map, ih]
    constructor
    · rintro (rfl | ⟨more, ⟨hp, -, hne⟩, rfl⟩)
      · exact ⟨List.cons_prefix_cons.2 ⟨rfl, List.nil_prefix⟩, by simp, by simp⟩
      · exact ⟨List.cons_prefix_cons.2 ⟨rfl, hp⟩, by simp, by simpa using hne⟩
    · rintro ⟨hp, hne, hne'⟩
      obtain ⟨z, more, rfl⟩ := List.exists_cons_of_ne_nil hne
      obtain ⟨rfl, hmore⟩ := List.cons_prefix_cons.1 hp
      by_cases hm : more = []
      · exact .inl (by rw [hm])
      · exact .inr ⟨more, ⟨hmore, hm, by simpa using hne'⟩, rfl⟩

/-- An ancestor leads to a place on the way, by at least one step. -/
theorem of_mem_ancestors {r a : Route} (h : a ∈ r.ancestors) (d : Disk) :
    d.goal a ∈ d.trail r ∧ d.start a = d.start r ∧ a.steps ≠ [] := by
  obtain ⟨front, hf, rfl⟩ := List.mem_map.1 h
  obtain ⟨hp, hne, hne'⟩ := (Route.mem_properFronts _ _).1 hf
  exact ⟨(mem_passed _ _ _).2 ⟨front, hp, hne', rfl⟩, rfl, hne⟩

theorem start_mem_trail (d : Disk) {r : Route} (h : r.steps ≠ []) : d.start r ∈ d.trail r :=
  (mem_passed _ _ _).2 ⟨[], List.nil_prefix, h.symm, rfl⟩

/-! ## Steps up -/

/-- The places that the steps up of a walk leave. -/
def exits (l : Location) : List Step → List Location
  | [] => []
  | .up :: rest => l :: exits l.dropLast rest
  | .down name :: rest => exits (l ++ [name]) rest

theorem exits_append (l : Location) (a b : List Step) :
    exits l (a ++ b) = exits l a ++ exits (walk l a) b := by
  induction a generalizing l with
  | nil => rfl
  | cons s rest ih =>
    cases s with
    | up => simp [exits, ih, Step.move]
    | down name => simp [exits, ih, Step.move]

theorem exits_down (l : Location) (names : List String) : exits l (names.map .down) = [] := by
  induction names generalizing l with
  | nil => rfl
  | cons name rest ih => exact ih _

theorem exits_of_no_up {steps : List Step} (h : .up ∉ steps) (l : Location) :
    exits l steps = [] := by
  obtain ⟨names, rfl⟩ := exists_names h
  exact exits_down l names

theorem exits_subset_passed (l : Location) (steps : List Step) :
    exits l steps ⊆ passed l steps := by
  induction steps generalizing l with
  | nil => exact List.Subset.refl _
  | cons s rest ih =>
    cases s with
    | up => exact List.cons_subset_cons l (ih _)
    | down name => exact List.subset_cons_of_subset l (ih _)

/-- A walk that ends at something passes directories only, if its steps up leave directories. -/
theorem isDirectory_of_mem_passed {t : FileTree} {l : Location} {steps : List Step}
    (up : ∀ p ∈ exits l steps, t.isDirectory p) (hs : t.at? (walk l steps) ≠ none) :
    ∀ p ∈ passed l steps, t.isDirectory p := by
  -- from the end: what lies at the second place shows that the first one is a directory
  suffices t.at? l ≠ none ∧ ∀ p ∈ passed l steps, t.isDirectory p from this.2
  induction steps generalizing l with
  | nil => exact ⟨hs, by simp [passed]⟩
  | cons s rest ih =>
    have here : t.isDirectory l ∧ ∀ p ∈ passed (s.move l) rest, t.isDirectory p := by
      cases s with
      | up =>
        obtain ⟨here, up⟩ := List.forall_mem_cons.1 up
        exact ⟨here, (ih up hs).2⟩
      | down name =>
        obtain ⟨next, onward⟩ := ih up hs
        exact ⟨FileTree.isDirectory_of_at?_concat next, onward⟩
    refine ⟨?_, List.forall_mem_cons.2 here⟩
    rw [(FileTree.isDirectory_iff _ _).1 here.1]
    simp

/-- What lies at the end of a route is reached if the route steps up from directories only. -/
theorem reaches_of_exits {d : Disk} {r : Route}
    (up : ∀ l ∈ exits (d.start r) r.steps, d.tree.isDirectory l) (ha : d.Allows r)
    (hs : d.tree.at? (d.goal r) ≠ none) : d.Reaches r :=
  ⟨isDirectory_of_mem_passed up hs, ha⟩

/-! ## Routes that only go down -/

theorem mem_trail_of_no_up (d : Disk) {r : Route} (h : .up ∉ r.steps) (l : Location) :
    l ∈ d.trail r ↔ d.start r <+: l ∧ l <+: d.goal r ∧ l ≠ d.goal r := by
  obtain ⟨names, hn⟩ := exists_names h
  simp only [trail, goal, hn, mem_passed, walk_down]
  constructor
  · rintro ⟨front, hp, hne, rfl⟩
    obtain ⟨first, hf, rfl⟩ := List.prefix_map_iff.1 hp
    rw [walk_down]
    refine ⟨List.prefix_append _ _, (List.prefix_append_right_inj _).2 hf, fun e => hne ?_⟩
    rw [List.append_cancel_left e]
  · rintro ⟨⟨first, rfl⟩, hp, hne⟩
    refine ⟨first.map .down, (List.IsPrefix.map _ ((List.prefix_append_right_inj _).1 hp)), ?_,
      (walk_down _ _).symm⟩
    intro e
    have := congrArg (walk (d.start r)) e
    rw [walk_down, walk_down] at this
    exact hne this

/-- What lies at the end of names alone has directories above it. -/
theorem reaches_of_no_up {d : Disk} {r : Route} (h : .up ∉ r.steps) (ha : d.Allows r)
    (hs : d.tree.at? (d.goal r) ≠ none) : d.Reaches r :=
  reaches_of_exits (by simp [exits_of_no_up h]) ha hs

end Disk
end Stencil
