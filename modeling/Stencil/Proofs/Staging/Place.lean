import Mathlib.Data.List.Basic
import Stencil.Staging
import Stencil.Proofs.Disk.Walk

/-!
# Where staged paths lie

A valid path names a place below the root: its segments follow the place of the root, and different
paths lie at different places (`goal_join_inj`).
-/
namespace Stencil
open Disk

/-- Whether every staged path names a place below the root. -/
def Staging.Valid (s : Staging) : Prop := ∀ path ∈ s.paths, Layout.isValidPath path.toList

theorem Staging.paths_sorted (s : Staging) : s.paths.Pairwise (· < ·) :=
  List.pairwise_map.2 s.files.sorted

theorem Staging.paths_nodup (s : Staging) : s.paths.Nodup :=
  s.paths_sorted.imp fun {x y} hlt (e : x = y) => KeyOrder.irrefl _ (e ▸ hlt)

theorem Staging.mem_entries (s : Staging) (path content : String) :
    (path, content) ∈ s.entries ↔ s.get? path = some content :=
  SortedMap.mem_toList s.files path content

def Staging.oneFile (path content : String) : Staging := ⟨⟨[(path, content)], by simp⟩⟩

theorem Staging.oneFile_paths (path content : String) : (oneFile path content).paths = [path] := rfl

/-- Two files, one of them in a directory of its own. -/
def Staging.twoFiles : Staging := ⟨⟨[("a/x", "1"), ("b", "2")], by decide⟩⟩

theorem Staging.twoFiles_valid : twoFiles.Valid := by
  intro path hp
  have : path = "a/x" ∨ path = "b" := by simpa [twoFiles, paths, SortedMap.keys] using hp
  rcases this with rfl | rfl <;> decide

theorem ne_of_isPlainSegment {segment : Segment} (h : Layout.isPlainSegment segment) :
    segment ≠ [] ∧ segment ≠ ['.'] ∧ segment ≠ ['.', '.'] := by
  simpa [Layout.isPlainSegment, and_assoc] using h

theorem Disk.Step.ofSegment_of_isPlainSegment {segment : Segment}
    (h : Layout.isPlainSegment segment) :
    Step.ofSegment (String.ofList segment) = some (.down (String.ofList segment)) := by
  obtain ⟨h1, h2, h3⟩ := ne_of_isPlainSegment h
  have hne {cs : List Char} (hcs : segment ≠ cs) : String.ofList segment ≠ String.ofList cs :=
    fun e => hcs (String.ofList_injective e)
  have e1 : String.ofList segment ≠ "" := hne h1
  have e2 : String.ofList segment ≠ "." := hne h2
  have e3 : String.ofList segment ≠ ".." := hne h3
  simp [Step.ofSegment, e1, e2, e3]

namespace Disk.Route
variable {path : String}

theorem isPlainSegment_of_isValidPath (h : Layout.isValidPath path.toList) :
    ∀ segment ∈ Text.splitAt '/' path.toList, Layout.isPlainSegment segment := by
  simp only [Layout.isValidPath, Bool.and_eq_true, List.all_eq_true] at h
  exact h.2

/-- The route of a valid path goes down its segments. -/
theorem parse_of_isValidPath (h : Layout.isValidPath path.toList) :
    parse path =
      { absolute := false, steps := (Text.split '/' path).map .down, directoryOnly := false } := by
  have plain := isPlainSegment_of_isValidPath h
  have relative : path.toList.head? ≠ some '/' := by
    intro e
    obtain ⟨rest, hr⟩ := List.head?_eq_some_iff.1 e
    have := plain [] (by rw [hr]; simp [Text.splitAt])
    exact absurd rfl (ne_of_isPlainSegment this).1
  have steps : (Text.split '/' path).filterMap Step.ofSegment =
      (Text.split '/' path).map .down := by
    rw [Text.split, List.filterMap_map, List.map_map, ← List.filterMap_eq_map]
    exact List.filterMap_congr fun segment hs => Step.ofSegment_of_isPlainSegment (plain segment hs)
  have last (s : String) (hs : Step.ofSegment s = none) :
      (Text.split '/' path).getLast? ≠ some s := by
    intro e
    obtain ⟨segment, hm, rfl⟩ := List.mem_map.1 (List.mem_of_getLast? e)
    rw [Step.ofSegment_of_isPlainSegment (plain segment hm)] at hs
    cases hs
  simp [parse, relative, steps, last "" rfl, last "." rfl]

theorem split_injective {p q : String} (h : Text.split '/' p = Text.split '/' q) : p = q := by
  have hs : Text.splitAt '/' p.toList = Text.splitAt '/' q.toList :=
    List.map_injective_iff.2 (fun _ _ => String.ofList_injective) h
  have := congrArg (Text.join ['/']) hs
  rw [Text.join_splitAt, Text.join_splitAt] at this
  exact String.toList_inj.1 this

theorem split_ne_nil (path : String) : Text.split '/' path ≠ [] := by
  simpa [Text.split] using Text.splitAt_ne_nil '/' path.toList

end Disk.Route

namespace Disk
variable {root : Route} {path : String}

theorem join_of_isValidPath (h : Layout.isValidPath path.toList) :
    root.join path = { absolute := root.absolute
                       steps := root.steps ++ (Text.split '/' path).map .down
                       directoryOnly := false } := by
  rw [Route.join, Route.parse_of_isValidPath h]
  rfl

theorem start_join (d : Disk) (h : Layout.isValidPath path.toList) :
    d.start (root.join path) = d.start root := by
  rw [join_of_isValidPath h]
  rfl

theorem steps_join_ne_nil (h : Layout.isValidPath path.toList) : (root.join path).steps ≠ [] := by
  simp [join_of_isValidPath h, Route.split_ne_nil]

theorem not_mem_join_of_no_up (hroot : .up ∉ root.steps) (h : Layout.isValidPath path.toList) :
    .up ∉ (root.join path).steps := by
  simp [join_of_isValidPath h, hroot]

theorem goal_join (d : Disk) (h : Layout.isValidPath path.toList) :
    d.goal (root.join path) = d.goal root ++ Text.split '/' path := by
  rw [join_of_isValidPath h, goal, walk_append, walk_down]
  rfl

/-- Different paths lie at different places. -/
theorem goal_join_inj (d : Disk) {path' : String} (h : Layout.isValidPath path.toList)
    (h' : Layout.isValidPath path'.toList)
    (e : d.goal (root.join path) = d.goal (root.join path')) : path = path' := by
  rw [goal_join d h, goal_join d h'] at e
  exact Route.split_injective (List.append_cancel_left e)

end Disk
end Stencil
