import Stencil.Proofs.Staging.Stage

/-!
# Staged paths stay inside of the destination

A destination is made of names, and every staged path goes on behind them by at least one more
(`stage_inside`). So below whatever root, every staged file lies strictly below the destination.
-/
namespace Stencil
open Disk

/-- Whether a text is the name of something in a directory. -/
def IsName (text : String) : Prop := text ≠ "" ∧ text ≠ "." ∧ text ≠ ".." ∧ '/' ∉ text.toList

instance (text : String) : Decidable (IsName text) := inferInstanceAs (Decidable (_ ∧ _ ∧ _ ∧ _))

theorem isName_of_isPlainSegment {segment : Segment} (h : Layout.isPlainSegment segment)
    (hs : '/' ∉ segment) : IsName (String.ofList segment) := by
  obtain ⟨h1, h2, h3⟩ := ne_of_isPlainSegment h
  have hne {cs : List Char} (hcs : segment ≠ cs) : String.ofList segment ≠ String.ofList cs :=
    fun e => hcs (String.ofList_injective e)
  exact ⟨hne h1, hne h2, hne h3, by rwa [String.toList_ofList]⟩

/-- The pieces of a valid path are names. -/
theorem isName_of_mem_split {path : String} (h : Layout.isValidPath path.toList) :
    ∀ name ∈ Text.split '/' path, IsName name := by
  intro name hname
  obtain ⟨segment, hs, rfl⟩ := List.mem_map.1 hname
  exact isName_of_isPlainSegment (Route.isPlainSegment_of_isValidPath h segment hs)
    (Text.not_mem_of_mem_splitAt hs)

/-! ## The names of a destination -/

namespace Destination

/-- The names on the way from the workspace root to a destination. -/
def names (destination : String) : List String :=
  if destination = "" then [] else Text.split '/' destination

theorem intercalate_names (destination : String) :
    "/".intercalate (names destination) = destination := by
  unfold names
  split
  · rename_i hroot
    rw [hroot, String.intercalate_nil]
  · exact Text.intercalate_split '/' destination

theorem isName_of_mem_names {destination : String}
    (h : destination = "" ∨ Layout.isValidPath destination.toList) :
    ∀ name ∈ names destination, IsName name := by
  unfold names
  split
  · simp
  · rename_i hroot
    exact isName_of_mem_split (h.resolve_left hroot)

/-- A destination lies at its names below the root. -/
theorem goal_join {destination : String}
    (h : destination = "" ∨ Layout.isValidPath destination.toList) (d : Disk) (root : Route) :
    d.goal (root.join destination) = d.goal root ++ names destination := by
  unfold names
  split
  · rename_i hroot
    subst hroot
    have nowhere : (Route.parse "").steps = [] := rfl
    have relative : (Route.parse "").absolute = false := rfl
    simp [Route.join, Route.append, goal, start, nowhere, relative]
  · rename_i hroot
    exact Disk.goal_join d (h.resolve_left hroot)

end Destination

/-- What is put below a destination goes on behind its names. -/
theorem Layout.split_below (destination : String) {segments : List Segment} (h : segments ≠ []) :
    Text.split '/' (Layout.below destination segments) = Destination.names destination ++
      (segments.flatMap (Text.splitAt '/')).map String.ofList := by
  unfold Layout.below Destination.names
  split
  · rw [Text.split, String.toList_ofList, Text.splitAt_join h, List.nil_append]
  · have cut : (destination ++ "/" ++ String.ofList (Text.join ['/'] segments)).toList =
        destination.toList ++ '/' :: Text.join ['/'] segments := by simp
    rw [Text.split, cut, Text.splitAt_append, Text.splitAt_join h, List.map_append]
    rfl

/-! ## Whole runs -/

/-- **Nothing is staged outside of the destination.** The destination is made of names, and a staged
path of these and at least one more, so that it leads strictly below the destination. -/
theorem Generator.stage_inside {g : Generator} {schematic : String} {raw : RawOptions} {s : Staged}
    (h : g.stage schematic raw = .ok s) : ∃ destination : List String,
      (∀ name ∈ destination, IsName name) ∧ s.options.path = "/".intercalate destination ∧
      ∀ path ∈ s.files.paths, ∃ more, more ≠ [] ∧ (∀ name ∈ more, IsName name) ∧
        path = "/".intercalate (destination ++ more) ∧
        ∀ d : Disk, d.goal (g.root.join path) = d.goal (g.root.join s.options.path) ++ more := by
  have hd := stage_destination h
  refine ⟨Destination.names s.options.path, Destination.isName_of_mem_names hd,
    (Destination.intercalate_names _).symm, fun path hp => ?_⟩
  have valid := stage_valid h path hp
  obtain ⟨segments, hne, -, hbelow⟩ := stage_below h hp
  have hsplit := Layout.split_below s.options.path hne
  rw [← hbelow] at hsplit
  have hmore : (segments.flatMap (Text.splitAt '/')).map String.ofList ≠ [] := by
    obtain ⟨first, rest, rfl⟩ := List.exists_cons_of_ne_nil hne
    simp [Text.splitAt_ne_nil]
  generalize (segments.flatMap (Text.splitAt '/')).map String.ofList = more at hsplit hmore
  refine ⟨more, hmore, fun name hname => ?_, ?_, fun d => ?_⟩
  · exact isName_of_mem_split valid name (hsplit ▸ List.mem_append_right _ hname)
  · rw [← hsplit]
    exact (Text.intercalate_split '/' path).symm
  · rw [Disk.goal_join d valid, hsplit, Destination.goal_join hd, List.append_assoc]

/-- Options with a destination that takes detours. -/
def detourOptions : RawOptions := [("name", .string "user"), ("path", .string ".\\lib//x/..")]

/-- Below a root with `..` the destination `lib` holds what is staged. -/
theorem pairGenerator_inside : ∃ s, (pairGenerator "ws/..").stage "pair" detourOptions = .ok s ∧
    s.options.path = "lib" ∧ s.files.paths = ["lib/a/x", "lib/b"] ∧
    ∃ destination : List String, (∀ name ∈ destination, IsName name) ∧
      s.options.path = "/".intercalate destination ∧
      ∀ path ∈ s.files.paths, ∃ more, more ≠ [] ∧ (∀ name ∈ more, IsName name) ∧
        path = "/".intercalate (destination ++ more) ∧
        ∀ d : Disk, d.goal ((pairGenerator "ws/..").root.join path) =
          d.goal ((pairGenerator "ws/..").root.join s.options.path) ++ more := by
  have staged : ((pairGenerator "ws/..").stage "pair" detourOptions).map
      (fun s => (s.options.path, s.files.paths)) = .ok ("lib", ["lib/a/x", "lib/b"]) := by
    rw [pairGenerator_stage_eq]
    rfl
  obtain ⟨s, hs, h⟩ := map_eq_ok.1 staged
  rw [Prod.mk.injEq] at h
  exact ⟨s, hs, h.1, h.2, Generator.stage_inside hs⟩

end Stencil
