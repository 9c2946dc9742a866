import Mathlib.Data.List.Nodup
import Stencil.Proofs.Staging.Stage

/-!
# Directories gate what is below them

A file takes over the conditions of the directories above its path. These are looked up by path, and
of several nodes for one directory the last one is found, so the conditions of the others are lost.

* `directories_gate`: a file is selected exactly if its own conditions hold and so do those of the
  last node of each directory above it, and those of all nodes if no condition is lost.
* `losesNone_of_distinct`: none is lost if no directory is listed twice.
* `repeated_directory_opens`: a file is selected though a directory above it has a condition that
  does not hold.
-/
namespace Stencil

namespace Node

/-! ## What is above a path -/

/-- Whether a path is that of a directory above another one. -/
def IsAbove (dir path : String) : Prop := ∃ more, path = dir ++ "/" ++ more

theorem mem_beforeSlashes (before cs piece : List Char) : piece ∈ beforeSlashes before cs ↔
    ∃ front more, cs = front ++ '/' :: more ∧ piece = before.reverse ++ front := by
  induction cs generalizing before with
  | nil => simp [beforeSlashes]
  | cons c rest ih =>
    -- a front of the text is empty, and then `c` is the slash, or it begins with `c`
    have deeper : (∃ front more, rest = front ++ '/' :: more ∧
        piece = (c :: before).reverse ++ front) ↔ ∃ front more, front ≠ [] ∧
          c :: rest = front ++ '/' :: more ∧ piece = before.reverse ++ front := by
      constructor
      · rintro ⟨front, more, rfl, rfl⟩
        exact ⟨c :: front, more, by simp, rfl, by simp⟩
      · rintro ⟨front, more, hne, hrest, rfl⟩
        obtain ⟨c', front, rfl⟩ := List.exists_cons_of_ne_nil hne
        obtain ⟨rfl, rfl⟩ := List.cons.inj hrest
        exact ⟨front, more, rfl, by simp⟩
    by_cases hc : c = '/'
    · subst hc
      rw [beforeSlashes, if_pos rfl, List.mem_cons, ih, deeper]
      constructor
      · rintro (rfl | ⟨front, more, -, hrest, hpiece⟩)
        · exact ⟨[], rest, rfl, by simp⟩
        · exact ⟨front, more, hrest, hpiece⟩
      · rintro ⟨front, more, hrest, hpiece⟩
        by_cases hfront : front = []
        · exact .inl (by simpa [hfront] using hpiece)
        · exact .inr ⟨front, more, hfront, hrest, hpiece⟩
    · rw [beforeSlashes, if_neg hc, ih, deeper]
      constructor
      · rintro ⟨front, more, -, hrest, hpiece⟩
        exact ⟨front, more, hrest, hpiece⟩
      · rintro ⟨front, more, hrest, hpiece⟩
        refine ⟨front, more, ?_, hrest, hpiece⟩
        rintro rfl
        exact hc (List.cons.inj hrest).1

/-- The ancestors of a path are the directories above it. -/
theorem mem_ancestors_iff {dir path : String} : dir ∈ ancestors path ↔ IsAbove dir path := by
  simp only [ancestors, List.mem_map, mem_beforeSlashes, List.reverse_nil, List.nil_append]
  constructor
  · rintro ⟨piece, ⟨front, more, hpath, rfl⟩, rfl⟩
    refine ⟨String.ofList more, String.toList_inj.1 ?_⟩
    simpa using hpath
  · rintro ⟨more, rfl⟩
    exact ⟨dir.toList, ⟨dir.toList, more.toList, by simp, rfl⟩, String.ofList_toList⟩

instance (dir path : String) : Decidable (IsAbove dir path) :=
  decidable_of_iff _ mem_ancestors_iff

/-! ## Which node counts -/

variable {nodes : List Node} {dir : Node} {o : Options}

/-- Whether a node is the last one for its directory. -/
def Prevails (nodes : List Node) (dir : Node) : Prop :=
  dir.isFile = false ∧ ∃ before after, nodes = before ++ dir :: after ∧
    ∀ n ∈ after, n.isFile = false → n.path ≠ dir.path

theorem Prevails.mem (h : Prevails nodes dir) : dir ∈ nodes := by
  obtain ⟨-, before, after, rfl, -⟩ := h
  simp

/-- The node that is found for a directory is the one that prevails. -/
theorem find?_eq_some_iff_prevails {path : String} :
    (nodes.reverse.find? fun n => !n.isFile && n.path == path) = some dir ↔
      Prevails nodes dir ∧ dir.path = path := by
  rw [List.find?_eq_some_iff_append]
  constructor
  · rintro ⟨found, after, before, hnodes, later⟩
    simp only [Bool.and_eq_true, Bool.not_eq_true', beq_iff_eq] at found
    obtain ⟨hdir, rfl⟩ := found
    refine ⟨⟨hdir, before.reverse, after.reverse, ?_, fun n hn hfile hpath => ?_⟩, rfl⟩
    · rw [← List.reverse_reverse nodes, hnodes]
      simp
    · have := later n (List.mem_reverse.1 hn)
      simp [hfile, hpath] at this
  · rintro ⟨⟨hdir, before, after, rfl, later⟩, rfl⟩
    refine ⟨by simp [hdir], after.reverse, before.reverse, by simp, fun n hn => ?_⟩
    have := later n (List.mem_reverse.1 hn)
    cases hfile : n.isFile with
    | true => simp
    | false => simpa using this hfile

theorem allHold_directoryConditions (path : String) :
    Condition.allHold (directoryConditions nodes path) o ↔
      ∀ dir, Prevails nodes dir → dir.path = path → Condition.allHold dir.conditions o := by
  unfold directoryConditions
  constructor
  · intro held dir hdir hpath
    rwa [find?_eq_some_iff_prevails.2 ⟨hdir, hpath⟩] at held
  · intro held
    split
    · rename_i dir hfound
      obtain ⟨hdir, hpath⟩ := find?_eq_some_iff_prevails.1 hfound
      exact held dir hdir hpath
    · rfl

/-- A file is selected if its own conditions hold and those that prevail above it. -/
theorem isSelected_iff_prevailing (n : Node) : isSelected nodes o n ↔ n.isFile ∧
    Condition.allHold n.conditions o ∧
      ∀ dir, Prevails nodes dir → IsAbove dir.path n.path → Condition.allHold dir.conditions o := by
  have above : ((ancestors n.path).all fun dir =>
      Condition.allHold (directoryConditions nodes dir) o) ↔
        ∀ dir, Prevails nodes dir → IsAbove dir.path n.path →
          Condition.allHold dir.conditions o := by
    simp only [List.all_eq_true, mem_ancestors_iff, allHold_directoryConditions]
    constructor
    · intro held dir hdir habove
      exact held dir.path habove dir hdir rfl
    · rintro held path habove dir hdir rfl
      exact held dir hdir habove
  rw [isSelected, Bool.and_eq_true, Bool.and_eq_true, above, and_assoc, and_comm (a := ∀ dir, _)]

/-- Every directory among the nodes has a node that prevails. -/
theorem exists_prevails (hdir : dir ∈ nodes) (hfile : dir.isFile = false) :
    ∃ last, Prevails nodes last ∧ last.path = dir.path := by
  have found : (nodes.reverse.find? fun n => !n.isFile && n.path == dir.path).isSome := by
    rw [List.find?_isSome]
    exact ⟨dir, List.mem_reverse.2 hdir, by simp [hfile]⟩
  obtain ⟨last, hlast⟩ := Option.isSome_iff_exists.1 found
  exact ⟨last, find?_eq_some_iff_prevails.1 hlast⟩

/-- Whether no condition is lost: where those of the last node of a directory hold, so do those of
its other nodes. -/
def LosesNone (nodes : List Node) (o : Options) : Prop :=
  ∀ dir ∈ nodes, dir.isFile = false → ∀ last, Prevails nodes last → last.path = dir.path →
    Condition.allHold last.conditions o → Condition.allHold dir.conditions o

/-- No condition is lost if no directory is listed twice. -/
theorem losesNone_of_distinct (distinct : ((nodes.filter (!·.isFile)).map (·.path)).Nodup) :
    LosesNone nodes o := by
  intro dir hdir hfile last hlast hpath held
  have among : ∀ n ∈ nodes, n.isFile = false → n ∈ nodes.filter (!·.isFile) :=
    fun n hn h => List.mem_filter.2 ⟨hn, by simp [h]⟩
  obtain rfl : last = dir := List.inj_on_of_nodup_map distinct (among last hlast.mem hlast.1)
    (among dir hdir hfile) hpath
  exact held

/-- Conditions that prevail above a path hold exactly if all conditions above it do. -/
theorem LosesNone.allHold_above (h : LosesNone nodes o) (path : String) :
    (∀ dir, Prevails nodes dir → IsAbove dir.path path → Condition.allHold dir.conditions o) ↔
      ∀ dir ∈ nodes, dir.isFile = false → IsAbove dir.path path →
        Condition.allHold dir.conditions o := by
  constructor
  · intro held dir hdir hfile habove
    obtain ⟨last, hlast, hpath⟩ := exists_prevails hdir hfile
    exact h dir hdir hfile last hlast hpath (held last hlast (hpath ▸ habove))
  · intro held dir hdir habove
    exact held dir hdir.mem hdir.1 habove

/-- **Directories gate what is below them,** each by its last node, and by all of its nodes if no
condition is lost. -/
theorem directories_gate (nodes : List Node) (o : Options) (n : Node) :
    (n ∈ select nodes o ↔ n ∈ nodes ∧ n.isFile ∧ Condition.allHold n.conditions o ∧
      ∀ dir, Prevails nodes dir → IsAbove dir.path n.path → Condition.allHold dir.conditions o) ∧
    (LosesNone nodes o →
      (n ∈ select nodes o ↔ n ∈ nodes ∧ n.isFile ∧ Condition.allHold n.conditions o ∧
        ∀ dir ∈ nodes, dir.isFile = false → IsAbove dir.path n.path →
          Condition.allHold dir.conditions o)) := by
  have prevailing : n ∈ select nodes o ↔ n ∈ nodes ∧ n.isFile ∧ Condition.allHold n.conditions o ∧
      ∀ dir, Prevails nodes dir → IsAbove dir.path n.path →
        Condition.allHold dir.conditions o := by
    rw [mem_select, isSelected_iff_prevailing]
  exact ⟨prevailing, fun h => by rw [prevailing, h.allHold_above]⟩

/-- Options of a run with tests. -/
def testedOptions : Options :=
  { name := "user", names := .ofName "user", path := "", database := .none, messaging := .none
    auth := .none, crud := .orm, operations := [], skipTests := false, flat := false
    dryRun := false, applyMigrations := false, force := false }

/-- A directory that is listed twice and one for runs without tests, with a file in each. -/
def gatedNodes : List Node :=
  [⟨"a", none, [.notFlag .skipTests]⟩, ⟨"a/x", some "1", []⟩, ⟨"b", none, [.flag .skipTests]⟩,
    ⟨"b/c/y", some "2", []⟩, ⟨"a", none, []⟩]

theorem gatedNodes_gated : LosesNone gatedNodes testedOptions ∧
    ⟨"a/x", some "1", []⟩ ∈ select gatedNodes testedOptions ∧
      ⟨"b/c/y", some "2", []⟩ ∉ select gatedNodes testedOptions := by
  have kept : ∀ dir ∈ gatedNodes, ∀ last ∈ gatedNodes, last.path = dir.path →
      Condition.allHold last.conditions testedOptions →
        Condition.allHold dir.conditions testedOptions := by decide
  have h : LosesNone gatedNodes testedOptions :=
    fun dir hdir _ last hlast hpath held => kept dir hdir last hlast.mem hpath held
  refine ⟨h, ((directories_gate _ _ _).2 h).2 (by decide), fun hy => ?_⟩
  exact absurd (((directories_gate _ _ _).2 h).1 hy) (by decide)

/-- A directory that is listed twice, the first time for runs without tests, with a file in it. -/
def reopenedNodes : List Node :=
  [⟨"a", none, [.flag .skipTests]⟩, ⟨"a", none, []⟩, ⟨"a/x", some "1", []⟩]

/-- A file below a directory is selected though not all conditions of the directory hold. -/
theorem repeated_directory_opens : ¬ ∀ (nodes : List Node) (o : Options) (n : Node),
    n ∈ select nodes o ↔ n ∈ nodes ∧ n.isFile ∧ Condition.allHold n.conditions o ∧
      ∀ dir ∈ nodes, dir.isFile = false → IsAbove dir.path n.path →
        Condition.allHold dir.conditions o := by
  intro claim
  have selected : ⟨"a/x", some "1", []⟩ ∈ select reopenedNodes testedOptions :=
    mem_select.2 (by decide)
  exact absurd ((claim _ _ _).1 selected) (by decide)

end Node
end Stencil
