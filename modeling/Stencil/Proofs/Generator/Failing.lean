import Stencil.Proofs.Generator.Order
import Stencil.Proofs.Preview.Plan

/-!
# Files that do not render

A selected file that does not render harms no other file. Without the failing files a run selects
the rest in the same order (`select_spared`), and so it stages the same; only the failures are gone.
A commit is another matter: it fails over the first of them before it touches any file
(`failing_files_harm_no_others`).
-/
namespace Stencil

/-! ## Sorting what is left -/

section Sorting
variable {α : Type} {le : α → α → Bool}

/-- Sorting puts an element behind those that are below it, and before the others. -/
theorem mergeSort_cons_eq (trans : ∀ a b c, le a b → le b c → le a c)
    (total : ∀ a b, le a b || le b a) (a : α) (l : List α) :
    (a :: l).mergeSort le =
      (l.mergeSort le).filter (!le a ·) ++ a :: (l.mergeSort le).filter (le a ·) := by
  obtain ⟨front, back, hcons, hsort, below⟩ := List.mergeSort_cons trans total a l
  have sorted := List.pairwise_mergeSort trans total (a :: l)
  rw [hcons] at sorted
  have above : ∀ b ∈ back, le a b :=
    (List.pairwise_cons.1 (List.pairwise_append.1 sorted).2.1).1
  have hfront : front.filter (le a ·) = [] := by
    simpa [List.filter_eq_nil_iff] using below
  have hback : back.filter (!le a ·) = [] := by
    simpa [List.filter_eq_nil_iff] using above
  rw [hcons, hsort, List.filter_append, List.filter_append, hfront, hback,
    List.filter_eq_self.2 below, List.filter_eq_self.2 above, List.append_nil, List.nil_append]

/-- What is left out does not count for the order of the rest. -/
theorem mergeSort_filter (trans : ∀ a b c, le a b → le b c → le a c)
    (total : ∀ a b, le a b || le b a) (p : α → Bool) (l : List α) :
    (l.filter p).mergeSort le = (l.mergeSort le).filter p := by
  induction l with
  | nil => simp
  | cons a l ih =>
    cases hp : p a with
    | false =>
      obtain ⟨front, back, hcons, hsort, -⟩ := List.mergeSort_cons trans total a l
      rw [List.filter_cons, hp, if_neg Bool.false_ne_true, ih, hcons, hsort]
      simp [hp]
    | true =>
      rw [List.filter_cons, hp, if_pos rfl, mergeSort_cons_eq trans total,
        mergeSort_cons_eq trans total, ih, List.filter_append, List.filter_cons, hp, if_pos rfl,
        List.filter_comm p, List.filter_comm p]

end Sorting

namespace Node
variable {nodes : List Node} {o : Options} {p : Node → Bool}

/-- Whether a file is selected does not depend on other files. -/
theorem isSelected_filter (h : ∀ n ∈ nodes, n.isFile = false → p n) :
    isSelected (nodes.filter p) o = isSelected nodes o := by
  have found (path : String) :
      ((nodes.filter p).reverse.find? fun n => !n.isFile && n.path == path) =
        nodes.reverse.find? fun n => !n.isFile && n.path == path := by
    rw [← List.filter_reverse, ← List.head?_filter, ← List.head?_filter, List.filter_filter]
    refine congrArg List.head? (List.filter_congr fun n hn => ?_)
    cases hfile : n.isFile with
    | true => rfl
    | false => simp [h n (List.mem_reverse.1 hn) hfile]
  funext n
  simp only [isSelected, directoryConditions, found]

theorem select_filter (h : ∀ n ∈ nodes, n.isFile = false → p n) :
    select (nodes.filter p) o = (select nodes o).filter p := by
  rw [select, select, isSelected_filter h, List.filter_comm]
  exact mergeSort_filter path_le_trans path_le_total p _

variable (renderer : Template.Renderer) (c : Template.Context)

/-- The selected files that do not render, in the order of their paths. -/
def failing (nodes : List Node) (o : Options) : List Node :=
  (select nodes o).filter (!·.renders renderer (.ofOptions o))

/-- The nodes without the files that do not render. -/
def spared (nodes : List Node) (o : Options) : List Node :=
  nodes.filter (· ∉ failing renderer nodes o)

theorem select_spared :
    select (spared renderer nodes o) o =
      (select nodes o).filter (·.renders renderer (.ofOptions o)) := by
  rw [spared, select_filter]
  · refine List.filter_congr fun n hn => ?_
    simp [failing, hn]
  · intro n hn hfile
    rw [decide_eq_true_eq]
    intro hfailing
    have := isFile_of_mem_select (List.mem_of_mem_filter hfailing)
    rw [hfile] at this
    cases this

/-- A file that does not render takes nothing away from the others. -/
theorem renderAll_filter (nodes : List Node) :
    renderAll renderer c (nodes.filter (·.renders renderer c)) =
      ((renderAll renderer c nodes).1, []) := by
  induction nodes with
  | nil => rfl
  | cons n rest ih =>
    cases htext : n.content with
    | none =>
      have hrenders : n.renders renderer c = false := by simp [renders, htext]
      simp [renderAll, htext, hrenders, ih]
    | some text =>
      rcases render_cases renderer c htext with ⟨r, hr, hrenders, -⟩ | ⟨e, he, hrenders, -⟩
      · simp [renderAll, htext, hr, hrenders, ih]
      · simp [renderAll, htext, he, hrenders, ih]

end Node

namespace Generator
variable {g : Generator} {schematic : String} {source : Schematic}
  {raw : RawOptions} {o : Options} {s : Staged}

/-- Without the files that do not render, the rest is staged as with them. -/
theorem stageNodes_spared (renderer : Template.Renderer) (nodes : List Node) (o : Options) :
    stageNodes renderer (Node.spared renderer nodes o) o =
      (stageNodes renderer nodes o).map fun s => { s with failures := [] } := by
  simp only [stageNodes_eq, Node.select_spared, Node.renderAll_filter, map_map]
  rfl

section
variable (hsource : g.library.get schematic = .ok source)
  (ho : Options.normalize (g.settings source) raw = .ok o)
include hsource ho

theorem stage_of_options : g.stage schematic raw = stageNodes g.renderer source.nodes o := by
  rw [stage_of_source hsource, ho]
  rfl

/-- The failures of a run are those of the files that do not render. -/
theorem failures_of_failing (hs : g.stage schematic raw = .ok s) :
    List.Forall₂ (fun n e => n.FailsWith g.renderer (.ofOptions o) e)
      (Node.failing g.renderer source.nodes o) s.failures := by
  rw [stage_of_options hsource ho] at hs
  obtain rfl := (stageNodes_ok hs).1
  exact (stageNodes_accounts hs).failed

/-- A run that is to commit fails before it touches anything, over the first file that does not
render if there is one, unless it does not even stage. -/
theorem generate_of_failing (hfailing : Node.failing g.renderer source.nodes o ≠ [])
    (hdry : o.dryRun = false) (d : Disk) : ∃ e,
      d.attempt (g.generate schematic raw) = (.error e, d) ∧
        ∀ s, g.stage schematic raw = .ok s →
          ∃ first ∈ (Node.failing g.renderer source.nodes o).head?,
            first.FailsWith g.renderer (.ofOptions o) e := by
  cases hs : g.stage schematic raw with
  | error e =>
    rw [attempt_generate, hs]
    exact ⟨e, rfl, fun s hs => by cases hs⟩
  | ok s =>
    have fails := failures_of_failing hsource ho hs
    have hoptions : s.options = o := (stageNodes_ok (stage_of_options hsource ho ▸ hs)).1
    obtain ⟨first, others, hfirst⟩ := List.exists_cons_of_ne_nil hfailing
    rw [hfirst] at fails ⊢
    obtain ⟨e, rest, first_fails, -, hfailures⟩ := List.forall₂_cons_left_iff.1 fails
    refine ⟨e, ?_, fun _ _ => ⟨first, rfl, first_fails⟩⟩
    rw [attempt_generate_commit hs d (by rw [hoptions, hdry]), commit_of_failure hfailures]
    rfl

/-- **Files that do not render harm no others in a dry run, and any commit.** Without them the rest
is staged the same, or fails the same, and their failures are all that is missing, in the order of
their paths. A run that is to commit fails if there are any, over the first of them if it stages,
and touches nothing. -/
theorem failing_files_harm_no_others :
    (∀ library : Library,
      library.get schematic =
          .ok { source with nodes := Node.spared g.renderer source.nodes o } →
        ({ g with library }).stage schematic raw =
          (g.stage schematic raw).map fun s => { s with failures := [] }) ∧
    (∀ s, g.stage schematic raw = .ok s →
      (Node.failing g.renderer source.nodes o).Pairwise (·.path ≤ ·.path) ∧
        List.Forall₂ (fun n e => n.FailsWith g.renderer (.ofOptions o) e)
          (Node.failing g.renderer source.nodes o) s.failures) ∧
    (Node.failing g.renderer source.nodes o ≠ [] → o.dryRun = false → ∀ d : Disk, ∃ e,
      d.attempt (g.generate schematic raw) = (.error e, d) ∧
        ∀ s, g.stage schematic raw = .ok s →
          ∃ first ∈ (Node.failing g.renderer source.nodes o).head?,
            first.FailsWith g.renderer (.ofOptions o) e) := by
  refine ⟨fun library hlibrary => ?_, fun s hs => ⟨?_, failures_of_failing hsource ho hs⟩,
    generate_of_failing hsource ho⟩
  · rw [stage_of_get hlibrary, ho, stage_of_options hsource ho]
    exact stageNodes_spared g.renderer source.nodes o
  · exact (Node.select_ordered source.nodes o).filter _

end

/-- The file of `mixedNodes` that does not render. -/
def unrenderable : Node := ⟨"b.txt", some "\x7b\x7b nobody \x7d\x7d", []⟩

theorem mixedNodes_spared : ∃ o,
    Options.normalize ((ofNodes mixedNodes).settings (schematicOf mixedNodes)) userOptions = .ok o ∧
      Node.failing Template.render mixedNodes o = [unrenderable] ∧
      (ofNodes (mixedNodes.filter (· ≠ unrenderable))).stage "pair" userOptions =
        ((ofNodes mixedNodes).stage "pair" userOptions).map (fun s => { s with failures := [] }) ∧
      ∀ d : Disk, ∃ e,
        d.attempt ((ofNodes mixedNodes).generate "pair" userOptions) = (.error e, d) := by
  have normalized : (Options.normalize ((ofNodes mixedNodes).settings (schematicOf mixedNodes))
      userOptions).map (fun o =>
        (o.dryRun, mixedFiles.filter (!·.renders Template.render (.ofOptions o)))) =
          .ok (false, [unrenderable]) := by decide +kernel
  obtain ⟨o, ho, h⟩ := map_eq_ok.1 normalized
  obtain ⟨hdry, hfiles⟩ := Prod.mk.inj h
  have hfailing : Node.failing Template.render mixedNodes o = [unrenderable] := by
    rw [Node.failing, select_mixedNodes]
    exact hfiles
  have hspared : Node.spared Template.render mixedNodes o =
      mixedNodes.filter (· ≠ unrenderable) := by
    rw [Node.spared, hfailing]
    decide
  have hsource : (ofNodes mixedNodes).library.get "pair" = .ok (schematicOf mixedNodes) := rfl
  obtain ⟨stages, -, aborts⟩ := failing_files_harm_no_others hsource ho
  refine ⟨o, ho, hfailing, ?_, fun d => ?_⟩
  · refine stages (ofNodes (mixedNodes.filter (· ≠ unrenderable))).library ?_
    show _ = Except.ok { schematicOf mixedNodes with
      nodes := Node.spared Template.render mixedNodes o }
    rw [hspared]
    rfl
  · have some_fail : Node.failing Template.render mixedNodes o ≠ [] := by simp [hfailing]
    obtain ⟨e, he, -⟩ := aborts some_fail hdry d
    exact ⟨e, he⟩

end Generator
end Stencil
