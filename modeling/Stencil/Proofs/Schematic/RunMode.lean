import Stencil.Proofs.Schematic.Loading

/-!
# Run modes

The switches `flat`, `dry_run` and `force` say how a run lays out and writes its files, not what it
generates. Validated conditions ask for none of them (`validated_blind`), so the conditions of a
schematic that was loaded do not (`load_blind`), and placeholders do not see them. The last two do
not count for the layout either: two runs that differ in them alone stage the same
(`load_modeless`).
-/
namespace Stencil
open Disk

namespace Condition

/-- Whether a condition does not ask for a switch of the run mode. -/
def IsBlind : Condition → Prop
  | flag f | notFlag f => f.isRunMode = false
  | _ => True

/-- Validated conditions do not ask for the run mode. -/
theorem validated_blind {c c' : Condition} (h : c.validated = .ok c') : c'.IsBlind := by
  cases c with
  | equals key value | notEquals key value =>
    obtain ⟨value', -, h⟩ := bind_eq_ok.1 h
    cases h
    trivial
  | anyOf key values =>
    obtain ⟨values', -, h⟩ := bind_eq_ok.1 h
    cases h
    trivial
  | flag f | notFlag f =>
    simp only [validated] at h
    split at h
    · cases h
    · rename_i hmode
      cases h
      exact eq_false_of_ne_true hmode
  | operation op =>
    cases h
    trivial

variable (o : Options) (flat dryRun force : Bool)

theorem evaluate_of_blind {c : Condition} (h : c.IsBlind) :
    c.evaluate { o with flat, dryRun, force } = c.evaluate o := by
  cases c with
  | equals key value | notEquals key value | anyOf key values => cases key <;> rfl
  | flag f | notFlag f => cases f <;> first | rfl | cases h
  | operation op => rfl

theorem allHold_of_blind {conditions : List Condition} (h : ∀ c ∈ conditions, c.IsBlind) :
    allHold conditions { o with flat, dryRun, force } = allHold conditions o := by
  rw [allHold, allHold, Bool.eq_iff_iff, List.all_eq_true, List.all_eq_true]
  exact forall₂_congr fun c hc => by rw [evaluate_of_blind o flat dryRun force (h c hc)]

end Condition

/-! ## Loaded conditions -/

/-- The conditions of a schematic that was loaded do not ask for the run mode. -/
theorem Schematic.load_blind {d d' : Disk} {name dir : String} {s : Schematic}
    (h : d.attempt (load name dir) = (.ok s, d')) :
    ∀ n ∈ s.nodes, ∀ c ∈ n.conditions, c.IsBlind := by
  obtain ⟨rules, ignored, base, loaded⟩ := load_ok h
  obtain ⟨origin, text, hparse⟩ := loaded.read
  intro n hn c hc
  obtain ⟨place, -, read⟩ := exists_of_forall₂ loaded.nodes hn
  rw [read.conditions, conditionsFor, List.mem_flatMap] at hc
  obtain ⟨r, hr, hc⟩ := hc
  obtain ⟨gate, hgate, -, e⟩ :=
    exists_of_forall₂ (Manifest.compile_ok loaded.compiled) (List.mem_of_mem_filter hr)
  rw [e] at hc
  -- a rule of the manifest, or one that stands for an operation
  rcases List.mem_append.1 hgate with hrule | hoperation
  · obtain ⟨given, hgiven⟩ := Manifest.parse_ok hparse gate hrule c hc
    exact Condition.validated_blind hgiven
  · obtain ⟨entry, -, rfl⟩ := List.mem_map.1 hoperation
    obtain rfl := List.mem_singleton.1 hc
    trivial

/-! ## Stages -/

section Stages
variable (o : Options) (flat dryRun force : Bool)

theorem Node.directoryConditions_blind {nodes : List Node}
    (h : ∀ n ∈ nodes, ∀ c ∈ n.conditions, c.IsBlind) (path : String) :
    ∀ c ∈ directoryConditions nodes path, c.IsBlind := by
  unfold directoryConditions
  split
  · rename_i n hn
    exact h n (List.mem_reverse.1 (List.mem_of_find?_eq_some hn))
  · simp

/-- Blind conditions select the same files in every run mode. -/
theorem Node.select_of_blind {nodes : List Node}
    (h : ∀ n ∈ nodes, ∀ c ∈ n.conditions, c.IsBlind) :
    select nodes { o with flat, dryRun, force } = select nodes o := by
  unfold select
  congr 1
  refine List.filter_congr fun n hn => ?_
  have above : ((ancestors n.path).all fun dir =>
      Condition.allHold (directoryConditions nodes dir) { o with flat, dryRun, force }) =
        (ancestors n.path).all fun dir => Condition.allHold (directoryConditions nodes dir) o :=
    List.all_congr rfl fun dir =>
      Condition.allHold_of_blind o flat dryRun force (directoryConditions_blind h dir)
  rw [isSelected, above, Condition.allHold_of_blind o flat dryRun force (h n hn), ← isSelected]

/-- Placeholders do not see the run mode. -/
theorem Template.Context.ofOptions_modeless :
    ofOptions { o with flat, dryRun, force } = ofOptions o := rfl

/-- Of the run mode, only the flat layout counts for where files go. -/
theorem Layout.placeFrom_modeless (seen : Seen) (rendered : List Rendered) :
    placeFrom { o with dryRun, force } seen rendered = placeFrom o seen rendered := by
  induction rendered generalizing seen with
  | nil => rfl
  | cons r rest ih =>
    have resolved : resolve { o with dryRun, force } r.path = resolve o r.path := rfl
    simp only [placeFrom, resolved, ih]

/-- What a run of blind nodes stages does not depend on whether it is a dry or a forced one. -/
theorem Generator.stageNodes_of_blind (renderer : Template.Renderer) {nodes : List Node}
    (h : ∀ n ∈ nodes, ∀ c ∈ n.conditions, c.IsBlind) :
    stageNodes renderer nodes { o with dryRun, force } =
      (stageNodes renderer nodes o).map fun s => { s with options := { o with dryRun, force } } := by
  have selected : Node.select nodes { o with dryRun, force } = Node.select nodes o :=
    Node.select_of_blind o o.flat dryRun force h
  have context : Template.Context.ofOptions { o with dryRun, force } = .ofOptions o :=
    Template.Context.ofOptions_modeless o o.flat dryRun force
  simp only [stageNodes_eq, selected, context, Layout.place, Layout.placeFrom_modeless, map_map]
  rfl

end Stages

/-- **Run modes do not change what is generated.** Whatever is loaded, and however it is rendered,
all run modes select and render the same; and what is staged depends on no switch of the run mode
but the flat layout. -/
theorem Schematic.load_modeless {d d' : Disk} {name dir : String} {s : Schematic}
    (h : d.attempt (load name dir) = (.ok s, d')) (renderer : Template.Renderer) (o : Options)
    (flat dryRun force : Bool) :
    (Node.select s.nodes { o with flat, dryRun, force } = Node.select s.nodes o ∧
      Node.renderAll renderer (.ofOptions { o with flat, dryRun, force })
          (Node.select s.nodes { o with flat, dryRun, force }) =
        Node.renderAll renderer (.ofOptions o) (Node.select s.nodes o)) ∧
    (Generator.stageNodes renderer s.nodes { o with dryRun, force }).map
        (fun staged => (staged.files, staged.failures)) =
      (Generator.stageNodes renderer s.nodes o).map
        fun staged => (staged.files, staged.failures) := by
  have blind := load_blind h
  have selected := Node.select_of_blind o flat dryRun force blind
  refine ⟨⟨selected, ?_⟩, ?_⟩
  · rw [selected, Template.Context.ofOptions_modeless]
  · rw [Generator.stageNodes_of_blind o dryRun force renderer blind]
    cases Generator.stageNodes renderer s.nodes o <;> rfl

/-- A disk with a schematic of two templates, one of them for runs with tests. -/
def gatedDisk : Disk :=
  let manifest :=
    "\x7b\"rules\": [\x7b\"paths\": [\"t\"], \"when\": [\x7b\"not_flag\": \"skip_tests\"\x7d]\x7d]\x7d"
  { tree := FileTree.empty |>.put ["s"] .directory
      |>.put ["s", "schematic.json"] (.file manifest.toUTF8) |>.put ["s", "files"] .directory
      |>.put ["s", "files", "a"] (.file "1".toUTF8) |>.put ["s", "files", "t"] (.file "2".toUTF8)
    here := [], admits := isCommonName, mishap := none }

theorem gatedDisk_modeless : ∃ s d', gatedDisk.attempt (Schematic.load "s" "s") = (.ok s, d') ∧
    s.nodes = [⟨"a", some "1", []⟩, ⟨"t", some "2", [.notFlag .skipTests]⟩] ∧
    ∀ (renderer : Template.Renderer) (o : Options) (flat dryRun force : Bool),
      (Node.select s.nodes { o with flat, dryRun, force } = Node.select s.nodes o ∧
        Node.renderAll renderer (.ofOptions { o with flat, dryRun, force })
            (Node.select s.nodes { o with flat, dryRun, force }) =
          Node.renderAll renderer (.ofOptions o) (Node.select s.nodes o)) ∧
      (Generator.stageNodes renderer s.nodes { o with dryRun, force }).map
          (fun staged => (staged.files, staged.failures)) =
        (Generator.stageNodes renderer s.nodes o).map
          fun staged => (staged.files, staged.failures) := by
  have loaded : (gatedDisk.attempt (Schematic.load "s" "s")).1.map (·.nodes) =
      .ok [⟨"a", some "1", []⟩, ⟨"t", some "2", [.notFlag .skipTests]⟩] := by decide +kernel
  obtain ⟨s, d', hload, hnodes⟩ := attempt_of_map_eq_ok loaded
  exact ⟨s, d', hload, hnodes, Schematic.load_modeless hload⟩

end Stencil
