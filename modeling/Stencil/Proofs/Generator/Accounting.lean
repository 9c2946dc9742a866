import Stencil.Proofs.Staging.Stage

/-!
# Every selected file is accounted for

A run that stages keeps a reckoning of the files that it selects: those that render are staged, each
under its own path, and for each of the others there is a failure (`stage_accounts`). If two of
them come to one path the run fails, so that no file takes the place of another.
-/
namespace Stencil

namespace Node

variable (renderer : Template.Renderer) (c : Template.Context)

/-- Whether the path and the content of a file render to these. -/
def RendersTo (n : Node) (path content : String) : Prop :=
  renderer n.path n.path c = .ok path ∧
    ∃ text, n.content = some text ∧ renderer n.path text c = .ok content

/-- Whether rendering a file fails so: over its path, or over its content if the path renders. -/
def FailsWith (n : Node) (e : Failure) : Prop :=
  ∃ text, n.content = some text ∧ (renderer n.path n.path c = .error e ∨
    ∃ path, renderer n.path n.path c = .ok path ∧ renderer n.path text c = .error e)

def renders (n : Node) : Bool :=
  (renderer n.path n.path c).isOk && n.content.any fun text => (renderer n.path text c).isOk

/-- A file renders, or fails to, for the whole of it. -/
theorem render_cases {n : Node} {text : String} (h : n.content = some text) :
    (∃ r, n.render renderer c text = .ok r ∧ n.renders renderer c = true ∧
        n.RendersTo renderer c r.path r.content) ∨
      ∃ e, n.render renderer c text = .error e ∧ n.renders renderer c = false ∧
        n.FailsWith renderer c e := by
  cases hpath : renderer n.path n.path c with
  | error e =>
    refine .inr ⟨e, ?_, ?_, text, h, .inl hpath⟩
    · rw [render, hpath]
      rfl
    · rw [renders, hpath]
      rfl
  | ok path =>
    cases hcontent : renderer n.path text c with
    | error e =>
      refine .inr ⟨e, ?_, ?_, text, h, .inr ⟨path, hpath, hcontent⟩⟩
      · rw [render, hpath]
        simp only [bind, Except.bind, hcontent]
      · rw [renders, hpath, h, Option.any_some, hcontent]
        rfl
    | ok content =>
      refine .inl ⟨⟨n.path, path, content⟩, ?_, ?_, hpath, text, h, hcontent⟩
      · rw [render, hpath]
        simp only [bind, Except.bind, hcontent]
        rfl
      · rw [renders, hpath, h, Option.any_some, hcontent]
        rfl

/-- Of some files, those that render are rendered, and the others fail, in their order. -/
theorem renderAll_accounts {nodes : List Node} (files : ∀ n ∈ nodes, n.isFile) :
    List.Forall₂ (fun n r => n.RendersTo renderer c r.path r.content)
        (nodes.filter (·.renders renderer c)) (renderAll renderer c nodes).1 ∧
      List.Forall₂ (fun n e => n.FailsWith renderer c e)
        (nodes.filter (!·.renders renderer c)) (renderAll renderer c nodes).2 := by
  induction nodes with
  | nil => exact ⟨.nil, .nil⟩
  | cons n rest ih =>
    obtain ⟨hn, hrest⟩ := List.forall_mem_cons.1 files
    obtain ⟨text, htext⟩ := Option.isSome_iff_exists.1 hn
    obtain ⟨done, failed⟩ := ih hrest
    rcases render_cases renderer c htext with
      ⟨r, hr, hrenders, rendered⟩ | ⟨e, he, hrenders, fails⟩
    · simp only [renderAll, htext, hr, List.filter_cons, hrenders, if_true, Bool.not_true,
        Bool.false_eq_true, if_false]
      exact ⟨.cons rendered done, failed⟩
    · simp only [renderAll, htext, he, List.filter_cons, hrenders, if_true, Bool.not_false,
        Bool.false_eq_true, if_false]
      exact ⟨done, .cons fails failed⟩

end Node

/-- Whether a file renders to this content and its rendered path is resolved to this path. -/
def Node.Yields (renderer : Template.Renderer) (o : Options) (n : Node) (path content : String) :
    Prop :=
  ∃ rendered place, n.RendersTo renderer (.ofOptions o) rendered content ∧
    Layout.resolve o rendered = .ok place ∧ place.final = path

/-- Whether a staged run accounts for each of the files that it selects. -/
structure Staged.Accounts (renderer : Template.Renderer) (nodes : List Node) (s : Staged) :
    Prop where
  /-- The selected files are in the order of their paths, and so are the failures. -/
  ordered : (Node.select nodes s.options).Pairwise (·.path ≤ ·.path)
  staged : ∃ entries, entries.Perm s.files.entries ∧
    List.Forall₂ (fun n e => n.Yields renderer s.options e.1 e.2)
      ((Node.select nodes s.options).filter (·.renders renderer (.ofOptions s.options))) entries
  failed : List.Forall₂ (fun n e => n.FailsWith renderer (.ofOptions s.options) e)
    ((Node.select nodes s.options).filter (!·.renders renderer (.ofOptions s.options))) s.failures
  count : (Node.select nodes s.options).length = s.files.size + s.failures.length

theorem Node.Yields.unique {renderer : Template.Renderer} {o : Options} {n : Node}
    {path path' content content' : String} (h : n.Yields renderer o path content)
    (h' : n.Yields renderer o path' content') : path = path' := by
  obtain ⟨rendered, place, ⟨hpath, -⟩, hplace, rfl⟩ := h
  obtain ⟨rendered', place', ⟨hpath', -⟩, hplace', rfl⟩ := h'
  obtain rfl : rendered = rendered' := Except.ok.inj (hpath.symm.trans hpath')
  obtain rfl : place = place' := Except.ok.inj (hplace.symm.trans hplace')
  rfl

theorem Node.Yields.renders {renderer : Template.Renderer} {o : Options} {n : Node}
    {path content : String} (h : n.Yields renderer o path content) :
    n.renders renderer (.ofOptions o) = true := by
  obtain ⟨rendered, -, ⟨hpath, text, htext, hcontent⟩, -⟩ := h
  rw [Node.renders, hpath, htext, Option.any_some, hcontent]
  rfl

namespace Node

theorem path_le_trans (a b c : Node) (hab : decide (a.path ≤ b.path))
    (hbc : decide (b.path ≤ c.path)) : decide (a.path ≤ c.path) :=
  decide_eq_true (String.le_trans (of_decide_eq_true hab) (of_decide_eq_true hbc))

theorem path_le_total (a b : Node) : decide (a.path ≤ b.path) || decide (b.path ≤ a.path) := by
  simpa using String.le_total _ _

theorem select_ordered (nodes : List Node) (o : Options) :
    (select nodes o).Pairwise (·.path ≤ ·.path) :=
  (List.pairwise_mergeSort path_le_trans path_le_total _).imp of_decide_eq_true

end Node

namespace Generator
variable {g : Generator} {schematic : String} {raw : RawOptions}

theorem stageNodes_accounts {renderer : Template.Renderer} {nodes : List Node} {o : Options}
    {s : Staged} (h : stageNodes renderer nodes o = .ok s) : s.Accounts renderer nodes := by
  obtain ⟨rfl, placed, hplaced, hfiles, hfailures⟩ := stageNodes_ok h
  have files : ∀ n ∈ Node.select nodes s.options, n.isFile := fun n hn =>
    Node.isFile_of_mem_select hn
  obtain ⟨rendered, failed⟩ := Node.renderAll_accounts renderer (.ofOptions s.options) files
  have staged := Staging.ofFiles_perm hfiles
  have yields : List.Forall₂ (fun n f => n.Yields renderer s.options f.path f.content)
      ((Node.select nodes s.options).filter (·.renders renderer (.ofOptions s.options)))
      placed := by
    refine (forall₂_trans rendered (Layout.placeFrom_ok hplaced)).imp ?_
    rintro n f ⟨r, hr, place, hplace, rfl⟩
    exact ⟨r.path, place, hr, hplace, rfl⟩
  constructor
  case ordered => exact Node.select_ordered nodes s.options
  case staged => exact ⟨_, staged.symm, List.forall₂_map_right_iff.2 yields⟩
  case failed => exact hfailures ▸ failed
  case count =>
    have hsize : s.files.size = placed.length := by
      rw [← List.length_map (fun f : OutputFile => (f.path, f.content)), ← staged.length_eq]
      rfl
    rw [hsize, hfailures, ← yields.length_eq, ← failed.length_eq,
      ← List.length_eq_length_filter_add]

/-- Two files that yield the same path are not staged together. -/
theorem not_yields_same {renderer : Template.Renderer} {nodes : List Node} {s : Staged}
    (h : s.Accounts renderer nodes) {a b : Node}
    (both : [a, b].Sublist (Node.select nodes s.options)) {path content content' : String}
    (ha : a.Yields renderer s.options path content) :
    ¬ b.Yields renderer s.options path content' := by
  intro hb
  obtain ⟨entries, hperm, yields⟩ := h.staged
  have apart : entries.Pairwise fun x y => x.1 ≠ y.1 := by
    rw [← List.pairwise_map (f := Prod.fst) (R := (· ≠ ·))]
    exact (hperm.map Prod.fst).nodup_iff.2 s.files.paths_nodup
  have rendered := both.filter (·.renders renderer (.ofOptions s.options))
  rw [List.filter_eq_self.2 (by simp [ha.renders, hb.renders])] at rendered
  have pair := (pairwise_of_forall₂ yields apart).sublist rendered
  obtain ⟨x, y, hx, hy, hne⟩ := (List.pairwise_cons.1 pair).1 b List.mem_cons_self
  exact hne ((hx.unique ha).trans (hb.unique hy))

/-- **Every selected file is accounted for** in a run that stages, and no run stages if two of the
files that it selects come to one path. -/
theorem stage_accounts :
    (∀ s, g.stage schematic raw = .ok s → ∃ source, g.library.get schematic = .ok source ∧
      Options.normalize (g.settings source) raw = .ok s.options ∧
        s.Accounts g.renderer source.nodes) ∧
    ∀ source o, g.library.get schematic = .ok source →
      Options.normalize (g.settings source) raw = .ok o →
        ∀ a b path content content', [a, b].Sublist (Node.select source.nodes o) →
          a.Yields g.renderer o path content → b.Yields g.renderer o path content' →
            ∃ e, g.stage schematic raw = .error e := by
  constructor
  · intro s hs
    obtain ⟨source, hsource, ho, hnodes⟩ := stage_ok hs
    exact ⟨source, hsource, ho, stageNodes_accounts hnodes⟩
  · intro source o hsource ho a b path content content' both ha hb
    cases hs : g.stage schematic raw with
    | error e => exact ⟨e, rfl⟩
    | ok s =>
      obtain ⟨source', hsource', ho', hnodes⟩ := stage_ok hs
      obtain rfl : source = source' := Except.ok.inj (hsource.symm.trans hsource')
      obtain rfl : o = s.options := Except.ok.inj (ho.symm.trans ho')
      exact absurd hb (not_yields_same (stageNodes_accounts hnodes) both ha)

/-! ## Small runs -/

def schematicOf (nodes : List Node) : Schematic := { pairSchematic with nodes }

def ofNodes (nodes : List Node) : Generator :=
  .ofLibrary (.insert .empty (schematicOf nodes)) { root := ".", currentDirectory := "/" }

/-- The options of a run for `user`. -/
def userOptions : RawOptions := [("name", .string "user")]

theorem ofNodes_stage_eq (nodes : List Node) : (ofNodes nodes).stage "pair" userOptions =
    Options.normalize ((ofNodes nodes).settings (schematicOf nodes)) userOptions >>=
      stageNodes Template.render nodes := rfl

/-- A file that renders, one that does not, and one in a directory. -/
def mixedFiles : List Node :=
  [⟨"a.txt", some "\x7b\x7b name \x7d\x7d", []⟩, ⟨"b.txt", some "\x7b\x7b nobody \x7d\x7d", []⟩,
    ⟨"c/d.txt.j2", some "1", []⟩]

def mixedNodes : List Node := ⟨"c", none, []⟩ :: mixedFiles

theorem select_mixedNodes (o : Options) : Node.select mixedNodes o = mixedFiles :=
  Node.select_eq_of_sorted rfl (by decide)

/-- Two files that come to one path. -/
def clashingNodes : List Node := [⟨"a.txt", some "1", []⟩, ⟨"a.txt.j2", some "2", []⟩]

theorem select_clashingNodes (o : Options) : Node.select clashingNodes o = clashingNodes :=
  Node.select_eq_of_sorted rfl (by decide)

theorem smallRuns_accounted :
    (∃ s, (ofNodes mixedNodes).stage "pair" userOptions = .ok s ∧
      s.files.entries = [("a.txt", "user"), ("c/d.txt", "1")] ∧ s.failures.length = 1 ∧
        ∃ source, (ofNodes mixedNodes).library.get "pair" = .ok source ∧
          Options.normalize ((ofNodes mixedNodes).settings source) userOptions = .ok s.options ∧
            s.Accounts Template.render source.nodes) ∧
      ∃ e, (ofNodes clashingNodes).stage "pair" userOptions = .error e := by
  constructor
  · have staged : ((ofNodes mixedNodes).stage "pair" userOptions).map
        (fun s => (s.files.entries, s.failures.length)) =
          .ok ([("a.txt", "user"), ("c/d.txt", "1")], 1) := by
      rw [ofNodes_stage_eq]
      unfold stageNodes
      simp only [select_mixedNodes]
      decide +kernel
    obtain ⟨s, hs, h⟩ := map_eq_ok.1 staged
    rw [Prod.mk.injEq] at h
    exact ⟨s, hs, h.1, h.2, stage_accounts.1 s hs⟩
  · have normalized : (Options.normalize ((ofNodes clashingNodes).settings
        (schematicOf clashingNodes)) userOptions).map (fun o => (o.path, o.flat, o.names.dash)) =
          .ok ("", false, "user") := by decide +kernel
    obtain ⟨o, ho, h⟩ := map_eq_ok.1 normalized
    simp only [Prod.mk.injEq] at h
    obtain ⟨hpath, hflat, hdash⟩ := h
    refine stage_accounts.2 (schematicOf clashingNodes) o rfl ho ⟨"a.txt", some "1", []⟩
      ⟨"a.txt.j2", some "2", []⟩ "a.txt" "1" "2" ?_ ?_ ?_
    · show [_, _].Sublist (Node.select clashingNodes o)
      rw [select_clashingNodes]
      exact .refl _
    · refine ⟨"a.txt", ⟨"a.txt", "a.txt"⟩, ⟨rfl, "1", rfl, rfl⟩, ?_, rfl⟩
      simp only [Layout.resolve, hpath, hflat, hdash]
      rfl
    · refine ⟨"a.txt.j2", ⟨"a.txt", "a.txt"⟩, ⟨rfl, "2", rfl, rfl⟩, ?_, rfl⟩
      simp only [Layout.resolve, hpath, hflat, hdash]
      rfl

end Generator
end Stencil
