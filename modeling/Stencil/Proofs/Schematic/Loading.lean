import Stencil.Schematic.Source
import Stencil.Proofs.Preview.Plan

/-!
# What is loaded

A schematic that was loaded (`Loaded`, `load_ok`) has a manifest that was read, and a node for each
file and directory that no ignore pattern covers, with the conditions of the rules that cover it.
A manifest is read if all its conditions are valid, and holds their plain forms (`parse_eq_ok_iff`);
compiling makes a rule of each of its gates (`compile_ok`), which are its rules and its operations.
-/
namespace Stencil
open Disk

/-- A program whose answer is known in part gives an answer of which that is true. -/
theorem Disk.attempt_of_map_eq_ok {α β : Type} {d : Disk}
    {program : ExceptT Failure (StateM Disk) α} {f : α → β} {b : β}
    (h : (d.attempt program).1.map f = .ok b) :
    ∃ a d', d.attempt program = (.ok a, d') ∧ f a = b := by
  obtain ⟨a, ha, hb⟩ := map_eq_ok.1 h
  exact ⟨a, (d.attempt program).2, Prod.ext ha rfl, hb⟩

/-! ## Manifests -/

namespace Manifest

/-- Whether a text holds this manifest, with its conditions as they are written. -/
def IsWritten (text : String) (m : Manifest) : Prop :=
  ∃ v, readValue text = .ok v ∧ Schema.manifest (match v with
    | .null => .object []
    | v => v) = .ok m

/-- Whether a rule has the conditions of another one in their plain form, in the same order. -/
def Validates (written r : Rule) : Prop :=
  r.paths = written.paths ∧
    List.Forall₂ (fun c v => c.validated = .ok v) written.conditions r.conditions

theorem validateCondition_eq_ok_iff {origin : String} {c v : Condition} :
    validateCondition origin c = .ok v ↔ c.validated = .ok v := by
  unfold validateCondition
  split
  · rename_i hvalid
    rw [hvalid]
  · rename_i hfail
    rw [hfail]
    simp
  · rename_i hfail
    rw [hfail]

theorem validateRule_eq_ok_iff {origin : String} {written r : Rule} :
    validateRule origin written = .ok r ↔ Validates written r := by
  have conditions (vs : List Condition) :
      written.conditions.mapM (validateCondition origin) = .ok vs ↔
        List.Forall₂ (fun c v => c.validated = .ok v) written.conditions vs := by
    simp only [mapM_eq_ok_iff, validateCondition_eq_ok_iff]
  rw [validateRule, bind_eq_ok]
  constructor
  · rintro ⟨vs, hvs, h⟩
    cases h
    exact ⟨rfl, (conditions vs).1 hvs⟩
  · rintro ⟨hpaths, hconditions⟩
    refine ⟨r.conditions, (conditions _).2 hconditions, ?_⟩
    rw [← hpaths]
    rfl

/-- A manifest is read exactly if all conditions of the one that is written are valid; its rules
have these conditions in their plain form. -/
theorem parse_eq_ok_iff {origin text : String} {m : Manifest} : parse origin text = .ok m ↔
    ∃ written rules, IsWritten text written ∧ List.Forall₂ Validates written.rules rules ∧
      m = { written with rules } := by
  have valid (rules rules' : List Rule) : rules.mapM (validateRule origin) = .ok rules' ↔
      List.Forall₂ Validates rules rules' := by
    simp only [mapM_eq_ok_iff, validateRule_eq_ok_iff]
  unfold parse IsWritten
  constructor
  · intro h
    split at h
    · cases h
    · rename_i v hv
      split at h
      · cases h
      · rename_i written hwritten
        obtain ⟨rules, hrules, h⟩ := bind_eq_ok.1 h
        cases h
        exact ⟨written, rules, ⟨v, hv, hwritten⟩, (valid _ _).1 hrules, rfl⟩
  · rintro ⟨written, rules, ⟨v, hv, hwritten⟩, hrules, rfl⟩
    rw [hv]
    cases v <;> simp only at hwritten <;> simp only [hwritten, (valid _ _).2 hrules] <;> rfl

/-- Every condition of a manifest that was read is a validated one. -/
theorem parse_ok {origin text : String} {m : Manifest} (h : parse origin text = .ok m) :
    ∀ r ∈ m.rules, ∀ c ∈ r.conditions, ∃ given, Condition.validated given = .ok c := by
  obtain ⟨written, rules, -, hrules, rfl⟩ := parse_eq_ok_iff.1 h
  intro r hr c hc
  obtain ⟨rule, -, -, hconditions⟩ := exists_of_forall₂ hrules hr
  obtain ⟨given, -, hgiven⟩ := exists_of_forall₂ hconditions hc
  exact ⟨given, hgiven⟩

/-- The rules of a manifest. An entry of its operations is a rule with one condition. -/
def gates (m : Manifest) : List Rule :=
  m.rules ++ m.operations.map fun (operation, paths) => ⟨paths, [.operation operation]⟩

/-- Whether a compiled rule is a rule with its patterns ready for use. -/
def Compiles (origin : String) (r : Rule) (compiled : CompiledRule) : Prop :=
  compilePatterns origin r.paths = .ok compiled.patterns ∧ compiled.conditions = r.conditions

/-- Compiling makes the gates of a manifest ready for use, in their order. -/
theorem compile_ok {m : Manifest} {origin : String} {rules : List CompiledRule}
    (h : m.compile origin = .ok rules) : List.Forall₂ (Compiles origin) m.gates rules := by
  obtain ⟨explicit, hexplicit, h⟩ := bind_eq_ok.1 h
  obtain ⟨gated, hgated, h⟩ := bind_eq_ok.1 h
  cases h
  refine List.rel_append ((forall₂_of_mapM hexplicit).imp ?_)
    (List.forall₂_map_left_iff.2 ((forall₂_of_mapM hgated).imp ?_))
  · intro rule compiled hcompiled
    obtain ⟨patterns, hpatterns, hcompiled⟩ := bind_eq_ok.1 hcompiled
    cases hcompiled
    exact ⟨hpatterns, rfl⟩
  · rintro ⟨operation, paths⟩ compiled hcompiled
    obtain ⟨patterns, hpatterns, hcompiled⟩ := bind_eq_ok.1 hcompiled
    cases hcompiled
    exact ⟨hpatterns, rfl⟩

end Manifest

/-! ## Schematics -/

namespace Schematic
variable {d d' : Disk} {dir : String}

theorem isQuery_readManifest (dir : String) (names : List String) :
    IsQuery (readManifest dir names) := by
  induction names with
  | nil => exact .mk fun d => ⟨.refl d, rfl⟩
  | cons name rest ih =>
    refine .bind (.lift fun d => rfl) fun there => ?_
    cases there with
    | false => exact ih
    | true => exact .bind (isQuery_readText _) fun text => .mk fun d => ⟨.refl d, rfl⟩

theorem readManifest_ok {names : List String} {m : Manifest}
    (h : d.attempt (readManifest dir names) = (.ok m, d')) :
    ∃ origin text, Manifest.parse origin text = .ok m := by
  induction names generalizing d with
  | nil => cases h
  | cons name rest ih =>
    obtain ⟨there, d₁, hthere, h⟩ := attempt_bind_eq_ok.1 h
    split at h
    · obtain ⟨text, d₂, htext, h⟩ := attempt_bind_eq_ok.1 h
      rw [attempt_mk, run_pure, Prod.mk.injEq] at h
      exact ⟨_, text, h.1⟩
    · exact ih h

/-- Whether a node is what a disk holds at a place below the templates. -/
structure ReadFrom (d : Disk) (files : Route) (rules : List CompiledRule) (place : Location × Kind)
    (n : Node) : Prop where
  path : n.path = pathOf place.1
  conditions : n.conditions = conditionsFor rules n.path
  directory : place.2 = .directory → n.content = none
  file : place.2 = .file → ∃ text, n.content = some text ∧
    d.find (files.join n.path) = .ok (.file text.toUTF8)

theorem ReadFrom.of_tree_eq (ha : Alike d d') (ht : d'.tree = d.tree) {files : Route}
    {rules : List CompiledRule} {place : Location × Kind} {n : Node}
    (h : ReadFrom d' files rules place n) : ReadFrom d files rules place n := by
  refine ⟨h.path, h.conditions, h.directory, fun hfile => ?_⟩
  obtain ⟨text, htext, hfind⟩ := h.file hfile
  exact ⟨text, htext, (find_iff_of_tree_eq ha ht _ _).1 hfind⟩

theorem readNodes_ok {files : Route} {rules : List CompiledRule} {places : List (Location × Kind)}
    {nodes : List Node} (h : d.attempt (readNodes files rules places) = (.ok nodes, d')) :
    List.Forall₂ (ReadFrom d files rules) places nodes := by
  induction places generalizing d nodes with
  | nil =>
    cases h
    exact .nil
  | cons place rest ih =>
    obtain ⟨l, kind⟩ := place
    cases kind with
    | directory =>
      obtain ⟨content, d₁, hcontent, h⟩ := attempt_bind_eq_ok.1 h
      obtain ⟨more, d₂, hmore, h⟩ := attempt_bind_eq_ok.1 h
      cases h
      cases hcontent
      exact .cons ⟨rfl, rfl, fun _ => rfl, by simp⟩ (ih hmore)
    | file =>
      obtain ⟨text, d₁, htext, h⟩ := attempt_bind_eq_ok.1 h
      obtain ⟨content, d₂, hcontent, h⟩ := attempt_bind_eq_ok.1 h
      obtain ⟨more, d₃, hmore, h⟩ := attempt_bind_eq_ok.1 h
      cases h
      cases hcontent
      obtain ⟨ha, ht⟩ := (isQuery_readText _).of_attempt htext
      exact .cons ⟨rfl, rfl, by simp, fun _ => ⟨text, rfl, readText_ok htext⟩⟩
        ((ih hmore).imp fun _ _ => ReadFrom.of_tree_eq ha ht)

/-- Whether a schematic is what a disk holds in a directory, with its rules and ignore patterns
ready for use, and its templates below a location. -/
structure Loaded (d : Disk) (dir : String) (s : Schematic) (rules : List CompiledRule)
    (ignored : Glob.PatternSet) (base : Location) : Prop where
  read : ∃ origin text, Manifest.parse origin text = .ok s.manifest
  compiled : s.manifest.compile dir = .ok rules
  ignoring : Manifest.ignorePatterns dir s.manifest.ignored = .ok ignored
  directory : d.directory (Route.parse (pathIn dir filesName)) = .ok base
  nodes : List.Forall₂ (ReadFrom d (Route.parse (pathIn dir filesName)) rules)
    (((d.tree.below base).map fun (l, e) => (l, e.kind)).filter fun p => isShown ignored p.1)
    s.nodes

theorem below_ok {r : Route} {places : List (Location × Kind)}
    (h : d.attempt (Files.orFail (Files.below r)) = (.ok places, d')) : d' = d ∧ ∃ base,
      d.directory r = .ok base ∧ places = (d.tree.below base).map fun (l, e) => (l, e.kind) := by
  obtain ⟨answer, rfl⟩ : (d.below r).mapError Failure.io = .ok places ∧ d = d' := Prod.mk.inj h
  refine ⟨rfl, ?_⟩
  cases hbelow : d.below r with
  | error fault =>
    rw [hbelow] at answer
    cases answer
  | ok found =>
    rw [hbelow] at answer
    cases answer
    obtain ⟨base, hbase, hfound⟩ := bind_eq_ok.1 hbelow
    cases hfound
    exact ⟨base, hbase, rfl⟩

/-- Loading a schematic gives what its directory holds. -/
theorem load_ok {name : String} {s : Schematic} (h : d.attempt (load name dir) = (.ok s, d')) :
    ∃ rules ignored base, Loaded d dir s rules ignored base := by
  obtain ⟨manifest, d₁, hmanifest, h⟩ := attempt_bind_eq_ok.1 h
  obtain ⟨ha, ht⟩ := (isQuery_readManifest dir _).of_attempt hmanifest
  obtain ⟨rules, d₂, hrules, h⟩ := attempt_bind_eq_ok.1 h
  obtain ⟨ignored, d₃, hignored, h⟩ := attempt_bind_eq_ok.1 h
  obtain ⟨there, d₄, hthere, h⟩ := attempt_bind_eq_ok.1 h
  rw [attempt_mk, run_pure, Prod.mk.injEq] at hrules hignored
  rw [attempt_lift, run_isDirectory, Prod.mk.injEq] at hthere
  obtain ⟨hrules, rfl⟩ := hrules
  obtain ⟨hignored, rfl⟩ := hignored
  obtain ⟨-, rfl⟩ := hthere
  cases there with
  | false => cases h
  | true =>
    obtain ⟨places, d₅, hplaces, h⟩ := attempt_bind_eq_ok.1 h
    obtain ⟨nodes, d₆, hnodes, h⟩ := attempt_bind_eq_ok.1 h
    cases h
    obtain ⟨rfl, base, hbase, rfl⟩ := below_ok hplaces
    have found := (readNodes_ok hnodes).imp fun _ _ => ReadFrom.of_tree_eq ha ht
    rw [ht] at found
    exact ⟨rules, ignored, base, readManifest_ok hmanifest, hrules, hignored,
      (directory_iff_of_tree_eq ha ht _ _).1 hbase, found⟩

end Schematic
end Stencil
