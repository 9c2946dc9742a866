import Stencil.Proofs.Schematic.Loading
import Stencil.Proofs.Staging.Inside

/-!
# Which files are selected

A file of a schematic that was loaded is selected exactly if its manifest admits it
(`load_selects`): no ignore pattern covers the file or a directory above it, and of every gate that
covers one of them all conditions hold. Three parts make this up: the nodes are what no ignore
pattern hides (`mem_nodes`, `exists_node`), each has the conditions of the rules that cover its own
path, and a file takes over those of the directories above it (`isSelected_iff`).
-/
namespace Stencil
open Disk

/-! ## Paths -/

theorem Disk.Route.mem_fronts {l front : Location} (hl : l ≠ []) :
    front ∈ properFronts l ++ [l] ↔ front ≠ [] ∧ front <+: l := by
  rw [List.mem_append, mem_properFronts, List.mem_singleton]
  constructor
  · rintro (⟨hp, hne, -⟩ | rfl)
    · exact ⟨hne, hp⟩
    · exact ⟨hl, List.prefix_rfl⟩
  · rintro ⟨hne, hp⟩
    by_cases h : front = l
    · exact .inr h
    · exact .inl ⟨hp, hne, h⟩

theorem Disk.Route.properFronts_map {α β : Type} (f : α → β) (l : List α) :
    properFronts (l.map f) = (properFronts l).map (List.map f) := by
  fun_induction properFronts l with
  | case1 | case2 => rfl
  | case3 x y rest ih =>
    rw [List.map_cons] at ih
    simp [properFronts, ih, Function.comp_def]

/-- Whether everything in a tree has a name in its directory, as in any file system. -/
def Disk.FileTree.Named (t : FileTree) : Prop := ∀ e ∈ t.entries.toList, ∀ name ∈ e.1, IsName name

instance (t : FileTree) : Decidable t.Named :=
  inferInstanceAs (Decidable (∀ e ∈ t.entries.toList, ∀ name ∈ e.1, IsName name))

theorem Disk.FileTree.Named.isName {t : FileTree} (h : t.Named) {base l : Location} {e : Entry}
    (he : t.at? (base ++ l) = some e) : ∀ name ∈ l, IsName name := by
  intro name hname
  have mem : name ∈ base ++ l := List.mem_append_right base hname
  rw [at?, entryAt, if_neg (List.ne_nil_of_mem mem)] at he
  exact h (base ++ l, e) ((SortedMap.mem_toList _ _ _).2 he) name mem

namespace Schematic
variable {l : Location}

/-- The names on the way to a path are its pieces. -/
theorem split_pathOf (hl : l ≠ []) (names : ∀ name ∈ l, IsName name) :
    Text.split '/' (pathOf l) = l :=
  Text.split_intercalate hl fun name hname => (names name hname).2.2.2

theorem pathOf_inj {l' : Location} (hl : l ≠ []) (hl' : l' ≠ [])
    (names : ∀ name ∈ l, IsName name) (names' : ∀ name ∈ l', IsName name)
    (h : pathOf l = pathOf l') : l = l' := by
  rw [← split_pathOf hl names, h, split_pathOf hl' names']

theorem isValidPath_pathOf (hl : l ≠ []) (names : ∀ name ∈ l, IsName name) :
    Layout.isValidPath (pathOf l).toList := by
  rw [pathOf, show "/" = String.ofList ['/'] from rfl, Text.toList_intercalate,
    Layout.isValidPath_join (by simpa using hl), List.forall_mem_map]
  intro name hname
  obtain ⟨h1, h2, h3, hs⟩ := names name hname
  refine Layout.isValidPath_of_isPlainSegment ?_ hs
  have plain {text : String} (h : name ≠ text) : name.toList ≠ text.toList :=
    fun e => h (String.toList_inj.1 e)
  simp only [Layout.isPlainSegment, Bool.and_eq_true, decide_eq_true_eq]
  exact ⟨⟨plain h1, plain h2⟩, plain h3⟩

end Schematic

namespace Node

theorem join_cons_cons (sep c : Char) (piece : List Char) (front : List (List Char)) :
    Text.join [sep] ((c :: piece) :: front) = c :: Text.join [sep] (piece :: front) := by
  cases front <;> rfl

/-- The text before each slash is what comes before, with some pieces up to there. -/
theorem beforeSlashes_eq (before cs : List Char) : beforeSlashes before cs =
    (Route.properFronts (Text.splitAt '/' cs)).map fun front =>
      before.reverse ++ Text.join ['/'] front := by
  induction cs generalizing before with
  | nil => rfl
  | cons c rest ih =>
    by_cases hc : c = '/'
    · subst hc
      obtain ⟨piece, pieces, hrest⟩ := List.exists_cons_of_ne_nil (Text.splitAt_ne_nil '/' rest)
      have hsplit : Text.splitAt '/' ('/' :: rest) = [] :: piece :: pieces := by
        rw [Text.splitAt, if_pos rfl, hrest]
      rw [beforeSlashes, if_pos rfl, ih, hrest, hsplit, Route.properFronts, List.map_cons,
        List.map_map]
      refine congrArg₂ List.cons (by simp [Text.join]) (List.map_congr_left fun front hfront => ?_)
      have hne := ((Route.mem_properFronts _ _).1 hfront).2.1
      simp [Text.join_cons hne]
    · obtain ⟨piece, pieces, hrest, hsplit⟩ := Text.splitAt_cons_of_ne hc rest
      rw [beforeSlashes, if_neg hc, ih, hrest, hsplit]
      cases pieces with
      | nil => rfl
      | cons next more => simp [Route.properFronts, join_cons_cons]

/-- The directories above a path, by its pieces. -/
theorem ancestors_eq (path : String) :
    ancestors path = (Route.properFronts (Text.split '/' path)).map Schematic.pathOf := by
  rw [ancestors, beforeSlashes_eq, Text.split, Route.properFronts_map, List.map_map, List.map_map]
  exact List.map_congr_left fun front _ => Text.ofList_join front

variable {nodes : List Node} {conditions : String → List Condition}

/-- The conditions of a directory that is among the nodes. -/
theorem directoryConditions_eq (h : ∀ n ∈ nodes, n.conditions = conditions n.path) {path : String}
    (there : ∃ n ∈ nodes, n.isFile = false ∧ n.path = path) :
    directoryConditions nodes path = conditions path := by
  obtain ⟨n, hn, hdir, hpath⟩ := there
  unfold directoryConditions
  split
  · rename_i found hfound
    have hp := List.find?_some hfound
    rw [h found (List.mem_reverse.1 (List.mem_of_find?_eq_some hfound))]
    simp only [Bool.and_eq_true, beq_iff_eq] at hp
    rw [hp.2]
  · rename_i hnone
    have := List.find?_eq_none.1 hnone n (List.mem_reverse.2 hn)
    simp [hdir, hpath] at this

/-- A file whose directories are among the nodes is selected if the conditions of its path and of
those of the directories above it hold. -/
theorem isSelected_iff (h : ∀ n ∈ nodes, n.conditions = conditions n.path) {n : Node}
    (hn : n ∈ nodes)
    (above : ∀ dir ∈ ancestors n.path, ∃ n' ∈ nodes, n'.isFile = false ∧ n'.path = dir)
    (o : Options) : isSelected nodes o n ↔ n.isFile ∧
      ∀ front ∈ ancestors n.path ++ [n.path], Condition.allHold (conditions front) o := by
  have inherited : ((ancestors n.path).all fun dir =>
      Condition.allHold (directoryConditions nodes dir) o) ↔
        ∀ dir ∈ ancestors n.path, Condition.allHold (conditions dir) o := by
    rw [List.all_eq_true]
    exact forall₂_congr fun dir hdir => by rw [directoryConditions_eq h (above dir hdir)]
  rw [isSelected, Bool.and_eq_true, Bool.and_eq_true, inherited, h n hn, and_assoc]
  simp [or_imp, forall_and]

end Node

/-! ## Patterns -/

namespace Glob

/-- Whether one of some patterns, given as texts, matches a path. -/
def Matches (patterns : List String) (path : String) : Prop :=
  ∃ text ∈ patterns, ∃ p, Pattern.parse text = .ok p ∧ p.matches path

/-- What patterns cover that were read from texts, whatever failure a bad one stands for. -/
theorem covers_iff {patterns : List String} {compiled : PatternSet}
    {fault : String → Error → Failure}
    (h : patterns.mapM (fun text => match Pattern.parse text with
      | .ok p => Except.ok p
      | .error e => Except.error (fault text e)) = .ok compiled)
    (path : String) : compiled.covers path ↔ Matches patterns path := by
  have parsed : List.Forall₂ (fun text p => Pattern.parse text = .ok p) patterns compiled := by
    refine (forall₂_of_mapM h).imp fun text p hp => ?_
    split at hp
    · rename_i hparse
      cases hp
      exact hparse
    · cases hp
  rw [PatternSet.covers, List.any_eq_true]
  constructor
  · rintro ⟨p, hp, hm⟩
    obtain ⟨text, ht, hparse⟩ := exists_of_forall₂ parsed hp
    exact ⟨text, ht, p, hparse, hm⟩
  · rintro ⟨text, ht, p, hparse, hm⟩
    obtain ⟨p', hp', hparse'⟩ := exists_right_of_forall₂ parsed ht
    cases hparse.symm.trans hparse'
    exact ⟨p, hp', hm⟩

end Glob

/-! ## What a manifest admits -/

namespace Manifest
variable {m : Manifest} {dir : String} {rules : List CompiledRule} {o : Options}

/-- Whether a manifest admits the file at a location below the templates, for some options: no
ignore pattern matches the path of the file or of a directory above it, and of every gate with a
pattern that matches one of them all conditions hold. -/
structure Admits (m : Manifest) (o : Options) (l : Location) : Prop where
  shown : ∀ front, front ≠ [] → front <+: l →
    ¬ Glob.Matches (alwaysIgnored ++ m.ignored) (Schematic.pathOf front)
  held : ∀ gate ∈ m.gates,
    (∃ front, front ≠ [] ∧ front <+: l ∧ Glob.Matches gate.paths (Schematic.pathOf front)) →
      ∀ c ∈ gate.conditions, c.evaluate o

/-- All conditions of the rules that cover a path hold if those of the gates that match it do. -/
theorem allHold_conditionsFor (h : m.compile dir = .ok rules) (path : String) :
    Condition.allHold (Schematic.conditionsFor rules path) o ↔
      ∀ gate ∈ m.gates, Glob.Matches gate.paths path → ∀ c ∈ gate.conditions, c.evaluate o := by
  have compiled := compile_ok h
  simp only [Condition.allHold, Schematic.conditionsFor, List.all_flatMap, List.all_eq_true,
    List.mem_filter, and_imp]
  constructor
  · intro held gate hgate hm
    obtain ⟨r, hr, hpatterns, hconditions⟩ := exists_right_of_forall₂ compiled hgate
    rw [← hconditions]
    exact held r hr ((Glob.covers_iff hpatterns path).2 hm)
  · intro held r hr hcovers
    obtain ⟨gate, hgate, hpatterns, hconditions⟩ := exists_of_forall₂ compiled hr
    rw [hconditions]
    exact held gate hgate ((Glob.covers_iff hpatterns path).1 hcovers)

end Manifest

/-! ## What is shown -/

namespace Schematic
variable {d d' : Disk} {dir : String} {s : Schematic} {rules : List CompiledRule}
  {ignored : Glob.PatternSet} {base l : Location} {o : Options}

theorem isShown_iff (h : Manifest.ignorePatterns dir s.manifest.ignored = .ok ignored)
    (hl : l ≠ []) : isShown ignored l ↔ ∀ front, front ≠ [] → front <+: l →
      ¬ Glob.Matches (Manifest.alwaysIgnored ++ s.manifest.ignored) (pathOf front) := by
  rw [isShown, List.all_eq_true]
  refine forall_congr' fun front => ?_
  rw [Route.mem_fronts hl, and_imp, Bool.not_eq_true', ← Bool.not_eq_true, Glob.covers_iff h]

/-- What is shown lies below directories that are shown. -/
theorem isShown_front {front : Location} (h : isShown ignored l) (hne : front ≠ [])
    (hp : front <+: l) : isShown ignored front := by
  have hl : l ≠ [] := fun e => hne (List.prefix_nil.1 (e ▸ hp))
  rw [isShown, List.all_eq_true] at h ⊢
  intro front' hfront'
  obtain ⟨hne', hp'⟩ := (Route.mem_fronts hne).1 hfront'
  exact h front' ((Route.mem_fronts hl).2 ⟨hne', hp'.trans hp⟩)

/-! ## Loaded schematics -/

namespace Loaded

/-- The templates lie in a directory, so a file is below it. -/
theorem ne_nil (h : Loaded d dir s rules ignored base) {content : ByteArray}
    (he : d.tree.at? (base ++ l) = some (.file content)) : l ≠ [] := by
  rintro rfl
  obtain ⟨-, there, rfl⟩ := (directory_eq_ok_iff _ _ _).1 h.directory
  exact FileTree.not_isDirectory_of_file (by simpa using he) there

/-- Every node stands for something below the templates that is shown. -/
theorem mem_nodes (h : Loaded d dir s rules ignored base) {n : Node} (hn : n ∈ s.nodes) :
    ∃ l e, l ≠ [] ∧ d.tree.at? (base ++ l) = some e ∧ isShown ignored l ∧
      ReadFrom d (Route.parse (pathIn dir filesName)) rules (l, e.kind) n := by
  obtain ⟨place, hplace, read⟩ := exists_of_forall₂ h.nodes hn
  obtain ⟨hplace, hshown⟩ := List.mem_filter.1 hplace
  obtain ⟨⟨l, e⟩, hbelow, rfl⟩ := List.mem_map.1 hplace
  obtain ⟨hl, hget⟩ := (FileTree.mem_below _ _ _ _).1 hbelow
  exact ⟨l, e, hl, by simp [FileTree.at?, entryAt, hl, hget], hshown, read⟩

/-- Everything below the templates that is shown has a node. -/
theorem exists_node (h : Loaded d dir s rules ignored base) {e : Entry} (hl : l ≠ [])
    (he : d.tree.at? (base ++ l) = some e) (hshown : isShown ignored l) :
    ∃ n ∈ s.nodes, ReadFrom d (Route.parse (pathIn dir filesName)) rules (l, e.kind) n := by
  have hget : d.tree.entries.get? (base ++ l) = some e := by
    simpa [FileTree.at?, entryAt, hl] using he
  have hbelow := (FileTree.mem_below _ _ _ _).2 ⟨hl, hget⟩
  refine exists_right_of_forall₂ h.nodes (List.mem_filter.2 ⟨?_, hshown⟩)
  exact List.mem_map.2 ⟨(l, e), hbelow, rfl⟩

theorem conditions_eq (h : Loaded d dir s rules ignored base) :
    ∀ n ∈ s.nodes, n.conditions = conditionsFor rules n.path := by
  intro n hn
  obtain ⟨l, e, -, -, -, read⟩ := h.mem_nodes hn
  exact read.conditions

/-- The directories above something that is shown are among the nodes. -/
theorem exists_directory (h : Loaded d dir s rules ignored base)
    (he : d.tree.at? (base ++ l) ≠ none) (hshown : isShown ignored l) {front : Location}
    (hne : front ≠ []) (hp : front <+: l) (hproper : front ≠ l) :
    ∃ n ∈ s.nodes, n.isFile = false ∧ n.path = pathOf front := by
  have above : d.tree.isDirectory (base ++ front) :=
    FileTree.isDirectory_above he ((List.prefix_append_right_inj base).2 hp)
      (by simpa using hproper)
  obtain ⟨n, hn, read⟩ := h.exists_node hne ((FileTree.isDirectory_iff _ _).1 above)
    (isShown_front hshown hne hp)
  exact ⟨n, hn, by simp [Node.isFile, read.directory rfl], read.path⟩

/-- The node of a file is selected if the manifest admits the file. -/
theorem isSelected_iff (h : Loaded d dir s rules ignored base) (named : d.tree.Named)
    {content : ByteArray} (hl : l ≠ []) (he : d.tree.at? (base ++ l) = some (.file content))
    (hshown : isShown ignored l) {n : Node} (hn : n ∈ s.nodes)
    (read : ReadFrom d (Route.parse (pathIn dir filesName)) rules (l, .file) n) :
    Node.isSelected s.nodes o n ↔ s.manifest.Admits o l := by
  have names := named.isName he
  have hfile : n.isFile := by
    obtain ⟨text, htext, -⟩ := read.file rfl
    simp [Node.isFile, htext]
  have fronts : Node.ancestors n.path ++ [n.path] = (Route.properFronts l ++ [l]).map pathOf := by
    rw [read.path, Node.ancestors_eq, split_pathOf hl names, List.map_append]
    rfl
  have above : ∀ dir ∈ Node.ancestors n.path,
      ∃ n' ∈ s.nodes, n'.isFile = false ∧ n'.path = dir := by
    rw [read.path, Node.ancestors_eq, split_pathOf hl names, List.forall_mem_map]
    intro front hfront
    obtain ⟨hp, hne, hproper⟩ := (Route.mem_properFronts _ _).1 hfront
    exact h.exists_directory (by simp [he]) hshown hne hp hproper
  rw [Node.isSelected_iff h.conditions_eq hn above, fronts, List.forall_mem_map]
  simp only [hfile, true_and, Route.mem_fronts hl, Manifest.allHold_conditionsFor h.compiled]
  constructor
  · intro held
    refine ⟨(isShown_iff h.ignoring hl).1 hshown, ?_⟩
    rintro gate hgate ⟨front, hne, hp, hm⟩
    exact held front ⟨hne, hp⟩ gate hgate hm
  · rintro admits front ⟨hne, hp⟩ gate hgate hm
    exact admits.held gate hgate ⟨front, hne, hp, hm⟩

/-- What is selected is the node of a file that the manifest admits. -/
theorem of_mem_select (h : Loaded d dir s rules ignored base) (named : d.tree.Named) {n : Node}
    (hn : n ∈ Node.select s.nodes o) : ∃ l content, l ≠ [] ∧
      d.tree.at? (base ++ l) = some (.file content) ∧ s.manifest.Admits o l ∧
      ReadFrom d (Route.parse (pathIn dir filesName)) rules (l, .file) n := by
  have hfile := Node.isFile_of_mem_select hn
  obtain ⟨hn, hselected⟩ := Node.mem_select.1 hn
  obtain ⟨l, e, hl, he, hshown, read⟩ := h.mem_nodes hn
  cases e with
  | file content =>
    exact ⟨l, content, hl, he, (h.isSelected_iff named hl he hshown hn read).1 hselected, read⟩
  | directory =>
    simp [Node.isFile, read.directory rfl] at hfile

/-- The text of the node of a file is what the disk holds there. -/
theorem at?_of_readFrom (h : Loaded d dir s rules ignored base) (hl : l ≠ [])
    (names : ∀ name ∈ l, IsName name) {n : Node}
    (read : ReadFrom d (Route.parse (pathIn dir filesName)) rules (l, .file) n) :
    ∃ text, n.content = some text ∧ d.tree.at? (base ++ l) = some (.file text.toUTF8) := by
  obtain ⟨-, -, hbase⟩ := (directory_eq_ok_iff _ _ _).1 h.directory
  obtain ⟨text, htext, hfind⟩ := read.file rfl
  obtain ⟨-, there, -⟩ := (find_eq_ok_iff _ _ _).1 hfind
  rw [read.path, Disk.goal_join d (isValidPath_pathOf hl names), split_pathOf hl names,
    ← hbase] at there
  exact ⟨text, htext, there⟩

end Loaded

/-- **What is selected.** Of the files below the templates of a schematic that was loaded, those are
selected that its manifest admits, with what the disk holds as their template texts, and nothing
else is. -/
theorem load_selects {name : String} (h : d.attempt (load name dir) = (.ok s, d'))
    (named : d.tree.Named) : ∃ base, d.directory (Route.parse (pathIn dir filesName)) = .ok base ∧
      ∀ o : Options,
        (∀ l content, d.tree.at? (base ++ l) = some (.file content) →
          ((∃ n ∈ Node.select s.nodes o, n.path = pathOf l) ↔ s.manifest.Admits o l)) ∧
        ∀ n ∈ Node.select s.nodes o, ∃ l text, n.path = pathOf l ∧ n.content = some text ∧
          d.tree.at? (base ++ l) = some (.file text.toUTF8) := by
  obtain ⟨rules, ignored, base, loaded⟩ := load_ok h
  refine ⟨base, loaded.directory, fun o => ⟨fun l content he => ⟨?_, fun admits => ?_⟩, ?_⟩⟩
  · rintro ⟨n, hn, hpath⟩
    obtain ⟨l', content', hl', he', admits, read⟩ := loaded.of_mem_select named hn
    rw [read.path] at hpath
    rwa [← pathOf_inj hl' (loaded.ne_nil he) (named.isName he') (named.isName he) hpath]
  · have hl := loaded.ne_nil he
    have hshown := (isShown_iff loaded.ignoring hl).2 admits.shown
    obtain ⟨n, hn, read⟩ := loaded.exists_node hl he hshown
    have hselected := (loaded.isSelected_iff named hl he hshown hn read).2 admits
    exact ⟨n, Node.mem_select.2 ⟨hn, hselected⟩, read.path⟩
  · intro n hn
    obtain ⟨l, content, hl, he, -, read⟩ := loaded.of_mem_select named hn
    obtain ⟨text, htext, there⟩ := loaded.at?_of_readFrom hl (named.isName he) read
    exact ⟨l, text, read.path, htext, there⟩

end Schematic

/-- A disk with a schematic that hides one directory and gates another and a file. -/
def hidingDisk : Disk :=
  let rules := "[\x7b\"paths\": [\"t\"], \"when\": [\x7b\"not_flag\": \"skip_tests\"\x7d]\x7d]"
  let manifest := "\x7b\"ignore\": [\"skip\"], \"rules\": " ++ rules ++
    ", \"operations\": \x7b\"insert\": [\"c\"]\x7d\x7d"
  { tree := FileTree.empty |>.put ["s"] .directory
      |>.put ["s", "schematic.json"] (.file manifest.toUTF8) |>.put ["s", "files"] .directory
      |>.put ["s", "files", "c"] (.file "1".toUTF8) |>.put ["s", "files", "skip"] .directory
      |>.put ["s", "files", "skip", "x"] (.file "2".toUTF8)
      |>.put ["s", "files", "t"] .directory |>.put ["s", "files", "t", "y"] (.file "3".toUTF8)
    here := [], admits := isCommonName, mishap := none }

open Schematic in
theorem hidingDisk_selects : hidingDisk.tree.Named ∧ ∃ s d',
    hidingDisk.attempt (load "s" "s") = (.ok s, d') ∧
    s.nodes = [⟨"c", some "1", [.operation .insert]⟩, ⟨"t", none, [.notFlag .skipTests]⟩,
      ⟨"t/y", some "3", []⟩] ∧
    ∃ base, hidingDisk.directory (Route.parse (pathIn "s" filesName)) = .ok base ∧
      ∀ o : Options,
        (∀ l content, hidingDisk.tree.at? (base ++ l) = some (.file content) →
          ((∃ n ∈ Node.select s.nodes o, n.path = pathOf l) ↔ s.manifest.Admits o l)) ∧
        ∀ n ∈ Node.select s.nodes o, ∃ l text, n.path = pathOf l ∧ n.content = some text ∧
          hidingDisk.tree.at? (base ++ l) = some (.file text.toUTF8) := by
  have loaded : (hidingDisk.attempt (load "s" "s")).1.map (·.nodes) =
      .ok [⟨"c", some "1", [.operation .insert]⟩, ⟨"t", none, [.notFlag .skipTests]⟩,
        ⟨"t/y", some "3", []⟩] := by decide +kernel
  have named : hidingDisk.tree.Named := by decide +kernel
  obtain ⟨s, d', hload, hnodes⟩ := attempt_of_map_eq_ok loaded
  exact ⟨named, s, d', hload, hnodes, load_selects hload named⟩

end Stencil
