import Stencil.Generator
import Stencil.Proofs.Result
import Stencil.Proofs.Staging.Place
import Stencil.Proofs.Text.Split

/-!
# What a run stages

Every staged path lies below the destination of the run (`stage_below`) and is valid
(`stage_valid`): the destination is empty or a valid path, what is put below it is a valid path, and
pieces of valid paths make valid paths.
-/
namespace Stencil

/-! ## Valid paths -/

namespace Layout

theorem isValidPath_iff (path : List Char) :
    isValidPath path ↔ ∀ piece ∈ Text.splitAt '/' path, isPlainSegment piece := by
  simp only [isValidPath, Bool.and_eq_true, List.all_eq_true, and_iff_right_iff_imp]
  intro h
  cases path with
  | nil => exact absurd (h [] (by simp [Text.splitAt])) (by decide)
  | cons c rest => rfl

theorem isValidPath_join {parts : List (List Char)} (hne : parts ≠ []) :
    isValidPath (Text.join ['/'] parts) ↔ ∀ part ∈ parts, isValidPath part := by
  simp only [isValidPath_iff, Text.splitAt_join hne, List.forall_mem_flatMap]

theorem isValidPath_of_isPlainSegment {segment : Segment} (h : isPlainSegment segment)
    (hs : '/' ∉ segment) : isValidPath segment := by
  rw [isValidPath_iff, Text.splitAt_of_not_mem hs]
  simpa using h

end Layout

/-! ## The destination -/

namespace Destination

/-- Names that are left after folding were there before. -/
theorem mem_of_foldInside {segments done result : List Segment}
    (h : foldInside done segments = some result) {s : Segment} (hs : s ∈ result) :
    s ∈ done ∨ s ∈ segments ∧ Layout.isPlainSegment s := by
  fun_induction foldInside done segments with
  | case1 done =>
    cases h
    exact .inl hs
  | case2 done t rest idle ih => exact (ih h).imp_right (.imp_left (List.mem_cons_of_mem _))
  | case3 => cases h
  | case4 done rest _ _ ih =>
    exact (ih h).imp (fun hs => (List.dropLast_sublist done).subset hs)
      (.imp_left (List.mem_cons_of_mem _))
  | case5 done t rest idle up ih =>
    rcases ih h with hs | hs
    · rcases List.mem_append.1 hs with hs | hs
      · exact .inl hs
      · obtain rfl := List.mem_singleton.1 hs
        refine .inr ⟨List.mem_cons_self, ?_⟩
        simp_all [Layout.isPlainSegment, isIdle]
    · exact .inr (hs.imp_left (List.mem_cons_of_mem _))

/-- Folding the pieces of a path leaves names among them. -/
theorem foldInside_splitAt {path : List Char} {result : List Segment}
    (h : foldInside [] (Text.splitAt '/' path) = some result) :
    ∀ s ∈ result, Layout.isPlainSegment s ∧ '/' ∉ s ∧ s ⊆ path := by
  intro s hs
  obtain ⟨hpiece, plain⟩ := (mem_of_foldInside h hs).resolve_left List.not_mem_nil
  exact ⟨plain, Text.not_mem_of_mem_splitAt hpiece, Text.subset_of_mem_splitAt hpiece⟩

/-- A destination is the root or a valid path. -/
theorem normalize_ok {workspace : Option Workspace} {raw path : String}
    (h : normalize workspace raw = .ok path) : path = "" ∨ Layout.isValidPath path.toList := by
  simp only [normalize, normalizeAt] at h
  split at h
  · rename_i segments hfold
    cases h
    obtain ⟨text, -, hfold⟩ := Option.bind_eq_some_iff.1 hfold
    have names := foldInside_splitAt hfold
    by_cases hne : segments = []
    · exact .inl (by simp [hne, Text.join])
    · refine .inr ?_
      rw [String.toList_ofList, Layout.isValidPath_join hne]
      exact fun s hs => Layout.isValidPath_of_isPlainSegment (names s hs).1 (names s hs).2.1
  · cases h

end Destination

/-- The destination of a run is the root or a valid path. -/
theorem Options.normalize_path {settings : Settings} {raw : RawOptions} {o : Options}
    (h : normalize settings raw = .ok o) : o.path = "" ∨ Layout.isValidPath o.path.toList := by
  simp only [normalize, bind_eq_ok] at h
  obtain ⟨_, -, _, -, _, -, path, hpath, _, -, _, -, _, -, _, -, _, -, _, -, _, -, _, -, _, -, _, -,
    _, -, h⟩ := h
  cases h
  exact Destination.normalize_ok hpath

/-! ## Resolved paths -/

namespace Layout
variable {o : Options}

theorem below_isValidPath {destination : String} {segments : List Segment}
    (hd : destination = "" ∨ isValidPath destination.toList) (hne : segments ≠ [])
    (hs : ∀ s ∈ segments, isValidPath s) : isValidPath (below destination segments).toList := by
  have relative : isValidPath (Text.join ['/'] segments) := (isValidPath_join hne).2 hs
  unfold below
  split
  · simpa using relative
  · rename_i hroot
    have hd := hd.resolve_left hroot
    have joined : isValidPath (Text.join ['/'] [destination.toList, Text.join ['/'] segments]) :=
      (isValidPath_join (by simp)).2 (by simpa using ⟨hd, relative⟩)
    simpa [Text.join] using joined

theorem mapLast_ne_nil {α : Type} (f : α → α) {l : List α} (h : l ≠ []) : mapLast f l ≠ [] := by
  unfold mapLast
  split
  · exact absurd rfl h
  · simp
  · simp

theorem substitute_ok {path dashName : List Char} {segments : List Segment} {kept : Nat}
    (h : substitute path dashName = .ok (segments, kept)) :
    segments ≠ [] ∧ ∀ s ∈ segments, isValidPath s := by
  simp only [substitute] at h
  split at h
  · cases h
  · split at h
    · rename_i hvalid
      cases h
      have hne : (Text.splitAt '/' path).map (Text.replaceFirst nameToken dashName) ≠ [] :=
        List.map_eq_nil_iff.not.2 (Text.splitAt_ne_nil '/' path)
      have hne := mapLast_ne_nil stripEnding hne
      exact ⟨hne, (isValidPath_join hne).1 hvalid⟩
    · cases h

/-- A resolved path lies below the destination. -/
theorem resolve_ok {path : String} {place : Place} (h : resolve o path = .ok place) :
    ∃ segments, segments ≠ [] ∧ (∀ s ∈ segments, isValidPath s) ∧
      place.final = below o.path segments := by
  simp only [resolve, bind_eq_ok] at h
  obtain ⟨⟨segments, kept⟩, hsub, h⟩ := h
  obtain ⟨hne, hs⟩ := substitute_ok hsub
  split at h
  · cases h
    refine ⟨_, ?_, fun s hmem => hs s ?_, rfl⟩
    · simp [hne]
    · rcases List.mem_append.1 hmem with hmem | hmem
      · exact List.mem_of_mem_take hmem
      · exact List.mem_of_getLast? (Option.mem_toList.1 hmem)
  · cases h
    exact ⟨segments, hne, hs, rfl⟩

theorem placeFrom_cons {seen : Seen} {r : Rendered} {rest : List Rendered} {files : List OutputFile}
    (h : placeFrom o seen (r :: rest) = .ok files) :
    ∃ place more, resolve o r.path = .ok place ∧
      placeFrom o ((place.final, r.template, place.nested) :: seen) rest = .ok more ∧
        files = { path := place.final, content := r.content, template := r.template } :: more := by
  simp only [placeFrom, bind_eq_ok] at h
  obtain ⟨place, hplace, h⟩ := h
  have finish (h : (do
      let more ← placeFrom o ((place.final, r.template, place.nested) :: seen) rest
      pure ({ path := place.final, content := r.content, template := r.template } :: more)) =
        Except.ok files) :
      ∃ place more, resolve o r.path = .ok place ∧
        placeFrom o ((place.final, r.template, place.nested) :: seen) rest = .ok more ∧
        files = { path := place.final, content := r.content, template := r.template } :: more := by
    obtain ⟨more, hmore, hfiles⟩ := bind_eq_ok.1 h
    cases hfiles
    exact ⟨place, more, hplace, hmore, rfl⟩
  split at h
  · split at h
    · split at h
      · cases h
      · exact finish h
    · exact finish h
  · exact finish h

/-- Whether a file is a rendered one at its resolved path. -/
def Places (o : Options) (r : Rendered) (f : OutputFile) : Prop :=
  ∃ place, resolve o r.path = .ok place ∧
    f = { path := place.final, content := r.content, template := r.template }

/-- Placed are all the rendered files, in their order. -/
theorem placeFrom_ok {seen : Seen} {rendered : List Rendered} {files : List OutputFile}
    (h : placeFrom o seen rendered = .ok files) : List.Forall₂ (Places o) rendered files := by
  induction rendered generalizing seen files with
  | nil =>
    cases h
    exact .nil
  | cons r rest ih =>
    obtain ⟨place, more, hplace, hmore, rfl⟩ := placeFrom_cons h
    exact .cons ⟨place, hplace, rfl⟩ (ih hmore)

end Layout

/-! ## Staged files -/

namespace Staging

theorem contains_iff (s : Staging) (path : String) : s.contains path ↔ path ∈ s.paths :=
  s.files.contains_iff path

/-- Staging succeeds for a path that is not staged, and adds its file. -/
theorem insert_eq_ok_iff {s s' : Staging} {path content : String} :
    s.insert path content = .ok s' ↔ path ∉ s.paths ∧ s' = ⟨s.files.insert path content⟩ := by
  rw [← contains_iff, insert]
  cases s.contains path <;> simp [eq_comm]

/-- Staged are the files and what was staged before. -/
theorem insertAll_perm {files : List OutputFile} {s s' : Staging}
    (h : s.insertAll files = .ok s') :
    s'.entries.Perm (files.map (fun f => (f.path, f.content)) ++ s.entries) := by
  induction files generalizing s with
  | nil =>
    cases h
    exact .refl _
  | cons f rest ih =>
    obtain ⟨s₁, hs₁, h⟩ := bind_eq_ok.1 h
    obtain ⟨hfree, rfl⟩ := insert_eq_ok_iff.1 hs₁
    have first := SortedMap.insert_perm hfree f.content
    exact (ih h).trans ((first.append_left _).trans List.perm_middle)

/-- Files at different paths, none of them staged before, can be staged. -/
theorem insertAll_of_nodup {files : List OutputFile} {s : Staging}
    (h : (files.map (·.path)).Nodup) (hs : ∀ f ∈ files, f.path ∉ s.paths) :
    ∃ s', s.insertAll files = .ok s' := by
  induction files generalizing s with
  | nil => exact ⟨s, rfl⟩
  | cons f rest ih =>
    obtain ⟨first, others⟩ := List.nodup_cons.1 h
    have hf := hs f List.mem_cons_self
    have added := SortedMap.insert_perm hf f.content
    obtain ⟨s', hs'⟩ := ih (s := ⟨s.files.insert f.path f.content⟩) others fun f' hf' hp => by
      rcases List.mem_cons.1 ((added.map Prod.fst).mem_iff.1 hp) with e | hp
      · exact first (List.mem_map.2 ⟨f', hf', e⟩)
      · exact hs f' (List.mem_cons_of_mem _ hf') hp
    refine ⟨s', ?_⟩
    rw [insertAll, insert_eq_ok_iff.2 ⟨hf, rfl⟩]
    exact hs'

/-- What is staged are the files, each under its path. -/
theorem ofFiles_perm {files : List OutputFile} {s : Staging} (h : ofFiles files = .ok s) :
    s.entries.Perm (files.map fun f => (f.path, f.content)) := by
  simpa [empty, entries, SortedMap.empty] using insertAll_perm h

theorem ofFiles_paths_perm {files : List OutputFile} {s : Staging} (h : ofFiles files = .ok s) :
    s.paths.Perm (files.map (·.path)) := by
  have paths := (ofFiles_perm h).map Prod.fst
  rwa [List.map_map] at paths

/-- Files can be staged exactly if their paths differ. -/
theorem ofFiles_ok_iff (files : List OutputFile) :
    (∃ s, ofFiles files = .ok s) ↔ (files.map (·.path)).Nodup := by
  constructor
  · rintro ⟨s, hs⟩
    exact (ofFiles_paths_perm hs).nodup_iff.1 s.paths_nodup
  · intro h
    exact insertAll_of_nodup h (by simp [empty, paths, SortedMap.keys, SortedMap.empty])

end Staging

/-! ## Whole runs -/

namespace Node
variable {nodes : List Node} {o : Options} {n : Node}

theorem mem_select : n ∈ select nodes o ↔ n ∈ nodes ∧ isSelected nodes o n := by
  rw [select, List.mem_mergeSort, List.mem_filter]

/-- Selected files that are listed in the order of their paths are selected so. -/
theorem select_eq_of_sorted {files : List Node} (h : nodes.filter (isSelected nodes o) = files)
    (sorted : files.Pairwise (·.path ≤ ·.path)) : select nodes o = files := by
  rw [select, h]
  exact List.mergeSort_of_pairwise (sorted.imp decide_eq_true)

theorem isFile_of_mem_select (h : n ∈ select nodes o) : n.isFile := by
  have selected := (mem_select.1 h).2
  simp only [isSelected, Bool.and_eq_true] at selected
  exact selected.1.1

end Node

namespace Generator
variable {g : Generator} {schematic : String} {raw : RawOptions} {s : Staged}

theorem stageNodes_eq (renderer : Template.Renderer) (nodes : List Node) (o : Options) :
    stageNodes renderer nodes o =
      let outcome := Node.renderAll renderer (.ofOptions o) (Node.select nodes o)
      (Layout.place o outcome.1 >>= Staging.ofFiles).map fun files =>
        { options := o, files, failures := outcome.2 } := by
  simp only [stageNodes]
  cases Layout.place o (Node.renderAll renderer (.ofOptions o) (Node.select nodes o)).1 with
  | error e => rfl
  | ok placed =>
    show (Staging.ofFiles placed >>= _) = (Staging.ofFiles placed).map _
    cases Staging.ofFiles placed <;> rfl

/-- What is staged are the rendered files, where the options place them. -/
theorem stageNodes_ok {renderer : Template.Renderer} {nodes : List Node} {o : Options}
    (h : stageNodes renderer nodes o = .ok s) : s.options = o ∧ ∃ placed,
      let outcome := Node.renderAll renderer (.ofOptions o) (Node.select nodes o)
      Layout.place o outcome.1 = .ok placed ∧ Staging.ofFiles placed = .ok s.files ∧
        s.failures = outcome.2 := by
  simp only [stageNodes, bind_eq_ok] at h
  obtain ⟨placed, hplaced, files, hfiles, h⟩ := h
  cases h
  exact ⟨rfl, placed, hplaced, hfiles, rfl⟩

theorem stage_of_source {source : Schematic} (h : g.library.get schematic = .ok source)
    (raw : RawOptions) : g.stage schematic raw =
      Options.normalize (g.settings source) raw >>= stageNodes g.renderer source.nodes := by
  rw [stage, h]
  rfl

theorem stage_ok (h : g.stage schematic raw = .ok s) : ∃ source,
    g.library.get schematic = .ok source ∧
      Options.normalize (g.settings source) raw = .ok s.options ∧
        stageNodes g.renderer source.nodes s.options = .ok s := by
  simp only [stage, bind_eq_ok] at h
  obtain ⟨source, hsource, o, ho, h⟩ := h
  obtain rfl := (stageNodes_ok h).1
  exact ⟨source, hsource, ho, h⟩

/-- The destination of a run is the root or a valid path. -/
theorem stage_destination (h : g.stage schematic raw = .ok s) :
    s.options.path = "" ∨ Layout.isValidPath s.options.path.toList := by
  obtain ⟨source, -, ho, -⟩ := stage_ok h
  exact Options.normalize_path ho

/-- Every staged path lies below the destination of the run. -/
theorem stage_below (h : g.stage schematic raw = .ok s) {path : String}
    (hp : path ∈ s.files.paths) : ∃ segments, segments ≠ [] ∧
      (∀ segment ∈ segments, Layout.isValidPath segment) ∧
        path = Layout.below s.options.path segments := by
  obtain ⟨source, -, -, hnodes⟩ := stage_ok h
  obtain ⟨-, placed, hplaced, hfiles, -⟩ := stageNodes_ok hnodes
  obtain ⟨e, he, rfl⟩ := List.mem_map.1 hp
  obtain ⟨f, hf, rfl⟩ := List.mem_map.1 ((Staging.ofFiles_perm hfiles).mem_iff.1 he)
  obtain ⟨r, -, place, hplace, rfl⟩ := exists_of_forall₂ (Layout.placeFrom_ok hplaced) hf
  obtain ⟨segments, hne, hs, hbelow⟩ := Layout.resolve_ok hplace
  exact ⟨segments, hne, hs, hbelow⟩

/-- **Every staged path is valid.** -/
theorem stage_valid (h : g.stage schematic raw = .ok s) : s.files.Valid := by
  intro path hp
  obtain ⟨segments, hne, hs, rfl⟩ := stage_below h hp
  exact Layout.below_isValidPath (stage_destination h) hne hs

end Generator

/-! ## A small run -/

def pairSchematic : Schematic :=
  { name := "pair"
    manifest := { description := "", defaultPath := "", required := [], ignored := [], rules := []
                  operations := [] }
    nodes := [⟨"a/x", some "1", []⟩, ⟨"b", some "2", []⟩] }

def pairGenerator (root : String) : Generator :=
  .ofLibrary (.insert .empty pairSchematic) { root, currentDirectory := "/" }

/-- Options that let a commit replace files. -/
def forcedOptions : RawOptions := [("name", .string "user"), ("force", .bool true)]

theorem select_pairSchematic (o : Options) :
    Node.select pairSchematic.nodes o = pairSchematic.nodes :=
  Node.select_eq_of_sorted rfl (by decide)

/-- A run on this schematic, whose nodes are in their order. -/
theorem pairGenerator_stage_eq (root : String) (raw : RawOptions) :
    (pairGenerator root).stage "pair" raw = (do
      let o ← Options.normalize ((pairGenerator root).settings pairSchematic) raw
      let (rendered, failures) :=
        Node.renderAll Template.render (.ofOptions o) pairSchematic.nodes
      let placed ← Layout.place o rendered
      let files ← Staging.ofFiles placed
      pure { options := o, files, failures }) := by
  show (Options.normalize ((pairGenerator root).settings pairSchematic) raw >>=
    Generator.stageNodes Template.render pairSchematic.nodes) = _
  unfold Generator.stageNodes
  simp only [select_pairSchematic]

/-- The run stages both files, whether it is to replace files or not. -/
theorem pairGenerator_stage_force (root : String) (force : Bool) : ∃ s,
    (pairGenerator root).stage "pair" [("name", .string "user"), ("force", .bool force)] = .ok s ∧
      s.options.force = force ∧ s.files = .twoFiles ∧ s.failures = [] := by
  have staged : ((pairGenerator root).stage "pair"
      [("name", .string "user"), ("force", .bool force)]).map
        (fun s => (s.options.force, s.files.entries, s.failures.length)) =
          .ok (force, [("a/x", "1"), ("b", "2")], 0) := by
    rw [pairGenerator_stage_eq]
    cases force <;> rfl
  obtain ⟨⟨options, ⟨⟨entries, sorted⟩⟩, failures⟩, hs, h⟩ := map_eq_ok.1 staged
  simp only [Prod.mk.injEq] at h
  obtain ⟨hforce, hentries, hfailures⟩ := h
  cases hentries
  exact ⟨_, hs, hforce, rfl, List.length_eq_zero_iff.1 hfailures⟩

theorem pairGenerator_stage (root : String) : ∃ s,
    (pairGenerator root).stage "pair" forcedOptions = .ok s ∧ s.options.force = true ∧
      s.files = .twoFiles ∧ s.failures = [] :=
  pairGenerator_stage_force root true

end Stencil
