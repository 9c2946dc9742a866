import Stencil.Proofs.Commit.Settled
import Stencil.Proofs.Generator.Accounting
import Stencil.Proofs.Options.Mode
import Stencil.Proofs.Schematic.RunMode

/-!
# Generation is repeatable

A run that commits leaves a disk that holds what it staged. The same run in another mode stages the
same, as no condition of a schematic that was loaded asks for the mode. So it finds all its files
there: a forced commit changes nothing, a forced dry run finds nothing to change, and a commit
without force is refused (`generation_repeats`).

What "the same run" means is told of the options after they are normalized. `RawOptions.inMode`
gives raw options that are normalized to these.
-/
namespace Stencil
open Disk

namespace Generator
variable {g : Generator} {schematic : String} {source : Schematic} {raw raw' : RawOptions}
  {s : Staged}

/-- A run in another mode stages the same, if no condition asks for the mode. -/
theorem stage_again (hsource : g.library.get schematic = .ok source)
    (blind : ∀ n ∈ source.nodes, ∀ c ∈ n.conditions, c.IsBlind)
    (hs : g.stage schematic raw = .ok s) {dryRun force : Bool}
    (again : Options.normalize (g.settings source) raw' = .ok { s.options with dryRun, force }) :
    ∃ s', g.stage schematic raw' = .ok s' ∧ s'.options = { s.options with dryRun, force } ∧
      s'.files = s.files ∧ s'.failures = s.failures := by
  obtain ⟨source', hsource', -, hnodes⟩ := stage_ok hs
  obtain rfl : source = source' := Except.ok.inj (hsource.symm.trans hsource')
  have staged := stageNodes_of_blind s.options dryRun force g.renderer blind
  rw [hnodes] at staged
  refine ⟨{ s with options := { s.options with dryRun, force } }, ?_, rfl, rfl, rfl⟩
  rw [stage_of_source hsource, again]
  exact staged

/-- What a disk answers to a run that is asked for again, in each mode. -/
structure Repeats (g : Generator) (schematic : String) (source : Schematic) (s : Staged)
    (d : Disk) : Prop where
  /-- A forced commit replaces all files, and each is as it was. -/
  forced : ∀ raw, Options.normalize (g.settings source) raw =
      .ok { s.options with dryRun := false, force := true } →
    (d.attempt (g.generate schematic raw)).1 = .ok (.committed ⟨[], s.files.paths⟩) ∧
      (d.attempt (g.generate schematic raw)).2.tree = d.tree
  /-- A forced dry run finds no conflict and all files unchanged. -/
  previewed : ∀ raw, Options.normalize (g.settings source) raw =
      .ok { s.options with dryRun := true, force := true } →
    d.attempt (g.generate schematic raw) =
      (.ok (.preview
        { options := { s.options with dryRun := true, force := true }, files := s.files
          writes := s.files.entries.map fun e => ⟨e.1, .unchanged, e.2.utf8ByteSize, none⟩
          conflicts := [], failures := [] }), d)
  /-- A commit without force is refused for all files, if there are any. -/
  refused : ∀ raw, Options.normalize (g.settings source) raw =
      .ok { s.options with dryRun := false, force := false } →
    d.attempt (g.generate schematic raw) =
      (if s.files.paths = [] then .ok (.committed ⟨[], []⟩)
        else .error (.destinationConflict s.files.paths), d)

/-- A run that committed was no dry one, and all its files rendered. -/
theorem committed_ok {d d₁ : Disk} {report : CommitReport} (hs : g.stage schematic raw = .ok s)
    (hd : d.attempt (g.generate schematic raw) = (.ok (.committed report), d₁)) :
    s.failures = [] ∧ d.run (Commit.run g.root s.options.force s.files) = (.ok report, d₁) := by
  cases hdry : s.options.dryRun with
  | true =>
    rw [attempt_generate_dry hs d hdry, Prod.mk.injEq, map_eq_ok] at hd
    obtain ⟨⟨p, -, hp⟩, -⟩ := hd
    cases hp
  | false =>
    rw [attempt_generate_commit hs d hdry, Prod.mk.injEq, map_eq_ok] at hd
    obtain ⟨⟨report', hok, hreport⟩, hdisk⟩ := hd
    cases hreport
    cases hf : s.failures with
    | cons e rest =>
      rw [commit_of_failure hf] at hok
      cases hok
    | nil =>
      rw [commit_eq_run hf] at hok hdisk
      exact ⟨rfl, Prod.ext hok hdisk⟩

/-- On a disk that holds what a run without failures staged, the run repeats. -/
theorem repeats_of_settled (hsource : g.library.get schematic = .ok source)
    (blind : ∀ n ∈ source.nodes, ∀ c ∈ n.conditions, c.IsBlind)
    (hs : g.stage schematic raw = .ok s) (complete : s.failures = []) {d : Disk}
    (quiet : d.mishap = none) (h : Commit.Settled d g.root s.files) :
    g.Repeats schematic source s d := by
  have valid := stage_valid hs
  constructor
  case forced =>
    intro raw' again
    obtain ⟨s', hs', hoptions, hfiles, hfailures⟩ := stage_again hsource blind hs again
    have hdry : s'.options.dryRun = false := by rw [hoptions]
    have hforce : s'.options.force = true := by rw [hoptions]
    obtain ⟨hok, tree⟩ := h.run_forced quiet valid
    rw [attempt_generate_commit hs' d hdry, commit_eq_run (hfailures.trans complete), hforce,
      hfiles, hok]
    exact ⟨rfl, tree⟩
  case previewed =>
    intro raw' again
    obtain ⟨s', hs', hoptions, hfiles, hfailures⟩ := stage_again hsource blind hs again
    have hdry : s'.options.dryRun = true := by rw [hoptions]
    have hforce : s'.options.force = true := by rw [hoptions]
    rw [← hfiles] at h valid ⊢
    rw [attempt_generate_dry hs' d hdry, h.preview_forced quiet valid hforce, hoptions, hfailures,
      complete]
    rfl
  case refused =>
    intro raw' again
    obtain ⟨s', hs', hoptions, hfiles, hfailures⟩ := stage_again hsource blind hs again
    have hdry : s'.options.dryRun = false := by rw [hoptions]
    have hforce : s'.options.force = false := by rw [hoptions]
    rw [attempt_generate_commit hs' d hdry, commit_eq_run (hfailures.trans complete), hforce,
      hfiles, h.run_unforced valid]
    split <;> rfl

/-- **Generation is repeatable.** After a run of a schematic that was loaded has committed, the same
run finds all its files there, in whatever mode it is asked for again. -/
theorem generation_repeats {d₀ d₀' d d₁ : Disk} {name dir : String} {report : CommitReport}
    (loaded : d₀.attempt (Schematic.load name dir) = (.ok source, d₀'))
    (hsource : g.library.get schematic = .ok source) (hs : g.stage schematic raw = .ok s)
    (hd : d.attempt (g.generate schematic raw) = (.ok (.committed report), d₁)) :
    g.Repeats schematic source s { d₁ with mishap := none } ∧
      ∀ dryRun force, Options.normalize (g.settings source) (raw.inMode dryRun force) =
        .ok { s.options with dryRun, force } := by
  obtain ⟨complete, hok⟩ := committed_ok hs hd
  have alike : Alike d₁ { d₁ with mishap := none } := ⟨rfl, rfl⟩
  have settled := (Commit.settled_of_run_ok (stage_valid hs) hok).of_tree_eq alike rfl
  refine ⟨repeats_of_settled hsource (Schematic.load_blind loaded) hs complete rfl settled, ?_⟩
  intro dryRun force
  obtain ⟨source', hsource', ho, -⟩ := stage_ok hs
  obtain rfl : source = source' := Except.ok.inj (hsource.symm.trans hsource')
  exact Options.normalize_inMode ho dryRun force

/-- A disk with a schematic of two files, one of them in a directory. -/
def pairDisk : Disk :=
  { tree := FileTree.empty |>.put ["s"] .directory
      |>.put ["s", "schematic.json"] (.file "\x7b\x7d".toUTF8) |>.put ["s", "files"] .directory
      |>.put ["s", "files", "a"] .directory
      |>.put ["s", "files", "a", "x"] (.file "1".toUTF8)
      |>.put ["s", "files", "b"] (.file "2".toUTF8)
    here := [], admits := isCommonName, mishap := none }

def pairNodes : List Node := [⟨"a", none, []⟩, ⟨"a/x", some "1", []⟩, ⟨"b", some "2", []⟩]

theorem select_pairNodes (o : Options) :
    Node.select pairNodes o = [⟨"a/x", some "1", []⟩, ⟨"b", some "2", []⟩] :=
  Node.select_eq_of_sorted rfl (by decide)

/-- A generator with one schematic, for a directory that may not be there yet. -/
def ofSchematic (source : Schematic) : Generator :=
  .ofLibrary (.insert .empty source) { root := "w", currentDirectory := "/" }

theorem pairDisk_repeats : ∃ source d' s d₁,
    pairDisk.attempt (Schematic.load "pair" "s") = (.ok source, d') ∧
      (ofSchematic source).stage "pair" userOptions = .ok s ∧
      pairDisk.attempt ((ofSchematic source).generate "pair" userOptions) =
        (.ok (.committed ⟨["a/x", "b"], []⟩), d₁) ∧
      (ofSchematic source).Repeats "pair" source s { d₁ with mishap := none } ∧
      (Disk.attempt { d₁ with mishap := none }
          ((ofSchematic source).generate "pair" (userOptions.inMode false true))).1 =
        .ok (.committed ⟨[], ["a/x", "b"]⟩) := by
  have loaded : (pairDisk.attempt (Schematic.load "pair" "s")).1.map
      (fun s => (s.name, s.nodes, s.manifest.required, s.manifest.defaultPath)) =
        .ok ("pair", pairNodes, [], "") := by decide +kernel
  obtain ⟨⟨name, manifest, nodes⟩, d', hload, h⟩ := attempt_of_map_eq_ok loaded
  simp only [Prod.mk.injEq] at h
  obtain ⟨rfl, rfl, hrequired, hdefault⟩ := h
  have staged : ((ofSchematic ⟨"pair", manifest, pairNodes⟩).stage "pair" userOptions).map
      (fun s => (s.options.dryRun, s.options.force, s.files.entries, s.failures.length)) =
        .ok (false, false, [("a/x", "1"), ("b", "2")], 0) := by
    show (Options.normalize
        { required := manifest.required, defaultPath := manifest.defaultPath
          workspace := some ⟨"w", "/"⟩ } userOptions >>=
      stageNodes Template.render pairNodes).map _ = _
    rw [hrequired, hdefault]
    unfold stageNodes
    simp only [select_pairNodes]
    decide +kernel
  obtain ⟨⟨options, ⟨⟨entries, sorted⟩⟩, failures⟩, hs, h⟩ := map_eq_ok.1 staged
  simp only [Prod.mk.injEq] at h
  obtain ⟨hdry, hforce, hentries, hfailures⟩ := h
  cases hentries
  obtain rfl := List.length_eq_zero_iff.1 hfailures
  have hd : pairDisk.attempt ((ofSchematic ⟨"pair", manifest, pairNodes⟩).generate "pair"
      userOptions) = (.ok (.committed ⟨["a/x", "b"], []⟩),
        (pairDisk.run (Commit.run (Route.parse "w") false .twoFiles)).2) := by
    have done : (pairDisk.run (Commit.run (Route.parse "w") false .twoFiles)).1 =
        .ok ⟨["a/x", "b"], []⟩ := by decide +kernel
    have hroot : (ofSchematic ⟨"pair", manifest, pairNodes⟩).root = Route.parse "w" := rfl
    rw [attempt_generate_commit hs _ hdry, commit_eq_run rfl, hforce, hroot]
    exact Prod.ext (congrArg (Except.map Generation.committed) done) rfl
  obtain ⟨again, normalized⟩ := generation_repeats hload rfl hs hd
  exact ⟨_, d', _, _, hload, hs, hd, again, (again.forced _ (normalized false true)).1⟩

end Generator
end Stencil
