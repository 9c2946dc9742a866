import Stencil.Proofs.Commit.Outcome
import Stencil.Proofs.Preview.Plan

/-!
# Previews are faithful

`preview_faithful`: what a preview tells of a run without failures is what a commit of the run then
does. The plan looks for files where they are staged, and a commit that succeeds found there either
a file or nothing, so the two agree on what is new.
-/
namespace Stencil
open Disk

theorem markConflict_path (conflicts : List String) (w : PlannedWrite) :
    (Generator.markConflict conflicts w).path = w.path := by
  unfold Generator.markConflict
  split <;> rfl

theorem markConflict_action_iff (conflicts : List String) {w : PlannedWrite}
    (h : w.action ≠ .conflict) :
    (Generator.markConflict conflicts w).action = .conflict ↔ w.path ∈ conflicts := by
  unfold Generator.markConflict
  split
  · rename_i hc
    simpa using hc
  · rename_i hc
    simpa [h] using hc

theorem map_markConflict_nil (ws : List PlannedWrite) :
    ws.map (Generator.markConflict []) = ws := by
  have same : Generator.markConflict [] = id := funext fun w => if_neg (by simp)
  rw [same, List.map_id]

/-- The planned paths are the staged ones, in order. -/
theorem paths_of_plans {d : Disk} {root : Route} {entries : List (String × String)}
    {ws : List PlannedWrite} (h : List.Forall₂ (fun e w => Plans d root e.1 e.2 w) entries ws) :
    ws.map (·.path) = entries.map (·.1) := by
  induction h with
  | nil => rfl
  | cons first _ ih => rw [List.map_cons, List.map_cons, first.path_eq, ih]

/-- Planned writes that are picked by what the disk holds are picked by their paths. -/
theorem filter_plans {d : Disk} {root : Route} {entries : List (String × String)}
    {ws : List PlannedWrite} (h : List.Forall₂ (fun e w => Plans d root e.1 e.2 w) entries ws)
    {picked : PlannedWrite → Bool} {chosen : String → Bool}
    (same : ∀ e ∈ entries, ∀ w, Plans d root e.1 e.2 w → picked w = chosen e.1) :
    (ws.filter picked).map (·.path) = (entries.map (·.1)).filter chosen := by
  induction h with
  | nil => rfl
  | @cons e w rest more first _ ih =>
    have hw := same e List.mem_cons_self w first
    have hrest := ih fun e he => same e (List.mem_cons_of_mem _ he)
    rw [List.map_cons, List.filter_cons, List.filter_cons, hw]
    cases chosen e.1
    · exact hrest
    · simp only [if_true, List.map_cons, first.path_eq, hrest]

/-- What a preview foretells of a commit that succeeds. -/
structure Foretold (root : Route) (d : Disk) (p : Preview) (report : CommitReport) (d' : Disk) :
    Prop where
  created : report.created = (p.writes.filter (·.action = .create)).map (·.path)
  overwritten : report.overwritten =
    (p.writes.filter fun w => w.action = .overwrite ∨ w.action = .unchanged).map (·.path)
  /-- Planned files are written as previewed, with as many bytes as planned. -/
  written : ∀ w ∈ p.writes, ∃ content, p.files.get? w.path = some content ∧
    d'.find (root.join w.path) = .ok (.file content.toUTF8) ∧ w.bytes = content.toUTF8.size
  unchanged : ∀ w ∈ p.writes, w.action = .unchanged → ∀ content,
    p.files.get? w.path = some content → d.find (root.join w.path) = .ok (.file content.toUTF8)
  changed : ∀ w ∈ p.writes, w.action = .overwrite → ∀ content,
    p.files.get? w.path = some content →
      ∃ old, d.find (root.join w.path) = .ok (.file old) ∧ old ≠ content.toUTF8

/-- Whether a preview tells what a commit of the same run does on the same disk. -/
structure Faithful (g : Generator) (s : Staged) (d : Disk) (p : Preview) : Prop where
  files : p.files = s.files
  paths : p.writes.map (·.path) = p.files.paths
  conflict : ∀ w ∈ p.writes, w.action = .conflict ↔ w.path ∈ p.conflicts
  refused : ∀ paths, (d.attempt (g.commit s)).1 = .error (.destinationConflict paths) ↔
    p.conflicts ≠ [] ∧ paths = p.conflicts
  carried : ∀ report d', d.attempt (g.commit s) = (.ok report, d') → Foretold g.root d p report d'

theorem exists_plan {d : Disk} {root : Route} {s : Staging} {ws : List PlannedWrite}
    (h : List.Forall₂ (fun e w => Plans d root e.1 e.2 w) s.entries ws) {w : PlannedWrite}
    (hw : w ∈ ws) : ∃ content, s.get? w.path = some content ∧ Plans d root w.path content w := by
  obtain ⟨i, hi, rfl⟩ := List.getElem_of_mem hw
  have hj : i < s.entries.length := by rwa [h.length_eq]
  have plan := h.get hj hi
  simp only [List.get_eq_getElem] at plan
  refine ⟨s.entries[i].2, ?_, plan.path_eq ▸ plan⟩
  rw [plan.path_eq, ← s.mem_entries]
  exact List.getElem_mem hj

theorem foretold_of_outcome {root : Route} {d d' : Disk} {p : Preview} {report : CommitReport}
    (plans : List.Forall₂ (fun e w => Plans d root e.1 e.2 w) p.files.entries p.writes)
    (outcome : Commit.Outcome d root p.files report d') : Foretold root d p report d' := by
  have kinds : ∀ e ∈ p.files.entries,
      d.kind? (root.join e.1) = none ∨ d.kind? (root.join e.1) = some .file := by
    intro e he
    have hp : e.1 ∈ p.files.paths := List.mem_map_of_mem he
    rw [← outcome.complete.mem_iff, outcome.created, outcome.overwritten] at hp
    simp only [List.mem_append, List.mem_filter, Option.isNone_iff_eq_none, beq_iff_eq] at hp
    exact hp.imp And.right And.right
  constructor
  case created =>
    rw [outcome.created]
    refine (filter_plans plans fun e he w plan => ?_).symm
    have hc := plan.action_eq_create_iff
    rcases kinds e he with hk | hk <;> simp [hk] at hc ⊢ <;> exact hc
  case overwritten =>
    rw [outcome.overwritten]
    refine (filter_plans plans fun e he w plan => ?_).symm
    simp only [plan.replaces_iff]
    exact (beq_eq_decide _ _).symm
  case written =>
    intro w hw
    obtain ⟨content, hget, plan⟩ := exists_plan plans hw
    exact ⟨content, hget, outcome.written _ _ hget, plan.bytes_eq⟩
  case unchanged =>
    intro w hw hact content hget
    obtain ⟨content', hget', plan⟩ := exists_plan plans hw
    obtain rfl : content' = content := Option.some.inj (hget'.symm.trans hget)
    exact plan.of_unchanged hact
  case changed =>
    intro w hw hact content hget
    obtain ⟨content', hget', plan⟩ := exists_plan plans hw
    obtain rfl : content' = content := Option.some.inj (hget'.symm.trans hget)
    exact plan.of_overwrite hact

/-- **A preview is faithful.** What it tells of a run without failures, below a root without `..`,
is what a commit of the run then does. -/
theorem preview_faithful {g : Generator} (hroot : .up ∉ g.root.steps) {schematic : String}
    {raw : RawOptions} {s : Staged} (hs : g.stage schematic raw = .ok s) (hf : s.failures = [])
    {d d' : Disk} {p : Preview} (h : d.attempt (g.preview s) = (.ok p, d')) :
    Faithful g s d p := by
  obtain ⟨⟨-, hfiles, -, hconflicts⟩, ⟨ws, plans, hwrites⟩, -⟩ := preview_ok h
  constructor
  case files => exact hfiles
  case paths =>
    rw [hwrites, hfiles, List.map_map]
    refine (List.map_congr_left fun w _ => ?_).trans (paths_of_plans plans)
    exact markConflict_path _ w
  case conflict =>
    rw [hwrites, List.forall_mem_map]
    intro w hw
    obtain ⟨content, -, plan⟩ := exists_plan plans hw
    rw [markConflict_path]
    exact markConflict_action_iff _ plan.action_ne_conflict
  case refused =>
    intro paths
    rw [commit_eq_run hf, hconflicts]
    exact Commit.run_refused_iff _ _ _ _ _
  case carried =>
    intro report d₁ hok
    rw [commit_eq_run hf] at hok
    have valid := Generator.stage_valid hs
    obtain ⟨hnone, free, effect, rfl⟩ := Commit.run_ok_effect valid hok
    rw [hconflicts, hnone, map_markConflict_nil] at hwrites
    refine foretold_of_outcome ?_ (hfiles ▸ Commit.outcome_of_effect hroot valid free effect)
    rwa [hfiles, hwrites]

theorem soundDisk_faithful : ∃ s p d',
    (pairGenerator ".").stage "pair" forcedOptions = .ok s ∧
      Commit.soundDisk.attempt ((pairGenerator ".").preview s) = (.ok p, d') ∧
        p.writes.map (fun w => (w.path, w.action)) = [("a/x", .create), ("b", .overwrite)] ∧
          Faithful (pairGenerator ".") s Commit.soundDisk p := by
  obtain ⟨s, hs, hforce, hfiles, hfailures⟩ := pairGenerator_stage "."
  have told : (Commit.soundDisk.attempt ((pairGenerator ".").preview s)).1.map
      (fun p => p.writes.map fun w => (w.path, w.action)) =
        .ok [("a/x", .create), ("b", .overwrite)] := by
    simp only [Generator.preview, hforce, hfiles]
    rfl
  obtain ⟨p, hp, hwrites⟩ := map_eq_ok.1 told
  have answered : Commit.soundDisk.attempt ((pairGenerator ".").preview s) =
      (.ok p, (Commit.soundDisk.attempt ((pairGenerator ".").preview s)).2) := Prod.ext hp rfl
  exact ⟨s, p, _, hs, answered, hwrites, preview_faithful (by decide) hs hfailures answered⟩

end Stencil
