import Stencil.Proofs.Commit.Effect

/-!
# When a commit succeeds

On a disk without mishaps a file is written exactly if nothing is in its way (`writeFile_succeeds`),
and all files are written exactly if nothing is in the way of any of them (`run_succeeds_iff`).
-/
namespace Stencil
open Disk

namespace Disk.Route

/-- What follows some of the fronts of a list are the fronts of what follows the last of these. -/
theorem properFronts_eq_append {α : Type} {l : List α} {before after : List (List α)}
    (h : properFronts l = before ++ after) : ∃ pre rest, l = pre ++ rest ∧
      after = (properFronts rest).map (pre ++ ·) ∧
        ((before = [] ∧ pre = []) ∨ before.getLast? = some pre) := by
  fun_induction properFronts l generalizing before after with
  | case1 =>
    obtain ⟨rfl, rfl⟩ := List.nil_eq_append_iff.1 h
    exact ⟨[], [], rfl, rfl, .inl ⟨rfl, rfl⟩⟩
  | case2 x =>
    obtain ⟨rfl, rfl⟩ := List.nil_eq_append_iff.1 h
    exact ⟨[], [x], rfl, rfl, .inl ⟨rfl, rfl⟩⟩
  | case3 x y rest ih =>
    cases before with
    | nil =>
      refine ⟨[], x :: y :: rest, rfl, ?_, .inl ⟨rfl, rfl⟩⟩
      simp only [List.nil_append, List.map_id']
      exact h.symm
    | cons first before =>
      rw [List.cons_append, List.cons.injEq] at h
      obtain ⟨rfl, hmore⟩ := h
      obtain ⟨before', after', hfronts, rfl, rfl⟩ := List.map_eq_append_iff.1 hmore
      obtain ⟨pre, rest', hrest, rfl, hlast⟩ := ih hfronts
      refine ⟨x :: pre, rest', by rw [hrest, List.cons_append], by simp, .inr ?_⟩
      rcases hlast with ⟨rfl, rfl⟩ | hlast
      · rfl
      · rw [List.getLast?_cons, List.getLast?_map, hlast]
        rfl

end Disk.Route

namespace Commit
variable {d : Disk} {r : Route}

/-- The route along the first steps of another one. -/
def along (r : Route) (steps : List Step) : Route := { r with steps, directoryOnly := false }

/-- The directories to be made are those on the way from a place that is there. -/
theorem exists_unmade (d : Disk) {r : Route} (hr : r.steps ≠ []) : ∃ pre rest,
    r.steps = pre ++ rest ∧ rest ≠ [] ∧
      unmade d r = (Route.properFronts rest).map (fun front => along r (pre ++ front)) ∧
        (pre = [] ∨ (d.kind? (along r pre)).isSome) := by
  have cut : r.ancestors =
      (r.ancestors.reverse.dropWhile fun a => (d.kind? a).isNone).reverse ++ unmade d r := by
    rw [unmade, ← List.reverse_append, List.takeWhile_append_dropWhile, List.reverse_reverse]
  obtain ⟨before, after, hfronts, hbefore, hafter⟩ := List.map_eq_append_iff.1 cut
  obtain ⟨pre, rest, hsteps, rfl, hlast⟩ := Route.properFronts_eq_append hfronts
  refine ⟨pre, rest, hsteps, ?_, ?_, ?_⟩
  · rintro rfl
    rw [List.append_nil] at hsteps
    rcases hlast with ⟨-, rfl⟩ | hlast
    · exact hr hsteps
    · have hmem : pre ∈ Route.properFronts r.steps := by
        rw [hfronts]
        exact List.mem_append_left _ (List.mem_of_getLast? hlast)
      exact ((Route.mem_properFronts _ _).1 hmem).2.2 hsteps.symm
  · rw [← hafter, List.map_map]
    rfl
  · refine hlast.imp And.right fun hlast => ?_
    have head : (r.ancestors.reverse.dropWhile fun a => (d.kind? a).isNone).head? =
        some (along r pre) := by
      rw [← List.getLast?_reverse, ← hbefore, List.getLast?_map, hlast]
      rfl
    have := List.head?_dropWhile_not (fun a => (d.kind? a).isNone) r.ancestors.reverse
    rw [head] at this
    simpa [Option.isSome_iff_ne_none] using this

theorem trail_concat (d : Disk) (r : Route) (steps : List Step) (x : Step) :
    d.trail (along r (steps ++ [x])) = d.trail (along r steps) ++ [d.goal (along r steps)] :=
  passed_append _ _ _

/-- Where a route leads there is a directory, or there is one above. -/
theorem isDirectory_goal_or (h : d.Reaches r) (hr : r.steps ≠ []) :
    d.tree.isDirectory (d.goal r) ∨ d.tree.isDirectory (d.goal r).dropLast := by
  obtain ⟨init, x, hsteps⟩ := List.eq_nil_or_concat r.steps |>.resolve_left hr
  have hlast : d.tree.isDirectory (walk (d.start r) init) := by
    refine h.1 _ ((mem_passed _ _ _).2 ⟨init, ?_, ?_, rfl⟩)
    · rw [hsteps]
      exact List.prefix_concat _ _
    · rw [hsteps]
      simp
  have hgoal : d.goal r = x.move (walk (d.start r) init) := by
    rw [goal, hsteps, List.concat_eq_append, walk_append]
    rfl
  cases x with
  | up =>
    left
    rw [hgoal]
    exact FileTree.isDirectory_dropLast (by rw [(FileTree.isDirectory_iff _ _).1 hlast]; simp)
  | down name =>
    right
    rw [hgoal, Step.move, List.dropLast_concat]
    exact hlast

/-- The directories on the way to a file can be made one after another, if no file is among them. -/
theorem createDirectories_progress {tail : List Step} {d : Disk} {pre : List Step} {x : Step}
    {j : Journal} (quiet : d.mishap = none) (hsteps : r.steps = pre ++ x :: tail)
    (allows : d.Allows r) (trail : ∀ l ∈ d.trail r, ∀ content, d.tree.at? l ≠ some (.file content))
    (reached : d.Reaches (along r (pre ++ [x]))) :
    ∃ j' d', d.run (createDirectories j
        ((Route.properFronts (x :: tail)).map fun front => along r (pre ++ front))) =
          ((j', .ok ()), d') ∧ d'.mishap = none ∧ d'.Reaches r := by
  -- on the steps that are left; `reached` holds of the directory that is made next
  induction tail generalizing d pre x j with
  | nil =>
    have whole : along r (pre ++ [x]) = { r with directoryOnly := false } := by
      rw [along, ← hsteps]
    rw [whole] at reached
    exact ⟨j, d, rfl, quiet, reached⟩
  | cons y tail ih =>
    have hdirs : (Route.properFronts (x :: y :: tail)).map (fun front => along r (pre ++ front)) =
        along r (pre ++ [x]) ::
          (Route.properFronts (y :: tail)).map fun front => along r (pre ++ [x] ++ front) := by
      simp [Route.properFronts]
    have hsteps' : r.steps = (pre ++ [x]) ++ y :: tail := by simp [hsteps]
    have onWay : d.goal (along r (pre ++ [x])) ∈ d.trail r := by
      refine (mem_passed _ _ _).2 ⟨pre ++ [x], ?_, ?_, rfl⟩ <;> rw [hsteps']
      · exact List.prefix_append _ _
      · simp
    have next {d₁ : Disk} (ha : Alike d d₁)
        (more : ∀ l, d.tree.isDirectory l → d₁.tree.isDirectory l)
        (made : d₁.tree.isDirectory (d.goal (along r (pre ++ [x])))) :
        d₁.Reaches (along r (pre ++ [x] ++ [y])) := by
      refine ⟨fun l hl => ?_, fun name hname => (ha.allows_iff r).2 allows name ?_⟩
      · rw [ha.trail_eq, trail_concat, List.mem_append, List.mem_singleton] at hl
        rcases hl with hl | rfl
        · exact more l (reached.1 l hl)
        · exact made
      · rw [hsteps']
        exact (List.prefix_append_right_inj _).2 (List.prefix_append [y] tail) |>.subset hname
    rw [hdirs, createDirectories, run_bind, run_createDirectory]
    cases hs : d.tree.at? (d.goal (along r (pre ++ [x]))) with
    | none =>
      have hno := FileTree.not_isDirectory_of_none hs
      have can : d.CanCreate (along r (pre ++ [x])) :=
        ⟨reached, hs, (isDirectory_goal_or reached (by simp [along])).resolve_left hno⟩
      have put := FileTree.isDirectory_put can.accepts
      rw [createDirectory_of_no_mishap quiet can]
      refine ih quiet hsteps' allows (fun l hl content e => ?_) (next ⟨rfl, rfl⟩ ?_ ?_)
      · rw [FileTree.at?_put can.accepts] at e
        split at e
        · cases e
        · exact trail l hl content e
      · intro l hl
        rw [put, hl, Bool.or_true]
      · rw [put]
        simp
    | some e =>
      cases e with
      | file content => exact absurd hs (trail _ onWay content)
      | directory =>
        have hk : d.kind? (along r (pre ++ [x])) = some .directory :=
          (kind?_eq_some_iff _ _ _).2
            ⟨.directory, (find_eq_ok_iff _ _ _).2 ⟨reached, hs, fun _ => rfl⟩, rfl⟩
        rw [createDirectory_of_exists quiet reached (by simp [hs])]
        simp only [if_true, run_bind, run_isDirectory, hk, beq_self_eq_true]
        exact ih quiet hsteps' allows trail
          (next (.refl d) (fun l hl => hl) ((FileTree.isDirectory_iff _ _).2 hs))

theorem reaches_unmade (clear : Clear d r) {pre tail : List Step} {x : Step}
    (hsteps : r.steps = pre ++ x :: tail) (hpre : pre = [] ∨ (d.kind? (along r pre)).isSome) :
    d.Reaches (along r (pre ++ [x])) := by
  have here : (∀ l ∈ d.trail (along r pre), d.tree.isDirectory l) ∧
      d.tree.isDirectory (d.goal (along r pre)) := by
    rcases hpre with rfl | hpre
    · exact ⟨fun l hl => absurd hl List.not_mem_nil, clear.start⟩
    · obtain ⟨k, hk⟩ := Option.isSome_iff_exists.1 hpre
      obtain ⟨e, he, -⟩ := (kind?_eq_some_iff _ _ _).1 hk
      obtain ⟨hreach, hs, -⟩ := (find_eq_ok_iff _ _ _).1 he
      refine ⟨hreach.1, (FileTree.isDirectory_iff _ _).2 ?_⟩
      have onWay : d.goal (along r pre) ∈ d.trail r := by
        refine (mem_passed _ _ _).2 ⟨pre, ?_, ?_, rfl⟩ <;> rw [hsteps]
        · exact List.prefix_append _ _
        · simp
      cases e with
      | file content => exact absurd hs (clear.trail _ onWay content)
      | directory => exact hs
  refine ⟨fun l hl => ?_, fun name hname => clear.allows name ?_⟩
  · rw [trail_concat, List.mem_append, List.mem_singleton] at hl
    rcases hl with hl | rfl
    · exact here.1 l hl
    · exact here.2
  · rw [hsteps]
    exact (List.prefix_append_right_inj _).2 (List.prefix_append [x] tail) |>.subset hname

/-- Without mishaps a file is written if nothing is in its way, and it is not in its own way. -/
theorem writeFile_progress (quiet : d.mishap = none) (clear : Clear d r)
    (apart : d.goal r ∉ d.trail r) (hr : r.steps ≠ []) (hd : r.directoryOnly = false)
    (content : String) (j : Journal) :
    ∃ w, (d.run (writeFile r content j)).1.2 = .ok w ∧
      (d.run (writeFile r content j)).2.mishap = none := by
  obtain ⟨pre, rest, hsteps, hrest, hunmade, hpre⟩ := exists_unmade d hr
  obtain ⟨x, tail, rfl⟩ := List.exists_cons_of_ne_nil hrest
  obtain ⟨j₁, d₁, hrun, quiet₁, reached⟩ := createDirectories_progress (j := j) quiet hsteps
    clear.allows clear.trail (reaches_unmade clear hsteps hpre)
  have dirs := createDirectories_creates (unmade d r) j d
  rw [← hunmade] at hrun
  rw [hrun] at dirs
  have hno : ¬ d₁.tree.isDirectory (d₁.goal r) := by
    rw [dirs.alike.goal_eq, FileTree.isDirectory_iff]
    rcases dirs.at?_cases (d.goal r) with e | ⟨-, -, a, hmem, e⟩
    · rw [e, ← FileTree.isDirectory_iff]
      exact clear.goal
    · rw [e] at apart
      exact absurd (of_mem_ancestors (mem_ancestors_of_mem_unmade hmem) d).1 apart
  have target : d₁.target r = .ok (d₁.goal r) := (target_eq_ok_iff _ _ _).2
    ⟨reached, hd, (isDirectory_goal_or reached hr).resolve_left hno, hno, rfl⟩
  have written := write_of_no_mishap quiet₁ target content.toUTF8
  simp only [writeFile, run_bind, missing_unmade, List.reverse_reverse, hrun, run_holds]
  obtain hk | ⟨k, hk⟩ := Option.eq_none_or_eq_some (d₁.kind? r)
  · simp only [hk, Option.isSome_none, Bool.false_eq_true, if_false, run_bind, run_write, written]
    exact ⟨.created, rfl, quiet₁⟩
  · obtain ⟨e, he, -⟩ := (kind?_eq_some_iff _ _ _).1 hk
    cases e with
    | directory =>
      exact absurd ((FileTree.isDirectory_iff _ _).2 ((find_eq_ok_iff _ _ _).1 he).2.1) hno
    | file old =>
      simp only [hk, Option.isSome_some, if_true, run_bind, run_read, read_of_no_mishap quiet₁ he,
        run_write, written]
      exact ⟨.overwritten, rfl, quiet₁⟩

/-- Without mishaps all files are written if nothing is in the way of any of them. -/
theorem writeAll_progress {root : Route} {d : Disk} (quiet : d.mishap = none)
    {entries : List (String × String)} (j : Journal)
    (free : Unobstructed d root (entries.map (·.1)))
    (valid : ∀ p ∈ entries.map (·.1), Layout.isValidPath p.toList)
    (distinct : (entries.map (·.1)).Nodup) :
    ∃ report, (d.run (writeAll root j entries)).1.2 = .ok report := by
  induction entries generalizing d j with
  | nil => exact ⟨⟨[], []⟩, rfl⟩
  | cons entry rest ih =>
    obtain ⟨path, content⟩ := entry
    rw [List.map_cons] at free valid distinct
    have hpath := valid path List.mem_cons_self
    have clear := free.clear path List.mem_cons_self
    obtain ⟨w, hw, quiet₁⟩ := writeFile_progress quiet clear
      (free.apart path List.mem_cons_self path List.mem_cons_self) (steps_join_ne_nil hpath)
      (by rw [join_of_isValidPath hpath]) content j
    have first := writeFile_writes (root.join path) content j d
    simp only [writeAll, run_bind]
    generalize d.run (writeFile (root.join path) content j) = x at hw quiet₁ first ⊢
    obtain ⟨⟨j₁, answer⟩, d₁⟩ := x
    subst hw
    obtain ⟨-, effect, -⟩ := first.effect (steps_join_ne_nil hpath)
    obtain ⟨report, hmore⟩ := ih quiet₁ j₁
      ((effect.unobstructed_cons_iff clear valid distinct).1 free)
      (List.forall_mem_cons.1 valid).2 (List.nodup_cons.1 distinct).2
    simp only [run_bind]
    generalize d₁.run (writeAll root j₁ rest) = y at hmore ⊢
    obtain ⟨⟨j₂, answer⟩, d₂⟩ := y
    subst hmore
    exact ⟨addTo report path w, rfl⟩

/-- **When a commit succeeds.** Without mishaps, exactly if there are no conflicts and nothing is in
the way of the staged files. -/
theorem run_succeeds_iff {root : Route} {force : Bool} {s : Staging} (h : s.Valid) {d : Disk}
    (quiet : d.mishap = none) : (∃ report, (d.run (run root force s)).1 = .ok report) ↔
      s.paths.filter (Blocks d root force) = [] ∧ Unobstructed d root s.paths := by
  constructor
  · rintro ⟨report, hok⟩
    obtain ⟨hc, free, -⟩ := run_ok_effect h (Prod.ext hok rfl)
    exact ⟨hc, free⟩
  · rintro ⟨hc, free⟩
    have written : ∃ report, (d.run (writeAll root ⟨[], [], []⟩ s.entries)).1.2 = .ok report :=
      writeAll_progress quiet ⟨[], [], []⟩ free h s.paths_nodup
    obtain ⟨report, hok⟩ := written
    rw [run_of_no_conflicts hc]
    generalize d.run (writeAll root ⟨[], [], []⟩ s.entries) = x at hok ⊢
    obtain ⟨⟨j, answer⟩, d₁⟩ := x
    subst hok
    exact ⟨report, rfl⟩

end Commit
end Stencil
