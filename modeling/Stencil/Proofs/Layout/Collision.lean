import Stencil.Proofs.Layout.Flat

/-!
# Files that come to one path

Several files of a run can come to one path. In the flat layout they collide if their nested paths
differ, and then none is placed (`placeFrom_flat`). In all other cases the files are placed in their
order, and staging refuses the first path that comes again (`ofFiles_error_iff`). So the places of
the files tell what becomes of them (`collisions_classified`).

The flat layout remembers only the last file at each path. That is enough: as long as nothing has
collided, all files at a path have the same nested path.
-/
namespace Stencil

namespace Layout
variable {o : Options} {earlier placed : List (Rendered × Place)} {x y : Rendered × Place}

/-- Whether two of some files come to one path from different nested paths. -/
def Colliding (placed : List (Rendered × Place)) : Prop :=
  ∃ x ∈ placed, ∃ y ∈ placed, x.2.final = y.2.final ∧ x.2.nested ≠ y.2.nested

/-- Whether `y` is the first file that collides with one in front of it, and `x` is one of those. -/
structure FirstCollision (placed : List (Rendered × Place)) (x y : Rendered × Place) : Prop where
  in_front : ∃ front after, placed = front ++ y :: after ∧ ¬ Colliding front ∧ x ∈ front
  same_path : x.2.final = y.2.final
  other_nested : x.2.nested ≠ y.2.nested

theorem not_colliding_nil : ¬ Colliding [] := fun ⟨_, hx, _⟩ => by cases hx

theorem FirstCollision.colliding (h : FirstCollision placed x y) : Colliding placed := by
  obtain ⟨front, after, rfl, -, hx⟩ := h.in_front
  exact ⟨x, List.mem_append_left _ hx, y, List.mem_append_right _ List.mem_cons_self, h.same_path,
    h.other_nested⟩

/-- A file collides with none of those in front of it if it has the nested path of all that come to
its path. -/
theorem not_colliding_concat (h : ¬ Colliding placed)
    (hy : ∀ x ∈ placed, x.2.final = y.2.final → x.2.nested = y.2.nested) :
    ¬ Colliding (placed ++ [y]) := by
  rintro ⟨a, ha, b, hb, path, nested⟩
  rw [List.mem_append, List.mem_singleton] at ha hb
  rcases ha with ha | rfl <;> rcases hb with hb | rfl
  · exact h ⟨a, ha, b, hb, path, nested⟩
  · exact nested (hy a ha path)
  · exact nested (hy b hb path.symm).symm
  · exact nested rfl

/-! ## Placing -/

/-- In the nested layout all files are placed, whatever has been seen. -/
theorem placeFrom_nested (hnested : o.flat = false)
    (resolved : ∀ x ∈ placed, resolve o x.1.path = .ok x.2) (seen : Seen) :
    placeFrom o seen (placed.map Prod.fst) = .ok (placed.map outputOf) := by
  induction placed generalizing seen with
  | nil => rfl
  | cons x rest ih =>
    obtain ⟨hplace, others⟩ := List.forall_mem_cons.1 resolved
    simp only [List.map_cons, placeFrom, hplace, hnested, bind, Except.bind, ih others]
    rfl

/-- What the flat layout has seen after it placed some files. -/
def seenOf (placed : List (Rendered × Place)) : Seen :=
  (placed.map fun x => (x.2.final, x.1.template, x.2.nested)).reverse

theorem seenOf_concat (placed : List (Rendered × Place)) (x : Rendered × Place) :
    seenOf (placed ++ [x]) = (x.2.final, x.1.template, x.2.nested) :: seenOf placed := by
  simp [seenOf]

theorem mem_seenOf {e : String × String × String} :
    e ∈ seenOf placed ↔ ∃ x ∈ placed, (x.2.final, x.1.template, x.2.nested) = e := by
  rw [seenOf, List.mem_reverse, List.mem_map]

/-- Behind files that do not collide, a file either does not collide with them and the flat layout
goes on, or the run stops with the name of one it collides with. -/
theorem placeFrom_flat_step (hflat : o.flat = true) (hplace : resolve o y.1.path = .ok y.2)
    (agree : ¬ Colliding earlier) (rest : List Rendered) :
    (¬ Colliding (earlier ++ [y]) ∧ placeFrom o (seenOf earlier) (y.1 :: rest) =
        (placeFrom o (seenOf (earlier ++ [y])) rest).map (outputOf y :: ·)) ∨
      ∃ x ∈ earlier, x.2.final = y.2.final ∧ x.2.nested ≠ y.2.nested ∧
        placeFrom o (seenOf earlier) (y.1 :: rest) =
          .error (.flatCollision y.2.final x.1.template y.1.template) := by
  rw [placeFrom_flat_cons hflat hplace, ← seenOf_concat]
  cases hseen : (seenOf earlier).lookup y.2.final with
  | none =>
    refine .inl ⟨not_colliding_concat agree fun x hx path => ?_, rfl⟩
    have unseen := List.lookup_eq_none_iff.1 hseen _ (mem_seenOf.2 ⟨x, hx, rfl⟩)
    exact absurd path.symm (bne_iff_ne.1 unseen)
  | some before =>
    obtain ⟨x, hx, same⟩ := mem_seenOf.1 (mem_of_lookup_eq hseen)
    obtain ⟨path, rfl⟩ := Prod.mk.inj same
    by_cases nested : x.2.nested = y.2.nested
    · refine .inl ⟨not_colliding_concat agree fun x' hx' path' => ?_, if_pos nested⟩
      -- the earlier files at this path have the nested path of the one that was seen last
      by_contra differ
      exact agree ⟨x', hx', x, hx, path'.trans path.symm, fun e => differ (e.trans nested)⟩
    · exact .inr ⟨x, hx, path, nested, if_neg nested⟩

/-- Behind files that do not collide, the flat layout places the others if none collides, or stops
at the first one that does. -/
theorem placeFrom_flat (hflat : o.flat = true)
    (resolved : ∀ x ∈ placed, resolve o x.1.path = .ok x.2) (agree : ¬ Colliding earlier) :
    (¬ Colliding (earlier ++ placed) ∧
        placeFrom o (seenOf earlier) (placed.map Prod.fst) = .ok (placed.map outputOf)) ∨
      ∃ x y, FirstCollision (earlier ++ placed) x y ∧
        placeFrom o (seenOf earlier) (placed.map Prod.fst) =
          .error (.flatCollision y.2.final x.1.template y.1.template) := by
  induction placed generalizing earlier with
  | nil => exact .inl ⟨by simpa using agree, rfl⟩
  | cons y rest ih =>
    obtain ⟨hplace, others⟩ := List.forall_mem_cons.1 resolved
    rw [List.map_cons]
    rcases placeFrom_flat_step hflat hplace agree (rest.map Prod.fst) with
      ⟨agree', hgo⟩ | ⟨x, hx, path, nested, herr⟩
    · rw [hgo, List.append_cons]
      rcases ih others agree' with ⟨done, hok⟩ | ⟨x, z, first, herr⟩
      · exact .inl ⟨done, by rw [hok]; rfl⟩
      · exact .inr ⟨x, z, first, by rw [herr]; rfl⟩
    · exact .inr ⟨x, y, ⟨⟨earlier, rest, rfl, agree, hx⟩, path, nested⟩, herr⟩

/-- Files whose paths can be resolved are placed in their order, or in the flat layout two of them
collide. -/
theorem place_cases (resolved : ∀ x ∈ placed, resolve o x.1.path = .ok x.2) :
    (¬ (o.flat ∧ Colliding placed) ∧
        place o (placed.map Prod.fst) = .ok (placed.map outputOf)) ∨
      o.flat ∧ ∃ x y, FirstCollision placed x y ∧ place o (placed.map Prod.fst) =
        .error (.flatCollision y.2.final x.1.template y.1.template) := by
  cases hflat : o.flat with
  | false => exact .inl ⟨by simp, placeFrom_nested hflat resolved []⟩
  | true =>
    rcases placeFrom_flat hflat resolved not_colliding_nil with ⟨agree, hok⟩ | ⟨x, y, first, herr⟩
    · exact .inl ⟨fun h => agree h.2, hok⟩
    · exact .inr ⟨rfl, x, y, first, herr⟩

end Layout

/-! ## Staging -/

namespace Staging

/-- Whether a path is the first one of a list that comes again. -/
def FirstRepeat (paths : List String) (path : String) : Prop :=
  ∃ front after, paths = front ++ path :: after ∧ front.Nodup ∧ path ∈ front

theorem FirstRepeat.not_nodup {paths : List String} {path : String} (h : FirstRepeat paths path) :
    ¬ paths.Nodup := by
  obtain ⟨front, after, rfl, -, hmem⟩ := h
  intro distinct
  exact (List.nodup_append.1 distinct).2.2 path hmem path List.mem_cons_self rfl

theorem exists_firstRepeat {paths : List String} (h : ¬ paths.Nodup) :
    ∃ path, FirstRepeat paths path := by
  induction paths using List.reverseRecOn with
  | nil => exact absurd List.nodup_nil h
  | append_singleton front path ih =>
    by_cases distinct : front.Nodup
    · have hmem : path ∈ front := by
        by_contra hnew
        refine h (List.nodup_append.2 ⟨distinct, by simp, fun a ha b hb => ?_⟩)
        rintro rfl
        exact hnew (List.mem_singleton.1 hb ▸ ha)
      exact ⟨path, front, [], rfl, distinct, hmem⟩
    · obtain ⟨path', front', after, rfl, distinct', hmem⟩ := ih distinct
      exact ⟨path', front', after ++ [path], by simp, distinct', hmem⟩

theorem insertAll_append (s : Staging) (files more : List OutputFile) :
    s.insertAll (files ++ more) = s.insertAll files >>= (·.insertAll more) := by
  induction files generalizing s with
  | nil => rfl
  | cons f rest ih =>
    rw [List.cons_append, insertAll, insertAll]
    cases s.insert f.path f.content with
    | error e => rfl
    | ok s' => exact ih s'

theorem ofFiles_of_firstRepeat {files : List OutputFile} {path : String}
    (h : FirstRepeat (files.map (·.path)) path) :
    ofFiles files = .error (.duplicatePath path) := by
  obtain ⟨front, after, hpaths, distinct, hmem⟩ := h
  obtain ⟨before, rest, rfl, rfl, hrest⟩ := List.map_eq_append_iff.1 hpaths
  obtain ⟨f, more, rfl, rfl, -⟩ := List.map_eq_cons_iff.1 hrest
  -- the files in front are staged, the one behind them finds its path taken
  obtain ⟨s, hs⟩ := (ofFiles_ok_iff before).2 distinct
  have taken : s.contains f.path :=
    (contains_iff s f.path).2 ((ofFiles_paths_perm hs).mem_iff.2 hmem)
  rw [ofFiles, insertAll_append, ← ofFiles, hs]
  show s.insertAll (f :: more) = _
  rw [insertAll, insert, if_pos taken]
  rfl

/-- Staging fails exactly at the first path that comes again. -/
theorem ofFiles_error_iff {files : List OutputFile} {e : Failure} : ofFiles files = .error e ↔
    ∃ path, FirstRepeat (files.map (·.path)) path ∧ e = .duplicatePath path := by
  constructor
  · intro h
    have again : ¬ (files.map (·.path)).Nodup := by
      rw [← ofFiles_ok_iff, h]
      rintro ⟨s, ⟨⟩⟩
    obtain ⟨path, first⟩ := exists_firstRepeat again
    rw [ofFiles_of_firstRepeat first] at h
    cases h
    exact ⟨path, first, rfl⟩
  · rintro ⟨path, first, rfl⟩
    exact ofFiles_of_firstRepeat first

/-- Staging fails with a path that comes again exactly if there is one. -/
theorem ofFiles_duplicate_iff {files : List OutputFile} :
    (∃ path, ofFiles files = .error (.duplicatePath path)) ↔ ¬ (files.map (·.path)).Nodup := by
  constructor
  · rintro ⟨path, herr⟩
    obtain ⟨path', first, -⟩ := ofFiles_error_iff.1 herr
    exact first.not_nodup
  · intro again
    obtain ⟨path, first⟩ := exists_firstRepeat again
    exact ⟨path, ofFiles_of_firstRepeat first⟩

end Staging

/-! ## What becomes of files -/

namespace Layout
variable {o : Options} {placed : List (Rendered × Place)}

/-- What becomes of files at places that are known. -/
structure Classified (o : Options) (placed : List (Rendered × Place)) : Prop where
  /-- Placing fails with a collision exactly if two files collide in the flat layout. -/
  collision_iff : (∃ path first second,
      place o (placed.map Prod.fst) = .error (.flatCollision path first second)) ↔
    o.flat ∧ Colliding placed
  /-- A collision names the path of the first file that collides, one in front that it collides
  with, and the file itself. -/
  collision_names : ∀ path first second,
    place o (placed.map Prod.fst) = .error (.flatCollision path first second) →
      ∃ x y, FirstCollision placed x y ∧ path = y.2.final ∧ first = x.1.template ∧
        second = y.1.template
  /-- Otherwise all files are placed, in their order. -/
  place_eq : ¬ (o.flat ∧ Colliding placed) →
    place o (placed.map Prod.fst) = .ok (placed.map outputOf)
  /-- Staging what was placed fails exactly if two files come to one path. -/
  repeat_iff : (∃ path, Staging.ofFiles (placed.map outputOf) = .error (.duplicatePath path)) ↔
    ∃ x y, [x, y].Sublist placed ∧ x.2.final = y.2.final
  /-- It names the first path that comes again. -/
  repeat_names : ∀ path, Staging.ofFiles (placed.map outputOf) = .error (.duplicatePath path) →
    Staging.FirstRepeat (placed.map (·.2.final)) path

theorem map_path_outputOf (placed : List (Rendered × Place)) :
    (placed.map outputOf).map (·.path) = placed.map (·.2.final) := List.map_map

theorem nodup_final_iff : (placed.map (·.2.final)).Nodup ↔
    ¬ ∃ x y, [x, y].Sublist placed ∧ x.2.final = y.2.final := by
  rw [List.Nodup, List.pairwise_map, List.pairwise_iff_forall_sublist]
  exact ⟨fun h ⟨x, y, hsub, same⟩ => h hsub same, fun h x y hsub same => h ⟨x, y, hsub, same⟩⟩

/-- **Collisions are told apart exactly.** Files whose paths can be resolved are all placed, in
their order, unless two of them come to one path of the flat layout from different nested paths; and
what is placed can be staged unless a path comes again. Either failure is the first of its kind. -/
theorem collisions_classified (resolved : ∀ x ∈ placed, resolve o x.1.path = .ok x.2) :
    Classified o placed := by
  constructor
  case collision_iff =>
    rcases place_cases resolved with ⟨agree, hok⟩ | ⟨hflat, x, y, first, herr⟩
    · rw [hok]
      exact ⟨by rintro ⟨path, first, second, ⟨⟩⟩, fun collide => absurd collide agree⟩
    · exact ⟨fun _ => ⟨hflat, first.colliding⟩, fun _ => ⟨_, _, _, herr⟩⟩
  case collision_names =>
    intro path first second h
    rcases place_cases resolved with ⟨-, hok⟩ | ⟨-, x, y, collision, herr⟩
    · rw [hok] at h
      cases h
    · rw [herr] at h
      cases h
      exact ⟨x, y, collision, rfl, rfl, rfl⟩
  case place_eq =>
    intro agree
    rcases place_cases resolved with ⟨-, hok⟩ | ⟨hflat, x, y, first, -⟩
    · exact hok
    · exact absurd ⟨hflat, first.colliding⟩ agree
  case repeat_iff =>
    rw [Staging.ofFiles_duplicate_iff, map_path_outputOf, nodup_final_iff, not_not]
  case repeat_names =>
    intro path h
    obtain ⟨path', first, same⟩ := Staging.ofFiles_error_iff.1 h
    cases same
    exact map_path_outputOf placed ▸ first

/-- Files at one path of the flat layout, of which the first two share their nested path. -/
def sharedFiles : List (Rendered × Place) :=
  [(⟨"t", "__name__/a.ts.j2", "1"⟩, ⟨"lib/user/a.ts", "lib/user/a.ts"⟩),
    (⟨"u", "__name__/a.ts", "2"⟩, ⟨"lib/user/a.ts", "lib/user/a.ts"⟩),
    (⟨"v", "b.md", "3"⟩, ⟨"lib/b.md", "lib/b.md"⟩),
    (⟨"w", "__name__/domain/a.ts", "4"⟩, ⟨"lib/user/a.ts", "lib/user/domain/a.ts"⟩)]

/-- The third file at the path collides with the second one; without it, the second one repeats. -/
theorem sharedFiles_classified :
    Layout.place { moduleOptions with flat := true } (sharedFiles.map Prod.fst) =
      .error (.flatCollision "lib/user/a.ts" "u" "w") ∧
    (∀ x ∈ sharedFiles, resolve { moduleOptions with flat := true } x.1.path = .ok x.2) ∧
    Classified { moduleOptions with flat := true } sharedFiles := by
  have resolved : ∀ x ∈ sharedFiles,
      resolve { moduleOptions with flat := true } x.1.path = .ok x.2 := by decide +kernel
  exact ⟨by decide +kernel, resolved, collisions_classified resolved⟩

end Layout
end Stencil
