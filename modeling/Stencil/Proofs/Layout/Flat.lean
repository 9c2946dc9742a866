import Stencil.Proofs.Staging.Inside

/-!
# The flat layout

The flat layout moves files and changes none of them. `Moves` says where a file goes in the two
layouts; a rendered path that has a place in the nested layout has one in the flat layout
(`resolve_flat`). So a run that stages its files in the nested layout stages the same files in the
flat one, or two of them come to one path (`flat_layout_moves`).
-/
namespace Stencil

namespace Layout

/-- Whether directories are cut behind the first one that holds the name token, or in front of all
if none does. -/
def CutsAtToken (kept dropped : List Segment) : Prop :=
  (kept = [] ∧ ∀ dir ∈ dropped, ¬ Text.occursIn nameToken dir) ∨
    ∃ before last, kept = before ++ [last] ∧ Text.occursIn nameToken last ∧
      ∀ dir ∈ before, ¬ Text.occursIn nameToken dir

/-- Where the file of a rendered path goes in the two layouts. The flat one leaves out all of its
directories but those up to the first that holds the name token. -/
def Moves (o : Options) (path nested flat : String) : Prop :=
  let written := Text.replaceFirst nameToken o.names.dash.toList
  ∃ (kept dropped : List Segment) (file : Segment),
    Text.splitAt '/' path.toList = kept ++ dropped ++ [file] ∧ CutsAtToken kept dropped ∧
    nested = below o.path
      (kept.map written ++ dropped.map written ++ [stripEnding (written file)]) ∧
    flat = below o.path (kept.map written ++ [stripEnding (written file)])

/-! ## One file -/

theorem mapLast_concat {α : Type} (f : α → α) (l : List α) (x : α) :
    mapLast f (l ++ [x]) = l ++ [f x] := by
  induction l with
  | nil => rfl
  | cons y rest ih =>
    cases rest with
    | nil => rfl
    | cons z more => exact congrArg (y :: ·) ih

/-- The number of directories that the flat layout keeps. -/
def keptCount (dirs : List Segment) : Nat :=
  match dirs.findIdx? (Text.occursIn nameToken) with
  | some i => i + 1
  | none => 0

theorem keptCount_le (dirs : List Segment) : keptCount dirs ≤ dirs.length := by
  unfold keptCount
  cases h : dirs.findIdx? (Text.occursIn nameToken) with
  | none => exact Nat.zero_le _
  | some i => exact (List.findIdx?_eq_some_iff_getElem.1 h).1

theorem cutsAtToken_keptCount (dirs : List Segment) :
    CutsAtToken (dirs.take (keptCount dirs)) (dirs.drop (keptCount dirs)) := by
  unfold keptCount
  cases h : dirs.findIdx? (Text.occursIn nameToken) with
  | none => exact .inl ⟨rfl, by simpa using List.findIdx?_eq_none_iff.1 h⟩
  | some i =>
    obtain ⟨hi, holds, before⟩ := List.findIdx?_eq_some_iff_getElem.1 h
    refine .inr
      ⟨dirs.take i, dirs[i], List.take_succ_eq_append_getElem hi, holds, fun dir hdir => ?_⟩
    obtain ⟨j, hj, rfl⟩ := List.mem_take_iff_getElem.1 hdir
    exact before j (by omega)

/-- What becomes of the pieces of a rendered path. -/
theorem substitute_pieces {path dashName : List Char} {segments : List Segment} {kept : Nat}
    (h : substitute path dashName = .ok (segments, kept)) : ∃ dirs file,
      Text.splitAt '/' path = dirs ++ [file] ∧ kept = keptCount dirs ∧
        segments = dirs.map (Text.replaceFirst nameToken dashName) ++
          [stripEnding (Text.replaceFirst nameToken dashName file)] := by
  obtain hnil | ⟨dirs, file, hsplit⟩ := List.eq_nil_or_concat' (Text.splitAt '/' path)
  · exact absurd hnil (Text.splitAt_ne_nil '/' path)
  refine ⟨dirs, file, hsplit, ?_⟩
  simp only [substitute, hsplit, List.dropLast_concat, List.map_append, List.map_cons,
    List.map_nil, mapLast_concat] at h
  split at h
  · cases h
  · split at h
    · cases h
      exact ⟨rfl, rfl⟩
    · cases h

variable {o : Options}

/-- A file that has a place in the nested layout has one in the flat layout. -/
theorem resolve_flat {path : String} {place : Place}
    (h : resolve { o with flat := false } path = .ok place) : place.final = place.nested ∧
      ∃ flat, resolve { o with flat := true } path = .ok ⟨flat, place.nested⟩ ∧
        Moves o path place.nested flat := by
  simp only [resolve, bind_eq_ok] at h
  obtain ⟨⟨segments, kept⟩, hsub, h⟩ := h
  cases h
  refine ⟨rfl, _, by simp only [resolve, hsub]; rfl, ?_⟩
  obtain ⟨dirs, file, hsplit, rfl, rfl⟩ := substitute_pieces hsub
  refine ⟨dirs.take (keptCount dirs), dirs.drop (keptCount dirs), file, ?_,
    cutsAtToken_keptCount dirs, ?_, ?_⟩
  · rw [List.take_append_drop, hsplit]
  · rw [← List.map_append, List.take_append_drop]
  · rw [List.take_append_of_le_length (by simpa using keptCount_le dirs), List.map_take,
      List.getLast?_concat]
    rfl

theorem getLast?_split_below (destination : String) (dirs : List Segment) (file : Segment) :
    (Text.split '/' (below destination (dirs ++ [file]))).getLast? =
      ((Text.splitAt '/' file).map String.ofList).getLast? := by
  have hne : (Text.splitAt '/' file).map String.ofList ≠ [] := by simp [Text.splitAt_ne_nil]
  rw [split_below destination (by simp), List.flatMap_append, List.flatMap_singleton,
    List.map_append, ← List.append_assoc, List.getLast?_append_of_ne_nil _ hne]

/-- A file keeps its name in the flat layout. -/
theorem Moves.name_eq {path nested flat : String} (h : Moves o path nested flat) :
    (Text.split '/' flat).getLast? = (Text.split '/' nested).getLast? := by
  obtain ⟨kept, dropped, file, -, -, rfl, rfl⟩ := h
  rw [getLast?_split_below, getLast?_split_below]

/-! ## All files -/

/-- A rendered file at the place that it has in the layout. -/
def outputOf (x : Rendered × Place) : OutputFile :=
  { path := x.2.final, content := x.1.content, template := x.1.template }

/-- Files that have nested places also have flat ones. -/
theorem exists_flat {rendered : List Rendered} {files : List OutputFile}
    (h : List.Forall₂ (Places { o with flat := false }) rendered files) :
    ∃ placed : List (Rendered × Place), placed.map Prod.fst = rendered ∧
      files = placed.map (fun x => { outputOf x with path := x.2.nested }) ∧
      ∀ x ∈ placed, resolve { o with flat := true } x.1.path = .ok x.2 ∧
        Moves o x.1.path x.2.nested x.2.final := by
  induction h with
  | nil => exact ⟨[], rfl, rfl, by simp⟩
  | @cons r f rest more first _ ih =>
    obtain ⟨place, hplace, rfl⟩ := first
    obtain ⟨same, flat, hflat, moves⟩ := resolve_flat hplace
    obtain ⟨placed, hfst, hmore, hplaced⟩ := ih
    refine ⟨(r, ⟨flat, place.nested⟩) :: placed, ?_, ?_,
      List.forall_mem_cons.2 ⟨⟨hflat, moves⟩, hplaced⟩⟩
    · rw [List.map_cons, hfst]
    · rw [List.map_cons, ← hmore, same]
      rfl

/-- How the flat layout places the first of some files and goes on. -/
theorem placeFrom_flat_cons (hflat : o.flat = true) {x : Rendered × Place}
    (hplace : resolve o x.1.path = .ok x.2) (seen : Seen) (rest : List Rendered) :
    placeFrom o seen (x.1 :: rest) =
      let others := (placeFrom o ((x.2.final, x.1.template, x.2.nested) :: seen) rest).map
        (outputOf x :: ·)
      match seen.lookup x.2.final with
      | some (first, nested) =>
        if nested = x.2.nested then others
        else .error (.flatCollision x.2.final first x.1.template)
      | none => others := by
  simp only [placeFrom, hplace, hflat, bind, Except.bind, if_true]
  cases seen.lookup x.2.final with
  | none => cases placeFrom o ((x.2.final, x.1.template, x.2.nested) :: seen) rest <;> rfl
  | some before =>
    obtain ⟨first, nested⟩ := before
    by_cases same : nested = x.2.nested
    · simp only [same, ne_eq, not_true_eq_false, if_false, if_true]
      cases placeFrom o ((x.2.final, x.1.template, x.2.nested) :: seen) rest <;> rfl
    · simp only [same, ne_eq, not_false_eq_true, if_true, if_false]

theorem mem_of_lookup_eq {seen : Seen} {path : String} {before : String × String}
    (h : seen.lookup path = some before) : (path, before) ∈ seen := by
  obtain ⟨l₁, l₂, rfl, -⟩ := List.lookup_eq_some_iff.1 h
  simp

/-- Files with different nested paths are placed in the flat layout at different paths, unless two
of them come to one path. -/
theorem placeFrom_apart (hflat : o.flat = true) (seen : Seen) {placed : List (Rendered × Place)}
    (resolved : ∀ x ∈ placed, resolve o x.1.path = .ok x.2)
    (apart : (placed.map (·.2.nested)).Nodup)
    (fresh : ∀ e ∈ seen, ∀ x ∈ placed, e.2.2 ≠ x.2.nested) :
    (placeFrom o seen (placed.map Prod.fst) = .ok (placed.map outputOf) ∧
        (placed.map (·.2.final)).Nodup ∧ ∀ x ∈ placed, seen.lookup x.2.final = none) ∨
      ∃ path first second, placeFrom o seen (placed.map Prod.fst) =
        .error (.flatCollision path first second) := by
  induction placed generalizing seen with
  | nil => exact .inl ⟨rfl, by simp, by simp⟩
  | cons x rest ih =>
    obtain ⟨hplace, others⟩ := List.forall_mem_cons.1 resolved
    obtain ⟨new, apart⟩ := List.nodup_cons.1 apart
    rw [List.map_cons, placeFrom_flat_cons hflat hplace]
    cases hseen : seen.lookup x.2.final with
    | some before =>
      -- what was seen under this path had another nested path
      have hne := fresh _ (mem_of_lookup_eq hseen) x List.mem_cons_self
      exact .inr ⟨_, _, _, if_neg hne⟩
    | none =>
      have fresh' : ∀ e ∈ (x.2.final, x.1.template, x.2.nested) :: seen, ∀ y ∈ rest,
          e.2.2 ≠ y.2.nested :=
        List.forall_mem_cons.2 ⟨fun y hy e => new (List.mem_map.2 ⟨y, hy, e.symm⟩),
          fun e he y hy => fresh e he y (List.mem_cons_of_mem _ hy)⟩
      rcases ih _ others apart fresh' with ⟨hok, distinct, unseen⟩ | ⟨path, first, second, herr⟩
      · have later (y) (hy : y ∈ rest) : y.2.final ≠ x.2.final ∧ seen.lookup y.2.final = none := by
          have := unseen y hy
          rw [List.lookup_cons] at this
          split at this
          · cases this
          · rename_i hne
            exact ⟨by simpa using hne, this⟩
        refine .inl ⟨by simp only [hok]; rfl, ?_, List.forall_mem_cons.2 ⟨hseen, ?_⟩⟩
        · refine List.nodup_cons.2 ⟨fun hmem => ?_, distinct⟩
          obtain ⟨y, hy, e⟩ := List.mem_map.1 hmem
          exact (later y hy).1 e
        · exact fun y hy => (later y hy).2
      · exact .inr ⟨path, first, second, by simp only [herr]; rfl⟩

/-- Whether the flat layout stages the same files as the nested one, each at its flat place. -/
structure Relocates (o : Options) (rendered : List Rendered) (nested flat : Staging) : Prop where
  /-- The rendered files, each with its places, are what either layout stages. -/
  moves : ∃ placed : List (Rendered × Place), placed.map Prod.fst = rendered ∧
    nested.entries.Perm (placed.map fun x => (x.2.nested, x.1.content)) ∧
    flat.entries.Perm (placed.map fun x => (x.2.final, x.1.content)) ∧
    ∀ x ∈ placed, Moves o x.1.path x.2.nested x.2.final ∧
      (Text.split '/' x.2.final).getLast? = (Text.split '/' x.2.nested).getLast?
  contents : (flat.entries.map Prod.snd).Perm (nested.entries.map Prod.snd)
  size : flat.size = nested.size

/-- **The flat layout only moves files.** Where files can be staged in the nested layout, the flat
one stages the same files, or fails since two of them come to one path. -/
theorem flat_layout_moves {o : Options} {rendered : List Rendered} {nested : Staging}
    (h : place { o with flat := false } rendered >>= Staging.ofFiles = .ok nested) :
    (∃ flat, place { o with flat := true } rendered >>= Staging.ofFiles = .ok flat ∧
        Relocates o rendered nested flat) ∨
      ∃ path first second, place { o with flat := true } rendered >>= Staging.ofFiles =
        .error (.flatCollision path first second) := by
  obtain ⟨files, hfiles, hnested⟩ := bind_eq_ok.1 h
  obtain ⟨placed, rfl, rfl, hplaced⟩ := exists_flat (placeFrom_ok hfiles)
  have distinct := (Staging.ofFiles_ok_iff _).1 ⟨nested, hnested⟩
  rw [List.map_map] at distinct
  rcases placeFrom_apart (o := { o with flat := true }) rfl [] (fun x hx => (hplaced x hx).1)
    distinct (by simp) with ⟨hok, apart, -⟩ | ⟨path, first, second, herr⟩
  · have apart : ((placed.map outputOf).map (·.path)).Nodup := by rwa [List.map_map]
    obtain ⟨flat, hflat⟩ := (Staging.ofFiles_ok_iff _).2 apart
    refine .inl ⟨flat, bind_eq_ok.2 ⟨_, hok, hflat⟩, ?_⟩
    have stagedNested : nested.entries.Perm (placed.map fun x => (x.2.nested, x.1.content)) := by
      have staged := Staging.ofFiles_perm hnested
      rw [List.map_map] at staged
      exact staged
    have stagedFlat : flat.entries.Perm (placed.map fun x => (x.2.final, x.1.content)) := by
      have staged := Staging.ofFiles_perm hflat
      rw [List.map_map] at staged
      exact staged
    constructor
    case moves =>
      refine ⟨placed, rfl, stagedNested, stagedFlat, fun x hx => ⟨(hplaced x hx).2, ?_⟩⟩
      exact (hplaced x hx).2.name_eq
    case contents =>
      have same : (placed.map fun x => (x.2.final, x.1.content)).map Prod.snd =
          (placed.map fun x => (x.2.nested, x.1.content)).map Prod.snd := by
        rw [List.map_map, List.map_map]
        rfl
      exact (stagedFlat.map Prod.snd).trans (same ▸ (stagedNested.map Prod.snd).symm)
    case size =>
      have count := stagedFlat.length_eq.trans (List.length_map _)
      exact count.trans (stagedNested.length_eq.trans (List.length_map _)).symm
  · exact .inr ⟨path, first, second, by rw [place, herr]; rfl⟩

/-- Options for a module `user` in `lib`. -/
def moduleOptions : Options :=
  { name := "user", names := .ofName "user", path := "lib", database := .none, messaging := .none
    auth := .none, crud := .storedProc, operations := [], skipTests := false, flat := false
    dryRun := false, applyMigrations := false, force := false }

/-- Files below, above and beside a directory with the name token. -/
def moduleFiles : List Rendered :=
  [⟨"t", "src/__name__/domain/a.ts.j2", "1"⟩, ⟨"u", "src/__name__.ts", "2"⟩, ⟨"v", "doc/b.md", "3"⟩]

theorem moduleFiles_relocated : ∃ nested flat,
    place { moduleOptions with flat := false } moduleFiles >>= Staging.ofFiles = .ok nested ∧
      nested.entries =
        [("lib/doc/b.md", "3"), ("lib/src/user.ts", "2"), ("lib/src/user/domain/a.ts", "1")] ∧
      flat.entries = [("lib/b.md", "3"), ("lib/src/user/a.ts", "1"), ("lib/user.ts", "2")] ∧
      Relocates moduleOptions moduleFiles nested flat := by
  have nested : (place { moduleOptions with flat := false } moduleFiles >>= Staging.ofFiles).map
      Staging.entries =
        .ok [("lib/doc/b.md", "3"), ("lib/src/user.ts", "2"),
          ("lib/src/user/domain/a.ts", "1")] := by
    decide +kernel
  have flat : (place { moduleOptions with flat := true } moduleFiles >>= Staging.ofFiles).map
      Staging.entries =
        .ok [("lib/b.md", "3"), ("lib/src/user/a.ts", "1"), ("lib/user.ts", "2")] := by
    decide +kernel
  obtain ⟨staged, hstaged, hentries⟩ := map_eq_ok.1 nested
  rcases flat_layout_moves hstaged with ⟨moved, hmoved, relocates⟩ | ⟨path, first, second, herr⟩
  · rw [hmoved] at flat
    exact ⟨staged, moved, hstaged, hentries, Except.ok.inj flat, relocates⟩
  · rw [herr] at flat
    cases flat

end Layout
end Stencil
