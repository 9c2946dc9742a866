import Stencil.Proofs.Diff.Hunks
import Stencil.Proofs.Diff.Reading

/-!
# Unified diffs tell what changes

A reader finds in the unified diff of two texts the hunks of their changes, and the rows of these
turn one text into the other (`read_unified`). Applied where the headers place them, the hunks give
the new text exactly if the changes span both texts (`apply_hunksOf`).
-/
namespace Stencil.Diff
open Patch
variable {a b : Array Line} {i j x y i' j' : Nat}

/-! ## The hunks of the changes -/

def rowsOf (a b : Array Line) (c : Change) : List Row :=
  let olds := (a.toList.drop c.old).take c.oldLength
  if c.same then olds.map (⟨.keep, ·⟩)
  else olds.map (⟨.remove, ·⟩) ++ ((b.toList.drop c.new).take c.newLength).map (⟨.add, ·⟩)

def hunkOf (a b : Array Line) (cs : List Change) : Hunk :=
  match cs.head?, cs.getLast? with
  | some first, some last =>
    ⟨⟨first.old, last.old + last.oldLength - first.old⟩,
      ⟨first.new, last.new + last.newLength - first.new⟩, cs.flatMap (rowsOf a b)⟩
  | _, _ => ⟨⟨0, 0⟩, ⟨0, 0⟩, []⟩

def hunksOf (a b : Array Line) : List Hunk := (hunks (changesOf a b)).map (hunkOf a b)

theorem hunkOf_eq {cs : List Change} (h : cs ≠ []) :
    ∃ first last, cs.head? = some first ∧ cs.getLast? = some last ∧
      hunkOf a b cs = ⟨⟨first.old, last.old + last.oldLength - first.old⟩,
        ⟨first.new, last.new + last.newLength - first.new⟩, cs.flatMap (rowsOf a b)⟩ := by
  have hfirst := List.head?_eq_some_head h
  have hlast := List.getLast?_eq_some_getLast h
  exact ⟨_, _, hfirst, hlast, by rw [hunkOf, hfirst, hlast]⟩

theorem flatten_flatMap {α : Type} (xs : List α) (f : α → List Line) :
    (xs.flatMap f).flatten = xs.flatMap fun x => (f x).flatten := by
  rw [← List.flatMap_id, List.flatMap_assoc]
  simp only [List.flatMap_id]

theorem changeText_eq (a b : Array Line) (c : Change) :
    changeText a b c = ((rowsOf a b c).flatMap Row.shown).flatten := by
  have hrows (action : Action) (ls : List Line) : ls.flatMap (lineText (signOf action)) =
      ((ls.map (Row.mk action)).flatMap Row.shown).flatten := by
    rw [flatten_flatMap, List.flatMap_map]
    simp only [← lineText_eq]
  unfold changeText rowsOf
  split
  · exact hrows .keep _
  · rw [List.flatMap_append, List.flatten_append, ← hrows, ← hrows]
    rfl

theorem hunkText_eq {cs : List Change} (h : cs ≠ []) :
    hunkText a b cs = (hunkOf a b cs).shown.flatten := by
  obtain ⟨first, last, hfirst, hlast, hhunk⟩ := hunkOf_eq (a := a) (b := b) h
  rw [hunkText, hhunk, hfirst, hlast, funext (changeText_eq a b)]
  simp only [Hunk.shown, headerLine, text_range, List.flatten_cons, flatten_flatMap,
    List.flatMap_assoc]

/-- The text of the hunks of changes. -/
theorem flatMap_hunkText {gs : List (List Change)} (h : [] ∉ gs) :
    gs.flatMap (hunkText a b) = ((gs.map (hunkOf a b)).flatMap Hunk.shown).flatten := by
  rw [flatten_flatMap, List.flatMap_map]
  exact List.flatMap_congr fun g hg => hunkText_eq fun e => h (e ▸ hg)

theorem rowsOf_subset {c : Change} {r : Row} (h : r ∈ rowsOf a b c) :
    r.line ∈ a.toList ∨ r.line ∈ b.toList := by
  have hslice {ls : List Line} {n m : Nat} {line : Line} (h : line ∈ (ls.drop n).take m) :
      line ∈ ls := List.mem_of_mem_drop (List.mem_of_mem_take h)
  unfold rowsOf at h
  dsimp only at h
  split at h
  · obtain ⟨line, hline, rfl⟩ := List.mem_map.1 h
    exact .inl (hslice hline)
  · rcases List.mem_append.1 h with h | h <;> obtain ⟨line, hline, rfl⟩ := List.mem_map.1 h
    · exact .inl (hslice hline)
    · exact .inr (hslice hline)

theorem hunkOf_subset {cs : List Change} {r : Row} (h : r ∈ (hunkOf a b cs).rows) :
    r.line ∈ a.toList ∨ r.line ∈ b.toList := by
  unfold hunkOf at h
  split at h
  · obtain ⟨c, -, hc⟩ := List.mem_flatMap.1 h
    exact rowsOf_subset hc
  · cases h

/-! ## What the rows hold -/

theorem oldLines_append (rows more : List Row) :
    oldLines (rows ++ more) = oldLines rows ++ oldLines more := by
  simp [oldLines]

theorem newLines_append (rows more : List Row) :
    newLines (rows ++ more) = newLines rows ++ newLines more := by
  simp [newLines]

/-- The same lines can be taken from either text. -/
theorem Same.take_eq {n : Nat} (h : Same a b i j n) :
    (a.toList.drop i).take n = (b.toList.drop j).take n := by
  refine List.ext_getElem? fun k => ?_
  rw [List.getElem?_take, List.getElem?_take, List.getElem?_drop, List.getElem?_drop]
  split
  · rename_i hk
    rw [Array.getElem?_toList, Array.getElem?_toList]
    exact h k hk
  · rfl

theorem drop_eq_take_append (ls : List Line) (n m : Nat) :
    ls.drop n = (ls.drop n).take m ++ ls.drop (n + m) := by
  rw [← List.drop_drop, List.take_append_drop]

theorem oldLines_map (action : Action) (ls : List Line) :
    oldLines (ls.map (Row.mk action)) = if action = .add then [] else ls := by
  cases action <;> simp [oldLines, List.filter_map, Function.comp_def]

theorem newLines_map (action : Action) (ls : List Line) :
    newLines (ls.map (Row.mk action)) = if action = .remove then [] else ls := by
  cases action <;> simp [newLines, List.filter_map, Function.comp_def]

/-- The place in a text does not matter for a change that has no lines of it. -/
theorem take_eq_of_pos {ls : List Line} {n m k : Nat} (h : 0 < k → n = m) :
    (ls.drop n).take k = (ls.drop m).take k := by
  cases k with
  | zero => rfl
  | succ k => rw [h (Nat.succ_pos k)]

/-- The rows of a change hold its lines of both texts. -/
theorem Change.At.rows {E : Prop} {c : Change} (h : c.At a b E i j) :
    oldLines (rowsOf a b c) = (a.toList.drop i).take c.oldLength ∧
      newLines (rowsOf a b c) = (b.toList.drop j).take c.newLength := by
  have holds : (a.toList.drop c.old).take c.oldLength = (a.toList.drop i).take c.oldLength :=
    take_eq_of_pos fun hpos => h.old (.inl hpos)
  have hnews : (b.toList.drop c.new).take c.newLength = (b.toList.drop j).take c.newLength :=
    take_eq_of_pos fun hpos => h.new (.inl hpos)
  unfold rowsOf
  dsimp only
  split
  · rename_i hs
    obtain ⟨hlen, hsame⟩ := h.same hs
    rw [oldLines_map, newLines_map, if_neg nofun, if_neg nofun, holds, hlen]
    exact ⟨rfl, hsame.take_eq⟩
  · rw [oldLines_append, newLines_append, oldLines_map, oldLines_map, newLines_map, newLines_map,
      holds, hnews]
    simp

/-- The rows of changes lead from one text to the other. -/
theorem Leads.rows {E : Prop} {cs : List Change} (h : Follow a b E i j cs x y) (hx : x ≤ a.size)
    (hy : y ≤ b.size) :
    (a.toList.drop i = oldLines (cs.flatMap (rowsOf a b)) ++ a.toList.drop x ∧
      i + (oldLines (cs.flatMap (rowsOf a b))).length = x) ∧
    b.toList.drop j = newLines (cs.flatMap (rowsOf a b)) ++ b.toList.drop y ∧
      j + (newLines (cs.flatMap (rowsOf a b))).length = y := by
  induction cs generalizing i j with
  | nil =>
    obtain ⟨rfl, rfl⟩ := h
    exact ⟨⟨rfl, rfl⟩, rfl, rfl⟩
  | cons c cs ih =>
    obtain ⟨hc, hcs⟩ := h
    obtain ⟨holds, hnews⟩ := hc.rows
    obtain ⟨⟨hold, holdLength⟩, hnew, hnewLength⟩ := ih hcs
    have hle := hcs.le
    have holdsLength : (oldLines (rowsOf a b c)).length = c.oldLength := by
      rw [holds, List.length_take, List.length_drop, Array.length_toList]
      omega
    have hnewsLength : (newLines (rowsOf a b c)).length = c.newLength := by
      rw [hnews, List.length_take, List.length_drop, Array.length_toList]
      omega
    simp only [List.flatMap_cons, oldLines_append, newLines_append, List.length_append,
      List.append_assoc, ← hold, ← hnew]
    refine ⟨⟨?_, by omega⟩, ?_, by omega⟩
    · rw [holds]
      exact drop_eq_take_append ..
    · rw [hnews]
      exact drop_eq_take_append ..

theorem Same.drop_eq {n : Nat} (h : Same a b i j n) (hi : i + n ≤ a.size) :
    ∃ front, front.length = n ∧ a.toList.drop i = front ++ a.toList.drop (i + n) ∧
      b.toList.drop j = front ++ b.toList.drop (j + n) := by
  refine ⟨(a.toList.drop i).take n, ?_, drop_eq_take_append .., ?_⟩
  · rw [List.length_take, List.length_drop, Array.length_toList]
    omega
  · rw [h.take_eq]
    exact drop_eq_take_append ..

theorem rows_hunkOf {cs : List Change} (h : cs ≠ []) :
    (hunkOf a b cs).rows = cs.flatMap (rowsOf a b) := by
  obtain ⟨_, _, -, -, hhunk⟩ := hunkOf_eq (a := a) (b := b) h
  rw [hhunk]

theorem Cut.le {P : Prop} {gs : List (List Change)} (h : Cut a b P i j gs i' j') :
    i ≤ i' ∧ j ≤ j' := by
  induction h with
  | done => omega
  | hunk _ follow _ _ _ ih =>
    have := follow.le
    omega

/-- The rows turn one text into the other. -/
theorem Cut.rewrites {P : Prop} {gs : List (List Change)} (h : Cut a b P i j gs i' j')
    (hi : i' = a.size) (hj : j' = b.size) :
    Rewrites (gs.map (hunkOf a b)) (a.toList.drop i) (b.toList.drop j) := by
  induction h with
  | done same =>
    obtain ⟨front, -, hold, hnew⟩ := same.drop_eq (by omega)
    rw [hold, hnew, hi, hj, ← Array.length_toList, ← Array.length_toList, List.drop_length,
      List.drop_length]
    exact .done _
  | hunk same follow nonempty alternate rest ih =>
    have hrest := rest.le
    have hfollow := follow.le
    obtain ⟨front, -, hold, hnew⟩ := same.drop_eq (by omega)
    obtain ⟨⟨hold', -⟩, hnew', -⟩ := follow.rows (by omega) (by omega)
    rw [hold, hnew, hold', hnew', ← rows_hunkOf nonempty, ← List.append_assoc, ← List.append_assoc]
    exact .hunk _ _ (ih hi hj)

/-! ## Applying the hunks -/

/-- A hunk can be applied where its ranges are right. -/
theorem applyFrom_cons_iff {h : Hunk} {hs : List Hunk} {old new : List Line} :
    applyFrom i j old (h :: hs) = some new ↔
      ∃ same rest rest', h.old = ⟨i + same.length, (oldLines h.rows).length⟩ ∧
        h.new = ⟨j + same.length, (newLines h.rows).length⟩ ∧
        old = same ++ (oldLines h.rows ++ rest) ∧ new = same ++ (newLines h.rows ++ rest') ∧
        applyFrom (i + same.length + (oldLines h.rows).length)
          (j + same.length + (newLines h.rows).length) rest hs = some rest' := by
  obtain ⟨⟨oldStart, oldCount⟩, ⟨newStart, newCount⟩, rows⟩ := h
  dsimp only
  constructor
  · intro h
    rw [applyFrom] at h
    dsimp only at h
    split at h
    · rename_i hok
      obtain ⟨hi, hj, hgap, hold, hnew, rest, hrest⟩ := hok
      obtain ⟨rest', hrest', rfl⟩ := Option.map_eq_some_iff.1 h
      have hsame : (old.take (oldStart - i)).length = oldStart - i := by
        rw [List.length_take]
        omega
      refine ⟨old.take (oldStart - i), rest, rest', ?_, ?_, ?_, ?_, ?_⟩
      · rw [hsame, hold, Nat.add_sub_cancel' hi]
      · rw [hsame, hnew, hj]
      · rw [hrest, List.take_append_drop]
      · rw [List.append_assoc]
      · rw [hsame, ← hold, ← hnew, ← hrest', ← hrest, hold, List.drop_left]
    · cases h
  · rintro ⟨same, rest, rest', hold, hnew, rfl, rfl, happly⟩
    obtain ⟨rfl, rfl⟩ := Range.mk.inj hold
    obtain ⟨rfl, rfl⟩ := Range.mk.inj hnew
    rw [applyFrom]
    dsimp only
    rw [Nat.add_sub_cancel_left, List.drop_left, List.drop_left, List.take_left, happly, if_pos]
    · rw [Option.map_some, List.append_assoc]
    · simp

/-- Changes without kept lines that take turns are one at most. -/
theorem eq_singleton_of_alternate {cs : List Change} {c : Change} (halt : Alternate cs)
    (hc : c ∈ cs) (hs : ∀ d ∈ cs, ¬ d.same) : cs = [c] := by
  match cs with
  | [d] => rw [List.mem_singleton.1 hc]
  | d :: e :: cs =>
    have hne := (List.isChain_cons_cons.1 halt).1
    have hd := hs d (by simp)
    have he := hs e (by simp)
    simp_all

/-- Changes without lines of one of the texts are one at most. -/
theorem eq_singleton_of_empty {E : Prop} {cs : List Change} {c : Change}
    (h : Follow a b E i j cs x y) (halt : Alternate cs) (hc : c ∈ cs) (hempty : x = i ∨ y = j) :
    cs = [c] := by
  refine eq_singleton_of_alternate halt hc fun d hd hs => ?_
  obtain ⟨front, behind, rfl⟩ := List.append_of_mem hd
  obtain ⟨p, q, hfront, hd, hbehind⟩ := Leads.append_iff.1 h
  have hlen := (hd.same hs).1
  have hpos := hd.pos
  have hle := hfront.le
  have hle' := hbehind.le
  omega

/-- The ranges of changes in their places. -/
theorem hunkOf_of_spans {cs : List Change} (hne : cs ≠ []) (h : Spans i j cs x y) :
    (hunkOf a b cs).old = ⟨i, x - i⟩ ∧ (hunkOf a b cs).new = ⟨j, y - j⟩ := by
  obtain ⟨first, last, hfirst, hlast, hhunk⟩ := hunkOf_eq (a := a) (b := b) hne
  obtain ⟨hold, hnew⟩ := h.1 first hfirst
  obtain ⟨hold', hnew'⟩ := h.2 last hlast
  rw [hhunk]
  dsimp only
  rw [hold, hnew, hold', hnew']
  exact ⟨rfl, rfl⟩

/-- Ranges of the right lengths that are moved by as much in both texts are those of changes in
their places. -/
theorem spans_of_hunkOf {cs : List Change} (hne : cs ≠ []) {n k : Nat}
    (h : Follow a b False (i + n) (j + n) cs x y) (halt : Alternate cs)
    (hold : (hunkOf a b cs).old = ⟨i + k, x - (i + n)⟩)
    (hnew : (hunkOf a b cs).new = ⟨j + k, y - (j + n)⟩) : k = n ∧ Spans (i + n) (j + n) cs x y := by
  obtain ⟨first, last, hfirst, hlast, hhunk⟩ := hunkOf_eq (a := a) (b := b) hne
  rw [hhunk] at hold hnew
  obtain ⟨hfirstOld, hlastOld⟩ := Range.mk.inj hold
  obtain ⟨hfirstNew, hlastNew⟩ := Range.mk.inj hnew
  have hk : k = n := by
    obtain ⟨rest, rfl⟩ := List.head?_eq_some_iff.1 hfirst
    have hc := h.1
    have hpos := hc.pos
    have hcold := hc.old
    have hcnew := hc.new
    omega
  subst hk
  refine ⟨rfl, fun c hc => ?_, fun c hc => ?_⟩
  · obtain rfl := Option.some.inj (hfirst.symm.trans hc)
    exact ⟨hfirstOld, hfirstNew⟩
  · obtain rfl := Option.some.inj (hlast.symm.trans hc)
    have hsingle := eq_singleton_of_empty h halt (List.mem_of_getLast? hlast)
    have hlen : x = i + k ∨ y = j + k → first = last := fun hempty => by
      rw [hsingle hempty] at hfirst
      exact (Option.some.inj hfirst).symm
    obtain ⟨front, rfl⟩ := List.getLast?_eq_some_iff.1 hlast
    obtain ⟨p, q, hfront, hc, hx, hy⟩ := Leads.append_iff.1 h
    have hcold := hc.old
    have hcnew := hc.new
    have hle := hfront.le
    constructor
    · by_cases hempty : x = i + k
      · rw [hlen (.inl hempty)] at hfirstOld
        omega
      · omega
    · by_cases hempty : y = j + k
      · rw [hlen (.inr hempty)] at hfirstNew
        omega
      · omega

/-- Where the changes of all hunks are in their places, the hunks give the new text. -/
theorem Cut.apply {P : Prop} {gs : List (List Change)} (h : Cut a b P i j gs i' j')
    (hi : i' = a.size) (hj : j' = b.size) (hP : P) :
    applyFrom i j (a.toList.drop i) (gs.map (hunkOf a b)) = some (b.toList.drop j) := by
  induction h with
  | done same =>
    obtain ⟨front, -, hold, hnew⟩ := same.drop_eq (by omega)
    rw [hold, hnew, hi, hj, ← Array.length_toList, ← Array.length_toList, List.drop_length,
      List.drop_length]
    rfl
  | @hunk _ i j n x y _ _ g gs same follow nonempty alternate rest ih =>
    have hrest := rest.le
    have hfollow := follow.le
    obtain ⟨front, hlen, hold, hnew⟩ := same.drop_eq (by omega)
    obtain ⟨⟨hold', hx⟩, hnew', hy⟩ := follow.rows (by omega) (by omega)
    obtain ⟨holdRange, hnewRange⟩ := hunkOf_of_spans (a := a) (b := b) nonempty hP.1
    rw [← rows_hunkOf nonempty] at hold' hnew' hx hy
    refine applyFrom_cons_iff.2 ⟨front, a.toList.drop x, b.toList.drop y, ?_, ?_, ?_, ?_, ?_⟩
    · rw [holdRange, hlen, ← hx, Nat.add_sub_cancel_left]
    · rw [hnewRange, hlen, ← hy, Nat.add_sub_cancel_left]
    · rw [hold, hold']
    · rw [hnew, hnew']
    · rw [hlen, hx, hy]
      exact ih hi hj hP.2

/-- Hunks that can be applied have their changes in their places. -/
theorem Cut.of_apply {P : Prop} {gs : List (List Change)} (h : Cut a b P i j gs i' j')
    (hi : i' = a.size) (hj : j' = b.size) {new : List Line}
    (happly : applyFrom i j (a.toList.drop i) (gs.map (hunkOf a b)) = some new) : P := by
  induction h generalizing new with
  | done => trivial
  | @hunk _ i j n x y _ _ g gs same follow nonempty alternate rest ih =>
    have hrest := rest.le
    have hfollow := follow.le
    obtain ⟨front, hlen, hold, -⟩ := same.drop_eq (by omega)
    obtain ⟨⟨hold', hx⟩, -, hy⟩ := follow.rows (by omega) (by omega)
    rw [← rows_hunkOf nonempty] at hold' hx hy
    obtain ⟨front', more, new', holdRange, hnewRange, hlines, -, happly⟩ :=
      applyFrom_cons_iff.1 happly
    obtain ⟨hn, hspans⟩ := spans_of_hunkOf nonempty follow alternate
      (by rw [holdRange, ← hx, Nat.add_sub_cancel_left])
      (by rw [hnewRange, ← hy, Nat.add_sub_cancel_left])
    rw [hold, hold'] at hlines
    obtain ⟨-, hlines⟩ := List.append_inj hlines (hlen.trans hn.symm)
    rw [hn, hx, hy, ← List.append_cancel_left hlines] at happly
    exact ⟨hspans, ih hi hj happly⟩

/-! ## Texts -/

def lineArray (text : String) : Array Line := (lines text.toList).toArray

/-- The changes between two texts begin at the first line of both and end at the last line of
both. -/
def Anchored (old new : String) : Prop :=
  Spans 0 0 (changesOf (lineArray old) (lineArray new)) (lineArray old).size (lineArray new).size

/-- If the new text repeats no line, the changes are anchored. -/
theorem anchored_of_nodup {new : String} (h : (lines new.toList).Nodup) (old : String) :
    Anchored old new := spans_of_nodup h

/-- Without hunks the texts are the same. -/
theorem Cut.eq_of_nil {P : Prop} (h : Cut a b P 0 0 [] a.size b.size) : a = b := by
  generalize hi : a.size = i' at h
  generalize hj : b.size = j' at h
  cases h with
  | @done _ _ n same =>
    refine Array.ext (hi.trans hj.symm) fun k hk hk' => ?_
    have := same k (by omega)
    rwa [Nat.zero_add, Array.getElem?_eq_getElem hk, Array.getElem?_eq_getElem hk',
      Option.some.injEq] at this

theorem Cut.nil_not_mem {P : Prop} {gs : List (List Change)} (h : Cut a b P i j gs i' j') :
    [] ∉ gs := by
  induction h with
  | done => exact List.not_mem_nil
  | hunk _ _ nonempty _ _ ih => exact List.not_mem_cons_of_ne_of_not_mem (Ne.symm nonempty) ih

theorem lineArray_inj {old new : String} (h : lineArray old = lineArray new) : old = new := by
  have hlines := congrArg (List.flatten ∘ Array.toList) h
  simp only [lineArray, Function.comp_apply, flatten_lines] at hlines
  exact String.toList_inj.1 hlines

theorem unified_eq (oldName newName old new : String) :
    unified oldName newName old new =
      if (hunks (changesOf (lineArray old) (lineArray new))).isEmpty then ""
      else "--- " ++ oldName ++ "\n+++ " ++ newName ++ "\n" ++ String.ofList
        ((hunks (changesOf (lineArray old) (lineArray new))).flatMap
          (hunkText (lineArray old) (lineArray new))) := rfl

/-- **The diff of different texts is read** as the hunks of their changes. -/
theorem read_unified {old new : String} (hold : FeedEnded old) (hnew : FeedEnded new)
    (hne : old ≠ new) (oldName newName : String) :
    read oldName newName (unified oldName newName old new) =
      some (hunksOf (lineArray old) (lineArray new)) := by
  obtain ⟨P, hcut, -⟩ := hunks_cut (lineArray old) (lineArray new)
  have hsome : hunks (changesOf (lineArray old) (lineArray new)) ≠ [] := fun e => by
    rw [e] at hcut
    exact hne (lineArray_inj hcut.eq_of_nil)
  have htext : (unified oldName newName old new).toList =
      ("--- " ++ oldName ++ "\n+++ " ++ newName ++ "\n").toList ++
        ((hunksOf (lineArray old) (lineArray new)).flatMap Hunk.shown).flatten := by
    rw [unified_eq, if_neg (by simpa using hsome), String.toList_append, String.toList_ofList,
      flatMap_hunkText hcut.nil_not_mem, hunksOf]
  rw [Patch.read, Text.afterStart_eq_some_iff.2 htext, Option.bind_eq_bind, Option.bind_some]
  refine readHunks_shown fun hunk hhunk r hr => ?_
  obtain ⟨cs, -, rfl⟩ := List.mem_map.1 hhunk
  rcases hunkOf_subset hr with hr | hr
  · exact whole_of_mem_lines hold (by simpa [lineArray] using hr)
  · exact whole_of_mem_lines hnew (by simpa [lineArray] using hr)

theorem rewrites_hunksOf (old new : String) :
    Rewrites (hunksOf (lineArray old) (lineArray new)) (lines old.toList) (lines new.toList) := by
  obtain ⟨P, hcut, -⟩ := hunks_cut (lineArray old) (lineArray new)
  exact hcut.rewrites rfl rfl

/-- **The hunks give the new text** exactly if the changes are anchored. -/
theorem apply_hunksOf {old new : String} (hold : FeedEnded old) :
    apply (hunksOf (lineArray old) (lineArray new)) old = some new ↔ Anchored old new := by
  obtain ⟨P, hcut, hP⟩ := hunks_cut (lineArray old) (lineArray new)
  rw [Anchored, ← hP, Patch.apply, feedLines_eq_lines hold]
  constructor
  · intro h
    obtain ⟨ls, hls, -⟩ := Option.map_eq_some_iff.1 h
    exact hcut.of_apply rfl rfl hls
  · intro h
    have hlines : applyFrom 0 0 (lines old.toList) (hunksOf (lineArray old) (lineArray new)) =
        some (lines new.toList) := hcut.apply rfl rfl h
    rw [hlines, Option.map_some, flatten_lines, String.ofList_toList]

end Stencil.Diff
