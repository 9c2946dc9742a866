import Stencil.Proofs.Diff.Changes

/-!
# Hunks leave out only what is the same

`hunks_cut`: the hunks lead from one text to the other over stretches of the same lines. The first
and the last change of a hunk tell its place in both texts; they tell the right one for all hunks
exactly if the first and the last of all changes do (`Spans`).
-/
namespace Stencil.Diff
variable {a b : Array Line} {E : Prop} {i j x y i' j' : Nat} {cs : List Change} {c : Change}

/-! ## Ends of changes -/

/-- The first change begins at these lines. -/
def Starts (i j : Nat) (cs : List Change) : Prop := ∀ c ∈ cs.head?, c.old = i ∧ c.new = j

/-- The last change ends at these lines. -/
def Stops (cs : List Change) (i j : Nat) : Prop :=
  ∀ c ∈ cs.getLast?, c.old + c.oldLength = i ∧ c.new + c.newLength = j

/-- The changes begin and end at these lines. -/
def Spans (i j : Nat) (cs : List Change) (i' j' : Nat) : Prop := Starts i j cs ∧ Stops cs i' j'

/-- Changes without wrong places span the texts. -/
theorem spans_of_follow (h : Follow a b E i j cs i' j') (hE : E) : Spans i j cs i' j' := by
  constructor
  · cases cs with
    | nil => nofun
    | cons c cs =>
      rintro c ⟨⟩
      exact ⟨h.1.old (.inr hE), h.1.new (.inr hE)⟩
  · intro c hc
    obtain ⟨cs', rfl⟩ := List.getLast?_eq_some_iff.1 hc
    obtain ⟨x, y, -, hc, rfl, rfl⟩ := Leads.append_iff.1 h
    rw [hc.old (.inr hE), hc.new (.inr hE)]
    exact ⟨rfl, rfl⟩

theorem starts_congr {d : Change} {front cs ds : List Change} (hold : c.old = d.old)
    (hnew : c.new = d.new) : Starts i j (front ++ c :: cs) ↔ Starts i j (front ++ d :: ds) := by
  cases front <;> simp [Starts, hold, hnew]

theorem stops_congr {d : Change} (cs ds : List Change) {behind : List Change}
    (hold : c.old + c.oldLength = d.old + d.oldLength)
    (hnew : c.new + c.newLength = d.new + d.newLength) :
    Stops (cs ++ c :: behind) i j ↔ Stops (ds ++ d :: behind) i j := by
  obtain rfl | ⟨behind, e, rfl⟩ := List.eq_nil_or_concat behind
  · simp [Stops, hold, hnew]
  · simp [Stops, List.getLast?_append, List.getLast?_cons]

/-! ## Kept lines -/

/-- Kept lines stand in their place. -/
theorem Change.At.kept (h : c.At a b E i j) (hs : c.same) :
    c.old = i ∧ c.new = j ∧ c.newLength = c.oldLength ∧ Same a b i j c.oldLength := by
  obtain ⟨hlen, hsame⟩ := h.same hs
  have := h.pos
  exact ⟨h.old (.inl (by omega)), h.new (.inl (by omega)), hlen, hsame⟩

theorem Change.At.starts (h : c.At a b E i j) (hs : c.same) (cs : List Change) :
    Starts i j (c :: cs) := by
  obtain ⟨hold, hnew, -, -⟩ := h.kept hs
  rintro c ⟨⟩
  exact ⟨hold, hnew⟩

theorem Change.At.stops (h : c.At a b E i j) (hs : c.same) (cs : List Change) :
    Stops (cs ++ [c]) (i + c.oldLength) (j + c.newLength) := by
  obtain ⟨hold, hnew, -, -⟩ := h.kept hs
  intro d hd
  rw [List.getLast?_concat] at hd
  obtain rfl := Option.some.inj hd
  exact ⟨by rw [hold], by rw [hnew]⟩

theorem Change.At.head (h : c.At a b E i j) (hs : c.same) : c.head.At a b E i j := by
  obtain ⟨hold, hnew, hlen, hsame⟩ := h.kept hs
  have := h.pos
  refine ⟨?_, fun _ => hold, fun _ => hnew, fun _ => ⟨rfl, hsame.take (Nat.min_le_left ..)⟩⟩
  simp only [Change.head, context]
  omega

theorem Change.At.tail (h : c.At a b E i j) (hs : c.same) :
    c.tail.At a b E (i + (c.oldLength - context)) (j + (c.oldLength - context)) := by
  obtain ⟨hold, hnew, hlen, hsame⟩ := h.kept hs
  have := h.pos
  refine ⟨?_, fun _ => ?_, fun _ => ?_, fun _ => ⟨rfl, hsame.drop _⟩⟩
  all_goals
    simp only [Change.tail, context]
    omega

namespace Alternate
variable {ds : List Change}

theorem of_map (h : Alternate cs) (hmap : ds.map Change.same = cs.map Change.same) :
    Alternate ds := by
  unfold Alternate
  rwa [hmap]

theorem left (h : Alternate (cs ++ ds)) : Alternate cs := by
  rw [Alternate, List.map_append] at h
  exact h.left_of_append

theorem right (h : Alternate (cs ++ ds)) : Alternate ds := by
  rw [Alternate, List.map_append] at h
  exact h.right_of_append

end Alternate

/-! ## The ends of the texts -/

/-- The changes with kept lines at the start cut to their context. -/
def trimFirst : List Change → List Change
  | c :: rest => if c.same then c.tail :: rest else c :: rest
  | [] => []

/-- The changes with kept lines at the end cut to their context. -/
def trimLast (cs : List Change) : List Change :=
  match cs.getLast? with
  | some c => if c.same then cs.dropLast ++ [c.head] else cs
  | none => []

theorem trimEnds_eq (cs : List Change) : trimEnds cs = trimLast (trimFirst cs) := by
  cases cs <;> rfl

/-- What is cut off at the start is the same. -/
theorem trimFirst_follow (h : Follow a b E i j cs i' j') :
    ∃ n, Same a b i j n ∧ Follow a b E (i + n) (j + n) (trimFirst cs) i' j' ∧
      (Spans (i + n) (j + n) (trimFirst cs) i' j' ↔ Spans i j cs i' j') ∧
      (trimFirst cs).map Change.same = cs.map Change.same := by
  cases cs with
  | nil => exact ⟨0, .zero _ _, h, Iff.rfl, rfl⟩
  | cons c cs =>
    obtain ⟨hc, hcs⟩ := h
    by_cases hs : c.same
    · rw [trimFirst, if_pos hs]
      obtain ⟨-, -, hlen, hsame⟩ := hc.kept hs
      have htail := hc.tail hs
      refine ⟨c.oldLength - context, hsame.take (Nat.sub_le ..), ⟨htail, hcs.start_eq ?_ ?_⟩,
        and_congr ?_ (stops_congr [] [] ?_ ?_), rfl⟩
      case refine_3 => exact iff_of_true (htail.starts hs _) (hc.starts hs _)
      all_goals
        simp only [Change.tail, context]
        omega
    · rw [trimFirst, if_neg hs]
      exact ⟨0, .zero _ _, ⟨hc, hcs⟩, Iff.rfl, rfl⟩

theorem trimLast_concat (cs : List Change) (c : Change) :
    trimLast (cs ++ [c]) = cs ++ [if c.same then c.head else c] := by
  rw [trimLast, List.getLast?_concat]
  simp only [List.dropLast_concat]
  split <;> rfl

/-- What is cut off at the end is the same. -/
theorem trimLast_follow (h : Follow a b E i j cs i' j') :
    ∃ x y n, Follow a b E i j (trimLast cs) x y ∧ Same a b x y n ∧ (x + n = i' ∧ y + n = j') ∧
      (Spans i j (trimLast cs) x y ↔ Spans i j cs i' j') ∧
      (trimLast cs).map Change.same = cs.map Change.same := by
  obtain rfl | ⟨cs, c, rfl⟩ := List.eq_nil_or_concat cs
  · exact ⟨i', j', 0, h, .zero _ _, ⟨rfl, rfl⟩, Iff.rfl, rfl⟩
  · rw [List.concat_eq_append] at h ⊢
    rw [trimLast_concat]
    split
    · rename_i hs
      obtain ⟨x, y, hcs, hc, rfl, rfl⟩ := Leads.append_iff.1 h
      obtain ⟨-, -, hlen, hsame⟩ := hc.kept hs
      have hhead := hc.head hs
      refine ⟨_, _, c.oldLength - min c.oldLength context, hcs.append ⟨hhead, rfl, rfl⟩,
        hsame.drop _, ⟨?_, ?_⟩, and_congr (starts_congr rfl rfl) ?_, ?_⟩
      case refine_3 => exact iff_of_true (hhead.stops hs _) (hc.stops hs _)
      case refine_4 => simp [Change.head]
      all_goals
        simp only [Change.head]
        omega
    · exact ⟨i', j', 0, h, .zero _ _, ⟨rfl, rfl⟩, Iff.rfl, rfl⟩

/-! ## Hunks -/

/-- Groups of changes lead through the texts over stretches of the same lines; `P` says that all of
them begin and end in their places. -/
inductive Cut (a b : Array Line) : Prop → Nat → Nat → List (List Change) → Nat → Nat → Prop
  | done {i j n : Nat} (same : Same a b i j n) : Cut a b True i j [] (i + n) (j + n)
  | hunk {P : Prop} {i j n x y i' j' : Nat} {g : List Change} {gs : List (List Change)}
      (same : Same a b i j n) (follow : Follow a b False (i + n) (j + n) g x y) (nonempty : g ≠ [])
      (alternate : Alternate g) (rest : Cut a b P x y gs i' j') :
      Cut a b (Spans (i + n) (j + n) g x y ∧ P) i j (g :: gs) i' j'

namespace Cut
variable {P : Prop} {gs : List (List Change)} {n : Nat}

theorem skip (hsame : Same a b i j n) (h : Cut a b P (i + n) (j + n) gs i' j') :
    Cut a b P i j gs i' j' := by
  generalize hx : i + n = x at h
  generalize hy : j + n = y at h
  cases h with
  | @done _ _ m same =>
    subst hx hy
    rw [Nat.add_assoc, Nat.add_assoc]
    exact .done (hsame.append same)
  | @hunk _ _ _ m _ _ _ _ _ _ same follow nonempty alternate rest =>
    subst hx hy
    rw [Nat.add_assoc, Nat.add_assoc] at follow ⊢
    exact .hunk (hsame.append same) follow nonempty alternate rest

theorem extend (h : Cut a b P i j gs x y) (hsame : Same a b x y n) :
    Cut a b P i j gs (x + n) (y + n) := by
  induction h with
  | done same =>
    rw [Nat.add_assoc, Nat.add_assoc]
    exact .done (same.append hsame)
  | hunk same follow nonempty alternate _ ih =>
    exact .hunk same follow nonempty alternate (ih hsame)

end Cut

theorem cut_single {g : List Change} (hg : Follow a b False i j g x y) (hne : g ≠ [])
    (alt : Alternate g) : ∃ P, Cut a b P i j [g] x y ∧ (P ↔ Spans i j g x y) :=
  ⟨_, .hunk (.zero _ _) hg hne alt (.done (.zero _ _)), by
    rw [and_true, Nat.add_zero, Nat.add_zero]⟩

theorem hunksFrom_cut {group rest : List Change} (hg : Follow a b False i j group.reverse x y)
    (hr : Follow a b False x y rest i' j') (alt : Alternate (group.reverse ++ rest)) :
    ∃ P, Cut a b P i j (hunksFrom group rest) i' j' ∧
      (P ↔ Spans i j (group.reverse ++ rest) i' j') := by
  fun_induction hunksFrom group rest generalizing i j x y with
  | case1 =>
    obtain ⟨rfl, rfl⟩ := hg
    obtain ⟨rfl, rfl⟩ := hr
    exact ⟨True, .done (.zero _ _), iff_of_true trivial ⟨nofun, nofun⟩⟩
  | case2 c hs =>
    obtain ⟨hc, rfl, rfl⟩ := hg
    obtain ⟨rfl, rfl⟩ := hr
    obtain ⟨-, -, hlen, hsame⟩ := hc.kept hs
    refine ⟨True, ?_, iff_of_true trivial ⟨hc.starts hs _, hc.stops hs []⟩⟩
    rw [hlen]
    exact .done hsame
  | case3 c hs =>
    obtain ⟨rfl, rfl⟩ := hr
    exact cut_single hg (by simp) alt
  | case4 group hnil hone =>
    obtain ⟨rfl, rfl⟩ := hr
    rw [List.append_nil] at alt ⊢
    exact cut_single hg (by simpa using hnil) alt
  | case5 group c rest hs ih =>
    obtain ⟨hc, hr⟩ := hr
    obtain ⟨hs, hlong⟩ : c.same ∧ 2 * context < c.oldLength := by simpa using hs
    obtain ⟨-, -, hlen, hsame⟩ := hc.kept hs
    have hhead := hc.head hs
    have htail := hc.tail hs
    have hheadLength : c.head.oldLength = context := Nat.min_eq_right (by omega)
    have htailLength : c.tail.oldLength = context := Nat.sub_sub_self (by omega)
    have hfirst : Follow a b False i j (c.head :: group).reverse (x + context) (y + context) := by
      rw [List.reverse_cons]
      exact hg.append ⟨hhead, by rw [hheadLength], congrArg (y + ·) hheadLength⟩
    obtain ⟨P, hcut, hP⟩ := ih ⟨htail, rfl, rfl⟩
      (hr.start_eq (by omega) (by simp only [Change.tail]; omega)) (alt.right.of_map rfl)
    have hgap : Same a b (x + context) (y + context) (c.oldLength - 2 * context) :=
      (hsame.drop context).take (by omega)
    rw [show x + (c.oldLength - context) = x + context + (c.oldLength - 2 * context) by omega,
      show y + (c.oldLength - context) = y + context + (c.oldLength - 2 * context) by omega]
      at hcut hP htail
    refine ⟨Spans i j (c.head :: group).reverse (x + context) (y + context) ∧ P,
      .hunk (.zero i j) hfirst (by simp) ?_ (hcut.skip hgap), ?_⟩
    · rw [List.append_cons] at alt
      exact alt.left.of_map (by simp [Change.head])
    · -- only the first of the changes before and the last of those behind can be out of place
      have hstarts :
          Starts i j (group.reverse ++ [c.head]) ↔ Starts i j (group.reverse ++ c :: rest) :=
        starts_congr rfl rfl
      have hstops : Stops (c.tail :: rest) i' j' ↔ Stops (group.reverse ++ c :: rest) i' j' :=
        stops_congr [] _ (by simp only [Change.tail]; omega) (by simp only [Change.tail]; omega)
      have hend : Stops (group.reverse ++ [c.head]) (x + context) (y + context) := by
        have := hhead.stops hs group.reverse
        rwa [show c.head.newLength = c.head.oldLength from rfl, hheadLength] at this
      rw [hP, List.reverse_cons]
      exact ⟨fun h => ⟨hstarts.1 h.1.1, hstops.1 h.2.2⟩,
        fun h => ⟨⟨hstarts.2 h.1, hend⟩, htail.starts hs _, hstops.2 h.2⟩⟩
  | case6 group c rest hs ih =>
    obtain ⟨hc, hr⟩ := hr
    rw [List.reverse_cons, List.append_assoc] at ih
    exact ih (hg.append ⟨hc, rfl, rfl⟩) hr alt

/-- The hunks of two texts lead from one to the other; their places are right exactly if the
changes span the texts. -/
theorem hunks_cut (a b : Array Line) :
    ∃ P, Cut a b P 0 0 (hunks (changesOf a b)) a.size b.size ∧
      (P ↔ Spans 0 0 (changesOf a b) a.size b.size) := by
  have h : Follow a b False 0 0 (changesOf a b) a.size b.size := changesOf_follow False.elim
  obtain ⟨n, hfront, h, hspans, hmap⟩ := trimFirst_follow h
  obtain ⟨x, y, m, h, hback, ⟨hx, hy⟩, hspans', hmap'⟩ := trimLast_follow h
  rw [← trimEnds_eq] at h hspans' hmap'
  have halt := (changesOf_alternate a b).of_map (hmap'.trans hmap)
  have hnone : Follow a b False (0 + n) (0 + n) (List.reverse []) (0 + n) (0 + n) := ⟨rfl, rfl⟩
  obtain ⟨P, hcut, hP⟩ := hunksFrom_cut hnone h halt
  refine ⟨P, ?_, hP.trans (hspans'.trans hspans)⟩
  rw [← hx, ← hy]
  exact (hcut.extend hback).skip hfront

/-- If the new text repeats no line, the changes span the texts. -/
theorem spans_of_nodup (h : b.toList.Nodup) : Spans 0 0 (changesOf a b) a.size b.size :=
  spans_of_follow (changesOf_follow fun h => h) h

end Stencil.Diff
