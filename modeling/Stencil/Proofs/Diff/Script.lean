import Stencil.Diff.Compact

/-!
# Scripts lead from one text to the other

An edit reads lines of the texts at places of its own. `Aligned` says that edits follow each other
without a gap and that the places they read are right; where an addition stands in the old text and
a removal in the new one is left open. `script_aligned`: a script leads from the start of both texts
to their ends.
-/
namespace Stencil.Diff
variable {a b : Array Line}

/-! ## Same lines -/

/-- The texts have the same `n` lines from line `i` of the old and line `j` of the new one on. -/
def Same (a b : Array Line) (i j n : Nat) : Prop := ∀ k < n, a[i + k]? = b[j + k]?

theorem Same.zero (i j : Nat) : Same a b i j 0 := fun _ hk => absurd hk (Nat.not_lt_zero _)

theorem Same.take {i j n m : Nat} (h : Same a b i j n) (hm : m ≤ n) : Same a b i j m :=
  fun k hk => h k (Nat.lt_of_lt_of_le hk hm)

theorem Same.drop {i j n : Nat} (h : Same a b i j n) (m : Nat) :
    Same a b (i + m) (j + m) (n - m) := by
  intro k hk
  have := h (m + k) (by omega)
  rwa [← Nat.add_assoc, ← Nat.add_assoc] at this

theorem Same.append {i j n m : Nat} (h : Same a b i j n) (h' : Same a b (i + n) (j + n) m) :
    Same a b i j (n + m) := by
  intro k hk
  by_cases hn : k < n
  · exact h k hn
  · have := h' (k - n) (by omega)
    rwa [show i + n + (k - n) = i + k by omega, show j + n + (k - n) = j + k by omega] at this

theorem same_sameAhead (i iEnd j jEnd fuel : Nat) :
    Same a b i j (sameAhead a b i iEnd j jEnd fuel) := by
  fun_induction sameAhead a b i iEnd j jEnd fuel with
  | case1 => exact .zero _ _
  | case2 i j fuel h ih =>
    simp only [Bool.and_eq_true, beq_iff_eq] at h
    rw [Nat.add_comm]
    refine Same.append (fun k hk => ?_) ih
    rw [Nat.lt_one_iff.1 hk]
    exact h.2
  | case3 => exact .zero _ _

theorem sameAhead_le (i iEnd j jEnd fuel : Nat) :
    sameAhead a b i iEnd j jEnd fuel ≤ iEnd - i ∧ sameAhead a b i iEnd j jEnd fuel ≤ jEnd - j := by
  fun_induction sameAhead a b i iEnd j jEnd fuel with
  | case1 => omega
  | case2 i j fuel h ih =>
    simp only [Bool.and_eq_true, decide_eq_true_eq] at h
    omega
  | case3 => omega

theorem sameBehind_le (i iEnd j jEnd fuel : Nat) :
    sameBehind a b i iEnd j jEnd fuel ≤ iEnd - i ∧
      sameBehind a b i iEnd j jEnd fuel ≤ jEnd - j := by
  fun_induction sameBehind a b i iEnd j jEnd fuel with
  | case1 => omega
  | case2 iEnd jEnd fuel h ih =>
    simp only [Bool.and_eq_true, decide_eq_true_eq] at h
    omega
  | case3 => omega

theorem same_sameBehind (i iEnd j jEnd fuel : Nat) :
    Same a b (iEnd - sameBehind a b i iEnd j jEnd fuel) (jEnd - sameBehind a b i iEnd j jEnd fuel)
      (sameBehind a b i iEnd j jEnd fuel) := by
  fun_induction sameBehind a b i iEnd j jEnd fuel with
  | case1 => exact .zero _ _
  | case2 iEnd jEnd fuel h ih =>
    have hle := sameBehind_le (a := a) (b := b) i (iEnd - 1) j (jEnd - 1) fuel
    simp only [Bool.and_eq_true, decide_eq_true_eq, beq_iff_eq] at h
    rw [Nat.add_comm, ← Nat.sub_sub, ← Nat.sub_sub, Nat.add_comm]
    refine ih.append fun k hk => ?_
    rw [Nat.lt_one_iff.1 hk, Nat.add_zero, Nat.add_zero, Nat.sub_add_cancel (by omega),
      Nat.sub_add_cancel (by omega)]
    exact h.2
  | case3 => exact .zero _ _

theorem same_commonAhead (i iEnd j jEnd : Nat) :
    Same a b i j (commonAhead a b i iEnd j jEnd) := same_sameAhead i iEnd j jEnd _

theorem commonAhead_le (a b : Array Line) (i iEnd j jEnd : Nat) :
    commonAhead a b i iEnd j jEnd ≤ iEnd - i ∧ commonAhead a b i iEnd j jEnd ≤ jEnd - j :=
  sameAhead_le ..

theorem same_commonBehind (i iEnd j jEnd : Nat) :
    Same a b (iEnd - commonBehind a b i iEnd j jEnd) (jEnd - commonBehind a b i iEnd j jEnd)
      (commonBehind a b i iEnd j jEnd) := same_sameBehind i iEnd j jEnd _

theorem commonBehind_le (a b : Array Line) (i iEnd j jEnd : Nat) :
    commonBehind a b i iEnd j jEnd ≤ iEnd - i ∧ commonBehind a b i iEnd j jEnd ≤ jEnd - j :=
  sameBehind_le ..

/-! ## Pieces that lead through the texts -/

section
variable {α : Type} (stands : Nat → Nat → α → Prop) (oldLength newLength : α → Nat)

/-- Pieces that lead from line `i` of the old text and line `j` of the new one to lines `i'` and
`j'`: each can stand where the one before it ends. -/
def Leads : Nat → Nat → List α → Nat → Nat → Prop
  | i, j, [], i', j' => i = i' ∧ j = j'
  | i, j, e :: es, i', j' => stands i j e ∧ Leads (i + oldLength e) (j + newLength e) es i' j'

end

namespace Leads
variable {α : Type} {stands : Nat → Nat → α → Prop} {oldLength newLength : α → Nat}
  {i j x y i' j' : Nat} {es fs before : List α}

theorem append_iff :
    Leads stands oldLength newLength i j (es ++ fs) i' j' ↔
      ∃ x y, Leads stands oldLength newLength i j es x y ∧
        Leads stands oldLength newLength x y fs i' j' := by
  induction es generalizing i j with
  | nil =>
    constructor
    · exact fun h => ⟨i, j, ⟨rfl, rfl⟩, h⟩
    · rintro ⟨_, _, ⟨rfl, rfl⟩, h⟩
      exact h
  | cons e es ih =>
    simp only [List.cons_append, Leads, ih]
    constructor
    · rintro ⟨he, x, y, hes, hfs⟩
      exact ⟨x, y, ⟨he, hes⟩, hfs⟩
    · rintro ⟨x, y, ⟨he, hes⟩, hfs⟩
      exact ⟨he, x, y, hes, hfs⟩

theorem append (h : Leads stands oldLength newLength i j es x y)
    (h' : Leads stands oldLength newLength x y fs i' j') :
    Leads stands oldLength newLength i j (es ++ fs) i' j' :=
  append_iff.2 ⟨x, y, h, h'⟩

/-- The last pieces can be replaced by others that lead to the same end. -/
theorem replace (h : Leads stands oldLength newLength i j (before ++ es) i' j')
    (hes : ∀ x y, Leads stands oldLength newLength x y es i' j' →
      Leads stands oldLength newLength x y fs i' j') :
    Leads stands oldLength newLength i j (before ++ fs) i' j' := by
  obtain ⟨x, y, hbefore, h⟩ := append_iff.1 h
  exact hbefore.append (hes x y h)

theorem start_eq (h : Leads stands oldLength newLength i j es i' j') (hi : i = x) (hj : j = y) :
    Leads stands oldLength newLength x y es i' j' := hi ▸ hj ▸ h

theorem le (h : Leads stands oldLength newLength i j es i' j') : i ≤ i' ∧ j ≤ j' := by
  induction es generalizing i j with
  | nil => exact ⟨Nat.le_of_eq h.1, Nat.le_of_eq h.2⟩
  | cons e es ih =>
    have := ih h.2
    omega

end Leads

/-- The number of lines that the edit takes from the old text. -/
def Edit.oldLength (e : Edit) : Nat := if e.action = .add then 0 else e.length

/-- The edit can stand at line `i` of the old text and line `j` of the new one: it reads the lines
that begin there, and kept lines are the same. -/
structure Edit.At (a b : Array Line) (i j : Nat) (e : Edit) : Prop where
  pos : 0 < e.length
  old : e.action ≠ .add → e.old = i
  new : e.action ≠ .remove → e.new = j
  same : e.action = .keep → Same a b i j e.length

/-- The edits lead through the texts. -/
abbrev Aligned (a b : Array Line) : Nat → Nat → List Edit → Nat → Nat → Prop :=
  Leads (Edit.At a b) Edit.oldLength Edit.newLength

/-! ## Scripts -/

/-- Edits lead as far as their lines go; without lines there is none. -/
theorem edit_aligned {i j i' j' n : Nat} {action : Action}
    (h : 0 < n → Edit.At a b i j ⟨action, i', j', n⟩) :
    Aligned a b i j (edit action i' j' n) (i + Edit.oldLength ⟨action, i', j', n⟩)
      (j + Edit.newLength ⟨action, i', j', n⟩) := by
  unfold edit
  split
  · rename_i hn
    rw [hn]
    exact ⟨by simp [Edit.oldLength], by simp [Edit.newLength]⟩
  · rename_i hn
    exact ⟨h (Nat.pos_of_ne_zero hn), rfl, rfl⟩

theorem keep_aligned {i j n : Nat} (h : Same a b i j n) :
    Aligned a b i j (edit .keep i j n) (i + n) (j + n) :=
  edit_aligned fun pos => ⟨pos, fun _ => rfl, fun _ => rfl, fun _ => h⟩

theorem remove_aligned (i j j' n : Nat) : Aligned a b i j (edit .remove i j' n) (i + n) j :=
  edit_aligned fun pos => ⟨pos, fun _ => rfl, fun h => absurd rfl h, nofun⟩

theorem add_aligned (i i' j n : Nat) : Aligned a b i j (edit .add i' j n) i (j + n) :=
  edit_aligned fun pos => ⟨pos, fun h => absurd rfl h, fun _ => rfl, nofun⟩

/-- The edits of two stretches, pieced together from those of their parts. -/
inductive Pieced (a b : Array Line) : Nat → Nat → List Edit → Nat → Nat → Prop
  | replace {i j i' j' : Nat} (hold : i ≤ i') (hnew : j ≤ j') :
      Pieced a b i j (edit .remove i j (i' - i) ++ edit .add i j (j' - j)) i' j'
  | keep {i j n : Nat} (same : Same a b i j n) : Pieced a b i j (edit .keep i j n) (i + n) (j + n)
  | append {i j x y i' j' : Nat} {es fs : List Edit} (left : Pieced a b i j es x y)
      (right : Pieced a b x y fs i' j') : Pieced a b i j (es ++ fs) i' j'

theorem scriptOf_pieced (fuel : Nat) (w : Window) (hold : w.old ≤ w.oldEnd)
    (hnew : w.new ≤ w.newEnd) : Pieced a b w.old w.new (scriptOf a b fuel w) w.oldEnd w.newEnd := by
  induction fuel generalizing w with
  | zero => exact .replace hold hnew
  | succ fuel ih =>
    unfold scriptOf
    extract_lets ahead i j behind iEnd jEnd inner
    have hahead : ahead ≤ w.oldEnd - w.old ∧ ahead ≤ w.newEnd - w.new := commonAhead_le ..
    have hbehind : behind ≤ w.oldEnd - i ∧ behind ≤ w.newEnd - j := commonBehind_le ..
    have hi : i ≤ iEnd := by omega
    have hj : j ≤ jEnd := by omega
    have hinner : Pieced a b i j inner iEnd jEnd := by
      unfold inner
      split
      · exact .replace hi hj
      · split
        · rename_i x y _
          split
          · rename_i h
            exact .append (ih ⟨i, x, j, y⟩ h.1 h.2.2.1) (ih ⟨x, iEnd, y, jEnd⟩ h.2.1 h.2.2.2)
          · exact .replace hi hj
        · exact .replace hi hj
    have hend : Pieced a b iEnd jEnd (edit .keep iEnd jEnd behind) w.oldEnd w.newEnd := by
      have := Pieced.keep (same_commonBehind (a := a) (b := b) i w.oldEnd j w.newEnd)
      rwa [Nat.sub_add_cancel (by omega), Nat.sub_add_cancel (by omega)] at this
    exact .append (.append (.keep (same_commonAhead w.old w.oldEnd w.new w.newEnd)) hinner) hend

theorem script_pieced (a b : Array Line) : Pieced a b 0 0 (script a b) a.size b.size :=
  scriptOf_pieced _ ⟨0, a.size, 0, b.size⟩ (Nat.zero_le _) (Nat.zero_le _)

theorem Pieced.aligned {i j i' j' : Nat} {es : List Edit} (h : Pieced a b i j es i' j') :
    Aligned a b i j es i' j' := by
  induction h with
  | @replace i j i' j' hold hnew =>
    have := (remove_aligned (a := a) (b := b) i j j (i' - i)).append (add_aligned _ i _ (j' - j))
    rwa [Nat.add_sub_cancel' hold, Nat.add_sub_cancel' hnew] at this
  | keep same => exact keep_aligned same
  | append _ _ left right => exact left.append right

/-- A script leads from one text to the other. -/
theorem script_aligned (a b : Array Line) : Aligned a b 0 0 (script a b) a.size b.size :=
  (script_pieced a b).aligned

end Stencil.Diff
