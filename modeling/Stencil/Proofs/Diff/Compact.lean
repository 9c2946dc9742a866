import Mathlib.Data.List.Nodup
import Stencil.Proofs.Diff.Script

/-!
# Tidied scripts lead from one text to the other

Tidying joins edits, swaps them and moves kept lines over them. Each of these steps keeps the edits
aligned, but a swap leaves the edits with the places that they had: a removal then stands at a wrong
line of the new text and an addition at a wrong line of the old one. Without repeated lines in the
new text no edit passes kept lines, so these places stay between the right kept lines (`Framed`).
-/
namespace Stencil.Diff
variable {a b : Array Line}

/-! ## Places between kept lines -/

/-- The edit stands before the other one in both texts. -/
def Edit.Before (e f : Edit) : Prop := e.old + e.oldLength ≤ f.old ∧ e.new + e.newLength ≤ f.new

/-- All places are within the texts, and changed lines stand before or behind kept ones in both. -/
structure Framed (a b : Array Line) (es : List Edit) : Prop where
  within : ∀ e ∈ es, e.old + e.oldLength ≤ a.size ∧ e.new + e.newLength ≤ b.size
  apart : ∀ k ∈ es, k.action = .keep → ∀ e ∈ es, e.action ≠ .keep → e.Before k ∨ k.Before e

theorem mem_edit {e : Edit} {action : Action} {i j n : Nat} (h : e ∈ edit action i j n) :
    e = ⟨action, i, j, n⟩ := by
  unfold edit at h
  split at h
  · cases h
  · exact List.mem_singleton.1 h

/-- The edits of two stretches stay within them. -/
theorem Pieced.within {i j i' j' : Nat} {es : List Edit} (h : Pieced a b i j es i' j') {e : Edit}
    (he : e ∈ es) :
    (i ≤ e.old ∧ e.old + e.oldLength ≤ i') ∧ j ≤ e.new ∧ e.new + e.newLength ≤ j' := by
  induction h with
  | replace hold hnew =>
    rcases List.mem_append.1 he with he | he <;>
    · rw [mem_edit he]
      simp only [Edit.oldLength, Edit.newLength]
      simp
      omega
  | keep same =>
    rw [mem_edit he]
    simp [Edit.oldLength, Edit.newLength]
  | append left right ihl ihr =>
    have hl := left.aligned.le
    have hr := right.aligned.le
    rcases List.mem_append.1 he with he | he
    · have := ihl he
      omega
    · have := ihr he
      omega

theorem Pieced.apart {i j i' j' : Nat} {es : List Edit} (h : Pieced a b i j es i' j') {k e : Edit}
    (hk : k ∈ es) (hkeep : k.action = .keep) (he : e ∈ es) (hne : e.action ≠ .keep) :
    e.Before k ∨ k.Before e := by
  induction h with
  | replace hold hnew =>
    rcases List.mem_append.1 hk with hk | hk <;>
    · rw [mem_edit hk] at hkeep
      cases hkeep
  | keep same =>
    rw [mem_edit he] at hne
    exact absurd rfl hne
  | append left right ihl ihr =>
    rcases List.mem_append.1 hk with hk | hk <;> rcases List.mem_append.1 he with he | he
    · exact ihl hk he
    · have hk := left.within hk
      have he := right.within he
      exact .inr ⟨by omega, by omega⟩
    · have hk := right.within hk
      have he := left.within he
      exact .inl ⟨by omega, by omega⟩
    · exact ihr hk he

theorem script_framed (a b : Array Line) : Framed a b (script a b) :=
  ⟨fun _ he => ⟨((script_pieced a b).within he).1.2, ((script_pieced a b).within he).2.2⟩,
    fun _ hk hkeep _ he hne => (script_pieced a b).apart hk hkeep he hne⟩

/-! ## Steps -/

namespace Edit
variable {e : Edit} {i j : Nat}

theorem oldLength_of_ne (h : e.action ≠ .add) : e.oldLength = e.length := if_neg h

theorem newLength_of_ne (h : e.action ≠ .remove) : e.newLength = e.length := if_neg h

theorem oldLength_of_add (h : e.action = .add) : e.oldLength = 0 := if_pos h

theorem newLength_of_remove (h : e.action = .remove) : e.newLength = 0 := if_pos h

theorem At.of_remove (h : e.action = .remove) (pos : 0 < e.length) (old : e.old = i) :
    e.At a b i j :=
  ⟨pos, fun _ => old, fun hn => absurd h hn, by simp [h]⟩

theorem At.of_add (h : e.action = .add) (pos : 0 < e.length) (new : e.new = j) : e.At a b i j :=
  ⟨pos, fun hn => absurd h hn, fun _ => new, by simp [h]⟩

theorem At.of_places (pos : 0 < e.length) (old : e.old = i) (new : e.new = j)
    (same : Same a b e.old e.new e.length) : e.At a b i j :=
  ⟨pos, fun _ => old, fun _ => new, fun _ => old ▸ new ▸ same⟩

theorem At.same_places (h : e.At a b i j) (hkeep : e.action = .keep) :
    Same a b e.old e.new e.length := by
  rw [h.old (by simp [hkeep]), h.new (by simp [hkeep])]
  exact h.same hkeep

end Edit

section
variable {before behind : List Edit} {p t : Edit} {x y i' j' : Nat}

theorem Leads.merge (hpt : p.action = t.action) (h : Aligned a b x y (p :: t :: behind) i' j') :
    Aligned a b x y ({ p with length := p.length + t.length } :: behind) i' j' := by
  obtain ⟨hp', ht', h⟩ := h
  refine ⟨⟨Nat.add_pos_left hp'.pos _, hp'.old, hp'.new, fun hk => (hp'.same hk).append ?_⟩,
    h.start_eq ?_ ?_⟩
  · have hkept := ht'.same (hpt ▸ hk)
    rwa [Edit.oldLength_of_ne (by simp [show p.action = .keep from hk]),
      Edit.newLength_of_ne (by simp [show p.action = .keep from hk])] at hkept
  · simp only [Edit.oldLength, ← hpt]
    split <;> omega
  · simp only [Edit.newLength, ← hpt]
    split <;> omega

/-- Kept lines can be joined with those behind them. -/
theorem Leads.keepFront (hp : p.action = .keep) (h : Aligned a b x y (p :: behind) i' j') :
    Aligned a b x y (keepFront p behind) i' j' := by
  unfold Diff.keepFront
  split
  · rename_i f rest
    split
    · rename_i hf
      have hold := h.2.1.old (by simp [hf])
      have hnew := h.2.1.new (by simp [hf])
      rw [Edit.oldLength_of_ne (by simp [hp])] at hold
      rw [Edit.newLength_of_ne (by simp [hp])] at hnew
      rw [← h.1.old (by simp [hp])] at hold
      rw [← h.1.new (by simp [hp])] at hnew
      have joined : Edit.mk f.action (f.old - p.length) (f.new - p.length) (f.length + p.length) =
          { p with length := p.length + f.length } := by
        rw [Edit.mk.injEq]
        exact ⟨hf.trans hp.symm, by omega, by omega, Nat.add_comm ..⟩
      rw [joined]
      exact h.merge (hp.trans hf.symm)
    · exact h
  · exact h

/-- Kept lines can be joined with those in front of them. -/
theorem Leads.keepBack (hp : p.action = .keep)
    (h : Aligned a b x y (before.reverse ++ p :: behind) i' j') :
    Aligned a b x y ((keepBack p before).reverse ++ behind) i' j' := by
  unfold Diff.keepBack
  split
  · rename_i f rest
    split
    · rename_i hf
      rw [List.reverse_cons, List.append_assoc] at h ⊢
      exact h.replace fun _ _ h => h.merge (hf.trans hp.symm)
    · simpa using h
  · exact h

theorem Leads.swap (hp : p.action ≠ .keep) (ht : t.action ≠ .keep) (hpt : p.action ≠ t.action)
    (h : Aligned a b x y (p :: t :: behind) i' j') :
    Aligned a b x y (t :: p :: behind) i' j' := by
  obtain ⟨hp', ht', h⟩ := h
  obtain ⟨hpa, hta⟩ | ⟨hpa, hta⟩ :
      p.action = .remove ∧ t.action = .add ∨ p.action = .add ∧ t.action = .remove := by
    cases hpa : p.action <;> cases hta : t.action <;> simp_all
  · have hold := hp'.old (by simp [hpa])
    have hnew := ht'.new (by simp [hta])
    rw [Edit.newLength_of_remove hpa] at hnew
    refine ⟨.of_add hta ht'.pos hnew, .of_remove hpa hp'.pos ?_, h.start_eq ?_ ?_⟩
    · rw [hold, Edit.oldLength_of_add hta, Nat.add_zero]
    all_goals exact Nat.add_right_comm ..
  · have hnew := hp'.new (by simp [hpa])
    have hold := ht'.old (by simp [hta])
    rw [Edit.oldLength_of_add hpa] at hold
    refine ⟨.of_remove hta ht'.pos hold, .of_add hpa hp'.pos ?_, h.start_eq ?_ ?_⟩
    · rw [hnew, Edit.newLength_of_remove hta, Nat.add_zero]
    all_goals exact Nat.add_right_comm ..

/-- Kept lines at the end of `p` can stand behind the added lines `t` instead. -/
theorem Leads.slideUp (hp : p.action = .keep) (ht : t.action = .add) {n : Nat} (hpos : 0 < n)
    (hle : n ≤ p.length) (hsame : Same a b (p.old + p.length - n) (t.new + t.newLength - n) n)
    (h : Aligned a b x y (p :: t :: behind) i' j') :
    Aligned a b x y (edit .keep p.old p.new (p.length - n) ++
      { t with old := t.old - n, new := t.new - n } ::
        ⟨.keep, p.old + p.length - n, t.new + t.newLength - n, n⟩ :: behind) i' j' := by
  obtain ⟨hp', ht', h⟩ := h
  obtain rfl := hp'.old (by simp [hp])
  obtain rfl := hp'.new (by simp [hp])
  have hnew := ht'.new (by simp [ht])
  rw [Edit.newLength_of_ne (by simp [hp])] at hnew h
  rw [Edit.oldLength_of_ne (by simp [hp]), Edit.oldLength_of_add ht] at h
  have htn : t.newLength = t.length := Edit.newLength_of_ne (by simp [ht])
  refine (keep_aligned ((hp'.same_places hp).take (Nat.sub_le _ n))).append
    ⟨.of_add ht ht'.pos ?_, .of_places hpos ?_ ?_ hsame, h.start_eq ?_ ?_⟩ <;>
    simp [Edit.oldLength, Edit.newLength, ht] <;> omega

/-- Kept lines at the start of `p` can stand in front of the added lines `t` instead. -/
theorem Leads.slideDown (hp : p.action = .keep) (ht : t.action = .add) {n : Nat} (hpos : 0 < n)
    (hle : n ≤ p.length) (hsame : Same a b p.old t.new n)
    (h : Aligned a b x y (t :: p :: behind) i' j') :
    Aligned a b x y (⟨.keep, p.old, t.new, n⟩ ::
      { t with old := t.old + n, new := t.new + n } ::
        (edit .keep (p.old + n) (p.new + n) (p.length - n) ++ behind)) i' j' := by
  obtain ⟨ht', hp', h⟩ := h
  obtain rfl := ht'.new (by simp [ht])
  have hold := hp'.old (by simp [hp])
  obtain rfl : p.old = x := by rwa [Edit.oldLength_of_add ht] at hold
  have hnew := hp'.new (by simp [hp])
  rw [Edit.newLength_of_ne (by simp [ht])] at hnew
  have hkept := keep_aligned ((hp'.same_places hp).drop n)
  rw [Edit.oldLength_of_ne (e := p) (by simp [hp]), Edit.oldLength_of_add ht,
    Edit.newLength_of_ne (e := p) (by simp [hp]), Edit.newLength_of_ne (by simp [ht])] at h
  refine ⟨.of_places hpos rfl rfl hsame, .of_add ht ht'.pos ?_,
    (hkept.append (h.start_eq (by omega) (by omega))).start_eq ?_ ?_⟩ <;>
    simp [Edit.oldLength, Edit.newLength, ht]
  omega

theorem Leads.pos {es : List Edit} (h : Aligned a b x y es i' j') : ∀ e ∈ es, 0 < e.length := by
  induction es generalizing x y with
  | nil => simp
  | cons e es ih => exact List.forall_mem_cons.2 ⟨h.1.pos, ih h.2⟩

theorem Framed.of_subset {es fs : List Edit} (h : Framed a b es) (hs : fs ⊆ es) : Framed a b fs :=
  ⟨fun e he => h.within e (hs he), fun k hk hkeep e he => h.apart k (hs hk) hkeep e (hs he)⟩

/-- What is joined ends where the second part does in the text that it reads, and where the first
part does in the other one. -/
theorem merged_ends (hp : p.action ≠ .keep) (hpt : p.action = t.action)
    (h : Aligned a b x y (p :: t :: behind) i' j') {m : Edit}
    (hm : m = { p with length := p.length + t.length }) :
    (m.old + m.oldLength = t.old + t.oldLength ∧ t.old = p.old + p.oldLength ∧
        m.new + m.newLength = p.new + p.newLength) ∨
      (m.new + m.newLength = t.new + t.newLength ∧ t.new = p.new + p.newLength ∧
        m.old + m.oldLength = p.old + p.oldLength) := by
  obtain ⟨hp', ht', -⟩ := h
  subst hm
  cases hpa : p.action with
  | keep => exact absurd hpa hp
  | remove =>
    have hta : t.action = .remove := hpt ▸ hpa
    have hold := hp'.old (by simp [hpa])
    have hold' := ht'.old (by simp [hta])
    refine .inl ⟨?_, by omega, ?_⟩
    · simp only [Edit.oldLength, hpa, hta, reduceCtorEq, if_false] at hold' ⊢
      omega
    · simp [Edit.newLength, hpa]
  | add =>
    have hta : t.action = .add := hpt ▸ hpa
    have hnew := hp'.new (by simp [hpa])
    have hnew' := ht'.new (by simp [hta])
    refine .inr ⟨?_, by omega, ?_⟩
    · simp only [Edit.newLength, hpa, hta, reduceCtorEq, if_false] at hnew' ⊢
      omega
    · simp [Edit.oldLength, hpa]

theorem Framed.merge (hp : p.action ≠ .keep) (hpt : p.action = t.action)
    (ha : Aligned a b x y (before ++ p :: t :: behind) i' j')
    (h : Framed a b (before ++ p :: t :: behind)) :
    Framed a b (before ++ { p with length := p.length + t.length } :: behind) := by
  obtain ⟨x', y', -, hpt'⟩ := Leads.append_iff.1 ha
  generalize hm : { p with length := p.length + t.length } = m
  have ends := merged_ends hp hpt hpt' hm.symm
  have hma : m.action ≠ .keep := by simpa [← hm] using hp
  have hpm : m.old = p.old ∧ m.new = p.new := by simp [← hm]
  have rest : ∀ e ∈ before ++ m :: behind, e = m ∨ e ∈ before ++ p :: t :: behind := by
    simp only [List.mem_append, List.mem_cons]
    tauto
  have hpmem : p ∈ before ++ p :: t :: behind := by simp
  have htmem : t ∈ before ++ p :: t :: behind := by simp
  constructor
  case within =>
    intro e he
    obtain rfl | he := rest e he
    · have := h.within p hpmem
      have := h.within t htmem
      omega
    · exact h.within e he
  case apart =>
    intro k hk hkeep e he hne
    obtain rfl | hk' := rest k hk
    · exact absurd hkeep hma
    · obtain rfl | he := rest e he
      · have hpos := ha.pos k hk'
        have hkp := h.apart k hk' hkeep p hpmem hp
        have hkt := h.apart k hk' hkeep t htmem (hpt ▸ hp)
        unfold Edit.Before at *
        rw [Edit.oldLength_of_ne (e := k) (by simp [hkeep]),
          Edit.newLength_of_ne (e := k) (by simp [hkeep])] at *
        omega
      · exact h.apart k hk' hkeep e he hne

theorem index_eq_of_nodup (h : b.toList.Nodup) {k l : Nat} (hk : k < b.size) (hl : l < b.size)
    (hkl : b[k]? = b[l]?) : k = l := by
  rw [Array.getElem?_eq_getElem hk, Array.getElem?_eq_getElem hl, Option.some.injEq,
    ← Array.getElem_toList, ← Array.getElem_toList] at hkl
  exact h.getElem_inj_iff.1 hkl

/-- Without repeated lines nothing moves up over kept lines. -/
theorem commonBehind_of_nodup (hb : b.toList.Nodup) (hp : p.action = .keep)
    (h : Aligned a b x y (p :: t :: behind) i' j') (hj : j' ≤ b.size) :
    commonBehind a b p.old (p.old + p.length) t.new (t.new + t.newLength) = 0 := by
  by_contra hn
  have hle := commonBehind_le a b p.old (p.old + p.length) t.new (t.new + t.newLength)
  have hsame := same_commonBehind (a := a) (b := b) p.old (p.old + p.length) t.new
    (t.new + t.newLength)
  generalize commonBehind a b p.old (p.old + p.length) t.new (t.new + t.newLength) = n at *
  have hta : t.action ≠ .remove := fun e => hn (by rw [Edit.newLength_of_remove e] at hle; omega)
  have hend := h.2.2.le.2
  have htnew := h.2.1.new hta
  have hpnew := h.1.new (by simp [hp])
  rw [Edit.newLength_of_ne (e := p) (by simp [hp])] at hend htnew
  have hpos := h.1.pos
  have hlast := hsame (n - 1) (by omega)
  have hkept := h.1.same_places hp (p.length - 1) (by omega)
  rw [show p.old + p.length - n + (n - 1) = p.old + (p.length - 1) by omega, hkept] at hlast
  have := index_eq_of_nodup hb (by omega) (by omega) hlast
  omega

/-- Without repeated lines nothing moves down over kept lines. -/
theorem commonAhead_of_nodup (hb : b.toList.Nodup) (hp : p.action = .keep)
    (h : Aligned a b x y (t :: p :: behind) i' j') (hj : j' ≤ b.size) :
    commonAhead a b p.old (p.old + p.length) t.new (t.new + t.newLength) = 0 := by
  by_contra hn
  have hle := commonAhead_le a b p.old (p.old + p.length) t.new (t.new + t.newLength)
  have hsame := same_commonAhead (a := a) (b := b) p.old (p.old + p.length) t.new
    (t.new + t.newLength)
  generalize commonAhead a b p.old (p.old + p.length) t.new (t.new + t.newLength) = n at *
  have hta : t.action ≠ .remove := fun e => hn (by rw [Edit.newLength_of_remove e] at hle; omega)
  have hend := h.2.2.le.2
  have htnew := h.1.new hta
  have hpnew := h.2.1.new (by simp [hp])
  rw [Edit.newLength_of_ne (e := p) (by simp [hp])] at hend
  have hpos := h.2.1.pos
  have hfirst := hsame 0 (by omega)
  rw [h.2.1.same_places hp 0 (by omega)] at hfirst
  have := index_eq_of_nodup hb (by omega) (by omega) hfirst
  omega

end

/-! ## Moves -/

/-- The script with its edit put back. -/
def Held.edits (h : Held) : List Edit := h.before.reverse ++ h.this :: h.behind

theorem Held.edits_cons (p t : Edit) (before behind : List Edit) :
    Held.edits ⟨p :: before, t, behind⟩ = before.reverse ++ p :: t :: behind := by
  simp [edits]

/-- What tidying keeps. -/
structure Tidy (a b : Array Line) (es : List Edit) : Prop where
  aligned : Aligned a b 0 0 es a.size b.size
  framed : b.toList.Nodup → Framed a b es

/-- What moving the edit in hand keeps. -/
structure Held.Ready (a b : Array Line) (h : Held) : Prop extends Tidy a b h.edits where
  changes : h.this.action ≠ .keep

namespace Held.Ready
variable {before behind : List Edit} {p t : Edit}

theorem aligned_cons (h : Held.Ready a b ⟨p :: before, t, behind⟩) :
    Aligned a b 0 0 (before.reverse ++ p :: t :: behind) a.size b.size :=
  edits_cons p t before behind ▸ h.aligned

theorem framed_cons (h : Held.Ready a b ⟨p :: before, t, behind⟩) (hb : b.toList.Nodup) :
    Framed a b (before.reverse ++ p :: t :: behind) :=
  edits_cons p t before behind ▸ h.framed hb

theorem joinUp (h : Held.Ready a b ⟨p :: before, t, behind⟩) (hp : p.action ≠ .keep)
    (hpt : p.action = t.action) :
    Held.Ready a b ⟨before, { p with length := p.length + t.length }, behind⟩ where
  changes := hp
  aligned := h.aligned_cons.replace fun _ _ => .merge hpt
  framed hb := .merge hp hpt h.aligned_cons (h.framed_cons hb)

theorem joinDown (h : Held.Ready a b ⟨before, t, p :: behind⟩) (hpt : p.action = t.action) :
    Held.Ready a b ⟨before, { t with length := t.length + p.length }, behind⟩ where
  changes := h.changes
  aligned := h.aligned.replace fun _ _ => .merge hpt.symm
  framed hb := .merge h.changes hpt.symm h.aligned (h.framed hb)

theorem passUp (h : Held.Ready a b ⟨p :: before, t, behind⟩) (hp : p.action ≠ .keep)
    (hpt : p.action ≠ t.action) : Held.Ready a b ⟨before, t, p :: behind⟩ where
  changes := h.changes
  aligned := h.aligned_cons.replace fun _ _ => .swap hp h.changes hpt
  framed hb := (h.framed_cons hb).of_subset fun e he => by
    simp only [edits, List.mem_append, List.mem_cons] at he ⊢
    tauto

theorem passDown (h : Held.Ready a b ⟨before, t, p :: behind⟩) (hp : p.action ≠ .keep)
    (hpt : p.action ≠ t.action) : Held.Ready a b ⟨p :: before, t, behind⟩ where
  changes := h.changes
  aligned := edits_cons .. ▸ h.aligned.replace fun _ _ => .swap h.changes hp hpt.symm
  framed hb := (h.framed hb).of_subset fun e he => by
    rw [edits_cons] at he
    simp only [edits, List.mem_append, List.mem_cons] at he ⊢
    tauto

/-- Only added lines can be the same as kept ones beside them. -/
theorem adds (h : Held.Ready a b ⟨before, t, behind⟩) {n : Nat} (hle : n ≤ t.newLength)
    (hpos : 0 < n) : t.action = .add := by
  cases hta : t.action with
  | keep => exact absurd hta h.changes
  | remove => exact absurd (Edit.newLength_of_remove hta) (by omega)
  | add => rfl

theorem shorter_cons {action : Action} (h : action = .keep) (i j n : Nat) (es : List Edit) :
    (if n = 0 then es else ⟨action, i, j, n⟩ :: es) = edit .keep i j n ++ es := by
  unfold edit
  rw [h]
  split <;> rfl

theorem reverse_edit (action : Action) (i j n : Nat) :
    (edit action i j n).reverse = edit action i j n := by
  unfold edit
  split <;> rfl

theorem slideUp (h : Held.Ready a b ⟨p :: before, t, behind⟩) (hp : p.action = .keep) {n : Nat}
    (hn : n = commonBehind a b p.old (p.old + p.length) t.new (t.new + t.newLength))
    (hpos : 0 < n) :
    Held.Ready a b
      ⟨if p.length - n = 0 then before else { p with length := p.length - n } :: before,
      { t with old := t.old - n, new := t.new - n },
      keepFront ⟨.keep, p.old + p.length - n, t.new + t.newLength - n, n⟩ behind⟩ := by
  have hle := commonBehind_le a b p.old (p.old + p.length) t.new (t.new + t.newLength)
  have hsame := same_commonBehind (a := a) (b := b) p.old (p.old + p.length) t.new
    (t.new + t.newLength)
  rw [← hn] at hle hsame
  refine ⟨⟨?aligned, ?framed⟩, h.changes⟩
  case aligned =>
    have hta := h.adds (n := n) (by omega) hpos
    rw [edits, shorter_cons hp, List.reverse_append, reverse_edit, List.append_assoc]
    refine h.aligned_cons.replace fun _ _ hpt => ?_
    have moved := hpt.slideUp hp hta hpos (by omega) hsame
    exact moved.replace fun _ _ ht => ⟨ht.1, ht.2.keepFront rfl⟩
  case framed =>
    intro hb
    obtain ⟨_, _, -, hpt⟩ := Leads.append_iff.1 h.aligned_cons
    rw [commonBehind_of_nodup hb hp hpt (Nat.le_refl _)] at hn
    omega

theorem slideDown (h : Held.Ready a b ⟨before, t, p :: behind⟩) (hp : p.action = .keep) {n : Nat}
    (hn : n = commonAhead a b p.old (p.old + p.length) t.new (t.new + t.newLength))
    (hpos : 0 < n) :
    Held.Ready a b ⟨keepBack ⟨.keep, p.old, t.new, n⟩ before,
      { t with old := t.old + n, new := t.new + n },
      if p.length - n = 0 then behind
      else { p with old := p.old + n, new := p.new + n, length := p.length - n } :: behind⟩ := by
  have hle := commonAhead_le a b p.old (p.old + p.length) t.new (t.new + t.newLength)
  have hsame := same_commonAhead (a := a) (b := b) p.old (p.old + p.length) t.new
    (t.new + t.newLength)
  rw [← hn] at hle hsame
  refine ⟨⟨?aligned, ?framed⟩, h.changes⟩
  case aligned =>
    have hta := h.adds (n := n) (by omega) hpos
    rw [edits, shorter_cons hp]
    refine Leads.keepBack rfl (h.aligned.replace fun _ _ hpt => ?_)
    exact hpt.slideDown hp hta hpos (by omega) hsame
  case framed =>
    intro hb
    obtain ⟨_, _, -, hpt⟩ := Leads.append_iff.1 h.aligned
    rw [commonAhead_of_nodup hb hp hpt (Nat.le_refl _)] at hn
    omega

end Held.Ready

theorem moveUp_ready {fuel : Nat} {h : Held} (ht : h.Ready a b) :
    (moveUp a b fuel h).Ready a b := by
  fun_induction moveUp a b fuel h with
  | case1 | case2 | case5 => exact ht
  | case3 fuel h prev before hbefore hkeep n hn kept shorter ih =>
    obtain ⟨_, t, behind⟩ := h
    obtain rfl := hbefore
    exact ih (ht.slideUp hkeep rfl hn)
  | case4 fuel h prev before hbefore hkeep n hn hlen ih =>
    obtain ⟨_, t, behind⟩ := h
    obtain rfl := hbefore
    exact absurd hlen (Nat.ne_of_gt (ht.aligned_cons.pos prev (by simp)))
  | case6 fuel h prev before hbefore hkeep hsame ih =>
    obtain ⟨_, t, behind⟩ := h
    obtain rfl := hbefore
    exact ih (ht.joinUp hkeep hsame)
  | case7 fuel h prev before hbefore hkeep hne ih =>
    obtain ⟨_, t, behind⟩ := h
    obtain rfl := hbefore
    exact ih (ht.passUp hkeep hne)

theorem moveDown_ready {fuel : Nat} {h : Held} (ht : h.Ready a b) :
    (moveDown a b fuel h).Ready a b := by
  fun_induction moveDown a b fuel h with
  | case1 | case2 | case5 => exact ht
  | case3 fuel h next behind hbehind hkeep n hn shorter ih =>
    obtain ⟨before, t, _⟩ := h
    obtain rfl := hbehind
    exact ih (ht.slideDown hkeep rfl hn)
  | case4 fuel h next behind hbehind hkeep n hn hlen ih =>
    obtain ⟨before, t, _⟩ := h
    obtain rfl := hbehind
    exact absurd hlen (Nat.ne_of_gt (ht.aligned.pos next (by simp [Held.edits])))
  | case6 fuel h next behind hbehind hkeep hsame ih =>
    obtain ⟨before, t, _⟩ := h
    obtain rfl := hbehind
    exact ih (ht.joinDown hsame)
  | case7 fuel h next behind hbehind hkeep hne ih =>
    obtain ⟨before, t, _⟩ := h
    obtain rfl := hbehind
    exact ih (ht.passDown hkeep hne)

/-! ## Whole scripts -/

theorem moveAll_tidy {action : Action} (hact : action ≠ .keep) {fuel : Nat}
    {before behind : List Edit} (h : Tidy a b (before.reverse ++ behind)) :
    Tidy a b (moveAll a b action fuel before behind) := by
  fun_induction moveAll a b action fuel before behind with
  | case1 before behind => exact h
  | case2 fuel before => simpa using h
  | case3 fuel before e behind he held held' ih =>
    have hready : held'.Ready a b := moveDown_ready (moveUp_ready ⟨h, he ▸ hact⟩)
    refine ih ?_
    rw [List.reverse_cons, List.append_assoc]
    exact hready.toTidy
  | case4 fuel before e behind he ih =>
    refine ih ?_
    rw [List.reverse_cons, List.append_assoc]
    exact h

/-- A tidied script leads from one text to the other. -/
theorem compact_tidy (a b : Array Line) : Tidy a b (compact a b (script a b)) :=
  moveAll_tidy (by decide)
    (moveAll_tidy (by decide) ⟨script_aligned a b, fun _ => script_framed a b⟩)

end Stencil.Diff
