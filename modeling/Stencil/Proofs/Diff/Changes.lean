import Mathlib.Data.List.Chain
import Stencil.Diff.Unified
import Stencil.Proofs.Diff.Compact

/-!
# Changes lead from one text to the other

Kept lines make changes of their own, and so does what stands between them. `changes_follow`: these
changes lead from one text to the other. A change that has no lines of a text may have a wrong place
in it, but not if the new text repeats no line. Neighbouring changes are never both kept or both
replaced lines (`changes_alternate`).
-/
namespace Stencil.Diff
variable {a b : Array Line} {E : Prop}

/-! ## Changes in their places -/

/-- The change can stand at line `i` of the old text and line `j` of the new one: the lines that it
has begin there. If `E`, it has no wrong place even in a text of which it has no lines. -/
structure Change.At (a b : Array Line) (E : Prop) (i j : Nat) (c : Change) : Prop where
  pos : 0 < c.oldLength + c.newLength
  old : 0 < c.oldLength ∨ E → c.old = i
  new : 0 < c.newLength ∨ E → c.new = j
  same : c.same → c.newLength = c.oldLength ∧ Same a b i j c.oldLength

/-- The changes lead through the texts. -/
abbrev Follow (a b : Array Line) (E : Prop) : Nat → Nat → List Change → Nat → Nat → Prop :=
  Leads (Change.At a b E) Change.oldLength Change.newLength

/-- The place lies within the texts, and before or behind all kept lines. -/
structure Free (a b : Array Line) (script : List Edit) (i j : Nat) : Prop where
  within : i ≤ a.size ∧ j ≤ b.size
  apart : ∀ k ∈ script, k.action = .keep →
    i ≤ k.old ∧ j ≤ k.new ∨ k.old + k.length ≤ i ∧ k.new + k.length ≤ j

theorem Framed.free {script : List Edit} (h : Framed a b script) {e : Edit} (he : e ∈ script)
    (hne : e.action ≠ .keep) : Free a b script e.old e.new := by
  have hwithin := h.within e he
  refine ⟨by omega, fun k hk hkeep => ?_⟩
  have hapart := h.apart k hk hkeep e he hne
  unfold Edit.Before at hapart
  rw [Edit.oldLength_of_ne (e := k) (by simp [hkeep]),
    Edit.newLength_of_ne (e := k) (by simp [hkeep])] at hapart
  omega

/-- Kept lines end at these lines, or the texts begin there. -/
def Opens (a b : Array Line) (script : List Edit) (i j : Nat) : Prop :=
  ∀ p q, Free a b script p q → (i ≤ p ↔ j ≤ q)

/-- Kept lines begin at these lines, or the texts end there. -/
def Closes (a b : Array Line) (script : List Edit) (i j : Nat) : Prop :=
  ∀ p q, Free a b script p q → (p ≤ i ↔ q ≤ j)

section
variable {script : List Edit} {k : Edit} {i j : Nat}

theorem opens_start : Opens a b script 0 0 := fun _ _ _ => by simp

theorem closes_end : Closes a b script a.size b.size := fun _ _ h => by simp [h.within]

theorem opens_of_keep (hk : k ∈ script) (hkeep : k.action = .keep) (stands : k.At a b i j) :
    Opens a b script (i + k.length) (j + k.length) := by
  intro p q h
  have hpos := stands.pos
  have hold := stands.old (by simp [hkeep])
  have hnew := stands.new (by simp [hkeep])
  have := h.apart k hk hkeep
  omega

theorem closes_of_keep (hk : k ∈ script) (hkeep : k.action = .keep) (stands : k.At a b i j) :
    Closes a b script i j := by
  intro p q h
  have hpos := stands.pos
  have hold := stands.old (by simp [hkeep])
  have hnew := stands.new (by simp [hkeep])
  have := h.apart k hk hkeep
  omega

end

/-! ## From edits to changes -/

theorem elim_joinEdit (o : Option Edit) (e : Edit) :
    (joinEdit o e).elim 0 Edit.length = o.elim 0 Edit.length + e.length := by
  cases o with
  | none => exact (Nat.zero_add e.length).symm
  | some s => rfl

/-- What does not change with the length holds of a joined edit as of its first part. -/
theorem joinEdit_holds {P : Edit → Prop}
    (moved : ∀ s n, P s → P { s with length := s.length + n }) {o : Option Edit} {e : Edit}
    (ho : ∀ s ∈ o, P s) (first : o = none → P e) : ∀ s ∈ joinEdit o e, P s := by
  cases o with
  | none =>
    rintro s ⟨⟩
    exact first rfl
  | some r =>
    rintro s ⟨⟩
    exact moved r e.length (ho r rfl)

/-- The edit at hand leads through the texts, or the pending ones do. -/
inductive AtHand (a b : Array Line) (E : Prop) (script : List Edit) (i j : Nat) :
    Option Edit → Pending → Nat → Nat → Prop
  | kept {k : Edit} (stands : k.At a b i j) (keep : k.action = .keep)
      (opens : E → Opens a b script (i + k.length) (j + k.length)) :
      AtHand a b E script i j (some k) ⟨none, none⟩ (i + k.length) (j + k.length)
  | pending {p : Pending} (removed : ∀ r ∈ p.removed, 0 < r.length ∧ r.old = i)
      (added : ∀ r ∈ p.added, 0 < r.length ∧ r.new = j) (opens : E → Opens a b script i j)
      (free : E → ∀ r, r ∈ p.removed ∨ r ∈ p.added → Free a b script r.old r.new) :
      AtHand a b E script i j none p (i + p.removed.elim 0 Edit.length)
        (j + p.added.elim 0 Edit.length)

namespace AtHand
variable {script : List Edit} {i j x y : Nat} {kept : Option Edit} {p : Pending} {e : Edit}

theorem follow_kept {k : Edit} (stands : k.At a b i j) (keep : k.action = .keep) :
    Follow a b E i j (changesFrom.keptChange (some k)) (i + k.length) (j + k.length) :=
  ⟨⟨Nat.add_pos_left stands.pos _, fun _ => stands.old (by simp [keep]),
    fun _ => stands.new (by simp [keep]), fun _ => ⟨rfl, stands.same keep⟩⟩, rfl, rfl⟩

theorem follow_pending (removed : ∀ r ∈ p.removed, 0 < r.length ∧ r.old = i)
    (added : ∀ r ∈ p.added, 0 < r.length ∧ r.new = j) (opens : E → Opens a b script i j)
    (free : E → ∀ r, r ∈ p.removed ∨ r ∈ p.added → Free a b script r.old r.new)
    (closes : E → Closes a b script (i + p.removed.elim 0 Edit.length)
      (j + p.added.elim 0 Edit.length)) :
    Follow a b E i j p.changes (i + p.removed.elim 0 Edit.length)
      (j + p.added.elim 0 Edit.length) := by
  obtain ⟨_ | r, _ | s⟩ := p
  · exact ⟨rfl, rfl⟩
  · obtain ⟨hpos, hnew⟩ := added s rfl
    refine ⟨⟨Nat.add_pos_right _ hpos, fun h => ?_, fun _ => hnew, nofun⟩, rfl, rfl⟩
    have hE := h.resolve_left (Nat.lt_irrefl 0)
    have := opens hE _ _ (free hE s (.inr rfl))
    have := closes hE _ _ (free hE s (.inr rfl))
    simp only [Option.elim] at this ⊢
    omega
  · obtain ⟨hpos, hold⟩ := removed r rfl
    refine ⟨⟨Nat.add_pos_left hpos _, fun _ => hold, fun h => ?_, nofun⟩, rfl, rfl⟩
    have hE := h.resolve_left (Nat.lt_irrefl 0)
    have := opens hE _ _ (free hE r (.inl rfl))
    have := closes hE _ _ (free hE r (.inl rfl))
    simp only [Option.elim] at this ⊢
    omega
  · obtain ⟨hpos, hold⟩ := removed r rfl
    obtain ⟨-, hnew⟩ := added s rfl
    exact ⟨⟨Nat.add_pos_left hpos _, fun _ => hold, fun _ => hnew, nofun⟩, rfl, rfl⟩

theorem follow (h : AtHand a b E script i j kept p x y) (closes : E → Closes a b script x y) :
    Follow a b E i j (changesFrom.keptChange kept ++ p.changes) x y := by
  cases h with
  | kept stands keep => exact follow_kept stands keep
  | pending removed added opens free => exact follow_pending removed added opens free closes

theorem keep (h : AtHand a b E script i j kept p x y) (he : e.At a b x y) (hkeep : e.action = .keep)
    (hmem : e ∈ script) :
    ∃ x' y', Follow a b E i j p.changes x' y' ∧
      AtHand a b E script x' y' (joinEdit kept e) ⟨none, none⟩ (x + e.length) (y + e.length) := by
  have opens' := opens_of_keep hmem hkeep he
  cases h with
  | @kept k stands keep =>
    refine ⟨i, j, ⟨rfl, rfl⟩, ?_⟩
    rw [Nat.add_assoc, Nat.add_assoc] at opens' ⊢
    exact .kept ⟨Nat.add_pos_left stands.pos _, stands.old, stands.new,
      fun _ => (stands.same keep).append (he.same hkeep)⟩ keep fun _ => opens'
  | pending removed added opens free =>
    have closes := closes_of_keep hmem hkeep he
    exact ⟨_, _, follow_pending removed added opens free fun _ => closes,
      .kept he hkeep fun _ => opens'⟩

/-- The kept lines at hand become a change, and the pending edits follow behind it. -/
theorem flush (h : AtHand a b E script i j kept p x y) :
    ∃ x' y', Follow a b E i j (changesFrom.keptChange kept) x' y' ∧
      AtHand a b E script x' y' none p x y := by
  cases h with
  | kept stands keep opens =>
    exact ⟨_, _, follow_kept stands keep, .pending nofun nofun opens fun _ _ h => by simp at h⟩
  | pending removed added opens free =>
    exact ⟨i, j, ⟨rfl, rfl⟩, .pending removed added opens free⟩

theorem remove (h : AtHand a b E script i j none p x y) (he : e.At a b x y)
    (hremove : e.action = .remove) (hfree : E → Free a b script e.old e.new) :
    AtHand a b E script i j none { p with removed := joinEdit p.removed e } (x + e.length) y := by
  have hold := he.old (by simp [hremove])
  cases h with
  | pending removed added opens free =>
    rw [Nat.add_assoc, ← elim_joinEdit]
    refine .pending (joinEdit_holds ?moved removed ?first) added opens ?free
    case moved => exact fun r n hr => ⟨Nat.add_pos_left hr.1 n, hr.2⟩
    case first => exact fun hnone => ⟨he.pos, by rw [hold, hnone]; rfl⟩
    case free =>
      rintro hE r (hr | hr)
      · exact joinEdit_holds (fun _ _ h => h) (fun s hs => free hE s (.inl hs))
          (fun _ => hfree hE) r hr
      · exact free hE r (.inr hr)

theorem add (h : AtHand a b E script i j none p x y) (he : e.At a b x y) (hadd : e.action = .add)
    (hfree : E → Free a b script e.old e.new) :
    AtHand a b E script i j none { p with added := joinEdit p.added e } x (y + e.length) := by
  have hnew := he.new (by simp [hadd])
  cases h with
  | pending removed added opens free =>
    rw [Nat.add_assoc, ← elim_joinEdit]
    refine .pending removed (joinEdit_holds ?moved added ?first) opens ?free
    case moved => exact fun r n hr => ⟨Nat.add_pos_left hr.1 n, hr.2⟩
    case first => exact fun hnone => ⟨he.pos, by rw [hnew, hnone]; rfl⟩
    case free =>
      rintro hE r (hr | hr)
      · exact free hE r (.inl hr)
      · exact joinEdit_holds (fun _ _ h => h) (fun s hs => free hE s (.inr hs))
          (fun _ => hfree hE) r hr

end AtHand

theorem changesFrom_follow {script : List Edit} (framed : E → Framed a b script)
    {i j x y : Nat} {kept : Option Edit} {p : Pending} {es : List Edit} (hsub : es ⊆ script)
    (h : AtHand a b E script i j kept p x y) (hes : Aligned a b x y es a.size b.size) :
    Follow a b E i j (changesFrom kept p es) a.size b.size := by
  induction es generalizing i j x y kept p with
  | nil =>
    obtain ⟨rfl, rfl⟩ := hes
    exact h.follow fun _ => closes_end
  | cons e es ih =>
    obtain ⟨he, hes⟩ := hes
    obtain ⟨hmem, hsub⟩ := List.cons_subset.1 hsub
    unfold changesFrom
    split
    · rename_i hact
      rw [Edit.oldLength_of_ne (by simp [hact]), Edit.newLength_of_ne (by simp [hact])] at hes
      obtain ⟨x', y', hp, hkept⟩ := h.keep he hact hmem
      exact hp.append (ih hsub hkept hes)
    · rename_i hact
      have hfree := fun hE => (framed hE).free hmem (by simp [hact])
      rw [Edit.oldLength_of_ne (by simp [hact]), Edit.newLength_of_remove hact] at hes
      obtain ⟨x', y', hkept, hp⟩ := h.flush
      exact hkept.append (ih hsub (hp.remove he hact hfree) hes)
    · rename_i hact
      have hfree := fun hE => (framed hE).free hmem (by simp [hact])
      rw [Edit.oldLength_of_add hact, Edit.newLength_of_ne (by simp [hact])] at hes
      obtain ⟨x', y', hkept, hp⟩ := h.flush
      exact hkept.append (ih hsub (hp.add he hact hfree) hes)

def changesOf (a b : Array Line) : List Change := changes (compact a b (script a b))

/-- The changes lead from one text to the other, and no place is wrong if the new text repeats no
line. -/
theorem changesOf_follow (hE : E → b.toList.Nodup) :
    Follow a b E 0 0 (changesOf a b) a.size b.size :=
  changesFrom_follow (fun h => (compact_tidy a b).framed (hE h)) (List.Subset.refl _)
    (.pending nofun nofun (fun _ => opens_start) fun _ _ h => by simp at h)
    (compact_tidy a b).aligned

/-! ## Alternation -/

/-- Kept and replaced lines take turns. -/
def Alternate (cs : List Change) : Prop := (cs.map Change.same).IsChain (· ≠ ·)

/-- If there is a first change, it is of this kind. -/
def Begins (same : Bool) (cs : List Change) : Prop := ∀ c ∈ cs.head?, c.same = same

/-- There is no change if `P`, and else one, of this kind. -/
def OneUnless (P : Prop) (same : Bool) (cs : List Change) : Prop :=
  P ∧ cs = [] ∨ ¬ P ∧ ∃ c, c.same = same ∧ cs = [c]

namespace OneUnless
variable {P : Prop} {same : Bool} {front cs : List Change}

theorem alternate (h : OneUnless P same cs) : Alternate cs ∧ Begins same cs := by
  obtain ⟨-, rfl⟩ | ⟨-, c, rfl, rfl⟩ := h
  · exact ⟨.nil, nofun⟩
  · exact ⟨.singleton _, fun d hd => by cases hd; rfl⟩

theorem append (h : OneUnless P same front) (hcs : Alternate cs) (hb : Begins (!same) cs) :
    Alternate (front ++ cs) ∧ (¬ P → Begins same (front ++ cs)) ∧
      (P → Begins (!same) (front ++ cs)) := by
  obtain ⟨hP, rfl⟩ | ⟨hP, c, rfl, rfl⟩ := h
  · exact ⟨hcs, absurd hP, fun _ => hb⟩
  · refine ⟨List.isChain_cons.2 ⟨fun s hs => ?_, hcs⟩, fun _ => ?_, fun h => absurd h hP⟩
    · rw [List.head?_map] at hs
      obtain ⟨d, hd, rfl⟩ := Option.map_eq_some_iff.1 hs
      rw [hb d hd]
      cases c.same <;> decide
    · rintro d ⟨⟩
      rfl

end OneUnless

theorem keptChange_one (kept : Option Edit) :
    OneUnless (kept = none) true (changesFrom.keptChange kept) := by
  cases kept with
  | none => exact .inl ⟨rfl, rfl⟩
  | some k => exact .inr ⟨by simp, _, rfl, rfl⟩

theorem pending_one (p : Pending) : OneUnless (p = ⟨none, none⟩) false p.changes := by
  obtain ⟨_ | r, _ | s⟩ := p
  · exact .inl ⟨rfl, rfl⟩
  all_goals exact .inr ⟨by simp, _, rfl, rfl⟩

theorem joinEdit_ne_none (o : Option Edit) (e : Edit) : joinEdit o e ≠ none := by
  cases o <;> simp [joinEdit]

theorem changesFrom_alternate {kept : Option Edit} {p : Pending} {es : List Edit}
    (h : kept = none ∨ p = ⟨none, none⟩) :
    Alternate (changesFrom kept p es) ∧ (kept ≠ none → Begins true (changesFrom kept p es)) ∧
      (p ≠ ⟨none, none⟩ → Begins false (changesFrom kept p es)) := by
  induction es generalizing kept p with
  | nil =>
    obtain ⟨halt, hb⟩ := (pending_one p).alternate
    obtain ⟨halt, hb, hb'⟩ := (keptChange_one kept).append halt hb
    exact ⟨halt, hb, fun hp => hb' (h.resolve_right hp)⟩
  | cons e es ih =>
    unfold changesFrom
    split
    · obtain ⟨halt, hb, -⟩ := ih (.inr rfl)
      obtain ⟨halt, hb, hb'⟩ := (pending_one p).append halt (hb (joinEdit_ne_none kept e))
      exact ⟨halt, fun hk => hb' (h.resolve_left hk), hb⟩
    · obtain ⟨halt, -, hb⟩ := ih (p := { p with removed := joinEdit p.removed e }) (.inl rfl)
      obtain ⟨halt, hb, hb'⟩ :=
        (keptChange_one kept).append halt (hb (by simp [joinEdit_ne_none]))
      exact ⟨halt, hb, fun hp => hb' (h.resolve_right hp)⟩
    · obtain ⟨halt, -, hb⟩ := ih (p := { p with added := joinEdit p.added e }) (.inl rfl)
      obtain ⟨halt, hb, hb'⟩ :=
        (keptChange_one kept).append halt (hb (by simp [joinEdit_ne_none]))
      exact ⟨halt, hb, fun hp => hb' (h.resolve_right hp)⟩

theorem changesOf_alternate (a b : Array Line) : Alternate (changesOf a b) :=
  (changesFrom_alternate (.inl rfl)).1

end Stencil.Diff
