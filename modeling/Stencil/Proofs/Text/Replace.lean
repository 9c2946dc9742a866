import Mathlib.Data.List.Infix
import Stencil.Proofs.Text.Strip

/-!
# Replacing in texts

`replaceFirst` replaces the first occurrence of a text and no other (`replaceFirst_replaces`), and
`endsWith` asks for a suffix.
-/
namespace Stencil.Text

theorem endsWith_iff {tail cs : List Char} : endsWith tail cs ↔ tail <:+ cs := by
  rw [endsWith, Option.isSome_iff_exists, ← List.reverse_prefix]
  simp only [afterStart_eq_some_iff]
  exact exists_congr fun _ => eq_comm

/-- Whether `result` is `cs` with the first occurrence of `old` replaced by `new`, or `cs` itself if
`old` does not occur. -/
def Replaces (old new cs result : List Char) : Prop :=
  (¬ old <:+: cs ∧ result = cs) ∨
    ∃ before after, cs = before ++ old ++ after ∧ result = before ++ new ++ after ∧
      ∀ before' after', cs = before' ++ old ++ after' → before.length ≤ before'.length

variable {old new : List Char}

theorem replaceFirst_replaces (hold : old ≠ []) (new cs : List Char) :
    Replaces old new cs (replaceFirst old new cs) := by
  induction cs with
  | nil =>
    have hempty : old.isEmpty = false := List.isEmpty_eq_false_iff.2 hold
    refine .inl ⟨fun h => hold (List.infix_nil.1 h), ?_⟩
    simp [replaceFirst, hempty]
  | cons c rest ih =>
    rw [replaceFirst]
    cases hstart : afterStart old (c :: rest) with
    | some after =>
      refine .inr ⟨[], after, afterStart_eq_some_iff.1 hstart, rfl, fun _ _ _ => Nat.zero_le _⟩
    | none =>
      have hfront : ∀ after, c :: rest ≠ old ++ after := fun after h => by
        rw [afterStart_eq_some_iff.2 h] at hstart
        cases hstart
      rcases ih with ⟨hnone, hsame⟩ | ⟨before, after, hcs, hresult, first⟩
      · refine .inl ⟨fun h => ?_, congrArg (c :: ·) hsame⟩
        rcases List.infix_cons_iff.1 h with ⟨after, h⟩ | h
        · exact hfront after h.symm
        · exact hnone h
      · refine .inr ⟨c :: before, after, congrArg (c :: ·) hcs, congrArg (c :: ·) hresult,
          fun before' after' h => ?_⟩
        cases before' with
        | nil => exact absurd h (hfront after')
        | cons c' before' =>
          exact Nat.succ_le_succ (first before' after' (List.cons.inj h).2)

/-- There is only one first occurrence. -/
theorem Replaces.unique {cs result result' : List Char} (h : Replaces old new cs result)
    (h' : Replaces old new cs result') : result = result' := by
  rcases h with ⟨hnone, rfl⟩ | ⟨before, after, hcs, rfl, first⟩
  · rcases h' with ⟨-, rfl⟩ | ⟨before', after', hcs', -, -⟩
    · rfl
    · exact absurd ⟨before', after', hcs'.symm⟩ hnone
  · rcases h' with ⟨hnone, -⟩ | ⟨before', after', hcs', rfl, first'⟩
    · exact absurd ⟨before, after, hcs.symm⟩ hnone
    · have hlength : before.length = before'.length :=
        Nat.le_antisymm (first _ _ hcs') (first' _ _ hcs)
      rw [hcs', List.append_assoc, List.append_assoc] at hcs
      obtain ⟨rfl, hrest⟩ := List.append_inj hcs.symm hlength
      rw [List.append_cancel_left hrest]

theorem replaces_iff (hold : old ≠ []) {cs result : List Char} :
    Replaces old new cs result ↔ result = replaceFirst old new cs := by
  constructor
  · exact fun h => h.unique (replaceFirst_replaces hold new cs)
  · rintro rfl
    exact replaceFirst_replaces hold new cs

/-- What is written in place of a text that occurs stands in the result. -/
theorem Replaces.subset {cs result : List Char} (h : Replaces old new cs result) :
    result ⊆ cs ++ new := by
  rcases h with ⟨-, rfl⟩ | ⟨before, after, rfl, rfl, -⟩
  · exact List.subset_append_left ..
  · intro c hc
    simp only [List.mem_append] at hc ⊢
    tauto

/-- A text is left as it is, or what is written in place of the other one stands in it. -/
theorem Replaces.eq_or_subset {cs result : List Char} (h : Replaces old new cs result) :
    result = cs ∨ new ⊆ result := by
  rcases h with ⟨-, rfl⟩ | ⟨before, after, -, rfl, -⟩
  · exact .inl rfl
  · exact .inr fun c hc => by simp [hc]

end Stencil.Text
