import Stencil.Proofs.Diff.Unified
import Stencil.Proofs.Preview.Available

/-!
# What the difference in a plan tells

A plan holds a difference for each staged file that takes the place of other text
(`plan_explains`). Where all line ends have a line feed, the difference is read as a unified diff
whose rows turn the old text into the new one; and exactly where the changes are anchored at both
ends of the texts, it applies to the old text and gives the new one. Neither condition can be left
out (`plan_misleads`).
-/
namespace Stencil
open Disk Diff

/-- The planned write has a difference that applies to the text `old` and gives `new`. -/
def Applies (path old new : String) (w : PlannedWrite) : Prop :=
  ∃ text hunks, w.diff = some text ∧
    Patch.read ("a/" ++ path) ("b/" ++ path) text = some hunks ∧ Patch.apply hunks old = some new

/-- What a planned write tells of the text `old` that `new` takes the place of. -/
structure Explains (path old new : String) (w : PlannedWrite) : Prop where
  none_iff : w.diff = none ↔ old = new
  rewrites : old ≠ new → FeedEnded old → FeedEnded new → ∃ text hunks, w.diff = some text ∧
    Patch.read ("a/" ++ path) ("b/" ++ path) text = some hunks ∧
      Patch.Rewrites hunks (lines old.toList) (lines new.toList)
  applies_iff : old ≠ new → FeedEnded old → FeedEnded new →
    (Applies path old new w ↔ Anchored old new)

theorem explains_ofTexts (path old new : String) :
    Explains path old new (.ofTexts path old new) := by
  unfold PlannedWrite.ofTexts
  split
  · rename_i h
    exact ⟨iff_of_true rfl h, absurd h, absurd h⟩
  · rename_i h
    refine ⟨iff_of_false nofun h, fun _ hold hnew => ?_, fun _ hold hnew => ?_⟩
    · exact ⟨_, _, rfl, read_unified hold hnew h _ _, rewrites_hunksOf old new⟩
    · have hread := read_unified hold hnew h ("a/" ++ path) ("b/" ++ path)
      constructor
      · rintro ⟨text, hunks, htext, hread', happly⟩
        obtain rfl := Option.some.inj htext
        obtain rfl := Option.some.inj (hread.symm.trans hread')
        exact (apply_hunksOf hold).1 happly
      · exact fun anchored => ⟨_, _, rfl, hread, (apply_hunksOf hold).2 anchored⟩

theorem Plans.eq_ofTexts {d : Disk} {root : Route} {path old new : String} {w : PlannedWrite}
    (h : Plans d root path new w) (found : d.find (root.join path) = .ok (.file old.toUTF8)) :
    w = .ofTexts path old new := by
  cases h with
  | absent nothing => exact absurd ((kind?_eq_some_iff _ _ _).2 ⟨_, found, rfl⟩) nothing
  | @present old' found' =>
    rw [found'] at found
    obtain rfl : old' = old := String.toByteArray_inj.1 (by simpa using found)
    rfl

/-- **The difference in a plan** tells what changes at each staged path where there is a text.
Without mishaps there is a plan if all files at staged paths are texts. -/
theorem plan_explains (s : Staging) (root : Route) (d : Disk) :
    (∀ ws d', d.attempt (s.plan root) = (.ok ws, d') →
      List.Forall₂ (fun e w => w.path = e.1 ∧
        ∀ old, d.find (root.join e.1) = .ok (.file old.toUTF8) → Explains e.1 old e.2 w)
        s.entries ws) ∧
    (d.mishap = none → (∀ path ∈ s.paths, d.HoldsText (root.join path)) →
      ∃ ws, d.attempt (s.plan root) = (.ok ws, d)) := by
  constructor
  · intro ws d' h
    refine (ofFiles_ok h).imp fun e w plan => ⟨plan.path_eq, fun old found => ?_⟩
    rw [plan.eq_ofTexts found]
    exact explains_ofTexts e.1 old e.2
  · intro quiet texts
    exact ofFiles_available quiet fun e he => texts e.1 (List.mem_map_of_mem he)

/-- A disk with one file `f`. -/
def textDisk (text : String) : Disk :=
  { tree := FileTree.empty.put ["f"] (.file text.toUTF8), here := [], admits := isCommonName
    mishap := none }

theorem textDisk_found (text : String) :
    (textDisk text).find ((Route.parse ".").join "f") = .ok (.file text.toUTF8) := rfl

theorem textDisk_holdsText (text : String) :
    (textDisk text).HoldsText ((Route.parse ".").join "f") := by
  intro bytes hfind
  rw [textDisk_found] at hfind
  cases hfind
  exact String.isValidUTF8 text

/-- A difference that applies: a line goes, and the last one loses its end. -/
theorem textDisk_explained : ∃ w,
    (textDisk "a\nb\nc\n").attempt ((Staging.oneFile "f" "a\nc").plan (Route.parse ".")) =
      (.ok [w], textDisk "a\nb\nc\n") ∧ Applies "f" "a\nb\nc\n" "a\nc" w := by
  obtain ⟨explained, available⟩ :=
    plan_explains (.oneFile "f" "a\nc") (Route.parse ".") (textDisk "a\nb\nc\n")
  obtain ⟨ws, hws⟩ := available rfl (List.forall_mem_singleton.2 (textDisk_holdsText _))
  obtain ⟨w, _, ⟨-, hw⟩, ⟨⟩, rfl⟩ := List.forall₂_cons_left_iff.1 (explained ws _ hws)
  refine ⟨w, hws, ((hw _ (textDisk_found _)).applies_iff ?_ ?_ ?_).2 (anchored_of_nodup ?_ _)⟩
  all_goals decide +kernel

/-- The plan for the file `f` with other text. -/
theorem textDisk_plan (old new : String) :
    (textDisk old).attempt ((Staging.oneFile "f" new).plan (Route.parse ".")) =
      (.ok [.ofTexts "f" old new], textDisk old) := by
  obtain ⟨ws, hws⟩ : ∃ ws, (textDisk old).attempt
      ((Staging.oneFile "f" new).plan (Route.parse ".")) = (.ok ws, textDisk old) :=
    ofFiles_available rfl (List.forall_mem_singleton.2 (textDisk_holdsText old))
  obtain ⟨w, _, plan, ⟨⟩, rfl⟩ := List.forall₂_cons_left_iff.1 (ofFiles_ok hws)
  rwa [plan.eq_ofTexts (textDisk_found old)] at hws

theorem not_applies {path old new : String} (h : old ≠ new)
    (hnone : (Patch.read ("a/" ++ path) ("b/" ++ path)
      (unified ("a/" ++ path) ("b/" ++ path) old new)).bind (Patch.apply · old) = none) :
    ¬ Applies path old new (.ofTexts path old new) := by
  rintro ⟨text, hunks, htext, hread, happly⟩
  rw [PlannedWrite.ofTexts, if_neg h] at htext
  obtain rfl := Option.some.inj htext
  rw [hread, Option.bind_some, happly] at hnone
  cases hnone

/-- A difference need not apply, whether the texts have other line ends than line feeds or changes
that are not anchored: where a line is removed above one that comes to stand twice, the header
gives the place of the removal wrong. -/
theorem plan_misleads :
    (¬ ∀ (d : Disk) (s : Staging) (root : Route) (path old new : String) (ws : List PlannedWrite),
      d.attempt (s.plan root) = (.ok ws, d) → s.get? path = some new →
        d.find (root.join path) = .ok (.file old.toUTF8) → FeedEnded old → FeedEnded new →
          ∀ w ∈ ws, w.path = path → (w.diff = none ↔ old = new) ∧
            (old ≠ new → Applies path old new w)) ∧
    ¬ ∀ (d : Disk) (s : Staging) (root : Route) (path old new : String) (ws : List PlannedWrite),
      d.attempt (s.plan root) = (.ok ws, d) → s.get? path = some new →
        d.find (root.join path) = .ok (.file old.toUTF8) → Anchored old new →
          ∀ w ∈ ws, w.path = path → (w.diff = none ↔ old = new) ∧
            (old ≠ new → Applies path old new w) := by
  constructor <;> intro claim
  · have applies := claim _ _ _ "f" "b\na\n" "a\na\n" _ (textDisk_plan _ _) rfl (textDisk_found _)
      (by decide +kernel) (by decide +kernel) _ List.mem_cons_self rfl
    exact not_applies (by decide) (by decide +kernel) (applies.2 (by decide))
  · have applies := claim _ _ _ "f" "a\rb\n" "a\rc\n" _ (textDisk_plan _ _) rfl (textDisk_found _)
      (anchored_of_nodup (by decide +kernel) _) _ List.mem_cons_self rfl
    exact not_applies (by decide) (by decide +kernel) (applies.2 (by decide))

end Stencil
