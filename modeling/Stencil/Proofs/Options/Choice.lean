import Stencil.Options.Choice

/-!
# Values and their spellings

The values of a choice have plain spellings, each one of its own (`LawfulChoice`). So a value is
read from exactly the texts that are its spelling in plain form (`parse_eq_ok_iff`).
-/
namespace Stencil

/-- Whether a choice lists all its values, with plain spellings that tell them apart. -/
class LawfulChoice (α : Type) [Choice α] : Prop where
  mem_all (a : α) : a ∈ (Choice.all : List α)
  text_injective {a b : α} : Choice.text a = Choice.text b → a = b
  plainWord_text (a : α) : plainWord (Choice.text a) = Choice.text a

instance : LawfulChoice Database where
  mem_all a := by cases a <;> decide
  text_injective {a b} h := by cases a <;> cases b <;> first | rfl | exact absurd h (by decide)
  plainWord_text a := by cases a <;> decide +kernel

instance : LawfulChoice Messaging where
  mem_all a := by cases a <;> decide
  text_injective {a b} h := by cases a <;> cases b <;> first | rfl | exact absurd h (by decide)
  plainWord_text a := by cases a <;> decide +kernel

instance : LawfulChoice Auth where
  mem_all a := by cases a <;> decide
  text_injective {a b} h := by cases a <;> cases b <;> first | rfl | exact absurd h (by decide)
  plainWord_text a := by cases a <;> decide +kernel

instance : LawfulChoice Crud where
  mem_all a := by cases a <;> decide
  text_injective {a b} h := by cases a <;> cases b <;> first | rfl | exact absurd h (by decide)
  plainWord_text a := by cases a <;> decide +kernel

instance : LawfulChoice Operation where
  mem_all a := by cases a <;> decide
  text_injective {a b} h := by cases a <;> cases b <;> first | rfl | exact absurd h (by decide)
  plainWord_text a := by cases a <;> decide +kernel

namespace Choice
variable {α : Type} [Choice α]

/-- No value is read from a text that is the spelling of none. -/
theorem parse_eq_error {s : String} (h : ∀ a : α, plainWord s ≠ text a) :
    (parse s : Except Failure α) = .error
      (.invalidOptions (option α) (.unknownValue (plainWord s) ((all : List α).map text))) := by
  have missing : (all : List α).find? (fun v => text v == plainWord s) = none := by
    refine List.find?_eq_none.2 fun a _ ha => h a ?_
    exact (beq_iff_eq.1 ha).symm
  rw [parse, missing]

variable [LawfulChoice α]

/-- A value is read from the texts that are its spelling, up to case and blanks around it. -/
theorem parse_eq_ok_iff {s : String} {a : α} : parse s = .ok a ↔ plainWord s = text a := by
  unfold parse
  split
  · rename_i found hfound
    have hs : text found = plainWord s := by simpa using List.find?_some hfound
    rw [Except.ok.injEq]
    constructor
    · rintro rfl
      exact hs.symm
    · intro h
      exact LawfulChoice.text_injective (hs.trans h)
  · rename_i missing
    constructor
    · intro h
      cases h
    · intro h
      have := List.find?_eq_none.1 missing a (LawfulChoice.mem_all a)
      exact absurd (by simpa using h.symm) this

/-- The spelling of a value is read as the value. -/
theorem parse_text (a : α) : parse (text a) = .ok a :=
  parse_eq_ok_iff.2 (LawfulChoice.plainWord_text a)

end Choice
end Stencil
