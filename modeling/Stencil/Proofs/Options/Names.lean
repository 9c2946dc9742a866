import Stencil.Options.Normalized
import Stencil.Proofs.Identifier.Words
import Stencil.Proofs.Result

/-!
# The names of a run

A name that is accepted has a letter or a number in it, and that is all it takes: every style of it
can be used as an identifier or in a path (`normalize_names`).
-/
namespace Stencil
open Identifier (Variants IsWord)

namespace Options

theorem nameOf_ok {options : RawOptions} {name : String} (h : nameOf options = .ok name) :
    name.toList.any Unicode.isLetterOrNumber := by
  obtain ⟨given, -, h⟩ := bind_eq_ok.1 h
  cases given with
  | none => cases h
  | some given =>
    dsimp only at h
    split at h
    · rename_i hletter
      cases h
      exact hletter
    · cases h

/-- The name of a run is an accepted one, in all styles. -/
theorem normalize_name {settings : Settings} {raw : RawOptions} {o : Options}
    (h : normalize settings raw = .ok o) :
    (∃ c ∈ o.name.toList, Unicode.isAlphanumeric c) ∧ o.names = .ofName o.name := by
  simp only [normalize, bind_eq_ok] at h
  obtain ⟨name, hname, _, -, _, -, _, -, _, -, _, -, _, -, _, -, _, -, _, -, _, -, _, -, _, -, _, -,
    _, -, h⟩ := h
  cases h
  obtain ⟨c, hmem, hc⟩ := List.any_eq_true.1 (nameOf_ok hname)
  exact ⟨⟨c, hmem, Unicode.isAlphanumeric_of_isLetterOrNumber hc⟩, rfl⟩

/-- **An accepted name gives usable names**, whatever characters it has besides a letter or a
number. -/
theorem normalize_names {settings : Settings} {raw : RawOptions} {o : Options}
    (h : normalize settings raw = .ok o) : o.names.Usable := by
  obtain ⟨hname, hnames⟩ := normalize_name h
  rw [hnames]
  exact Identifier.ofName_usable hname

end Options

/-- A name of several scripts, with digits and punctuation between and around its words. -/
def mixedName : RawOptions := [("Name", .string " ..--Größe_ÄB2c!  ２中/文--§ ")]

/-- It is accepted and makes names in all styles. -/
theorem mixedName_usable : ∃ o, Options.normalize ⟨[], "", none⟩ mixedName = .ok o ∧
    o.names.dash = "gr-ö-ße-Ä-b2c-２中-文" ∧ o.names.camel = "größeÄB2C２中文" ∧ o.names.Usable := by
  have styles : (Options.normalize ⟨[], "", none⟩ mixedName).map (·.names) =
      .ok { classStyle := "GrößeÄB2C２中文", dash := "gr-ö-ße-Ä-b2c-２中-文",
            camel := "größeÄB2C２中文", snake := "gr_ö_ße_Ä_b2c_２中_文",
            constant := "GR_ö_ßE_Ä_B2C_２中_文" } := by
    decide +kernel
  obtain ⟨o, accepted, hnames⟩ := map_eq_ok.1 styles
  have usable := Options.normalize_names accepted
  exact ⟨o, accepted, by rw [hnames], by rw [hnames], usable⟩

end Stencil
