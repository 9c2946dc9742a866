import Stencil.Proofs.Options.Choice
import Stencil.Proofs.Schematic.RunMode

/-!
# Conditions compare values

A condition is written with texts, and is evaluated by comparing texts. Once it is validated, both
stand for values of the option that it names: it is valid exactly if all its texts are values and it
does not ask for the run mode (`validated_iff`), and then it holds exactly if the option has the
value, has another one, or has one of several (`evaluate_validated`). The conditions of a manifest
are validated when it is read, each in its place (`conditions_compare_values`).
-/
namespace Stencil

namespace OptionKey

/-- The values of an option that conditions can compare. -/
abbrev Value : OptionKey → Type
  | .database => Database
  | .messaging => Messaging
  | .auth => Auth
  | .crud => Crud

instance (key : OptionKey) : Choice key.Value := by cases key <;> infer_instance

instance (key : OptionKey) : LawfulChoice key.Value := by cases key <;> infer_instance

def value (o : Options) : (key : OptionKey) → key.Value
  | .database => o.database
  | .messaging => o.messaging
  | .auth => o.auth
  | .crud => o.crud

/-- Reads a value of the option, in any letter case and with blanks around it. -/
def parse (key : OptionKey) (s : String) : Except Failure key.Value := Choice.parse s

variable {key : OptionKey} {s : String} {v : key.Value}

theorem parse_eq_ok_iff : key.parse s = .ok v ↔ plainWord s = Choice.text v :=
  Choice.parse_eq_ok_iff

theorem current_eq (key : OptionKey) (o : Options) : key.current o = Choice.text (key.value o) := by
  cases key <;> rfl

theorem check_eq (key : OptionKey) (s : String) : key.check s = (key.parse s).map fun _ => () := by
  cases key <;> rfl

/-- The option's spelling is that of a value exactly if it has the value. -/
theorem current_eq_text_iff {o : Options} : key.current o = Choice.text v ↔ key.value o = v := by
  rw [current_eq]
  constructor
  · exact LawfulChoice.text_injective
  · rintro rfl
    rfl

end OptionKey

namespace Condition
variable {key : OptionKey} {s t : String} {c v : Condition} {o : Options}

/-! ## Plain spellings -/

/-- The plain spelling of a text is the spelling of the value that is read from it. -/
theorem canonicalValue_eq_ok_iff : canonicalValue key s = .ok t ↔
    ∃ v, key.parse s = .ok v ∧ t = Choice.text v := by
  rw [canonicalValue, bind_eq_ok]
  constructor
  · rintro ⟨_, hcheck, ht⟩
    rw [OptionKey.check_eq] at hcheck
    obtain ⟨v, hv, -⟩ := map_eq_ok.1 hcheck
    have ht : plainWord s = t := Except.ok.inj ht
    exact ⟨v, hv, ht ▸ OptionKey.parse_eq_ok_iff.1 hv⟩
  · rintro ⟨v, hv, rfl⟩
    refine ⟨(), ?_, ?_⟩
    · rw [OptionKey.check_eq, hv]
      rfl
    · rw [OptionKey.parse_eq_ok_iff.1 hv]
      rfl

/-- A plain spelling stays as it is. -/
theorem canonicalValue_again (h : canonicalValue key s = .ok t) : canonicalValue key t = .ok t := by
  obtain ⟨v, -, rfl⟩ := canonicalValue_eq_ok_iff.1 h
  exact canonicalValue_eq_ok_iff.2 ⟨v, Choice.parse_text v, rfl⟩

/-! ## Validated conditions -/

/-- Whether every text that the condition compares is read as a value of its option. -/
def ComparesValues : Condition → Prop
  | equals key s | notEquals key s => ∃ v, key.parse s = .ok v
  | anyOf key texts => ∀ s ∈ texts, ∃ v, key.parse s = .ok v
  | _ => True

/-- Whether the condition holds of values, not of spellings. -/
def Holds (o : Options) : Condition → Prop
  | equals key s => ∃ v, key.parse s = .ok v ∧ key.value o = v
  | notEquals key s => ∃ v, key.parse s = .ok v ∧ key.value o ≠ v
  | anyOf key texts => ∃ s ∈ texts, ∃ v, key.parse s = .ok v ∧ key.value o = v
  | c => c.evaluate o

/-- A condition is valid exactly if its texts are values and it does not ask for the run mode. -/
theorem validated_iff (c : Condition) :
    (∃ v, c.validated = .ok v) ↔ c.ComparesValues ∧ c.IsBlind := by
  have canonical (key : OptionKey) (s : String) :
      (∃ t, canonicalValue key s = .ok t) ↔ ∃ v, key.parse s = .ok v := by
    simp only [canonicalValue_eq_ok_iff]
    constructor
    · rintro ⟨-, v, hv, -⟩
      exact ⟨v, hv⟩
    · rintro ⟨v, hv⟩
      exact ⟨_, v, hv, rfl⟩
  cases c with
  | equals key s | notEquals key s =>
    simp only [validated, bind_eq_ok, ComparesValues, IsBlind, and_true, ← canonical]
    constructor
    · rintro ⟨-, t, ht, -⟩
      exact ⟨t, ht⟩
    · rintro ⟨t, ht⟩
      exact ⟨_, t, ht, rfl⟩
  | anyOf key texts =>
    simp only [validated, bind_eq_ok, ComparesValues, IsBlind, and_true, ← canonical]
    constructor
    · rintro ⟨-, plain, hplain, -⟩ s hs
      obtain ⟨t, -, ht⟩ := exists_right_of_forall₂ (mapM_eq_ok_iff.1 hplain) hs
      exact ⟨t, ht⟩
    · intro h
      obtain ⟨plain, hplain⟩ := exists_forall₂ h
      exact ⟨_, plain, mapM_eq_ok_iff.2 hplain, rfl⟩
  | flag f | notFlag f => cases h : f.isRunMode <;> simp [validated, ComparesValues, IsBlind, h]
  | operation op => simp [validated, ComparesValues, IsBlind]

/-- Validating a valid condition changes nothing. -/
theorem validated_again (h : c.validated = .ok v) : v.validated = .ok v := by
  cases c with
  | equals key s | notEquals key s =>
    obtain ⟨t, ht, h⟩ := bind_eq_ok.1 h
    cases h
    exact bind_eq_ok.2 ⟨t, canonicalValue_again ht, rfl⟩
  | anyOf key texts =>
    obtain ⟨plain, hplain, h⟩ := bind_eq_ok.1 h
    cases h
    have again : List.Forall₂ (fun t t' => canonicalValue key t = .ok t') plain plain := by
      refine List.forall₂_same.2 fun t ht => ?_
      obtain ⟨s, -, hs⟩ := mem_of_mapM_eq_ok hplain ht
      exact canonicalValue_again hs
    exact bind_eq_ok.2 ⟨plain, mapM_eq_ok_iff.2 again, rfl⟩
  | flag f | notFlag f =>
    have same := h
    simp only [validated] at h
    split at h
    · cases h
    · cases h
      exact same
  | operation op =>
    cases h
    rfl

/-- A valid condition compares the value of the option with the values that are written. -/
theorem evaluate_validated (h : c.validated = .ok v) (o : Options) : v.evaluate o ↔ c.Holds o := by
  cases c with
  | equals key s =>
    obtain ⟨t, ht, h⟩ := bind_eq_ok.1 h
    cases h
    obtain ⟨x, hx, rfl⟩ := canonicalValue_eq_ok_iff.1 ht
    simp only [evaluate, Holds, beq_iff_eq, OptionKey.current_eq_text_iff, hx]
    simp [eq_comm]
  | notEquals key s =>
    obtain ⟨t, ht, h⟩ := bind_eq_ok.1 h
    cases h
    obtain ⟨x, hx, rfl⟩ := canonicalValue_eq_ok_iff.1 ht
    simp only [evaluate, Holds, bne_iff_ne, ne_eq, OptionKey.current_eq_text_iff, hx]
    simp
  | anyOf key texts =>
    obtain ⟨plain, hplain, h⟩ := bind_eq_ok.1 h
    cases h
    have values := mapM_eq_ok_iff.1 hplain
    simp only [evaluate, Holds, List.contains_iff_mem]
    constructor
    · intro hmem
      obtain ⟨s, hs, ht⟩ := exists_of_forall₂ values hmem
      obtain ⟨x, hx, hcurrent⟩ := canonicalValue_eq_ok_iff.1 ht
      exact ⟨s, hs, x, hx, OptionKey.current_eq_text_iff.1 hcurrent⟩
    · rintro ⟨s, hs, x, hx, rfl⟩
      obtain ⟨t, ht, hst⟩ := exists_right_of_forall₂ values hs
      obtain ⟨y, hy, rfl⟩ := canonicalValue_eq_ok_iff.1 hst
      cases hx.symm.trans hy
      rwa [OptionKey.current_eq]
  | flag f | notFlag f =>
    simp only [validated] at h
    split at h
    · cases h
    · cases h
      rfl
  | operation op =>
    cases h
    rfl

end Condition

/-- **Conditions compare values, not spellings.** A text is read as a value whose spelling is its
plain form. A condition is valid exactly if all texts that it compares are values of its option and
it does not ask for the run mode; it is valid again, and it holds exactly if the written values
compare so with the value of the option. A manifest is read exactly if all conditions that are
written in it are valid, and it has them in their valid form and in the same order. -/
theorem Manifest.conditions_compare_values :
    (∀ (key : OptionKey) (s : String) (v : key.Value),
      key.parse s = .ok v ↔ plainWord s = Choice.text v) ∧
    (∀ c : Condition, ((∃ v, c.validated = .ok v) ↔ c.ComparesValues ∧ c.IsBlind) ∧
      ∀ v, c.validated = .ok v → v.validated = .ok v ∧ ∀ o, v.evaluate o ↔ c.Holds o) ∧
    ∀ origin text m, parse origin text = .ok m ↔ ∃ written rules, IsWritten text written ∧
      List.Forall₂ Validates written.rules rules ∧ m = { written with rules } := by
  refine ⟨fun key s v => OptionKey.parse_eq_ok_iff, fun c => ⟨c.validated_iff, ?_⟩,
    fun origin text m => parse_eq_ok_iff⟩
  intro v h
  exact ⟨Condition.validated_again h, Condition.evaluate_validated h⟩

/-- A manifest whose conditions spell the values in their own way. -/
def spelledManifest : String :=
  "\x7b\"rules\": [\x7b\"paths\": [\"a\"], \"when\": [" ++
    "\x7b\"equals\": \x7b\"option\": \"database\", \"value\": \" Oracle \"\x7d\x7d, " ++
    "\x7b\"any_of\": \x7b\"option\": \"messaging\", \"values\": [\"BOTH\", \"both\"]\x7d\x7d]\x7d]\x7d"

theorem spelledManifest_compares :
    (∃ m, Manifest.parse "m" spelledManifest = .ok m ∧ m.rules = [⟨["a"],
        [.equals .database "oracle", .anyOf .messaging ["both", "both"]]⟩] ∧
      ∃ written rules, Manifest.IsWritten spelledManifest written ∧
        List.Forall₂ Manifest.Validates written.rules rules ∧ m = { written with rules }) ∧
    (Condition.equals .database " Oracle ").validated = .ok (.equals .database "oracle") ∧
    (Condition.equals .database "oracle").validated = .ok (.equals .database "oracle") ∧
    ∀ o, (Condition.equals .database "oracle").evaluate o ↔
      (Condition.equals .database " Oracle ").Holds o := by
  have read : (Manifest.parse "m" spelledManifest).map (·.rules) = .ok [⟨["a"],
      [.equals .database "oracle", .anyOf .messaging ["both", "both"]]⟩] := by decide +kernel
  have valid : (Condition.equals .database " Oracle ").validated =
      .ok (.equals .database "oracle") := by decide +kernel
  obtain ⟨m, hm, hrules⟩ := map_eq_ok.1 read
  obtain ⟨-, conditions, manifests⟩ := Manifest.conditions_compare_values
  exact ⟨⟨m, hm, hrules, (manifests _ _ _).1 hm⟩, valid, (conditions _).2 _ valid⟩

end Stencil
