import Stencil.Proofs.Options.Precedence
import Stencil.Proofs.Staging.Stage

/-!
# Options in another mode

The same options can be given for another run mode: for a dry run or not, forced or not. What they
held for these two switches, in any spelling, is left out (`RawOptions.inMode`). They are normalized
to the same record but for the switches (`normalize_inMode`), even if the switches are required.
-/
namespace Stencil

namespace RawOptions

/-- The switches that say whether a run is a dry one and whether it is forced. -/
def mode (dryRun force : Bool) : RawOptions :=
  [(Flag.dryRun.text, .bool dryRun), (Flag.force.text, .bool force)]

/-- The same options with these switches, instead of what they held for them in any spelling. -/
def inMode (raw : RawOptions) (dryRun force : Bool) : RawOptions :=
  without raw (mode dryRun force) ++ mode dryRun force

variable (raw : RawOptions) (dryRun force : Bool)

theorem mode_isPlain : IsPlain (mode dryRun force) where
  distinct := by
    show [Flag.dryRun.text, Flag.force.text].Nodup
    decide
  canonical := by simp only [mode, List.forall_mem_cons]; decide +kernel
  given := by simp [mode]

theorem lookup_inMode (name : String) : (raw.inMode dryRun force).canonicalize.lookup name =
    ((mode dryRun force).lookup name).or (raw.canonicalize.lookup name) := by
  rw [lookup_canonicalize, lookup_canonicalize, inMode, values_append, List.getLast?_append,
    (mode_isPlain dryRun force).values_eq, values_without]
  by_cases hname : name ∈ (mode dryRun force).map (·.1)
  · obtain ⟨value, hvalue⟩ : ∃ value, (mode dryRun force).lookup name = some value :=
      Option.ne_none_iff_exists'.1 fun hnone => (lookup_eq_none_iff _ _).1 hnone hname
    have known : ∀ key ∈ [Flag.dryRun.text, Flag.force.text], knownKeys.contains key := by decide
    rw [hvalue, if_pos (known name hname)]
    rfl
  · rw [(lookup_eq_none_iff _ _).2 hname, if_neg hname]
    simp

theorem switch_dryRun_inMode :
    (raw.inMode dryRun force).canonicalize.switch "dry_run" = .ok dryRun := by
  rw [switch, lookup_inMode]
  rfl

theorem switch_force_inMode :
    (raw.inMode dryRun force).canonicalize.switch "force" = .ok force := by
  rw [switch, lookup_inMode]
  rfl

/-- The switches are given as texts; what was given for other options is given still. -/
theorem text?_inMode (field : String) :
    (raw.inMode dryRun force).canonicalize.text? field = raw.canonicalize.text? field ∨
      ∃ text, (raw.inMode dryRun force).canonicalize.text? field = .ok (some text) := by
  unfold text?
  rw [lookup_inMode]
  cases hmode : (mode dryRun force).lookup field with
  | none => exact .inl rfl
  | some value =>
    right
    obtain ⟨b, rfl⟩ : ∃ b, value = .bool b := by
      have := mem_of_lookup hmode
      simp only [mode, List.mem_cons, Prod.mk.injEq, List.not_mem_nil, or_false] at this
      rcases this with ⟨-, rfl⟩ | ⟨-, rfl⟩ <;> exact ⟨_, rfl⟩
    cases b <;> exact ⟨_, rfl⟩

section
variable {field : String} (hdry : field ≠ Flag.dryRun.text) (hforce : field ≠ Flag.force.text)
include hdry hforce

theorem lookup_inMode_of_ne :
    (raw.inMode dryRun force).canonicalize.lookup field = raw.canonicalize.lookup field := by
  rw [lookup_inMode, (lookup_eq_none_iff _ _).2 (by simp [mode, hdry, hforce]), Option.none_or]

theorem text?_inMode_of_ne :
    (raw.inMode dryRun force).canonicalize.text? field = raw.canonicalize.text? field := by
  rw [text?, text?, lookup_inMode_of_ne raw dryRun force hdry hforce]

theorem switch_inMode_of_ne :
    (raw.inMode dryRun force).canonicalize.switch field = raw.canonicalize.switch field := by
  rw [switch, switch, lookup_inMode_of_ne raw dryRun force hdry hforce]

end
end RawOptions

namespace Options

/-- Options that are required are given if they were, or if they hold a text in any case. -/
theorem checkRequired_of_given {a b : RawOptions}
    (h : ∀ field, b.text? field = a.text? field ∨ ∃ text, b.text? field = .ok (some text))
    {fields : List String} (ha : checkRequired a fields = .ok ()) :
    checkRequired b fields = .ok () := by
  induction fields with
  | nil => rfl
  | cons field rest ih =>
    obtain ⟨given, hgiven, ha⟩ := bind_eq_ok.1 ha
    cases given with
    | none => cases ha
    | some text =>
      obtain ⟨text', hgiven'⟩ :
          ∃ text', b.text? (RawOptions.canonicalKey field) = .ok (some text') := by
        rcases h (RawOptions.canonicalKey field) with same | there
        · exact ⟨text, same.trans hgiven⟩
        · exact there
      rw [checkRequired, hgiven']
      exact ih ha

/-- **In another mode the options are the same** but for its switches. -/
theorem normalize_inMode {settings : Settings} {raw : RawOptions} {o : Options}
    (h : normalize settings raw = .ok o) (dryRun force : Bool) :
    normalize settings (raw.inMode dryRun force) = .ok { o with dryRun, force } := by
  simp only [normalize, bind_eq_ok] at h ⊢
  simp (disch := decide) only [nameOf, RawOptions.choice, RawOptions.text?_inMode_of_ne,
    RawOptions.switch_inMode_of_ne, RawOptions.switch_dryRun_inMode,
    RawOptions.switch_force_inMode] at h ⊢
  obtain ⟨name, hname, ⟨⟩, hrequired, path, hpath, place, hplace, ops, hops, operations,
    hoperations, database, hdatabase, messaging, hmessaging, auth, hauth, crud, hcrud, skipTests,
    hskip, flat, hflat, _, -, applyMigrations, happly, _, -, h⟩ := h
  cases h
  have required := checkRequired_of_given (raw.text?_inMode dryRun force) hrequired
  exact ⟨name, hname, ⟨⟩, required, path, hpath, place, hplace, ops, hops, operations,
    hoperations, database, hdatabase, messaging, hmessaging, auth, hauth, crud, hcrud, skipTests,
    hskip, flat, hflat, dryRun, rfl, applyMigrations, happly, force, rfl, rfl⟩

end Options
end Stencil
