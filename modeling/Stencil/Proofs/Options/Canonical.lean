import Stencil.Options.Normalized

/-!
# What options count

A value counts for a name if its key is a spelling of the name and it is not null. Of the values
that count for the name of an option the last one is taken (`lookup_canonicalize`), and nothing else
of the options as they are given matters (`normalize_last_values`): neither unknown keys and null
values, nor values that another one overrides, nor the order of different options.
-/
namespace Stencil

namespace RawOptions

/-- The value of an entry, if it counts for a name. -/
def valueFor (name : String) (entry : String × Json) : Option Json :=
  if canonicalKey entry.1 = name then
    match entry.2 with
    | .null => none
    | value => some value
  else none

/-- The values that count for a name, in the order in which they were given. -/
def values (raw : RawOptions) (name : String) : List Json := raw.filterMap (valueFor name)

theorem valueFor_of_ne {key name : String} (h : canonicalKey key ≠ name) (value : Json) :
    valueFor name (key, value) = none := if_neg h

theorem valueFor_of_eq {key name : String} (h : canonicalKey key = name) {value : Json}
    (hv : value ≠ .null) : valueFor name (key, value) = some value := by
  rw [valueFor, if_pos h]
  split
  · rename_i hnull
    exact absurd hnull hv
  · rfl

theorem ne_null_of_valueFor {name : String} {entry : String × Json} {value : Json}
    (h : valueFor name entry = some value) : value ≠ .null := by
  unfold valueFor at h
  split at h
  · split at h
    · cases h
    · rename_i hv
      cases h
      exact hv
  · cases h

theorem ne_null_of_mem_values {raw : RawOptions} {name : String} {value : Json}
    (h : value ∈ values raw name) : value ≠ .null := by
  obtain ⟨entry, -, he⟩ := List.mem_filterMap.1 h
  exact ne_null_of_valueFor he

theorem values_cons (entry : String × Json) (raw : RawOptions) (name : String) :
    values (entry :: raw) name = (valueFor name entry).toList ++ values raw name := by
  rw [values, List.filterMap_cons]
  cases valueFor name entry <;> rfl

theorem values_append (a b : RawOptions) (name : String) :
    values (a ++ b) name = values a name ++ values b name := List.filterMap_append

/-! ## Canonical options -/

theorem lookup_cons (name : String) (entry : String × Json) (rest : RawOptions) :
    List.lookup name (entry :: rest) =
      if name = entry.1 then some entry.2 else rest.lookup name := by
  rw [List.lookup_cons]
  by_cases h : name = entry.1
  · rw [if_pos h, beq_iff_eq.2 h]
  · rw [if_neg h, beq_eq_false_iff_ne.2 h]

theorem lookup_eq_none_iff (raw : RawOptions) (name : String) :
    raw.lookup name = none ↔ name ∉ raw.map (·.1) := by
  rw [List.lookup_eq_none_iff]
  constructor
  · intro h hmem
    obtain ⟨entry, he, rfl⟩ := List.mem_map.1 hmem
    exact bne_iff_ne.1 (h entry he) rfl
  · intro h entry he
    exact bne_iff_ne.2 fun e : name = entry.1 => h (e ▸ List.mem_map_of_mem he)

theorem mem_of_lookup {raw : RawOptions} {name : String} {value : Json}
    (h : raw.lookup name = some value) : (name, value) ∈ raw := by
  obtain ⟨before, after, rfl, -⟩ := List.lookup_eq_some_iff.1 h
  simp

theorem lookup_insert (key name : String) (value : Json) (raw : RawOptions) :
    (insert key value raw).lookup name = if name = key then some value else raw.lookup name := by
  induction raw with
  | nil => rw [insert, lookup_cons]
  | cons e rest ih =>
    obtain ⟨k, v⟩ := e
    rw [insert]
    split
    · rename_i hk
      rw [lookup_cons, lookup_cons, hk]
      split <;> rfl
    · rename_i hk
      rw [lookup_cons, lookup_cons, ih]
      by_cases h : name = k
      · rw [if_pos h, if_pos h, if_neg (h ▸ hk)]
      · rw [if_neg h, if_neg h]

theorem lookup_addCanonical (options : RawOptions) (entry : String × Json) {name : String}
    (known : knownKeys.contains name) : (addCanonical options entry).lookup name =
      (valueFor name entry).or (options.lookup name) := by
  obtain ⟨key, value⟩ := entry
  by_cases hname : canonicalKey key = name
  · rw [addCanonical, hname, if_pos known]
    split
    · rename_i hnull
      rw [valueFor, if_pos hname, hnull, Option.none_or]
    · rename_i hvalue
      rw [valueFor_of_eq hname hvalue, lookup_insert, if_pos rfl, Option.some_or]
  · rw [valueFor_of_ne hname, Option.none_or, addCanonical]
    split
    · split
      · rfl
      · rw [lookup_insert, if_neg (Ne.symm hname)]
    · rfl

theorem lookup_addCanonical_of_unknown (options : RawOptions) (entry : String × Json)
    {name : String} (unknown : ¬ knownKeys.contains name) :
    (addCanonical options entry).lookup name = options.lookup name := by
  rw [addCanonical]
  split
  · rename_i known
    split
    · rfl
    · rw [lookup_insert, if_neg]
      rintro rfl
      exact unknown known
  · rfl

/-- The canonical options hold for each option the last value that counts for it. -/
theorem lookup_canonicalize (raw : RawOptions) (name : String) :
    (canonicalize raw).lookup name =
      if knownKeys.contains name then (values raw name).getLast? else none := by
  suffices ∀ options : RawOptions, (raw.foldl addCanonical options).lookup name =
      if knownKeys.contains name then (values raw name).getLast?.or (options.lookup name)
      else options.lookup name by
    simpa [canonicalize] using this []
  induction raw with
  | nil => simp [values]
  | cons entry rest ih =>
    intro options
    rw [List.foldl_cons, ih]
    split
    · rename_i known
      rw [lookup_addCanonical options entry known, values_cons, List.getLast?_append,
        Option.or_assoc]
      cases valueFor name entry <;> rfl
    · rename_i unknown
      exact lookup_addCanonical_of_unknown options entry unknown

end RawOptions

/-! ## Normalized options -/

namespace Options
variable {a b : RawOptions}

theorem text?_congr (h : ∀ name, a.lookup name = b.lookup name) (field : String) :
    a.text? field = b.text? field := by
  rw [RawOptions.text?, RawOptions.text?, h]

theorem checkRequired_congr (h : ∀ name, a.lookup name = b.lookup name) (fields : List String) :
    checkRequired a fields = checkRequired b fields := by
  induction fields with
  | nil => rfl
  | cons field rest ih => simp only [checkRequired, text?_congr h, ih]

/-- Normalizing depends on nothing but the canonical options. -/
theorem normalize_congr {raw raw' : RawOptions}
    (h : ∀ name, raw.canonicalize.lookup name = raw'.canonicalize.lookup name)
    (settings : Settings) : normalize settings raw = normalize settings raw' := by
  have switch (field : String) :
      raw.canonicalize.switch field = raw'.canonicalize.switch field := by
    rw [RawOptions.switch, RawOptions.switch, h]
  simp only [normalize, nameOf, RawOptions.choice, text?_congr h, checkRequired_congr h, switch]

/-- Normalizing depends on nothing but the last value that counts for each option. -/
theorem normalize_congr_last {raw raw' : RawOptions}
    (h : ∀ name ∈ RawOptions.knownKeys,
      (raw.values name).getLast? = (raw'.values name).getLast?)
    (settings : Settings) : normalize settings raw = normalize settings raw' := by
  refine normalize_congr (fun name => ?_) settings
  rw [RawOptions.lookup_canonicalize, RawOptions.lookup_canonicalize]
  split
  · rename_i known
    exact h name (List.contains_iff_mem.1 known)
  · rfl

end Options

/-! ## What does not count -/

namespace RawOptions

/-- Whether an entry has no say in front of some others: its key is unknown, its value is null, or
one of the others has a value that counts for its name. -/
def IsMute (entry : String × Json) (after : RawOptions) : Prop :=
  canonicalKey entry.1 ∉ knownKeys ∨ entry.2 = .null ∨ values after (canonicalKey entry.1) ≠ []

theorem getLast?_values_mute {entry : String × Json} {after : RawOptions}
    (mute : IsMute entry after) (before : RawOptions) {name : String} (known : name ∈ knownKeys) :
    (values (before ++ entry :: after) name).getLast? =
      (values (before ++ after) name).getLast? := by
  rw [values_append, values_append, values_cons]
  by_cases hname : canonicalKey entry.1 = name
  · subst hname
    rcases mute with unknown | null | overridden
    · exact absurd known unknown
    · rw [valueFor, if_pos rfl, null]
      rfl
    · obtain ⟨value, hvalue⟩ := Option.isSome_iff_exists.1 (List.getLast?_isSome.2 overridden)
      simp only [List.getLast?_append, hvalue, Option.some_or]
  · rw [valueFor_of_ne hname, Option.toList_none, List.nil_append]

/-- Entries for different names can change places. -/
theorem values_swap {e e' : String × Json} (h : canonicalKey e.1 ≠ canonicalKey e'.1)
    (before after : RawOptions) (name : String) :
    values (before ++ e :: e' :: after) name = values (before ++ e' :: e :: after) name := by
  rw [values_append, values_append, values_cons, values_cons, values_cons, values_cons]
  by_cases hname : canonicalKey e.1 = name
  · have hname' : canonicalKey e'.1 ≠ name := fun h' => h (hname.trans h'.symm)
    rw [valueFor_of_ne hname' e'.2]
    simp
  · rw [valueFor_of_ne hname e.2]
    simp

end RawOptions

/-- **Each option is resolved by its last value.** Options that hold the same last value for each
known name are normalized to the same record, or fail with the same error. So entries without a say
can be left out, whatever their values are, and those for different names can change places. -/
theorem Options.normalize_last_values (settings : Settings) :
    (∀ raw raw' : RawOptions, (∀ name ∈ RawOptions.knownKeys,
      (raw.values name).getLast? = (raw'.values name).getLast?) →
        normalize settings raw = normalize settings raw') ∧
    (∀ before entry after, RawOptions.IsMute entry after →
      normalize settings (before ++ entry :: after) = normalize settings (before ++ after)) ∧
    ∀ before (e e' : String × Json) after,
      RawOptions.canonicalKey e.1 ≠ RawOptions.canonicalKey e'.1 →
        normalize settings (before ++ e :: e' :: after) =
          normalize settings (before ++ e' :: e :: after) := by
  refine ⟨fun raw raw' h => normalize_congr_last h settings, fun before entry after mute => ?_,
    fun before e e' after h => ?_⟩
  · exact normalize_congr_last (fun _ => RawOptions.getLast?_values_mute mute before) settings
  · exact normalize_congr_last
      (fun name _ => by rw [RawOptions.values_swap h before after name]) settings

/-- Options with an unknown key, a null value and a malformed one that is overridden. -/
def crowdedOptions : RawOptions :=
  [("db", .array [.null]), ("colour", .bool true), ("DATABASE", .string "mongodb"),
    ("flat", .null), ("name", .string "user")]

/-- They are normalized like the two options that count, in either order. -/
theorem crowdedOptions_resolved (settings : Options.Settings) :
    (Options.normalize ⟨["db"], "", none⟩ crowdedOptions).map (·.database) = .ok .mongodb ∧
    Options.normalize settings crowdedOptions =
      Options.normalize settings [("Name", .string "user"), ("database", .string "mongodb")] := by
  have same : ∀ name ∈ RawOptions.knownKeys, (crowdedOptions.values name).getLast? =
      (RawOptions.values [("Name", .string "user"), ("database", .string "mongodb")]
        name).getLast? := by
    rw [RawOptions.knownKeys]
    simp only [List.forall_mem_cons]
    exact ⟨rfl, rfl, rfl, rfl, rfl, rfl, rfl, rfl, rfl, rfl, rfl, rfl, rfl, by simp⟩
  exact ⟨rfl, (Options.normalize_last_values settings).1 _ _ same⟩

end Stencil
