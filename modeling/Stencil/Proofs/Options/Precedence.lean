import Stencil.CommandLine.Arguments
import Stencil.Proofs.Options.Canonical

/-!
# Options over options

The options of a command line are laid over those of the standard input key by key: a key that is
there keeps its place. Of several spellings of an option the last one counts, so a value that took
the place of an older one gives way to any other spelling behind it, its `shadow`.

Results:
* `RawOptions.getLast?_values_overlay`: what counts after options were laid over others.
* `Arguments.normalize_options`: the options of a run, exactly.
* `Arguments.options_precedence`: the command line has precedence if nothing shadows its options.
* `Arguments.later_spelling_precedes`: where it has not.
-/
namespace Stencil

namespace RawOptions

/-! ## Laying options over others -/

/-- The entries behind the one with a key. -/
def behind (key : String) (raw : RawOptions) : RawOptions := (raw.dropWhile (·.1 ≠ key)).tail

/-- The value that counts instead of one that takes the place of a key: that of the last other
spelling behind it. -/
def shadow (raw : RawOptions) (key : String) : Option Json := (values (behind key raw) key).getLast?

theorem shadow_cons (entry : String × Json) (raw : RawOptions) (key : String) :
    shadow (entry :: raw) key =
      if entry.1 = key then (values raw key).getLast? else shadow raw key := by
  unfold shadow behind
  by_cases h : entry.1 = key <;> simp [h]

theorem values_insert_of_ne {key name : String} (h : canonicalKey key ≠ name) (value : Json)
    (raw : RawOptions) : values (insert key value raw) name = values raw name := by
  induction raw with
  | nil =>
    rw [insert, values_cons, valueFor_of_ne h]
    rfl
  | cons e rest ih =>
    obtain ⟨k, v⟩ := e
    rw [insert]
    split
    · rename_i hk
      subst hk
      rw [values_cons, values_cons, valueFor_of_ne h, valueFor_of_ne h]
    · rw [values_cons, values_cons, ih]

theorem shadow_insert_of_ne {key name : String} (h : canonicalKey key ≠ name)
    (hname : canonicalKey name = name) (value : Json) (raw : RawOptions) :
    shadow (insert key value raw) name = shadow raw name := by
  have hne : key ≠ name := by
    rintro rfl
    exact h hname
  induction raw with
  | nil => rw [insert, shadow_cons, if_neg hne]
  | cons e rest ih =>
    obtain ⟨k, v⟩ := e
    rw [insert]
    split
    · rename_i hk
      rw [shadow_cons, shadow_cons, if_neg hne, if_neg (hk ▸ hne)]
    · rw [shadow_cons, shadow_cons, values_insert_of_ne h, ih]

/-- A value that is put under the name of its option counts, but for its shadow. -/
theorem getLast?_values_insert {key : String} {value : Json} (hkey : canonicalKey key = key)
    (hv : value ≠ .null) (raw : RawOptions) :
    (values (insert key value raw) key).getLast? = some ((shadow raw key).getD value) := by
  induction raw with
  | nil =>
    rw [insert, values_cons, valueFor_of_eq hkey hv]
    rfl
  | cons e rest ih =>
    obtain ⟨k, v⟩ := e
    rw [insert, shadow_cons]
    split
    · rw [values_cons, valueFor_of_eq hkey hv, Option.toList_some, List.singleton_append,
        List.getLast?_cons]
    · rw [values_cons, List.getLast?_append, ih, Option.some_or]

/-- Whether options are given under their canonical names, each once and none as null. -/
structure IsPlain (top : RawOptions) : Prop where
  distinct : (top.map (·.1)).Nodup
  canonical : ∀ e ∈ top, canonicalKey e.1 = e.1
  given : ∀ e ∈ top, e.2 ≠ .null

namespace IsPlain
variable {top : RawOptions}

theorem of_cons {entry : String × Json} (h : IsPlain (entry :: top)) : IsPlain top :=
  ⟨(List.nodup_cons.1 h.distinct).2, (List.forall_mem_cons.1 h.canonical).2,
    (List.forall_mem_cons.1 h.given).2⟩

/-- Plain options count as they are. -/
theorem values_eq (h : IsPlain top) (name : String) :
    values top name = (top.lookup name).toList := by
  induction top with
  | nil => rfl
  | cons entry rest ih =>
    obtain ⟨key, value⟩ := entry
    have hkey : canonicalKey key = key := h.canonical (key, value) List.mem_cons_self
    rw [values_cons, lookup_cons, ih h.of_cons]
    by_cases hname : name = key
    · subst hname
      rw [valueFor_of_eq hkey (h.given (name, value) List.mem_cons_self), if_pos rfl,
        (lookup_eq_none_iff _ _).2 (List.nodup_cons.1 h.distinct).1]
      rfl
    · rw [valueFor_of_ne fun e => hname (e.symm.trans hkey), if_neg hname]
      rfl

end IsPlain

/-- What counts after plain options were laid over others: theirs, but for their shadows, and what
counted before for names that they do not give. -/
theorem getLast?_values_overlay {top : RawOptions} (h : IsPlain top) (base : RawOptions)
    (name : String) : (values (overlay base top) name).getLast? =
      match top.lookup name with
      | some value => some ((shadow base name).getD value)
      | none => (values base name).getLast? := by
  induction top generalizing base with
  | nil => rfl
  | cons entry rest ih =>
    have hkey := h.canonical entry List.mem_cons_self
    rw [overlay, List.foldl_cons, ← overlay, ih h.of_cons, lookup_cons]
    by_cases hname : name = entry.1
    · subst hname
      rw [if_pos rfl, (lookup_eq_none_iff _ _).2 (List.nodup_cons.1 h.distinct).1]
      exact getLast?_values_insert hkey (h.given entry List.mem_cons_self) base
    · have hne : canonicalKey entry.1 ≠ name := fun e => hname (e.symm.trans hkey)
      rw [if_neg hname, values_insert_of_ne hne]
      cases hl : rest.lookup name with
      | none => rfl
      | some value =>
        have hcanonical : canonicalKey name = name :=
          h.of_cons.canonical (name, value) (mem_of_lookup hl)
        rw [shadow_insert_of_ne hne hcanonical]

/-- Options with the shadows that others cast on them. -/
def shadowed (base top : RawOptions) : RawOptions :=
  top.map fun e => (e.1, (shadow base e.1).getD e.2)

/-- The entries that are no spelling of a key of some options. -/
def without (base top : RawOptions) : RawOptions :=
  base.filter fun e => canonicalKey e.1 ∉ top.map (·.1)

theorem values_without (base top : RawOptions) (name : String) :
    values (without base top) name = if name ∈ top.map (·.1) then [] else values base name := by
  induction base with
  | nil => simp [without, values]
  | cons e rest ih =>
    obtain ⟨key, value⟩ := e
    have filtered : without ((key, value) :: rest) top =
        if canonicalKey key ∈ top.map (·.1) then without rest top
        else (key, value) :: without rest top := by
      by_cases h : canonicalKey key ∈ top.map (·.1) <;> simp only [without, List.filter_cons, h] <;>
        rfl
    rw [filtered, values_cons]
    by_cases hname : canonicalKey key = name
    · subst hname
      by_cases hmem : canonicalKey key ∈ top.map (·.1)
      · rw [if_pos hmem, ih, if_pos hmem, if_pos hmem]
      · rw [if_neg hmem, values_cons, ih, if_neg hmem, if_neg hmem]
    · rw [valueFor_of_ne hname, Option.toList_none, List.nil_append, ← ih]
      split
      · rfl
      · rw [values_cons, valueFor_of_ne hname]
        rfl

theorem map_fst_shadowed (base top : RawOptions) :
    (shadowed base top).map (·.1) = top.map (·.1) := by
  rw [shadowed, List.map_map]
  rfl

theorem shadowed_isPlain {top : RawOptions} (h : IsPlain top) (base : RawOptions) :
    IsPlain (shadowed base top) := by
  refine ⟨map_fst_shadowed base top ▸ h.distinct, ?_, ?_⟩ <;>
    simp only [shadowed, List.forall_mem_map]
  · exact h.canonical
  · intro e he
    cases hs : shadow base e.1 with
    | none => exact h.given e he
    | some value => exact ne_null_of_mem_values (List.mem_of_getLast? hs)

theorem shadowed_eq_self {base top : RawOptions}
    (h : ∀ e ∈ top, ∀ value, shadow base e.1 = some value → value = e.2) :
    shadowed base top = top := by
  refine (List.map_congr_left fun e he => ?_).trans top.map_id
  cases hs : shadow base e.1 with
  | none => rfl
  | some value => rw [h e he value hs, Option.getD_some, id]

theorem lookup_shadowed (base top : RawOptions) (name : String) :
    (shadowed base top).lookup name =
      (top.lookup name).map fun value => (shadow base name).getD value := by
  induction top with
  | nil => rfl
  | cons e rest ih =>
    rw [shadowed, List.map_cons, ← shadowed, lookup_cons, lookup_cons, ih]
    split
    · rename_i hname
      rw [hname]
      rfl
    · rfl

end RawOptions

/-- Normalizing options that were laid over others reads them with their shadows, and the others
where they give nothing. -/
theorem Options.normalize_overlay {top : RawOptions} (h : top.IsPlain) (base : RawOptions)
    (settings : Settings) : normalize settings (base.overlay top) =
      normalize settings (base.shadowed top ++ base.without top) := by
  refine normalize_congr (fun name => ?_) settings
  rw [RawOptions.lookup_canonicalize, RawOptions.lookup_canonicalize,
    RawOptions.getLast?_values_overlay h, RawOptions.values_append,
    (RawOptions.shadowed_isPlain h base).values_eq, RawOptions.lookup_shadowed,
    RawOptions.values_without]
  cases hl : top.lookup name with
  | none =>
    rw [if_neg ((RawOptions.lookup_eq_none_iff top name).1 hl)]
    rfl
  | some value =>
    have hmem : name ∈ top.map (·.1) :=
      List.mem_map_of_mem (f := (·.1)) (RawOptions.mem_of_lookup hl)
    rw [if_pos hmem]
    rfl

namespace CommandLine.Arguments

theorem map_fst_textOptions (options : List (String × Option String)) :
    ((options.filterMap fun (key, value) =>
      value.map fun text => (key, Json.string text)).map (·.1)).Sublist (options.map (·.1)) := by
  induction options with
  | nil => exact .slnil
  | cons e rest ih =>
    obtain ⟨key, value⟩ := e
    cases value with
    | none => exact ih.cons key
    | some text => exact ih.cons_cons key

/-- The names of the options that a command line can give. -/
def givenKeys : List String :=
  ["name", "database", "messaging", "auth", "crud", "operations", "path"] ++ flagOrder.map Flag.text

theorem rawOptions_sublist (a : Arguments) : (a.rawOptions.map (·.1)).Sublist givenKeys := by
  rw [rawOptions, List.map_append, List.map_map]
  exact (map_fst_textOptions _).append (List.filter_sublist.map _)

theorem rawOptions_isPlain (a : Arguments) : a.rawOptions.IsPlain where
  distinct := (rawOptions_sublist a).nodup (by decide)
  canonical := by
    have plain : ∀ key ∈ givenKeys, RawOptions.canonicalKey key = key := by decide
    exact fun e he => plain e.1 ((rawOptions_sublist a).subset (List.mem_map_of_mem he))
  given := by
    intro e he
    rcases List.mem_append.1 he with he | he
    · obtain ⟨⟨key, value⟩, -, hvalue⟩ := List.mem_filterMap.1 he
      obtain ⟨text, -, rfl⟩ := Option.map_eq_some_iff.1 hvalue
      simp
    · obtain ⟨flag, -, rfl⟩ := List.mem_map.1 he
      simp

/-- **The options of a run,** exactly: those of the command line with the shadows that the standard
input casts on them, and what else the standard input gives. -/
theorem normalize_options {a : Arguments} (hstdin : a.stdin) {text : String} {base : RawOptions}
    (hbase : RawOptions.parse text = .ok base) (settings : Options.Settings) :
    a.options (.ok text) >>= Options.normalize settings = Options.normalize settings
      (base.shadowed a.rawOptions ++ base.without a.rawOptions) := by
  rw [options, if_pos hstdin, ← Options.normalize_overlay (rawOptions_isPlain a)]
  simp only [bind, Except.bind, hbase, pure, Except.pure]

/-- **The command line has precedence** over the standard input, whose other options keep their
effect, if behind no option that the command line replaces another spelling of it has another
value. -/
theorem options_precedence {a : Arguments} (hstdin : a.stdin) {text : String} {base : RawOptions}
    (hbase : RawOptions.parse text = .ok base)
    (unshadowed : ∀ e ∈ a.rawOptions, ∀ value, base.shadow e.1 = some value → value = e.2)
    (settings : Options.Settings) :
    a.options (.ok text) >>= Options.normalize settings =
      Options.normalize settings (a.rawOptions ++ base.without a.rawOptions) := by
  rw [normalize_options hstdin hbase, RawOptions.shadowed_eq_self unshadowed]

/-- A command line that gives a database and reads the standard input. -/
def givenDatabase : Arguments :=
  { schematic := "one", name := some "user", database := some "mongodb", messaging := none
    auth := none, crud := none, operations := none, path := none, flags := [], verbose := false
    stdin := true, templates := none, workspace := "." }

/-- Options on the standard input, one of them in another spelling. -/
def otherSpelling : RawOptions := [("DB", .string "oracle"), ("flat", .bool true)]

theorem parse_otherSpelling :
    RawOptions.parse "\x7b\"DB\": \"oracle\", \"flat\": true\x7d" = .ok otherSpelling := by
  -- strings are read by recursion on what is left of the text, which `rfl` alone does not unfold
  with_unfolding_all rfl

/-- Another spelling alone does not count, and what the command line does not give does. -/
theorem givenDatabase_precedence :
    (Options.normalize ⟨[], "", none⟩ (givenDatabase.rawOptions ++
        otherSpelling.without givenDatabase.rawOptions)).map (fun o => (o.database, o.flat)) =
      .ok (.mongodb, true) ∧
    ∀ settings, givenDatabase.options (.ok "\x7b\"DB\": \"oracle\", \"flat\": true\x7d") >>=
        Options.normalize settings =
      Options.normalize settings
        (givenDatabase.rawOptions ++ otherSpelling.without givenDatabase.rawOptions) := by
  have unshadowed : ∀ e ∈ givenDatabase.rawOptions, otherSpelling.shadow e.1 = none := by
    decide +kernel
  refine ⟨rfl, options_precedence rfl parse_otherSpelling fun e he value hs => ?_⟩
  rw [unshadowed e he] at hs
  cases hs

/-- Options on the standard input that hold one of them in two spellings. -/
def twoSpellings : RawOptions := [("database", .string "oracle"), ("db", .string "mssql")]

theorem parse_twoSpellings :
    RawOptions.parse "\x7b\"database\": \"oracle\", \"db\": \"mssql\"\x7d" = .ok twoSpellings := by
  with_unfolding_all rfl

/-- The command line replaces the first spelling, and the second one counts. -/
theorem later_spelling_precedes :
    ¬ ∀ (a : Arguments) (text : String) (base : RawOptions) (settings : Options.Settings),
      a.stdin → RawOptions.parse text = .ok base →
        a.options (.ok text) >>= Options.normalize settings =
          Options.normalize settings (a.rawOptions ++ base.without a.rawOptions) := by
  intro claim
  have claimed := claim givenDatabase _ twoSpellings ⟨[], "", none⟩ rfl parse_twoSpellings
  rw [normalize_options rfl parse_twoSpellings] at claimed
  have masked : (Options.normalize ⟨[], "", none⟩ (twoSpellings.shadowed givenDatabase.rawOptions ++
      twoSpellings.without givenDatabase.rawOptions)).map (·.database) = .ok .mssql := rfl
  have expected : (Options.normalize ⟨[], "", none⟩ (givenDatabase.rawOptions ++
      twoSpellings.without givenDatabase.rawOptions)).map (·.database) = .ok .mongodb := rfl
  rw [claimed, expected] at masked
  cases masked

end CommandLine.Arguments
end Stencil
