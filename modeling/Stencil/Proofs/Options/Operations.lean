import Stencil.Proofs.Options.Canonical
import Stencil.Proofs.Options.Choice
import Stencil.Proofs.Result
import Stencil.Proofs.Text.Pieces

/-!
# Operations as a set

The operations of a run are given as a text with commas, as a list of texts, or as lists within
lists. However they are written, they mean the set of the operations that the pieces between the
commas name, and all operations if there are only blank pieces; a piece that names no operation is
an error (`operations_as_set`).
-/
namespace Stencil

/-! ## Texts in lists -/

namespace Json

mutual

/-- The texts in a value, from left to right. -/
def strings : Json → List String
  | .string s => [s]
  | .array items => stringsIn items
  | .null | .bool _ | .number _ | .object _ => []

def stringsIn : List Json → List String
  | [] => []
  | item :: rest => strings item ++ stringsIn rest

end

/-- Whether a value is a text, or a list of texts and such lists. -/
inductive IsTexts : Json → Prop
  | string (s : String) : IsTexts (.string s)
  | array {items : List Json} (each : ∀ item ∈ items, IsTexts item) : IsTexts (.array items)

/-- The pieces between the commas of all texts in a value, but for the blank ones. -/
def pieces (v : Json) : List String :=
  (v.strings.flatMap (Text.split ',')).filter fun piece => Text.trim piece ≠ ""

theorem flatMap_words_strings (v : Json) :
    v.strings.flatMap (Text.words ',') = v.pieces.map Text.trim := by
  rw [pieces, List.filter_flatMap, List.map_flatMap]
  exact List.flatMap_congr fun s _ => Text.words_eq ',' s

end Json

namespace RawOptions
variable {field : String}

theorem textsOf_of_forall {items : List Json} (each : ∀ item ∈ items, ∃ s,
      textOf field item = .ok s ∧ Text.words ',' s = item.strings.flatMap (Text.words ',')) :
    ∃ parts, textsOf field items = .ok parts ∧
      parts.flatMap (Text.words ',') = (Json.stringsIn items).flatMap (Text.words ',') := by
  induction items with
  | nil => exact ⟨[], rfl, rfl⟩
  | cons item rest ih =>
    obtain ⟨⟨part, hpart, hword⟩, others⟩ := List.forall_mem_cons.1 each
    obtain ⟨parts, hparts, hwords⟩ := ih others
    refine ⟨part :: parts, ?_, ?_⟩
    · rw [textsOf, hpart, hparts]
      rfl
    · rw [List.flatMap_cons, hword, hwords, Json.stringsIn, List.flatMap_append]

/-- A value is written as a text that has the words of all texts in it. -/
theorem textOf_of_isTexts {v : Json} (texts : v.IsTexts) :
    ∃ s, textOf field v = .ok s ∧ Text.words ',' s = v.strings.flatMap (Text.words ',') := by
  induction texts with
  | string s =>
    refine ⟨Text.trim s, rfl, ?_⟩
    rw [Text.words_trim (by decide), Json.strings, List.flatMap_singleton]
  | array _ ih =>
    obtain ⟨parts, hparts, hwords⟩ := textsOf_of_forall ih
    refine ⟨",".intercalate parts, ?_, ?_⟩
    · rw [textOf, hparts]
      rfl
    · rw [Json.strings, ← hwords]
      exact Text.words_intercalate ',' parts

end RawOptions

/-! ## Lists of operations -/

theorem plainWord_trim (s : String) : plainWord (Text.trim s) = plainWord s := by
  rw [plainWord, Text.trim_trim, plainWord]

namespace Operation

/-- Whether a text is the name of an operation, in any letter case and with blanks around it. -/
def IsNamedBy (op : Operation) (piece : String) : Prop := plainWord piece = op.text

instance (op : Operation) (piece : String) : Decidable (op.IsNamedBy piece) :=
  inferInstanceAs (Decidable (plainWord piece = op.text))

/-- The operations that pieces mean: those that they name, and all if there are no pieces. -/
def meant (pieces : List String) : List Operation :=
  Operation.all.filter fun op => pieces = [] ∨ ∃ piece ∈ pieces, op.IsNamedBy piece

variable {list : String} {pieces : List String}

theorem parse_comp_trim :
    (Choice.parse ∘ Text.trim : String → Except Failure Operation) = Choice.parse := by
  funext piece
  rw [Function.comp_apply, Choice.parse, Choice.parse, plainWord_trim]

theorem parse_eq_ok_iff {piece : String} {op : Operation} :
    Choice.parse piece = .ok op ↔ op.IsNamedBy piece :=
  Choice.parse_eq_ok_iff

theorem parseList_eq (hwords : Text.words ',' list = pieces.map Text.trim) :
    parseList list = (pieces.mapM Choice.parse).map fun named =>
      if named.isEmpty then Operation.all else collect named := by
  rw [Text.words] at hwords
  rw [parseList, hwords, List.mapM_map, parse_comp_trim]
  cases pieces.mapM (Choice.parse (α := Operation)) <;> rfl

/-- What is read of the pieces one by one are the operations that they mean. -/
theorem collect_eq_meant {ops : List Operation}
    (hops : List.Forall₂ (fun piece op => Choice.parse piece = .ok op) pieces ops) :
    (if ops.isEmpty then Operation.all else collect ops) = meant pieces := by
  have hmem (op : Operation) : op ∈ ops ↔ ∃ piece ∈ pieces, op.IsNamedBy piece := by
    constructor
    · intro hop
      obtain ⟨piece, hpiece, hread⟩ := exists_of_forall₂ hops hop
      exact ⟨piece, hpiece, parse_eq_ok_iff.1 hread⟩
    · rintro ⟨piece, hpiece, hop⟩
      obtain ⟨op', hop', hread⟩ := exists_right_of_forall₂ hops hpiece
      cases (parse_eq_ok_iff.2 hop).symm.trans hread
      exact hop'
  cases hops with
  | nil => rfl
  | cons _ _ =>
    refine List.filter_congr fun op _ => ?_
    rw [Bool.eq_iff_iff, List.contains_iff_mem, decide_eq_true_iff, hmem,
      or_iff_right (List.cons_ne_nil _ _)]

theorem parseList_eq_ok_iff (hwords : Text.words ',' list = pieces.map Text.trim)
    {ops : List Operation} : parseList list = .ok ops ↔
      (∀ piece ∈ pieces, ∃ op : Operation, op.IsNamedBy piece) ∧ ops = meant pieces := by
  rw [parseList_eq hwords, map_eq_ok]
  constructor
  · rintro ⟨read, hread, rfl⟩
    have hops := forall₂_of_mapM hread
    refine ⟨fun piece hpiece => ?_, collect_eq_meant hops⟩
    obtain ⟨op, -, hop⟩ := exists_right_of_forall₂ hops hpiece
    exact ⟨op, parse_eq_ok_iff.1 hop⟩
  · rintro ⟨named, rfl⟩
    obtain ⟨read, hops⟩ : ∃ read, List.Forall₂ (fun piece op => Choice.parse piece = .ok op)
        pieces read :=
      exists_forall₂ fun piece hpiece => (named piece hpiece).imp fun _ => parse_eq_ok_iff.2
    exact ⟨read, mapM_eq_ok_iff.2 hops, collect_eq_meant hops⟩

theorem parseList_eq_error (hwords : Text.words ',' list = pieces.map Text.trim)
    {failure : Failure} (h : parseList list = .error failure) :
    ∃ piece ∈ pieces, (∀ op : Operation, ¬ op.IsNamedBy piece) ∧ failure =
      .invalidOptions "operations" (.unknownValue (plainWord piece) (all.map text)) := by
  rw [parseList_eq hwords] at h
  cases hread : pieces.mapM (Choice.parse (α := Operation)) with
  | ok ops =>
    rw [hread] at h
    cases h
  | error e =>
    rw [hread] at h
    cases h
    obtain ⟨piece, hpiece, he⟩ := exists_of_mapM_eq_error hread
    have hnone (op : Operation) : ¬ op.IsNamedBy piece := fun hop => by
      cases he.symm.trans (parse_eq_ok_iff.2 hop)
    exact ⟨piece, hpiece, hnone, Except.error.inj (he.symm.trans (Choice.parse_eq_error hnone))⟩

/-! ### The same words -/

section Same
variable {pieces' : List String}
  (same : ∀ word, word ∈ pieces.map plainWord ↔ word ∈ pieces'.map plainWord)
include same

theorem exists_named_congr {op : Operation} :
    (∃ piece ∈ pieces, op.IsNamedBy piece) ↔ ∃ piece ∈ pieces', op.IsNamedBy piece := by
  simpa [List.mem_map, IsNamedBy] using same op.text

theorem all_named_congr : (∀ piece ∈ pieces, ∃ op : Operation, op.IsNamedBy piece) ↔
    ∀ piece ∈ pieces', ∃ op : Operation, op.IsNamedBy piece := by
  have hwords (pieces : List String) : (∀ piece ∈ pieces, ∃ op : Operation, op.IsNamedBy piece) ↔
      ∀ word ∈ pieces.map plainWord, ∃ op : Operation, word = op.text := by
    simp [IsNamedBy]
  rw [hwords, hwords]
  exact forall_congr' fun word => imp_congr_left (same word)

theorem eq_nil_congr : pieces = [] ↔ pieces' = [] := by
  have hwords (pieces : List String) : pieces = [] ↔ ∀ word, word ∉ pieces.map plainWord := by
    rw [← List.eq_nil_iff_forall_not_mem, List.map_eq_nil_iff]
  rw [hwords, hwords]
  exact forall_congr' fun word => not_congr (same word)

/-- Pieces with the same words mean the same operations. -/
theorem meant_congr : meant pieces = meant pieces' :=
  List.filter_congr fun _ _ =>
    decide_eq_decide.2 (or_congr (eq_nil_congr same) (exists_named_congr same))

end Same

/-- Pieces that name operations mean at least one. -/
theorem meant_ne_nil (named : ∀ piece ∈ pieces, ∃ op : Operation, op.IsNamedBy piece) :
    meant pieces ≠ [] := by
  cases pieces with
  | nil => decide
  | cons piece rest =>
    obtain ⟨op, hop⟩ := named piece List.mem_cons_self
    refine List.ne_nil_of_mem (a := op) (List.mem_filter.2 ⟨LawfulChoice.mem_all op, ?_⟩)
    exact decide_eq_true (.inr ⟨piece, List.mem_cons_self, hop⟩)

end Operation

/-! ## The operations of a run -/

namespace Options

/-- The operations that canonical options hold, as `normalize` reads them. -/
def operationsOf (options : RawOptions) : Except Failure (List Operation) := do
  Operation.parseList ((← options.text? "operations").getD "")

section Given
variable {options : RawOptions} {v : Json} (given : options.lookup "operations" = some v)
include given

theorem operationsOf_eq : operationsOf options =
    RawOptions.textOf "operations" v >>= Operation.parseList := by
  rw [operationsOf, RawOptions.text?, given]
  dsimp only
  cases RawOptions.textOf "operations" v with
  | error e => rfl
  | ok s => by_cases hs : s = "" <;> simp [hs, bind, Except.bind, pure, Except.pure]

variable (texts : v.IsTexts)
include texts

theorem operationsOf_eq_ok_iff {operations : List Operation} :
    operationsOf options = .ok operations ↔
      (∀ piece ∈ v.pieces, ∃ op : Operation, op.IsNamedBy piece) ∧
        operations = Operation.meant v.pieces := by
  obtain ⟨s, hs, hwords⟩ := RawOptions.textOf_of_isTexts texts
  rw [operationsOf_eq given, hs]
  exact Operation.parseList_eq_ok_iff (hwords.trans v.flatMap_words_strings)

theorem operationsOf_eq_error {failure : Failure} (h : operationsOf options = .error failure) :
    ∃ piece ∈ v.pieces, (∀ op : Operation, ¬ op.IsNamedBy piece) ∧ failure =
      .invalidOptions "operations"
        (.unknownValue (plainWord piece) (Operation.all.map Operation.text)) := by
  obtain ⟨s, hs, hwords⟩ := RawOptions.textOf_of_isTexts texts
  rw [operationsOf_eq given, hs] at h
  exact Operation.parseList_eq_error (hwords.trans v.flatMap_words_strings) h

theorem operationsOf_fails_iff : (∃ failure, operationsOf options = .error failure) ↔
    ∃ piece ∈ v.pieces, ∀ op : Operation, ¬ op.IsNamedBy piece := by
  constructor
  · rintro ⟨failure, h⟩
    obtain ⟨piece, hpiece, hnone, -⟩ := operationsOf_eq_error given texts h
    exact ⟨piece, hpiece, hnone⟩
  · rintro ⟨piece, hpiece, hnone⟩
    cases h : operationsOf options with
    | error failure => exact ⟨failure, rfl⟩
    | ok operations =>
      obtain ⟨op, hop⟩ := ((operationsOf_eq_ok_iff given texts).1 h).1 piece hpiece
      exact absurd hop (hnone op)

end Given

section Normalized
variable {settings : Settings} {raw : RawOptions} {o : Options}

theorem operationsOf_of_normalize (h : normalize settings raw = .ok o) :
    operationsOf raw.canonicalize = .ok o.operations := by
  simp only [normalize, bind_eq_ok] at h
  obtain ⟨_, -, -, -, _, -, _, -, text, htext, operations, hoperations, _, -, _, -, _, -, _, -,
    _, -, _, -, _, -, _, -, _, -, h⟩ := h
  cases h
  rw [operationsOf, htext]
  exact hoperations

/-- The same options with other operations, which are known to be a name. -/
def withSelect (raw : RawOptions) : RawOptions := raw ++ [("operations", .string "select")]

theorem lookup_withSelect (name : String) : (withSelect raw).canonicalize.lookup name =
    if name = "operations" then some (.string "select") else raw.canonicalize.lookup name := by
  have hkey : RawOptions.canonicalKey "operations" = "operations" := by decide +kernel
  rw [RawOptions.lookup_canonicalize, RawOptions.lookup_canonicalize, withSelect,
    RawOptions.values_append, RawOptions.values_cons, List.getLast?_append]
  by_cases hname : name = "operations"
  · rw [if_pos hname, hname, if_pos (by decide), RawOptions.valueFor_of_eq hkey (by simp)]
    rfl
  · rw [if_neg hname, RawOptions.valueFor_of_ne (by rwa [hkey, ne_comm])]
    rfl

theorem text?_withSelect {field : String} (h : field ≠ "operations") :
    (withSelect raw).canonicalize.text? field = raw.canonicalize.text? field := by
  rw [RawOptions.text?, RawOptions.text?, lookup_withSelect, if_neg h]

theorem nameOf_withSelect :
    nameOf (withSelect raw).canonicalize = nameOf raw.canonicalize := by
  rw [nameOf, nameOf, text?_withSelect (by decide)]

theorem choice_withSelect {α : Type} [Choice α] (default : α) {field : String}
    (h : field ≠ "operations") :
    (withSelect raw).canonicalize.choice field default = raw.canonicalize.choice field default := by
  rw [RawOptions.choice, RawOptions.choice, text?_withSelect h]

theorem switch_withSelect {field : String} (h : field ≠ "operations") :
    (withSelect raw).canonicalize.switch field = raw.canonicalize.switch field := by
  rw [RawOptions.switch, RawOptions.switch, lookup_withSelect, if_neg h]

/-- If all else about the options is right, they are normalized exactly if their operations can be
read, and hold these operations. -/
theorem normalize_eq_map (h : normalize settings (withSelect raw) = .ok o)
    (required : checkRequired raw.canonicalize settings.required = .ok ()) :
    normalize settings raw =
      (operationsOf raw.canonicalize).map fun operations => { o with operations } := by
  simp only [normalize, bind_eq_ok] at h
  simp (disch := decide) only [nameOf_withSelect, text?_withSelect, choice_withSelect,
    switch_withSelect] at h
  obtain ⟨name, hname, -, -, path, hpath, place, hplace, _, -, _, -, database, hdatabase,
    messaging, hmessaging, auth, hauth, crud, hcrud, skipTests, hskip, flat, hflat, dryRun, hdry,
    applyMigrations, happly, force, hforce, h⟩ := h
  cases h
  simp only [normalize, operationsOf, bind, Except.bind, hname, required, hpath, hplace, hdatabase,
    hmessaging, hauth, hcrud, hskip, hflat, hdry, happly, hforce]
  cases raw.canonicalize.text? "operations" with
  | error e => rfl
  | ok text => cases Operation.parseList (text.getD "") <;> rfl

end Normalized

/-- **Operations are a set, however they are written.** Reading them fails exactly if a piece names
no operation, with an error about such a piece; else it gives the operations that the pieces mean,
which are never none. So writings with the same words give the same operations. They are those of
the normalized options, and all that the writing has an influence on. -/
theorem operations_as_set {raw : RawOptions} {v : Json}
    (given : raw.canonicalize.lookup "operations" = some v) (texts : v.IsTexts) :
    ((∃ failure, operationsOf raw.canonicalize = .error failure) ↔
      ∃ piece ∈ v.pieces, ∀ op : Operation, ¬ op.IsNamedBy piece) ∧
    (∀ failure, operationsOf raw.canonicalize = .error failure →
      ∃ piece ∈ v.pieces, (∀ op : Operation, ¬ op.IsNamedBy piece) ∧
        failure = .invalidOptions "operations"
          (.unknownValue (plainWord piece) (Operation.all.map Operation.text))) ∧
    (∀ operations, operationsOf raw.canonicalize = .ok operations →
      operations = Operation.meant v.pieces ∧ operations ≠ []) ∧
    (∀ (raw' : RawOptions) (v' : Json), raw'.canonicalize.lookup "operations" = some v' →
      v'.IsTexts → (∀ word, word ∈ v.pieces.map plainWord ↔ word ∈ v'.pieces.map plainWord) →
        (operationsOf raw.canonicalize).toOption = (operationsOf raw'.canonicalize).toOption) ∧
    ∀ (settings : Settings) (o : Options),
      (normalize settings raw = .ok o → operationsOf raw.canonicalize = .ok o.operations) ∧
      (normalize settings (withSelect raw) = .ok o →
        checkRequired raw.canonicalize settings.required = .ok () →
          normalize settings raw =
            (operationsOf raw.canonicalize).map fun operations => { o with operations }) := by
  refine ⟨operationsOf_fails_iff given texts, fun _ => operationsOf_eq_error given texts, ?_, ?_,
    fun settings o => ⟨operationsOf_of_normalize, normalize_eq_map⟩⟩
  · intro operations h
    obtain ⟨named, rfl⟩ := (operationsOf_eq_ok_iff given texts).1 h
    exact ⟨rfl, Operation.meant_ne_nil named⟩
  · intro raw' v' given' texts' same
    have hread (operations : List Operation) : operationsOf raw.canonicalize = .ok operations ↔
        operationsOf raw'.canonicalize = .ok operations := by
      rw [operationsOf_eq_ok_iff given texts, operationsOf_eq_ok_iff given' texts',
        Operation.all_named_congr same, Operation.meant_congr same]
    exact Option.ext fun operations => by rw [toOption_eq_some, toOption_eq_some, hread]

/-- Operations in a text with commas, in lists within a list, with blanks and blank pieces. -/
def scatteredOperations : Json :=
  .array [.string " Insert,, ", .array [.array [], .string "SELECT ,insert"], .string ""]

theorem scatteredOperations_isTexts : scatteredOperations.IsTexts := by
  refine .array ?_
  simp only [List.forall_mem_cons]
  refine ⟨.string _, .array ?_, .string _, by simp⟩
  simp only [List.forall_mem_cons]
  exact ⟨.array (by simp), .string _, by simp⟩

theorem pieces_scatteredOperations :
    scatteredOperations.pieces = [" Insert", "SELECT ", "insert"] := by
  decide +kernel

/-- They are the words of a text that has each of the two once and in another order. -/
theorem words_scatteredOperations (word : String) :
    word ∈ scatteredOperations.pieces.map plainWord ↔
      word ∈ (Json.string "select,insert").pieces.map plainWord := by
  have scattered : scatteredOperations.pieces.map plainWord = ["insert", "select", "insert"] := by
    decide +kernel
  have plain : (Json.string "select,insert").pieces.map plainWord = ["select", "insert"] := by
    decide +kernel
  rw [scattered, plain]
  simp [or_comm]

theorem scatteredOperations_meant :
    operationsOf (RawOptions.canonicalize [("ops", scatteredOperations)]) =
      .ok [.select, .insert] ∧
    operationsOf (RawOptions.canonicalize [("ops", scatteredOperations)]) =
      operationsOf (RawOptions.canonicalize [("Operations", .string "select,insert")]) := by
  have given : (RawOptions.canonicalize [("ops", scatteredOperations)]).lookup "operations" =
      some scatteredOperations := rfl
  obtain ⟨fails, -, reads, same, -⟩ := operations_as_set given scatteredOperations_isTexts
  have equal := same [("Operations", .string "select,insert")] _ rfl (.string _)
    words_scatteredOperations
  cases h : operationsOf (RawOptions.canonicalize [("ops", scatteredOperations)]) with
  | error failure =>
    obtain ⟨piece, hpiece, hnone⟩ := fails.1 ⟨failure, h⟩
    rw [pieces_scatteredOperations] at hpiece
    simp only [List.mem_cons, List.not_mem_nil, or_false] at hpiece
    rcases hpiece with rfl | rfl | rfl
    · exact absurd (by decide +kernel) (hnone .insert)
    · exact absurd (by decide +kernel) (hnone .select)
    · exact absurd (by decide +kernel) (hnone .insert)
  | ok operations =>
    obtain ⟨rfl, -⟩ := reads operations h
    rw [h] at equal
    exact ⟨by decide +kernel, (toOption_eq_some.1 equal.symm).symm⟩

end Options
end Stencil
