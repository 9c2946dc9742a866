import Stencil.Proofs.Layout.Flat
import Stencil.Proofs.Options.Names
import Stencil.Proofs.Text.Replace

/-!
# Which rendered paths are rejected

The name of a run holds no dots and no slashes, so writing it in place of its token makes no segment
empty and none lead elsewhere. What can still go wrong is the ending of templates: a file name that
consists of one or two dots in front of it. `resolve_rejects` says exactly which rendered paths are
rejected and what becomes of the others. It is the name with the token replaced that counts:
`..__name__` is rejected for the name `J2` (`dottedToken_rejected`).
-/
namespace Stencil

/-! ## Dash style in paths -/

namespace Identifier.Variants.Usable
variable {v : Variants}

/-- The dash style holds letters, numbers and dashes. -/
theorem mem_dash (h : v.Usable) {c : Char} (hc : c ∈ v.dash.toList) :
    Unicode.isAlphanumeric c ∨ c = '-' := by
  obtain ⟨words, -, hwords, hdash⟩ := h.dash
  rw [hdash] at hc
  clear hdash
  induction words with
  | nil => cases hc
  | cons word words ih =>
    obtain ⟨hword, hwords⟩ := List.forall_mem_cons.1 hwords
    by_cases hne : words = []
    · rw [hne, Text.join] at hc
      exact .inl (hword.2 c hc)
    · rw [Text.join_cons hne] at hc
      rcases List.mem_append.1 hc with hc | hc
      · exact .inl (hword.2 c hc)
      · rcases List.mem_cons.1 hc with rfl | hc
        · exact .inr rfl
        · exact ih hc hwords

theorem not_mem_dash (h : v.Usable) {c : Char} (hc : Unicode.isAlphanumeric c = false)
    (hne : c ≠ '-') : c ∉ v.dash.toList := by
  intro hmem
  rcases h.mem_dash hmem with halpha | rfl
  · rw [hc] at halpha
    cases halpha
  · exact hne rfl

theorem slash_not_mem_dash (h : v.Usable) : '/' ∉ v.dash.toList :=
  h.not_mem_dash (by decide) (by decide)

theorem dot_not_mem_dash (h : v.Usable) : '.' ∉ v.dash.toList :=
  h.not_mem_dash (by decide) (by decide)

theorem dash_ne_nil (h : v.Usable) : v.dash.toList ≠ [] := by
  obtain ⟨words, hne, hwords, hdash⟩ := h.dash
  obtain ⟨word, words, rfl⟩ := List.exists_cons_of_ne_nil hne
  obtain ⟨⟨hword, -⟩, -⟩ := List.forall_mem_cons.1 hwords
  rw [hdash]
  cases words with
  | nil => exact hword
  | cons next rest => simp [Text.join]

end Identifier.Variants.Usable

namespace Layout

/-! ## Segments -/

theorem isPlainSegment_iff {s : Segment} :
    isPlainSegment s ↔ s ≠ [] ∧ s ≠ ['.'] ∧ s ≠ ['.', '.'] := by
  simp [isPlainSegment, and_assoc]

/-- A segment is a valid path exactly if it is plain. -/
theorem isValidPath_segment {s : Segment} (hs : '/' ∉ s) : isValidPath s ↔ isPlainSegment s := by
  rw [isValidPath_iff, Text.splitAt_of_not_mem hs, List.forall_mem_singleton]

/-- With another character than a dot a segment is plain. -/
theorem isPlainSegment_of_mem {s : Segment} {c : Char} (hmem : c ∈ s) (hc : c ≠ '.') :
    isPlainSegment s := by
  rw [isPlainSegment_iff]
  refine ⟨List.ne_nil_of_mem hmem, ?_, ?_⟩
  · rintro rfl
    simp_all
  · rintro rfl
    simp_all

theorem nameToken_ne_nil : nameToken ≠ [] := by decide

/-- With the name in place of its token, a segment stays one and stays plain. -/
theorem isPlainSegment_replaced {v : Identifier.Variants} (hv : v.Usable) {s written : Segment}
    (h : Text.Replaces nameToken v.dash.toList s written) (hs : '/' ∉ s)
    (plain : isPlainSegment s) : '/' ∉ written ∧ isPlainSegment written := by
  constructor
  · intro hmem
    rcases List.mem_append.1 (h.subset hmem) with hmem | hmem
    · exact hs hmem
    · exact hv.slash_not_mem_dash hmem
  · rcases h.eq_or_subset with rfl | hdash
    · exact plain
    · obtain ⟨c, rest, hcons⟩ := List.exists_cons_of_ne_nil hv.dash_ne_nil
      have hc : c ∈ v.dash.toList := hcons ▸ List.mem_cons_self
      refine isPlainSegment_of_mem (hdash hc) ?_
      rintro rfl
      exact hv.dot_not_mem_dash hc

/-! ## The ending of templates -/

/-- Whether a file name has the ending of templates and two dots at least. -/
def HasEnding (name : Segment) : Prop := templateEnding <:+ name ∧ 2 ≤ name.count '.'

instance : DecidablePred HasEnding := fun name =>
  inferInstanceAs (Decidable (templateEnding <:+ name ∧ 2 ≤ name.count '.'))

theorem isTemplateName_iff {name : Segment} : isTemplateName name ↔ HasEnding name := by
  rw [isTemplateName, Bool.and_eq_true, decide_eq_true_eq, Text.length_splitAt, Text.endsWith_iff,
    HasEnding, and_comm]
  exact and_congr_right' ⟨Nat.le_of_succ_le_succ, Nat.succ_le_succ⟩

/-- Whether `result` is `name` without the ending of templates, or `name` itself if it has none. -/
def Strips (name result : Segment) : Prop :=
  (HasEnding name ∧ name = result ++ templateEnding) ∨ (¬ HasEnding name ∧ result = name)

theorem stripEnding_strips (name : Segment) : Strips name (stripEnding name) := by
  rw [stripEnding]
  split
  · rename_i hname
    have ending := isTemplateName_iff.1 hname
    obtain ⟨front, rfl⟩ := ending.1
    exact .inl ⟨ending, by simp⟩
  · rename_i hname
    exact .inr ⟨fun ending => hname (isTemplateName_iff.2 ending), rfl⟩

theorem Strips.subset {name result : Segment} (h : Strips name result) : result ⊆ name := by
  rcases h with ⟨-, rfl⟩ | ⟨-, rfl⟩
  · exact List.subset_append_left ..
  · exact List.Subset.refl _

/-- What is left of a plain file name is plain unless it is made of dots. -/
theorem Strips.isPlainSegment_iff {name result : Segment} (h : Strips name result)
    (plain : isPlainSegment name) : isPlainSegment result ↔
      ¬ (name = "..j2".toList ∨ name = "...j2".toList) := by
  rcases h with ⟨⟨-, dots⟩, rfl⟩ | ⟨bare, rfl⟩
  · -- Two dots in all are one in front of the ending, so something is left.
    have hne : result ≠ [] := by
      rintro rfl
      exact absurd dots (by decide)
    have left (front : Segment) : result ++ templateEnding = front ++ templateEnding ↔
        result = front := List.append_left_inj templateEnding
    have one : result ++ templateEnding = "..j2".toList ↔ result = ['.'] := left ['.']
    have two : result ++ templateEnding = "...j2".toList ↔ result = ['.', '.'] := left ['.', '.']
    rw [Layout.isPlainSegment_iff, one, two]
    tauto
  · refine iff_of_true plain ?_
    rintro (rfl | rfl)
    · exact bare (by decide)
    · exact bare (by decide)

/-! ## Rendered paths -/

/-- Whether a rendered path names no file: it is empty, a segment of it is empty or made of one or
two dots, or the ending of templates stands behind one or two dots in the file name with the token
replaced. -/
def IsUnusable (dashName : List Char) (path : String) : Prop :=
  path = "" ∨
  (∃ s ∈ Text.splitAt '/' path.toList, s = [] ∨ s = ['.'] ∨ s = ['.', '.']) ∨
  ∃ file ∈ (Text.splitAt '/' path.toList).getLast?, ∃ written,
    Text.Replaces nameToken dashName file written ∧
      (written = "..j2".toList ∨ written = "...j2".toList)

/-- Where a rendered path goes in the nested layout: the names of the destination, then as many as
the path has segments, with the name in place of the token and without the ending of templates. -/
def LiesAt (o : Options) (path nested : String) : Prop :=
  ∃ dirs file dirs' written file', Text.splitAt '/' path.toList = dirs ++ [file] ∧
    List.Forall₂ (Text.Replaces nameToken o.names.dash.toList) dirs dirs' ∧
    Text.Replaces nameToken o.names.dash.toList file written ∧ Strips written file' ∧
    Text.split '/' nested = Destination.names o.path ++ (dirs' ++ [file']).map String.ofList

/-- A segment with the name in place of its token. -/
def named (dashName : List Char) (s : Segment) : Segment := Text.replaceFirst nameToken dashName s

theorem replaces_iff_named {dashName : List Char} {s written : Segment} :
    Text.Replaces nameToken dashName s written ↔ written = named dashName s :=
  Text.replaces_iff nameToken_ne_nil

theorem named_replaces (dashName : List Char) (s : Segment) :
    Text.Replaces nameToken dashName s (named dashName s) :=
  replaces_iff_named.2 rfl

/-- What becomes of the directories and the file of a rendered path. -/
def resolvedSegments (dashName : List Char) (dirs : List Segment) (file : Segment) :
    List Segment :=
  dirs.map (named dashName) ++ [stripEnding (named dashName file)]

/-- A rendered path is substituted if its segments are plain before and after. -/
theorem substitute_cases {path : List Char} {dirs : List Segment} {file : Segment}
    (hsplit : Text.splitAt '/' path = dirs ++ [file]) (dashName : List Char) :
    ((∀ s ∈ dirs ++ [file], isPlainSegment s) ∧
      (∀ s ∈ resolvedSegments dashName dirs file, isValidPath s) ∧
      substitute path dashName = .ok (resolvedSegments dashName dirs file, keptCount dirs)) ∨
    (¬ ((∀ s ∈ dirs ++ [file], isPlainSegment s) ∧
      ∀ s ∈ resolvedSegments dashName dirs file, isValidPath s) ∧
      ∃ p, substitute path dashName = .error (.pathEscape p)) := by
  have hvalid := isValidPath_iff path
  have hjoin : isValidPath (Text.join ['/'] (resolvedSegments dashName dirs file)) ↔ _ :=
    isValidPath_join (by simp [resolvedSegments])
  rw [hsplit] at hvalid
  rw [← hvalid, ← hjoin]
  simp only [substitute, hsplit, List.dropLast_concat, List.map_append, List.map_cons,
    List.map_nil, mapLast_concat]
  cases isValidPath path with
  | false => exact .inr ⟨by simp, _, rfl⟩
  | true =>
    simp only [Bool.not_true, Bool.false_eq_true, if_false]
    split
    · rename_i hsegments
      exact .inl ⟨trivial, hsegments, rfl⟩
    · rename_i hsegments
      exact .inr ⟨fun h => hsegments h.2, _, rfl⟩

/-- The segments that come of plain ones are valid if the ending leaves a plain file name. -/
theorem forall_isValidPath_iff {v : Identifier.Variants} (hv : v.Usable) {dirs : List Segment}
    {file : Segment} (hslash : ∀ s ∈ dirs ++ [file], '/' ∉ s)
    (plain : ∀ s ∈ dirs ++ [file], isPlainSegment s) :
    (∀ s ∈ resolvedSegments v.dash.toList dirs file, '/' ∉ s) ∧
    ((∀ s ∈ resolvedSegments v.dash.toList dirs file, isValidPath s) ↔
      ¬ (named v.dash.toList file = "..j2".toList ∨
        named v.dash.toList file = "...j2".toList)) := by
  have replaced : ∀ s ∈ dirs ++ [file],
      '/' ∉ named v.dash.toList s ∧ isPlainSegment (named v.dash.toList s) := fun s hs =>
    isPlainSegment_replaced hv (named_replaces _ s) (hslash s hs) (plain s hs)
  simp only [List.forall_mem_append, List.forall_mem_singleton] at replaced
  obtain ⟨hdirs, hfile, hplain⟩ := replaced
  have hstrip := stripEnding_strips (named v.dash.toList file)
  have hslash' : '/' ∉ stripEnding (named v.dash.toList file) := fun hmem =>
    hfile (hstrip.subset hmem)
  simp only [resolvedSegments, List.forall_mem_append, List.forall_mem_singleton,
    List.forall_mem_map]
  refine ⟨⟨fun s hs => (hdirs s hs).1, hslash'⟩, ?_⟩
  rw [isValidPath_segment hslash', hstrip.isPlainSegment_iff hplain, and_iff_right_iff_imp]
  exact fun _ s hs => (isValidPath_segment (hdirs s hs).1).2 (hdirs s hs).2

theorem flatMap_splitAt {segments : List Segment} (h : ∀ s ∈ segments, '/' ∉ s) :
    segments.flatMap (Text.splitAt '/') = segments := by
  rw [List.flatMap_congr (g := fun s => [s]) fun s hs => Text.splitAt_of_not_mem (h s hs)]
  exact List.flatMap_singleton' segments

theorem isUnusable_iff {dashName : List Char} {path : String} {dirs : List Segment}
    {file : Segment} (hsplit : Text.splitAt '/' path.toList = dirs ++ [file]) :
    IsUnusable dashName path ↔ ¬ (∀ s ∈ dirs ++ [file], isPlainSegment s) ∨
      (named dashName file = "..j2".toList ∨ named dashName file = "...j2".toList) := by
  have hplain : (∃ s ∈ dirs ++ [file], s = [] ∨ s = ['.'] ∨ s = ['.', '.']) ↔
      ¬ ∀ s ∈ dirs ++ [file], isPlainSegment s := by
    simp only [Layout.isPlainSegment_iff]
    push Not
    exact exists_congr fun s => and_congr_right' (by tauto)
  have hempty : path = "" → ¬ ∀ s ∈ dirs ++ [file], isPlainSegment s := by
    rintro rfl hall
    exact absurd (hall [] (hsplit ▸ List.mem_singleton_self [])) (by decide)
  rw [IsUnusable, hsplit, List.getLast?_concat, hplain]
  simp only [replaces_iff_named, exists_eq_left, Option.mem_def, Option.some.injEq,
    exists_eq_left']
  tauto

/-- **Exactly the unusable paths are rejected.** Every other path has a place, which goes on behind
the destination by as many names as the path has segments. -/
theorem resolve_rejects {settings : Options.Settings} {raw : RawOptions} {o : Options}
    (h : Options.normalize settings raw = .ok o) (path : String) :
    (IsUnusable o.names.dash.toList path → ∃ p, resolve o path = .error (.pathEscape p)) ∧
    (¬ IsUnusable o.names.dash.toList path →
      ∃ place, resolve o path = .ok place ∧ LiesAt o path place.nested) := by
  obtain hnil | ⟨dirs, file, hsplit⟩ := List.eq_nil_or_concat' (Text.splitAt '/' path.toList)
  · exact absurd hnil (Text.splitAt_ne_nil '/' path.toList)
  have hslash : ∀ s ∈ dirs ++ [file], '/' ∉ s := fun s hs =>
    Text.not_mem_of_mem_splitAt (hsplit ▸ hs)
  obtain ⟨hname, hnames⟩ := Options.normalize_name h
  have usable : o.names.Usable := hnames ▸ Identifier.ofName_usable hname
  have segments := forall_isValidPath_iff usable hslash
  rw [isUnusable_iff hsplit]
  rcases substitute_cases hsplit o.names.dash.toList with ⟨plain, valid, hok⟩ | ⟨invalid, p, herror⟩
  · obtain ⟨hslash', hvalid⟩ := segments plain
    refine ⟨fun hun => absurd (hun.resolve_left (not_not_intro plain)) (hvalid.1 valid),
      fun _ => ?_⟩
    have hnested : ∃ place, resolve o path = .ok place ∧
        place.nested = below o.path (resolvedSegments o.names.dash.toList dirs file) := by
      simp only [resolve, hok, bind, Except.bind]
      split
      · exact ⟨_, rfl, rfl⟩
      · exact ⟨_, rfl, rfl⟩
    obtain ⟨place, hplace, hnested⟩ := hnested
    refine ⟨place, hplace, dirs, file, dirs.map (named o.names.dash.toList), _, _, hsplit, ?_,
      named_replaces _ file, stripEnding_strips _, ?_⟩
    · exact List.forall₂_map_right_iff.2 (List.forall₂_same.2 fun s _ => named_replaces _ s)
    · rw [hnested, split_below o.path (by simp [resolvedSegments]), flatMap_splitAt hslash']
      rfl
  · refine ⟨fun _ => ⟨p, ?_⟩, fun husable => ?_⟩
    · rw [resolve, herror]
      rfl
    · obtain ⟨plain, husable⟩ := not_or.1 husable
      have plain := not_not.1 plain
      exact absurd ⟨plain, (segments plain).2.2 husable⟩ invalid

/-- A name that is the ending of templates but for its dot. -/
def endingName : RawOptions := [("name", .string "J2"), ("path", .string "src/app")]

theorem endingName_accepted : ∃ o, Options.normalize ⟨[], "", none⟩ endingName = .ok o ∧
    o.names.dash.toList = ['j', '2'] := by
  have given : (Options.normalize ⟨[], "", none⟩ endingName).map (·.names.dash) = .ok "j2" := by
    decide +kernel
  obtain ⟨o, accepted, hdash⟩ := map_eq_ok.1 given
  exact ⟨o, accepted, by rw [hdash]; rfl⟩

/-- It makes a file name of dots unusable, and others not. -/
theorem endingName_rejects : ∃ o, Options.normalize ⟨[], "", none⟩ endingName = .ok o ∧
    (∃ p, resolve o "..__name__" = .error (.pathEscape p)) ∧
    ∃ place, resolve o "a/__name__.__name__.j2" = .ok place ∧
      LiesAt o "a/__name__.__name__.j2" place.nested := by
  obtain ⟨o, accepted, hdash⟩ := endingName_accepted
  refine ⟨o, accepted, (resolve_rejects accepted _).1 ?_, (resolve_rejects accepted _).2 ?_⟩
  · have hsplit : Text.splitAt '/' "..__name__".toList = [] ++ ["..__name__".toList] := by decide
    rw [isUnusable_iff hsplit, hdash]
    decide
  · have hsplit : Text.splitAt '/' "a/__name__.__name__.j2".toList =
        [['a']] ++ ["__name__.__name__.j2".toList] := by decide
    rw [isUnusable_iff hsplit, hdash]
    decide

/-- It is not the file name as rendered that counts: the name can complete the ending. -/
theorem dottedToken_rejected :
    ¬ ∀ (settings : Options.Settings) (raw : RawOptions) (o : Options),
      Options.normalize settings raw = .ok o → ∀ path : String,
        (∃ p, resolve o path = .error (.pathEscape p)) ↔
          path = "" ∨ (∃ s ∈ Text.split '/' path, s = "" ∨ s = "." ∨ s = "..") ∨
            ∃ file ∈ (Text.split '/' path).getLast?, file = "..j2" ∨ file = "...j2" := by
  intro claim
  obtain ⟨o, accepted, hdash⟩ := endingName_accepted
  have rejected : resolve o "..__name__" = .error (.pathEscape ".") := by
    have hsub : substitute "..__name__".toList ['j', '2'] = .error (.pathEscape ".") := by
      decide +kernel
    rw [resolve, hdash, hsub]
    rfl
  have hbad := (claim _ _ o accepted "..__name__").1 ⟨".", rejected⟩
  exact absurd hbad (by decide +kernel)

end Layout
end Stencil
