import Stencil.Proofs.Template.Rendering
import Stencil.Proofs.Template.Scanning

/-!
# Templates one after another

A template is read once, from left to right. What stands in one part of it has no influence on
another part, be it a quote, a brace or the text that a placeholder gives: the pieces of two
templates are those of the first and those of the second (`pieces_append`), as long as the first is
closed and no opening braces meet at the seam. So the text of both is the text of the first and the
text of the second, and plain text is left as it is (`rendering_composes`).
-/
namespace Stencil.Template

/-! ## Pieces -/

theorem pieces_open (body : List Char) : pieces ('\x7b' :: '\x7b' :: body) =
    match cutClose .outside body with
    | some (before, after) => .placeholder before :: pieces after
    | none => [.unterminated] := by
  rw [pieces, bodyPieces_eq]
  rfl

theorem pieces_char {c : Char} {rest : List Char} (h : ¬ (c = '\x7b' ∧ rest.head? = some '\x7b')) :
    pieces (c :: rest) = .char c :: pieces rest := by
  rw [pieces]
  rintro rest' rfl rfl
  exact h ⟨rfl, rfl⟩

/-- The pieces of two templates are those of the first and those of the second. -/
theorem pieces_append {front back : List Char} (closed : .unterminated ∉ pieces front)
    (seam : ¬ (front.getLast? = some '\x7b' ∧ back.head? = some '\x7b')) :
    pieces (front ++ back) = pieces front ++ pieces back := by
  -- A placeholder is passed as a whole, so the induction is on the length.
  induction hn : front.length using Nat.strongRecOn generalizing front with
  | ind n ih =>
    subst hn
    cases front with
    | nil => simp [pieces]
    | cons c rest =>
      by_cases hopen : c = '\x7b' ∧ rest.head? = some '\x7b'
      · obtain ⟨rfl, hrest⟩ := hopen
        obtain ⟨body, rfl⟩ := List.head?_eq_some_iff.1 hrest
        rw [pieces_open] at closed
        rw [List.cons_append, List.cons_append, pieces_open, pieces_open]
        cases hcut : cutClose .outside body with
        | none => simp [hcut] at closed
        | some parts =>
          obtain ⟨before, after⟩ := parts
          obtain ⟨hbody, -⟩ := cutClose_eq_some hcut
          rw [cutClose_append_of_some back hcut]
          have hshorter : after.length < ('\x7b' :: '\x7b' :: body).length := by
            simp only [hbody, List.length_cons, List.length_append]
            omega
          have hclosed : .unterminated ∉ pieces after := by
            rw [hcut] at closed
            exact List.not_mem_of_not_mem_cons closed
          have hseam : ¬ (after.getLast? = some '\x7b' ∧ back.head? = some '\x7b') := by
            rintro ⟨hlast, hhead⟩
            refine seam ⟨?_, hhead⟩
            simp [hbody, List.getLast?_cons, List.getLast?_append, hlast]
          exact congrArg _ (ih _ hshorter hclosed hseam rfl)
      · have hopen' : ¬ (c = '\x7b' ∧ (rest ++ back).head? = some '\x7b') := by
          rintro ⟨rfl, hhead⟩
          cases rest with
          | nil => exact seam ⟨rfl, hhead⟩
          | cons d more => exact hopen ⟨rfl, hhead⟩
        rw [pieces_char hopen] at closed
        have hseam : ¬ (rest.getLast? = some '\x7b' ∧ back.head? = some '\x7b') := by
          rintro ⟨hlast, hhead⟩
          exact seam ⟨by simp [List.getLast?_cons, hlast], hhead⟩
        rw [List.cons_append, pieces_char hopen', pieces_char hopen, List.cons_append,
          ih _ (by simp) (List.not_mem_of_not_mem_cons closed) hseam rfl]

/-- Text without opening braces next to each other is plain. -/
theorem pieces_of_plain {cs : List Char} (h : ¬ ['\x7b', '\x7b'] <:+: cs) :
    pieces cs = cs.map .char := by
  induction cs with
  | nil => rw [pieces, List.map_nil]
  | cons c rest ih =>
    have hopen : ¬ (c = '\x7b' ∧ rest.head? = some '\x7b') := by
      rintro ⟨rfl, hrest⟩
      obtain ⟨more, rfl⟩ := List.head?_eq_some_iff.1 hrest
      exact h ⟨[], more, rfl⟩
    rw [pieces_char hopen, ih fun hrest => h (hrest.trans (List.suffix_cons c rest).isInfix),
      List.map_cons]

/-! ## Texts -/

section Values
variable {value : List Char → Except TemplateFault (List Char)}

/-- Pieces that have a text are closed. -/
theorem not_mem_of_renderPieces {ps : List Piece} {text : List Char}
    (h : renderPieces value ps = .ok text) : .unterminated ∉ ps := by
  intro hmem
  obtain ⟨before, after, rfl⟩ := List.append_of_mem hmem
  rw [renderPieces_append] at h
  obtain ⟨s, -, h⟩ := bind_eq_ok.1 h
  obtain ⟨t, ht, -⟩ := bind_eq_ok.1 h
  cases ht

theorem renderPieces_char (cs : List Char) : renderPieces value (cs.map .char) = .ok cs := by
  induction cs with
  | nil => rfl
  | cons c rest ih =>
    rw [List.map_cons, renderPieces, ih]
    rfl

end Values

section Templates
variable {origin template : String} {c : Context}

theorem render_eq_ok_iff {text : String} : render origin template c = .ok text ↔
    renderPieces (evaluate c) (pieces template.toList) = .ok text.toList := by
  rw [render]
  cases renderPieces (evaluate c) (pieces template.toList) with
  | error fault => simp
  | ok result => simp [String.ext_iff]

/-- The text of a first part is in front of the text of what follows. -/
theorem render_of_pieces {front back : List Piece} {text : List Char}
    (hpieces : pieces template.toList = front ++ back)
    (hfront : renderPieces (evaluate c) front = .ok text) {rest : String}
    (hback : pieces rest.toList = back) : render origin template c =
      (render origin rest c).map (String.ofList text ++ ·) := by
  rw [render, render, hpieces, renderPieces_append, hfront, hback]
  cases renderPieces (evaluate c) back with
  | error fault => rfl
  | ok result => exact congrArg Except.ok String.ofList_append

end Templates

/-- **Rendering is compositional.** Behind a template that has a text, another one gives its own
text or its own failure; what a placeholder gives stands in the text as it is, and so does a
template without placeholders. -/
theorem rendering_composes (origin : String) (c : Context) :
    (∀ front back text : String, render origin front c = .ok text →
      ¬ (front.toList.getLast? = some '\x7b' ∧ back.toList.head? = some '\x7b') →
      render origin (front ++ back) c = (render origin back c).map (text ++ ·)) ∧
    (∀ body back : String,
      cutClose .outside (body.toList ++ ['\x7d', '\x7d']) = some (body.toList, []) →
      render origin ("\x7b\x7b" ++ body ++ "\x7d\x7d" ++ back) c =
        match evaluate c body.toList with
        | .ok value => (render origin back c).map (String.ofList value ++ ·)
        | .error fault => .error (.template origin fault)) ∧
    ∀ plain : String, ¬ ['\x7b', '\x7b'] <:+: plain.toList → render origin plain c = .ok plain := by
  refine ⟨fun front back text hfront hseam => ?_, fun body back hcut => ?_, fun plain hplain => ?_⟩
  · rw [render_eq_ok_iff] at hfront
    have hpieces : pieces (front ++ back).toList = pieces front.toList ++ pieces back.toList := by
      rw [String.toList_append, pieces_append (not_mem_of_renderPieces hfront) hseam]
    rw [render_of_pieces hpieces hfront rfl, String.ofList_toList]
  · have hpieces : pieces ("\x7b\x7b" ++ body ++ "\x7d\x7d" ++ back).toList =
        [.placeholder body.toList] ++ pieces back.toList := by
      have htext : ("\x7b\x7b" ++ body ++ "\x7d\x7d" ++ back).toList =
          '\x7b' :: '\x7b' :: ((body.toList ++ ['\x7d', '\x7d']) ++ back.toList) := by
        simp
      rw [htext, pieces_open, cutClose_append_of_some _ hcut]
      rfl
    cases hvalue : evaluate c body.toList with
    | ok value =>
      have hfront : renderPieces (evaluate c) [.placeholder body.toList] = .ok value := by
        simp [renderPieces, hvalue, bind, Except.bind, pure, Except.pure]
      exact render_of_pieces hpieces hfront rfl
    | error fault =>
      have hnone : renderPieces (evaluate c) [] = .ok [] := rfl
      refine render_eq_error ?_
      rw [hpieces]
      exact renderPieces_error hnone hvalue
  · rw [render_eq_ok_iff, pieces_of_plain hplain]
    exact renderPieces_char plain.toList

/-- A name that looks like a placeholder and opens a quoted text. -/
def bracedContext : Context := { userContext with name := "\x7b\x7b path \x7d\x7d'" }

/-- A name that looks like a placeholder stays as it is and changes nothing behind it. -/
theorem bracedName_composes :
    render "t" ("\x7b\x7b name \x7d\x7d\x7b" ++ "'\x7b\x7b dash_name \x7d\x7d") bracedContext =
      .ok "\x7b\x7b path \x7d\x7d'\x7b'user" ∧
    render "t" ("\x7b\x7b" ++ "name ~ '\x7d\x7d'" ++ "\x7d\x7d" ++ "\x7b\x7b") bracedContext =
      .error (.template "t" .unterminated) ∧
    render "t" "'\x7b \x7b\x7d\x7d" bracedContext = .ok "'\x7b \x7b\x7d\x7d" := by
  obtain ⟨composes, placeholders, plain⟩ := rendering_composes "t" bracedContext
  refine ⟨?_, ?_, plain _ (by decide)⟩
  · rw [composes _ _ "\x7b\x7b path \x7d\x7d'\x7b" (by decide +kernel) (by decide)]
    decide +kernel
  · rw [placeholders _ _ (by decide)]
    decide +kernel

end Stencil.Template
