/-
Declarations in written form. What is read of a declaration, written out and read again, is the same
property and the same value. When all is closed at the end of a body, the valid declarations in it
can be written one after the other, each with a semicolon, and are cut apart again.
-/
import CssSurvey.Declaration
import CssSurvey.Proofs.Comment
import CssSurvey.Proofs.TopLevel

namespace CssSurvey

namespace Declaration

/-! ## Print and parse -/

theorem parse_of_colon {text before after : Text} (htext : text.trim = before ++ ':' :: after)
    (hbefore : ':' ∉ before) :
    let value := (splitFrom ';' .top after).1.trim
    parse text = ⟨before.trim, value,
      !before.trim.isEmpty && !value.isEmpty && (splitFrom ';' .top after).2.all Text.isBlank⟩ := by
  have hrest := Text.dropWhile_ne_append_cons hbefore after
  have hhead := Text.takeWhile_ne_append_cons hbefore after
  unfold parse
  simp only [htext, hrest, hhead]

theorem parse_of_colonFree {text : Text} (h : ':' ∉ text.trim) :
    parse text = ⟨Text.trim (text.trim.dropEndWhile (· = ';')), [], false⟩ := by
  unfold parse
  simp only [Text.dropWhile_ne_eq_nil h]

/-- What reading leaves of a declaration: trimmed sides, no colon in the property and nothing in the
value where it could be cut. -/
structure Printable (d : Declaration) : Prop where
  trim_property : d.property.trim = d.property
  colonFree_property : ':' ∉ d.property
  trim_value : d.value.trim = d.value
  uncut_value : Uncut ';' .top d.value

/-- White space around and inside a text changes nothing about its cuts at semicolons. -/
theorem uncut_iff {a b : Text} (h : Text.ink a = Text.ink b) : Uncut ';' .top a ↔ Uncut ';' .top b :=
  uncut_iff_of_ink_eq Nesting.proper_top (by decide) h

theorem printable_parse (text : Text) : (parse text).Printable := by
  by_cases h : ':' ∈ text.trim
  · obtain ⟨before, after, hsplit, hbefore⟩ := List.eq_append_cons_of_mem h
    rw [parse_of_colon hsplit hbefore]
    exact ⟨Text.trim_trim _, fun hmem => hbefore ((Text.trim_isInfix _).subset hmem), Text.trim_trim _,
      (uncut_iff (Text.ink_trim _)).2 (uncut_splitFrom _ _ _).1⟩
  · rw [parse_of_colonFree h]
    refine ⟨Text.trim_trim _, fun hmem => h ?_, rfl, rfl⟩
    exact (Text.dropEndWhile_isInfix _ _).subset ((Text.trim_isInfix _).subset hmem)

/-- Reading the written form gives back both sides. -/
theorem Printable.parse_render {d : Declaration} (h : d.Printable) :
    parse d.render = ⟨d.property, d.value, !d.property.isEmpty && !d.value.isEmpty⟩ := by
  have htext : d.render.trim = d.property.trimStart ++ ':' :: Text.trimEnd (' ' :: d.value) := by
    rw [render, List.append_assoc]
    exact Text.trim_append_cons (by decide) ..
  have hcolon : ':' ∉ d.property.trimStart := fun hmem =>
    h.colonFree_property ((List.dropWhile_suffix _).subset hmem)
  have huncut : Uncut ';' .top (Text.trimEnd (' ' :: d.value)) :=
    (uncut_iff (Text.ink_trimEnd (' ' :: d.value))).2 h.uncut_value
  have hvalue : Text.trim (' ' :: d.value) = d.value := by
    have hspace : Text.isBlank [' '] := by decide
    have := Text.trim_append_of_isBlank_left hspace d.value
    rw [h.trim_value] at this
    exact this
  rw [parse_of_colon htext hcolon, huncut.splitFrom_eq, Text.trim_trimStart, h.trim_property,
    Text.trim_trimEnd, hvalue]
  simp

theorem parse_render_of_isValid {text : Text} (h : (parse text).isValid) :
    parse (parse text).render = parse text := by
  have hsides : (parse text).property.isEmpty = false ∧ (parse text).value.isEmpty = false := by
    by_cases hcolon : ':' ∈ text.trim
    · obtain ⟨before, after, hsplit, hbefore⟩ := List.eq_append_cons_of_mem hcolon
      rw [parse_of_colon hsplit hbefore] at h ⊢
      simp only [Bool.and_eq_true, Bool.not_eq_true'] at h
      exact h.1
    · rw [parse_of_colonFree hcolon] at h
      cases h
  rw [(printable_parse text).parse_render, hsides.1, hsides.2]
  rcases hd : parse text with ⟨property, value, isValid⟩
  rw [hd] at h
  obtain rfl : isValid = true := h
  rfl

/-- Writing a declaration out and reading it again settles it: both sides stay what they were, whether it was
valid or not, and it is valid from then on exactly when neither side is empty. -/
theorem parse_render_parse (text : Text) :
    let d := parse text
    let e := parse d.render
    (e.property = d.property ∧ e.value = d.value) ∧ (e.isValid ↔ e.property ≠ [] ∧ e.value ≠ []) ∧
      (d.isValid → e = d) ∧ parse e.render = e := by
  intro d e
  have he : e = ⟨d.property, d.value, !d.property.isEmpty && !d.value.isEmpty⟩ :=
    (printable_parse text).parse_render
  have hvalid : e.isValid ↔ e.property ≠ [] ∧ e.value ≠ [] := by
    rw [he]
    simp
  refine ⟨⟨by rw [he], by rw [he]⟩, hvalid, parse_render_of_isValid, ?again⟩
  case again =>
    -- The written form of `e` is that of `d`, since only the sides are written.
    have hrender : e.render = d.render := by rw [he, render, render]
    rw [hrender]

/-- Both sides stand in the text as they are. -/
theorem sides_isInfix (text : Text) : (parse text).property <:+: text ∧ (parse text).value <:+: text := by
  by_cases h : ':' ∈ text.trim
  · obtain ⟨before, after, hsplit, hbefore⟩ := List.eq_append_cons_of_mem h
    have hbeforeIn : before <:+: text.trim := ⟨[], ':' :: after, hsplit.symm⟩
    have hafterIn : after <:+: text.trim := ⟨before ++ [':'], [], by simp [hsplit]⟩
    have hfirst : (splitFrom ';' .top after).1 <:+: after :=
      isInfix_of_mem_splitTop (List.mem_cons_self ..)
    rw [parse_of_colon hsplit hbefore]
    exact ⟨(Text.trim_isInfix _).trans (hbeforeIn.trans (Text.trim_isInfix _)),
      (Text.trim_isInfix _).trans (hfirst.trans (hafterIn.trans (Text.trim_isInfix _)))⟩
  · rw [parse_of_colonFree h]
    exact ⟨(Text.trim_isInfix _).trans ((Text.dropEndWhile_isInfix _ _).trans (Text.trim_isInfix _)),
      List.nil_infix⟩

/-! ## What reading leaves of a statement -/

theorem ink_render (d : Declaration) : Text.ink d.render = Text.ink d.property ++ ':' :: Text.ink d.value := by
  have hcolon : Text.ink [':', ' '] = [':'] := by decide
  rw [render, Text.ink_append, Text.ink_append, hcolon, List.append_assoc]
  rfl

theorem ink_render_of_colon {text before after : Text} (htext : text.trim = before ++ ':' :: after)
    (hbefore : ':' ∉ before) :
    Text.ink (parse text).render = Text.ink (before ++ ':' :: (splitFrom ';' .top after).1) := by
  rw [parse_of_colon htext hbefore, ink_render, Text.ink_trim, Text.ink_trim, Text.ink_append,
    Text.ink_cons_of_not_isBlank (by decide)]

theorem ink_render_of_colonFree {text : Text} (h : ':' ∉ text.trim) :
    Text.ink (parse text).render = Text.ink (text.trim.dropEndWhile (· = ';') ++ [':']) := by
  rw [parse_of_colonFree h, ink_render, Text.ink_trim, Text.ink_append]
  rfl

/-- Both sides stand in the text one after the other. -/
theorem sides_sublist (text : Text) : ((parse text).property ++ (parse text).value).Sublist text := by
  by_cases h : ':' ∈ text.trim
  · obtain ⟨before, after, hsplit, hbefore⟩ := List.eq_append_cons_of_mem h
    have hvalue : (splitFrom ';' .top after).1.trim.Sublist after :=
      (Text.trim_isInfix _).sublist.trans (prefix_splitFrom _ _ _).sublist
    have hsides := (Text.trim_isInfix before).sublist.append (hvalue.cons ':')
    rw [parse_of_colon hsplit hbefore]
    rw [← hsplit] at hsides
    exact hsides.trans (Text.trim_isInfix _).sublist
  · rw [parse_of_colonFree h, List.append_nil]
    exact ((Text.trim_isInfix _).sublist.trans (Text.dropEndWhile_isInfix _ _).sublist).trans
      (Text.trim_isInfix _).sublist

/-- The written form of a statement that is not cut is not cut either. -/
theorem uncut_render {statement : Text} (h : Uncut ';' .top statement) :
    Uncut ';' .top (parse statement).render := by
  replace h := (uncut_iff (Text.ink_trim _)).2 h
  by_cases hcolon : ':' ∈ statement.trim
  · obtain ⟨before, after, hsplit, hbefore⟩ := List.eq_append_cons_of_mem hcolon
    obtain ⟨rest, hrest⟩ := prefix_splitFrom ';' .top after
    rw [uncut_iff (ink_render_of_colon hsplit hbefore)]
    rw [hsplit, ← hrest, ← List.cons_append, ← List.append_assoc] at h
    exact (uncut_append.1 h).1
  · rw [uncut_iff (ink_render_of_colonFree hcolon), uncut_append]
    rw [← Text.dropEndWhile_append (· = ';') statement.trim] at h
    exact ⟨(uncut_append.1 h).1, uncut_of_not_mem (by decide)⟩

/-- The written form of a statement that closes all it opens does so too, unless the statement was cut
behind the value, and then the value does. -/
theorem after_render_or_after_value {statement : Text} (h : Nesting.top.after statement = .top) :
    Nesting.top.after (parse statement).render = .top ∨ Nesting.top.after (parse statement).value = .top := by
  have hproper := Nesting.proper_top
  replace h := (Nesting.after_eq_of_ink_eq hproper (Text.ink_trim _)).trans h
  by_cases hcolon : ':' ∈ statement.trim
  · obtain ⟨before, after, hsplit, hbefore⟩ := List.eq_append_cons_of_mem hcolon
    by_cases hcut : (splitFrom ';' .top after).2 = []
    · rw [Nesting.after_eq_of_ink_eq hproper (ink_render_of_colon hsplit hbefore),
        Uncut.splitFrom_eq hcut, ← hsplit]
      exact .inl h
    · refine .inr ?_
      rw [parse_of_colon hsplit hbefore]
      exact (Nesting.after_eq_of_ink_eq hproper (Text.ink_trim _)).trans (after_splitFrom_of_ne_nil hcut)
  · refine .inl ?_
    have hends : ∀ c ∈ (statement.trim.reverse.takeWhile (· = ';')).reverse, Nesting.isDelimiter c = false := by
      intro c hc
      have : c = ';' := by simpa using List.all_eq_true.1 List.all_takeWhile c (List.mem_reverse.1 hc)
      rw [this]
      decide
    rw [← Text.dropEndWhile_append (· = ';') statement.trim, Nesting.after_append,
      Nesting.after_of_not_delimiter (hproper.after _) hends] at h
    rw [Nesting.after_eq_of_ink_eq hproper (ink_render_of_colonFree hcolon), Nesting.after_append, h]
    rfl

/-! ## Declarations of a closed body -/

theorem isDelimiter_of_mem_intercalate {parts : List Text} (h : ∀ part ∈ parts, part.isBlank) {c : Char}
    (hc : c ∈ List.intercalate [';'] parts) : Nesting.isDelimiter c = false := by
  rcases Text.mem_intercalate hc with hc | ⟨part, hpart, hc⟩
  · rw [List.mem_singleton.1 hc]
    decide
  · exact Nesting.isDelimiter_of_isBlank (List.all_eq_true.1 (h part hpart) c hc)

/-- A semicolon that cuts the value alone, with nothing but white space after it, would cut the whole
statement as well: all is closed at its end, so all is closed at that semicolon. -/
theorem uncut_after_colon {before after : Text} (huncut : Uncut ';' .top (before ++ ':' :: after))
    (hclosed : Nesting.top.after (before ++ ':' :: after) = .top)
    (hothers : (splitFrom ';' .top after).2.all Text.isBlank) : Uncut ';' .top after := by
  have hjoin := intercalate_splitFrom ';' .top after
  rcases hparts : (splitFrom ';' .top after).2 with _ | ⟨second, others⟩
  · exact hparts
  · rw [hparts, List.intercalate_cons_cons, List.append_assoc, List.singleton_append] at hjoin
    -- Behind that semicolon stand white space and semicolons only, and none of them moves a scan.
    rw [hparts, List.all_eq_true] at hothers
    have htail := fun c => isDelimiter_of_mem_intercalate hothers (c := c)
    generalize (splitFrom ';' .top after).1 = first at hjoin
    generalize List.intercalate [';'] (second :: others) = tail at hjoin htail
    have hwhole : before ++ ':' :: after = (before ++ ':' :: first) ++ ';' :: tail := by simp [← hjoin]
    have hproper := Nesting.proper_top.after (before ++ ':' :: first)
    rw [hwhole] at huncut hclosed
    rw [Nesting.after_append, Nesting.after_cons, Nesting.step_of_not_delimiter hproper (by decide),
      Nesting.after_of_not_delimiter hproper htail] at hclosed
    exact absurd hclosed (uncut_iff_forall.1 huncut _ _ rfl)

/-- Nothing is lost of a valid declaration that closes all it opens. -/
theorem ink_render_of_closed {statement : Text} (huncut : Uncut ';' .top statement)
    (hclosed : Nesting.top.after statement = .top) (hvalid : (parse statement).isValid) :
    Text.ink (parse statement).render = Text.ink statement := by
  have hcolon : ':' ∈ statement.trim := by
    by_contra h
    rw [parse_of_colonFree h] at hvalid
    cases hvalid
  obtain ⟨before, after, hsplit, hbefore⟩ := List.eq_append_cons_of_mem hcolon
  have hclosed' : Nesting.top.after statement.trim = .top :=
    (Nesting.after_eq_of_ink_eq Nesting.proper_top (Text.ink_trim _)).trans hclosed
  have huncut' := (uncut_iff (Text.ink_trim _)).2 huncut
  rw [hsplit] at hclosed' huncut'
  rw [parse_of_colon hsplit hbefore] at hvalid ⊢
  have hothers : (splitFrom ';' .top after).2.all Text.isBlank := (Bool.and_eq_true_iff.1 hvalid).2
  have hafter := uncut_after_colon huncut' hclosed' hothers
  calc Text.ink (render _) = Text.ink before ++ Text.ink [':', ' '] ++ Text.ink after := by
        rw [render, hafter.splitFrom_eq, Text.ink_append, Text.ink_append, Text.ink_trim, Text.ink_trim]
    _ = Text.ink before ++ Text.ink (':' :: after) := List.append_assoc ..
    _ = Text.ink statement := by rw [← Text.ink_append, ← hsplit, Text.ink_trim]

/-- So the written form of such a declaration is not cut and closes all it opens. -/
theorem uncut_render_of_closed {statement : Text} (huncut : Uncut ';' .top statement)
    (hclosed : Nesting.top.after statement = .top) (hvalid : (parse statement).isValid) :
    Uncut ';' .top (parse statement).render ∧ Nesting.top.after (parse statement).render = .top := by
  have hink := ink_render_of_closed huncut hclosed hvalid
  exact ⟨(uncut_iff hink).2 huncut,
    (Nesting.after_eq_of_ink_eq Nesting.proper_top hink).trans hclosed⟩

end Declaration

/-- The statements of a body are the part before its first cut and those behind it. -/
theorem DeclarationBlock.statements_eq_cons {body first : Text} {others : List Text}
    (hsplit : splitFrom ';' .top body = (first, others)) (hfirst : first.isBlank = false) :
    statements body = first :: others.filter (!·.isBlank) := by
  rw [statements, splitTop, hsplit]
  exact List.filter_cons_of_pos (by simp [hfirst])

end CssSurvey
