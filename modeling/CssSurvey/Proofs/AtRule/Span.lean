/-
Where the at-rules of a code stand in its bytes. The search for them goes from one at-rule to the text
after it, so their spans come one after the other. An at-rule starts at an `@` with a keyword, and its head
runs up to the first character that can end one; the body that a brace opens ends at the brace that closes
it, or else at the end of the code. All of this is at the bounds of characters, whatever text there is
between the marks.
-/
import CssSurvey.Proofs.AtRule.Header
import CssSurvey.Proofs.AtRule.Octet

namespace CssSurvey

/-- Where an at-rule starts, the place just after it, and where its body starts and ends if it has one. -/
structure Span where
  start : Nat
  stop : Nat
  body : Option (Nat × Nat)
deriving DecidableEq

namespace AtSource

/-- The span of an at-rule that starts at a place. -/
def span (start : Nat) (source : AtSource) : Span where
  start := start
  stop := start + source.render.length
  body := match source with
    | statement _ => none
    | block head body _ => some (start + head.length + 1, start + head.length + 1 + body.length)

theorem start_lt_stop_span (start : Nat) (source : AtSource) : (source.span start).start < (source.span start).stop :=
  Nat.lt_add_of_pos_right (List.length_pos_iff.2 source.render_ne_nil)

theorem render_octets (source : AtSource) : source.octets.render = source.render.octets := by
  have hmark : ∀ mark : Char, mark.toNat < 128 → Text.octets [mark] = [mark] := fun mark hmark => by
    rw [Text.octets_cons_of_ascii hmark, Text.octets_nil]
  cases source with
  | statement head => simp only [octets, render, Text.octets_append, hmark ';' (by decide)]
  | block head body closed =>
    cases closed <;> simp only [octets, render, Text.octets_append, hmark '{' (by decide), hmark '}' (by decide),
      if_true, Bool.false_eq_true, if_false, Text.octets_nil]

/-- The places of an at-rule in bytes, each given by the text up to it. -/
theorem span_octets (before : Text) (source : AtSource) :
    source.octets.span before.byteSize =
      ⟨before.byteSize, (before ++ source.render).byteSize,
        match source with
        | statement _ => none
        | block head body _ =>
          some ((before ++ head ++ ['{']).byteSize, (before ++ head ++ ['{'] ++ body).byteSize)⟩ := by
  have hbrace : Text.byteSize ['{'] = 1 := rfl
  have hstop : before.byteSize + source.octets.render.length = (before ++ source.render).byteSize := by
    rw [render_octets, Text.byteSize_append]
    rfl
  cases source with
  | statement head => rw [← hstop]; rfl
  | block head body closed =>
    rw [← hstop]
    simp only [Text.byteSize_append, hbrace]
    rfl

/-- A body is what is cut in front of the brace that closes it; without one it runs to the end of the text. -/
theorem cutAtClose_of_read? {text head body rest : Text} {closed : Bool}
    (h : read? text = some (block head body closed, rest)) :
    ∃ after, cutAtClose 0 after = (body, if closed then some rest else none) ∧ (closed = false → rest = []) := by
  rcases read?_cases text with ⟨-, hread⟩ | ⟨_, -, hread⟩ | ⟨after, -, hread⟩
  · rw [hread] at h
    cases h
  · rw [hread] at h
    cases h
  · rw [hread] at h
    refine ⟨after, ?_⟩
    rcases hcut : cutAtClose 0 after with ⟨before, none | rest⟩ <;> rw [hcut] at h <;> cases h <;> simp

end AtSource

namespace Outline

/-- The spans of at-rules with the gaps before them, from a place on. -/
def spansFrom (position : Nat) : List (Text × AtSource) → List Span
  | [] => []
  | (gap, source) :: parts =>
    source.span (position + gap.length) :: spansFrom (position + gap.length + source.render.length) parts

/-- The spans of the at-rules that the search finds in the bytes of a code, in bytes. -/
def byteSpans (code : Text) : List Span := spansFrom 0 (ofCode code.octets).parts

theorem le_start_of_mem_spansFrom {position : Nat} {parts : List (Text × AtSource)} {span : Span}
    (h : span ∈ spansFrom position parts) : position ≤ span.start := by
  induction parts generalizing position with
  | nil => cases h
  | cons part parts ih =>
    rcases List.mem_cons.1 h with rfl | h
    · exact Nat.le_add_right position _
    · exact Nat.le_trans (Nat.le_add_right_of_le (Nat.le_add_right position _)) (ih h)

/-- Every at-rule ends before the next one starts. -/
theorem pairwise_spansFrom (position : Nat) (parts : List (Text × AtSource)) :
    (spansFrom position parts).Pairwise fun a b => a.start < b.start ∧ a.stop ≤ b.start := by
  induction parts generalizing position with
  | nil => exact List.Pairwise.nil
  | cons part parts ih =>
    obtain ⟨gap, source⟩ := part
    refine List.Pairwise.cons (fun later hlater => ?_) (ih _)
    have hstop : (source.span (position + gap.length)).stop ≤ later.start := le_start_of_mem_spansFrom hlater
    exact ⟨Nat.lt_of_lt_of_le (source.start_lt_stop_span _) hstop, hstop⟩

/-- The span of an at-rule starts where the text before it ends. -/
theorem exists_of_mem_spansFrom {position : Nat} {parts : List (Text × AtSource)} {span : Span}
    (h : span ∈ spansFrom position (parts.map fun (gap, source) => (gap.octets, source.octets))) :
    ∃ front gap source back, parts = front ++ (gap, source) :: back ∧
      span = source.octets.span (position + (render ⟨front, gap⟩).byteSize) := by
  induction parts generalizing position with
  | nil => cases h
  | cons part parts ih =>
    obtain ⟨gap, source⟩ := part
    rcases List.mem_cons.1 h with rfl | h
    · exact ⟨[], gap, source, parts, rfl, rfl⟩
    · obtain ⟨front, gap', source', back, rfl, rfl⟩ := ih h
      refine ⟨(gap, source) :: front, gap', source', back, rfl, ?_⟩
      have hsize : (render ⟨(gap, source) :: front, gap'⟩).byteSize =
          gap.byteSize + source.render.byteSize + (render ⟨front, gap'⟩).byteSize := by
        simp [render, Nat.add_assoc]
      rw [hsize, AtSource.render_octets, ← Nat.add_assoc, ← Nat.add_assoc]
      rfl

/-- Every span is that of an at-rule that is read where a keyword starts. -/
theorem exists_read?_of_mem_byteSpans {code : Text} {span : Span} (h : span ∈ byteSpans code) :
    ∃ before here source rest, code = before ++ here ∧ StartsWithKeyword here ∧
      AtSource.read? here = some (source, rest) ∧ span = source.octets.span before.byteSize := by
  rw [byteSpans, ofCode_octets] at h
  obtain ⟨front, gap, source, back, hparts, hspan⟩ := exists_of_mem_spansFrom h
  obtain ⟨here, rest, hkey, hread, hback⟩ := exists_read?_of_suffix ⟨front, hparts.symm⟩
  refine ⟨render ⟨front, gap⟩, here, source, rest, ?_, hkey, hread, by rw [hspan, Nat.zero_add]⟩
  have hrest : render ⟨back, (ofCode code).last⟩ = rest := by
    have := render_ofCodeFrom false [] rest
    rwa [hback] at this
  exact (eq_of_parts_eq hparts).trans (by rw [hrest, AtSource.render_of_read? hread])

/-! ## What a span marks -/

/-- What the span of an at-rule marks in a code, with every place given by the text up to it: a statement up
to its semicolon, a block up to the brace that closes it, or a block that no brace closes up to the end of
the code. -/
inductive Marks (code : Text) : Span → Prop
  | statement (before head after : Text) (hcode : code = before ++ head ++ [';'] ++ after)
      (hkey : StartsWithKeyword head) (hbrace : '{' ∉ head) (hsemicolon : ';' ∉ head) :
      Marks code ⟨before.byteSize, (before ++ head ++ [';']).byteSize, none⟩
  | closed (before head body after : Text) (hcode : code = before ++ head ++ ['{'] ++ body ++ ['}'] ++ after)
      (hkey : StartsWithKeyword head) (hbrace : '{' ∉ head) (hsemicolon : ';' ∉ head)
      (hopened : ∀ front, front <+: body → front.count '}' ≤ front.count '{')
      (hbalanced : body.count '}' = body.count '{') :
      Marks code ⟨before.byteSize, (before ++ head ++ ['{'] ++ body ++ ['}']).byteSize,
        some ((before ++ head ++ ['{']).byteSize, (before ++ head ++ ['{'] ++ body).byteSize)⟩
  | unclosed (before head body : Text) (hcode : code = before ++ head ++ ['{'] ++ body)
      (hkey : StartsWithKeyword head) (hbrace : '{' ∉ head) (hsemicolon : ';' ∉ head)
      (hopened : ∀ front, front <+: body → front.count '}' ≤ front.count '{') :
      Marks code ⟨before.byteSize, code.byteSize,
        some ((before ++ head ++ ['{']).byteSize, code.byteSize)⟩

theorem marks_of_read? {here rest : Text} {source : AtSource} (before : Text) (hkey : StartsWithKeyword here)
    (h : AtSource.read? here = some (source, rest)) :
    Marks (before ++ here) (source.octets.span before.byteSize) := by
  obtain ⟨hkeyword, hunended⟩ := AtSource.headed_of_read? hkey h
  have hbrace : '{' ∉ source.head := fun hmem => absurd (hunended _ hmem) (by decide)
  have hsemicolon : ';' ∉ source.head := fun hmem => absurd (hunended _ hmem) (by decide)
  have hrender := AtSource.render_of_read? h
  rw [AtSource.span_octets]
  cases source with
  | statement head =>
    have hstop : before ++ (AtSource.statement head).render = before ++ head ++ [';'] := by simp [AtSource.render]
    rw [hstop]
    exact .statement before head rest (by simp [← hrender, AtSource.render]) hkeyword hbrace hsemicolon
  | block head body closed =>
    obtain ⟨after, hcut, hrest⟩ := AtSource.cutAtClose_of_read? h
    have hopened : ∀ front, front <+: body → front.count '}' ≤ front.count '{' := fun front hfront => by
      have hprefix : front <+: (cutAtClose 0 after).1 := by rwa [hcut]
      simpa using count_le_of_prefix_cutAtClose hprefix
    cases closed with
    | true =>
      have hbalanced : body.count '}' = body.count '{' := by simpa using (eq_of_cutAtClose_some hcut).2
      have hstop : before ++ (AtSource.block head body true).render = before ++ head ++ ['{'] ++ body ++ ['}'] := by
        simp [AtSource.render]
      rw [hstop]
      exact .closed before head body rest (by simp [← hrender, AtSource.render]) hkeyword hbrace hsemicolon hopened
        hbalanced
    | false =>
      have hhere : here = head ++ ['{'] ++ body := by simp [← hrender, hrest rfl, AtSource.render]
      have hstop : before ++ (AtSource.block head body false).render = before ++ here := by
        simp [hhere, AtSource.render]
      have hbody : before ++ head ++ ['{'] ++ body = before ++ here := by simp [hhere]
      have hmarks := Marks.unclosed before head body hbody.symm hkeyword hbrace hsemicolon hopened
      simpa only [hstop, hbody] using hmarks

/-- The spans of the at-rules in a code come one after the other and mark an at-rule each. The search for
the brace that closes a body never counts below zero. -/
theorem byteSpans_marked (code : Text) :
    ofCode code.octets = (ofCode code).octets ∧
      (byteSpans code).Pairwise (fun a b => a.start < b.start ∧ a.stop ≤ b.start) ∧
      (∀ span ∈ byteSpans code, span.start < span.stop ∧ span.stop ≤ code.byteSize ∧ Marks code span) ∧
      ∀ rest, matchBrace? 0 ('{' :: rest) = some ('{' :: (cutAtClose 0 rest).1, (cutAtClose 0 rest).2) := by
  refine ⟨ofCode_octets code, pairwise_spansFrom 0 _, fun span hspan => ?_, matchBrace?_open⟩
  obtain ⟨before, here, source, rest, rfl, hkey, hread, rfl⟩ := exists_read?_of_mem_byteSpans hspan
  refine ⟨AtSource.start_lt_stop_span _ source.octets, ?_, marks_of_read? before hkey hread⟩
  have hstop : (source.octets.span before.byteSize).stop = (before ++ source.render).byteSize := by
    rw [AtSource.span_octets]
  rw [hstop, ← AtSource.render_of_read? hread, ← List.append_assoc, Text.byteSize_append _ rest]
  exact Nat.le_add_right _ _

/-- A block that is closed, and one that is not, among characters of more than one byte. -/
theorem byteSpans_marked_beyond_ascii :
    byteSpans "é@m\x7b→\x7d@f\x7b".toList = [⟨2, 9, some (5, 8)⟩, ⟨9, 12, some (12, 12)⟩] ∧
      Marks "é@m\x7b→\x7d@f\x7b".toList ⟨2, 9, some (5, 8)⟩ := by
  have hspans : byteSpans "é@m\x7b→\x7d@f\x7b".toList = [⟨2, 9, some (5, 8)⟩, ⟨9, 12, some (12, 12)⟩] := by
    decide +kernel
  have hmem : ⟨2, 9, some (5, 8)⟩ ∈ byteSpans "é@m\x7b→\x7d@f\x7b".toList := by
    rw [hspans]
    decide
  exact ⟨hspans, ((byteSpans_marked "é@m\x7b→\x7d@f\x7b".toList).2.2.1 _ hmem).2.2⟩

end Outline

end CssSurvey
