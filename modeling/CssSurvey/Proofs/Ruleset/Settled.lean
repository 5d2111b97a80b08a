/-
Rules that printing leaves as they are. The semicolon printed behind a declaration ends it only if the
declaration closes what it opens. After one that does not, the next reading takes the semicolon, and
whatever follows, for a part of the declaration: text is lost, or the semicolon is printed once more
every time. The last declaration is the exception. Nothing follows it, so the semicolon is dropped as
long as the value by itself closes what it opens.
-/
import CssSurvey.Proofs.Ruleset.Print
import Mathlib.Logic.Function.Iterate

namespace CssSurvey

namespace Declaration

/-! ## A declaration with more text behind it -/

/-- A semicolon behind the declaration ends it: the written form closes all it opens. -/
def Closed (d : Declaration) : Prop := Nesting.top.after d.render = .top

/-- The value by itself closes all it opens, whatever the property does. -/
def ValueClosed (d : Declaration) : Prop := Nesting.top.after d.value = .top

instance : DecidablePred Closed := fun d => decEq (Nesting.top.after d.render) .top

instance : DecidablePred ValueClosed := fun d => decEq (Nesting.top.after d.value) .top

variable {d : Declaration}

/-- The value read from a written form runs on to where a cut is found behind it. -/
theorem Printable.sides_parse_append (h : d.Printable) (rest : Text) :
    (parse (d.render ++ ';' :: rest)).property = d.property ∧
      (parse (d.render ++ ';' :: rest)).value =
        Text.trim (d.value ++ (splitFrom ';' (Nesting.top.after d.value) (';' :: rest.trimEnd)).1) := by
  have hspace : Text.isBlank [' '] := by decide
  have htext : (d.render ++ ';' :: rest).trim =
      d.property.trimStart ++ ':' :: (' ' :: d.value ++ ';' :: rest.trimEnd) := by
    have hassoc : d.render ++ ';' :: rest = d.property ++ ':' :: (' ' :: d.value ++ ';' :: rest) := by
      simp [render]
    rw [hassoc, Text.trim_append_cons (by decide), Text.trimEnd_append_cons (by decide)]
  have hcolon : ':' ∉ d.property.trimStart := fun hmem =>
    h.colonFree_property ((List.dropWhile_suffix _).subset hmem)
  have huncut : Uncut ';' .top (' ' :: d.value) :=
    (uncut_iff (Text.ink_cons_of_isBlank (by decide) _)).2 h.uncut_value
  rw [parse_of_colon htext hcolon, huncut.splitFrom_append]
  exact ⟨(Text.trim_trimStart _).trans h.trim_property, Text.trim_append_of_isBlank_left hspace _⟩

/-- A value that closes all it opens is cut off at the semicolon behind it. -/
theorem Printable.render_parse_append (h : d.Printable) (hvalue : d.ValueClosed) (rest : Text) :
    (parse (d.render ++ ';' :: rest)).render = d.render := by
  obtain ⟨hproperty, hnext⟩ := h.sides_parse_append rest
  rw [show Nesting.top.after d.value = .top from hvalue, splitFrom, if_pos ⟨rfl, rfl⟩] at hnext
  rw [render, hproperty, hnext]
  dsimp only
  rw [List.append_nil, h.trim_value, render]

/-- A value that does not takes the semicolon in. -/
theorem Printable.render_parse_ne (h : d.Printable) (hvalue : ¬ d.ValueClosed) :
    (parse (d.render ++ [';'])).render ≠ d.render := by
  obtain ⟨hproperty, hnext⟩ := h.sides_parse_append []
  have huncut : Uncut ';' (Nesting.top.after d.value) [';'] := uncut_separator hvalue
  rw [show Text.trimEnd [] = [] from rfl, huncut.splitFrom_eq] at hnext
  have hsemicolon : Text.ink [';'] = [';'] := by decide
  intro heq
  have hink := congrArg (fun text => (Text.ink text).length) heq
  rw [ink_render, ink_render, hproperty, hnext, Text.ink_trim, Text.ink_append, hsemicolon] at hink
  simp at hink

end Declaration

theorem sublist_dropLast {α : Type} {a b : List α} (h : a.Sublist b) : a.dropLast.Sublist b.dropLast := by
  have := h.reverse.tail
  rw [List.tail_reverse, List.tail_reverse] at this
  exact List.reverse_sublist.1 this

namespace DeclarationBlock

open Declaration

/-! ## The declarations of a body -/

/-- The declarations that stay as they are when they are printed and read again: each ends at its
semicolon, or is the last one and has a value that does. -/
structure KeptApart (declarations : List Declaration) : Prop where
  closed : ∀ d ∈ declarations.dropLast, d.Closed
  closed_last : ∀ d ∈ declarations.getLast?, d.Closed ∨ d.ValueClosed

instance : DecidablePred KeptApart := fun declarations =>
  decidable_of_iff ((∀ d ∈ declarations.dropLast, d.Closed) ∧
      ∀ d ∈ declarations.getLast?, d.Closed ∨ d.ValueClosed)
    ⟨fun h => ⟨h.1, h.2⟩, fun h => ⟨h.closed, h.closed_last⟩⟩

/-- What reading a body leaves of every declaration, and of every one that another follows. -/
structure ReadFromBody (declarations : List Declaration) : Prop where
  printable : ∀ d ∈ declarations, d.Printable
  uncut_render : ∀ d ∈ declarations, Uncut ';' .top d.render
  closed : ∀ d ∈ declarations.dropLast, d.Closed ∨ d.ValueClosed

theorem readFromBody_declarationsOf (body : Text) : ReadFromBody (declarationsOf body) where
  printable d hd := by
    obtain ⟨statement, -, rfl⟩ := List.mem_map.1 hd
    exact printable_parse statement
  uncut_render d hd := by
    obtain ⟨statement, hstatement, rfl⟩ := List.mem_map.1 hd
    exact Declaration.uncut_render (uncut_of_mem_splitTop (List.mem_of_mem_filter hstatement))
  closed d hd := by
    rw [declarationsOf, ← List.map_dropLast] at hd
    obtain ⟨statement, hstatement, rfl⟩ := List.mem_map.1 hd
    have hmem : statement ∈ (splitTop ';' body).dropLast :=
      (sublist_dropLast List.filter_sublist).subset hstatement
    exact after_render_or_after_value (after_of_mem_dropLast_splitTop hmem)

namespace KeptApart

variable {d e : Declaration} {others : List Declaration}

theorem singleton : KeptApart [d] ↔ d.Closed ∨ d.ValueClosed :=
  ⟨fun h => h.closed_last d rfl, fun h => ⟨nofun, by rintro _ ⟨⟩; exact h⟩⟩

theorem cons_cons : KeptApart (d :: e :: others) ↔ d.Closed ∧ KeptApart (e :: others) := by
  constructor
  · intro h
    obtain ⟨hd, hothers⟩ := List.forall_mem_cons.1 h.closed
    exact ⟨hd, hothers, h.closed_last⟩
  · rintro ⟨hd, h⟩
    exact ⟨List.forall_mem_cons.2 ⟨hd, h.closed⟩, h.closed_last⟩

end KeptApart

theorem ReadFromBody.of_cons {d : Declaration} {others : List Declaration} (h : ReadFromBody (d :: others)) :
    ReadFromBody others where
  printable e he := h.printable e (List.mem_cons_of_mem _ he)
  uncut_render e he := h.uncut_render e (List.mem_cons_of_mem _ he)
  closed e he := h.closed e ((sublist_dropLast (List.sublist_cons_self d others)).subset he)

/-! ## Printing and reading again -/

/-- A body starts with the first statement, and the rest is read as it would be without it. -/
theorem declarationsOf_eq_cons {body first : Text} {others : List Text}
    (hsplit : splitFrom ';' .top body = (first, others)) (hfirst : ':' ∈ first) :
    declarationsOf body =
      Declaration.parse first :: (others.filter (!·.isBlank)).map Declaration.parse := by
  rw [declarationsOf, statements_eq_cons hsplit (Text.isBlank_eq_false_of_mem hfirst (by decide)), List.map_cons]

theorem colon_mem_render (d : Declaration) : ':' ∈ d.render := by simp [render]

theorem print_cons (d : Declaration) (others : List Declaration) :
    print (d :: others) = d.render ++ ';' :: print others := by
  simp [print]

/-- A declaration that its semicolon ends is read back, and so are the others as far as they are
without it. -/
theorem print_declarationsOf_of_closed {d : Declaration} (hprintable : d.Printable)
    (huncut : Uncut ';' .top d.render) (hclosed : d.Closed) (others : List Declaration) :
    print (declarationsOf (print (d :: others))) =
      d.render ++ ';' :: print (declarationsOf (print others)) := by
  have hsplit : splitFrom ';' .top (print (d :: others)) = (d.render, splitTop ';' (print others)) := by
    rw [print_cons, splitFrom_append_separator (by decide) hclosed, huncut.splitFrom_eq]
    rfl
  rw [declarationsOf_eq_cons hsplit (colon_mem_render d), print_cons, hprintable.parse_render]
  rfl

/-- Printing adds no quote, parenthesis or bracket to those of the parts that are read. -/
theorem delimiters_print_sublist (parts : List Text) :
    ((print ((parts.filter (!·.isBlank)).map Declaration.parse)).filter Nesting.isDelimiter).Sublist
      (parts.flatten.filter Nesting.isDelimiter) := by
  induction parts with
  | nil => exact List.Sublist.refl _
  | cons part parts ih =>
    rw [List.flatten_cons, List.filter_append, List.filter_cons]
    split
    · have hcolon : [':', ' '].filter Nesting.isDelimiter = [] := by decide
      have hsides := (sides_sublist part).filter Nesting.isDelimiter
      rw [List.map_cons, print_cons, List.filter_append, List.filter_cons_of_neg (by decide)]
      refine List.Sublist.append ?_ ih
      rwa [render, List.filter_append, List.filter_append, hcolon, List.append_nil, ← List.filter_append]
    · exact ih.trans (List.sublist_append_right _ _)

/-- When the statements behind a cut print as the whole text, there is no quote, parenthesis or bracket
in front of the cut. -/
theorem not_delimiter_of_print_eq {n : Nesting} {text first : Text} {others : List Text}
    (hsplit : splitFrom ';' n text = (first, others))
    (heq : print ((others.filter (!·.isBlank)).map Declaration.parse) = text) :
    ∀ c ∈ first, Nesting.isDelimiter c = false := by
  have hall := flatten_splitFrom_sublist ';' n text
  simp only [hsplit] at hall
  have hprinted : (text.filter Nesting.isDelimiter).Sublist (others.flatten.filter Nesting.isDelimiter) := by
    conv_lhs => rw [← heq]
    exact delimiters_print_sublist others
  have hlength := (hall.filter Nesting.isDelimiter).trans hprinted |>.length_le
  rw [List.filter_append, List.length_append] at hlength
  have hnil : first.filter Nesting.isDelimiter = [] := List.eq_nil_of_length_eq_zero (by omega)
  simpa using List.filter_eq_nil_iff.1 hnil

/-- A declaration that stays open takes over what follows it. -/
theorem print_declarationsOf_ne_of_open {d : Declaration} (hprintable : d.Printable)
    (huncut : Uncut ';' .top d.render) (hopen : ¬ d.Closed) (hvalue : d.ValueClosed)
    {others : List Declaration} (hothers : others ≠ []) :
    print (declarationsOf (print (d :: others))) ≠ print (d :: others) := by
  have hproper : (Nesting.top.after d.render).Proper := Nesting.proper_top.after _
  have hne : Nesting.top.after d.render ≠ .top := hopen
  rcases hrest : splitFrom ';' (Nesting.top.after d.render) (print others) with ⟨first, rest⟩
  have hsplit : splitFrom ';' .top (print (d :: others)) = (d.render ++ ';' :: first, rest) := by
    rw [print_cons, huncut.splitFrom_append, splitFrom, if_neg fun h => hne h.2,
      Nesting.step_of_not_delimiter hproper (by decide), hrest]
  rw [declarationsOf_eq_cons hsplit (List.mem_append_left _ (colon_mem_render d)), print_cons, print_cons,
    hprintable.render_parse_append hvalue]
  intro heq
  replace heq : print ((rest.filter (!·.isBlank)).map Declaration.parse) = print others := by
    simpa using heq
  have hnext : rest ≠ [] := by
    rintro rfl
    obtain ⟨e, others, rfl⟩ := List.exists_cons_of_ne_nil hothers
    rw [print_cons] at heq
    exact List.append_ne_nil_of_right_ne_nil _ (List.cons_ne_nil _ _) heq.symm
  -- The text taken over would have to close what `d` opens.
  have hcut : (splitFrom ';' (Nesting.top.after d.render) (print others)).2 ≠ [] := by rwa [hrest]
  have hclosed := after_splitFrom_of_ne_nil hcut
  rw [hrest, Nesting.after_of_not_delimiter hproper (not_delimiter_of_print_eq hrest heq)] at hclosed
  exact hne hclosed

/-- A last declaration that stays open takes in its semicolon, unless its value is cut off there. -/
theorem print_declarationsOf_of_open_iff {d : Declaration} (hprintable : d.Printable)
    (huncut : Uncut ';' .top d.render) (hopen : ¬ d.Closed) :
    print (declarationsOf (print [d])) = print [d] ↔ d.ValueClosed := by
  have huncut' : Uncut ';' .top (d.render ++ [';']) := uncut_append.2 ⟨huncut, uncut_separator hopen⟩
  have hprint : print [d] = d.render ++ [';'] := print_cons d []
  rw [hprint, declarationsOf_eq_cons huncut'.splitFrom_eq (List.mem_append_left _ (colon_mem_render d)),
    print_cons]
  show (Declaration.parse (d.render ++ [';'])).render ++ [';'] = d.render ++ [';'] ↔ d.ValueClosed
  rw [List.append_cancel_right_eq]
  exact ⟨not_imp_not.1 hprintable.render_parse_ne, fun h => hprintable.render_parse_append h []⟩

/-- Declarations read from a body print, after they were printed and read again, as they did before
exactly when they are kept apart. -/
theorem print_declarationsOf_print_iff {declarations : List Declaration} (h : ReadFromBody declarations) :
    print (declarationsOf (print declarations)) = print declarations ↔ KeptApart declarations := by
  induction declarations with
  | nil => exact ⟨fun _ => ⟨nofun, nofun⟩, fun _ => rfl⟩
  | cons d others ih =>
    have hprintable := h.printable d (List.mem_cons_self ..)
    have huncut := h.uncut_render d (List.mem_cons_self ..)
    specialize ih h.of_cons
    by_cases hclosed : d.Closed
    · rw [print_declarationsOf_of_closed hprintable huncut hclosed, print_cons, List.append_cancel_left_eq,
        List.cons.injEq, and_iff_right rfl, ih]
      cases others with
      | nil => exact ⟨fun _ => KeptApart.singleton.2 (.inl hclosed), fun _ => ⟨nofun, nofun⟩⟩
      | cons e others => rw [KeptApart.cons_cons, and_iff_right hclosed]
    · cases others with
      | nil =>
        rw [print_declarationsOf_of_open_iff hprintable huncut hclosed, KeptApart.singleton,
          or_iff_right hclosed]
      | cons e others =>
        -- The statement was cut behind the value, so what is taken over from behind it is lost.
        have hvalue : d.ValueClosed := (h.closed d (List.mem_cons_self ..)).resolve_left hclosed
        have hne := print_declarationsOf_ne_of_open hprintable huncut hclosed hvalue
          (List.cons_ne_nil e others)
        exact ⟨fun heq => absurd heq hne, fun hkept => absurd (KeptApart.cons_cons.1 hkept).1 hclosed⟩

end DeclarationBlock

/-! ## Rulesets -/

namespace Ruleset

open DeclarationBlock

/-- What is printed of the rule that a text is read as. -/
def reprint (text : Text) : Text := (parse text).render

/-- A rule whose written form has its braces in order and keeps its declarations apart. -/
structure Settled (r : Ruleset) : Prop where
  isValid : (parse r.render).isValid
  keptApart : KeptApart r.block.declarations

instance : DecidablePred Settled := fun r =>
  decidable_of_iff ((parse r.render).isValid ∧ KeptApart r.block.declarations)
    ⟨fun h => ⟨h.1, h.2⟩, fun h => ⟨h.isValid, h.keptApart⟩⟩

theorem render_eq_block (r : Ruleset) :
    r.render = r.selector ++ [' '] ++ '{' :: (print r.block.declarations ++ ['}']) := by
  simp [render, print]

/-- What is read of a written form has the same selector, and of the block what is read of the printed
declarations, without their braces when these are not in order. -/
theorem parse_render_eq (text : Text) :
    let printed := print (parse text).block.declarations
    let again := parse (parse text).render
    again.selector = (parse text).selector ∧ again.isValid = closesAll 1 (printed ++ ['}']) ∧
      again.block.declarations =
        declarationsOf (if again.isValid then printed else printed.filter (!isBrace ·)) := by
  have hspace : Text.isBlank [' '] := by decide
  have htrim : Text.trim ((parse text).selector ++ [' ']) = (parse text).selector :=
    (Text.trim_append_of_isBlank_right hspace _).trans (Text.trim_trim _)
  have hselector : BraceFree ((parse text).selector ++ [' ']) :=
    braceFree_append.2 ⟨braceFree_selector text, by decide⟩
  have hparse := parse_block hselector (print (parse text).block.declarations)
  rw [← render_eq_block] at hparse
  dsimp only at hparse ⊢
  rw [hparse, declarationsOf]
  refine ⟨htrim, rfl, ?_⟩
  dsimp only

/-- Rules with one selector print the same exactly when their declarations do. -/
theorem render_eq_render_iff {r s : Ruleset} (h : r.selector = s.selector) :
    r.render = s.render ↔ print r.block.declarations = print s.block.declarations := by
  rw [render_eq_block, render_eq_block, h, List.append_cancel_left_eq, List.cons.injEq, and_iff_right rfl,
    List.append_cancel_right_eq]

/-- When its braces are not in order, the printed rule loses them. -/
theorem print_ne_of_not_isValid {text : Text} (h : (parse (parse text).render).isValid = false) :
    print (parse (parse text).render).block.declarations ≠ print (parse text).block.declarations := by
  obtain ⟨-, hvalid, hdeclarations⟩ := parse_render_eq text
  rw [h] at hvalid hdeclarations
  intro heq
  have hfree : BraceFree (print (parse text).block.declarations) := by
    intro c hc
    have hprinted : BraceFree [':', ' ', ';'] := by decide
    rw [← heq, hdeclarations] at hc
    exact (mem_print hc).elim (braceFree_filter _ c) (hprinted c)
  rw [closesAll_append_of_braceFree hfree] at hvalid
  cases hvalid

/-- A rule that was read and printed, then read and printed again, is the same text exactly when it is
settled; and then it stays the same, however often this is repeated. -/
theorem reprint_render_iff_settled (text : Text) :
    let r := parse text
    (reprint r.render = r.render ↔ r.Settled) ∧ ((∀ n, reprint^[n] r.render = r.render) ↔ r.Settled) := by
  intro r
  have hiff : reprint r.render = r.render ↔ r.Settled := by
    obtain ⟨hselector, -, hdeclarations⟩ := parse_render_eq text
    rw [reprint, render_eq_render_iff hselector]
    have hkept := print_declarationsOf_print_iff (readFromBody_declarationsOf r.block.text)
    rcases hvalid : (parse r.render).isValid with _ | _
    · refine ⟨fun heq => absurd heq (print_ne_of_not_isValid hvalid), fun h => ?_⟩
      exact absurd h.isValid (by rw [hvalid]; exact Bool.false_ne_true)
    · rw [hvalid] at hdeclarations
      rw [hdeclarations]
      exact hkept.trans ⟨fun h => ⟨hvalid, h⟩, Settled.keptApart⟩
  refine ⟨hiff, fun h => hiff.1 (h 1), fun h n => ?_⟩
  exact Function.iterate_fixed (hiff.2 h) n

-- The last property leaves its quote open, and its value does not.
example : (parse "a\x7bb:c;\"d:e\x7d".toList).Settled ∧ ¬ (parse "a\x7b\"d:e;b\";f:g\x7d".toList).Settled := by
  decide +kernel

/-- A quote that a value leaves open takes in one more semicolon each time, and a quote that a property
leaves open takes in the next declaration, which is lost. -/
theorem reprint_render_ne_of_open_quote :
    let inValue := (parse "a\x7bb:\"c\x7d".toList).render
    let inProperty := (parse "x\x7b\"a:b;c\";d:e\x7d".toList).render
    (inValue = "a \x7bb: \"c;\x7d".toList ∧ reprint inValue = "a \x7bb: \"c;;\x7d".toList ∧
      reprint inValue ≠ inValue) ∧
    (inProperty = "x \x7b\"a: b;d: e;\x7d".toList ∧ reprint inProperty = "x \x7b\"a: b;\x7d".toList ∧
      reprint inProperty ≠ inProperty) := by
  decide +kernel

end Ruleset

end CssSurvey
