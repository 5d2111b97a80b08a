/-
When a declaration is valid. The rule as it is meant looks at the whole text: the value ends at the first
top-level semicolon of the text, behind which only white space may follow. Reading looks for that
semicolon behind the first colon only, with nothing open there, and lets further semicolons pass. The
main statement says exactly for which properties the two agree, and for which of them a block with a
single valid declaration is read as that declaration.
-/
import CssSurvey.Proofs.Brace
import CssSurvey.Proofs.Declaration
import CssSurvey.Proofs.Ruleset.Plain

namespace CssSurvey

/-! ## Scans that stand deeper -/

namespace Nesting

/-- A quote that does not end leaves the scan where it stands. -/
theorem after_of_not_mem {n : Nesting} {q : Char} (hq : n.quote = some q) {text : Text} (h : q ∉ text) :
    n.after text = n := by
  induction text with
  | nil => rfl
  | cons c text ih =>
    obtain ⟨hne, htext⟩ := List.ne_and_not_mem_of_not_mem_cons h
    have hstep : n.step c = n := by
      unfold step
      rw [hq]
      exact if_neg (Ne.symm hne)
    rw [after_cons, hstep, ih htext]

/-- The same quote is open, or none, and at least as many parentheses and brackets. -/
structure Deeper (m n : Nesting) : Prop where
  quote : n.quote = m.quote
  depth : m.depth ≤ n.depth

theorem Deeper.step {m n : Nesting} (h : Deeper m n) (c : Char) : Deeper (m.step c) (n.step c) := by
  obtain ⟨hquote, hdepth⟩ := h
  unfold Nesting.step
  rw [hquote]
  split
  · split
    · exact ⟨rfl, hdepth⟩
    · exact ⟨hquote, hdepth⟩
  · split
    · exact ⟨rfl, hdepth⟩
    · split
      · exact ⟨rfl, Nat.add_le_add_right hdepth 1⟩
      · split
        · exact ⟨rfl, Nat.sub_le_sub_right hdepth 1⟩
        · exact ⟨hquote, hdepth⟩

/-- Where all is closed for a scan that stands deeper, it is closed. -/
theorem Deeper.eq_top {m : Nesting} (h : Deeper m .top) : m = .top := by
  obtain ⟨quote, depth⟩ := m
  obtain ⟨hquote, hdepth⟩ := h
  obtain rfl : none = quote := hquote
  obtain rfl : depth = 0 := Nat.le_zero.1 hdepth
  rfl

theorem deeper_top {n : Nesting} (h : n.quote = none) : Deeper .top n := ⟨h, Nat.zero_le _⟩

/-- As many closing parentheses as are open close them. -/
theorem after_replicate (depth : Nat) : Nesting.after ⟨none, depth⟩ (List.replicate depth ')') = .top := by
  induction depth with
  | zero => rfl
  | succ depth ih => exact ih

/-- What ends the open quote `q` and then closes all else that is open. -/
def closing (n : Nesting) (q : Char) : Text := q :: List.replicate n.depth ')'

theorem after_closing {n : Nesting} {q : Char} (hq : n.quote = some q) : n.after (n.closing q) = .top := by
  have hstep : n.step q = ⟨none, n.depth⟩ := by
    unfold step
    rw [hq]
    exact if_pos rfl
  rw [closing, after_cons, hstep, after_replicate]

theorem braceFree_closing {n : Nesting} {q : Char} (hq : q = '"' ∨ q = '\'') : BraceFree (n.closing q) := by
  refine braceFree_cons.2 ⟨by rcases hq with rfl | rfl <;> decide, fun c hc => ?_⟩
  rw [List.eq_of_mem_replicate hc]
  decide

end Nesting

section Separator

variable {separator : Char}

/-- Inside a quote that does not end, nothing is cut. -/
theorem uncut_of_open {n : Nesting} {q : Char} (hq : n.quote = some q) {text : Text} (h : q ∉ text) :
    Uncut separator n text := by
  rw [uncut_iff_forall]
  rintro before after rfl htop
  rw [Nesting.after_of_not_mem hq fun hmem => h (List.mem_append_left _ hmem)] at htop
  rw [htop] at hq
  cases hq

/-- A scan that stands deeper cuts at fewer places. The other scan cuts there too, and before the first
of them as if the text ended there. -/
theorem splitFrom_of_deeper (hseparator : Nesting.isDelimiter separator = false) {m n : Nesting}
    (h : m.Deeper n) (text : Text) :
    splitFrom separator m text =
      ((splitFrom separator m (splitFrom separator n text).1).1,
        (splitFrom separator m (splitFrom separator n text).1).2 ++ (splitFrom separator n text).2) := by
  induction text generalizing m n with
  | nil => rfl
  | cons c text ih =>
    rw [splitFrom, splitFrom]
    by_cases hn : c = separator ∧ n = .top
    · obtain ⟨rfl, rfl⟩ := hn
      obtain rfl := h.eq_top
      rw [if_pos ⟨rfl, rfl⟩]
      rfl
    · rw [if_neg hn]
      dsimp only
      rw [splitFrom]
      by_cases hm : c = separator ∧ m = .top
      · obtain ⟨rfl, rfl⟩ := hm
        -- A cut does not move the scan, and a separator that is no cut does not either.
        have hstep : Nesting.top.step c = .top := Nesting.step_of_not_delimiter Nesting.proper_top hseparator
        have hrest := h.step c
        rw [hstep] at hrest
        rw [if_pos ⟨rfl, rfl⟩, if_pos ⟨rfl, rfl⟩, ih hrest]
        rfl
      · rw [if_neg hm, if_neg hm, ih (h.step c)]

end Separator

/-! ## Blank parts -/

theorem isBlank_iff_of_semicolons {text : Text} :
    text.isBlank ↔ (∀ c ∈ text, c = ';' ∨ isBlank c) ∧ ';' ∉ text := by
  rw [Text.isBlank, List.all_eq_true]
  constructor
  · refine fun h => ⟨fun c hc => .inr (h c hc), fun hmem => ?_⟩
    have := h _ hmem
    cases this
  · rintro ⟨h, hnot⟩ c hc
    refine (h c hc).resolve_left ?_
    rintro rfl
    exact hnot hc

/-- White space before a scan starts opens nothing and holds no cut. -/
theorem uncut_and_after_of_isBlank {text : Text} (h : text.isBlank) :
    Uncut ';' .top text ∧ Nesting.top.after text = .top :=
  ⟨uncut_of_not_mem (isBlank_iff_of_semicolons.1 h).2,
    Nesting.after_of_not_delimiter Nesting.proper_top fun c hc =>
      Nesting.isDelimiter_of_isBlank (List.all_eq_true.1 h c hc)⟩

/-- The parts between cuts are blank when the text they make up holds white space and semicolons only. -/
theorem all_isBlank_iff {parts : List Text} (huncut : ∀ part ∈ parts, Uncut ';' .top part) :
    parts.all Text.isBlank ↔ ∀ c ∈ List.intercalate [';'] parts, c = ';' ∨ isBlank c := by
  constructor
  · intro h c hc
    rcases Text.mem_intercalate hc with hc | ⟨part, hpart, hc⟩
    · exact .inl (List.mem_singleton.1 hc)
    · exact .inr (List.all_eq_true.1 (List.all_eq_true.1 h part hpart) c hc)
  · intro h
    rw [List.all_eq_true]
    intro part hpart
    have hchars : ∀ c ∈ part, c = ';' ∨ isBlank c := fun c hc =>
      h c ((Text.isInfix_intercalate hpart).subset hc)
    have hplain : ∀ c ∈ part, Nesting.isDelimiter c = false := by
      intro c hc
      rcases hchars c hc with rfl | hblank
      · decide
      · exact Nesting.isDelimiter_of_isBlank hblank
    -- A semicolon in the part would be a cut, because nothing in it opens anything.
    refine isBlank_iff_of_semicolons.2 ⟨hchars, fun hmem => ?_⟩
    obtain ⟨before, after, rfl⟩ := List.append_of_mem hmem
    refine uncut_iff_forall.1 (huncut _ hpart) before after rfl ?_
    exact Nesting.after_of_not_delimiter Nesting.proper_top fun c hc => hplain c (List.mem_append_left _ hc)

/-! ## Statements of a block without braces -/

namespace DeclarationBlock

theorem declarations_of_braceFree {text : Text} (h : BraceFree text) :
    (parse text).declarations = (statements text).map Declaration.parse := by
  rw [parse, bodyOf_of_braceFree h]

end DeclarationBlock

namespace Declaration

/-! ## The rule -/

/-- What stands before the first colon of a text. -/
def beforeColon (text : Text) : Text := text.takeWhile (· ≠ ':')

/-- What stands behind the first colon. -/
def behindColon (text : Text) : Text := (text.dropWhile (· ≠ ':')).tail

/-- What stands before the first top-level semicolon of a text. -/
def beforeSemicolon (text : Text) : Text := (splitFrom ';' .top text).1

/-- What stands behind the first top-level semicolon. -/
def behindSemicolon (text : Text) : Text := List.intercalate [';'] (splitFrom ';' .top text).2

/-- The rule for a declaration: neither what stands before its first colon is blank nor the value
behind it, which goes up to the first top-level semicolon; and what follows that semicolon is blank. -/
structure WellFormed (text : Text) : Prop where
  colon : ':' ∈ text
  property : (beforeColon text).isBlank = false
  value : (behindColon (beforeSemicolon text)).isBlank = false
  ended : (behindSemicolon text).isBlank

instance : DecidablePred WellFormed := fun text =>
  decidable_of_iff (':' ∈ text ∧ (beforeColon text).isBlank = false ∧
      (behindColon (beforeSemicolon text)).isBlank = false ∧ (behindSemicolon text).isBlank)
    ⟨fun ⟨hcolon, hproperty, hvalue, hended⟩ => ⟨hcolon, hproperty, hvalue, hended⟩,
      fun h => ⟨h.colon, h.property, h.value, h.ended⟩⟩

/-! ## A property and what follows its colon -/

theorem step_colon (property : Text) :
    (Nesting.top.after property).step ':' = Nesting.top.after property :=
  Nesting.step_of_not_delimiter (Nesting.proper_top.after property) (by decide)

/-- Behind a property that is not cut, the scan goes on from where it stands there. -/
theorem splitFrom_append_colon {property : Text} (huncut : Uncut ';' .top property) (rest : Text) :
    splitFrom ';' .top (property ++ ':' :: rest) =
      (property ++ ':' :: (splitFrom ';' (Nesting.top.after property) rest).1,
        (splitFrom ';' (Nesting.top.after property) rest).2) := by
  rw [huncut.splitFrom_append, splitFrom, if_neg fun hcut => absurd hcut.1 (by decide), step_colon]

section Colon

variable {property : Text} (hproperty : ':' ∉ property)

include hproperty

theorem beforeColon_append (rest : Text) : beforeColon (property ++ ':' :: rest) = property :=
  Text.takeWhile_ne_append_cons hproperty rest

theorem behindColon_append (rest : Text) : behindColon (property ++ ':' :: rest) = rest := by
  rw [behindColon, Text.dropWhile_ne_append_cons hproperty]
  rfl

theorem behindColon_eq_nil : behindColon property = [] := by
  rw [behindColon, Text.dropWhile_ne_eq_nil hproperty]
  rfl

/-- Reading a property, a colon and what follows, whatever white space stands around the whole. -/
theorem parse_append_colon (rest : Text) :
    parse (property ++ ':' :: rest) = ⟨property.trim, (beforeSemicolon rest).trim,
      !property.isBlank && !(beforeSemicolon rest).isBlank &&
        (splitFrom ';' .top rest).2.all Text.isBlank⟩ := by
  have htext : (property ++ ':' :: rest).trim = property.trimStart ++ ':' :: rest.trimEnd :=
    Text.trim_append_cons (by decide) property rest
  have hcolon : ':' ∉ property.trimStart := fun hmem => hproperty ((List.dropWhile_suffix _).subset hmem)
  obtain ⟨hfirst, hothers⟩ := splitFrom_append_of_isBlank (by decide : isBlank ';' = false) .top
    rest.trimEnd (Text.isBlank_gapAfter rest)
  rw [Text.trimEnd_append_gapAfter] at hfirst hothers
  have hvalue : (splitFrom ';' .top rest.trimEnd).1.trim = (beforeSemicolon rest).trim := by
    rw [← Text.trim_trimEnd, ← hfirst, Text.trim_trimEnd, beforeSemicolon]
  have hblank : (splitFrom ';' .top rest.trimEnd).2.all Text.isBlank =
      (splitFrom ';' .top rest).2.all Text.isBlank := by
    have hall : ∀ parts : List Text, (parts.map Text.trimEnd).all Text.isBlank = parts.all Text.isBlank := by
      intro parts
      rw [List.all_map]
      exact congrArg parts.all (funext Text.isBlank_trimEnd)
    rw [← hall, ← hothers, hall]
  rw [parse_of_colon htext hcolon, hvalue, hblank, Text.trim_trimStart, Text.isEmpty_trim, Text.isEmpty_trim]

theorem isValid_append_colon (rest : Text) :
    (parse (property ++ ':' :: rest)).isValid ↔
      property.isBlank = false ∧ (beforeSemicolon rest).isBlank = false ∧
        ∀ c ∈ behindSemicolon rest, c = ';' ∨ isBlank c := by
  rw [parse_append_colon hproperty, behindSemicolon, ← all_isBlank_iff (uncut_splitFrom _ _ _).2]
  simp only [Bool.and_eq_true, Bool.not_eq_true', and_assoc]

/-- A value that is not cut is read to its end. -/
theorem isValid_append_colon_of_uncut (hblank : property.isBlank = false) {rest : Text}
    (huncut : Uncut ';' .top rest) (hrest : rest.isBlank = false) :
    (parse (property ++ ':' :: rest)).isValid := by
  rw [isValid_append_colon hproperty, beforeSemicolon, behindSemicolon, huncut.splitFrom_eq]
  exact ⟨hblank, hrest, nofun⟩

/-- The rule for a text whose property holds no cut. -/
theorem wellFormed_append_colon (huncut : Uncut ';' .top property) (rest : Text) :
    WellFormed (property ++ ':' :: rest) ↔
      property.isBlank = false ∧
        (splitFrom ';' (Nesting.top.after property) rest).1.isBlank = false ∧
        Text.isBlank (List.intercalate [';'] (splitFrom ';' (Nesting.top.after property) rest).2) := by
  have hsplit := splitFrom_append_colon huncut rest
  constructor
  · rintro ⟨-, hblank, hvalue, hended⟩
    rw [beforeSemicolon, hsplit] at hvalue
    rw [behindSemicolon, hsplit] at hended
    rw [beforeColon_append hproperty] at hblank
    rw [behindColon_append hproperty] at hvalue
    exact ⟨hblank, hvalue, hended⟩
  · rintro ⟨hblank, hvalue, hended⟩
    refine ⟨List.mem_append_right _ (List.mem_cons_self ..), ?_, ?_, ?_⟩
    · rwa [beforeColon_append hproperty]
    · rwa [beforeSemicolon, hsplit, behindColon_append hproperty]
    · rw [behindSemicolon, hsplit]
      exact hended

/-- No text is well formed whose property holds a cut: the value would stand before its colon. -/
theorem not_wellFormed_of_cut (hcut : ¬ Uncut ';' .top property) (rest : Text) :
    ¬ WellFormed (property ++ ':' :: rest) := by
  rw [uncut_iff_forall] at hcut
  push Not at hcut
  obtain ⟨before, after, rfl, htop⟩ := hcut
  intro h
  have hvalue := h.value
  have hbefore : ':' ∉ (splitFrom ';' .top before).1 := fun hmem =>
    hproperty (List.mem_append_left _ ((prefix_splitFrom ';' .top before).subset hmem))
  rw [beforeSemicolon, List.append_assoc, List.cons_append,
    splitFrom_append_separator (by decide) htop, behindColon_eq_nil hbefore] at hvalue
  cases hvalue

end Colon

/-! ## Where reading follows the rule -/

/-- Behind a property, reading finds a declaration valid when the rule does, but for the further
semicolons that reading lets pass. -/
def ReadAsRuled (property : Text) : Prop :=
  ∀ rest : Text, WellFormed (property ++ ':' :: rest) ↔
    (parse (property ++ ':' :: rest)).isValid ∧ ';' ∉ behindSemicolon rest

/-- A text without braces that starts with a property and is read as a valid declaration is that
declaration and no other for a block, too. -/
def ReadAlone (property : Text) : Prop :=
  ∀ rest : Text, BraceFree (property ++ ':' :: rest) → (parse (property ++ ':' :: rest)).isValid →
    (DeclarationBlock.parse (property ++ ':' :: rest)).declarations = [parse (property ++ ':' :: rest)]

section Property

variable {property : Text}

theorem isBlank_eq_false_of_not (h : ¬ (Uncut ';' .top property ∧ Nesting.top.after property = .top)) :
    property.isBlank = false := by
  rcases hblank : property.isBlank with _ | _
  · rfl
  · exact absurd (uncut_and_after_of_isBlank hblank) h

theorem readAsRuled_iff (hproperty : ':' ∉ property) :
    ReadAsRuled property ↔ Uncut ';' .top property ∧ Nesting.top.after property = .top := by
  constructor
  · intro h
    have huncut : Uncut ';' .top property := by
      by_contra hcut
      have hblank := isBlank_eq_false_of_not fun hnot => hcut hnot.1
      have hvalid : (parse (property ++ [':', 'a'])).isValid :=
        isValid_append_colon_of_uncut hproperty hblank rfl (by decide)
      exact not_wellFormed_of_cut hproperty hcut ['a'] ((h ['a']).2 ⟨hvalid, by decide⟩)
    refine ⟨huncut, ?_⟩
    by_contra hopen
    -- Inside what the property leaves open this semicolon belongs to the value.
    have hproper := Nesting.proper_top.after property
    have hvalue : Uncut ';' (Nesting.top.after property) ['a', ';', 'b'] := by
      rw [uncut_cons, uncut_cons, Nesting.step_of_not_delimiter hproper (by decide)]
      exact ⟨fun hcut => hopen hcut.2, fun hcut => hopen hcut.2, uncut_of_not_mem (by decide)⟩
    have hruled : WellFormed (property ++ [':', 'a', ';', 'b']) := by
      rw [wellFormed_append_colon hproperty huncut, hvalue.splitFrom_eq]
      exact ⟨isBlank_eq_false_of_not fun hnot => hopen hnot.2, by decide, rfl⟩
    have hread := ((h _).1 hruled).1
    rw [isValid_append_colon hproperty] at hread
    exact absurd (hread.2.2 'b' (by decide)) (by decide)
  · rintro ⟨huncut, hclosed⟩ rest
    rw [wellFormed_append_colon hproperty huncut, hclosed, isValid_append_colon hproperty, and_assoc,
      and_assoc, isBlank_iff_of_semicolons]
    exact Iff.rfl

/-- Each declaration of a block without braces is read of a statement that holds no cut. -/
theorem uncut_property_of_mem {text : Text} (hbraces : BraceFree text) {d : Declaration}
    (hd : d ∈ (DeclarationBlock.parse text).declarations) : Uncut ';' .top d.property := by
  rw [DeclarationBlock.declarations_of_braceFree hbraces] at hd
  obtain ⟨statement, hstatement, rfl⟩ := List.mem_map.1 hd
  have huncut := uncut_render (uncut_of_mem_splitTop (List.mem_of_mem_filter hstatement))
  rw [render, uncut_append, uncut_append] at huncut
  exact huncut.1.1

/-- When a property is not cut and leaves no quote open, a block reads behind its colon what the
declaration alone is read to be. -/
theorem declarations_append_colon (hproperty : ':' ∉ property) (huncut : Uncut ';' .top property)
    (hquote : (Nesting.top.after property).quote = none) {rest : Text}
    (hbraces : BraceFree (property ++ ':' :: rest)) (hvalid : (parse (property ++ ':' :: rest)).isValid) :
    (DeclarationBlock.parse (property ++ ':' :: rest)).declarations = [parse (property ++ ':' :: rest)] := by
  have hboth := splitFrom_of_deeper (by decide : Nesting.isDelimiter ';' = false) (Nesting.deeper_top hquote) rest
  rcases hdeep : splitFrom ';' (Nesting.top.after property) rest with ⟨first, others⟩
  rw [hdeep] at hboth
  have hsplit : splitFrom ';' .top (property ++ ':' :: rest) = (property ++ ':' :: first, others) := by
    rw [splitFrom_append_colon huncut, hdeep]
  have hnonblank : Text.isBlank (property ++ ':' :: first) = false :=
    Text.isBlank_eq_false_of_mem (List.mem_append_right _ (List.mem_cons_self ..)) (by decide)
  rw [parse_append_colon hproperty] at hvalid
  have hrest : ((splitFrom ';' .top first).2 ++ others).all Text.isBlank := by
    have := (Bool.and_eq_true_iff.1 hvalid).2
    rwa [hboth] at this
  rw [List.all_append, Bool.and_eq_true] at hrest
  obtain ⟨hfront, hback⟩ := hrest
  have hnone : others.filter (!Text.isBlank ·) = [] := by
    rw [List.filter_eq_nil_iff]
    exact fun part hpart => by simp [List.all_eq_true.1 hback part hpart]
  have hparse : parse (property ++ ':' :: first) = parse (property ++ ':' :: rest) := by
    rw [parse_append_colon hproperty, parse_append_colon hproperty, beforeSemicolon, beforeSemicolon, hboth,
      List.all_append, hfront, hback]
    rfl
  rw [DeclarationBlock.declarations_of_braceFree hbraces, DeclarationBlock.statements_eq_cons hsplit hnonblank,
    hnone, List.map_singleton, hparse]

/-- For a scan with nothing open, what ends an open quote starts one, and the rest is inside it. -/
theorem uncut_closing_append {n : Nesting} {q : Char} (hq : q = '"' ∨ q = '\'') :
    Uncut ';' .top (n.closing q ++ [';', 'a']) := by
  refine uncut_cons.2 ⟨fun hcut => ?_, @uncut_of_open _ _ q ?_ _ fun hmem => ?_⟩
  · rcases hq with rfl | rfl <;> exact absurd hcut.1 (by decide)
  · rcases hq with rfl | rfl <;> rfl
  · have hchar : q = ')' ∨ q ∈ [';', 'a'] := (List.mem_append.1 hmem).imp_left List.eq_of_mem_replicate
    rcases hq with rfl | rfl <;> exact absurd hchar (by decide)

/-- When a property leaves a quote open, a block may read a statement more than the declaration alone,
which takes it for the inside of a quote. -/
theorem not_readAlone_of_open_quote (hproperty : ':' ∉ property) (hbraces : BraceFree property) {q : Char}
    (hquote : (Nesting.top.after property).quote = some q) : ¬ ReadAlone property := by
  intro h
  have hq : q = '"' ∨ q = '\'' := Nesting.proper_top.after property q hquote
  have hopen : Nesting.top.after property ≠ .top := fun htop => by
    rw [htop] at hquote
    cases hquote
  let closing := (Nesting.top.after property).closing q
  have hfree : BraceFree (property ++ ':' :: (closing ++ [';', 'a'])) := by
    refine braceFree_append.2 ⟨hbraces, braceFree_cons.2 ⟨by decide, braceFree_append.2 ⟨?_, by decide⟩⟩⟩
    exact Nesting.braceFree_closing hq
  have hvalid : (parse (property ++ ':' :: (closing ++ [';', 'a']))).isValid := by
    have hquoteInk : isBlank q = false := by rcases hq with rfl | rfl <;> decide
    exact isValid_append_colon_of_uncut hproperty (isBlank_eq_false_of_not fun hnot => hopen hnot.2)
      (uncut_closing_append hq) (Text.isBlank_eq_false_of_mem (List.mem_cons_self ..) hquoteInk)
  have hclosed : Nesting.top.after (property ++ ':' :: closing) = .top := by
    rw [Nesting.after_append, Nesting.after_cons, step_colon, Nesting.after_closing hquote]
  have hmem : ['a'] ∈ DeclarationBlock.statements (property ++ ':' :: (closing ++ [';', 'a'])) := by
    rw [← List.cons_append, ← List.append_assoc, DeclarationBlock.statements,
      splitTop_append_separator (by decide) hclosed, List.mem_filter]
    exact ⟨List.mem_append_right _ (List.mem_singleton_self _), by decide⟩
  have hread : parse ['a'] ∈ [parse (property ++ ':' :: (closing ++ [';', 'a']))] := by
    rw [← h _ hfree hvalid, DeclarationBlock.declarations_of_braceFree hfree]
    exact List.mem_map_of_mem hmem
  rw [← List.mem_singleton.1 hread] at hvalid
  cases hvalid

theorem readAlone_iff (hproperty : ':' ∉ property) :
    ReadAlone property ↔
      (BraceFree property → Uncut ';' .top property ∧ (Nesting.top.after property).quote = none) := by
  constructor
  · intro h hbraces
    constructor
    · by_contra hcut
      have hfree : BraceFree (property ++ [':', 'a']) := braceFree_append.2 ⟨hbraces, by decide⟩
      have hblank := isBlank_eq_false_of_not fun hnot => hcut hnot.1
      have hvalid : (parse (property ++ [':', 'a'])).isValid :=
        isValid_append_colon_of_uncut hproperty hblank rfl (by decide)
      have hmem : parse (property ++ [':', 'a']) ∈ (DeclarationBlock.parse (property ++ [':', 'a'])).declarations := by
        rw [h _ hfree hvalid]
        exact List.mem_singleton_self _
      have hread := uncut_property_of_mem hfree hmem
      rw [parse_append_colon hproperty] at hread
      exact hcut ((uncut_iff (Text.ink_trim _)).1 hread)
    · rcases hquote : (Nesting.top.after property).quote with _ | q
      · rfl
      · exact absurd h (not_readAlone_of_open_quote hproperty hbraces hquote)
  · intro h rest hbraces hvalid
    obtain ⟨huncut, hquote⟩ := h (braceFree_append.1 hbraces).1
    exact declarations_append_colon hproperty huncut hquote hbraces hvalid

end Property

/-- A declaration is valid when neither side of its first colon is blank, up to the first top-level
semicolon behind that colon, and only white space and semicolons follow. For the rule, which looks at the
whole text, that is right behind the properties that hold no cut and close all they open; a block agrees
behind those that hold no cut and leave no quote open. -/
theorem parse_validity (text : Text) :
    ((parse text).isValid ↔
        ':' ∈ text ∧ (beforeColon text).isBlank = false ∧
          (beforeSemicolon (behindColon text)).isBlank = false ∧
            ∀ c ∈ behindSemicolon (behindColon text), c = ';' ∨ isBlank c) ∧
      (ReadAsRuled (beforeColon text) ↔
        Uncut ';' .top (beforeColon text) ∧ Nesting.top.after (beforeColon text) = .top) ∧
      (ReadAlone (beforeColon text) ↔
        (BraceFree (beforeColon text) →
          Uncut ';' .top (beforeColon text) ∧ (Nesting.top.after (beforeColon text)).quote = none)) := by
  have hproperty : ':' ∉ beforeColon text := fun hmem => by
    have := List.all_eq_true.1 List.all_takeWhile ':' hmem
    exact absurd this (by decide)
  refine ⟨?_, readAsRuled_iff hproperty, readAlone_iff hproperty⟩
  by_cases hcolon : ':' ∈ text
  · obtain ⟨property, rest, rfl, hfirst⟩ := List.eq_append_cons_of_mem hcolon
    rw [isValid_append_colon hfirst, beforeColon_append hfirst, behindColon_append hfirst]
    exact (and_iff_right hcolon).symm
  · have htrim : ':' ∉ text.trim := fun hmem => hcolon ((Text.trim_isInfix _).subset hmem)
    rw [parse_of_colonFree htrim]
    exact ⟨nofun, fun h => absurd h.1 hcolon⟩

/-- A semicolon in front of the first colon is read as part of the property, although a block cuts there;
a quoted semicolon behind it is taken for the end; and a second semicolon is let pass. -/
theorem semicolon_before_colon_is_kept :
    let text := "a;b:c".toList
    let quoted := "\"a:b;c\"".toList
    let doubled := "a:b;;".toList
    (parse text = ⟨"a;b".toList, "c".toList, true⟩ ∧ ¬ WellFormed text ∧ BraceFree text ∧
      (DeclarationBlock.parse text).declarations = [parse "a".toList, parse "b:c".toList]) ∧
    (WellFormed quoted ∧ parse quoted = ⟨"\"a".toList, "b".toList, false⟩) ∧
    (parse doubled = ⟨"a".toList, "b".toList, true⟩ ∧ ¬ WellFormed doubled) := by
  decide +kernel

end Declaration

end CssSurvey
