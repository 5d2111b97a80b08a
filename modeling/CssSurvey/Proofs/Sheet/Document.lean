/-
Documents: well-formed stylesheets written out item by item, with white space around the items.
An item is a comment, a plain rule, an at-rule with a block, or a statement. Reading undoes the
writing: it gives back the comments, the at-rules with their bodies, the statements and the
rulesets, each in order and none besides them.
-/
import CssSurvey.Proofs.Sheet.Contents

namespace CssSurvey

open Contents

/-! ## Things written with white space around them -/

/-- Things in order, each with the white space before it, and the white space after the last. -/
structure Spaced (α : Type) where
  parts : List (Text × α)
  last : Text
  blank_parts : ∀ part ∈ parts, part.1.isBlank
  blank_last : last.isBlank

namespace Spaced

/-- The things without the white space. -/
def items {α : Type} (spaced : Spaced α) : List α := spaced.parts.map Prod.snd

/-- The things written out. -/
def render {α : Type} (write : α → Text) (spaced : Spaced α) : Text :=
  (spaced.parts.flatMap fun (gap, item) => gap ++ write item) ++ spaced.last

end Spaced

/-! ## Items -/

/-- The head of an at-rule as it is written, up to the brace or semicolon that ends it. -/
structure AtHead where
  first : Char
  rest : Text
  keyword_first : first.isAlpha || first = '-'
  braceFree_rest : BraceFree rest
  semicolonFree_rest : ';' ∉ rest
  commentFree_rest : CommentFree rest

namespace AtHead

/-- The head written out. -/
def text (head : AtHead) : Text := '@' :: head.first :: head.rest

theorem startsWithKeyword (head : AtHead) : Outline.StartsWithKeyword head.text :=
  ⟨head.first, head.rest, rfl, head.keyword_first⟩

theorem first_ne {head : AtHead} {c : Char} (hc : (c.isAlpha || c = '-') = false) : head.first ≠ c := by
  rintro rfl
  rw [head.keyword_first] at hc
  cases hc

theorem endsHead_eq_false (head : AtHead) : ∀ c ∈ head.text, AtSource.endsHead c = false := by
  intro c hmem
  have hne : c ≠ '{' ∧ c ≠ ';' := by
    rcases List.mem_cons.1 hmem with rfl | hmem
    · decide
    · rcases List.mem_cons.1 hmem with rfl | hmem
      · exact ⟨first_ne (by decide), first_ne (by decide)⟩
      · exact ⟨(isBrace_eq_false.1 (head.braceFree_rest c hmem)).1,
          fun h => head.semicolonFree_rest (h ▸ hmem)⟩
  simp [AtSource.endsHead, hne]

theorem commentFree_text (head : AtHead) : CommentFree head.text :=
  (head.commentFree_rest.cons (first_ne (by decide))).cons (by decide)

end AtHead

/-- One item of a document. -/
inductive Item where
  | comment (content : Text) (unclosed : ¬ ['*', '/'] <:+: content)
  | rule (plain : PlainRule) (unmarked : plain.Unmarked)
  | block (head : AtHead) (body : Text) (balanced : bracesBalanced body) (free : CommentFree body)
  | statement (head : AtHead)

namespace Item

/-- An item written out. -/
def text : Item → Text
  | comment content _ => writeComment content
  | rule plain _ => plain.text
  | block head body _ _ => head.text ++ '{' :: (body ++ ['}'])
  | statement head => head.text ++ [';']

/-- The comment that an item is. -/
def comment? : Item → Option Text
  | comment content _ => some (writeComment content)
  | _ => none

/-- The ruleset that an item stands for. -/
def ruleset? : Item → Option Ruleset
  | rule plain _ => some plain.ruleset
  | _ => none

/-- The header and the body of the block that an item is. -/
def block? : Item → Option (Text × Text)
  | block head body _ _ => some (Text.collapse head.text, body)
  | _ => none

/-- The header of the statement that an item is. -/
def statement? : Item → Option Text
  | statement head => some (Text.collapse head.text)
  | _ => none

/-- What an item adds to the contents of a text. -/
def contents : Item → Contents
  | comment content _ => ⟨[writeComment content], [], []⟩
  | rule plain _ => ⟨[], [], [plain.text.trim]⟩
  | block head body _ _ => ⟨[], [.block head.text body true], []⟩
  | statement head => ⟨[], [.statement head.text], []⟩

/-- An item after white space adds its contents to those of what follows, in which white space may be
left over from before the item. -/
theorem exists_ofText_append {gap : Text} (hgap : gap.isBlank) (item : Item) (rest : Text) :
    ∃ left : Text, left.isBlank ∧
      ofText (gap ++ (item.text ++ rest)) = item.contents ++ ofText (left ++ rest) := by
  cases item with
  | comment content unclosed => exact ⟨gap, hgap, ofText_comment_append hgap unclosed rest⟩
  | rule plain unmarked => exact ⟨[], rfl, ofText_rule_append hgap unmarked.atFree unmarked.commentFree rest⟩
  | block head body balanced free =>
    have hblock := ofText_block_append hgap head.startsWithKeyword head.endsHead_eq_false balanced
      head.commentFree_text free rest
    exact ⟨gap, hgap, by simpa [text, contents] using hblock⟩
  | statement head =>
    have hstatement := ofText_statement_append hgap head.startsWithKeyword head.endsHead_eq_false
      head.commentFree_text rest
    exact ⟨gap, hgap, by simpa [text, contents] using hstatement⟩

end Item

/-! ## Documents -/

/-- The contents of a document are those of its items, whatever white space is in front of it. -/
theorem ofText_items {parts : List (Text × Item)} (hparts : ∀ part ∈ parts, part.1.isBlank) {last : Text}
    (hlast : last.isBlank) {gap : Text} (hgap : gap.isBlank) :
    ofText (gap ++ ((parts.flatMap fun (gap, item) => gap ++ item.text) ++ last)) =
      ⟨parts.flatMap (·.2.contents.comments), parts.flatMap (·.2.contents.sources),
        parts.flatMap (·.2.contents.fragments)⟩ := by
  -- The white space before a comment or an at-rule stays in the code, in front of the next item.
  induction parts generalizing gap with
  | nil =>
    have hblank : Text.isBlank (gap ++ last) := by simp_all [Text.isBlank]
    exact ofText_of_isBlank hblank
  | cons part parts ih =>
    obtain ⟨before, item⟩ := part
    obtain ⟨hbefore, hparts⟩ := List.forall_mem_cons.1 hparts
    have hgap : Text.isBlank (gap ++ before) := by simp_all [Text.isBlank]
    obtain ⟨left, hleft, hitem⟩ := item.exists_ofText_append hgap
      ((parts.flatMap fun (gap, item) => gap ++ item.text) ++ last)
    have hassoc : gap ++ (((before, item) :: parts).flatMap (fun (gap, item) => gap ++ item.text) ++ last) =
        (gap ++ before) ++ (item.text ++ ((parts.flatMap fun (gap, item) => gap ++ item.text) ++ last)) := by
      simp
    rw [hassoc, hitem, ih hparts hleft]
    rfl

theorem ofText_render (document : Spaced Item) :
    ofText (document.render Item.text) =
      ⟨document.items.flatMap (·.contents.comments), document.items.flatMap (·.contents.sources),
        document.items.flatMap (·.contents.fragments)⟩ := by
  have hnil : Text.isBlank [] := rfl
  have := ofText_items document.blank_parts document.blank_last hnil
  simpa [Spaced.render, Spaced.items, List.flatMap_map] using this

/-! ## Lists of rules -/

theorem fragments_rules {parts : List (Text × PlainRule)} (hparts : ∀ part ∈ parts, part.1.isBlank)
    {last : Text} (hlast : last.isBlank) :
    fragments ((parts.flatMap fun (gap, rule) => gap ++ rule.text) ++ last) =
      parts.map fun (_, rule) => rule.text.trim := by
  induction parts with
  | nil => exact fragments_of_isBlank hlast
  | cons part parts ih =>
    obtain ⟨gap, rule⟩ := part
    obtain ⟨hgap, hparts⟩ := List.forall_mem_cons.1 hparts
    have hback : Scan.start.after (gap ++ rule.text) = Scan.start := by
      rw [Scan.after_append]
      refine Scan.after_text rule ?_
      rw [Scan.after_of_braceFree (BraceFree.of_isBlank hgap)]
      rfl
    rw [List.flatMap_cons, List.append_assoc, fragments_append hback, fragments_rule hgap, ih hparts]
    rfl

/-- The rulesets in the body of an at-rule that holds plain rules are these rules. -/
theorem rulesets_of_rules {rules : Spaced PlainRule} {source : AtSource} {rule : AtRule}
    (hsource : AtRule.ofSource? source = some rule) (hbody : rule.body = rules.render PlainRule.text) :
    rule.rulesets = rules.items.map PlainRule.ruleset := by
  have hopen : ∀ fragment ∈ rules.items.map (·.text.trim), fragment.any (· = '{') := by
    intro fragment hmem
    obtain ⟨plain, -, rfl⟩ := List.mem_map.1 hmem
    rw [plain.trim_text]
    simp
  have hfragments : fragments rule.body = rules.items.map (·.text.trim) := by
    rw [hbody, Spaced.render, fragments_rules rules.blank_parts rules.blank_last, Spaced.items, List.map_map]
    rfl
  have hrulesets : rule.rulesets = (AtRule.bodyFragments rule.body).map Ruleset.parse := by
    cases source with
    | statement => cases hsource
    | block => cases hsource; rfl
  rw [hrulesets, AtRule.bodyFragments, hfragments, List.filter_eq_self.2 hopen, List.map_map]
  exact List.map_congr_left fun plain _ => by
    rw [Function.comp_apply, Ruleset.parse_trim, plain.parse_text]

/-! ## Reading a document -/

/-- Reading a document gives back its items, each kind in order and nothing else. -/
theorem parse_document (name context : Text) (document : Spaced Item) :
    let sheet := Sheet.parse name (document.render Item.text) context
    sheet.comments = document.items.filterMap Item.comment? ∧
      sheet.atRules.map (fun rule => (rule.header, rule.body)) = document.items.filterMap Item.block? ∧
      (∀ rule ∈ sheet.atRules, ∀ rules : Spaced PlainRule, rule.body = rules.render PlainRule.text →
        rule.rulesets = rules.items.map PlainRule.ruleset) ∧
      sheet.atStatements = document.items.filterMap Item.statement? ∧
      sheet.rulesets = document.items.filterMap Item.ruleset? := by
  intro sheet
  refine ⟨?comments, ?blocks, ?bodies, ?statements, ?rulesets⟩
  case comments =>
    rw [Sheet.comments_parse, ofText_render, List.filterMap_eq_flatMap_toList]
    exact List.flatMap_congr fun item _ => by cases item <;> rfl
  case blocks =>
    rw [Sheet.atRules_parse, ofText_render, List.filterMap_flatMap, List.map_flatMap,
      List.filterMap_eq_flatMap_toList Item.block?]
    exact List.flatMap_congr fun item _ => by cases item <;> rfl
  case bodies =>
    intro rule hrule rules hbody
    rw [Sheet.atRules_parse] at hrule
    obtain ⟨source, -, hsource⟩ := List.mem_filterMap.1 hrule
    exact rulesets_of_rules hsource hbody
  case statements =>
    rw [Sheet.atStatements_parse, ofText_render, List.filterMap_flatMap,
      List.filterMap_eq_flatMap_toList Item.statement?]
    exact List.flatMap_congr fun item _ => by cases item <;> rfl
  case rulesets =>
    rw [Sheet.rulesets_parse, ofText_render, List.filterMap_eq_flatMap_toList, List.map_flatMap]
    refine List.flatMap_congr fun item _ => ?_
    cases item with
    | rule plain _ =>
      have hparse : Ruleset.parse plain.text.trim = plain.ruleset := by
        rw [Ruleset.parse_trim, plain.parse_text]
      simp [Item.contents, Item.ruleset?, hparse]
    | _ => rfl

/-- A document with an item of each kind, with rules in the body of its at-rule. -/
theorem parse_document_of_each_kind : ∃ document : Spaced Item,
    document.render Item.text = "/*x*/a\x7b\x7d @media  p\x7bb\x7bc:d\x7d\x7d @import e;\n".toList ∧
      let sheet := Sheet.parse [] (document.render Item.text) []
      sheet.comments = ["/*x*/".toList] ∧
        sheet.atRules.map (fun rule => (rule.header, rule.body)) =
          [("@media p".toList, "b\x7bc:d\x7d".toList)] ∧
        (∀ rule ∈ sheet.atRules, rule.rulesets.map (·.selector) = [['b']]) ∧
        sheet.atStatements = ["@import e".toList] ∧
        sheet.rulesets.map (·.selector) = [['a']] := by
  let plain : PlainRule := ⟨['a'], [], by decide, by decide⟩
  let nested : PlainRule := ⟨['b'], "c:d".toList, by decide, by decide⟩
  let media : AtHead := ⟨'m', "edia  p".toList, by decide, by decide, by decide, by decide⟩
  let imported : AtHead := ⟨'i', "mport e".toList, by decide, by decide, by decide, by decide⟩
  let rules : Spaced PlainRule := ⟨[([], nested)], [], by decide, by decide⟩
  let document : Spaced Item :=
    ⟨[([], .comment ['x'] (by decide)),
      ([], .rule plain ⟨by decide, by decide, by decide, by decide⟩),
      ([' '], .block media (rules.render PlainRule.text) (by decide) (by decide)),
      ([' '], .statement imported)], ['\n'], by decide, by decide⟩
  obtain ⟨hcomments, hblocks, hbodies, hstatements, hrulesets⟩ := parse_document [] [] document
  refine ⟨document, by decide, hcomments, hblocks, ?_, hstatements, ?_⟩
  · intro rule hrule
    have hbody : rule.body = rules.render PlainRule.text := by
      have hmem := List.mem_map_of_mem (f := fun rule : AtRule => (rule.header, rule.body)) hrule
      rw [hblocks] at hmem
      exact congrArg Prod.snd (List.mem_singleton.1 hmem)
    rw [hbodies rule hrule rules hbody]
    rfl
  · rw [hrulesets]
    rfl

end CssSurvey
