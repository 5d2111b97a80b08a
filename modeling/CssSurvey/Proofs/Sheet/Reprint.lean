/-
Sheets in written form. The valid rulesets of a sheet without at-rules, printed one a line, are read
again as they were read the first time, as long as every body closes all it opens. None of what is
printed between the parts is taken for a part of them.
-/
import CssSurvey.Proofs.Fragment.Shape
import CssSurvey.Proofs.Ruleset.Print
import CssSurvey.Proofs.Sheet.Contents

namespace CssSurvey

open Contents

/-- The valid rulesets of an unmarked code are plain rules, and unmarked as well. -/
theorem exists_plainRules {code : Text} (hat : '@' ∉ code) (hcomment : CommentFree code)
    (hvalid : ∀ r ∈ (fragments code).map Ruleset.parse, r.isValid) :
    ∃ rules : List PlainRule, (fragments code).map Ruleset.parse = rules.map PlainRule.ruleset ∧
      ∀ rule ∈ rules, rule.Unmarked := by
  have hrule : ∀ fragment ∈ fragments code,
      ∃ rule : PlainRule, Ruleset.parse fragment = rule.ruleset ∧ rule.Unmarked := by
    intro fragment hmem
    obtain ⟨rule, hin, hparse⟩ := exists_plainRule_of_isValid hat hmem
      (hvalid _ (List.mem_map_of_mem hmem))
    exact ⟨rule, hparse, .of_isInfix hat hcomment hin⟩
  generalize fragments code = pieces at hrule
  induction pieces with
  | nil => exact ⟨[], rfl, nofun⟩
  | cons fragment pieces ih =>
    obtain ⟨⟨rule, hparse, hunmarked⟩, hrule⟩ := List.forall_mem_cons.1 hrule
    obtain ⟨rules, hparses, hall⟩ := ih hrule
    exact ⟨rule :: rules, by rw [List.map_cons, List.map_cons, hparse, hparses],
      List.forall_mem_cons.2 ⟨hunmarked, hall⟩⟩

/-- Unmarked rules, one a line, are the contents of their text. -/
theorem ofText_lines {rules : List PlainRule} (hrules : ∀ rule ∈ rules, rule.Unmarked) {gap : Text}
    (hgap : gap.isBlank) :
    ofText (gap ++ List.intercalate ['\n'] (rules.map PlainRule.text)) =
      ⟨[], [], rules.map (·.text.trim)⟩ := by
  induction rules generalizing gap with
  | nil =>
    rw [List.map_nil, List.intercalate_nil, List.append_nil]
    exact ofText_of_isBlank hgap
  | cons rule rules ih =>
    obtain ⟨hrule, hrules⟩ := List.forall_mem_cons.1 hrules
    cases rules with
    | nil =>
      have hnil : Text.isBlank [] := rfl
      have hone := ofText_rule_append hgap hrule.atFree hrule.commentFree []
      rw [List.append_nil, ofText_of_isBlank hnil] at hone
      rw [List.map_singleton, List.intercalate_singleton, hone]
      rfl
    | cons next rules =>
      have hline : Text.isBlank ['\n'] := by decide
      rw [List.map_cons, List.map_cons, List.intercalate_cons_cons, List.append_assoc,
        ofText_rule_append hgap hrule.atFree hrule.commentFree, ← List.map_cons, ih hrules hline]
      rfl

/-- Reading unmarked rules, one a line, gives these rules and nothing else. -/
theorem parse_lines (name context : Text) {rules : List PlainRule} (hrules : ∀ rule ∈ rules, rule.Unmarked) :
    let sheet := Sheet.parse name (List.intercalate ['\n'] (rules.map PlainRule.text)) context
    sheet.comments = [] ∧ sheet.atRules = [] ∧ sheet.atStatements = [] ∧
      sheet.rulesets = rules.map PlainRule.ruleset := by
  intro sheet
  have hnil : Text.isBlank [] := rfl
  have htext := ofText_lines hrules hnil
  rw [List.nil_append] at htext
  refine ⟨?comments, ?atRules, ?atStatements, ?rulesets⟩
  case comments => rw [Sheet.comments_parse, htext]
  case atRules => rw [Sheet.atRules_parse, htext]; rfl
  case atStatements => rw [Sheet.atStatements_parse, htext]; rfl
  case rulesets =>
    rw [Sheet.rulesets_parse, htext, List.map_map]
    exact List.map_congr_left fun rule _ => (Ruleset.parse_trim _).trans rule.parse_text

/-- Reading the printed rulesets of a sheet gives the same rulesets and nothing else, and printing
them again gives the same text. -/
theorem parse_print_rulesets (name context text : Text) (hat : '@' ∉ (separate text).code)
    (hcomment : CommentFree (separate text).code)
    (hvalid : ∀ r ∈ (Sheet.parse name text context).rulesets, r.isValid)
    (hdeclarations : ∀ r ∈ (Sheet.parse name text context).rulesets, ∀ d ∈ r.block.declarations, d.isValid)
    (hclosed : ∀ r ∈ (Sheet.parse name text context).rulesets, Nesting.top.after r.block.text = .top) :
    let sheet := Sheet.parse name text context
    let printed := List.intercalate ['\n'] (sheet.rulesets.map Ruleset.render)
    let again := Sheet.parse name printed context
    again.comments = [] ∧ again.atRules = [] ∧ again.atStatements = [] ∧
      again.rulesets.map (fun r => (r.selector, r.block.declarations, r.isValid)) =
        sheet.rulesets.map (fun r => (r.selector, r.block.declarations, r.isValid)) ∧
      again.selectors = sheet.selectors ∧
      List.intercalate ['\n'] (again.rulesets.map Ruleset.render) = printed := by
  intro sheet printed again
  have hfragments : sheet.rulesets = (fragments (separate text).code).map Ruleset.parse := by
    rw [Sheet.rulesets_parse, ofText_of_atFree hat]
  obtain ⟨rules, hrules, hunmarked⟩ := exists_plainRules hat hcomment (hfragments ▸ hvalid)
  replace hrules : sheet.rulesets = rules.map PlainRule.ruleset := hfragments.trans hrules
  have hmem : ∀ rule ∈ rules, rule.ruleset ∈ sheet.rulesets := fun rule hrule =>
    hrules ▸ List.mem_map_of_mem hrule
  have hsame : ∀ rule ∈ rules, rule.print.ruleset.selector = rule.ruleset.selector ∧
      rule.print.ruleset.block.declarations = rule.ruleset.block.declarations := fun rule hrule =>
    PlainRule.ruleset_print (hclosed _ (hmem rule hrule)) (hdeclarations _ (hmem rule hrule))
  -- The printed text is that of plain rules again, one a line.
  have hprinted : printed = List.intercalate ['\n'] ((rules.map PlainRule.print).map PlainRule.text) := by
    show List.intercalate _ (sheet.rulesets.map _) = _
    rw [hrules, List.map_map, List.map_map]
    exact congrArg _ (List.map_congr_left fun rule _ => rule.text_print.symm)
  have hprint : ∀ rule ∈ rules.map PlainRule.print, rule.Unmarked := by
    intro rule hrule
    obtain ⟨source, hsource, rfl⟩ := List.mem_map.1 hrule
    exact (hunmarked source hsource).print
  obtain ⟨hcomments, hatRules, hatStatements, hagain⟩ := parse_lines name context hprint
  rw [← hprinted] at hcomments hatRules hatStatements hagain
  replace hagain : again.rulesets = rules.map fun rule => rule.print.ruleset :=
    hagain.trans List.map_map
  refine ⟨hcomments, hatRules, hatStatements, ?rulesets, ?selectors, ?printed⟩
  case rulesets =>
    rw [hagain, hrules, List.map_map, List.map_map]
    refine List.map_congr_left fun rule hrule => ?_
    obtain ⟨hselector, hblock⟩ := hsame rule hrule
    exact Prod.ext hselector (Prod.ext hblock rfl)
  case selectors =>
    rw [Sheet.selectors, Sheet.selectors, hagain, hrules, List.flatMap_map, List.flatMap_map]
    refine List.flatMap_congr fun rule hrule => ?_
    rw [Ruleset.selectors, Ruleset.selectors, (hsame rule hrule).1]
  case printed =>
    show _ = List.intercalate _ (sheet.rulesets.map _)
    rw [hagain, hrules, List.map_map, List.map_map]
    refine congrArg _ (List.map_congr_left fun rule hrule => ?_)
    obtain ⟨hselector, hblock⟩ := hsame rule hrule
    rw [Function.comp_apply, Function.comp_apply, Ruleset.render, Ruleset.render, hselector, hblock]

/-- A comment, a stray semicolon and one inside quotes, and no semicolon at the end of a body. -/
theorem parse_print_rulesets_quoted :
    let text := "/* a */ b > c , d\x7b e : f ;; g:url(\"h;i\") \x7d\n.j\x7bk:l\x7d".toList
    let sheet := Sheet.parse [] text []
    let printed := List.intercalate ['\n'] (sheet.rulesets.map Ruleset.render)
    let again := Sheet.parse [] printed []
    printed = "b > c , d \x7be: f;g: url(\"h;i\");\x7d\n.j \x7bk: l;\x7d".toList ∧
      ('@' ∉ (separate text).code ∧ CommentFree (separate text).code ∧ ∀ r ∈ sheet.rulesets,
        r.isValid ∧ (∀ d ∈ r.block.declarations, d.isValid) ∧ Nesting.top.after r.block.text = .top) ∧
      again.comments = [] ∧ again.atRules = [] ∧ again.atStatements = [] ∧
      again.rulesets.map (fun r => (r.selector, r.block.declarations, r.isValid)) =
        sheet.rulesets.map (fun r => (r.selector, r.block.declarations, r.isValid)) ∧
      again.selectors = sheet.selectors ∧
      List.intercalate ['\n'] (again.rulesets.map Ruleset.render) = printed := by
  refine ⟨by decide +kernel, ⟨by decide, by decide, by decide +kernel⟩, ?_⟩
  exact parse_print_rulesets [] [] _ (by decide) (by decide) (by decide +kernel) (by decide +kernel)
    (by decide +kernel)

end CssSurvey
