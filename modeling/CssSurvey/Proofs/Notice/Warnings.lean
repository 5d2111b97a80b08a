/-
Warnings and faults. What reading warns of are the rulesets and the declarations that it marks invalid:
every one of them is warned of once, wherever it stands, and nothing else is. The trail of each reading
is compared with the faults of its result, from declarations up to sheets. A sheet tells of its at-rules
first and lists their rulesets last, so there the two have the same members in another order.
-/
import CssSurvey.Notice.Trail
import Mathlib.Tactic.Common

namespace CssSurvey

/-! ## Warnings of a trail -/

namespace Notice

/-- What the warnings in a trail are about, in order. -/
def warnings (trail : List Notice) : List Topic := (trail.filter (·.level = .warn)).map topic

@[simp] theorem warnings_append (a b : List Notice) : warnings (a ++ b) = warnings a ++ warnings b := by
  rw [warnings, List.filter_append, List.map_append, warnings, warnings]

theorem warnings_flatMap {α : Type} (trail : α → List Notice) (items : List α) :
    warnings (items.flatMap trail) = items.flatMap fun item => warnings (trail item) := by
  rw [warnings, List.filter_flatMap, List.map_flatMap]
  rfl

theorem length_warnings (trail : List Notice) :
    (warnings trail).length = trail.countP (·.level = .warn) := by
  rw [warnings, List.length_map, List.countP_eq_length_filter]

end Notice

open Notice

/-! ## Faults of what is read -/

/-- What is wrong with a declaration. -/
def Declaration.faults (d : Declaration) : List Topic := if d.isValid then [] else [.declaration]

/-- What is wrong with a ruleset and with the declarations in it. -/
def Ruleset.faults (r : Ruleset) : List Topic :=
  (if r.isValid then [] else [.ruleset]) ++ r.block.declarations.flatMap Declaration.faults

theorem Declaration.length_flatMap_faults (declarations : List Declaration) :
    (declarations.flatMap faults).length = declarations.countP (!·.isValid) := by
  induction declarations with
  | nil => rfl
  | cons d declarations ih =>
    rw [List.flatMap_cons, List.length_append, ih, List.countP_cons, faults]
    cases d.isValid <;> simp [Nat.add_comm]

theorem Ruleset.length_flatMap_faults (rulesets : List Ruleset) :
    (rulesets.flatMap faults).length =
      rulesets.countP (!·.isValid) + (rulesets.flatMap (·.block.declarations)).countP (!·.isValid) := by
  induction rulesets with
  | nil => rfl
  | cons r rulesets ih =>
    have hruleset : (if r.isValid then [] else [Topic.ruleset]).length = if !r.isValid then 1 else 0 := by
      cases r.isValid <;> rfl
    rw [List.flatMap_cons, List.length_append, ih, faults, List.length_append, hruleset,
      Declaration.length_flatMap_faults, List.countP_cons, List.flatMap_cons, List.countP_append]
    omega

/-! ## From declarations to at-rules -/

theorem Declaration.warnings_trail (text : Text) : warnings (trail text) = (parse text).faults := by
  unfold trail faults
  split
  · rfl
  · split <;> rfl

theorem DeclarationBlock.warnings_trail (text : Text) :
    warnings (trail text) = (parse text).declarations.flatMap Declaration.faults := by
  unfold trail parse
  rw [warnings_flatMap, List.flatMap_map]
  simp only [Declaration.warnings_trail]

/-- A ruleset is warned of when its braces are not those of a ruleset, and its declarations are read
either way. -/
theorem Ruleset.warnings_trail (text : Text) : warnings (trail text) = (parse text).faults := by
  let rest := text.trim.dropWhile (!isBrace ·)
  let body := if wellBraced text.trim then rest else rest.filter (!isBrace ·)
  have htrail : trail text =
      (if wellBraced text.trim then [] else [misplacedBraces text.trim]) ++ DeclarationBlock.trail body := by
    unfold trail
    cases h : wellBraced text.trim <;> simp only [body, h] <;> rfl
  have hfaults : (parse text).faults =
      (if wellBraced text.trim then [] else [.ruleset]) ++
        (DeclarationBlock.parse body).declarations.flatMap Declaration.faults := rfl
  have hown : warnings (if wellBraced text.trim then [] else [misplacedBraces text.trim]) =
      if wellBraced text.trim then [] else [.ruleset] := by
    split <;> rfl
  rw [htrail, hfaults, warnings_append, hown, DeclarationBlock.warnings_trail]

/-- Cutting a code into fragments warns of nothing. -/
theorem warnings_fragmentsTrail (code : Text) : warnings (fragmentsTrail code) = [] := by
  have hnone : (fragmentsTrail code).filter (·.level = .warn) = [] := by
    rw [List.filter_eq_nil_iff]
    intro notice hnotice
    rcases List.mem_append.1 hnotice with hunclosed | hsplit
    · obtain ⟨stretch, -, hstretch⟩ := List.mem_filterMap.1 hunclosed
      obtain ⟨next, -, rfl⟩ := Option.map_eq_some_iff.1 hstretch
      simp [level]
    · rw [List.mem_singleton.1 hsplit]
      simp [level]
  rw [warnings, hnone]
  rfl

theorem warnings_rulesets (texts : List Text) :
    warnings (texts.flatMap Ruleset.trail) = (texts.map Ruleset.parse).flatMap Ruleset.faults := by
  rw [warnings_flatMap, List.flatMap_map]
  simp only [Ruleset.warnings_trail]

/-- Of an at-rule only those fragments are warned of that are read into rulesets. -/
theorem AtSource.warnings_trails (sources : List AtSource) :
    warnings (sources.flatMap trail) =
      (sources.filterMap AtRule.ofSource?).flatMap fun rule => rule.rulesets.flatMap Ruleset.faults := by
  induction sources with
  | nil => rfl
  | cons source sources ih =>
    rw [List.flatMap_cons, warnings_append, ih]
    cases source with
    | statement head => rfl
    | block head body closed =>
      have hblock : warnings (trail (.block head body closed)) =
          ((AtRule.bodyFragments body).map Ruleset.parse).flatMap Ruleset.faults := by
        rw [trail, warnings_append, warnings_append, warnings_fragmentsTrail, warnings_rulesets]
        exact List.append_nil _
      rw [hblock]
      rfl

/-! ## Sheets -/

/-- The warnings of reading a sheet are the faults of its rulesets and declarations, each once; so there
are as many of them as there are invalid rulesets and invalid declarations. -/
theorem warnings_sheet_trail (name text context : Text) :
    let sheet := Sheet.parse name text context
    let trail := Sheet.trail name text
    (warnings trail).Perm (sheet.allRulesets.flatMap Ruleset.faults) ∧
      trail.countP (·.level = .warn) =
        sheet.allRulesets.countP (!·.isValid) + sheet.declarations.countP (!·.isValid) := by
  intro sheet trail
  have hwarnings : warnings trail =
      (sheet.atRules.flatMap AtRule.rulesets).flatMap Ruleset.faults ++ sheet.rulesets.flatMap Ruleset.faults := by
    show warnings (_ ++ _ ++ _ ++ [_]) = _
    rw [warnings_append, warnings_append, warnings_append, AtSource.warnings_trails, warnings_fragmentsTrail,
      warnings_rulesets, List.flatMap_assoc, List.append_nil]
    exact List.append_nil _
  have hperm : (warnings trail).Perm (sheet.allRulesets.flatMap Ruleset.faults) := by
    rw [hwarnings, Sheet.allRulesets, List.flatMap_append]
    exact List.perm_append_comm
  refine ⟨hperm, ?_⟩
  rw [← length_warnings, hperm.length_eq, Ruleset.length_flatMap_faults]
  rfl

end CssSurvey
