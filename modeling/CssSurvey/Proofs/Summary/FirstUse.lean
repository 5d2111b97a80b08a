/-
The lists of first uses: the fonts that sheets name and the properties of a sheet that have a vendor
prefix. Such a list holds what is used and nothing else, each entry once and in the order in which the
entries were first used; more sheets add to the fonts what they name first.
-/
import CssSurvey.Summary
import CssSurvey.Proofs.FirstUse
import CssSurvey.Proofs.Text.Cut

namespace CssSurvey

/-- A ruleset stands in a sheet, at its top level or in an at-rule. -/
def Sheet.HasRuleset (sheet : Sheet) (r : Ruleset) : Prop :=
  r ∈ sheet.rulesets ∨ ∃ rule ∈ sheet.atRules, r ∈ rule.rulesets

theorem Sheet.mem_allRulesets_iff {sheet : Sheet} {r : Ruleset} :
    r ∈ sheet.allRulesets ↔ sheet.HasRuleset r := by
  rw [allRulesets, List.mem_append, List.mem_flatMap, HasRuleset]

/-! ## Fonts -/

/-- A valid declaration of `font` or `font-family`, in any case of ASCII letters. -/
def Declaration.IsFont (d : Declaration) : Prop :=
  d.isValid = true ∧ (d.property.lower = "font".toList ∨ d.property.lower = "font-family".toList)

instance (d : Declaration) : Decidable d.IsFont :=
  inferInstanceAs (Decidable (d.isValid = true ∧
    (d.property.lower = "font".toList ∨ d.property.lower = "font-family".toList)))

theorem Declaration.namesFont_eq (d : Declaration) : d.namesFont = decide d.IsFont := by
  have hfont : Text.lower "font".toList = "font".toList := rfl
  have hfamily : Text.lower "font-family".toList = "font-family".toList := rfl
  rw [Bool.eq_iff_iff, decide_eq_true_eq, namesFont, Text.sameName, Text.sameName, hfont, hfamily,
    Bool.and_eq_true, Bool.or_eq_true, beq_iff_eq, beq_iff_eq, IsFont]

/-- Every use of a font: sheet after sheet, in a sheet the rulesets at top level before those in at-rules. -/
def fontUses (sheets : List Sheet) : List Text :=
  sheets.flatMap fun sheet => (sheet.rulesets ++ sheet.atRules.flatMap AtRule.rulesets).flatMap fun r =>
    (r.block.declarations.filter (·.IsFont)).map Declaration.value

theorem fontFamilies_eq (sheets : List Sheet) : fontFamilies sheets = (fontUses sheets).eraseDups := by
  have hfont : Declaration.namesFont = fun d => decide d.IsFont := funext Declaration.namesFont_eq
  unfold fontFamilies fontUses Sheet.declarations Sheet.allRulesets
  simp only [hfont, List.filter_flatMap, List.map_flatMap]

theorem mem_fontFamilies_iff {sheets : List Sheet} {value : Text} :
    value ∈ fontFamilies sheets ↔ ∃ sheet ∈ sheets, ∃ r, sheet.HasRuleset r ∧
      ∃ d ∈ r.block.declarations, d.IsFont ∧ d.value = value := by
  rw [fontFamilies_eq, List.mem_eraseDups, fontUses, List.mem_flatMap]
  refine exists_congr fun sheet => and_congr_right fun _ => ?_
  rw [List.mem_flatMap]
  refine exists_congr fun r => and_congr Sheet.mem_allRulesets_iff ?_
  simp only [List.mem_map, List.mem_filter, decide_eq_true_eq, and_assoc]

theorem fontFamilies_append (a b : List Sheet) :
    fontFamilies (a ++ b) = fontFamilies a ++ (fontFamilies b).filter (· ∉ fontFamilies a) := by
  have hkept : ∀ v, (!(fontUses a).elem v) = decide (v ∉ (fontUses a).eraseDups) := by
    intro v
    simp [List.mem_eraseDups]
  have huses : fontUses (a ++ b) = fontUses a ++ fontUses b := List.flatMap_append
  rw [fontFamilies_eq, fontFamilies_eq, fontFamilies_eq, huses, eraseDups_append_filter]
  simp only [hkept]

/-! ## Properties with a vendor prefix -/

/-- A name starts with a hyphen, ASCII letters or digits, at least one of them, and a hyphen. -/
def StartsWithVendor (name : Text) : Prop :=
  ∃ vendor rest, name = '-' :: (vendor ++ '-' :: rest) ∧ vendor ≠ [] ∧ ∀ c ∈ vendor, c.isAlphanum = true

theorem hasVendorPrefix_iff {name : Text} : hasVendorPrefix name = true ↔ StartsWithVendor name := by
  have hhyphen : Char.isAlphanum '-' = false := rfl
  constructor
  · intro h
    unfold hasVendorPrefix at h
    split at h
    · rename_i rest
      rw [Bool.and_eq_true, decide_eq_true_eq] at h
      obtain ⟨hvendor, hnext⟩ := h
      obtain ⟨after, hafter⟩ := List.head?_eq_some_iff.1 hnext
      obtain ⟨-, hrest⟩ := Text.dropWhile_eq_cons hafter
      exact ⟨_, after, congrArg ('-' :: ·) hrest, by simpa using hvendor,
        List.all_eq_true.1 List.all_takeWhile⟩
    · cases h
  · rintro ⟨vendor, rest, rfl, hne, hvendor⟩
    rw [hasVendorPrefix, Text.takeWhile_append_cons hvendor hhyphen, Text.dropWhile_append_cons hvendor hhyphen]
    simpa using hne

/-- Every use of a property, the rulesets at top level before those in at-rules. -/
def Sheet.propertyUses (sheet : Sheet) : List Text :=
  (sheet.rulesets ++ sheet.atRules.flatMap AtRule.rulesets).flatMap fun r =>
    r.block.declarations.map Declaration.property

theorem Sheet.vendorProperties_eq (sheet : Sheet) :
    sheet.vendorProperties = sheet.propertyUses.eraseDups.filter hasVendorPrefix := by
  unfold vendorProperties propertyUses declarations allRulesets
  rw [List.map_flatMap, eraseDups_filter]

theorem Sheet.mem_vendorProperties_iff {sheet : Sheet} {property : Text} :
    property ∈ sheet.vendorProperties ↔
      (∃ r, sheet.HasRuleset r ∧ ∃ d ∈ r.block.declarations, d.property = property) ∧ StartsWithVendor property := by
  rw [vendorProperties_eq, List.mem_filter, List.mem_eraseDups, hasVendorPrefix_iff, propertyUses,
    List.mem_flatMap]
  refine and_congr_left' (exists_congr fun r => and_congr mem_allRulesets_iff ?_)
  rw [List.mem_map]

/-! ## Both lists -/

/-- Fonts and properties with a vendor prefix are listed at their first use: all of them, no other, none
twice, and in the order in which they were first used. Fonts of more sheets come behind those of the
others, as far as they are not among these. -/
theorem first_uses_listed (sheets : List Sheet) :
    ((∀ value, value ∈ fontFamilies sheets ↔ ∃ sheet ∈ sheets, ∃ r, sheet.HasRuleset r ∧
          ∃ d ∈ r.block.declarations, d.IsFont ∧ d.value = value) ∧
        (fontFamilies sheets).Nodup ∧
        (fontFamilies sheets).Pairwise ((fontUses sheets).idxOf · < (fontUses sheets).idxOf ·) ∧
        ∀ others, fontFamilies (sheets ++ others) =
          fontFamilies sheets ++ (fontFamilies others).filter (· ∉ fontFamilies sheets)) ∧
      ∀ sheet : Sheet,
        (∀ property, property ∈ sheet.vendorProperties ↔
          (∃ r, sheet.HasRuleset r ∧ ∃ d ∈ r.block.declarations, d.property = property) ∧
            StartsWithVendor property) ∧
        sheet.vendorProperties.Nodup ∧
        sheet.vendorProperties.Pairwise (sheet.propertyUses.idxOf · < sheet.propertyUses.idxOf ·) := by
  refine ⟨⟨fun value => mem_fontFamilies_iff, ?_, ?_, fontFamilies_append sheets⟩,
    fun sheet => ⟨fun property => Sheet.mem_vendorProperties_iff, ?_, ?_⟩⟩
  · rw [fontFamilies_eq]
    exact nodup_eraseDups _
  · rw [fontFamilies_eq]
    exact pairwise_idxOf_eraseDups _
  · rw [Sheet.vendorProperties_eq]
    exact (nodup_eraseDups _).filter _
  · rw [Sheet.vendorProperties_eq]
    exact (pairwise_idxOf_eraseDups _).filter _

end CssSurvey
