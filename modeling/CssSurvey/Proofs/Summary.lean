/-
What several stylesheets repeat. The selectors of a summary are counted: a selector is there exactly
when it is used twice, each sheet of some name stands beside it once for each use in the sheets of that
name, and in whatever order the sheets are taken, the summary shows the same.
-/
import CssSurvey.Summary
import CssSurvey.Proofs.Uses

namespace CssSurvey

open Uses

/-! ## Uses of selectors -/

/-- Every use of a selector with the name of the sheet that it stands in. -/
def selectorUses (sheets : List Sheet) : List (Text × Text) :=
  sheets.flatMap fun sheet => sheet.selectors.map (·, sheet.name)

theorem selectorUses_cons (sheet : Sheet) (sheets : List Sheet) :
    selectorUses (sheet :: sheets) = sheet.selectors.map (·, sheet.name) ++ selectorUses sheets :=
  List.flatMap_cons

theorem keys_selectorUses (sheets : List Sheet) :
    (selectorUses sheets).map Prod.fst = sheets.flatMap Sheet.selectors := by
  rw [selectorUses, List.map_flatMap]
  simp only [List.map_map, Function.comp_def, List.map_id']

theorem namesBeside_map_pair (key name : Text) (keys : List Text) :
    namesBeside key (keys.map (·, name)) = List.replicate (keys.count key) name := by
  induction keys with
  | nil => rfl
  | cons other keys ih =>
    rw [List.map_cons, namesBeside_cons, ih, List.count_cons]
    by_cases h : other = key
    · simp [h, List.replicate_succ]
    · simp [h]

/-- A name stands beside a selector as often as the sheets of that name use it. -/
theorem count_namesBeside_selectorUses (sheets : List Sheet) (key name : Text) :
    (namesBeside key (selectorUses sheets)).count name =
      ((sheets.filter (·.name = name)).flatMap Sheet.selectors).count key := by
  induction sheets with
  | nil => rfl
  | cons sheet sheets ih =>
    rw [selectorUses_cons, namesBeside_append, namesBeside_map_pair, List.count_append, ih,
      List.count_replicate, List.filter_cons]
    by_cases h : sheet.name = name
    · simp [h, List.flatMap_cons]
    · simp [h]

theorem namesBeside_perm {a b : List (Text × Text)} (h : a.Perm b) (key : Text) :
    (namesBeside key a).Perm (namesBeside key b) :=
  (h.filter _).map _

/-! ## Repeated selectors -/

theorem repeatedSelectors_eq (sheets : List Sheet) :
    repeatedSelectors sheets = (ofList (selectorUses sheets)).repeated.sortNames := rfl

theorem ascending_repeatedSelectors (sheets : List Sheet) :
    (repeatedSelectors sheets).Pairwise (·.1 < ·.1) :=
  ascending_sortNames (ascending_repeated (wellFormed_ofList (selectorUses sheets)))

theorem mem_repeatedSelectors_iff {sheets : List Sheet} {key : Text} {names : List Text} :
    (key, names) ∈ repeatedSelectors sheets ↔
      1 < (namesBeside key (selectorUses sheets)).length ∧
        (namesBeside key (selectorUses sheets)).mergeSort Text.le = names := by
  rw [repeatedSelectors_eq, mem_sortNames_iff]
  constructor
  · rintro ⟨found, hfound, rfl⟩
    obtain ⟨htwo, rfl⟩ := mem_repeated_ofList_iff.1 hfound
    exact ⟨htwo, rfl⟩
  · rintro ⟨htwo, rfl⟩
    exact ⟨_, mem_repeated_ofList_iff.2 ⟨htwo, rfl⟩, rfl⟩

theorem mem_keys_repeatedSelectors_iff {sheets : List Sheet} {key : Text} :
    key ∈ (repeatedSelectors sheets).map Prod.fst ↔ 2 ≤ (sheets.flatMap Sheet.selectors).count key := by
  have hlength := length_namesBeside key (selectorUses sheets)
  rw [keys_selectorUses] at hlength
  rw [← hlength, List.mem_map]
  constructor
  · rintro ⟨⟨key', names⟩, hmem, rfl⟩
    exact (mem_repeatedSelectors_iff.1 hmem).1
  · intro htwo
    exact ⟨(key, _), mem_repeatedSelectors_iff.2 ⟨htwo, rfl⟩, rfl⟩

theorem repeatedSelectors_eq_of_perm {a b : List Sheet} (h : a.Perm b) :
    repeatedSelectors a = repeatedSelectors b := by
  have huses : (selectorUses a).Perm (selectorUses b) := h.flatMap_right _
  refine eq_of_mem_iff (ascending_repeatedSelectors a) (ascending_repeatedSelectors b) fun key names => ?_
  have hnames := namesBeside_perm huses key
  rw [mem_repeatedSelectors_iff, mem_repeatedSelectors_iff, hnames.length_eq, Text.mergeSort_eq_of_perm hnames]

/-- Repeated selectors are counted: each key stands there once, and it does when all sheets together use
it twice; beside it stand sorted names, each as often as the sheets of that name use the key. The order
of the sheets does not matter. -/
theorem repeatedSelectors_counts (sheets : List Sheet) :
    (repeatedSelectors sheets).Pairwise (·.1 < ·.1) ∧
      (∀ key, key ∈ (repeatedSelectors sheets).map Prod.fst ↔
        2 ≤ (sheets.flatMap Sheet.selectors).count key) ∧
      (∀ key names, (key, names) ∈ repeatedSelectors sheets →
        names.Pairwise (Text.le · ·) ∧
          ∀ name, names.count name = ((sheets.filter (·.name = name)).flatMap Sheet.selectors).count key) ∧
      ∀ others, sheets.Perm others → repeatedSelectors others = repeatedSelectors sheets := by
  refine ⟨ascending_repeatedSelectors sheets, fun key => mem_keys_repeatedSelectors_iff, ?_, ?_⟩
  · intro key names hmem
    obtain ⟨-, rfl⟩ := mem_repeatedSelectors_iff.1 hmem
    refine ⟨Text.pairwise_mergeSort _, fun name => ?_⟩
    rw [(List.mergeSort_perm _ _).count_eq, count_namesBeside_selectorUses]
  · exact fun others h => (repeatedSelectors_eq_of_perm h).symm

/-- Two sheets of one name between which a third stands, in either order: `b` is used twice in one sheet
and once in each of the others, `a` twice and `c` once. -/
theorem repeatedSelectors_counts_shared_name :
    let first := Sheet.ofStyleElement "b \x7b\x7d a, b \x7b\x7d".toList "x.html".toList
    let second := Sheet.parse "a.css".toList "b, c \x7b\x7d".toList []
    let third := Sheet.ofStyleElement "a > b, a, b \x7b\x7d".toList "y.html".toList
    let found := repeatedSelectors [first, second, third]
    let names := ["a.css".toList, "local".toList, "local".toList, "local".toList]
    ([first, second, third].Perm [third, second, first] ∧ ("b".toList, names) ∈ found ∧
        found.map Prod.fst = ["a".toList, "b".toList]) ∧
      names.Pairwise (Text.le · ·) ∧
      names.count "local".toList = ([first, third].flatMap Sheet.selectors).count "b".toList ∧
      repeatedSelectors [third, second, first] = found := by
  intro first second third found names
  have hperm : [first, second, third].Perm [third, second, first] := List.reverse_perm _ |>.symm
  have hbeside : namesBeside "b".toList (selectorUses [first, second, third]) =
      ["local".toList, "local".toList, "a.css".toList, "local".toList] := by decide +kernel
  have hsort : ["local".toList, "local".toList, "a.css".toList, "local".toList].mergeSort Text.le = names :=
    (Text.mergeSort_eq_of_perm (by decide)).trans (List.mergeSort_of_pairwise (by decide))
  have hmem : ("b".toList, names) ∈ found := by
    rw [mem_repeatedSelectors_iff, hbeside]
    exact ⟨by decide, hsort⟩
  have hkeys : found.map Prod.fst = ["a".toList, "b".toList] := by decide +kernel
  obtain ⟨-, -, hnames, horder⟩ := repeatedSelectors_counts [first, second, third]
  obtain ⟨hsorted, hcount⟩ := hnames _ _ hmem
  exact ⟨⟨hperm, hmem, hkeys⟩, hsorted, hcount _, horder _ hperm⟩

end CssSurvey
