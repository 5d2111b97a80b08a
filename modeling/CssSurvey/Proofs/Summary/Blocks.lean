/-
Declaration blocks that several rulesets write out. A block is listed exactly when two rulesets have it,
beside it the sheets of all of them in order; more sheets only add names at the end, and which blocks are
listed does not depend on the order of the sheets.
-/
import CssSurvey.Proofs.Summary

namespace CssSurvey

open Uses

/-- The names of the sheets that write a block out, one for each ruleset that does, in order. -/
def blockHolders (key : Text) (sheets : List Sheet) : List Text :=
  sheets.flatMap fun sheet => (sheet.rulesets.filter (·.block.key = key)).map fun _ => sheet.name

theorem blockHolders_append (key : Text) (a b : List Sheet) :
    blockHolders key (a ++ b) = blockHolders key a ++ blockHolders key b :=
  List.flatMap_append

theorem blockHolders_perm {a b : List Sheet} (h : a.Perm b) (key : Text) :
    (blockHolders key a).Perm (blockHolders key b) :=
  h.flatMap_right _

/-- Every block with the name of the sheet that it stands in. -/
def blockUses (sheets : List Sheet) : List (Text × Text) :=
  sheets.flatMap fun sheet => sheet.rulesets.map (·.block.key, sheet.name)

theorem namesBeside_blockUses (key : Text) (sheets : List Sheet) :
    namesBeside key (blockUses sheets) = blockHolders key sheets := by
  rw [namesBeside, blockUses, blockHolders, List.filter_flatMap, List.map_flatMap]
  refine List.flatMap_congr fun sheet _ => ?_
  rw [List.filter_map, List.map_map]
  rfl

/-! ## Repeated blocks -/

theorem ascending_repeatedBlocks (sheets : List Sheet) : (repeatedBlocks sheets).Pairwise (·.1 < ·.1) :=
  ascending_repeated (wellFormed_ofList (blockUses sheets))

theorem mem_repeatedBlocks_iff {sheets : List Sheet} {key : Text} {names : List Text} :
    (key, names) ∈ repeatedBlocks sheets ↔ 2 ≤ names.length ∧ names = blockHolders key sheets := by
  have hmem := @mem_repeated_ofList_iff (blockUses sheets) key names
  rw [namesBeside_blockUses, eq_comm (b := names)] at hmem
  exact hmem

theorem mem_keys_repeatedBlocks_iff {sheets : List Sheet} {key : Text} :
    key ∈ (repeatedBlocks sheets).map Prod.fst ↔ 2 ≤ (blockHolders key sheets).length := by
  rw [List.mem_map]
  constructor
  · rintro ⟨⟨key', names⟩, hmem, rfl⟩
    obtain ⟨htwo, rfl⟩ := mem_repeatedBlocks_iff.1 hmem
    exact htwo
  · intro htwo
    exact ⟨(key, _), mem_repeatedBlocks_iff.2 ⟨htwo, rfl⟩, rfl⟩

/-- More sheets behind the others add their names at the end. -/
theorem mem_repeatedBlocks_append {sheets : List Sheet} {key : Text} {names : List Text}
    (h : (key, names) ∈ repeatedBlocks sheets) (others : List Sheet) :
    (key, names ++ blockHolders key others) ∈ repeatedBlocks (sheets ++ others) := by
  obtain ⟨htwo, rfl⟩ := mem_repeatedBlocks_iff.1 h
  refine mem_repeatedBlocks_iff.2 ⟨?_, (blockHolders_append key sheets others).symm⟩
  rw [List.length_append]
  exact Nat.le_add_right_of_le htwo

theorem keys_repeatedBlocks_eq_of_perm {a b : List Sheet} (h : a.Perm b) :
    (repeatedBlocks a).map Prod.fst = (repeatedBlocks b).map Prod.fst := by
  refine keys_eq_of_mem_iff (ascending_repeatedBlocks a) (ascending_repeatedBlocks b) fun key => ?_
  rw [mem_keys_repeatedBlocks_iff, mem_keys_repeatedBlocks_iff, (blockHolders_perm h key).length_eq]

/-- Repeated blocks are grouped: a block stands there once, and it does when two rulesets have it; beside
it stand the sheets of all of these in order. Sheets that come later add their names behind those, and
another order of the sheets gives the same blocks. -/
theorem repeatedBlocks_groups (sheets : List Sheet) :
    (repeatedBlocks sheets).Pairwise (·.1 < ·.1) ∧
      (∀ key, key ∈ (repeatedBlocks sheets).map Prod.fst ↔ 2 ≤ (blockHolders key sheets).length) ∧
      (∀ key names, (key, names) ∈ repeatedBlocks sheets → names = blockHolders key sheets ∧
        ∀ others, (key, names ++ blockHolders key others) ∈ repeatedBlocks (sheets ++ others)) ∧
      ∀ others, sheets.Perm others →
        (repeatedBlocks others).map Prod.fst = (repeatedBlocks sheets).map Prod.fst := by
  refine ⟨ascending_repeatedBlocks sheets, fun key => mem_keys_repeatedBlocks_iff, ?_, ?_⟩
  · intro key names hmem
    exact ⟨(mem_repeatedBlocks_iff.1 hmem).2, mem_repeatedBlocks_append hmem⟩
  · exact fun others h => (keys_repeatedBlocks_eq_of_perm h).symm

/-- A block that one sheet writes twice and another one once more, on several lines; a block that only the
second sheet repeats; and the two sheets the other way round. -/
theorem repeatedBlocks_groups_two_sheets :
    let first := Sheet.parse "a.css".toList "a \x7b b: c; \x7d d \x7bb: c;\x7d e \x7bf: g\x7d".toList []
    let second := Sheet.ofStyleElement "h \x7b\n  b: c;\n\x7d i \x7bf: g\x7d @media j \x7bk \x7bf: g\x7d\x7d".toList []
    let found := repeatedBlocks [first]
    let key := "\x7bb: c;\x7d".toList
    [first, second].Perm [second, first] ∧ (key, ["a.css".toList, "a.css".toList]) ∈ found ∧
      (key, ["a.css".toList, "a.css".toList, "local".toList]) ∈ repeatedBlocks [first, second] ∧
      (repeatedBlocks [second, first]).map Prod.fst = (repeatedBlocks [first, second]).map Prod.fst ∧
      repeatedBlocks [second, first] =
        [(key, ["local".toList, "a.css".toList, "a.css".toList]),
          ("\x7bf: g\x7d".toList, ["local".toList, "a.css".toList])] := by
  intro first second found key
  have hperm : [first, second].Perm [second, first] := .swap _ _ _
  have hfound : (key, ["a.css".toList, "a.css".toList]) ∈ found := by decide +kernel
  have hmore : blockHolders key [second] = ["local".toList] := by decide +kernel
  have hadded := ((repeatedBlocks_groups [first]).2.2.1 _ _ hfound).2 [second]
  rw [hmore] at hadded
  exact ⟨hperm, hfound, hadded, (repeatedBlocks_groups [first, second]).2.2.2 _ hperm, by decide +kernel⟩

end CssSurvey
