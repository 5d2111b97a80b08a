/-
Gradient calls. Up to its opening parenthesis a call holds no other, so what follows the call is what
follows the first parenthesis of the text that it starts. Calls that start at several places of one name
have the same arguments therefore, and a search that takes the first of them loses neither the name nor
its vendor prefix: what starts further right holds fewer hyphens.
-/
import CssSurvey.Proofs.Gradient
import CssSurvey.Proofs.Text.Occurrence

namespace CssSurvey.Gradient

open Text

/-! ## Names -/

/-- The name of a gradient call and its opening parenthesis, in any case. -/
def IsCallName (name : Text) : Prop := name.lower ∈ ["linear-gradient(".toList, "radial-gradient(".toList]

instance : DecidablePred IsCallName := fun name =>
  inferInstanceAs (Decidable (name.lower ∈ ["linear-gradient(".toList, "radial-gradient(".toList]))

theorem IsCallName.exists_stem {name : Text} (h : IsCallName name) :
    ∃ stem, name = stem ++ ['('] ∧ '(' ∉ stem ∧ stem.count '-' = 1 := by
  have hword : ∃ word, name.lower = word ++ ['('] ∧ '(' ∉ word ∧ word.count '-' = 1 := by
    rcases List.mem_pair.1 h with hname | hname
    · exact ⟨"linear-gradient".toList, hname, by decide, by decide⟩
    · exact ⟨"radial-gradient".toList, hname, by decide, by decide⟩
  obtain ⟨word, hname, hopen, hcount⟩ := hword
  obtain ⟨stem, rfl, rfl⟩ := (lower_eq_append_singleton_iff (by decide)).1 hname
  exact ⟨stem, rfl, mt (mem_lower_iff (by decide)).2 hopen, (count_lower (by decide) stem).symm.trans hcount⟩

theorem prefixFree_isCallName : PrefixFree IsCallName := by
  intro name other hname hother hstart
  have hlength : ∀ {name : Text}, IsCallName name → name.length = 16 := by
    intro name h
    rw [← List.length_map Char.toLower]
    rcases List.mem_pair.1 h with hname | hname <;> exact congrArg List.length hname
  exact hstart.eq_of_length ((hlength hname).trans (hlength hother).symm)

theorem afterName?_eq_some_iff {text rest : Text} :
    afterName? text = some rest ↔ ∃ name, text = name ++ rest ∧ IsCallName name := by
  have hfirst : Text.afterWord? "radial-gradient(".toList text = some rest →
      Text.afterWord? "linear-gradient(".toList text = none :=
    fun h => afterWord?_eq_none h (by decide) (by decide)
  rw [afterName?, Option.or_eq_some_iff, and_iff_right_of_imp hfirst, afterWord?_eq_some_iff,
    afterWord?_eq_some_iff, ← exists_or]
  refine exists_congr fun name => ?_
  rw [map_foldCase_eq_iff rfl, map_foldCase_eq_iff rfl, ← and_or_left, IsCallName, List.mem_pair]

theorem occurrences_names (text : Text) :
    (occurrences IsCallName text).map Prod.snd = text.tails.filterMap afterName? := by
  refine map_occurrences prefixFree_isCallName (fun text rest => ?_) text
  rw [afterName?_eq_some_iff]
  constructor
  · rintro ⟨name, htext, hname⟩
    exact ⟨name, rest, htext, hname, rfl⟩
  · rintro ⟨name, _, htext, hname, rfl⟩
    exact ⟨name, htext, hname⟩

/-! ## Calls -/

theorem afterCall?_eq_some_iff {text rest : Text} :
    afterCall? text = some rest ↔
      ∃ lead name, text = lead ++ (name ++ rest) ∧ IsCallName name ∧
        (lead = [] ∨ lead.lower = "repeating-".toList) := by
  have hfirst : afterName? text = some rest →
      (Text.afterWord? "repeating-".toList text).bind afterName? = none := by
    intro h
    obtain ⟨after, hafter⟩ : ∃ after, Text.afterWord? "linear-gradient(".toList text = some after ∨
        Text.afterWord? "radial-gradient(".toList text = some after :=
      ⟨rest, (Option.or_eq_some_iff.1 h).imp_right And.right⟩
    rcases hafter with hafter | hafter <;>
      rw [afterWord?_eq_none hafter (by decide) (by decide), Option.bind_none]
  rw [afterCall?, Option.or_eq_some_iff, and_iff_right_of_imp hfirst, Option.bind_eq_some_iff]
  simp only [afterWord?_eq_some_iff, afterName?_eq_some_iff]
  constructor
  · rintro (⟨_, ⟨lead, rfl, hlead⟩, name, rfl, hname⟩ | ⟨name, rfl, hname⟩)
    · exact ⟨lead, name, rfl, hname, .inr ((map_foldCase_eq_iff rfl).1 hlead)⟩
    · exact ⟨[], name, rfl, hname, .inl rfl⟩
  · rintro ⟨lead, name, rfl, hname, rfl | hlead⟩
    · exact .inr ⟨name, rfl, hname⟩
    · exact .inl ⟨name ++ rest, ⟨lead, rfl, (map_foldCase_eq_iff rfl).2 hlead⟩, name, rfl, hname⟩

theorem afterVendor?_eq_some_iff {text rest : Text} :
    afterVendor? text = some rest ↔
      ∃ vendor, text = '-' :: (vendor ++ '-' :: rest) ∧ vendor ≠ [] ∧ ∀ c ∈ vendor, isLatinLetter c := by
  constructor
  · intro h
    unfold afterVendor? at h
    split at h
    · rename_i text
      split at h
      · rename_i letter letters after htake hdrop
        obtain ⟨-, hsplit⟩ := dropWhile_eq_cons hdrop
        refine ⟨letter :: letters, ?_, List.cons_ne_nil _ _, fun c hc => ?_⟩
        · rw [← htake, ← Option.some.inj h, ← hsplit]
        · rw [← htake] at hc
          exact List.mem_takeWhile_imp hc
      · cases h
    · cases h
  · rintro ⟨vendor, rfl, hne, hletters⟩
    obtain ⟨letter, letters, rfl⟩ := List.exists_cons_of_ne_nil hne
    have hhyphen : isLatinLetter '-' = false := by decide
    unfold afterVendor?
    simp only [takeWhile_append_cons hletters hhyphen, dropWhile_append_cons hletters hhyphen]

theorem afterVendor?_eq_none {text rest : Text} (h : afterCall? text = some rest) : afterVendor? text = none := by
  rw [Option.eq_none_iff_forall_ne_some]
  intro after hafter
  obtain ⟨vendor, rfl, -⟩ := afterVendor?_eq_some_iff.1 hafter
  cases h

theorem callAt?_prefixed_iff {text rest : Text} :
    callAt? text = some (true, rest) ↔ ∃ after, afterVendor? text = some after ∧ afterCall? after = some rest := by
  rw [← Option.bind_eq_some_iff, callAt?, Option.or_eq_some_iff]
  simp only [Option.map_eq_some_iff, Prod.mk.injEq, Bool.false_eq_true, false_and, and_false, exists_false,
    or_false, true_and, exists_eq_right]

theorem callAt?_plain_iff {text rest : Text} :
    callAt? text = some (false, rest) ↔ afterCall? text = some rest := by
  have hfirst : afterCall? text = some rest →
      ((afterVendor? text).bind afterCall?).map (fun rest => (true, rest)) = none := by
    intro h
    rw [afterVendor?_eq_none h]
    rfl
  rw [callAt?, Option.or_eq_some_iff]
  simp only [Option.map_eq_some_iff, Prod.mk.injEq, Bool.true_eq_false, false_and, and_false, exists_false,
    false_or, true_and, exists_eq_right]
  exact and_iff_right_of_imp hfirst

theorem exists_stem_of_afterCall? {text rest : Text} (h : afterCall? text = some rest) :
    ∃ stem, text = stem ++ '(' :: rest ∧ '(' ∉ stem ∧ 1 ≤ stem.count '-' ∧ stem.count '-' ≤ 2 := by
  obtain ⟨lead, name, rfl, hname, hlead⟩ := afterCall?_eq_some_iff.1 h
  obtain ⟨stem, rfl, hstem, hcount⟩ := hname.exists_stem
  have hlead : '(' ∉ lead ∧ lead.count '-' ≤ 1 := by
    rcases hlead with rfl | hlead
    · exact ⟨List.not_mem_nil, Nat.zero_le _⟩
    · rw [← mem_lower_iff (by decide), ← count_lower (by decide), hlead]
      exact ⟨by decide, by decide⟩
  refine ⟨lead ++ stem, by simp, List.not_mem_append hlead.1 hstem, ?_⟩
  rw [List.count_append]
  omega

/-- A call ends at the first parenthesis of its text. With a vendor prefix it holds at least three
hyphens up to there, without one at most two. -/
theorem exists_stem_of_callAt? {text rest : Text} {prefixed : Bool} (h : callAt? text = some (prefixed, rest)) :
    ∃ stem, text = stem ++ '(' :: rest ∧ '(' ∉ stem ∧ (prefixed = true ↔ 3 ≤ stem.count '-') := by
  cases prefixed with
  | false =>
    obtain ⟨stem, rfl, hstem, -, hcount⟩ := exists_stem_of_afterCall? (callAt?_plain_iff.1 h)
    exact ⟨stem, rfl, hstem, iff_of_false Bool.false_ne_true (by omega)⟩
  | true =>
    obtain ⟨after, hvendor, hcall⟩ := callAt?_prefixed_iff.1 h
    obtain ⟨vendor, rfl, -, hletters⟩ := afterVendor?_eq_some_iff.1 hvendor
    obtain ⟨stem, rfl, hstem, hcount, -⟩ := exists_stem_of_afterCall? hcall
    have hopen : '(' ∉ vendor := fun hmem => absurd (hletters _ hmem) (by decide)
    refine ⟨'-' :: (vendor ++ '-' :: stem), by simp, by simp [hopen, hstem], iff_of_true rfl ?_⟩
    rw [List.count_cons_self, List.count_append, List.count_cons_self]
    omega

/-- Behind its prefixes a call has its name. -/
theorem exists_name_of_callAt? {text rest : Text} {prefixed : Bool} (h : callAt? text = some (prefixed, rest)) :
    ∃ tail, tail <:+ text ∧ afterName? tail = some rest := by
  have hplain : ∀ {text}, afterCall? text = some rest → ∃ tail, tail <:+ text ∧ afterName? tail = some rest := by
    intro text h
    obtain ⟨lead, name, rfl, hname, -⟩ := afterCall?_eq_some_iff.1 h
    exact ⟨name ++ rest, List.suffix_append _ _, afterName?_eq_some_iff.2 ⟨name, rfl, hname⟩⟩
  cases prefixed with
  | false => exact hplain (callAt?_plain_iff.1 h)
  | true =>
    obtain ⟨after, hvendor, hcall⟩ := callAt?_prefixed_iff.1 h
    obtain ⟨vendor, rfl, -⟩ := afterVendor?_eq_some_iff.1 hvendor
    obtain ⟨tail, htail, hname⟩ := hplain hcall
    exact ⟨tail, htail.trans ⟨'-' :: (vendor ++ ['-']), by simp⟩, hname⟩

theorem callAt?_of_afterName? {text rest : Text} (h : afterName? text = some rest) :
    callAt? text = some (false, rest) := by
  obtain ⟨name, rfl, hname⟩ := afterName?_eq_some_iff.1 h
  exact callAt?_plain_iff.2 (afterCall?_eq_some_iff.2 ⟨[], name, rfl, hname, .inl rfl⟩)

/-! ## Where calls end -/

/-- What follows the first opening parenthesis of a text. -/
def afterOpen (text : Text) : Text := (text.dropWhile (· ≠ '(')).drop 1

theorem afterOpen_append_open {stem : Text} (h : '(' ∉ stem) (rest : Text) :
    afterOpen (stem ++ '(' :: rest) = rest := by
  rw [afterOpen, dropWhile_ne_append_cons h, List.drop_succ_cons, List.drop_zero]

theorem afterOpen_suffix (text : Text) : afterOpen text <:+ text :=
  (List.drop_suffix _ _).trans (List.dropWhile_suffix _)

theorem eq_afterOpen {text rest : Text} {prefixed : Bool} (h : callAt? text = some (prefixed, rest)) :
    rest = afterOpen text := by
  obtain ⟨stem, rfl, hstem, -⟩ := exists_stem_of_callAt? h
  exact (afterOpen_append_open hstem rest).symm

/-- The end of a text either starts behind its first opening parenthesis or has the same one for its first. -/
theorem suffix_afterOpen {tail text : Text} (h : tail <:+ text) :
    tail <:+ afterOpen text ∨ afterOpen tail = afterOpen text := by
  obtain ⟨before, rfl⟩ := h
  by_cases hopen : '(' ∈ before
  · obtain ⟨stem, inside, rfl, hstem⟩ := List.eq_append_cons_of_mem hopen
    rw [List.append_assoc, List.cons_append, afterOpen_append_open hstem]
    exact .inl (List.suffix_append _ _)
  · rw [afterOpen, afterOpen, List.dropWhile_append_of_pos (ne_of_not_mem hopen)]
    exact .inr rfl

theorem afterOpen_mono {tail text : Text} (h : tail <:+ text) : afterOpen tail <:+ afterOpen text := by
  rcases suffix_afterOpen h with hrest | hsame
  · exact (afterOpen_suffix tail).trans hrest
  · exact hsame ▸ List.suffix_refl _

/-- What follows the calls of a text gets shorter from each to the next. -/
theorem pairwise_rests {look? : Text → Option Text}
    (h : ∀ {text rest}, look? text = some rest → rest = afterOpen text) (text : Text) :
    (text.tails.filterMap look?).Pairwise fun a b => b <:+ a := by
  refine (pairwise_tails text).filterMap look? fun front tail htail rest hrest later hlater => ?_
  rw [h hrest, h hlater]
  exact afterOpen_mono htail

theorem eq_of_suffix {a b : Text} (hab : b <:+ a) (hba : a <:+ b) : a = b := hba.eq_of_length_le hab.length_le

/-! ## The search for calls -/

/-- Calls as they are searched for: with a vendor prefix where one is found. -/
def callReader : Reader Bool where
  read := callAt?
  exists_taken h := by
    obtain ⟨stem, htext, -⟩ := exists_stem_of_callAt? h
    exact ⟨stem ++ ['('], by simp, by rw [htext, List.append_assoc, List.singleton_append]⟩

theorem calls_eq_all (text : Text) : calls text = callReader.all text := by
  induction text with
  | nil => rw [callReader.all_nil, calls]
  | cons c text ih => rw [callReader.all_cons, calls, ih]; rfl

/-- The calls that a search finds stand for all others: what follows is the same, and of the calls of one
name the first has a vendor prefix if any has. -/
theorem exists_mem_search_calls {text rest : Text} {prefixed : Bool} (h : (prefixed, rest) ∈ calls text) :
    ∃ found ∈ callReader.search text, found.2 = rest ∧ (prefixed = true → found.1 = true) := by
  rw [calls_eq_all] at h
  refine callReader.exists_mem_search
    (r := fun found other => found.2 = other.2 ∧ (other.1 = true → found.1 = true)) ?_ h
  rintro text tail ⟨prefixed, rest⟩ ⟨inner, later⟩ hfound htail hother
  have hrest : rest = afterOpen text := eq_afterOpen hfound
  have hlater : later = afterOpen tail := eq_afterOpen hother
  rcases suffix_afterOpen htail with hbehind | hsame
  · exact .inl (hrest ▸ hbehind)
  · obtain rfl : rest = later := hrest.trans (hsame.symm.trans hlater.symm)
    refine .inr ⟨rfl, fun hinner => ?_⟩
    obtain ⟨stem, rfl, -, hstem⟩ := exists_stem_of_callAt? hfound
    obtain ⟨short, rfl, -, hshort⟩ := exists_stem_of_callAt? hother
    have hsuffix : short <:+ stem := ((List.suffix_append_inj_of_length_eq rfl).1 htail).1
    exact hstem.2 ((hshort.1 hinner).trans (hsuffix.sublist.count_le '-'))

/-! ## Calls and names -/

theorem rests_eq_filterMap (text : Text) :
    (calls text).map Prod.snd = text.tails.filterMap fun tail => (callAt? tail).map Prod.snd := by
  rw [calls_eq_all]
  exact List.map_filterMap

theorem pairwise_calls (text : Text) : ((calls text).map Prod.snd).Pairwise fun a b => b <:+ a := by
  rw [rests_eq_filterMap]
  refine pairwise_rests (fun {text rest} h => ?_) text
  obtain ⟨⟨_, _⟩, hcall, rfl⟩ := Option.map_eq_some_iff.1 h
  exact eq_afterOpen hcall

theorem pairwise_names (text : Text) :
    ((occurrences IsCallName text).map Prod.snd).Pairwise fun a b => b <:+ a := by
  rw [occurrences_names]
  exact pairwise_rests (fun h => eq_afterOpen (callAt?_of_afterName? h)) text

theorem mem_calls_rests_iff {text rest : Text} :
    rest ∈ (calls text).map Prod.snd ↔ rest ∈ (occurrences IsCallName text).map Prod.snd := by
  rw [rests_eq_filterMap, occurrences_names, List.mem_filterMap, List.mem_filterMap]
  constructor
  · rintro ⟨tail, htail, hrest⟩
    obtain ⟨⟨prefixed, _⟩, hcall, rfl⟩ := Option.map_eq_some_iff.1 hrest
    obtain ⟨back, hback, hname⟩ := exists_name_of_callAt? hcall
    exact ⟨back, (List.mem_tails _ _).2 (hback.trans ((List.mem_tails _ _).1 htail)), hname⟩
  · rintro ⟨tail, htail, hname⟩
    exact ⟨tail, htail, by rw [callAt?_of_afterName? hname, Option.map_some]⟩

/-- Calls that start at several places count once: there are as many as there are names. -/
theorem eraseDups_rests (text : Text) :
    ((calls text).map Prod.snd).eraseDups = ((occurrences IsCallName text).map Prod.snd).eraseDups :=
  eraseDups_eq_of_pairwise (fun _ _ hab hba => eq_of_suffix hab hba) (pairwise_calls text) (pairwise_names text)
    fun _ => mem_calls_rests_iff

theorem eraseDups_search_rests (text : Text) :
    ((callReader.search text).map Prod.snd).eraseDups = ((calls text).map Prod.snd).eraseDups := by
  have hsublist : (callReader.search text).Sublist (calls text) :=
    calls_eq_all text ▸ callReader.search_sublist_all text
  refine eraseDups_eq_of_pairwise (fun _ _ hab hba => eq_of_suffix hab hba)
    ((pairwise_calls text).sublist (hsublist.map _)) (pairwise_calls text) fun rest => ?_
  refine ⟨fun hmem => (hsublist.map _).subset hmem, fun hmem => ?_⟩
  obtain ⟨⟨prefixed, _⟩, hcall, rfl⟩ := List.mem_map.1 hmem
  obtain ⟨found, hfound, hrest, -⟩ := exists_mem_search_calls hcall
  exact List.mem_map.2 ⟨found, hfound, hrest⟩

theorem any_search (text : Text) : (callReader.search text).any Prod.fst = (calls text).any Prod.fst := by
  rw [Bool.eq_iff_iff, List.any_eq_true, List.any_eq_true]
  constructor
  · rintro ⟨found, hfound, hprefixed⟩
    rw [calls_eq_all]
    exact ⟨found, (callReader.search_sublist_all text).subset hfound, hprefixed⟩
  · rintro ⟨⟨prefixed, rest⟩, hcall, hprefixed⟩
    obtain ⟨found, hfound, -, himp⟩ := exists_mem_search_calls hcall
    exact ⟨found, hfound, himp hprefixed⟩

/-- A call has a vendor prefix when its name has one, or when `repeating-` stands between with a hyphen in
front of it, which is then the prefix of the name. -/
theorem any_calls_iff {text : Text} :
    (calls text).any Prod.fst = true ↔
      ∃ before vendor name rest, text = before ++ '-' :: (vendor ++ '-' :: (name ++ rest)) ∧
        vendor ≠ [] ∧ (∀ c ∈ vendor, isLatinLetter c) ∧ IsCallName name := by
  rw [calls_eq_all, List.any_eq_true]
  constructor
  · rintro ⟨⟨_, rest⟩, hcall, rfl⟩
    obtain ⟨tail, ⟨before, rfl⟩, hread⟩ := callReader.mem_all_iff.1 hcall
    obtain ⟨after, hvendor, hafter⟩ := callAt?_prefixed_iff.1 hread
    obtain ⟨vendor, rfl, hne, hletters⟩ := afterVendor?_eq_some_iff.1 hvendor
    obtain ⟨lead, name, rfl, hname, rfl | hlead⟩ := afterCall?_eq_some_iff.1 hafter
    · exact ⟨before, vendor, name, rest, rfl, hne, hletters, hname⟩
    · obtain ⟨stem, rfl, hstem⟩ : ∃ stem, lead = stem ++ ['-'] ∧ stem.lower = "repeating".toList :=
        (lower_eq_append_singleton_iff rfl).1 hlead
      refine ⟨before ++ '-' :: vendor, stem, name, rest, by simp, ?_, fun c hc => ?_, hname⟩
      · rintro rfl
        cases hstem
      · have hlower : "repeating".toList.all Char.isLower = true := rfl
        have hletter := List.all_eq_true.1 hlower c.toLower (hstem ▸ List.mem_map_of_mem hc)
        exact isLatinLetter_of_isLower_toLower hletter
  · rintro ⟨before, vendor, name, rest, rfl, hne, hletters, hname⟩
    refine ⟨(true, rest), callReader.mem_all_iff.2 ⟨_, List.suffix_append _ _, ?_⟩, rfl⟩
    exact callAt?_prefixed_iff.2 ⟨name ++ rest, afterVendor?_eq_some_iff.2 ⟨vendor, rfl, hne, hletters⟩,
      afterCall?_eq_some_iff.2 ⟨[], name, rfl, hname, .inl rfl⟩⟩

end CssSurvey.Gradient
