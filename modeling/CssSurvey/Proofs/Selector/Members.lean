/-
The members of a selector list and what the list is worth. The list is cut at the commas outside of
quotes, parentheses and brackets; the scan that scores it leaves out what stands in parentheses and
brackets, and reads a quote like any other character. Where each member but the last closes what it
opens for that scan, the list is worth what its members are worth together, except for white space
beyond ASCII: trimming takes it off a member, the scan reads it as part of a name.
-/
import CssSurvey.Ruleset
import CssSurvey.Proofs.Selector.Specificity
import CssSurvey.Proofs.Text.Ink
import CssSurvey.Proofs.Text.Letter

namespace CssSurvey

namespace Specificity

open Enclosure

/-! ## White space around a selector -/

theorem isMark_of_isBlank {c : Char} (h : isBlank c) : isMark c = false := by
  have hmarks : c ∉ ['[', ']', '(', ')', '#', '.', ':'] := Text.not_mem_of_all_not (by decide) h
  simpa [isMark, and_assoc] using hmarks

theorem isBlank_of_getLast? {gap : Text} (h : gap.isBlank) {c : Char} (hlast : gap.getLast? = some c) :
    isBlank c :=
  List.all_eq_true.1 h c (List.mem_of_getLast? hlast)

/-- After white space a type may start, unless the white space is beyond ASCII. -/
theorem startsType_getLast? {gap : Text} (h : gap.isBlank) :
    startsType gap.getLast? = !gap.getLast?.any isNameChar := by
  rcases hlast : gap.getLast? with _ | c
  · rfl
  · obtain ⟨-, -, -, -, hhash, hdot, hcolon⟩ :=
      isMark_eq_false.1 (isMark_of_isBlank (isBlank_of_getLast? h hlast))
    simp [startsType, hhash, hdot, hcolon]

theorem after_of_isBlank {gap : Text} (h : gap.isBlank) (e : Enclosure) : e.after gap = e := by
  induction gap with
  | nil => rfl
  | cons c gap ih =>
    rw [Text.isBlank, List.all_cons, Bool.and_eq_true] at h
    rw [after_cons, step_of_not_isMark e (isMark_of_isBlank h.1), ih h.2]

theorem score_of_isBlank {gap : Text} (h : gap.isBlank) (e : Enclosure) (last : Option Char) :
    e.score last gap = 0 := by
  induction gap generalizing last with
  | nil => rfl
  | cons c gap ih =>
    rw [Text.isBlank, List.all_cons, Bool.and_eq_true] at h
    have hmark := isMark_of_isBlank h.1
    by_cases he : e = outside
    · subst he
      obtain ⟨-, -, -, -, -, -, hcolon⟩ := isMark_eq_false.1 hmark
      have hpair : ¬ (c = ':' ∧ gap.head? = some ':') := fun hc => hcolon hc.1
      have hletter : ¬ (c.isAlpha ∧ startsType last) := by
        rw [isAlpha_of_isBlank h.1]
        rintro ⟨⟨⟩, -⟩
      rw [score_cons_of_outside hpair, worth_of_not_isMark hmark, if_neg hletter, step_of_not_isMark _ hmark,
        ih h.2, add_zero]
    · rw [score_cons_of_inside he, step_of_not_isMark _ hmark, ih h.2]

/-- White space does not end in a mark. -/
theorem getLast?_ne_of_isBlank {gap : Text} (h : gap.isBlank) {c : Char} (hc : isMark c) :
    gap.getLast? ≠ some c := fun hlast => by
  rw [isMark_of_isBlank (isBlank_of_getLast? h hlast)] at hc
  cases hc

/-- White space beyond ASCII before the letter that a text starts with: a scan reads the two as one
name, which is no type. -/
def hidesType (text : Text) : Bool :=
  text.gapBefore.getLast?.any isNameChar && text.trimStart.head?.any Char.isAlpha

/-- White space beyond ASCII behind the dot that a text ends with: a scan reads the two as a class. -/
def addsClass (text : Text) : Bool :=
  text.trimEnd.getLast? = some '.' && outside.after text = outside && text.gapAfter.head?.any isNameChar

theorem ofSelector_trimStart (text : Text) :
    ofSelector text.trimStart = (if hidesType text then ⟨0, 0, 1⟩ else 0) + ofSelector text := by
  have hgap := Text.isBlank_gapBefore text
  have hbehind : ofSelector text = outside.score text.gapBefore.getLast? text.trimStart := by
    have hpair : ¬ (text.gapBefore.getLast? = some ':' ∧ text.trimStart.head? = some ':') := fun h =>
      getLast?_ne_of_isBlank hgap rfl h.1
    have := score_append hpair outside none
    rwa [Text.gapBefore_append_trimStart, score_of_isBlank hgap, zero_add, after_of_isBlank hgap,
      seam_of_ne_dot (getLast?_ne_of_isBlank hgap rfl), zero_add, Option.or_none] at this
  have hhides : (text.trimStart.head?.any Char.isAlpha ∧ ¬ startsType text.gapBefore.getLast?) ↔
      hidesType text := by
    rw [startsType_getLast? hgap, hidesType, Bool.and_eq_true, and_comm]
    simp
  show outside.score none text.trimStart = _
  rw [score_none text.gapBefore.getLast?, hbehind]
  simp only [hhides]

theorem ofSelector_trimEnd (text : Text) :
    ofSelector text = ofSelector text.trimEnd + (if addsClass text then ⟨0, 1, 0⟩ else 0) := by
  have hgap := Text.isBlank_gapAfter text
  have hpair : ¬ (text.trimEnd.getLast? = some ':' ∧ text.gapAfter.head? = some ':') := fun h =>
    absurd (List.all_eq_true.1 hgap _ (List.mem_of_head? h.2)) (by decide)
  have hsplit := score_append hpair outside none
  have hafter : outside.after text.trimEnd = outside.after text := by
    conv_rhs => rw [← Text.trimEnd_append_gapAfter text, after_append, after_of_isBlank hgap]
  rw [Text.trimEnd_append_gapAfter, score_of_isBlank hgap, add_zero, seam, hafter] at hsplit
  simp only [addsClass, Bool.and_eq_true, decide_eq_true_eq, and_assoc]
  exact hsplit

/-- White space before a text changes nothing at its end. -/
theorem addsClass_trimStart (text : Text) : addsClass text.trimStart = addsClass text := by
  rcases h : text.isBlank with _ | _
  · -- Both ends are trimmed up to a character that is no white space, so neither reaches the other.
    rw [← Text.isBlank_trimStart] at h
    have hne : text.trimStart.trimEnd ≠ [] := fun hnil => by
      rw [Text.trimEnd_eq_nil_iff.1 hnil] at h
      cases h
    conv_rhs => rw [← Text.gapBefore_append_trimStart text]
    rw [addsClass, addsClass, Text.trimEnd_append h, Text.gapAfter_append h, after_append,
      after_of_isBlank (Text.isBlank_gapBefore text), List.getLast?_append_of_ne_nil _ hne]
  · have hstart : text.trimStart.isBlank := (Text.isBlank_trimStart text).trans h
    rw [addsClass, addsClass, Text.trimEnd_eq_nil_iff.2 h, Text.trimEnd_eq_nil_iff.2 hstart]
    rfl

theorem ofSelector_trim (text : Text) :
    ofSelector text + (if hidesType text then ⟨0, 0, 1⟩ else 0) =
      ofSelector text.trim + (if addsClass text then ⟨0, 1, 0⟩ else 0) := by
  rw [add_comm, ← ofSelector_trimStart, ofSelector_trimEnd text.trimStart, addsClass_trimStart, Text.trim]

/-! ## Sums over the parts of a list -/

/-- Selectors that leave nothing open, the last of them apart, are worth in a list what they are worth
together. -/
theorem ofSelector_intercalate {parts : List Text}
    (h : ∀ part ∈ parts.dropLast, outside.after part = outside) :
    ofSelector (List.intercalate [','] parts) = (parts.map ofSelector).sum := by
  induction parts with
  | nil => rfl
  | cons part parts ih =>
    cases parts with
    | nil => simp
    | cons next parts =>
      rw [List.dropLast_cons_cons] at h
      obtain ⟨hpart, hparts⟩ := List.forall_mem_cons.1 h
      rw [List.intercalate_cons_cons, List.append_assoc, List.singleton_append,
        ofSelector_append_comma hpart, ih hparts]
      rfl

/-- Empty members are worth nothing. -/
theorem sum_map_filter (members : List Text) :
    ((members.filter (!·.isEmpty)).map ofSelector).sum = (members.map ofSelector).sum := by
  induction members with
  | nil => rfl
  | cons member members ih =>
    cases member with
    | nil =>
      rw [List.filter_cons_of_neg (by simp), ih, List.map_cons, List.sum_cons]
      exact (zero_add _).symm
    | cons c rest =>
      rw [List.filter_cons_of_pos (by simp), List.map_cons, List.map_cons, List.sum_cons, List.sum_cons, ih]

theorem sum_map_ite (p : Text → Bool) (s : Specificity) (parts : List Text) :
    (parts.map fun part => if p part then s else 0).sum = parts.countP p • s := by
  induction parts with
  | nil => exact (zero_nsmul s).symm
  | cons part parts ih =>
    rw [List.map_cons, List.sum_cons, ih, List.countP_cons, add_nsmul, add_comm]
    split
    · rw [one_nsmul]
    · rw [zero_nsmul]

theorem nsmul_eq (n : Nat) (s : Specificity) : n • s = ⟨n * s.ids, n * s.classes, n * s.types⟩ := by
  induction n with
  | zero => simp [eq_iff]
  | succ n ih => simp [succ_nsmul, ih, eq_iff, Nat.succ_mul]

/-! ## Where the list is cut -/

/-- Whether the scan that cuts, which stands at `n`, and the scan that counts, which has `e` open,
take a character alike. Inside quotes only the second heeds brackets and parentheses, inside brackets
only the first heeds parentheses, and a bracket that closes none closes a parenthesis for the first. -/
def Alike (n : Nesting) (e : Enclosure) (c : Char) : Prop :=
  if n.quote.isSome then c ≠ '[' ∧ c ≠ ']' ∧ c ≠ '(' ∧ c ≠ ')'
  else (c = '(' ∨ c = ')' → e.brackets = 0) ∧ (c = ']' → e.brackets = 0 → e.parens = 0)

/-- The two scans take every character of a text alike. -/
def AlikeAlong (n : Nesting) (e : Enclosure) : Text → Prop
  | [] => True
  | c :: rest => Alike n e c ∧ AlikeAlong (n.step c) (e.step c) rest

instance (n : Nesting) (e : Enclosure) (c : Char) : Decidable (Alike n e c) :=
  inferInstanceAs (Decidable (ite _ _ _))

instance decidableAlikeAlong (n : Nesting) (e : Enclosure) :
    (text : Text) → Decidable (AlikeAlong n e text)
  | [] => .isTrue trivial
  | c :: rest =>
    have := decidableAlikeAlong (n.step c) (e.step c) rest
    inferInstanceAs (Decidable (Alike n e c ∧ AlikeAlong (n.step c) (e.step c) rest))

theorem depth_step_of_ne (n : Nesting) {c : Char} (h : c ≠ '[' ∧ c ≠ ']' ∧ c ≠ '(' ∧ c ≠ ')') :
    (n.step c).depth = n.depth := by
  obtain ⟨hopen, hclose, hparen, hclosing⟩ := h
  unfold Nesting.step
  rw [if_neg (not_or.2 ⟨hparen, hopen⟩), if_neg (not_or.2 ⟨hclosing, hclose⟩)]
  split
  · split <;> rfl
  · split <;> rfl

/-- As long as the two scans agree, the one depth of the first is the sum of the two of the second. -/
theorem depth_step {n : Nesting} {e : Enclosure} {c : Char} (h : Alike n e c)
    (hdepth : n.depth = e.brackets + e.parens) :
    (n.step c).depth = (e.step c).brackets + (e.step c).parens := by
  by_cases hplain : c ≠ '[' ∧ c ≠ ']' ∧ c ≠ '(' ∧ c ≠ ')'
  · rw [depth_step_of_ne n hplain, step_of_ne e hplain, hdepth]
  obtain ⟨_ | q, depth⟩ := n
  case some => exact absurd h hplain
  obtain ⟨brackets, parens⟩ := e
  obtain ⟨hparen, hclose⟩ :
    (c = '(' ∨ c = ')' → brackets = 0) ∧ (c = ']' → brackets = 0 → parens = 0) := h
  dsimp only at hdepth
  have hc : c = '[' ∨ c = ']' ∨ c = '(' ∨ c = ')' := by
    by_contra hne
    simp only [not_or] at hne
    exact hplain hne
  -- The two sides count up together, and where one stops at zero so does the other.
  rcases hc with rfl | rfl | rfl | rfl
  · show depth + 1 = brackets + 1 + parens
    omega
  · show depth - 1 = brackets - 1 + parens
    have := hclose rfl
    omega
  · obtain rfl := hparen (.inl rfl)
    show depth + 1 = 0 + (parens + 1)
    omega
  · obtain rfl := hparen (.inr rfl)
    show depth - 1 = 0 + (parens - 1)
    omega

/-- Where the two scans agree, a cut finds nothing open: it is made at depth zero, and then both of the
other depths are zero as well. -/
theorem after_splitFrom_comma {n : Nesting} {e : Enclosure} {text : Text} (h : AlikeAlong n e text)
    (hdepth : n.depth = e.brackets + e.parens) (hcut : (splitFrom ',' n text).2 ≠ []) :
    e.after (splitFrom ',' n text).1 = outside ∧
      ∀ part ∈ (splitFrom ',' n text).2.dropLast, outside.after part = outside := by
  induction text generalizing n e with
  | nil => exact absurd rfl hcut
  | cons c text ih =>
    obtain ⟨hc, htext⟩ := h
    have hrest := ih htext (depth_step hc hdepth)
    rw [splitFrom] at hcut ⊢
    split at hcut
    · rename_i hcomma
      obtain ⟨rfl, rfl⟩ := hcomma
      rw [if_pos ⟨rfl, rfl⟩]
      have he : e = outside := by
        obtain ⟨brackets, parens⟩ := e
        obtain ⟨rfl, rfl⟩ : brackets = 0 ∧ parens = 0 := Nat.add_eq_zero_iff.1 hdepth.symm
        rfl
      subst he
      refine ⟨rfl, ?_⟩
      show ∀ part ∈ ((splitFrom ',' .top text).1 :: (splitFrom ',' .top text).2).dropLast,
        outside.after part = outside
      by_cases hlast : (splitFrom ',' .top text).2 = []
      · rw [hlast]
        nofun
      · rw [List.dropLast_cons_of_ne_nil hlast]
        exact List.forall_mem_cons.2 (hrest hlast)
    · rename_i hcomma
      rw [if_neg hcomma]
      exact hrest hcut

/-- Where the two scans agree, every part of a list but the last closes what it opens. -/
theorem after_of_mem_dropLast {text part : Text} (h : AlikeAlong .top outside text)
    (hmem : part ∈ (splitTop ',' text).dropLast) : outside.after part = outside := by
  change part ∈ ((splitFrom ',' .top text).1 :: (splitFrom ',' .top text).2).dropLast at hmem
  by_cases hlast : (splitFrom ',' .top text).2 = []
  · rw [hlast] at hmem
    cases hmem
  · obtain ⟨hfirst, hothers⟩ := after_splitFrom_comma h rfl hlast
    rw [List.dropLast_cons_of_ne_nil hlast] at hmem
    rcases List.mem_cons.1 hmem with rfl | hmem
    · exact hfirst
    · exact hothers part hmem

end Specificity

/-! ## The specificity of a ruleset -/

namespace Ruleset

open Specificity Enclosure

variable (r : Ruleset)

/-- Every part of the selector list but the last closes what it opens for the scan that counts. -/
def MembersClosed : Prop := ∀ part ∈ (splitTop ',' r.selector).dropLast, outside.after part = outside

instance : Decidable r.MembersClosed :=
  inferInstanceAs (Decidable (∀ part ∈ (splitTop ',' r.selector).dropLast, _))

/-- What a list is worth and what its members are worth together differ by the types that white space
hides in the list and by the classes that it adds there. -/
theorem specificity_add (h : r.MembersClosed) :
    r.specificity + (splitTop ',' r.selector).countP hidesType • ⟨0, 0, 1⟩ =
      (r.selectors.map ofSelector).sum + (splitTop ',' r.selector).countP addsClass • ⟨0, 1, 0⟩ := by
  have hlist : r.specificity = ((splitTop ',' r.selector).map ofSelector).sum := by
    rw [← ofSelector_intercalate h, intercalate_splitTop, specificity]
  have hmembers : (r.selectors.map ofSelector).sum =
      ((splitTop ',' r.selector).map fun part => ofSelector part.trim).sum := by
    rw [selectors, sum_map_filter, List.map_map]
    rfl
  rw [hlist, hmembers, ← sum_map_ite, ← sum_map_ite, ← List.sum_map_add, ← List.sum_map_add]
  simp only [ofSelector_trim]

/-- Where both scans of a selector list agree, its members leave nothing open; and where they leave
nothing open, the list is worth what they are worth together, exactly if no white space beyond ASCII
hides a type or adds a class. -/
theorem specificity_eq_sum_iff :
    (AlikeAlong .top outside r.selector → r.MembersClosed) ∧
      (r.MembersClosed → (r.specificity = (r.selectors.map ofSelector).sum ↔
        ∀ part ∈ splitTop ',' r.selector, ¬ hidesType part ∧ ¬ addsClass part)) := by
  refine ⟨fun h part hpart => after_of_mem_dropLast h hpart, fun h => ?_⟩
  -- Types only go missing and classes only come in, so that the two never make up for each other.
  have hadd := specificity_add r h
  rw [nsmul_eq, nsmul_eq, eq_iff] at hadd
  simp only [ids_add, classes_add, types_add, Nat.mul_zero, Nat.mul_one, Nat.add_zero] at hadd
  obtain ⟨hids, hclasses, htypes⟩ := hadd
  have hcounts : r.specificity = (r.selectors.map ofSelector).sum ↔
      (splitTop ',' r.selector).countP hidesType = 0 ∧ (splitTop ',' r.selector).countP addsClass = 0 := by
    rw [eq_iff]
    omega
  rw [hcounts, List.countP_eq_zero, List.countP_eq_zero]
  exact forall₂_and.symm

theorem specificity_eq_sum_iff_three :
    let r := parse "a[href=\"b,c\"] .d, li:not(.e)::before , #f\u3000. g \x7b h: i; \x7d".toList
    (AlikeAlong .top outside r.selector ∧ r.MembersClosed) ∧
      (r.specificity = (r.selectors.map ofSelector).sum ↔
        ∀ part ∈ splitTop ',' r.selector, ¬ hidesType part ∧ ¬ addsClass part) ∧
      r.specificity = ⟨1, 3, 3⟩ := by
  intro r
  have halike : AlikeAlong .top outside r.selector := by decide +kernel
  have hclosed : r.MembersClosed := (specificity_eq_sum_iff r).1 halike
  exact ⟨⟨halike, hclosed⟩, (specificity_eq_sum_iff r).2 hclosed, by decide +kernel⟩

/-- A quoted bracket stays open for the scan of the list, which then leaves out the members behind it,
though the list is cut there. -/
theorem specificity_ne_sum_of_quoted_bracket :
    let r := parse "a[t=\"[\"], b\x7b\x7d".toList
    r.selectors = ["a[t=\"[\"]".toList, ['b']] ∧ r.specificity = ⟨0, 1, 1⟩ ∧
      (r.selectors.map ofSelector).sum = ⟨0, 1, 2⟩ ∧
      r.specificity ≠ (r.selectors.map ofSelector).sum := by
  decide +kernel

end Ruleset

end CssSurvey
