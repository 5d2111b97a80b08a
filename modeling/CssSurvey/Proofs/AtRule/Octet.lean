/-
At-rules in the bytes of a code. All that the search for at-rules reacts to is ASCII, so run over the bytes
of a code it finds the bytes of each at-rule and of each gap: the same at-rules, at the places where their
characters start and end.
-/
import CssSurvey.Proofs.AtRule.Outline
import CssSurvey.Proofs.Text.Octet

namespace CssSurvey

open Text

/-! ## Blocks -/

theorem cutAtClose_append_of_braceFree {a : Text} (h : BraceFree a) (depth : Nat) (b : Text) :
    cutAtClose depth (a ++ b) = (a ++ (cutAtClose depth b).1, (cutAtClose depth b).2) := by
  induction a with
  | nil => rfl
  | cons c a ih =>
    obtain ⟨hc, ha⟩ := braceFree_cons.1 h
    obtain ⟨hopen, hclose⟩ := isBrace_eq_false.1 hc
    rw [List.cons_append, cutAtClose, if_neg fun hend => hclose hend.1]
    simp only [if_neg hopen, if_neg hclose, ih ha, List.cons_append]

theorem braceFree_of_beyond_ascii {text : Text} (h : ∀ c ∈ text, 128 ≤ c.toNat) : BraceFree text := fun c hc =>
  isBrace_eq_false.2 ⟨ne_of_beyond_ascii (h c hc) (by decide), ne_of_beyond_ascii (h c hc) (by decide)⟩

theorem cutAtClose_octets (depth : Nat) (text : Text) :
    cutAtClose depth text.octets = ((cutAtClose depth text).1.octets, (cutAtClose depth text).2.map octets) := by
  induction text generalizing depth with
  | nil => rfl
  | cons c text ih =>
    by_cases hc : c.toNat < 128
    · rw [octets_cons_of_ascii hc, cutAtClose, cutAtClose]
      split
      · rfl
      · simp only [ih, octets_cons_of_ascii hc]
    · have hbeyond := Nat.not_lt.1 hc
      have hoctets := braceFree_of_beyond_ascii fun d hd => le_of_mem_octetsOf hbeyond hd
      have hsingle : BraceFree [c] := braceFree_of_beyond_ascii (by simpa using hbeyond)
      rw [octets_cons, cutAtClose_append_of_braceFree hoctets, ih, ← List.singleton_append,
        cutAtClose_append_of_braceFree hsingle, List.singleton_append, octets_cons]

/-! ## One at-rule -/

namespace AtSource

/-- An at-rule as it stands in the bytes of a code. -/
def octets : AtSource → AtSource
  | statement head => statement head.octets
  | block head body closed => block head.octets body.octets closed

theorem endsHead_of_beyond_ascii {c : Char} (h : 128 ≤ c.toNat) : endsHead c = false := by
  simp [endsHead, ne_of_beyond_ascii h (show '{'.toNat < 128 by decide),
    ne_of_beyond_ascii h (show ';'.toNat < 128 by decide)]

theorem read?_octets (text : Text) :
    read? text.octets = (read? text).map fun (source, rest) => (source.octets, rest.octets) := by
  have hpass : ∀ c : Char, 128 ≤ c.toNat → (!endsHead c) = true := fun c hc => by
    rw [endsHead_of_beyond_ascii hc]
    rfl
  have hdrops := dropWhile_octets hpass text
  rcases read?_cases text with ⟨hdrop, hread⟩ | ⟨rest, hdrop, hread⟩ | ⟨after, hdrop, hread⟩
  · rw [hdrop, octets_nil] at hdrops
    rw [hread, read?_of_nil hdrops]
    rfl
  · rw [hdrop, octets_cons_of_ascii (by decide)] at hdrops
    rw [hread, read?_of_semicolon hdrops, takeWhile_octets hpass]
    rfl
  · rw [hdrop, octets_cons_of_ascii (by decide)] at hdrops
    rw [hread, read?_of_brace hdrops, takeWhile_octets hpass, cutAtClose_octets]
    cases (cutAtClose 0 after).2 <;> rfl

end AtSource

/-! ## The search -/

namespace Outline

/-- An outline in bytes. -/
def octets (o : Outline) : Outline :=
  ⟨o.parts.map fun (gap, source) => (gap.octets, source.octets), o.last.octets⟩

/-- The bytes of a gap that is held in reverse, in reverse. -/
def backOctets (seen : Text) : Text := (Text.octets seen.reverse).reverse

theorem backOctets_cons (c : Char) (seen : Text) :
    backOctets (c :: seen) = (octetsOf c).reverse ++ backOctets seen := by
  simp [backOctets]

theorem backOctets_cons_of_ascii {c : Char} (h : c.toNat < 128) (seen : Text) :
    backOctets (c :: seen) = c :: backOctets seen := by
  rw [backOctets_cons, octetsOf_of_ascii h]
  rfl

/-- A look back over the bytes of a gap meets the same as one over its characters. -/
theorem head?_dropWhile_backOctets_any {p : Char → Bool} (hp : ∀ c : Char, 128 ≤ c.toNat → p c = false)
    (seen : Text) :
    ((backOctets seen).dropWhile isAsciiBlank).head?.any p = (seen.dropWhile isAsciiBlank).head?.any p := by
  have hink : ∀ {c : Char}, 128 ≤ c.toNat → ¬ isAsciiBlank c := fun {c} hc => by
    have hne : ∀ {mark : Char}, mark.toNat < 128 → c ≠ mark := ne_of_beyond_ascii hc
    simp [isAsciiBlank, hne (show ' '.toNat < 128 by decide), hne (show '\t'.toNat < 128 by decide),
      hne (show '\n'.toNat < 128 by decide), hne (show '\x0c'.toNat < 128 by decide),
      hne (show '\r'.toNat < 128 by decide)]
  induction seen with
  | nil => rfl
  | cons c seen ih =>
    by_cases hc : c.toNat < 128
    · rw [backOctets_cons_of_ascii hc, List.dropWhile_cons, List.dropWhile_cons]
      split
      · exact ih
      · rfl
    · have hbeyond := Nat.not_lt.1 hc
      obtain ⟨last, others, hsplit⟩ := List.exists_cons_of_ne_nil (List.reverse_ne_nil_iff.2 (octetsOf_ne_nil c))
      have hlast : 128 ≤ last.toNat :=
        le_of_mem_octetsOf hbeyond (List.mem_reverse.1 (hsplit ▸ List.mem_cons_self ..))
      rw [backOctets_cons, hsplit, List.cons_append, List.dropWhile_cons_of_neg (hink hlast),
        List.dropWhile_cons_of_neg (hink hbeyond)]
      exact (hp last hlast).trans (hp c hbeyond).symm

theorem startsAtRule_octets (inRuleset : Bool) (seen rest : Text) :
    startsAtRule inRuleset (backOctets seen) rest.octets = startsAtRule inRuleset seen rest := by
  unfold startsAtRule
  rw [head?_octets_any, head?_dropWhile_backOctets_any]
  · intro c hc
    simp [ne_of_beyond_ascii hc (show ';'.toNat < 128 by decide),
      ne_of_beyond_ascii hc (show '}'.toNat < 128 by decide)]
  · intro c hc
    simp [isAlpha_of_beyond_ascii hc, ne_of_beyond_ascii hc (show '-'.toNat < 128 by decide)]

/-- All that a step looks at is ASCII, ahead and back, so the search does the same at each byte. -/
theorem ofCodeFrom_octets (inRuleset : Bool) (seen text : Text) :
    ofCodeFrom inRuleset (backOctets seen) text.octets = (ofCodeFrom inRuleset seen text).octets := by
  fun_induction ofCodeFrom inRuleset seen text with
  | case1 inRuleset seen =>
    rw [octets_nil, ofCodeFrom, backOctets, List.reverse_reverse]
    rfl
  | case2 inRuleset seen rest ih =>
    rw [octets_cons_of_ascii (by decide), ofCodeFrom, if_pos rfl, ← backOctets_cons_of_ascii (by decide), ih]
  | case3 inRuleset seen rest hopen ih =>
    rw [octets_cons_of_ascii (by decide), ofCodeFrom, if_neg hopen, if_pos rfl,
      ← backOctets_cons_of_ascii (by decide), ih]
  | case4 inRuleset seen c rest hopen hclose hat hread =>
    obtain ⟨rfl, hstarts⟩ := hat
    rw [← startsAtRule_octets] at hstarts
    have hoctets := AtSource.read?_octets ('@' :: rest)
    rw [hread, octets_cons_of_ascii (by decide)] at hoctets
    rw [octets_cons_of_ascii (by decide), ofCodeFrom_of_read?_none hstarts hoctets]
    simp [octets, backOctets, octets_cons_of_ascii (show '@'.toNat < 128 by decide)]
  | case5 inRuleset seen c rest hopen hclose hat source rest' hread after ih =>
    obtain ⟨rfl, hstarts⟩ := hat
    rw [← startsAtRule_octets] at hstarts
    have hoctets := AtSource.read?_octets ('@' :: rest)
    rw [hread, octets_cons_of_ascii (by decide)] at hoctets
    rw [octets_cons_of_ascii (by decide), ofCodeFrom_of_read? hstarts hoctets]
    have hafter : ofCodeFrom false [] rest'.octets = after.octets := ih
    simp [hafter, octets, backOctets]
  | case6 inRuleset seen c rest hopen hclose hat ih =>
    by_cases hc : c.toNat < 128
    · rw [← startsAtRule_octets] at hat
      rw [octets_cons_of_ascii hc, ofCodeFrom, if_neg hopen, if_neg hclose, if_neg hat,
        ← backOctets_cons_of_ascii hc, ih]
    · -- No byte of the character is a mark, so all of them join the gap.
      have hoctets : ∀ d ∈ octetsOf c, 128 ≤ d.toNat := fun d hd => le_of_mem_octetsOf (Nat.not_lt.1 hc) hd
      have hatFree : '@' ∉ octetsOf c := fun hmem => absurd (hoctets _ hmem) (by decide)
      rw [octets_cons, ofCodeFrom_append_of_atFree hatFree,
        inRulesetAfter_of_braceFree (braceFree_of_beyond_ascii hoctets), ← backOctets_cons, ih]

/-- The outline of the bytes of a code is the outline of the code, in bytes. -/
theorem ofCode_octets (code : Text) : ofCode code.octets = (ofCode code).octets := ofCodeFrom_octets false [] code

end Outline

end CssSurvey
