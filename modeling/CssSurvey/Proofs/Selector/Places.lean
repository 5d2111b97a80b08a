/-
Specificity place by place. A scan counts a selector as it goes along; said without a scan, each count
is the number of places with nothing open before them at which certain characters stand. Colons count
by their longest runs: two of them make a pair that names a pseudo-element and is passed over, so a run
counts once when its length is odd, and not at all when it is even.
-/
import CssSurvey.Proofs.Selector.Specificity
import Mathlib.Algebra.Ring.Parity
import Mathlib.Data.Finset.Prod
import Mathlib.Data.Nat.Count

namespace CssSurvey.Specificity

open Enclosure

/-! ## Places of a text -/

/-- Neither a bracket nor a parenthesis is open before a place. -/
def IsOutside (text : Text) (i : Nat) : Prop := outside.after (text.take i) = outside

instance (text : Text) : DecidablePred (IsOutside text) :=
  fun i => inferInstanceAs (Decidable (outside.after (text.take i) = outside))

/-- The character `c` stands at a place, outside. -/
def StandsOutside (text : Text) (c : Char) (i : Nat) : Prop := IsOutside text i ∧ text[i]? = some c

instance (text : Text) (c : Char) : DecidablePred (StandsOutside text c) :=
  fun i => inferInstanceAs (Decidable (IsOutside text i ∧ text[i]? = some c))

/-- The character before a place, unless it is the first. -/
def charBefore (text : Text) (i : Nat) : Option Char := (text.take i).getLast?

theorem StandsOutside.lt_length {text : Text} {c : Char} {i : Nat} (h : StandsOutside text c i) :
    i < text.length := by
  obtain ⟨hlt, -⟩ := List.getElem?_eq_some_iff.1 h.2
  exact hlt

theorem charBefore_succ {text : Text} {i : Nat} (h : i < text.length) : charBefore text (i + 1) = text[i]? := by
  rw [charBefore, List.take_add_one, List.getElem?_eq_getElem h]
  exact List.getLast?_concat

/-! ## Longest runs of colons -/

/-- A longest run of colons outside. -/
structure ColonRun (text : Text) (start length : Nat) : Prop where
  pos : 0 < length
  colons : ∀ k < length, StandsOutside text ':' (start + k)
  first : start = 0 ∨ ¬ StandsOutside text ':' (start - 1)
  last : ¬ StandsOutside text ':' (start + length)

instance (text : Text) (start length : Nat) : Decidable (ColonRun text start length) :=
  decidable_of_iff (0 < length ∧ (∀ k < length, StandsOutside text ':' (start + k)) ∧
      (start = 0 ∨ ¬ StandsOutside text ':' (start - 1)) ∧ ¬ StandsOutside text ':' (start + length))
    ⟨fun ⟨hpos, hcolons, hfirst, hlast⟩ => ⟨hpos, hcolons, hfirst, hlast⟩,
      fun h => ⟨h.pos, h.colons, h.first, h.last⟩⟩

/-- The longest runs of an odd number of colons outside, each as its start and its length. -/
def oddColonRuns (text : Text) : Finset (Nat × Nat) :=
  (Finset.range text.length ×ˢ Finset.range (text.length + 1)).filter fun run =>
    ColonRun text run.1 run.2 ∧ Odd run.2

/-- Every run lies within the text, so none is left out for its size. -/
theorem mem_oddColonRuns {text : Text} {run : Nat × Nat} :
    run ∈ oddColonRuns text ↔ ColonRun text run.1 run.2 ∧ Odd run.2 := by
  rw [oddColonRuns, Finset.mem_filter, Finset.mem_product, Finset.mem_range, Finset.mem_range]
  refine and_iff_right_of_imp fun ⟨h, _⟩ => ?_
  have hpos := h.pos
  have hstart := (h.colons 0 hpos).lt_length
  have hend := (h.colons (run.2 - 1) (by omega)).lt_length
  omega

example : oddColonRuns "a:b::c:::d(:)".toList = {(1, 1), (6, 3)} := by decide +kernel

/-- How many colons a text starts with. -/
def leadingColons (text : Text) : Nat := (text.takeWhile (· = ':')).length

theorem leadingColons_colon (rest : Text) : leadingColons (':' :: rest) = leadingColons rest + 1 :=
  rfl

theorem leadingColons_of_head?_ne {text : Text} (h : text.head? ≠ some ':') : leadingColons text = 0 := by
  cases text with
  | nil => rfl
  | cons c rest =>
    have hc : c ≠ ':' := fun hc => h (congrArg some hc)
    rw [leadingColons, List.takeWhile_cons_of_neg (by simpa using hc), List.length_nil]

theorem leadingColons_eq_iff {text : Text} {n : Nat} :
    leadingColons text = n ↔ (∀ k < n, text[k]? = some ':') ∧ text[n]? ≠ some ':' := by
  induction text generalizing n with
  | nil =>
    cases n with
    | zero => exact iff_of_true rfl ⟨nofun, nofun⟩
    | succ n => exact iff_of_false nofun fun h => nomatch h.1 0 (Nat.succ_pos n)
  | cons c rest ih =>
    by_cases hc : c = ':'
    · subst hc
      cases n with
      | zero => exact iff_of_false nofun fun h => h.2 rfl
      | succ n =>
        rw [leadingColons_colon, Nat.add_right_cancel_iff, ih, Nat.forall_lt_succ_left]
        exact and_congr_left' (and_iff_right rfl).symm
    · have hfirst : (c :: rest).head? ≠ some ':' := fun h => hc (Option.some.inj h)
      rw [leadingColons_of_head?_ne hfirst]
      cases n with
      | zero => exact iff_of_true rfl ⟨nofun, hfirst⟩
      | succ n => exact iff_of_false nofun fun h => hfirst (h.1 0 (Nat.succ_pos n))

/-- A colon opens and closes nothing. -/
theorem isOutside_succ_of_colon {text : Text} {i : Nat} (h : text[i]? = some ':') :
    IsOutside text (i + 1) ↔ IsOutside text i := by
  rw [IsOutside, List.take_add_one, h, after_append, Option.toList_some, after_cons, after_nil,
    step_of_ne _ (by decide), IsOutside]

theorem isOutside_add_of_colons {text : Text} {start n : Nat} (h : ∀ k < n, text[start + k]? = some ':') :
    IsOutside text (start + n) ↔ IsOutside text start := by
  induction n with
  | zero => rfl
  | succ n ih =>
    rw [← Nat.add_assoc, isOutside_succ_of_colon (h n (Nat.lt_succ_self n))]
    exact ih fun k hk => h k (Nat.lt_succ_of_lt hk)

/-- A longest run starts outside and behind no colon, and its length is told by the text from there on:
either all places of a run of colons are outside or none is. -/
theorem colonRun_iff {text : Text} {start n : Nat} :
    ColonRun text start n ↔
      IsOutside text start ∧ charBefore text start ≠ some ':' ∧ 0 < n ∧
        leadingColons (text.drop start) = n := by
  rw [leadingColons_eq_iff]
  simp only [List.getElem?_drop]
  constructor
  · rintro ⟨hpos, hcolons, hfirst, hlast⟩
    have houtside : IsOutside text start := (hcolons 0 hpos).1
    have hchars : ∀ k < n, text[start + k]? = some ':' := fun k hk => (hcolons k hk).2
    refine ⟨houtside, ?_, hpos, hchars, fun hend => hlast ⟨?_, hend⟩⟩
    · -- A colon before the run would stand outside as well, and the run would not be a longest one.
      intro hbefore
      cases start with
      | zero => cases hbefore
      | succ start =>
        have hlt : start < text.length := Nat.lt_of_succ_lt (hcolons 0 hpos).lt_length
        rw [charBefore_succ hlt] at hbefore
        have hnot := hfirst.resolve_left (Nat.succ_ne_zero start)
        exact hnot ⟨(isOutside_succ_of_colon hbefore).1 houtside, hbefore⟩
    · exact (isOutside_add_of_colons hchars).2 houtside
  · rintro ⟨houtside, hbefore, hpos, hchars, hend⟩
    refine ⟨hpos, fun k hk => ⟨?_, hchars k hk⟩, ?_, fun h => hend h.2⟩
    · exact (isOutside_add_of_colons fun j hj => hchars j (Nat.lt_trans hj hk)).2 houtside
    · cases start with
      | zero => exact .inl rfl
      | succ start =>
        refine .inr fun h => hbefore ?_
        rw [Nat.add_sub_cancel] at h
        rw [charBefore_succ h.lt_length]
        exact h.2

/-! ## Counting from some point on -/

/-- At how many places outside, of a text behind what has `e` open and ends in `last`, the character
before and the text from the place on satisfy `p`. -/
def placesFrom (p : Option Char → Text → Bool) (e : Enclosure) (last : Option Char) (text : Text) : Nat :=
  Nat.count (fun i => e.after (text.take i) = outside ∧ p ((charBefore text i).or last) (text.drop i))
    text.length

theorem placesFrom_cons (p : Option Char → Text → Bool) (e : Enclosure) (last : Option Char) (c : Char)
    (rest : Text) : placesFrom p e last (c :: rest) =
      (if e = outside then (p last (c :: rest)).toNat else 0) + placesFrom p (e.step c) (some c) rest := by
  have hbefore : ∀ i, (charBefore (c :: rest) (i + 1)).or last = (charBefore rest i).or (some c) := by
    intro i
    rw [charBefore, List.take_succ_cons, getLast?_cons_or, charBefore]
  have hfirst : (if e = outside ∧ p last (c :: rest) then 1 else 0) =
      if e = outside then (p last (c :: rest)).toNat else 0 := by
    rw [ite_and]
    cases p last (c :: rest) <;> rfl
  rw [placesFrom, List.length_cons, Nat.count_succ', Nat.add_comm, ← hfirst]
  simp only [hbefore, List.take_succ_cons, List.drop_succ_cons, after_cons]
  rfl

/-! ## What a place adds -/

/-- A text starts with the character `c`. -/
def startsWithChar (c : Char) (_ : Option Char) (text : Text) : Bool := text.head? = some c

/-- A text starts with a dot and a name behind it. -/
def startsClass (_ : Option Char) (text : Text) : Bool := text.head? = some '.' && text[1]?.any isNameChar

/-- A text starts with an odd number of colons, and no colon stands before it. -/
def startsOddRun (last : Option Char) (text : Text) : Bool :=
  decide (last ≠ some ':' ∧ Odd (leadingColons text))

/-- A text starts with the first letter of a type. -/
def startsName (last : Option Char) (text : Text) : Bool := text.head?.any Char.isAlpha && startsType last

/-- What the first place of a text adds when it is outside. -/
def worthAt (last : Option Char) (text : Text) : Specificity :=
  ⟨(startsWithChar '#' last text).toNat,
    (startsWithChar '[' last text).toNat + (startsClass last text).toNat + (startsOddRun last text).toNat,
    (startsName last text).toNat⟩

/-- What all places of a text add. -/
def tally (e : Enclosure) (last : Option Char) (text : Text) : Specificity :=
  ⟨placesFrom (startsWithChar '#') e last text,
    placesFrom (startsWithChar '[') e last text + placesFrom startsClass e last text +
      placesFrom startsOddRun e last text,
    placesFrom startsName e last text⟩

theorem tally_cons_of_inside {e : Enclosure} (h : e ≠ outside) (last : Option Char) (c : Char) (rest : Text) :
    tally e last (c :: rest) = tally (e.step c) (some c) rest := by
  simp only [tally, placesFrom_cons, if_neg h, Nat.zero_add]

theorem tally_cons_of_outside (last : Option Char) (c : Char) (rest : Text) :
    tally outside last (c :: rest) = worthAt last (c :: rest) + tally (outside.step c) (some c) rest := by
  rw [eq_iff, ids_add, classes_add, types_add]
  simp only [tally, worthAt, placesFrom_cons, if_true, true_and, and_true]
  omega

/-- A colon is worth something at the start of an odd run only. -/
theorem worthAt_colon (last : Option Char) (rest : Text) :
    worthAt last (':' :: rest) =
      if last ≠ some ':' ∧ Odd (leadingColons (':' :: rest)) then ⟨0, 1, 0⟩ else 0 := by
  have hrun : worthAt last (':' :: rest) = ⟨0, (startsOddRun last (':' :: rest)).toNat, 0⟩ := by
    simp [worthAt, startsWithChar, startsClass, startsName]
  rw [hrun]
  unfold startsOddRun
  by_cases h : last ≠ some ':' ∧ Odd (leadingColons (':' :: rest))
  · rw [if_pos h, decide_eq_true h]
    rfl
  · rw [if_neg h, decide_eq_false h]
    rfl

/-- Any other character adds at its place what it adds in the scan. -/
theorem worthAt_of_ne_colon {c : Char} (hc : c ≠ ':') (last : Option Char) (rest : Text) :
    worthAt last (c :: rest) = worth last c rest.head? := by
  have hrun : startsOddRun last (c :: rest) = false := by
    rw [startsOddRun, leadingColons_of_head?_ne (by simpa using hc)]
    simp
  have hnext : (c :: rest)[1]? = rest.head? := by
    rw [List.getElem?_cons_succ, List.head?_eq_getElem?]
  rw [worthAt, startsClass, startsName, startsWithChar, startsWithChar, hrun, hnext, List.head?_cons,
    Option.any_some]
  by_cases hhash : c = '#'
  · subst hhash
    rfl
  by_cases hopen : c = '['
  · subst hopen
    rfl
  by_cases hdot : c = '.'
  · subst hdot
    rw [worth]
    cases rest.head?.any isNameChar <;> rfl
  · simp only [worth, hhash, hopen, hdot, hc, Option.some.injEq, decide_false, Bool.false_and, false_and,
      or_self, if_false, Bool.toNat_false, ← Bool.and_eq_true]
    cases c.isAlpha && startsType last <;> rfl

/-- What a text adds for a run of colons that it goes on with: the run is worth a class when its length is
odd, and where it started is not a place of this text. -/
def owed (e : Enclosure) (last : Option Char) (text : Text) : Specificity :=
  if e = outside ∧ last = some ':' ∧ Odd (leadingColons text) then ⟨0, 1, 0⟩ else 0

theorem owed_of_inside {e : Enclosure} (h : e ≠ outside) (last : Option Char) (text : Text) :
    owed e last text = 0 := if_neg fun howed => h howed.1

theorem owed_of_last_ne {last : Option Char} (h : last ≠ some ':') (e : Enclosure) (text : Text) :
    owed e last text = 0 := if_neg fun howed => h howed.2.1

theorem owed_of_head?_ne {text : Text} (h : text.head? ≠ some ':') (e : Enclosure) (last : Option Char) :
    owed e last text = 0 := by
  refine if_neg fun howed => ?_
  rw [leadingColons_of_head?_ne h] at howed
  exact absurd howed.2.2 (by decide)

/-- The colon that a text starts with adds a class or owes it, when the colons from there on are odd. -/
theorem worthAt_add_owed (last : Option Char) (rest : Text) :
    worthAt last (':' :: rest) + owed outside last (':' :: rest) =
      if Odd (leadingColons (':' :: rest)) then ⟨0, 1, 0⟩ else 0 := by
  rw [worthAt_colon]
  by_cases hlast : last = some ':'
  · rw [if_neg fun h => h.1 hlast, zero_add, owed]
    exact if_congr (by simp only [hlast, true_and]) rfl rfl
  · rw [owed_of_last_ne hlast, add_zero]
    exact if_congr (and_iff_right hlast) rfl rfl

/-! ## The scan and the places -/

/-- One step of a scan, if it does not pass over two colons. -/
theorem score_eq_tally_cons {e : Enclosure} {c : Char} {rest : Text}
    (hpair : ¬ (e = outside ∧ c = ':' ∧ rest.head? = some ':'))
    (ih : (e.step c).score (some c) rest = tally (e.step c) (some c) rest + owed (e.step c) (some c) rest)
    (last : Option Char) : e.score last (c :: rest) = tally e last (c :: rest) + owed e last (c :: rest) := by
  by_cases he : e = outside
  · subst he
    have hscan : outside.score last (c :: rest) =
        worth last c rest.head? + (outside.step c).score (some c) rest :=
      score_cons_of_outside (fun h => hpair ⟨rfl, h⟩) last
    by_cases hc : c = ':'
    · -- This colon is the last of its run, and the only one that the scan has not passed over yet.
      subst hc
      have hhead : rest.head? ≠ some ':' := fun h => hpair ⟨rfl, rfl, h⟩
      have hone : worthAt last (':' :: rest) + owed outside last (':' :: rest) = ⟨0, 1, 0⟩ := by
        rw [worthAt_add_owed, leadingColons_colon, leadingColons_of_head?_ne hhead]
        rfl
      rw [hscan, ih, owed_of_head?_ne hhead, add_zero, tally_cons_of_outside, add_right_comm, hone]
      rfl
    · rw [hscan, ih, owed_of_last_ne (by simpa using hc), add_zero, tally_cons_of_outside,
        owed_of_head?_ne (by simpa using hc), add_zero, worthAt_of_ne_colon hc]
  · have howed : owed (e.step c) (some c) rest = 0 := by
      by_cases hc : c = ':'
      · subst hc
        rw [step_of_ne e (by decide), owed_of_inside he]
      · exact owed_of_last_ne (by simpa using hc) _ _
    rw [score_cons_of_inside he, ih, howed, tally_cons_of_inside he, owed_of_inside he]

/-- A scan adds up what the places outside add, and what it owes to a run of colons before. -/
theorem score_eq_tally (e : Enclosure) (last : Option Char) (text : Text) :
    e.score last text = tally e last text + owed e last text := by
  induction text using List.twoStepInduction generalizing e last with
  | nil =>
    rw [owed_of_head?_ne (by simp), score_nil, add_zero]
    rfl
  | singleton c =>
    refine score_eq_tally_cons (by simp) ?_ last
    rw [owed_of_head?_ne (by simp), score_nil, add_zero]
    rfl
  | cons_cons c d rest ih₂ ih₁ =>
    by_cases hpair : e = outside ∧ c = ':' ∧ (d :: rest).head? = some ':'
    · obtain ⟨rfl, rfl, hd⟩ := hpair
      obtain rfl : d = ':' := Option.some.inj hd
      -- The second colon is passed over with the first and starts no run.
      have hsecond : worthAt (some ':') (':' :: rest) = 0 := by
        rw [worthAt_colon, if_neg fun h => h.1 rfl]
      have hrun : worthAt last (':' :: ':' :: rest) + owed outside last (':' :: ':' :: rest) =
          owed outside (some ':') rest := by
        have hodd : Odd (leadingColons (':' :: ':' :: rest)) ↔ Odd (leadingColons rest) := by
          rw [leadingColons_colon, leadingColons_colon, Nat.odd_add_one, Nat.odd_add_one, not_not]
        rw [worthAt_add_owed]
        exact if_congr (by simp only [hodd, true_and]) rfl rfl
      calc outside.score last (':' :: ':' :: rest)
          = tally outside (some ':') rest + owed outside (some ':') rest := by rw [score_pair, ih₂]
        _ = worthAt last (':' :: ':' :: rest) + tally outside (some ':') rest +
              owed outside last (':' :: ':' :: rest) := by rw [add_right_comm, hrun, add_comm]
        _ = tally outside last (':' :: ':' :: rest) + owed outside last (':' :: ':' :: rest) := by
          have hstep : outside.step ':' = outside := rfl
          rw [tally_cons_of_outside, hstep, tally_cons_of_outside, hstep, hsecond, zero_add]
    · exact score_eq_tally_cons hpair (ih₁ d (e.step c) (some c)) last

/-- Before the start of a text no run has begun. -/
theorem ofSelector_eq_tally (text : Text) : ofSelector text = tally outside none text := by
  have hscan := score_eq_tally outside none text
  rwa [owed_of_last_ne (by simp), add_zero] at hscan

/-! ## The counts of a whole text -/

theorem mem_oddColonRuns_iff {text : Text} {start n : Nat} :
    (start, n) ∈ oddColonRuns text ↔
      (IsOutside text start ∧ startsOddRun (charBefore text start) (text.drop start)) ∧
        leadingColons (text.drop start) = n := by
  rw [mem_oddColonRuns, colonRun_iff, startsOddRun, decide_eq_true_eq]
  dsimp only
  constructor
  · rintro ⟨⟨houtside, hbefore, -, rfl⟩, hodd⟩
    exact ⟨⟨houtside, hbefore, hodd⟩, rfl⟩
  · rintro ⟨⟨houtside, hbefore, hodd⟩, rfl⟩
    have hpos : 0 < leadingColons (text.drop start) := by
      obtain ⟨k, hk⟩ := hodd
      omega
    exact ⟨⟨houtside, hbefore, hpos, rfl⟩, hodd⟩

/-- A run is told by its start. -/
theorem card_oddColonRuns (text : Text) :
    (oddColonRuns text).card =
      Nat.count (fun i => IsOutside text i ∧ startsOddRun (charBefore text i) (text.drop i)) text.length := by
  rw [Nat.count_eq_card_filter_range]
  refine Finset.card_nbij' Prod.fst (fun start => (start, leadingColons (text.drop start))) ?_ ?_ ?_ ?_
  · rintro ⟨start, n⟩ h
    have hlt := ((mem_oddColonRuns.1 h).1.colons 0 (mem_oddColonRuns.1 h).1.pos).lt_length
    exact Finset.mem_filter.2 ⟨Finset.mem_range.2 hlt, (mem_oddColonRuns_iff.1 h).1⟩
  · intro start h
    exact mem_oddColonRuns_iff.2 ⟨(Finset.mem_filter.1 h).2, rfl⟩
  · rintro ⟨start, n⟩ h
    exact Prod.ext rfl (mem_oddColonRuns_iff.1 h).2
  · exact fun _ _ => rfl

/-- A name is of a type when nothing stands before it or a character that is neither of a name nor one of
`#`, `.` and `:`. -/
theorem startsType_eq_all (last : Option Char) :
    startsType last = last.all fun d => !(isNameChar d || d = '#' || d = '.' || d = ':') := by
  cases last with
  | none => rfl
  | some d =>
    rw [startsType, Option.all_some, Bool.or_comm _ (isNameChar d), Bool.or_assoc, Bool.or_assoc, Bool.or_assoc]

section Counts

variable (text : Text)

theorem placesFrom_outside (p : Option Char → Text → Bool) :
    placesFrom p outside none text =
      Nat.count (fun i => IsOutside text i ∧ p (charBefore text i) (text.drop i)) text.length := by
  simp only [placesFrom, Option.or_none]
  rfl

theorem placesFrom_startsWithChar (c : Char) :
    placesFrom (startsWithChar c) outside none text = Nat.count (StandsOutside text c) text.length := by
  rw [placesFrom_outside]
  simp only [startsWithChar, List.head?_drop, decide_eq_true_eq]
  rfl

theorem placesFrom_startsClass :
    placesFrom startsClass outside none text =
      Nat.count (fun i => StandsOutside text '.' i ∧ text[i + 1]?.any isNameChar) text.length := by
  rw [placesFrom_outside]
  simp only [startsClass, List.head?_drop, List.getElem?_drop, Bool.and_eq_true, decide_eq_true_eq,
    StandsOutside, and_assoc]

theorem placesFrom_startsName :
    placesFrom startsName outside none text =
      Nat.count (fun i => IsOutside text i ∧ text[i]?.any Char.isAlpha ∧
        (charBefore text i).all fun d => !(isNameChar d || d = '#' || d = '.' || d = ':')) text.length := by
  rw [placesFrom_outside]
  simp only [startsName, List.head?_drop, Bool.and_eq_true, startsType_eq_all]

end Counts

/-- The ids of a selector are the hashes outside; its classes are the brackets, the dots before a name and the
odd runs of colons there; and its types are the letters there that start a name of their own. -/
theorem ofSelector_counts_places (text : Text) :
    (ofSelector text).ids = Nat.count (StandsOutside text '#') text.length ∧
      (ofSelector text).classes = Nat.count (StandsOutside text '[') text.length +
        Nat.count (fun i => StandsOutside text '.' i ∧ text[i + 1]?.any isNameChar) text.length +
          (oddColonRuns text).card ∧
      (ofSelector text).types =
        Nat.count (fun i => IsOutside text i ∧ text[i]?.any Char.isAlpha ∧
          (charBefore text i).all fun d => !(isNameChar d || d = '#' || d = '.' || d = ':')) text.length := by
  have hruns : (oddColonRuns text).card = placesFrom startsOddRun outside none text := by
    rw [card_oddColonRuns, placesFrom_outside]
  rw [ofSelector_eq_tally, hruns, ← placesFrom_startsWithChar, ← placesFrom_startsWithChar,
    ← placesFrom_startsClass, ← placesFrom_startsName]
  exact ⟨rfl, rfl, rfl⟩

end CssSurvey.Specificity
