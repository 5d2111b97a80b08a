/-
Specificities add up. A scan is described by what is open, the character before, and the text still to
come. What it counts for two texts one after the other is what it counts for each of them from where it
stands, and for the seam: a dot at the end of the first text may have a name behind it in the second.
Of the text before, only its last character matters, and only to a type that the text starts with. So a
combinator with nothing open before it parts two selectors, and they are worth what each of them is.
-/
import CssSurvey.Selector.Specificity
import CssSurvey.Proofs.Text.Cut
import Mathlib.Algebra.BigOperators.Group.List.Basic
import Mathlib.Data.List.Induction

namespace CssSurvey.Specificity

/-! ## Sums of specificities -/

@[simp] theorem ids_zero : (0 : Specificity).ids = 0 := rfl
@[simp] theorem classes_zero : (0 : Specificity).classes = 0 := rfl
@[simp] theorem types_zero : (0 : Specificity).types = 0 := rfl
@[simp] theorem ids_add (a b : Specificity) : (a + b).ids = a.ids + b.ids := rfl
@[simp] theorem classes_add (a b : Specificity) : (a + b).classes = a.classes + b.classes := rfl
@[simp] theorem types_add (a b : Specificity) : (a + b).types = a.types + b.types := rfl

theorem eq_iff {a b : Specificity} :
    a = b ↔ a.ids = b.ids ∧ a.classes = b.classes ∧ a.types = b.types := by
  cases a
  cases b
  simp

instance : AddCommMonoid Specificity where
  add_assoc a b c := eq_iff.2 ⟨Nat.add_assoc .., Nat.add_assoc .., Nat.add_assoc ..⟩
  zero_add a := eq_iff.2 ⟨Nat.zero_add _, Nat.zero_add _, Nat.zero_add _⟩
  add_zero a := rfl
  add_comm a b := eq_iff.2 ⟨Nat.add_comm .., Nat.add_comm .., Nat.add_comm ..⟩
  nsmul := nsmulRec

/-! ## What is open -/

/-- How many brackets and parentheses a scan has open. -/
structure Enclosure where
  brackets : Nat
  parens : Nat
deriving DecidableEq

namespace Enclosure

/-- Nothing is open. -/
def outside : Enclosure := ⟨0, 0⟩

/-- What is open after one more character. Inside brackets only brackets count. -/
def step (e : Enclosure) (c : Char) : Enclosure :=
  if c = '[' then { e with brackets := e.brackets + 1 }
  else if c = ']' then { e with brackets := e.brackets - 1 }
  else if 0 < e.brackets then e
  else if c = '(' then { e with parens := e.parens + 1 }
  else if c = ')' then { e with parens := e.parens - 1 }
  else e

/-- What is open after a text. -/
def after (e : Enclosure) (text : Text) : Enclosure := text.foldl step e

/-- What a scan counts in a text that starts where `e` is open and `last` is the character before. -/
def score (e : Enclosure) (last : Option Char) (text : Text) : Specificity :=
  scanFrom e.brackets e.parens last text

@[simp] theorem after_nil (e : Enclosure) : e.after [] = e := rfl

@[simp] theorem after_cons (e : Enclosure) (c : Char) (text : Text) :
    e.after (c :: text) = (e.step c).after text := rfl

theorem after_append (e : Enclosure) (a b : Text) : e.after (a ++ b) = (e.after a).after b :=
  List.foldl_append

@[simp] theorem score_nil (e : Enclosure) (last : Option Char) : e.score last [] = 0 := rfl

end Enclosure

open Enclosure

/-! ## One character -/

/-- The characters that a scan reacts to, those of a name apart. -/
def isMark (c : Char) : Bool :=
  c = '[' || c = ']' || c = '(' || c = ')' || c = '#' || c = '.' || c = ':'

theorem isMark_eq_false {c : Char} : isMark c = false ↔
    c ≠ '[' ∧ c ≠ ']' ∧ c ≠ '(' ∧ c ≠ ')' ∧ c ≠ '#' ∧ c ≠ '.' ∧ c ≠ ':' := by
  simp only [isMark, Bool.or_eq_false_iff, decide_eq_false_iff_not, and_assoc, ne_eq]

/-- What a character outside of brackets and parentheses adds, between the characters before and
after it. -/
def worth (last : Option Char) (c : Char) (next : Option Char) : Specificity :=
  if c = '#' then ⟨1, 0, 0⟩
  else if c = '[' ∨ c = ':' ∨ c = '.' ∧ next.any isNameChar then ⟨0, 1, 0⟩
  else if c.isAlpha ∧ startsType last then ⟨0, 0, 1⟩
  else 0

theorem step_of_ne (e : Enclosure) {c : Char}
    (h : c ≠ '[' ∧ c ≠ ']' ∧ c ≠ '(' ∧ c ≠ ')') : e.step c = e := by
  obtain ⟨hopen, hclose, hparen, hclosing⟩ := h
  rw [step, if_neg hopen, if_neg hclose, if_neg hparen, if_neg hclosing, ite_self]

theorem step_of_not_isMark (e : Enclosure) {c : Char} (hmark : isMark c = false) : e.step c = e := by
  obtain ⟨hopen, hclose, hparen, hclosing, -⟩ := isMark_eq_false.1 hmark
  exact step_of_ne e ⟨hopen, hclose, hparen, hclosing⟩

theorem worth_of_not_isMark {c : Char} (hmark : isMark c = false) (last next : Option Char) :
    worth last c next = if c.isAlpha ∧ startsType last then ⟨0, 0, 1⟩ else 0 := by
  obtain ⟨hopen, -, -, -, hhash, hdot, hcolon⟩ := isMark_eq_false.1 hmark
  have hclass : ¬ (c = '[' ∨ c = ':' ∨ c = '.' ∧ next.any isNameChar) := by
    rintro (h | h | h)
    exacts [hopen h, hcolon h, hdot h.1]
  rw [worth, if_neg hhash, if_neg hclass]

theorem isMark_of_isNameChar {c : Char} (h : isNameChar c) : isMark c = false := by
  have hmarks : c ∉ ['[', ']', '(', ')', '#', '.', ':'] := Text.not_mem_of_all_not (by decide) h
  simpa [isMark, and_assoc] using hmarks

theorem isNameChar_of_isAlpha {c : Char} (h : c.isAlpha) : isNameChar c := by
  simp [isNameChar, Char.isAlphanum, h]

/-- A character that may not start a type is worth what it would be worth as the first one, less the
type that it then starts. -/
theorem worth_none (last : Option Char) (c : Char) (next : Option Char) :
    worth none c next =
      (if c.isAlpha ∧ ¬ startsType last then ⟨0, 0, 1⟩ else 0) + worth last c next := by
  rcases halpha : c.isAlpha with _ | _
  · simp only [worth, halpha, Bool.false_eq_true, false_and, if_false, zero_add]
  · have hmark := isMark_of_isNameChar (isNameChar_of_isAlpha halpha)
    rw [worth_of_not_isMark hmark, worth_of_not_isMark hmark, if_pos ⟨halpha, rfl⟩, halpha]
    by_cases hlast : startsType last
    · rw [if_neg (fun h => h.2 hlast), if_pos ⟨rfl, hlast⟩, zero_add]
    · rw [if_pos ⟨rfl, hlast⟩, if_neg fun h => hlast h.2, add_zero]

/-- Inside of brackets or parentheses nothing is counted. -/
theorem score_cons_of_inside {e : Enclosure} (h : e ≠ outside) (last : Option Char) (c : Char)
    (rest : Text) : e.score last (c :: rest) = (e.step c).score (some c) rest := by
  obtain ⟨brackets, parens⟩ := e
  have hinside : ¬ (brackets = 0 ∧ parens = 0) := by
    rintro ⟨rfl, rfl⟩
    exact h rfl
  -- The branches of the scan in their order; the one branch that could count asks for nothing open.
  rw [score, scanFrom.eq_def, step]
  dsimp only
  by_cases hopen : c = '['
  · rw [if_pos hopen, if_pos hopen, if_neg hinside, zero_add, score]
  by_cases hclose : c = ']'
  · rw [if_neg hopen, if_neg hopen, if_pos hclose, if_pos hclose, score]
  rw [if_neg hopen, if_neg hopen, if_neg hclose, if_neg hclose]
  by_cases hbrackets : 0 < brackets
  · rw [if_pos hbrackets, if_pos hbrackets, score]
  rw [if_neg hbrackets, if_neg hbrackets]
  by_cases hparen : c = '('
  · rw [if_pos hparen, if_pos hparen, score]
  by_cases hclosing : c = ')'
  · rw [if_neg hparen, if_neg hparen, if_pos hclosing, if_pos hclosing, score]
  have hparens : 0 < parens := by omega
  rw [if_neg hparen, if_neg hparen, if_neg hclosing, if_neg hclosing, if_pos hparens, score]

/-- Two colons are passed over together. -/
theorem score_pair (last : Option Char) (rest : Text) :
    outside.score last (':' :: ':' :: rest) = outside.score (some ':') rest := by
  rw [score, score, outside, scanFrom.eq_def]
  rfl

/-- Outside, every other character is counted for what it is worth. -/
theorem score_cons_of_outside {c : Char} {rest : Text} (hpair : ¬ (c = ':' ∧ rest.head? = some ':'))
    (last : Option Char) : outside.score last (c :: rest) =
      worth last c rest.head? + (outside.step c).score (some c) rest := by
  rw [score, score, outside, scanFrom.eq_def]
  dsimp only
  -- All that is no mark takes the last branch of the scan, and each mark one of its own.
  rcases hmark : isMark c with _ | _
  · rw [worth_of_not_isMark hmark, step_of_not_isMark _ hmark]
    obtain ⟨hopen, hclose, hparen, hclosing, hhash, hdot, hcolon⟩ := isMark_eq_false.1 hmark
    rw [if_neg hopen, if_neg hclose, if_neg (Nat.lt_irrefl 0), if_neg hparen, if_neg hclosing,
      if_neg (Nat.lt_irrefl 0), if_neg hhash, if_neg hdot, if_neg hcolon]
  · simp only [isMark, Bool.or_eq_true, decide_eq_true_eq] at hmark
    rcases hmark with (((((rfl | rfl) | rfl) | rfl) | rfl) | rfl) | rfl
    · rfl
    · exact (zero_add _).symm
    · exact (zero_add _).symm
    · exact (zero_add _).symm
    · rfl
    · rw [worth, if_neg (by decide)]
      rcases h : rest.head?.any isNameChar with _ | _
      · rw [if_neg (by decide), if_neg (by decide)]
        rfl
      · rfl
    · cases rest with
      | nil => rfl
      | cons d rest =>
        have hd : d ≠ ':' := fun h => hpair ⟨rfl, congrArg some h⟩
        simp [worth, step, hd]

theorem score_cons_of_isNameChar {c : Char} (h : isNameChar c) (last : Option Char) (rest : Text) :
    outside.score last (c :: rest) =
      (if c.isAlpha ∧ startsType last then ⟨0, 0, 1⟩ else 0) + outside.score (some c) rest := by
  have hmark := isMark_of_isNameChar h
  obtain ⟨-, -, -, -, -, -, hcolon⟩ := isMark_eq_false.1 hmark
  rw [score_cons_of_outside fun hpair => hcolon hpair.1, worth_of_not_isMark hmark, step_of_not_isMark _ hmark]

/-- A name is read in one go: its first character and the one before it tell whether it names a type, and
the scan goes on behind its last. -/
theorem score_name_append {c : Char} {name : Text} (h : ∀ d ∈ c :: name, isNameChar d) (last : Option Char)
    (rest : Text) : outside.score last (c :: name ++ rest) =
      (if c.isAlpha ∧ startsType last then ⟨0, 0, 1⟩ else 0) + outside.score (c :: name).getLast? rest := by
  induction name generalizing c last with
  | nil => exact score_cons_of_isNameChar (h c (List.mem_singleton_self c)) last rest
  | cons d name ih =>
    obtain ⟨hc, hname⟩ := List.forall_mem_cons.1 h
    -- Behind a character of a name no further one starts a type.
    have hwithin : ¬ (d.isAlpha ∧ startsType (some c)) := by simp [startsType, hc]
    rw [List.cons_append, score_cons_of_isNameChar hc, ih hname, if_neg hwithin, zero_add, List.getLast?_cons_cons]

/-! ## One text after another -/

/-- What two texts count only together: a dot at the end of the first has a name behind it in the
second. -/
def seam (e : Enclosure) (a b : Text) : Specificity :=
  if a.getLast? = some '.' ∧ e.after a = outside ∧ b.head?.any isNameChar then ⟨0, 1, 0⟩ else 0

theorem seam_of_ne_dot {a : Text} (h : a.getLast? ≠ some '.') (e : Enclosure) (b : Text) :
    seam e a b = 0 := if_neg fun hdot => h hdot.1

theorem seam_cons_cons (e : Enclosure) (c d : Char) (a b : Text) :
    seam e (c :: d :: a) b = seam (e.step c) (d :: a) b := by
  rw [seam, seam, List.getLast?_cons_cons, after_cons]

theorem seam_cons_of_ne_dot {c : Char} (h : c ≠ '.') (e : Enclosure) (a b : Text) :
    seam e (c :: a) b = seam (e.step c) a b := by
  cases a with
  | nil => rw [seam_of_ne_dot (by simpa using h), seam_of_ne_dot (by simp)]
  | cons d a => exact seam_cons_cons e c d a b

theorem seam_singleton_of_inside {e : Enclosure} (h : e ≠ outside) (c : Char) (b : Text) :
    seam e [c] b = 0 := by
  refine if_neg ?_
  rintro ⟨hdot, hclosed, -⟩
  obtain rfl : c = '.' := Option.some.inj hdot
  rw [after_cons, after_nil, step] at hclosed
  exact h (by simpa using hclosed)

/-- A last character is worth what it is worth alone, and what it becomes worth by the seam. -/
theorem worth_eq_add_seam (last : Option Char) (c : Char) (b : Text) :
    worth last c b.head? = worth last c none + seam outside [c] b := by
  -- Only a dot looks at the character behind it.
  by_cases hdot : c = '.'
  · subst hdot
    have halone : worth last '.' none = 0 := rfl
    rw [halone, zero_add, worth, if_neg (by decide), seam]
    by_cases hname : b.head?.any isNameChar
    · rw [if_pos (.inr (.inr ⟨rfl, hname⟩)), if_pos ⟨rfl, rfl, hname⟩]
    · have hclass : ¬ ('.' = '[' ∨ '.' = ':' ∨ '.' = '.' ∧ b.head?.any isNameChar) := by
        rintro (h | h | h)
        exacts [absurd h (by decide), absurd h (by decide), hname h.2]
      rw [if_neg hclass, if_neg (by rintro ⟨⟨⟩, -⟩), if_neg fun h => hname h.2.2]
  · have hlast : [c].getLast? ≠ some '.' := fun h => hdot (Option.some.inj h)
    simp only [seam_of_ne_dot hlast, worth, hdot, false_and, or_false, add_zero]

/-- The character before a scan, after one more character. -/
theorem getLast?_cons_or (c : Char) (a : Text) (last : Option Char) :
    (c :: a).getLast?.or last = a.getLast?.or (some c) := by
  rw [List.getLast?_cons, Option.some_or]
  cases a.getLast? with
  | none => rfl
  | some d => rfl

/-- A scan over two texts is a scan over the first, and one over the second from where the first
leaves off. Only two colons must not be torn apart. -/
theorem score_append {a b : Text} (hpair : ¬ (a.getLast? = some ':' ∧ b.head? = some ':'))
    (e : Enclosure) (last : Option Char) : e.score last (a ++ b) =
      e.score last a + seam e a b + (e.after a).score (a.getLast?.or last) b := by
  induction a using List.twoStepInduction generalizing e last with
  | nil =>
    rw [seam_of_ne_dot (by simp), score_nil, zero_add, zero_add]
    rfl
  | singleton c =>
    show e.score last (c :: b) = e.score last [c] + seam e [c] b + (e.step c).score (some c) b
    by_cases he : e = outside
    · subst he
      have hfirst : ¬ (c = ':' ∧ b.head? = some ':') := fun h => hpair ⟨congrArg some h.1, h.2⟩
      rw [score_cons_of_outside hfirst, @score_cons_of_outside c [] (by rintro ⟨-, ⟨⟩⟩), score_nil,
        add_zero, worth_eq_add_seam]
      rfl
    · rw [score_cons_of_inside he, score_cons_of_inside he, score_nil, seam_singleton_of_inside he,
        zero_add, zero_add]
  | cons_cons c d a ih₂ ih₁ =>
    -- The scan goes on behind the first character, or behind both when they are two colons.
    have hrest := ih₁ d (by rwa [List.getLast?_cons_cons] at hpair) (e.step c) (some c)
    rw [List.cons_append] at hrest
    rw [seam_cons_cons, getLast?_cons_or, after_cons, List.cons_append, List.cons_append]
    by_cases he : e = outside
    · subst he
      by_cases hcolons : c = ':' ∧ d = ':'
      · obtain ⟨rfl, rfl⟩ := hcolons
        have hbehind : ¬ (a.getLast? = some ':' ∧ b.head? = some ':') := fun h =>
          hpair ⟨by simp [List.getLast?_cons, h.1], h.2⟩
        rw [score_pair, score_pair, ih₂ hbehind, getLast?_cons_or, seam_cons_of_ne_dot (by decide)]
        rfl
      · have hhead : ∀ t : Text, ¬ (c = ':' ∧ (d :: t).head? = some ':') := fun t h =>
          hcolons ⟨h.1, Option.some.inj h.2⟩
        rw [score_cons_of_outside (hhead _), score_cons_of_outside (hhead _), hrest, List.head?_cons,
          List.head?_cons, add_assoc, add_assoc, add_assoc]
    · rw [score_cons_of_inside he, score_cons_of_inside he, hrest]

/-! ## What stands before a text -/

/-- A text behind another one is worth what it is worth alone, less a type at its start that the
character before may keep from being one. -/
theorem score_none (last : Option Char) (text : Text) : outside.score none text =
    (if text.head?.any Char.isAlpha ∧ ¬ startsType last then ⟨0, 0, 1⟩ else 0) +
      outside.score last text := by
  cases text with
  | nil => rw [if_neg (by rintro ⟨⟨⟩, -⟩), zero_add, score_nil, score_nil]
  | cons c rest =>
    by_cases hpair : c = ':' ∧ rest.head? = some ':'
    · obtain ⟨rfl, hhead⟩ := hpair
      obtain ⟨rest, rfl⟩ := List.head?_eq_some_iff.1 hhead
      rw [if_neg (by rintro ⟨⟨⟩, -⟩), zero_add, score_pair, score_pair]
    · rw [score_cons_of_outside hpair, score_cons_of_outside hpair, worth_none last, add_assoc]
      rfl

/-! ## Selectors one behind the other -/

section Parting

variable {c : Char} (hname : ¬ isNameChar c) (hmark : ¬ isMark c)

include hname hmark

/-- A character that is no mark and not of a name is worth nothing. -/
theorem score_cons_of_parting (e : Enclosure) (last : Option Char) (b : Text) :
    e.score last (c :: b) = e.score (some c) b := by
  have hplain : isMark c = false := by simpa using hmark
  obtain ⟨-, -, -, -, -, -, hcolon⟩ := isMark_eq_false.1 hplain
  by_cases he : e = outside
  · have halpha : ¬ c.isAlpha := fun h => hname (isNameChar_of_isAlpha h)
    have hworth : worth last c b.head? = 0 := by
      rw [worth_of_not_isMark hplain]
      exact if_neg fun h => halpha h.1
    rw [he, score_cons_of_outside fun h => hcolon h.1, hworth, zero_add, step_of_not_isMark _ hplain]
  · rw [score_cons_of_inside he, step_of_not_isMark _ hplain]

/-- Behind such a character a selector is read as if it stood alone: a type may start there. -/
theorem score_some_of_parting (b : Text) : outside.score (some c) b = outside.score none b := by
  obtain ⟨-, -, -, -, hhash, hdot, hcolon⟩ := isMark_eq_false.1 (by simpa using hmark)
  have hstarts : startsType (some c) := by simp [startsType, hname, hhash, hdot, hcolon]
  rw [score_none (some c), if_neg fun h => h.2 hstarts, zero_add]

/-- Where nothing is open, such a character parts two selectors: neither end of the first nor the start
of the second is read differently for it. -/
theorem score_append_parting {e : Enclosure} {a : Text} (h : e.after a = outside) (last : Option Char)
    (b : Text) : e.score last (a ++ c :: b) = e.score last a + outside.score none b := by
  have hpair : ¬ (a.getLast? = some ':' ∧ (c :: b).head? = some ':') := by
    rintro ⟨-, hcolon⟩
    obtain rfl : c = ':' := Option.some.inj hcolon
    exact hmark rfl
  have hseam : seam e a (c :: b) = 0 := if_neg fun hdot => hname hdot.2.2
  rw [score_append hpair, hseam, add_zero, h,
    score_cons_of_parting hname hmark, score_some_of_parting hname hmark]

end Parting

theorem ofSelector_append_comma {a : Text} (h : outside.after a = outside) (b : Text) :
    ofSelector (a ++ ',' :: b) = ofSelector a + ofSelector b :=
  score_append_parting (by decide) (by decide) h none b

/-- Specificities add up over a combinator, which is any ASCII character other than those of a name and the
marks: a space, a comma, `>`, `+`, `~` and `*` among them. The first selector has to close what it opens. -/
theorem ofSelector_append_combinator {a : Text} {c : Char} (ha : outside.after a = outside)
    (hascii : c < '\u0080') (hletter : ¬ c.isAlphanum)
    (hsign : c ∉ ['-', '_', '#', '.', ':', '[', ']', '(', ')']) (b : Text) :
    ofSelector (a ++ c :: b) = ofSelector a + ofSelector b := by
  simp only [List.mem_cons, List.not_mem_nil, or_false, not_or] at hsign
  obtain ⟨hhyphen, hunderscore, hhash, hdot, hcolon, hopen, hclose, hparen, hclosing⟩ := hsign
  have hname : ¬ isNameChar c := by
    simp [isNameChar, hletter, hhyphen, hunderscore, Char.not_le.2 hascii]
  have hmark : ¬ isMark c := by
    rw [Bool.not_eq_true, isMark_eq_false]
    exact ⟨hopen, hclose, hparen, hclosing, hhash, hdot, hcolon⟩
  exact score_append_parting hname hmark ha none b

theorem ofSelector_append_combinator_descendant :
    let a := "li:nth-child(2n+1)::before.".toList
    let b := "p[title".toList
    (outside.after a = outside ∧ ' ' < '\u0080' ∧ ¬ ' '.isAlphanum ∧
        ' ' ∉ ['-', '_', '#', '.', ':', '[', ']', '(', ')']) ∧
      ofSelector (a ++ ' ' :: b) = ofSelector a + ofSelector b ∧
      ofSelector (a ++ ' ' :: b) = ⟨0, 2, 2⟩ := by
  intro a b
  have ha : outside.after a = outside := by decide +kernel
  have hascii : ' ' < '\u0080' := by decide
  have hletter : ¬ ' '.isAlphanum := by decide
  have hsign : ' ' ∉ ['-', '_', '#', '.', ':', '[', ']', '(', ')'] := by decide
  exact ⟨⟨ha, hascii, hletter, hsign⟩, ofSelector_append_combinator ha hascii hletter hsign b, by decide +kernel⟩

end CssSurvey.Specificity
