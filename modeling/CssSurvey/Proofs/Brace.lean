/-
Balanced braces. Text without braces changes no count of open blocks, and the brace that closes a
block is found right after a body that is balanced in itself.
-/
import CssSurvey.Brace
import Mathlib.Tactic.Common

namespace CssSurvey

/-- No brace of either kind stands in a text. -/
def BraceFree (text : Text) : Prop := ∀ c ∈ text, isBrace c = false

instance : DecidablePred BraceFree := fun text => List.decidableBAll (isBrace · = false) text

theorem isBrace_eq_false {c : Char} : isBrace c = false ↔ c ≠ '{' ∧ c ≠ '}' := by
  simp [isBrace]

theorem braceFree_nil : BraceFree [] := by decide

theorem braceFree_append {a b : Text} : BraceFree (a ++ b) ↔ BraceFree a ∧ BraceFree b :=
  List.forall_mem_append

theorem braceFree_cons {c : Char} {text : Text} :
    BraceFree (c :: text) ↔ isBrace c = false ∧ BraceFree text :=
  List.forall_mem_cons

theorem BraceFree.of_isInfix {a b : Text} (h : BraceFree b) (hab : a <:+: b) : BraceFree a :=
  fun c hc => h c (hab.subset hc)

theorem BraceFree.reverse {text : Text} (h : BraceFree text) : BraceFree text.reverse := fun c hc =>
  h c (List.mem_reverse.1 hc)

theorem BraceFree.not_mem {text : Text} (h : BraceFree text) {c : Char} (hc : isBrace c) : c ∉ text :=
  fun hmem => absurd hc (by simp [h c hmem])

theorem braceFree_filter (text : Text) : BraceFree (text.filter (!isBrace ·)) := fun c hc => by
  simpa using (List.mem_filter.1 hc).2

theorem closesAll_append_of_braceFree {a : Text} (h : BraceFree a) (depth : Nat) (b : Text) :
    closesAll depth (a ++ b) = closesAll depth b := by
  induction a with
  | nil => rfl
  | cons c a ih =>
    obtain ⟨hc, ha⟩ := braceFree_cons.1 h
    obtain ⟨hopen, hclose⟩ := isBrace_eq_false.1 hc
    rw [List.cons_append, closesAll, if_neg hopen, if_neg hclose, ih ha]

theorem closesAll_of_braceFree {a : Text} (h : BraceFree a) (depth : Nat) :
    closesAll depth a = decide (depth = 0) := by
  have := closesAll_append_of_braceFree h depth []
  rwa [List.append_nil] at this

/-- The prefixes of a text are the empty one and those of its tail, with its first character. -/
theorem forall_prefix_cons {p : Text → Prop} {c : Char} {text : Text} :
    (∀ front, front <+: c :: text → p front) ↔ p [] ∧ ∀ front, front <+: text → p (c :: front) := by
  constructor
  · exact fun h => ⟨h [] List.nil_prefix, fun front hfront => h _ (List.cons_prefix_cons.2 ⟨rfl, hfront⟩)⟩
  · rintro ⟨hnil, hcons⟩ front hfront
    rcases List.prefix_cons_iff.1 hfront with rfl | ⟨rest, rfl, hrest⟩
    · exact hnil
    · exact hcons rest hrest

/-- A text closes all that is open when nowhere in it more braces have been closed than opened, and at
its end none is left open. -/
theorem closesAll_iff {depth : Nat} {text : Text} :
    closesAll depth text ↔
      (∀ front, front <+: text → front.count '}' ≤ depth + front.count '{') ∧
        depth + text.count '{' = text.count '}' := by
  induction text generalizing depth with
  | nil => simp [closesAll]
  | cons c text ih =>
    rw [forall_prefix_cons, closesAll]
    split
    · rename_i hopen
      subst hopen
      have hcount : ∀ text : Text, ('{' :: text).count '{' = text.count '{' + 1 ∧
          ('{' :: text).count '}' = text.count '}' := fun text =>
        ⟨List.count_cons_self, List.count_cons_of_ne (by decide)⟩
      simp only [ih, hcount]
      constructor
      · rintro ⟨hfronts, hend⟩
        refine ⟨⟨by simp, fun front hfront => ?_⟩, by omega⟩
        have := hfronts front hfront
        omega
      · rintro ⟨⟨-, hfronts⟩, hend⟩
        refine ⟨fun front hfront => ?_, by omega⟩
        have := hfronts front hfront
        omega
    · rename_i hopen
      split
      · rename_i hclose
        subst hclose
        have hcount : ∀ text : Text, ('}' :: text).count '{' = text.count '{' ∧
            ('}' :: text).count '}' = text.count '}' + 1 := fun text =>
          ⟨List.count_cons_of_ne (by decide), List.count_cons_self⟩
        rw [Bool.and_eq_true, decide_eq_true_eq]
        simp only [ih, hcount]
        constructor
        · rintro ⟨hpos, hfronts, hend⟩
          refine ⟨⟨by simp, fun front hfront => ?_⟩, by omega⟩
          have := hfronts front hfront
          omega
        · rintro ⟨⟨-, hfronts⟩, hend⟩
          -- The brace itself is a prefix, so it closes one that is open before it.
          have hpos : 1 ≤ depth := by simpa using hfronts [] List.nil_prefix
          refine ⟨hpos, fun front hfront => ?_, by omega⟩
          have := hfronts front hfront
          omega
      · rename_i hclose
        have hcount : ∀ text : Text, (c :: text).count '{' = text.count '{' ∧
            (c :: text).count '}' = text.count '}' := fun text =>
          ⟨List.count_cons_of_ne hopen, List.count_cons_of_ne hclose⟩
        simp only [ih, hcount]
        exact and_congr_left fun _ => (and_iff_right (by simp)).symm

/-- A balanced text has no closing brace in front of its first opening one. -/
theorem braceFree_of_closesAll_append {a b : Text} (hopen : '{' ∉ a) (h : closesAll 0 (a ++ b)) :
    BraceFree a := by
  induction a with
  | nil => exact braceFree_nil
  | cons c a ih =>
    obtain ⟨hc, ha⟩ := List.ne_and_not_mem_of_not_mem_cons hopen
    rw [List.cons_append, closesAll, if_neg hc.symm] at h
    by_cases hclose : c = '}'
    · rw [if_pos hclose] at h
      cases h
    · rw [if_neg hclose] at h
      exact braceFree_cons.2 ⟨isBrace_eq_false.2 ⟨hc.symm, hclose⟩, ih ha h⟩

/-! ## What an opened block encloses -/

/-- What stands before the mark that closes the innermost block, where `depth` more blocks have been opened
since; all of the text when no such mark comes. -/
def enclosed (opening closing : Char) : Nat → Text → Text
  | _, [] => []
  | depth, c :: rest =>
    if c = closing ∧ depth = 0 then []
    else c :: enclosed opening closing
      (if c = opening then depth + 1 else if c = closing then depth - 1 else depth) rest

section Enclosed

variable {opening closing : Char} (hne : opening ≠ closing)
include hne

/-- One character changes the depth by as much as it opens or closes. -/
theorem depth_add_count {depth : Nat} {c : Char} (h : ¬ (c = closing ∧ depth = 0)) :
    (if c = opening then depth + 1 else if c = closing then depth - 1 else depth) + [c].count closing =
      depth + [c].count opening := by
  by_cases hopen : c = opening
  · subst hopen
    simp [hne]
  · by_cases hclose : c = closing
    · subst hclose
      have hpos : depth ≠ 0 := fun hdepth => h ⟨rfl, hdepth⟩
      simp [hopen]
      omega
    · simp [hopen, hclose]

/-- Nowhere in what is enclosed more has been closed than was open before it or was opened in it. It ends
where the text ends, or where one more is closed. -/
theorem enclosed_spec (depth : Nat) (text : Text) :
    (∀ front, front <+: enclosed opening closing depth text →
        front.count closing ≤ depth + front.count opening) ∧
      (enclosed opening closing depth text = text ∨
        (enclosed opening closing depth text).count closing =
            depth + (enclosed opening closing depth text).count opening ∧
          ∃ after, text = enclosed opening closing depth text ++ closing :: after) := by
  induction text generalizing depth with
  | nil => simp [enclosed]
  | cons c text ih =>
    rw [enclosed]
    split
    · rename_i hend
      obtain ⟨rfl, rfl⟩ := hend
      refine ⟨fun front hfront => ?_, .inr ⟨rfl, text, rfl⟩⟩
      rw [List.prefix_nil.1 hfront]
      exact Nat.zero_le _
    · rename_i hgo
      have hstep := depth_add_count hne hgo
      have hcount : ∀ (mark : Char) (text : Text), (c :: text).count mark = [c].count mark + text.count mark :=
        fun mark text => by rw [← List.singleton_append, List.count_append]
      obtain ⟨hopened, hends⟩ := ih (if c = opening then depth + 1 else if c = closing then depth - 1 else depth)
      rw [forall_prefix_cons]
      refine ⟨⟨Nat.zero_le _, fun front hfront => ?_⟩, ?_⟩
      · have := hopened front hfront
        rw [hcount closing front, hcount opening front]
        omega
      · rcases hends with hend | ⟨hbalanced, after, hafter⟩
        · exact .inl (congrArg (c :: ·) hend)
        · refine .inr ⟨?_, after, congrArg (c :: ·) hafter⟩
          rw [hcount closing (enclosed _ _ _ text), hcount opening (enclosed _ _ _ text)]
          omega

end Enclosed

theorem fst_cutAtClose (depth : Nat) (text : Text) : (cutAtClose depth text).1 = enclosed '{' '}' depth text := by
  induction text generalizing depth with
  | nil => rfl
  | cons c text ih =>
    rw [cutAtClose, enclosed]
    split
    · rfl
    · exact congrArg (c :: ·) (ih _)

/-- What is cut closes nowhere more than is open before it and in it. -/
theorem count_le_of_prefix_cutAtClose {depth : Nat} {text front : Text} (h : front <+: (cutAtClose depth text).1) :
    front.count '}' ≤ depth + front.count '{' :=
  (enclosed_spec (by decide) depth text).1 front (fst_cutAtClose depth text ▸ h)

/-- What is cut in front of a closing brace closes all but the block that this brace closes. -/
theorem eq_of_cutAtClose_some {depth : Nat} {text body rest : Text} (h : cutAtClose depth text = (body, some rest)) :
    text = body ++ '}' :: rest ∧ body.count '}' = depth + body.count '{' := by
  have happend := cutAtClose_append depth text
  have hbody := fst_cutAtClose depth text
  rw [h] at happend hbody
  refine ⟨happend.symm, ?_⟩
  rcases (enclosed_spec (show '{' ≠ '}' by decide) depth text).2 with hall | ⟨hbalanced, -⟩
  · rw [← hbody, ← happend] at hall
    simp at hall
  · rwa [← hbody] at hbalanced

/-- A body that closes all it opens ends at the next closing brace. -/
theorem cutAtClose_append_close {depth : Nat} {body : Text} (h : closesAll depth body) (rest : Text) :
    cutAtClose depth (body ++ '}' :: rest) = (body, some rest) := by
  induction body generalizing depth with
  | nil =>
    have hdepth : depth = 0 := by simpa [closesAll] using h
    simp [cutAtClose, hdepth]
  | cons c body ih =>
    rw [closesAll] at h
    rw [List.cons_append, cutAtClose]
    split at h
    · rename_i hopen
      simp [hopen, ih h]
    · split at h
      · rename_i hclose
        rw [Bool.and_eq_true, decide_eq_true_eq] at h
        have hdepth : depth ≠ 0 := by omega
        simp [hdepth, hclose, ih h.2]
      · rename_i hopen hclose
        simp [hopen, hclose, ih h]

/-! ## The counter of open blocks -/

/-- The search for the brace that closes a block, which starts at the brace that opens it and counts the
blocks that are open. It fails where the count would fall below zero. -/
def matchBrace? : Nat → Text → Option (Text × Option Text)
  | _, [] => some ([], none)
  | depth, c :: rest =>
    let onward (depth : Nat) := (matchBrace? depth rest).map fun (before, after) => (c :: before, after)
    if c = '{' then onward (depth + 1)
    else if c = '}' then
      if depth = 0 then none
      else if depth - 1 = 0 then some ([], some rest)
      else onward (depth - 1)
    else onward depth

/-- With a block open the count stays above zero until that block is closed. -/
theorem matchBrace?_succ (depth : Nat) (text : Text) :
    matchBrace? (depth + 1) text = some (cutAtClose depth text) := by
  induction text generalizing depth with
  | nil => rfl
  | cons c text ih =>
    rw [matchBrace?, cutAtClose]
    by_cases hopen : c = '{'
    · subst hopen
      simp [ih]
    · by_cases hclose : c = '}'
      · subst hclose
        cases depth with
        | zero => simp
        | succ depth => simp [ih]
      · simp [hopen, hclose, ih]

/-- The count never falls below zero, and the brace that is found is the one where the block is cut. -/
theorem matchBrace?_open (rest : Text) :
    matchBrace? 0 ('{' :: rest) = some ('{' :: (cutAtClose 0 rest).1, (cutAtClose 0 rest).2) := by
  simp only [matchBrace?, if_pos, matchBrace?_succ, Option.map_some]

end CssSurvey
