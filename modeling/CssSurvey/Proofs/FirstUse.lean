/-
Lists without repeats, in order of first use. Of each entry of a list `eraseDups` keeps the first; what
a second list adds to a first is what it has and the first has not, and so it does not matter whether
the parts of a list are rid of their repeats before they are put together. What is kept stands in the
order in which it was first used.
-/
import Mathlib.Data.List.Basic

namespace CssSurvey

variable {α β : Type} [BEq β] [LawfulBEq β]

theorem eraseDups_filter (p : β → Bool) : ∀ l : List β, (l.filter p).eraseDups = l.eraseDups.filter p
  | [] => rfl
  | b :: l => by
    -- `eraseDups` recurses on the rest without `b`, which is no longer than the rest.
    have hshort : (l.filter fun c => !c == b).length < l.length + 1 :=
      Nat.lt_succ_of_le (List.length_filter_le _ _)
    have hrest := eraseDups_filter p (l.filter fun c => !c == b)
    rw [List.filter_filter] at hrest
    rw [List.eraseDups_cons, List.filter_cons, List.filter_cons, ← hrest]
    cases hp : p b with
    | true =>
      rw [if_pos rfl, if_pos rfl, List.eraseDups_cons, List.filter_filter]
      simp only [Bool.and_comm]
    | false =>
      rw [if_neg Bool.false_ne_true, if_neg Bool.false_ne_true]
      refine congrArg List.eraseDups (List.filter_congr fun c _ => ?_)
      by_cases hc : c = b
      · rw [hc, hp, Bool.false_and]
      · simp [hc]
termination_by l => l.length

/-- What a second list adds is what it has and the first has not. -/
theorem eraseDups_append_filter (a b : List β) :
    (a ++ b).eraseDups = a.eraseDups ++ b.eraseDups.filter (!a.elem ·) := by
  rw [List.eraseDups_append, List.removeAll, eraseDups_filter]

/-- Of an entry only its first use is kept. -/
theorem eraseDups_cons_filter (b : β) (l : List β) :
    (b :: l).eraseDups = b :: l.eraseDups.filter fun c => !c == b := by
  rw [List.eraseDups_cons, eraseDups_filter]

@[simp] theorem eraseDups_eraseDups (l : List β) : l.eraseDups.eraseDups = l.eraseDups := by
  induction l with
  | nil => rfl
  | cons b l ih =>
    rw [eraseDups_cons_filter, List.eraseDups_cons, List.filter_filter, eraseDups_filter, ih]
    simp only [Bool.and_self]

/-- The parts of a list may be rid of their repeats before they are put together. -/
theorem eraseDups_flatMap_eraseDups (f : α → List β) (l : List α) :
    (l.flatMap fun a => (f a).eraseDups).eraseDups = (l.flatMap f).eraseDups := by
  induction l with
  | nil => rfl
  | cons a l ih =>
    have helem : ∀ b, (f a).eraseDups.elem b = (f a).elem b := by
      intro b
      rw [Bool.eq_iff_iff, List.elem_iff, List.elem_iff, List.mem_eraseDups]
    rw [List.flatMap_cons, List.flatMap_cons, eraseDups_append_filter, eraseDups_append_filter, ih,
      eraseDups_eraseDups]
    simp only [helem]

/-- Nor does it matter whether the list of the parts has repeats. -/
theorem eraseDups_flatMap {γ : Type} [BEq γ] [LawfulBEq γ] (f : β → List γ) (l : List β) :
    (l.eraseDups.flatMap f).eraseDups = (l.flatMap f).eraseDups := by
  induction l with
  | nil => rfl
  | cons b l ih =>
    -- Once `f b` has been put in, a later `b` adds nothing to it.
    have hagain : ∀ others : List β, ((others.filter fun c => !c == b).flatMap f).filter (!(f b).elem ·) =
        (others.flatMap f).filter (!(f b).elem ·) := by
      intro others
      induction others with
      | nil => rfl
      | cons c others ih =>
        rw [List.filter_cons, List.flatMap_cons, List.filter_append, ← ih]
        by_cases hc : c = b
        · subst hc
          have hnone : (f c).filter (!(f c).elem ·) = [] := by simp
          rw [hnone, List.nil_append, if_neg (by simp)]
        · rw [if_pos (by simpa using hc), List.flatMap_cons, List.filter_append]
    have hrest := congrArg List.eraseDups (hagain l.eraseDups)
    rw [eraseDups_filter, eraseDups_filter, ih] at hrest
    rw [eraseDups_cons_filter, List.flatMap_cons, List.flatMap_cons, eraseDups_append_filter,
      eraseDups_append_filter, hrest]

/-! ## Order -/

theorem eraseDups_sublist (l : List β) : l.eraseDups.Sublist l := by
  induction l with
  | nil => exact .slnil
  | cons b l ih =>
    rw [eraseDups_cons_filter]
    exact (List.filter_sublist.trans ih).cons_cons b

/-- Entries stand in the order of their first use. -/
theorem pairwise_idxOf_eraseDups (l : List β) : l.eraseDups.Pairwise (l.idxOf · < l.idxOf ·) := by
  induction l with
  | nil => exact .nil
  | cons b l ih =>
    have hlater : ∀ c ∈ l.eraseDups.filter (fun c => !c == b), (b :: l).idxOf c = l.idxOf c + 1 := by
      intro c hc
      have hne : c ≠ b := by simpa using (List.mem_filter.1 hc).2
      exact List.idxOf_cons_ne l hne.symm
    rw [eraseDups_cons_filter, List.pairwise_cons]
    constructor
    · intro c hc
      rw [List.idxOf_cons_self, hlater c hc]
      exact Nat.succ_pos _
    · refine (ih.filter _).imp_of_mem fun hc hd hlt => ?_
      rw [hlater _ hc, hlater _ hd]
      exact Nat.succ_lt_succ hlt

theorem nodup_eraseDups (l : List β) : l.eraseDups.Nodup := by
  refine (pairwise_idxOf_eraseDups l).imp ?_
  rintro b _ hlt rfl
  exact Nat.lt_irrefl _ hlt

/-- Two lists in one order with the same entries differ in their repeats only. -/
theorem eraseDups_eq_of_pairwise {r : β → β → Prop} (hr : ∀ b c, r b c → r c b → b = c) {l m : List β}
    (hl : l.Pairwise r) (hm : m.Pairwise r) (h : ∀ b, b ∈ l ↔ b ∈ m) : l.eraseDups = m.eraseDups := by
  have hperm : l.eraseDups.Perm m.eraseDups := by
    rw [List.perm_ext_iff_of_nodup (nodup_eraseDups l) (nodup_eraseDups m)]
    intro b
    rw [List.mem_eraseDups, List.mem_eraseDups, h]
  exact hperm.eq_of_pairwise (fun b c _ _ => hr b c) (hl.sublist (eraseDups_sublist l))
    (hm.sublist (eraseDups_sublist m))

end CssSurvey
