/-
Uses of keys, collected one after the other. The keys of what is collected ascend and each is used, so
the collection is told by its members alone; and under a key stand exactly the names that use it, one
for each use and in the order of the uses. Sorted names are told by how often each of them stands there.
-/
import CssSurvey.Uses
import Mathlib.Data.List.Sort

namespace CssSurvey

/-! ## Names in order -/

namespace Text

theorem le_iff {a b : Text} : le a b ↔ ¬ b < a := by
  rw [le, Bool.not_eq_true', decide_eq_false_iff_not]

theorem eq_of_not_lt {a b : Text} (hab : ¬ a < b) (hba : ¬ b < a) : a = b :=
  List.le_antisymm (List.not_lt.1 hba) (List.not_lt.1 hab)

theorem lt_of_not_lt {a b : Text} (hne : a ≠ b) (h : ¬ a < b) : b < a := by
  by_contra hba
  exact hne (eq_of_not_lt h hba)

theorem le_trans (a b c : Text) (hab : le a b) (hbc : le b c) : le a c := by
  rw [le_iff] at *
  intro hca
  by_cases heq : b = a
  · exact hbc (heq ▸ hca)
  · exact hbc (List.lt_trans hca (lt_of_not_lt heq hab))

theorem le_total (a b : Text) : le a b || le b a := by
  rw [Bool.or_eq_true, le_iff, le_iff]
  by_cases h : b < a
  · exact .inr fun hab => List.lt_irrefl a (List.lt_trans hab h)
  · exact .inl h

theorem pairwise_mergeSort (names : List Text) : (names.mergeSort le).Pairwise (le · ·) :=
  List.pairwise_mergeSort le_trans le_total names

/-- The order in which names are sorted does not depend on the order in which they stood. -/
theorem mergeSort_eq_of_perm {a b : List Text} (h : a.Perm b) : a.mergeSort le = b.mergeSort le := by
  have hperm : (a.mergeSort le).Perm (b.mergeSort le) :=
    (List.mergeSort_perm a le).trans (h.trans (List.mergeSort_perm b le).symm)
  refine hperm.eq_of_pairwise (fun _ _ _ _ hab hba => ?_) (pairwise_mergeSort a) (pairwise_mergeSort b)
  exact eq_of_not_lt (le_iff.1 hba) (le_iff.1 hab)

end Text

namespace Uses

/-- The names that use a key; none, when there is no such key. -/
def names (uses : Uses) (key : Text) : List Text := (uses.lookup key).getD []

/-- The names that stand beside a key in a list of uses. -/
def namesBeside (key : Text) (uses : List (Text × Text)) : List Text :=
  (uses.filter (·.1 = key)).map Prod.snd

/-- The keys ascend, and each of them is used. -/
structure WellFormed (uses : Uses) : Prop where
  ascending : uses.Pairwise (·.1 < ·.1)
  used : ∀ entry ∈ uses, entry.2 ≠ []

theorem wellFormed_nil : WellFormed [] := ⟨.nil, nofun⟩

theorem names_cons (entry : Text × List Text) (uses : Uses) (key : Text) :
    names (entry :: uses) key = if key = entry.1 then entry.2 else uses.names key := by
  rw [names, List.lookup_cons]
  by_cases h : key = entry.1
  · simp [h]
  · rw [beq_eq_false_iff_ne.2 h, if_neg h]
    rfl

theorem WellFormed.of_cons {entry : Text × List Text} {uses : Uses} (h : WellFormed (entry :: uses)) :
    WellFormed uses :=
  ⟨h.ascending.of_cons, fun other hother => h.used other (List.mem_cons_of_mem _ hother)⟩

/-- A key before all others is not among them. -/
theorem names_eq_nil {uses : Uses} {key : Text} (h : ∀ entry ∈ uses, key < entry.1) : uses.names key = [] := by
  induction uses with
  | nil => rfl
  | cons entry uses ih =>
    obtain ⟨hentry, huses⟩ := List.forall_mem_cons.1 h
    have hne : key ≠ entry.1 := fun heq => List.lt_irrefl _ (heq ▸ hentry)
    rw [names_cons, if_neg hne, ih huses]

/-- The members of a collection are the keys that are used, each with its names. -/
theorem WellFormed.mem_iff {uses : Uses} (h : WellFormed uses) {key : Text} {found : List Text} :
    (key, found) ∈ uses ↔ found ≠ [] ∧ uses.names key = found := by
  induction uses with
  | nil =>
    refine ⟨nofun, ?_⟩
    rintro ⟨hne, rfl⟩
    exact absurd rfl hne
  | cons entry uses ih =>
    obtain ⟨first, firstNames⟩ := entry
    have hafter : ∀ entry ∈ uses, first < entry.1 := fun _ => List.rel_of_pairwise_cons h.ascending
    have hused : firstNames ≠ [] := h.used (first, firstNames) (List.mem_cons_self ..)
    rw [List.mem_cons, ih h.of_cons, names_cons]
    by_cases hkey : key = first
    · subst hkey
      have hnone : names uses key = [] := names_eq_nil hafter
      rw [if_pos rfl, hnone]
      constructor
      · rintro (heq | ⟨hne, rfl⟩)
        · cases heq
          exact ⟨hused, rfl⟩
        · exact absurd rfl hne
      · rintro ⟨-, rfl⟩
        exact .inl rfl
    · rw [if_neg hkey]
      simp [hkey]

/-! ## One more use -/

theorem exists_of_mem_add {uses : Uses} {key name : Text} {entry : Text × List Text}
    (h : entry ∈ uses.add key name) : entry.1 = key ∨ entry ∈ uses := by
  induction uses with
  | nil => exact .inl (congrArg Prod.fst (List.mem_singleton.1 h))
  | cons other uses ih =>
    obtain ⟨otherKey, found⟩ := other
    rw [add] at h
    split at h
    · rename_i heq
      rcases List.mem_cons.1 h with rfl | h
      · exact .inl heq.symm
      · exact .inr (List.mem_cons_of_mem _ h)
    · split at h
      · rcases List.mem_cons.1 h with rfl | h
        · exact .inl rfl
        · exact .inr h
      · rcases List.mem_cons.1 h with rfl | h
        · exact .inr (List.mem_cons_self ..)
        · exact (ih h).imp_right (List.mem_cons_of_mem _)

theorem WellFormed.add {uses : Uses} (h : WellFormed uses) (key name : Text) :
    WellFormed (uses.add key name) := by
  induction uses with
  | nil => exact ⟨List.pairwise_singleton .., by simp [Uses.add]⟩
  | cons entry uses ih =>
    obtain ⟨other, found⟩ := entry
    have hafter : ∀ entry ∈ uses, other < entry.1 := fun _ => List.rel_of_pairwise_cons h.ascending
    have hused := List.forall_mem_cons.1 h.used
    rw [Uses.add]
    split
    · exact ⟨List.pairwise_cons.2 ⟨hafter, h.ascending.of_cons⟩,
        List.forall_mem_cons.2 ⟨by simp, hused.2⟩⟩
    · rename_i hne
      split
      · rename_i hlt
        refine ⟨List.pairwise_cons.2 ⟨?_, h.ascending⟩, List.forall_mem_cons.2 ⟨by simp, h.used⟩⟩
        exact List.forall_mem_cons.2 ⟨hlt, fun entry hentry => List.lt_trans hlt (hafter entry hentry)⟩
      · rename_i hnlt
        have hrest := ih h.of_cons
        refine ⟨List.pairwise_cons.2 ⟨fun entry hentry => ?_, hrest.ascending⟩,
          List.forall_mem_cons.2 ⟨hused.1, hrest.used⟩⟩
        rcases exists_of_mem_add hentry with hkey | hentry
        · rw [hkey]
          exact Text.lt_of_not_lt hne hnlt
        · exact hafter entry hentry

/-- One more use adds a name at the end under its key, and changes nothing under any other. -/
theorem names_add {uses : Uses} (h : WellFormed uses) (key name other : Text) :
    (uses.add key name).names other = uses.names other ++ if key = other then [name] else [] := by
  induction uses with
  | nil =>
    rw [add, names_cons]
    by_cases heq : key = other
    · simp [names, heq]
    · simp [names, heq, Ne.symm heq]
  | cons entry uses ih =>
    obtain ⟨first, found⟩ := entry
    have hafter : ∀ entry ∈ uses, first < entry.1 := fun _ => List.rel_of_pairwise_cons h.ascending
    rw [add]
    split
    · rename_i hfirst
      subst hfirst
      rw [names_cons, names_cons]
      by_cases heq : key = other
      · simp [heq]
      · simp [heq, Ne.symm heq]
    · rename_i hne
      split
      · rename_i hlt
        have hnone : names ((first, found) :: uses) key = [] := names_eq_nil <|
          List.forall_mem_cons.2 ⟨hlt, fun entry hentry => List.lt_trans hlt (hafter entry hentry)⟩
        rw [names_cons]
        by_cases heq : key = other
        · subst heq
          rw [hnone, if_pos rfl]
          rfl
        · rw [if_neg (Ne.symm heq), if_neg heq, List.append_nil]
      · rw [names_cons, names_cons, ih h.of_cons]
        by_cases heq : other = first
        · subst heq
          rw [if_pos rfl, if_pos rfl, if_neg hne, List.append_nil]
        · rw [if_neg heq, if_neg heq]

/-! ## All uses -/

theorem namesBeside_cons (key : Text) (use : Text × Text) (uses : List (Text × Text)) :
    namesBeside key (use :: uses) = (if use.1 = key then [use.2] else []) ++ namesBeside key uses := by
  rw [namesBeside, List.filter_cons]
  by_cases h : use.1 = key <;> simp [h, namesBeside]

theorem namesBeside_append (key : Text) (a b : List (Text × Text)) :
    namesBeside key (a ++ b) = namesBeside key a ++ namesBeside key b := by
  rw [namesBeside, List.filter_append, List.map_append, ← namesBeside, ← namesBeside]

theorem length_namesBeside (key : Text) (uses : List (Text × Text)) :
    (namesBeside key uses).length = (uses.map Prod.fst).count key := by
  rw [namesBeside, List.length_map, ← List.countP_eq_length_filter, List.count, List.countP_map]
  exact List.countP_congr fun use _ => by simp

/-- Collecting keeps the collection well formed, and adds under a key the names beside it, in order. -/
theorem WellFormed.foldl_add {found : Uses} (h : WellFormed found) (uses : List (Text × Text)) :
    let all := uses.foldl (fun found (key, name) => found.add key name) found
    WellFormed all ∧ ∀ key, all.names key = found.names key ++ namesBeside key uses := by
  induction uses generalizing found with
  | nil => exact ⟨h, fun key => (List.append_nil _).symm⟩
  | cons use uses ih =>
    obtain ⟨hall, hnames⟩ := ih (h.add use.1 use.2)
    refine ⟨hall, fun key => (hnames key).trans ?_⟩
    rw [names_add h, namesBeside_cons, List.append_assoc]

theorem wellFormed_ofList (uses : List (Text × Text)) : WellFormed (ofList uses) :=
  (wellFormed_nil.foldl_add uses).1

theorem mem_ofList_iff {uses : List (Text × Text)} {key : Text} {found : List Text} :
    (key, found) ∈ ofList uses ↔ found ≠ [] ∧ namesBeside key uses = found := by
  have hnames : (ofList uses).names key = namesBeside key uses := (wellFormed_nil.foldl_add uses).2 key
  rw [(wellFormed_ofList uses).mem_iff, hnames]

/-! ## Repeated keys -/

theorem ascending_repeated {uses : Uses} (h : WellFormed uses) : uses.repeated.Pairwise (·.1 < ·.1) :=
  h.ascending.filter _

/-- A key is repeated when two uses of it are in the list. -/
theorem mem_repeated_ofList_iff {uses : List (Text × Text)} {key : Text} {found : List Text} :
    (key, found) ∈ (ofList uses).repeated ↔ 1 < found.length ∧ namesBeside key uses = found := by
  rw [repeated, List.mem_filter, mem_ofList_iff, decide_eq_true_eq]
  constructor
  · rintro ⟨⟨-, hnames⟩, htwo⟩
    exact ⟨htwo, hnames⟩
  · rintro ⟨htwo, hnames⟩
    exact ⟨⟨List.ne_nil_of_length_pos (by omega), hnames⟩, htwo⟩

theorem ascending_sortNames {uses : Uses} (h : uses.Pairwise (·.1 < ·.1)) :
    uses.sortNames.Pairwise (·.1 < ·.1) :=
  List.pairwise_map.2 h

theorem mem_sortNames_iff {uses : Uses} {key : Text} {sorted : List Text} :
    (key, sorted) ∈ uses.sortNames ↔ ∃ found, (key, found) ∈ uses ∧ found.mergeSort Text.le = sorted := by
  rw [sortNames, List.mem_map]
  constructor
  · rintro ⟨⟨key', found⟩, hmem, heq⟩
    cases heq
    exact ⟨found, hmem, rfl⟩
  · rintro ⟨found, hmem, rfl⟩
    exact ⟨(key, found), hmem, rfl⟩

/-- Collections with ascending keys are equal when they have the same members. -/
theorem eq_of_mem_iff {a b : Uses} (ha : a.Pairwise (·.1 < ·.1)) (hb : b.Pairwise (·.1 < ·.1))
    (h : ∀ key found, (key, found) ∈ a ↔ (key, found) ∈ b) : a = b := by
  have hirrefl : Std.Irrefl fun a b : Text × List Text => a.1 < b.1 := ⟨fun entry => List.lt_irrefl entry.1⟩
  have hantisymm : Std.Antisymm fun a b : Text × List Text => a.1 < b.1 :=
    ⟨fun a b hab hba => absurd (List.lt_trans hab hba) (List.lt_irrefl a.1)⟩
  exact ha.eq_of_mem_iff hb fun entry => h entry.1 entry.2

/-- What keys a collection has is told by which keys are in it. -/
theorem keys_eq_of_mem_iff {a b : Uses} (ha : a.Pairwise (·.1 < ·.1)) (hb : b.Pairwise (·.1 < ·.1))
    (h : ∀ key, key ∈ a.map Prod.fst ↔ key ∈ b.map Prod.fst) : a.map Prod.fst = b.map Prod.fst := by
  have hirrefl : Std.Irrefl fun a b : Text => a < b := ⟨List.lt_irrefl⟩
  have hantisymm : Std.Antisymm fun a b : Text => a < b :=
    ⟨fun a b hab hba => absurd (List.lt_trans hab hba) (List.lt_irrefl a)⟩
  exact (List.pairwise_map.2 ha).eq_of_mem_iff (List.pairwise_map.2 hb) h

end Uses

end CssSurvey
