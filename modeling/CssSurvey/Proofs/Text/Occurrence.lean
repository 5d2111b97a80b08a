/-
Words of a kind in a text, and searches for them. A reader finds something at the start of a text and
hands on what follows. Read from every place of a text it finds all there is. A search goes on behind
whatever it finds, and so may pass over what starts inside of that: it loses nothing when whatever else
starts there could stand for what was found.
-/
import CssSurvey.Text.Basic
import Mathlib.Data.List.Infix
import Mathlib.Data.List.Nodup

namespace CssSurvey.Text

/-! ## Occurrences -/

section Occurrences

variable {p : Text → Prop} [DecidablePred p] {β : Type}

/-- The occurrences in a text of words of a kind, in the order in which they start: each word with what
follows it. -/
def occurrences (p : Text → Prop) [DecidablePred p] (text : Text) : List (Text × Text) :=
  text.tails.flatMap fun tail => (tail.inits.filter p).map fun word => (word, tail.drop word.length)

theorem mem_occurrences_iff {text word rest : Text} :
    (word, rest) ∈ occurrences p text ↔ p word ∧ ∃ before, text = before ++ (word ++ rest) := by
  unfold occurrences
  rw [List.mem_flatMap]
  constructor
  · rintro ⟨tail, htail, hmem⟩
    obtain ⟨found, hfound, hpair⟩ := List.mem_map.1 hmem
    obtain ⟨rfl, rfl⟩ := Prod.mk.inj hpair
    obtain ⟨hstart, hp⟩ := List.mem_filter.1 hfound
    obtain ⟨after, rfl⟩ := (List.mem_inits _ _).1 hstart
    obtain ⟨before, rfl⟩ := (List.mem_tails _ _).1 htail
    rw [List.drop_left]
    exact ⟨of_decide_eq_true hp, before, rfl⟩
  · rintro ⟨hp, before, rfl⟩
    refine ⟨word ++ rest, (List.mem_tails _ _).2 (List.suffix_append _ _), List.mem_map.2 ⟨word, ?_, ?_⟩⟩
    · exact List.mem_filter.2 ⟨(List.mem_inits _ _).2 (List.prefix_append _ _), decide_eq_true hp⟩
    · rw [List.drop_left]

/-- No word of a kind is the start of another. -/
def PrefixFree (p : Text → Prop) : Prop := ∀ ⦃word other⦄, p word → p other → word <+: other → word = other

theorem nodup_inits (text : Text) : text.inits.Nodup := by
  induction text with
  | nil => exact List.nodup_singleton _
  | cons c text ih =>
    rw [List.inits_cons, List.nodup_cons]
    refine ⟨fun hmem => ?_, ih.map List.cons_injective⟩
    obtain ⟨_, -, hcons⟩ := List.mem_map.1 hmem
    cases hcons

theorem filter_inits (hp : PrefixFree p) {word : Text} (hword : p word) (rest : Text) :
    (word ++ rest).inits.filter p = [word] := by
  have hmem : word ∈ (word ++ rest).inits := (List.mem_inits _ _).2 (List.prefix_append _ _)
  have honly : ∀ front ∈ (word ++ rest).inits, decide (p front) = (front == word) := by
    intro front hfront
    rw [Bool.eq_iff_iff, decide_eq_true_iff, beq_iff_eq]
    constructor
    · intro hother
      rcases List.prefix_or_prefix_of_prefix ((List.mem_inits _ _).1 hfront) (List.prefix_append word rest) with
        hstart | hstart
      · exact hp hother hword hstart
      · exact (hp hword hother hstart).symm
    · rintro rfl
      exact hword
  rw [List.filter_congr honly, List.filter_beq, List.count_eq_one_of_mem (nodup_inits _) hmem,
    List.replicate_one]

/-- At each place of a text one word of a prefix-free kind is found at most, as by a function that looks
for it there. -/
theorem map_occurrences {f : Text × Text → β} {look? : Text → Option β} (hp : PrefixFree p)
    (h : ∀ text b, look? text = some b ↔ ∃ word rest, text = word ++ rest ∧ p word ∧ f (word, rest) = b)
    (text : Text) : (occurrences p text).map f = text.tails.filterMap look? := by
  rw [occurrences, List.map_flatMap, List.filterMap_eq_flatMap_toList]
  refine List.flatMap_congr fun tail _ => ?_
  cases hlook : look? tail with
  | none =>
    have hnone : tail.inits.filter p = [] := by
      rw [List.filter_eq_nil_iff]
      intro word hword hdecide
      obtain ⟨rest, rfl⟩ := (List.mem_inits _ _).1 hword
      have hsome := (h _ _).2 ⟨word, rest, rfl, of_decide_eq_true hdecide, rfl⟩
      rw [hlook] at hsome
      cases hsome
    rw [hnone]
    rfl
  | some b =>
    obtain ⟨word, rest, rfl, hword, rfl⟩ := (h tail b).1 hlook
    rw [filter_inits hp hword, List.map_singleton, List.map_singleton, List.drop_left]
    rfl

end Occurrences

theorem pairwise_tails (text : Text) : text.tails.Pairwise fun a b => b <:+ a := by
  induction text with
  | nil => exact List.pairwise_singleton _ _
  | cons c text ih =>
    rw [List.tails_cons, List.pairwise_cons]
    exact ⟨fun tail htail => ((List.mem_tails _ _).1 htail).trans (List.suffix_cons _ _), ih⟩

/-! ## Searches -/

/-- What is looked for at the start of a text. What is found is not empty, and something follows it. -/
structure Reader (α : Type) where
  read : Text → Option (α × Text)
  exists_taken : ∀ {text : Text} {found : α} {rest : Text}, read text = some (found, rest) →
    ∃ taken, taken ≠ [] ∧ text = taken ++ rest

namespace Reader

variable {α : Type} (reader : Reader α)

theorem exists_cons_of_read {text : Text} {found : α} {rest : Text}
    (h : reader.read text = some (found, rest)) : ∃ c taken, text = c :: (taken ++ rest) := by
  obtain ⟨taken, htaken, rfl⟩ := reader.exists_taken h
  obtain ⟨c, taken, rfl⟩ := List.exists_cons_of_ne_nil htaken
  exact ⟨c, taken, rfl⟩

theorem length_of_read {c : Char} {text : Text} {found : α} {rest : Text}
    (h : reader.read (c :: text) = some (found, rest)) : rest.length < text.length + 1 := by
  obtain ⟨d, taken, htext⟩ := reader.exists_cons_of_read h
  have hlength := congrArg List.length htext
  simp only [List.length_cons, List.length_append] at hlength
  omega

/-- What is found from left to right, where a search goes on behind what it has found. -/
def search : Text → List (α × Text)
  | [] => []
  | c :: text =>
    match h : reader.read (c :: text) with
    | some (found, rest) =>
      have := reader.length_of_read h
      (found, rest) :: search rest
    | none => search text
termination_by text => text.length

/-- What is found from all places of a text. -/
def all (text : Text) : List (α × Text) := text.tails.filterMap reader.read

@[simp] theorem search_nil : reader.search [] = [] := by rw [search]

theorem search_of_none {c : Char} {text : Text} (h : reader.read (c :: text) = none) :
    reader.search (c :: text) = reader.search text := by
  rw [search]
  split
  · rename_i hread
    rw [h] at hread
    cases hread
  · rfl

theorem search_of_some {text : Text} {found : α} {rest : Text} (h : reader.read text = some (found, rest)) :
    reader.search text = (found, rest) :: reader.search rest := by
  obtain ⟨c, taken, rfl⟩ := reader.exists_cons_of_read h
  rw [search]
  split
  · rename_i hread
    rw [h] at hread
    cases hread
    rfl
  · rename_i hread
    rw [h] at hread
    cases hread

/-- A search either takes what is found at a place or goes on to the next. -/
@[elab_as_elim]
theorem search_induction {motive : Text → Prop} (nil : motive [])
    (skip : ∀ c text, reader.read (c :: text) = none → motive text → motive (c :: text))
    (take : ∀ text found rest, reader.read text = some (found, rest) → motive rest → motive text)
    (text : Text) : motive text := by
  induction hlength : text.length using Nat.strong_induction_on generalizing text with
  | h length ih =>
    cases text with
    | nil => exact nil
    | cons c text =>
      subst hlength
      cases hread : reader.read (c :: text) with
      | none => exact skip c text hread (ih _ (Nat.lt_succ_self _) text rfl)
      | some result =>
        obtain ⟨found, rest⟩ := result
        exact take _ found rest hread (ih _ (reader.length_of_read hread) rest rfl)

theorem mem_all_iff {text : Text} {result : α × Text} :
    result ∈ reader.all text ↔ ∃ tail, tail <:+ text ∧ reader.read tail = some result := by
  simp only [all, List.mem_filterMap, List.mem_tails]

theorem read_nil : reader.read [] = none := by
  rw [Option.eq_none_iff_forall_ne_some]
  rintro ⟨found, rest⟩ h
  obtain ⟨c, taken, htext⟩ := reader.exists_cons_of_read h
  cases htext

theorem all_nil : reader.all [] = [] := by
  rw [all, List.tails, List.filterMap_cons_none reader.read_nil, List.filterMap_nil]

theorem all_cons (c : Char) (text : Text) :
    reader.all (c :: text) = (reader.read (c :: text)).toList ++ reader.all text := by
  rw [all, List.tails_cons, List.filterMap_cons]
  cases reader.read (c :: text) <;> rfl

theorem all_suffix (before text : Text) : reader.all text <:+ reader.all (before ++ text) := by
  induction before with
  | nil => exact List.suffix_refl _
  | cons c before ih =>
    rw [List.cons_append, all_cons]
    exact ih.trans (List.suffix_append _ _)

theorem search_sublist_all (text : Text) : (reader.search text).Sublist (reader.all text) := by
  induction text using reader.search_induction with
  | nil => rw [search_nil]; exact List.nil_sublist _
  | skip c text hread ih =>
    rw [search_of_none reader hread, all_cons, hread]
    exact ih
  | take text found rest hread ih =>
    rw [search_of_some reader hread]
    obtain ⟨c, taken, rfl⟩ := reader.exists_cons_of_read hread
    rw [all_cons, hread]
    exact (ih.trans (reader.all_suffix taken rest).sublist).cons_cons _

/-- What starts inside of what a search has found is not missed when that can stand for it. -/
theorem exists_mem_search {r : α × Text → α × Text → Prop}
    (hinside : ∀ {text tail : Text} {found other : α × Text}, reader.read text = some found →
      tail <:+ text → reader.read tail = some other → tail <:+ found.2 ∨ r found other)
    {text : Text} {result : α × Text} (h : result ∈ reader.all text) :
    ∃ found ∈ reader.search text, r found result := by
  induction text using reader.search_induction with
  | nil =>
    rw [all_nil] at h
    cases h
  | skip c text hread ih =>
    rw [search_of_none reader hread]
    rw [all_cons, hread] at h
    exact ih h
  | take text found rest hread ih =>
    rw [search_of_some reader hread]
    obtain ⟨tail, htail, hresult⟩ := reader.mem_all_iff.1 h
    rcases hinside hread htail hresult with hrest | hr
    · obtain ⟨other, hmem, hr⟩ := ih (reader.mem_all_iff.2 ⟨tail, hrest, hresult⟩)
      exact ⟨other, List.mem_cons_of_mem _ hmem, hr⟩
    · exact ⟨_, List.mem_cons_self .., hr⟩

theorem all_append {taken rest : Text}
    (h : ∀ tail, tail <:+ taken ++ rest → (reader.read tail).isSome → tail <:+ rest) :
    reader.all (taken ++ rest) = reader.all rest := by
  induction taken with
  | nil => rfl
  | cons c taken ih =>
    have hnone : reader.read (c :: (taken ++ rest)) = none := by
      by_contra hsome
      have hlength := (h _ (List.suffix_refl _) (Option.isSome_iff_ne_none.2 hsome)).length_le
      simp only [List.cons_append, List.length_cons, List.length_append] at hlength
      omega
    rw [List.cons_append, all_cons, hnone]
    exact ih fun tail htail => h tail (htail.trans (List.suffix_cons _ _))

/-- Nothing is missed when nothing starts inside of what is found. -/
theorem search_eq_all
    (hinside : ∀ {text tail rest : Text} {found : α}, reader.read text = some (found, rest) → tail <:+ text →
      (reader.read tail).isSome → tail = text ∨ tail <:+ rest) (text : Text) :
    reader.search text = reader.all text := by
  induction text using reader.search_induction with
  | nil => rw [search_nil, all_nil]
  | skip c text hread ih =>
    rw [search_of_none reader hread, all_cons, hread, ih]
    rfl
  | take text found rest hread ih =>
    rw [search_of_some reader hread, ih]
    obtain ⟨c, taken, rfl⟩ := reader.exists_cons_of_read hread
    rw [all_cons, hread, all_append]
    · rfl
    · intro tail htail hsome
      rcases hinside hread (htail.trans (List.suffix_cons _ _)) hsome with rfl | hrest
      · have hlength := htail.length_le
        rw [List.length_cons] at hlength
        omega
      · exact hrest

end Reader

end CssSurvey.Text
