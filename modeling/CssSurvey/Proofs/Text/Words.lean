/-
Collapsed white space. A text is collapsed to its words with one space between two of them, and a text
of that form is collapsed to itself. What stands at the start of a text without white space in it
starts the collapsed text too.
-/
import CssSurvey.Proofs.Text.Ink

namespace CssSurvey.Text

/-! ## Words -/

/-- A word is not empty and has no white space in it. -/
theorem of_mem_words {text word : Text} (h : word ∈ words text) :
    word ≠ [] ∧ ∀ c ∈ word, CssSurvey.isBlank c = false := by
  constructor
  · simpa using List.of_mem_filter h
  · intro c hc
    have hflat : c ∈ (words text).flatten := List.mem_flatten.2 ⟨word, h, hc⟩
    rw [flatten_words] at hflat
    exact isBlank_eq_false_of_mem_ink hflat

/-- White space ends a word, and the next ones are those of the text behind it. -/
theorem words_append_cons {b : Char} (hb : CssSurvey.isBlank b) (before after : Text) :
    words (before ++ b :: after) = words before ++ words after := by
  unfold words
  rw [List.splitOnP_append_cons before after hb, List.filter_append]

theorem words_of_unbroken {word : Text} (hne : word ≠ []) (h : ∀ c ∈ word, CssSurvey.isBlank c = false) :
    words word = [word] := by
  unfold words
  rw [List.splitOnP_eq_singleton h]
  simp [hne]

theorem words_intercalate {ws : List Text}
    (h : ∀ w ∈ ws, w ≠ [] ∧ ∀ c ∈ w, CssSurvey.isBlank c = false) :
    words (List.intercalate [' '] ws) = ws := by
  induction ws with
  | nil => rfl
  | cons w ws ih =>
    obtain ⟨⟨hne, hw⟩, hws⟩ := List.forall_mem_cons.1 h
    cases ws with
    | nil => rw [List.intercalate_singleton, words_of_unbroken hne hw]
    | cons v ws =>
      rw [List.intercalate_cons_cons, List.append_assoc, List.singleton_append,
        words_append_cons (by decide), words_of_unbroken hne hw, ih hws]
      rfl

/-- The first word of a text goes from its start up to the first white space. -/
theorem exists_words_eq {front : Text} (hne : front ≠ []) (h : ∀ c ∈ front, CssSurvey.isBlank c = false)
    (rest : Text) : ∃ word others, words (front ++ rest) = (front ++ word) :: others := by
  generalize hword : rest.takeWhile (!CssSurvey.isBlank ·) = word
  have hunbroken : ∀ c ∈ front ++ word, CssSurvey.isBlank c = false := by
    refine List.forall_mem_append.2 ⟨h, ?_⟩
    rintro c hc
    rw [← hword] at hc
    simpa using List.all_eq_true.1 List.all_takeWhile c hc
  have hfirst : words (front ++ word) = [front ++ word] := words_of_unbroken (by simp [hne]) hunbroken
  refine ⟨word, ?_⟩
  cases hrest : rest.dropWhile (!CssSurvey.isBlank ·) with
  | nil =>
    have hsplit := List.takeWhile_append_dropWhile (p := (!CssSurvey.isBlank ·)) (l := rest)
    rw [hword, hrest, List.append_nil] at hsplit
    exact ⟨[], by rw [← hsplit, hfirst]⟩
  | cons b after =>
    obtain ⟨hb, hsplit⟩ := dropWhile_eq_cons hrest
    rw [hword] at hsplit
    refine ⟨words after, ?_⟩
    rw [hsplit, ← List.append_assoc, words_append_cons (by simpa using hb), hfirst]
    rfl

/-! ## Collapsing -/

/-- A collapsed text has nothing left to collapse. -/
@[simp] theorem collapse_collapse (text : Text) : collapse (collapse text) = collapse text := by
  have hwords : words (collapse text) = words text := words_intercalate fun _ => of_mem_words
  rw [collapse, hwords, ← collapse]

/-- A collapsed text has no characters besides those of the text and spaces. -/
theorem not_mem_collapse {c : Char} {text : Text} (hc : CssSurvey.isBlank c = false) (h : c ∉ text) :
    c ∉ collapse text := by
  intro hmem
  have hink : c ∈ ink (collapse text) := List.mem_filter.2 ⟨hmem, by simp [hc]⟩
  rw [ink_collapse] at hink
  exact h (List.mem_of_mem_filter hink)

/-- Collapsing leaves the start of a text as it is, up to the first white space. -/
theorem prefix_collapse {front : Text} (h : ∀ c ∈ front, CssSurvey.isBlank c = false) (rest : Text) :
    front <+: collapse (front ++ rest) := by
  rcases eq_or_ne front [] with rfl | hne
  · exact List.nil_prefix
  · obtain ⟨word, others, hwords⟩ := exists_words_eq hne h rest
    rw [collapse, hwords]
    cases others with
    | nil => simp
    | cons other others =>
      rw [List.intercalate_cons_cons, List.append_assoc, List.append_assoc]
      exact List.prefix_append ..

end CssSurvey.Text
