/-
The style elements that a document holds are the ones written into it. An element is read from its opening
tag, which ends at the first `>`, up to the first closing tag behind that; both tags hold a `<` nowhere but
in front, so that none comes about across the edge of what stands before a tag. Between the elements a
document holds no opening tag, and inside of one no closing tag: then a search from left to right takes the
elements one by one, whatever else stands in the contents, the attributes and the gaps.
-/
import CssSurvey.Proofs.Text.Caseless
import CssSurvey.Proofs.Text.Cut
import CssSurvey.Proofs.Text.Letter
import CssSurvey.Proofs.Text.Occurrence
import CssSurvey.StyleElement

namespace CssSurvey.StyleElement

open Text

/-! ## Tags -/

/-- The name of an opening tag with what opens it, in any case. -/
def IsOpeningName (name : Text) : Prop := name.map foldCase = "<style".toList

instance : DecidablePred IsOpeningName := fun name =>
  inferInstanceAs (Decidable (name.map foldCase = "<style".toList))

/-- A closing tag: its name in any case, white space, and the mark that ends it. -/
def IsClosing (tag : Text) : Prop :=
  ∃ name space, tag = name ++ (space ++ ['>']) ∧ name.map foldCase = "</style".toList ∧ space.isBlank = true

/-- A text without a closing tag in it. -/
def ClosesNothing (text : Text) : Prop := ∀ tag, IsClosing tag → ¬ tag <:+: text

/-- A text without the name of an opening tag in it. -/
def OpensNothing (text : Text) : Prop := ¬ "<style".toList <:+: text.map foldCase

instance : DecidablePred OpensNothing := fun text =>
  inferInstanceAs (Decidable (¬ "<style".toList <:+: text.map foldCase))

theorem opensNothing_iff {text : Text} : OpensNothing text ↔ ∀ name, IsOpeningName name → ¬ name <:+: text := by
  rw [OpensNothing, List.infix_map_iff]
  constructor
  · exact fun h name hname hin => h ⟨name, hin, hname.symm⟩
  · rintro h ⟨name, hin, hname⟩
    exact h name hname.symm hin

theorem not_isWordChar_gt : Unicode.isWordChar '>' = false := by decide +kernel

/-- Where a name folds to a word with its mark in front only, the name has the mark in front only. -/
theorem exists_cons_of_map_foldCase {name word : Text} (h : name.map foldCase = '<' :: word) (hword : '<' ∉ word) :
    ∃ stem, name = '<' :: stem ∧ '<' ∉ stem := by
  obtain ⟨c, stem, rfl, hc, hstem⟩ := List.map_eq_cons_iff.1 h
  refine ⟨stem, ?_, fun hmem => hword ?_⟩
  · rw [(toLower_eq_iff (by decide)).1 ((foldCase_eq_iff_toLower (by decide)).1 hc)]
  · exact hstem ▸ List.mem_map_of_mem hmem

theorem IsOpeningName.exists_cons {name : Text} (h : IsOpeningName name) :
    ∃ stem, name = '<' :: stem ∧ '<' ∉ stem :=
  exists_cons_of_map_foldCase h (by decide)

theorem IsClosing.exists_cons {tag : Text} (h : IsClosing tag) : ∃ stem, tag = '<' :: stem ∧ '<' ∉ stem := by
  obtain ⟨name, space, rfl, hname, hspace⟩ := h
  obtain ⟨stem, rfl, hstem⟩ := exists_cons_of_map_foldCase hname (by decide)
  refine ⟨stem ++ (space ++ ['>']), rfl, ?_⟩
  have hmark : '<' ∉ space := fun hmem => absurd (List.all_eq_true.1 hspace _ hmem) (by decide)
  simp [hstem, hmark]

/-! ## Reading an element -/

theorem afterOpening?_eq_some_iff {text rest : Text} :
    afterOpening? text = some rest ↔
      ∃ name attributes, text = name ++ (attributes ++ '>' :: rest) ∧ IsOpeningName name ∧
        (∀ c ∈ attributes.head?, Unicode.isWordChar c = false) ∧ '>' ∉ attributes := by
  unfold afterOpening?
  rw [Option.bind_eq_some_iff]
  constructor
  · rintro ⟨behind, hread, h⟩
    obtain ⟨name, rfl, hname⟩ := afterWord?_eq_some_iff.1 hread
    split at h
    · cases h
    · rename_i hword
      obtain ⟨attributes, c, rfl, hattributes, hc⟩ := afterFirst?_eq_some_iff.1 h
      obtain rfl : c = '>' := of_decide_eq_true hc
      refine ⟨name, attributes, rfl, hname, fun c hc => ?_, fun hmem => ?_⟩
      · obtain ⟨more, rfl⟩ := List.head?_eq_some_iff.1 (Option.mem_def.1 hc)
        simpa using hword
      · exact absurd (hattributes _ hmem) (by decide)
  · rintro ⟨name, attributes, rfl, hname, hapart, hwithin⟩
    refine ⟨attributes ++ '>' :: rest, afterWord?_eq_some_iff.2 ⟨name, rfl, hname⟩, ?_⟩
    have hword : ¬ (attributes ++ '>' :: rest).head?.any Unicode.isWordChar := by
      cases attributes with
      | nil => simp [not_isWordChar_gt]
      | cons c attributes => simp [hapart c rfl]
    rw [if_neg hword]
    refine afterFirst?_eq_some_iff.2 ⟨attributes, '>', rfl, fun d hd => ?_, by decide⟩
    exact decide_eq_false fun heq => hwithin (heq ▸ hd)

theorem afterClosing?_eq_some_iff {text rest : Text} :
    afterClosing? text = some rest ↔ ∃ tag, text = tag ++ rest ∧ IsClosing tag := by
  unfold afterClosing?
  rw [Option.bind_eq_some_iff]
  constructor
  · rintro ⟨behind, hread, h⟩
    obtain ⟨name, rfl, hname⟩ := afterWord?_eq_some_iff.1 hread
    split at h
    · rename_i after htrim
      cases h
      have hsplit : behind = behind.takeWhile isBlank ++ '>' :: rest := (dropWhile_eq_cons htrim).2
      refine ⟨name ++ (behind.takeWhile isBlank ++ ['>']), ?_, name, _, rfl, hname, List.all_takeWhile⟩
      rw [List.append_assoc, List.append_assoc, List.singleton_append, ← hsplit]
    · cases h
  · rintro ⟨tag, rfl, name, space, rfl, hname, hspace⟩
    refine ⟨space ++ '>' :: rest, afterWord?_eq_some_iff.2 ⟨name, by simp, hname⟩, ?_⟩
    have htrim : trimStart (space ++ '>' :: rest) = '>' :: rest :=
      dropWhile_append_cons (List.all_eq_true.1 hspace) (by decide) rest
    simp only [htrim]

theorem closesNothing_nil : ClosesNothing [] := by
  intro tag htag hin
  obtain ⟨stem, rfl, -⟩ := htag.exists_cons
  cases List.infix_nil.1 hin

theorem closesNothing_cons {c : Char} {text : Text} :
    ClosesNothing (c :: text) ↔ (∀ tag, IsClosing tag → ¬ tag <+: c :: text) ∧ ClosesNothing text := by
  simp only [ClosesNothing, List.infix_cons_iff, not_or, imp_and, forall_and]

theorem not_prefix_of_afterClosing? {text tag : Text} (h : afterClosing? text = none) (htag : IsClosing tag) :
    ¬ tag <+: text := by
  rintro ⟨rest, rfl⟩
  rw [afterClosing?_eq_some_iff.2 ⟨tag, rfl, htag⟩] at h
  cases h

/-- Where a closing tag follows, none is read before it but what stands there already. -/
theorem afterClosing?_append_closing {content closing : Text} (hne : content ≠ []) (h : ClosesNothing content)
    (hclosing : IsClosing closing) (rest : Text) : afterClosing? (content ++ (closing ++ rest)) = none := by
  rw [Option.eq_none_iff_forall_ne_some]
  intro after hafter
  obtain ⟨tag, hstart, htag⟩ := afterClosing?_eq_some_iff.1 hafter
  obtain ⟨stem, rfl, hmark⟩ := htag.exists_cons
  obtain ⟨first, rfl, -⟩ := hclosing.exists_cons
  have hrest : ∀ c ∈ ('<' :: first ++ rest).head?, c = '<' := by simp
  exact h _ htag (prefix_of_prefix_append hmark hne hrest ⟨after, hstart.symm⟩).isInfix

theorem content?_append_closing {content closing : Text} (h : ClosesNothing content)
    (hclosing : IsClosing closing) (rest : Text) :
    content? (content ++ (closing ++ rest)) = some (content, rest) := by
  induction content with
  | nil =>
    have hread : afterClosing? (closing ++ rest) = some rest :=
      afterClosing?_eq_some_iff.2 ⟨closing, rfl, hclosing⟩
    obtain ⟨first, rfl, -⟩ := hclosing.exists_cons
    rw [List.cons_append] at hread
    rw [List.nil_append, List.cons_append, content?, hread]
  | cons c content ih =>
    have hnone := afterClosing?_append_closing (List.cons_ne_nil c content) h hclosing rest
    rw [List.cons_append] at hnone
    rw [List.cons_append, content?, hnone, ih (closesNothing_cons.1 h).2]
    rfl

theorem exists_closing_of_content? {text content rest : Text} (h : content? text = some (content, rest)) :
    ∃ closing, text = content ++ (closing ++ rest) ∧ IsClosing closing ∧ ClosesNothing content := by
  induction text generalizing content with
  | nil => cases h
  | cons c text ih =>
    rw [content?] at h
    split at h
    · rename_i after hafter
      cases h
      obtain ⟨closing, htext, hclosing⟩ := afterClosing?_eq_some_iff.1 hafter
      exact ⟨closing, htext, hclosing, closesNothing_nil⟩
    · rename_i hnone
      obtain ⟨⟨inner, after⟩, hinner, hpair⟩ := Option.map_eq_some_iff.1 h
      cases hpair
      obtain ⟨closing, rfl, hclosing, hinside⟩ := ih hinner
      refine ⟨closing, rfl, hclosing, closesNothing_cons.2 ⟨fun tag htag hstart => ?_, hinside⟩⟩
      exact not_prefix_of_afterClosing? hnone htag (hstart.trans (List.prefix_append (c :: inner) _))

/-- The content of an element goes up to the first closing tag. -/
theorem content?_eq_some_iff {text content rest : Text} :
    content? text = some (content, rest) ↔
      ∃ closing, text = content ++ (closing ++ rest) ∧ IsClosing closing ∧ ClosesNothing content := by
  constructor
  · exact exists_closing_of_content?
  · rintro ⟨closing, rfl, hclosing, hinside⟩
    exact content?_append_closing hinside hclosing rest

theorem closesNothing_of_content? {text : Text} (h : content? text = none) : ClosesNothing text := by
  induction text with
  | nil => exact closesNothing_nil
  | cons c text ih =>
    rw [content?] at h
    split at h
    · cases h
    · rename_i hnone
      exact closesNothing_cons.2 ⟨fun _ htag => not_prefix_of_afterClosing? hnone htag,
        ih (Option.map_eq_none_iff.1 h)⟩

/-- No content ends where no closing tag is. -/
theorem content?_eq_none_iff {text : Text} : content? text = none ↔ ClosesNothing text := by
  refine ⟨closesNothing_of_content?, fun h => ?_⟩
  rw [Option.eq_none_iff_forall_ne_some]
  rintro ⟨content, rest⟩ hread
  obtain ⟨closing, rfl, hclosing, -⟩ := exists_closing_of_content? hread
  exact h closing hclosing ⟨content, rest, by rw [List.append_assoc]⟩

instance : DecidablePred ClosesNothing := fun text =>
  decidable_of_iff (content? text = none) content?_eq_none_iff

/-! ## Elements as they are written -/

/-- A style element as it stands in a document. What follows the name of its opening tag at once does not
belong to a word. -/
structure Element where
  name : Text
  attributes : Text
  content : Text
  closing : Text
  isOpeningName_name : IsOpeningName name
  attributes_apart : ∀ c ∈ attributes.head?, Unicode.isWordChar c = false
  attributes_within : '>' ∉ attributes
  closesNothing_content : ClosesNothing content
  isClosing_closing : IsClosing closing

namespace Element

/-- The element written out. -/
def text (element : Element) : Text :=
  element.name ++ (element.attributes ++ '>' :: (element.content ++ element.closing))

/-- An element whose attributes, if it has any, are set off by white space. -/
def ofSpaced (name attributes content closing : Text) (hname : IsOpeningName name)
    (hspaced : attributes.head?.all CssSurvey.isBlank) (hwithin : '>' ∉ attributes)
    (hcontent : ClosesNothing content) (hclosing : IsClosing closing) : Element :=
  ⟨name, attributes, content, closing, hname,
    fun c hc => Unicode.isWordChar_of_isBlank ((Option.all_eq_true _ _).1 hspaced c hc), hwithin, hcontent, hclosing⟩

theorem exists_cons (element : Element) : ∃ rest, element.text = '<' :: rest := by
  obtain ⟨stem, hstem, -⟩ := element.isOpeningName_name.exists_cons
  exact ⟨_, by rw [text, hstem, List.cons_append]⟩

end Element

/-- What is read at the start of a text is the element that stands there. -/
theorem elementAt?_eq_some_iff {text content rest : Text} :
    elementAt? text = some (content, rest) ↔
      ∃ element : Element, text = element.text ++ rest ∧ element.content = content := by
  unfold elementAt?
  rw [Option.bind_eq_some_iff]
  constructor
  · rintro ⟨inside, hopening, hcontent⟩
    obtain ⟨name, attributes, rfl, hname, hapart, hwithin⟩ := afterOpening?_eq_some_iff.1 hopening
    obtain ⟨closing, rfl, hclosing, hinside⟩ := content?_eq_some_iff.1 hcontent
    exact ⟨⟨name, attributes, content, closing, hname, hapart, hwithin, hinside, hclosing⟩,
      by simp [Element.text], rfl⟩
  · rintro ⟨element, rfl, rfl⟩
    refine ⟨element.content ++ (element.closing ++ rest), ?_, ?_⟩
    · exact afterOpening?_eq_some_iff.2 ⟨element.name, element.attributes, by simp [Element.text],
        element.isOpeningName_name, element.attributes_apart, element.attributes_within⟩
    · exact content?_append_closing element.closesNothing_content element.isClosing_closing rest

/-! ## Searching a document -/

/-- Elements as they are searched for. -/
def elementReader : Reader Text where
  read := elementAt?
  exists_taken h := by
    obtain ⟨element, rfl, rfl⟩ := elementAt?_eq_some_iff.1 h
    obtain ⟨rest, htext⟩ := element.exists_cons
    exact ⟨element.text, by simp [htext], rfl⟩

/-- The contents are those of the elements that a search from left to right takes. -/
theorem contents_eq_search (text : Text) : contents text = (elementReader.search text).map Prod.fst := by
  induction text using elementReader.search_induction with
  | nil => rw [Reader.search_nil, contents, List.map_nil]
  | skip c text hread ih =>
    rw [elementReader.search_of_none hread, ← ih, contents]
    split
    · rename_i hsome
      rw [show elementAt? (c :: text) = none from hread] at hsome
      cases hsome
    · rfl
  | take text content rest hread ih =>
    obtain ⟨c, taken, rfl⟩ := elementReader.exists_cons_of_read hread
    rw [elementReader.search_of_some hread, List.map_cons, ← ih, contents]
    split
    · rename_i hsome
      rw [show elementAt? (c :: (taken ++ rest)) = some (content, rest) from hread] at hsome
      cases hsome
      rfl
    · rename_i hnone
      rw [show elementAt? (c :: (taken ++ rest)) = some (content, rest) from hread] at hnone
      cases hnone

/-- A search goes through text without an opening tag up to the next tag, or to the end. -/
theorem search_gap_append {gap rest : Text} (hgap : OpensNothing gap) (hrest : ∀ c ∈ rest.head?, c = '<') :
    elementReader.search (gap ++ rest) = elementReader.search rest := by
  induction gap with
  | nil => rfl
  | cons c gap ih =>
    rw [opensNothing_iff] at hgap
    have hnone : elementReader.read (c :: (gap ++ rest)) = none := by
      rw [Option.eq_none_iff_forall_ne_some]
      rintro ⟨content, after⟩ hread
      obtain ⟨element, htext, -⟩ := elementAt?_eq_some_iff.1 hread
      obtain ⟨stem, hstem, hmark⟩ := element.isOpeningName_name.exists_cons
      have hstart : element.name <+: c :: gap := by
        refine prefix_of_prefix_append (hstem ▸ hmark) (List.cons_ne_nil c gap) hrest ?_
        rw [List.cons_append, htext, Element.text, List.append_assoc]
        exact List.prefix_append _ _
      exact hgap _ element.isOpeningName_name hstart.isInfix
    rw [List.cons_append, elementReader.search_of_none hnone]
    refine ih (opensNothing_iff.2 fun name hname hin => ?_)
    exact hgap name hname (hin.trans (List.suffix_cons c gap).isInfix)

/-- The contents of the style elements that are written into a document, with anything between them that
opens no style element, are what is found in it: all of them, in their order and nothing besides. -/
theorem contents_document {gap : Text} (hgap : OpensNothing gap) {parts : List (Element × Text)}
    (hparts : ∀ part ∈ parts, OpensNothing part.2) :
    contents (gap ++ parts.flatMap fun part => part.1.text ++ part.2) =
      parts.map fun part => part.1.content := by
  induction parts generalizing gap with
  | nil =>
    rw [contents_eq_search, List.flatMap_nil, search_gap_append hgap (by simp), Reader.search_nil]
    rfl
  | cons part parts ih =>
    obtain ⟨element, next⟩ := part
    obtain ⟨hnext, hothers⟩ := List.forall_mem_cons.1 hparts
    have htag : ∀ c ∈ (element.text ++ (next ++ parts.flatMap fun part => part.1.text ++ part.2)).head?,
        c = '<' := by
      obtain ⟨rest, htext⟩ := element.exists_cons
      simp [htext]
    have hread : elementReader.read (element.text ++ (next ++ parts.flatMap fun part => part.1.text ++ part.2)) =
        some (element.content, next ++ parts.flatMap fun part => part.1.text ++ part.2) :=
      elementAt?_eq_some_iff.2 ⟨element, rfl, rfl⟩
    rw [contents_eq_search, List.flatMap_cons, List.append_assoc, search_gap_append hgap htag,
      elementReader.search_of_some hread, List.map_cons, ← contents_eq_search, ih hnext hothers, List.map_cons]

/-- Names in several cases, and closing tags that are none or stand where nothing is open. -/
theorem contents_document_two_elements : ∃ (gap : Text) (parts : List (Element × Text)),
    (OpensNothing gap ∧ ∀ part ∈ parts, OpensNothing part.2) ∧
      (gap ++ parts.flatMap fun part => part.1.text ++ part.2) =
        "</style>\n<STYLE\ttype=a>b\x7bc:d\x7d</style e</Style\n ><sty<ſtyle></style><br".toList ∧
      contents (gap ++ parts.flatMap fun part => part.1.text ++ part.2) =
        ["b\x7bc:d\x7d</style e".toList, []] := by
  let first : Element := .ofSpaced "<STYLE".toList "\ttype=a".toList "b\x7bc:d\x7d</style e".toList
    "</Style\n >".toList (by decide) (by decide) (by decide) (by decide)
    ⟨"</Style".toList, "\n ".toList, by decide, by decide, by decide⟩
  let second : Element := .ofSpaced "<ſtyle".toList [] [] "</style>".toList (by decide) (by decide) (by decide)
    (by decide) ⟨"</style".toList, [], by decide, by decide, by decide⟩
  have hgap : OpensNothing "</style>\n".toList := by decide
  have hparts : ∀ part ∈ [(first, "<sty".toList), (second, "<br".toList)], OpensNothing part.2 := by decide
  exact ⟨_, _, ⟨hgap, hparts⟩, by decide, contents_document hgap hparts⟩

-- The first closing tag ends the content, and an element that is never closed is none.
example : contents "<style><style></style><style></style a>".toList = ["<style>".toList] := by
  decide +kernel

end CssSurvey.StyleElement
