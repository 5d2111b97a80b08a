/-
The `<style>` elements of an HTML document. Tag names are read in any letter case. An element runs
from its opening tag to the first closing tag after it, whatever stands between the two; a tag that
is never closed is no element.
-/
import CssSurvey.Text.Blank
import CssSurvey.Text.Caseless
import CssSurvey.Unicode.Class

namespace CssSurvey.StyleElement

/-- What follows an opening tag at the start of a text. The name must end where a word ends; the
attributes run to the first `>`. -/
def afterOpening? (text : Text) : Option Text :=
  (Text.afterWord? "<style".toList text).bind fun rest =>
    if rest.head?.any Unicode.isWordChar then none
    else rest.afterFirst? (· = '>')

/-- What follows a closing tag at the start of a text. Only white space may stand before its `>`. -/
def afterClosing? (text : Text) : Option Text :=
  (Text.afterWord? "</style".toList text).bind fun rest =>
    match rest.trimStart with
    | '>' :: after => some after
    | _ => none

/-- The text up to the first closing tag, and the text after that tag. -/
def content? : Text → Option (Text × Text)
  | [] => none
  | c :: rest =>
    match afterClosing? (c :: rest) with
    | some after => some ([], after)
    | none => (content? rest).map fun (content, after) => (c :: content, after)

/-- The content of the element at the start of a text, and the text after the element. -/
def elementAt? (text : Text) : Option (Text × Text) := (afterOpening? text).bind content?

theorem length_of_afterOpening? {text rest : Text} (h : afterOpening? text = some rest) :
    rest.length < text.length := by
  unfold afterOpening? at h
  obtain ⟨name, hname, h⟩ := Option.bind_eq_some_iff.1 h
  split at h
  · cases h
  · exact Nat.lt_trans (Text.length_of_afterFirst? h) (Text.length_of_afterWord? hname)

theorem length_of_afterClosing? {text rest : Text} (h : afterClosing? text = some rest) :
    rest.length < text.length := by
  unfold afterClosing? at h
  obtain ⟨name, hname, h⟩ := Option.bind_eq_some_iff.1 h
  have hlt := Text.length_of_afterWord? hname
  have hle := (List.dropWhile_sublist isBlank (l := name)).length_le
  split at h
  · rename_i after htag
    rw [Text.trimStart] at htag
    rw [htag] at hle
    cases h
    simp at hle
    omega
  · cases h

theorem length_of_content? {text content rest : Text} (h : content? text = some (content, rest)) :
    rest.length < text.length := by
  induction text generalizing content with
  | nil => cases h
  | cons c text ih =>
    rw [content?] at h
    split at h
    · rename_i after hafter
      cases h
      exact length_of_afterClosing? hafter
    · obtain ⟨⟨content', after⟩, hc, heq⟩ := Option.map_eq_some_iff.1 h
      cases heq
      exact Nat.lt_succ_of_lt (ih hc)

/-- An element takes up some of the text. -/
theorem length_of_elementAt? {text content rest : Text}
    (h : elementAt? text = some (content, rest)) : rest.length < text.length := by
  obtain ⟨inner, hopen, hcontent⟩ := Option.bind_eq_some_iff.1 h
  exact Nat.lt_trans (length_of_content? hcontent) (length_of_afterOpening? hopen)

/-- The contents of the `<style>` elements of a document, in order. -/
def contents : Text → List Text
  | [] => []
  | c :: rest =>
    match _h : elementAt? (c :: rest) with
    | some (content, after) => content :: contents after
    | none => contents rest
termination_by text => text.length
decreasing_by
  · exact length_of_elementAt? _h
  · simp

end CssSurvey.StyleElement
