/-
Texts byte by byte. In UTF-8 an ASCII character is one byte, which is its code, and any other is written
in bytes beyond ASCII. So a scan that reacts to ASCII characters only does the same on the bytes of a text
as on its characters: it passes over every byte of a character that it passes over, and stops at no byte
inside of a character.
-/
import CssSurvey.Proofs.Brace
import CssSurvey.Proofs.Text.Letter

namespace CssSurvey

/-- The bytes of a character in UTF-8, each as the character that has the byte for its code. -/
def octetsOf (c : Char) : Text := (String.utf8EncodeChar c).map Char.ofUInt8

theorem octetsOf_of_ascii {c : Char} (h : c.toNat < 128) : octetsOf c = [c] := by
  have hsize : c.utf8Size = 1 := by
    rw [Char.utf8Size_eq_one_iff, UInt32.le_iff_toNat_le]
    exact Nat.le_of_lt_succ h
  rw [octetsOf, String.utf8EncodeChar_eq_singleton hsize, List.map_singleton, List.singleton_inj, ← Char.toNat_inj]
  show c.val.toUInt8.toUInt32.toNat = c.toNat
  rw [UInt8.toNat_toUInt32, UInt32.toNat_toUInt8]
  exact Nat.mod_eq_of_lt (Nat.lt_trans h (by decide))

theorem octetsOf_ne_nil (c : Char) : octetsOf c ≠ [] := by
  rw [octetsOf, Ne, List.map_eq_nil_iff]
  exact String.utf8EncodeChar_ne_nil

theorem le_of_mem_utf8EncodeChar {c : Char} (h : 128 ≤ c.toNat) {byte : UInt8}
    (hbyte : byte ∈ String.utf8EncodeChar c) : 128 ≤ byte.toNat := by
  have hc : ¬ c.val.toNat ≤ 127 := fun hle => Nat.not_succ_le_self 127 (Nat.le_trans h hle)
  simp only [String.utf8EncodeChar, if_neg hc] at hbyte
  -- Two, three or four bytes, each a few bits of the code behind a marker of at least 128.
  split at hbyte
  · simp only [List.mem_cons, List.not_mem_nil, or_false] at hbyte
    rcases hbyte with rfl | rfl <;> rw [UInt8.toNat_ofNat'] <;> omega
  · split at hbyte
    · simp only [List.mem_cons, List.not_mem_nil, or_false] at hbyte
      rcases hbyte with rfl | rfl | rfl <;> rw [UInt8.toNat_ofNat'] <;> omega
    · simp only [List.mem_cons, List.not_mem_nil, or_false] at hbyte
      rcases hbyte with rfl | rfl | rfl | rfl <;> rw [UInt8.toNat_ofNat'] <;> omega

theorem le_of_mem_octetsOf {c octet : Char} (h : 128 ≤ c.toNat) (hoctet : octet ∈ octetsOf c) :
    128 ≤ octet.toNat := by
  obtain ⟨byte, hbyte, rfl⟩ := List.mem_map.1 hoctet
  exact le_of_mem_utf8EncodeChar h hbyte

namespace Text

/-- The bytes of a text, character by character. -/
def octets (text : Text) : Text := text.flatMap octetsOf

/-- How many bytes a text takes. -/
def byteSize (text : Text) : Nat := text.octets.length

@[simp] theorem octets_nil : octets [] = [] := rfl

@[simp] theorem octets_cons (c : Char) (text : Text) : octets (c :: text) = octetsOf c ++ octets text := rfl

@[simp] theorem octets_append (a b : Text) : octets (a ++ b) = octets a ++ octets b := List.flatMap_append

theorem octets_cons_of_ascii {c : Char} (h : c.toNat < 128) (text : Text) : octets (c :: text) = c :: octets text := by
  rw [octets_cons, octetsOf_of_ascii h, List.singleton_append]

@[simp] theorem byteSize_append (a b : Text) : (a ++ b).byteSize = a.byteSize + b.byteSize := by
  rw [byteSize, octets_append, List.length_append, byteSize, byteSize]

/-! ## Scans that react to ASCII only -/

section Ascii

variable {p : Char → Bool}

theorem head?_octets_any (hp : ∀ c : Char, 128 ≤ c.toNat → p c = false) (text : Text) :
    text.octets.head?.any p = text.head?.any p := by
  cases text with
  | nil => rfl
  | cons c text =>
    by_cases hc : c.toNat < 128
    · rw [octets_cons_of_ascii hc]
      rfl
    · have hbeyond := Nat.not_lt.1 hc
      obtain ⟨first, others, hsplit⟩ := List.exists_cons_of_ne_nil (octetsOf_ne_nil c)
      have hfirst : 128 ≤ first.toNat := le_of_mem_octetsOf hbeyond (hsplit ▸ List.mem_cons_self ..)
      rw [octets_cons, hsplit]
      exact (hp first hfirst).trans (hp c hbeyond).symm

theorem dropWhile_octets (hp : ∀ c : Char, 128 ≤ c.toNat → p c = true) (text : Text) :
    text.octets.dropWhile p = octets (text.dropWhile p) := by
  induction text with
  | nil => rfl
  | cons c text ih =>
    by_cases hc : c.toNat < 128
    · rw [octets_cons_of_ascii hc, List.dropWhile_cons, List.dropWhile_cons]
      split
      · exact ih
      · exact (octets_cons_of_ascii hc text).symm
    · have hbeyond := Nat.not_lt.1 hc
      rw [octets_cons, List.dropWhile_append_of_pos fun d hd => hp d (le_of_mem_octetsOf hbeyond hd),
        List.dropWhile_cons_of_pos (hp c hbeyond), ih]

theorem takeWhile_octets (hp : ∀ c : Char, 128 ≤ c.toNat → p c = true) (text : Text) :
    text.octets.takeWhile p = octets (text.takeWhile p) := by
  have hsplit : text.octets.takeWhile p ++ text.octets.dropWhile p =
      octets (text.takeWhile p) ++ octets (text.dropWhile p) := by
    rw [List.takeWhile_append_dropWhile, ← octets_append, List.takeWhile_append_dropWhile]
  rw [dropWhile_octets hp] at hsplit
  exact List.append_cancel_right hsplit

end Ascii

end Text

/-- Characters beyond ASCII are no mark of the syntax. -/
theorem ne_of_beyond_ascii {c mark : Char} (hc : 128 ≤ c.toNat) (hmark : mark.toNat < 128) : c ≠ mark := by
  rintro rfl
  exact absurd hmark (Nat.not_lt.2 hc)

theorem isAlpha_of_beyond_ascii {c : Char} (h : 128 ≤ c.toNat) : c.isAlpha = false := by
  by_contra hc
  have hle : c.toNat ≤ 'z'.toNat := (isAlpha_bounds (by simpa using hc)).2
  exact absurd (Nat.le_trans h hle) (by decide)

end CssSurvey
