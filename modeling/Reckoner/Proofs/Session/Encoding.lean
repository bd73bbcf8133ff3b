import Reckoner.Proofs.Session.Course
import Reckoner.Proofs.Text.Trim

/-!
# Entering a text

The line on which a text is entered is the UTF-8 encoding of the text with a line feed behind it. No
byte of an encoding is a line feed unless a character of the text is one, so that an input that
starts with such a line has it as its first line, and the session takes the text from it, provided
that the text is trimmed.
-/

namespace Reckoner

variable {s : Text}

/-- The UTF-8 encoding of a text. -/
def Text.encoding (s : Text) : List UInt8 :=
  s.flatMap String.utf8EncodeChar

/-- The encoding of a text consists of the bytes of its characters one after the other. -/
theorem toByteArray_encoding (s : Text) :
  (⟨s.encoding.toArray⟩ : ByteArray) = List.utf8Encode s
  := by
  apply ByteArray.ext
  rw [List.utf8Encode, List.data_toByteArray, Text.encoding]

/-- The encoding of a text is decoded to the text. -/
theorem decodeLine?_encoding (s : Text) :
  decodeLine? s.encoding = some s
  := by
  rw [decodeLine?, toByteArray_encoding, String.fromUTF8?,
    dif_pos ByteArray.isValidUTF8_utf8Encode]
  change some (String.ofList s).toList = some s
  rw [String.toList_ofList]

/-- The bytes of a character of more than one byte are beyond those of ASCII characters. -/
theorem toNat_eq_of_mem_utf8EncodeChar {b : UInt8} {c : Char} (h : b ∈ String.utf8EncodeChar c)
    (hb : b.toNat < 128) :
  c.toNat = b.toNat
  := by
  have hc : c.toNat = c.val.toNat := rfl
  have hhigh : ∀ n : Nat, 128 ≤ n % 256 → ¬(UInt8.ofNat n).toNat < 128 := by
    intro n hn
    rw [UInt8.toNat_ofNat']
    omega
  simp only [String.utf8EncodeChar] at h
  split at h
  · obtain rfl := List.mem_singleton.mp h
    rw [UInt8.toNat_ofNat']
    omega
  split at h
  · simp only [List.mem_cons, List.not_mem_nil, or_false] at h
    rcases h with rfl | rfl
    all_goals cases hhigh _ (by omega) hb
  split at h
  · simp only [List.mem_cons, List.not_mem_nil, or_false] at h
    rcases h with rfl | rfl | rfl
    all_goals cases hhigh _ (by omega) hb
  · simp only [List.mem_cons, List.not_mem_nil, or_false] at h
    rcases h with rfl | rfl | rfl | rfl
    all_goals cases hhigh _ (by omega) hb

/-- The encoding of a text without a line feed has no byte of that value. -/
theorem lineFeed_not_mem_encoding (h : '\n' ∉ s) :
  lineFeed ∉ s.encoding
  := by
  intro hmem
  obtain ⟨c, hc, hb⟩ := List.mem_flatMap.mp hmem
  have hcode : c.toNat = '\n'.toNat := toNat_eq_of_mem_utf8EncodeChar hb (by decide)
  apply h
  rw [← Char.toNat_inj.mp hcode]
  apply hc

/-- The first line of an input is what is in front of the first line feed, together with it. -/
theorem inputLines_append_lineFeed {line : List UInt8} (h : lineFeed ∉ line) (more : List UInt8) :
  inputLines (line ++ lineFeed :: more) = (line ++ [lineFeed]) :: inputLines more
  := by
  induction line with
  | nil =>
    rw [List.nil_append, inputLines, if_pos rfl]
    rfl
  | cons b line ih =>
    rw [List.mem_cons, not_or] at h
    rw [List.cons_append, inputLines, if_neg (Ne.symm h.1), ih h.2]
    rfl

/-- The entry on a line with the encoding of a trimmed text is this text. -/
theorem enteredText?_encoding (h : s.IsTrimmed) :
  enteredText? (s.encoding ++ [lineFeed]) = some s
  := by
  have hline : s.encoding ++ [lineFeed] = Text.encoding (s ++ ['\n']) := by
    rw [Text.encoding, Text.encoding, List.flatMap_append]
    rfl
  have htrim : Text.trim (s ++ ['\n']) = s := by
    apply h.trim_eq (w := []) (by decide) (by decide)
  rw [hline, enteredText?_of_decodeLine? (decodeLine?_encoding _), htrim]

end Reckoner
