import Mathlib.Tactic.Lemma
import Sockets.Text.Utf8

/-!
# Text kept in octets

Text that is stored in octets is read back as it was, whether its reader insists on well-formed
octets or shows whatever there is, and takes up as many octets as its characters need.

## Main results

* `Sockets.Text.Utf8.decode?_encode`, `Sockets.Text.Utf8.lossy_encode` — text is read back.
* `Sockets.Text.Utf8.length_encode` — how many octets it takes up.
-/

set_option autoImplicit false

namespace Sockets

namespace Text.Utf8

/-- What a text takes up. -/
theorem length_encode (s : String) : (encode s).length = s.utf8ByteSize := by
  rw [String.utf8ByteSize, ← String.utf8Encode_toList, List.utf8Encode]
  simp [encode, encodeChars]

/-- Text is read back from its octets. -/
theorem decode?_encode (s : String) : decode? (encode s) = some s := by
  have hoctets : (⟨(encode s).toArray⟩ : ByteArray) = s.toByteArray := by
    rw [← String.utf8Encode_toList, List.utf8Encode]
    exact congrArg ByteArray.mk List.data_toByteArray.symm
  rw [decode?, hoctets, String.fromUTF8?, dif_pos s.isValidUTF8]
  rfl

/-! ## Characters one by one -/

variable {b low high : UInt8} {bs : Bytes}

/-- The first octet of a character of two octets. -/
lemma start_two (h : 0xC2 ≤ b.toNat) (h' : b.toNat < 0xE0) :
    start b = ([], .owing 1 0x80 0xBF (b.toNat - 0xC0)) := by
  unfold start
  dsimp only
  rw [if_neg (by omega), if_neg (by omega), if_pos (by omega)]

/-- The first octet of a character of three octets. -/
lemma start_three (h : 0xE0 ≤ b.toNat) (h' : b.toNat < 0xF0) :
    start b = ([], .owing 2 (if b.toNat = 0xE0 then 0xA0 else 0x80)
      (if b.toNat = 0xED then 0x9F else 0xBF) (b.toNat - 0xE0)) := by
  unfold start
  dsimp only
  rw [if_neg (by omega), if_neg (by omega), if_neg (by omega)]
  by_cases h0 : b.toNat = 0xE0
  · rw [if_pos h0, if_pos h0, if_neg (by omega)]
  rw [if_neg h0, if_neg h0]
  by_cases hd : b.toNat = 0xED
  · rw [if_pos hd, if_pos hd]
  · rw [if_neg hd, if_neg hd, if_pos h']

/-- The first octet of a character of four octets.

**Proof sketch.** The octet is none of those that open shorter sequences. The bounds for the next
one are those for the least, for the greatest and for any other first octet. -/
lemma start_four (h : 0xF0 ≤ b.toNat) (h' : b.toNat < 0xF5) :
    start b = ([], .owing 3 (if b.toNat = 0xF0 then 0x90 else 0x80)
      (if b.toNat = 0xF4 then 0x8F else 0xBF) (b.toNat - 0xF0)) := by
  unfold start
  dsimp only
  rw [if_neg (by omega), if_neg (by omega), if_neg (by omega), if_neg (by omega),
    if_neg (by omega), if_neg (by omega)]
  by_cases h0 : b.toNat = 0xF0
  · rw [if_pos h0, if_pos h0, if_neg (by omega)]
  rw [if_neg h0, if_neg h0]
  by_cases h4 : b.toNat = 0xF4
  · rw [if_neg (by omega), if_pos h4, if_pos h4]
  · rw [if_pos (by omega), if_neg h4]

/-- An octet that leaves a character open shows nothing yet. -/
lemma lossyFrom_start {s : State} (h : start b = ([], s)) :
    lossyFrom .idle (b :: bs) = lossyFrom s bs := by
  simp [lossyFrom, step, h]

/-- An octet inside a character that is not its last. -/
lemma lossyFrom_more {count : Nat} (value : Nat) (hcount : 1 < count) (hlow : low.toNat ≤ b.toNat)
    (hhigh : b.toNat ≤ high.toNat) : lossyFrom (.owing count low high value) (b :: bs) =
      lossyFrom (.owing (count - 1) 0x80 0xBF (64 * value + (b.toNat - 0x80))) bs := by
  have hin : low ≤ b ∧ b ≤ high := ⟨UInt8.le_iff_toNat_le.2 hlow, UInt8.le_iff_toNat_le.2 hhigh⟩
  simp [lossyFrom, step, hin, Nat.not_le.2 hcount]

/-- The last octet of a character. -/
lemma lossyFrom_last (value : Nat) (hlow : low.toNat ≤ b.toNat) (hhigh : b.toNat ≤ high.toNat) :
    lossyFrom (.owing 1 low high value) (b :: bs) =
      Char.ofNat (64 * value + (b.toNat - 0x80)) :: lossyFrom .idle bs := by
  have hin : low ≤ b ∧ b ≤ high := ⟨UInt8.le_iff_toNat_le.2 hlow, UInt8.le_iff_toNat_le.2 hhigh⟩
  simp [lossyFrom, step, hin]

/-- A character is shown for its octets.

**Proof sketch.** By the number of octets that the character takes. The first of them opens a
sequence of that length (`start_two`, `start_three`, `start_four`), the next ones are within their
bounds, since the character is none of a surrogate and not too large, and the last one ends it. What
the octets carry is the number of the character again. -/
lemma lossyFrom_encodeChar (c : Char) :
    lossyFrom .idle (String.utf8EncodeChar c ++ bs) = c :: lossyFrom .idle bs := by
  have hc : Char.ofNat c.val.toNat = c := Char.ofNat_toNat c
  have hvalid : c.val.toNat < 0xD800 ∨ 0xDFFF < c.val.toNat ∧ c.val.toNat < 0x110000 := c.valid
  unfold String.utf8EncodeChar
  generalize c.val.toNat = v at hc hvalid
  dsimp only
  split
  · rename_i h
    have hv : (UInt8.ofNat v).toNat = v := UInt8.toNat_ofNat_of_lt' (show v < 256 by omega)
    simp [lossyFrom, step, start, hv, Nat.lt_succ_of_le h, hc]
  split
  · have h1 := UInt8.toNat_ofNat_of_lt' (show v / 64 % 32 + 192 < 256 by omega)
    have h2 := UInt8.toNat_ofNat_of_lt' (show v % 64 + 128 < 256 by omega)
    rw [List.cons_append, List.cons_append, List.nil_append,
      lossyFrom_start (start_two (by omega) (by omega)),
      lossyFrom_last _ (by simp; omega) (by simp; omega), h1, h2]
    rw [show 64 * (v / 64 % 32 + 192 - 192) + (v % 64 + 128 - 128) = v by omega, hc]
  split
  · have h1 := UInt8.toNat_ofNat_of_lt' (show v / 4096 % 16 + 224 < 256 by omega)
    have h2 := UInt8.toNat_ofNat_of_lt' (show v / 64 % 64 + 128 < 256 by omega)
    have h3 := UInt8.toNat_ofNat_of_lt' (show v % 64 + 128 < 256 by omega)
    rw [List.cons_append, List.cons_append, List.cons_append, List.nil_append,
      lossyFrom_start (start_three (by omega) (by omega)),
      lossyFrom_more _ (by decide)
        (by
          rw [h1, h2]
          split
          · simp
            omega
          · simp)
        (by rw [h1, h2]; split <;> (simp; omega)),
      lossyFrom_last _ (by simp; omega) (by simp; omega), h1, h2, h3]
    rw [show 64 * (64 * (v / 4096 % 16 + 224 - 224) + (v / 64 % 64 + 128 - 128)) +
      (v % 64 + 128 - 128) = v by omega, hc]
  · have h1 := UInt8.toNat_ofNat_of_lt' (show v / 262144 % 8 + 240 < 256 by omega)
    have h2 := UInt8.toNat_ofNat_of_lt' (show v / 4096 % 64 + 128 < 256 by omega)
    have h3 := UInt8.toNat_ofNat_of_lt' (show v / 64 % 64 + 128 < 256 by omega)
    have h4 := UInt8.toNat_ofNat_of_lt' (show v % 64 + 128 < 256 by omega)
    rw [List.cons_append, List.cons_append, List.cons_append, List.cons_append, List.nil_append,
      lossyFrom_start (start_four (by omega) (by omega)),
      lossyFrom_more _ (by decide)
        (by
          rw [h1, h2]
          split
          · simp
            omega
          · simp)
        (by rw [h1, h2]; split <;> (simp; omega)),
      lossyFrom_more _ (by decide) (by simp; omega) (by simp; omega),
      lossyFrom_last _ (by simp; omega) (by simp; omega), h1, h2, h3, h4]
    rw [show 64 * (64 * (64 * (v / 262144 % 8 + 240 - 240) + (v / 4096 % 64 + 128 - 128)) +
      (v / 64 % 64 + 128 - 128)) + (v % 64 + 128 - 128) = v by omega, hc]

/-- Characters are shown for their octets. -/
lemma lossyChars_encodeChars (cs : List Char) : lossyChars (encodeChars cs) = cs := by
  unfold lossyChars encodeChars
  induction cs with
  | nil => rfl
  | cons c cs ih => rw [List.flatMap_cons, lossyFrom_encodeChar, ih]

/-- **Text is shown** for its octets. -/
theorem lossy_encode (s : String) : lossy (encode s) = s := by
  rw [lossy, encode, lossyChars_encodeChars, String.ofList_toList]

end Text.Utf8

end Sockets
