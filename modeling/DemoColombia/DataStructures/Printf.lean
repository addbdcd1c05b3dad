import Mathlib.Data.Int.Notation
import Mathlib.Data.List.Basic

/-! # Printed numbers and bounded buffers

`%d`, `%0*d` (`zeroPadded`) and `g_snprintf`, which cuts a text that does not fit its buffer.

* `eq_minus_or_isDigit_of_mem` — what a printed number is made of.
* `zeroPadded_inj` — padding loses nothing.
* `zeroPadded_two` — two digits, written by hand.
* `g_snprintf_inj` — two texts that fit are told apart by what is in the buffer. -/

namespace DemoColombia

/-- `g_snprintf` into a buffer of `size` bytes: the text without what does not fit before the NUL.
-/
def g_snprintf (size : ℕ) (text : String) : List UInt8 := text.toUTF8.toList.take (size - 1)

/-- `%0*d`: at least `width` characters, the sign included. -/
def zeroPadded (width : ℕ) (n : ℤ) : String :=
  -- the sign counts for the width, and the zeros stand behind it
  let sign := if n < 0 then "-" else ""
  let digits := toString n.natAbs
  sign ++ String.ofList (List.replicate (width - sign.length - digits.length) '0') ++ digits

/-- A printed number is made of digits and a minus sign. -/
theorem eq_minus_or_isDigit_of_mem {n : ℤ} {c : Char} (h : c ∈ (toString n).toList) :
    c = '-' ∨ c.isDigit = true := by
  rw [Int.toString_eq_repr, Int.repr_eq_if] at h
  split at h
  · rw [Nat.toList_repr] at h
    exact .inr (Nat.isDigit_of_mem_toDigits (by decide) (by decide) h)
  · rw [String.toList_append, Nat.toList_repr, List.mem_append] at h
    rcases h with h | h
    · exact .inl (List.mem_singleton.mp h)
    · exact .inr (Nat.isDigit_of_mem_toDigits (by decide) (by decide) h)

/-! ## Padding -/

/-- A natural number is printed as zeros and its digits. -/
theorem zeroPadded_natCast (width n : ℕ) :
    zeroPadded width n
      = String.ofList (List.replicate (width - (toString n).length) '0') ++ toString n := by
  have hsign : ¬ (n : ℤ) < 0 := by omega
  simp [zeroPadded, hsign]

/-- The digits are read back past the zeros. -/
theorem ofDigitChars_zeroPadded (width n : ℕ) :
    Nat.ofDigitChars 10 (zeroPadded width n).toList 0 = n := by
  rw [zeroPadded_natCast, String.toList_append, Nat.ofDigitChars_append, String.toList_ofList,
    Nat.ofDigitChars_replicate_zero, Nat.mul_zero, Nat.toString_eq_repr, Nat.toList_repr,
    Nat.ofDigitChars_ten_toDigits]

/-- **Padded numbers are told apart.** -/
theorem zeroPadded_inj {width n m : ℕ} : zeroPadded width n = zeroPadded width m ↔ n = m := by
  refine ⟨fun h => ?_, fun h => by rw [h]⟩
  have hread := congrArg (fun s => Nat.ofDigitChars 10 s.toList 0) h
  simpa only [ofDigitChars_zeroPadded] using hread

/-- The padded number has the given width, or more if its digits need more. -/
theorem length_zeroPadded (width n : ℕ) :
    (zeroPadded width n).length = max width (toString n).length := by
  rw [zeroPadded_natCast, String.length_append, String.length_ofList, List.length_replicate]
  omega

/-- Two digits by hand: a zero in front of a number below ten, nothing in front of the others. -/
theorem zeroPadded_two (n : ℕ) :
    zeroPadded 2 n = if n < 10 then "0" ++ toString n else toString n := by
  have hpos := Nat.length_repr_pos (n := n)
  have hlen : n.repr.length ≤ 1 ↔ n < 10 := by
    simpa using Nat.length_repr_le_iff (n := n) Nat.one_pos
  rw [zeroPadded_natCast, Nat.toString_eq_repr]
  split
  · have hone : 2 - n.repr.length = 1 := by omega
    rw [hone]
    rfl
  · have hzero : 2 - n.repr.length = 0 := by omega
    rw [hzero]
    exact String.empty_append

/-- The printed digits are single bytes. -/
theorem utf8Size_of_mem_zeroPadded {width n : ℕ} {c : Char} (h : c ∈ (zeroPadded width n).toList) :
    c.utf8Size = 1 := by
  rw [zeroPadded_natCast, String.toList_append, String.toList_ofList, Nat.toString_eq_repr,
    Nat.toList_repr, List.mem_append] at h
  rcases h with h | h
  · rw [List.eq_of_mem_replicate h]
    rfl
  · have hdigit := Nat.isDigit_of_mem_toDigits (by decide) (by decide) h
    rw [Char.utf8Size_eq_one_iff]
    simp only [Char.isDigit, Bool.and_eq_true, decide_eq_true_eq] at hdigit
    exact Nat.le_trans hdigit.2 (by decide)

/-! ## Buffers -/

/-- The loop of `ByteArray.toList` pushes the bytes from `i` on. -/
theorem toList_loop (b : ByteArray) (i : ℕ) (r : List UInt8) :
    ByteArray.toList.loop b i r = r.reverse ++ b.data.toList.drop i := by
  fun_induction ByteArray.toList.loop b i r with
  | case1 i r h ih =>
    have hlt : i < b.data.toList.length := h
    rw [ih, List.drop_eq_getElem_cons hlt, List.reverse_cons, List.append_assoc]
    simp [ByteArray.get!, getElem!_pos b.data i h]
  | case2 i r h => rw [List.drop_eq_nil_of_le (Nat.le_of_not_lt h), List.append_nil]

/-- The bytes of a text are those of its characters. -/
theorem toList_toUTF8 (s : String) : s.toUTF8.toList = s.toList.flatMap String.utf8EncodeChar := by
  have hbytes : s.toUTF8 = s.toList.utf8Encode := String.utf8Encode_toList.symm
  rw [hbytes, ByteArray.toList, toList_loop, List.utf8Encode, List.toList_data_toByteArray]
  rfl

theorem toList_toUTF8_append (a b : String) :
    (a ++ b).toUTF8.toList = a.toUTF8.toList ++ b.toUTF8.toList := by
  simp only [toList_toUTF8, String.toList_append, List.flatMap_append]

/-- Texts are told apart by their bytes. -/
theorem toList_toUTF8_inj {a b : String} : a.toUTF8.toList = b.toUTF8.toList ↔ a = b := by
  refine ⟨fun h => ?_, fun h => by rw [h]⟩
  have hdata : a.toUTF8.data.toList = b.toUTF8.data.toList := by
    simpa only [ByteArray.toList, toList_loop, List.reverse_nil, List.nil_append,
      List.drop_zero] using h
  exact String.toByteArray_inj.mp (ByteArray.ext (Array.toList_inj.mp hdata))

/-- A text of other single-byte characters does not have the byte of a character. -/
theorem notMem_toUTF8 {s : String} {d : Char}
    (h : ∀ c ∈ s.toList, c.utf8Size = 1 ∧ c.val.toUInt8 ≠ d.val.toUInt8) :
    d.val.toUInt8 ∉ s.toUTF8.toList := by
  rw [toList_toUTF8, List.mem_flatMap]
  rintro ⟨c, hc, hmem⟩
  obtain ⟨hsize, hne⟩ := h c hc
  rw [String.utf8EncodeChar_eq_singleton hsize, List.mem_singleton] at hmem
  exact hne hmem.symm

/-- A text of single-byte characters has as many bytes as characters. -/
theorem length_toUTF8 {s : String} (h : ∀ c ∈ s.toList, c.utf8Size = 1) :
    s.toUTF8.toList.length = s.length := by
  have hone : s.toList.map (fun c => (String.utf8EncodeChar c).length) = s.toList.map fun _ => 1 :=
    List.map_congr_left fun c hc => by rw [String.length_utf8EncodeChar, h c hc]
  rw [toList_toUTF8, List.length_flatMap, hone, ← String.length_toList]
  simp

/-- **Texts that fit are told apart by the buffer.** -/
theorem g_snprintf_inj {size : ℕ} {a b : String} (ha : a.toUTF8.toList.length ≤ size - 1)
    (hb : b.toUTF8.toList.length ≤ size - 1) : g_snprintf size a = g_snprintf size b ↔ a = b := by
  refine ⟨fun h => ?_, fun h => by rw [h]⟩
  rw [g_snprintf, g_snprintf, List.take_of_length_le ha, List.take_of_length_le hb] at h
  exact toList_toUTF8_inj.mp h

end DemoColombia
