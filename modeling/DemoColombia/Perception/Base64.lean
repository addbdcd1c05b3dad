import DemoColombia.Perception.ObjInfo
import Mathlib.Data.Nat.Bitwise

/-! # Pictures as text (`base64.hpp`, `set_mqtt_frame_message`)

Texts and data are bytes, and the numbers in between are naturals that fit their types. The tables
of the header are given by the position of a character in the alphabet; those for decoding are the
ones of a little-endian machine, where the bytes of a group are the lowest bytes of the sum of its
entries.

* `from_base64_to_base64` — what was encoded comes back, and both buffers are filled to the end.
* `from_base64_eq_ok_iff` — what is decoded: groups of four characters, of which the last may end
  with padding; the bits that belong to no byte are not looked at.
* `frame_recovered` — the member `frame` of a frame message holds the encoded picture. -/

namespace DemoColombia.Perception

/-! ## Tables -/

/-- The alphabet, the first 64 entries of `encode_table_1`. -/
def base64Alphabet : List UInt8 :=
  "ABCDEFGHIJKLMNOPQRSTUVWXYZabcdefghijklmnopqrstuvwxyz0123456789+/".toList.map fun c =>
    UInt8.ofNat c.toNat

/-- `padding_char`. -/
def padding_char : UInt8 := 61

/-- `bad_char`. -/
def bad_char : ℕ := 0x01FFFFFF

/-- The character of a value. -/
def base64Char (v : ℕ) : UInt8 := base64Alphabet.getD v 0

/-- `encode_table_0`: four entries for each character. -/
def encode_table_0 (t : ℕ) : UInt8 := base64Char (t / 4)

/-- `encode_table_1`: the alphabet four times. -/
def encode_table_1 (t : ℕ) : UInt8 := base64Char (t % 64)

/-- The value of a character. -/
def base64Value (c : UInt8) : Option ℕ := base64Alphabet.idxOf? c

/-- A table for decoding, `bad_char` outside the alphabet. -/
def decode_table (entry : ℕ → ℕ) (c : UInt8) : ℕ :=
  match base64Value c with
  | none => bad_char
  | some v => entry v

/-- `decode_table_0`. -/
def decode_table_0 : UInt8 → ℕ := decode_table fun v => v * 4

/-- `decode_table_1`. -/
def decode_table_1 : UInt8 → ℕ := decode_table fun v => v / 16 + v % 16 * 2 ^ 12

/-- `decode_table_2`. -/
def decode_table_2 : UInt8 → ℕ := decode_table fun v => v / 4 * 2 ^ 8 + v % 4 * 2 ^ 22

/-- `decode_table_3`. -/
def decode_table_3 : UInt8 → ℕ := decode_table fun v => v * 2 ^ 16

/-! ## Encoding -/

/-- The index of the bits that two neighbouring bytes share in the second character. -/
def index_12 (t1 t2 : ℕ) : ℕ := ((t1 &&& 0x03) <<< 4) ||| ((t2 >>> 4) &&& 0x0F)

/-- The index of those in the third one. -/
def index_23 (t2 t3 : ℕ) : ℕ := ((t2 &&& 0x0F) <<< 2) ||| ((t3 >>> 6) &&& 0x03)

/-- `to_base64`. -/
def to_base64 : List UInt8 → List UInt8
  | t1 :: t2 :: t3 :: bytes =>
    encode_table_0 t1.toNat :: encode_table_1 (index_12 t1.toNat t2.toNat)
      :: encode_table_1 (index_23 t2.toNat t3.toNat) :: encode_table_1 t3.toNat :: to_base64 bytes
  | [t1, t2] =>
    [encode_table_0 t1.toNat, encode_table_1 (index_12 t1.toNat t2.toNat),
      encode_table_1 ((t2.toNat &&& 0x0F) <<< 2), padding_char]
  | [t1] =>
    [encode_table_0 t1.toNat, encode_table_1 ((t1.toNat &&& 0x03) <<< 4), padding_char,
      padding_char]
  | [] => []

/-- The size of the buffer `to_base64` fills. -/
def encodedsize (binarytextsize : ℕ) : ℕ :=
  (binarytextsize / 3 + if 0 < binarytextsize % 3 then 1 else 0) * 4

/-! ## Decoding -/

/-- The texts `from_base64` throws. -/
inductive Base64Error
  /-- `Invalid base64 encoded data - Size not divisible by 4`. -/
  | size
  /-- `Invalid base64 encoded data - Found more than 2 padding signs`. -/
  | padding
  /-- `Invalid base64 encoded data - Invalid character`. -/
  | character
  deriving DecidableEq

/-- Byte `i` of a number in memory, `tempBytes[i]`. -/
def tempByte (temp i : ℕ) : UInt8 := .ofNat (temp >>> (8 * i))

/-- The loop over the full groups. -/
def decodeGroups : List UInt8 → Except Base64Error (List UInt8)
  | t1 :: t2 :: t3 :: t4 :: bytes =>
    let temp := decode_table_0 t1 ||| decode_table_1 t2 ||| decode_table_2 t3 ||| decode_table_3 t4
    if temp ≥ bad_char then .error .character
    else (decodeGroups bytes).map ([tempByte temp 0, tempByte temp 1, tempByte temp 2] ++ ·)
  | _ => .ok []

/-- The switch after the loop. -/
def decodeLast (numPadding : ℕ) (bytes : List UInt8) : Except Base64Error (List UInt8) :=
  match numPadding, bytes with
  | 1, t1 :: t2 :: t3 :: _ =>
    let temp := decode_table_0 t1 ||| decode_table_1 t2 ||| decode_table_2 t3
    if temp ≥ bad_char then .error .character else .ok [tempByte temp 0, tempByte temp 1]
  | 2, t1 :: t2 :: _ =>
    let temp := decode_table_0 t1 ||| decode_table_1 t2
    if temp ≥ bad_char then .error .character else .ok [tempByte temp 0]
  | _, _ => .ok []

/-- `numPadding`: the padding signs among the last four characters. -/
def numPadding (base64Text : List UInt8) : ℕ := (base64Text.reverse.take 4).count padding_char

/-- The loop, `i` times, and the switch after it. -/
def decodeText (base64Text : List UInt8) (numPadding i : ℕ) : Except Base64Error (List UInt8) :=
  (decodeGroups (base64Text.take (4 * i))).bind fun decoded =>
    (decodeLast numPadding (base64Text.drop (4 * i))).map (decoded ++ ·)

/-- `from_base64`: what it writes into its buffer. -/
def from_base64 (base64Text : List UInt8) : Except Base64Error (List UInt8) :=
  if base64Text = [] then .ok []
  else if base64Text.length % 4 ≠ 0 then .error .size
  else if 2 < numPadding base64Text then .error .padding
  else decodeText base64Text (numPadding base64Text)
    (base64Text.length / 4 - if numPadding base64Text ≠ 0 then 1 else 0)

/-- The size of the buffer `from_base64` fills. -/
def decodedsize (base64Text : List UInt8) : ℕ :=
  base64Text.length * 3 / 4 - numPadding base64Text

/-! ## Characters and bits -/

theorem base64Value_char : ∀ v < 64, base64Value (base64Char v) = some v := by
  decide +kernel

theorem base64Value_padding : base64Value padding_char = none := by
  decide +kernel

theorem base64Value_lt {c : UInt8} {v : ℕ} (h : base64Value c = some v) : v < 64 := by
  have hlength : base64Alphabet.length = 64 := by decide +kernel
  obtain ⟨hv, -⟩ := List.findIdx?_eq_some_iff_getElem.mp h
  rwa [hlength] at hv

/-- The padding sign has no value. -/
theorem ne_padding_char {c : UInt8} {v : ℕ} (h : base64Value c = some v) : c ≠ padding_char := by
  rintro rfl
  rw [base64Value_padding] at h
  cases h

/-- A table entry: one of the alphabet is below `2 ^ 24`, any other at least `bad_char`. -/
def TableEntry (d : ℕ) (known : Prop) : Prop :=
  (known ∧ d < 2 ^ 24) ∨ (¬ known ∧ bad_char ≤ d)

/-- The sum of entries is good if and only if all are. -/
theorem TableEntry.or {d d' : ℕ} {known known' : Prop} (h : TableEntry d known)
    (h' : TableEntry d' known') : TableEntry (d ||| d') (known ∧ known') := by
  rcases h with ⟨hknown, hd⟩ | ⟨hknown, hd⟩
  · rcases h' with ⟨hknown', hd'⟩ | ⟨hknown', hd'⟩
    · exact .inl ⟨⟨hknown, hknown'⟩, Nat.or_lt_two_pow hd hd'⟩
    · exact .inr ⟨fun hboth => hknown' hboth.2, hd'.trans Nat.right_le_or⟩
  · exact .inr ⟨fun hboth => hknown hboth.1, hd.trans Nat.left_le_or⟩

theorem TableEntry.ge_iff {d : ℕ} {known : Prop} (h : TableEntry d known) :
    d ≥ bad_char ↔ ¬ known := by
  rcases h with ⟨hknown, hd⟩ | ⟨hknown, hd⟩
  · exact iff_of_false (not_le.mpr (hd.trans (by decide))) (not_not.mpr hknown)
  · exact iff_of_true hd hknown

/-- The entries of a table. -/
theorem entry_decode_table {entry : ℕ → ℕ} (h : ∀ v < 64, entry v < 2 ^ 24) (c : UInt8) :
    TableEntry (decode_table entry c) (base64Value c).isSome := by
  unfold decode_table
  cases hc : base64Value c with
  | none => exact .inr ⟨by simp, le_rfl⟩
  | some v => exact .inl ⟨rfl, h v (base64Value_lt hc)⟩

theorem entry_0 (c : UInt8) : TableEntry (decode_table_0 c) (base64Value c).isSome :=
  entry_decode_table (fun v hv => by omega) c

theorem entry_1 (c : UInt8) : TableEntry (decode_table_1 c) (base64Value c).isSome :=
  entry_decode_table (fun v hv => by omega) c

theorem entry_2 (c : UInt8) : TableEntry (decode_table_2 c) (base64Value c).isSome :=
  entry_decode_table (fun v hv => by omega) c

theorem entry_3 (c : UInt8) : TableEntry (decode_table_3 c) (base64Value c).isSome :=
  entry_decode_table (fun v hv => by omega) c

/-- The bytes of a sum. -/
theorem tempByte_or (d d' i : ℕ) : tempByte (d ||| d') i = tempByte d i ||| tempByte d' i := by
  rw [tempByte, Nat.shiftRight_or_distrib, UInt8.ofNat_or]
  rfl

/-- A byte of a number, by division. -/
theorem tempByte_eq {d i m n : ℕ} (hm : 2 ^ (8 * i) = m) (h : d / m % 2 ^ 8 = n % 2 ^ 8) :
    tempByte d i = .ofNat n := by
  rw [tempByte, Nat.shiftRight_eq_div_pow, hm, ← UInt8.ofNat_mod_size, h, UInt8.ofNat_mod_size]

/-- The bytes of an entry are those of its value. -/
theorem tempByte_decode_table {entry : ℕ → ℕ} {i m : ℕ} {c : UInt8} {v n : ℕ}
    (hm : 2 ^ (8 * i) = m) (hc : base64Value c = some v)
    (h : v < 64 → entry v / m % 2 ^ 8 = n % 2 ^ 8) :
    tempByte (decode_table entry c) i = .ofNat n := by
  simp only [decode_table, hc]
  exact tempByte_eq hm (h (base64Value_lt hc))

/-- Bits that do not overlap. -/
theorem or_eq_add (a k : ℕ) {b : ℕ} (h : b < 2 ^ k) : a * 2 ^ k ||| b = a * 2 ^ k + b := by
  rw [Nat.mul_comm, Nat.two_pow_add_eq_or_of_lt h]

theorem ofNat_or_eq (a k : ℕ) {b : ℕ} (h : b < 2 ^ k) :
    UInt8.ofNat (a * 2 ^ k) ||| .ofNat b = .ofNat (a * 2 ^ k + b) := by
  rw [← UInt8.ofNat_or, or_eq_add a k h]

/-- The upper bytes of an entry whose value is in two parts. -/
theorem upper_bytes {q r : ℕ} (hr : r < 16) (hq : q < 16) :
    (q + r * 2 ^ 12) / 256 % 2 ^ 8 = r * 2 ^ 4 % 2 ^ 8 ∧
      (q + r * 2 ^ 12) / 65536 % 2 ^ 8 = 0 % 2 ^ 8 ∧
      (r < 4 → (q * 2 ^ 8 + r * 2 ^ 22) / 65536 % 2 ^ 8 = r * 2 ^ 6 % 2 ^ 8) := by
  omega

section

variable {c1 c2 c3 c4 : UInt8} {v1 v2 v3 v4 : ℕ}

/-- The bytes of the entry of a first character. -/
theorem tempByte_table_0 (h : base64Value c1 = some v1) :
    tempByte (decode_table_0 c1) 0 = .ofNat (v1 * 2 ^ 2) ∧ tempByte (decode_table_0 c1) 1 = 0 ∧
      tempByte (decode_table_0 c1) 2 = 0 :=
  ⟨tempByte_decode_table (m := 1) rfl h fun hv => by omega,
    tempByte_decode_table (m := 256) (n := 0) rfl h fun hv => by omega,
    tempByte_decode_table (m := 65536) (n := 0) rfl h fun hv => by omega⟩

/-- The bytes of the entry of a second character. -/
theorem tempByte_table_1 (h : base64Value c2 = some v2) :
    tempByte (decode_table_1 c2) 0 = .ofNat (v2 / 16) ∧
      tempByte (decode_table_1 c2) 1 = .ofNat (v2 % 16 * 2 ^ 4) ∧
      tempByte (decode_table_1 c2) 2 = 0 :=
  ⟨tempByte_decode_table (m := 1) rfl h fun hv => by omega,
    tempByte_decode_table (m := 256) rfl h fun hv => (upper_bytes (by omega) (by omega)).1,
    tempByte_decode_table (m := 65536) rfl h fun hv => (upper_bytes (by omega) (by omega)).2.1⟩

/-- The bytes of the entry of a third character. -/
theorem tempByte_table_2 (h : base64Value c3 = some v3) :
    tempByte (decode_table_2 c3) 0 = 0 ∧ tempByte (decode_table_2 c3) 1 = .ofNat (v3 / 4) ∧
      tempByte (decode_table_2 c3) 2 = .ofNat (v3 % 4 * 2 ^ 6) :=
  ⟨tempByte_decode_table (m := 1) (n := 0) rfl h fun hv => by omega,
    tempByte_decode_table (m := 256) rfl h fun hv => by omega,
    tempByte_decode_table (m := 65536) rfl h fun hv =>
      (upper_bytes (by omega) (by omega)).2.2 (by omega)⟩

/-- The bytes of the entry of a fourth character. -/
theorem tempByte_table_3 (h : base64Value c4 = some v4) :
    tempByte (decode_table_3 c4) 0 = 0 ∧ tempByte (decode_table_3 c4) 1 = 0 ∧
      tempByte (decode_table_3 c4) 2 = .ofNat v4 :=
  ⟨tempByte_decode_table (m := 1) (n := 0) rfl h fun hv => by omega,
    tempByte_decode_table (m := 256) (n := 0) rfl h fun hv => by omega,
    tempByte_decode_table (m := 65536) rfl h fun hv => by omega⟩

/-- The byte of two characters. -/
def byte_0 (v1 v2 : ℕ) : UInt8 := .ofNat (v1 * 2 ^ 2 + v2 / 16)

def byte_1 (v2 v3 : ℕ) : UInt8 := .ofNat (v2 % 16 * 2 ^ 4 + v3 / 4)

def byte_2 (v3 v4 : ℕ) : UInt8 := .ofNat (v3 % 4 * 2 ^ 6 + v4)

variable (h1 : base64Value c1 = some v1) (h2 : base64Value c2 = some v2)
  (h3 : base64Value c3 = some v3) (h4 : base64Value c4 = some v4)

include h1 h2 in
/-- The byte of a group of two. -/
theorem tempByte_group_2 :
    tempByte (decode_table_0 c1 ||| decode_table_1 c2) 0 = byte_0 v1 v2 := by
  have hv2 := base64Value_lt h2
  rw [tempByte_or, (tempByte_table_0 h1).1, (tempByte_table_1 h2).1,
    ofNat_or_eq v1 2 (by omega)]
  rfl

include h1 h2 h3 in
/-- The bytes of a group of three. -/
theorem tempByte_group_3 :
    tempByte (decode_table_0 c1 ||| decode_table_1 c2 ||| decode_table_2 c3) 0 = byte_0 v1 v2 ∧
      tempByte (decode_table_0 c1 ||| decode_table_1 c2 ||| decode_table_2 c3) 1
        = byte_1 v2 v3 := by
  have hv3 := base64Value_lt h3
  constructor
  · rw [tempByte_or, tempByte_group_2 h1 h2, (tempByte_table_2 h3).1, UInt8.or_zero]
  · rw [tempByte_or, tempByte_or, (tempByte_table_0 h1).2.1, (tempByte_table_1 h2).2.1,
      (tempByte_table_2 h3).2.1, UInt8.zero_or, ofNat_or_eq (v2 % 16) 4 (by omega)]
    rfl

include h1 h2 h3 h4 in
/-- The bytes of a full group. -/
theorem tempByte_group_4 {temp : ℕ} (htemp : temp = decode_table_0 c1 ||| decode_table_1 c2
      ||| decode_table_2 c3 ||| decode_table_3 c4) :
    tempByte temp 0 = byte_0 v1 v2 ∧ tempByte temp 1 = byte_1 v2 v3 ∧
      tempByte temp 2 = byte_2 v3 v4 := by
  have hv4 := base64Value_lt h4
  subst htemp
  refine ⟨?_, ?_, ?_⟩
  · rw [tempByte_or, (tempByte_group_3 h1 h2 h3).1, (tempByte_table_3 h4).1, UInt8.or_zero]
  · rw [tempByte_or, (tempByte_group_3 h1 h2 h3).2, (tempByte_table_3 h4).2.1, UInt8.or_zero]
  · rw [tempByte_or, tempByte_or, tempByte_or, (tempByte_table_0 h1).2.2,
      (tempByte_table_1 h2).2.2, (tempByte_table_2 h3).2.2, (tempByte_table_3 h4).2.2,
      UInt8.zero_or, UInt8.zero_or, ofNat_or_eq (v3 % 4) 6 hv4]
    rfl

end

/-! ## What is decoded -/

/-- What a text stands for: full groups, and perhaps a last one with padding. -/
inductive Decodes : List UInt8 → List UInt8 → Prop
  | nil : Decodes [] []
  | one {c1 c2 : UInt8} {v1 v2 : ℕ} (h1 : base64Value c1 = some v1)
      (h2 : base64Value c2 = some v2) :
      Decodes [c1, c2, padding_char, padding_char] [byte_0 v1 v2]
  | two {c1 c2 c3 : UInt8} {v1 v2 v3 : ℕ} (h1 : base64Value c1 = some v1)
      (h2 : base64Value c2 = some v2) (h3 : base64Value c3 = some v3) :
      Decodes [c1, c2, c3, padding_char] [byte_0 v1 v2, byte_1 v2 v3]
  | group {c1 c2 c3 c4 : UInt8} {v1 v2 v3 v4 : ℕ} {text data : List UInt8}
      (h1 : base64Value c1 = some v1) (h2 : base64Value c2 = some v2)
      (h3 : base64Value c3 = some v3) (h4 : base64Value c4 = some v4) (h : Decodes text data) :
      Decodes (c1 :: c2 :: c3 :: c4 :: text)
        (byte_0 v1 v2 :: byte_1 v2 v3 :: byte_2 v3 v4 :: data)

/-- The characters of a group that is decoded have values. -/
theorem known_of_not_ge {d : ℕ} {known : Prop} (h : TableEntry d known) (hgood : ¬ d ≥ bad_char) :
    known :=
  not_not.mp (mt h.ge_iff.mpr hgood)

/-- A result that is passed on. -/
theorem exceptMap_eq_ok_iff {ε α β : Type} {x : Except ε α} {f : α → β} {b : β} :
    x.map f = .ok b ↔ ∃ a, x = .ok a ∧ f a = b := by
  cases x with
  | error e => simp [Except.map]
  | ok a => simp [Except.map]

theorem exceptBind_eq_ok_iff {ε α β : Type} {x : Except ε α} {f : α → Except ε β} {b : β} :
    x.bind f = .ok b ↔ ∃ a, x = .ok a ∧ f a = .ok b := by
  cases x with
  | error e => simp [Except.bind]
  | ok a => simp [Except.bind]

section

variable {c1 c2 c3 c4 : UInt8} {text data : List UInt8}

/-- A full group. -/
theorem decodeGroups_cons_eq_ok_iff : decodeGroups (c1 :: c2 :: c3 :: c4 :: text) = .ok data ↔
    ∃ v1 v2 v3 v4, (base64Value c1 = some v1 ∧ base64Value c2 = some v2 ∧
      base64Value c3 = some v3 ∧ base64Value c4 = some v4) ∧ ∃ data',
        decodeGroups text = .ok data' ∧
          data = byte_0 v1 v2 :: byte_1 v2 v3 :: byte_2 v3 v4 :: data' := by
  have hentry := (((entry_0 c1).or (entry_1 c2)).or (entry_2 c3)).or (entry_3 c4)
  rw [decodeGroups]
  split
  · rename_i hbad
    refine iff_of_false (by simp) ?_
    rintro ⟨v1, v2, v3, v4, ⟨h1, h2, h3, h4⟩, -⟩
    exact hentry.ge_iff.mp hbad (by simp [h1, h2, h3, h4])
  · rename_i hge
    obtain ⟨⟨⟨h1, h2⟩, h3⟩, h4⟩ := known_of_not_ge hentry hge
    obtain ⟨v1, h1⟩ := Option.isSome_iff_exists.mp h1
    obtain ⟨v2, h2⟩ := Option.isSome_iff_exists.mp h2
    obtain ⟨v3, h3⟩ := Option.isSome_iff_exists.mp h3
    obtain ⟨v4, h4⟩ := Option.isSome_iff_exists.mp h4
    obtain ⟨hbyte0, hbyte1, hbyte2⟩ := tempByte_group_4 h1 h2 h3 h4 rfl
    rw [exceptMap_eq_ok_iff, hbyte0, hbyte1, hbyte2, h1, h2, h3, h4]
    simp [@eq_comm _ data]

/-- A last group with one padding sign. -/
theorem decodeLast_one_eq_ok_iff : decodeLast 1 (c1 :: c2 :: c3 :: text) = .ok data ↔
    ∃ v1 v2 v3, (base64Value c1 = some v1 ∧ base64Value c2 = some v2 ∧
      base64Value c3 = some v3) ∧ data = [byte_0 v1 v2, byte_1 v2 v3] := by
  have hentry := ((entry_0 c1).or (entry_1 c2)).or (entry_2 c3)
  rw [decodeLast]
  split
  · rename_i hbad
    refine iff_of_false (by simp) ?_
    rintro ⟨v1, v2, v3, ⟨h1, h2, h3⟩, -⟩
    exact hentry.ge_iff.mp hbad (by simp [h1, h2, h3])
  · rename_i hge
    obtain ⟨⟨h1, h2⟩, h3⟩ := known_of_not_ge hentry hge
    obtain ⟨v1, h1⟩ := Option.isSome_iff_exists.mp h1
    obtain ⟨v2, h2⟩ := Option.isSome_iff_exists.mp h2
    obtain ⟨v3, h3⟩ := Option.isSome_iff_exists.mp h3
    obtain ⟨hbyte0, hbyte1⟩ := tempByte_group_3 h1 h2 h3
    rw [hbyte0, hbyte1, h1, h2, h3]
    simp [@eq_comm _ data]

/-- A last group with two padding signs. -/
theorem decodeLast_two_eq_ok_iff : decodeLast 2 (c1 :: c2 :: text) = .ok data ↔
    ∃ v1 v2, (base64Value c1 = some v1 ∧ base64Value c2 = some v2) ∧ data = [byte_0 v1 v2] := by
  have hentry := (entry_0 c1).or (entry_1 c2)
  rw [decodeLast]
  split
  · rename_i hbad
    refine iff_of_false (by simp) ?_
    rintro ⟨v1, v2, ⟨h1, h2⟩, -⟩
    exact hentry.ge_iff.mp hbad (by simp [h1, h2])
  · rename_i hge
    obtain ⟨h1, h2⟩ := known_of_not_ge hentry hge
    obtain ⟨v1, h1⟩ := Option.isSome_iff_exists.mp h1
    obtain ⟨v2, h2⟩ := Option.isSome_iff_exists.mp h2
    rw [tempByte_group_2 h1 h2, h1, h2]
    simp [@eq_comm _ data]

/-- The padding is that of the last group. -/
theorem numPadding_cons (h : 4 ≤ text.length) :
    numPadding (c1 :: c2 :: c3 :: c4 :: text) = numPadding text := by
  have hreverse : (c1 :: c2 :: c3 :: c4 :: text).reverse = text.reverse ++ [c4, c3, c2, c1] := by
    simp
  rw [numPadding, hreverse, List.take_append_of_le_length (by rwa [List.length_reverse])]
  rfl

/-- A group before others. -/
theorem decodeText_cons_eq_ok_iff {padding i : ℕ} :
    decodeText (c1 :: c2 :: c3 :: c4 :: text) padding (i + 1) = .ok data ↔
      ∃ v1 v2 v3 v4, (base64Value c1 = some v1 ∧ base64Value c2 = some v2 ∧
        base64Value c3 = some v3 ∧ base64Value c4 = some v4) ∧ ∃ data',
          decodeText text padding i = .ok data' ∧
            data = byte_0 v1 v2 :: byte_1 v2 v3 :: byte_2 v3 v4 :: data' := by
  have hfront : 4 * (i + 1) = 4 * i + 1 + 1 + 1 + 1 := by omega
  simp only [decodeText, hfront, List.take_succ_cons, List.drop_succ_cons, exceptBind_eq_ok_iff,
    exceptMap_eq_ok_iff, decodeGroups_cons_eq_ok_iff]
  constructor
  · rintro ⟨_, ⟨v1, v2, v3, v4, hvalues, front, hfront, rfl⟩, last, hlast, rfl⟩
    exact ⟨v1, v2, v3, v4, hvalues, _, ⟨front, hfront, last, hlast, rfl⟩, rfl⟩
  · rintro ⟨v1, v2, v3, v4, hvalues, _, ⟨front, hfront, last, hlast, rfl⟩, rfl⟩
    exact ⟨_, ⟨v1, v2, v3, v4, hvalues, front, hfront, rfl⟩, last, hlast, rfl⟩

/-- A text of whole groups. -/
theorem from_base64_eq_decodeText (hne : text ≠ []) (hlength : text.length % 4 = 0) :
    from_base64 text = .ok data ↔ numPadding text ≤ 2 ∧ decodeText text (numPadding text)
      (text.length / 4 - if numPadding text ≠ 0 then 1 else 0) = .ok data := by
  rw [from_base64, if_neg hne, if_neg (not_not.mpr hlength)]
  split
  · rename_i hpadding
    exact iff_of_false (by simp) fun h => absurd h.1 (by omega)
  · rename_i hpadding
    exact (and_iff_right (by omega)).symm

theorem from_base64_cons_eq_ok_iff (hne : text ≠ []) (hlength : text.length % 4 = 0) :
    from_base64 (c1 :: c2 :: c3 :: c4 :: text) = .ok data ↔
      ∃ v1 v2 v3 v4, (base64Value c1 = some v1 ∧ base64Value c2 = some v2 ∧
        base64Value c3 = some v3 ∧ base64Value c4 = some v4) ∧ ∃ data',
          from_base64 text = .ok data' ∧
            data = byte_0 v1 v2 :: byte_1 v2 v3 :: byte_2 v3 v4 :: data' := by
  have hpos := List.length_pos_iff.mpr hne
  have hlength' : (c1 :: c2 :: c3 :: c4 :: text).length = text.length + 4 := rfl
  have hloop : (text.length + 4) / 4 - (if numPadding text ≠ 0 then 1 else 0)
      = (text.length / 4 - if numPadding text ≠ 0 then 1 else 0) + 1 := by
    split
    · omega
    · omega
  rw [from_base64_eq_decodeText (List.cons_ne_nil _ _) (by rw [hlength']; omega),
    numPadding_cons (by omega), hlength', hloop, decodeText_cons_eq_ok_iff]
  simp only [from_base64_eq_decodeText hne hlength]
  constructor
  · rintro ⟨hpadding, v1, v2, v3, v4, hvalues, data', hdata, rfl⟩
    exact ⟨v1, v2, v3, v4, hvalues, data', ⟨hpadding, hdata⟩, rfl⟩
  · rintro ⟨v1, v2, v3, v4, hvalues, data', ⟨hpadding, hdata⟩, rfl⟩
    exact ⟨hpadding, v1, v2, v3, v4, hvalues, data', hdata, rfl⟩

/-- The loop is over at once. -/
theorem decodeText_zero {padding : ℕ} :
    decodeText text padding 0 = .ok data ↔ decodeLast padding text = .ok data := by
  simp [decodeText, decodeGroups, Except.bind, exceptMap_eq_ok_iff]

theorem count_padding (known1 : c1 ≠ padding_char) (known2 : c2 ≠ padding_char) :
    numPadding [c1, c2, c3, c4]
      = (if c3 = padding_char then 1 else 0) + if c4 = padding_char then 1 else 0 := by
  have hcount : numPadding [c1, c2, c3, c4] = [c4, c3, c2, c1].count padding_char := rfl
  rw [hcount]
  simp [List.count_cons, known1, known2]

/-- The last group. -/
theorem from_base64_last :
    from_base64 [c1, c2, c3, c4] = .ok data ↔ Decodes [c1, c2, c3, c4] data := by
  have hloop : ∀ padding, ([c1, c2, c3, c4].length / 4 - if padding ≠ 0 then 1 else 0)
      = if padding = 0 then 1 else 0 := by
    intro padding
    have hone : [c1, c2, c3, c4].length / 4 = 1 := by simp
    rw [hone]
    by_cases hpadding : padding = 0
    · rw [if_neg (not_not.mpr hpadding), if_pos hpadding]
    · rw [if_pos hpadding, if_neg hpadding]
  rw [from_base64_eq_decodeText (List.cons_ne_nil _ _) (by simp), hloop]
  constructor
  · rintro ⟨hle, hdata⟩
    rcases (by omega : numPadding [c1, c2, c3, c4] = 0 ∨ numPadding [c1, c2, c3, c4] = 1 ∨
      numPadding [c1, c2, c3, c4] = 2) with hpadding | hpadding | hpadding
    · rw [hpadding, if_pos rfl] at hdata
      obtain ⟨v1, v2, v3, v4, ⟨h1, h2, h3, h4⟩, data', hdata', rfl⟩ :=
        (@decodeText_cons_eq_ok_iff c1 c2 c3 c4 [] data 0 0).mp hdata
      obtain rfl : [] = data' := Except.ok.inj (decodeText_zero.mp hdata')
      exact .group h1 h2 h3 h4 .nil
    · rw [hpadding, if_neg Nat.one_ne_zero] at hdata
      obtain ⟨v1, v2, v3, ⟨h1, h2, h3⟩, rfl⟩ :=
        decodeLast_one_eq_ok_iff.mp (decodeText_zero.mp hdata)
      rw [count_padding (ne_padding_char h1) (ne_padding_char h2),
        if_neg (ne_padding_char h3)] at hpadding
      obtain rfl : c4 = padding_char := by
        by_contra hne
        simp [hne] at hpadding
      exact .two h1 h2 h3
    · rw [hpadding, if_neg (by decide)] at hdata
      obtain ⟨v1, v2, ⟨h1, h2⟩, rfl⟩ :=
        decodeLast_two_eq_ok_iff.mp (decodeText_zero.mp hdata)
      rw [count_padding (ne_padding_char h1) (ne_padding_char h2)] at hpadding
      obtain ⟨rfl, rfl⟩ : c3 = padding_char ∧ c4 = padding_char := by
        by_contra hne
        rcases not_and_or.mp hne with hne | hne
        · rw [if_neg hne] at hpadding
          split at hpadding <;> omega
        · rw [if_neg hne] at hpadding
          split at hpadding <;> omega
      exact .one h1 h2
  · intro h
    cases h with
    | one h1 h2 =>
      have hpadding : numPadding [c1, c2, padding_char, padding_char] = 2 := by
        rw [count_padding (ne_padding_char h1) (ne_padding_char h2), if_pos rfl]
      rw [hpadding, if_neg (by decide)]
      exact ⟨le_rfl, decodeText_zero.mpr (decodeLast_two_eq_ok_iff.mpr ⟨_, _, ⟨h1, h2⟩, rfl⟩)⟩
    | two h1 h2 h3 =>
      have hpadding : numPadding [c1, c2, c3, padding_char] = 1 := by
        rw [count_padding (ne_padding_char h1) (ne_padding_char h2), if_pos rfl,
          if_neg (ne_padding_char h3)]
      rw [hpadding, if_neg Nat.one_ne_zero]
      exact ⟨by decide, decodeText_zero.mpr
        (decodeLast_one_eq_ok_iff.mpr ⟨_, _, _, ⟨h1, h2, h3⟩, rfl⟩)⟩
    | group h1 h2 h3 h4 h =>
      cases h
      have hpadding : numPadding [c1, c2, c3, c4] = 0 := by
        rw [count_padding (ne_padding_char h1) (ne_padding_char h2), if_neg (ne_padding_char h3),
          if_neg (ne_padding_char h4)]
      rw [hpadding, if_pos rfl]
      exact ⟨by decide, (@decodeText_cons_eq_ok_iff c1 c2 c3 c4 [] _ 0 0).mpr
        ⟨_, _, _, _, ⟨h1, h2, h3, h4⟩, [], decodeText_zero.mpr rfl, rfl⟩⟩

end

/-- A text that stands for something has whole groups. -/
theorem Decodes.length_mod {text data : List UInt8} (h : Decodes text data) :
    text.length % 4 = 0 := by
  induction h with
  | nil => rfl
  | one => simp
  | two => simp
  | group _ _ _ _ _ ih =>
    simp only [List.length_cons]
    omega

/-- A text whose groups are not whole is refused. -/
theorem from_base64_ne_ok {text data : List UInt8} (h : text.length % 4 ≠ 0) :
    from_base64 text ≠ .ok data := by
  have hne : text ≠ [] := by
    rintro rfl
    exact h rfl
  rw [from_base64, if_neg hne, if_pos h]
  simp

/-- A text is decoded as it reads. -/
theorem from_base64_iff_decodes : ∀ text data : List UInt8,
    from_base64 text = .ok data ↔ Decodes text data
  | [], data => by
    constructor
    · intro h
      obtain rfl : [] = data := Except.ok.inj h
      exact .nil
    · intro h
      cases h
      rfl
  | [a], data => iff_of_false (from_base64_ne_ok (by simp)) fun h => by simpa using h.length_mod
  | [a, b], data => iff_of_false (from_base64_ne_ok (by simp)) fun h => by simpa using h.length_mod
  | [a, b, c], data =>
    iff_of_false (from_base64_ne_ok (by simp)) fun h => by simpa using h.length_mod
  | c1 :: c2 :: c3 :: c4 :: text, data => by
    by_cases hlength : text.length % 4 = 0
    · by_cases hne : text = []
      · subst hne
        exact from_base64_last
      · simp only [from_base64_cons_eq_ok_iff hne hlength, from_base64_iff_decodes text]
        constructor
        · rintro ⟨v1, v2, v3, v4, ⟨h1, h2, h3, h4⟩, data', hdata, rfl⟩
          exact .group h1 h2 h3 h4 hdata
        · intro h
          cases h with
          | one => exact absurd rfl hne
          | two => exact absurd rfl hne
          | group h1 h2 h3 h4 h => exact ⟨_, _, _, _, ⟨h1, h2, h3, h4⟩, _, h, rfl⟩
    · have hcons : (c1 :: c2 :: c3 :: c4 :: text).length % 4 ≠ 0 := by
        simpa only [List.length_cons, Nat.add_assoc, Nat.add_mod_right] using hlength
      exact iff_of_false (from_base64_ne_ok hcons) fun h => hcons h.length_mod

/-! ## What is encoded -/

/-- The index of two bytes. -/
theorem index_12_eq (t1 t2 : UInt8) :
    index_12 t1.toNat t2.toNat = t1.toNat % 4 * 2 ^ 4 + t2.toNat / 16 := by
  have ht2 := t2.toNat_lt
  have hlow : t1.toNat &&& 0x03 = t1.toNat % 4 := Nat.and_two_pow_sub_one_eq_mod _ 2
  have hhigh : (t2.toNat >>> 4) &&& 0x0F = t2.toNat / 16 := by
    rw [Nat.shiftRight_eq_div_pow]
    exact (Nat.and_two_pow_sub_one_eq_mod _ 4).trans (Nat.mod_eq_of_lt (by omega))
  rw [index_12, hlow, hhigh, Nat.shiftLeft_eq, or_eq_add _ 4 (by omega)]

/-- The index of the next two. -/
theorem index_23_eq (t2 t3 : UInt8) :
    index_23 t2.toNat t3.toNat = t2.toNat % 16 * 2 ^ 2 + t3.toNat / 64 := by
  have ht3 := t3.toNat_lt
  have hlow : t2.toNat &&& 0x0F = t2.toNat % 16 := Nat.and_two_pow_sub_one_eq_mod _ 4
  have hhigh : (t3.toNat >>> 6) &&& 0x03 = t3.toNat / 64 := by
    rw [Nat.shiftRight_eq_div_pow]
    exact (Nat.and_two_pow_sub_one_eq_mod _ 2).trans (Nat.mod_eq_of_lt (by omega))
  rw [index_23, hlow, hhigh, Nat.shiftLeft_eq, or_eq_add _ 2 (by omega)]

/-- The index where one byte is left, and where two are. -/
theorem index_last (t : UInt8) : (t.toNat &&& 0x03) <<< 4 = t.toNat % 4 * 2 ^ 4 ∧
    (t.toNat &&& 0x0F) <<< 2 = t.toNat % 16 * 2 ^ 2 := by
  have htwo : t.toNat &&& 0x03 = t.toNat % 4 := Nat.and_two_pow_sub_one_eq_mod _ 2
  have hfour : t.toNat &&& 0x0F = t.toNat % 16 := Nat.and_two_pow_sub_one_eq_mod _ 4
  rw [Nat.shiftLeft_eq, Nat.shiftLeft_eq, htwo, hfour]
  exact ⟨rfl, rfl⟩

/-- The value of a first character. -/
theorem base64Value_table_0 (t : UInt8) :
    base64Value (encode_table_0 t.toNat) = some (t.toNat / 4) := by
  have ht := t.toNat_lt
  exact base64Value_char _ (by omega)

/-- The value of another one. -/
theorem base64Value_table_1 {i n : ℕ} (h : i = n) (hn : n < 64) :
    base64Value (encode_table_1 i) = some n := by
  rw [h, encode_table_1, Nat.mod_eq_of_lt hn]
  exact base64Value_char n hn

theorem base64Value_12 (t1 t2 : UInt8) :
    base64Value (encode_table_1 (index_12 t1.toNat t2.toNat))
      = some (t1.toNat % 4 * 2 ^ 4 + t2.toNat / 16) := by
  have ht2 := t2.toNat_lt
  exact base64Value_table_1 (index_12_eq t1 t2) (by omega)

theorem base64Value_23 (t2 t3 : UInt8) :
    base64Value (encode_table_1 (index_23 t2.toNat t3.toNat))
      = some (t2.toNat % 16 * 2 ^ 2 + t3.toNat / 64) := by
  have ht3 := t3.toNat_lt
  exact base64Value_table_1 (index_23_eq t2 t3) (by omega)

theorem base64Value_3 (t3 : UInt8) :
    base64Value (encode_table_1 t3.toNat) = some (t3.toNat % 64) :=
  base64Value_char _ (Nat.mod_lt _ (by omega))

/-- A byte that is put together again. -/
theorem ofNat_eq {t : UInt8} {n : ℕ} (h : n = t.toNat) : UInt8.ofNat n = t := by
  rw [h, UInt8.ofNat_toNat]

/-- An encoded text stands for what was encoded. -/
theorem decodes_to_base64 : ∀ data, Decodes (to_base64 data) data
  | [] => .nil
  | [t1] => by
    have hone := Decodes.one (base64Value_table_0 t1)
      (base64Value_table_1 (index_last t1).1 (by omega))
    rwa [byte_0, ofNat_eq (t := t1) (by omega)] at hone
  | [t1, t2] => by
    have ht2 := t2.toNat_lt
    have htwo := Decodes.two (base64Value_table_0 t1) (base64Value_12 t1 t2)
      (base64Value_table_1 (index_last t2).2 (by omega))
    rwa [byte_0, byte_1, ofNat_eq (t := t1) (by omega), ofNat_eq (t := t2) (by omega)] at htwo
  | t1 :: t2 :: t3 :: data => by
    have ht2 := t2.toNat_lt
    have ht3 := t3.toNat_lt
    have hgroup := Decodes.group (base64Value_table_0 t1) (base64Value_12 t1 t2)
      (base64Value_23 t2 t3) (base64Value_3 t3) (decodes_to_base64 data)
    rwa [byte_0, byte_1, byte_2, ofNat_eq (t := t1) (by omega), ofNat_eq (t := t2) (by omega),
      ofNat_eq (t := t3) (by omega)] at hgroup

/-- The encoder fills its buffer. -/
theorem length_to_base64 : ∀ data, (to_base64 data).length = encodedsize data.length
  | [] => rfl
  | [t1] => by simp [to_base64, encodedsize]
  | [t1, t2] => by simp [to_base64, encodedsize]
  | t1 :: t2 :: t3 :: data => by
    have hmod : (data.length + 1 + 1 + 1) % 3 = data.length % 3 := by omega
    simp only [to_base64, List.length_cons, length_to_base64 data, encodedsize, hmod]
    omega

/-- The decoder fills its buffer. -/
theorem Decodes.length_eq {text data : List UInt8} (h : Decodes text data) :
    data.length = decodedsize text := by
  induction h with
  | nil => rfl
  | one h1 h2 =>
    simp [decodedsize, count_padding (ne_padding_char h1) (ne_padding_char h2)]
  | two h1 h2 h3 =>
    simp [decodedsize, count_padding (ne_padding_char h1) (ne_padding_char h2), ne_padding_char h3]
  | @group c1 c2 c3 c4 v1 v2 v3 v4 text data h1 h2 h3 h4 h ih =>
    by_cases hne : text = []
    · subst hne
      cases h
      simp [decodedsize, count_padding (ne_padding_char h1) (ne_padding_char h2),
        ne_padding_char h3, ne_padding_char h4]
    · have hpos := List.length_pos_iff.mpr hne
      have hmod := h.length_mod
      have hpadding := ((from_base64_eq_decodeText hne hmod).mp
        ((from_base64_iff_decodes _ _).mpr h)).1
      simp only [decodedsize, List.length_cons] at ih ⊢
      rw [numPadding_cons (by omega)]
      omega

/-! ## Both together -/

/-- **What was encoded comes back**, and both buffers are filled to the end. -/
theorem from_base64_to_base64 (data : List UInt8) :
    from_base64 (to_base64 data) = .ok data ∧ (to_base64 data).length = encodedsize data.length ∧
      decodedsize (to_base64 data) = data.length :=
  ⟨(from_base64_iff_decodes _ _).mpr (decodes_to_base64 data), length_to_base64 data,
    (decodes_to_base64 data).length_eq.symm⟩

/-- **What is decoded.** A text is decoded if and only if it is a sequence of groups of four
characters of the alphabet, the last of which may have one or two padding signs instead; the result
fills the buffer. -/
theorem from_base64_eq_ok_iff (text data : List UInt8) :
    (from_base64 text = .ok data ↔ Decodes text data) ∧
      (from_base64 text = .ok data → data.length = decodedsize text) :=
  ⟨from_base64_iff_decodes text data, fun h => ((from_base64_iff_decodes _ _).mp h).length_eq⟩

/-! ## Frame messages -/

/-- Bytes as the text a string member holds. -/
def asText (bytes : List UInt8) : String := String.ofList (bytes.map fun b => Char.ofNat b.toNat)

/-- The bytes of such a text. -/
def textBytes (s : String) : List UInt8 := s.toList.map fun c => UInt8.ofNat c.toNat

variable {Text : Type*} (imencode : Mat → List UInt8) (frame_info : FrameInfo)

/-- The members `set_mqtt_frame_message` gives the message object, in order; `imencode` is the JPEG
encoder. -/
def frameMembers : List (String × Json) :=
  [("version", .string "1.0"),
    ("type", .string "camera_frame"),
    ("@timestamp", .int frame_info.ts_nanoseconds_.toInt64.toInt),
    ("camera_id", .string (c_str frame_info.camera_id_)),
    ("frame_num", .int frame_info.frame_num_.toInt)]
  ++ if frame_info.frame_.data.isSome then
    [("frame", .string (c_str (asText (to_base64 (imencode frame_info.frame_)))))]
  else []

/-- `set_mqtt_frame_message` up to the printing of the tree. -/
def set_mqtt_frame_message : Json := .object (frameMembers imencode frame_info)

theorem toNat_ofNat_of_lt {n : ℕ} (h : n < 256) : (Char.ofNat n).toNat = n := by
  have hvalid : n.isValidChar := .inl (by omega)
  rw [Char.ofNat, dif_pos hvalid]
  rfl

/-- Bytes survive as text. -/
theorem textBytes_asText (bytes : List UInt8) : textBytes (asText bytes) = bytes := by
  rw [textBytes, asText, String.toList_ofList, List.map_map]
  refine (List.map_congr_left fun b _ => ?_).trans (List.map_id bytes)
  rw [Function.comp_apply, toNat_ofNat_of_lt b.toNat_lt, UInt8.ofNat_toNat, id]

/-- No byte of a text that can be decoded is NUL. -/
theorem Decodes.ne_zero {text data : List UInt8} (h : Decodes text data) : ∀ c ∈ text, c ≠ 0 := by
  have hvalue : ∀ {c : UInt8} {v : ℕ}, base64Value c = some v → c ≠ 0 := by
    rintro c v hc rfl
    have hzero : base64Value 0 = none := by decide +kernel
    rw [hzero] at hc
    cases hc
  have hpadding : padding_char ≠ 0 := by decide
  induction h with
  | nil => simp
  | one h1 h2 => simp [hvalue h1, hvalue h2, hpadding]
  | two h1 h2 h3 => simp [hvalue h1, hvalue h2, hvalue h3, hpadding]
  | group h1 h2 h3 h4 _ ih => simpa [hvalue h1, hvalue h2, hvalue h3, hvalue h4] using ih

/-- A text that can be decoded is a C string to its end. -/
theorem c_str_asText {text data : List UInt8} (h : Decodes text data) :
    c_str (asText text) = asText text := by
  rw [c_str_eq_self, asText, String.toList_ofList, List.mem_map]
  rintro ⟨b, hb, hnul⟩
  have hzero := congrArg Char.toNat hnul
  rw [toNat_ofNat_of_lt b.toNat_lt] at hzero
  exact h.ne_zero b hb (UInt8.toNat_inj.mp hzero)

theorem flatObject_frameMembers : Json.FlatObject (frameMembers imencode frame_info) where
  nodup := by
    unfold frameMembers
    have hkeys : ["version", "type", "@timestamp", "camera_id", "frame_num", "frame"].Nodup := by
      decide
    split
    · exact hkeys
    · exact hkeys.sublist (List.sublist_append_left _ ["frame"])
  flat := by
    unfold frameMembers
    intro m hm
    left
    split at hm
    · simp only [List.cons_append, List.nil_append, List.mem_cons, List.not_mem_nil, or_false] at hm
      rcases hm with rfl | rfl | rfl | rfl | rfl | rfl <;> trivial
    · simp only [List.append_nil, List.mem_cons, List.not_mem_nil, or_false] at hm
      rcases hm with rfl | rfl | rfl | rfl | rfl <;> trivial

/-- **The picture of a frame message.** Over any wire, a message about a frame that is not empty has
a text under `frame`, and decoding it gives the bytes of the JPEG encoder; a message about an empty
frame has no such member. -/
theorem frame_recovered (wire : Wire Text) (imencode : Mat → List UInt8) (frame_info : FrameInfo) :
    ∃ message, wire.loads (wire.json_to_string (set_mqtt_frame_message imencode frame_info))
        = some message ∧
      (frame_info.frame_.data.isSome → ∃ text, message.member? "frame" = some (.string text) ∧
        from_base64 (textBytes text) = .ok (imencode frame_info.frame_)) ∧
      (frame_info.frame_.data = none → message.member? "frame" = none) := by
  refine ⟨_, wire.loads_json_to_string _ (flatObject_frameMembers imencode frame_info),
    fun hframe => ?_, fun hframe => ?_⟩
  · refine ⟨asText (to_base64 (imencode frame_info.frame_)), ?_, ?_⟩
    · refine Json.member?_of_mem (flatObject_frameMembers imencode frame_info).nodup ?_
      rw [frameMembers, if_pos hframe, c_str_asText (decodes_to_base64 _)]
      exact List.mem_append_right _ List.mem_cons_self
    · rw [textBytes_asText]
      exact (from_base64_iff_decodes _ _).mpr (decodes_to_base64 _)
  · rw [frameMembers, hframe]
    rfl

end DemoColombia.Perception
