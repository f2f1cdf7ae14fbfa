import Mathlib.Data.List.Basic
import WorkflowEngine.Text.Encoding

/-!
# UTF-8 is decoded as encoded

The number of a character is spread over one to four bytes, six bits in each but the
first.  The decoder takes the bytes together again, whatever follows them.  Only the
character of number zero has a zero among its bytes.
-/

namespace WorkflowEngine

namespace Utf8

theorem toNat_ofNat_of_lt {n : Nat} (hn : n < 256) : (UInt8.ofNat n).toNat = n := by
  rw [UInt8.toNat_ofNat']
  exact Nat.mod_eq_of_lt hn

/-- The byte of six bits inside a character. -/
def tail (n : Nat) : UInt8 := UInt8.ofNat (n % 64 + 128)

theorem toNat_tail (n : Nat) : (tail n).toNat = n % 64 + 128 :=
  toNat_ofNat_of_lt (by omega)

/-- The bytes of the character with a number: one to four, for more and more bits.  A surrogate
has bytes as well. -/
def bytesOf (n : Nat) : List UInt8 :=
  if n < 0x80 then [UInt8.ofNat n]
  else if n < 0x800 then [UInt8.ofNat (n / 64 % 32 + 192), tail n]
  else if n < 0x10000 then [UInt8.ofNat (n / 4096 % 16 + 224), tail (n / 64), tail n]
  else [UInt8.ofNat (n / 262144 % 8 + 240), tail (n / 4096), tail (n / 64), tail n]

section Steps

variable {start code least greatest m n owed offset : Nat} {rest : List UInt8}

theorem accepts_tail (hleast : least ≤ m % 64 + 128) (hgreatest : m % 64 + 128 ≤ greatest) :
    Partial.accepts ⟨start, owed, code, least, greatest⟩ (tail m).toNat = true := by
  rw [Partial.accepts, toNat_tail, Bool.and_eq_true, decide_eq_true_eq, decide_eq_true_eq]
  exact ⟨hleast, hgreatest⟩

/-- The last byte of a character. -/
theorem decodeFrom_last (hleast : least ≤ m % 64 + 128) (hgreatest : m % 64 + 128 ≤ greatest)
    (hcode : code * 64 + m % 64 = n) :
    decodeFrom offset (some ⟨start, 1, code, least, greatest⟩) (tail m :: rest) =
      (decodeFrom (offset + 1) none rest).map (CodePoint.ofNat n :: ·) := by
  rw [decodeFrom, if_pos (accepts_tail hleast hgreatest), Partial.take, if_pos (Nat.le_refl 1),
    toNat_tail, Nat.add_sub_cancel, hcode]

/-- A byte that is followed by more bytes of the same character. -/
theorem decodeFrom_further (hleast : least ≤ m % 64 + 128)
    (hgreatest : m % 64 + 128 ≤ greatest) (hcode : code * 64 + m % 64 = n) :
    decodeFrom offset (some ⟨start, owed + 2, code, least, greatest⟩) (tail m :: rest) =
      decodeFrom (offset + 1) (some ⟨start, owed + 1, n, 0x80, 0xBF⟩) rest := by
  rw [decodeFrom, if_pos (accepts_tail hleast hgreatest), Partial.take, if_neg (by simp),
    toNat_tail, Nat.add_sub_cancel, hcode]
  rfl

theorem decodeFrom_two (hn : 0x80 ≤ n) (hlt : n < 0x800) :
    decodeFrom offset none (UInt8.ofNat (n / 64 % 32 + 192) :: tail n :: rest) =
      (decodeFrom (offset + 2) none rest).map (CodePoint.ofNat n :: ·) := by
  have hfirst : (UInt8.ofNat (n / 64 % 32 + 192)).toNat = n / 64 + 0xC0 := by
    rw [toNat_ofNat_of_lt (by omega)]
    omega
  have hlead : lead offset (n / 64 + 0xC0) = .opens ⟨offset, 1, n / 64, 0x80, 0xBF⟩ := by
    rw [lead, if_neg (by omega), if_neg (by omega), if_pos (by omega), Nat.add_sub_cancel]
  rw [decodeFrom, hfirst, hlead]
  exact decodeFrom_last (by omega) (by omega) (by omega)

theorem lead_three (hlt : n < 16) :
    lead offset (n + 0xE0) =
      .opens ⟨offset, 2, n, if n = 0 then 0xA0 else 0x80, 0xBF⟩ := by
  rw [lead, if_neg (by omega), if_neg (by omega), if_neg (by omega)]
  by_cases hzero : n = 0
  · rw [if_pos (by omega), if_pos hzero, hzero]
  · rw [if_neg (by omega), if_pos (by omega), if_neg hzero, Nat.add_sub_cancel]

theorem decodeFrom_three (hn : 0x800 ≤ n) (hlt : n < 0x10000) :
    decodeFrom offset none
        (UInt8.ofNat (n / 4096 % 16 + 224) :: tail (n / 64) :: tail n :: rest) =
      (decodeFrom (offset + 3) none rest).map (CodePoint.ofNat n :: ·) := by
  have hfirst : (UInt8.ofNat (n / 4096 % 16 + 224)).toNat = n / 4096 + 0xE0 := by
    rw [toNat_ofNat_of_lt (by omega)]
    omega
  -- A first byte without bits asks for the highest bit in the second.
  have hleast : (if n / 4096 = 0 then 0xA0 else 0x80) ≤ n / 64 % 64 + 128 := by
    split <;> omega
  rw [decodeFrom, hfirst, lead_three (by omega)]
  dsimp only
  rw [decodeFrom_further (n := n / 64) hleast (by omega) (by omega)]
  exact decodeFrom_last (by omega) (by omega) (by omega)

theorem lead_four (hle : n ≤ 4) :
    lead offset (n + 0xF0) =
      .opens ⟨offset, 3, n, if n = 0 then 0x90 else 0x80, if n = 4 then 0x8F else 0xBF⟩ := by
  rw [lead, if_neg (by omega), if_neg (by omega), if_neg (by omega), if_neg (by omega),
    if_neg (by omega)]
  by_cases hzero : n = 0
  · rw [if_pos (by omega), hzero]
    rfl
  by_cases hfour : n = 4
  · rw [if_neg (by omega), if_neg (by omega), if_pos (by omega), hfour]
    rfl
  · rw [if_neg (by omega), if_pos (by omega), if_neg hzero, if_neg hfour, Nat.add_sub_cancel]

theorem decodeFrom_four (hn : 0x10000 ≤ n) (hlt : n < 0x110000) :
    decodeFrom offset none (UInt8.ofNat (n / 262144 % 8 + 240) :: tail (n / 4096) ::
        tail (n / 64) :: tail n :: rest) =
      (decodeFrom (offset + 4) none rest).map (CodePoint.ofNat n :: ·) := by
  have hfirst : (UInt8.ofNat (n / 262144 % 8 + 240)).toNat = n / 262144 + 0xF0 := by
    rw [toNat_ofNat_of_lt (by omega)]
    omega
  have hleast : (if n / 262144 = 0 then 0x90 else 0x80) ≤ n / 4096 % 64 + 128 := by
    split <;> omega
  have hgreatest : n / 4096 % 64 + 128 ≤ if n / 262144 = 4 then 0x8F else 0xBF := by
    split <;> omega
  rw [decodeFrom, hfirst, lead_four (by omega)]
  dsimp only
  rw [decodeFrom_further (n := n / 4096) hleast hgreatest (by omega),
    decodeFrom_further (n := n / 64) (by omega) (by omega) (by omega)]
  exact decodeFrom_last (by omega) (by omega) (by omega)

end Steps

theorem lead_of_lt {offset b : Nat} (hb : b < 0x80) : lead offset b = .whole (Char.ofNat b) := by
  rw [lead, if_pos hb]

/-- The bytes of a character are decoded to the character, whatever follows them. -/
theorem decodeFrom_bytesOf (offset : Nat) {n : Nat} (hn : n < 0x110000) (rest : List UInt8) :
    decodeFrom offset none (bytesOf n ++ rest) =
      (decodeFrom (offset + (bytesOf n).length) none rest).map (CodePoint.ofNat n :: ·) := by
  rw [bytesOf]
  by_cases hone : n < 0x80
  · have hvalid : n.isValidChar := Or.inl (by omega)
    rw [if_pos hone, List.singleton_append, decodeFrom, toNat_ofNat_of_lt (by omega),
      lead_of_lt hone, CodePoint.ofNat, if_pos hvalid]
    rfl
  rw [if_neg hone]
  by_cases htwo : n < 0x800
  · rw [if_pos htwo]
    exact decodeFrom_two (Nat.not_lt.mp hone) htwo
  rw [if_neg htwo]
  by_cases hthree : n < 0x10000
  · rw [if_pos hthree]
    exact decodeFrom_three (Nat.not_lt.mp htwo) hthree
  · rw [if_neg hthree]
    exact decodeFrom_four (Nat.not_lt.mp hthree) hn

/-! ## Encoded texts -/

theorem utf8EncodeChar_eq (c : Char) : String.utf8EncodeChar c = bytesOf c.toNat := by
  simp only [String.utf8EncodeChar, bytesOf, ← Char.toNat_val, Nat.lt_succ_iff]
  rfl

theorem toNat_lt (c : Char) : c.toNat < 0x110000 := by
  have hvalid : c.toNat < 0xD800 ∨ 0xDFFF < c.toNat ∧ c.toNat < 0x110000 := c.valid
  omega

theorem decodeFrom_utf8EncodeChar (offset : Nat) (c : Char) (rest : List UInt8) :
    decodeFrom offset none (String.utf8EncodeChar c ++ rest) =
      (decodeFrom (offset + (String.utf8EncodeChar c).length) none rest).map
        (CodePoint.char c :: ·) := by
  rw [utf8EncodeChar_eq, decodeFrom_bytesOf offset (toNat_lt c), CodePoint.ofNat_toNat_char]

theorem decodeFrom_encode (offset : Nat) (cs : List Char) :
    decodeFrom offset none (encode cs) = .ok (cs.map .char) := by
  induction cs generalizing offset with
  | nil => rfl
  | cons c cs ih =>
    rw [encode, List.flatMap_cons, decodeFrom_utf8EncodeChar]
    rw [encode] at ih
    rw [ih]
    rfl

/-- Decoding inverts encoding in UTF-8. -/
theorem decode_encode (cs : List Char) : decode (encode cs) = .ok (cs.map .char) :=
  decodeFrom_encode 0 cs

/-- No byte is zero where the first byte is not. -/
theorem zero_not_mem_lead_tails {n : Nat} (hpos : 0 < n) (hn : n < 256) (ns : List Nat) :
    0 ∉ UInt8.ofNat n :: ns.map tail := by
  intro hzero
  rcases List.mem_cons.mp hzero with hlead | htails
  · have hvalue := toNat_ofNat_of_lt hn
    rw [← hlead, UInt8.toNat_zero] at hvalue
    omega
  · obtain ⟨m, -, htail⟩ := List.mem_map.mp htails
    have hvalue := toNat_tail m
    rw [htail, UInt8.toNat_zero] at hvalue
    omega

/-- Only the character of number zero has a zero among its bytes. -/
theorem eq_of_zero_mem_utf8EncodeChar {c : Char} (h : 0 ∈ String.utf8EncodeChar c) :
    c = '\x00' := by
  rw [utf8EncodeChar_eq, bytesOf] at h
  split at h
  · by_cases hzero : c.toNat = 0
    · rw [← Char.ofNat_toNat c, hzero]
    · exact absurd h (zero_not_mem_lead_tails (by omega) (by omega) [])
  · split at h
    · exact absurd h (zero_not_mem_lead_tails (by omega) (by omega) [c.toNat])
    · split at h
      · exact absurd h (zero_not_mem_lead_tails (by omega) (by omega) [c.toNat / 64, c.toNat])
      · exact absurd h (zero_not_mem_lead_tails (by omega) (by omega)
          [c.toNat / 4096, c.toNat / 64, c.toNat])

theorem zero_not_mem_encode {cs : List Char} (h : '\x00' ∉ cs) : 0 ∉ encode cs := by
  intro hzero
  obtain ⟨c, hc, hbyte⟩ := List.mem_flatMap.mp hzero
  rw [eq_of_zero_mem_utf8EncodeChar hbyte] at hc
  exact h hc

end Utf8

end WorkflowEngine
