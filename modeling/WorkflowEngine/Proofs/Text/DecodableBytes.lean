import WorkflowEngine.Proofs.Text.Utf8

/-!
# Which bytes are decodable

Bytes are decodable if they are those of some characters, one after the other.  Decoding succeeds
on these and on nothing else, and where it fails it answers with the length of the longest
decodable part at the front: what stands there begins with no character, and neither does any
part of it.
-/

namespace WorkflowEngine.Utf8

/-- Bytes that are those of some characters, one after the other.  Surrogates count as characters
here. -/
def Decodable (bs : List UInt8) : Prop :=
  ∃ ns : List Nat, (∀ n ∈ ns, n < 0x110000) ∧ bs = ns.flatMap bytesOf

/-- Bytes that begin with those of a character. -/
def BeginsWithCharacter (bs : List UInt8) : Prop :=
  ∃ n rest, n < 0x110000 ∧ bs = bytesOf n ++ rest

/-- The longest decodable part at the front of some bytes has a certain length. -/
structure LongestDecodable (bs : List UInt8) (k : Nat) : Prop where
  le_length : k ≤ bs.length
  decodable : Decodable (bs.take k)
  longest : ∀ j, k < j → j ≤ bs.length → ¬ Decodable (bs.take j)

/-! ## Characters from their parts -/

section Parts

variable {c m₁ m₂ m₃ : Nat}

theorem tail_congr {n m : Nat} (h : n % 64 = m % 64) : tail n = tail m := by
  rw [tail, tail, h]

theorem bytesOf_two (hc : 2 ≤ c) (hlt : c < 32) (h₁ : m₁ < 64) :
    bytesOf (c * 64 + m₁) = [UInt8.ofNat (c + 192), tail m₁] := by
  have hlead : (c * 64 + m₁) / 64 % 32 = c := by omega
  rw [bytesOf, if_neg (by omega), if_pos (by omega), hlead, tail_congr (m := m₁) (by omega)]

theorem bytesOf_three (hlt : c < 16) (h₁ : m₁ < 64) (h₂ : m₂ < 64)
    (hn : 0x800 ≤ (c * 64 + m₁) * 64 + m₂) :
    bytesOf ((c * 64 + m₁) * 64 + m₂) = [UInt8.ofNat (c + 224), tail m₁, tail m₂] := by
  have hlead : ((c * 64 + m₁) * 64 + m₂) / 4096 % 16 = c := by omega
  rw [bytesOf, if_neg (by omega), if_neg (by omega), if_pos (by omega), hlead,
    tail_congr (n := ((c * 64 + m₁) * 64 + m₂) / 64) (m := m₁) (by omega),
    tail_congr (n := (c * 64 + m₁) * 64 + m₂) (m := m₂) (by omega)]

theorem bytesOf_four (hlt : c < 8) (h₁ : m₁ < 64) (h₂ : m₂ < 64) (h₃ : m₃ < 64)
    (hn : 0x10000 ≤ ((c * 64 + m₁) * 64 + m₂) * 64 + m₃) :
    bytesOf (((c * 64 + m₁) * 64 + m₂) * 64 + m₃) =
      [UInt8.ofNat (c + 240), tail m₁, tail m₂, tail m₃] := by
  have hlead : (((c * 64 + m₁) * 64 + m₂) * 64 + m₃) / 262144 % 8 = c := by omega
  rw [bytesOf, if_neg (by omega), if_neg (by omega), if_neg (by omega), hlead,
    tail_congr (n := (((c * 64 + m₁) * 64 + m₂) * 64 + m₃) / 4096) (m := m₁) (by omega),
    tail_congr (n := (((c * 64 + m₁) * 64 + m₂) * 64 + m₃) / 64) (m := m₂) (by omega),
    tail_congr (n := ((c * 64 + m₁) * 64 + m₂) * 64 + m₃) (m := m₃) (by omega)]

end Parts

/-! ## Bytes that begin with no character -/

section Failing

variable {start owed code least greatest offset : Nat} {b : UInt8} {rest : List UInt8}

/-- Inside a character, decoding fails or goes on with a byte of six bits. -/
theorem error_or_tail (hleast : 0x80 ≤ least) (hgreatest : greatest ≤ 0xBF) (offset : Nat)
    (bs : List UInt8) :
    decodeFrom offset (some ⟨start, owed, code, least, greatest⟩) bs = .error start ∨
      ∃ m rest, m < 64 ∧ least ≤ m + 128 ∧ m + 128 ≤ greatest ∧ bs = tail m :: rest := by
  cases bs with
  | nil => exact Or.inl rfl
  | cons b rest =>
    by_cases hb : Partial.accepts ⟨start, owed, code, least, greatest⟩ b.toNat = true
    · right
      rw [Partial.accepts, Bool.and_eq_true, decide_eq_true_eq, decide_eq_true_eq] at hb
      dsimp only at hb
      refine ⟨b.toNat - 128, rest, by omega, by omega, by omega, ?_⟩
      have hvalue : (b.toNat - 128) % 64 + 128 = b.toNat := by omega
      rw [tail, hvalue, UInt8.ofNat_toNat]
    · left
      rw [decodeFrom, if_neg hb]

theorem error_of_two (hbegins : ¬ BeginsWithCharacter (b :: rest)) (hb : 0xC2 ≤ b.toNat)
    (hlt : b.toNat < 0xE0) : decodeFrom offset none (b :: rest) = .error offset := by
  have hlead : lead offset b.toNat = .opens ⟨offset, 1, b.toNat - 0xC0, 0x80, 0xBF⟩ := by
    rw [lead, if_neg (by omega), if_neg (by omega), if_pos hlt]
  rw [decodeFrom, hlead]
  dsimp only
  rcases error_or_tail (Nat.le_refl _) (Nat.le_refl _) (offset + 1) rest with
    herror | ⟨m, more, hm, -, -, rfl⟩
  · exact herror
  · have hbytes := bytesOf_two (c := b.toNat - 0xC0) (by omega) (by omega) hm
    rw [Nat.sub_add_cancel (by omega), UInt8.ofNat_toNat] at hbytes
    exact absurd ⟨(b.toNat - 0xC0) * 64 + m, more, by omega, by rw [hbytes]; rfl⟩ hbegins

theorem error_of_three (hbegins : ¬ BeginsWithCharacter (b :: rest)) (hb : 0xE0 ≤ b.toNat)
    (hlt : b.toNat < 0xF0) : decodeFrom offset none (b :: rest) = .error offset := by
  obtain ⟨c, hc⟩ : ∃ c, b.toNat = c + 0xE0 := ⟨b.toNat - 0xE0, by omega⟩
  have hfirst : UInt8.ofNat (c + 0xE0) = b := by rw [← hc, UInt8.ofNat_toNat]
  have hlow : 0x80 ≤ (if c = 0 then 0xA0 else 0x80) := by split <;> omega
  rw [decodeFrom, hc, lead_three (by omega)]
  dsimp only
  rcases error_or_tail hlow (Nat.le_refl _) (offset + 1) rest with
    herror | ⟨m₁, more, h₁, hleast, hgreatest, rfl⟩
  · exact herror
  -- A first byte without bits asks for the highest bit in the second.
  have hsize : 0x20 ≤ c * 64 + m₁ := by
    split at hleast <;> omega
  rw [decodeFrom_further (n := c * 64 + m₁) (by split <;> omega) (by omega) (by omega)]
  rcases error_or_tail (Nat.le_refl _) (Nat.le_refl _) (offset + 1 + 1) more with
    herror | ⟨m₂, last, h₂, -, -, rfl⟩
  · exact herror
  · have hbytes := bytesOf_three (c := c) (by omega) h₁ h₂ (by omega)
    rw [hfirst] at hbytes
    exact absurd ⟨(c * 64 + m₁) * 64 + m₂, last, by omega, by rw [hbytes]; rfl⟩ hbegins

theorem error_of_four (hbegins : ¬ BeginsWithCharacter (b :: rest)) (hb : 0xF0 ≤ b.toNat)
    (hle : b.toNat ≤ 0xF4) : decodeFrom offset none (b :: rest) = .error offset := by
  obtain ⟨c, hc⟩ : ∃ c, b.toNat = c + 0xF0 := ⟨b.toNat - 0xF0, by omega⟩
  have hfirst : UInt8.ofNat (c + 0xF0) = b := by rw [← hc, UInt8.ofNat_toNat]
  have hlow : 0x80 ≤ (if c = 0 then 0x90 else 0x80) := by split <;> omega
  have hhigh : (if c = 4 then 0x8F else 0xBF) ≤ 0xBF := by split <;> omega
  rw [decodeFrom, hc, lead_four (by omega)]
  dsimp only
  rcases error_or_tail hlow hhigh (offset + 1) rest with
    herror | ⟨m₁, more, h₁, hleast, hgreatest, rfl⟩
  · exact herror
  -- The second byte keeps the number between the ends of the range of four bytes.
  have hsize : 0x10 ≤ c * 64 + m₁ ∧ c * 64 + m₁ < 0x110 := by
    split at hleast
    · omega
    · split at hgreatest <;> omega
  rw [decodeFrom_further (n := c * 64 + m₁) (by split <;> omega) (by split <;> omega) (by omega)]
  rcases error_or_tail (Nat.le_refl _) (Nat.le_refl _) (offset + 1 + 1) more with
    herror | ⟨m₂, more, h₂, -, -, rfl⟩
  · exact herror
  rw [decodeFrom_further (n := (c * 64 + m₁) * 64 + m₂) (by omega) (by omega) (by omega)]
  rcases error_or_tail (Nat.le_refl _) (Nat.le_refl _) (offset + 1 + 1 + 1) more with
    herror | ⟨m₃, last, h₃, -, -, rfl⟩
  · exact herror
  · have hbytes := bytesOf_four (c := c) (by omega) h₁ h₂ h₃ (by omega)
    rw [hfirst] at hbytes
    exact absurd ⟨((c * 64 + m₁) * 64 + m₂) * 64 + m₃, last, by omega, by rw [hbytes]; rfl⟩ hbegins

/-- Decoding fails at once where no character begins. -/
theorem decodeFrom_of_not_beginsWithCharacter {bs : List UInt8} (hne : bs ≠ [])
    (hbegins : ¬ BeginsWithCharacter bs) (offset : Nat) :
    decodeFrom offset none bs = .error offset := by
  obtain ⟨b, rest, rfl⟩ := List.exists_cons_of_ne_nil hne
  by_cases hone : b.toNat < 0x80
  · have hbytes : bytesOf b.toNat = [b] := by rw [bytesOf, if_pos hone, UInt8.ofNat_toNat]
    exact absurd ⟨b.toNat, rest, by omega, by rw [hbytes]; rfl⟩ hbegins
  by_cases hnone : b.toNat < 0xC2
  · rw [decodeFrom, lead, if_neg hone, if_pos hnone]
  by_cases htwo : b.toNat < 0xE0
  · exact error_of_two hbegins (by omega) htwo
  by_cases hthree : b.toNat < 0xF0
  · exact error_of_three hbegins (by omega) hthree
  by_cases hfour : b.toNat ≤ 0xF4
  · exact error_of_four hbegins (by omega) hfour
  · rw [decodeFrom, lead, if_neg hone, if_neg hnone, if_neg htwo, if_neg (by omega), if_neg hthree,
      if_neg (by omega), if_neg (by omega), if_neg (by omega)]

end Failing

/-! ## Decoding as a whole -/

theorem decodeFrom_flatMap_bytesOf (offset : Nat) {ns : List Nat} (hns : ∀ n ∈ ns, n < 0x110000)
    (rest : List UInt8) :
    decodeFrom offset none (ns.flatMap bytesOf ++ rest) =
      (decodeFrom (offset + (ns.flatMap bytesOf).length) none rest).map
        (ns.map CodePoint.ofNat ++ ·) := by
  induction ns generalizing offset with
  | nil =>
    rw [List.flatMap_nil, List.nil_append, List.length_nil, Nat.add_zero]
    cases decodeFrom offset none rest <;> rfl
  | cons n ns ih =>
    obtain ⟨hn, hns⟩ := List.forall_mem_cons.mp hns
    rw [List.flatMap_cons, List.append_assoc, decodeFrom_bytesOf offset hn, ih _ hns,
      List.length_append, Nat.add_assoc]
    cases decodeFrom (offset + ((bytesOf n).length + (ns.flatMap bytesOf).length)) none rest <;> rfl

theorem bytesOf_ne_nil (n : Nat) : bytesOf n ≠ [] := by
  rw [bytesOf]
  split_ifs <;> exact List.cons_ne_nil _ _

/-- All bytes are decodable up to a place where no character begins. -/
theorem exists_decodable_append (bs : List UInt8) :
    ∃ (ns : List Nat) (rest : List UInt8), (∀ n ∈ ns, n < 0x110000) ∧
      bs = ns.flatMap bytesOf ++ rest ∧ ¬ BeginsWithCharacter rest := by
  by_cases hbegins : BeginsWithCharacter bs
  · obtain ⟨n, rest, hn, hbs⟩ := hbegins
    have hshorter : rest.length < bs.length := by
      rw [hbs, List.length_append]
      exact Nat.lt_add_of_pos_left (List.length_pos_of_ne_nil (bytesOf_ne_nil n))
    obtain ⟨ns, last, hns, hrest, hlast⟩ := exists_decodable_append rest
    refine ⟨n :: ns, last, List.forall_mem_cons.mpr ⟨hn, hns⟩, ?_, hlast⟩
    rw [List.flatMap_cons, List.append_assoc, ← hrest, hbs]
  · exact ⟨[], bs, List.forall_mem_nil _, rfl, hbegins⟩
termination_by bs.length
decreasing_by exact hshorter

/-- Where no character begins, decoding fails with the number of bytes before that place. -/
theorem decode_append_of_not_beginsWithCharacter {ns : List Nat} (hns : ∀ n ∈ ns, n < 0x110000)
    {rest : List UInt8} (hne : rest ≠ []) (hrest : ¬ BeginsWithCharacter rest) :
    decode (ns.flatMap bytesOf ++ rest) = .error (ns.flatMap bytesOf).length := by
  rw [decode, decodeFrom_flatMap_bytesOf 0 hns, decodeFrom_of_not_beginsWithCharacter hne hrest,
    Nat.zero_add]
  rfl

/-- Decoding succeeds exactly on decodable bytes. -/
theorem decodable_iff (bs : List UInt8) : Decodable bs ↔ ∃ cs, decode bs = .ok cs := by
  constructor
  · rintro ⟨ns, hns, rfl⟩
    refine ⟨ns.map CodePoint.ofNat, ?_⟩
    have hdecode := decodeFrom_flatMap_bytesOf 0 hns []
    rw [List.append_nil] at hdecode
    rw [decode, hdecode, decodeFrom]
    exact congrArg Except.ok (List.append_nil _)
  · rintro ⟨cs, hcs⟩
    obtain ⟨ns, rest, hns, rfl, hrest⟩ := exists_decodable_append bs
    by_cases hne : rest = []
    · exact ⟨ns, hns, by rw [hne, List.append_nil]⟩
    · rw [decode_append_of_not_beginsWithCharacter hns hne hrest] at hcs
      cases hcs

theorem BeginsWithCharacter.append {bs : List UInt8} (h : BeginsWithCharacter bs)
    (more : List UInt8) : BeginsWithCharacter (bs ++ more) := by
  obtain ⟨n, rest, hn, rfl⟩ := h
  exact ⟨n, rest ++ more, hn, List.append_assoc _ _ _⟩

/-- What decoding answers to other bytes is the length of their longest decodable part at the
front, and there is a byte behind it. -/
theorem exists_longestDecodable {bs : List UInt8} (hbs : ¬ Decodable bs) :
    ∃ k, decode bs = .error k ∧ k < bs.length ∧ LongestDecodable bs k := by
  obtain ⟨ns, rest, hns, rfl, hrest⟩ := exists_decodable_append bs
  have hne : rest ≠ [] := by
    rintro rfl
    exact hbs ⟨ns, hns, List.append_nil _⟩
  have hpos := List.length_pos_of_ne_nil hne
  refine ⟨(ns.flatMap bytesOf).length, decode_append_of_not_beginsWithCharacter hns hne hrest,
    ?_, ?_, ?_, ?_⟩
  · rw [List.length_append]
    omega
  · rw [List.length_append]
    omega
  · rw [List.take_left]
    exact ⟨ns, hns, rfl⟩
  · intro j hj hle hdecodable
    -- A longer part ends inside of what begins with no character.
    obtain ⟨i, rfl⟩ := Nat.exists_eq_add_of_lt hj
    rw [Nat.add_assoc, List.take_length_add_append] at hdecodable
    obtain ⟨cs, hcs⟩ := (decodable_iff _).mp hdecodable
    have hpart : ¬ BeginsWithCharacter (rest.take (i + 1)) := by
      intro hbegins
      have hwhole := hbegins.append (rest.drop (i + 1))
      rw [List.take_append_drop] at hwhole
      exact hrest hwhole
    have hnonempty : rest.take (i + 1) ≠ [] := by simpa using hne
    rw [decode_append_of_not_beginsWithCharacter hns hnonempty hpart] at hcs
    cases hcs

end WorkflowEngine.Utf8
