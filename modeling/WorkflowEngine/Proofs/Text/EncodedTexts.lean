import WorkflowEngine.Json.Reader
import WorkflowEngine.Proofs.Text.Utf8

/-!
# Encoded texts are decoded

A text has bytes in each encoding, behind a byte order mark or without one.  Decoding
inverts encoding for all texts.  The encoding of the bytes is recognised if the text
begins with two ASCII characters, and plain UTF-8 is recognised of almost every text.
-/

namespace WorkflowEngine

/-! ## UTF-16 and UTF-32 -/

namespace ByteOrder

/-- Bytes from the least to the greatest, put in order. -/
def arrange : ByteOrder → List UInt8 → List UInt8
  | .little, bs => bs
  | .big, bs => bs.reverse

/-- The bytes of a unit of sixteen bits. -/
def bytes16 (order : ByteOrder) (n : Nat) : List UInt8 :=
  order.arrange [UInt8.ofNat n, UInt8.ofNat (n / 0x100)]

/-- The bytes of a unit of thirty-two bits. -/
def bytes32 (order : ByteOrder) (n : Nat) : List UInt8 :=
  order.arrange [UInt8.ofNat n, UInt8.ofNat (n / 0x100), UInt8.ofNat (n / 0x10000),
    UInt8.ofNat (n / 0x1000000)]

theorem exists_bytes16 (order : ByteOrder) {n : Nat} (hn : n < 0x10000) :
    ∃ a b, order.bytes16 n = [a, b] ∧ order.unit16 a b = n := by
  cases order with
  | little =>
    refine ⟨_, _, rfl, ?_⟩
    rw [unit16, UInt8.toNat_ofNat', UInt8.toNat_ofNat']
    omega
  | big =>
    refine ⟨_, _, rfl, ?_⟩
    rw [unit16, UInt8.toNat_ofNat', UInt8.toNat_ofNat']
    omega

theorem exists_bytes32 (order : ByteOrder) {n : Nat} (hn : n < 0x100000000) :
    ∃ a b c d, order.bytes32 n = [a, b, c, d] ∧ order.unit32 a b c d = n := by
  cases order with
  | little =>
    refine ⟨_, _, _, _, rfl, ?_⟩
    simp only [unit32, unit16, UInt8.toNat_ofNat']
    omega
  | big =>
    refine ⟨_, _, _, _, rfl, ?_⟩
    simp only [unit32, unit16, UInt8.toNat_ofNat']
    omega

end ByteOrder

namespace Utf16

/-- The units of a character: one, or a pair above U+FFFF. -/
def unitsOf (c : Char) : List Nat :=
  if c.toNat < 0x10000 then [c.toNat]
  else [0xD800 + (c.toNat - 0x10000) / 0x400, 0xDC00 + (c.toNat - 0x10000) % 0x400]

/-- The bytes of a text. -/
def encode (order : ByteOrder) (cs : List Char) : List UInt8 :=
  (cs.flatMap unitsOf).flatMap order.bytes16

theorem lt_of_mem_unitsOf {c : Char} {u : Nat} (hu : u ∈ unitsOf c) : u < 0x10000 := by
  have hlimit := Utf8.toNat_lt c
  rw [unitsOf] at hu
  split at hu
  · next hsmall =>
    rw [List.mem_singleton] at hu
    omega
  · rcases List.mem_pair.mp hu with hu | hu
    · omega
    · omega

theorem units_flatMap_bytes16 (order : ByteOrder) (offset : Nat) {us : List Nat}
    (hus : ∀ u ∈ us, u < 0x10000) : units order offset (us.flatMap order.bytes16) = .ok us := by
  induction us generalizing offset with
  | nil => rfl
  | cons u us ih =>
    obtain ⟨a, b, hbytes, hunit⟩ := order.exists_bytes16 (hus u (List.mem_cons_self ..))
    rw [List.flatMap_cons, hbytes, List.cons_append, List.cons_append, List.nil_append, units,
      ih _ fun v hv => hus v (List.mem_cons_of_mem u hv), hunit]
    rfl

/-- The units of a character are joined to the character, whatever follows them. -/
theorem joinPairs_unitsOf (c : Char) (us : List Nat) :
    joinPairs (unitsOf c ++ us) = .char c :: joinPairs us := by
  have hvalid : c.toNat < 0xD800 ∨ 0xDFFF < c.toNat ∧ c.toNat < 0x110000 := c.valid
  rw [unitsOf]
  split
  · -- A unit of its own is no surrogate, so it joins nothing.
    cases us with
    | nil =>
      have hone : joinPairs ([c.toNat] ++ []) = [CodePoint.ofNat c.toNat] := rfl
      rw [hone, CodePoint.ofNat_toNat_char]
      rfl
    | cons v us =>
      rw [List.singleton_append, joinPairs, if_neg (by omega), CodePoint.ofNat_toNat_char]
  · have hcode : 0x10000 + (0xD800 + (c.toNat - 0x10000) / 0x400 - 0xD800) * 0x400 +
        (0xDC00 + (c.toNat - 0x10000) % 0x400 - 0xDC00) = c.toNat := by omega
    rw [List.cons_append, List.singleton_append, joinPairs, if_pos (by omega), hcode,
      CodePoint.ofNat_toNat_char]

theorem joinPairs_flatMap_unitsOf (cs : List Char) :
    joinPairs (cs.flatMap unitsOf) = cs.map .char := by
  induction cs with
  | nil => rfl
  | cons c cs ih => rw [List.flatMap_cons, joinPairs_unitsOf, ih, List.map_cons]

/-- Decoding inverts encoding in UTF-16. -/
theorem decodeFrom_encode (order : ByteOrder) (offset : Nat) (cs : List Char) :
    decodeFrom order offset (encode order cs) = .ok (cs.map .char) := by
  have hunits : ∀ u ∈ cs.flatMap unitsOf, u < 0x10000 := by
    intro u hu
    obtain ⟨c, -, hc⟩ := List.mem_flatMap.mp hu
    exact lt_of_mem_unitsOf hc
  rw [decodeFrom, encode, units_flatMap_bytes16 order offset hunits]
  exact congrArg Except.ok (joinPairs_flatMap_unitsOf cs)

end Utf16

namespace Utf32

/-- The bytes of a text. -/
def encode (order : ByteOrder) (cs : List Char) : List UInt8 :=
  cs.flatMap fun c => order.bytes32 c.toNat

/-- Decoding inverts encoding in UTF-32. -/
theorem decodeFrom_encode (order : ByteOrder) (offset : Nat) (cs : List Char) :
    decodeFrom order offset (encode order cs) = .ok (cs.map .char) := by
  induction cs generalizing offset with
  | nil => rfl
  | cons c cs ih =>
    have hlimit := Utf8.toNat_lt c
    obtain ⟨x, y, z, w, hbytes, hunit⟩ := order.exists_bytes32 (n := c.toNat) (by omega)
    rw [encode, List.flatMap_cons, hbytes, List.cons_append, List.cons_append, List.cons_append,
      List.singleton_append, decodeFrom, hunit]
    rw [encode] at ih
    rw [if_pos hlimit, ih, CodePoint.ofNat_toNat_char]
    rfl

end Utf32

/-! ## All encodings -/

namespace Encoding

/-- Whether a byte order mark comes first. -/
def marked : Encoding → Bool
  | .utf8 marked | .utf16 _ marked | .utf32 _ marked => marked

/-- The bytes of some characters, without regard to a mark. -/
def spell : Encoding → List Char → List UInt8
  | .utf8 _, cs => Utf8.encode cs
  | .utf16 order _, cs => Utf16.encode order cs
  | .utf32 order _, cs => Utf32.encode order cs

/-- The bytes of a text, behind the mark if there is one. -/
def encode (e : Encoding) (cs : List Char) : List UInt8 :=
  e.spell (if e.marked then Json.byteOrderMark :: cs else cs)

/-- Decoding inverts encoding, and leaves the mark out. -/
theorem decode_encode (e : Encoding) (cs : List Char) :
    e.decode (e.encode cs) = .ok (cs.map .char) := by
  cases e with
  | utf8 marked =>
    have hbody : (if marked then (encode (.utf8 marked) cs).drop 3 else encode (.utf8 marked) cs) =
        Utf8.encode cs := by
      cases marked
      · rfl
      · rfl
    simp only [decode, hbody, Utf8.decode_encode]
    rfl
  | utf16 order marked =>
    have hbody : (encode (.utf16 order marked) cs).drop (if marked then 2 else 0) =
        Utf16.encode order cs := by
      cases marked
      · rfl
      · cases order <;> rfl
    simp only [decode, hbody, Utf16.decodeFrom_encode]
    rfl
  | utf32 order marked =>
    have hbody : (encode (.utf32 order marked) cs).drop (if marked then 4 else 0) =
        Utf32.encode order cs := by
      cases marked
      · rfl
      · cases order <;> rfl
    simp only [decode, hbody, Utf32.decodeFrom_encode]
    rfl

/-! ## Detection -/

/-- A byte without its highest bit that is not zero. -/
def IsAsciiByte (b : UInt8) : Prop := b ≠ 0 ∧ b < 0x80

/-- An ASCII character other than the one of number zero. -/
def IsAscii (c : Char) : Prop := c ≠ '\x00' ∧ c.toNat < 0x80

theorem IsAscii.byte {c : Char} (h : IsAscii c) :
    ∃ b, IsAsciiByte b ∧ UInt8.ofNat c.toNat = b ∧ String.utf8EncodeChar c = [b] ∧
      Utf16.unitsOf c = [c.toNat] ∧ ∀ n, 0x100 ≤ n → UInt8.ofNat (c.toNat / n) = 0 := by
  obtain ⟨hzero, hlt⟩ := h
  refine ⟨UInt8.ofNat c.toNat, ⟨?_, ?_⟩, rfl, ?_, ?_, ?_⟩
  · intro hbyte
    apply hzero
    have hvalue := Utf8.toNat_ofNat_of_lt (n := c.toNat) (by omega)
    rw [hbyte, UInt8.toNat_zero] at hvalue
    rw [← Char.ofNat_toNat c, ← hvalue]
  · rw [UInt8.lt_iff_toNat_lt, Utf8.toNat_ofNat_of_lt (by omega)]
    exact hlt
  · rw [Utf8.utf8EncodeChar_eq, Utf8.bytesOf, if_pos hlt]
  · rw [Utf16.unitsOf, if_pos (by omega)]
  · intro n hn
    rw [Nat.div_eq_of_lt (by omega)]
    rfl

theorem ofMark?_eq_none_of_isAsciiByte {a : UInt8} (ha : IsAsciiByte a) (bs : List UInt8) :
    ofMark? (a :: bs) = none := by
  obtain ⟨hzero, hlt⟩ := ha
  have hlow : ∀ {b : UInt8} {more : List UInt8}, a :: bs = b :: more → b < 0x80 :=
    fun heq => (List.cons.inj heq).1 ▸ hlt
  rw [ofMark?.eq_def]
  split
  · next heq => exact absurd (List.cons.inj heq).1 hzero
  · next heq => exact absurd (hlow heq) (by decide)
  · next heq => exact absurd (hlow heq) (by decide)
  · next heq => exact absurd (hlow heq) (by decide)
  · next heq => exact absurd (hlow heq) (by decide)
  · rfl

theorem detect_of_isAsciiByte {a : UInt8} (ha : IsAsciiByte a) (bs : List UInt8) :
    detect (a :: bs) = ofZeros (a :: bs) := by
  rw [detect, ofMark?_eq_none_of_isAsciiByte ha]
  rfl

/-- Without zeros among its bytes a text is taken for UTF-8. -/
theorem ofZeros_of_zero_not_mem {bs : List UInt8} (h : 0 ∉ bs) : ofZeros bs = .utf8 false := by
  rw [ofZeros.eq_def]
  split
  · next a b =>
    rw [List.mem_cons, List.mem_singleton, not_or] at h
    rw [if_neg (Ne.symm h.1), if_neg (Ne.symm h.2)]
  · next a b c d more =>
    rw [List.mem_cons, List.mem_cons, not_or, not_or] at h
    rw [if_neg (Ne.symm h.1), if_neg (Ne.symm h.2.1)]
  · rfl

theorem detect_utf8 (marked : Bool) {a b : Char} (ha : IsAscii a) (hb : IsAscii b)
    (rest : List Char) :
    detect (encode (.utf8 marked) (a :: b :: rest)) = .utf8 marked := by
  cases marked with
  | true => rfl
  | false =>
    obtain ⟨x, hx, -, hax, -⟩ := ha.byte
    obtain ⟨y, hy, -, hby, -⟩ := hb.byte
    have hbytes : encode (.utf8 false) (a :: b :: rest) = x :: y :: Utf8.encode rest := by
      rw [encode, spell, Utf8.encode]
      simp only [Encoding.marked, Bool.false_eq_true, if_false, List.flatMap_cons, hax, hby]
      rfl
    rw [hbytes, detect_of_isAsciiByte hx, ofZeros.eq_def]
    split
    · next heq =>
      simp only [List.cons.injEq] at heq
      rw [← heq.1, ← heq.2.1, if_neg hx.1, if_neg hy.1]
    · next heq =>
      simp only [List.cons.injEq] at heq
      rw [← heq.1, ← heq.2.1, if_neg hx.1, if_neg hy.1]
    · rfl

theorem detect_utf16 (order : ByteOrder) (marked : Bool) {a b : Char} (ha : IsAscii a)
    (hb : IsAscii b) (rest : List Char) :
    detect (encode (.utf16 order marked) (a :: b :: rest)) = .utf16 order marked := by
  obtain ⟨x, hx, hax, -, haunit, hahigh⟩ := ha.byte
  obtain ⟨y, hy, hby, -, hbunit, hbhigh⟩ := hb.byte
  have hbytes : Utf16.encode order (a :: b :: rest) =
      order.arrange [x, 0] ++ order.arrange [y, 0] ++ Utf16.encode order rest := by
    simp only [Utf16.encode, ByteOrder.bytes16, List.flatMap_cons, haunit, hbunit,
      List.flatMap_append, List.flatMap_nil, List.append_nil, hax, hby, hahigh 0x100 (by decide),
      hbhigh 0x100 (by decide), List.append_assoc]
  cases marked with
  | false =>
    rw [encode, spell]
    simp only [Encoding.marked, Bool.false_eq_true, if_false, hbytes]
    cases order with
    | little =>
      rw [ByteOrder.arrange, List.cons_append, List.cons_append, detect_of_isAsciiByte hx]
      simp [ofZeros, ByteOrder.arrange, hx.1, hy.1]
    | big => simp [detect, ofMark?, ofZeros, ByteOrder.arrange, hx.1]
  | true =>
    have hmarked : encode (.utf16 order true) (a :: b :: rest) =
        order.arrange [0xFF, 0xFE] ++ Utf16.encode order (a :: b :: rest) := by
      cases order <;> rfl
    rw [hmarked, hbytes]
    cases order with
    | little => simp [detect, ofMark?, ByteOrder.arrange, hx.1]
    | big => rfl

theorem detect_utf32 (order : ByteOrder) (marked : Bool) {a : Char} (ha : IsAscii a)
    (rest : List Char) :
    detect (encode (.utf32 order marked) (a :: rest)) = .utf32 order marked := by
  obtain ⟨x, hx, hax, -, -, hahigh⟩ := ha.byte
  have hbytes : Utf32.encode order (a :: rest) =
      order.arrange [x, 0, 0, 0] ++ Utf32.encode order rest := by
    simp only [Utf32.encode, ByteOrder.bytes32, List.flatMap_cons, hax,
      hahigh 0x100 (by decide), hahigh 0x10000 (by decide), hahigh 0x1000000 (by decide)]
  cases marked with
  | false =>
    rw [encode, spell]
    simp only [Encoding.marked, Bool.false_eq_true, if_false, hbytes]
    cases order with
    | little =>
      rw [ByteOrder.arrange, List.cons_append, detect_of_isAsciiByte hx]
      simp [ofZeros, hx.1]
    | big => rfl
  | true => cases order <;> rfl

/-- The encoding of the bytes of a text is recognised if the text begins with two ASCII
characters. -/
theorem detect_encode (e : Encoding) {a b : Char} (ha : IsAscii a) (hb : IsAscii b)
    (rest : List Char) : detect (e.encode (a :: b :: rest)) = e := by
  cases e with
  | utf8 marked => exact detect_utf8 marked ha hb rest
  | utf16 order marked => exact detect_utf16 order marked ha hb rest
  | utf32 order marked => exact detect_utf32 order marked ha (b :: rest)

/-- No mark is found at the front of plain UTF-8, unless the text itself begins with the
character of the mark. -/
theorem ofMark?_utf8 {cs : List Char} (hzero : '\x00' ∉ cs)
    (hmark : cs.head? ≠ some Json.byteOrderMark) : ofMark? (Utf8.encode cs) = none := by
  have hbytes := Utf8.zero_not_mem_encode hzero
  have hdecode := Utf8.decode_encode cs
  rw [ofMark?.eq_def]
  split
  · next heq => simp [heq] at hbytes
  · next heq =>
    rw [heq] at hdecode
    contradiction
  · next heq =>
    rw [heq] at hdecode
    contradiction
  · next heq =>
    rw [heq] at hdecode
    contradiction
  · next more heq =>
    -- The three bytes are decoded to the mark, which then begins the text.
    have hsplit : ∀ bs, (0xEF : UInt8) :: 0xBB :: 0xBF :: bs =
        String.utf8EncodeChar Json.byteOrderMark ++ bs := fun _ => rfl
    rw [heq, hsplit, Utf8.decode, Utf8.decodeFrom_utf8EncodeChar] at hdecode
    cases htail : Utf8.decodeFrom
        (0 + (String.utf8EncodeChar Json.byteOrderMark).length) none more with
    | error offset =>
      rw [htail] at hdecode
      contradiction
    | ok tail =>
      rw [htail] at hdecode
      obtain ⟨c, rest, rfl, hc, -⟩ := List.map_eq_cons_iff.mp (Except.ok.inj hdecode).symm
      exact absurd (congrArg some (CodePoint.char.inj hc)) hmark
  · rfl

/-- Plain UTF-8 is recognised if the text holds no character of number zero and does not
begin with the character of the mark. -/
theorem detect_utf8_of_zero_not_mem {cs : List Char} (hzero : '\x00' ∉ cs)
    (hmark : cs.head? ≠ some Json.byteOrderMark) : detect (Utf8.encode cs) = .utf8 false := by
  rw [detect, ofMark?_utf8 hzero hmark]
  exact ofZeros_of_zero_not_mem (Utf8.zero_not_mem_encode hzero)

end Encoding

end WorkflowEngine
