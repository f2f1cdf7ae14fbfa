import WorkflowEngine.Proofs.Json.Content
import WorkflowEngine.Proofs.Json.NumberTexts
import WorkflowEngine.Proofs.Json.Strings

/-!
# Saved texts are standard

`Standard.IsText` is the grammar of JSON texts.  It is stricter than the reader: there are
no words for numbers that are not finite.  Every value is saved as such a text, and a
value is saved as what a text can hold of it.
-/

namespace WorkflowEngine.Json

namespace Standard

/-! ## The grammar -/

/-- Blanks between tokens, perhaps none. -/
def IsBlanks (cs : List Char) : Prop := ∀ c ∈ cs, c ∈ [' ', '\t', '\n', '\r']

/-- A hexadecimal digit of either case. -/
def IsHexDigit (c : Char) : Prop := c ∈ "0123456789abcdefABCDEF".toList

/-- What may stand between the quotes of a string: a character that needs no escape, an
escape of two characters, or a unit of four hexadecimal digits. -/
inductive IsStringPart : List Char → Prop where
  | plain {c : Char} (hcontrol : 0x20 ≤ c.toNat) (hquote : c ≠ '"') (hbackslash : c ≠ '\\') :
    IsStringPart [c]
  | escape {e : Char} (he : e ∈ ['"', '\\', '/', 'b', 'f', 'n', 'r', 't']) :
    IsStringPart ['\\', e]
  | unit {a b c d : Char} (ha : IsHexDigit a) (hb : IsHexDigit b) (hc : IsHexDigit c)
    (hd : IsHexDigit d) : IsStringPart ['\\', 'u', a, b, c, d]

/-- Parts between quotes. -/
def IsString (cs : List Char) : Prop :=
  ∃ parts : List (List Char), (∀ part ∈ parts, IsStringPart part) ∧
    cs = '"' :: parts.flatten ++ ['"']

/-- One decimal digit or more. -/
def IsDigits (cs : List Char) : Prop := cs ≠ [] ∧ ∀ c ∈ cs, isDigit c = true

/-- Digits behind a point, or nothing. -/
def IsFraction (cs : List Char) : Prop := cs = [] ∨ ∃ ds, IsDigits ds ∧ cs = '.' :: ds

/-- Digits behind a letter, perhaps with a sign, or nothing. -/
def IsExponent (cs : List Char) : Prop :=
  cs = [] ∨ ∃ letter sign ds, letter ∈ ['e', 'E'] ∧ sign ∈ [[], ['+'], ['-']] ∧ IsDigits ds ∧
    cs = letter :: sign ++ ds

/-- A number.  Its whole part does not begin with a zero unless it is zero. -/
def IsNumber (cs : List Char) : Prop :=
  ∃ sign whole fraction exponent, sign ∈ [[], ['-']] ∧ IsWhole whole ∧ IsFraction fraction ∧
    IsExponent exponent ∧ cs = sign ++ whole ++ fraction ++ exponent

mutual

/-- A value. -/
inductive IsValue : List Char → Prop where
  | word (text : String) (h : text ∈ ["null", "true", "false"]) : IsValue text.toList
  | number {cs : List Char} (h : IsNumber cs) : IsValue cs
  | string {cs : List Char} (h : IsString cs) : IsValue cs
  | emptyArray {cs : List Char} (h : IsBlanks cs) : IsValue ('[' :: cs ++ [']'])
  | array {cs : List Char} (h : IsItems cs) : IsValue ('[' :: cs ++ [']'])
  | emptyObject {cs : List Char} (h : IsBlanks cs) : IsValue ('{' :: cs ++ ['}'])
  | object {cs : List Char} (h : IsMembers cs) : IsValue ('{' :: cs ++ ['}'])

/-- A value with blanks around it. -/
inductive IsText : List Char → Prop where
  | padded {before cs after : List Char} (hbefore : IsBlanks before) (h : IsValue cs)
    (hafter : IsBlanks after) : IsText (before ++ cs ++ after)

/-- Values with commas between them. -/
inductive IsItems : List Char → Prop where
  | last {cs : List Char} (h : IsText cs) : IsItems cs
  | more {cs rest : List Char} (h : IsText cs) (hrest : IsItems rest) :
    IsItems (cs ++ ',' :: rest)

/-- A key and a value with a colon between them. -/
inductive IsMember : List Char → Prop where
  | padded {before key after value : List Char} (hbefore : IsBlanks before)
    (hkey : IsString key) (hafter : IsBlanks after) (hvalue : IsText value) :
    IsMember (before ++ key ++ after ++ ':' :: value)

/-- Members with commas between them. -/
inductive IsMembers : List Char → Prop where
  | last {cs : List Char} (h : IsMember cs) : IsMembers cs
  | more {cs rest : List Char} (h : IsMember cs) (hrest : IsMembers rest) :
    IsMembers (cs ++ ',' :: rest)

end

theorem isBlanks_nil : IsBlanks [] := by simp [IsBlanks]

theorem isBlanks_newline (depth : Nat) : IsBlanks (newline depth) := by
  intro c hc
  rcases List.mem_cons.mp hc with rfl | hc
  · simp
  · simp [List.eq_of_mem_replicate hc]

/-- A value that follows blanks directly. -/
theorem IsValue.behind {before cs : List Char} (h : IsValue cs) (hbefore : IsBlanks before) :
    IsText (before ++ cs) := by
  rw [← List.append_nil (before ++ cs)]
  exact .padded hbefore h isBlanks_nil

/-! ## What the grammar leaves out -/

/-- A part of a string holds no control character. -/
theorem IsStringPart.control {part : List Char} (h : IsStringPart part) {c : Char}
    (hc : c ∈ part) : 0x20 ≤ c.toNat := by
  have hhex : ∀ d : Char, IsHexDigit d → 0x20 ≤ d.toNat := by
    intro d hd
    have hall : "0123456789abcdefABCDEF".toList.all fun d => 0x20 ≤ d.toNat := by decide
    exact of_decide_eq_true (List.all_eq_true.mp hall d hd)
  rcases h with ⟨hcontrol, -, -⟩ | he | ⟨ha, hb, hd, he⟩
  · rwa [List.mem_singleton.mp hc]
  · have hall : ['"', '\\', '/', 'b', 'f', 'n', 'r', 't'].all fun d => 0x20 ≤ d.toNat := by
      decide
    rcases List.mem_pair.mp hc with rfl | rfl
    · decide
    · exact of_decide_eq_true (List.all_eq_true.mp hall _ he)
  · simp only [List.mem_cons, List.not_mem_nil, or_false] at hc
    rcases hc with rfl | rfl | rfl | rfl | rfl | rfl
    · decide
    · decide
    · exact hhex _ ha
    · exact hhex _ hb
    · exact hhex _ hd
    · exact hhex _ he

/-- A string holds no control character. -/
theorem IsString.control {cs : List Char} (h : IsString cs) {c : Char} (hc : c ∈ cs) :
    0x20 ≤ c.toNat := by
  obtain ⟨parts, hparts, rfl⟩ := h
  simp only [List.cons_append, List.mem_cons, List.mem_append, List.mem_flatten,
    List.not_mem_nil, or_false] at hc
  rcases hc with rfl | ⟨part, hpart, hc⟩ | rfl
  · decide
  · exact (hparts part hpart).control hc
  · decide

end Standard

open Standard

/-! ## Strings and numbers -/

theorem isHexDigit_hexDigit (n : Nat) : IsHexDigit (hexDigit (n % 16)) := by
  have hall : ∀ k < 16, hexDigit k ∈ "0123456789abcdefABCDEF".toList := by decide
  exact hall _ (Nat.mod_lt n (by omega))

theorem isStringPart_of_simpleEscape {e c : Char} (h : simpleEscape? e = some c) :
    IsStringPart ['\\', e] := by
  apply IsStringPart.escape
  by_contra hnot
  simp only [List.mem_cons, List.not_mem_nil, or_false, not_or] at hnot
  simp [simpleEscape?, hnot] at h

/-- What is written for a character is a part of a string. -/
theorem isStringPart_escape (c : Char) : IsStringPart (escape false c) := by
  by_cases hquote : c = '"'
  · subst hquote
    exact .escape (by decide)
  by_cases hbackslash : c = '\\'
  · subst hbackslash
    exact .escape (by decide)
  by_cases hcontrol : c.toNat < 0x20
  · rcases escape_control hcontrol with ⟨e, hescape, he⟩ | hescape
    · rw [hescape]
      exact isStringPart_of_simpleEscape he
    · rw [hescape]
      exact .unit (isHexDigit_hexDigit _) (isHexDigit_hexDigit _) (isHexDigit_hexDigit _)
        (isHexDigit_hexDigit _)
  · rw [escape_plain hquote hbackslash hcontrol]
    exact .plain (Nat.not_lt.mp hcontrol) hquote hbackslash

theorem isStringPart_escapePoint (p : CodePoint) : IsStringPart (escapePoint false p) := by
  cases p with
  | char c => exact isStringPart_escape c
  | surrogate offset =>
    exact .unit (isHexDigit_hexDigit _) (isHexDigit_hexDigit _) (isHexDigit_hexDigit _)
      (isHexDigit_hexDigit _)

theorem isString_quoteChars (t : Text) : IsString (quoteChars false t) := by
  refine ⟨t.points.map (escapePoint false), ?_, ?_⟩
  · intro part hpart
    obtain ⟨p, -, rfl⟩ := List.mem_map.mp hpart
    exact isStringPart_escapePoint p
  · rw [quoteChars, List.flatMap_def]

theorem mem_signs_signChars (negative : Bool) : signChars negative ∈ [[], ['-']] := by
  cases negative <;> decide

theorem isNumber_intChars (n : Int) : IsNumber (intChars n) := by
  refine ⟨signChars (decide (n < 0)), digitChars n.natAbs, [], [], mem_signs_signChars _,
    isWhole_digitChars _, Or.inl rfl, Or.inl rfl, ?_⟩
  by_cases hneg : n < 0
  · simp [intChars, signChars, hneg]
  · simp [intChars, signChars, hneg]

theorem Positional.isNumber {text : List Char} {v : ℚ} (h : Positional text v)
    (negative : Bool) : IsNumber (signChars negative ++ text) := by
  obtain ⟨whole, places, hwhole, hne, hplaces, rfl, -⟩ := h
  exact ⟨_, whole, '.' :: places, [], mem_signs_signChars negative, hwhole,
    Or.inr ⟨places, ⟨hne, hplaces⟩, rfl⟩, Or.inl rfl, by simp⟩

theorem isFraction_pointed {places : List Char} (hplaces : ∀ c ∈ places, isDigit c = true) :
    IsFraction (pointed places) := by
  by_cases hempty : places = []
  · rw [hempty]
    exact Or.inl rfl
  · exact Or.inr ⟨places, ⟨hempty, hplaces⟩, pointed_of_ne_nil hempty⟩

theorem isExponent_exponentText (below : Bool) {ds : List Char} (hds : IsDigits ds) :
    IsExponent (exponentText below ds) := by
  cases below with
  | true => exact Or.inr ⟨'e', ['-'], ds, by decide, by decide, hds, rfl⟩
  | false => exact Or.inr ⟨'e', ['+'], ds, by decide, by decide, hds, rfl⟩

theorem Exponential.isNumber {text : List Char} {v : ℚ} (h : Exponential text v)
    (negative : Bool) : IsNumber (signChars negative ++ text) := by
  obtain ⟨whole, places, below, ds, hwhole, hplaces, hne, hds, rfl, -⟩ := h
  exact ⟨_, whole, pointed places, exponentText below ds, mem_signs_signChars negative, hwhole,
    isFraction_pointed hplaces, isExponent_exponentText below ⟨hne, hds⟩, by simp⟩

theorem isNumber_floatChars (f : FloatFormat) {x : Binary64} (hfinite : x.isFinite = true) :
    IsNumber (f.chars x) := by
  by_cases hx : x.magnitude = 0
  · rw [floatChars_of_magnitude_eq_zero f hx]
    exact ⟨_, ['0'], ['.', '0'], [], mem_signs_signChars x.negative, isWhole_zero,
      Or.inr ⟨['0'], ⟨isWhole_zero.nonempty, isWhole_zero.digits⟩, rfl⟩, Or.inl rfl, by simp⟩
  · obtain ⟨body, htext, hnotation⟩ := exists_floatChars f hfinite hx
    rw [htext]
    exact hnotation.elim (fun h => h.isNumber _) fun h => h.isNumber _

/-- In a document the word null stands for a number that is not finite. -/
theorem documentChars_of_not_isFinite {x : Binary64} (hfinite : x.isFinite = false) :
    FloatFormat.document.chars x = "null".toList := by
  have hwords : ∀ b : Bool, (if b then FloatFormat.document.negativeInfinity
      else FloatFormat.document.positiveInfinity) = "null" := by decide
  rw [FloatFormat.chars]
  split
  · rfl
  · rw [if_pos (by rw [hfinite]; rfl), hwords]

/-! ## Values -/

theorem isValue_floatChars (x : Binary64) : IsValue (FloatFormat.document.chars x) := by
  by_cases hfinite : x.isFinite = true
  · exact .number (isNumber_floatChars _ hfinite)
  · rw [documentChars_of_not_isFinite (Bool.eq_false_iff.mpr hfinite)]
    exact .word "null" (by decide)

/-- Items that are written as values are written as items. -/
theorem isItems_indentedItems {depth : Nat} {x : Json} {xs : List Json} {closing : List Char}
    (hclosing : IsBlanks closing)
    (h : ∀ y ∈ x :: xs, IsValue (indentedChars .document depth y)) :
    IsItems (newline depth ++ indentedChars .document depth x ++
      indentedItems .document depth xs ++ closing) := by
  induction xs generalizing x with
  | nil =>
    rw [indentedItems, List.append_nil]
    exact .last (.padded (isBlanks_newline depth) (h x (by simp)) hclosing)
  | cons y ys ih =>
    have hfirst := (h x (by simp)).behind (isBlanks_newline depth)
    have hrest := ih fun z hz => h z (List.mem_cons_of_mem x hz)
    have htext := IsItems.more hfirst hrest
    simpa [indentedItems] using htext

/-- A key and a value on a line of their own. -/
theorem isMember_indented (depth : Nat) (key : Text) {value closing : List Char}
    (hvalue : IsValue value) (hclosing : IsBlanks closing) :
    IsMember (newline depth ++ quoteChars false key ++ [':', ' '] ++ value ++ closing) := by
  have htext : IsText ([' '] ++ value ++ closing) :=
    .padded (by simp [IsBlanks]) hvalue hclosing
  have hmember := IsMember.padded (isBlanks_newline depth) (isString_quoteChars key)
    isBlanks_nil htext
  simpa using hmember

/-- Members whose values are written as values are written as members. -/
theorem isMembers_indentedMembers {depth : Nat} {key : Text} {value : Json} {ms : Members}
    {closing : List Char} (hclosing : IsBlanks closing)
    (h : ∀ m ∈ (key, value) :: ms, IsValue (indentedChars .document depth m.2)) :
    IsMembers (newline depth ++ quoteChars false key ++ [':', ' '] ++
      indentedChars .document depth value ++ indentedMembers .document depth ms ++ closing) := by
  induction ms generalizing key value with
  | nil =>
    rw [indentedMembers, List.append_nil]
    exact .last (isMember_indented depth key (h _ (List.mem_cons_self ..)) hclosing)
  | cons m ms ih =>
    obtain ⟨nextKey, nextValue⟩ := m
    have hfirst := isMember_indented depth key (h _ (List.mem_cons_self ..)) isBlanks_nil
    have hrest := ih fun n hn => h n (List.mem_cons_of_mem _ hn)
    have htext := IsMembers.more hfirst hrest
    simpa [indentedMembers, JsonStyle.document] using htext

/-- Every value is written as a value of the grammar, at every depth. -/
theorem isValue_indentedChars (j : Json) (depth : Nat) :
    IsValue (indentedChars .document depth j) := by
  induction j using nestedInduction generalizing depth with
  | null => exact .word "null" (by decide)
  | bool b =>
    cases b with
    | true => exact .word "true" (by decide)
    | false => exact .word "false" (by decide)
  | int n => exact .number (isNumber_intChars n)
  | float x => exact isValue_floatChars x
  | str s => exact .string (isString_quoteChars s)
  | arr xs ih =>
    cases xs with
    | nil => exact IsValue.emptyArray isBlanks_nil
    | cons x xs =>
      have hitems := isItems_indentedItems (isBlanks_newline depth) fun y hy => ih y hy (depth + 1)
      simpa [indentedChars] using IsValue.array hitems
  | obj ms ih =>
    cases ms with
    | nil => exact IsValue.emptyObject isBlanks_nil
    | cons m ms =>
      obtain ⟨key, value⟩ := m
      have hmembers := isMembers_indentedMembers (isBlanks_newline depth)
        fun n hn => ih n hn (depth + 1)
      simpa [indentedChars, JsonStyle.document] using IsValue.object hmembers

/-- The saved text of a value is a text of the grammar. -/
theorem isText_pretty (j : Json) : IsText j.pretty.toList := by
  rw [pretty, String.toList_ofList]
  exact (isValue_indentedChars j 0).behind isBlanks_nil

/-! ## Values as written -/

theorem indentedItems_congr {style : JsonStyle} {depth : Nat} {f : Json → Json}
    {xs : List Json}
    (h : ∀ x ∈ xs, indentedChars style depth (f x) = indentedChars style depth x) :
    indentedItems style depth (xs.map f) = indentedItems style depth xs := by
  induction xs with
  | nil => rfl
  | cons x xs ih =>
    rw [List.map_cons, indentedItems, indentedItems, h x (List.mem_cons_self ..),
      ih fun y hy => h y (List.mem_cons_of_mem x hy)]

theorem indentedMembers_congr {style : JsonStyle} {depth : Nat} {f : Json → Json}
    {ms : Members}
    (h : ∀ m ∈ ms, indentedChars style depth (f m.2) = indentedChars style depth m.2) :
    indentedMembers style depth (ms.map fun m => (m.1, f m.2)) =
      indentedMembers style depth ms := by
  induction ms with
  | nil => rfl
  | cons m ms ih =>
    obtain ⟨key, value⟩ := m
    rw [List.map_cons, indentedMembers, indentedMembers, h _ (List.mem_cons_self ..),
      ih fun n hn => h n (List.mem_cons_of_mem _ hn)]

/-- A value and what a text can hold of it are written alike. -/
theorem indentedChars_asWritten (j : Json) (depth : Nat) :
    indentedChars .document depth j.asWritten = indentedChars .document depth j := by
  induction j using nestedInduction generalizing depth with
  | float x =>
    rw [asWritten_float]
    split
    · rfl
    · next hfinite =>
      exact (documentChars_of_not_isFinite (Bool.eq_false_iff.mpr hfinite)).symm
  | arr xs ih =>
    rw [asWritten_arr]
    cases xs with
    | nil => rfl
    | cons x xs =>
      rw [List.map_cons, indentedChars, indentedChars, ih x (List.mem_cons_self ..),
        indentedItems_congr fun y hy => ih y (List.mem_cons_of_mem x hy) (depth + 1)]
  | obj ms ih =>
    rw [asWritten_obj]
    cases ms with
    | nil => rfl
    | cons m ms =>
      obtain ⟨key, value⟩ := m
      rw [List.map_cons, indentedChars, indentedChars, ih _ (List.mem_cons_self ..),
        indentedMembers_congr fun n hn => ih n (List.mem_cons_of_mem _ hn) (depth + 1)]
  | _ => rfl

theorem pretty_asWritten (j : Json) : j.asWritten.pretty = j.pretty := by
  rw [pretty, indentedChars_asWritten, pretty]

end WorkflowEngine.Json
