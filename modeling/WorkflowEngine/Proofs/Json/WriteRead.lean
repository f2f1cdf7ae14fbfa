import WorkflowEngine.Proofs.Json.Content
import WorkflowEngine.Proofs.Json.NumberTexts
import WorkflowEngine.Proofs.Json.Strings

/-!
# Documents are read as written

Reading the text of a storable value, indented or on one line, gives back the value as it was
written: the same value, with null in the place of numbers that are not finite.  The line of a log
has words for these numbers and is read back where there are none.  The texts differ only in the
blanks between tokens, which a `Layout` names, so the arrays and objects of every layout are read
in one place.  The induction is on the value, and in each step the text
may be followed by anything that does not go on with a number.
-/

namespace WorkflowEngine

namespace Members

theorem put_of_forall_ne {o : Members} {key : Text} (hkey : ∀ m ∈ o, m.1 ≠ key)
    (value : Json) : put o key value = o ++ ([(key, value)] : Members) := by
  induction o with
  | nil => rfl
  | cons m o ih =>
    obtain ⟨k, v⟩ := m
    have hk : k ≠ key := hkey (k, v) (List.mem_cons_self ..)
    rw [put, if_neg hk, ih fun m hm => hkey m (List.mem_cons_of_mem _ hm)]
    rfl

theorem foldl_put_of_nodup {o pairs : Members}
    (h : ((o ++ pairs).map Prod.fst).Nodup) :
    pairs.foldl (fun o p => put o p.1 p.2) o = o ++ pairs := by
  induction pairs generalizing o with
  | nil => simp
  | cons p pairs ih =>
    have hfresh : ∀ m ∈ o, m.1 ≠ p.1 := by
      rw [List.map_append, List.nodup_append] at h
      intro m hm
      exact h.2.2 m.1 (List.mem_map_of_mem hm) p.1 (by simp)
    have hsplit : o ++ p :: pairs = (o ++ [p]) ++ pairs := by simp
    rw [List.foldl_cons, put_of_forall_ne hfresh, hsplit]
    rw [hsplit] at h
    exact ih h

/-- Pairs with distinct keys are the members of an object as they are. -/
theorem ofPairs_of_nodup {pairs : Members} (h : (pairs.map Prod.fst).Nodup) :
    ofPairs pairs = pairs :=
  foldl_put_of_nodup (o := []) (by simpa using h)

end Members

namespace Json

/-! ## Blanks -/

/-- A text that does not begin with a blank. -/
def StartsDense (cs : List Char) : Prop := ∃ c more, cs = c :: more ∧ isBlank c = false

theorem StartsDense.append {cs : List Char} (h : StartsDense cs) (more : List Char) :
    StartsDense (cs ++ more) := by
  obtain ⟨c, tail, rfl, hc⟩ := h
  exact ⟨c, tail ++ more, rfl, hc⟩

theorem startsDense_cons {c : Char} (hc : isBlank c = false) (cs : List Char) :
    StartsDense (c :: cs) :=
  ⟨c, cs, rfl, hc⟩

theorem skipBlanks_of_startsDense {cs : List Char} (h : StartsDense cs) :
    skipBlanks (cs.map .char) = cs.map .char := by
  obtain ⟨c, more, rfl, hc⟩ := h
  rw [skipBlanks, List.map_cons, List.dropWhile_cons, if_neg (by simp [CodePoint.satisfies, hc])]

theorem skipBlanks_append {blanks cs : List Char} (hblanks : ∀ c ∈ blanks, isBlank c = true)
    (h : StartsDense cs) : skipBlanks ((blanks ++ cs).map .char) = cs.map .char := by
  have hpoints : ∀ p ∈ blanks.map CodePoint.char, p.satisfies isBlank = true :=
    List.forall_mem_map.mpr hblanks
  rw [List.map_append, skipBlanks, List.dropWhile_append_of_pos hpoints]
  exact skipBlanks_of_startsDense h

theorem isBlank_of_mem_newline {depth : Nat} {c : Char} (hc : c ∈ newline depth) :
    isBlank c = true := by
  rcases List.mem_cons.mp hc with rfl | hc
  · decide
  · rw [List.eq_of_mem_replicate hc]
    decide

theorem isBlank_of_isDigit {c : Char} (hc : isDigit c = true) : isBlank c = false := by
  have hne : ∀ b : Char, isDigit b = false → c ≠ b := by
    rintro b hb rfl
    rw [hc] at hb
    contradiction
  simp [isBlank, hne ' ' (by decide), hne '\t' (by decide), hne '\n' (by decide),
    hne '\r' (by decide)]

/-- A text that begins neither with a blank nor with a closing bracket, nor with the mark
of a byte order. -/
def StartsValue (cs : List Char) : Prop :=
  ∃ c more, cs = c :: more ∧ isBlank c = false ∧ c ≠ ']' ∧ c ≠ byteOrderMark

theorem StartsValue.dense {cs : List Char} (h : StartsValue cs) : StartsDense cs := by
  obtain ⟨c, more, rfl, hc, -⟩ := h
  exact startsDense_cons hc more

theorem StartsValue.append_ne {cs : List Char} (h : StartsValue cs) (more : List Char)
    (after : List CodePoint) : (cs ++ more).map .char ≠ .char ']' :: after := by
  obtain ⟨c, tail, rfl, -, hc, -⟩ := h
  exact fun heq => hc (CodePoint.char.inj (List.cons.inj heq).1)

theorem startsValue_cons {c : Char} (hc : isBlank c = false ∧ c ≠ ']' ∧ c ≠ byteOrderMark)
    (cs : List Char) : StartsValue (c :: cs) :=
  ⟨c, cs, rfl, hc⟩

/-! ## Values without parts -/

/-- A text that begins with none of the characters that open a string, an array or an
object. -/
def StartsLeaf (cs : List Char) : Prop :=
  ∃ c more, cs = c :: more ∧ (isBlank c = false ∧ c ≠ ']' ∧ c ≠ byteOrderMark) ∧
    c ≠ '"' ∧ c ≠ '[' ∧ c ≠ '{'

theorem StartsLeaf.value {cs : List Char} (h : StartsLeaf cs) : StartsValue cs := by
  obtain ⟨c, more, rfl, hc, -⟩ := h
  exact startsValue_cons hc more

theorem readValue_of_startsLeaf {cs : List Char} (h : StartsLeaf cs) (rest : List Char)
    (fuel : Nat) :
    readValue (fuel + 1) ((cs ++ rest).map .char) = readLeaf ((cs ++ rest).map .char) := by
  obtain ⟨c, more, rfl, -, hquote, hbracket, hbrace⟩ := h
  rw [List.cons_append, List.map_cons, readValue]
  · exact fun _ heq => hquote (CodePoint.char.inj (List.cons.inj heq).1)
  · exact fun _ heq => hbracket (CodePoint.char.inj (List.cons.inj heq).1)
  · exact fun _ heq => hbrace (CodePoint.char.inj (List.cons.inj heq).1)

theorem readLeaf_map_char (cs : List Char) :
    readLeaf (cs.map .char) =
      (readPlain cs).map fun (j, rest) => (j, (cs.drop (cs.length - rest.length)).map .char) := by
  rw [readLeaf, Text.map_shown_map_char]
  simp only [List.length_map, List.map_drop]

/-- A value without parts is read from characters as from code points. -/
theorem readLeaf_of_readPlain {text rest : List Char} {j : Json}
    (h : readPlain (text ++ rest) = .ok (j, rest)) :
    readLeaf ((text ++ rest).map .char) = .ok (j, rest.map .char) := by
  have hdrop : (text ++ rest).drop ((text ++ rest).length - rest.length) = rest := by simp
  rw [readLeaf_map_char, h]
  exact congrArg (fun left : List Char => Except.ok (j, left.map CodePoint.char)) hdrop

theorem startsLeaf_signChars {negative : Bool} {c : Char} (hc : isDigit c = true)
    (cs : List Char) : StartsLeaf (signChars negative ++ c :: cs) := by
  have hne : ∀ b : Char, isDigit b = false → c ≠ b := by
    rintro b hb rfl
    rw [hc] at hb
    contradiction
  cases negative with
  | true => exact ⟨'-', c :: cs, rfl, by decide, by decide, by decide, by decide⟩
  | false =>
    exact ⟨c, cs, rfl, ⟨isBlank_of_isDigit hc, hne _ (by decide), hne _ (by decide)⟩,
      hne _ (by decide), hne _ (by decide), hne _ (by decide)⟩

theorem startsLeaf_of_isNumberText {text : List Char} {j : Json} (h : IsNumberText text j) :
    StartsLeaf text := by
  obtain ⟨negative, body, rfl, ⟨c, cs, rfl, hc⟩, -⟩ := h
  exact startsLeaf_signChars hc cs

/-- A value without parts: what its text is and how it is read. -/
structure ReadsAsLeaf (text : List Char) (j : Json) : Prop where
  starts : StartsLeaf text
  reads : ∀ rest, EndsNumber rest → readPlain (text ++ rest) = .ok (j, rest)

theorem after?_append (word : String) (rest : List Char) :
    after? word (word.toList ++ rest) = some rest := by
  have hprefix : word.toList.isPrefixOf (word.toList ++ rest) = true :=
    List.isPrefixOf_iff_prefix.mpr (List.prefix_append _ _)
  rw [after?, if_pos hprefix, ← String.length_toList, List.drop_left]

theorem readsAsLeaf_null : ReadsAsLeaf ['n', 'u', 'l', 'l'] .null where
  starts := ⟨'n', _, rfl, by decide, by decide, by decide, by decide⟩
  reads rest _ := by
    have hword := after?_append "null" rest
    simp only [String.reduceToList, List.cons_append, List.nil_append] at hword
    simp [readPlain, words, hword]

theorem readsAsLeaf_bool (style : JsonStyle) (b : Bool) :
    ReadsAsLeaf (leafChars style (.bool b)) (.bool b) := by
  cases b with
  | true =>
    refine ⟨⟨'t', _, rfl, by decide, by decide, by decide, by decide⟩, fun rest _ => ?_⟩
    have hword := after?_append "true" rest
    simp only [String.reduceToList, List.cons_append, List.nil_append] at hword
    have hnull : after? "null" ('t' :: 'r' :: 'u' :: 'e' :: rest) = none := by simp [after?]
    simp [leafChars, readPlain, words, hnull, hword]
  | false =>
    refine ⟨⟨'f', _, rfl, by decide, by decide, by decide, by decide⟩, fun rest _ => ?_⟩
    have hword := after?_append "false" rest
    simp only [String.reduceToList, List.cons_append, List.nil_append] at hword
    have hnull : after? "null" ('f' :: 'a' :: 'l' :: 's' :: 'e' :: rest) = none := by
      simp [after?]
    have htrue : after? "true" ('f' :: 'a' :: 'l' :: 's' :: 'e' :: rest) = none := by
      simp [after?]
    simp [leafChars, readPlain, words, hnull, htrue, hword]

theorem readsAsLeaf_of_isNumberText {text : List Char} {j : Json} (h : IsNumberText text j) :
    ReadsAsLeaf text j where
  starts := startsLeaf_of_isNumberText h
  reads _ hrest := readPlain_of_isNumberText h hrest

/-- A number that is not finite is written as null in a document.  Other styles are read back
where there is none. -/
theorem readsAsLeaf_float (style : JsonStyle) {x : Binary64}
    (h : style.floats = .document ∨ x.isFinite = true) :
    ReadsAsLeaf (leafChars style (.float x)) (Json.float x).asWritten := by
  rw [asWritten_float]
  by_cases hfinite : x.isFinite = true
  · rw [if_pos hfinite]
    exact readsAsLeaf_of_isNumberText (isNumberText_floatChars _ hfinite)
  · have hnull : leafChars style (.float x) = ['n', 'u', 'l', 'l'] := by
      have hchars : FloatFormat.document.chars x = ['n', 'u', 'l', 'l'] := by
        simp [FloatFormat.chars, FloatFormat.document, hfinite]
      rw [leafChars, h.resolve_right hfinite]
      exact hchars
    rw [if_neg hfinite, hnull]
    exact readsAsLeaf_null

/-! ## Values with parts -/

/-- A text is read as a value, whatever follows that does not go on with a number. -/
structure ReadsAs (text : List Char) (j : Json) : Prop where
  starts : StartsValue text
  reads : ∀ rest fuel, EndsNumber rest → 2 * (text ++ rest).length ≤ fuel →
    readValue fuel ((text ++ rest).map .char) = .ok (j, rest.map .char)

theorem ReadsAsLeaf.readsAs {text : List Char} {j : Json} (h : ReadsAsLeaf text j) :
    ReadsAs text j where
  starts := h.starts.value
  reads rest fuel hrest hfuel := by
    obtain ⟨c, more, hcons, -⟩ := h.starts
    rw [hcons, List.cons_append, List.length_cons] at hfuel
    obtain ⟨fuel, rfl⟩ : ∃ n, fuel = n + 1 := ⟨fuel - 1, by omega⟩
    rw [readValue_of_startsLeaf h.starts, readLeaf_of_readPlain (h.reads rest hrest)]

theorem readsAs_str {t : Text} (ht : t.isProper = true) :
    ReadsAs (quoteChars false t) (.str t) where
  starts := startsValue_cons (by decide) _
  reads rest fuel _ hfuel := by
    obtain ⟨body, hbody⟩ : ∃ body, quoteChars false t ++ rest = '"' :: body := ⟨_, rfl⟩
    rw [hbody, List.length_cons] at hfuel
    obtain ⟨fuel, rfl⟩ : ∃ n, fuel = n + 1 := ⟨fuel - 1, by omega⟩
    rw [hbody, List.map_cons, readValue, readString_quoteChars ht hbody (by omega)]

theorem endsNumber_cons {c : Char} (hc : isDigit c = false ∧ c ≠ '.' ∧ c ≠ 'e' ∧ c ≠ 'E')
    (cs : List Char) : EndsNumber (c :: cs) := by
  intro d hd
  rw [List.head?_cons, Option.some.injEq] at hd
  rwa [← hd]

theorem endsNumber_append {blanks cs : List Char} (hblanks : ∀ c ∈ blanks, isBlank c = true)
    (h : EndsNumber cs) : EndsNumber (blanks ++ cs) := by
  cases blanks with
  | nil => exact h
  | cons c more =>
    have hc := hblanks c List.mem_cons_self
    refine endsNumber_cons ⟨?_, ?_, ?_, ?_⟩ _
    · by_contra hdigit
      rw [isBlank_of_isDigit (Bool.not_eq_false _ ▸ hdigit)] at hc
      contradiction
    all_goals
      rintro rfl
      revert hc
      decide

/-- The blanks between the tokens of an array or an object. -/
structure Layout where
  /-- Behind the opening bracket. -/
  opening : List Char
  /-- Behind a comma. -/
  gap : List Char
  /-- Behind the colon of a member. -/
  colon : List Char
  /-- Before the closing bracket. -/
  closing : List Char
  isBlank_opening : ∀ c ∈ opening, isBlank c = true
  isBlank_gap : ∀ c ∈ gap, isBlank c = true
  isBlank_colon : ∀ c ∈ colon, isBlank c = true
  isBlank_closing : ∀ c ∈ closing, isBlank c = true

namespace Layout

/-- The text of an array or an object between brackets, from the texts of its parts. -/
def enclosed (l : Layout) (opened closed : Char) : List (List Char) → List Char
  | [] => [opened, closed]
  | text :: texts =>
    opened :: l.opening ++ text ++ texts.flatMap (fun t => ',' :: l.gap ++ t) ++ l.closing ++
      [closed]

/-- The text of a member, from the text of its value. -/
def memberText (l : Layout) (key : Text) (text : List Char) : List Char :=
  quoteChars false key ++ ':' :: l.colon ++ text

/-- What stands behind the first part, and what follows the closing bracket. -/
def tail (l : Layout) (closed : Char) (texts : List (List Char)) (rest : List Char) : List Char :=
  texts.flatMap (fun t => ',' :: l.gap ++ t) ++ l.closing ++ closed :: rest

variable {l : Layout} {closed : Char} {rest : List Char}

theorem enclosed_append {opened : Char} {text : List Char} {texts : List (List Char)} :
    l.enclosed opened closed (text :: texts) ++ rest =
      opened :: (l.opening ++ (text ++ l.tail closed texts rest)) := by
  simp [enclosed, tail]

theorem tail_nil : l.tail closed [] rest = l.closing ++ closed :: rest := rfl

theorem tail_cons {text : List Char} {texts : List (List Char)} :
    l.tail closed (text :: texts) rest =
      ',' :: (l.gap ++ (text ++ l.tail closed texts rest)) := by
  simp [tail]

theorem endsNumber_tail (hclosed : isDigit closed = false ∧ closed ≠ '.' ∧ closed ≠ 'e' ∧
    closed ≠ 'E') (texts : List (List Char)) : EndsNumber (l.tail closed texts rest) := by
  cases texts with
  | nil => exact endsNumber_append l.isBlank_closing (endsNumber_cons hclosed rest)
  | cons text texts =>
    rw [tail_cons]
    exact endsNumber_cons (by decide) _

/-! ### Arrays -/

/-- Items are read up to the closing bracket. -/
theorem readItems_tail {text : List Char} {j : Json} {items : List (List Char × Json)} {fuel : Nat}
    (hreads : ∀ item ∈ (text, j) :: items, ReadsAs item.1 item.2)
    (hfuel : 2 * (text ++ l.tail ']' (items.map Prod.fst) rest).length + 1 ≤ fuel) :
    readItems fuel ((text ++ l.tail ']' (items.map Prod.fst) rest).map .char) =
      .ok (j :: items.map Prod.snd, rest.map .char) := by
  have hends : ∀ items : List (List Char × Json),
      EndsNumber (l.tail ']' (items.map Prod.fst) rest) := fun _ => endsNumber_tail (by decide) _
  induction items generalizing text j fuel with
  | nil =>
    have hfirst : ReadsAs text j := hreads (text, j) List.mem_cons_self
    obtain ⟨fuel, rfl⟩ : ∃ n, fuel = n + 1 := ⟨fuel - 1, by omega⟩
    have hvalue := hfirst.reads _ fuel (hends []) (by omega)
    rw [readItems, hvalue]
    dsimp only
    rw [List.map_nil, tail_nil,
      skipBlanks_append l.isBlank_closing (startsDense_cons (by decide) rest)]
    rfl
  | cons item items ih =>
    obtain ⟨nextText, next⟩ := item
    have hfirst : ReadsAs text j := hreads (text, j) List.mem_cons_self
    obtain ⟨fuel, rfl⟩ : ∃ n, fuel = n + 1 := ⟨fuel - 1, by omega⟩
    have hvalue := hfirst.reads _ fuel (hends ((nextText, next) :: items)) (by omega)
    have hothers : ∀ item ∈ (nextText, next) :: items, ReadsAs item.1 item.2 :=
      fun item hitem => hreads item (List.mem_cons_of_mem _ hitem)
    have hdense := (hothers (nextText, next) List.mem_cons_self).starts.dense
    rw [readItems, hvalue]
    dsimp only
    rw [List.map_cons, tail_cons] at hfuel ⊢
    simp only [List.length_append, List.length_cons] at hfuel
    have hshorter : 2 * (nextText ++ l.tail ']' (items.map Prod.fst) rest).length + 1 ≤ fuel := by
      simp only [List.length_append]
      omega
    rw [skipBlanks_of_startsDense (startsDense_cons (by decide) _)]
    simp only [List.map_cons, skipBlanks_append l.isBlank_gap (hdense.append _),
      ih hothers hshorter]

/-- An array is read if its items are. -/
theorem readsAs_arr (l : Layout) {items : List (List Char × Json)}
    (hreads : ∀ item ∈ items, ReadsAs item.1 item.2) :
    ReadsAs (l.enclosed '[' ']' (items.map Prod.fst)) (.arr (items.map Prod.snd)) := by
  cases items with
  | nil =>
    refine ⟨startsValue_cons (by decide) _, fun rest fuel _ hfuel => ?_⟩
    obtain ⟨fuel, rfl⟩ : ∃ n, fuel = n + 1 := ⟨fuel - 1, by
      rw [List.map_nil, enclosed, List.cons_append, List.length_cons] at hfuel
      omega⟩
    rw [List.map_nil, enclosed, List.cons_append, List.cons_append, List.nil_append, List.map_cons,
      readValue, skipBlanks_of_startsDense (startsDense_cons (by decide) rest)]
    rfl
  | cons item items =>
    obtain ⟨text, j⟩ := item
    refine ⟨startsValue_cons (by decide) _, fun rest fuel _ hfuel => ?_⟩
    rw [List.map_cons, enclosed_append] at hfuel ⊢
    simp only [List.length_append, List.length_cons] at hfuel
    obtain ⟨fuel, rfl⟩ : ∃ n, fuel = n + 1 := ⟨fuel - 1, by omega⟩
    have hstarts := (hreads (text, j) List.mem_cons_self).starts
    have hitems : readItems fuel ((text ++ l.tail ']' (items.map Prod.fst) rest).map .char) =
        .ok (j :: items.map Prod.snd, rest.map .char) := readItems_tail hreads (by
      simp only [List.length_append]
      omega)
    -- The text of the first item is not mistaken for the end of an empty array.
    have hopen := hstarts.append_ne (l.tail ']' (items.map Prod.fst) rest)
    rw [List.map_cons, readValue, skipBlanks_append l.isBlank_opening (hstarts.dense.append _)]
    simp only [hitems, List.map_cons]

/-! ### Objects -/

/-- How reading goes on behind a member that was read. -/
def readBehind (fuel : Nat) (m : Text × Json) : Reader CodePoint (List (Text × Json)) := fun ps =>
  match skipBlanks ps with
  | .char '}' :: after => .ok ([m], after)
  | .char ',' :: after =>
    match readMembers fuel (skipBlanks after) with
    | .error stop => .error stop
    | .ok (pairs, after) => .ok (m :: pairs, after)
  | other => stopAt other

theorem startsDense_memberText (key : Text) (text : List Char) :
    StartsDense (l.memberText key text) :=
  startsDense_cons (by decide) _

/-- The key and the value of a member are read one after the other. -/
theorem readMembers_memberText {key : Text} {text : List Char} {j : Json} {fuel : Nat}
    (hkey : key.isProper = true) (hreads : ReadsAs text j) (hrest : EndsNumber rest)
    (hfuel : 2 * (l.memberText key text ++ rest).length ≤ fuel) :
    readMembers (fuel + 1) ((l.memberText key text ++ rest).map .char) =
      readBehind fuel (key, j) (rest.map .char) := by
  have htext : l.memberText key text ++ rest =
      quoteChars false key ++ ':' :: (l.colon ++ (text ++ rest)) := by
    simp [memberText]
  rw [htext] at hfuel ⊢
  obtain ⟨body, hbody⟩ : ∃ body,
      quoteChars false key ++ ':' :: (l.colon ++ (text ++ rest)) = '"' :: body := ⟨_, rfl⟩
  have hlength : body.length + 1 ≤ fuel := by
    rw [hbody, List.length_cons] at hfuel
    omega
  have hvalue := hreads.reads rest fuel hrest (by
    simp only [List.length_append, List.length_cons] at hfuel ⊢
    omega)
  rw [hbody, List.map_cons, readMembers, readString_quoteChars hkey hbody (by omega)]
  dsimp only
  rw [skipBlanks_of_startsDense (startsDense_cons (by decide) _)]
  simp only [List.map_cons, skipBlanks_append l.isBlank_colon (hreads.starts.dense.append rest),
    hvalue]
  rfl

/-- The text of a key, a text and the value it is read as. -/
abbrev Entry := Text × List Char × Json

/-- Members are read up to the closing brace. -/
theorem readMembers_tail {key : Text} {text : List Char} {j : Json} {entries : List Entry}
    {fuel : Nat}
    (hreads : ∀ e ∈ (key, text, j) :: entries, e.1.isProper = true ∧ ReadsAs e.2.1 e.2.2)
    (hfuel : 2 * (l.memberText key text ++
      l.tail '}' (entries.map fun e => l.memberText e.1 e.2.1) rest).length + 1 ≤ fuel) :
    readMembers fuel ((l.memberText key text ++
        l.tail '}' (entries.map fun e => l.memberText e.1 e.2.1) rest).map .char) =
      .ok ((key, j) :: entries.map fun e => (e.1, e.2.2), rest.map .char) := by
  have hends : ∀ texts, EndsNumber (l.tail '}' texts rest) := endsNumber_tail (by decide)
  induction entries generalizing key text j fuel with
  | nil =>
    obtain ⟨hkey, hfirst⟩ : key.isProper = true ∧ ReadsAs text j :=
      hreads (key, text, j) List.mem_cons_self
    obtain ⟨fuel, rfl⟩ : ∃ n, fuel = n + 1 := ⟨fuel - 1, by omega⟩
    rw [readMembers_memberText hkey hfirst (hends _) (by omega), readBehind, List.map_nil, tail_nil,
      skipBlanks_append l.isBlank_closing (startsDense_cons (by decide) rest)]
    rfl
  | cons e entries ih =>
    obtain ⟨nextKey, nextText, next⟩ := e
    obtain ⟨hkey, hfirst⟩ : key.isProper = true ∧ ReadsAs text j :=
      hreads (key, text, j) List.mem_cons_self
    obtain ⟨fuel, rfl⟩ : ∃ n, fuel = n + 1 := ⟨fuel - 1, by omega⟩
    have hothers : ∀ e ∈ (nextKey, nextText, next) :: entries,
        e.1.isProper = true ∧ ReadsAs e.2.1 e.2.2 :=
      fun e he => hreads e (List.mem_cons_of_mem _ he)
    have hdense : StartsDense (l.memberText nextKey nextText) := startsDense_memberText _ _
    rw [readMembers_memberText hkey hfirst (hends _) (by omega), readBehind]
    rw [List.map_cons, tail_cons] at hfuel ⊢
    simp only [List.length_append, List.length_cons] at hfuel
    have hshorter : 2 * (l.memberText nextKey nextText ++
        l.tail '}' (entries.map fun e => l.memberText e.1 e.2.1) rest).length + 1 ≤ fuel := by
      simp only [List.length_append]
      omega
    rw [skipBlanks_of_startsDense (startsDense_cons (by decide) _)]
    simp only [List.map_cons, skipBlanks_append l.isBlank_gap (hdense.append _),
      ih hothers hshorter]

/-- An object with distinct keys is read if its values are. -/
theorem readsAs_obj (l : Layout) {entries : List Entry} (hkeys : (entries.map (·.1)).Nodup)
    (hreads : ∀ e ∈ entries, e.1.isProper = true ∧ ReadsAs e.2.1 e.2.2) :
    ReadsAs (l.enclosed '{' '}' (entries.map fun e => l.memberText e.1 e.2.1))
      (.obj (entries.map fun e => (e.1, e.2.2))) := by
  cases entries with
  | nil =>
    refine ⟨startsValue_cons (by decide) _, fun rest fuel _ hfuel => ?_⟩
    obtain ⟨fuel, rfl⟩ : ∃ n, fuel = n + 1 := ⟨fuel - 1, by
      rw [List.map_nil, enclosed, List.cons_append, List.length_cons] at hfuel
      omega⟩
    rw [List.map_nil, enclosed, List.cons_append, List.cons_append, List.nil_append, List.map_cons,
      readValue, skipBlanks_of_startsDense (startsDense_cons (by decide) rest)]
    rfl
  | cons e entries =>
    obtain ⟨key, text, j⟩ := e
    refine ⟨startsValue_cons (by decide) _, fun rest fuel _ hfuel => ?_⟩
    rw [List.map_cons, enclosed_append] at hfuel ⊢
    simp only [List.length_append, List.length_cons] at hfuel
    obtain ⟨fuel, rfl⟩ : ∃ n, fuel = n + 1 := ⟨fuel - 1, by omega⟩
    have hmembers : readMembers fuel ((l.memberText key text ++
        l.tail '}' (entries.map fun e => l.memberText e.1 e.2.1) rest).map .char) =
          .ok ((key, j) :: entries.map fun e => (e.1, e.2.2), rest.map .char) :=
      readMembers_tail hreads (by
      simp only [List.length_append]
      omega)
    have hdistinct :
        (((key, j) :: entries.map fun e => (e.1, e.2.2)).map Prod.fst).Nodup := by
      simpa [List.map_map, Function.comp_def] using hkeys
    have hopen : ∀ after, (l.memberText key text ++
        l.tail '}' (entries.map fun e => l.memberText e.1 e.2.1) rest).map CodePoint.char ≠
          .char '}' :: after := by
      intro after heq
      have hhead : CodePoint.char '"' = .char '}' := (List.cons.inj heq).1
      exact absurd hhead (by decide)
    have hdense : StartsDense (l.memberText key text) := startsDense_memberText _ _
    rw [List.map_cons, readValue, skipBlanks_append l.isBlank_opening (hdense.append _)]
    simp only [hmembers, Members.ofPairs_of_nodup hdistinct, List.map_cons]

/-! ### Values as they were written -/

theorem readsAs_items (l : Layout) {xs : List Json} {text : Json → List Char}
    (hreads : ∀ x ∈ xs, ReadsAs (text x) x.asWritten) :
    ReadsAs (l.enclosed '[' ']' (xs.map text)) (Json.arr xs).asWritten := by
  have hitems : ∀ item ∈ xs.map fun x => (text x, x.asWritten), ReadsAs item.1 item.2 := by
    intro item hitem
    obtain ⟨x, hx, rfl⟩ := List.mem_map.mp hitem
    exact hreads x hx
  simpa [List.map_map, Function.comp_def, asWritten_arr] using l.readsAs_arr hitems

theorem readsAs_members (l : Layout) {ms : Members} {text : Json → List Char}
    (hkeys : (ms.map Prod.fst).Nodup)
    (hreads : ∀ m ∈ ms, m.1.isProper = true ∧ ReadsAs (text m.2) m.2.asWritten) :
    ReadsAs (l.enclosed '{' '}' (ms.map fun m => l.memberText m.1 (text m.2)))
      (Json.obj ms).asWritten := by
  have hentries : ∀ e ∈ ms.map fun m => (m.1, text m.2, m.2.asWritten),
      e.1.isProper = true ∧ ReadsAs e.2.1 e.2.2 := by
    intro e he
    obtain ⟨m, hm, rfl⟩ := List.mem_map.mp he
    exact hreads m hm
  have hdistinct : ((ms.map fun m => (m.1, text m.2, m.2.asWritten)).map (·.1)).Nodup := by
    simpa [List.map_map, Function.comp_def] using hkeys
  simpa [List.map_map, Function.comp_def, asWritten_obj] using l.readsAs_obj hdistinct hentries

/-! ### The layouts of the styles -/

/-- Each part on a line of its own. -/
def indented (depth : Nat) : Layout where
  opening := newline (depth + 1)
  gap := newline (depth + 1)
  colon := [' ']
  closing := newline depth
  isBlank_opening _ := isBlank_of_mem_newline
  isBlank_gap _ := isBlank_of_mem_newline
  isBlank_colon := List.forall_mem_singleton.mpr rfl
  isBlank_closing _ := isBlank_of_mem_newline

/-- No blanks. -/
def compact : Layout where
  opening := []
  gap := []
  colon := []
  closing := []
  isBlank_opening := List.forall_mem_nil _
  isBlank_gap := List.forall_mem_nil _
  isBlank_colon := List.forall_mem_nil _
  isBlank_closing := List.forall_mem_nil _

/-- A style lays out its lines with certain blanks, and escapes no more than it has to. -/
structure LaysOut (l : Layout) (style : JsonStyle) : Prop where
  opening : l.opening = []
  closing : l.closing = []
  separator : style.separator.toList = ',' :: l.gap
  colon : style.colon.toList = ':' :: l.colon
  asciiOnly : style.asciiOnly = false

theorem laysOut_compact : compact.LaysOut .document := by
  constructor <;> rfl

theorem indentedItems_eq_flatMap (depth : Nat) (xs : List Json) :
    indentedItems .document depth xs =
      xs.flatMap fun x => ',' :: newline depth ++ indentedChars .document depth x := by
  induction xs with
  | nil => rfl
  | cons x xs ih => rw [indentedItems, ih, List.flatMap_cons]

theorem indentedMembers_eq_flatMap (depth : Nat) (ms : Members) :
    indentedMembers .document (depth + 1) ms = ms.flatMap fun m => ',' :: newline (depth + 1) ++
      (indented depth).memberText m.1 (indentedChars .document (depth + 1) m.2) := by
  induction ms with
  | nil => rfl
  | cons m ms ih =>
    obtain ⟨key, value⟩ := m
    rw [indentedMembers, ih, List.flatMap_cons]
    simp [memberText, indented, JsonStyle.document]

section LaysOut

variable {style : JsonStyle}

theorem itemChars_eq_flatMap (h : l.LaysOut style) (xs : List Json) :
    itemChars style xs = xs.flatMap fun x => ',' :: l.gap ++ chars style x := by
  induction xs with
  | nil => rfl
  | cons x xs ih => rw [itemChars, ih, List.flatMap_cons, h.separator]

theorem memberChars_eq_flatMap (h : l.LaysOut style) (ms : Members) :
    memberChars style ms = ms.flatMap fun m =>
      ',' :: l.gap ++ l.memberText m.1 (chars style m.2) := by
  induction ms with
  | nil => rfl
  | cons m ms ih =>
    obtain ⟨key, value⟩ := m
    rw [memberChars, ih, List.flatMap_cons, h.separator, h.colon, h.asciiOnly]
    simp [memberText]

theorem chars_arr (h : l.LaysOut style) (xs : List Json) :
    chars style (.arr xs) = l.enclosed '[' ']' (xs.map (chars style)) := by
  cases xs with
  | nil => rfl
  | cons x xs =>
    rw [chars, itemChars_eq_flatMap h, List.map_cons, enclosed, List.flatMap_map, h.opening,
      h.closing]
    simp

theorem chars_obj (h : l.LaysOut style) (ms : Members) :
    chars style (.obj ms) =
      l.enclosed '{' '}' (ms.map fun m => l.memberText m.1 (chars style m.2)) := by
  cases ms with
  | nil => rfl
  | cons m ms =>
    obtain ⟨key, value⟩ := m
    rw [chars, memberChars_eq_flatMap h, List.map_cons, enclosed, List.flatMap_map, h.opening,
      h.closing, h.asciiOnly, h.colon]
    simp [memberText]

end LaysOut

theorem indentedChars_arr (depth : Nat) (xs : List Json) :
    indentedChars .document depth (.arr xs) =
      (indented depth).enclosed '[' ']' (xs.map (indentedChars .document (depth + 1))) := by
  cases xs with
  | nil => rfl
  | cons x xs =>
    rw [indentedChars, indentedItems_eq_flatMap, List.map_cons, enclosed, List.flatMap_map]
    rfl

theorem indentedChars_obj (depth : Nat) (ms : Members) :
    indentedChars .document depth (.obj ms) = (indented depth).enclosed '{' '}'
      (ms.map fun m =>
        (indented depth).memberText m.1 (indentedChars .document (depth + 1) m.2)) := by
  cases ms with
  | nil => rfl
  | cons m ms =>
    obtain ⟨key, value⟩ := m
    rw [indentedChars, indentedMembers_eq_flatMap, List.map_cons, enclosed, List.flatMap_map]
    simp [memberText, indented, JsonStyle.document]

end Layout

/-- Every storable value whose texts are strings is read back from its indented text. -/
theorem readsAs_indentedChars {j : Json} (hj : Storable j) (hproper : j.isProper = true)
    (depth : Nat) :
    ReadsAs (indentedChars .document depth j) j.asWritten := by
  induction hj generalizing depth with
  | null => exact readsAsLeaf_null.readsAs
  | bool b => exact (readsAsLeaf_bool .document b).readsAs
  | int hn => exact (readsAsLeaf_of_isNumberText (isNumberText_intChars hn)).readsAs
  | float x => exact (readsAsLeaf_float .document (.inl rfl)).readsAs
  | str t => exact readsAs_str hproper
  | arr _ ih =>
    rw [Layout.indentedChars_arr]
    rw [isProper_arr] at hproper
    exact Layout.readsAs_items _ fun x hx => ih x hx (hproper x hx) (depth + 1)
  | obj hkeys _ ih =>
    rw [Layout.indentedChars_obj]
    rw [isProper_obj] at hproper
    exact Layout.readsAs_members _ hkeys fun m hm =>
      ⟨(hproper m hm).1, ih m hm (hproper m hm).2 (depth + 1)⟩

/-- Every storable value whose texts are strings is read back from its line, if the line is that
of a document or all numbers are finite. -/
theorem readsAs_chars {l : Layout} {style : JsonStyle} (hstyle : l.LaysOut style) {j : Json}
    (hj : Storable j) (hproper : j.isProper = true)
    (hfloats : style.floats = .document ∨ j.isFinite = true) :
    ReadsAs (chars style j) j.asWritten := by
  induction hj with
  | null => exact readsAsLeaf_null.readsAs
  | bool b => exact (readsAsLeaf_bool style b).readsAs
  | int hn => exact (readsAsLeaf_of_isNumberText (isNumberText_intChars hn)).readsAs
  | float x => exact (readsAsLeaf_float style hfloats).readsAs
  | str t =>
    have hquoted : chars style (.str t) = quoteChars false t :=
      congrArg (quoteChars · t) hstyle.asciiOnly
    rw [hquoted]
    exact readsAs_str hproper
  | arr _ ih =>
    rw [Layout.chars_arr hstyle]
    rw [isProper_arr] at hproper
    exact Layout.readsAs_items _ fun x hx => ih x hx (hproper x hx)
      (hfloats.imp_right fun hfinite => (isFinite_arr _).mp hfinite x hx)
  | obj hkeys _ ih =>
    rw [Layout.chars_obj hstyle]
    rw [isProper_obj] at hproper
    exact Layout.readsAs_members _ hkeys fun m hm => ⟨(hproper m hm).1, ih m hm (hproper m hm).2
      (hfloats.imp_right fun hfinite => (isFinite_obj _).mp hfinite m hm)⟩

theorem read_ofList_of_startsValue {cs : List Char} (h : StartsValue cs) :
    read (String.ofList cs) = readPoints (cs.map .char) := by
  obtain ⟨c, more, rfl, -, -, hmark⟩ := h
  rw [read, Text.points_proper, String.toList_ofList, List.map_cons]
  dsimp only
  rw [if_neg fun heq => hmark (CodePoint.char.inj heq)]

/-- Where a value without parts cannot be read, the text is refused. -/
theorem read_ofList_of_readPlain {cs : List Char} {stop : Stop} (h : StartsLeaf cs)
    (hstop : readPlain cs = .error stop) :
    read (String.ofList cs) = .error (stop.fault cs.length) := by
  have hread := readValue_of_startsLeaf h [] (2 * cs.length + 1)
  rw [List.append_nil, readLeaf_map_char, hstop] at hread
  rw [read_ofList_of_startsValue h.value, readPoints, readWhole,
    skipBlanks_of_startsDense h.value.dense, fuelFor, List.length_map, hread]
  rfl

/-- A text is read whole. -/
theorem ReadsAs.read_ofList {cs : List Char} {j : Json} (h : ReadsAs cs j) :
    read (String.ofList cs) = .ok j := by
  have hread := h.reads [] (fuelFor (cs.map .char)) (by simp [EndsNumber]) (by simp [fuelFor])
  rw [List.append_nil] at hread
  have hwhole : readWhole (cs.map .char) = .ok j := by
    rw [readWhole, skipBlanks_of_startsDense h.starts.dense, hread]
    rfl
  rw [read_ofList_of_startsValue h.starts, readPoints, hwhole]
  rfl

section Texts

variable {j : Json} (hj : Storable j) (hproper : j.isProper = true)
include hj hproper

/-- Reading the saved text of a storable value gives the value as it was written. -/
theorem read_pretty : read j.pretty = .ok j.asWritten :=
  (readsAs_indentedChars hj hproper 0).read_ofList

/-- Reading the compact text of a storable value gives the value as it was written. -/
theorem read_compact : read j.compact = .ok j.asWritten :=
  (readsAs_chars Layout.laysOut_compact hj hproper (.inl rfl)).read_ofList

end Texts

end Json

end WorkflowEngine
