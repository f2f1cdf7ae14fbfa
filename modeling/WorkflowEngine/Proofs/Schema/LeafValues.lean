import WorkflowEngine.Proofs.Schema.NumericValues
import WorkflowEngine.Proofs.Schema.Restoring

/-!
# Values without fields are restored

Leaves without numbers restore all their values.  A leaf of numbers restores the finite
ones and refuses the others, since null is no number.  What a leaf accepts is storable,
for an integer spelled in a text cannot have more digits than one in a document.
-/

namespace WorkflowEngine.Schema

open Json (Storable)

/-! ## Leaves without numbers -/

theorem lift_eq_ok_iff {α : Type} {toJson : α → Json} {e : Except Fault α} {c : Json} :
    lift toJson e = .ok c ↔ ∃ x, e = .ok x ∧ c = toJson x := by
  cases e with
  | error f => simp [lift, Checked.fault]
  | ok x => simp [lift, eq_comm]

/-- A value that is accepted as it is and has no numbers in it is restored. -/
theorem restores_of_check_self {s : Shape} {c : Json} (hself : s.check c = .ok c)
    (hwritten : c.asWritten = c) : s.Restores c := by
  rw [Shape.Restores, hwritten]
  exact hself

/-- Everything that is accepted is accepted as it is and holds finite numbers only. -/
def Shape.Verbatim (s : Shape) : Prop :=
  ∀ v c, s.check v = .ok c → c = v ∧ c.isFinite = true

theorem Shape.Verbatim.plain {s : Shape} (hs : s.Verbatim) : s.Plain where
  steady := by
    rintro c ⟨v, -, hv⟩
    obtain ⟨rfl, hfinite⟩ := hs v c hv
    exact restores_of_check_self hv ((Json.asWritten_eq_self_iff c).mpr hfinite)
  keeps := by
    rintro c ⟨v, hstorable, hv⟩
    obtain ⟨rfl, -⟩ := hs v c hv
    exact hstorable

namespace Leaf

theorem readText_eq_ok_iff {v : Json} {t : Text} : readText v = .ok t ↔ v = .str t := by
  constructor
  · intro h
    cases v with
    | str u => exact congrArg Json.str (Except.ok.inj h)
    | _ => contradiction
  · rintro rfl
    rfl

theorem lift_readText_eq_ok_iff {v c : Json} :
    lift .str (readText v) = .ok c ↔ c = v ∧ ∃ t, v = .str t := by
  rw [lift_eq_ok_iff]
  constructor
  · rintro ⟨t, ht, rfl⟩
    rw [readText_eq_ok_iff] at ht
    exact ⟨ht.symm, t, ht⟩
  · rintro ⟨rfl, t, ht⟩
    exact ⟨t, readText_eq_ok_iff.mpr ht, ht⟩

theorem check_text_eq_ok_iff {v c : Json} :
    (Shape.leaf .text).check v = .ok c ↔ c = v ∧ ∃ t, v = .str t :=
  lift_readText_eq_ok_iff

theorem check_str (t : Text) : (Shape.leaf .text).check (.str t) = .ok (.str t) :=
  check_text_eq_ok_iff.mpr ⟨rfl, t, rfl⟩

theorem verbatim_text : (Shape.leaf .text).Verbatim := by
  intro v c hc
  obtain ⟨rfl, s, rfl⟩ := check_text_eq_ok_iff.mp hc
  exact ⟨rfl, rfl⟩

theorem check_filledText_eq_ok_iff {v c : Json} :
    (Shape.leaf .filledText).check v = .ok c ↔ c = v ∧ ∃ s : String, s ≠ "" ∧ v = .str s := by
  cases v with
  | str t =>
    cases t with
    | proper s =>
      have hcheck : (Shape.leaf .filledText).check (.str s) =
          if s = "" then .error [.here .emptyText] else .ok (.str s) := rfl
      rw [hcheck]
      by_cases hs : s = ""
      · simp [hs]
      · simp [hs, eq_comm]
    | broken b =>
      constructor
      · intro h
        contradiction
      · rintro ⟨-, s, -, hs⟩
        exact absurd (Json.str.inj hs) Text.noConfusion
  | _ =>
    constructor
    · intro h
      contradiction
    · rintro ⟨-, s, -, hs⟩
      contradiction

theorem verbatim_filledText : (Shape.leaf .filledText).Verbatim := by
  intro v c hc
  obtain ⟨rfl, s, -, rfl⟩ := check_filledText_eq_ok_iff.mp hc
  exact ⟨rfl, rfl⟩

theorem check_optionalText_eq_ok_iff {v c : Json} :
    (Shape.leaf .optionalText).check v = .ok c ↔ c = v ∧ (v = .null ∨ ∃ t, v = .str t) := by
  cases v with
  | null =>
    have hcheck : (Shape.leaf .optionalText).check .null = .ok .null := rfl
    simp [hcheck, eq_comm]
  | str s =>
    have hcheck : (Shape.leaf .optionalText).check (.str s) = .ok (.str s) := rfl
    simp [hcheck, eq_comm]
  | _ =>
    constructor
    · intro h
      contradiction
    · rintro ⟨-, hnull | ⟨s, hs⟩⟩
      · contradiction
      · contradiction

theorem verbatim_optionalText : (Shape.leaf .optionalText).Verbatim := by
  intro v c hc
  obtain ⟨rfl, rfl | ⟨s, rfl⟩⟩ := check_optionalText_eq_ok_iff.mp hc
  · exact ⟨rfl, rfl⟩
  · exact ⟨rfl, rfl⟩

theorem check_flag_eq_ok_iff {v c : Json} :
    (Shape.leaf .flag).check v = .ok c ↔ ∃ b, readFlag v = .ok b ∧ c = .bool b :=
  lift_eq_ok_iff

theorem plain_flag : (Shape.leaf .flag).Plain where
  steady := by
    rintro c ⟨v, -, hv⟩
    obtain ⟨b, -, rfl⟩ := check_flag_eq_ok_iff.mp hv
    exact restores_of_check_self rfl rfl
  keeps := by
    rintro c ⟨v, -, hv⟩
    obtain ⟨b, -, rfl⟩ := check_flag_eq_ok_iff.mp hv
    exact .bool b

theorem check_literal_eq_ok_iff {expected : String} {v c : Json} :
    (Shape.leaf (.literal expected)).check v = .ok c ↔ c = v ∧ v = .str expected := by
  have hcheck : (Shape.leaf (.literal expected)).check v = if v = .str expected then .ok v
      else Checked.fault (if v.text.isProper then .notLiteral expected else .notUnicode) := rfl
  rw [hcheck]
  by_cases hexpected : v = .str expected
  · simp [hexpected, eq_comm]
  · simp [hexpected, Checked.fault]

theorem verbatim_literal (expected : String) : (Shape.leaf (.literal expected)).Verbatim := by
  intro v c hc
  obtain ⟨rfl, rfl⟩ := check_literal_eq_ok_iff.mp hc
  exact ⟨rfl, rfl⟩

/-- The check of one entry of a map to texts. -/
def checkEntry (entry : Text × Json) : Checked (Text × Json) :=
  Checked.under (.key entry.1) ((lift .str (readText entry.2)).map fun t => (entry.1, t))

theorem checkEntry_eq_ok_iff {entry m : Text × Json} :
    checkEntry entry = .ok m ↔ m = entry ∧ ∃ t, entry.2 = .str t := by
  obtain ⟨key, value⟩ := entry
  rw [checkEntry, Checked.under_eq_ok_iff]
  cases value with
  | str s =>
    simp [readText, lift, Except.map, eq_comm]
  | _ => simp [readText, lift, Except.map, Checked.fault]

/-- A map to texts is accepted as it is or not at all. -/
theorem check_textMap_eq_ok_iff {v c : Json} :
    (Shape.leaf .textMap).check v = .ok c ↔
      c = v ∧ ∃ o : Members, v = .obj o ∧ ∀ m ∈ o, ∃ t, m.2 = .str t := by
  cases v with
  | obj o =>
    have hcheck : (Shape.leaf .textMap).check (.obj o) =
        (Checked.gather (o.map checkEntry)).map .obj := rfl
    have hsame : ∀ entry m, checkEntry entry = .ok m → entry = m := fun entry m h =>
      (checkEntry_eq_ok_iff.mp h).1.symm
    rw [hcheck, Checked.map_gather_eq_ok_iff]
    simp only [Checked.map_eq_map_ok_iff hsame, checkEntry_eq_ok_iff, true_and, List.map_id']
    constructor
    · rintro ⟨ms, ⟨hall, rfl⟩, rfl⟩
      exact ⟨rfl, ms, rfl, hall⟩
    · rintro ⟨rfl, o', ho, hall⟩
      obtain rfl := Json.obj.inj ho
      exact ⟨o, ⟨hall, rfl⟩, rfl⟩
  | _ =>
    constructor
    · intro h
      contradiction
    · rintro ⟨-, o, ho, -⟩
      contradiction

theorem verbatim_textMap : (Shape.leaf .textMap).Verbatim := by
  intro v c hc
  obtain ⟨rfl, o, rfl, hall⟩ := check_textMap_eq_ok_iff.mp hc
  refine ⟨rfl, (Json.isFinite_obj o).mpr fun m hm => ?_⟩
  obtain ⟨s, hs⟩ := hall m hm
  rw [hs]
  rfl

/-- A list of texts is checked as any list is. -/
theorem check_textList (v : Json) :
    (Shape.leaf .textList).check v = (Shape.list (.leaf .text)).check v := by
  cases v <;> rfl

theorem check_textList_texts (texts : List Text) :
    (Shape.leaf .textList).check (.arr (texts.map .str)) = .ok (.arr (texts.map .str)) := by
  rw [check_textList, Shape.check_list_eq_ok_iff]
  refine ⟨_, _, rfl, rfl, List.map_congr_left fun v hv => ?_⟩
  obtain ⟨t, -, rfl⟩ := List.mem_map.mp hv
  exact check_str t

theorem check_strings (ss : List String) :
    (Shape.leaf .textList).check (.strings ss) = .ok (.strings ss) := by
  have htexts := check_textList_texts (ss.map Text.proper)
  rwa [List.map_map] at htexts

end Leaf

/-! ## Numbers -/

/-- A leaf of numbers: it keeps integers and binary64 numbers that it has accepted once,
and does not accept null. -/
structure Leaf.IsNumeric (l : Leaf) : Prop where
  accepted : ∀ c, (Shape.leaf l).Canonical c → (∃ n, c = .int n) ∨ ∃ x, c = .float x
  again : ∀ c, (Shape.leaf l).Canonical c → l.check c = .ok c
  null : ∃ issues, l.check .null = .error issues

theorem number?_toJson (x : Number) : number? x.toJson = some x := by
  cases x with
  | int n => rfl
  | float y => rfl

theorem Number.toJson_cases (x : Number) : (∃ n, x.toJson = .int n) ∨ ∃ y, x.toJson = .float y := by
  cases x with
  | int n => exact Or.inl ⟨n, rfl⟩
  | float y => exact Or.inr ⟨y, rfl⟩

theorem Leaf.isNumeric_number : IsNumeric .number where
  accepted c h := by
    obtain ⟨v, -, hv⟩ := h
    obtain ⟨x, -, rfl⟩ := check_number_eq_ok_iff.mp hv
    exact x.toJson_cases
  again c h := by
    obtain ⟨v, -, hv⟩ := h
    obtain ⟨x, -, rfl⟩ := check_number_eq_ok_iff.mp hv
    exact check_number_eq_ok_iff.mpr ⟨x, number?_toJson x, rfl⟩
  null := ⟨_, rfl⟩

theorem Leaf.isNumeric_threshold : IsNumeric .threshold where
  accepted c h := by
    obtain ⟨v, -, hv⟩ := h
    obtain ⟨x, -, -, rfl⟩ := check_threshold_eq_ok_iff.mp hv
    exact x.toJson_cases
  again c h := by
    obtain ⟨v, -, hv⟩ := h
    obtain ⟨x, -, hnonneg, rfl⟩ := check_threshold_eq_ok_iff.mp hv
    exact check_threshold_eq_ok_iff.mpr ⟨x, number?_toJson x, hnonneg, rfl⟩
  null := ⟨_, rfl⟩

namespace Leaf.IsNumeric

variable {l : Leaf} {c : Json}

/-- A finite number is restored. -/
theorem restores (hl : l.IsNumeric) (h : (Shape.leaf l).Canonical c)
    (hfinite : c.isFinite = true) : (Shape.leaf l).Restores c :=
  restores_of_check_self (hl.again c h) ((Json.asWritten_eq_self_iff c).mpr hfinite)

/-- A number that is not finite is refused. -/
theorem refuses (hl : l.IsNumeric) (h : (Shape.leaf l).Canonical c)
    (hinfinite : c.isFinite = false) : (Shape.leaf l).Refuses c := by
  rcases hl.accepted c h with ⟨n, rfl⟩ | ⟨x, rfl⟩
  · contradiction
  · have hnull : (Json.float x).asWritten = .null := by
      rw [Json.asWritten_float]
      exact if_neg fun h => Bool.false_ne_true (hinfinite.symm.trans h)
    rw [Shape.Refuses, hnull]
    exact hl.null

end Leaf.IsNumeric

/-! ## What leaves accept is storable -/

/-- Digits within the limit spell an integer within the limit. -/
theorem length_digitChars_natOfDigits_le {cs : List Char}
    (hdigits : ∀ c ∈ cs, Json.isDigit c = true) (hlength : cs.length ≤ Json.digitLimit) :
    (digitChars (Json.natOfDigits cs)).length ≤ Json.digitLimit := by
  rw [length_digitChars_le_iff (by decide)]
  exact Nat.lt_of_lt_of_le (Json.natOfDigits_lt hdigits)
    (Nat.pow_le_pow_right (by decide) hlength)

theorem storable_int_of_natAbs_lt {n : Int} (hn : n.natAbs < wordLimit) :
    Storable (.int n) := by
  have hsize : (digitChars n.natAbs).length ≤ 19 := by
    rw [length_digitChars_le_iff (by decide)]
    exact Nat.lt_trans hn (by decide)
  exact .int (Nat.le_trans hsize (by decide))

theorem storable_int_of_takeWhile {magnitude : List Char} (negative : Bool)
    (hlimit : ¬ Json.digitLimit < (magnitude.takeWhile Json.isDigit).length) :
    Storable (.int (if negative then -(Json.natOfDigits (magnitude.takeWhile Json.isDigit) : Int)
      else Json.natOfDigits (magnitude.takeWhile Json.isDigit))) := by
  have hdigits : ∀ c ∈ magnitude.takeWhile Json.isDigit, Json.isDigit c = true :=
    fun c hc => List.mem_takeWhile_imp hc
  have hlength := length_digitChars_natOfDigits_le hdigits (Nat.not_lt.mp hlimit)
  refine .int ?_
  cases negative with
  | true => simpa using hlength
  | false => simpa using hlength

theorem storable_integerOfPlain {cs : List Char} {n : Int} (h : integerOfPlain cs = .ok n) :
    Storable (.int n) := by
  unfold integerOfPlain at h
  split at h
  all_goals
    dsimp only at h
    split at h
    · contradiction
    split at h
    · contradiction
    next hlimit =>
    split at h
    · contradiction
    injection h with hn
    rw [← hn]
    exact storable_int_of_takeWhile _ hlimit

theorem storable_integerOfText {s : String} {n : Int} (h : integerOfText s = .ok n) :
    Storable (.int n) := by
  unfold integerOfText at h
  split at h
  · next m hplain =>
    injection h with hn
    rw [← hn]
    exact storable_integerOfPlain hplain
  · contradiction
  · split at h
    · next m hspelled =>
      obtain ⟨cs, -, hcs⟩ := Option.map_eq_some_iff.mp hspelled
      injection h with hn
      rw [← hn]
      exact storable_integerOfPlain hcs
    · contradiction

theorem storable_of_number? {v : Json} {x : Number} (hv : Storable v) (h : number? v = some x) :
    Storable x.toJson := by
  cases v with
  | int n =>
    injection h with h
    rwa [← h]
  | float y =>
    injection h with h
    rwa [← h]
  | bool b =>
    injection h with h
    rw [← h]
    cases b with
    | true => exact storable_int_of_natAbs_lt (by decide)
    | false => exact storable_int_of_natAbs_lt (by decide)
  | str t =>
    cases t with
    | proper s =>
      rw [number?] at h
      split at h
      · next n hn =>
        injection h with h
        rw [← h]
        exact storable_integerOfText hn
      · obtain ⟨y, -, rfl⟩ := Option.map_eq_some_iff.mp h
        exact .float y
    | broken b => contradiction
  | _ => contradiction

namespace Leaf

theorem keeps_number : (Shape.leaf .number).Keeps := by
  rintro c ⟨v, hstorable, hv⟩
  obtain ⟨x, hx, rfl⟩ := check_number_eq_ok_iff.mp hv
  exact storable_of_number? hstorable hx

theorem keeps_threshold : (Shape.leaf .threshold).Keeps := by
  rintro c ⟨v, hstorable, hv⟩
  obtain ⟨x, hx, -, rfl⟩ := check_threshold_eq_ok_iff.mp hv
  exact storable_of_number? hstorable hx

end Leaf

end WorkflowEngine.Schema
