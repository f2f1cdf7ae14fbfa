import WorkflowEngine.Proofs.Document.Bare
import WorkflowEngine.Proofs.Document.Reload
import WorkflowEngine.Proofs.Text.EncodedTexts

/-!
# Documents are loaded alike from text and from bytes

The bytes of a text in UTF-8 are loaded as the text is, failures included.  The text of a
document begins with two ASCII characters, so its bytes are recognised and loaded in every
encoding.
-/

namespace WorkflowEngine

/-! ## How the text of an object begins -/

namespace Json

open Encoding (IsAscii)

theorem isAscii_of_isBlank {c : Char} (hc : isBlank c = true) : IsAscii c := by
  simp only [isBlank, Bool.or_eq_true, decide_eq_true_eq] at hc
  rcases hc with ((rfl | rfl) | rfl) | rfl
  · exact ⟨by decide, by decide⟩
  · exact ⟨by decide, by decide⟩
  · exact ⟨by decide, by decide⟩
  · exact ⟨by decide, by decide⟩

theorem readNumber_ne_obj {start cs rest : List Char} {negative : Bool} {o : Members} :
    readNumber start negative cs ≠ .ok (.obj o, rest) := by
  intro h
  unfold readNumber at h
  dsimp only at h
  split_ifs at h
  · contradiction
  · exact Json.noConfusion (value_eq_of_ok_eq h)
  · exact Json.noConfusion (value_eq_of_ok_eq h)
  · exact Json.noConfusion (value_eq_of_ok_eq h)

theorem readPlain_ne_obj {cs rest : List Char} {o : Members} :
    readPlain cs ≠ .ok (.obj o, rest) := by
  have hwords : ∀ entry ∈ words, entry.2 ≠ .obj o := by simp [words]
  intro h
  unfold readPlain at h
  split at h
  · next found hfound =>
    obtain ⟨entry, hentry, hafter⟩ := List.exists_of_findSome?_eq_some hfound
    obtain ⟨after, -, hvalue⟩ := Option.map_eq_some_iff.mp hafter
    rw [Except.ok.inj h] at hvalue
    exact hwords entry hentry (Prod.mk.inj hvalue).1
  · split at h
    · exact readNumber_ne_obj h
    · exact readNumber_ne_obj h

theorem readLeaf_ne_obj {ps rest : List CodePoint} {o : Members} :
    readLeaf ps ≠ .ok (.obj o, rest) := by
  intro h
  obtain ⟨left, hplain, -⟩ := readLeaf_eq_ok_iff.mp h
  exact readPlain_ne_obj hplain

/-- Behind the brace that opens an object comes, after blanks, the brace that closes it or
the quote of its first key. -/
theorem starts_of_readValue_obj {fuel : Nat} {ps after : List CodePoint} {o : Members}
    (h : readValue fuel ps = .ok (.obj o, after)) :
    ∃ inner c more, ps = .char '{' :: inner ∧ skipBlanks inner = .char c :: more ∧
      IsAscii c := by
  cases fuel with
  | zero =>
    rw [readValue] at h
    contradiction
  | succ fuel =>
    rw [readValue.eq_def] at h
    dsimp only at h
    split at h
    · split at h
      · contradiction
      · exact Json.noConfusion (value_eq_of_ok_eq h)
    · split at h
      · exact Json.noConfusion (value_eq_of_ok_eq h)
      · split at h
        · contradiction
        · exact Json.noConfusion (value_eq_of_ok_eq h)
    · next inner =>
      split at h
      · next more hclose => exact ⟨inner, '}', more, rfl, hclose, by decide, by decide⟩
      · split at h
        · contradiction
        · next hmembers =>
          cases fuel with
          | zero =>
            rw [readMembers] at hmembers
            contradiction
          | succ fuel =>
            rw [readMembers.eq_def] at hmembers
            dsimp only at hmembers
            split at hmembers
            · next more hquote => exact ⟨inner, '"', more, rfl, hquote, by decide, by decide⟩
            · contradiction
    · exact absurd h readLeaf_ne_obj

/-- Before an ASCII character there stand blanks only, and those are ASCII characters. -/
theorem starts_of_skipBlanks {ps more : List CodePoint} {c : Char}
    (h : skipBlanks ps = .char c :: more) (hc : IsAscii c) :
    ∃ a rest, ps = .char a :: rest ∧ IsAscii a ∧
      (skipBlanks rest = .char c :: more ∨ a = c ∧ rest = more) := by
  cases ps with
  | nil => contradiction
  | cons p rest =>
    rw [skipBlanks, List.dropWhile_cons] at h
    split at h
    · next hblank =>
      cases p with
      | char a => exact ⟨a, rest, rfl, isAscii_of_isBlank hblank, .inl h⟩
      | surrogate offset => contradiction
    · obtain ⟨rfl, rfl⟩ := List.cons.inj h
      exact ⟨c, rest, rfl, hc, .inr ⟨rfl, rfl⟩⟩

/-- The text of an object begins with two ASCII characters. -/
theorem starts_of_readPoints_obj {ps : List CodePoint} {o : Members}
    (h : readPoints ps = .ok (.obj o)) :
    ∃ a b rest, ps = .char a :: .char b :: rest ∧ IsAscii a ∧ IsAscii b := by
  obtain ⟨after, hvalue, -⟩ := readPoints_eq_ok_iff.mp h
  obtain ⟨inner, c, more, hopen, hinner, hc⟩ := starts_of_readValue_obj hvalue
  have hbrace : IsAscii '{' := ⟨by decide, by decide⟩
  obtain ⟨a, rest, rfl, ha, hblank | ⟨-, rfl⟩⟩ := starts_of_skipBlanks hopen hbrace
  · obtain ⟨b, tail, rfl, hb, -⟩ := starts_of_skipBlanks hblank hbrace
    exact ⟨a, b, tail, rfl, ha, hb⟩
  · obtain ⟨b, tail, rfl, hb, -⟩ := starts_of_skipBlanks hinner hc
    exact ⟨a, b, tail, rfl, ha, hb⟩

theorem read_of_head?_ne {text : String} (h : text.toList.head? ≠ some byteOrderMark) :
    read text = readPoints (text.toList.map .char) := by
  rw [read, Text.points_proper]
  cases hcs : text.toList with
  | nil => rfl
  | cons c cs =>
    rw [hcs, List.head?_cons, Ne, Option.some.injEq] at h
    exact if_neg (fun hmark => h (CodePoint.char.inj hmark))

theorem head?_ne_of_read {text : String} {j : Json} (h : read text = .ok j) :
    text.toList.head? ≠ some byteOrderMark := by
  intro hmark
  obtain ⟨cs, hcs⟩ := List.head?_eq_some_iff.mp hmark
  rw [read, Text.points_proper, hcs, List.map_cons] at h
  dsimp only at h
  rw [if_pos rfl] at h
  contradiction

end Json

namespace Document

/-! ## Sources that are read alike -/

theorem tryLoad_congr {a b : Source} (h : readSource a = readSource b) :
    tryLoad a = tryLoad b := by
  rw [tryLoad, tryLoad, h]

theorem load_congr {a b : Source} (h : readSource a = readSource b) : load a = load b := by
  rw [load, load, tryLoad_congr h]

theorem readSource_bytes {e : Encoding} {bs : List UInt8} {ps : List CodePoint}
    (hdetect : Encoding.detect bs = e) (hdecode : e.decode bs = .ok ps) :
    readSource (.bytes bs) = (Json.readPoints ps).mapError (failureOf ps) := by
  rw [readSource, hdetect, hdecode]

/-- A text whose bytes are recognised and decoded is read alike from them. -/
theorem readSource_bytes_eq_text {e : Encoding} {bs : List UInt8} {text : String}
    (hmark : text.toList.head? ≠ some Json.byteOrderMark)
    (hdetect : Encoding.detect bs = e) (hdecode : e.decode bs = .ok (text.toList.map .char)) :
    readSource (.bytes bs) = readSource (.text text) := by
  rw [readSource_bytes hdetect hdecode, readSource, Json.read_of_head?_ne hmark,
    Text.points_proper]

/-- What is loaded is read as an object. -/
theorem read_of_tryLoad {text : String} {d : Document} (h : tryLoad (.text text) = .ok d) :
    ∃ o, Json.read text = .ok (.obj o) := by
  obtain ⟨j, hread, hcheck⟩ := tryLoad_eq_ok_iff.mp h
  obtain ⟨hgraph, -⟩ := (Schema.Shape.check_refine_eq_ok_iff _ _ _ _).mp hcheck
  obtain ⟨o, members, rfl, -, -⟩ := Schema.Model.check_shape_eq_ok_iff.mp hgraph
  exact ⟨o, mapError_eq_ok_iff.mp hread⟩

/-- A text and its bytes in UTF-8 are loaded alike: the same document, or the same failure
with the same report.  A text that is loaded as a document is loaded as the same document
from its bytes in every encoding. -/
theorem load_bytes_eq_text (text : String) :
    ('\x00' ∉ text.toList → text.toList.head? ≠ some Json.byteOrderMark →
      load (.bytes (Utf8.encode text.toList)) = load (.text text)) ∧
    ∀ d, tryLoad (.text text) = .ok d →
      ∀ e : Encoding, tryLoad (.bytes (e.encode text.toList)) = .ok d := by
  refine ⟨fun hzero hmark => ?_, fun d h e => ?_⟩
  · have hdetect := Encoding.detect_utf8_of_zero_not_mem hzero hmark
    exact load_congr (readSource_bytes_eq_text hmark hdetect
      (Encoding.decode_encode (.utf8 false) text.toList))
  · obtain ⟨o, hread⟩ := read_of_tryLoad h
    have hmark := Json.head?_ne_of_read hread
    rw [Json.read_of_head?_ne hmark] at hread
    obtain ⟨a, b, rest, htext, ha, hb⟩ := Json.starts_of_readPoints_obj hread
    have hstarts : text.toList = a :: b :: rest.map CodePoint.shown := by
      rw [← Text.map_shown_map_char text.toList, htext]
      rfl
    have hdetect : Encoding.detect (e.encode text.toList) = e := by
      rw [hstarts]
      exact Encoding.detect_encode e ha hb _
    rw [← h]
    exact tryLoad_congr (readSource_bytes_eq_text hmark hdetect (e.decode_encode text.toList))

/-- A text that ends inside an array, behind a character outside the first plane. -/
def brokenText : String := "[\"😀\",\n"

/-- A document with such a character in a note, behind a blank. -/
def smilingText : String :=
  " " ++ (Json.obj [("nodes", .arr [bareNode "n" .start]), ("edges", .arr []),
    ("note", .str "😀 é")]).logLine

theorem load_bytes_eq_text_smiling :
    load (.bytes (Utf8.encode brokenText.toList)) = load (.text brokenText) ∧
      ∃ d, tryLoad (.text smilingText) = .ok d ∧
        ∀ e : Encoding, tryLoad (.bytes (e.encode smilingText.toList)) = .ok d := by
  refine ⟨(load_bytes_eq_text brokenText).1 (by decide) (by decide), ?_⟩
  have hloaded : (tryLoad (.text smilingText)).toOption.map (·.nodes.length) = some 1 := by
    decide +kernel
  obtain ⟨d, hd, -⟩ := exists_of_toOption_map hloaded
  exact ⟨d, hd, (load_bytes_eq_text smilingText).2 d hd⟩

end Document

end WorkflowEngine
