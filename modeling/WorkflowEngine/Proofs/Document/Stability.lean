import WorkflowEngine.Proofs.Document.Reload
import WorkflowEngine.Proofs.Json.StandardText

/-!
# Saved texts are stable

A loaded document is saved as a standard text, whatever the text or the bytes were that it
was loaded from.  Where that text is loaded again, the document that comes back is saved
as the same text, also if numbers that are not finite were lost on the way.
-/

namespace WorkflowEngine.Document

/-- The document that a saved text is loaded as holds what the text could hold. -/
theorem content_of_tryLoad_save {source : Source} {d d' : Document} {text : String}
    (h : tryLoad source = .ok d) (hsave : d.save? = some text)
    (hagain : tryLoad (.text text) = .ok d') : d'.content = d.content.asWritten := by
  by_cases hnumbers : ∀ j ∈ d.numbers, j.isFinite = true
  · obtain ⟨e, hloaded, hcontent⟩ := exists_tryLoad_save h hsave hnumbers
    rw [hagain] at hloaded
    rw [Except.ok.inj hloaded, hcontent]
  · simp only [not_forall] at hnumbers
    obtain ⟨j, hj, hinfinite⟩ := hnumbers
    obtain ⟨failure, -, -, hfailed, -⟩ :=
      tryLoad_save_of_infinite h hsave hj (Bool.eq_false_iff.mpr hinfinite)
    rw [hagain] at hfailed
    contradiction

/-- Saving a document whose texts are strings gives a standard text, and loading that text and
saving again gives the same text. -/
theorem save_standard_and_stable {source : Source} {d : Document}
    (h : tryLoad source = .ok d) (hproper : d.content.isProper = true) :
    ∃ text, d.save? = some text ∧ Json.Standard.IsText text.toList ∧
      ∀ d', tryLoad (.text text) = .ok d' → d'.save? = some text := by
  have hsave : d.save? = some d.content.pretty := save?_eq_some_iff.mpr ⟨hproper, rfl⟩
  refine ⟨_, hsave, Json.isText_pretty d.content, fun d' hagain => ?_⟩
  rw [save?_eq_some_iff, content_of_tryLoad_save h hsave hagain, Json.isProper_asWritten,
    Json.pretty_asWritten]
  exact ⟨hproper, rfl⟩

/-- A document whose members that are no fields hold numbers beyond the range, next to a
text with a tab in it. -/
def overflowingText : String :=
  "\x7b\"nodes\": [\x7b\"id\": \"n\\t\", \"type\": \"start\", " ++
    "\"position\": \x7b\"x\": -0.0\x7d, \"data\": \x7b\"type\": \"start\"\x7d, " ++
    "\"cost\": 1e999, \"rate\": NaN\x7d], \"edges\": []\x7d"

theorem save_standard_and_stable_overflowing :
    ∃ d, tryLoad (.text overflowingText) = .ok d ∧ d.content.isProper = true ∧
      d.content.isFinite = false ∧ ∃ text, d.save? = some text ∧
      Json.Standard.IsText text.toList ∧
      ∃ d', tryLoad (.text text) = .ok d' ∧ d'.save? = some text := by
  have hloaded : (tryLoad (.text overflowingText)).toOption.map (fun d =>
      (d.content.isProper, d.content.isFinite, d.numbers.all Json.isFinite)) =
        some (true, false, true) := by
    decide +kernel
  obtain ⟨d, hd, hview⟩ := exists_of_toOption_map hloaded
  obtain ⟨hproper, hrest⟩ := Prod.mk.inj hview
  obtain ⟨hinfinite, hnumbers⟩ := Prod.mk.inj hrest
  obtain ⟨text, hsave, hstandard, hstable⟩ := save_standard_and_stable hd hproper
  obtain ⟨d', hagain, -⟩ := exists_tryLoad_save hd hsave (List.all_eq_true.mp hnumbers)
  exact ⟨d, hd, hproper, hinfinite, text, hsave, hstandard, d', hagain, hstable d' hagain⟩

end WorkflowEngine.Document
