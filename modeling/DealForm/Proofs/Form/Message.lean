import DealForm.Proofs.Form.Rendering

/-!
# What the message area tells

The message area shows the value that a service answered, an error, or that an upload is under way.
No two of these look alike. The text of an error stands between two fixed tags, and a value in which
integers are the only numbers is told by its text.
-/

namespace DealForm

variable {opening closing text message : String}

def between? (opening closing text : String) : Option String := do
  let inner ← text.toList.dropPrefix? opening.toList
  let message ← inner.dropSuffix? closing.toList
  return String.ofList message

theorem between?_eq_some :
    between? opening closing text = some message ↔ text = opening ++ message ++ closing := by
  simp only [between?, Option.bind_eq_bind, Option.bind_eq_some_iff, Option.pure_def,
    Option.some.injEq, List.dropPrefix?_eq_some_iff, List.dropSuffix?_eq_some_iff, beq_iff_eq]
  constructor
  · rintro ⟨inner, ⟨_, hopening, rfl⟩, body, ⟨_, rfl, rfl⟩, rfl⟩
    apply String.toList_inj.mp
    simpa using hopening
  · rintro rfl
    exact ⟨_, ⟨_, by simp, rfl⟩, _, ⟨_, rfl, rfl⟩, String.ofList_toList⟩

def fragmentMessage? (text : String) : Option String :=
  between? "<div class=\"message error\">" "</div>" text

theorem fragmentMessage?_error (e : Error) :
    fragmentMessage? (renderUpload (.error e)) = some e.message :=
  between?_eq_some.mpr rfl

theorem fragmentMessage?_ok (v : Json) : fragmentMessage? (renderUpload (.ok v)) = none := by
  rw [renderUpload_ok]
  refine Option.eq_none_iff_forall_ne_some.mpr fun message h ↦ ?_
  -- Any text between the tags is the text of an error.
  exact pretty_ne_errorFragment v (.transport message) (between?_eq_some.mp h)

/-- A value, an error and an upload under way are shown by different texts. Between its tags an
error has its message, which tells it from errors with other messages. Values in which integers are
the only numbers are the same, in the order of their keys too, if they are shown alike. -/
theorem outcome_told_by_message :
    (∀ v e, renderUpload (.ok v) ≠ renderUpload (.error e)) ∧
    (∀ v, renderUpload (.ok v) ≠ uploadingMessage) ∧
    (∀ e, fragmentMessage? (renderUpload (.error e)) = some e.message) ∧
    (∀ v, fragmentMessage? (renderUpload (.ok v)) = none) ∧
    (∀ e e' : Error, renderUpload (.error e) = renderUpload (.error e') → e.message = e'.message) ∧
    ∀ v w : Json, v.HasIntegersOnly → v.HasDistinctKeys → w.HasIntegersOnly → w.HasDistinctKeys →
      renderUpload (.ok v) = renderUpload (.ok w) → v = w := by
  refine ⟨fun v e ↦ ?_, fun v ↦ renderUpload_ne_uploadingMessage (.ok v),
    fragmentMessage?_error, fragmentMessage?_ok, fun e e' h ↦ ?_, fun v w hv hvkeys hw hwkeys h ↦ ?_⟩
  · rw [renderUpload_ok]
    exact pretty_ne_errorFragment v e
  · have hmessage := fragmentMessage?_error e
    rw [h, fragmentMessage?_error e'] at hmessage
    exact (Option.some.inj hmessage).symm
  · rw [renderUpload_ok, renderUpload_ok] at h
    exact Json.eq_of_print_eq hv hvkeys hw hwkeys h

/-- The order of keys is told too. -/
theorem outcome_told_by_message_reordered :
    let v : Json := .object [("a", .array []), ("b", .number (.int 1))]
    let w : Json := .object [("b", .number (.int 1)), ("a", .array [])]
    renderUpload (.ok v) ≠ renderUpload (.ok w) := by
  intro v w h
  have hv : v.HasIntegersOnly := ⟨trivial, ⟨by decide, by decide⟩, trivial⟩
  have hvkeys : v.HasDistinctKeys := ⟨by simp [Entries.DistinctKeys], trivial, trivial, trivial⟩
  have hw : w.HasIntegersOnly := ⟨⟨by decide, by decide⟩, trivial, trivial⟩
  have hwkeys : w.HasDistinctKeys := ⟨by simp [Entries.DistinctKeys], trivial, trivial, trivial⟩
  have hsame : v = w := outcome_told_by_message.2.2.2.2.2 v w hv hvkeys hw hwkeys h
  simp [v, w] at hsame

end DealForm
