import DealForm.Proofs.Json.Numbers
import DealForm.Proofs.Json.Opening
import DealForm.Proofs.Json.Printed

/-!
# Rendered replies read back

What the response area shows is a JSON document, from which the reply can be read again: its body,
or the text of its error.
-/

namespace DealForm

theorem parse_quotedMessage (e : Error) :
    Json.parse (quotedMessage e) = .ok (.string e.message) := by
  have hints : (Json.string e.message).HasIntegersOnly := trivial
  have hkeys : (Json.string e.message).HasDistinctKeys := trivial
  have hdepth : (Json.string e.message).depth ≤ Json.maxDepth := Nat.zero_le _
  rw [quotedMessage_eq]
  exact Json.parse_print hints hkeys hdepth (.indented 4)

theorem parse_pretty {text : String} {body : Json} (hbody : Json.parse text = .ok body)
    (hints : ∀ n ∈ body.numbers, ∃ k, n = .int k) : Json.parse body.pretty = .ok body := by
  have hintegers := Json.hasIntegersOnly_of_parse hbody hints
  obtain ⟨rest, hread, -⟩ := Json.decode_eq_ok.mp hbody
  obtain ⟨hdepth, hkeys⟩ := Json.depth_le_and_hasDistinctKeys hread
  exact Json.parse_print hintegers hkeys hdepth (.indented 4)

/-- The quotes make a quoted message longer than the message. -/
theorem quotedMessage_ne (e : Error) : quotedMessage e ≠ e.message := by
  intro h
  have hlength := congrArg (fun text : String ↦ text.toList.length) h
  have hescaped := Json.length_le_flatMap_escapeChar e.message.toList
  simp only [quotedMessage_eq, Json.pretty, Json.print, Json.chars, Json.stringChars,
    String.toList_ofList, List.length_append, List.length_cons, List.length_nil] at hlength
  omega

theorem pretty_ne_errorFragment (body : Json) (e : Error) : body.pretty ≠ errorFragment e := by
  intro h
  have hhead := head?_errorFragment e
  cases htext : (errorFragment e).toList with
  | nil =>
      rw [htext] at hhead
      cases hhead
  | cons c rest =>
      rw [htext] at hhead
      cases hhead
      exact Json.print_ne _ body htext rfl h

/-- The response area shows a JSON document: the body of the reply, in which integers are the only
numbers, or the text of the error as a string. The message area shows a body by the same text. No
body is shown as an error, unless it is the string that says the same, and no error without its
quotes; no value fails to be printed. -/
theorem rendered_reply_reads_back :
    (∀ text body, Json.parse text = .ok body → (∀ n ∈ body.numbers, ∃ k, n = .int k) →
      Json.parse (renderStatus (.ok body)) = .ok body ∧
        renderUpload (.ok body) = renderStatus (.ok body) ∧
        (∀ e, renderUpload (.ok body) ≠ errorFragment e) ∧
        ∀ e, renderStatus (.ok body) = quotedMessage e → body = .string e.message) ∧
    (∀ e : Error, Json.parse (renderStatus (.error e)) = .ok (.string e.message) ∧
      renderStatus (.error e) ≠ e.message) ∧
    ∀ v : Json, ∃ text, prettyText v = .ok text := by
  refine ⟨?_, ?_, fun v ↦ ⟨v.pretty, prettyText_eq v⟩⟩
  · intro text body hbody hints
    have hread : Json.parse body.pretty = .ok body := parse_pretty hbody hints
    rw [renderStatus_ok, renderUpload_ok]
    refine ⟨hread, rfl, pretty_ne_errorFragment body, ?_⟩
    intro e hpretty
    have hquoted := parse_quotedMessage e
    rw [← hpretty, hread] at hquoted
    cases hquoted
    rfl
  · intro e
    exact ⟨parse_quotedMessage e, quotedMessage_ne e⟩

theorem rendered_reply_reads_back_nested :
    Json.parse (renderStatus (.ok (.object [
      ("b", .array [.array [], .object [], .number (.int (-9223372036854775808))]),
      ("a", .string "\"\\\n\x01é")]))) = .ok (.object [
      ("b", .array [.array [], .object [], .number (.int (-9223372036854775808))]),
      ("a", .string "\"\\\n\x01é")]) := by
  have hbody : Json.parse
      "\x7b\"b\":[[],\x7b\x7d,-9223372036854775808],\"a\":\"\\\"\\\\\\n\\u0001é\"\x7d" =
        .ok (.object [
          ("b", .array [.array [], .object [], .number (.int (-9223372036854775808))]),
          ("a", .string "\"\\\n\x01é")]) := rfl
  exact (rendered_reply_reads_back.1 _ _ hbody (by simp)).1

end DealForm
