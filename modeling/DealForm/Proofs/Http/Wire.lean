import DealForm.Http.Wire
import DealForm.Proofs.Text.Utf8

/-!
# The head of a message is read line by line

Cut at its line ends, a message gives the lines it was made of, none of them broken, and behind them
its body. So a request tells its headers whatever its writer makes of the other lines and of their
order.
-/

namespace DealForm

namespace Wire

variable {turns : Nat} {line : Bytes} {lines : List Bytes}

/-- The line is not the one that ends a head, and nothing in it ends a line. -/
def IsUnbroken (line : Bytes) : Prop :=
  line ≠ [] ∧ 13 ∉ line ∧ 10 ∉ line

theorem cutLine_append (h : 13 ∉ line) (rest : Bytes) :
    cutLine (line ++ (lineEnd ++ rest)) = some (line, rest) := by
  induction line with
  | nil => rfl
  | cons b line ih =>
      obtain ⟨hb, hline⟩ := List.ne_and_not_mem_of_not_mem_cons h
      rw [List.cons_append, cutLine, ih hline]
      · rfl
      · rintro - rfl
        exact absurd rfl hb

theorem cutHead_message (h : ∀ line ∈ lines, IsUnbroken line) (hturns : lines.length < turns)
    (body : Bytes) : cutHead turns (message lines body) = some (lines, body) := by
  induction lines generalizing turns with
  | nil =>
      cases turns with
      | zero => cases hturns
      | succ turns =>
          have hcut : cutLine (lineEnd ++ body) = some ([], body) :=
            cutLine_append List.not_mem_nil body
          simp [message, cutHead, hcut]
  | cons line lines ih =>
      cases turns with
      | zero => cases hturns
      | succ turns =>
          obtain ⟨⟨hne, hline, -⟩, hlines⟩ := List.forall_mem_cons.mp h
          have hrest := ih hlines (Nat.lt_of_succ_lt_succ hturns)
          have hmessage : message (line :: lines) body =
              line ++ (lineEnd ++ message lines body) := by
            simp only [message, List.flatMap_cons, List.append_assoc]
          rw [hmessage, cutHead, cutLine_append hline]
          simp [hne, hrest]

end Wire

/-- The bytes are the request as some writer makes it: in any order among other lines, each of its
headers has a line of its own. -/
def Request.IsWrittenAs (r : Request) (others : List Bytes) (bytes : Bytes) : Prop :=
  ∃ lines, lines.Perm (others ++ r.headers.map Header.line) ∧
    bytes = Wire.message lines (r.body.getD [])

/-- However a request is written, its head is read as the other lines and those of its headers. -/
theorem Request.IsWrittenAs.cutHead {r : Request} {others : List Bytes} {bytes : Bytes}
    {turns : Nat} (h : r.IsWrittenAs others bytes) (hothers : ∀ line ∈ others, Wire.IsUnbroken line)
    (hheaders : ∀ header ∈ r.headers, Wire.IsUnbroken header.line)
    (hturns : others.length + r.headers.length < turns) :
    ∃ lines, Wire.cutHead turns bytes = some (lines, r.body.getD []) ∧
      lines.Perm (others ++ r.headers.map Header.line) := by
  obtain ⟨lines, hlines, rfl⟩ := h
  refine ⟨lines, Wire.cutHead_message (fun line hline ↦ ?_) ?_ _, hlines⟩
  · rcases List.mem_append.mp (hlines.mem_iff.mp hline) with hmem | hmem
    · exact hothers line hmem
    · obtain ⟨header, hheader, rfl⟩ := List.mem_map.mp hmem
      exact hheaders header hheader
  · rw [hlines.length_eq, List.length_append, List.length_map]
    exact hturns

end DealForm
