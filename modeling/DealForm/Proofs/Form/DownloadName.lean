import DealForm.File.Path
import DealForm.Form.DownloadName
import DealForm.Proofs.Text.Utf8

/-!
# Names of downloads name one file

Whatever identifier a reply belongs to, the name of its download holds plain characters only and
starts and ends in the same way. So it is one name in a directory, and none that leads out of it.
-/

namespace DealForm

variable {c : Char}

theorem isPlainNameChar_of_mem_sanitize {text : String} (h : c ∈ (sanitize text).toList) :
    isPlainNameChar c = true := by
  rw [sanitize, String.toList_ofList, List.mem_map] at h
  obtain ⟨d, -, rfl⟩ := h
  split
  · next hplain => exact hplain
  · rfl

theorem isPlainNameChar_of_mem_downloadName {contentId : Option String}
    (h : c ∈ (downloadName contentId).toList) : isPlainNameChar c = true := by
  have hplain : ∀ s ∈ ["status-check.txt", "status-check-for", ".txt"],
      s.toList.all isPlainNameChar = true := by decide
  have hfixed : ∀ s ∈ ["status-check.txt", "status-check-for", ".txt"], c ∈ s.toList →
      isPlainNameChar c = true := fun s hs hc ↦ List.all_eq_true.mp (hplain s hs) c hc
  unfold downloadName at h
  split at h
  · exact hfixed _ (by simp) h
  · split at h
    · exact hfixed _ (by simp) h
    · rw [String.toList_append, String.toList_append, List.mem_append, List.mem_append] at h
      rcases h with (h | h) | h
      · exact hfixed _ (by simp) h
      · exact isPlainNameChar_of_mem_sanitize h
      · exact hfixed _ (by simp) h

theorem toNat_lt_of_isPlainNameChar (h : isPlainNameChar c = true) : c.toNat < 0x80 := by
  simp only [isPlainNameChar, Bool.or_eq_true, beq_iff_eq] at h
  rcases h with ((h | rfl) | rfl) | rfl
  · exact Nat.lt_of_le_of_lt (Utf8.toNat_of_isAlphanum h).2 (by decide)
  all_goals decide

/-- A name takes one byte for each character of the identifier, whatever these are. -/
theorem length_encode_downloadName {id : String} (hid : id ≠ "") :
    (Utf8.encode (downloadName (some id))).length = 20 + id.length := by
  rw [Utf8.length_encode fun c hc ↦
    toNat_lt_of_isPlainNameChar (isPlainNameChar_of_mem_downloadName hc)]
  have hshown : id.isEmpty = false := by simpa using hid
  have hfront : "status-check-for".length = 16 := rfl
  have hback : ".txt".length = 4 := rfl
  have hmiddle : (sanitize id).length = id.length := by
    rw [sanitize, String.length_ofList, List.length_map, String.length_toList]
  simp only [downloadName, hshown, Bool.false_eq_true, ↓reduceIte, String.length_append]
  omega

/-- No identifier of up to 235 characters makes a name that is too long, and every longer one
does. -/
theorem length_encode_downloadName_le_iff (id : String) :
    (Utf8.encode (downloadName (some id))).length ≤ 255 ↔ id.length ≤ 235 := by
  by_cases hid : id = ""
  · subst hid
    exact iff_of_true (by decide) (by decide)
  · rw [length_encode_downloadName hid]
    omega

theorem exists_downloadName_eq (contentId : Option String) :
    ∃ middle, downloadName contentId = "status-check" ++ middle ++ ".txt" := by
  unfold downloadName
  split
  · exact ⟨"", rfl⟩
  · next contentId =>
    split
    · exact ⟨"", rfl⟩
    · refine ⟨"-for" ++ sanitize contentId, ?_⟩
      rw [← String.append_assoc]
      rfl

theorem slash_notMem_encode_downloadName (contentId : Option String) :
    Path.slash ∉ Utf8.encode (downloadName contentId) := by
  intro h
  have hmem := Utf8.exists_mem_of_mem_encode (by decide) h
  have hplain : isPlainNameChar (Char.ofNat Path.slash.toNat) = true :=
    isPlainNameChar_of_mem_downloadName hmem
  exact absurd hplain (by decide)

theorem nul_notMem_encode_downloadName (contentId : Option String) :
    0 ∉ Utf8.encode (downloadName contentId) := by
  intro h
  have hmem := Utf8.exists_mem_of_mem_encode (by decide) h
  have hplain : isPlainNameChar (Char.ofNat (0 : UInt8).toNat) = true :=
    isPlainNameChar_of_mem_downloadName hmem
  exact absurd hplain (by decide)

theorem encode_downloadName_ne_encode (contentId : Option String) (name : String)
    (h : name.length < 12) : Utf8.encode (downloadName contentId) ≠ Utf8.encode name := by
  intro hsame
  obtain ⟨middle, hname⟩ := exists_downloadName_eq contentId
  have hlength := congrArg String.length (Utf8.encode_inj.mp hsame)
  rw [hname, String.length_append, String.length_append] at hlength
  have hfixed : "status-check".length = 12 := rfl
  omega

theorem encode_downloadName_ne_nil (contentId : Option String) :
    Utf8.encode (downloadName contentId) ≠ [] :=
  encode_downloadName_ne_encode contentId "" (by decide)

theorem encode_downloadName_ne_dot (contentId : Option String) :
    Utf8.encode (downloadName contentId) ≠ Path.dot :=
  encode_downloadName_ne_encode contentId "." (by decide)

theorem encode_downloadName_ne_dotDot (contentId : Option String) :
    Utf8.encode (downloadName contentId) ≠ Path.dotDot :=
  encode_downloadName_ne_encode contentId ".." (by decide)

end DealForm
