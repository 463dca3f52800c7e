import DealForm.Http.Address
import DealForm.Proofs.Text.Utf8
import DealForm.Proofs.Url.User

/-!
# Addresses are printable

Whatever a text holds, the path and the query of a web URL that is read from it are written without
controls, and so is the host of one that can be the address of a request.
-/

namespace DealForm

/-- No character is a control or lies outside ASCII. -/
def IsPrintable (cs : List Char) : Prop :=
  ∀ c ∈ cs, Percent.isControl c = false

theorem isPrintable_append {cs ds : List Char} :
    IsPrintable (cs ++ ds) ↔ IsPrintable cs ∧ IsPrintable ds :=
  List.forall_mem_append

namespace Percent

variable {refused : Char → Bool} {cs : List Char} {c : Char}

theorem isControl_upperHexDigit {n : Nat} (h : n < 16) : isControl (upperHexDigit n) = false := by
  have hall : ∀ n : Fin 16, isControl (upperHexDigit n) = false := by decide
  exact hall ⟨n, h⟩

theorem isPrintable_encode (h : ∀ c, isControl c = true → refused c = true) (cs : List Char) :
    IsPrintable (encode refused cs) := by
  intro c hc
  obtain ⟨d, -, hd⟩ := List.mem_flatMap.mp hc
  unfold encodeChar at hd
  split at hd
  · obtain ⟨b, -, hb⟩ := List.mem_flatMap.mp hd
    have hsize := b.toNat_lt
    simp only [encodeByte, List.mem_cons, List.not_mem_nil, or_false] at hb
    rcases hb with rfl | rfl | rfl
    · decide
    · exact isControl_upperHexDigit (by omega)
    · exact isControl_upperHexDigit (by omega)
  · next hkept =>
    rw [List.mem_singleton.mp hd]
    exact Bool.eq_false_iff.mpr fun hcontrol ↦ hkept (h d hcontrol)

theorem inPath_of_isControl (h : isControl c = true) : inPath c = true := by
  simp [inPath, inFragment, h]

theorem inQuery_of_isControl (h : isControl c = true) : inQuery c = true := by
  simp [inQuery, h]

theorem inSpecialQuery_of_isControl (h : isControl c = true) : inSpecialQuery c = true := by
  simp [inSpecialQuery, inQuery_of_isControl h]

end Percent

namespace Url

variable {path : List (List Char)} {u : Url} {text : String}

/-! ## Paths -/

theorem isPrintable_follow (h : ∀ s ∈ path, IsPrintable s) (segment : List Char) :
    ∀ s ∈ follow path segment, IsPrintable s := by
  unfold follow
  split_ifs
  · exact h
  · exact fun s hs ↦ h s (List.dropLast_subset path hs)
  · exact h
  · refine List.forall_mem_append.mpr ⟨h, List.forall_mem_singleton.mpr ?_⟩
    exact Percent.isPrintable_encode (fun _ ↦ Percent.inPath_of_isControl) segment

theorem isPrintable_followAll (h : ∀ s ∈ path, IsPrintable s) (segments : List (List Char)) :
    ∀ s ∈ followAll path segments, IsPrintable s := by
  induction path, segments using followAll.induct with
  | case1 path => exact h
  | case2 path last hdots =>
      rw [followAll, if_pos hdots]
      refine List.forall_mem_append.mpr ⟨isPrintable_follow h last, ?_⟩
      exact List.forall_mem_singleton.mpr (List.forall_mem_nil _)
  | case3 path last hdots =>
      rw [followAll, if_neg hdots]
      exact isPrintable_follow h last
  | case4 path segment rest hrest ih =>
      rw [followAll]
      · exact ih (isPrintable_follow h segment)
      · exact hrest

theorem isPrintable_segmentsAfterHost (scheme cs : List Char) :
    ∀ s ∈ segmentsAfterHost scheme cs, IsPrintable s := by
  unfold segmentsAfterHost
  split
  · exact List.forall_mem_nil _
  · exact isPrintable_followAll (List.forall_mem_nil _) _

theorem isPrintable_pathChars {segments : List (List Char)} (hpath : u.path = .segments segments)
    (h : ∀ s ∈ segments, IsPrintable s) : IsPrintable u.pathChars := by
  rw [pathChars, hpath]
  intro c hc
  obtain ⟨segment, hsegment, hmem⟩ := List.mem_flatMap.mp hc
  rcases List.mem_cons.mp hmem with rfl | hmem
  · decide
  · exact h segment hsegment c hmem

theorem isPrintable_queryChars_withTail (u : Url) (t : Tail) :
    IsPrintable (u.withTail t).queryChars := by
  cases hquery : t.query with
  | none =>
      simp only [queryChars, withTail, hquery]
      exact List.forall_mem_nil _
  | some query =>
      simp only [queryChars, withTail, hquery, Option.map_some, Option.getD_some]
      refine List.forall_mem_cons.mpr ⟨by decide, Percent.isPrintable_encode (fun c hc ↦ ?_) query⟩
      split
      · exact Percent.inSpecialQuery_of_isControl hc
      · exact Percent.inQuery_of_isControl hc

/-- What a web URL asks for is printable. -/
theorem isPrintable_target (hu : parse? text = some u) (hweb : u.isWeb = true) :
    IsPrintable u.asAddress.target.toList := by
  obtain ⟨⟨scheme, rest⟩, -, hafter⟩ := Option.bind_eq_some_iff.mp hu
  dsimp only at hafter
  rw [(afterScheme?_of_isWeb hafter hweb).2] at hafter
  obtain ⟨host, port, tail, rfl⟩ := afterSlashes?_eq_some hafter
  rw [target, String.toList_ofList]
  refine isPrintable_append.mpr ⟨?_, isPrintable_queryChars_withTail _ _⟩
  unfold asAddress
  dsimp only
  split
  · exact isPrintable_pathChars rfl (List.forall_mem_singleton.mpr (List.forall_mem_nil _))
  · exact isPrintable_pathChars rfl (isPrintable_segmentsAfterHost _ _)

end Url

/-! ## Hosts -/

namespace PlaceScan

variable {s t : PlaceScan} {c : Char} {cs : List Char}

theorem isControl_of_isPlain (h : isPlain c = true) : Percent.isControl c = false := by
  rcases Bool.or_eq_true_iff.mp h with h | h
  · have hrange := Utf8.toNat_of_isAlphanum h
    simp only [Percent.isControl, Bool.or_eq_false_iff, decide_eq_false_iff_not]
    omega
  · have hall : ∀ c ∈ ['!', '$', '&', '\'', '(', ')', '*', '+', ',', '-', '.', ';', '=', '_', '~'],
        Percent.isControl c = false := by simp [Percent.isControl]
    exact hall c (by simpa using h)

theorem isControl_of_next? (h : s.next? c = some t) : Percent.isControl c = false := by
  simp only [next?] at h
  split_ifs at h with hcolon _ hat hpercent hopen _ hclose _ hplain
  · rw [hcolon]; decide
  · rw [hat]; decide
  · rw [hpercent]; decide
  · rw [hopen]; decide
  · rw [hclose]; decide
  · exact isControl_of_isPlain hplain

theorem isPrintable_of_foldlM (h : cs.foldlM next? s = some t) : IsPrintable cs := by
  induction cs generalizing s with
  | nil => exact List.forall_mem_nil _
  | cons c cs ih =>
      obtain ⟨next, hnext, hrest⟩ := Option.bind_eq_some_iff.mp h
      exact List.forall_mem_cons.mpr ⟨isControl_of_next? hnext, ih hrest⟩

theorem isPrintable_of_accepts (h : accepts cs = true) : IsPrintable cs := by
  cases hscan : cs.foldlM next? {} with
  | none => simp [accepts, hscan] at h
  | some t => exact isPrintable_of_foldlM hscan

end PlaceScan

/-- The host and the port of an address are printable. -/
theorem Url.isPrintable_authorityChars {u : Url} (h : u.isAddress = true)
    (hhost : u.hasHost = true) : IsPrintable u.authorityChars := by
  have haddress := (Bool.and_eq_true_iff.mp h).2
  cases hu : u.host with
  | none => simp [hasHost, hu] at hhost
  | some host =>
      simp only [hu, Bool.and_eq_true] at haddress
      exact (isPrintable_append.mp (PlaceScan.isPrintable_of_accepts haddress.2)).2

end DealForm
