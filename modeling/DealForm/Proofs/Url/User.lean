import DealForm.Deal.Upload
import DealForm.Url.Parser
import Mathlib.Data.List.Basic

/-!
# The user that a URL names

A user ends before the first slash behind the scheme. So what is added to a base URL, which starts
with a slash, leaves the user as it is: an endpoint names the user of its base URL, or none.
-/

namespace DealForm

namespace Url

variable {scheme cs rest gap path : List Char} {text : String} {u base : Url}

theorem userChars_eq_nil : u.userChars = [] ↔ u.username = [] ∧ u.password = [] := by
  unfold userChars
  split
  · next h => simpa using h
  · next h =>
    have h' : ¬ (u.username = [] ∧ u.password = []) := by simpa using h
    simp [h']

/-! ## Reading a user -/

def beforeAt? (authority : List Char) : Option (List Char) :=
  if authority.contains '@' then
    some ((authority.reverse.dropWhile (· != '@')).drop 1).reverse
  else none

theorem beforeAt?_append (hgap : '@' ∉ gap) : beforeAt? (cs ++ gap) = beforeAt? cs := by
  have hdrop : (cs ++ gap).reverse.dropWhile (· != '@') = cs.reverse.dropWhile (· != '@') := by
    rw [List.reverse_append, List.dropWhile_append_of_pos]
    intro c hc
    have hne : c ≠ '@' := fun h ↦ hgap (h ▸ List.mem_reverse.mp hc)
    simpa using hne
  have hmem : (cs ++ gap).contains '@' = cs.contains '@' := by simp [hgap]
  rw [beforeAt?, hmem, hdrop, beforeAt?]

def userOf (special : Bool) (cs : List Char) : List Char × List Char :=
  splitPassword ((beforeAt? (cs.takeWhile (!endsAuthority special ·))).getD [])

theorem splitPassword_splitUser (special : Bool) (cs : List Char) :
    splitPassword ((splitUser special cs).1.getD []) = userOf special cs := by
  simp only [splitUser, userOf, beforeAt?]
  split <;> rfl

/-- What follows a slash, and what stands right before it, brings no user. -/
theorem userOf_append (special : Bool) (hgap : '@' ∉ gap) (path : List Char) :
    userOf special (cs ++ (gap ++ '/' :: path)) = userOf special cs := by
  have hslash : endsAuthority special '/' = true := by simp [endsAuthority, isSlash]
  have hbefore : '@' ∉ (gap ++ '/' :: path).takeWhile (!endsAuthority special ·) := by
    rw [List.takeWhile_append, List.takeWhile_cons_of_neg (by simp [hslash]), List.append_nil]
    split
    · exact hgap
    · exact fun h ↦ hgap ((List.takeWhile_prefix _).subset h)
  rw [userOf, userOf, List.takeWhile_append]
  split
  · next hwhole =>
    rw [beforeAt?_append hbefore, (List.takeWhile_prefix _).eq_of_length hwhole]
  · rfl

/-- A URL that was read with a host has the parts that the text holds around the host. -/
theorem afterSlashes?_eq_some (h : afterSlashes? scheme cs = some u) :
    ∃ host port rest, u = withTail
      { scheme
        username := Percent.encode Percent.inUserInfo (userOf (isSpecial scheme) cs).1
        password := Percent.encode Percent.inUserInfo (userOf (isSpecial scheme) cs).2
        host := some host
        port := port
        path := .segments (segmentsAfterHost scheme (splitTail rest).path) } (splitTail rest) := by
  simp only [afterSlashes?, splitPassword_splitUser] at h
  split at h
  · cases h
  split at h
  all_goals
    obtain ⟨host, -, h⟩ := Option.bind_eq_some_iff.mp h
    split at h
    all_goals
      obtain ⟨⟨port, rest⟩, -, h⟩ := Option.bind_eq_some_iff.mp h
      cases h
      exact ⟨host, _, rest, rfl⟩

/-! ## Adding a path -/

theorem splitScheme?_append (h : splitScheme? cs = some (scheme, rest)) (more : List Char) :
    splitScheme? (cs ++ more) = some (scheme, rest ++ more) := by
  cases cs with
  | nil => cases h
  | cons c cs =>
      simp only [splitScheme?] at h
      split_ifs at h with halpha
      split at h
      · next hrest =>
        cases h
        have hdrop : (c :: (cs ++ more)).dropWhile isSchemeChar = ':' :: (rest ++ more) := by
          rw [← List.cons_append, List.dropWhile_append, hrest]
          rfl
        have htake : (c :: (cs ++ more)).takeWhile isSchemeChar =
            (c :: cs).takeWhile isSchemeChar := by
          have hshort : ((c :: cs).takeWhile isSchemeChar).length ≠ (c :: cs).length := by
            intro hlength
            have hsplit := List.takeWhile_append_dropWhile (p := isSchemeChar) (l := c :: cs)
            rw [(List.takeWhile_prefix _).eq_of_length hlength, hrest] at hsplit
            simpa using congrArg List.length hsplit
          rw [← List.cons_append, List.takeWhile_append, if_neg hshort]
        simp [splitScheme?, halpha, hdrop, htake]
      · cases h

/-- Between a text that holds something and what is added, blanks and controls are kept. -/
theorem tidy_append (hcs : tidy cs ≠ []) (hpath : ∀ c ∈ path, 0x20 < c.toNat) (hne : path ≠ []) :
    ∃ gap, (∀ c ∈ gap, c.toNat ≤ 0x20) ∧ tidy (cs ++ path) = tidy cs ++ (gap ++ path) := by
  let isEdge (c : Char) : Bool := c.toNat ≤ 0x20
  let isKept (c : Char) : Bool := !(['\t', '\n', '\r'].contains c)
  have hfront : (cs.dropWhile isEdge).isEmpty = false := by
    refine Bool.eq_false_iff.mpr fun hempty ↦ hcs ?_
    change (((cs.dropWhile isEdge).reverse.dropWhile isEdge).reverse).filter isKept = []
    rw [List.isEmpty_iff.mp hempty]
    rfl
  have hback : ((cs.dropWhile isEdge) ++ path).reverse.dropWhile isEdge =
      ((cs.dropWhile isEdge) ++ path).reverse := by
    obtain ⟨init, last, rfl⟩ := path.eq_nil_or_concat.resolve_left hne
    have hlast : isEdge last = false := by
      have hbig := hpath last (by simp)
      simpa [isEdge] using hbig
    simp [hlast]
  have hkept : path.filter isKept = path := by
    refine List.filter_eq_self.mpr fun c hc ↦ ?_
    have hsmall : ∀ d ∈ ['\t', '\n', '\r'], d.toNat ≤ 0x20 := by simp
    have hcontrol : c ∉ ['\t', '\n', '\r'] := fun hmem ↦
      Nat.not_le.mpr (hpath c hc) (hsmall c hmem)
    simpa [isKept] using hcontrol
  -- the edge at the end of the text is what stays in between
  refine ⟨((cs.dropWhile isEdge).reverse.takeWhile isEdge).reverse.filter isKept, ?_, ?_⟩
  · intro c hc
    have hmem := List.mem_reverse.mp (List.mem_filter.mp hc).1
    simpa [isEdge] using List.all_eq_true.mp List.all_takeWhile c hmem
  · change ((((cs ++ path).dropWhile isEdge).reverse.dropWhile isEdge).reverse).filter isKept =
      (((cs.dropWhile isEdge).reverse.dropWhile isEdge).reverse).filter isKept ++ _
    rw [List.dropWhile_append, hfront, if_neg Bool.false_ne_true, hback, List.reverse_reverse,
      List.filter_append, hkept, ← List.append_assoc, ← List.filter_append, ← List.reverse_append,
      List.takeWhile_append_dropWhile, List.reverse_reverse]

/-! ## Whole URLs -/

theorem scheme_of_file? (h : file? scheme cs = some u) : u.scheme = scheme := by
  simp only [file?] at h
  split at h
  · split at h
    · split at h
      · cases h
        rfl
      · obtain ⟨host, -, h⟩ := Option.bind_eq_some_iff.mp h
        cases h
        rfl
    · cases h
      rfl
  · cases h
    rfl

theorem scheme_of_afterScheme? (h : afterScheme? scheme cs = some u) : u.scheme = scheme := by
  have hslashes : ∀ {place}, afterSlashes? scheme place = some u → u.scheme = scheme := by
    intro place hplace
    obtain ⟨host, port, rest, rfl⟩ := afterSlashes?_eq_some hplace
    rfl
  unfold afterScheme? at h
  split_ifs at h
  · exact scheme_of_file? h
  · exact hslashes h
  · split at h
    · exact hslashes h
    · cases h
      rfl
    · cases h
      rfl

theorem afterScheme?_of_isWeb (h : afterScheme? scheme cs = some u) (hweb : u.isWeb = true) :
    isSpecial scheme = true ∧ ∀ cs, afterScheme? scheme cs =
      afterSlashes? scheme (cs.dropWhile (isSlash true)) := by
  rw [isWeb, scheme_of_afterScheme? h, Bool.or_eq_true, beq_iff_eq, beq_iff_eq] at hweb
  rcases hweb with rfl | rfl
  · exact ⟨rfl, fun _ ↦ rfl⟩
  · exact ⟨rfl, fun _ ↦ rfl⟩

theorem afterSlashes?_nil (h : isSpecial scheme = true) : afterSlashes? scheme [] = none := by
  simp [afterSlashes?, splitUser, splitHost, h]

/-- A path that is added to a web URL brings no user. -/
theorem userChars_of_append (hbase : parse? text = some base)
    (hpath : ∀ c ∈ path, 0x20 < c.toNat)
    (hu : parse? (text ++ String.ofList ('/' :: path)) = some u) (hweb : u.isWeb = true) :
    u.userChars = base.userChars := by
  obtain ⟨⟨scheme, rest⟩, hsplit, hafter⟩ := Option.bind_eq_some_iff.mp hbase
  obtain ⟨⟨scheme', rest'⟩, hsplit', hafter'⟩ := Option.bind_eq_some_iff.mp hu
  have htext : tidy text.toList ≠ [] := by
    intro hnil
    rw [hnil] at hsplit
    cases hsplit
  have hadded : ∀ c ∈ '/' :: path, 0x20 < c.toNat :=
    List.forall_mem_cons.mpr ⟨by decide, hpath⟩
  obtain ⟨gap, hgap, htidy⟩ := tidy_append htext hadded (List.cons_ne_nil _ _)
  rw [String.toList_append, String.toList_ofList, htidy, splitScheme?_append hsplit] at hsplit'
  cases hsplit'
  obtain ⟨hspecial, hslashes⟩ := afterScheme?_of_isWeb hafter' hweb
  dsimp only at hafter hafter'
  rw [hslashes] at hafter hafter'
  have hrest : (rest.dropWhile (isSlash true)).isEmpty = false := by
    refine Bool.eq_false_iff.mpr fun hempty ↦ ?_
    rw [List.isEmpty_iff.mp hempty, afterSlashes?_nil hspecial] at hafter
    cases hafter
  have hat : '@' ∉ gap := fun hmem ↦ absurd (hgap '@' hmem) (by decide)
  rw [List.dropWhile_append, hrest, if_neg Bool.false_ne_true] at hafter'
  obtain ⟨host, port, tail, hparts⟩ := afterSlashes?_eq_some hafter
  obtain ⟨host', port', tail', hparts'⟩ := afterSlashes?_eq_some hafter'
  rw [userOf_append _ hat] at hparts'
  rw [hparts, hparts']
  rfl

end Url

/-! ## Endpoints -/

namespace UploadRequest

variable {r : UploadRequest} {u : Url}

/-- The base URL names no user; a base URL that is none by itself makes no endpoint that does. -/
def NamesNoUser (r : UploadRequest) : Prop :=
  match Url.parse? r.baseUrl with
  | some base => base.userChars = []
  | none => ∀ u, Url.parse? r.endpoint = some u → u.userChars = []

theorem NamesNoUser.userChars_eq_nil (h : r.NamesNoUser) (hu : Url.parse? r.endpoint = some u)
    (hweb : u.isWeb = true) : u.userChars = [] := by
  unfold NamesNoUser at h
  split at h
  · next base hbase =>
    rw [← h]
    have hpath : ∀ c ∈ dealPath.toList.tail, 0x20 < c.toNat := by simp [dealPath]
    exact Url.userChars_of_append hbase hpath hu hweb
  · exact h u hu

end UploadRequest

end DealForm
