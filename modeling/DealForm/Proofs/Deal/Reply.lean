import DealForm.Deal.Reply
import DealForm.Proofs.Json.Reorder

/-!
# The answers that have a view

A reply has three fields, each with a default. An answer has a view exactly if it is an object that
gives some of the fields by their keys, or an array of the first ones, each with a value of its
type. The view is the one reply that the answer gives, where what is left out has its default.
-/

namespace DealForm

theorem Entries.get?_filter {p : String → Bool} {key : String} (hkey : p key = true)
    (es : Entries) : Entries.get? key (es.filter fun e ↦ p e.1) = es.get? key := by
  induction es with
  | nil => rfl
  | cons e es ih =>
      obtain ⟨k, v⟩ := e
      by_cases hk : k = key
      · simp [hk, hkey, get?]
      · by_cases hp : p k = true <;> simp [hp, hk, get?, ih]

namespace DealReply

variable {r : DealReply} {v : Json} {es fs : Entries} {vs : List Json}
  {given status message contentId : Option Json}

/-! ## What an answer gives -/

/-- The value that stands for an identifier, or for none. -/
def contentIdJson : Option Int → Json
  | none => .null
  | some n => .number (.int n)

@[simp] theorem contentIdJson_none : contentIdJson none = .null := rfl

def members (r : DealReply) : Entries :=
  [("status", .string r.status), ("message", .string r.message),
    ("content_id", contentIdJson r.contentId)]

def isField (key : String) : Bool :=
  ["status", "message", "content_id"].contains key

def IsLong (n : Int) : Prop :=
  -0x8000000000000000 ≤ n ∧ n ≤ 0x7FFFFFFFFFFFFFFF

/-- The answer gives the fields of a reply, by key or by place. What it leaves out has its
default. -/
inductive IsGivenBy (r : DealReply) : Json → Prop where
  | object {es : Entries} (h : ∀ m ∈ r.members, es.get? m.1 = some m.2 ∨
      (es.get? m.1 = none ∧ m ∈ members {}))
    (hid : ∀ n ∈ r.contentId, IsLong n) : r.IsGivenBy (.object es)
  | array {vs : List Json} (first : vs <+: r.members.map Prod.snd)
    (rest : r.members.drop vs.length = (members {}).drop vs.length)
    (hid : ∀ n ∈ r.contentId, IsLong n) : r.IsGivenBy (.array vs)

inductive IsText : Json → Prop where
  | string (s : String) : IsText (.string s)

inductive IsContentId : Json → Prop where
  | null : IsContentId .null
  | int {n : Int} (h : IsLong n) : IsContentId (.number (.int n))

/-- An object or a short array in which each field, if it is there, has a value of its type. -/
inductive IsReplyShaped : Json → Prop where
  | object {es : Entries} (status : ∀ v ∈ es.get? "status", IsText v)
    (message : ∀ v ∈ es.get? "message", IsText v)
    (contentId : ∀ v ∈ es.get? "content_id", IsContentId v) : IsReplyShaped (.object es)
  | array {vs : List Json} (length : vs.length ≤ 3) (status : ∀ v ∈ vs[0]?, IsText v)
    (message : ∀ v ∈ vs[1]?, IsText v) (contentId : ∀ v ∈ vs[2]?, IsContentId v) :
    IsReplyShaped (.array vs)

/-! ## Fields -/

/-- A field is given with this value, or left out where the value is its default. -/
def Says (given : Option Json) (default value : Json) : Prop :=
  given = some value ∨ (given = none ∧ value = default)

@[simp] theorem says_none {default value : Json} : Says none default value ↔ value = default := by
  simp [Says]

@[simp] theorem says_some {default value : Json} :
    Says (some v) default value ↔ v = value := by
  simp [Says]

theorem text?_eq_some {s : String} : text? v = some s ↔ v = .string s := by
  cases v <;> simp [text?]

theorem contentId?_eq_some {c : Option Int} :
    contentId? v = some c ↔ v = contentIdJson c ∧ ∀ n ∈ c, IsLong n := by
  cases v with
  | null => cases c <;> simp [contentId?, contentIdJson]
  | number n =>
      cases n with
      | int n =>
          cases c with
          | none => simp [contentId?, contentIdJson]
          | some m =>
              simp only [contentId?, contentIdJson, IsLong]
              grind
      | float x => cases c <;> simp [contentId?, contentIdJson]
  | _ => cases c <;> simp [contentId?, contentIdJson]

theorem fieldOr_text_eq_some {s : String} :
    fieldOr text? "" given = some s ↔ Says given (.string "") (.string s) := by
  cases given with
  | none => simp [fieldOr, eq_comm]
  | some v => simp [fieldOr, text?_eq_some]

theorem fieldOr_contentId_eq_some {c : Option Int} :
    fieldOr contentId? none given = some c ↔
      Says given .null (contentIdJson c) ∧ ∀ n ∈ c, IsLong n := by
  cases given with
  | none => cases c <;> simp [fieldOr, contentIdJson]
  | some v => simp [fieldOr, contentId?_eq_some]

theorem ofFields_eq_some : ofFields status message contentId = some r ↔
    Says status (.string "") (.string r.status) ∧ Says message (.string "") (.string r.message) ∧
      Says contentId .null (contentIdJson r.contentId) ∧ ∀ n ∈ r.contentId, IsLong n := by
  rw [← fieldOr_text_eq_some, ← fieldOr_text_eq_some, ← fieldOr_contentId_eq_some]
  unfold ofFields
  simp only [Option.bind_eq_bind, Option.bind_eq_some_iff, Option.pure_def, Option.some.injEq]
  constructor
  · rintro ⟨s, hs, m, hm, c, hc, rfl⟩
    exact ⟨hs, hm, hc⟩
  · rintro ⟨hs, hm, hc⟩
    exact ⟨_, hs, _, hm, _, hc, rfl⟩

theorem exists_says_text :
    (∃ s, Says given (.string "") (.string s)) ↔ ∀ v ∈ given, IsText v := by
  cases given with
  | none => simp
  | some v =>
      simp only [says_some, Option.mem_def, Option.some.injEq, forall_eq']
      constructor
      · rintro ⟨s, rfl⟩
        exact .string s
      · rintro ⟨s⟩
        exact ⟨s, rfl⟩

theorem exists_says_contentId :
    (∃ c, Says given .null (contentIdJson c) ∧ ∀ n ∈ c, IsLong n) ↔
      ∀ v ∈ given, IsContentId v := by
  cases given with
  | none =>
      refine iff_of_true ⟨none, says_none.mpr rfl, ?_⟩ ?_
      · nofun
      · nofun
  | some v =>
      simp only [says_some, Option.mem_def, Option.some.injEq, forall_eq']
      constructor
      · rintro ⟨c, rfl, hc⟩
        cases c with
        | none => exact .null
        | some n => exact .int (hc n rfl)
      · intro h
        cases h with
        | null => exact ⟨none, rfl, nofun⟩
        | @int n h => exact ⟨some n, rfl, by simpa using h⟩

/-- The fields are read exactly if each of them, where it is given, has a value of its type. -/
theorem isSome_ofFields : (ofFields status message contentId).isSome = true ↔
    (∀ v ∈ status, IsText v) ∧ (∀ v ∈ message, IsText v) ∧ ∀ v ∈ contentId, IsContentId v := by
  rw [Option.isSome_iff_exists, ← exists_says_text, ← exists_says_text, ← exists_says_contentId]
  simp only [ofFields_eq_some]
  constructor
  · rintro ⟨r, hstatus, hmessage, hcontentId⟩
    exact ⟨⟨_, hstatus⟩, ⟨_, hmessage⟩, _, hcontentId⟩
  · rintro ⟨⟨s, hstatus⟩, ⟨m, hmessage⟩, c, hcontentId⟩
    exact ⟨⟨s, m, c⟩, hstatus, hmessage, hcontentId⟩

/-! ## Answers -/

theorem isGivenBy_object : r.IsGivenBy (.object es) ↔ (∀ m ∈ r.members, es.get? m.1 = some m.2 ∨
    (es.get? m.1 = none ∧ m ∈ members {})) ∧ ∀ n ∈ r.contentId, IsLong n :=
  ⟨fun | .object h hid => ⟨h, hid⟩, fun h ↦ .object h.1 h.2⟩

theorem isGivenBy_array : r.IsGivenBy (.array vs) ↔ vs <+: r.members.map Prod.snd ∧
    r.members.drop vs.length = (members {}).drop vs.length ∧ ∀ n ∈ r.contentId, IsLong n :=
  ⟨fun | .array first rest hid => ⟨first, rest, hid⟩, fun h ↦ .array h.1 h.2.1 h.2.2⟩

theorem ofJson?_object_eq_some : ofJson? (.object es) = some r ↔ r.IsGivenBy (.object es) := by
  rw [ofJson?, ofFields_eq_some, isGivenBy_object]
  simp [members, Says, and_assoc]

theorem ofJson?_array_eq_some : ofJson? (.array vs) = some r ↔ r.IsGivenBy (.array vs) := by
  rw [isGivenBy_array]
  match vs with
  | [] => simp [ofJson?, ofFields_eq_some, members, and_assoc]
  | [_] => simp [ofJson?, ofFields_eq_some, members, and_assoc]
  | [_, _] => simp [ofJson?, ofFields_eq_some, members, and_assoc]
  | [_, _, _] => simp [ofJson?, ofFields_eq_some, members, and_assoc]
  | _ :: _ :: _ :: _ :: _ => simp [ofJson?, members]

theorem ofJson?_eq_some : ofJson? v = some r ↔ r.IsGivenBy v := by
  cases v with
  | object es => exact ofJson?_object_eq_some
  | array vs => exact ofJson?_array_eq_some
  | _ => exact ⟨nofun, nofun⟩

theorem isSome_ofJson? : (ofJson? v).isSome = true ↔ IsReplyShaped v := by
  cases v with
  | object es =>
      rw [ofJson?, isSome_ofFields]
      exact ⟨fun h ↦ .object h.1 h.2.1 h.2.2,
        fun | .object status message contentId => ⟨status, message, contentId⟩⟩
  | array vs =>
      rw [ofJson?]
      split
      · next hlength =>
        rw [isSome_ofFields]
        exact ⟨fun h ↦ .array hlength h.1 h.2.1 h.2.2,
          fun | .array _ status message contentId => ⟨status, message, contentId⟩⟩
      · next hlength =>
        exact ⟨nofun, fun | .array hshort _ _ _ => absurd hshort hlength⟩
  | _ => exact ⟨nofun, nofun⟩

/-- Where no key occurs twice, the view depends on the entries of the fields alone, in any
order. -/
theorem ofJson?_object_congr (hes : es.DistinctKeys)
    (h : (es.filter fun e ↦ isField e.1).Perm (fs.filter fun e ↦ isField e.1)) :
    ofJson? (.object fs) = ofJson? (.object es) := by
  have hdistinct : Entries.DistinctKeys (es.filter fun e ↦ isField e.1) :=
    hes.sublist (List.filter_sublist.map Prod.fst)
  have hget {key : String} (hkey : isField key = true) : fs.get? key = es.get? key := by
    rw [← Entries.get?_filter hkey, hdistinct.get?_of_perm h, Entries.get?_filter hkey]
  rw [ofJson?, ofJson?, hget rfl, hget rfl, hget rfl]

/-- An answer has a view exactly if it has the shape of a reply, and then the view is the reply
that the answer gives. In objects neither the order of the keys nor other keys make a
difference. -/
theorem view_of_shaped_answer :
    (∀ v : Json, (ofJson? v).isSome = true ↔ IsReplyShaped v) ∧
    (∀ (v : Json) (r : DealReply), ofJson? v = some r ↔ r.IsGivenBy v) ∧
    ∀ es fs : Entries, es.DistinctKeys →
      (es.filter fun e ↦ isField e.1).Perm (fs.filter fun e ↦ isField e.1) →
        ofJson? (.object fs) = ofJson? (.object es) :=
  ⟨fun _ ↦ isSome_ofJson?, fun _ _ ↦ ofJson?_eq_some, fun _ _ ↦ ofJson?_object_congr⟩

theorem view_of_reordered_answer :
    ofJson? (.object [("content_id", .number (.int (-1))), ("status", .string "ok"),
      ("x", .array [.null])]) = some { status := "ok", contentId := some (-1) } := by
  have hes : Entries.DistinctKeys [("status", .string "ok"), ("y", .object []),
      ("content_id", .number (.int (-1)))] := by simp [Entries.DistinctKeys]
  refine (view_of_shaped_answer.2.2 _ _ hes ?_).trans rfl
  exact .swap _ _ []

end DealReply

end DealForm
