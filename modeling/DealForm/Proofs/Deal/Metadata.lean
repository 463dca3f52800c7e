import DealForm.Deal.Metadata
import DealForm.Proofs.Json.Reading

/-!
# Metadata by their members

Reading metadata comes to the same as reading the members of any object and adding them to a draft
one by one. A named field takes the only value that comes with its key; the further fields are the
entries of the other members.
-/

namespace DealForm.Metadata

open Json (ScalarType)

variable {α : Type} {t : ScalarType α} {ms : Entries} {d d₀ : Draft} {budget : Nat}

/-- The keys of the fields that every text of metadata has, if only by default. -/
def namedKeys : List String :=
  ["deal_verify_state", "duration_in_days", "start_epoch_in_days", "auto_retry"]

/-! ## Types of named fields -/

def IsInt64 (n : Int) : Prop :=
  -0x8000000000000000 ≤ n ∧ n ≤ 0x7FFFFFFFFFFFFFFF

instance (n : Int) : Decidable (IsInt64 n) :=
  inferInstanceAs (Decidable (_ ∧ _))

theorem view_text_eq_ok {name : String} {v : Json} {s : String} :
    (ScalarType.text name).view v = .ok s ↔ v = .string s := by
  cases v <;> simp [ScalarType.text]

theorem view_int64_eq_ok {v : Json} {n : Int} :
    ScalarType.int64.view v = .ok n ↔ v = .number (.int n) ∧ IsInt64 n := by
  cases v with
  | number m =>
      cases m with
      | int k =>
          simp only [ScalarType.int64, ScalarType.integer, IsInt64]
          grind
      | float x => simp [ScalarType.int64, ScalarType.integer]
  | _ => simp [ScalarType.int64, ScalarType.integer]

theorem view_truth_eq_ok {v : Json} {b : Bool} :
    ScalarType.truth.view v = .ok b ↔ v = .bool b := by
  cases v <;> simp [ScalarType.truth]

theorem text_hasScalarsOnly (name : String) : (ScalarType.text name).HasScalarsOnly := by
  intro v s h
  cases view_text_eq_ok.mp h
  trivial

theorem int64_hasScalarsOnly : ScalarType.int64.HasScalarsOnly := by
  intro v n h
  cases (view_int64_eq_ok.mp h).1
  trivial

theorem truth_hasScalarsOnly : ScalarType.truth.HasScalarsOnly := by
  intro v b h
  cases view_truth_eq_ok.mp h
  trivial

/-! ## Adding members -/

/-- The value of a named field, which must not have one yet. -/
def take (t : ScalarType α) (old : Option α) (v : Json) : Option α :=
  match old with
  | some _ => none
  | none => (t.view v).toOption

/-- The field after all values that come with its key. -/
def takeAll (t : ScalarType α) (old : Option α) (vs : List Json) : Option (Option α) :=
  vs.foldlM (fun old v ↦ (take t old v).map some) old

def Draft.add (d : Draft) (m : String × Json) : Option Draft :=
  if m.1 = "deal_verify_state" then
    (take (.text "a string") d.dealVerifyState m.2).map fun v ↦ { d with dealVerifyState := some v }
  else if m.1 = "duration_in_days" then
    (take .int64 d.durationInDays m.2).map fun v ↦ { d with durationInDays := some v }
  else if m.1 = "start_epoch_in_days" then
    (take .int64 d.startEpochInDays m.2).map fun v ↦ { d with startEpochInDays := some v }
  else if m.1 = "auto_retry" then
    (take .truth d.autoRetry m.2).map fun v ↦ { d with autoRetry := some v }
  else some { d with extra := Entries.insert m.1 m.2 d.extra }

theorem readOnce_eq_ok (ht : t.HasScalarsOnly) {field : String} {old : Option α} {a : α}
    {s rest : List Char} : readOnce field old t s = .ok (a, rest) ↔
      ∃ u v, Json.colon s = .ok u ∧ Json.value budget u = .ok (v, rest) ∧
        take t old v = some a := by
  have htyped (u : List Char) : Json.typed t u = .ok (a, rest) ↔
      ∃ v, Json.value budget u = .ok (v, rest) ∧ t.view v = .ok a := ht.typed_eq_ok budget
  have hview (v : Json) : (t.view v).toOption = some a ↔ t.view v = .ok a := by
    cases t.view v <;> simp [Except.toOption]
  unfold readOnce take
  cases old with
  | some b => simp
  | none =>
      simp only [bind_eq_ok, htyped, hview]
      grind

theorem put_eq_ok {read : Json.Reader α} {f : Json → Option α} {s rest : List Char}
    (hread : ∀ a rest, read s = .ok (a, rest) ↔
      ∃ u v, Json.colon s = .ok u ∧ Json.value budget u = .ok (v, rest) ∧ f v = some a)
    (put : α → Draft) :
    (do let (a, rest) ← read s; .ok (put a, rest)) = Except.ok (d, rest) ↔
      ∃ u v, Json.colon s = .ok u ∧ Json.value budget u = .ok (v, rest) ∧
        (f v).map put = some d := by
  simp only [bind_eq_ok, Option.map_eq_some_iff]
  constructor
  · rintro ⟨⟨a, rest⟩, ha, heq⟩
    cases heq
    obtain ⟨u, v, hcolon, hvalue, hf⟩ := (hread a rest).mp ha
    exact ⟨u, v, hcolon, hvalue, a, hf, rfl⟩
  · rintro ⟨u, v, hcolon, hvalue, a, hf, rfl⟩
    exact ⟨(a, rest), (hread a rest).mpr ⟨u, v, hcolon, hvalue, hf⟩, rfl⟩

theorem addsMembers_member (budget : Nat) :
    Json.AddsMembers (Json.value budget) (member budget) Draft.add := by
  intro d key s d' rest
  unfold member Draft.add
  split
  · exact put_eq_ok (fun _ _ ↦ readOnce_eq_ok (text_hasScalarsOnly _))
      fun v ↦ { d with dealVerifyState := some v }
  split
  · exact put_eq_ok (fun _ _ ↦ readOnce_eq_ok int64_hasScalarsOnly)
      fun v ↦ { d with durationInDays := some v }
  split
  · exact put_eq_ok (fun _ _ ↦ readOnce_eq_ok int64_hasScalarsOnly)
      fun v ↦ { d with startEpochInDays := some v }
  split
  · exact put_eq_ok (fun _ _ ↦ readOnce_eq_ok truth_hasScalarsOnly)
      fun v ↦ { d with autoRetry := some v }
  · exact put_eq_ok (Json.addsMembers_anyMember (Json.value budget) d.extra key s)
      fun es ↦ { d with extra := es }

theorem reader_eq_ok_members {m : Metadata} {s rest : List Char} :
    reader budget s = .ok (m, rest) ↔ ∃ u d, Json.skipBlanks s = '{' :: u ∧
      Json.members (member budget) {} u = .ok (d, rest) ∧ d.complete = m := by
  have hrefuse := Json.refuse_ne_ok (α := Metadata) "struct DealMetadata"
  unfold reader
  split
  · simp only [bind_eq_ok, Json.objectMembers, mapError_eq_ok, Prod.exists]
    grind
  · grind
  · grind

theorem reader_eq_ok {m : Metadata} {s rest : List Char} : reader budget s = .ok (m, rest) ↔
    ∃ ms, Json.writtenMembers budget s = .ok (ms, rest) ∧
      ∃ d, ms.foldlM Draft.add {} = some d ∧ d.complete = m := by
  simp only [reader_eq_ok_members, (addsMembers_member budget).members_eq_ok,
    Json.writtenMembers_eq_ok]
  grind

/-! ## Named fields -/

theorem takeAll_cons (t : ScalarType α) (old : Option α) (v : Json) (vs : List Json) :
    takeAll t old (v :: vs) = (take t old v).bind fun a ↦ takeAll t (some a) vs := by
  unfold takeAll
  rw [List.foldlM_cons]
  cases take t old v <;> rfl

theorem takeAll_none (t : ScalarType α) {vs : List Json} {new : Option α} :
    takeAll t none vs = some new ↔
      vs = [] ∧ new = none ∨ ∃ v a, vs = [v] ∧ t.view v = .ok a ∧ new = some a := by
  cases vs with
  | nil =>
      change some none = some new ↔ _
      grind
  | cons v vs =>
      rw [takeAll_cons, take]
      cases hview : t.view v with
      | error e => simp [Except.toOption, hview]
      | ok a =>
          cases vs with
          | nil =>
              change some (some a) = some new ↔ _
              grind
          | cons w vs =>
              change (takeAll t (some a) (w :: vs)) = some new ↔ _
              rw [takeAll_cons, take]
              simp

@[mk_iff]
structure Collects (d₀ : Draft) (ms : Entries) (d : Draft) : Prop where
  dealVerifyState : takeAll (.text "a string") d₀.dealVerifyState
    (ms.valuesOf "deal_verify_state") = some d.dealVerifyState
  durationInDays : takeAll .int64 d₀.durationInDays
    (ms.valuesOf "duration_in_days") = some d.durationInDays
  startEpochInDays : takeAll .int64 d₀.startEpochInDays
    (ms.valuesOf "start_epoch_in_days") = some d.startEpochInDays
  autoRetry : takeAll .truth d₀.autoRetry (ms.valuesOf "auto_retry") = some d.autoRetry
  extra : (ms.filter fun m ↦ m.1 ∉ namedKeys).foldl (fun es m ↦ es.insert m.1 m.2) d₀.extra =
    d.extra

theorem collects_cons (m : String × Json) :
    Collects d₀ (m :: ms) d ↔ ∃ mid, d₀.add m = some mid ∧ Collects mid ms d := by
  obtain ⟨key, v⟩ := m
  simp only [collects_iff, Entries.valuesOf_cons, Draft.add, namedKeys, List.filter_cons]
  split
  · next h =>
    subst h
    cases htake : take (.text "a string") d₀.dealVerifyState v <;> simp [takeAll_cons, htake]
  split
  · next h =>
    subst h
    cases htake : take .int64 d₀.durationInDays v <;> simp [takeAll_cons, htake]
  split
  · next h =>
    subst h
    cases htake : take .int64 d₀.startEpochInDays v <;> simp [takeAll_cons, htake]
  split
  · next h =>
    subst h
    cases htake : take .truth d₀.autoRetry v <;> simp [takeAll_cons, htake]
  · simp_all

theorem foldlM_add_eq_some : ms.foldlM Draft.add d₀ = some d ↔ Collects d₀ ms d := by
  induction ms generalizing d₀ with
  | nil =>
      obtain ⟨state, days, epoch, retry, es⟩ := d
      obtain ⟨state₀, days₀, epoch₀, retry₀, es₀⟩ := d₀
      simp [collects_iff, takeAll]
  | cons m ms ih => simp [collects_cons, ← ih, Option.bind_eq_some_iff]

/-! ## What a text gives -/

/-- The entries give a field the value, or have no such key and the field has its default. -/
def IsGiven (es : Entries) (key : String) (ofValue : α → Json) (default a : α) : Prop :=
  es.get? key = some (ofValue a) ∨ es.get? key = none ∧ a = default

/-- The metadata that a text with these members denotes. -/
structure IsReadFrom (ms : Entries) (m : Metadata) : Prop where
  /-- No named field is given twice. -/
  once : ∀ key ∈ namedKeys, (ms.map Prod.fst).count key ≤ 1
  dealVerifyState :
    IsGiven (.ofMembers ms) "deal_verify_state" .string "verified" m.dealVerifyState
  durationInDays :
    IsGiven (.ofMembers ms) "duration_in_days" (.number ∘ .int) 521 m.durationInDays
  startEpochInDays :
    IsGiven (.ofMembers ms) "start_epoch_in_days" (.number ∘ .int) 1 m.startEpochInDays
  autoRetry : IsGiven (.ofMembers ms) "auto_retry" .bool true m.autoRetry
  isInt64_durationInDays : IsInt64 m.durationInDays
  isInt64_startEpochInDays : IsInt64 m.startEpochInDays
  extra : m.extra = (Entries.ofMembers ms).filter fun e ↦ e.1 ∉ namedKeys

theorem exists_takeAll_iff {ofValue : α → Json} {P : α → Prop} (key : String) (default : α)
    (hview : ∀ v a, t.view v = .ok a ↔ v = ofValue a ∧ P a) (hdefault : P default)
    (ms : Entries) (a : α) :
    (∃ o, takeAll t none (ms.valuesOf key) = some o ∧ o.getD default = a) ↔
      (ms.map Prod.fst).count key ≤ 1 ∧ IsGiven (.ofMembers ms) key ofValue default a ∧ P a := by
  rw [← Entries.length_valuesOf]
  unfold IsGiven
  rw [Entries.get?_ofMembers]
  simp only [takeAll_none]
  rcases ms.valuesOf key with _ | ⟨v, _ | ⟨w, vs⟩⟩
  · simp
    grind
  · simp [hview]
  · simp

theorem exists_collects_iff {m : Metadata} :
    (∃ d, Collects {} ms d ∧ d.complete = m) ↔ IsReadFrom ms m := by
  have hstate := exists_takeAll_iff (t := .text "a string") (P := fun _ ↦ True)
    "deal_verify_state" "verified"
    (fun _ _ ↦ view_text_eq_ok.trans (iff_of_eq (and_true _)).symm) trivial ms
  have hduration := exists_takeAll_iff "duration_in_days" 521 (fun _ _ ↦ view_int64_eq_ok)
    (by decide) ms
  have hepoch := exists_takeAll_iff "start_epoch_in_days" 1 (fun _ _ ↦ view_int64_eq_ok)
    (by decide) ms
  have hretry := exists_takeAll_iff "auto_retry" true (P := fun _ ↦ True)
    (fun _ _ ↦ view_truth_eq_ok.trans (iff_of_eq (and_true _)).symm) trivial ms
  have hextra := Entries.ofMembers_filter (fun key ↦ key ∉ namedKeys) ms
  constructor
  · rintro ⟨d, hd, rfl⟩
    have hstate := (hstate _).mp ⟨_, hd.dealVerifyState, rfl⟩
    have hduration := (hduration _).mp ⟨_, hd.durationInDays, rfl⟩
    have hepoch := (hepoch _).mp ⟨_, hd.startEpochInDays, rfl⟩
    have hretry := (hretry _).mp ⟨_, hd.autoRetry, rfl⟩
    exact {
      once := by simp [namedKeys, hstate.1, hduration.1, hepoch.1, hretry.1]
      dealVerifyState := hstate.2.1
      durationInDays := hduration.2.1
      startEpochInDays := hepoch.2.1
      autoRetry := hretry.2.1
      isInt64_durationInDays := hduration.2.2
      isInt64_startEpochInDays := hepoch.2.2
      extra := hd.extra.symm.trans hextra }
  · intro h
    have honce := h.once
    simp only [namedKeys, List.forall_mem_cons] at honce
    obtain ⟨state, hstate, hstate'⟩ := (hstate _).mpr ⟨honce.1, h.dealVerifyState, trivial⟩
    obtain ⟨duration, hduration, hduration'⟩ :=
      (hduration _).mpr ⟨honce.2.1, h.durationInDays, h.isInt64_durationInDays⟩
    obtain ⟨epoch, hepoch, hepoch'⟩ :=
      (hepoch _).mpr ⟨honce.2.2.1, h.startEpochInDays, h.isInt64_startEpochInDays⟩
    obtain ⟨retry, hretry, hretry'⟩ := (hretry _).mpr ⟨honce.2.2.2.1, h.autoRetry, trivial⟩
    refine ⟨⟨state, duration, epoch, retry, m.extra⟩,
      ⟨hstate, hduration, hepoch, hretry, hextra.trans h.extra.symm⟩, ?_⟩
    obtain ⟨_, _, _, _, _⟩ := m
    exact Metadata.mk.injEq .. |>.mpr ⟨hstate', hduration', hepoch', hretry', rfl⟩

theorem reader_eq_ok_isReadFrom {m : Metadata} {s rest : List Char} :
    reader budget s = .ok (m, rest) ↔
      ∃ ms, Json.writtenMembers budget s = .ok (ms, rest) ∧ IsReadFrom ms m := by
  simp only [reader_eq_ok, foldlM_add_eq_some, exists_collects_iff]

theorem parse_eq_ok {raw : String} {m : Metadata} :
    parse raw = .ok m ↔ ∃ ms, Json.membersOf raw = .ok ms ∧ IsReadFrom ms m := by
  simp only [parse, Json.membersOf, Json.decode_eq_ok, reader_eq_ok_isReadFrom]
  grind

end DealForm.Metadata
