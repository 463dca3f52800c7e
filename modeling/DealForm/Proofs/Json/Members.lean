import DealForm.Proofs.Json.Entries
import DealForm.Proofs.Json.Loops

/-!
# The members of an object as they are written

A reader of members may keep them, or make something of each at once. Where what it makes of a
member depends on the key and the value only, reading the members and adding them up comes to the
same as keeping them first.
-/

namespace DealForm.Json

variable {σ : Type} {read : Reader Json} {member : σ → String → Reader σ}
  {add : σ → String × Json → Option σ} {turns : Nat} {st st' : σ} {pre ms all : Entries}
  {s rest : List Char}

/-- A member of an object, kept even if its key came before. -/
def keptMember (value : Reader Json) (ms : Entries) (key : String) : Reader Entries := fun s ↦ do
  let rest ← colon s
  let (v, rest) ← value rest
  .ok (ms ++ [(key, v)], rest)

/-- What follows a key is a value, which is added to the state together with the key. -/
def AddsMembers (value : Reader Json) (member : σ → String → Reader σ)
    (add : σ → String × Json → Option σ) : Prop :=
  ∀ st key s st' rest, member st key s = .ok (st', rest) ↔
    ∃ t v, colon s = .ok t ∧ value t = .ok (v, rest) ∧ add st (key, v) = some st'

theorem addsMembers_keptMember (value : Reader Json) :
    AddsMembers value (keptMember value) fun ms m ↦ some (ms ++ [m]) := by
  intro ms key s ms' rest
  simp only [keptMember, bind_eq_ok]
  grind

theorem addsMembers_anyMember (value : Reader Json) :
    AddsMembers value (anyMember value) fun es m ↦ some (Entries.insert m.1 m.2 es) := by
  intro es key s es' rest
  simp only [anyMember, bind_eq_ok]
  grind

theorem foldlM_append_singleton (ms pre : Entries) :
    ms.foldlM (fun ms m ↦ some (ms ++ [m])) pre = some (pre ++ ms) := by
  induction ms generalizing pre with
  | nil => simp
  | cons m ms ih => simp [ih]

theorem AddsMembers.readsMember_kept (h : AddsMembers read member add)
    (hmember : ReadsMember member st s st' rest) (pre : Entries) :
    ∃ m, ReadsMember (keptMember read) pre s (pre ++ [m]) rest ∧ add st m = some st' := by
  obtain ⟨t, key, u, hquote, hkey, hread⟩ := hmember
  obtain ⟨w, v, hcolon, hvalue, hadd⟩ := (h st key u st' rest).mp hread
  exact ⟨(key, v), ⟨t, key, u, hquote, hkey,
    (addsMembers_keptMember read pre key u _ rest).mpr ⟨w, v, hcolon, hvalue, rfl⟩⟩, hadd⟩

theorem AddsMembers.readsMember_of_kept (h : AddsMembers read member add)
    (hkept : ReadsMember (keptMember read) pre s all rest) :
    ∃ m, all = pre ++ [m] ∧ ∀ st st', add st m = some st' → ReadsMember member st s st' rest := by
  obtain ⟨t, key, u, hquote, hkey, hread⟩ := hkept
  obtain ⟨w, v, hcolon, hvalue, hall⟩ :=
    (addsMembers_keptMember read pre key u all rest).mp hread
  exact ⟨(key, v), (Option.some.inj hall).symm, fun st st' hadd ↦
    ⟨t, key, u, hquote, hkey, (h st key u st' rest).mpr ⟨w, v, hcolon, hvalue, hadd⟩⟩⟩

theorem AddsMembers.membersAfter_kept (h : AddsMembers read member add)
    (hread : membersAfter member turns st s = .ok (st', rest)) (pre : Entries) :
    ∃ ms, membersAfter (keptMember read) turns pre s = .ok (pre ++ ms, rest) ∧
      ms.foldlM add st = some st' := by
  induction turns generalizing st s pre with
  | zero => cases hread
  | succ turns ih =>
      rcases membersAfter_eq_ok.mp hread with ⟨rfl, hclose⟩ | ⟨t, mid, u, hcomma, hmember, hafter⟩
      · exact ⟨[], membersAfter_eq_ok.mpr (Or.inl ⟨List.append_nil pre, hclose⟩), rfl⟩
      · obtain ⟨m, hkept, hadd⟩ := h.readsMember_kept hmember pre
        obtain ⟨ms, hms, hfold⟩ := ih hafter (pre ++ [m])
        rw [List.append_assoc] at hms
        refine ⟨m :: ms, membersAfter_eq_ok.mpr (Or.inr ⟨t, _, u, hcomma, hkept, hms⟩), ?_⟩
        simp [hadd, hfold]

theorem membersAfter_kept_extends
    (h : membersAfter (keptMember read) turns pre s = .ok (all, rest)) : ∃ ms, all = pre ++ ms := by
  obtain ⟨ms, -, hfold⟩ := (addsMembers_keptMember read).membersAfter_kept h pre
  rw [foldlM_append_singleton] at hfold
  exact ⟨ms, (Option.some.inj hfold).symm⟩

theorem AddsMembers.membersAfter_of_kept (h : AddsMembers read member add)
    (hkept : membersAfter (keptMember read) turns pre s = .ok (pre ++ ms, rest))
    (hfold : ms.foldlM add st = some st') :
    membersAfter member turns st s = .ok (st', rest) := by
  induction turns generalizing st s pre ms with
  | zero => cases hkept
  | succ turns ih =>
      rcases membersAfter_eq_ok.mp hkept with ⟨hnil, hclose⟩ | ⟨t, mid, u, hcomma, hmember, hafter⟩
      · cases List.append_right_eq_self.mp hnil
        cases hfold
        exact membersAfter_eq_ok.mpr (Or.inl ⟨rfl, hclose⟩)
      · obtain ⟨m, rfl, hread⟩ := h.readsMember_of_kept hmember
        -- The loop only adds to what was kept, so the member just read is the first of `ms`.
        obtain ⟨ms', hms⟩ := membersAfter_kept_extends hafter
        rw [List.append_assoc, List.append_cancel_left_eq] at hms
        subst hms
        simp only [List.singleton_append, List.foldlM_cons, Option.bind_eq_bind,
          Option.bind_eq_some_iff] at hfold
        obtain ⟨mid, hadd, hfold⟩ := hfold
        rw [← List.append_assoc] at hafter
        exact membersAfter_eq_ok.mpr
          (Or.inr ⟨t, mid, u, hcomma, hread st mid hadd, ih hafter hfold⟩)

/-- Members are read exactly if they can be kept and then added up. -/
theorem AddsMembers.members_eq_ok (h : AddsMembers read member add) :
    members member st s = .ok (st', rest) ↔
      ∃ ms, members (keptMember read) [] s = .ok (ms, rest) ∧ ms.foldlM add st = some st' := by
  constructor
  · intro hread
    rcases Json.members_eq_ok.mp hread with ⟨rfl, hclose⟩ | ⟨mid, u, hmember, hafter⟩
    · exact ⟨[], Json.members_eq_ok.mpr (Or.inl ⟨rfl, hclose⟩), rfl⟩
    · obtain ⟨m, hkept, hadd⟩ := h.readsMember_kept hmember []
      obtain ⟨ms, hms, hfold⟩ := h.membersAfter_kept hafter [m]
      refine ⟨m :: ms, Json.members_eq_ok.mpr (Or.inr ⟨[m], u, hkept, hms⟩), ?_⟩
      simp [hadd, hfold]
  · rintro ⟨ms, hkept, hfold⟩
    rcases Json.members_eq_ok.mp hkept with ⟨rfl, hclose⟩ | ⟨mid, u, hmember, hafter⟩
    · cases hfold
      exact Json.members_eq_ok.mpr (Or.inl ⟨rfl, hclose⟩)
    · obtain ⟨m, rfl, hread⟩ := h.readsMember_of_kept hmember
      obtain ⟨ms', rfl⟩ := membersAfter_kept_extends hafter
      simp only [List.nil_append, List.singleton_append, List.foldlM_cons, Option.bind_eq_bind,
        Option.bind_eq_some_iff] at hfold
      obtain ⟨mid, hadd, hfold⟩ := hfold
      exact Json.members_eq_ok.mpr
        (Or.inr ⟨mid, u, hread st mid hadd, h.membersAfter_of_kept hafter hfold⟩)

/-- The entries that any members leave are those of the members kept. -/
theorem members_anyMember_eq_ok {es : Entries} :
    members (anyMember read) [] s = .ok (es, rest) ↔
      ∃ ms, members (keptMember read) [] s = .ok (ms, rest) ∧ Entries.ofMembers ms = es := by
  have hfold (ms : Entries) : ms.foldlM (fun es m ↦ some (Entries.insert m.1 m.2 es)) [] =
      some (Entries.ofMembers ms) := List.foldlM_pure
  simp only [(addsMembers_anyMember read).members_eq_ok, hfold, Option.some.injEq]

end DealForm.Json
