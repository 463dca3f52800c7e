import DealForm.Proofs.Deal.FormValue
import DealForm.Settings.Reader

/-!
# Settings read back

Each field of the settings is read back by its own reader from what is written for it, and the
settings are read back field by field.
-/

namespace DealForm

open Json (ReadsBack MembersReadBack)

/-! ## Values of the fields -/

theorem LogLevel.parse_name (level : LogLevel) : parse level.name = .ok level := by
  cases level <;> rfl

theorem LogLevel.readsBack (level : LogLevel) : ReadsBack reader level.toJson level := by
  intro layout w s rest hs hrest
  have hname := Json.typed_readsBack (t := .text "a string") (v := level.toJson) trivial trivial rfl
    hs hrest
  exact bind_eq_ok.mpr ⟨(level.name, rest), hname, by simp only [parse_name]⟩

namespace Json

variable {α : Type} {item : Reader α} {a : α} {as : List α} {v : Json} {vs : List Json}

theorem readsBack_string (name text : String) :
    ReadsBack (typed (.text name)) (.string text) text :=
  typed_readsBack trivial trivial rfl

theorem readsBack_bool (b : Bool) : ReadsBack (typed .truth) (.bool b) b :=
  typed_readsBack trivial trivial rfl

theorem readsBack_listOf (h : List.Forall₂ (ReadsBack item) vs as) :
    ReadsBack (listOf item) (.array vs) as := by
  intro layout level s rest hs hrest
  obtain ⟨t, ht, hitems⟩ := items_chars h hs
  rw [listOf, ht]
  exact hitems

end Json

/-! ## Presets -/

namespace Preset

theorem readsBack (p : Preset) : ReadsBack reader p.toJson p := by
  have hname : ReadsBack (fun s ↦ member {} "name" (':' :: s)) (.string p.name)
      { name := some p.name } := by
    intro layout level s rest hs hrest
    have hread := Json.readsBack_string "a string" p.name hs hrest
    exact bind_eq_ok.mpr ⟨s, rfl, bind_eq_ok.mpr ⟨(p.name, rest), hread, rfl⟩⟩
  have hurl : ReadsBack (fun s ↦ member { name := some p.name } "url" (':' :: s)) (.string p.url)
      ⟨some p.name, some p.url⟩ := by
    intro layout level s rest hs hrest
    have hread := Json.readsBack_string "a string" p.url hs hrest
    exact bind_eq_ok.mpr ⟨s, rfl, bind_eq_ok.mpr ⟨(p.url, rest), hread, rfl⟩⟩
  intro layout level s rest hs hrest
  obtain ⟨t, ht, hread⟩ := Json.members_chars (.cons hname (.cons hurl (.nil _))) hs
  rw [reader, ht]
  exact bind_eq_ok.mpr ⟨_, mapError_eq_ok.mpr hread, rfl⟩

end Preset

/-! ## Settings -/

namespace Settings

/-- What holds of settings that were read: their metadata are well formed and stand, nested in the
settings, within the limit of depth; and the limit on a request fits 64 bits. -/
structure IsWellFormed (s : Settings) : Prop where
  metadata : s.metadata.IsWellFormed
  depth : s.metadata.toJson.depth + 1 ≤ Json.maxDepth
  requestTimeoutSecs : ∀ n, s.requestTimeoutSecs = some n → n ≤ 0xFFFFFFFFFFFFFFFF

variable {d d' : Draft} {field : Field} {key : String} {v : Json}

theorem readsBack_store {α : Type} {read : Json.Reader α} {a : α} (h : ReadsBack read v a)
    (put : α → Draft) : ReadsBack (store read put) v (put a) := by
  intro layout level s rest hs hrest
  exact bind_eq_ok.mpr ⟨(a, rest), h hs hrest, rfl⟩

theorem Field.ofKey?_key (field : Field) : ofKey? field.key = some field := by
  cases field <;> rfl

/-- A field that was not read yet is read from the member with its key. -/
theorem readsBack_member (field : Field) (hnew : d.has field = false)
    (h : ReadsBack (field.read d) v d') :
    ReadsBack (fun s ↦ member d field.key (':' :: s)) v d' := by
  intro layout level s rest hs hrest
  have hread := h hs hrest
  simp only [member, Field.ofKey?_key, hnew]
  exact bind_eq_ok.mpr ⟨s, rfl, hread⟩

theorem readsBack_downloadDir (dir : Option String) :
    ReadsBack (Json.typed (.orNull (.text "path string")))
      ((dir.map Json.string).getD .null) dir := by
  cases dir with
  | none => exact Json.typed_readsBack trivial trivial rfl
  | some dir => exact Json.typed_readsBack trivial trivial rfl

theorem readsBack_requestTimeoutSecs {timeout : Option Nat}
    (h : ∀ n, timeout = some n → n ≤ 0xFFFFFFFFFFFFFFFF) :
    ReadsBack (Json.typed (.orNull .nat64))
      ((timeout.map fun n ↦ Json.number (.int n)).getD .null) (timeout.map Int.ofNat) := by
  cases timeout with
  | none => exact Json.typed_readsBack trivial trivial rfl
  | some n =>
      have hn : (n : Int) ≤ 0xFFFFFFFFFFFFFFFF := Int.ofNat_le.mpr (h n rfl)
      refine Json.typed_readsBack trivial ⟨by omega, hn⟩ ?_
      simp [Json.ScalarType.orNull, Json.ScalarType.nat64, Json.ScalarType.integer, hn, Except.map]

/-! ## All fields -/

variable {s : Settings}

/-- What is written for a field. -/
def fieldJson (s : Settings) : Field → Json
  | .logLevel => s.logLevel.toJson
  | .jsonLogs => .bool s.jsonLogs
  | .logToFile => .bool s.logToFile
  | .baseUrl => .string s.baseUrl
  | .presets => .array (s.presets.map Preset.toJson)
  | .metadata => s.metadata.toJson
  | .downloadDir => (s.downloadDir.map Json.string).getD .null
  | .requestTimeoutSecs => (s.requestTimeoutSecs.map fun n ↦ Json.number (.int n)).getD .null

theorem toJson_eq_object (s : Settings) :
    s.toJson = .object (Field.all.map fun field ↦ (field.key, s.fieldJson field)) := rfl

def Draft.withField (s : Settings) (d : Draft) : Field → Draft
  | .logLevel => { d with logLevel := some s.logLevel }
  | .jsonLogs => { d with jsonLogs := some s.jsonLogs }
  | .logToFile => { d with logToFile := some s.logToFile }
  | .baseUrl => { d with baseUrl := some s.baseUrl }
  | .presets => { d with presets := some s.presets }
  | .metadata => { d with metadata := some s.metadata }
  | .downloadDir => { d with downloadDir := some s.downloadDir }
  | .requestTimeoutSecs => { d with requestTimeoutSecs := some s.requestTimeoutSecs }

theorem Draft.has_empty (field : Field) : ({} : Draft).has field = false := by
  cases field <;> rfl

theorem Draft.has_withField (s : Settings) (d : Draft) (field other : Field) :
    (d.withField s field).has other = (decide (field = other) || d.has other) := by
  cases field <;> cases other <;> rfl

/-- The defaults of the fields are those of the standard settings. -/
theorem Draft.complete_empty : ({} : Draft).complete = standard := rfl

theorem Draft.complete_withFields (s : Settings) :
    (Field.all.foldl (Draft.withField s) {}).complete = s := rfl

theorem IsWellFormed.readsBack_field (h : s.IsWellFormed)
    (hints : Json.EntriesHaveIntegersOnly s.metadata.extra) (d : Draft) (field : Field) :
    ReadsBack (field.read d) (s.fieldJson field) (d.withField s field) := by
  cases field with
  | logLevel => exact readsBack_store s.logLevel.readsBack fun v ↦ { d with logLevel := some v }
  | jsonLogs =>
      exact readsBack_store (Json.readsBack_bool _) fun v ↦ { d with jsonLogs := some v }
  | logToFile =>
      exact readsBack_store (Json.readsBack_bool _) fun v ↦ { d with logToFile := some v }
  | baseUrl =>
      exact readsBack_store (Json.readsBack_string _ _) fun v ↦ { d with baseUrl := some v }
  | presets =>
      have hpresets : List.Forall₂ (ReadsBack Preset.reader) (s.presets.map Preset.toJson)
          s.presets :=
        List.forall₂_map_left_iff.mpr (List.forall₂_same.mpr fun p _ ↦ p.readsBack)
      exact readsBack_store (Json.readsBack_listOf hpresets) fun v ↦ { d with presets := some v }
  | metadata =>
      have hmetadata := h.metadata.readsBack hints (Nat.le_of_succ_le_succ h.depth)
      exact readsBack_store hmetadata fun v ↦ { d with metadata := some v }
  | downloadDir =>
      exact readsBack_store (readsBack_downloadDir _) fun v ↦ { d with downloadDir := some v }
  | requestTimeoutSecs =>
      have htimeout : (s.requestTimeoutSecs.map Int.ofNat).map Int.toNat =
          s.requestTimeoutSecs := by
        cases s.requestTimeoutSecs <;> rfl
      have hread := readsBack_store (readsBack_requestTimeoutSecs h.requestTimeoutSecs)
        fun v ↦ { d with requestTimeoutSecs := some (v.map Int.toNat) }
      rwa [htimeout] at hread

theorem IsWellFormed.membersReadBack (h : s.IsWellFormed)
    (hints : Json.EntriesHaveIntegersOnly s.metadata.extra) (fields : List Field)
    (hfields : fields.Nodup) {d : Draft} (hnew : ∀ field ∈ fields, d.has field = false) :
    MembersReadBack member d (fields.map fun field ↦ (field.key, s.fieldJson field))
      (fields.foldl (Draft.withField s) d) := by
  induction fields generalizing d with
  | nil => exact .nil d
  | cons field fields ih =>
      obtain ⟨hfield, hrest⟩ := List.nodup_cons.mp hfields
      refine .cons (readsBack_member field (hnew field List.mem_cons_self)
        (h.readsBack_field hints d field)) (ih hrest fun other hother ↦ ?_)
      have hne : field ≠ other := by
        rintro rfl
        exact hfield hother
      rw [Draft.has_withField, hnew other (List.mem_cons_of_mem field hother)]
      simp [hne]

/-- Well-formed settings are read back from their text in every layout. -/
theorem IsWellFormed.readsBack (h : s.IsWellFormed)
    (hints : Json.EntriesHaveIntegersOnly s.metadata.extra) : ReadsBack reader s.toJson s := by
  intro layout level cs rest hs hrest
  have hfields := h.membersReadBack hints Field.all (by decide) fun field _ ↦ Draft.has_empty field
  obtain ⟨t, ht, hread⟩ := Json.members_chars hfields hs
  rw [reader, ht]
  refine bind_eq_ok.mpr ⟨_, mapError_eq_ok.mpr hread, ?_⟩
  dsimp only
  rw [Draft.complete_withFields]

end Settings

end DealForm
