import DealForm.Log.Level
import DealForm.Proofs.Deal.Metadata
import DealForm.Proofs.Text.Lowercase
import DealForm.Status
import Mathlib.Data.List.Nodup

/-!
# Names in letters of either case

Kinds of status lookups and log levels are read by name. A name is known by its letters whatever
their case in ASCII; no character outside ASCII is taken for one of them, even where its small form
is. What is not known is quoted as it was written.
-/

namespace DealForm

open Text (IsKeyword SameUpToAsciiCase)

/-! ## Tables of names -/

section Tables

variable {α ε : Type} {a : α} {u : ε} {table : List (String × α)} {entry : String × α}
  {unknown : String → ε} {text n : String}

/-- What a table of names makes of a text. -/
def readName (table : List (String × α)) (unknown : String → ε) (text : String) : Except ε α :=
  match table.find? fun entry ↦ entry.1 == Text.lowercase text with
  | some entry => .ok entry.2
  | none => .error (unknown text)

/-- The names are keywords, and each stands for one thing. -/
structure IsTable (table : List (String × α)) : Prop where
  keyword : ∀ entry ∈ table, IsKeyword entry.1
  nodup : (table.map Prod.fst).Nodup

/-- A reading of names: exactly these are accepted, up to the case of letters of ASCII, and nothing
with a character outside of it. All that is read has a name that is read as the same again, and a
refusal quotes the text as it was written. -/
structure ReadsNames (parse : String → Except ε α) (table : List (String × α))
    (name : α → String) (message : ε → String) (refusal : String → String) : Prop where
  accepts : ∀ text a, parse text = .ok a ↔ ∃ n, (n, a) ∈ table ∧ SameUpToAsciiCase text n
  ascii : ∀ text a, parse text = .ok a → ∀ c ∈ text.toList, c.toNat < 0x80
  canonical : ∀ a, parse (name a) = .ok a
  quotes : ∀ text u, parse text = .error u → message u = refusal text

theorem IsTable.find?_eq_some_iff (h : IsTable table) :
    (table.find? fun entry ↦ entry.1 == n) = some entry ↔ entry ∈ table ∧ entry.1 = n := by
  constructor
  · intro hfind
    have hfound := List.find?_some hfind
    exact ⟨List.mem_of_find?_eq_some hfind, beq_iff_eq.mp hfound⟩
  · rintro ⟨hmem, rfl⟩
    cases hfind : table.find? fun other ↦ other.1 == entry.1 with
    | none => exact absurd (beq_self_eq_true entry.1) (List.find?_eq_none.mp hfind entry hmem)
    | some other =>
        have hfound := List.find?_some hfind
        have hname : other.1 = entry.1 := beq_iff_eq.mp hfound
        have hother := List.mem_of_find?_eq_some hfind
        rw [List.inj_on_of_nodup_map h.nodup hother hmem hname]

theorem readName_eq_ok_iff_find? : readName table unknown text = .ok a ↔
    ∃ entry, (table.find? fun entry ↦ entry.1 == Text.lowercase text) = some entry ∧
      entry.2 = a := by
  unfold readName
  cases table.find? fun entry ↦ entry.1 == Text.lowercase text <;> simp

theorem IsTable.readName_eq_ok (h : IsTable table) : readName table unknown text = .ok a ↔
    ∃ n, (n, a) ∈ table ∧ SameUpToAsciiCase text n := by
  rw [readName_eq_ok_iff_find?]
  constructor
  · rintro ⟨⟨n, a⟩, hfind, rfl⟩
    obtain ⟨hmem, hname⟩ := h.find?_eq_some_iff.mp hfind
    exact ⟨n, hmem, (Text.lowercase_eq_iff (h.keyword _ hmem)).mp hname.symm⟩
  · rintro ⟨n, hmem, hsame⟩
    have hname := (Text.lowercase_eq_iff (h.keyword _ hmem)).mpr hsame
    exact ⟨(n, a), h.find?_eq_some_iff.mpr ⟨hmem, hname.symm⟩, rfl⟩

theorem eq_of_readName_eq_error (h : readName table unknown text = .error u) :
    u = unknown text := by
  unfold readName at h
  split at h
  · cases h
  · cases h
    rfl

theorem IsTable.readsNames (h : IsTable table) {name : α → String} {message : ε → String}
    {refusal : String → String} (hname : ∀ a, (name a, a) ∈ table)
    (hmessage : ∀ text, message (unknown text) = refusal text) :
    ReadsNames (readName table unknown) table name message refusal where
  accepts text a := h.readName_eq_ok
  ascii text a hread := by
    obtain ⟨n, hmem, hsame⟩ := h.readName_eq_ok.mp hread
    exact hsame.toNat_lt (h.keyword _ hmem)
  canonical a := h.readName_eq_ok.mpr ⟨name a, hname a, Text.SameUpToAsciiCase.refl _⟩
  quotes text u hread := by
    rw [eq_of_readName_eq_error hread, hmessage]

end Tables

/-! ## Kinds -/

namespace StatusKind

def names : List (String × StatusKind) :=
  all.map fun kind ↦ (kind.name, kind)

theorem parse_eq_readName : parse = readName names Unknown.mk := by
  funext text
  rw [parse, readName, names, List.find?_map, Function.comp_def]
  cases all.find? fun kind ↦ kind.name == Text.lowercase text <;> rfl

theorem isTable_names : IsTable names where
  keyword := by decide
  nodup := by decide

theorem mem_names (kind : StatusKind) : (kind.name, kind) ∈ names := by
  cases kind <;> decide

theorem Unknown.message_eq (u : Unknown) : u.message =
    "Invalid status kind: " ++ u.text ++ " (expected one of " ++
      "content, deal-by-cid, deal-by-uuid, deal-by-deal-id, miner, batch-import" ++ ")" := by
  have hnames : ", ".intercalate (all.map name) =
      "content, deal-by-cid, deal-by-uuid, deal-by-deal-id, miner, batch-import" := by decide +kernel
  exact congrArg
    (fun known ↦ "Invalid status kind: " ++ u.text ++ " (expected one of " ++ known ++ ")") hnames

end StatusKind

/-! ## Levels -/

theorem Json.locate_refusal (message : String) (rest source : List Char) :
    (refusal message rest).locate source = (refusal message []).locate source := by
  unfold refusal
  split
  · rfl
  · split <;> rfl

namespace LogLevel

variable {level : LogLevel} {u : Unknown} {doc text : String} {s rest : List Char}

theorem parse_eq_readName : parse = readName names Unknown.mk := by
  funext text
  rw [parse, readName]
  cases names.find? fun entry ↦ entry.1 == Text.lowercase text <;> rfl

theorem isTable_names : IsTable names where
  keyword := by decide
  nodup := by decide

theorem mem_names (level : LogLevel) : (level.name, level) ∈ names := by
  cases level <;> decide

theorem reader_eq_ok (budget : Nat) : reader s = .ok (level, rest) ↔
    ∃ text, Json.value budget s = .ok (.string text, rest) ∧ parse text = .ok level := by
  simp only [reader, bind_eq_ok, Prod.exists,
    (Metadata.text_hasScalarsOnly "a string").typed_eq_ok budget, Metadata.view_text_eq_ok]
  constructor
  · rintro ⟨text, r, ⟨v, hvalue, rfl⟩, hread⟩
    cases hparse : parse text with
    | ok read =>
        rw [hparse] at hread
        cases hread
        exact ⟨text, hvalue, hparse⟩
    | error u =>
        rw [hparse] at hread
        cases hread
  · rintro ⟨text, hvalue, hparse⟩
    exact ⟨text, rest, ⟨_, hvalue, rfl⟩, by rw [hparse]⟩

/-- Levels are written as strings, and what these hold is read by name. -/
theorem decode_eq_ok : Json.decode reader doc = .ok level ↔
    ∃ text, Json.parse doc = .ok (.string text) ∧ parse text = .ok level := by
  simp only [Json.parse, Json.decode_eq_ok, reader_eq_ok Json.maxDepth]
  grind

/-- A refused level is reported in the words of its refusal. -/
theorem decode_eq_error (hdoc : Json.parse doc = .ok (.string text))
    (hrefused : parse text = .error u) :
    Json.decode reader doc = .error ((Json.refusal u.message []).locate doc.toList) := by
  obtain ⟨rest, hvalue, -⟩ := Json.decode_eq_ok.mp hdoc
  have htyped : Json.typed (.text "a string") doc.toList = .ok (text, rest) :=
    ((Metadata.text_hasScalarsOnly "a string").typed_eq_ok Json.maxDepth).mpr ⟨_, hvalue, rfl⟩
  have hreader : reader doc.toList = .error (Json.refusal u.message rest) := by
    simp only [reader, htyped, bind, Except.bind, hrefused]
  rw [← Json.locate_refusal u.message rest]
  simp only [Json.decode, Json.document, hreader, bind, Except.bind, Except.mapError]

theorem compact_toJson (level : LogLevel) : level.toJson.compact = "\"" ++ level.name ++ "\"" := by
  cases level <;> decide

end LogLevel

/-- Status kinds and log levels are known by their names up to the case of letters of ASCII, and
not by anything with a character outside of it. A level that is read from a JSON string is what
the string names, and it is written as its own name; a string that names none is reported in the
words of its refusal. -/
theorem names_known_up_to_ascii_case :
    ReadsNames StatusKind.parse
      [("content", .content), ("deal-by-cid", .dealByCid), ("deal-by-uuid", .dealByUuid),
        ("deal-by-deal-id", .dealByDealId), ("miner", .miner), ("batch-import", .batchImport)]
      StatusKind.name StatusKind.Unknown.message
      (fun text ↦ "Invalid status kind: " ++ text ++ " (expected one of " ++
        "content, deal-by-cid, deal-by-uuid, deal-by-deal-id, miner, batch-import" ++ ")") ∧
    ReadsNames LogLevel.parse
      [("trace", .trace), ("debug", .debug), ("info", .info), ("warn", .warn), ("warning", .warn),
        ("error", .error)]
      LogLevel.name LogLevel.Unknown.message (fun text ↦ "Invalid log level: " ++ text) ∧
    (∀ doc level, Json.decode LogLevel.reader doc = .ok level ↔
      ∃ text, Json.parse doc = .ok (.string text) ∧ LogLevel.parse text = .ok level) ∧
    (∀ doc text u, Json.parse doc = .ok (.string text) → LogLevel.parse text = .error u →
      Json.decode LogLevel.reader doc =
        .error ((Json.refusal ("Invalid log level: " ++ text) []).locate doc.toList)) ∧
    ∀ level : LogLevel, level.toJson.compact = "\"" ++ level.name ++ "\"" := by
  have hlevels : ReadsNames LogLevel.parse LogLevel.names LogLevel.name LogLevel.Unknown.message
      (fun text ↦ "Invalid log level: " ++ text) := by
    rw [LogLevel.parse_eq_readName]
    exact LogLevel.isTable_names.readsNames LogLevel.mem_names fun _ ↦ rfl
  refine ⟨?_, hlevels, fun _ _ ↦ LogLevel.decode_eq_ok, ?_, LogLevel.compact_toJson⟩
  · rw [StatusKind.parse_eq_readName]
    exact StatusKind.isTable_names.readsNames StatusKind.mem_names
      fun text ↦ StatusKind.Unknown.message_eq ⟨text⟩
  · intro doc text u hdoc hrefused
    rw [← hlevels.quotes text u hrefused]
    exact LogLevel.decode_eq_error hdoc hrefused

/-- Case is ignored, also in a JSON string with an escape, but neither the dotted capital I nor a
sigma at the end is in a name. -/
theorem names_known_in_mixed_case :
    LogLevel.parse "wArNiNg" = .ok .warn ∧
      (∀ kind, StatusKind.parse "MİNER" ≠ .ok kind) ∧
      Json.decode LogLevel.reader " \"\\u0057arN\" " = .ok .warn ∧
      Json.decode LogLevel.reader "\"DEBUGΣ\"" =
        .error ⟨.mismatch (.refused "Invalid log level: DEBUGΣ"), none⟩ := by
  obtain ⟨hkinds, hlevels, hread, hreport, -⟩ := names_known_up_to_ascii_case
  refine ⟨?_, fun kind hkind ↦ ?_, ?_, ?_⟩
  · exact (hlevels.accepts _ _).mpr ⟨"warning", by decide, by decide⟩
  · exact absurd (hkinds.ascii _ kind hkind 'İ' (by decide)) (by decide)
  · have hwarn : LogLevel.parse "WarN" = .ok .warn :=
      (hlevels.accepts _ _).mpr ⟨"warn", by decide, by decide⟩
    exact (hread _ _).mpr ⟨"WarN", rfl, hwarn⟩
  · cases hparse : LogLevel.parse "DEBUGΣ" with
    | ok level => exact absurd (hlevels.ascii _ level hparse 'Σ' (by decide)) (by decide)
    | error u => exact hreport _ "DEBUGΣ" u rfl hparse

end DealForm
