import DealForm.Proofs.File.Writing
import DealForm.Proofs.Settings.Codec
import DealForm.Settings.Store

/-!
# Settings that were written are loaded

Settings that were read from any text are well formed, so that the file they are written to gives
them back.
-/

namespace DealForm.Settings

variable {d d' : Draft} {field : Field} {settings : Settings} {s rest : List Char}

/-- What has been read keeps to what well-formed settings ask for. -/
structure Draft.IsSound (d : Draft) : Prop where
  metadata : ∀ m, d.metadata = some m → m.IsWellFormed ∧ m.toJson.depth + 1 ≤ Json.maxDepth
  requestTimeoutSecs : ∀ n, d.requestTimeoutSecs = some (some n) → n ≤ 0xFFFFFFFFFFFFFFFF

theorem Draft.isSound_empty : ({} : Draft).IsSound := ⟨nofun, nofun⟩

theorem standard_metadata_isWellFormed : standard.metadata.IsWellFormed where
  durationInDays := by decide
  startEpochInDays := by decide
  extra := ⟨List.nodup_nil, trivial⟩
  notNamed := nofun

theorem Draft.IsSound.complete (h : d.IsSound) : d.complete.IsWellFormed := by
  have hmetadata : (d.metadata.getD standard.metadata).IsWellFormed ∧
      (d.metadata.getD standard.metadata).toJson.depth + 1 ≤ Json.maxDepth := by
    cases hd : d.metadata with
    | some m => exact h.metadata m hd
    | none => exact ⟨standard_metadata_isWellFormed, by decide⟩
  refine ⟨hmetadata.1, hmetadata.2, fun n hn ↦ ?_⟩
  change d.requestTimeoutSecs.getD none = some n at hn
  cases hd : d.requestTimeoutSecs with
  | some timeout =>
      rw [hd] at hn
      exact h.requestTimeoutSecs n (hd.trans (congrArg some hn))
  | none =>
      rw [hd] at hn
      cases hn

theorem store_eq_ok {α : Type} {read : Json.Reader α} {put : α → Draft}
    (h : store read put s = .ok (d', rest)) : ∃ a, read s = .ok (a, rest) ∧ d' = put a := by
  obtain ⟨⟨a, rest'⟩, hread, heq⟩ := bind_eq_ok.mp h
  cases heq
  exact ⟨a, hread, rfl⟩

theorem le_of_view_nat64 {v : Json} {n : Int} (h : Json.ScalarType.nat64.view v = .ok n) :
    n ≤ 0xFFFFFFFFFFFFFFFF := by
  simp only [Json.ScalarType.nat64, Json.ScalarType.integer] at h
  grind

theorem le_of_view_orNull_nat64 {v : Json} {timeout : Option Int}
    (h : (Json.ScalarType.orNull .nat64).view v = .ok timeout) {n : Nat}
    (hn : timeout.map Int.toNat = some n) : n ≤ 0xFFFFFFFFFFFFFFFF := by
  obtain ⟨k, rfl, rfl⟩ := Option.map_eq_some_iff.mp hn
  have hview : Json.ScalarType.nat64.view v = .ok k := by
    simp only [Json.ScalarType.orNull] at h
    split at h
    · cases h
    · cases hk : Json.ScalarType.nat64.view v <;> rw [hk] at h <;> cases h
      rfl
  exact Int.toNat_le.mpr (le_of_view_nat64 hview)

theorem Draft.IsSound.read (h : d.IsSound) (hread : field.read d s = .ok (d', rest)) :
    d'.IsSound := by
  cases field with rw [Field.read] at hread
  | metadata =>
      obtain ⟨m, hm, rfl⟩ := store_eq_ok hread
      obtain ⟨hwf, hdepth⟩ := Metadata.isWellFormed_of_reader hm
      refine ⟨?_, h.requestTimeoutSecs⟩
      rintro _ ⟨⟩
      exact ⟨hwf, Nat.succ_le_succ hdepth⟩
  | requestTimeoutSecs =>
      obtain ⟨timeout, htimeout, rfl⟩ := store_eq_ok hread
      obtain ⟨v, -, hview⟩ := Json.typed_eq_ok.mp htimeout
      exact ⟨h.metadata, fun n hn ↦ le_of_view_orNull_nat64 hview (Option.some.inj hn)⟩
  | _ =>
      obtain ⟨v, -, rfl⟩ := store_eq_ok hread
      exact ⟨h.metadata, h.requestTimeoutSecs⟩

theorem Draft.IsSound.member {key : String} (h : d.IsSound)
    (hread : member d key s = .ok (d', rest)) : d'.IsSound := by
  unfold Settings.member at hread
  split at hread
  · simp only [bind_eq_ok] at hread
    grind
  · split at hread
    · cases hread
    · obtain ⟨t, -, hfield⟩ := bind_eq_ok.mp hread
      exact h.read hfield

theorem nextItem_eq_ok {α : Type} {item : Json.Reader α} {isFirst : Bool} {a : α}
    (h : Json.nextItem item isFirst s = .ok (some a, rest)) : ∃ t, item t = .ok (a, rest) := by
  unfold Json.nextItem at h
  split at h
  · cases h
  · cases h
  · split at h
    · obtain ⟨p, hitem, heq⟩ := bind_eq_ok.mp h
      cases heq
      exact ⟨_, hitem⟩
    · split at h
      · split at h
        · cases h
        · cases h
        · obtain ⟨p, hitem, heq⟩ := bind_eq_ok.mp h
          cases heq
          exact ⟨_, hitem⟩
      · cases h

theorem Draft.IsSound.itemsReader {fields : List Field} {isFirst : Bool} (h : d.IsSound)
    (hread : itemsReader fields isFirst d s = .ok (d', rest)) : d'.IsSound := by
  induction fields generalizing d isFirst s with
  | nil =>
      cases hread
      exact h
  | cons field fields ih =>
      obtain ⟨⟨next, t⟩, hnext, hrest⟩ := bind_eq_ok.mp hread
      cases next with
      | none =>
          cases hrest
          exact h
      | some mid =>
          obtain ⟨u, hmid⟩ := nextItem_eq_ok hnext
          exact ih (h.read hmid) hrest

/-- Settings that are read, from an object or an array, are well formed. -/
theorem isWellFormed_of_reader (h : reader s = .ok (settings, rest)) : settings.IsWellFormed := by
  unfold reader at h
  split at h
  · obtain ⟨⟨d, t⟩, hmembers, heq⟩ := bind_eq_ok.mp h
    cases heq
    exact (Json.members_invariant (fun _ _ _ _ _ hd hmember ↦ hd.member hmember)
      (mapError_eq_ok.mp hmembers) Draft.isSound_empty).complete
  · obtain ⟨⟨d, t⟩, hitems, hend⟩ := bind_eq_ok.mp h
    obtain ⟨u, -, heq⟩ := bind_eq_ok.mp hend
    cases heq
    exact (Draft.isSound_empty.itemsReader (mapError_eq_ok.mp hitems)).complete
  · cases h
  · exact absurd h (Json.refuse_ne_ok _ _ _)

theorem isWellFormed_of_parse {text : String} (h : parse text = .ok settings) :
    settings.IsWellFormed := by
  obtain ⟨rest, hread, -⟩ := Json.decode_eq_ok.mp h
  exact isWellFormed_of_reader hread

theorem IsWellFormed.parse_text (h : settings.IsWellFormed)
    (hints : Json.EntriesHaveIntegersOnly settings.metadata.extra) :
    parse settings.text = .ok settings :=
  Json.decode_print (h.readsBack hints) (.indented 2)

/-! ## Loading -/

variable {files : FileTree} {file : Path}

theorem load_of_missing (h : files.holds file = false) : load files file = .ok standard := by
  rw [load, h]
  rfl

theorem load_of_readable {text : String} (hthere : files.holds file = true)
    (h : files.readText file = .ok text) :
    load files file = (parse text).mapError fun report ↦ .config (.malformed file report) := by
  rw [load, hthere, h]
  rfl

/-- Settings that were read from any text, in either form, and whose further metadata hold
integers as their only numbers, survive being written: the file that they are written to holds
their text, and loading it gives the same settings, whose text is again the same. -/
theorem load_of_write {text : String} {files files' : FileTree} {file : Path}
    (hparse : parse text = .ok settings)
    (hints : Json.EntriesHaveIntegersOnly settings.metadata.extra)
    (hwrite : write files file settings = (files', .ok ())) :
    files'.readText file = .ok settings.text ∧ load files' file = .ok settings ∧
      (load files' file).map Settings.text = .ok settings.text := by
  obtain ⟨hholds, hread⟩ := FileTree.readText_writeText hwrite
  have hagain := (isWellFormed_of_parse hparse).parse_text hints
  have hload : load files' file = .ok settings := by
    simp only [load, hholds, hread, hagain]
    rfl
  exact ⟨hread, hload, by rw [hload]; rfl⟩

theorem load_of_write_array_form : ∃ settings files',
    parse "[\"debug\",true,false,\"u\",[],\x7b\"label\":[7],\"auto_retry\":false\x7d,null,0]" =
      .ok settings ∧ settings.requestTimeoutSecs = some 0 ∧
    write ⟨[], []⟩ ⟨[47, 97]⟩ settings = (files', .ok ()) ∧
    load files' ⟨[47, 97]⟩ = .ok settings := by
  let settings : Settings := {
    logLevel := .debug
    jsonLogs := true
    baseUrl := "u"
    presets := []
    metadata := { autoRetry := false, extra := [("label", .array [.number (.int 7)])] }
    requestTimeoutSecs := some 0 }
  have hparse : parse
      "[\"debug\",true,false,\"u\",[],\x7b\"label\":[7],\"auto_retry\":false\x7d,null,0]" =
        .ok settings := rfl
  have hints : Json.EntriesHaveIntegersOnly settings.metadata.extra :=
    ⟨⟨⟨by decide, by decide⟩, trivial⟩, trivial⟩
  have hwrite : write ⟨[], []⟩ ⟨[47, 97]⟩ settings =
      (⟨[([[97]], .file (Utf8.encode settings.text))], []⟩, .ok ()) := rfl
  exact ⟨settings, _, hparse, rfl, hwrite, (load_of_write hparse hints hwrite).2.1⟩

end DealForm.Settings
