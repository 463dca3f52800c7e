import DealForm.Proofs.Deal.Metadata
import DealForm.Proofs.Json.Printed

/-!
# Metadata and the text that an upload carries
-/

namespace DealForm.Metadata

variable {m : Metadata} {ms : Entries} {budget : Nat} {s rest : List Char}

/-- Metadata as a text can give them: the day counts are of 64 bits, no object has a key twice, and
no further field has a named key. -/
structure IsWellFormed (m : Metadata) : Prop where
  durationInDays : IsInt64 m.durationInDays
  startEpochInDays : IsInt64 m.startEpochInDays
  extra : (Json.object m.extra).HasDistinctKeys
  notNamed : ∀ key ∈ m.extra.map Prod.fst, key ∉ namedKeys

/-- The members that metadata are written with: the named fields, then the further ones. -/
def members (m : Metadata) : Entries :=
  [("deal_verify_state", .string m.dealVerifyState),
    ("duration_in_days", .number (.int m.durationInDays)),
    ("start_epoch_in_days", .number (.int m.startEpochInDays)),
    ("auto_retry", .bool m.autoRetry)] ++ m.extra

theorem toJson_eq_object (m : Metadata) : m.toJson = .object m.members := rfl

theorem keys_members (m : Metadata) :
    m.members.map Prod.fst = namedKeys ++ m.extra.map Prod.fst := rfl

theorem IsWellFormed.distinctKeys (h : m.IsWellFormed) : m.members.DistinctKeys := by
  have hextra := (Json.hasDistinctKeys_object.mp h.extra).1
  rw [Entries.DistinctKeys, keys_members]
  refine List.nodup_append.mpr ⟨by decide, hextra, ?_⟩
  rintro key hkey _ hmem rfl
  exact h.notNamed key hmem hkey

theorem IsWellFormed.isReadFrom (h : m.IsWellFormed) : IsReadFrom m.members m := by
  have hkeys := h.distinctKeys
  have hentries := Entries.ofMembers_of_distinctKeys hkeys
  refine ⟨fun key _ ↦ List.nodup_iff_count_le_one.mp hkeys key, ?_, ?_, ?_, ?_,
    h.durationInDays, h.startEpochInDays, ?_⟩
  all_goals rw [hentries]
  · exact Or.inl rfl
  · exact Or.inl rfl
  · exact Or.inl rfl
  · exact Or.inl rfl
  · have hextra : m.extra.filter (fun e ↦ e.1 ∉ namedKeys) = m.extra :=
      List.filter_eq_self.mpr fun e he ↦ decide_eq_true (h.notNamed e.1 (List.mem_map_of_mem he))
    rw [members, List.filter_append, hextra]
    rfl

theorem forall_mem_members {P : Json → Prop} (hstring : ∀ s, P (.string s))
    (hint : ∀ n, IsInt64 n → P (.number (.int n))) (hbool : ∀ b, P (.bool b))
    (h : m.IsWellFormed) (hextra : ∀ e ∈ m.extra, P e.2) : ∀ e ∈ m.members, P e.2 := by
  simp only [members, List.cons_append, List.nil_append, List.forall_mem_cons]
  exact ⟨hstring _, hint _ h.durationInDays, hint _ h.startEpochInDays, hbool _, hextra⟩

theorem IsWellFormed.hasIntegersOnly_toJson (h : m.IsWellFormed)
    (hints : Json.EntriesHaveIntegersOnly m.extra) : m.toJson.HasIntegersOnly := by
  rw [Json.entriesHaveIntegersOnly_iff] at hints
  refine Json.hasIntegersOnly_object.mpr (forall_mem_members (fun _ ↦ trivial) ?_
    (fun _ ↦ trivial) h hints)
  intro n hn
  have hgreatest : (0x7FFFFFFFFFFFFFFF : Int) ≤ 0xFFFFFFFFFFFFFFFF := by decide
  exact ⟨hn.1, Int.le_trans hn.2 hgreatest⟩

theorem IsWellFormed.hasDistinctKeys_toJson (h : m.IsWellFormed) : m.toJson.HasDistinctKeys :=
  Json.hasDistinctKeys_object.mpr ⟨h.distinctKeys, forall_mem_members (fun _ ↦ trivial)
    (fun _ _ ↦ trivial) (fun _ ↦ trivial) h (Json.hasDistinctKeys_object.mp h.extra).2⟩

theorem IsWellFormed.writtenMembers_readsBack (h : m.IsWellFormed)
    (hints : Json.EntriesHaveIntegersOnly m.extra) (hdepth : m.toJson.depth ≤ budget + 1) :
    Json.ReadsBack (Json.writtenMembers budget) m.toJson m.members := by
  have hkeys := (Json.hasDistinctKeys_object.mp h.hasDistinctKeys_toJson).2
  exact Json.writtenMembers_readsBack (h.hasIntegersOnly_toJson hints)
    (Json.entriesHaveDistinctKeys_iff.mpr hkeys) hdepth

/-- Metadata are read back from their text in every layout, as long as the budget suffices. -/
theorem IsWellFormed.readsBack (h : m.IsWellFormed) (hints : Json.EntriesHaveIntegersOnly m.extra)
    (hdepth : m.toJson.depth ≤ budget + 1) : Json.ReadsBack (reader budget) m.toJson m :=
  fun _ _ _ _ hs hrest ↦ reader_eq_ok_isReadFrom.mpr
    ⟨m.members, h.writtenMembers_readsBack hints hdepth hs hrest, h.isReadFrom⟩

theorem mem_extra_of_isReadFrom {e : String × Json} (h : IsReadFrom ms m) (he : e ∈ m.extra) :
    e ∈ Entries.ofMembers ms ∧ e.1 ∉ namedKeys := by
  rw [h.extra] at he
  simpa using List.mem_filter.mp he

/-- Metadata that are read are well formed and keep to the budget. -/
theorem isWellFormed_of_reader (h : reader budget s = .ok (m, rest)) :
    m.IsWellFormed ∧ m.toJson.depth ≤ budget + 1 := by
  obtain ⟨ms, hwritten, hm⟩ := reader_eq_ok_isReadFrom.mp h
  obtain ⟨hdepth, hkeys⟩ :=
    Json.depth_le_and_hasDistinctKeys (Json.value_eq_ok_object.mpr ⟨ms, hwritten, rfl⟩)
  rw [Json.depth_object_le] at hdepth
  obtain ⟨hdistinct, hvalues⟩ := Json.hasDistinctKeys_object.mp hkeys
  have hwf : m.IsWellFormed := {
    durationInDays := hm.isInt64_durationInDays
    startEpochInDays := hm.isInt64_startEpochInDays
    extra := by
      refine Json.hasDistinctKeys_object.mpr
        ⟨?_, fun e he ↦ hvalues e (mem_extra_of_isReadFrom hm he).1⟩
      rw [hm.extra]
      exact hdistinct.sublist (List.filter_sublist.map Prod.fst)
    notNamed := by
      intro key hkey
      obtain ⟨e, he, rfl⟩ := List.mem_map.mp hkey
      exact (mem_extra_of_isReadFrom hm he).2 }
  have hmembers := forall_mem_members (P := fun v ↦ v.depth ≤ budget) (fun _ ↦ Nat.zero_le _)
    (fun _ _ ↦ Nat.zero_le _) (fun _ ↦ Nat.zero_le _) hwf
    fun e he ↦ hdepth e (mem_extra_of_isReadFrom hm he).1
  exact ⟨hwf, Json.depth_object_le.mpr hmembers⟩

theorem isWellFormed_of_parse {raw : String} (h : parse raw = .ok m) :
    m.IsWellFormed ∧ m.toJson.depth ≤ Json.maxDepth := by
  obtain ⟨rest, hread, -⟩ := Json.decode_eq_ok.mp h
  exact isWellFormed_of_reader hread

theorem IsWellFormed.parse_formValue (h : m.IsWellFormed)
    (hints : Json.EntriesHaveIntegersOnly m.extra) (hdepth : m.toJson.depth ≤ Json.maxDepth) :
    parse m.formValue = .ok m :=
  Json.decode_print (h.readsBack hints hdepth) .compact

/-- Metadata whose further fields hold integers as their only numbers survive their text. It lists
the named fields in their order and then the further ones in theirs, and no key twice. Whatever
was read from a text can be written and read again, which changes the text at most once. -/
theorem formValue_survives :
    (∀ m : Metadata, m.IsWellFormed → Json.EntriesHaveIntegersOnly m.extra →
      m.toJson.depth ≤ Json.maxDepth →
        parse m.formValue = .ok m ∧ Json.membersOf m.formValue = .ok m.members ∧
          m.members.map Prod.fst = ["deal_verify_state", "duration_in_days",
            "start_epoch_in_days", "auto_retry"] ++ m.extra.map Prod.fst ∧
          (m.members.map Prod.fst).Nodup) ∧
    ∀ raw m, parse raw = .ok m → m.IsWellFormed ∧ m.toJson.depth ≤ Json.maxDepth ∧
      (Json.EntriesHaveIntegersOnly m.extra →
        parse m.formValue = .ok m ∧ (parse m.formValue).map formValue = .ok m.formValue) := by
  constructor
  · intro m hm hints hdepth
    exact ⟨hm.parse_formValue hints hdepth,
      Json.decode_print (hm.writtenMembers_readsBack hints hdepth) .compact, rfl, hm.distinctKeys⟩
  · intro raw m hparse
    obtain ⟨hm, hdepth⟩ := isWellFormed_of_parse hparse
    refine ⟨hm, hdepth, fun hints ↦ ?_⟩
    have hagain := hm.parse_formValue hints hdepth
    exact ⟨hagain, by rw [hagain]; rfl⟩

theorem formValue_survives_nested :
    parse (formValue { autoRetry := false, extra := [("label", .array [.null])] }) =
      .ok { autoRetry := false, extra := [("label", .array [.null])] } := by
  have hwf : IsWellFormed { autoRetry := false, extra := [("label", .array [.null])] } := {
    durationInDays := by decide
    startEpochInDays := by decide
    extra := ⟨List.nodup_singleton "label", ⟨trivial, trivial⟩, trivial⟩
    notNamed := by decide }
  exact (formValue_survives.1 _ hwf ⟨⟨trivial, trivial⟩, trivial⟩ (by decide)).1

example : formValue { autoRetry := false, extra := [("label", .array [.null])] } =
    "\x7b\"deal_verify_state\":\"verified\",\"duration_in_days\":521," ++
      "\"start_epoch_in_days\":1,\"auto_retry\":false,\"label\":[null]\x7d" := by
  cbv

end DealForm.Metadata
