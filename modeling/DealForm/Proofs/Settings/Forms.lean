import DealForm.Proofs.Settings.Members

/-!
# Settings in any order and in two forms

Neither the order of the members of an object nor unknown ones matter to the settings it gives,
and an array is read as the object that gives its items the first keys.
-/

namespace DealForm.Settings

open Json (Tree Writes IsTextOf)

variable {d : Draft} {s s' : Settings} {field : Field} {t : Tree} {ts : List Tree}
  {ms ms' : List (String × Tree)} {text text' : String}

def keys : List String :=
  Field.all.map Field.key

/-- The text is an object with these members. -/
def IsObjectText (ms : List (String × Tree)) (text : String) : Prop :=
  IsTextOf (.object (ms.map fun m ↦ (some m.1, m.2))) text

/-- The members with known keys. -/
def known (ms : List (String × Tree)) : List (String × Tree) :=
  ms.filter fun m ↦ m.1 ∈ keys

/-! ## Texts of settings -/

theorem isObjectText_of_members {cs : List Char} (htext : text.toList = '{' :: cs)
    (h : Json.AfterBracket '}' (Json.WritesMember Writes) (ms.map fun m ↦ (some m.1, m.2)) cs) :
    IsObjectText ms text :=
  ⟨[], '{' :: cs, [], by rw [htext]; simp, Json.isBlanks_nil, .object h, Json.isBlanks_nil⟩

theorem parse_eq_ok_of_text (h : IsTextOf t text) : parse text = .ok s ↔ ofTree? t = some s := by
  obtain ⟨bs, cs, bs', htext, hbs, ht, hbs'⟩ := h
  have hstart : Json.skipBlanks text.toList = cs ++ bs' := by
    rw [htext]
    exact Json.skipBlanks_blanks_append_value hbs ht bs'
  have hrest : Json.continuesNumber bs' = false := by
    have hnone : Json.continuesNumber [] = false := rfl
    simpa using Json.continuesNumber_blanks_append hbs' hnone
  have hend : Json.skipBlanks bs' = [] := List.dropWhile_eq_nil_iff.mpr hbs'
  simp only [parse, Json.decode_eq_ok, (readsBy ht hstart hrest).eq_ok_iff]
  grind

theorem parse_eq_ok_of_objectText (h : IsObjectText ms text) : parse text = .ok s ↔
    ∀ field : Field, field.from? (valuesOf ms field.key) = some (s.get field) :=
  (parse_eq_ok_of_text h).trans ofTree?_object

theorem Field.key_mem_keys (field : Field) : field.key ∈ keys :=
  List.mem_map_of_mem (by cases field <;> decide)

theorem known_key (field : Field) (t : Tree) (ms : List (String × Tree)) :
    known ((field.key, t) :: ms) = (field.key, t) :: known ms := by
  simp [known, field.key_mem_keys]

theorem valuesOf_known (ms : List (String × Tree)) (field : Field) :
    valuesOf (known ms) field.key = valuesOf ms field.key := by
  have hkey := field.key_mem_keys
  unfold valuesOf known
  rw [List.filter_filter]
  congr 1
  apply List.filter_congr
  intro m _
  by_cases hm : m.1 = field.key
  · simp [hm, hkey]
  · simp [hm]

theorem perm_valuesOf (h : (known ms).Perm (known ms')) (field : Field) :
    (valuesOf ms field.key).Perm (valuesOf ms' field.key) := by
  rw [← valuesOf_known ms, ← valuesOf_known ms']
  exact (h.filter _).map _

theorem parse_eq_ok_of_perm (h : IsObjectText ms text) (h' : IsObjectText ms' text')
    (hperm : (known ms).Perm (known ms')) : parse text = .ok s ↔ parse text' = .ok s := by
  rw [parse_eq_ok_of_objectText h, parse_eq_ok_of_objectText h']
  have hvalues (field : Field) := field.from?_eq_of_perm (perm_valuesOf hperm field)
  simp only [hvalues]

theorem parse_of_known_eq_nil (h : IsObjectText ms text) (hnone : known ms = []) :
    parse text = .ok standard := by
  refine (parse_eq_ok_of_objectText h).mpr fun field ↦ ?_
  rw [← valuesOf_known, hnone]
  rfl

theorem get_of_absent (h : IsObjectText ms text) (habsent : field.key ∉ ms.map Prod.fst)
    (hs : parse text = .ok s) : s.get field = standard.get field := by
  have hfield := (parse_eq_ok_of_objectText h).mp hs field
  rw [valuesOf_of_absent habsent] at hfield
  exact (Option.some.inj hfield).symm

/-- Settings come of an object if each of its fields has what it needs. -/
theorem exists_parse (h : IsObjectText ms text)
    (hfields : ∀ field : Field, ∃ v, field.from? (valuesOf ms field.key) = some v) :
    ∃ s, parse text = .ok s := by
  choose value hvalue using hfields
  refine ⟨of value, (parse_eq_ok_of_objectText h).mpr fun field ↦ ?_⟩
  rw [get_of, hvalue]

theorem value?_of_parse_alone {alone : String} (h : IsObjectText [(field.key, t)] alone)
    (hs : parse alone = .ok s) : field.value? t = some (s.get field) := by
  have hfield := (parse_eq_ok_of_objectText h).mp hs field
  rwa [valuesOf_key, if_pos rfl] at hfield

/-- A text with one more field is read exactly if both the text without it and the field alone
are, and then has the field from the one and all others from the other. -/
theorem parse_eq_ok_of_present {alone : String} (h : IsObjectText ms text)
    (habsent : field.key ∉ ms.map Prod.fst) (h' : IsObjectText ms' text')
    (halone : IsObjectText [(field.key, t)] alone)
    (hperm : (known ms').Perm ((field.key, t) :: known ms)) : parse text' = .ok s' ↔
      ∃ s s₁, parse text = .ok s ∧ parse alone = .ok s₁ ∧ s'.get field = s₁.get field ∧
        ∀ other, other ≠ field → s'.get other = s.get other := by
  have hvalues (other : Field) := other.from?_eq_of_perm
    (perm_valuesOf (known_key field t ms ▸ hperm) other)
  have hfield : field.from? (valuesOf ms' field.key) = field.value? t := by
    rw [hvalues, valuesOf_key, if_pos rfl, valuesOf_of_absent habsent, Field.from?]
  have hothers (other : Field) (hne : other ≠ field) :
      other.from? (valuesOf ms' other.key) = other.from? (valuesOf ms other.key) := by
    rw [hvalues, valuesOf_key, if_neg hne]
  rw [parse_eq_ok_of_objectText h']
  constructor
  · intro hs'
    have hget := hfield ▸ hs' field
    obtain ⟨s, hs⟩ := exists_parse h fun other ↦ by
      by_cases hne : other = field
      · subst hne
        exact ⟨standard.get other, by rw [valuesOf_of_absent habsent, Field.from?]⟩
      · exact ⟨s'.get other, hothers other hne ▸ hs' other⟩
    obtain ⟨s₁, hs₁⟩ := exists_parse halone fun other ↦ by
      rw [valuesOf_key]
      split
      · next heq => exact ⟨s'.get other, heq ▸ hget⟩
      · exact ⟨standard.get other, rfl⟩
    refine ⟨s, s₁, hs, hs₁, ?_, fun other hne ↦ ?_⟩
    · exact Option.some.inj (hget.symm.trans (value?_of_parse_alone halone hs₁))
    · have hother := (parse_eq_ok_of_objectText h).mp hs other
      exact Option.some.inj ((hs' other).symm.trans ((hothers other hne).trans hother))
  · rintro ⟨s, s₁, hs, hs₁, hsame, hsames⟩ other
    by_cases hne : other = field
    · subst hne
      rw [hfield, hsame]
      exact value?_of_parse_alone halone hs₁
    · rw [hothers other hne, hsames other hne]
      exact (parse_eq_ok_of_objectText h).mp hs other

/-! ## The array form -/

theorem addItems_eq_foldlM {fields : List Field} (hfields : fields.Nodup)
    (hnew : ∀ field ∈ fields, d.get field = none) (ts : List Tree) :
    d.addItems fields ts =
      ((fields.map Field.key).zip ts).foldlM (fun d m ↦ d.add m.1 m.2) d := by
  induction fields generalizing d ts with
  | nil => rfl
  | cons field fields ih =>
      cases ts with
      | nil => rfl
      | cons t ts =>
          obtain ⟨hnotin, hfields⟩ := List.nodup_cons.mp hfields
          have hadd : d.add field.key t = d.take field t := by
            have hfield := hnew field List.mem_cons_self
            simp [Draft.add, Field.ofKey?_key, Draft.has_eq_isSome, hfield]
          rw [Draft.addItems, List.map_cons, List.zip_cons_cons, List.zip_cons_cons,
            List.foldlM_cons, List.foldlM_cons, hadd]
          cases htake : d.take field t with
          | none => rfl
          | some mid =>
              refine ih hfields (fun other hother ↦ ?_) ts
              obtain ⟨v, -, rfl⟩ := Option.map_eq_some_iff.mp htake
              have hne : other ≠ field := fun heq ↦ hnotin (heq ▸ hother)
              rw [Draft.get_set_of_ne d v hne]
              exact hnew other (List.mem_cons_of_mem field hother)

theorem parse_eq_ok_of_array (h : IsTextOf (.array ts) text) (hlength : ts.length ≤ 8)
    (h' : IsObjectText (keys.zip ts) text') : parse text = .ok s ↔ parse text' = .ok s := by
  have hall : Field.all.Nodup := by decide
  have hitems := addItems_eq_foldlM hall (fun field _ ↦ Draft.get_empty field) ts
  have hfields : ts.length ≤ Field.all.length := hlength
  rw [parse_eq_ok_of_text h, parse_eq_ok_of_text h', ofTree?, ofTree?, foldlM_addKeyed,
    if_pos hfields, hitems]
  rfl

theorem parse_ne_ok_of_long_array (h : IsTextOf (.array ts) text) (hlength : 8 < ts.length) :
    parse text ≠ .ok s := by
  have hfields : ¬ts.length ≤ Field.all.length := Nat.not_le.mpr hlength
  rw [ne_eq, parse_eq_ok_of_text h, ofTree?, if_neg hfields]
  intro hnone
  cases hnone

theorem exists_afterItem (h : ∀ m ∈ ms, ∃ cs, Writes m.2 cs) : ∃ ds,
    Json.AfterItem '}' (Json.WritesMember Writes) (ms.map fun m ↦ (some m.1, m.2)) ds := by
  induction ms with
  | nil => exact ⟨_, .nil Json.isBlanks_nil⟩
  | cons m ms ih =>
      obtain ⟨⟨cs, hm⟩, hms⟩ := List.forall_mem_cons.mp h
      obtain ⟨ds, hds⟩ := ih hms
      exact ⟨_, .cons Json.isBlanks_nil Json.isBlanks_nil (Json.writesMember_key m.1 hm) hds⟩

/-- Any keys make an object text with values that can be written. -/
theorem exists_objectText (h : ∀ m ∈ ms, ∃ cs, Writes m.2 cs) : ∃ text, IsObjectText ms text := by
  cases ms with
  | nil =>
      exact ⟨_, isObjectText_of_members String.toList_ofList (.nil Json.isBlanks_nil)⟩
  | cons m ms =>
      obtain ⟨⟨cs, hm⟩, hms⟩ := List.forall_mem_cons.mp h
      obtain ⟨ds, hds⟩ := exists_afterItem hms
      have hkey := Json.writesMember_key m.1 hm
      exact ⟨_, isObjectText_of_members String.toList_ofList (.cons Json.isBlanks_nil hkey hds)⟩

theorem exists_objectText_of_array (h : IsTextOf (.array ts) text) (names : List String) :
    ∃ text', IsObjectText (names.zip ts) text' := by
  obtain ⟨bs, cs, bs', -, -, harray, -⟩ := h
  cases harray with
  | array h =>
      exact exists_objectText fun m hm ↦ h.exists_text m.2 (List.of_mem_zip hm).2

/-- A value that stands in an object makes an object by itself, under any key. -/
theorem exists_objectText_alone (h : IsObjectText ms text) {key : String} (hm : (key, t) ∈ ms)
    (key' : String) : ∃ alone, IsObjectText [(key', t)] alone := by
  obtain ⟨bs, cs, bs', -, -, hobject, -⟩ := h
  cases hobject with
  | object h =>
      obtain ⟨cs, hmember⟩ := h.exists_text (some key, t) (List.mem_map.mpr ⟨_, hm, rfl⟩)
      apply exists_objectText
      intro m hm
      cases List.mem_singleton.mp hm
      exact hmember.exists_value

/-- Settings are read from an object field by field. Two objects that give the known keys the same
values, in whatever order and between whatever unknown keys, both give the same settings or both
give none. Without any known key these are the standard settings. A key that is absent leaves the
default, and a text that has it is read exactly if the text without it and the field alone are,
with the field from the one and all others from the other. An array of at most eight values is
read as the object that gives them the first keys, and a longer one is refused. -/
theorem read_in_any_order_and_form :
    keys = ["log_level", "json_logs", "log_to_file", "base_url", "presets", "metadata",
      "download_dir", "request_timeout_secs"] ∧
    (∀ ms ms' text text', IsObjectText ms text → IsObjectText ms' text' →
      (known ms).Perm (known ms') → ∀ s, parse text = .ok s ↔ parse text' = .ok s) ∧
    (∀ ms text, IsObjectText ms text → known ms = [] → parse text = .ok standard) ∧
    (∀ ms text (field : Field), IsObjectText ms text → field.key ∉ ms.map Prod.fst →
      (∀ s, parse text = .ok s → s.get field = standard.get field) ∧
      ∀ t ms' text', IsObjectText ms' text' → (known ms').Perm ((field.key, t) :: known ms) →
        (∃ alone, IsObjectText [(field.key, t)] alone) ∧
        ∀ alone, IsObjectText [(field.key, t)] alone →
          ∀ s', parse text' = .ok s' ↔ ∃ s s₁, parse text = .ok s ∧ parse alone = .ok s₁ ∧
            s'.get field = s₁.get field ∧ ∀ other, other ≠ field → s'.get other = s.get other) ∧
    ∀ ts text, IsTextOf (.array ts) text →
      (ts.length ≤ 8 → (∃ text', IsObjectText (keys.zip ts) text') ∧
        ∀ text', IsObjectText (keys.zip ts) text' →
          ∀ s, parse text = .ok s ↔ parse text' = .ok s) ∧
      (8 < ts.length → ∀ s, parse text ≠ .ok s) := by
  refine ⟨rfl, fun ms ms' text text' h h' hperm s ↦ parse_eq_ok_of_perm h h' hperm,
    fun ms text ↦ parse_of_known_eq_nil,
    fun ms text field h habsent ↦ ⟨fun s ↦ get_of_absent h habsent, ?_⟩,
    fun ts text h ↦ ⟨fun hlength ↦ ⟨exists_objectText_of_array h keys, fun text' h' s ↦
      parse_eq_ok_of_array h hlength h'⟩, fun hlength s ↦ parse_ne_ok_of_long_array h hlength⟩⟩
  intro t ms' text' h' hperm
  have hm : (field.key, t) ∈ ms' :=
    List.mem_of_mem_filter (hperm.mem_iff.mpr List.mem_cons_self)
  exact ⟨exists_objectText_alone h' hm field.key, fun alone halone s' ↦
    parse_eq_ok_of_present h habsent h' halone hperm⟩

theorem read_logging_in_any_order_and_form :
    (∀ s, parse "\x7b\"json_logs\":true,\"log_to_file\":true\x7d" = .ok s ↔
      parse "\x7b\"log_to_file\":true, \"x\":[], \"json_logs\":true\x7d" = .ok s) ∧
    parse "\x7b\"x\":[]\x7d" = .ok standard ∧
    ((∀ s, parse "\x7b\x7d" = .ok s → s.get .jsonLogs = standard.get .jsonLogs) ∧
      ∀ s', parse "\x7b\"json_logs\":true\x7d" = .ok s' ↔ ∃ s s₁, parse "\x7b\x7d" = .ok s ∧
        parse "\x7b\"json_logs\":true\x7d" = .ok s₁ ∧ s'.get .jsonLogs = s₁.get .jsonLogs ∧
        ∀ other, other ≠ .jsonLogs → s'.get other = s.get other) ∧
    (∀ s, parse "[\"warn\"]" = .ok s ↔ parse "\x7b\"log_level\":\"warn\"\x7d" = .ok s) ∧
    ∀ s, parse "[1,1,1,1,1,1,1,1,1]" ≠ .ok s := by
  obtain ⟨-, hperm, hstandard, habsent, harray⟩ := read_in_any_order_and_form
  have hnone := Json.isBlanks_nil
  have hblank : Json.IsBlanks [' '] := by simp [Json.IsBlanks, Json.isBlank]
  have htrue : Writes (.scalar (some (.bool true))) ['t', 'r', 'u', 'e'] := .scalar .trueWord
  have hwarn : Writes (.scalar (some (.string "warn"))) ['"', 'w', 'a', 'r', 'n', '"'] :=
    .scalar (.string (Json.stringText_flatMap ['w', 'a', 'r', 'n']))
  have hlogs := Json.writesMember_key "json_logs" htrue
  have hfile := Json.writesMember_key "log_to_file" htrue
  have hlevel := Json.writesMember_key "log_level" hwarn
  have hunknown := Json.writesMember_key "x" (.array (.nil hnone))
  have hdigit : Json.IsDigits ['1'] := ⟨by simp, by simp⟩
  have hone : Writes (.scalar (some (.number (.int 1)))) ['1'] :=
    .scalar (.positive (.digits hdigit (by simp) (.none .none)))
  have hempty : IsObjectText [] "\x7b\x7d" := isObjectText_of_members rfl (.nil hnone)
  have halone : IsObjectText [("json_logs", .scalar (some (.bool true)))]
      "\x7b\"json_logs\":true\x7d" :=
    isObjectText_of_members rfl (.cons hnone hlogs (.nil hnone))
  have hforeign : IsObjectText [("x", .array [])] "\x7b\"x\":[]\x7d" :=
    isObjectText_of_members rfl (.cons hnone hunknown (.nil hnone))
  have hboth : IsObjectText [("json_logs", .scalar (some (.bool true))),
      ("log_to_file", .scalar (some (.bool true)))]
      "\x7b\"json_logs\":true,\"log_to_file\":true\x7d" :=
    isObjectText_of_members rfl (.cons hnone hlogs (.cons hnone hnone hfile (.nil hnone)))
  have hmixed : IsObjectText [("log_to_file", .scalar (some (.bool true))), ("x", .array []),
      ("json_logs", .scalar (some (.bool true)))]
      "\x7b\"log_to_file\":true, \"x\":[], \"json_logs\":true\x7d" :=
    isObjectText_of_members rfl (.cons hnone hfile
      (.cons hnone hblank hunknown (.cons hnone hblank hlogs (.nil hnone))))
  have hobject : IsObjectText [("log_level", .scalar (some (.string "warn")))]
      "\x7b\"log_level\":\"warn\"\x7d" :=
    isObjectText_of_members rfl (.cons hnone hlevel (.nil hnone))
  have hshort : IsTextOf (.array [.scalar (some (.string "warn"))]) "[\"warn\"]" := by
    refine ⟨[], _, [], ?_, hnone, .array (.cons hnone hwarn (.nil hnone)), hnone⟩
    rfl
  have hlong : IsTextOf (.array (List.replicate 9 (.scalar (some (.number (.int 1))))))
      "[1,1,1,1,1,1,1,1,1]" := by
    have hnext {ts : List Tree} {ds : List Char} (h : Json.AfterItem ']' Writes ts ds) :
        Json.AfterItem ']' Writes (.scalar (some (.number (.int 1))) :: ts) (',' :: '1' :: ds) :=
      .cons hnone hnone hone h
    refine ⟨[], _, [], ?_, hnone, .array (.cons hnone hone (hnext <| hnext <| hnext <| hnext <|
      hnext <| hnext <| hnext <| hnext <| .nil hnone)), hnone⟩
    rfl
  have habsent := habsent [] _ .jsonLogs hempty (by simp)
  exact ⟨hperm _ _ _ _ hboth hmixed (.swap _ _ []), hstandard _ _ hforeign (by decide),
    ⟨habsent.1, (habsent.2 _ _ _ halone (.refl _)).2 _ halone⟩,
    ((harray _ _ hshort).1 (by decide)).2 _ hobject, (harray _ _ hlong).2 (by decide)⟩

end DealForm.Settings
