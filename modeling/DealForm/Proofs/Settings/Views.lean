import DealForm.Proofs.Deal.Metadata
import DealForm.Proofs.Json.Passing
import DealForm.Proofs.Json.Views
import DealForm.Proofs.Settings.Fields

/-!
# Settings as a function of what is written

What a level, a preset, metadata and settings are read from: the tree of the text, whichever form
it has. Values of unknown keys are passed over, and those of known keys are read by their fields.
-/

namespace DealForm

open Json (Tree Writes ReadsBy ReadsMembersBy Gives Remains)

variable {t : Tree} {ts : List Tree} {cs rest : List Char}

theorem LogLevel.parse_toOption_gives (text : String) (rest : List Char) :
    Gives (match parse text with
      | .ok level => .ok (level, rest)
      | .error u => .error (Json.refusal u.message rest)) (parse text).toOption rest := by
  cases parse text <;> rfl

namespace LogLevel

def ofTree? (t : Tree) : Option LogLevel :=
  (Tree.typed (.text "a string") t).bind fun text ↦ (parse text).toOption

theorem readsBy : ReadsBy reader ofTree? := by
  intro t cs s rest h hs hrest
  exact (Json.readsBy_typed _ h hs hrest).bind fun text ↦ parse_toOption_gives text rest

end LogLevel

/-! ## Presets -/

namespace Preset

def textOf (t : Tree) : Option String :=
  Tree.typed (.text "a string") t

/-- The draft with a member added, which must not give a field twice. -/
def Draft.add (d : Draft) (key : String) (t : Tree) : Option Draft :=
  if key = "name" then
    match d.name with
    | some _ => none
    | none => (textOf t).map fun v ↦ { d with name := some v }
  else if key = "url" then
    match d.url with
    | some _ => none
    | none => (textOf t).map fun v ↦ { d with url := some v }
  else some d

def ofTree? : Tree → Option Preset
  | .object ms => (ms.foldlM (Json.addKeyed Draft.add) {}).bind fun d ↦ d.complete.toOption
  | .array [name, url] => (textOf name).bind fun name ↦ (textOf url).map (Preset.mk name)
  | _ => none

theorem readsMembersBy_member : ReadsMembersBy member Draft.add := by
  intro d key t cs s u rest ht hcolon hu hrest
  have htext := Json.readsBy_typed (.text "a string") ht hu hrest
  have hskip := ht.skipValue hu hrest
  unfold member Draft.add
  split
  · simp only [hcolon]
    cases d.name with
    | some _ => exact .error _ rest
    | none => exact htext.map fun v ↦ { d with name := some v }
  split
  · simp only [hcolon]
    cases d.url with
    | some _ => exact .error _ rest
    | none => exact htext.map fun v ↦ { d with url := some v }
  · simp only [hcolon, bind, Except.bind, hskip]
    exact .ok d rest

theorem gives_concluded (result : Except Json.Mismatch Preset) (rest : List Char) :
    Gives (Json.concluded result rest) result.toOption rest := by
  cases result <;> rfl

/-- Of an array, two items are read, and then the bracket must close. -/
theorem gives_itemsReader (h : Remains true ts cs) (rest : List Char) :
    Gives (itemsReader (cs ++ rest)) (ofTree? (.array ts)) rest := by
  have htext : ReadsBy textReader textOf := Json.readsBy_typed (.text "a string")
  rcases ts with _ | ⟨first, ts⟩
  · rw [itemsReader, Json.nextItem_nil h]
    exact .error _ rest
  obtain ⟨ds, hds, hfirst⟩ := htext.nextItem h rest
  rcases hfirst.ok_or_error with ⟨_, hsome, hread⟩ | ⟨hname, f, hread⟩
  · obtain ⟨name, hname, rfl⟩ := Option.map_eq_some_iff.mp hsome
    simp only [itemsReader, hread, bind, Except.bind]
    rcases ts with _ | ⟨second, ts⟩
    · rw [Json.nextItem_nil hds]
      exact .error _ rest
    obtain ⟨es, hes, hsecond⟩ := htext.nextItem hds rest
    rcases hsecond.ok_or_error with ⟨_, hsome, hread⟩ | ⟨hurl, f, hread⟩
    · obtain ⟨url, hurl, rfl⟩ := Option.map_eq_some_iff.mp hsome
      simp only [hread]
      rcases ts with _ | ⟨third, ts⟩
      · rw [Json.endOfArray_nil hes, ofTree?, hname, hurl]
        exact .ok _ rest
      · have hend := Json.endOfArray_cons hes rest
        cases hrest : Json.endOfArray (es ++ rest) with
        | ok r => exact absurd hrest (hend r)
        | error f => exact .error f rest
    · rw [Option.map_eq_none_iff] at hurl
      have hnone : ofTree? (.array (first :: second :: ts)) = none := by
        cases ts with
        | nil => simp [ofTree?, hurl]
        | cons third ts => rfl
      rw [hread, hnone]
      exact .error f rest
  · rw [Option.map_eq_none_iff] at hname
    have hnone : ofTree? (.array (first :: ts)) = none := by
      rcases ts with _ | ⟨second, _ | ⟨third, ts⟩⟩
      · rfl
      · rw [ofTree?, hname, Option.bind_none]
      · rfl
    rw [itemsReader, hread, hnone]
    exact .error f rest

theorem readsBy : ReadsBy reader ofTree? := by
  intro t cs s rest h hs hrest
  cases h with
  | object h =>
      simp only [reader, hs, List.cons_append, Json.objectMembers]
      exact ((readsMembersBy_member.members rest h).mapError _).bind
        fun d ↦ gives_concluded d.complete rest
  | array h =>
      simp only [reader, hs, List.cons_append]
      exact (gives_itemsReader h rest).mapError _
  | scalar h =>
      simp only [reader, hs]
      split
      · next heq => exact absurd heq (h.ne_opening (by simp) _)
      · next heq => exact absurd heq (h.ne_opening (by simp) _)
      · exact .error _ rest
      · exact Json.gives_refuse _ _ rest

end Preset

/-! ## Metadata -/

namespace Metadata

def ofTree? (budget : Nat) : Tree → Option Metadata
  | .object ms =>
    (ms.foldlM (Json.addKeyed fun d key t ↦ (t.json? budget).bind fun v ↦ Draft.add d (key, v))
      {}).map Draft.complete
  | _ => none

theorem readsBy (budget : Nat) : ReadsBy (reader budget) (ofTree? budget) := by
  intro t cs s rest h hs hrest
  have hmember := (addsMembers_member budget).readsMembersBy (Json.readsBy_value budget)
  cases h with
  | object h =>
      simp only [reader, hs, List.cons_append, Json.objectMembers]
      exact ((hmember.members rest h).mapError _).map Draft.complete
  | array h =>
      simp only [reader, hs, List.cons_append]
      exact Json.gives_refuse _ _ rest
  | scalar h =>
      simp only [reader, hs]
      split
      · next heq => exact absurd heq (h.ne_opening (by simp) _)
      · exact .error _ rest
      · exact Json.gives_refuse _ _ rest

end Metadata

/-! ## Settings -/

namespace Settings

variable {d : Draft} {field : Field}

/-- What a field makes of a value. -/
def Field.value? : (field : Field) → Tree → Option field.Value
  | .logLevel => LogLevel.ofTree?
  | .jsonLogs => Tree.typed .truth
  | .logToFile => Tree.typed .truth
  | .baseUrl => Tree.typed (.text "a string")
  | .presets => Tree.listOf Preset.ofTree?
  | .metadata => Metadata.ofTree? (Json.maxDepth - 2)
  | .downloadDir => Tree.typed (.orNull (.text "path string"))
  | .requestTimeoutSecs => fun t ↦ (t.typed (.orNull .nat64)).map fun v ↦ v.map Int.toNat

def Draft.take (d : Draft) (field : Field) (t : Tree) : Option Draft :=
  (field.value? t).map (d.set field)

/-- The draft with a member added: a known key must be new, an unknown one changes nothing. -/
def Draft.add (d : Draft) (key : String) (t : Tree) : Option Draft :=
  match Field.ofKey? key with
  | none => some d
  | some field => if d.has field then none else d.take field t

def Draft.addItems (d : Draft) (fields : List Field) (ts : List Tree) : Option Draft :=
  (fields.zip ts).foldlM (fun d item ↦ d.take item.1 item.2) d

def ofTree? : Tree → Option Settings
  | .object ms => (ms.foldlM (Json.addKeyed Draft.add) {}).map Draft.complete
  | .array ts =>
    if ts.length ≤ Field.all.length then (Draft.addItems {} Field.all ts).map Draft.complete
    else none
  | .scalar _ => none

theorem readsBy_field (d : Draft) (field : Field) : ReadsBy (field.read d) (d.take field) := by
  have hstore {α : Type} {read : Json.Reader α} {view : Tree → Option α} (put : α → Draft)
      (h : ReadsBy read view) : ReadsBy (store read put) fun t ↦ (view t).map put :=
    fun _ _ _ _ ht hs hrest ↦ (h ht hs hrest).map put
  cases field with simp only [Field.read]
  | logLevel => exact hstore _ LogLevel.readsBy
  | presets => exact hstore _ Preset.readsBy.listOf
  | metadata => exact hstore _ (Metadata.readsBy _)
  | requestTimeoutSecs =>
      have htake : d.take .requestTimeoutSecs = fun t ↦ (t.typed (.orNull .nat64)).map
          fun v ↦ { d with requestTimeoutSecs := some (v.map Int.toNat) } :=
        funext fun t ↦ Option.map_map ..
      rw [htake]
      exact hstore _ (Json.readsBy_typed _)
  | _ => exact hstore _ (Json.readsBy_typed _)

theorem readsMembersBy_member : ReadsMembersBy member Draft.add := by
  intro d key t cs s u rest ht hcolon hu hrest
  unfold member Draft.add
  cases Field.ofKey? key with
  | none =>
      have hskip := ht.skipValue hu hrest
      simp only [hcolon, bind, Except.bind, hskip]
      exact .ok d rest
  | some field =>
      dsimp only
      split
      · exact .error _ rest
      · simp only [hcolon]
        exact readsBy_field d field ht hu hrest

/-- The fields are read from the items one by one; the bracket closes after them only if there are
no further items. -/
theorem gives_itemsReader (fields : List Field) {isFirst : Bool} (h : Remains isFirst ts cs)
    (rest : List Char) : ∃ u, Gives (itemsReader fields isFirst d (cs ++ rest))
      (d.addItems fields ts) u ∧
      ∀ r, Json.endOfArray u = .ok r ↔ ts.length ≤ fields.length ∧ r = rest := by
  induction fields generalizing ts cs isFirst d with
  | nil =>
      refine ⟨cs ++ rest, .ok d _, fun r ↦ ?_⟩
      cases ts with
      | nil =>
          rw [Json.endOfArray_nil h]
          grind
      | cons t ts =>
          have hend := Json.endOfArray_cons h rest r
          simp [hend]
  | cons field fields ih =>
      cases ts with
      | nil =>
          refine ⟨']' :: rest, ?_, fun r ↦ ?_⟩
          · rw [itemsReader, Json.nextItem_nil h]
            exact .ok d _
          · have hend : Json.endOfArray (']' :: rest) = .ok rest := rfl
            rw [hend]
            grind
      | cons t ts =>
          obtain ⟨ds, hds, hread⟩ := (readsBy_field d field).nextItem h rest
          rcases hread.ok_or_error with ⟨_, hsome, hread⟩ | ⟨hnone, f, hread⟩
          · obtain ⟨mid, hmid, rfl⟩ := Option.map_eq_some_iff.mp hsome
            obtain ⟨u, hitems, hend⟩ := ih hds (d := mid)
            refine ⟨u, ?_, by simpa using hend⟩
            rw [itemsReader, hread, Draft.addItems, List.zip_cons_cons, List.foldlM_cons, hmid]
            exact hitems
          · obtain ⟨u, -, hend⟩ := ih hds (d := d)
            refine ⟨u, ?_, by simpa using hend⟩
            rw [Option.map_eq_none_iff] at hnone
            rw [itemsReader, hread, Draft.addItems, List.zip_cons_cons, List.foldlM_cons, hnone]
            exact .error f u

/-- Settings are read by what is written, in either form. -/
theorem readsBy : ReadsBy reader ofTree? := by
  intro t cs s rest h hs hrest
  cases h with
  | object h =>
      simp only [reader, hs, List.cons_append, Json.objectMembers]
      exact ((readsMembersBy_member.members rest h).mapError _).map Draft.complete
  | @array ts cs h =>
      have hremains : Remains true ts cs := h
      obtain ⟨u, hitems, hend⟩ := gives_itemsReader (d := {}) Field.all hremains rest
      apply Json.gives_of_eq_ok_iff
      intro settings r
      simp only [reader, hs, List.cons_append, bind_eq_ok, Prod.exists, mapError_eq_ok,
        hitems.eq_ok_iff, ofTree?]
      constructor
      · rintro ⟨d, _, ⟨hd, rfl⟩, r', hclose, heq⟩
        obtain ⟨hlength, rfl⟩ := (hend r').mp hclose
        cases heq
        rw [if_pos hlength, hd]
        exact ⟨rfl, rfl⟩
      · rintro ⟨hsome, rfl⟩
        split at hsome
        · next hlength =>
          obtain ⟨d, hd, rfl⟩ := Option.map_eq_some_iff.mp hsome
          exact ⟨d, u, ⟨hd, rfl⟩, r, (hend r).mpr ⟨hlength, rfl⟩, rfl⟩
        · cases hsome
  | scalar h =>
      simp only [reader, hs]
      split
      · next heq => exact absurd heq (h.ne_opening (by simp) _)
      · next heq => exact absurd heq (h.ne_opening (by simp) _)
      · exact .error _ rest
      · exact Json.gives_refuse _ _ rest

end Settings

end DealForm
