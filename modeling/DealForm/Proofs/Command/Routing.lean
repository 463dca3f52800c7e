import DealForm.Proofs.Command.Lookup

/-!
# Lookups are told apart by their URL

An identifier follows the path of its kind as typed, whatever is in it. No such path begins with
that of another kind, so where identifiers are looked up under one base URL the URL gives both the
kind and the identifier back.
-/

namespace DealForm

namespace StatusKind

variable {base id id' : String} {kind kind' : StatusKind}

theorem path_isPrefix_iff : kind.path.toList <+: kind'.path.toList ↔ kind = kind' := by
  cases kind <;> cases kind' <;> decide

theorem toList_url (base : String) (kind : StatusKind) (id : String) :
    (StatusRequest.mk (kind.urlPrefix base) id).url.toList =
      base.toList ++ (kind.path.toList ++ id.toList) := by
  simp [StatusRequest.url, urlPrefix]

theorem urlPrefix_isPrefix_url_iff : (kind.urlPrefix base).toList <+:
    (StatusRequest.mk (kind'.urlPrefix base) id).url.toList ↔ kind = kind' := by
  rw [toList_url, urlPrefix, String.toList_append, List.prefix_append_right_inj]
  constructor
  · intro h
    rcases List.prefix_or_prefix_of_prefix h (List.prefix_append _ _) with hprefix | hprefix
    · exact path_isPrefix_iff.mp hprefix
    · exact (path_isPrefix_iff.mp hprefix).symm
  · rintro rfl
    exact List.prefix_append _ _

theorem url_eq_iff : (StatusRequest.mk (kind.urlPrefix base) id).url =
    (StatusRequest.mk (kind'.urlPrefix base) id').url ↔ kind = kind' ∧ id = id' := by
  constructor
  · intro h
    have hbegins : (kind.urlPrefix base).toList <+:
        (StatusRequest.mk (kind.urlPrefix base) id).url.toList := urlPrefix_isPrefix_url_iff.mpr rfl
    rw [h, urlPrefix_isPrefix_url_iff] at hbegins
    subst hbegins
    have hid := congrArg String.toList h
    rw [toList_url, toList_url, List.append_cancel_left_eq, List.append_cancel_left_eq] at hid
    exact ⟨rfl, String.toList_injective hid⟩
  · rintro ⟨rfl, rfl⟩
    rfl

end StatusKind

namespace Session

variable {σ : Type} {settings : Settings} {o : StatusOptions}

theorem urls_of_statusCommand (hfound : o.target.missing? settings.presets = none)
    (haim : o.contentUrl = none) (api : Api σ) (files : FileTree) (w : σ) :
    let base := (o.target.url? settings.presets).getD settings.baseUrl
    ((fresh settings files).statusCommand api o w).2.1.calls.map (·.2.url) =
      [(StatusRequest.mk (o.kind.urlPrefix base) o.contentId).url] := by
  intro base
  obtain ⟨t, task, hrun, ht⟩ :=
    statusCommand_of_found (isNumbered_fresh settings files) hfound api w
  have hrequest := statusRequest_ofSettings settings o
  simp only [haim, Option.getD_none] at hrequest
  rw [hrun, ht.calls]
  exact congrArg (fun r : StatusRequest ↦ [r.url]) hrequest

/-- Under one base URL, lookups have the same URL only if they are for the same identifier in the
same kind, and not even the beginning of a URL can be taken for that of another kind. So it is with
the calls of lookup commands that name no URL of their own. -/
theorem kind_and_identifier_of_url (api : Api σ) :
    (∀ (base id id' : String) (kind kind' : StatusKind),
      (StatusRequest.mk (kind.urlPrefix base) id).url =
        (StatusRequest.mk (kind'.urlPrefix base) id').url ↔ kind = kind' ∧ id = id') ∧
    (∀ (base id : String) (kind kind' : StatusKind), (kind.urlPrefix base).toList <+:
      (StatusRequest.mk (kind'.urlPrefix base) id).url.toList ↔ kind = kind') ∧
    (∀ (base id : String), (StatusRequest.mk (StatusKind.content.urlPrefix base) id).url =
        (StatusRequest.mk (contentStatusUrl base) id).url ∧
      contentStatusUrl base = base ++ "/open/stats/content/") ∧
    ∀ (settings settings' : Settings) (files files' : FileTree) (o o' : StatusOptions) (w w' : σ),
      o.target.missing? settings.presets = none → o'.target.missing? settings'.presets = none →
      o.contentUrl = none → o'.contentUrl = none →
      (o.target.url? settings.presets).getD settings.baseUrl =
        (o'.target.url? settings'.presets).getD settings'.baseUrl →
      (((fresh settings files).statusCommand api o w).2.1.calls.map (·.2.url) =
          ((fresh settings' files').statusCommand api o' w').2.1.calls.map (·.2.url) ↔
        o.kind = o'.kind ∧ o.contentId = o'.contentId) := by
  refine ⟨fun _ _ _ _ _ ↦ StatusKind.url_eq_iff,
    fun _ _ _ _ ↦ StatusKind.urlPrefix_isPrefix_url_iff, fun _ _ ↦ ⟨rfl, rfl⟩, ?_⟩
  intro settings settings' files files' o o' w w' hfound hfound' haim haim' hbase
  rw [urls_of_statusCommand hfound haim, urls_of_statusCommand hfound' haim', ← hbase,
    List.singleton_inj]
  exact StatusKind.url_eq_iff

/-- An identifier that spells the path of another kind does not lead there. -/
theorem identifier_spelling_another_path :
    let api : Api Unit := fun _ w ↦ (⟨.ok .null, []⟩, w)
    let files : FileTree := { entries := [] }
    let o : StatusOptions :=
      { target := { url := some "http://h" }, contentId := "deal/by-cid/a" }
    let o' : StatusOptions := { contentId := "a", kind := .dealByCid }
    ((fresh {} files).statusCommand api o ()).2.1.calls.map (·.2.url) ≠
      ((fresh { baseUrl := "http://h" } files).statusCommand api o' ()).2.1.calls.map
        (·.2.url) := by
  intro api files o o' h
  obtain ⟨-, -, -, hcommands⟩ := kind_and_identifier_of_url api
  have hsame := (hcommands {} { baseUrl := "http://h" } files files o o' () () (by decide)
    (by decide) rfl rfl (by decide)).mp h
  exact absurd hsame.1 (by decide)

end Session

end DealForm
