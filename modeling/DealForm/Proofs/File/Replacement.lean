import DealForm.Proofs.File.Creation

/-!
# What a write replaces

A path that can not be followed leads somewhere once the directories that it misses are made. Where
it leads nothing stood before, unless the path goes down into one of these directories and up again:
then it can lead to a file that was there all the time.
-/

namespace DealForm.FileTree

variable {t t' : FileTree} {place next q : Location} {name : Name} {names : List Name} {p : Path}
  {content : Bytes} {text : String} {result : Except FileFault Unit}

/-! ## Sound trees stay sound -/

theorem IsSound.overwrite (h : t.IsSound) (hwrite : t.overwrite p content = .ok t') :
    t'.IsSound := by
  obtain ⟨directory, name, htarget, -, -, hfile, rfl⟩ := overwrite_eq_ok hwrite
  obtain ⟨-, -, -, hdirectory, -, -⟩ := target_eq_name htarget
  have hplace : directory ++ [name] ≠ [] := by simp
  have hkeeps := keeps_put hplace hfile (.file content)
  refine ⟨fun q hq above habove hne ↦ hkeeps.isDirectoryAt above ?_,
    fun above habove ↦ hkeeps.isDirectoryAt above (h.start above habove)⟩
  by_cases hsame : directory ++ [name] = q
  · subst hsame
    rcases List.prefix_concat_iff.mp habove with hall | hbefore
    · exact absurd hall hne
    · by_cases hlast : above = directory
      · rw [hlast]
        exact hdirectory
      · exact h.within directory (isSome_of_isDirectoryAt hdirectory) above hbefore hlast
  · rw [node?_put hplace, if_neg hsame] at hq
    exact h.within q hq above habove hne

theorem IsSound.writeBytes (h : t.IsSound) (hwrite : t.writeBytes p content = (t', result)) :
    t'.IsSound := by
  obtain ⟨t₀, hmade, ⟨-, hoverwrite⟩ | ⟨-, -, rfl⟩⟩ := exists_overwrite_of_writeBytes hwrite
  · exact (hmade.isSound h).overwrite hoverwrite
  · exact hmade.isSound h

theorem keeps_writeBytes (hwrite : t.writeBytes p content = (t', result)) : t.Keeps t' := by
  obtain ⟨t₀, hmade, ⟨-, hoverwrite⟩ | ⟨-, -, rfl⟩⟩ := exists_overwrite_of_writeBytes hwrite
  · obtain ⟨place, hplace, hfile, rfl, -⟩ := locate_overwrite hoverwrite
    exact hmade.keeps.trans (keeps_put hplace hfile _)
  · exact hmade.keeps

theorem writes_of_writeBytes (hwrite : t.writeBytes p content = (t', .ok ())) :
    t.Writes p content t' := by
  obtain ⟨t₀, hmade, ⟨-, hoverwrite⟩ | ⟨_, hfault, -⟩⟩ := exists_overwrite_of_writeBytes hwrite
  · exact hmade.writes hoverwrite
  · cases hfault

/-! ## Down and up again -/

/-- The path goes up from a place where only the later tree has an entry. -/
def GoesUpFromNew (t t' : FileTree) (p : Path) : Prop :=
  ∃ front q, front ++ [Path.dotDot] <+: p.names ∧ t'.walk (t'.start p) front = .ok q ∧
    t.node? q = none

theorem GoesUpFromNew.dotDot_mem_names (h : GoesUpFromNew t t' p) : Path.dotDot ∈ p.names := by
  obtain ⟨front, -, hfront, -⟩ := h
  exact hfront.subset (by simp)

/-- From a place where a sound tree has no entry, names lead to an entry of it by going up only. -/
theorem IsSound.exists_dotDot (h : t.IsSound) (hplace : t.node? place = none)
    (hwalk : t'.walk place names = .ok q) (hq : (t.node? q).isSome = true) :
    ∃ front r, front ++ [Path.dotDot] <+: names ∧ t'.walk place front = .ok r ∧
      t.node? r = none := by
  induction names generalizing place with
  | nil =>
      cases hwalk
      rw [hplace] at hq
      cases hq
  | cons name names ih =>
      obtain ⟨next, hstep, hrest⟩ := bind_eq_ok.mp hwalk
      by_cases hdotDot : name = Path.dotDot
      · subst hdotDot
        exact ⟨[], place, ⟨names, rfl⟩, rfl, hplace⟩
      · have hnext : t.node? next = none := by
          by_cases hdot : name = Path.dot
          · rcases step_eq_ok hstep with ⟨hdirectory, -⟩
            simp only [step, hdirectory, hdot, Bool.not_true, Bool.false_eq_true,
              ↓reduceIte] at hstep
            cases hstep
            exact hplace
          · rw [step_eq_append hdot hdotDot hstep]
            -- an entry would stand in the directory that is missing
            by_contra hentry
            have hdirectory := h.within (place ++ [name]) (Option.isSome_iff_ne_none.mpr hentry)
              place (List.prefix_append _ _) (by simp)
            rw [isDirectoryAt, hplace] at hdirectory
            cases hdirectory
        obtain ⟨front, r, hfront, hr, hmissing⟩ := ih hnext hrest
        exact ⟨name :: front, r, List.cons_prefix_cons.mpr ⟨rfl, hfront⟩,
          bind_eq_ok.mpr ⟨next, hstep, hr⟩, hmissing⟩

/-- A step that can not be made from a directory, and later can, leads to a new entry. -/
theorem node?_of_step {fault : FileFault} (hdirectory : t.isDirectoryAt place = true)
    (hbefore : t.step place name = .error fault) (hstep : t'.step place name = .ok next) :
    t.node? next = none := by
  have hlength := length_le_of_step hstep
  unfold step at hbefore
  split_ifs at hbefore with hfile hdot hdotDot hlong hentry
  · simp [hdirectory] at hfile
  · exact absurd hlength (Nat.not_le.mpr hlong)
  · rw [step_eq_append hdot hdotDot hstep]
    simpa using hentry

/-- Names that lead to an entry of a sound tree in a later tree only go up from a directory that is
new in the later one. -/
theorem IsSound.exists_dotDot_of_walk (h : t.IsSound) (hkeeps : t.Keeps t')
    (hnew : ∀ r, t'.isDirectoryAt r = true → t.node? r = none ∨ t.isDirectoryAt r = true)
    (hplace : (t.node? place).isSome = true) (hlost : ∀ r, t.walk place names ≠ .ok r)
    (hwalk : t'.walk place names = .ok q) (hq : (t.node? q).isSome = true) :
    ∃ front r, front ++ [Path.dotDot] <+: names ∧ t'.walk place front = .ok r ∧
      t.node? r = none := by
  induction names generalizing place with
  | nil => exact absurd rfl (hlost place)
  | cons name names ih =>
      obtain ⟨next, hstep, hrest⟩ := bind_eq_ok.mp hwalk
      have hextend : (∃ front r, front ++ [Path.dotDot] <+: names ∧
          t'.walk next front = .ok r ∧ t.node? r = none) →
          ∃ front r, front ++ [Path.dotDot] <+: name :: names ∧
            t'.walk place front = .ok r ∧ t.node? r = none := by
        rintro ⟨front, r, hfront, hr, hmissing⟩
        exact ⟨name :: front, r, List.cons_prefix_cons.mpr ⟨rfl, hfront⟩,
          bind_eq_ok.mpr ⟨next, hstep, hr⟩, hmissing⟩
      cases hbefore : t.step place name with
      | ok next' =>
          obtain rfl : next' = next := Except.ok.inj ((hkeeps.step hbefore).symm.trans hstep)
          refine hextend (ih (h.isSome_of_step hbefore) (fun r hr ↦ ?_) hrest)
          exact hlost r (bind_eq_ok.mpr ⟨next', hbefore, hr⟩)
      | error fault =>
          have hdirectory : t.isDirectoryAt place = true := by
            rcases hnew place (step_eq_ok hstep).1 with hnone | hdirectory
            · rw [hnone] at hplace
              cases hplace
            · exact hdirectory
          exact hextend (h.exists_dotDot (node?_of_step hdirectory hbefore hstep) hrest hq)

/-- A file is written where nothing stood if its path led nowhere before, unless the path goes up
from a directory that is made for it. -/
theorem Writes.node?_eq_none_or (hwrites : t.Writes p content t') (h : t.IsSound)
    (hlost : t.holds p = false) (hlocate : t'.locate p = .ok place) :
    t.node? place = none ∨ GoesUpFromNew t t' p := by
  obtain ⟨husable, hwalk, hends⟩ := locate_eq_ok.mp hlocate
  obtain ⟨place', hlocate', hcontent, hothers⟩ := hwrites.exists_place
  obtain rfl : place' = place := Except.ok.inj (hlocate'.symm.trans hlocate)
  have hfile : t'.isDirectoryAt place' = false := isDirectoryAt_of_content? hcontent
  have hslash : p.endsInSlash = false := by
    refine Bool.eq_false_iff.mpr fun hslash ↦ ?_
    rw [hends hslash] at hfile
    cases hfile
  by_cases hnode : t.node? place' = none
  · exact Or.inl hnode
  refine Or.inr ?_
  have hstart : t'.start p = t.start p := hwrites.keeps.start_eq p
  have hnowhere : ∀ r, t.walk (t'.start p) p.names ≠ .ok r := by
    intro r hr
    rw [hstart] at hr
    have hthere : t.locate p = .ok r :=
      locate_eq_ok.mpr ⟨husable, hr, fun hends ↦ by simp [hslash] at hends⟩
    rw [holds, hthere] at hlost
    cases hlost
  have hnew : ∀ r, t'.isDirectoryAt r = true → t.node? r = none ∨ t.isDirectoryAt r = true := by
    intro r hr
    have hne : r ≠ place' := by
      rintro rfl
      rw [hr] at hfile
      cases hfile
    rcases (hothers r hne).2 with hsame | ⟨hnone, -⟩
    · exact Or.inr (by rwa [isDirectoryAt, ← hsame])
    · exact Or.inl hnone
  have hplace : (t.node? (t'.start p)).isSome = true := by
    rw [hstart]
    exact isSome_of_isDirectoryAt (h.isDirectoryAt_start p)
  exact h.exists_dotDot_of_walk hwrites.keeps hnew hplace hnowhere hwalk
    (Option.isSome_iff_ne_none.mpr hnode)

end DealForm.FileTree
