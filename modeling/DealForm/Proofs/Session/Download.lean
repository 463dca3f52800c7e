import DealForm.Proofs.Session.Response

/-!
# What a download saves

A download reads the text and then, in a step of its own, the identifier that names its file. The
two belong to one moment unless a lookup for another identifier shows its reply in between. Then
the file is named after that lookup and holds the text from before.
-/

namespace DealForm.Session

variable {s : Session} {steps : List Step} {i j k l task other : Nat} {r : StatusRequest}

/-- The identifier whose reply is shown before step `k`. -/
def shownAt (s : Session) (steps : List Step) (k : Nat) : Option String :=
  (s.upTo steps k).form.display.responseContentId

theorem shownAt_eq_of_quiet (hij : i ≤ j)
    (h : ∀ l task r reply, i ≤ l → l < j → ¬ s.Does steps l task (.showStatus r reply)) :
    s.shownAt steps j = s.shownAt steps i := by
  refine read_upTo_eq .shownId hij fun l task a hil hlj hd ↦ ?_
  cases ha : Part.shownId.sets a with
  | none => rfl
  | some contentId =>
      obtain ⟨r, reply, rfl, -⟩ := Part.shownId_sets_eq_some ha
      exact absurd hd (h l task r reply hil hlj)

/-- Of the lookups that show a reply before step `j`, the last one does so in step `l`. -/
def LastShown (s : Session) (steps : List Step) (j l : Nat) (r : StatusRequest) : Prop :=
  l < j ∧ (∃ task reply, s.Does steps l task (.showStatus r reply)) ∧
    ∀ m other r' reply', l < m → m < j → ¬ s.Does steps m other (.showStatus r' reply')

theorem LastShown.shownAt_eq (h : s.LastShown steps j l r) :
    s.shownAt steps j = some r.contentId := by
  obtain ⟨hlj, ⟨task, reply, hd⟩, hlast⟩ := h
  have hkept : s.shownAt steps j = s.shownAt steps (l + 1) :=
    shownAt_eq_of_quiet hlj fun m other r' reply' hlm hmj ↦ hlast m other r' reply' hlm hmj
  rw [hkept, shownAt, hd.performs.form]
  rfl

theorem exists_lastShown_or (s : Session) (steps : List Step) (j : Nat) :
    (∃ l r, s.LastShown steps j l r) ∨
      ∀ l task r reply, l < j → ¬ s.Does steps l task (.showStatus r reply) := by
  rcases last_set .shownId s (steps.take j) with ⟨hnever, -⟩ | ⟨l, task, a, hl, ha, hlast⟩
  · right
    intro l task r reply hlj hd
    cases hnever l task _ (does_take_iff.mpr ⟨hlj, hd⟩)
  · left
    obtain ⟨r, reply, rfl, -⟩ := Part.shownId_sets_eq_some ha
    obtain ⟨hlj, hl⟩ := does_take_iff.mp hl
    refine ⟨l, r, hlj, ⟨task, reply, hl⟩, fun m other r' reply' hlm hmj hm ↦ ?_⟩
    cases hlast m other _ hlm (does_take_iff.mpr ⟨hmj, hm⟩)

/-- From step `i` to step `j` the identifier shown changes just if the last lookup that shows its
reply in between is for another one. -/
theorem shownAt_ne_iff (hij : i ≤ j) : s.shownAt steps j ≠ s.shownAt steps i ↔
    ∃ l r, i ≤ l ∧ s.LastShown steps j l r ∧ some r.contentId ≠ s.shownAt steps i := by
  constructor
  · intro hne
    rcases s.exists_lastShown_or steps j with ⟨l, r, hlast⟩ | hnone
    · have hil : i ≤ l := by
        by_contra hli
        apply hne
        apply shownAt_eq_of_quiet hij
        intro m task r' reply' him hmj
        exact hlast.2.2 m task r' reply' (by omega) hmj
      exact ⟨l, r, hil, hlast, hlast.shownAt_eq ▸ hne⟩
    · have hsame := shownAt_eq_of_quiet hij fun l task r reply _ ↦ hnone l task r reply
      exact absurd hsame hne
  · rintro ⟨l, r, -, hlast, hne⟩
    rwa [hlast.shownAt_eq]

theorem Does.of_save (hnew : s.tasks task = none) {file : Path} {text : String}
    {result : Except FileFault Unit} (h : s.Does steps k task (.save file text result)) :
    ∃ i j directory name, i < j ∧ j < k ∧ s.Does steps i task (.readResponse directory text) ∧
      s.Does steps j task (.nameFile directory name text) ∧
      file = directory.join (Path.ofString name) := by
  rcases h.preceded hnew with ⟨operation, hstart⟩ | ⟨j, a, hj, hname, hprecedes⟩
  · cases hstart
  · cases hprecedes with
    | save directory name =>
        obtain ⟨i, hi, hread⟩ := hname.of_precedes hnew (.nameFile directory name text)
          (by rintro _ ⟨⟩; rfl)
        exact ⟨i, j, directory, name, hi, hj, hread, hname, rfl⟩

/-- A saved text is the response area at the first read of its download, and the file is named
after the identifier at the second read. The two were shown together at the first read, except
just where the last lookup to show its reply between the reads is for another identifier. -/
theorem download_of_two_reads (settings : Settings) (files : FileTree) (steps : List Step)
    {k task : Nat} {file : Path} {text : String}
    (h : (fresh settings files).Does steps k task (.save file text (.ok ()))) :
    let s := fresh settings files
    ∃ (i j : Nat) (directory : Path), i < j ∧ j < k ∧
      s.Does steps i task (.readResponse directory text) ∧
      s.Does steps j task (.nameFile directory (downloadName (s.shownAt steps j)) text) ∧
      text = (s.upTo steps i).form.display.responseArea ∧
      file = directory.join (Path.ofString (downloadName (s.shownAt steps j))) ∧
      (s.shownAt steps j ≠ s.shownAt steps i ↔
        ∃ l r, i < l ∧ s.LastShown steps j l r ∧ some r.contentId ≠ s.shownAt steps i) := by
  intro s
  obtain ⟨i, j, directory, name, hi, hj, hread, hname, hfile⟩ := Does.of_save rfl h
  have htext : text = (s.upTo steps i).form.display.responseArea := hread.reads
  obtain rfl : name = downloadName (s.shownAt steps j) := hname.reads
  refine ⟨i, j, directory, hi, hj, hread, hname, htext, hfile, (shownAt_ne_iff hi.le).trans ?_⟩
  constructor
  · rintro ⟨l, r, hil, hlast, hne⟩
    -- The download itself acts in step `i`.
    have hli : i ≠ l := by
      rintro rfl
      obtain ⟨-, ⟨other, reply, hd⟩, -⟩ := hlast
      cases (hread.unique hd).2
    exact ⟨l, r, lt_of_le_of_ne hil hli, hlast, hne⟩
  · rintro ⟨l, r, hil, hlast, hne⟩
    exact ⟨l, r, hil.le, hlast, hne⟩

/-- A lookup shows its reply between the two reads of a download that began while another reply was
shown. -/
def overtakenSteps : List Step :=
  [.start 0 (.status "a"), .advance 0, .advance 0, .answer 0 (.ok .null), .advance 0,
    .start 1 (.status "b"), .advance 1, .advance 1, .start 2 (.download ⟨[]⟩), .advance 2,
    .answer 1 (.error .requestFailed), .advance 1, .advance 2, .advance 2]

/-- The file is named after the second lookup and holds the reply to the first one. -/
theorem save_of_overtakenSteps : (fresh {} ⟨[], []⟩).Does overtakenSteps 13 2
    (.save (Path.ofString "status-check-forb.txt") "null" (.ok ())) :=
  ⟨_, rfl, rfl, rfl⟩

theorem responseArea_of_overtakenSteps (m : Nat)
    (hid : (fresh {} ⟨[], []⟩).shownAt overtakenSteps m = some "b") :
    ((fresh {} ⟨[], []⟩).upTo overtakenSteps m).form.display.responseArea ≠ "null" := by
  have hall : ∀ m < 15, (fresh {} ⟨[], []⟩).shownAt overtakenSteps m = some "b" →
      ((fresh {} ⟨[], []⟩).upTo overtakenSteps m).form.display.responseArea ≠ "null" := by decide
  rcases Nat.lt_or_ge m 15 with hm | hm
  · exact hall m hm hid
  · have hlong : overtakenSteps.take m = overtakenSteps.take 14 := by
      rw [List.take_of_length_le (by simp [overtakenSteps]; omega),
        List.take_of_length_le (by simp [overtakenSteps])]
    rw [shownAt, upTo, hlong] at hid
    rw [upTo, hlong]
    exact hall 14 (by omega) hid

theorem overtaken_download_reads :
    (fresh {} ⟨[], []⟩).Does overtakenSteps 13 2
        (.save (Path.ofString "status-check-forb.txt") "null" (.ok ())) ∧
      ∃ (i j : Nat) (directory : Path), i < j ∧ j < 13 ∧
        "null" = ((fresh {} ⟨[], []⟩).upTo overtakenSteps i).form.display.responseArea ∧
        Path.ofString "status-check-forb.txt" = directory.join
          (Path.ofString (downloadName ((fresh {} ⟨[], []⟩).shownAt overtakenSteps j))) := by
  obtain ⟨i, j, directory, hi, hj, -, -, htext, hfile, -⟩ :=
    download_of_two_reads {} ⟨[], []⟩ overtakenSteps save_of_overtakenSteps
  exact ⟨save_of_overtakenSteps, i, j, directory, hi, hj, htext, hfile⟩

/-- A saved text need not be one that was ever shown with the identifier which names its file. -/
theorem download_can_be_torn :
    ¬ ∀ (settings : Settings) (files : FileTree) (steps : List Step) (j k task : Nat)
        (directory file : Path) (name text contentId : String),
      (fresh settings files).Does steps k task (.save file text (.ok ())) →
      (fresh settings files).Does steps j task (.nameFile directory name text) →
      (fresh settings files).shownAt steps j = some contentId →
      ∃ m, (fresh settings files).shownAt steps m = some contentId ∧
        ((fresh settings files).upTo steps m).form.display.responseArea = text := by
  intro h
  obtain ⟨m, hid, htext⟩ := h {} ⟨[], []⟩ overtakenSteps 12 13 2 ⟨[]⟩ _ _ "null" "b"
    save_of_overtakenSteps ⟨_, rfl, rfl, rfl⟩ rfl
  exact responseArea_of_overtakenSteps m hid htext

end DealForm.Session
