import DealForm.Proofs.Session.Act
import Mathlib.Data.List.Induction
import Mathlib.Order.MinMax

/-!
# Histories of runs

What a run has done, told by the number of each step: `Does s steps k task a` says that step `k`
makes a task do `a`. Appending steps to a run leaves its history as it was, so statements about
runs are shown by induction from the end.
-/

namespace DealForm

/-- A part of the form, with what each act sets it to, if it does. -/
structure Part (β : Type) where
  read : Form → β
  sets : Act → Option β
  read_onForm : ∀ a f, read (a.onForm f) = (sets a).getD (read f)

namespace Session

variable {s : Session} {steps : List Step} {x : Step} {i j k task other : Nat} {a b : Act}

/-- A session on the form of some settings, in which nothing happened yet. -/
def fresh (settings : Settings) (files : FileTree) : Session :=
  .ofForm (.ofSettings settings) files

/-! ## Runs from the end -/

theorem run_append (s : Session) (xs ys : List Step) : s.run (xs ++ ys) = (s.run xs).run ys :=
  List.foldl_append

theorem run_concat (s : Session) (steps : List Step) (x : Step) :
    s.run (steps ++ [x]) = (s.run steps).step x := s.run_append steps [x]

def upTo (s : Session) (steps : List Step) (k : Nat) : Session :=
  s.run (steps.take k)

@[simp] theorem upTo_zero (s : Session) (steps : List Step) : s.upTo steps 0 = s := rfl

@[simp] theorem upTo_length (s : Session) (steps : List Step) :
    s.upTo steps steps.length = s.run steps := by
  rw [upTo, List.take_length]

theorem upTo_append (s : Session) (steps more : List Step) (h : k ≤ steps.length) :
    s.upTo (steps ++ more) k = s.upTo steps k := by
  rw [upTo, List.take_append_of_le_length h, upTo]

theorem upTo_succ (s : Session) (h : steps[k]? = some x) :
    s.upTo steps (k + 1) = (s.upTo steps k).step x := by
  rw [upTo, List.take_add_one, h, Option.toList_some, run_concat, upTo]

theorem run_eq_run_drop (s : Session) (steps : List Step) (k : Nat) :
    s.run steps = (s.upTo steps k).run (steps.drop k) := by
  rw [upTo, ← run_append, List.take_append_drop]

/-! ## What is done at a step -/

/-- Step `k` of a run makes a task do `a`. -/
def Does (s : Session) (steps : List Step) (k task : Nat) (a : Act) : Prop :=
  ∃ x, steps[k]? = some x ∧ x.task = task ∧ (s.upTo steps k).act? x = some a

theorem Does.lt_length (h : s.Does steps k task a) : k < steps.length := by
  obtain ⟨x, hx, -, -⟩ := h
  exact (List.getElem?_eq_some_iff.mp hx).1

theorem Does.unique (ha : s.Does steps k task a) (hb : s.Does steps k other b) :
    task = other ∧ a = b := by
  obtain ⟨x, hx, rfl, ha⟩ := ha
  obtain ⟨y, hy, rfl, hb⟩ := hb
  obtain rfl : x = y := Option.some.inj (hx.symm.trans hy)
  exact ⟨rfl, Option.some.inj (ha.symm.trans hb)⟩

theorem Does.performs (h : s.Does steps k task a) :
    (s.upTo steps k).Performs task a (s.upTo steps (k + 1)) := by
  obtain ⟨x, hx, rfl, ha⟩ := h
  rw [s.upTo_succ hx]
  exact performs_step ha

theorem Does.reads (h : s.Does steps k task a) : (s.upTo steps k).Reads a := by
  obtain ⟨x, -, -, hact⟩ := h
  exact reads_of_act? hact

theorem does_append_iff {more : List Step} (hk : k < steps.length) :
    s.Does (steps ++ more) k task a ↔ s.Does steps k task a := by
  simp only [Does, List.getElem?_append_left hk, s.upTo_append steps more hk.le]

theorem Does.append (h : s.Does steps k task a) (more : List Step) :
    s.Does (steps ++ more) k task a :=
  (does_append_iff h.lt_length).mpr h

theorem does_concat_iff : s.Does (steps ++ [x]) k task a ↔
    s.Does steps k task a ∨
      k = steps.length ∧ x.task = task ∧ (s.run steps).act? x = some a := by
  constructor
  · intro h
    have hk : k < steps.length + 1 := by simpa using h.lt_length
    rcases Nat.lt_succ_iff_lt_or_eq.mp hk with hlt | rfl
    · exact Or.inl ((does_append_iff hlt).mp h)
    · obtain ⟨y, hy, htask, hact⟩ := h
      obtain rfl : x = y := by simpa using hy
      rw [s.upTo_append steps [x] le_rfl, upTo_length] at hact
      exact Or.inr ⟨rfl, htask, hact⟩
  · rintro (h | ⟨rfl, htask, hact⟩)
    · exact h.append [x]
    · refine ⟨x, by simp, htask, ?_⟩
      rw [s.upTo_append steps [x] le_rfl, upTo_length]
      exact hact

theorem does_take_iff {n : Nat} :
    s.Does (steps.take n) k task a ↔ k < n ∧ s.Does steps k task a := by
  constructor
  · intro h
    refine ⟨(List.length_take ▸ h.lt_length).trans_le (min_le_left _ _), ?_⟩
    simpa only [List.take_append_drop] using h.append (steps.drop n)
  · rintro ⟨hk, h⟩
    have hk' : k < (steps.take n).length := by
      rw [List.length_take]
      exact lt_min hk h.lt_length
    rw [← List.take_append_drop n steps] at h
    exact (does_append_iff hk').mp h

/-! ## The last act that sets a part of the form -/

/-- A part of the form is what the last act that sets it set it to, if any did. -/
theorem last_set {β : Type} (part : Part β) (s : Session) (steps : List Step) :
    ((∀ k task a, s.Does steps k task a → part.sets a = none) ∧
        part.read (s.run steps).form = part.read s.form) ∨
      ∃ k task a, s.Does steps k task a ∧ part.sets a = some (part.read (s.run steps).form) ∧
        ∀ j other b, k < j → s.Does steps j other b → part.sets b = none := by
  induction steps using List.reverseRecOn with
  | nil => exact Or.inl ⟨fun k task a hd ↦ absurd hd.lt_length (Nat.not_lt_zero k), rfl⟩
  | append_singleton steps x ih =>
      rw [run_concat]
      -- The last step sets the part itself, or the last act to set it is that of the run before.
      cases hx : (s.run steps).act? x with
      | none =>
          have hsame : ∀ k task a, s.Does (steps ++ [x]) k task a ↔ s.Does steps k task a := by
            intro k task a
            simp [does_concat_iff, hx]
          simpa only [step_of_act?_eq_none hx, hsame] using ih
      | some a =>
          have hform := part.read_onForm a (s.run steps).form
          rw [← (performs_step hx).form] at hform
          cases ha : part.sets a with
          | some v =>
              refine Or.inr ⟨steps.length, x.task, a, does_concat_iff.mpr (Or.inr ⟨rfl, rfl, hx⟩),
                ?_, ?_⟩
              · rw [hform, ha, Option.getD_some]
              · intro j other b hj hd
                have := hd.lt_length
                simp only [List.length_append, List.length_singleton] at this
                omega
          | none =>
              rw [ha, Option.getD_none] at hform
              have hnew : ∀ k other b, s.Does (steps ++ [x]) k other b →
                  s.Does steps k other b ∨ part.sets b = none := by
                intro k other b hd
                rcases does_concat_iff.mp hd with hd | ⟨-, -, hb⟩
                · exact Or.inl hd
                · exact Or.inr (Option.some.inj (hx.symm.trans hb) ▸ ha)
              rw [hform]
              rcases ih with ⟨hnone, hpart⟩ | ⟨k, task, c, hd, hc, hlast⟩
              · exact Or.inl ⟨fun k other b hd ↦ (hnew k other b hd).elim (hnone k other b) id,
                  hpart⟩
              · exact Or.inr ⟨k, task, c, hd.append [x], hc, fun j other b hj hd ↦
                  (hnew j other b hd).elim (hlast j other b hj) id⟩

theorem read_upTo_eq {β : Type} (part : Part β) (hij : i ≤ j)
    (hquiet : ∀ k task a, i ≤ k → k < j → s.Does steps k task a → part.sets a = none) :
    part.read (s.upTo steps j).form = part.read (s.upTo steps i).form := by
  induction j, hij using Nat.le_induction with
  | base => rfl
  | succ j hij ih =>
      have hbefore := ih fun k task a hik hkj ↦ hquiet k task a hik (Nat.lt_succ_of_lt hkj)
      cases hx : steps[j]? with
      | none => simpa [upTo, List.take_add_one, hx] using hbefore
      | some x =>
          rw [s.upTo_succ hx]
          cases ha : (s.upTo steps j).act? x with
          | none => rw [step_of_act?_eq_none ha, hbefore]
          | some a =>
              have hnone := hquiet j x.task a hij (Nat.lt_succ_self j) ⟨x, hx, rfl, ha⟩
              rw [(performs_step ha).form, part.read_onForm, hnone, Option.getD_none, hbefore]

end Session

end DealForm
