import Mathlib.Data.List.Forall2
import Phrasebook.Error

/-!
# Outcomes of sequences of steps

A computation that may fail is opened by saying when it succeeds: a sequence of two steps succeeds
if both do, a step for every element of a list if each of them does, and a step keeps its success
where its error is passed on under another name. Otherwise it fails as the first of its steps that
does. Two computations are compared step by step: if each step of one corresponds to the step of the
other, so do their outcomes.
-/

namespace Phrasebook

variable {ε δ α β : Type}

/-- A sequence of two steps succeeds exactly if both of them do. -/
theorem bind_eq_ok_iff {x : Except ε α} {f : α → Except ε β} {b : β} :
    (x >>= f) = .ok b ↔ ∃ a, x = .ok a ∧ f a = .ok b := by
  cases x with
  | error e => simp [bind, Except.bind]
  | ok a => simp [bind, Except.bind]

/-- A result that is changed afterwards was there before. -/
theorem map_eq_ok_iff {x : Except ε α} {f : α → β} {b : β} :
    f <$> x = .ok b ↔ ∃ a, x = .ok a ∧ f a = b := by
  cases x with
  | error e => simp [Functor.map, Except.map]
  | ok a => simp [Functor.map, Except.map]

theorem toOption_eq_some_iff {x : Except ε α} {a : α} : x.toOption = some a ↔ x = .ok a := by
  cases x with
  | error e => simp [Except.toOption]
  | ok b => simp [Except.toOption]

/-- Passing on an error under another name does not change a success. -/
theorem mapError_eq_ok_iff {x : Except ε α} {f : ε → δ} {a : α} :
    x.mapError f = .ok a ↔ x = .ok a := by
  cases x with
  | error e => simp [Except.mapError]
  | ok b => simp [Except.mapError]

theorem liftM_fault_eq_ok_iff {x : Except Fault α} {a : α} :
    (liftM x : Except Error α) = .ok a ↔ x = .ok a := mapError_eq_ok_iff

theorem liftM_invalid_eq_ok_iff {x : Except Invalid α} {a : α} :
    (liftM x : Except Error α) = .ok a ↔ x = .ok a := mapError_eq_ok_iff

theorem liftM_absent_eq_ok_iff {x : Except LocaleDataAbsent α} {a : α} :
    (liftM x : Except Error α) = .ok a ↔ x = .ok a := mapError_eq_ok_iff

/-- A step for every element of a list succeeds exactly if each of them does. -/
theorem mapM_eq_ok_iff {f : α → Except ε β} {l : List α} {results : List β} :
    l.mapM f = .ok results ↔ List.Forall₂ (fun b a => f a = .ok b) results l := by
  induction l generalizing results with
  | nil => cases results <;> simp [pure, Except.pure]
  | cons a rest ih =>
      rw [List.mapM_cons, bind_eq_ok_iff]
      constructor
      · rintro ⟨b, hb, h⟩
        obtain ⟨others, hothers, h⟩ := bind_eq_ok_iff.mp h
        obtain rfl := Except.ok.inj h
        exact .cons hb (ih.mp hothers)
      · rintro (_ | ⟨hb, hothers⟩)
        exact ⟨_, hb, bind_eq_ok_iff.mpr ⟨_, ih.mpr hothers, rfl⟩⟩

/-- A sequence of two steps fails if the first does, or else the second. -/
theorem bind_eq_error_iff {x : Except ε α} {f : α → Except ε β} {e : ε} :
    (x >>= f) = .error e ↔ x = .error e ∨ ∃ a, x = .ok a ∧ f a = .error e := by
  cases x with
  | error e' => simp [bind, Except.bind]
  | ok a => simp [bind, Except.bind]

theorem map_eq_error_iff {x : Except ε α} {f : α → β} {e : ε} :
    f <$> x = .error e ↔ x = .error e := by
  cases x with
  | error e' => simp [Functor.map, Except.map]
  | ok a => simp [Functor.map, Except.map]

/-- A step fails on an element of a list and on none before it. -/
def FirstFails (f : α → Except ε β) (l : List α) (e : ε) : Prop :=
  ∃ before a after, l = before ++ a :: after ∧ (∀ b ∈ before, ∃ r, f b = .ok r) ∧ f a = .error e

theorem firstFails_cons {f : α → Except ε β} {a : α} {rest : List α} {e : ε} :
    FirstFails f (a :: rest) e ↔ f a = .error e ∨ ∃ r, f a = .ok r ∧ FirstFails f rest e := by
  constructor
  · rintro ⟨before, a', after, hl, hbefore, ha'⟩
    rcases List.cons_eq_append_iff.mp hl with ⟨-, hcons⟩ | ⟨before', rfl, hrest⟩
    · exact .inl ((List.cons.inj hcons).1 ▸ ha')
    · obtain ⟨⟨r, hr⟩, hbefore'⟩ := List.forall_mem_cons.mp hbefore
      exact .inr ⟨r, hr, before', a', after, hrest, hbefore', ha'⟩
  · rintro (ha | ⟨r, hr, before, a', after, rfl, hbefore, ha'⟩)
    · exact ⟨[], a, rest, rfl, nofun, ha⟩
    · exact ⟨a :: before, a', after, rfl, List.forall_mem_cons.mpr ⟨⟨r, hr⟩, hbefore⟩, ha'⟩

/-- Steps for every element of a list fail with the first failure among them. -/
theorem mapM_eq_error_iff {f : α → Except ε β} {l : List α} {e : ε} :
    l.mapM f = .error e ↔ FirstFails f l e := by
  induction l with
  | nil => simp [FirstFails, pure, Except.pure]
  | cons a rest ih =>
      have hrest (r : β) : (rest.mapM f >>= fun results => pure (r :: results)) = .error e ↔
          FirstFails f rest e := by
        rw [bind_eq_error_iff, ih]
        exact or_iff_left nofun
      rw [List.mapM_cons, bind_eq_error_iff, firstFails_cons]
      simp only [hrest]

section Partners

variable {r : α → β → Prop}

/-- Elements that each have a partner have a list of partners. -/
theorem exists_forall₂ {l : List β} (h : ∀ b ∈ l, ∃ a, r a b) : ∃ l', List.Forall₂ r l' l := by
  induction l with
  | nil => exact ⟨[], .nil⟩
  | cons b rest ih =>
      obtain ⟨a, ha⟩ := h b (List.mem_cons_self ..)
      obtain ⟨rest', hrest⟩ := ih fun b' hb => h b' (List.mem_cons_of_mem b hb)
      exact ⟨a :: rest', .cons ha hrest⟩

theorem exists_left_of_forall₂ {l : List α} {l' : List β} (h : List.Forall₂ r l l') {b : β}
    (hb : b ∈ l') : ∃ a ∈ l, r a b := by
  induction h with
  | nil => simp at hb
  | @cons a b' rest rest' hr _ ih =>
      rcases List.mem_cons.mp hb with rfl | hb
      · exact ⟨a, List.mem_cons_self .., hr⟩
      · obtain ⟨a', ha', hr'⟩ := ih hb
        exact ⟨a', List.mem_cons_of_mem a ha', hr'⟩

theorem exists_right_of_forall₂ {l : List α} {l' : List β} (h : List.Forall₂ r l l') {a : α}
    (ha : a ∈ l) : ∃ b ∈ l', r a b :=
  exists_left_of_forall₂ (r := flip r) h.flip ha

end Partners

/-- Two outcomes correspond if both are results in one relation or both are errors in another. -/
inductive Corresponds (re : ε → ε → Prop) (r : α → β → Prop) : Except ε α → Except ε β → Prop
  | ok {a : α} {b : β} (h : r a b) : Corresponds re r (.ok a) (.ok b)
  | error {e e' : ε} (h : re e e') : Corresponds re r (.error e) (.error e')

namespace Corresponds

variable {α' β' : Type} {re : ε → ε → Prop} {r : α → β → Prop} {r' : α' → β' → Prop}

/-- Sequences of two steps correspond if their steps do. -/
theorem bind {x : Except ε α} {y : Except ε β} {f : α → Except ε α'} {g : β → Except ε β'}
    (h : Corresponds re r x y) (hnext : ∀ a b, r a b → Corresponds re r' (f a) (g b)) :
    Corresponds re r' (x >>= f) (y >>= g) := by
  cases h with
  | ok h => exact hnext _ _ h
  | error h => exact .error h

/-- Steps for every element of two lists correspond if those for elements at one place do. -/
theorem mapM {l : List α} {l' : List β} {f : α → Except ε α'} {g : β → Except ε β'}
    (h : List.Forall₂ r l l') (hstep : ∀ a b, r a b → Corresponds re r' (f a) (g b)) :
    Corresponds re (List.Forall₂ r') (l.mapM f) (l'.mapM g) := by
  induction h with
  | nil => exact .ok .nil
  | cons hab _ ih =>
      rw [List.mapM_cons, List.mapM_cons]
      refine bind (hstep _ _ hab) fun a b hr => ?_
      exact bind ih fun rest rest' hrest => .ok (.cons hr hrest)

theorem imp {x : Except ε α} {y : Except ε β} {s : α → β → Prop} (h : Corresponds re r x y)
    (himp : ∀ a b, r a b → s a b) : Corresponds re s x y := by
  cases h with
  | ok h => exact .ok (himp _ _ h)
  | error h => exact .error h

end Corresponds

end Phrasebook
