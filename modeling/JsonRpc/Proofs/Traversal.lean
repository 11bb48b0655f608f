import Mathlib.Data.List.Forall2

/-!
# Lists of what can fail

A function that can fail is applied to the elements of a list, one after the
other.  Either it gives a value for each of them, or there is a first one on
which it fails, and the error is that one's.
-/

namespace JsonRpc

variable {ε α β : Type} {f : α → Except ε β} {x : α} {xs : List α} {ys : List β} {e : ε}

theorem bind_eq_ok_iff {r : Except ε α} {y : β} :
    (r >>= f) = .ok y ↔ ∃ x, r = .ok x ∧ f x = .ok y := by
  cases r <;> simp [bind, Except.bind]

theorem map_eq_ok_iff {g : α → β} {r : Except ε α} {y : β} :
    r.map g = .ok y ↔ ∃ x, r = .ok x ∧ g x = y := by
  cases r <;> simp [Except.map]

theorem mapM_cons_eq_ok_iff :
    (x :: xs).mapM f = .ok ys ↔
      ∃ y rest, f x = .ok y ∧ xs.mapM f = .ok rest ∧ ys = y :: rest := by
  rw [List.mapM_cons]
  cases f x with
  | error e => simp [bind, Except.bind]
  | ok y => cases xs.mapM f <;> simp [bind, Except.bind, pure, Except.pure, eq_comm]

theorem mapM_cons_eq_error_iff :
    (x :: xs).mapM f = .error e ↔
      f x = .error e ∨ ∃ y, f x = .ok y ∧ xs.mapM f = .error e := by
  rw [List.mapM_cons]
  cases f x with
  | error e => simp [bind, Except.bind]
  | ok y => cases xs.mapM f <;> simp [bind, Except.bind, pure, Except.pure]

theorem mapM_eq_ok_iff :
    xs.mapM f = .ok ys ↔ List.Forall₂ (fun x y => f x = .ok y) xs ys := by
  induction xs generalizing ys with
  | nil =>
      rw [List.forall₂_nil_left_iff, List.mapM_nil]
      exact ⟨fun h => (Except.ok.inj h).symm, fun h => congrArg Except.ok h.symm⟩
  | cons x xs ih =>
      rw [mapM_cons_eq_ok_iff, List.forall₂_cons_left_iff]
      simp only [ih]

theorem exists_forall₂_iff {R : α → β → Prop} :
    (∃ ys, List.Forall₂ R xs ys) ↔ ∀ x ∈ xs, ∃ y, R x y := by
  induction xs with
  | nil => simp
  | cons x xs ih =>
      rw [List.forall_mem_cons, ← ih]
      constructor
      · rintro ⟨_, h⟩
        cases h with
        | cons hx hxs => exact ⟨⟨_, hx⟩, _, hxs⟩
      · rintro ⟨⟨y, hx⟩, ys, hxs⟩
        exact ⟨y :: ys, .cons hx hxs⟩

theorem forall₂_of_mem {R S : α → β → Prop} (h : List.Forall₂ R xs ys)
    (hmem : ∀ x ∈ xs, ∀ y, R x y → S x y) : List.Forall₂ S xs ys := by
  induction h with
  | nil => exact .nil
  | cons hx _ ih =>
      obtain ⟨hfirst, hrest⟩ := List.forall_mem_cons.mp hmem
      exact .cons (hfirst _ hx) (ih hrest)

theorem rel_of_getElem? {R : α → β → Prop} {i : Nat} {y : β} (h : List.Forall₂ R xs ys)
    (hx : xs[i]? = some x) (hy : ys[i]? = some y) : R x y := by
  obtain ⟨hi, rfl⟩ := List.getElem?_eq_some_iff.1 hx
  obtain ⟨hj, rfl⟩ := List.getElem?_eq_some_iff.1 hy
  exact h.get hi hj

theorem exists_mapM_eq_ok_iff :
    (∃ ys, xs.mapM f = .ok ys) ↔ ∀ x ∈ xs, ∃ y, f x = .ok y := by
  simp only [mapM_eq_ok_iff, exists_forall₂_iff]

/-- The error of a list is that of its first element that has one. -/
theorem first_of_mapM_eq_error (h : xs.mapM f = .error e) :
    ∃ (i : Nat) (x : α), xs[i]? = some x ∧ f x = .error e ∧
      ∀ j < i, ∀ y : α, xs[j]? = some y → ∃ v, f y = .ok v := by
  induction xs with
  | nil => cases h
  | cons x xs ih =>
      obtain hx | ⟨v, hx, hxs⟩ := mapM_cons_eq_error_iff.mp h
      · exact ⟨0, x, rfl, hx, fun j hj => absurd hj (Nat.not_lt_zero j)⟩
      · obtain ⟨i, y, hy, hfails, hearlier⟩ := ih hxs
        refine ⟨i + 1, y, hy, hfails, ?_⟩
        intro j hj z hz
        cases j with
        | zero =>
            cases hz
            exact ⟨v, hx⟩
        | succ j => exact hearlier j (Nat.lt_of_succ_lt_succ hj) z hz

end JsonRpc
