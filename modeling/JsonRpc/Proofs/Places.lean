import Mathlib.Data.List.Basic

/-!
# Places in a list

Those who use something together are kept in a list, and each is known by its
place there.  One that comes is put at the end, and one that goes on is put in
its old place.  Here is what the places hold afterwards.
-/

namespace JsonRpc

variable {α : Type} {xs : List α} {x y : α} {i j : Nat}

theorem getElem?_set_of_some (h : xs[i]? = some x) (y : α) (j : Nat) :
    (xs.set i y)[j]? = if j = i then some y else xs[j]? := by
  obtain ⟨hi, -⟩ := List.getElem?_eq_some_iff.1 h
  rw [List.getElem?_set]
  by_cases hj : j = i
  · simp [hj, hi]
  · simp [hj, Ne.symm hj]

theorem exists_set_iff (p : α → Bool) (h : xs[i]? = some x) (y : α) (j : Nat) :
    (∃ z, (xs.set i y)[j]? = some z ∧ p z = true) ↔
      if j = i then p y = true else ∃ z, xs[j]? = some z ∧ p z = true := by
  rw [getElem?_set_of_some h]
  split <;> simp

/-- One place changes, and with it at most one of the things that were found. -/
theorem filterMap_set_perm {β : Type} (f : α → Option β) (h : xs[i]? = some x) (y : α) :
    ((xs.set i y).filterMap f ++ (f x).toList).Perm (xs.filterMap f ++ (f y).toList) := by
  obtain ⟨hi, rfl⟩ := List.getElem?_eq_some_iff.1 h
  have hold : xs.filterMap f =
      (xs.take i).filterMap f ++ ((f xs[i]).toList ++ (xs.drop (i + 1)).filterMap f) := by
    conv_lhs => rw [← List.take_append_drop i xs, List.drop_eq_getElem_cons hi]
    rw [List.filterMap_append, List.filterMap_cons]
    cases f xs[i] <;> rfl
  have hnew : (xs.set i y).filterMap f =
      (xs.take i).filterMap f ++ ((f y).toList ++ (xs.drop (i + 1)).filterMap f) := by
    rw [List.set_eq_take_append_cons_drop, if_pos hi, List.filterMap_append, List.filterMap_cons]
    cases f y <;> rfl
  rw [hold, hnew]
  simp only [List.append_assoc]
  refine List.Perm.append_left _ (List.perm_append_comm.trans ?_)
  rw [← List.append_assoc]
  exact List.perm_append_comm.append_right _

theorem getElem?_of_concat (h : (xs ++ [y])[j]? = some x) : xs[j]? = some x ∨ x = y := by
  rcases Nat.lt_trichotomy j xs.length with hj | hj | hj
  · rw [List.getElem?_append_left hj] at h
    exact .inl h
  · rw [hj, List.getElem?_concat_length, Option.some.injEq] at h
    exact .inr h.symm
  · rw [List.getElem?_eq_none (by simp; omega)] at h
    cases h

theorem getElem?_concat_of_some (h : xs[j]? = some x) (y : α) : (xs ++ [y])[j]? = some x := by
  obtain ⟨hj, -⟩ := List.getElem?_eq_some_iff.1 h
  rw [List.getElem?_append_left hj, h]

theorem exists_concat_iff (p : α → Bool) (hy : p y = false) (j : Nat) :
    (∃ z, (xs ++ [y])[j]? = some z ∧ p z = true) ↔ ∃ z, xs[j]? = some z ∧ p z = true := by
  constructor
  · rintro ⟨z, hz, hp⟩
    rcases getElem?_of_concat hz with hz | rfl
    · exact ⟨z, hz, hp⟩
    · rw [hy] at hp
      cases hp
  · rintro ⟨z, hz, hp⟩
    exact ⟨z, getElem?_concat_of_some hz y, hp⟩

end JsonRpc
