import Mathlib.Data.List.Induction
import JsonRpc.Description

/-!
# Which procedure is found

A description keeps an index of where its procedures stand, and of several
procedures with one name and number of parameters the index knows the last one.
Here the index is taken away again: what is found is what a search from the end
of the list finds.
-/

namespace JsonRpc

/-- The procedure has this name and so many parameters. -/
def Procedure.Answers (p : Procedure) (name : String) (arity : Nat) : Prop :=
  p.name = name ∧ p.arity = arity

instance (p : Procedure) (name : String) (arity : Nat) : Decidable (p.Answers name arity) :=
  inferInstanceAs (Decidable (p.name = name ∧ p.arity = arity))

namespace Index

variable {ps : List Procedure} {p : Procedure} {name : String} {arity position : Nat}

theorem ofProcedures_concat (ps : List Procedure) (p : Procedure) :
    ofProcedures (ps ++ [p]) = ((p.name, p.arity), ps.length) :: ofProcedures ps := by
  unfold ofProcedures
  rw [List.zipIdx_append, List.foldl_append]
  simp only [Nat.zero_add, List.zipIdx_singleton, List.foldl_cons, List.foldl_nil]

theorem lookup_concat (ps : List Procedure) (p : Procedure) (name : String) (arity : Nat) :
    (ofProcedures (ps ++ [p])).lookup (name, arity) =
      if p.Answers name arity then some ps.length
      else (ofProcedures ps).lookup (name, arity) := by
  rw [ofProcedures_concat, List.lookup_cons]
  by_cases h : p.Answers name arity
  · have hkey : (name, arity) = (p.name, p.arity) := by rw [h.1, h.2]
    rw [if_pos h, hkey, beq_self_eq_true]
  · have hkey : (name, arity) ≠ (p.name, p.arity) := by
      intro heq
      cases heq
      exact h ⟨rfl, rfl⟩
    rw [if_neg h, beq_eq_false_iff_ne.mpr hkey]

/-- No position in the index is beyond the list. -/
theorem lt_of_lookup (h : (ofProcedures ps).lookup (name, arity) = some position) :
    position < ps.length := by
  induction ps using List.reverseRecOn with
  | nil => cases h
  | append_singleton ps p ih =>
      rw [lookup_concat] at h
      rw [List.length_append, List.length_singleton]
      split at h
      · cases h
        exact Nat.lt_succ_self _
      · exact Nat.lt_succ_of_lt (ih h)

end Index

namespace Description

variable {d : Description} {name : String} {arity : Nat} {p : Procedure}

theorem lookup_procs (ps : List Procedure) (name : String) (arity : Nat) :
    ((Index.ofProcedures ps).lookup (name, arity)).bind (fun position => ps[position]?) =
      ps.reverse.find? fun p => p.Answers name arity := by
  induction ps using List.reverseRecOn with
  | nil => rfl
  | append_singleton ps p ih =>
      rw [Index.lookup_concat, List.reverse_concat, List.find?_cons]
      by_cases h : p.Answers name arity
      · simp only [h, if_true, decide_true, Option.bind_some, List.getElem?_concat_length]
      · -- The positions of the other procedures are not moved by the one at the end.
        have hlookup : ((Index.ofProcedures ps).lookup (name, arity)).bind
            (fun position => (ps ++ [p])[position]?) =
            ((Index.ofProcedures ps).lookup (name, arity)).bind
              fun position => ps[position]? := by
          cases hposition : (Index.ofProcedures ps).lookup (name, arity) with
          | none => rfl
          | some position =>
              exact List.getElem?_append_left (Index.lt_of_lookup hposition)
        simp only [h, if_false, decide_false, hlookup, ih]

theorem find?_eq (d : Description) (name : String) (arity : Nat) :
    d.find? name arity = d.procs.reverse.find? fun p => p.Answers name arity :=
  lookup_procs d.procs name arity

theorem find?_eq_none_iff :
    d.find? name arity = none ↔ ∀ p ∈ d.procs, ¬p.Answers name arity := by
  rw [find?_eq, List.find?_eq_none]
  simp only [List.mem_reverse, decide_eq_true_eq]

/-- The procedure that is found answers, and no procedure after it does. -/
theorem find?_eq_some_iff :
    d.find? name arity = some p ↔ p.Answers name arity ∧ ∃ before after,
      d.procs = before ++ p :: after ∧ ∀ q ∈ after, ¬q.Answers name arity := by
  rw [find?_eq, List.find?_eq_some_iff_append, decide_eq_true_eq]
  refine and_congr_right fun _ => ?_
  -- What the search passes on its way from the end is what stands after the procedure.
  constructor
  · rintro ⟨passed, rest, hsplit, hpassed⟩
    refine ⟨rest.reverse, passed.reverse, ?_, ?_⟩
    · rw [← List.reverse_reverse d.procs, hsplit]
      simp only [List.reverse_append, List.reverse_cons, List.append_assoc,
        List.singleton_append]
    · simpa only [List.mem_reverse, Bool.not_eq_true', decide_eq_false_iff_not] using hpassed
  · rintro ⟨before, after, hsplit, hafter⟩
    refine ⟨after.reverse, before.reverse, ?_, ?_⟩
    · rw [hsplit]
      simp only [List.reverse_append, List.reverse_cons, List.append_assoc,
        List.singleton_append]
    · simpa only [List.mem_reverse, Bool.not_eq_true', decide_eq_false_iff_not] using hafter

theorem answers_of_find? (h : d.find? name arity = some p) : p.Answers name arity :=
  (find?_eq_some_iff.mp h).1

end Description

end JsonRpc
