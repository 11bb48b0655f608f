import JsonRpc.Interface.Basic
import JsonRpc.Proofs.Description.Grammar
import JsonRpc.Proofs.Description.Lookup

/-!
# What the index of a description holds

Every entry of the index stands for the procedure at its position: the position
is one of the list, and the key is the name and the number of parameters of the
procedure there.  Under each key the entry that is found is the one with the
last position.  Whatever is asked of a description is answered by these entries,
so looking up, asking whether a procedure is there, and listing the methods of
an interface that are missing all agree.
-/

namespace JsonRpc

/-- The procedure is the last one of the list with this name and so many parameters. -/
def Procedure.LatestIn (procs : List Procedure) (name : String) (arity : Nat)
    (p : Procedure) : Prop :=
  p.Answers name arity ∧ ∃ before after, procs = before ++ p :: after ∧
    ∀ q ∈ after, ¬q.Answers name arity

namespace Index

variable {ps : List Procedure} {name : String} {arity position : Nat}

/-- The position is one of the list and the procedure there has this name and so many
parameters. -/
def Holds (ps : List Procedure) (name : String) (arity position : Nat) : Prop :=
  ∃ p, ps[position]? = some p ∧ p.Answers name arity

theorem Holds.lt (h : Holds ps name arity position) : position < ps.length := by
  obtain ⟨p, hp, -⟩ := h
  exact (List.getElem?_eq_some_iff.1 hp).1

theorem holds_concat_iff {p : Procedure} : Holds (ps ++ [p]) name arity position ↔
    Holds ps name arity position ∨ position = ps.length ∧ p.Answers name arity := by
  rcases Nat.lt_trichotomy position ps.length with hlt | rfl | hgt
  · simp only [Holds, List.getElem?_append_left hlt, Nat.ne_of_lt hlt, false_and, or_false]
  · have hnone : ¬Holds ps name arity ps.length := fun h => Nat.lt_irrefl _ h.lt
    simp [Holds] at hnone ⊢
  · have hnone : ¬Holds ps name arity position := fun h => Nat.lt_asymm hgt h.lt
    have hnone' : ¬Holds (ps ++ [p]) name arity position := by
      intro h
      have hlt := h.lt
      rw [List.length_append, List.length_singleton] at hlt
      omega
    simp [hnone, hnone', Nat.ne_of_gt hgt]

/-- The index has an entry for every procedure, and no others. -/
theorem mem_ofProcedures_iff :
    ((name, arity), position) ∈ ofProcedures ps ↔ Holds ps name arity position := by
  induction ps using List.reverseRecOn with
  | nil => simp [ofProcedures, Holds]
  | append_singleton ps p ih =>
      rw [ofProcedures_concat, List.mem_cons, ih, holds_concat_iff, or_comm]
      refine or_congr_right ?_
      simp only [Prod.mk.injEq, Procedure.Answers]
      constructor
      · rintro ⟨⟨rfl, rfl⟩, rfl⟩
        exact ⟨rfl, rfl, rfl⟩
      · rintro ⟨rfl, rfl, rfl⟩
        exact ⟨⟨rfl, rfl⟩, rfl⟩

/-- What is found under a key is the last position that its procedures have. -/
theorem lookup_eq_some_iff : (ofProcedures ps).lookup (name, arity) = some position ↔
    Holds ps name arity position ∧ ∀ later, position < later → ¬Holds ps name arity later := by
  induction ps using List.reverseRecOn with
  | nil => simp [ofProcedures, Holds]
  | append_singleton ps p ih =>
      rw [lookup_concat]
      simp only [holds_concat_iff]
      by_cases hp : p.Answers name arity
      · rw [if_pos hp, Option.some.injEq]
        constructor
        · rintro rfl
          refine ⟨.inr ⟨rfl, hp⟩, ?_⟩
          rintro later hlater (h | ⟨rfl, -⟩)
          · exact Nat.lt_asymm hlater h.lt
          · exact Nat.lt_irrefl _ hlater
        · rintro ⟨h | ⟨rfl, -⟩, hlast⟩
          -- A position before the last procedure is not the last one.
          · exact absurd (.inr ⟨rfl, hp⟩) (hlast ps.length h.lt)
          · rfl
      · rw [if_neg hp, ih]
        simp only [hp, and_false, or_false]

end Index

namespace Description

variable {d : Description} {name : String} {arity : Nat} {p : Procedure}

theorem get_eq_ok_iff :
    d.get name arity = .ok p ↔ Procedure.LatestIn d.procs name arity p := by
  rw [Procedure.LatestIn, ← find?_eq_some_iff, get]
  cases d.find? name arity <;> simp

theorem get_eq_error_iff : d.get name arity = .error (.procedureNotFound name arity) ↔
    ∀ p ∈ d.procs, ¬p.Answers name arity := by
  rw [← find?_eq_none_iff, get]
  cases d.find? name arity <;> simp

theorem contains_eq (d : Description) (name : String) (arity : Nat) :
    d.contains name arity = (d.get name arity).isOk := by
  rw [contains, get, find?]
  cases hlookup : d.index.lookup (name, arity) with
  | none => rfl
  | some position =>
      -- The position is one of the list, so there is a procedure to be found.
      obtain ⟨⟨p, hp, -⟩, -⟩ := Index.lookup_eq_some_iff.1 hlookup
      simp only [Option.bind_eq_bind, Option.bind_some, hp]
      rfl

theorem contains_iff : d.contains name arity = true ↔ ∃ p, d.get name arity = .ok p := by
  rw [contains_eq]
  cases d.get name arity <;> simp [Except.isOk, Except.toBool]

theorem missing_eq (d : Description) (i : Interface) :
    i.missing d = i.methods.filter fun s => !(d.get s.name s.arity).isOk := by
  simp only [Interface.missing, contains_eq]

/-- The procedures that come later are asked first. -/
theorem get_ofProcedures_append (ps qs : List Procedure) (name : String) (arity : Nat) :
    (ofProcedures (ps ++ qs)).get name arity =
      ((ofProcedures qs).get name arity).tryCatch fun _ => (ofProcedures ps).get name arity := by
  have hfind : (ofProcedures (ps ++ qs)).find? name arity =
      ((ofProcedures qs).find? name arity).or ((ofProcedures ps).find? name arity) := by
    simp only [find?_eq, ofProcedures, List.reverse_append, List.find?_append]
  rw [get, get, get, hfind]
  cases (ofProcedures qs).find? name arity <;> rfl

/-- A description that is read has the procedures that are listed in the value. -/
theorem procs_of_ofJson {v : Json} (hv : v.Proper) (h : ofJson v = .ok d) :
    ∃ items, v.member? "procs" = some (.arr items) ∧
      List.Forall₂ (fun x p => Procedure.shape.ofTree x = .ok p) items d.procs := by
  cases v with
  | obj members =>
      obtain ⟨items, hmember, -, hitems⟩ := Json.Record.list_of_ofTree distinct hv
        (ofJson_obj_eq_ok_iff.1 h) (i := 7) rfl procs (fun _ _ => rfl) (by simp [record])
      exact ⟨items, hmember, hitems⟩
  | _ =>
      rw [ofJson_of_not_isObject rfl] at h
      cases h

/-- What is found under a name and a number of parameters is the procedure that is described last
with them.  The index has entries for procedures that are there, under their own names and numbers.
All that is asked of a description agrees with what is found, and later procedures hide earlier
ones.  This holds of every description, and the procedures of one are those that it was made from. -/
theorem latest_answers (d : Description) :
    (∀ name arity,
      (∀ p, d.get name arity = .ok p ↔ Procedure.LatestIn d.procs name arity p) ∧
      (d.get name arity = .error (.procedureNotFound name arity) ↔
        ∀ p ∈ d.procs, ¬p.Answers name arity) ∧
      (d.contains name arity = true ↔ ∃ p, d.get name arity = .ok p) ∧
      ∀ position, d.index.lookup (name, arity) = some position ↔
        Index.Holds d.procs name arity position ∧
          ∀ later, position < later → ¬Index.Holds d.procs name arity later) ∧
    (∀ name arity position, ((name, arity), position) ∈ d.index →
      ∃ p, d.procs[position]? = some p ∧ p.name = name ∧ p.params.length = arity) ∧
    (∀ i : Interface, i.missing d = i.methods.filter fun s => !(d.get s.name s.arity).isOk) ∧
    (∀ ps, (ofProcedures ps).procs = ps ∧ (ofProcedures ps).size = ps.length ∧
      ∀ qs name arity, (ofProcedures (ps ++ qs)).get name arity =
        ((ofProcedures qs).get name arity).tryCatch fun _ => (ofProcedures ps).get name arity) ∧
    ∀ v : Json, v.Proper → ofJson v = .ok d →
      ∃ items, v.member? "procs" = some (.arr items) ∧ d.size = items.length ∧
        List.Forall₂ (fun x p => Procedure.shape.ofTree x = .ok p) items d.procs := by
  refine ⟨?_, ?_, d.missing_eq, ?_, ?_⟩
  · intro name arity
    exact ⟨fun p => get_eq_ok_iff, get_eq_error_iff, contains_iff,
      fun position => Index.lookup_eq_some_iff⟩
  · intro name arity position hmem
    exact Index.mem_ofProcedures_iff.1 hmem
  · intro ps
    exact ⟨rfl, rfl, get_ofProcedures_append ps⟩
  · intro v hv h
    obtain ⟨items, hmember, hitems⟩ := procs_of_ofJson hv h
    exact ⟨items, hmember, hitems.length_eq.symm, hitems⟩

/-- A service that describes `add` twice for two parameters and once for three, read from a value
in which two of the procedures are lists. -/
theorem latest_answers_of_twins :
    ∃ (v : Json) (d : Description), v.Proper ∧ ofJson v = .ok d ∧
      (∃ items, v.member? "procs" = some (.arr items) ∧ d.size = items.length ∧
        List.Forall₂ (fun x p => Procedure.shape.ofTree x = .ok p) items d.procs) ∧
      d.get "add" 2 = .ok { Procedure.ofSignature "add" [⟨"x", "num"⟩, ⟨"y", "num"⟩] with
        summary := some "latter" } ∧
      d.index.lookup ("add", 2) = some 2 ∧
      d.get "add" 1 = .error (.procedureNotFound "add" 1) := by
  let num (name : String) : Json := .arr [.str name, .str "num"]
  let latter : Members := [("name", .str "add"), ("params", .arr [num "x", num "y"]),
    ("summary", .str "latter")]
  let procs : List Json := [.arr [.str "add", .arr [num "a", num "b"]],
    .arr [.str "add", .arr [num "a", num "b", num "c"]], .obj latter]
  let v : Json := .obj [("procs", .arr procs)]
  let d : Description := .ofProcedures [
    .ofSignature "add" [⟨"a", "num"⟩, ⟨"b", "num"⟩],
    .ofSignature "add" [⟨"a", "num"⟩, ⟨"b", "num"⟩, ⟨"c", "num"⟩],
    { Procedure.ofSignature "add" [⟨"x", "num"⟩, ⟨"y", "num"⟩] with summary := some "latter" }]
  have hkeys : ["name", "params", "summary"].Pairwise (· < ·) := by decide
  have hlatter : (Json.obj latter).Proper :=
    .obj (Members.ascending_of_sublist hkeys (.refl _)) (by simp [latter, num])
  have hv : v.Proper := by
    refine .obj (List.pairwise_singleton _ _) (List.forall_mem_singleton.mpr ?_)
    simp [procs, num, hlatter]
  have hd : ofJson v = .ok d := by rfl
  obtain ⟨hanswers, -, -, -, hread⟩ := latest_answers d
  obtain ⟨hget, -, -, hlookup⟩ := hanswers "add" 2
  obtain ⟨-, hnone, -, -⟩ := hanswers "add" 1
  refine ⟨v, d, hv, hd, hread v hv hd, (hget _).2 ⟨⟨rfl, rfl⟩, d.procs.take 2, [], rfl, nofun⟩,
    ?_, ?_⟩
  · refine (hlookup 2).2 ⟨⟨_, rfl, rfl, rfl⟩, ?_⟩
    intro later hlater h
    have hlt : later < 3 := h.lt
    omega
  · exact hnone.2 (by decide)

end Description

end JsonRpc
