import Mathlib.Data.List.Nodup
import JsonRpc.Proofs.Interface.Expansion

/-!
# Names that are generated

A proxy has two functions of its own beside its stubs, and an argument whose
pattern names nothing is named for its position.  Such names live among those
that the author of the interface chose, and nothing keeps the two apart.  A
name for a position never equals another one, and what the author wrote is
without repetition.  So the only clashes are between a chosen name and a
generated one, and they happen wherever the two are the same.

Names are compared without the mark of a raw identifier, which is no part of a
name.
-/

namespace JsonRpc

open Declaration Declaration.Trait

/-- The names of a proxy's functions, as they are told apart. -/
def Proxy.functions (p : Proxy) : List String := p.functionNames.map plain

def Stub.bindings (s : Stub) : List String := s.arguments.map fun (name, _) => plain name

namespace Declaration

/-- The name of an argument whose pattern names nothing. -/
def positional (position : Nat) : String := "arg" ++ toString position

theorem positional_injective {i j : Nat} (h : positional i = positional j) : i = j := by
  have hdigits : toString i = toString j := (String.append_right_inj "arg").mp h
  have hvalue := congrArg (fun s : String => Nat.ofDigitChars 10 s.toList 0) hdigits
  simpa only [Nat.toString_eq_repr, Nat.toList_repr, Nat.ofDigitChars_ten_toDigits] using hvalue

theorem plain_positional (i : Nat) : plain (positional i) = positional i := by
  simp [plain, positional]

namespace Method

variable {m : Method}

/-- The names that the patterns of a method's arguments give, as they are told apart. -/
def chosen (m : Method) : List String :=
  m.typed.filterMap fun (_, pattern, _) => (boundName? pattern).map plain

/-- An argument that is named for its position has the name that another one was given. -/
def Clashes (m : Method) : Prop :=
  ∃ a ∈ m.typed, boundName? a.2.1 = none ∧ positional a.1 ∈ m.chosen

instance (m : Method) : Decidable m.Clashes :=
  inferInstanceAs (Decidable (∃ a ∈ m.typed, boundName? a.2.1 = none ∧ positional a.1 ∈ m.chosen))

def binding : Nat × List Token × List Token → String
  | (position, pattern, _) => ((boundName? pattern).map plain).getD (positional position)

theorem ascending_typed (m : Method) : m.typed.Pairwise fun a b => a.1 < b.1 := by
  have hpositions : m.arguments.zipIdx.Pairwise fun a b => a.2 < b.2 := by
    rw [← List.pairwise_map, List.zipIdx_map_snd]
    exact List.pairwise_lt_range'
  rw [typed, List.pairwise_filterMap]
  refine hpositions.imp ?_
  rintro ⟨a, i⟩ ⟨b, j⟩ hij x hx y hy
  cases a <;> cases hx
  cases b <;> cases hy
  exact hij

theorem StubbedBy.bindings_eq {i : Nat} {stub : Stub} (h : m.StubbedBy i stub) :
    stub.bindings = m.typed.map binding := by
  rw [Stub.bindings, h.arguments, List.map_map]
  congr 1
  funext ⟨position, pattern, type⟩
  simp only [Function.comp_apply, binding]
  cases boundName? pattern with
  | none => exact plain_positional position
  | some name => rfl

/-- Two arguments of which neither has its name from the position of the other. -/
theorem binding_ne {a b : Nat × List Token × List Token} (hposition : a.1 < b.1)
    (hchosen : ∀ x, (boundName? a.2.1).map plain = some x →
      ∀ y, (boundName? b.2.1).map plain = some y → x ≠ y)
    (ha : boundName? a.2.1 = none → (boundName? b.2.1).map plain ≠ some (positional a.1))
    (hb : boundName? b.2.1 = none → (boundName? a.2.1).map plain ≠ some (positional b.1)) :
    binding a ≠ binding b := by
  obtain ⟨i, p, type⟩ := a
  obtain ⟨j, q, type'⟩ := b
  cases hp : boundName? p with
  | none =>
      cases hq : boundName? q with
      | none =>
          simp only [binding, hp, hq, Option.map_none, Option.getD_none]
          intro h
          exact absurd (positional_injective h) (Nat.ne_of_lt hposition)
      | some name =>
          simp only [hp, hq, Option.map_some] at ha
          simp only [binding, hp, hq, Option.map_none, Option.map_some, Option.getD_none,
            Option.getD_some]
          exact fun h => ha trivial (congrArg some h.symm)
  | some name =>
      cases hq : boundName? q with
      | none =>
          simp only [hp, hq, Option.map_some] at hb
          simp only [binding, hp, hq, Option.map_none, Option.map_some, Option.getD_none,
            Option.getD_some]
          exact fun h => hb trivial (congrArg some h)
      | some name' =>
          simp only [hp, hq, Option.map_some, Option.some.injEq] at hchosen
          simp only [binding, hp, hq, Option.map_some, Option.getD_some]
          exact hchosen _ rfl _ rfl

theorem mem_chosen {a : Nat × List Token × List Token} {name : String} (ha : a ∈ m.typed)
    (hname : (boundName? a.2.1).map plain = some name) : name ∈ m.chosen :=
  List.mem_filterMap.mpr ⟨a, ha, hname⟩

theorem nodup_bindings_iff (hchosen : m.chosen.Nodup) :
    (m.typed.map binding).Nodup ↔ ¬m.Clashes := by
  constructor
  · rintro hnodup ⟨⟨i, pattern, type⟩, hmem, hnameless, hclash⟩
    obtain ⟨⟨j, pattern', type'⟩, hmem', hname⟩ := List.mem_filterMap.mp hclash
    have hbinding : binding (i, pattern, type) = binding (j, pattern', type') := by
      change _ = some (positional i) at hname
      simp only [binding, hnameless, hname, Option.map_none, Option.getD_none, Option.getD_some]
    -- The argument would be the one that has its name, but it has none.
    cases List.inj_on_of_nodup_map hnodup hmem hmem' hbinding
    change (boundName? pattern).map plain = some (positional i) at hname
    rw [hnameless] at hname
    cases hname
  · intro hclashes
    have hpairs := List.pairwise_filterMap.mp hchosen
    refine List.pairwise_map.mpr ?_
    refine (m.ascending_typed.and hpairs).imp_of_mem ?_
    intro a b ha hb hab
    refine binding_ne hab.1 (fun x hx y hy => hab.2 x hx y hy) ?_ ?_
    · exact fun hnameless hname => hclashes ⟨a, ha, hnameless, mem_chosen hb hname⟩
    · exact fun hnameless hname => hclashes ⟨b, hb, hnameless, mem_chosen ha hname⟩

end Method

namespace Trait

variable {t : Trait} {p : Proxy}

/-- What a compiler demands of the names in a trait: no two methods have one name, and no two
arguments of one method were given one name. -/
structure Legal (t : Trait) : Prop where
  methods : (t.methods.map fun m => plain m.name).Nodup
  chosen : ∀ m ∈ t.methods, m.chosen.Nodup

theorem functions_of_expand (h : t.expand = .ok p) :
    p.functions = "new" :: "session" :: t.methods.map fun m => plain m.name := by
  have hstubs : p.stubs.map Stub.name = t.methods.map Method.name := by
    rw [(places_of_expand h).2.2.1, List.map_map]
    conv_rhs => rw [← List.zipIdx_map_fst 0 t.methods, List.map_map]
    rfl
  rw [Proxy.functions, Proxy.functionNames, hstubs, List.map_cons, List.map_cons, List.map_map]
  rfl

/-- The functions of a proxy have different names unless a method is called as one of the two that
every proxy has, and the arguments of a stub have different names unless one was given the name
of a position. -/
theorem names_distinct_iff (h : t.expand = .ok p) (hlegal : t.Legal) :
    (p.functions.Nodup ↔ ∀ m ∈ t.methods, plain m.name ≠ "new" ∧ plain m.name ≠ "session") ∧
      ∀ (i : Nat) (m : Method) (stub : Stub), t.methods[i]? = some m → p.stubs[i]? = some stub →
        (stub.bindings.Nodup ↔ ¬m.Clashes) := by
  constructor
  · have hdifferent : ("new" : String) ≠ "session" := by decide
    rw [functions_of_expand h]
    simp only [List.nodup_cons, hlegal.methods, and_true, List.mem_cons, List.mem_map, not_or,
      not_exists, not_and, hdifferent, not_false_eq_true, true_and, ne_eq]
    constructor
    · exact fun hnames m hm => ⟨hnames.1 m hm, hnames.2 m hm⟩
    · exact fun hnames => ⟨fun m hm => (hnames m hm).1, fun m hm => (hnames m hm).2⟩
  · intro i m stub hm hstub
    rw [stub_of_expand h hm, Option.some.injEq] at hstub
    subst hstub
    rw [(m.stubbedBy_stub i).bindings_eq]
    exact Method.nodup_bindings_iff (hlegal.chosen m (List.mem_of_getElem? hm))

/-- A trait whose one method has a receiver, an argument without a name, and one with a name. -/
def shelf (method argument : String) : Trait where
  name := "Shelf"
  isPublic := true
  generics := []
  items := [.method ⟨method, [], [.receiver, .typed [.word "_"] [.word "i64"],
    .typed [.word argument] [.word "i64"]], some [.word "i64"], []⟩]

/-- An argument may have the name of its own position. -/
theorem names_distinct_of_own_position :
    ∃ p stub, (shelf "find" "r#arg2").expand = .ok p ∧ (shelf "find" "r#arg2").Legal ∧
      p.stubs[0]? = some stub ∧ p.functions.Nodup ∧ stub.bindings.Nodup := by
  have hlegal : (shelf "find" "r#arg2").Legal := ⟨by decide, by decide⟩
  obtain ⟨p, hp⟩ : ∃ p, (shelf "find" "r#arg2").expand = .ok p := ⟨_, rfl⟩
  obtain ⟨hfunctions, hbindings⟩ := names_distinct_iff hp hlegal
  have hstub : p.stubs[0]? = some _ := stub_of_expand hp rfl
  exact ⟨p, _, hp, hlegal, hstub, hfunctions.mpr (by decide),
    (hbindings 0 _ _ rfl hstub).mpr (by decide)⟩

/-- A method or an argument that is called as a generated one makes a legal trait a proxy that is
none. -/
theorem names_clash :
    (∃ p, (shelf "find" "arg1").expand = .ok p ∧ (shelf "find" "arg1").Legal ∧
      ∃ stub ∈ p.stubs, ¬stub.bindings.Nodup) ∧
    ∃ p, (shelf "new" "row").expand = .ok p ∧ (shelf "new" "row").Legal ∧ ¬p.functions.Nodup := by
  have harguments : ∃ p, (shelf "find" "arg1").expand = .ok p ∧ (shelf "find" "arg1").Legal ∧
      ∃ stub ∈ p.stubs, ¬stub.bindings.Nodup :=
    ⟨_, rfl, ⟨by decide, by decide⟩, _, List.mem_cons_self, by decide⟩
  have hfunctions : ∃ p, (shelf "new" "row").expand = .ok p ∧ (shelf "new" "row").Legal ∧
      ¬p.functions.Nodup := ⟨_, rfl, ⟨by decide, by decide⟩, by decide⟩
  exact ⟨harguments, hfunctions⟩

end Trait

end Declaration

end JsonRpc
