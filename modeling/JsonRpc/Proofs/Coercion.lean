import JsonRpc.Proofs.Session.Attribution
import JsonRpc.Proofs.Traversal

/-!
# What the texts of arguments come to

Each text is read by the tag of the parameter at its place.  Either all of them
fit, and there is one value for every text; or there is a first text that does
not fit, and the error is this text's.  Later texts do not matter then, whatever
is wrong with them.
-/

namespace JsonRpc

/-- What can be wrong with a text that is read by the spelling of a type tag. -/
inductive Misfit (word type : String) : RpcError → Prop where
  | unknown (h : ∀ tag : TypeTag, tag.name ≠ type) : Misfit word type (.unknownType type)
  | unfit (tag : TypeTag) (reason : String) (h : tag.name = type) :
      Misfit word type (.coercion word type reason)

namespace TypeTag

theorem mem_all (tag : TypeTag) : tag ∈ all := by
  cases tag <;> decide

theorem name_of_ofName {type : String} {tag : TypeTag} (h : ofName type = .ok tag) :
    tag.name = type := by
  rw [ofName] at h
  split at h
  · next found hfound =>
      cases h
      simpa only [decide_eq_true_eq] using List.find?_some hfound
  · cases h

theorem ofName_name (tag : TypeTag) : ofName tag.name = .ok tag := by
  cases tag <;> rfl

theorem coerce_name (tag : TypeTag) (word : String) :
    JsonRpc.coerce word tag.name = tag.coerce word := by
  rw [JsonRpc.coerce, ofName_name]
  rfl

theorem misfit_ofName (word type : String) : Fails (Misfit word type) (ofName type) := by
  rw [ofName]
  split
  · exact fails_ok _
  · next hnone =>
      apply fails_error
      apply Misfit.unknown
      intro tag htag
      have hno := List.find?_eq_none.mp hnone tag (mem_all tag)
      exact hno (decide_eq_true htag)

theorem misfit_coerce (tag : TypeTag) (word : String) :
    Fails (Misfit word tag.name) (tag.coerce word) := by
  cases tag with
  | bit => exact fails_ok _
  | num =>
      change Fails _ (coerceNumber word)
      unfold coerceNumber
      split
      · exact fails_ok _
      split
      · exact fails_error (.unfit num _ rfl)
      split
      · exact fails_ok _
      · exact fails_error (.unfit num _ rfl)
  | str => exact fails_ok _
  | nil => exact fails_ok _
  | arr | obj | any =>
      simp only [coerce]
      cases Json.parseText word with
      | ok v => exact fails_ok v
      | error fault => exact fails_error (.unfit _ _ rfl)

end TypeTag

/-- An error of a coercion repeats the text and the tag. -/
theorem misfit_coerce (word type : String) : Fails (Misfit word type) (coerce word type) := by
  rw [coerce]
  cases htag : TypeTag.ofName type with
  | error e => exact fails_error (TypeTag.misfit_ofName word type e htag)
  | ok tag =>
      have hname : tag.name = type := TypeTag.name_of_ofName htag
      rw [← hname]
      exact tag.misfit_coerce word

/-! ## The arguments of a procedure -/

namespace Procedure

variable {p : Procedure} {words : List String} {vs : List Json} {e : RpcError}

/-- The values are what the texts stand for, place by place. -/
def Takes (p : Procedure) (words : List String) (vs : List Json) : Prop :=
  vs.length = words.length ∧ ∀ (i : Nat) (param : Parameter) (word : String),
    p.params[i]? = some param → words[i]? = some word →
      ∃ v, vs[i]? = some v ∧ JsonRpc.coerce word param.type = .ok v

/-- The error is that of the first text that does not fit its place. -/
def Refuses (p : Procedure) (words : List String) (e : RpcError) : Prop :=
  ∃ (i : Nat) (param : Parameter) (word : String), p.params[i]? = some param ∧
    words[i]? = some word ∧ JsonRpc.coerce word param.type = .error e ∧
    Misfit word param.type e ∧
    ∀ j < i, ∀ (param : Parameter) (word : String), p.params[j]? = some param →
      words[j]? = some word → ∃ v, JsonRpc.coerce word param.type = .ok v

theorem coerceArgs_eq (harity : p.arity = words.length) :
    p.coerceArgs words =
      (p.params.zip words).mapM fun (param, word) => JsonRpc.coerce word param.type := by
  rw [coerceArgs, if_neg (not_not_intro harity.symm)]
  rfl

theorem length_zip (harity : p.arity = words.length) :
    (p.params.zip words).length = words.length := by
  rw [List.length_zip, show p.params.length = words.length from harity, Nat.min_self]

theorem coerceArgs_eq_ok_iff (harity : p.arity = words.length) :
    p.coerceArgs words = .ok vs ↔ p.Takes words vs := by
  have hlength := length_zip harity
  rw [coerceArgs_eq harity, mapM_eq_ok_iff, List.forall₂_iff_get]
  constructor
  · rintro ⟨hvs, hall⟩
    refine ⟨hvs.symm.trans hlength, ?_⟩
    intro i param word hparam hword
    obtain ⟨hi, hpair⟩ := List.getElem?_eq_some_iff.mp
      (List.getElem?_zip_eq_some.mpr ⟨hparam, hword⟩ :
        (p.params.zip words)[i]? = some (param, word))
    have hi' : i < vs.length := hvs ▸ hi
    have hcoerce := hall i hi hi'
    rw [List.get_eq_getElem, hpair] at hcoerce
    exact ⟨vs[i], List.getElem?_eq_getElem hi', hcoerce⟩
  · rintro ⟨hvs, hall⟩
    refine ⟨hlength.trans hvs.symm, ?_⟩
    intro i hi hi'
    obtain ⟨hparam, hword⟩ :=
      List.getElem?_zip_eq_some.mp (List.getElem?_eq_getElem hi)
    obtain ⟨v, hv, hcoerce⟩ := hall i _ _ hparam hword
    rw [List.getElem?_eq_getElem hi'] at hv
    cases hv
    exact hcoerce

theorem refuses_of_coerceArgs (harity : p.arity = words.length)
    (h : p.coerceArgs words = .error e) : p.Refuses words e := by
  rw [coerceArgs_eq harity] at h
  obtain ⟨i, ⟨param, word⟩, hpair, hfails, hearlier⟩ := first_of_mapM_eq_error h
  obtain ⟨hparam, hword⟩ := List.getElem?_zip_eq_some.mp hpair
  refine ⟨i, param, word, hparam, hword, hfails, misfit_coerce word param.type e hfails, ?_⟩
  intro j hj param word hparam hword
  exact hearlier j hj (param, word) (List.getElem?_zip_eq_some.mpr ⟨hparam, hword⟩)

/-- A text that does not fit is not taken. -/
theorem Takes.not_refuses (h : p.Takes words vs) : ¬p.Refuses words e := by
  rintro ⟨i, param, word, hparam, hword, hfails, -⟩
  obtain ⟨v, -, hcoerce⟩ := h.2 i param word hparam hword
  rw [hfails] at hcoerce
  cases hcoerce

/-- There is only one first text that does not fit. -/
theorem Refuses.unique {e' : RpcError} (h : p.Refuses words e) (h' : p.Refuses words e') :
    e = e' := by
  obtain ⟨i, param, word, hparam, hword, hfails, -, hearlier⟩ := h
  obtain ⟨i', param', word', hparam', hword', hfails', -, hearlier'⟩ := h'
  rcases Nat.lt_trichotomy i i' with hlt | rfl | hgt
  · obtain ⟨v, hcoerce⟩ := hearlier' i hlt param word hparam hword
    rw [hfails] at hcoerce
    cases hcoerce
  · rw [hparam] at hparam'
    rw [hword] at hword'
    cases hparam'
    cases hword'
    rw [hfails] at hfails'
    cases hfails'
    rfl
  · obtain ⟨v, hcoerce⟩ := hearlier i' hgt param' word' hparam' hword'
    rw [hfails'] at hcoerce
    cases hcoerce

theorem coerceArgs_eq_error_iff (harity : p.arity = words.length) :
    p.coerceArgs words = .error e ↔ p.Refuses words e := by
  constructor
  · exact refuses_of_coerceArgs harity
  · intro hrefuses
    cases hargs : p.coerceArgs words with
    | ok vs => exact absurd hrefuses ((coerceArgs_eq_ok_iff harity).mp hargs).not_refuses
    | error e' => rw [hrefuses.unique (refuses_of_coerceArgs harity hargs)]

end Procedure

end JsonRpc
