import JsonRpc.Interface.Expansion
import JsonRpc.Proofs.Traversal

/-!
# Names on the wire

An `rpc` attribute lists entries, each of which gives a name.  Commas stand
between the entries, and one may follow the last.  Several attributes of one
method are read one after the other, and each can give several names or none.
The name that was given last is the one by which the service knows the method.
-/

namespace JsonRpc.Declaration

variable {content rest : List Token} {names : List String}

/-- An entry, given by the spelling of its literal and the name that this stands for. -/
def nameEntry (entry : String × String) : List Token :=
  [.word "name", .sign "=", .literal entry.1 (some entry.2)]

def listed (entries : List (String × String)) : List Token :=
  [Token.sign ","].intercalate (entries.map nameEntry)

/-- The tokens list entries for names, none of which is empty. -/
def Gives (content : List Token) (names : List String) : Prop :=
  ∃ entries : List (String × String), names = entries.map Prod.snd ∧ "" ∉ names ∧
    (content = listed entries ∨ entries ≠ [] ∧ content = listed entries ++ [.sign ","])

theorem listed_cons {entries : List (String × String)} (entry : String × String)
    (h : entries ≠ []) :
    listed (entry :: entries) = nameEntry entry ++ .sign "," :: listed entries := by
  obtain ⟨next, more, rfl⟩ := List.exists_cons_of_ne_nil h
  simp [listed, List.intercalate]

theorem Gives.cons {name : String} (h : Gives rest names) (text : String) (hname : name ≠ "") :
    Gives (nameEntry (text, name) ++ .sign "," :: rest) (name :: names) := by
  obtain ⟨entries, rfl, hempty, hrest⟩ := h
  refine ⟨(text, name) :: entries, rfl, List.not_mem_cons_of_ne_of_not_mem hname.symm hempty, ?_⟩
  by_cases hentries : entries = []
  · -- Nothing follows, so the comma is the one behind the last entry.
    subst hentries
    obtain rfl | ⟨hne, -⟩ := hrest
    · exact .inr ⟨List.cons_ne_nil _ _, rfl⟩
    · exact absurd rfl hne
  · rw [listed_cons _ hentries]
    obtain rfl | ⟨-, rfl⟩ := hrest
    · exact .inl rfl
    · exact .inr ⟨List.cons_ne_nil _ _, by simp⟩

theorem gives_of_wireNames (h : wireNames content = .ok names) : Gives content names := by
  fun_induction wireNames content generalizing names with
  | case1 =>
      cases h
      exact ⟨[], rfl, List.not_mem_nil, .inl rfl⟩
  | case2 => cases h
  | case3 text name hname =>
      cases h
      exact ⟨[(text, name)], rfl, by simpa using Ne.symm hname, .inl rfl⟩
  | case4 text name hname rest ih =>
      cases hrest : wireNames rest with
      | error e =>
          rw [hrest] at h
          cases h
      | ok more =>
          rw [hrest] at h
          cases h
          exact (ih hrest).cons text hname
  | case5 => cases h
  | case6 => cases h

theorem wireNames_listed_comma {name : String} (text : String) (hname : name ≠ "")
    (h : wireNames rest = .ok names) :
    wireNames (nameEntry (text, name) ++ .sign "," :: rest) = .ok (name :: names) := by
  simp only [nameEntry, List.cons_append, List.nil_append, wireNames, if_neg hname, h]
  rfl

theorem wireNames_of_gives (h : Gives content names) : wireNames content = .ok names := by
  obtain ⟨entries, rfl, hempty, hcontent⟩ := h
  induction entries generalizing content with
  | nil =>
      obtain rfl | ⟨hne, -⟩ := hcontent
      · rfl
      · exact absurd rfl hne
  | cons entry entries ih =>
      obtain ⟨text, name⟩ := entry
      rw [List.map_cons, List.mem_cons, not_or] at hempty
      have hname : name ≠ "" := Ne.symm hempty.1
      by_cases hentries : entries = []
      · subst hentries
        obtain rfl | ⟨-, rfl⟩ := hcontent
        · simp only [listed, List.intercalate, List.map_cons, List.map_nil, List.intersperse,
            List.flatten_cons, List.flatten_nil, List.append_nil, nameEntry, wireNames,
            if_neg hname]
        · exact wireNames_listed_comma text hname rfl
      · rw [listed_cons _ hentries] at hcontent
        obtain rfl | ⟨-, rfl⟩ := hcontent
        · exact wireNames_listed_comma text hname (ih hempty.2 (.inl rfl))
        · rw [List.append_assoc, List.cons_append]
          exact wireNames_listed_comma text hname (ih hempty.2 (.inr ⟨hentries, rfl⟩))

theorem wireNames_eq_ok_iff : wireNames content = .ok names ↔ Gives content names :=
  ⟨gives_of_wireNames, wireNames_of_gives⟩

/-- The names that an attribute gives: an `rpc` attribute those that it lists between its brackets,
and any other none. -/
inductive Attribute.Gives : Attribute → List String → Prop where
  | listed {content : List Token} {names : List String} (h : Declaration.Gives content names) :
      Gives ⟨[.word "rpc"], .enclosed content⟩ names
  | other {a : Attribute} (h : a.path ≠ [.word "rpc"]) : Gives a []

theorem Attribute.wireNames_eq_ok_iff {a : Attribute} :
    a.wireNames = .ok names ↔ a.Gives names := by
  obtain ⟨path, arguments⟩ := a
  by_cases hpath : path = [.word "rpc"]
  · subst hpath
    have hnamed : isNamed ⟨[.word "rpc"], arguments⟩ "rpc" = true := rfl
    rw [wireNames, if_pos hnamed]
    constructor
    · intro h
      cases arguments with
      | none => cases h
      | assigned value => cases h
      | enclosed content => exact .listed (Declaration.wireNames_eq_ok_iff.mp h)
    · intro h
      cases h with
      | listed h => exact Declaration.wireNames_eq_ok_iff.mpr h
      | other h => exact absurd rfl h
  · have hnamed : isNamed ⟨path, arguments⟩ "rpc" = false := decide_eq_false hpath
    rw [wireNames, if_neg (by rw [hnamed]; exact Bool.false_ne_true)]
    constructor
    · rintro ⟨⟩
      exact .other hpath
    · intro h
      cases h with
      | listed h => exact absurd rfl hpath
      | other h => rfl

def Method.Gives (m : Method) (names : List String) : Prop :=
  ∃ given, List.Forall₂ Attribute.Gives m.attributes given ∧ names = given.flatten

theorem Method.wireName_eq_ok_iff {m : Method} {name : String} :
    m.wireName = .ok name ↔ ∃ names, m.Gives names ∧ name = names.getLast?.getD m.name := by
  have hgives : ∀ given, m.attributes.mapM Attribute.wireNames = .ok given ↔
      List.Forall₂ Attribute.Gives m.attributes given := by
    intro given
    rw [mapM_eq_ok_iff]
    simp only [Attribute.wireNames_eq_ok_iff]
  rw [wireName]
  cases hnames : m.attributes.mapM Attribute.wireNames with
  | error e =>
      constructor
      · rintro ⟨⟩
      · rintro ⟨names, ⟨given, hgiven, -⟩, -⟩
        rw [(hgives given).mpr hgiven] at hnames
        cases hnames
  | ok given =>
      constructor
      · rintro ⟨⟩
        exact ⟨given.flatten, ⟨given, (hgives given).mp hnames, rfl⟩, rfl⟩
      · rintro ⟨names, ⟨given', hgiven, rfl⟩, rfl⟩
        rw [(hgives given').mpr hgiven] at hnames
        cases hnames
        rfl

end JsonRpc.Declaration
