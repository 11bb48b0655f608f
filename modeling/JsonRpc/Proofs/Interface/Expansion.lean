import JsonRpc.Interface.Invocation
import JsonRpc.Proofs.Interface.WireNames
import JsonRpc.Proofs.Session.Attribution
import JsonRpc.Proofs.Session.Traffic

/-!
# What a declaration expands to

A trait expands to a proxy where all its items are methods that can be invoked
remotely.  The proxy then has one signature and one stub for every method, and
both are told from the method alone and stand at its place.  A stub therefore
finds the signature of its own method, also where two methods have one name on
the wire, and it passes as many parameters as that signature wants.  So nothing
that a stub does is ever rejected for the number of its parameters, and each
invocation hands one message to the transport.
-/

namespace JsonRpc

/-- The message of an invocation: a notification where nothing is returned, and a call
otherwise. -/
def Signature.message (signature : Signature) (s : Session) (params : List Json) : Message :=
  match signature.returns with
  | .unit => .notification s.destination s.config.versionTagging signature.name params
  | .value => .call s.destination s.config.versionTagging signature.name params

theorem Signature.json?_message (signature : Signature) (s : Session) {params : List Json}
    (hparams : ∀ p ∈ params, p.Exact ∧ p.depth ≤ 125) :
    (signature.message s params).json? = some (requestObject (signature.returns = .value)
      s.config.versionTagging signature.name params) := by
  cases hreturns : signature.returns with
  | unit =>
      rw [message, hreturns]
      exact Message.asks_notification s.destination s.config.versionTagging signature.name hparams
  | value =>
      rw [message, hreturns]
      exact Message.asks_call s.destination s.config.versionTagging signature.name hparams

namespace Session

variable {signature : Signature} {params : List Json}

theorem request_invoke (s : Session) (h : params.length = signature.arity) :
    s.request (.invoke signature params) =
      .ok ⟨signature.name, params, signature.returns = .value⟩ :=
  if_neg (not_not_intro h)

theorem message_invoke (s : Session) (signature : Signature) (params : List Json) :
    s.message ⟨signature.name, params, signature.returns = .value⟩ =
      signature.message s params := by
  rw [Signature.message]
  cases signature.returns with
  | unit => exact s.message_notification signature.name params
  | value => exact s.message_call signature.name params

theorem perform_invoke (s : Session) (carry : Carrier) (h : params.length = signature.arity) :
    let message := signature.message s params
    let course := s.perform carry (.invoke signature params)
    course.handed = some message ∧ course.ending = carry message ∧
      course.result = (carry message).map (verdict (.invoke signature params)
        ⟨signature.name, params, signature.returns = .value⟩) := by
  obtain ⟨report, hcourse⟩ := perform_request carry (s.request_invoke h)
  rw [message_invoke] at hcourse
  rw [hcourse]
  exact ⟨rfl, rfl, rfl⟩

theorem result_invoke_ne_invalidParams (s : Session) (carry : Carrier)
    (h : params.length = signature.arity) (detail : String) :
    (s.perform carry (.invoke signature params)).result ≠
      some (.error (.invalidParams detail)) := by
  intro hresult
  obtain ⟨-, -, hverdict⟩ := s.perform_invoke carry h
  obtain ⟨ending, -, he⟩ := Option.map_eq_some_iff.mp (hverdict.symm.trans hresult)
  cases fromOutside_verdict _ _ ending _ he

end Session

namespace Declaration

def Argument.isTyped (a : Argument) : Bool := a.type?.isSome

namespace Method

variable {m : Method} {signature : Signature}

/-- The arguments besides the receiver, each with its position, its pattern and its type. -/
def typed (m : Method) : List (Nat × List Token × List Token) :=
  m.arguments.zipIdx.filterMap fun
    | (.receiver, _) => none
    | (.typed pattern type, position) => some (position, pattern, type)

theorem argumentNames_eq (m : Method) :
    m.argumentNames = m.typed.map fun (position, pattern, _) =>
      (boundName? pattern).getD ("arg" ++ toString position) := by
  rw [argumentNames, typed, List.map_filterMap]
  congr 1
  funext ⟨a, position⟩
  cases a <;> rfl

/-- What is taken of each argument, whatever its position. -/
theorem filterMap_arguments {α : Type} (f : Argument → Option α) (m : Method) :
    m.arguments.zipIdx.filterMap (fun a => f a.1) = m.arguments.filterMap f := by
  conv_rhs => rw [← List.zipIdx_map_fst 0 m.arguments, List.filterMap_map]
  rfl

theorem argumentTypes_eq (m : Method) :
    m.argumentTypes = m.typed.map fun (_, _, type) => Token.textOf type := by
  rw [argumentTypes, ← filterMap_arguments, typed, List.map_filterMap]
  congr 1
  funext ⟨a, position⟩
  cases a <;> rfl

theorem length_typed (m : Method) : m.typed.length = m.arguments.countP Argument.isTyped := by
  have hlength := congrArg List.length m.argumentTypes_eq
  rw [List.length_map, argumentTypes, List.length_filterMap_eq_countP] at hlength
  rw [← hlength]
  simp only [Option.isSome_map]
  rfl

theorem returnKind_eq_unit_iff (m : Method) :
    m.returnKind = .unit ↔
      m.returns = none ∨ m.returns = some [.opening .round, .closing .round] := by
  rw [returnKind, result?]
  cases m.returns with
  | none => simp
  | some type => by_cases h : type = [.opening .round, .closing .round] <;> simp [isUnitType, h]

structure Declares (m : Method) (signature : Signature) : Prop where
  name : ∃ names, m.Gives names ∧ signature.name = names.getLast?.getD m.name
  arity : signature.arity = m.arguments.countP Argument.isTyped
  returns : signature.returns = .unit ↔
    m.returns = none ∨ m.returns = some [.opening .round, .closing .round]

theorem signature_eq_ok_iff :
    m.signature = .ok signature ↔ m.generics = [] ∧ m.Declares signature := by
  have harity : m.argumentNames.length = m.arguments.countP Argument.isTyped := by
    rw [argumentNames_eq, List.length_map, length_typed]
  have hsignature : ∀ name, m.generics = [] → m.wireName = .ok name →
      m.signature = .ok ⟨name, m.argumentNames.length, m.returnKind⟩ := by
    intro name hgenerics hname
    simp only [Method.signature, hgenerics, hname]
    rfl
  constructor
  · intro h
    cases hgenerics : m.generics with
    | cons token tokens =>
        simp only [Method.signature, hgenerics] at h
        cases h
    | nil =>
        cases hname : m.wireName with
        | error e =>
            simp only [Method.signature, hgenerics, hname] at h
            cases h
        | ok name =>
            rw [hsignature name hgenerics hname] at h
            cases h
            exact ⟨rfl, wireName_eq_ok_iff.mp hname, harity, m.returnKind_eq_unit_iff⟩
  · rintro ⟨hgenerics, hname, hlength, hreturns⟩
    have hkind : m.returnKind = signature.returns := by
      have hiff := m.returnKind_eq_unit_iff.trans hreturns.symm
      cases hreturn : signature.returns <;> cases hdeclared : m.returnKind <;> simp_all
    rw [hsignature signature.name hgenerics (wireName_eq_ok_iff.mpr hname), harity, hkind,
      ← hlength]

/-- A method can be invoked remotely if its attributes are lists of names and it is not
generic. -/
theorem exists_signature_iff :
    (∃ signature, m.signature = .ok signature) ↔ m.generics = [] ∧
      ∀ a ∈ m.attributes, a.path = [.word "rpc"] →
        ∃ content names, a.arguments = .enclosed content ∧ Declaration.Gives content names := by
  have hattribute : ∀ a : Attribute, (∃ names, a.Gives names) ↔ (a.path = [.word "rpc"] →
      ∃ content names, a.arguments = .enclosed content ∧ Declaration.Gives content names) := by
    intro a
    constructor
    · rintro ⟨names, h⟩ hpath
      cases h with
      | @listed content _ h => exact ⟨content, names, rfl, h⟩
      | other h => exact absurd hpath h
    · intro h
      obtain ⟨path, arguments⟩ := a
      by_cases hpath : path = [.word "rpc"]
      · obtain ⟨content, names, rfl, hgives⟩ := h hpath
        subst hpath
        exact ⟨names, .listed hgives⟩
      · exact ⟨[], .other hpath⟩
  have hnames : (∃ names, m.Gives names) ↔ ∀ a ∈ m.attributes, ∃ names, a.Gives names := by
    rw [← exists_forall₂_iff]
    constructor
    · rintro ⟨_, given, hgiven, -⟩
      exact ⟨given, hgiven⟩
    · rintro ⟨given, hgiven⟩
      exact ⟨_, given, hgiven, rfl⟩
  simp only [signature_eq_ok_iff, ← hattribute, ← hnames]
  constructor
  · rintro ⟨signature, hgenerics, ⟨names, hgives, -⟩, -, -⟩
    exact ⟨hgenerics, names, hgives⟩
  · rintro ⟨hgenerics, names, hgives⟩
    exact ⟨⟨names.getLast?.getD m.name, _, m.returnKind⟩, hgenerics, ⟨names, hgives, rfl⟩, rfl,
      m.returnKind_eq_unit_iff⟩

structure StubbedBy (m : Method) (i : Nat) (stub : Stub) : Prop where
  name : stub.name = m.name
  index : stub.index = i
  arguments : stub.arguments = m.typed.map fun (position, pattern, type) =>
    ((boundName? pattern).getD ("arg" ++ toString position), Token.textOf type)
  /-- A result is read unless the method is a notification. -/
  result : stub.result = none ↔
    m.returns = none ∨ m.returns = some [.opening .round, .closing .round]

theorem stubbedBy_stub (m : Method) (i : Nat) : m.StubbedBy i (m.stub i) := by
  refine ⟨rfl, rfl, ?_, ?_⟩
  · change m.argumentNames.zip m.argumentTypes = _
    rw [argumentNames_eq, argumentTypes_eq, List.zip_map']
  · rw [← returnKind_eq_unit_iff, returnKind]
    change m.result? = none ↔ _
    cases m.result? <;> simp

theorem StubbedBy.length_arguments {i : Nat} {stub : Stub} (h : m.StubbedBy i stub) :
    stub.arguments.length = m.arguments.countP Argument.isTyped := by
  rw [h.arguments, List.length_map, length_typed]

end Method

namespace Trait

variable {t : Trait} {p : Proxy}

theorem expand_of_signatures {signatures : List Signature} (hgenerics : t.generics = [])
    (h : t.items.mapM Item.signature = .ok signatures) :
    ∃ p, t.expand = .ok p ∧ p.interface.methods = signatures ∧
      p.stubs = t.methods.zipIdx.map (fun (m, i) => m.stub i) ∧
      p.keptAttributes = t.methods.map fun m => m.attributes.filterMap Attribute.kept? := by
  simp only [expand, h, hgenerics]
  exact ⟨_, rfl, rfl, rfl, rfl⟩

theorem signatures_of_expand (h : t.expand = .ok p) :
    t.generics = [] ∧ ∃ signatures, t.items.mapM Item.signature = .ok signatures := by
  cases hitems : t.items.mapM Item.signature with
  | error e =>
      simp only [expand, hitems] at h
      cases h
  | ok signatures =>
      cases hgenerics : t.generics with
      | nil => exact ⟨rfl, signatures, rfl⟩
      | cons token tokens =>
          simp only [expand, hitems, hgenerics] at h
          cases h

/-- The items of a list of which each has a signature are methods. -/
theorem methods_of_signatures {items : List Item} {signatures : List Signature}
    (h : List.Forall₂ (fun item signature => item.signature = .ok signature) items signatures) :
    items = (items.filterMap Item.method?).map .method ∧
      List.Forall₂ (fun m signature => m.signature = .ok signature)
        (items.filterMap Item.method?) signatures := by
  induction h with
  | nil => exact ⟨rfl, .nil⟩
  | @cons item signature items signatures hitem _ ih =>
      cases item with
      | other => cases hitem
      | method m => exact ⟨congrArg (Item.method m :: ·) ih.1, .cons hitem ih.2⟩

theorem exists_expand_iff :
    (∃ p, t.expand = .ok p) ↔ t.generics = [] ∧ ∀ item ∈ t.items, ∃ m, item = .method m ∧
      ∃ signature, m.signature = .ok signature := by
  have hitem : ∀ item : Item, (∃ signature, item.signature = .ok signature) ↔
      ∃ m, item = .method m ∧ ∃ signature, m.signature = .ok signature := by
    intro item
    cases item with
    | other => exact ⟨nofun, nofun⟩
    | method m =>
        constructor
        · exact fun h => ⟨m, rfl, h⟩
        · rintro ⟨m', ⟨⟩, h⟩
          exact h
  simp only [← hitem, ← exists_mapM_eq_ok_iff]
  constructor
  · rintro ⟨p, h⟩
    exact signatures_of_expand h
  · rintro ⟨hgenerics, signatures, h⟩
    obtain ⟨p, hp, -⟩ := expand_of_signatures hgenerics h
    exact ⟨p, hp⟩

/-- Every method has its signature, its stub and its attributes at its own place. -/
theorem places_of_expand (h : t.expand = .ok p) :
    t.items = t.methods.map .method ∧
      List.Forall₂ Method.Declares t.methods p.interface.methods ∧
      p.stubs = t.methods.zipIdx.map (fun (m, i) => m.stub i) ∧
      p.keptAttributes = t.methods.map fun m => m.attributes.filterMap Attribute.kept? := by
  obtain ⟨hgenerics, signatures, hsignatures⟩ := signatures_of_expand h
  obtain ⟨p', hp', rfl, hstubs, hkept⟩ := expand_of_signatures hgenerics hsignatures
  obtain rfl : p' = p := Except.ok.inj (hp'.symm.trans h)
  obtain ⟨hitems, hmethods⟩ := methods_of_signatures (mapM_eq_ok_iff.mp hsignatures)
  exact ⟨hitems, hmethods.imp fun m signature hm => (Method.signature_eq_ok_iff.mp hm).2, hstubs,
    hkept⟩

theorem stub_of_expand (h : t.expand = .ok p) {i : Nat} {m : Method}
    (hm : t.methods[i]? = some m) : p.stubs[i]? = some (m.stub i) := by
  obtain ⟨-, -, hstubs, -⟩ := places_of_expand h
  rw [hstubs, List.getElem?_map, List.getElem?_zipIdx, hm, Nat.zero_add]
  rfl

end Trait

end Declaration

namespace Proxy

variable {p : Proxy} {stub : Stub} {signature : Signature} {values : List Datum}
  {params : List Json}

/-- A stub that has a value for each argument passes all that they become. -/
theorem operation?_eq (hsignature : p.signature? stub = some signature)
    (hlength : values.length = stub.arguments.length)
    (hparams : values.mapM Datum.toParam = .ok params) :
    p.operation? stub values = some (.ok (.invoke signature params)) := by
  have hvalues : (stub.arguments.zip values).map Prod.snd = values :=
    List.map_snd_zip (Nat.le_of_eq hlength)
  have hparameters : stub.parameters values = .ok params := by
    rw [← hparams]
    conv_rhs => rw [← hvalues, List.mapM_map]
    rfl
  rw [operation?, hsignature, Option.map_some, hparameters]
  rfl

end Proxy

namespace Declaration

/-- A declaration expands to a proxy exactly where each of its items is a method that can be
invoked remotely.  The proxy has a signature and a stub for each method, at its place, and a stub
whose arguments have values that can be converted invokes its method under that signature: one
message goes to the transport, a peer that can read the parameters reads it as that request, and the
number of the parameters is never wrong. -/
theorem expand_faithful (t : Trait) :
    ((∃ p, t.expand = .ok p) ↔ t.generics = [] ∧ ∀ item ∈ t.items, ∃ m, item = .method m ∧
      m.generics = [] ∧ ∀ a ∈ m.attributes, a.path = [.word "rpc"] →
        ∃ content names, a.arguments = .enclosed content ∧ Gives content names) ∧
    ∀ p, t.expand = .ok p → t.items = t.methods.map .method ∧
      p.interface.methods.length = t.methods.length ∧ p.stubs.length = t.methods.length ∧
      ∀ (i : Nat) (m : Method), t.methods[i]? = some m → ∃ signature stub,
        p.interface.methods[i]? = some signature ∧ m.Declares signature ∧
        p.stubs[i]? = some stub ∧ m.StubbedBy i stub ∧ p.signature? stub = some signature ∧
        p.keptAttributes[i]? = some ((m.attributes.filter fun a => a.path ≠ [.word "rpc"]).map
          fun a => Token.textOf a.path) ∧
        ∀ values params, values.length = stub.arguments.length →
          values.mapM Datum.toParam = .ok params →
          p.operation? stub values = some (.ok (.invoke signature params)) ∧
          ∀ (s : Session) carry, let course := s.perform carry (.invoke signature params)
            course.handed = some (signature.message s params) ∧
            ((∀ q ∈ params, q.Exact ∧ q.depth ≤ 125) →
              (signature.message s params).json? = some (requestObject
                (signature.returns = .value) s.config.versionTagging signature.name params)) ∧
            ∀ detail, course.result ≠ some (.error (.invalidParams detail)) := by
  refine ⟨?_, ?_⟩
  · simp only [Trait.exists_expand_iff, Method.exists_signature_iff]
  · intro p h
    obtain ⟨hitems, hsignatures, hstubs, hkept⟩ := Trait.places_of_expand h
    have hlength : p.stubs.length = t.methods.length := by
      rw [hstubs, List.length_map, List.length_zipIdx]
    refine ⟨hitems, hsignatures.length_eq.symm, hlength, ?_⟩
    intro i m hm
    obtain ⟨hi, hget⟩ := List.getElem?_eq_some_iff.mp hm
    have hi' : i < p.interface.methods.length := hsignatures.length_eq ▸ hi
    have hsignature : p.interface.methods[i]? = some p.interface.methods[i] :=
      List.getElem?_eq_getElem hi'
    have hdeclares : m.Declares p.interface.methods[i] := by
      rw [← hget]
      exact hsignatures.get hi hi'
    have hstub : m.StubbedBy i (m.stub i) := m.stubbedBy_stub i
    have hattributes : m.attributes.filterMap Attribute.kept? =
        (m.attributes.filter fun a => a.path ≠ [.word "rpc"]).map
          fun a => Token.textOf a.path := by
      rw [← List.filterMap_eq_map, List.filterMap_filter]
      congr 1
      funext a
      by_cases hpath : a.path = [.word "rpc"] <;> simp [Attribute.kept?, Attribute.isNamed, hpath]
    refine ⟨_, m.stub i, hsignature, hdeclares, Trait.stub_of_expand h hm, hstub, hsignature,
      by rw [hkept, List.getElem?_map, hm, Option.map_some, hattributes], ?_⟩
    intro values params hvalues hparams
    have hoperation : p.operation? (m.stub i) values = some (.ok (.invoke _ params)) :=
      Proxy.operation?_eq hsignature hvalues hparams
    have harity : params.length = p.interface.methods[i].arity := by
      rw [← (mapM_eq_ok_iff.mp hparams).length_eq, hvalues, hstub.length_arguments,
        hdeclares.arity]
    exact ⟨hoperation, fun s carry => ⟨(s.perform_invoke carry harity).1,
      Signature.json?_message _ s, s.result_invoke_ne_invalidParams carry harity⟩⟩

/-- Two methods with one name on the wire, of which one has no receiver, and a method with a name
of its own. -/
def notes : Trait where
  name := "Notes"
  isPublic := true
  generics := []
  items := [
    .method ⟨"write", [], [.receiver, .typed [.word "_"] [.word "String"]], none,
      [⟨[.word "rpc"], .enclosed (listed [("\"add\"", "add"), ("\"log\"", "log")])⟩,
        ⟨[.word "rpc"], .enclosed []⟩]⟩,
    .method ⟨"lines", [], [.typed [.word "from"] [.word "i64"]], some [.word "i64"],
      [⟨[.word "rpc"], .enclosed (listed [("\"log\"", "log")] ++ [.sign ","])⟩]⟩,
    .method ⟨"r#type", [], [.receiver], some [.opening .round, .closing .round], []⟩]

/-- The second of two methods with one name is invoked as what it is. -/
theorem expand_faithful_of_shared_name :
    ∃ p stub, notes.expand = .ok p ∧
      p.interface.methods =
        [⟨"log", 1, .unit⟩, ⟨"log", 1, .value⟩, ⟨"r#type", 0, .unit⟩] ∧
      p.stubs[1]? = some stub ∧
      p.operation? stub [.int 7] = some (.ok (.invoke ⟨"log", 1, .value⟩ [.int 7])) ∧
      ∀ (s : Session) carry, (s.perform carry (.invoke ⟨"log", 1, .value⟩ [.int 7])).handed =
          some (.call s.destination s.config.versionTagging "log" [.int 7]) ∧
        (Message.call s.destination s.config.versionTagging "log" [.int 7]).json? =
          some (requestObject true s.config.versionTagging "log" [.int 7]) := by
  obtain ⟨p, hp⟩ : ∃ p, notes.expand = .ok p := ⟨_, rfl⟩
  have hmethods : p.interface.methods =
      [⟨"log", 1, .unit⟩, ⟨"log", 1, .value⟩, ⟨"r#type", 0, .unit⟩] := by
    cases hp
    rfl
  obtain ⟨-, -, -, hplaces⟩ := (expand_faithful notes).2 p hp
  obtain ⟨signature, stub, hsignature, -, hstub, hstubbed, -, -, hinvoke⟩ := hplaces 1 _ rfl
  rw [hmethods] at hsignature
  cases hsignature
  obtain ⟨hoperation, hcourse⟩ :=
    hinvoke [.int 7] [.int 7] hstubbed.length_arguments.symm rfl
  have hseven : ∀ q ∈ [Json.int 7], q.Exact ∧ q.depth ≤ 125 :=
    List.forall_mem_singleton.mpr ⟨.int (by decide), Nat.zero_le 125⟩
  refine ⟨p, stub, hp, hmethods, hstub, hoperation, fun s carry => ?_⟩
  obtain ⟨hhanded, hread, -⟩ := hcourse s carry
  exact ⟨hhanded, hread hseven⟩

end Declaration

end JsonRpc
