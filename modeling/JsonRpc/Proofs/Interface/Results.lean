import JsonRpc.Proofs.Interface.Conversion

/-!
# Results of the service for geometry

A list is read by its items, a map by its values, and a value that may be
missing by the value or by null.  So a reading that is composed of others
follows a relation that is composed of theirs.

The invocations of the service for geometry return integers, octets, points,
and what is composed of these.  Each of them converts its arguments, hands over
one message, and returns what the result of the reply denotes.  Where the result
denotes nothing of its type, it fails, and a notification returns nothing
whatever comes back.
-/

namespace JsonRpc

namespace Reading

variable {α β : Type} {item : Reading α} {Item : Json → α → Prop}

inductive DenotesList (Item : Json → α → Prop) : Json → List α → Prop where
  | items {vs : List Json} {xs : List α} (h : List.Forall₂ Item vs xs) :
      DenotesList Item (.arr vs) xs

/-- Null denotes that there is no value. -/
inductive DenotesOptional (Item : Json → α → Prop) : Json → Option α → Prop where
  | missing : DenotesOptional Item .null none
  | given {v : Json} {x : α} (hv : v ≠ .null) (h : Item v x) : DenotesOptional Item v (some x)

inductive DenotesMap (Item : Json → α → Prop) : Json → List (String × α) → Prop where
  | members {ms : Members} {entries : List (String × α)}
      (h : List.Forall₂ (fun m entry => m.1 = entry.1 ∧ Item m.2 entry.2) ms entries) :
      DenotesMap Item (.obj ms) entries

/-- Lists of which all elements are as they should be can be compared by a relation for those. -/
theorem forall₂_congr_of_forall {γ δ : Type} {P : γ → Prop} {R S : γ → δ → Prop}
    (hiff : ∀ a, P a → ∀ b, R a b ↔ S a b) {as : List γ} (has : ∀ a ∈ as, P a) {bs : List δ} :
    List.Forall₂ R as bs ↔ List.Forall₂ S as bs := by
  induction as generalizing bs with
  | nil => rw [List.forall₂_nil_left_iff, List.forall₂_nil_left_iff]
  | cons a as ih =>
      obtain ⟨ha, has⟩ := List.forall_mem_cons.mp has
      simp only [List.forall₂_cons_left_iff, hiff a ha, ih has]

theorem Follows.list (h : item.Follows Item) :
    (Reading.list item).Follows (DenotesList Item) := by
  intro v hv xs
  cases v with
  | arr vs =>
      have hitems : (∀ w ∈ vs, w.Proper) := Json.proper_arr_iff.mp hv
      rw [Reading.list, mapM_eq_ok_iff, forall₂_congr_of_forall (fun w hw => h hw) hitems]
      constructor
      · exact .items
      · rintro ⟨hxs⟩
        exact hxs
  | _ =>
      constructor
      · intro hread
        cases hread
      · rintro ⟨⟩

theorem Follows.optional (h : item.Follows Item) :
    (Reading.optional item).Follows (DenotesOptional Item) := by
  intro v hv given
  by_cases hnull : v = .null
  · subst hnull
    rw [Reading.optional, Except.ok.injEq]
    constructor
    · rintro rfl
      exact .missing
    · intro hdenotes
      cases hdenotes with
      | missing => rfl
      | given hv => exact absurd rfl hv
  · have hread : Reading.optional item v = (item v).map some := by
      cases v with
      | null => exact absurd rfl hnull
      | _ => rfl
    rw [hread, map_eq_ok_iff]
    constructor
    · rintro ⟨x, hx, rfl⟩
      exact .given hnull ((h hv x).mp hx)
    · intro hdenotes
      cases hdenotes with
      | missing => exact absurd rfl hnull
      | given _ hx => exact ⟨_, (h hv _).mpr hx, rfl⟩

theorem Follows.entries (h : item.Follows Item) :
    (Reading.map item).Follows (DenotesMap Item) := by
  intro v hv entries
  cases v with
  | obj ms =>
      have hmembers : ∀ m ∈ ms, m.2.Proper := (Json.proper_obj_iff.mp hv).2
      have hentry : ∀ m : String × Json, m.2.Proper → ∀ entry : String × α,
          (item m.2).map (m.1, ·) = .ok entry ↔ m.1 = entry.1 ∧ Item m.2 entry.2 := by
        rintro ⟨key, w⟩ hw ⟨key', x⟩
        rw [map_eq_ok_iff]
        simp only [h hw, Prod.mk.injEq]
        constructor
        · rintro ⟨y, hy, rfl, rfl⟩
          exact ⟨rfl, hy⟩
        · rintro ⟨rfl, hx⟩
          exact ⟨x, hx, rfl, rfl⟩
      change ms.mapM (fun m => (item m.2).map (m.1, ·)) = .ok entries ↔ _
      rw [mapM_eq_ok_iff, forall₂_congr_of_forall hentry hmembers]
      constructor
      · exact .members
      · rintro ⟨hentries⟩
        exact hentries
  | _ =>
      constructor
      · intro hread
        cases hread
      · rintro ⟨⟩

/-- A value denotes what a function makes of what it denotes. -/
def DenotesAs (Item : Json → α → Prop) (f : α → β) : Json → β → Prop :=
  fun v y => ∃ x, Item v x ∧ f x = y

theorem Follows.mapped (h : item.Follows Item) (f : α → β) :
    Follows (fun v => (item v).map f) (DenotesAs Item f) := by
  intro v hv y
  rw [map_eq_ok_iff, DenotesAs]
  simp only [h hv]

end Reading

namespace Geometry

open Json (FitsSigned)
open Reading (DenotesAs DenotesList DenotesMap DenotesOptional)

inductive DenotesOctet : Json → Int → Prop where
  | int {n : Int} (h : 0 ≤ n ∧ n < 0x100) : DenotesOctet (.int n) n

theorem octet_follows : Reading.octet.Follows DenotesOctet := by
  intro v _ n
  rw [Reading.octet, Json.Shape.ofTree_integer_eq_ok_iff, decide_eq_true_iff]
  constructor
  · rintro ⟨rfl, h⟩
    exact .int h
  · rintro ⟨h⟩
    exact ⟨rfl, h⟩

namespace Invocation

/-- What the values denote that come back to an invocation.  To a notification they are of no
account. -/
def Denotes : Invocation → Json → Result → Prop
  | add .. => DenotesAs DenotesInteger .integer
  | translate .. => DenotesAs Point.Denotes .point
  | scale .. => DenotesAs (DenotesList Point.Denotes) .points
  | find _ => DenotesAs (DenotesOptional Point.Denotes) .maybePoint
  | byte _ => DenotesAs DenotesOctet .integer
  | allTags | tagsOf _ => DenotesAs (DenotesMap DenotesInteger) .tags
  | log _ | reset => fun _ r => .nothing = r

theorem reading_follows (i : Invocation) : i.reading.Follows i.Denotes := by
  have hnothing : Reading.Follows (fun _ => .ok Result.nothing) fun _ r => .nothing = r := by
    intro v _ r
    rw [Except.ok.injEq]
  cases i with
  | add a b => exact signed_follows.mapped Result.integer
  | translate point dx dy => exact Point.reading_follows.mapped Result.point
  | log line => exact hnothing
  | reset => exact hnothing
  | scale points factor => exact Point.reading_follows.list.mapped Result.points
  | find name => exact Point.reading_follows.optional.mapped Result.maybePoint
  | byte b => exact octet_follows.mapped Result.integer
  | allTags => exact signed_follows.entries.mapped Result.tags
  | tagsOf start => exact signed_follows.entries.mapped Result.tags

def Fits : Invocation → Prop
  | add a b => FitsSigned a ∧ FitsSigned b
  | translate point dx dy => point.Fits ∧ FitsSigned dx ∧ FitsSigned dy
  | scale points _ => ∀ p ∈ points, p.Fits
  | byte b => 0 ≤ b ∧ b < 0x100
  | _ => True

def params : Invocation → List Json
  | add a b => [.int a, .int b]
  | translate point dx dy => [point.json, .int dx, .int dy]
  | log line => [.str line]
  | reset => []
  | scale points factor => [.arr (points.map Point.json), Datum.ofFloat factor]
  | find none => [.null]
  | find (some name) => [.str name]
  | byte b => [.int b]
  | allTags => []
  | tagsOf start => [.str start]

/-- Whether a parameter is a float. -/
def hasFactor : Invocation → Bool
  | scale .. => true
  | _ => false

end Invocation

theorem itemsToJson_points {points : List Point} (h : ∀ p ∈ points, p.Fits) :
    Datum.itemsToJson (points.map Point.datum) = .ok (points.map Point.json) := by
  induction points with
  | nil => rfl
  | cons p rest ih =>
      obtain ⟨hp, hrest⟩ := List.forall_mem_cons.mp h
      rw [List.map_cons, List.map_cons, Datum.itemsToJson, hp.toJson_datum, ih hrest]
      rfl

theorem toParam_points {points : List Point} (h : ∀ p ∈ points, p.Fits) :
    (Datum.list (points.map Point.datum)).toParam = .ok (.arr (points.map Point.json)) := by
  rw [Datum.toParam, Datum.toJson, itemsToJson_points h]
  rfl

namespace Invocation

variable {i : Invocation}

theorem fitsSigned_of_octet {b : Int} (h : 0 ≤ b ∧ b < 0x100) : FitsSigned b := by
  rw [FitsSigned]
  omega

theorem Fits.params_eq (h : i.Fits) : i.arguments.mapM Datum.toParam = .ok i.params := by
  cases i with
  | add a b => exact mapM_toParam_int h.1 h.2
  | translate point dx dy => exact mapM_toParam_datum h.1 h.2.1 h.2.2
  | scale points factor => exact mapM_eq_ok_iff.mpr (.cons (toParam_points h) (.cons rfl .nil))
  | find name => cases name <;> rfl
  | byte b => exact mapM_eq_ok_iff.mpr (.cons (toParam_int (fitsSigned_of_octet h)) .nil)
  | _ => rfl

theorem Fits.operation_eq (h : i.Fits) :
    i.operation = .ok (.invoke i.signature i.params) := by
  rw [operation, h.params_eq]
  rfl

theorem length_params (i : Invocation) : i.params.length = i.signature.arity := by
  cases i with
  | find name => cases name <;> rfl
  | _ => rfl

theorem Fits.readable (h : i.Fits) (hfactor : i.hasFactor = false) :
    ∀ q ∈ i.params, q.Exact ∧ q.depth ≤ 125 := by
  cases i with
  | add a b =>
      simp only [params, List.forall_mem_cons]
      exact ⟨readable_int h.1, readable_int h.2, nofun⟩
  | translate point dx dy =>
      simp only [params, List.forall_mem_cons]
      exact ⟨h.1.readable, readable_int h.2.1, readable_int h.2.2, nofun⟩
  | log line => exact List.forall_mem_singleton.mpr (readable_str line)
  | reset => exact nofun
  | scale points factor => cases hfactor
  | find name =>
      cases name with
      | none => exact List.forall_mem_singleton.mpr ⟨.null, Nat.zero_le 125⟩
      | some name => exact List.forall_mem_singleton.mpr (readable_str name)
  | byte b => exact List.forall_mem_singleton.mpr (readable_int (fitsSigned_of_octet h))
  | allTags => exact nofun
  | tagsOf start => exact List.forall_mem_singleton.mpr (readable_str start)

theorem result_perform (i : Invocation) (s : Session) (carry : Carrier) {reply : Octets}
    (hreply : carry (i.signature.message s i.params) = some (.delivered reply)) :
    (s.perform carry (.invoke i.signature i.params)).result =
      some (Session.verdict (.invoke i.signature i.params)
        ⟨i.signature.name, i.params, i.signature.returns = .value⟩ (.delivered reply)) := by
  obtain ⟨-, -, hverdict⟩ := s.perform_invoke carry i.length_params
  rw [hverdict, hreply, Option.map_some]

theorem returned_of_unit (i : Invocation) (s : Session) (carry : Carrier) {reply : Octets}
    (hreply : carry (i.signature.message s i.params) = some (.delivered reply))
    (hunit : i.signature.returns = .unit) :
    (s.perform carry (.invoke i.signature i.params)).result.map (·.bind i.result) =
      some (.ok .nothing) := by
  have hnot : decide (i.signature.returns = .value) = false := by
    rw [hunit]
    rfl
  rw [i.result_perform s carry hreply,
    Session.verdict_of_notification Operation.noConfusion hnot]
  cases i with
  | log line => rfl
  | reset => rfl
  | _ => cases hunit

theorem returned_of_value (i : Invocation) (s : Session) (carry : Carrier) {reply : Octets}
    {v : Json} (hreply : carry (i.signature.message s i.params) = some (.delivered reply))
    (hvalue : i.signature.returns = .value) (hv : Reply.resultOfOctets reply = .ok v) :
    (s.perform carry (.invoke i.signature i.params)).result.map (·.bind i.result) =
      some (Reading.ofResult i.reading (some v)) := by
  rw [i.result_perform s carry hreply,
    Session.verdict_of_expectsReply Operation.noConfusion (decide_eq_true hvalue),
    Session.callResult, hv]
  rfl

/-- An invocation whose arguments fit hands over one message, which a peer can read unless there is
a float in it.  What the result of the reply denotes is what the invocation returns, and a
notification that is published returns nothing. -/
theorem Fits.converts (h : i.Fits) (s : Session) (carry : Carrier) :
    ∃ op, i.operation = .ok op ∧
      let message := i.signature.message s i.params
      let returned := (s.perform carry op).result.map (·.bind i.result)
      (s.perform carry op).handed = some message ∧
      (i.hasFactor = false → message.json? = some (requestObject (i.signature.returns = .value)
        s.config.versionTagging i.signature.name i.params)) ∧
      ∀ reply, carry message = some (.delivered reply) →
        (i.signature.returns = .unit → returned = some (.ok .nothing)) ∧
        ∀ v, i.signature.returns = .value → Reply.resultOfOctets reply = .ok v →
          (∀ r, returned = some (.ok r) ↔ i.Denotes v r) ∧
          ((∀ r, ¬i.Denotes v r) →
            ∃ detail, returned = some (.error (.serialization detail))) := by
  refine ⟨_, h.operation_eq, (s.perform_invoke carry i.length_params).1,
    fun hfactor => i.signature.json?_message s (h.readable hfactor), fun reply hreply => ?_⟩
  refine ⟨i.returned_of_unit s carry hreply, fun v hvalue hv => ?_⟩
  have hproper : v.Proper := Reply.proper_of_resultOfOctets hv
  rw [i.returned_of_value s carry hreply hvalue hv]
  refine ⟨fun r => ?_, fun hnone => ?_⟩
  · rw [Option.some.injEq]
    exact i.reading_follows.ofResult_eq_ok_iff hproper
  · obtain ⟨detail, hdetail⟩ := i.reading_follows.ofResult_of_mismatch hproper hnone
    exact ⟨detail, congrArg some hdetail⟩

end Invocation

end Geometry

end JsonRpc
