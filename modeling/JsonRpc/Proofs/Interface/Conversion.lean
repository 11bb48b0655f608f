import JsonRpc.Proofs.Interface.Geometry
import JsonRpc.Proofs.Interface.Stubs
import JsonRpc.Proofs.Json.Fields

/-!
# Conversions at the stubs of a plane

Integers and points go to the service as what they are, and only what is an
integer of a signed word, or has two of them for its coordinates, comes back as
one.  Which values these are is said by `DenotesInteger` and `Point.Denotes`,
without a look at how they are read.  The reading of each type follows its
relation, so whatever else a peer answers is a mismatch.

The stubs are those of a declared trait.  Invocations of the service for geometry
are calls of such stubs.
-/

namespace JsonRpc.Geometry

open Declaration (Trait)
open Json (FitsSigned)

/-- A value is this integer of a signed word.  A float is none, whatever its value. -/
inductive DenotesInteger : Json → Int → Prop where
  | int {n : Int} (h : FitsSigned n) : DenotesInteger (.int n) n

theorem signed_follows : Reading.signed.Follows DenotesInteger := by
  intro v _ n
  rw [Reading.signed, Json.Shape.ofTree_integer_eq_ok_iff, decide_eq_true_iff]
  constructor
  · rintro ⟨rfl, h⟩
    exact .int h
  · rintro ⟨h⟩
    exact ⟨rfl, h⟩

namespace Point

structure Fits (p : Point) : Prop where
  x : FitsSigned p.x
  y : FitsSigned p.y

/-- A value is this point: an object by its two members, whatever others it has, or a list of the
two coordinates. -/
inductive Denotes : Json → Point → Prop where
  | object {members : Members} {p : Point} (hx : members.lookup "x" = some (.int p.x))
      (hy : members.lookup "y" = some (.int p.y)) (h : p.Fits) : Denotes (.obj members) p
  | list {p : Point} (h : p.Fits) : Denotes (.arr [.int p.x, .int p.y]) p

structure StatedBy (p : Point) (v : Json) : Prop where
  x : v.field? "x" 0 = some (.int p.x)
  y : v.field? "y" 1 = some (.int p.y)
  fits : p.Fits

theorem nodup_record : (record.fields.map Json.Field.name).Nodup := by decide

theorem StatedBy.unique {v : Json} {p q : Point} (hp : p.StatedBy v) (hq : q.StatedBy v) :
    p = q := by
  obtain ⟨px, py⟩ := p
  obtain ⟨qx, qy⟩ := q
  cases hp.x.symm.trans hq.x
  cases hp.y.symm.trans hq.y
  rfl

theorem denotes_iff {v : Json} {p : Point} :
    Denotes v p ↔ record.Fits v ∧ p.StatedBy v := by
  constructor
  · intro h
    cases h with
    | object hx hy h => exact ⟨trivial, hx, hy, h⟩
    | list h => exact ⟨Nat.le_refl 2, rfl, rfl, h⟩
  · rintro ⟨hfits, hx, hy, h⟩
    cases v with
    | obj members => exact .object hx hy h
    | arr items =>
        obtain _ | ⟨_, _ | ⟨_, _ | ⟨_, rest⟩⟩⟩ := items
        · cases hx
        · cases hy
        · cases hx
          cases hy
          exact .list h
        · have hlong : rest.length + 3 ≤ 2 := hfits
          omega
    | _ => cases hfits

theorem statedBy_of_reading {v : Json} {p : Point} (hv : v.Proper) (h : reading v = .ok p) :
    p.StatedBy v := by
  obtain ⟨hx, hxfits⟩ := Json.Record.integer_of_ofTree nodup_record hv h (i := 0) rfl
    Point.x (fun _ _ => rfl) (by simp [record])
  obtain ⟨hy, hyfits⟩ := Json.Record.integer_of_ofTree nodup_record hv h (i := 1) rfl
    Point.y (fun _ _ => rfl) (by simp [record])
  exact ⟨hx, hy, of_decide_eq_true hxfits, of_decide_eq_true hyfits⟩

theorem StatedBy.exists_reading {v : Json} {p : Point} (h : p.StatedBy v) (hv : v.Proper)
    (hfits : record.Fits v) : ∃ q, reading v = .ok q := by
  refine (Json.Record.exists_ofTree_iff nodup_record hv).2 ⟨hfits, ?_⟩
  intro i f hf
  match i with
  | 0 =>
      cases hf
      exact Json.Field.admits_integer_iff.2 ⟨p.x, h.x, decide_eq_true h.fits.x⟩
  | 1 =>
      cases hf
      exact Json.Field.admits_integer_iff.2 ⟨p.y, h.y, decide_eq_true h.fits.y⟩
  | _ + 2 => cases hf

theorem reading_follows : reading.Follows Denotes := by
  intro v hv p
  rw [denotes_iff]
  constructor
  · intro h
    exact ⟨(Json.Record.ofTree_eq_ok_iff.1 h).1, statedBy_of_reading hv h⟩
  · rintro ⟨hfits, h⟩
    obtain ⟨q, hq⟩ := h.exists_reading hv hfits
    rw [hq, h.unique (statedBy_of_reading hv hq)]

def json (p : Point) : Json := .obj [("x", .int p.x), ("y", .int p.y)]

theorem depth_json_le (p : Point) : p.json.depth ≤ 125 := by
  simp [json, Json.depth, Json.depthMembers]

theorem Fits.exact {p : Point} (h : p.Fits) : p.json.Exact := by
  have hkeys : "x" < "y" := by decide
  refine .obj (List.pairwise_pair.mpr hkeys) ?_
  intro m hm
  simp only [List.mem_cons, List.not_mem_nil, or_false] at hm
  rcases hm with rfl | rfl
  · exact .int h.x.holds
  · exact .int h.y.holds

end Point

/-! ## What the arguments become -/

theorem toParam_int {n : Int} (h : FitsSigned n) : (Datum.int n).toParam = .ok (.int n) := by
  rw [Datum.toParam, Datum.toJson, if_pos h.holds]

theorem Point.Fits.toJson_datum {p : Point} (h : p.Fits) : p.datum.toJson = .ok p.json := by
  have hkeys : "x" < "y" := by decide
  have hobject : Json.object [("x", .int p.x), ("y", .int p.y)] = p.json := by
    change Json.obj (Members.insert "y" (.int p.y) [("x", .int p.x)]) = _
    rw [Members.insert_cons_of_gt _ _ _ hkeys]
    rfl
  have hjson : p.datum.toJson = .ok (Json.object [("x", .int p.x), ("y", .int p.y)]) := by
    simp only [datum, Datum.toJson, Datum.entriesToJson, Datum.key, if_pos h.x.holds,
      if_pos h.y.holds]
    rfl
  rw [hjson, hobject]

theorem Point.Fits.toParam_datum {p : Point} (h : p.Fits) : p.datum.toParam = .ok p.json := by
  rw [Datum.toParam, h.toJson_datum]

theorem mapM_toParam_int {m n : Int} (hm : FitsSigned m) (hn : FitsSigned n) :
    [Datum.int m, .int n].mapM Datum.toParam = .ok [.int m, .int n] :=
  mapM_eq_ok_iff.mpr (.cons (toParam_int hm) (.cons (toParam_int hn) .nil))

theorem mapM_toParam_datum {p : Point} {dx dy : Int} (hp : p.Fits) (hdx : FitsSigned dx)
    (hdy : FitsSigned dy) :
    [p.datum, .int dx, .int dy].mapM Datum.toParam = .ok [p.json, .int dx, .int dy] :=
  mapM_eq_ok_iff.mpr
    (.cons hp.toParam_datum (.cons (toParam_int hdx) (.cons (toParam_int hdy) .nil)))

/-! ## What a peer can read -/

theorem readable_int {n : Int} (h : FitsSigned n) : (Json.int n).Exact ∧ (Json.int n).depth ≤ 125 :=
  ⟨.int h.holds, Nat.zero_le 125⟩

theorem readable_str (s : String) : (Json.str s).Exact ∧ (Json.str s).depth ≤ 125 :=
  ⟨.str s, Nat.zero_le 125⟩

theorem Point.Fits.readable {p : Point} (h : p.Fits) : p.json.Exact ∧ p.json.depth ≤ 125 :=
  ⟨h.exact, p.depth_json_le⟩

/-! ## The stubs -/

/-- An invocation is performed as the call of its stub is. -/
theorem call?_of_invocation :
    ∃ p, declaration.expand = .ok p ∧ ∀ i : Invocation, ∃ stub, p.stubs[i.place]? = some stub ∧
      ∀ op, i.operation = .ok op → ∀ (s : Session) carry, ∃ called,
        p.call? stub i.reading i.arguments s carry = some called ∧
          called.handed = (s.perform carry op).handed ∧
          called.ending = (s.perform carry op).ending ∧
          called.result.map (·.map (·.getD .nothing)) =
            (s.perform carry op).result.map (·.bind i.result) := by
  obtain ⟨p, hp, -, hinvocation⟩ := stub_of_invocation
  refine ⟨p, hp, fun i => ?_⟩
  obtain ⟨stub, hstub, hoperation, hreturned⟩ := hinvocation i
  refine ⟨stub, hstub, fun op hop s carry => ?_⟩
  rw [hop] at hoperation
  refine ⟨_, Proxy.call?_of_operation hoperation i.reading s carry, rfl, rfl, ?_⟩
  cases (s.perform carry op).result with
  | none => rfl
  | some outcome =>
      cases outcome with
      | error e => rfl
      | ok outcome => exact congrArg some (hreturned outcome)

/-- The service for geometry with the first of its methods, where `reset` says that it returns the
empty tuple. -/
def plane : Trait :=
  { declaration with
    items := declaration.items.take 3 ++
      [method "reset" [] (some [.opening .round, .closing .round]) []] }

/-- The expansion of the plane has a stub for each method, and the stub passes on what it is called
with. -/
theorem expand_plane :
    ∃ p add translate log reset, plane.expand = .ok p ∧
      p.interface.methods =
        [⟨"add", 2, .value⟩, ⟨"translate", 3, .value⟩, ⟨"system.log", 1, .unit⟩,
          ⟨"reset", 0, .unit⟩] ∧
      p.stubs = [add, translate, log, reset] ∧
      (add.result.isSome = true ∧ translate.result.isSome = true ∧
        log.result.isSome = false ∧ reset.result.isSome = false) ∧
      (∀ a b, FitsSigned a → FitsSigned b →
        p.Passes add [.int a, .int b] ⟨"add", 2, .value⟩ [.int a, .int b]) ∧
      (∀ (point : Point) dx dy, point.Fits → FitsSigned dx → FitsSigned dy →
        p.Passes translate [point.datum, .int dx, .int dy] ⟨"translate", 3, .value⟩
          [point.json, .int dx, .int dy]) ∧
      (∀ line, p.Passes log [.text line] ⟨"system.log", 1, .unit⟩ [.str line]) ∧
      p.Passes reset [] ⟨"reset", 0, .unit⟩ [] := by
  refine ⟨_, _, _, _, _, rfl, rfl, rfl, ⟨rfl, rfl, rfl, rfl⟩, ?_, ?_, ?_, ?_⟩
  · intro a b ha hb
    refine ⟨rfl, rfl, rfl, mapM_toParam_int ha hb, ?_⟩
    simp only [List.forall_mem_cons]
    exact ⟨readable_int ha, readable_int hb, nofun⟩
  · intro point dx dy hpoint hdx hdy
    refine ⟨rfl, rfl, rfl, mapM_toParam_datum hpoint hdx hdy, ?_⟩
    simp only [List.forall_mem_cons]
    exact ⟨hpoint.readable, readable_int hdx, readable_int hdy, nofun⟩
  · intro line
    exact ⟨rfl, rfl, rfl, rfl, List.forall_mem_singleton.mpr (readable_str line)⟩
  · exact ⟨rfl, rfl, rfl, rfl, nofun⟩

/-- The stubs of the plane convert exactly.  Over any transport, `add` and `translate` hand over one
call with their very arguments and give back what the result of the reply denotes, and `log` and
`reset` hand over one notification and give back nothing.  A transport in memory records that one
message.  Where the peer there echoes, `translate` gives its own point back, and whatever the peer
answers, `log` and `reset` succeed. -/
theorem stubs_convert :
    ∃ p add translate log reset, plane.expand = .ok p ∧
      p.interface.methods =
        [⟨"add", 2, .value⟩, ⟨"translate", 3, .value⟩, ⟨"system.log", 1, .unit⟩,
          ⟨"reset", 0, .unit⟩] ∧
      p.stubs = [add, translate, log, reset] ∧
      (∀ (s : Session) (carry : Carrier),
        (∀ a b, FitsSigned a → FitsSigned b →
          ∃ i, p.call? add .signed [.int a, .int b] s carry = some i ∧
            i.Calls s carry "add" [.int a, .int b] DenotesInteger) ∧
        (∀ (point : Point) dx dy, point.Fits → FitsSigned dx → FitsSigned dy →
          ∃ i, p.call? translate Point.reading [point.datum, .int dx, .int dy] s carry = some i ∧
            i.Calls s carry "translate" [point.json, .int dx, .int dy] Point.Denotes) ∧
        (∀ line, ∃ i, p.call? log .unit [.text line] s carry = some i ∧
          i.Notifies s carry "system.log" [.str line]) ∧
        ∃ i, p.call? reset .unit [] s carry = some i ∧ i.Notifies s carry "reset" []) ∧
      ∀ (c : Conversation) (respond : Responder) (wait : Conversation.Wait),
        c.memory.closed = none →
        let carry := c.memory.carrier respond wait
        let call := Message.call c.session.destination c.session.config.versionTagging
        let notification :=
          Message.notification c.session.destination c.session.config.versionTagging
        (∀ a b, FitsSigned a → FitsSigned b →
          ∃ i, p.call? add .signed [.int a, .int b] c.session carry = some i ∧
            c.recorded respond wait i = c.memory.sent ++ [call "add" [.int a, .int b]]) ∧
        (∀ (point : Point) dx dy, point.Fits → FitsSigned dx → FitsSigned dy →
          ∃ i, p.call? translate Point.reading [point.datum, .int dx, .int dy] c.session carry =
              some i ∧
            c.recorded respond wait i =
              c.memory.sent ++ [call "translate" [point.json, .int dx, .int dy]] ∧
            (respond = .ofJson echo → i.result = some (.ok (some point)))) ∧
        (∀ line, ∃ i, p.call? log .unit [.text line] c.session carry = some i ∧
          c.recorded respond wait i = c.memory.sent ++ [notification "system.log" [.str line]] ∧
          i.result = some (.ok none)) ∧
        ∃ i, p.call? reset .unit [] c.session carry = some i ∧
          c.recorded respond wait i = c.memory.sent ++ [notification "reset" []] ∧
          i.result = some (.ok none) := by
  obtain ⟨p, add, translate, log, reset, hp, hmethods, hstubs, ⟨hadd, htranslate, hlog, hreset⟩,
    padd, ptranslate, plog, preset⟩ := expand_plane
  have hadds := fun s carry a b (ha : FitsSigned a) (hb : FitsSigned b) =>
    (padd a b ha hb).calls rfl hadd signed_follows s carry
  have htranslates := fun s carry point dx dy (hpoint : point.Fits) (hdx : FitsSigned dx)
      (hdy : FitsSigned dy) =>
    (ptranslate point dx dy hpoint hdx hdy).calls rfl htranslate Point.reading_follows s carry
  have hlogs := fun s carry line => (plog line).notifies rfl hlog .unit s carry
  have hresets := fun s carry => preset.notifies rfl hreset .unit s carry
  refine ⟨p, add, translate, log, reset, hp, hmethods, hstubs, ?_, ?_⟩
  · exact fun s carry => ⟨hadds s carry, htranslates s carry, hlogs s carry, hresets s carry⟩
  · intro c respond wait hopen carry call notification
    refine ⟨?_, ?_, ?_, ?_⟩
    · intro a b ha hb
      obtain ⟨i, hcall, hi⟩ := hadds c.session carry a b ha hb
      exact ⟨i, hcall, Invoked.recorded_of_open hopen hi.handed⟩
    · intro point dx dy hpoint hdx hdy
      obtain ⟨i, hcall, hi⟩ := htranslates c.session carry point dx dy hpoint hdx hdy
      refine ⟨i, hcall, Invoked.recorded_of_open hopen hi.handed, ?_⟩
      rintro rfl
      have hdenotes : Point.Denotes point.json point := .object rfl rfl hpoint
      exact hi.result_of_echo hopen hpoint.exact point.depth_json_le hdenotes
    · intro line
      obtain ⟨i, hcall, hi⟩ := hlogs c.session carry line
      exact ⟨i, hcall, Invoked.recorded_of_open hopen hi.handed, hi.result_of_open hopen⟩
    · obtain ⟨i, hcall, hi⟩ := hresets c.session carry
      exact ⟨i, hcall, Invoked.recorded_of_open hopen hi.handed, hi.result_of_open hopen⟩

/-- A point at the limits is read from a list, and an integer just beyond them is a mismatch. -/
theorem stubs_convert_at_limits :
    let least : Int := -0x8000000000000000
    let greatest : Int := 0x7FFFFFFFFFFFFFFF
    let s : Session := .new "geometry" {} none
    let answer (v : Json) : Carrier :=
      fun _ => some (.delivered (.ofString (Json.obj [("result", v)]).text))
    ∃ p add translate, plane.expand = .ok p ∧ p.stubs[0]? = some add ∧
      p.stubs[1]? = some translate ∧
      (∃ i, p.call? translate Point.reading
          [Point.datum ⟨greatest, least⟩, .int least, .int greatest] s
          (answer (.arr [.int greatest, .int least])) = some i ∧
        i.result = some (.ok (some ⟨greatest, least⟩))) ∧
      ∃ i detail, p.call? add .signed [.int greatest, .int 1] s
          (answer (.int (greatest + 1))) = some i ∧
        i.result = some (.error (.serialization detail)) := by
  intro least greatest s answer
  have hleast : FitsSigned least := by decide
  have hgreatest : FitsSigned greatest := by decide
  obtain ⟨p, add, translate, log, reset, hp, -, hstubs, hover, -⟩ := stubs_convert
  refine ⟨p, add, translate, hp, by rw [hstubs]; rfl, by rw [hstubs]; rfl, ?_, ?_⟩
  · have hitems : (Json.arr [.int greatest, .int least]).Exact := by
      refine .arr (List.forall_mem_cons.mpr ⟨.int hgreatest.holds, ?_⟩)
      exact List.forall_mem_singleton.mpr (.int hleast.holds)
    have hdepth : (Json.arr [.int greatest, .int least]).depth ≤ 126 := by
      simp [Json.depth, Json.depthItems]
    obtain ⟨-, htranslate, -⟩ := hover s (answer (.arr [.int greatest, .int least]))
    obtain ⟨i, hcall, hi⟩ := htranslate ⟨greatest, least⟩ least greatest ⟨hgreatest, hleast⟩
      hleast hgreatest
    have hresult := Reply.resultOfOctets_result hitems hdepth
    exact ⟨i, hcall, (hi.value_iff hi.ending hresult _).mpr
      ⟨⟨greatest, least⟩, .list (p := ⟨greatest, least⟩) ⟨hgreatest, hleast⟩, rfl⟩⟩
  · obtain ⟨hadd, -⟩ := hover s (answer (.int (greatest + 1)))
    obtain ⟨i, hcall, hi⟩ := hadd greatest 1 hgreatest (by decide)
    have hresult : Reply.resultOfOctets _ = .ok (.int (greatest + 1)) :=
      Reply.resultOfOctets_result (.int (by decide)) (Nat.zero_le 126)
    have hnone : ∀ n, ¬DenotesInteger (.int (greatest + 1)) n := by
      rintro _ ⟨h⟩
      exact absurd h (by decide)
    obtain ⟨detail, hdetail⟩ := hi.mismatch hi.ending hresult hnone
    exact ⟨i, detail, hcall, hdetail⟩

end JsonRpc.Geometry
