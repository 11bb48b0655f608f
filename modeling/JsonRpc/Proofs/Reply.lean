import JsonRpc.Reply
import JsonRpc.Proofs.Json.Members
import JsonRpc.Proofs.Json.Lexeme

/-!
# What a reply says

Octets are a reply when they are the text of an object that has a member
`error` or a member `result`.  An object's text may name a member more than
once, and then the last one counts.  So the members are looked at here as they
are written, before they become an object: `Json.written?` reads the text of an
object and keeps them all.

Every sequence of octets has one of three results, and which one it has can be
told from its written members alone.
-/

namespace JsonRpc

namespace Json

def memberList (bound depth : Nat) : Reader (List (String × Json)) := fun input =>
  match skipBlank input with
  | [] => .error (.here .valueEnds [])
  | b :: rest =>
    if b = Octet.openBrace then
      match depth with
      | 0 => .error (.here .tooDeep (b :: rest))
      | depth + 1 => members (value bound depth) bound true rest
    else .error (.here .expectedValue (b :: rest))

/-- The members of the object that octets are, in the order in which they are written. -/
def written? (input : Octets) : Option (List (String × Json)) :=
  (readAll (memberList (input.length + 1) maxDepth) input).toOption

def NoObject (r : Except Snag (Json × Octets)) : Prop :=
  ∀ v rest, r = .ok (v, rest) → v.isObject = false

theorem noObject_ok {v : Json} (h : v.isObject = false) (rest : Octets) :
    NoObject (.ok (v, rest)) := by
  intro w left hw
  cases hw
  exact h

theorem noObject_error (snag : Snag) : NoObject (.error snag) := by
  intro v rest h
  cases h

theorem noObject_bind {α : Type} (r : Except Snag α)
    {next : α → Except Snag (Json × Octets)} (h : ∀ a, NoObject (next a)) :
    NoObject (r >>= next) := by
  cases r with
  | error snag => exact noObject_error snag
  | ok a => exact h a

theorem isObject_of_toJson? {negative : Bool} {n : Numeral} {v : Json}
    (h : n.toJson? negative = some v) : v.isObject = false := by
  cases n with
  | whole n =>
      simp only [Numeral.toJson?] at h
      split at h
      · cases h; rfl
      split at h <;> cases h <;> rfl
  | scaled significand exponent =>
      simp only [Numeral.toJson?] at h
      obtain ⟨x, -, rfl⟩ := Option.map_eq_some_iff.mp h
      rfl
  | vanishing =>
      cases h
      rfl

theorem noObject_number (negative : Bool) (input : Octets) :
    NoObject (number negative input) := by
  apply noObject_bind
  rintro ⟨n, rest⟩
  cases hn : n.toJson? negative with
  | none => simpa only [hn] using noObject_error _
  | some v => simpa only [hn] using noObject_ok (isObject_of_toJson? hn) rest

theorem noObject_scalar? {b : UInt8} {rest : Octets}
    {r : Except Snag (Json × Octets)} (h : scalar? b rest = some r) : NoObject r := by
  unfold scalar? at h
  split at h
  · cases h; exact noObject_bind _ fun _ => noObject_ok rfl _
  split at h
  · cases h; exact noObject_bind _ fun _ => noObject_ok rfl _
  split at h
  · cases h; exact noObject_bind _ fun _ => noObject_ok rfl _
  split at h
  · cases h; exact noObject_number true rest
  split at h
  · cases h; exact noObject_number false (b :: rest)
  · cases h

/-- Either a text is read by its members, or it is the text of no object. -/
theorem value_eq_or_noObject (bound depth : Nat) (input : Octets) :
    (value bound depth input = (memberList bound depth input).map
      fun read => (object read.1, read.2)) ∨
    ((∃ snag, memberList bound depth input = .error snag) ∧
      NoObject (value bound depth input)) := by
  rw [value.eq_def, memberList]
  cases hinput : skipBlank input with
  | nil =>
      left
      simp only [hinput]
      rfl
  | cons b rest =>
      simp only [hinput]
      by_cases hb : b = Octet.openBrace
      · subst hb
        left
        have hscalar : scalar? Octet.openBrace rest = none := rfl
        have hquote : Octet.openBrace ≠ Octet.quote := by decide
        have hbracket : Octet.openBrace ≠ Octet.openBracket := by decide
        simp only [hscalar, if_neg hquote, if_neg hbracket, if_true]
        cases depth with
        | zero => rfl
        | succ depth => cases members (value bound depth) bound true rest <;> rfl
      · -- The first octet of anything but an object is not a brace.
        right
        simp only [if_neg hb]
        refine ⟨⟨_, rfl⟩, ?_⟩
        split
        · rename_i r h
          exact noObject_scalar? h
        split
        · exact noObject_bind _ fun _ => noObject_ok rfl _
        split
        · cases depth with
          | zero => exact noObject_error _
          | succ depth => exact noObject_bind _ fun _ => noObject_ok rfl _
        · exact noObject_error _

theorem readAll_map {α β : Type} {reader : Reader α} {image : Reader β} {f : α → β}
    {input : Octets} (h : image input = (reader input).map fun read => (f read.1, read.2)) :
    readAll image input = (readAll reader input).map f := by
  rw [readAll, readAll, h]
  cases reader input with
  | error snag => rfl
  | ok read =>
      obtain ⟨x, rest⟩ := read
      simp only [Except.map]
      cases skipBlank rest <;> rfl

/-- An object is made of its written members. -/
theorem parse_of_written? {input : Octets} {ms : List (String × Json)}
    (h : written? input = some ms) : parse input = .ok (object ms) := by
  rw [written?] at h
  rcases value_eq_or_noObject (input.length + 1) maxDepth input with heq | ⟨⟨snag, hsnag⟩, -⟩
  · rw [parse, readAll_map heq]
    cases hread : readAll (memberList (input.length + 1) maxDepth) input with
    | error fault => rw [hread] at h; cases h
    | ok written => rw [hread] at h; cases h; rfl
  · rw [readAll, hsnag] at h
    cases h

theorem isObject_of_written?_none {input : Octets} {v : Json}
    (h : written? input = none) (hv : parse input = .ok v) : v.isObject = false := by
  rw [written?] at h
  rw [parse] at hv
  rcases value_eq_or_noObject (input.length + 1) maxDepth input with heq | ⟨-, hno⟩
  · rw [readAll_map heq] at hv
    cases hread : readAll (memberList (input.length + 1) maxDepth) input with
    | error fault => rw [hread] at hv; cases hv
    | ok written => rw [hread] at h; cases h
  · rw [readAll] at hv
    cases hread : value (input.length + 1) maxDepth input with
    | error snag => rw [hread] at hv; cases hv
    | ok read =>
        obtain ⟨w, rest⟩ := read
        rw [hread] at hv hno
        have hw := hno w rest rfl
        simp only at hv
        split at hv
        · cases hv; exact hw
        · cases hv

end Json

namespace Reply

/-- The member that counts among the written ones: the last one of its name. -/
def last? (key : String) (written : List (String × Json)) : Option Json :=
  written.reverse.lookup key

section

variable {v : Json}

theorem isObject_of_member? {key : String} {x : Json} (h : v.member? key = some x) :
    v.isObject = true := by
  cases v with
  | obj members => rfl
  | _ => cases h

theorem result_of_error {e : Json} (herror : v.member? "error" = some e) :
    (ofJson v >>= result) = .error (.remote ⟨e⟩) := by
  simp only [ofJson, isObject_of_member? herror, Bool.not_true, Bool.false_eq_true, if_false,
    herror]
  rfl

theorem result_of_result {x : Json} (herror : v.member? "error" = none)
    (hresult : v.member? "result" = some x) :
    (ofJson v >>= result) = .ok x := by
  simp only [ofJson, isObject_of_member? hresult, Bool.not_true, Bool.false_eq_true, if_false,
    herror, hresult]
  rfl

theorem result_of_not_isObject (h : v.isObject = false) :
    ∃ detail, (ofJson v >>= result) = .error (.protocolViolation detail) := by
  rw [ofJson, h]
  exact ⟨_, rfl⟩

theorem result_of_neither (herror : v.member? "error" = none)
    (hresult : v.member? "result" = none) :
    ∃ detail, (ofJson v >>= result) = .error (.protocolViolation detail) := by
  cases hobject : v.isObject with
  | false => exact result_of_not_isObject hobject
  | true =>
      simp only [ofJson, hobject, Bool.not_true, Bool.false_eq_true, if_false, herror, hresult]
      exact ⟨_, rfl⟩

end

theorem resultOfOctets_of_parse {octets : Octets} {v : Json}
    (h : Json.parse octets = .ok v) : resultOfOctets octets = (ofJson v >>= result) := by
  rw [resultOfOctets, ofOctets, h]

inductive Says (octets : Octets) : Except RpcError Json → Prop where
  | refusal {written : List (String × Json)} {e : Json}
      (h : Json.written? octets = some written) (herror : last? "error" written = some e) :
      Says octets (.error (.remote ⟨e⟩))
  | answer {written : List (String × Json)} {v : Json}
      (h : Json.written? octets = some written) (herror : last? "error" written = none)
      (hresult : last? "result" written = some v) :
      Says octets (.ok v)
  | nothing (detail : String)
      (h : ∀ written, Json.written? octets = some written →
        last? "error" written = none ∧ last? "result" written = none) :
      Says octets (.error (.protocolViolation detail))

theorem says_resultOfOctets (octets : Octets) : Says octets (resultOfOctets octets) := by
  cases hwritten : Json.written? octets with
  | none =>
      have hno : ∀ written, Json.written? octets = some written →
          last? "error" written = none ∧ last? "result" written = none := by
        intro written h
        rw [hwritten] at h
        cases h
      cases hparse : Json.parse octets with
      | error fault =>
          rw [resultOfOctets, ofOctets, hparse]
          exact .nothing _ hno
      | ok v =>
          have hobject := Json.isObject_of_written?_none hwritten hparse
          obtain ⟨detail, hresult⟩ := result_of_not_isObject hobject
          rw [resultOfOctets_of_parse hparse, hresult]
          exact .nothing detail hno
  | some written =>
      have hmember : ∀ key, (Json.object written).member? key = last? key written := by
        intro key
        rw [Json.member?_object, last?]
      rw [resultOfOctets_of_parse (Json.parse_of_written? hwritten)]
      cases herror : last? "error" written with
      | some e =>
          rw [result_of_error ((hmember _).trans herror)]
          exact .refusal hwritten herror
      | none =>
          cases hresult : last? "result" written with
          | some v =>
              rw [result_of_result ((hmember _).trans herror) ((hmember _).trans hresult)]
              exact .answer hwritten herror hresult
          | none =>
              obtain ⟨detail, hneither⟩ :=
                result_of_neither ((hmember _).trans herror) ((hmember _).trans hresult)
              rw [hneither]
              apply Says.nothing
              intro other hother
              rw [hwritten] at hother
              cases hother
              exact ⟨herror, hresult⟩

variable {octets : Octets}

theorem resultOfOctets_eq_ok_iff {v : Json} :
    resultOfOctets octets = .ok v ↔ ∃ written, Json.written? octets = some written ∧
      last? "error" written = none ∧ last? "result" written = some v := by
  have hsays := says_resultOfOctets octets
  generalize resultOfOctets octets = r at hsays
  cases hsays with
  | refusal h herror => simp [h, herror]
  | answer h herror hresult => simp [h, herror, hresult]
  | nothing detail h =>
      constructor
      · intro heq
        cases heq
      · rintro ⟨written, hwritten, -, hresult⟩
        rw [(h written hwritten).2] at hresult
        cases hresult

theorem resultOfOctets_eq_remote_iff {payload : ErrorPayload} :
    resultOfOctets octets = .error (.remote payload) ↔
      ∃ written, Json.written? octets = some written ∧
        last? "error" written = some payload.value := by
  have hsays := says_resultOfOctets octets
  generalize resultOfOctets octets = r at hsays
  cases hsays with
  | @refusal written e h herror =>
      simp only [h, Option.some.injEq, exists_eq_left', herror, Except.error.injEq,
        RpcError.remote.injEq]
      constructor
      · rintro rfl
        rfl
      · rintro rfl
        rfl
  | answer h herror hresult => simp [h, herror]
  | nothing detail h =>
      constructor
      · intro heq
        cases heq
      · rintro ⟨written, hwritten, herror⟩
        rw [(h written hwritten).1] at herror
        cases herror

theorem resultOfOctets_violation_iff :
    (∃ detail, resultOfOctets octets = .error (.protocolViolation detail)) ↔
      ∀ written, Json.written? octets = some written →
        last? "error" written = none ∧ last? "result" written = none := by
  have hsays := says_resultOfOctets octets
  generalize resultOfOctets octets = r at hsays
  cases hsays with
  | refusal h herror => simp [h, herror]
  | answer h herror hresult => simp [h, hresult]
  | nothing detail h => exact ⟨fun _ => h, fun _ => ⟨detail, rfl⟩⟩

end Reply

end JsonRpc
