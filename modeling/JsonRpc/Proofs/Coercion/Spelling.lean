import JsonRpc.Proofs.Coercion.Number
import JsonRpc.Proofs.Description.Index
import JsonRpc.Proofs.Session.Positional

/-!
# Values written as words

Every value that a tag allows can be written as a word which the tag reads as
that value.  So a procedure can be called by words with any arguments that its
parameters allow, and the call is the same as one with the arguments themselves.
Words of JSON have one limit: what nests too deep cannot be written in them.
-/

namespace JsonRpc

/-- The word is how the value is written for a parameter of this type. -/
inductive TypeTag.Spells : TypeTag → String → Json → Prop where
  | bit (b : Bool) : Spells .bit (if b then "true" else "false") (.bool b)
  | num {n : Int} (hn : Json.FitsSigned n) : Spells .num (Json.int n).text (.int n)
  | str (s : String) : Spells .str s (.str s)
  | json {tag : TypeTag} (htag : tag.Structured) {v : Json} (hv : v.Exact)
      (hdepth : v.depth ≤ 127) : Spells tag v.text v
  | nil (word : String) : Spells .nil word .null

namespace TypeTag

variable {tag : TypeTag} {word : String} {v : Json}

theorem Spells.coerce (h : tag.Spells word v) : tag.coerce word = .ok v := by
  cases h with
  | bit b => cases b <;> rfl
  | num hn => exact coerce_num_integer hn
  | str s => rfl
  | json htag hv hdepth => exact htag.coerce_text hv hdepth
  | nil word => rfl

/-- No tag reads the text of a value that nests too deep. -/
theorem Structured.refuses_deep (h : tag.Structured) (v : Json) (hdeep : 127 < v.depth) :
    ∃ reason, tag.coerce v.text = .error (.coercion v.text tag.name reason) := by
  obtain ⟨fault, hparse⟩ : ∃ fault, Json.parseText v.text = .error fault :=
    Json.not_parse_text v hdeep
  rw [h.coerce_eq, hparse]
  exact ⟨fault.message, rfl⟩

end TypeTag

/-- Place by place the words are how the values are written for the parameters. -/
structure Procedure.Spells (p : Procedure) (words : List String) (vs : List Json) : Prop where
  words_length : words.length = p.arity
  values_length : vs.length = p.arity
  spells : ∀ (i : Nat) (param : Parameter) (word : String) (v : Json), p.params[i]? = some param →
    words[i]? = some word → vs[i]? = some v →
    ∃ tag : TypeTag, tag.name = param.type ∧ tag.Spells word v

theorem Procedure.Spells.takes {p : Procedure} {words : List String} {vs : List Json}
    (h : p.Spells words vs) : p.Takes words vs := by
  have hlength : vs.length = words.length := h.values_length.trans h.words_length.symm
  refine ⟨hlength, ?_⟩
  intro i param word hparam hword
  obtain ⟨hi, -⟩ := List.getElem?_eq_some_iff.1 hword
  have hv : vs[i]? = some vs[i] := List.getElem?_eq_getElem (hlength ▸ hi)
  obtain ⟨tag, hname, hspells⟩ := h.spells i param word _ hparam hword hv
  refine ⟨vs[i], hv, ?_⟩
  rw [← hname, TypeTag.coerce_name]
  exact hspells.coerce

/-- Arguments that are written as words are coerced to themselves, and a call by these words agrees
with the call.  The text of a value that nests too deep is an error for every tag whose words are
JSON. -/
theorem coerce_spelled :
    (∀ (p : Procedure) (words : List String) (vs : List Json), p.Spells words vs →
      p.coerceArgs words = .ok vs ∧
      ∀ (s : Session) (carry : Carrier) (d : Description) (method : String),
        s.description = some d → d.get method vs.length = .ok p →
          (s.perform carry (.positional (method :: words))).Agrees
            (s.perform carry (.call method vs))) ∧
    ∀ tag : TypeTag, tag.Structured → ∀ v : Json, 127 < v.depth →
      ∃ reason, coerce v.text tag.name = .error (.coercion v.text tag.name reason) := by
  refine ⟨fun p words vs h => ⟨?_, ?_⟩, ?_⟩
  · exact (Procedure.coerceArgs_eq_ok_iff h.words_length.symm).2 h.takes
  · intro s carry d method hdescription hget
    have hlength : vs.length = words.length := h.takes.1
    rw [hlength] at hget
    have hfind : d.find? method words.length = some p :=
      Description.find?_eq_some_iff.2 (Description.get_eq_ok_iff.1 hget)
    exact Session.agrees_of_takes hdescription hfind h.takes carry
  · intro tag htag v hdeep
    rw [TypeTag.coerce_name]
    exact htag.refuses_deep v hdeep

/-- A procedure with a parameter of every type, and a list that is one level too deep. -/
theorem coerce_spelled_of_every_tag :
    let p : Procedure := .ofSignature "draw" [⟨"a", "bit"⟩, ⟨"b", "num"⟩, ⟨"c", "str"⟩, ⟨"d", "arr"⟩,
      ⟨"e", "obj"⟩, ⟨"f", "any"⟩, ⟨"g", "nil"⟩]
    let vs : List Json := [.bool true, .int (-0x8000000000000000), .str "7", .arr [.int 1, .null],
      .obj [("k", .str "v")], .int 7, .null]
    let words := ["true", "-9223372036854775808", "7", "[1,null]", "\x7b\"k\":\"v\"\x7d", "7", "7"]
    let s : Session := { Session.new "canvas" {} none with
      state := .ready, description := some (.ofProcedures [p]) }
    let deep : Json := Nat.repeat (fun v => .arr [v]) 128 .null
    p.Spells words vs ∧ p.coerceArgs words = .ok vs ∧
      (∀ carry, (s.perform carry (.positional ("draw" :: words))).Agrees
        (s.perform carry (.call "draw" vs))) ∧
      127 < deep.depth ∧
      ∃ reason, coerce deep.text "obj" = .error (.coercion deep.text "obj" reason) := by
  intro p vs words s deep
  have hspells : p.Spells words vs := by
    refine ⟨rfl, rfl, ?_⟩
    have hleast : (Json.int (-0x8000000000000000)).text = "-9223372036854775808" := by
      decide +kernel
    have hlist : (Json.arr [.int 1, .null]).Exact := by
      apply Json.Exact.arr
      simp only [List.forall_mem_cons, List.not_mem_nil, false_implies, implies_true, and_true]
      exact ⟨.int (by decide), .null⟩
    have hobject : (Json.obj [("k", .str "v")]).Exact :=
      .obj (by simp [Members.Ascending]) (by simpa using .str "v")
    rintro (_ | _ | _ | _ | _ | _ | _ | i) param word v hparam hword hv <;>
      cases hparam <;> cases hword <;> cases hv
    · exact ⟨.bit, rfl, .bit true⟩
    · exact ⟨.num, rfl, hleast ▸ .num (by decide)⟩
    · exact ⟨.str, rfl, .str "7"⟩
    · exact ⟨.arr, rfl, .json (.inl rfl) hlist (by decide)⟩
    · exact ⟨.obj, rfl, .json (.inr (.inl rfl)) hobject (by decide)⟩
    · exact ⟨.any, rfl, .json (v := .int 7) (.inr (.inr rfl)) (.int (by decide)) (by decide)⟩
    · exact ⟨.nil, rfl, .nil "7"⟩
  have hdeep : 127 < deep.depth := by decide +kernel
  obtain ⟨hargs, hcalls⟩ := coerce_spelled.1 p words vs hspells
  refine ⟨hspells, hargs, fun carry => ?_, hdeep, ?_⟩
  · exact hcalls s carry _ "draw" rfl rfl
  · exact coerce_spelled.2 .obj (.inr (.inl rfl)) deep hdeep

end JsonRpc
