import JsonRpc.Description
import JsonRpc.Proofs.Json.Record

/-!
# Descriptions read back

Most members of a procedure are read leniently: a number counts as a text, a
tag counts as a return type, and what makes no sense counts as absent.  A
procedure that is written as it should be has no use for this, and none of it
gets in the way.  Each of its members is read as what it is, an absent member
stays absent, and an empty text stays an empty text.
-/

namespace JsonRpc

namespace Parameter

def members (p : Parameter) : Members := [("name", .str p.name), ("type", .str p.type)]

theorem ascending_members (p : Parameter) : p.members.Ascending := by
  have hkeys : "name" < "type" := by decide
  exact List.pairwise_pair.mpr hkeys

theorem toJson_eq (p : Parameter) : p.toJson = .obj p.members :=
  Json.object_of_ascending p.ascending_members

theorem ofTree_members (p : Parameter) : record.ofTree (.obj p.members) = .ok p := by
  have hputs : record.Puts (fun shape v put => shape.ofTree v = .ok put) p.members
      [fun q => { q with name := p.name }, fun q => { q with type := p.type }] :=
    .cons ⟨_, rfl, rfl⟩ (.cons ⟨_, rfl, rfl⟩ .nil)
  exact Json.Record.ofTree_of_puts hputs rfl

theorem ofTree_toJson (p : Parameter) : shape.ofTree p.toJson = .ok p := by
  rw [toJson_eq]
  exact p.ofTree_members

/-- The description of a return value is read as an object, never as a tag. -/
theorem ofReturn_toJson (p : Parameter) : ofReturn p.toJson = some p := by
  rw [toJson_eq, ofReturn, ofTree_members]
  rfl

theorem exact_toJson (p : Parameter) : p.toJson.Exact := by
  rw [toJson_eq]
  refine .obj p.ascending_members ?_
  exact List.forall_mem_cons.mpr ⟨.str p.name, List.forall_mem_singleton.mpr (.str p.type)⟩

theorem depth_toJson (p : Parameter) : p.toJson.depth = 1 := by
  rw [toJson_eq]
  rfl

end Parameter

namespace Procedure

/-- The members of a procedure that stand in front of its name when they are ordered by key. -/
def leading (p : Procedure) : Members :=
  (p.help.map fun s => ("help", .str s)).toList ++ [("idempotent", .bool p.idempotent)]

def trailing (p : Procedure) : Members :=
  [("name", .str p.name), ("params", .arr (p.params.map Parameter.toJson))] ++
    (p.returns.map fun r => ("return", r.toJson)).toList ++
    (p.summary.map fun s => ("summary", .str s)).toList

theorem ascending_members (p : Procedure) : (p.leading ++ p.trailing).Ascending := by
  have hkeys : ["help", "idempotent", "name", "params", "return", "summary"].Pairwise
      (· < ·) := by decide
  apply Members.ascending_of_sublist hkeys
  have hhelp := Members.keys_option_sublist "help" Json.str p.help
  have hreturn := Members.keys_option_sublist "return" Parameter.toJson p.returns
  have hsummary := Members.keys_option_sublist "summary" Json.str p.summary
  have hleading : (p.leading.map Prod.fst).Sublist ["help", "idempotent"] := by
    rw [leading, List.map_append]
    exact hhelp.append (List.Sublist.refl ["idempotent"])
  have htrailing : (p.trailing.map Prod.fst).Sublist ["name", "params", "return", "summary"] := by
    rw [trailing, List.map_append, List.map_append]
    exact ((List.Sublist.refl ["name", "params"]).append hreturn).append hsummary
  rw [List.map_append]
  exact hleading.append htrailing

theorem toJson_eq (p : Procedure) : p.toJson = .obj (p.leading ++ p.trailing) := by
  have hwritten : p.toJson = .object (p.trailing ++ p.leading) := by
    simp only [toJson, leading, trailing, List.append_assoc]
  rw [hwritten]
  exact Json.object_of_perm List.perm_append_comm p.ascending_members

theorem ofTree_toJson (p : Procedure) : shape.ofTree p.toJson = .ok p := by
  have hparams := Json.Field.ofTree_of "params" true
    (fun params (p : Procedure) => { p with params })
    (Json.Shape.ofTree_list_map Parameter.ofTree_toJson p.params)
  have hreturn : ∀ r : Parameter, (Json.Shape.view Parameter.ofReturn).ofTree r.toJson =
      .ok (some r) := fun r => congrArg Except.ok r.ofReturn_toJson
  -- The other members are texts and one truth value, of which the lenient readers change nothing.
  have hputs : record.Puts (fun shape v put => shape.ofTree v = .ok put)
      (p.leading ++ p.trailing)
      (((p.help.map fun s q => { q with help := some s }).toList ++
          [fun q => { q with idempotent := p.idempotent }]) ++
        ([fun q => { q with name := p.name }, fun q => { q with params := p.params }] ++
          (p.returns.map fun r q => { q with returns := some r }).toList ++
          (p.summary.map fun s q => { q with summary := some s }).toList)) := by
    refine Json.Record.puts_append (Json.Record.puts_append ?_ ?_)
      (Json.Record.puts_append (Json.Record.puts_append ?_ ?_) ?_)
    · exact Json.Record.puts_option rfl fun s _ => rfl
    · exact .cons ⟨_, rfl, rfl⟩ .nil
    · exact .cons ⟨_, rfl, rfl⟩ (.cons ⟨_, rfl, hparams⟩ .nil)
    · exact Json.Record.puts_option rfl fun r _ => Json.Field.ofTree_of _ _ _ (hreturn r)
    · exact Json.Record.puts_option rfl fun s _ => rfl
  have hmissing : record.missing? ((p.leading ++ p.trailing).map Prod.fst) = none := by
    rw [leading]
    cases p.help <;> rfl
  have hwhole := Json.Record.ofTree_of_puts hputs hmissing
  rw [toJson_eq]
  refine hwhole.trans ?_
  obtain ⟨name, params, returns, summary, help, idempotent⟩ := p
  cases returns <;> cases summary <;> cases help <;> rfl

theorem forall_members {P : Json → Prop} (p : Procedure) (htext : ∀ s, P (.str s))
    (hflag : P (.bool p.idempotent)) (hparams : P (.arr (p.params.map Parameter.toJson)))
    (hreturn : ∀ r : Parameter, P r.toJson) : ∀ m ∈ p.leading ++ p.trailing, P m.2 := by
  intro m hm
  simp only [leading, trailing, List.mem_append, List.mem_cons, List.not_mem_nil, or_false,
    Option.mem_toList, Option.map_eq_some_iff] at hm
  rcases hm with (⟨s, -, rfl⟩ | rfl) | ((rfl | rfl) | ⟨r, -, rfl⟩) | ⟨s, -, rfl⟩
  · exact htext s
  · exact hflag
  · exact htext p.name
  · exact hparams
  · exact hreturn r
  · exact htext s

theorem exact_toJson (p : Procedure) : p.toJson.Exact := by
  have hparams : (Json.arr (p.params.map Parameter.toJson)).Exact := by
    apply Json.Exact.arr
    intro x hx
    obtain ⟨param, -, rfl⟩ := List.mem_map.mp hx
    exact param.exact_toJson
  rw [toJson_eq]
  exact .obj p.ascending_members
    (p.forall_members .str (.bool p.idempotent) hparams Parameter.exact_toJson)

theorem depth_toJson_le (p : Procedure) : p.toJson.depth ≤ 3 := by
  have hparams : (Json.arr (p.params.map Parameter.toJson)).depth ≤ 2 := by
    rw [Json.depth, Nat.add_le_add_iff_right, Json.depthItems_le_iff]
    intro x hx
    obtain ⟨param, -, rfl⟩ := List.mem_map.mp hx
    exact Nat.le_of_eq param.depth_toJson
  have hreturn : ∀ r : Parameter, r.toJson.depth ≤ 2 := by
    intro r
    rw [r.depth_toJson]
    decide
  rw [toJson_eq, Json.depth, Nat.add_le_add_iff_right, Json.depthMembers_le_iff]
  exact p.forall_members (P := fun v => v.depth ≤ 2) (fun s => by simp [Json.depth])
    (by simp [Json.depth]) hparams hreturn

end Procedure

namespace Description

/-- A description that lists procedures and says nothing else. -/
def listing (ps : List Procedure) : Json := .obj [("procs", .arr (ps.map Procedure.toJson))]

/-- A list of procedures is read back as it was written. -/
theorem ofJson_listing (ps : List Procedure) : ofJson (listing ps) = .ok (.ofProcedures ps) := by
  have hprocs := Json.Field.ofTree_of "procs" true (fun procs (d : Description) => { d with procs })
    (Json.Shape.ofTree_list_map Procedure.ofTree_toJson ps)
  have hputs : record.Puts (fun shape v put => shape.ofTree v = .ok put)
      [("procs", .arr (ps.map Procedure.toJson))] [fun d => { d with procs := ps }] :=
    .cons ⟨_, rfl, hprocs⟩ .nil
  have hread := Json.Record.ofTree_of_puts hputs rfl
  unfold ofJson listing
  simp only [Json.isObject, Bool.not_true, Bool.false_eq_true, if_false, hread]
  rfl

theorem exact_listing (ps : List Procedure) : (listing ps).Exact := by
  have hprocs : (Json.arr (ps.map Procedure.toJson)).Exact := by
    apply Json.Exact.arr
    intro x hx
    obtain ⟨p, -, rfl⟩ := List.mem_map.mp hx
    exact p.exact_toJson
  exact .obj (List.pairwise_singleton _ _) (List.forall_mem_singleton.mpr hprocs)

theorem depth_listing_le (ps : List Procedure) : (listing ps).depth ≤ 5 := by
  have hprocs : Json.depthItems (ps.map Procedure.toJson) ≤ 3 := by
    rw [Json.depthItems_le_iff]
    intro x hx
    obtain ⟨p, -, rfl⟩ := List.mem_map.mp hx
    exact p.depth_toJson_le
  simp only [listing, Json.depth, Json.depthMembers]
  omega

end Description

end JsonRpc
