import JsonRpc.Json.Basic

/-!
# Members of an object

An object keeps its members by ascending key, whatever the order in which
they were written.  Three facts about that order carry everything else.  A
member is the one that was written last under its key; members that already
stand in ascending order are kept as they are; and members that are written
under different keys all stay, so only their order can change.
-/

namespace JsonRpc

namespace Members

def Ascending (members : Members) : Prop :=
  members.Pairwise fun a b => a.1 < b.1

theorem Ascending.nodup_keys {members : Members} (h : members.Ascending) :
    (members.map Prod.fst).Nodup := by
  apply List.pairwise_map.mpr (h.imp _)
  intro a b hlt heq
  rw [heq] at hlt
  exact String.lt_irrefl _ hlt

theorem ascending_of_sublist {members : Members} {keys : List String}
    (hkeys : keys.Pairwise (· < ·)) (h : (members.map Prod.fst).Sublist keys) :
    members.Ascending :=
  List.pairwise_map.mp (hkeys.sublist h)

/-- The key of a member that need not be there. -/
theorem keys_option_sublist {α : Type} (key : String) (toJson : α → Json) (o : Option α) :
    ((o.map fun x => (key, toJson x)).toList.map Prod.fst).Sublist [key] := by
  cases o with
  | none => exact List.nil_sublist _
  | some x => exact List.Sublist.refl _

theorem lookup_cons_ite (key k : String) (v : Json) (members : Members) :
    List.lookup key ((k, v) :: members) =
      if key = k then some v else members.lookup key := by
  by_cases hkey : key = k
  · simp [hkey]
  · rw [List.lookup_cons, beq_eq_false_iff_ne.mpr hkey, if_neg hkey]

theorem lookup_insert (key k : String) (v : Json) (members : Members) :
    (insert k v members).lookup key =
      if key = k then some v else members.lookup key := by
  induction members with
  | nil => rw [insert, lookup_cons_ite]
  | cons m rest ih =>
      obtain ⟨j, w⟩ := m
      simp only [insert]
      by_cases hkj : k = j
      · subst hkj
        rw [if_pos rfl, lookup_cons_ite, lookup_cons_ite]
        by_cases hkey : key = k <;> simp only [hkey, if_true, if_false]
      · rw [if_neg hkj]
        by_cases hlt : k < j
        · rw [if_pos hlt, lookup_cons_ite]
        · rw [if_neg hlt, lookup_cons_ite, lookup_cons_ite, ih]
          by_cases hkey : key = k
          · subst hkey
            simp only [if_true, if_neg hkj]
          · simp only [hkey, if_false]

/-- Of the members written under one key the last one stays. -/
theorem lookup_ofList (key : String) (written : List (String × Json)) :
    (ofList written).lookup key = written.reverse.lookup key := by
  -- The members written so far are arbitrary, as the fold goes on from each of them.
  have hfold : ∀ members : Members,
      (written.foldl (fun members m => insert m.1 m.2 members)
          members).lookup key =
        (written.reverse ++ members).lookup key := by
    induction written with
    | nil => intro members; rfl
    | cons m rest ih =>
        intro members
        rw [List.foldl_cons, ih, List.reverse_cons, List.append_assoc,
          List.singleton_append, List.lookup_append, List.lookup_append,
          lookup_insert, lookup_cons_ite]
  have hnil := hfold []
  rw [List.append_nil] at hnil
  exact hnil

theorem insert_cons_of_lt {key k : String} (value v : Json) (rest : Members)
    (h : key < k) :
    insert key value ((k, v) :: rest) = (key, value) :: (k, v) :: rest := by
  have hne : key ≠ k := by
    rintro rfl
    exact String.lt_irrefl key h
  rw [insert, if_neg hne, if_pos h]

theorem insert_cons_of_gt {key k : String} (value v : Json) (rest : Members)
    (h : k < key) :
    insert key value ((k, v) :: rest) = (k, v) :: insert key value rest := by
  have hne : key ≠ k := by
    rintro rfl
    exact String.lt_irrefl key h
  rw [insert, if_neg hne, if_neg (String.lt_asymm h)]

theorem insert_of_forall_lt {k : String} {members : Members} (v : Json)
    (hlast : ∀ m ∈ members, m.1 < k) :
    insert k v members = members ++ [(k, v)] := by
  induction members with
  | nil => rfl
  | cons m rest ih =>
      obtain ⟨j, w⟩ := m
      have hj : j < k := hlast (j, w) List.mem_cons_self
      rw [insert_cons_of_gt v w rest hj,
        ih fun m hm => hlast m (List.mem_cons_of_mem _ hm), List.cons_append]

theorem ofList_of_ascending {members : Members} (h : members.Ascending) :
    ofList members = members := by
  have hfold : ∀ before : Members, Ascending (before ++ members) →
      members.foldl (fun members m => insert m.1 m.2 members) before =
        before ++ members := by
    clear h
    induction members with
    | nil => intro before _; exact (List.append_nil before).symm
    | cons m rest ih =>
        intro before h
        have hlast : ∀ b ∈ before, b.1 < m.1 := by
          intro b hb
          exact (List.pairwise_append.mp h).2.2 b hb m List.mem_cons_self
        have hrest : Ascending ((before ++ [m]) ++ rest) := by
          rw [List.append_assoc]
          exact h
        rw [List.foldl_cons, insert_of_forall_lt m.2 hlast, ih _ hrest,
          List.append_assoc, List.singleton_append]
  exact hfold [] h

theorem lookup_eq_some_iff {key : String} {v : Json} {members : Members}
    (h : members.Ascending) : members.lookup key = some v ↔ (key, v) ∈ members := by
  induction members with
  | nil => simp
  | cons m rest ih =>
      obtain ⟨k, w⟩ := m
      obtain ⟨hfirst, hrest⟩ := List.pairwise_cons.mp h
      rw [lookup_cons_ite, List.mem_cons, Prod.mk.injEq]
      split
      · rename_i hkey
        subst hkey
        have hlater : (key, v) ∉ rest := fun hmem => String.lt_irrefl key (hfirst _ hmem)
        simp [hlater, eq_comm]
      · rename_i hkey
        simp [hkey, ih hrest]

theorem mem_keys_iff {key : String} {members : Members} :
    key ∈ members.map Prod.fst ↔ members.lookup key ≠ none := by
  induction members with
  | nil => simp
  | cons m rest ih =>
      obtain ⟨k, w⟩ := m
      rw [List.map_cons, List.mem_cons, ih, lookup_cons_ite]
      split
      · rename_i hkey
        simp [hkey]
      · rename_i hkey
        simp [hkey]

/-! ## Members under different keys -/

theorem insert_forall {P : String × Json → Prop} {key : String} {value : Json}
    {members : Members} (hnew : P (key, value)) (h : ∀ m ∈ members, P m) :
    ∀ m ∈ insert key value members, P m := by
  induction members with
  | nil =>
      intro m hm
      rw [insert, List.mem_singleton] at hm
      subst hm
      exact hnew
  | cons first rest ih =>
      obtain ⟨k, v⟩ := first
      obtain ⟨hfirst, hrest⟩ := List.forall_mem_cons.mp h
      rw [insert]
      split
      · exact List.forall_mem_cons.mpr ⟨hnew, hrest⟩
      split
      · exact List.forall_mem_cons.mpr ⟨hnew, h⟩
      · exact List.forall_mem_cons.mpr ⟨hfirst, ih hrest⟩

theorem Ascending.insert {members : Members} (h : members.Ascending) (key : String)
    (value : Json) : Ascending (members.insert key value) := by
  induction members with
  | nil => exact List.pairwise_singleton _ _
  | cons first rest ih =>
      obtain ⟨k, v⟩ := first
      obtain ⟨hfirst, hrest⟩ := List.pairwise_cons.mp h
      rw [Members.insert]
      by_cases hkey : key = k
      · subst hkey
        rw [if_pos rfl]
        exact List.pairwise_cons.mpr ⟨hfirst, hrest⟩
      rw [if_neg hkey]
      by_cases hlt : key < k
      · rw [if_pos hlt]
        have hall : ∀ m ∈ (k, v) :: rest, key < m.1 :=
          List.forall_mem_cons.mpr ⟨hlt, fun m hm => String.lt_trans hlt (hfirst m hm)⟩
        exact List.pairwise_cons.mpr ⟨hall, h⟩
      · rw [if_neg hlt]
        have hgt : k < key :=
          Classical.byContradiction fun hnot => hkey (String.le_antisymm hnot hlt)
        exact List.pairwise_cons.mpr ⟨insert_forall hgt hfirst, ih hrest⟩

theorem insert_perm {key : String} {members : Members} (value : Json)
    (hnew : key ∉ members.map Prod.fst) :
    (members.insert key value).Perm ((key, value) :: members) := by
  induction members with
  | nil => exact .refl _
  | cons first rest ih =>
      obtain ⟨k, v⟩ := first
      rw [List.map_cons, List.mem_cons, not_or] at hnew
      rw [insert, if_neg hnew.1]
      split
      · exact .refl _
      · exact ((ih hnew.2).cons (k, v)).trans (.swap _ _ _)

/-- Members that are written under different keys are the members of the object, in the one order
in which their keys ascend. -/
theorem ofList_of_perm {written members : Members} (hperm : written.Perm members)
    (h : members.Ascending) : ofList written = members := by
  have hkeys : (written.map Prod.fst).Nodup := (hperm.map Prod.fst).nodup_iff.mpr h.nodup_keys
  -- What is kept so far ascends and is a permutation of what has been written so far.
  have hfold : ∀ before : Members, before.Ascending →
      ((before ++ written).map Prod.fst).Nodup →
      Ascending (written.foldl (fun members m => insert m.1 m.2 members) before) ∧
        (written.foldl (fun members m => insert m.1 m.2 members) before).Perm
          (before ++ written) := by
    clear hperm hkeys
    induction written with
    | nil =>
        intro before hbefore _
        rw [List.append_nil]
        exact ⟨hbefore, .refl before⟩
    | cons m rest ih =>
        intro before hbefore hdistinct
        have hmiddle : (before ++ m :: rest).Perm (m :: before ++ rest) := List.perm_middle
        rw [(hmiddle.map Prod.fst).nodup_iff, List.map_append, List.nodup_append,
          List.map_cons, List.nodup_cons] at hdistinct
        have hinsert : (before.insert m.1 m.2).Perm (m :: before) :=
          insert_perm m.2 hdistinct.1.1
        have hnext : ((before.insert m.1 m.2 ++ rest).map Prod.fst).Nodup := by
          rw [((hinsert.append_right rest).map Prod.fst).nodup_iff, List.map_append,
            List.nodup_append, List.map_cons, List.nodup_cons]
          exact hdistinct
        obtain ⟨hascending, hfolded⟩ := ih _ (hbefore.insert m.1 m.2) hnext
        exact ⟨hascending, (hfolded.trans (hinsert.append_right rest)).trans hmiddle.symm⟩
  obtain ⟨hascending, hfolded⟩ := hfold [] List.Pairwise.nil hkeys
  have hantisymm : ∀ a b : String × Json, a ∈ ofList written → b ∈ members →
      a.1 < b.1 → b.1 < a.1 → a = b :=
    fun a b _ _ hab hba => absurd hba (String.lt_asymm hab)
  exact List.Perm.eq_of_pairwise hantisymm hascending h (hfolded.trans hperm)

end Members

namespace Json

theorem object_of_perm {written members : Members} (hperm : written.Perm members)
    (h : members.Ascending) : object written = .obj members := by
  rw [object, Members.ofList_of_perm hperm h]

theorem object_of_ascending {members : Members} (h : members.Ascending) :
    object members = .obj members := by
  rw [object, Members.ofList_of_ascending h]

theorem member?_object (key : String) (written : List (String × Json)) :
    (object written).member? key = written.reverse.lookup key :=
  Members.lookup_ofList key written

end Json

end JsonRpc
