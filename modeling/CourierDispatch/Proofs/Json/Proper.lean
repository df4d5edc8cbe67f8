import CourierDispatch.Json.Draft

/-!
# Objects with distinct names

An object is a list of members here, and nothing in the type of JSON values keeps two
members from having one name. `Proper` says that none have, however deep in the value.
Texts only write such values: of members with one name the last counts (`proper_ofText?`).
-/

namespace CourierDispatch.Json

/-- **A proper JSON value**: the members of each object in it have distinct names. -/
inductive Proper : Json → Prop where
  /-- Null has no members. -/
  | null : Proper .null
  /-- Nor have truth values, -/
  | bool (b : Bool) : Proper (.bool b)
  /-- integers, -/
  | integer (n : Int) : Proper (.integer n)
  /-- numbers -/
  | real (x : Binary64) : Proper (.real x)
  /-- and texts. -/
  | string (s : String) : Proper (.string s)
  /-- An array is proper if its items are. -/
  | array {items : List Json} (each : ∀ j ∈ items, Proper j) : Proper (.array items)
  /-- An object must have distinct names itself. -/
  | object {members : List (String × Json)} (names : (members.map Prod.fst).Nodup)
      (each : ∀ m ∈ members, Proper m.2) : Proper (.object members)

theorem Proper.of_lookup {members : List (String × Json)} {name : String} {j : Json}
    (h : ∀ m ∈ members, m.2.Proper) (found : Table.lookup name members = some j) : j.Proper :=
  h _ (Table.mem_of_lookup found)

/-- The object of a list of members is proper, whatever their names. -/
theorem proper_ofMembers {members : List (String × Json)} (h : ∀ m ∈ members, m.2.Proper) :
    (ofMembers members).Proper :=
  .object (Table.nodup_foldl_write List.nodup_nil)
    (Table.forall_mem_foldl_write h (List.forall_mem_nil _))

namespace Draft

theorem proper_numeral {n : Numeral} {j : Json} (h : n.toJson? = some j) : j.Proper := by
  unfold Numeral.toJson? at h
  extract_lets value x at h
  split at h
  · cases h
    exact .integer _
  · split at h
    · cases h
      exact .real _
    · cases h

mutual

/-- **The value of a tree is proper.** -/
theorem proper_toJson? {depth : Nat} {j : Json} :
    ∀ {d : Draft}, d.toJson? depth = some j → j.Proper
  | null, h => by
    cases h
    exact .null
  | bool b, h => by
    cases h
    exact .bool b
  | number n, h => proper_numeral h
  | string s, h => by
    obtain ⟨s, -, rfl⟩ := Option.map_eq_some_iff.1 h
    exact .string s
  | array items closed, h => by
    unfold toJson? at h
    split at h
    · cases h
    · cases h
    · split at h
      · obtain ⟨js, hjs, rfl⟩ := Option.map_eq_some_iff.1 h
        exact .array (proper_toItems? hjs)
      · cases h
  | object members closed, h => by
    unfold toJson? at h
    split at h
    · cases h
    · cases h
    · split at h
      · obtain ⟨ms, hms, rfl⟩ := Option.map_eq_some_iff.1 h
        exact proper_ofMembers (proper_toMembers? hms)
      · cases h
  | broken, h => by cases h

theorem proper_toItems? {depth : Nat} :
    ∀ {items : List Draft} {js : List Json}, toItems? depth items = some js → ∀ j ∈ js, j.Proper
  | [], _, h => by
    cases h
    simp
  | d :: rest, _, h => by
    unfold toItems? at h
    split at h
    · cases h
    · next j hj =>
      obtain ⟨js, hjs, rfl⟩ := Option.map_eq_some_iff.1 h
      exact List.forall_mem_cons.2 ⟨proper_toJson? hj, proper_toItems? hjs⟩

theorem proper_toMembers? {depth : Nat} :
    ∀ {members : List (Option String × Draft)} {ms : List (String × Json)},
      toMembers? depth members = some ms → ∀ m ∈ ms, m.2.Proper
  | [], _, h => by
    cases h
    simp
  | (none, _) :: _, _, h => by cases h
  | (some name, d) :: rest, _, h => by
    unfold toMembers? at h
    split at h
    · cases h
    · next j hj =>
      obtain ⟨ms, hms, rfl⟩ := Option.map_eq_some_iff.1 h
      exact List.forall_mem_cons.2 ⟨proper_toJson? hj, proper_toMembers? hms⟩

end

end Draft

/-- **Texts write proper values.** -/
theorem proper_ofText? {s : String} {j : Json} (h : ofText? s = some j) : j.Proper := by
  unfold ofText? ofBytes? at h
  split at h
  · exact Draft.proper_toJson? h
  · cases h

end CourierDispatch.Json
