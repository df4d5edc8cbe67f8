import CourierDispatch.Proofs.Avro.SoundSchemas
import CourierDispatch.Proofs.Avro.Carried

/-!
# Values of a schema

Whatever a JSON value looks like, what it resolves to is a value of the schema: of its kind
in every layer, with the fields of a record in the order of the schema, symbols and branches
at places that exist, and distinct keys in maps (`Conforms`, `conforms_resolve`). One thing
does not follow: a byte string of fixed size may have any size.

The keys are why the JSON value must be proper, and defaults too: resolving copies the keys
of a map. As defaults are resolved under the schemas that names stand for, all of these must
be sound.
-/

namespace CourierDispatch.Avro

/-! ## What holds throughout a value -/

namespace Value

/-- The values directly inside a value. -/
def parts : Value → List Value
  | union _ v => [v]
  | array items => items
  | map entries => entries.map Prod.snd
  | record fields => fields.map Prod.snd
  | _ => []

/-- **What holds throughout a value**: of itself and of all values inside it. -/
inductive All (P : Value → Prop) : Value → Prop where
  /-- It holds of the value, and throughout the values directly inside it. -/
  | intro {v : Value} (self : P v) (parts : ∀ w ∈ v.parts, All P w) : All P v

variable {P : Value → Prop} {v w : Value}

theorem All.self (h : v.All P) : P v := by
  cases h with
  | intro self _ => exact self

theorem All.parts (h : v.All P) : ∀ w ∈ v.parts, w.All P := by
  cases h with
  | intro _ parts => exact parts

theorem All.branch {i : Nat} (h : (union i v).All P) : v.All P :=
  h.parts v (List.mem_singleton_self v)

theorem All.entry {entries : List (String × Value)} (h : (map entries).All P)
    {e : String × Value} (he : e ∈ entries) : e.2.All P :=
  h.parts e.2 (List.mem_map_of_mem he)

theorem All.field {held : List (String × Value)} (h : (record held).All P)
    {e : String × Value} (he : e ∈ held) : e.2.All P :=
  h.parts e.2 (List.mem_map_of_mem he)

theorem all_leaf (self : P v) (h : v.parts = []) : v.All P :=
  .intro self (by rw [h]; nofun)

/-- What the type of values does not say of them: a map has distinct keys, and a span of time
twelve bytes. -/
def RegularHere : Value → Prop
  | map entries => (entries.map Prod.fst).Nodup
  | duration b => b.length = 12
  | _ => True

/-- **A regular value**: its maps are maps, and its spans of time have their size. -/
def Regular (v : Value) : Prop := v.All RegularHere

theorem map_fst_ofMembers (members : List (String × Json)) :
    (ofMembers members).map Prod.fst = members.map Prod.fst := by
  induction members with
  | nil => rfl
  | cons m rest ih => rw [ofMembers, List.map_cons, ih, List.map_cons]

mutual

/-- **Proper JSON values are regular.** -/
theorem regular_ofJson : ∀ {j : Json}, j.Proper → (ofJson j).Regular
  | .null, _ | .bool _, _ | .integer _, _ | .real _, _ | .string _, _ => all_leaf trivial rfl
  | .array items, h => by
    cases h with
    | array each => exact .intro trivial (regular_ofItems each)
  | .object members, h => by
    cases h with
    | object names each =>
      refine .intro ?_ fun w hw => ?_
      · show ((ofMembers members).map Prod.fst).Nodup
        rwa [map_fst_ofMembers]
      · obtain ⟨e, he, rfl⟩ := List.mem_map.1 hw
        exact regular_ofMembers each e he

theorem regular_ofItems : ∀ {items : List Json}, (∀ j ∈ items, j.Proper) →
    ∀ v ∈ ofItems items, v.Regular
  | [], _ => nofun
  | _ :: _, h => by
    obtain ⟨hfirst, hrest⟩ := List.forall_mem_cons.1 h
    exact List.forall_mem_cons.2 ⟨regular_ofJson hfirst, regular_ofItems hrest⟩

theorem regular_ofMembers : ∀ {members : List (String × Json)}, (∀ m ∈ members, m.2.Proper) →
    ∀ e ∈ ofMembers members, e.2.Regular
  | [], _ => nofun
  | (_, _) :: _, h => by
    obtain ⟨hfirst, hrest⟩ := List.forall_mem_cons.1 h
    exact List.forall_mem_cons.2 ⟨regular_ofJson hfirst, regular_ofMembers hrest⟩

end

end Value

/-! ## Values of a schema -/

/-- **A value of a schema**, at most so many layers deep: the value that its own bytes would
read as, but for the sizes of byte strings of fixed size. -/
inductive Conforms (ns : Names) : Nat → Schema → Value → Prop where
  /-- Null is the value of its schema. -/
  | null {depth : Nat} : Conforms ns (depth + 1) .null .null
  /-- Values without parts are of their own kind. -/
  | boolean {depth : Nat} (b : Bool) : Conforms ns (depth + 1) .boolean (.boolean b)
  /-- An integer of thirty-two bits. -/
  | int {depth : Nat} (n : Int32) : Conforms ns (depth + 1) .int (.int n)
  /-- An integer of sixty-four bits. -/
  | long {depth : Nat} (n : Int64) : Conforms ns (depth + 1) .long (.long n)
  /-- A binary32 number. -/
  | float {depth : Nat} (x : Binary32) : Conforms ns (depth + 1) .float (.float x)
  /-- A binary64 number. -/
  | double {depth : Nat} (x : Binary64) : Conforms ns (depth + 1) .double (.double x)
  /-- A byte string. -/
  | bytes {depth : Nat} (b : Bytes) : Conforms ns (depth + 1) .bytes (.bytes b)
  /-- A text. -/
  | string {depth : Nat} (s : String) : Conforms ns (depth + 1) .string (.string s)
  /-- A byte string in place of one of fixed size. -/
  | fixed {depth : Nat} (n : Name) (size : Nat) (b : Bytes) :
      Conforms ns (depth + 1) (.fixed n size) (.fixed b)
  /-- A symbol stands at its place. -/
  | enumeration {depth : Nat} (n : Name) {symbols : List String} (default : Option String)
      {i : Nat} {s : String} (place : symbols[i]? = some s) :
      Conforms ns (depth + 1) (.enumeration n symbols default) (.enumeration i s)
  /-- A value of a union is one of a branch. -/
  | union {depth : Nat} {branches : List Schema} {i : Nat} {s : Schema} {v : Value}
      (branch : branches[i]? = some s) (inner : Conforms ns depth s v) :
      Conforms ns (depth + 1) (.union branches) (.union i v)
  /-- All items are of one schema. -/
  | array {depth : Nat} {s : Schema} {items : List Value}
      (each : ∀ v ∈ items, Conforms ns depth s v) : Conforms ns (depth + 1) (.array s) (.array items)
  /-- All values are of one schema, and no key comes twice. -/
  | map {depth : Nat} {s : Schema} {entries : List (String × Value)}
      (keys : (entries.map Prod.fst).Nodup) (each : ∀ e ∈ entries, Conforms ns depth s e.2) :
      Conforms ns (depth + 1) (.map s) (.map entries)
  /-- Each field has its name and is of its own schema. -/
  | record {depth : Nat} (n : Name) {fields : List (Field × Schema)} {held : List (String × Value)}
      (names : held.map Prod.fst = fields.map (·.1.name))
      (each : ∀ p ∈ fields.zip held, Conforms ns depth p.1.2 p.2.2) :
      Conforms ns (depth + 1) (.record n fields) (.record held)
  /-- A decimal over bytes of fixed size. -/
  | decimalFixed {depth : Nat} (precision scale : Nat) (n : Name) (size : Nat) (b : Bytes) :
      Conforms ns (depth + 1) (.decimal precision scale (.fixed n size)) (.decimal b)
  /-- A decimal over bytes. -/
  | decimalBytes {depth : Nat} (precision scale : Nat) (b : Bytes) :
      Conforms ns (depth + 1) (.decimal precision scale .bytes) (.decimal b)
  /-- A span of time in its twelve bytes. -/
  | duration {depth : Nat} {b : Bytes} (twelve : b.length = 12) :
      Conforms ns (depth + 1) .duration (.duration b)
  /-- An identifier. -/
  | uuid {depth : Nat} (u : Uuid) : Conforms ns (depth + 1) .uuid (.uuid u)
  /-- A date or time in an `int`. -/
  | shortTime {depth : Nat} (kind : ShortTime) (n : Int32) :
      Conforms ns (depth + 1) (.shortTime kind) (.shortTime kind n)
  /-- A date or time in a `long`. -/
  | longTime {depth : Nat} (kind : LongTime) (n : Int64) :
      Conforms ns (depth + 1) (.longTime kind) (.longTime kind n)
  /-- A reference is what it stands for, one layer further down. -/
  | ref {depth : Nat} {n : Name} {s : Schema} {v : Value} (found : ns.find? n = some s)
      (inner : Conforms ns depth s v) : Conforms ns (depth + 1) (.ref n) v

variable {ns : Names} {depth : Nat}

/-- The second part of a pair of lists of equal length has a partner. -/
theorem exists_mem_zip {α β : Type} {l : List α} {r : List β} (h : r.length = l.length) {b : β}
    (hb : b ∈ r) : ∃ a, (a, b) ∈ l.zip r := by
  obtain ⟨i, hi, rfl⟩ := List.getElem_of_mem hb
  have hi' : i < l.length := h ▸ hi
  refine ⟨l[i], List.mem_of_getElem? (i := i) (List.getElem?_zip_eq_some.2 ⟨?_, ?_⟩)⟩
  · exact List.getElem?_eq_getElem hi'
  · exact List.getElem?_eq_getElem hi

/-- Two partners have a common partner in a list of equal length. -/
theorem exists_mem_zip_zip {α β γ : Type} {l : List α} {m : List β} {r : List γ}
    (h : m.length = r.length) {p : α × γ} (hp : p ∈ l.zip r) :
    ∃ b, (p.1, b) ∈ l.zip m ∧ (b, p.2) ∈ m.zip r := by
  induction r generalizing l m with
  | nil => simp at hp
  | cons c r ih =>
    cases l with
    | nil => cases hp
    | cons a l =>
      cases m with
      | nil => cases h
      | cons b m =>
        rcases List.mem_cons.1 hp with rfl | hrest
        · exact ⟨b, List.mem_cons_self .., List.mem_cons_self ..⟩
        · obtain ⟨b', hb', hb''⟩ := ih (Nat.succ.inj h) hrest
          exact ⟨b', List.mem_cons_of_mem _ hb', List.mem_cons_of_mem _ hb''⟩

/-- Values of a schema are regular. -/
theorem Conforms.regular {s : Schema} {v : Value} (h : Conforms ns depth s v) : v.Regular := by
  induction h with
  | union _ _ ih => exact .intro trivial fun w hw => List.mem_singleton.1 hw ▸ ih
  | array _ ih => exact .intro trivial ih
  | map keys _ ih =>
    refine .intro keys fun w hw => ?_
    obtain ⟨e, he, rfl⟩ := List.mem_map.1 hw
    exact ih e he
  | @record _ _ fields held names _ ih =>
    refine .intro trivial fun w hw => ?_
    obtain ⟨e, he, rfl⟩ := List.mem_map.1 hw
    have hlength : held.length = fields.length := by simpa using congrArg List.length names
    obtain ⟨f, hf⟩ := exists_mem_zip hlength he
    exact ih (f, e) hf
  | duration twelve => exact Value.all_leaf twelve rfl
  | ref _ _ ih => exact ih
  | null | boolean | int | long | float | double | bytes | string | fixed | enumeration
  | decimalFixed | decimalBytes | uuid | shortTime | longTime => exact Value.all_leaf trivial rfl

/-! ## Resolving -/

section Resolving

variable {again : Schema → Value → Option Value} {v w : Value}

theorem regular_outOfUnion (s : Schema) (h : v.Regular) : (v.outOfUnion s).Regular := by
  unfold Value.outOfUnion
  split
  · exact h
  · exact h.branch
  · exact h

/-- A symbol is resolved to one that stands at its place. -/
theorem resolveSymbol_eq_some {symbols : List String} {default : Option String} {symbol : String}
    (h : resolveSymbol symbols default symbol = some w) :
    ∃ i s, w = .enumeration i s ∧ symbols[i]? = some s := by
  have hplace (s : String) (w : Value)
      (h : (symbols.findIdx? (· = s)).map (fun i => Value.enumeration i s) = some w) :
      ∃ i s, w = .enumeration i s ∧ symbols[i]? = some s := by
    obtain ⟨i, hi, rfl⟩ := Option.map_eq_some_iff.1 h
    obtain ⟨hlt, hs, -⟩ := List.findIdx?_eq_some_iff_getElem.1 hi
    exact ⟨i, s, rfl, List.getElem?_eq_some_iff.2 ⟨hlt, of_decide_eq_true hs⟩⟩
  unfold resolveSymbol at h
  dsimp only at h
  split at h
  · next hown => exact hplace symbol w (hown.trans h)
  · obtain ⟨s, -, hs⟩ := Option.bind_eq_some_iff.1 h
    exact hplace s w hs

theorem resolveEnumeration_eq_some {symbols : List String} {default : Option String}
    (h : resolveEnumeration symbols default v = some w) :
    ∃ i s, w = .enumeration i s ∧ symbols[i]? = some s := by
  unfold resolveEnumeration at h
  split at h
  · exact resolveSymbol_eq_some h
  · split at h
    · exact resolveSymbol_eq_some h
    · cases h
  · cases h

theorem firstBranch_eq_some {branches : List Schema} {k : Nat}
    (h : firstBranch again v k branches = some w) :
    ∃ i s u, w = .union (k + i) u ∧ branches[i]? = some s ∧ again s v = some u := by
  induction branches generalizing k with
  | nil => cases h
  | cons s rest ih =>
    unfold firstBranch at h
    split at h
    · next u hu =>
      cases h
      exact ⟨0, s, u, rfl, rfl, hu⟩
    · obtain ⟨i, s', u, rfl, hs', hu⟩ := ih h
      exact ⟨i + 1, s', u, by rw [Nat.add_assoc, Nat.add_comm 1], hs', hu⟩

/-- **A value of a union is resolved by one of its branches**, at that branch's place. -/
theorem resolveUnion_eq_some {branches : List Schema} (hv : v.Regular)
    (h : resolveUnion again branches v = some w) :
    ∃ i s u u', w = .union i u' ∧ branches[i]? = some s ∧ u.Regular ∧ again s u = some u' := by
  have hof (u : Value) (hu : u.Regular)
      (h : (∃ i, (branches[i]?.bind fun s => again s u).map (.union i) = some w)
        ∨ firstBranch again u 0 branches = some w) :
      ∃ i s u u', w = .union i u' ∧ branches[i]? = some s ∧ u.Regular ∧ again s u = some u' := by
    obtain ⟨i, h⟩ | h := h
    · obtain ⟨u', hu', rfl⟩ := Option.map_eq_some_iff.1 h
      obtain ⟨s, hs, hu'⟩ := Option.bind_eq_some_iff.1 hu'
      exact ⟨i, s, u, u', rfl, hs, hu, hu'⟩
    · obtain ⟨i, s, u', rfl, hs, hu'⟩ := firstBranch_eq_some h
      exact ⟨0 + i, s, u, u', rfl, by rwa [Nat.zero_add], hu, hu'⟩
  unfold resolveUnion at h
  cases v with
  | union _ u =>
    refine hof u hv.branch ?_
    dsimp only at h
    split at h
    · exact .inl ⟨_, h⟩
    · exact .inr h
  | _ =>
    refine hof _ hv ?_
    dsimp only at h
    split at h
    · exact .inl ⟨_, h⟩
    · exact .inr h

theorem resolveItems_eq_some {again : Value → Option Value} {vs ws : List Value}
    (h : resolveItems again vs = some ws) : ∀ w ∈ ws, ∃ v ∈ vs, again v = some w := by
  induction vs generalizing ws with
  | nil =>
    cases h
    nofun
  | cons v rest ih =>
    unfold resolveItems at h
    split at h
    · cases h
    · next w hw =>
      obtain ⟨ws, hws, rfl⟩ := Option.map_eq_some_iff.1 h
      refine List.forall_mem_cons.2 ⟨⟨v, List.mem_cons_self .., hw⟩, fun w' hw' => ?_⟩
      obtain ⟨v', hv', h'⟩ := ih hws w' hw'
      exact ⟨v', List.mem_cons_of_mem _ hv', h'⟩

theorem resolveEntries_eq_some {again : Value → Option Value} {es es' : List (String × Value)}
    (h : resolveEntries again es = some es') :
    es'.map Prod.fst = es.map Prod.fst ∧ ∀ e' ∈ es', ∃ e ∈ es, again e.2 = some e'.2 := by
  induction es generalizing es' with
  | nil =>
    cases h
    exact ⟨rfl, nofun⟩
  | cons e rest ih =>
    unfold resolveEntries at h
    split at h
    · cases h
    · next w hw =>
      obtain ⟨rest', hrest', rfl⟩ := Option.map_eq_some_iff.1 h
      obtain ⟨hkeys, heach⟩ := ih hrest'
      refine ⟨congrArg (e.1 :: ·) hkeys,
        List.forall_mem_cons.2 ⟨⟨e, List.mem_cons_self .., hw⟩, fun e' he' => ?_⟩⟩
      obtain ⟨e₀, he₀, h'⟩ := heach e' he'
      exact ⟨e₀, List.mem_cons_of_mem _ he₀, h'⟩

/-- What stands for an absent field is regular, as its default is proper. -/
theorem regular_defaultOf {f : Field} {s : Schema} (sound : SoundField (f, s))
    (below : ∀ s u u', s.Sound → u.Regular → again s u = some u' → u'.Regular)
    (h : defaultOf again f s = some v) : v.Regular := by
  unfold defaultOf at h
  split at h
  · cases h
  · next j hj =>
    have hregular : (Value.ofJson j).Regular := Value.regular_ofJson (sound.2 j hj)
    split at h
    · obtain ⟨i, s, rfl, -⟩ := resolveEnumeration_eq_some h
      exact Value.all_leaf trivial rfl
    · cases h
    · cases h
      exact .intro trivial fun w hw => List.mem_singleton.1 hw ▸ Value.all_leaf trivial rfl
    · obtain ⟨u, hu, rfl⟩ := Option.map_eq_some_iff.1 h
      have hfirst := sound.1.parts _ (List.mem_cons_self ..)
      exact .intro trivial fun w hw => List.mem_singleton.1 hw ▸ below _ _ u hfirst hregular hu
    · cases h
      exact hregular

/-- **The fields of a record are resolved in order**, each from a regular value. -/
theorem resolveFields_eq_some {held held' : List (String × Value)}
    {fields : List (Field × Schema)} (hheld : ∀ e ∈ held, e.2.Regular)
    (sound : ∀ e ∈ fields, SoundField e)
    (below : ∀ s u u', s.Sound → u.Regular → again s u = some u' → u'.Regular)
    (h : resolveFields again held fields = some held') :
    held'.map Prod.fst = fields.map (·.1.name) ∧
      ∀ p ∈ fields.zip held', ∃ u, p.1.2.Sound ∧ u.Regular ∧ again p.1.2 u = some p.2.2 := by
  induction fields generalizing held' with
  | nil =>
    cases h
    exact ⟨rfl, nofun⟩
  | cons e rest ih =>
    obtain ⟨hfirst, hrest⟩ := List.forall_mem_cons.1 sound
    unfold resolveFields at h
    split at h
    · cases h
    · next w hw =>
      obtain ⟨held', hheld', rfl⟩ := Option.map_eq_some_iff.1 h
      obtain ⟨hnames, heach⟩ := ih hrest hheld'
      obtain ⟨u, hu, hw⟩ := Option.bind_eq_some_iff.1 hw
      refine ⟨congrArg (e.1.name :: ·) hnames, List.forall_mem_cons.2 ⟨⟨u, hfirst.1, ?_, hw⟩, heach⟩⟩
      rcases Option.or_eq_some_iff.1 hu with hfound | ⟨-, hdefault⟩
      · exact hheld _ (Table.mem_of_lookup hfound)
      · exact regular_defaultOf hfirst below hdefault

end Resolving

/-- **What a regular value resolves to is a value of the schema.** -/
theorem conforms_resolve (sound : ns.All Schema.SoundHere) :
    ∀ {depth : Nat} {s : Schema} {v w : Value}, s.Sound → v.Regular →
      resolve ns depth s v = some w → Conforms ns depth s w := by
  intro depth
  induction depth with
  | zero => exact fun _ _ h => by cases h
  | succ depth ih =>
    intro s v w hs hv h
    have hu := regular_outOfUnion s hv
    replace h : resolveLayer ns (resolve ns depth) s v = some w := h
    unfold resolveLayer at h
    generalize v.outOfUnion s = u at h hu
    cases s with
    | ref n =>
      obtain ⟨s, hfound, hinner⟩ := Option.bind_eq_some_iff.1 h
      exact .ref hfound (ih (sound.find? hfound) hu hinner)
    -- Where neither has parts, one kind of value is at most converted into another.
    | null => cases u <;> cases h; exact .null
    | boolean => cases u <;> cases h; exact .boolean _
    | int => cases u <;> cases h <;> exact .int _
    | long => cases u <;> cases h <;> exact .long _
    | float => cases u <;> cases h <;> exact .float _
    | double => cases u <;> cases h <;> exact .double _
    | bytes =>
      cases u with
      | bytes b | string s => cases h; exact .bytes _
      | array items =>
        obtain ⟨b, -, rfl⟩ := Option.map_eq_some_iff.1 h
        exact .bytes b
      | _ => cases h
    | string =>
      cases u with
      | string s => cases h; exact .string s
      | bytes b | fixed b =>
        obtain ⟨s, -, rfl⟩ := Option.map_eq_some_iff.1 h
        exact .string s
      | _ => cases h
    | fixed n size =>
      cases u with
      | string s => cases h; exact .fixed n size _
      | fixed b | bytes b =>
        obtain ⟨-, ⟨⟩⟩ := Option.ite_none_right_eq_some.1 h
        exact .fixed n size b
      | _ => cases h
    | enumeration n symbols default =>
      obtain ⟨i, s, rfl, hplace⟩ := resolveEnumeration_eq_some h
      exact .enumeration n default hplace
    | union branches =>
      obtain ⟨i, s, u, u', rfl, hbranch, hu, hinner⟩ := resolveUnion_eq_some hu h
      exact .union hbranch (ih (hs.branch hbranch) hu hinner)
    | array s =>
      cases u with
      | array vs =>
        obtain ⟨ws, hws, rfl⟩ := Option.map_eq_some_iff.1 h
        refine .array fun w hw => ?_
        obtain ⟨u, hmem, hinner⟩ := resolveItems_eq_some hws w hw
        exact ih hs.items (hu.parts u hmem) hinner
      | _ => cases h
    | map s =>
      cases u with
      | map entries =>
        obtain ⟨es, hes, rfl⟩ := Option.map_eq_some_iff.1 h
        obtain ⟨hkeys, heach⟩ := resolveEntries_eq_some hes
        refine .map (hkeys ▸ hu.self) fun e he => ?_
        obtain ⟨e', he', hinner⟩ := heach e he
        exact ih hs.values (hu.entry he') hinner
      | _ => cases h
    | record n fields =>
      cases u with
      | map held | record held =>
        obtain ⟨held', hheld', rfl⟩ := Option.map_eq_some_iff.1 h
        have hparts := fun e he => hu.parts (Prod.snd e) (List.mem_map_of_mem he)
        obtain ⟨hnames, heach⟩ := resolveFields_eq_some hparts hs.soundFields
          (fun s u u' hs hu h => (ih hs hu h).regular) hheld'
        refine .record n hnames fun p hp => ?_
        obtain ⟨u, hsound, hregular, hinner⟩ := heach p hp
        exact ih hsound hregular hinner
      | _ => cases h
    | decimal precision scale inner =>
      obtain ⟨b, -, h⟩ := Option.bind_eq_some_iff.1 h
      obtain ⟨⟨hfits, -⟩, ⟨⟩⟩ := Option.ite_none_right_eq_some.1 h
      cases inner with
      | fixed n size => exact .decimalFixed precision scale n size b
      | bytes => exact .decimalBytes precision scale b
      | _ => exact absurd hfits Bool.false_ne_true
    | duration =>
      cases u with
      | duration b => cases h; exact .duration hu.self
      | fixed b =>
        obtain ⟨htwelve, ⟨⟩⟩ := Option.ite_none_right_eq_some.1 h
        exact .duration htwelve
      | _ => cases h
    | uuid =>
      cases u with
      | uuid u => cases h; exact .uuid u
      | string s =>
        obtain ⟨u, -, rfl⟩ := Option.map_eq_some_iff.1 h
        exact .uuid u
      | _ => cases h
    | shortTime kind =>
      cases u with
      | shortTime kind' n =>
        obtain ⟨-, ⟨⟩⟩ := Option.ite_none_right_eq_some.1 h
        exact .shortTime kind n
      | int n => cases h; exact .shortTime kind n
      | _ => cases h
    | longTime kind =>
      cases u with
      | longTime kind' n =>
        obtain ⟨-, ⟨⟩⟩ := Option.ite_none_right_eq_some.1 h
        exact .longTime kind n
      | int n | long n => cases h; exact .longTime kind _
      | _ => cases h

/-! ## The order of maps -/

/-- **The same value, its maps perhaps in other orders.** Nothing but the order of their
entries tells two such values apart, and a map has no order. -/
inductive Value.Same : Value → Value → Prop where
  /-- A value is the same as itself. -/
  | refl (v : Value) : Same v v
  /-- The value of a union may be in another order. -/
  | union (i : Nat) {v w : Value} (inner : Same v w) : Same (.union i v) (.union i w)
  /-- Items stay in order, and each of them may be in another order. -/
  | array {vs ws : List Value} (length : ws.length = vs.length)
      (each : ∀ p ∈ vs.zip ws, Same p.1 p.2) : Same (.array vs) (.array ws)
  /-- The entries of a map come in any order. -/
  | map {es inOrder es' : List (String × Value)}
      (keys : inOrder.map Prod.fst = es.map Prod.fst)
      (each : ∀ p ∈ es.zip inOrder, Same p.1.2 p.2.2) (order : inOrder.Perm es') :
      Same (.map es) (.map es')
  /-- Fields stay in order as items do. -/
  | record {held held' : List (String × Value)}
      (names : held'.map Prod.fst = held.map Prod.fst)
      (each : ∀ p ∈ held.zip held', Same p.1.2 p.2.2) : Same (.record held) (.record held')

/-- **A value of a schema stays one in any order of its maps.** -/
theorem Conforms.same {s : Schema} {v w : Value} (h : Conforms ns depth s v) (hsame : v.Same w) :
    Conforms ns depth s w := by
  induction h generalizing w with
  | union branch inner ih =>
    cases hsame with
    | refl => exact .union branch inner
    | union _ hinner => exact .union branch (ih hinner)
  | @array _ s items each ih =>
    cases hsame with
    | refl => exact .array each
    | array hlength heach =>
      refine .array fun w hw => ?_
      obtain ⟨v, hv⟩ := exists_mem_zip hlength hw
      exact ih v (List.of_mem_zip hv).1 (heach _ hv)
  | @map _ s entries keys each ih =>
    cases hsame with
    | refl => exact .map keys each
    | map hkeys heach horder =>
      refine .map ((horder.map Prod.fst).nodup_iff.1 (hkeys ▸ keys)) fun e he => ?_
      have hlength := by simpa using congrArg List.length hkeys
      obtain ⟨e₀, he₀⟩ := exists_mem_zip hlength (horder.mem_iff.2 he)
      exact ih e₀ (List.of_mem_zip he₀).1 (heach _ he₀)
  | @record _ n fields held names each ih =>
    cases hsame with
    | refl => exact .record n names each
    | @record _ held' hnames heach =>
      refine .record n (hnames.trans names) fun p hp => ?_
      have hlength : held.length = held'.length := by simpa using congrArg List.length hnames.symm
      obtain ⟨e, he, he'⟩ := exists_mem_zip_zip hlength hp
      exact ih _ he (heach _ he')
  | ref found _ ih => exact .ref found (ih hsame)
  | null | boolean | int | long | float | double | bytes | string | fixed | enumeration
  | decimalFixed | decimalBytes | duration | uuid | shortTime | longTime =>
    cases hsame
    constructor <;> assumption

end CourierDispatch.Avro
