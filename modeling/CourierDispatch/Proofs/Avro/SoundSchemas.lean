import CourierDispatch.Avro.Codec
import CourierDispatch.Proofs.Json.Proper

/-!
# What schemas that are read have in common

Whoever writes a schema down as a term may give a record two fields of one name, or a field
a default that no text writes. Schemas that are read from texts are sound: neither happens
anywhere in them (`sound_ofText?`).

Reading a schema is a program with a state, the names defined so far, and soundness is an
invariant of that state as much as a property of the result, since a word may stand for a
schema that was read before. `Reading.Yields` puts the two together. It has one law for
each way to compose programs, and then every function of the reader has its own law, with
the layers below as a premise.
-/

namespace CourierDispatch.Avro

/-! ## What holds throughout a schema -/

namespace Schema

/-- The schemas directly inside a schema. -/
def parts : Schema → List Schema
  | array items => [items]
  | map values => [values]
  | union branches => branches
  | record _ fields => fields.map Prod.snd
  | decimal _ _ inner => [inner]
  | _ => []

/-- **What holds throughout a schema**: of itself and of all schemas inside it. -/
inductive All (P : Schema → Prop) : Schema → Prop where
  /-- It holds of the schema, and throughout the schemas directly inside it. -/
  | intro {s : Schema} (self : P s) (parts : ∀ t ∈ s.parts, All P t) : All P s

variable {P : Schema → Prop}

theorem All.self {s : Schema} (h : s.All P) : P s := by
  cases h with
  | intro self _ => exact self

theorem All.parts {s : Schema} (h : s.All P) : ∀ t ∈ s.parts, t.All P := by
  cases h with
  | intro _ parts => exact parts

theorem All.items {s : Schema} (h : (array s).All P) : s.All P :=
  h.parts s (List.mem_singleton_self s)

theorem All.values {s : Schema} (h : (map s).All P) : s.All P :=
  h.parts s (List.mem_singleton_self s)

theorem All.branch {branches : List Schema} {i : Nat} {s : Schema} (h : (union branches).All P)
    (hs : branches[i]? = some s) : s.All P :=
  h.parts s (List.mem_of_getElem? hs)

theorem All.field {n : Name} {fields : List (Field × Schema)} (h : (record n fields).All P)
    {e : Field × Schema} (he : e ∈ fields) : e.2.All P :=
  h.parts e.2 (List.mem_map_of_mem he)

end Schema

/-! ## What names stand for -/

/-- **Names of schemas with a property throughout**, none of them a mere reference. -/
structure Names.All (P : Schema → Prop) (ns : Names) : Prop where
  /-- The property. -/
  each : ∀ e ∈ ns, e.2.All P
  /-- No name stands for another name. -/
  direct : ∀ e ∈ ns, e.2.kind ≠ .ref

namespace Names

variable {P : Schema → Prop} {ns ns' : Names} {n : Name} {s : Schema}

theorem mem_of_find? (h : ns.find? n = some s) : (n, s) ∈ ns := by
  obtain ⟨before, after, hns, -⟩ := List.lookup_eq_some_iff.1 h
  rw [hns]
  exact List.mem_append_right _ (List.mem_cons_self ..)

theorem All.find? (h : ns.All P) (found : ns.find? n = some s) : s.All P :=
  h.each _ (mem_of_find? found)

/-- What a name stands for stands for itself. -/
theorem All.target_eq (h : ns.All P) (found : ns.find? n = some s) : ns.target s = s := by
  have hdirect := h.direct _ (mem_of_find? found)
  cases s <;> first | rfl | exact absurd rfl hdirect

theorem All.nil : Names.All P [] := ⟨nofun, nofun⟩

theorem All.define? (h : ns.All P) (hs : s.All P) (direct : s.kind ≠ .ref)
    (hdefined : ns.define? n s = some ns') : ns'.All P := by
  unfold Names.define? at hdefined
  split at hdefined
  · cases hdefined
  · cases hdefined
    exact ⟨List.forall_mem_cons.2 ⟨hs, h.each⟩, List.forall_mem_cons.2 ⟨direct, h.direct⟩⟩

end Names

namespace Schema

variable {P : Schema → Prop}

mutual

theorem all_collect : ∀ {s : Schema} {ns ns' : Names}, s.All P → ns.All P →
    collect s ns = some ns' → ns'.All P
  | array _, _, _, h, hns, hc => all_collect h.items hns hc
  | map _, _, _, h, hns, hc => all_collect h.values hns hc
  | union _, _, _, h, hns, hc => all_collectBranches h.parts hns hc
  | enumeration _ _ _, _, _, h, hns, hc => hns.define? h nofun hc
  | fixed _ _, _, _, h, hns, hc => hns.define? h nofun hc
  | record n fields, ns, _, h, hns, hc => by
    unfold collect at hc
    split at hc
    · cases hc
    · next ns₁ hdefined =>
      exact all_collectFields (fun _ he => h.field he) (hns.define? h nofun hdefined) hc
  | ref n, ns, _, _, hns, hc => by
    unfold collect at hc
    split at hc
    · cases hc
      exact hns
    · cases hc
  | null, _, _, _, hns, hc | boolean, _, _, _, hns, hc | int, _, _, _, hns, hc
  | long, _, _, _, hns, hc | float, _, _, _, hns, hc | double, _, _, _, hns, hc
  | bytes, _, _, _, hns, hc | string, _, _, _, hns, hc | decimal _ _ _, _, _, _, hns, hc
  | duration, _, _, _, hns, hc | uuid, _, _, _, hns, hc | shortTime _, _, _, _, hns, hc
  | longTime _, _, _, _, hns, hc => by
    cases hc
    exact hns

theorem all_collectBranches : ∀ {branches : List Schema} {ns ns' : Names},
    (∀ s ∈ branches, s.All P) → ns.All P → collectBranches branches ns = some ns' → ns'.All P
  | [], _, _, _, hns, hc => by
    cases hc
    exact hns
  | s :: rest, ns, _, h, hns, hc => by
    obtain ⟨hfirst, hrest⟩ := List.forall_mem_cons.1 h
    unfold collectBranches at hc
    split at hc
    · cases hc
    · next hs => exact all_collectBranches hrest (all_collect hfirst hns hs) hc

theorem all_collectFields : ∀ {fields : List (Field × Schema)} {ns ns' : Names},
    (∀ e ∈ fields, e.2.All P) → ns.All P → collectFields fields ns = some ns' → ns'.All P
  | [], _, _, _, hns, hc => by
    cases hc
    exact hns
  | (_, s) :: rest, ns, _, h, hns, hc => by
    obtain ⟨hfirst, hrest⟩ := List.forall_mem_cons.1 h
    unfold collectFields at hc
    split at hc
    · cases hc
    · next hs => exact all_collectFields hrest (all_collect hfirst hns hs) hc

end

/-- **What holds throughout a schema holds throughout what its names stand for.** -/
theorem All.names? {s : Schema} {ns : Names} (h : s.All P) (names : s.names? = some ns) :
    ns.All P :=
  all_collect h .nil names

end Schema

/-! ## Sound schemas -/

/-- **A sound schema**: if it is a record, its fields have distinct names, and their defaults
are proper. -/
def Schema.SoundHere : Schema → Prop
  | .record _ fields =>
    (fields.map (·.1.name)).Nodup ∧ ∀ e ∈ fields, ∀ j, e.1.default = some j → j.Proper
  | _ => True

/-- A schema that is sound throughout. -/
def Schema.Sound (s : Schema) : Prop := s.All SoundHere

theorem Schema.sound_leaf {s : Schema} (here : s.SoundHere) (h : s.parts = []) : s.Sound :=
  .intro here (by rw [h]; nofun)

/-- A field with a sound schema and a proper default. -/
def SoundField (e : Field × Schema) : Prop :=
  e.2.Sound ∧ ∀ j, e.1.default = some j → j.Proper

theorem Schema.Sound.soundFields {n : Name} {fields : List (Field × Schema)}
    (h : Sound (.record n fields)) : ∀ e ∈ fields, SoundField e :=
  fun e he => ⟨All.field h he, (All.self h).2 e he⟩

/-! ## Steps of reading -/

/-- What is known is sound if all schemas that have been read are. -/
def Known.Sound (k : Known) : Prop := ∀ e ∈ k.defined, e.2.Sound

theorem Known.Sound.find? {k : Known} (h : k.Sound) {n : Name} {s : Schema}
    (found : k.defined.find? n = some s) : s.Sound :=
  h _ (Names.mem_of_find? found)

theorem Known.Sound.enter {k : Known} (h : k.Sound) (n : Name) (aliases : List Name) :
    (k.enter n aliases).Sound := h

theorem Known.Sound.define {k : Known} (h : k.Sound) (n : Name) (aliases : List Name) {s : Schema}
    (hs : s.Sound) : (k.define n aliases s).Sound := by
  suffices hfold : ∀ (names : List Name) (ns : Names), (∀ e ∈ ns, e.2.Sound) →
      ∀ e ∈ names.foldl (fun acc a => (a, s) :: acc) ns, e.2.Sound from
    hfold (n :: aliases) k.defined h
  intro names
  induction names with
  | nil => exact fun _ hns => hns
  | cons a rest ih => exact fun ns hns => ih _ (List.forall_mem_cons.2 ⟨hs, hns⟩)

namespace Reading

variable {α β : Type} {P : α → Prop} {Q : β → Prop}

/-- **What a step yields** where it succeeds, if all schemas before it are sound: a result
with a property, and sound schemas again. -/
def Yields (P : α → Prop) (r : Reading α) : Prop :=
  ∀ k a k', k.Sound → r k = some (a, k') → P a ∧ k'.Sound

theorem yields_pure {a : α} (h : P a) : Yields P (pure a) := by
  intro k a' k' hk hr
  cases hr
  exact ⟨h, hk⟩

theorem yields_failure : Yields P failure := by
  intro k a k' _ hr
  cases hr

theorem yields_bind {r : Reading α} {f : α → Reading β} (h : Yields P r)
    (hf : ∀ a, P a → Yields Q (f a)) : Yields Q (r >>= f) := by
  intro k b k' hk hr
  obtain ⟨⟨a, k₁⟩, ha, hb⟩ := Option.bind_eq_some_iff.1 hr
  obtain ⟨hP, hk₁⟩ := h k a k₁ hk ha
  exact hf a hP k₁ b k' hk₁ hb

/-- Nothing is yielded behind a failure. -/
theorem yields_failure_bind {f : α → Reading β} : Yields Q (failure >>= f) :=
  yields_bind (yields_failure (P := fun _ => False)) nofun

theorem yields_liftM {o : Option α} (h : ∀ a, o = some a → P a) :
    Yields P (liftM o : Reading α) := by
  intro k a k' hk hr
  obtain ⟨a', ha, hr⟩ := Option.bind_eq_some_iff.1 hr
  cases hr
  exact ⟨h a ha, hk⟩

theorem yields_get : Yields Known.Sound (get : Reading Known) := by
  intro k a k' hk hr
  cases hr
  exact ⟨hk, hk⟩

theorem yields_modify {f : Known → Known} (h : ∀ k, k.Sound → (f k).Sound) :
    Yields (fun _ => True) (modify f : Reading PUnit) := by
  intro k a k' hk hr
  cases hr
  exact ⟨trivial, h k hk⟩

end Reading

namespace SchemaText

open Reading

theorem yields_refer (enclosing : Option String) (name : String) :
    Yields Schema.Sound (refer enclosing name) := by
  unfold refer
  refine yields_bind (yields_liftM fun _ _ => trivial) fun n _ => ?_
  refine yields_bind yields_get fun known _ => ?_
  split
  · exact yields_pure (Schema.sound_leaf trivial rfl)
  · exact yields_bind (yields_liftM fun _ _ => trivial) fun _ _ =>
      yields_pure (Schema.sound_leaf trivial rfl)

theorem yields_named (enclosing : Option String) (name : String) :
    Yields Schema.Sound (named enclosing name) := by
  unfold named
  split
  case h_9 => exact yields_refer enclosing name
  all_goals exact yields_pure (Schema.sound_leaf trivial rfl)

theorem yields_alreadySeen (enclosing : Option String) (m : Members) :
    Yields (fun found => ∀ s ∈ found, s.Sound) (alreadySeen enclosing m) := by
  unfold alreadySeen
  split
  · exact yields_pure nofun
  · refine yields_bind (yields_liftM fun _ _ => trivial) fun n _ => ?_
    refine yields_bind yields_get fun known hknown => ?_
    split
    · exact yields_pure fun s hs => by
        cases hs
        exact Schema.sound_leaf trivial rfl
    · exact yields_pure fun s hs => hknown.find? hs

/-- What stands in for a missing member is sound as well. -/
theorem yields_needing (enclosing : Option String) {m : Members} {key : String}
    {body : Json → Reading Schema}
    (h : ∀ j, Table.lookup key m = some j → Yields Schema.Sound (body j)) :
    Yields Schema.Sound (needing enclosing m key body) := by
  unfold needing
  split
  · next j hj => exact h j hj
  · refine yields_bind (yields_alreadySeen enclosing m) fun found hfound => ?_
    cases found with
    | none => exact yields_failure
    | some s => exact yields_pure (hfound s rfl)

/-- A named schema that has been read becomes known. -/
theorem yields_define {s : Schema} (hs : s.Sound) (n : Name) (aliases : List Name) :
    Yields Schema.Sound (do modify fun k => k.define n aliases s; return s) :=
  yields_bind (yields_modify fun _ hk => hk.define n aliases hs) fun _ _ => yields_pure hs

theorem yields_enumeration (enclosing : Option String) (m : Members) :
    Yields Schema.Sound (enumeration enclosing m) := by
  refine yields_needing enclosing fun symbols _ => ?_
  refine yields_bind (yields_liftM fun _ _ => trivial) fun n _ => ?_
  refine yields_bind (yields_liftM fun _ _ => trivial) fun aliases _ => ?_
  have hdefine (symbols default) :=
    yields_define (Schema.sound_leaf (s := .enumeration n symbols default) trivial rfl) n aliases
  dsimp only
  split
  · refine yields_bind (yields_liftM fun _ _ => trivial) fun symbols _ => ?_
    split
    · exact yields_failure_bind
    · split
      · exact hdefine symbols none
      · split
        · exact hdefine symbols _
        · exact yields_failure_bind
      · exact yields_failure_bind
  · exact yields_failure_bind

theorem yields_fixed (enclosing : Option String) (m : Members) :
    Yields Schema.Sound (fixed enclosing m) := by
  refine yields_needing enclosing fun size _ => ?_
  have hdefine (size : Nat) : Yields Schema.Sound (do
      let n ← nameOf enclosing m
      let aliases ← aliasesOf n m
      modify fun k => k.define n aliases (.fixed n size)
      return .fixed n size) := by
    refine yields_bind (yields_liftM fun _ _ => trivial) fun n _ => ?_
    refine yields_bind (yields_liftM fun _ _ => trivial) fun aliases _ => ?_
    exact yields_define (Schema.sound_leaf (s := .fixed n size) trivial rfl) n aliases
  dsimp only
  split
  · split
    · exact hdefine _
    · exact yields_failure_bind
  · exact yields_failure_bind

theorem sound_unionOf {branches : List Schema} (h : ∀ s ∈ branches, s.Sound) {s : Schema}
    (hs : unionOf branches = some s) : s.Sound := by
  unfold unionOf at hs
  dsimp only at hs
  split at hs
  · cases hs
  · cases hs
    exact .intro trivial h

/-- Fields that can be told apart have distinct names. -/
theorem nodup_of_distinctFields {fields : List (Field × Schema)} :
    ∀ {taken : List String}, distinctFields taken fields = true →
      (fields.map (·.1.name)).Nodup ∧ ∀ e ∈ fields, e.1.name ∉ taken := by
  induction fields with
  | nil => exact fun _ => ⟨List.nodup_nil, nofun⟩
  | cons e rest ih =>
    intro taken h
    unfold distinctFields at h
    obtain ⟨hnew, hrest⟩ := Bool.and_eq_true_iff.1 h
    obtain ⟨hnodup, hout⟩ := ih hrest
    have hnew : e.1.name ∉ taken := by simpa using hnew
    refine ⟨List.nodup_cons.2 ⟨fun hmem => ?_, hnodup⟩,
      List.forall_mem_cons.2 ⟨hnew, fun e' he' => ?_⟩⟩
    · obtain ⟨e', he', hname⟩ := List.mem_map.1 hmem
      exact hout e' he' (hname ▸ List.mem_cons_self ..)
    · exact fun hmem => hout e' he' (List.mem_append_right _ hmem)

section Layer

/-! ### One layer -/

variable {again : Option String → Json → Reading Schema} {enclosing : Option String} {m : Members}

variable (below : ∀ enclosing j, j.Proper → Yields Schema.Sound (again enclosing j))
  (proper : ∀ e ∈ m, e.2.Proper)

include below proper

theorem yields_underlying (kinds : List Kind) :
    Yields (fun found => ∀ s ∈ found, s.Sound) (underlying again enclosing m kinds) := by
  unfold underlying
  split
  · exact yields_failure
  · next t ht =>
    have hkind (s : Schema) (hs : s.Sound) : Yields (fun found => ∀ s ∈ found, s.Sound)
        (pure (if kinds.contains s.kind then some s else none)) := by
      refine yields_pure fun s' hs' => ?_
      split at hs' <;> cases hs'
      exact hs
    dsimp only
    split
    · exact yields_bind (yields_fixed enclosing m) hkind
    · exact yields_bind (below enclosing t (.of_lookup proper ht)) hkind

theorem yields_strictLogical (kinds : List Kind) :
    Yields Schema.Sound (strictLogical again enclosing m kinds) := by
  refine yields_bind (yields_underlying below proper kinds) fun found hfound => ?_
  cases found with
  | none => exact yields_failure
  | some s => exact yields_pure (hfound s rfl)

theorem yields_lenientLogical (kind : Kind) {logical : Schema} (hlogical : logical.Sound) :
    Yields Schema.Sound (lenientLogical again enclosing m kind logical) := by
  refine yields_bind (yields_underlying below proper [kind]) fun found hfound => ?_
  cases found with
  | some s => exact yields_pure hlogical
  | none =>
    exact yields_bind (yields_liftM fun _ _ => trivial) fun word _ => below _ _ (.string word)

theorem yields_logical? {logicalType : String} {r : Reading Schema}
    (h : logical? again enclosing m logicalType = some r) : Yields Schema.Sound r := by
  unfold logical? at h
  dsimp only at h
  split at h <;> cases h
  case h_1 =>
    refine yields_bind (yields_strictLogical below proper _) fun inner hinner => ?_
    refine yields_bind (yields_liftM fun _ _ => trivial) fun precision _ => ?_
    refine yields_bind (yields_liftM fun _ _ => trivial) fun scale _ => ?_
    split
    · exact yields_failure_bind
    · exact yields_pure (.intro trivial fun t ht => by
        cases List.mem_singleton.1 ht
        exact hinner)
  case h_2 | h_3 =>
    exact yields_bind (yields_strictLogical below proper _) fun _ _ =>
      yields_pure (Schema.sound_leaf trivial rfl)
  all_goals exact yields_lenientLogical below proper _ (Schema.sound_leaf trivial rfl)

theorem yields_simple (word : String) : Yields Schema.Sound (simple again enclosing m word) := by
  unfold simple
  split
  · exact yields_enumeration enclosing m
  · exact yields_fixed enclosing m
  · refine yields_bind (yields_liftM fun _ hj => Json.Proper.of_lookup proper hj) ?_
    intro items hitems
    exact yields_bind (below enclosing items hitems) fun s hs =>
      yields_pure (.intro trivial fun t ht => by rwa [List.mem_singleton.1 ht])
  · refine yields_bind (yields_liftM fun _ hj => Json.Proper.of_lookup proper hj) ?_
    intro values hvalues
    exact yields_bind (below enclosing values hvalues) fun s hs =>
      yields_pure (.intro trivial fun t ht => by rwa [List.mem_singleton.1 ht])
  · exact yields_named enclosing word

theorem yields_ofType {record : Reading Schema} (hrecord : Yields Schema.Sound record) :
    Yields Schema.Sound (ofType again enclosing m record) := by
  unfold ofType
  split
  · exact hrecord
  · exact yields_simple below proper _
  · next hinner => exact below _ _ (.of_lookup proper hinner)
  · next hinner => exact below _ _ (.of_lookup proper hinner)
  · exact yields_failure

theorem yields_ofObject {record : Reading Schema} (hrecord : Yields Schema.Sound record) :
    Yields Schema.Sound (ofObject again enclosing m record) := by
  unfold ofObject
  split
  · next t _ =>
    cases hlogical : logical? again enclosing m t with
    | none => exact yields_ofType below proper hrecord
    | some r => exact yields_logical? below proper hlogical
  · exact yields_failure
  · exact yields_ofType below proper hrecord

theorem yields_field : Yields SoundField (field again enclosing m) := by
  unfold field
  refine yields_bind (yields_liftM fun _ _ => trivial) fun name _ => ?_
  dsimp only
  split
  · exact yields_failure_bind
  · refine yields_bind (yields_ofObject below proper (yields_refer _ _)) fun s hs => ?_
    have hfield (aliases : List String) :
        Yields SoundField (pure (⟨name, aliases, Table.lookup "default" m⟩, s)) :=
      yields_pure ⟨hs, fun j hj => .of_lookup proper hj⟩
    split
    · exact hfield _
    · refine yields_bind yields_get fun _ _ => ?_
      split
      · exact yields_failure_bind
      · exact hfield _

omit proper in
theorem yields_fields {items : List Json} (hitems : ∀ j ∈ items, j.Proper) :
    Yields (fun fs => ∀ e ∈ fs, SoundField e) (fields again enclosing items) := by
  induction items with
  | nil => exact yields_pure nofun
  | cons j rest ih =>
    obtain ⟨hj, hrest⟩ := List.forall_mem_cons.1 hitems
    unfold fields
    split
    · next hcons => cases hcons
    · next m rest' hcons =>
      cases hcons
      cases hj with
      | object _ heach =>
        refine yields_bind (yields_field below heach) fun e he => ?_
        exact yields_bind (ih hrest) fun fs hfs => yields_pure (List.forall_mem_cons.2 ⟨he, hfs⟩)
    · next hcons =>
      cases hcons
      exact ih hrest

theorem yields_record : Yields Schema.Sound (record again enclosing m) := by
  refine yields_needing enclosing fun items hitems => ?_
  refine yields_bind (yields_liftM fun _ _ => trivial) fun n _ => ?_
  refine yields_bind (yields_liftM fun _ _ => trivial) fun aliases _ => ?_
  refine yields_bind (yields_modify fun _ hk => hk.enter n aliases) fun _ _ => ?_
  dsimp only
  split
  · next items =>
    cases Json.Proper.of_lookup proper hitems with
    | array heach =>
      refine yields_bind (yields_fields below heach) fun fs hfs => ?_
      split
      · exact yields_failure_bind
      · next hdistinct =>
        have hnames := (nodup_of_distinctFields (by simpa using hdistinct)).1
        refine yields_define (.intro (s := .record n fs) ⟨hnames, fun e he => (hfs e he).2⟩
          fun t ht => ?_) n aliases
        obtain ⟨e, he, rfl⟩ := List.mem_map.1 ht
        exact (hfs e he).1
  · exact yields_failure_bind

omit proper in
theorem yields_branches {items : List Json} (hitems : ∀ j ∈ items, j.Proper) :
    Yields (fun bs => ∀ s ∈ bs, s.Sound) (branches again enclosing items) := by
  induction items with
  | nil => exact yields_pure nofun
  | cons j rest ih =>
    obtain ⟨hj, hrest⟩ := List.forall_mem_cons.1 hitems
    refine yields_bind (below enclosing j hj) fun s hs => ?_
    exact yields_bind (ih hrest) fun bs hbs => yields_pure (List.forall_mem_cons.2 ⟨hs, hbs⟩)

omit proper in
/-- **One layer yields sound schemas if the layers below do.** -/
theorem yields_layer {j : Json} (hj : j.Proper) :
    Yields Schema.Sound (layer again enclosing j) := by
  cases hj with
  | string name => exact yields_named enclosing name
  | object _ heach => exact yields_ofObject below heach (yields_record below heach)
  | array heach =>
    exact yields_bind (yields_branches below heach) fun bs hbs =>
      yields_liftM fun s hs => sound_unionOf hbs hs
  | null | bool | integer | real => exact yields_failure

end Layer

theorem yields_readDepth (depth : Nat) :
    ∀ enclosing j, j.Proper → Yields Schema.Sound (readDepth depth enclosing j) := by
  induction depth with
  | zero => exact fun _ _ _ => yields_failure
  | succ depth ih => exact fun _ _ hj => yields_layer ih hj

end SchemaText

theorem Schema.sound_ofJson? {j : Json} {s : Schema} (hj : j.Proper) (h : ofJson? j = some s) :
    s.Sound := by
  obtain ⟨⟨s, k⟩, hs, rfl⟩ := Option.map_eq_some_iff.1 h
  exact (SchemaText.yields_readDepth _ none j hj Known.empty s k nofun hs).1

/-- **Schemas that are read from texts are sound.** -/
theorem Schema.sound_ofText? {text : String} {s : Schema} (h : ofText? text = some s) : s.Sound := by
  obtain ⟨j, hj, hs⟩ := Option.bind_eq_some_iff.1 h
  exact sound_ofJson? (Json.proper_ofText? hj) hs

end CourierDispatch.Avro
