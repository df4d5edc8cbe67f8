import CourierDispatch.Proofs.Avro.ReadBack

/-!
# Byte strings of fixed size

Resolving gives a byte string of fixed size whatever size it has, and leaves it to the check
before writing to refuse it. The check finds the schema of a field by name, aliases included,
and takes the last field that it finds: where a field has the name of an earlier one among
its aliases, the value of the earlier field is checked against the later field's schema. It
may then be written with the wrong size.

Nowhere else does the check go astray: if no schema has such fields, whatever it lets through
has its sizes (`Conforms.sized`). What is read always has them, as it is read by them
(`sized_of_read`).
-/

namespace CourierDispatch.Avro

variable {ns : Names} {depth : Nat}

/-! ## Fields that hide others -/

namespace Schema

/-- No field has the name of an earlier one among its aliases. -/
def UnshadowedHere : Schema → Prop
  | record _ fields => fields.Pairwise fun e e' => e.1.name ∉ e'.1.aliases
  | _ => True

/-- **No field hides another**, in any record of the schema. -/
def Unshadowed (s : Schema) : Prop := s.All UnshadowedHere

/-- The check finds each field under its name. -/
def FoundHere : Schema → Prop
  | record _ fields => ∀ e ∈ fields, schemaOfField fields e.1.name = some e.2
  | _ => True

theorem All.and_imp {P Q R : Schema → Prop} (h : ∀ s, P s → Q s → R s) {s : Schema}
    (hP : s.All P) (hQ : s.All Q) : s.All R := by
  induction hP with
  | intro self _ ih => exact .intro (h _ self hQ.self) fun t ht => ih t ht (hQ.parts t ht)

theorem foundHere_of_unshadowedHere {s : Schema} (sound : s.SoundHere)
    (unshadowed : s.UnshadowedHere) : s.FoundHere := by
  cases s with
  | record n fields => exact fun e he => schemaOfField_of_mem sound.1 unshadowed he
  | _ => exact trivial

/-- **In sound schemas whose fields hide no others the check finds every field.** -/
theorem Sound.found {s : Schema} (sound : s.Sound) (unshadowed : s.Unshadowed) :
    s.All FoundHere :=
  All.and_imp (fun _ => foundHere_of_unshadowedHere) sound unshadowed

end Schema

/-! ## What is checked -/

theorem fitItems_iff {items : List Value} {s : Schema} :
    fitItems ns items s ↔ ∀ v ∈ items, fits ns v s := by
  induction items with
  | nil => simp [fitItems]
  | cons v rest ih => rw [fitItems, Bool.and_eq_true, List.forall_mem_cons, ih]

theorem fitEntries_iff {entries : List (String × Value)} {s : Schema} :
    fitEntries ns entries s ↔ ∀ e ∈ entries, fits ns e.2 s := by
  induction entries with
  | nil => simp [fitEntries]
  | cons e rest ih => rw [fitEntries, Bool.and_eq_true, List.forall_mem_cons, ih]

theorem fits_of_fitFields {held : List (String × Value)} {fields : List (Field × Schema)}
    (h : fitFields ns held fields) {e : String × Value} (he : e ∈ held) {s : Schema}
    (found : schemaOfField fields e.1 = some s) : fits ns e.2 s := by
  induction held with
  | nil => cases he
  | cons e' rest ih =>
    unfold fitFields at h
    obtain ⟨hfirst, hrest⟩ := Bool.and_eq_true_iff.1 h
    rcases List.mem_cons.1 he with rfl | he
    · rw [found] at hfirst
      exact hfirst
    · exact ih hrest he

/-- A value is checked under a name as under what the name stands for. -/
theorem fits_ref {P : Schema → Prop} (names : ns.All P) {n : Name} {s : Schema}
    (found : ns.find? n = some s) (v : Value) : fits ns v (.ref n) = fits ns v s := by
  have htarget : ns.target (.ref n) = ns.target s := by
    rw [names.target_eq found, Names.target, found, Option.getD_some]
  cases v <;> simp only [fits, htarget]

theorem fst_eq_of_mem_zip {fields : List (Field × Schema)} {held : List (String × Value)}
    (names : held.map Prod.fst = fields.map (·.1.name)) {p : (Field × Schema) × (String × Value)}
    (hp : p ∈ fields.zip held) : p.2.1 = p.1.1.name := by
  induction fields generalizing held with
  | nil => cases hp
  | cons e rest ih =>
    cases held with
    | nil => cases hp
    | cons e' held =>
      obtain ⟨hfirst, hrest⟩ := List.cons.inj names
      rcases List.mem_cons.1 hp with rfl | hp
      · exact hfirst
      · exact ih hrest hp

/-! ### Sizes of the parts -/

namespace Sized

theorem of_leaf {s : Schema} {v : Value} (self : ∀ n size, s ≠ .fixed n size)
    (parts : partsUnder ns s v = []) : Sized ns s v :=
  .intro (fun n size _ hs => absurd hs (self n size)) (by rw [parts]; nofun)

theorem of_length {n : Name} {size : Nat} {b : Bytes} (h : b.length = size) :
    Sized ns (.fixed n size) (.fixed b) := by
  refine .intro ?_ nofun
  rintro _ _ _ ⟨⟩ ⟨⟩
  exact h

theorem of_named {n : Name} {s : Schema} {v : Value} (found : ns.find? n = some s)
    (h : Sized ns s v) : Sized ns (.ref n) v := by
  refine .intro nofun fun p hp => ?_
  obtain rfl : p = (s, v) := by simpa [partsUnder, found] using hp
  exact h

theorem of_branch {branches : List Schema} {i : Nat} {s : Schema} {v : Value}
    (branch : branches[i]? = some s) (h : Sized ns s v) : Sized ns (.union branches) (.union i v) := by
  refine .intro nofun fun p hp => ?_
  obtain rfl : p = (s, v) := by simpa [partsUnder, branch] using hp
  exact h

theorem of_items {s : Schema} {items : List Value} (h : ∀ v ∈ items, Sized ns s v) :
    Sized ns (.array s) (.array items) := by
  refine .intro nofun fun p hp => ?_
  obtain ⟨v, hv, rfl⟩ := List.mem_map.1 hp
  exact h v hv

theorem of_entries {s : Schema} {entries : List (String × Value)}
    (h : ∀ e ∈ entries, Sized ns s e.2) : Sized ns (.map s) (.map entries) := by
  refine .intro nofun fun p hp => ?_
  obtain ⟨e, he, rfl⟩ := List.mem_map.1 hp
  exact h e he

theorem of_fields {n : Name} {fields : List (Field × Schema)} {held : List (String × Value)}
    (h : ∀ p ∈ fields.zip held, Sized ns p.1.2 p.2.2) :
    Sized ns (.record n fields) (.record held) := by
  refine .intro nofun fun p hp => ?_
  obtain ⟨q, hq, rfl⟩ := List.mem_map.1 hp
  exact h q hq

end Sized

/-- **What passes the check has its sizes**, if the check finds every field. -/
theorem Conforms.sized (names : ns.All Schema.FoundHere) {s : Schema} {v : Value}
    (h : Conforms ns depth s v) (found : s.All Schema.FoundHere) (fitting : fits ns v s) :
    Sized ns s v := by
  induction h with
  | fixed n size b => exact .of_length (of_decide_eq_true fitting)
  | union branch _ ih =>
    unfold fits at fitting
    simp only [Names.target, branch] at fitting
    exact .of_branch branch (ih (found.branch branch) fitting)
  | array _ ih => exact .of_items fun v hv => ih v hv found.items (fitItems_iff.1 fitting v hv)
  | map _ _ ih => exact .of_entries fun e he => ih e he found.values (fitEntries_iff.1 fitting e he)
  | @record _ n fields held hnames _ ih =>
    have hfits : fitFields ns held fields := (Bool.and_eq_true_iff.1 fitting).2
    refine .of_fields fun p hp => ?_
    obtain ⟨hfield, hheld⟩ := List.of_mem_zip hp
    refine ih p hp (found.field hfield) (fits_of_fitFields hfits hheld ?_)
    rw [fst_eq_of_mem_zip hnames hp]
    exact found.self p.1 hfield
  | @ref _ _ _ v hfound _ ih =>
    exact .of_named hfound (ih (names.find? hfound) (fits_ref names hfound v ▸ fitting))
  | null | boolean | int | long | float | double | bytes | string | enumeration | decimalFixed
  | decimalBytes | duration | uuid | shortTime | longTime =>
    refine .of_leaf ?_ rfl
    rintro _ _ ⟨⟩

/-! ## What is read -/

section Reading

variable {α : Type} {item : Bytes → Option (α × Bytes)} {P : α → Prop}

/-- What holds of each item as it is read holds of all of them. -/
theorem forall_of_readItems (h : ∀ b x rest, item b = some (x, rest) → P x) {n : Nat}
    {acc xs : List α} {b rest : Bytes} (hacc : ∀ x ∈ acc, P x)
    (hread : readItems item n acc b = some (xs, rest)) : ∀ x ∈ xs, P x := by
  induction n generalizing acc b with
  | zero =>
    cases hread
    exact hacc
  | succ n ih =>
    unfold readItems at hread
    split at hread
    · cases hread
    · next x b' hx => exact ih (List.forall_mem_cons.2 ⟨h b x b' hx, hacc⟩) hread

theorem forall_of_readBlocks (h : ∀ b x rest, item b = some (x, rest) → P x) {fuel : Nat}
    {acc xs : List α} {b rest : Bytes} (hacc : ∀ x ∈ acc, P x)
    (hread : readBlocks item fuel acc b = some (xs, rest)) : ∀ x ∈ xs, P x := by
  induction fuel generalizing acc b with
  | zero => cases hread
  | succ fuel ih =>
    unfold readBlocks at hread
    split at hread
    · cases hread
    · cases hread
      exact fun x hx => hacc x (List.mem_reverse.1 hx)
    · split at hread
      · cases hread
      · next hitems => exact ih (forall_of_readItems h hacc hitems) hread

end Reading

theorem forall_of_readFields {again : Schema → Bytes → Option (Value × Bytes)}
    {Q : Schema → Value → Prop} {fields : List (Field × Schema)}
    (h : ∀ e ∈ fields, ∀ b v rest, again e.2 b = some (v, rest) → Q e.2 v)
    {held : List (String × Value)} {b rest : Bytes}
    (hread : readFields again fields b = some (held, rest)) :
    ∀ p ∈ fields.zip held, Q p.1.2 p.2.2 := by
  induction fields generalizing held b with
  | nil => exact nofun
  | cons e fields ih =>
    obtain ⟨hfirst, hfields⟩ := List.forall_mem_cons.1 h
    unfold readFields at hread
    split at hread
    · cases hread
    · next v b' hv =>
      obtain ⟨⟨held, b''⟩, hheld, ⟨⟩⟩ := Option.map_eq_some_iff.1 hread
      exact List.forall_mem_cons.2 ⟨hfirst b v b' hv, ih hfields hheld⟩

theorem value_of_readEntry {value : Bytes → Option (Value × Bytes)} {b rest : Bytes}
    {e : String × Value} (h : readEntry value b = some (e, rest)) :
    ∃ b', value b' = some (e.2, rest) := by
  unfold readEntry at h
  split at h
  · next b' _ =>
    obtain ⟨⟨v, _⟩, hv, ⟨⟩⟩ := Option.map_eq_some_iff.1 h
    exact ⟨b', hv⟩
  · cases h

theorem length_of_takeExactly {n : Nat} {b x rest : Bytes} (h : takeExactly n b = some (x, rest)) :
    x.length = n := by
  unfold takeExactly at h
  dsimp only at h
  obtain ⟨hlength, ⟨⟩⟩ := Option.ite_none_right_eq_some.1 h
  exact hlength

theorem sized_null_of_kind {s : Schema} (hs : s.kind ≠ .ref) : Sized ns s .null := by
  cases s with
  | ref n => exact absurd rfl hs
  | _ => exact .intro nofun nofun

/-- Null has no size, wherever it stands in for a value. -/
theorem sized_null {P : Schema → Prop} (names : ns.All P) (s : Schema) : Sized ns s .null := by
  by_cases hs : s.kind = .ref
  · cases s with
    | ref n =>
      refine .intro nofun fun p hp => ?_
      obtain ⟨s, hs, rfl⟩ := List.mem_map.1 hp
      have hfound := Names.mem_of_find? (Option.mem_toList.1 hs)
      exact sized_null_of_kind (names.direct _ hfound)
    | _ => cases hs
  · exact sized_null_of_kind hs

/-- **What is read has its sizes**, whatever the bytes. -/
theorem sized_of_read {P : Schema → Prop} (names : ns.All P) {s : Schema} {v : Value}
    {b rest : Bytes} (h : read ns depth s b = some (v, rest)) : Sized ns s v := by
  induction depth generalizing s v b rest with
  | zero => cases h
  | succ depth ih =>
    cases s with
    | fixed n size =>
      rw [read_fixed] at h
      obtain ⟨⟨x, b'⟩, hx, ⟨⟩⟩ := Option.map_eq_some_iff.1 h
      exact .of_length (length_of_takeExactly hx)
    | union branches =>
      rw [read_union] at h
      split at h
      · cases h
        -- The input has ended, and the branch has not been looked at.
        refine .intro nofun fun p hp => ?_
        obtain ⟨s, -, rfl⟩ := List.mem_map.1 hp
        exact sized_null names s
      · cases h
      · obtain ⟨-, h⟩ := Option.ite_none_right_eq_some.1 h
        split at h
        · next s hs =>
          obtain ⟨⟨v, b'⟩, hv, ⟨⟩⟩ := Option.map_eq_some_iff.1 h
          exact .of_branch hs (ih hv)
        · cases h
    | array s =>
      rw [read_array] at h
      obtain ⟨⟨vs, b'⟩, hvs, ⟨⟩⟩ := Option.map_eq_some_iff.1 h
      exact .of_items (forall_of_readBlocks (fun _ _ _ h => ih h) (List.forall_mem_nil _) hvs)
    | map s =>
      rw [read_map] at h
      obtain ⟨⟨es, b'⟩, hes, ⟨⟩⟩ := Option.map_eq_some_iff.1 h
      have heach := forall_of_readBlocks (P := fun e => Sized ns s e.2)
        (fun _ _ _ h => (value_of_readEntry h).elim fun _ h' => ih h') (List.forall_mem_nil _) hes
      exact .of_entries (Table.forall_mem_foldl_write heach (List.forall_mem_nil _))
    | record n fields =>
      rw [read_record] at h
      obtain ⟨⟨held, b'⟩, hheld, ⟨⟩⟩ := Option.map_eq_some_iff.1 h
      exact .of_fields (forall_of_readFields (fun _ _ _ _ _ h => ih h) hheld)
    | ref n =>
      obtain ⟨s, hs, hread⟩ := Option.bind_eq_some_iff.1 h
      exact .of_named hs (ih hread)
    | _ => exact .of_leaf nofun rfl

end CourierDispatch.Avro
