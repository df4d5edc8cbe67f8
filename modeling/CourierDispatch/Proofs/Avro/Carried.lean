import CourierDispatch.Avro.Codec
import Mathlib.Data.List.Nodup

/-!
# JSON values that survive the wire

On its way over the bus a JSON value goes through four functions: `resolve`
fits it to a schema, `write` turns what that gives into bytes, `read` takes a
native value off the front of some bytes, and `Value.toJson?` makes JSON of it
again. `Encoded` says of one value of one schema what the first two make of it,
and `Carried` that all four agree: the bytes that are written for it read back as
it, whatever follows them.

There is one law for each kind of schema that messages are made of. None of
them looks below the layer that it is about: a union carries what its branch
carries, and a record carries an object if its fields carry the members
(`Carried.union`, `Carried.record`). The number of layers that the functions
may descend is a parameter throughout.
-/

namespace CourierDispatch.Avro

variable {ns : Names} {depth : Nat}

/-! ## Lengths and texts -/

/-- A length reads back. -/
theorem readLength_writeCount {n : Nat} (h : n ≤ lengthLimit) (rest : Bytes) :
    readLength (writeCount n ++ rest) = some (n, rest) := by
  have exact : (Int64.ofNat n).toInt = n := by
    unfold lengthLimit at h
    exact Int64.toInt_ofNat_of_lt (by omega)
  unfold readLength writeCount
  rw [readLong_long]
  simp only [exact]
  rw [if_pos ⟨by omega, by omega⟩, Int.toNat_natCast]

theorem takeExactly_append (b rest : Bytes) :
    takeExactly b.length (b ++ rest) = some (b, rest) := by
  unfold takeExactly
  simp only [List.take_left, if_true, List.drop_left]

/-- **A text reads back** if its length may be written. -/
theorem readText_writeSized {s : String} (h : (Bytes.ofText s).length ≤ lengthLimit)
    (rest : Bytes) :
    readText (writeSized (Bytes.ofText s) ++ rest) = some (.string s, rest) := by
  unfold readText writeSized
  rw [List.append_assoc, readLength_writeCount h]
  simp only [takeExactly_append, Bytes.text?_ofText, Option.map_some]

/-! ## One layer of a union and of a record -/

theorem resolve_union (branches : List Schema) (j : Json) :
    resolve ns (depth + 1) (.union branches) (.ofJson j) =
      match branchOfKind (Value.ofJson j).kind branches with
      | some i => (branches[i]?.bind fun s => resolve ns depth s (.ofJson j)).map (.union i)
      | none => firstBranch (resolve ns depth) (.ofJson j) 0 branches := by
  cases j <;> rfl

theorem resolve_record (n : Name) (fields : List (Field × Schema))
    (members : List (String × Json)) :
    resolve ns (depth + 1) (.record n fields) (.ofJson (.object members)) =
      (resolveFields (resolve ns depth) (Value.ofMembers members) fields).map .record := rfl

theorem read_double (b : Bytes) :
    read ns (depth + 1) .double b =
      (takeExactly 8 b).map fun p => (.double (Binary64.ofBytes p.1), p.2) := rfl

theorem read_union (branches : List Schema) (b : Bytes) :
    read ns (depth + 1) (.union branches) b =
      match readLong b with
      | .error .endOfInput => some (.union 0 .null, [])
      | .error .tooLong => none
      | .ok (i, rest) =>
        if 0 ≤ i.toInt then
          match branches[i.toInt.toNat]? with
          | some s => (read ns depth s rest).map fun p => (.union i.toInt.toNat p.1, p.2)
          | none => none
        else none := rfl

theorem read_record (n : Name) (fields : List (Field × Schema)) (b : Bytes) :
    read ns (depth + 1) (.record n fields) b =
      (readFields (read ns depth) fields b).map fun p => (.record p.1, p.2) := rfl

/-! ## Values in bytes -/

/-- **A JSON value in the bytes of a schema**: it stands for the native value `v`,
whose bytes are `b`. -/
structure Encoded (ns : Names) (depth : Nat) (s : Schema) (j : Json) (v : Value) (b : Bytes) :
    Prop where
  /-- The JSON value fits the schema, as `v`. -/
  resolved : resolve ns depth s (.ofJson j) = some v
  /-- The native value may be written. -/
  fitting : fits ns v s
  /-- Its bytes. -/
  written : write ns v s = some b

namespace Encoded

theorem null : Encoded ns (depth + 1) .null .null .null [] := ⟨rfl, rfl, rfl⟩

theorem flag (b : Bool) :
    Encoded ns (depth + 1) .boolean (.bool b) (.boolean b) [if b then 1 else 0] := ⟨rfl, rfl, rfl⟩

/-- Texts of any length are written. -/
theorem text (s : String) :
    Encoded ns (depth + 1) .string (.string s) (.string s) (writeSized (Bytes.ofText s)) :=
  ⟨rfl, rfl, rfl⟩

theorem real (x : Binary64) : Encoded ns (depth + 1) .double (.real x) (.double x) x.toBytes :=
  ⟨rfl, rfl, rfl⟩

theorem union {branches : List Schema} {i : Nat} {s : Schema} {j : Json} {v : Value} {b : Bytes}
    (h : Encoded ns depth s j v b) (branch : branches[i]? = some s)
    (kind : branchOfKind (Value.ofJson j).kind branches = some i) :
    Encoded ns (depth + 1) (.union branches) j (.union i v) (writeCount i ++ b) where
  resolved := by
    rw [resolve_union, kind]
    simp only [branch, Option.bind_some, h.resolved, Option.map_some]
  fitting := by
    unfold fits
    simp only [Names.target, branch]
    exact h.fitting
  written := by
    unfold write
    simp only [Names.target, branch, h.written, Option.map_some]

end Encoded

/-- **Members in the bytes of fields**, each field the member in its place. -/
inductive EncodedAll (ns : Names) (depth : Nat) :
    List (Field × Schema) → List (String × Json) → List (String × Value) → Bytes → Prop where
  /-- Nothing is written in no bytes. -/
  | nil : EncodedAll ns depth [] [] [] []
  /-- The bytes of fields stand one behind the other. -/
  | cons {f : Field} {s : Schema} {j : Json} {v : Value} {b bytes : Bytes}
      {fields : List (Field × Schema)} {members : List (String × Json)}
      {held : List (String × Value)} (first : Encoded ns depth s j v b)
      (others : EncodedAll ns depth fields members held bytes) :
      EncodedAll ns depth ((f, s) :: fields) ((f.name, j) :: members) ((f.name, v) :: held)
        (b ++ bytes)

namespace EncodedAll

variable {fields : List (Field × Schema)} {members : List (String × Json)}
  {held : List (String × Value)} {b : Bytes}

theorem map_fst (h : EncodedAll ns depth fields members held b) :
    members.map Prod.fst = fields.map (·.1.name) := by
  induction h with
  | nil => rfl
  | cons _ _ ih => rw [List.map_cons, List.map_cons, ih]

theorem length_eq (h : EncodedAll ns depth fields members held b) :
    held.length = fields.length := by
  induction h with
  | nil => rfl
  | cons _ _ ih => rw [List.length_cons, List.length_cons, ih]

theorem lookup_ofMembers (name : String) (members : List (String × Json)) :
    Table.lookup name (Value.ofMembers members) =
      (Table.lookup name members).map Value.ofJson := by
  induction members with
  | nil => rfl
  | cons m rest ih =>
    unfold Value.ofMembers Table.lookup
    split
    · rfl
    · exact ih

/-- Each field finds its member in the object, wherever it stands there. -/
theorem resolveFields_eq (h : EncodedAll ns depth fields members held b)
    {object : List (String × Json)}
    (found : ∀ m ∈ members, Table.lookup m.1 object = some m.2) :
    resolveFields (resolve ns depth) (Value.ofMembers object) fields = some held := by
  induction h with
  | nil => rfl
  | cons first _ ih =>
    obtain ⟨foundFirst, foundOthers⟩ := List.forall_mem_cons.1 found
    unfold resolveFields
    rw [lookup_ofMembers, foundFirst, Option.map_some, Option.some_or, Option.bind_some,
      first.resolved, ih foundOthers]
    rfl

/-- Each value finds its field in the record. -/
theorem fitFields_eq (h : EncodedAll ns depth fields members held b)
    {record : List (Field × Schema)}
    (found : ∀ e ∈ fields, schemaOfField record e.1.name = some e.2) :
    fitFields ns held record := by
  induction h with
  | nil => rfl
  | cons first _ ih =>
    obtain ⟨foundFirst, foundOthers⟩ := List.forall_mem_cons.1 found
    unfold fitFields
    simp only [foundFirst, Bool.and_eq_true]
    exact ⟨first.fitting, ih foundOthers⟩

theorem writeFields_eq (h : EncodedAll ns depth fields members held b) :
    writeFields ns held fields = some b := by
  induction h with
  | nil => rfl
  | cons first _ ih =>
    unfold writeFields
    rw [if_pos rfl, first.written, ih]
    rfl

end EncodedAll

/-- Among fields with distinct names, none of which has the name of an earlier one among its
aliases, a name finds its own field. -/
theorem schemaOfField_of_mem {fields : List (Field × Schema)}
    (names : (fields.map (·.1.name)).Nodup)
    (unshadowed : fields.Pairwise fun e e' => e.1.name ∉ e'.1.aliases)
    {e : Field × Schema} (he : e ∈ fields) : schemaOfField fields e.1.name = some e.2 := by
  obtain ⟨before, after, rfl⟩ := List.append_of_mem he
  -- The last field with the name is wanted, and no later one has it.
  have hafter : ∀ e' ∈ after, e'.1.name ≠ e.1.name ∧ e.1.name ∉ e'.1.aliases := by
    intro e' he'
    have hlater {R : Field × Schema → Field × Schema → Prop}
        (h : (before ++ e :: after).Pairwise R) : R e e' :=
      (List.pairwise_cons.1 (List.pairwise_append.1 h).2.1).1 e' he'
    exact ⟨(hlater (List.pairwise_map.1 names)).symm, hlater unshadowed⟩
  unfold schemaOfField
  rw [List.reverse_append, List.reverse_cons, List.append_assoc, List.find?_append,
    List.find?_eq_none.2 fun e' he' => ?_]
  · simp
  · simp [hafter e' (List.mem_reverse.1 he')]

theorem unshadowed_of_noAliases {fields : List (Field × Schema)}
    (noAliases : ∀ e ∈ fields, e.1.aliases = []) :
    fields.Pairwise fun e e' => e.1.name ∉ e'.1.aliases :=
  List.pairwise_of_forall_mem_list fun _ _ e' he' => by
    rw [noAliases e' he']
    exact List.not_mem_nil

/-- **A record is written as its fields are**, if these can be told apart. -/
theorem Encoded.record {n : Name} {fields : List (Field × Schema)}
    {members : List (String × Json)} {held : List (String × Value)} {b : Bytes}
    (h : EncodedAll ns depth fields members held b) (names : (fields.map (·.1.name)).Nodup)
    (noAliases : ∀ e ∈ fields, e.1.aliases = []) :
    Encoded ns (depth + 1) (.record n fields) (.object members) (.record held) b where
  resolved := by
    rw [resolve_record, h.resolveFields_eq, Option.map_some]
    rintro ⟨name, j⟩ hm
    exact (Table.mem_iff_lookup (by rw [h.map_fst]; exact names)).1 hm
  fitting := by
    unfold fits
    simp only [Names.target, h.length_eq, decide_true, Bool.true_and]
    exact h.fitFields_eq fun e he => schemaOfField_of_mem names (unshadowed_of_noAliases noAliases) he
  written := by
    unfold write
    exact h.writeFields_eq

/-! ## Values that are carried -/

/-- **A JSON value that a schema carries**: it stands for the native value
`v`, whose bytes are `b`, and both the bytes and the native value can be
taken back. -/
structure Carried (ns : Names) (depth : Nat) (s : Schema) (j : Json) (v : Value) (b : Bytes) :
    Prop where
  /-- The JSON value fits the schema, as `v`. -/
  resolved : resolve ns depth s (.ofJson j) = some v
  /-- The native value may be written. -/
  fitting : fits ns v s
  /-- Its bytes. -/
  written : write ns v s = some b
  /-- The bytes read back as it, and not one byte more is taken. -/
  readBack : ∀ rest, read ns depth s (b ++ rest) = some (v, rest)
  /-- The native value shows as the JSON value. -/
  shown : v.toJson? = some j

namespace Carried

theorem encoded {s : Schema} {j : Json} {v : Value} {b : Bytes} (h : Carried ns depth s j v b) :
    Encoded ns depth s j v b :=
  { h with }

theorem null : Carried ns (depth + 1) .null .null .null [] :=
  { Encoded.null with
    readBack _ := rfl
    shown := rfl }

theorem flag (b : Bool) :
    Carried ns (depth + 1) .boolean (.bool b) (.boolean b) [if b then 1 else 0] :=
  { Encoded.flag b with
    readBack _ := by cases b <;> rfl
    shown := rfl }

theorem text {s : String} (h : (Bytes.ofText s).length ≤ lengthLimit) :
    Carried ns (depth + 1) .string (.string s) (.string s) (writeSized (Bytes.ofText s)) :=
  { Encoded.text s with
    readBack rest := readText_writeSized h rest
    shown := rfl }

theorem real {x : Binary64} (h : x.isFinite) :
    Carried ns (depth + 1) .double (.real x) (.double x) x.toBytes :=
  { Encoded.real x with
    readBack rest := by
      have eight : x.toBytes.length = 8 := Bytes.length_littleEndian _ _
      rw [read_double, ← eight, takeExactly_append, Option.map_some, Binary64.ofBytes_toBytes]
    shown := if_pos h }

/-- **A union carries what its branch carries**, if the branch is the one
that the kind of the value asks for. -/
theorem union {branches : List Schema} {i : Nat} {s : Schema} {j : Json} {v : Value} {b : Bytes}
    (h : Carried ns depth s j v b) (branch : branches[i]? = some s)
    (kind : branchOfKind (Value.ofJson j).kind branches = some i) (small : i < 2 ^ 63) :
    Carried ns (depth + 1) (.union branches) j (.union i v) (writeCount i ++ b) :=
  { h.encoded.union branch kind with
    readBack rest := by
      have exact : (Int64.ofNat i).toInt = i := Int64.toInt_ofNat_of_lt small
      unfold writeCount
      rw [read_union, List.append_assoc, readLong_long]
      simp only [exact, Int.toNat_natCast, branch, h.readBack, Option.map_some]
      rw [if_pos (by omega)]
    shown := by
      unfold Value.toJson?
      exact h.shown }

end Carried

/-! ## Records -/

/-- **Members that fields carry**, each field the member in its place. -/
inductive CarriedAll (ns : Names) (depth : Nat) :
    List (Field × Schema) → List (String × Json) → List (String × Value) → Bytes → Prop where
  /-- Nothing is carried in no bytes. -/
  | nil : CarriedAll ns depth [] [] [] []
  /-- The bytes of fields stand one behind the other. -/
  | cons {f : Field} {s : Schema} {j : Json} {v : Value} {b bytes : Bytes}
      {fields : List (Field × Schema)} {members : List (String × Json)}
      {held : List (String × Value)} (first : Carried ns depth s j v b)
      (others : CarriedAll ns depth fields members held bytes) :
      CarriedAll ns depth ((f, s) :: fields) ((f.name, j) :: members) ((f.name, v) :: held)
        (b ++ bytes)

namespace CarriedAll

variable {fields : List (Field × Schema)} {members : List (String × Json)}
  {held : List (String × Value)} {b : Bytes}

theorem encodedAll (h : CarriedAll ns depth fields members held b) :
    EncodedAll ns depth fields members held b := by
  induction h with
  | nil => exact .nil
  | cons first _ ih => exact .cons first.encoded ih

theorem readFields_eq (h : CarriedAll ns depth fields members held b) (rest : Bytes) :
    readFields (read ns depth) fields (b ++ rest) = some (held, rest) := by
  induction h with
  | nil => rfl
  | cons first _ ih =>
    unfold readFields
    rw [List.append_assoc, first.readBack]
    simp only [ih, Option.map_some]

theorem toMembers?_eq (h : CarriedAll ns depth fields members held b) :
    Value.toMembers? held = some members := by
  induction h with
  | nil => rfl
  | cons first _ ih =>
    unfold Value.toMembers?
    rw [first.shown, ih]
    rfl

end CarriedAll

/-- **A record carries an object whose members its fields carry**, if the
fields can be told apart. -/
theorem Carried.record {n : Name} {fields : List (Field × Schema)}
    {members : List (String × Json)} {held : List (String × Value)} {b : Bytes}
    (h : CarriedAll ns depth fields members held b) (names : (fields.map (·.1.name)).Nodup)
    (noAliases : ∀ e ∈ fields, e.1.aliases = []) :
    Carried ns (depth + 1) (.record n fields) (.object members) (.record held) b :=
  { Encoded.record h.encodedAll names noAliases with
    readBack rest := by
      rw [read_record, h.readFields_eq, Option.map_some]
    shown := by
      unfold Value.toJson?
      rw [h.toMembers?_eq, Option.map_some] }

/-! ## Codecs -/

/-- A codec writes what its schema does. -/
theorem Codec.binaryOfJson_eq_ok {c : Codec} {j : Json} {v : Value} {b : Bytes}
    (names : c.schema.names? = some ns) (h : Encoded ns depthLimit c.schema j v b) :
    c.binaryOfJson j = .ok b := by
  have native : c.nativeOfJson j = .ok v := by
    unfold nativeOfJson
    rw [names, Option.bind_some, h.resolved]
  have binary : c.binaryOfNative v = .ok b := by
    unfold binaryOfNative encode
    rw [names, Option.bind_some, if_pos h.fitting, h.written]
  unfold binaryOfJson
  rw [native]
  exact binary

/-- What a codec reads. -/
theorem Codec.jsonOfBinary_eq_ok_iff {c : Codec} {j : Json} {b : Bytes}
    (names : c.schema.names? = some ns) :
    c.jsonOfBinary b = .ok j
      ↔ ∃ v rest, read ns depthLimit c.schema b = some (v, rest) ∧ v.toJson? = some j := by
  unfold jsonOfBinary nativeOfBinary jsonOfNative decode
  rw [names, Option.bind_some]
  cases read ns depthLimit c.schema b with
  | none => simp [bind, Except.bind]
  | some p =>
    obtain ⟨v, rest⟩ := p
    cases hjson : v.toJson? with
    | none => simp [bind, Except.bind, hjson]
    | some j' => simp [bind, Except.bind, hjson]

/-- What a codec does not read is refused for one reason only. -/
theorem Codec.exists_decoding_of_jsonOfBinary {c : Codec} {b : Bytes} {e : WireError}
    (h : c.jsonOfBinary b = .error e) : ∃ reason, e = .decoding reason := by
  unfold jsonOfBinary at h
  cases hnative : c.nativeOfBinary b with
  | error e' =>
    rw [hnative] at h
    obtain rfl := Except.error.inj h
    unfold nativeOfBinary at hnative
    split at hnative
    · cases hnative
    · exact ⟨_, (Except.error.inj hnative).symm⟩
  | ok v =>
    rw [hnative] at h
    have h : jsonOfNative v = .error e := h
    unfold jsonOfNative at h
    split at h
    · cases h
    · exact ⟨_, (Except.error.inj h).symm⟩

/-- **A codec takes over the wire what its schema carries.** -/
theorem Codec.roundTrip {c : Codec} {j : Json} {v : Value} {b : Bytes}
    (names : c.schema.names? = some ns) (h : Carried ns depthLimit c.schema j v b) :
    c.binaryOfJson j = .ok b ∧ c.jsonOfBinary b = .ok j := by
  refine ⟨binaryOfJson_eq_ok names h.encoded, (jsonOfBinary_eq_ok_iff names).2 ⟨v, [], ?_, h.shown⟩⟩
  have whole := h.readBack []
  rwa [List.append_nil] at whole

end CourierDispatch.Avro
