import CourierDispatch.Proofs.Avro.Conforming

/-!
# What is written reads back

The bytes of a value of a schema read back as the value, whatever follows them
(`Conforms.readBack`). Nothing in the bytes says what they are or where they end, so this is
a statement about every layer at once: each must take exactly the bytes that were written
for it. Where reading is lenient because the input ends, it never comes to that: what was
written is all there.

Two things can go wrong. Lengths, counts and places above a limit are written but not read
(`Value.Moderate`). And a byte string of fixed size is written as it is and read by its size,
so it must have that size (`Sized`).
-/

namespace CourierDispatch.Avro

variable {ns : Names} {depth : Nat}

/-! ## Limits -/

namespace Value

/-- No length or count is above the limit for those, and no place above that of its kind. -/
def ModerateHere : Value → Prop
  | bytes b => b.length ≤ lengthLimit
  | decimal b => b.length ≤ lengthLimit
  | string s => (Bytes.ofText s).length ≤ lengthLimit
  | array items => items.length ≤ lengthLimit
  | map entries =>
    entries.length ≤ lengthLimit ∧ ∀ e ∈ entries, (Bytes.ofText e.1).length ≤ lengthLimit
  | enumeration i _ => i < 2 ^ 31
  | union i _ => i < 2 ^ 63
  | _ => True

/-- **A value of moderate size**, in all its parts. -/
def Moderate (v : Value) : Prop := v.All ModerateHere

end Value

/-! ## Sizes -/

/-- The parts of a value, each with its schema. -/
def partsUnder (ns : Names) : Schema → Value → List (Schema × Value)
  | .ref n, v => (ns.find? n).toList.map (·, v)
  | .union branches, .union i v => branches[i]?.toList.map (·, v)
  | .array s, .array items => items.map (s, ·)
  | .map s, .map entries => entries.map (s, ·.2)
  | .record _ fields, .record held => (fields.zip held).map fun p => (p.1.2, p.2.2)
  | _, _ => []

/-- **Every byte string of fixed size has its size**, in all parts of a value. -/
inductive Sized (ns : Names) : Schema → Value → Prop where
  /-- The value has its size, if it has one, and so have its parts. -/
  | intro {s : Schema} {v : Value}
      (self : ∀ n size b, s = .fixed n size → v = .fixed b → b.length = size)
      (parts : ∀ p ∈ partsUnder ns s v, Sized ns p.1 p.2) : Sized ns s v

namespace Sized

theorem parts {s : Schema} {v : Value} (h : Sized ns s v) :
    ∀ p ∈ partsUnder ns s v, Sized ns p.1 p.2 := by
  cases h with
  | intro _ parts => exact parts

theorem fixed {n : Name} {size : Nat} {b : Bytes} (h : Sized ns (.fixed n size) (.fixed b)) :
    b.length = size := by
  cases h with
  | intro self _ => exact self n size b rfl rfl

theorem named {n : Name} {s : Schema} {v : Value} (h : Sized ns (.ref n) v)
    (found : ns.find? n = some s) : Sized ns s v :=
  h.parts (s, v) (by simp [partsUnder, found])

theorem branch {branches : List Schema} {i : Nat} {s : Schema} {v : Value}
    (h : Sized ns (.union branches) (.union i v)) (hs : branches[i]? = some s) : Sized ns s v :=
  h.parts (s, v) (by simp [partsUnder, hs])

theorem item {s : Schema} {items : List Value} (h : Sized ns (.array s) (.array items)) {v : Value}
    (hv : v ∈ items) : Sized ns s v :=
  h.parts (s, v) (List.mem_map_of_mem hv)

theorem entry {s : Schema} {entries : List (String × Value)}
    (h : Sized ns (.map s) (.map entries)) {e : String × Value} (he : e ∈ entries) :
    Sized ns s e.2 :=
  h.parts (s, e.2) (List.mem_map_of_mem he)

theorem field {n : Name} {fields : List (Field × Schema)} {held : List (String × Value)}
    (h : Sized ns (.record n fields) (.record held)) {p : (Field × Schema) × (String × Value)}
    (hp : p ∈ fields.zip held) : Sized ns p.1.2 p.2.2 :=
  h.parts (p.1.2, p.2.2) (List.mem_map_of_mem hp)

end Sized

/-! ## Numbers and byte strings -/

theorem readInt_long (n : Int32) (t : Bytes) : readInt (long n.toInt64 ++ t) = some (n, t) := by
  unfold readInt
  rw [readLong_long]
  dsimp only
  rw [Int32.toInt_toInt64, if_pos ⟨n.le_toInt, n.toInt_lt⟩, Int32.toInt32_toInt64]

/-- A place reads back as the integer that it is. -/
theorem readInt_writeCount {i : Nat} (h : i < 2 ^ 31) (t : Bytes) :
    readInt (writeCount i ++ t) = some (Int32.ofNat i, t) := by
  have wide : Int64.ofNat i = (Int32.ofNat i).toInt64 := by
    rw [← Int64.toInt_inj, Int32.toInt_toInt64, Int32.toInt_ofNat_of_lt h,
      Int64.toInt_ofNat_of_lt (by omega)]
  unfold writeCount
  rw [wide, readInt_long]

theorem readSized_writeSized {b : Bytes} (h : b.length ≤ lengthLimit) (t : Bytes) :
    readSized (writeSized b ++ t) = some (b, t) := by
  unfold readSized writeSized
  rw [List.append_assoc, readLength_writeCount h]
  exact takeExactly_append b t

/-- The text of an identifier is short. -/
theorem length_ofText_toText_le (u : Uuid) : (Bytes.ofText u.toText).length ≤ lengthLimit := by
  refine Nat.le_trans (Bytes.length_ofText_ofList_le _) ?_
  rw [Uuid.length_hyphenate (Uuid.length_digits _ _)]
  decide

/-! ## Blocks -/

section Blocks

variable {α : Type} {item : Bytes → Option (α × Bytes)}

theorem readBlockCount_writeCount {n : Nat} (h : n ≤ lengthLimit) (t : Bytes) :
    readBlockCount (writeCount n ++ t) = some (n, t) := by
  have exact : (Int64.ofNat n).toInt = n := by
    unfold lengthLimit at h
    exact Int64.toInt_ofNat_of_lt (by omega)
  unfold readBlockCount writeCount
  rw [readLong_long]
  dsimp only
  rw [exact, if_pos (by omega), Int.toNat_natCast, if_pos h]

/-- The empty block ends the others. -/
theorem readBlocks_zero (fuel : Nat) (acc : List α) (t : Bytes) :
    readBlocks item (fuel + 1) acc ([0] ++ t) = some (acc.reverse, t) := by
  have zero : ([0] : Bytes) = writeCount 0 := by decide
  unfold readBlocks
  rw [zero, readBlockCount_writeCount (Nat.zero_le _)]

/-- **A block reads back if its items do.** -/
theorem readBlocks_writeBlock {xs : List α} {bytes : Bytes} (small : xs.length ≤ lengthLimit)
    (h : ∀ t, readItems item xs.length [] (bytes ++ t) = some (xs.reverse, t)) (t : Bytes) :
    readBlocks item ((writeBlock xs.length bytes ++ t).length + 1) []
      (writeBlock xs.length bytes ++ t) = some (xs, t) := by
  cases xs with
  | nil => exact readBlocks_zero _ [] t
  | cons x rest =>
    have hblock : writeBlock (x :: rest).length bytes ++ t
        = writeCount (x :: rest).length ++ (bytes ++ ([0] ++ t)) := by
      simp [writeBlock]
    obtain ⟨fuel, hfuel⟩ := Nat.exists_eq_succ_of_ne_zero
      (n := (writeBlock (x :: rest).length bytes ++ t).length) (by simp [writeBlock])
    rw [hfuel, hblock, readBlocks, readBlockCount_writeCount small, List.length_cons]
    dsimp only
    rw [← List.length_cons (a := x), h]
    dsimp only
    rw [readBlocks_zero, List.reverse_reverse]

end Blocks

/-! ## Parts -/

theorem readItems_writeItems (item : Bytes → Option (Value × Bytes)) {s : Schema}
    {items : List Value}
    (each : ∀ v ∈ items, ∀ b, write ns v s = some b → ∀ t, item (b ++ t) = some (v, t)) {b : Bytes}
    (h : writeItems ns items s = some b) (acc : List Value) (t : Bytes) :
    readItems item items.length acc (b ++ t) = some (items.reverse ++ acc, t) := by
  induction items generalizing acc b with
  | nil => cases h; rfl
  | cons v rest ih =>
    obtain ⟨hfirst, hrest⟩ := List.forall_mem_cons.1 each
    unfold writeItems at h
    split at h
    · cases h
    · next b₁ hb₁ =>
      obtain ⟨b₂, hb₂, rfl⟩ := Option.map_eq_some_iff.1 h
      rw [List.length_cons, readItems, List.append_assoc, hfirst b₁ hb₁]
      dsimp only
      rw [ih hrest hb₂, List.reverse_cons, List.append_assoc]
      rfl

/-- Keys and values read back if the values do. -/
theorem readItems_writeEntries {value : Bytes → Option (Value × Bytes)} {s : Schema}
    {entries : List (String × Value)}
    (keys : ∀ e ∈ entries, (Bytes.ofText e.1).length ≤ lengthLimit)
    (each : ∀ e ∈ entries, ∀ b, write ns e.2 s = some b → ∀ t, value (b ++ t) = some (e.2, t))
    {b : Bytes} (h : writeEntries ns entries s = some b) (acc : List (String × Value)) (t : Bytes) :
    readItems (readEntry value) entries.length acc (b ++ t) = some (entries.reverse ++ acc, t) := by
  induction entries generalizing acc b with
  | nil => cases h; rfl
  | cons e rest ih =>
    obtain ⟨hkey, hkeys⟩ := List.forall_mem_cons.1 keys
    obtain ⟨hfirst, hrest⟩ := List.forall_mem_cons.1 each
    unfold writeEntries at h
    split at h
    · cases h
    · next b₁ hb₁ =>
      obtain ⟨b₂, hb₂, rfl⟩ := Option.map_eq_some_iff.1 h
      have hentry : readEntry value (writeSized (Bytes.ofText e.1) ++ (b₁ ++ (b₂ ++ t)))
          = some (e, b₂ ++ t) := by
        unfold readEntry
        rw [readText_writeSized hkey]
        dsimp only
        rw [hfirst b₁ hb₁]
        rfl
      rw [List.length_cons, readItems, List.append_assoc, List.append_assoc, hentry]
      dsimp only
      rw [ih hkeys hrest hb₂, List.reverse_cons, List.append_assoc]
      rfl

/-- Fields read back, each under its own name, if their values do. -/
theorem readFields_writeFields {again : Schema → Bytes → Option (Value × Bytes)}
    {fields : List (Field × Schema)} {held : List (String × Value)}
    (each : ∀ p ∈ fields.zip held, ∀ b, write ns p.2.2 p.1.2 = some b →
      ∀ t, again p.1.2 (b ++ t) = some (p.2.2, t)) {b : Bytes}
    (h : writeFields ns held fields = some b) (t : Bytes) :
    readFields again fields (b ++ t) = some (held, t) := by
  induction fields generalizing held b with
  | nil =>
    cases held with
    | nil => cases h; rfl
    | cons => cases h
  | cons e rest ih =>
    cases held with
    | nil => cases h
    | cons e' held =>
      obtain ⟨hfirst, hrest⟩ := List.forall_mem_cons.1 each
      unfold writeFields at h
      split at h
      · next hname =>
        split at h
        · cases h
        · next b₁ hb₁ =>
          obtain ⟨b₂, hb₂, rfl⟩ := Option.map_eq_some_iff.1 h
          unfold readFields
          rw [List.append_assoc, hfirst b₁ hb₁]
          dsimp only
          rw [ih hrest hb₂, Option.map_some, ← hname]
      · cases h

/-- A value is written under a name as under what the name stands for. -/
theorem write_ref {P : Schema → Prop} (names : ns.All P) {n : Name} {s : Schema}
    (found : ns.find? n = some s) (v : Value) : write ns v (.ref n) = write ns v s := by
  have htarget : ns.target (.ref n) = ns.target s := by
    rw [names.target_eq found, Names.target, found, Option.getD_some]
  cases v <;> simp only [write, htarget]

/-! ## Values -/

theorem read_long (b : Bytes) :
    read ns (depth + 1) .long b =
      match readLong b with
      | .error _ => none
      | .ok (n, rest) => some (.long n, rest) := rfl

theorem read_float (b : Bytes) :
    read ns (depth + 1) .float b =
      (takeExactly 4 b).map fun p => (.float (Binary32.ofBytes p.1), p.2) := rfl

theorem read_fixed (n : Name) (size : Nat) (b : Bytes) :
    read ns (depth + 1) (.fixed n size) b =
      (takeExactly size b).map fun p => (.fixed p.1, p.2) := rfl

theorem read_enumeration (n : Name) (symbols : List String) (default : Option String) (b : Bytes) :
    read ns (depth + 1) (.enumeration n symbols default) b =
      match readInt b with
      | none => none
      | some (i, rest) =>
        if 0 ≤ i.toInt then
          symbols[i.toInt.toNat]?.map fun s => (.enumeration i.toInt.toNat s, rest)
        else none := rfl

theorem read_array (s : Schema) (b : Bytes) :
    read ns (depth + 1) (.array s) b =
      (readBlocks (read ns depth s) (b.length + 1) [] b).map fun p => (.array p.1, p.2) := rfl

theorem read_map (s : Schema) (b : Bytes) :
    read ns (depth + 1) (.map s) b =
      (readBlocks (readEntry (read ns depth s)) (b.length + 1) [] b).map fun p =>
        (.map (p.1.foldl (fun acc e => Table.write e.1 e.2 acc) []), p.2) := rfl

theorem read_decimalFixed (precision scale : Nat) (n : Name) (size : Nat) (b : Bytes) :
    read ns (depth + 1) (.decimal precision scale (.fixed n size)) b =
      (takeExactly size b).map fun p => (.decimal p.1, p.2) := rfl

theorem read_duration (b : Bytes) :
    read ns (depth + 1) .duration b = (takeExactly 12 b).map fun p => (.duration p.1, p.2) := rfl

theorem read_uuid (b : Bytes) :
    read ns (depth + 1) .uuid b =
      match readText b with
      | some (.string s, rest) => (Uuid.parse? s).map fun u => (.uuid u, rest)
      | _ => none := rfl

theorem read_longTime (kind : LongTime) (b : Bytes) :
    read ns (depth + 1) (.longTime kind) b =
      match readLong b with
      | .error _ => none
      | .ok (n, rest) => some (.longTime kind n, rest) := rfl

theorem read_ref {n : Name} {s : Schema} (found : ns.find? n = some s) (b : Bytes) :
    read ns (depth + 1) (.ref n) b = read ns depth s b := by
  show (ns.find? n).bind _ = _
  rw [found, Option.bind_some]

/-- **The bytes of a value of a schema read back as the value**, whatever follows them, if
they are of moderate size and all byte strings of fixed size have theirs. -/
theorem Conforms.readBack {P : Schema → Prop} (names : ns.All P) {s : Schema} {v : Value}
    (h : Conforms ns depth s v) (moderate : v.Moderate) (sized : Sized ns s v) {b : Bytes}
    (written : write ns v s = some b) (t : Bytes) :
    read ns depth s (b ++ t) = some (v, t) := by
  induction h generalizing b t with
  | null => cases written; rfl
  | boolean x => cases written; cases x <;> rfl
  | int n =>
    cases written
    exact congrArg (Option.map _) (readInt_long n t)
  | long n =>
    cases written
    rw [read_long, readLong_long]
  | float x =>
    cases written
    have four : x.toBytes.length = 4 := Bytes.length_littleEndian _ _
    rw [read_float, ← four, takeExactly_append, Option.map_some, Binary32.ofBytes_toBytes]
  | double x =>
    cases written
    have eight : x.toBytes.length = 8 := Bytes.length_littleEndian _ _
    rw [read_double, ← eight, takeExactly_append, Option.map_some, Binary64.ofBytes_toBytes]
  | bytes x =>
    cases written
    exact congrArg (Option.map _) (readSized_writeSized moderate.self t)
  | string x =>
    cases written
    exact readText_writeSized moderate.self t
  | fixed n size x =>
    cases written
    rw [read_fixed, ← sized.fixed, takeExactly_append, Option.map_some]
  | enumeration n default place =>
    cases written
    rw [read_enumeration, readInt_writeCount moderate.self]
    dsimp only
    rw [Int32.toInt_ofNat_of_lt moderate.self, if_pos (Int.natCast_nonneg _), Int.toNat_natCast,
      place, Option.map_some]
  | @union _ branches i s v branch inner ih =>
    unfold write at written
    simp only [Names.target, branch] at written
    obtain ⟨bytes, hbytes, rfl⟩ := Option.map_eq_some_iff.1 written
    have exact : (Int64.ofNat i).toInt = i := Int64.toInt_ofNat_of_lt moderate.self
    unfold writeCount
    rw [read_union, List.append_assoc, readLong_long]
    dsimp only
    rw [exact, if_pos (Int.natCast_nonneg _), Int.toNat_natCast, branch]
    dsimp only
    rw [ih moderate.branch (sized.branch branch) hbytes, Option.map_some]
  | @array _ s items each ih =>
    obtain ⟨bytes, hbytes, rfl⟩ := Option.map_eq_some_iff.1 written
    have hitems := readItems_writeItems (read ns _ s)
      (fun v hv b hb t => ih v hv (moderate.parts v hv) (sized.item hv) hb t) hbytes []
    rw [List.append_nil] at hitems
    rw [read_array, readBlocks_writeBlock moderate.self hitems, Option.map_some]
  | @map _ s entries keys each ih =>
    obtain ⟨bytes, hbytes, rfl⟩ := Option.map_eq_some_iff.1 written
    have hentries := readItems_writeEntries moderate.self.2
      (fun e he b hb t => ih e he (moderate.entry he) (sized.entry he) hb t) hbytes []
    rw [List.append_nil] at hentries
    rw [read_map, readBlocks_writeBlock moderate.self.1 hentries, Option.map_some,
      Table.foldl_write (by simpa using keys), List.nil_append]
  | @record _ n fields held _ each ih =>
    have hfields := readFields_writeFields (fun p hp b hb t =>
      ih p hp (moderate.field (List.of_mem_zip hp).2) (sized.field hp) hb t) written t
    rw [read_record, hfields, Option.map_some]
  | decimalFixed precision scale n size x =>
    obtain ⟨rfl, ⟨⟩⟩ := Option.ite_none_right_eq_some.1 written
    rw [read_decimalFixed, takeExactly_append, Option.map_some]
  | decimalBytes precision scale x =>
    cases written
    exact congrArg (Option.map _) (readSized_writeSized moderate.self t)
  | duration twelve =>
    cases written
    rw [read_duration, ← twelve, takeExactly_append, Option.map_some]
  | uuid u =>
    obtain rfl : writeSized (Bytes.ofText u.toText) = b := Option.some.inj written
    rw [read_uuid, readText_writeSized (length_ofText_toText_le u)]
    dsimp only
    rw [Uuid.parse?_toText, Option.map_some]
  | shortTime kind n =>
    cases written
    exact congrArg (Option.map _) (readInt_long n t)
  | longTime kind n =>
    cases written
    rw [read_longTime, readLong_long]
  | ref found inner ih =>
    rw [read_ref found]
    exact ih moderate (sized.named found) (write_ref names found _ ▸ written) t

end CourierDispatch.Avro
