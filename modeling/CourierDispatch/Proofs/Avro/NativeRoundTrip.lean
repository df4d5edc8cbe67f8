import CourierDispatch.Proofs.Avro.Sizes

/-!
# The round trip of a codec

Over all schema texts and all JSON values: what a codec makes of a JSON value and writes, it
reads back, whatever follows the bytes, exactly if every byte string of fixed size has its
size (`Codec.nativeOfBinary_append`). The check before writing sees to that, unless a record
of the schema has a field that hides another (`Schema.Unshadowed`); then the check may let a
byte string of the wrong size through, and the bytes read as another value
(`Codec.nativeOfBinary_hiddenField`).

Maps have no order, so a value may be written with its maps in any order; it reads back in
the order in which it was written.
-/

namespace CourierDispatch.Avro.Codec

variable {c : Codec}

/-! ## What the steps of a codec come to -/

theorem sound_of_compile {text : String} (h : compile text = .ok c) : c.schema.Sound := by
  unfold compile at h
  split at h
  · next schema hschema =>
    cases h
    exact Schema.sound_ofText? hschema
  · cases h

theorem nativeOfJson_eq_ok {j : Json} {v : Value} (h : c.nativeOfJson j = .ok v) :
    ∃ ns, c.schema.names? = some ns ∧ resolve ns depthLimit c.schema (.ofJson j) = some v := by
  unfold nativeOfJson at h
  split at h
  · next hv =>
    cases h
    exact Option.bind_eq_some_iff.1 hv
  · cases h

theorem binaryOfNative_eq_ok {ns : Names} (names : c.schema.names? = some ns) {v : Value}
    {b : Bytes} (h : c.binaryOfNative v = .ok b) :
    fits ns v c.schema ∧ write ns v c.schema = some b := by
  unfold binaryOfNative at h
  rw [names, Option.bind_some] at h
  split at h
  · next hb =>
    cases h
    exact Option.ite_none_right_eq_some.1 hb
  · cases h

theorem nativeOfBinary_eq_ok_iff {ns : Names} (names : c.schema.names? = some ns) {b : Bytes}
    {v : Value} :
    c.nativeOfBinary b = .ok v ↔ ∃ rest, read ns depthLimit c.schema b = some (v, rest) := by
  unfold nativeOfBinary decode
  rw [names, Option.bind_some]
  cases read ns depthLimit c.schema b with
  | none => simp
  | some p => simp [Prod.ext_iff]

/-! ## The round trip -/

/-- **Every byte string of fixed size has its size** in a native value of a codec. -/
def Sized (c : Codec) (v : Value) : Prop :=
  ∃ ns, c.schema.names? = some ns ∧ Avro.Sized ns c.schema v

/-- **What is written reads back**, whatever follows it, exactly if all byte strings of fixed
size have their sizes; and that is so if the schema has no field that hides another. -/
theorem nativeOfBinary_append {text : String} {j : Json} {v w : Value} {b : Bytes}
    (compiled : compile text = .ok c) (proper : j.Proper) (native : c.nativeOfJson j = .ok v)
    (order : v.Same w) (binary : c.binaryOfNative w = .ok b) (moderate : w.Moderate) (t : Bytes) :
    (c.nativeOfBinary (b ++ t) = .ok w ↔ c.Sized w) ∧
      (c.schema.Unshadowed → c.nativeOfBinary (b ++ t) = .ok w) := by
  have hsound := sound_of_compile compiled
  obtain ⟨ns, names, hresolved⟩ := nativeOfJson_eq_ok native
  have hnames := hsound.names? names
  have hconforms : Conforms ns depthLimit c.schema w :=
    (conforms_resolve hnames hsound (Value.regular_ofJson proper) hresolved).same order
  obtain ⟨hfits, hwritten⟩ := binaryOfNative_eq_ok names binary
  have hback (hsized : Avro.Sized ns c.schema w) : c.nativeOfBinary (b ++ t) = .ok w :=
    (nativeOfBinary_eq_ok_iff names).2 ⟨t, hconforms.readBack hnames moderate hsized hwritten t⟩
  refine ⟨⟨fun hread => ?_, fun hsized => ?_⟩, fun hunshadowed => ?_⟩
  · obtain ⟨_, hread⟩ := (nativeOfBinary_eq_ok_iff names).1 hread
    exact ⟨ns, names, sized_of_read hnames hread⟩
  · obtain ⟨ns', names', hsized⟩ := hsized
    obtain rfl : ns = ns' := Option.some.inj (names.symm.trans names')
    exact hback hsized
  · have hfound := hsound.found hunshadowed
    exact hback (hconforms.sized (hfound.names? names) hfound hfits)

/-! ### Shelves that stand behind each other -/

/-- A recursive schema: a tag of two bytes, counts by text, and perhaps a shelf behind. -/
def shelf : Codec where
  schema := .record ⟨"Shelf", none⟩
    [(⟨"tag", [], none⟩, .fixed ⟨"Tag", none⟩ 2), (⟨"counts", [], none⟩, .map .long),
      (⟨"next", [], some .null⟩, .union [.null, .ref ⟨"Shelf", none⟩])]
  text := "\x7b\"type\":\"record\",\"name\":\"Shelf\",\"fields\":[" ++
    "\x7b\"name\":\"tag\",\"type\":\x7b\"type\":\"fixed\",\"name\":\"Tag\",\"size\":2\x7d\x7d," ++
    "\x7b\"name\":\"counts\",\"type\":\x7b\"type\":\"map\",\"values\":\"long\"\x7d\x7d," ++
    "\x7b\"name\":\"next\",\"type\":[\"null\",\"Shelf\"],\"default\":null\x7d]\x7d"

/-- Its text as a JSON value. -/
def shelfJson : Json :=
  .object [("type", .string "record"), ("name", .string "Shelf"), ("fields", .array [
    .object [("name", .string "tag"), ("type", .object [("type", .string "fixed"),
      ("name", .string "Tag"), ("size", .integer 2)])],
    .object [("name", .string "counts"), ("type", .object [("type", .string "map"),
      ("values", .string "long")])],
    .object [("name", .string "next"), ("type", .array [.string "null", .string "Shelf"]),
      ("default", .null)]])]

set_option maxRecDepth 100000 in
theorem compile_shelf : compile shelf.text = .ok shelf := by
  have text : Json.ofText? shelf.text = some shelfJson := by rfl
  have schema : Schema.ofJson? shelfJson = some shelf.schema := by rfl
  unfold compile Schema.ofText?
  rw [text, Option.bind_some, schema]

/-- Two shelves, the first with two counts. -/
def shelves : Json :=
  .object [("tag", .string "xy"), ("counts", .object [("a", .integer 1), ("b", .integer (-1))]),
    ("next", .object [("tag", .string "é"), ("counts", .object [])])]

/-- Their native value, with the counts in some order. -/
def shelvesCounting (counts : List (String × Value)) : Value :=
  .record [("tag", .fixed [120, 121]), ("counts", .map counts),
    ("next", .union 1 (.record [("tag", .fixed [195, 169]), ("counts", .map []),
      ("next", .union 0 .null)]))]

theorem proper_shelves : shelves.Proper := by
  have counts : ∀ m ∈ [("a", Json.integer 1), ("b", .integer (-1))], m.2.Proper := by
    simp [Json.Proper.integer]
  have next : ∀ m ∈ [("tag", Json.string "é"), ("counts", .object [])], m.2.Proper := by
    simp [Json.Proper.string, Json.Proper.object]
  refine .object (by decide) ?_
  simp [Json.Proper.string, Json.Proper.object (by decide) counts,
    Json.Proper.object (by decide) next]

theorem moderate_shelvesCounting :
    (shelvesCounting [("b", .long (-1)), ("a", .long 1)]).Moderate := by
  have leaf (v : Value) (here : v.ModerateHere) (h : v.parts = []) : v.Moderate :=
    Value.all_leaf here h
  have counts : (Value.map [("b", .long (-1)), ("a", .long 1)]).Moderate :=
    .intro ⟨by decide, by decide⟩ (List.forall_mem_cons.2
      ⟨leaf (.long (-1)) trivial rfl, List.forall_mem_singleton.2 (leaf (.long 1) trivial rfl)⟩)
  have last : (Value.union 0 .null).Moderate :=
    .intro (by decide : 0 < 2 ^ 63) (List.forall_mem_singleton.2 (leaf .null trivial rfl))
  have next : (Value.record [("tag", .fixed [195, 169]), ("counts", .map []),
      ("next", .union 0 .null)]).Moderate :=
    .intro trivial (List.forall_mem_cons.2 ⟨leaf (.fixed [195, 169]) trivial rfl,
      List.forall_mem_cons.2 ⟨leaf (.map []) ⟨by decide, by decide⟩ rfl,
        List.forall_mem_singleton.2 last⟩⟩)
  exact .intro trivial (List.forall_mem_cons.2 ⟨leaf (.fixed [120, 121]) trivial rfl,
    List.forall_mem_cons.2 ⟨counts, List.forall_mem_singleton.2
      (.intro (by decide : 1 < 2 ^ 63) (List.forall_mem_singleton.2 next))⟩⟩)

theorem unshadowed_shelf : shelf.schema.Unshadowed := by
  have leaf (s : Schema) (here : s.UnshadowedHere) (h : s.parts = []) : s.Unshadowed :=
    .intro here (by rw [h]; nofun)
  have counts : (Schema.map .long).Unshadowed :=
    .intro trivial (List.forall_mem_singleton.2 (leaf .long trivial rfl))
  have next : (Schema.union [.null, .ref ⟨"Shelf", none⟩]).Unshadowed :=
    .intro trivial (List.forall_mem_cons.2 ⟨leaf .null trivial rfl,
      List.forall_mem_singleton.2 (leaf (.ref ⟨"Shelf", none⟩) trivial rfl)⟩)
  refine .intro ?_ (List.forall_mem_cons.2 ⟨leaf (.fixed ⟨"Tag", none⟩ 2) trivial rfl,
    List.forall_mem_cons.2 ⟨counts, List.forall_mem_singleton.2 next⟩⟩)
  simp [shelf, Schema.UnshadowedHere]

theorem same_shelvesCounting : (shelvesCounting [("a", .long 1), ("b", .long (-1))]).Same
    (shelvesCounting [("b", .long (-1)), ("a", .long 1)]) := by
  have counts : (Value.map [("a", .long 1), ("b", .long (-1))]).Same
      (.map [("b", .long (-1)), ("a", .long 1)]) :=
    .map rfl (by simp [Value.Same.refl]) (.swap _ _ [])
  exact .record rfl (by simp [Value.Same.refl, counts])

/-- Two shelves read back with the counts in the order in which they were written. -/
theorem nativeOfBinary_append_shelves :
    compile shelf.text = .ok shelf ∧ shelves.Proper ∧
      shelf.nativeOfJson shelves = .ok (shelvesCounting [("a", .long 1), ("b", .long (-1))]) ∧
      (shelvesCounting [("a", .long 1), ("b", .long (-1))]).Same
        (shelvesCounting [("b", .long (-1)), ("a", .long 1)]) ∧
      shelf.binaryOfNative (shelvesCounting [("b", .long (-1)), ("a", .long 1)])
        = .ok [120, 121, 4, 2, 98, 1, 2, 97, 2, 0, 2, 195, 169, 0, 0] ∧
      (shelvesCounting [("b", .long (-1)), ("a", .long 1)]).Moderate ∧
      shelf.schema.Unshadowed ∧
      ∀ t, shelf.nativeOfBinary ([120, 121, 4, 2, 98, 1, 2, 97, 2, 0, 2, 195, 169, 0, 0] ++ t)
        = .ok (shelvesCounting [("b", .long (-1)), ("a", .long 1)]) := by
  have native : shelf.nativeOfJson shelves
      = .ok (shelvesCounting [("a", .long 1), ("b", .long (-1))]) := by rfl
  have binary : shelf.binaryOfNative (shelvesCounting [("b", .long (-1)), ("a", .long 1)])
      = .ok [120, 121, 4, 2, 98, 1, 2, 97, 2, 0, 2, 195, 169, 0, 0] := by rfl
  exact ⟨compile_shelf, proper_shelves, native, same_shelvesCounting, binary,
    moderate_shelvesCounting, unshadowed_shelf, fun t =>
      (nativeOfBinary_append compile_shelf proper_shelves native same_shelvesCounting binary
        moderate_shelvesCounting t).2 unshadowed_shelf⟩

/-! ### A field that hides another -/

/-- Two byte strings, of which the second goes by the name of the first as well. -/
def pair : Codec where
  schema := .record ⟨"Pair", none⟩
    [(⟨"a", [], none⟩, .fixed ⟨"One", none⟩ 1), (⟨"b", ["a"], none⟩, .fixed ⟨"Two", none⟩ 2)]
  text := "\x7b\"type\":\"record\",\"name\":\"Pair\",\"fields\":[" ++
    "\x7b\"name\":\"a\",\"type\":\x7b\"type\":\"fixed\",\"name\":\"One\",\"size\":1\x7d\x7d," ++
    "\x7b\"name\":\"b\",\"aliases\":[\"a\"],\"type\":" ++
    "\x7b\"type\":\"fixed\",\"name\":\"Two\",\"size\":2\x7d\x7d]\x7d"

set_option maxRecDepth 100000 in
theorem compile_pair : compile pair.text = .ok pair := by rfl

/-- **A hidden field breaks the round trip.** Two bytes for a field of one byte pass the
check, as it takes them for the field of two bytes that hides it; they are written, and what
is read has one byte there and the bytes of the other field moved up. -/
theorem nativeOfBinary_hiddenField :
    ¬ ∀ (text : String) (c : Codec) (j : Json) (v : Value) (b t : Bytes),
      compile text = .ok c → j.Proper → c.nativeOfJson j = .ok v →
        c.binaryOfNative v = .ok b → v.Moderate → c.nativeOfBinary (b ++ t) = .ok v := by
  intro claimed
  have proper : (Json.object [("a", .string "xy"), ("b", .string "xy")]).Proper :=
    .object (by decide) (by simp [Json.Proper.string])
  have native : pair.nativeOfJson (.object [("a", .string "xy"), ("b", .string "xy")])
      = .ok (.record [("a", .fixed [120, 121]), ("b", .fixed [120, 121])]) := by rfl
  have binary : pair.binaryOfNative (.record [("a", .fixed [120, 121]), ("b", .fixed [120, 121])])
      = .ok [120, 121, 120, 121] := by rfl
  have moderate :
      (Value.record [("a", .fixed [120, 121]), ("b", .fixed [120, 121])]).Moderate :=
    .intro trivial (List.forall_mem_cons.2 ⟨Value.all_leaf trivial rfl,
      List.forall_mem_singleton.2 (Value.all_leaf trivial rfl)⟩)
  have misread : pair.nativeOfBinary ([120, 121, 120, 121] ++ [])
      = .ok (.record [("a", .fixed [120]), ("b", .fixed [121, 120])]) := by rfl
  have back := claimed pair.text pair _ _ _ [] compile_pair proper native binary moderate
  rw [misread] at back
  cases back

end CourierDispatch.Avro.Codec
