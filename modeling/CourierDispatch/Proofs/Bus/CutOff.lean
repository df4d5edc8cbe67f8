import CourierDispatch.Proofs.Avro.Truncation
import CourierDispatch.Proofs.Bus.WireRoundTrip

/-!
# Messages cut off

A consumer acts on whatever decodes and reads as a message of its topic. Of a message
that was cut off on the way this should never be the case, and for announcements of
orders and for position reports it is not: wherever the cut is, decoding fails, or what
is decoded has null in place of a text, which the message type refuses.

A validation fact ends in two texts that may be missing, the courier and the reason.
Cut off in one of them or in front of it, the fact decodes as one without a reason, and
without a courier if that is where the cut is (`MessageKind.read_cutOff`). There is a
cut that does this to each fact that can be sent.
-/

namespace CourierDispatch

open Avro (Layout CutOff)

namespace MessageKind

/-- **Messages whose texts fit into memory.** Their lengths have a sign and sixty-three
bits. -/
def InMemory : (k : MessageKind) → k.Message → Prop
  | order, m => m.event.utf8ByteSize < 2 ^ 63 ∧ m.orderId.utf8ByteSize < 2 ^ 63
  | validation, m => m.serviceName.utf8ByteSize < 2 ^ 63 ∧ m.orderId.utf8ByteSize < 2 ^ 63 ∧
      (∀ courier ∈ m.courierId, courier.utf8ByteSize < 2 ^ 63) ∧
      ∀ reason ∈ m.error, reason.utf8ByteSize < 2 ^ 63
  | position, m => m.courierId.utf8ByteSize < 2 ^ 63

/-- **What a message may be taken for** when it is cut off: a validation fact for one
without its last texts. -/
def shortened : (k : MessageKind) → k.Message → List k.Message
  | order, _ => []
  | validation, m => [{ m with courierId := none, error := none }, { m with error := none }]
  | position, _ => []

/-! ## What is written -/

theorem fills_ofOptionalString {s : Option String} (h : ∀ t ∈ s, t.utf8ByteSize < 2 ^ 63) :
    Layout.optionalText.Fills (Json.ofOptionalString s) := by
  cases s with
  | none => exact trivial
  | some t => exact h t rfl

/-- A number that has no JSON form is not written. -/
theorem isFinite_of_resolve {ns : Avro.Names} {depth : Nat} {s : Avro.Schema} {x : Binary64}
    {v : Avro.Value} (same : Layout.real.describes s)
    (h : Avro.resolve ns depth s (.ofJson (Json.ofReal x)) = some v) : x.isFinite := by
  unfold Json.ofReal at h
  split at h
  · assumption
  · cases s with
    | double =>
      cases depth with
      | zero => cases h
      | succ depth => cases h
    | _ => cases same

theorem fills_ofReal {x : Binary64} (h : x.isFinite) : Layout.real.Fills (Json.ofReal x) := by
  rw [Json.ofReal, if_pos h]
  exact h

/-- **Messages that are written are laid out as their kind says**, if their texts fit
into memory. -/
theorem fills_toJson {k : MessageKind} {m : k.Message} (inMemory : k.InMemory m) {c : Avro.Codec}
    (same : k.layout.describes c.schema) {b : Bytes} (written : c.binaryOfJson (k.toJson m) = .ok b) :
    k.layout.Fills (k.toJson m) := by
  cases k with
  | order => exact ⟨rfl, inMemory.1, rfl, ⟨rfl, inMemory.2, trivial⟩, trivial⟩
  | validation =>
    obtain ⟨service, order, courier, error⟩ := inMemory
    exact ⟨rfl, trivial, rfl, service, rfl, order, rfl,
      ⟨rfl, fills_ofOptionalString courier, trivial⟩, rfl, fills_ofOptionalString error, trivial⟩
  | position =>
    obtain ⟨courierId, latitude, longitude, createdAt⟩ : CourierLocationMessage := m
    have finite : ∀ name x, (name, Layout.real) ∈ [("courier_id", Layout.text), ("latitude", .real),
          ("longitude", .real), ("created_at", .text)] →
        Table.lookup name [("courier_id", Json.string courierId), ("latitude", Json.ofReal latitude),
          ("longitude", Json.ofReal longitude), ("created_at", .string createdAt.toText)]
          = some (Json.ofReal x) → x.isFinite := by
      intro name x hpart hx
      obtain ⟨ns, depth, s, v, hdescribes, hresolve⟩ :=
        Layout.exists_resolve_of_written same written hpart hx
      exact isFinite_of_resolve hdescribes hresolve
    have short : createdAt.toText.utf8ByteSize < 2 ^ 63 :=
      Nat.lt_of_le_of_lt (textFits_toText createdAt) (by decide)
    exact ⟨rfl, inMemory, rfl, fills_ofReal (finite "latitude" latitude (by simp) rfl), rfl,
      fills_ofReal (finite "longitude" longitude (by simp) rfl), rfl, short, trivial⟩

/-! ## What is read -/

/-- What is decoded of a message that is cut off, where it is no message any more: an
identifier or a timestamp is missing. -/
def torn : (k : MessageKind) → k.Message → List Json
  | order, m => [.object [("event", .string m.event), ("payload", .object [("order_id", .null)])]]
  | validation, m => [.object [("is_successful", .bool m.isSuccessful),
      ("service_name", .string m.serviceName), ("order_id", .null),
      ("payload", .object [("courier_id", .null)]), ("error", .null)]]
  | position, m => [.object [("courier_id", .string m.courierId),
      ("latitude", Json.ofReal m.latitude), ("longitude", Json.ofReal m.longitude),
      ("created_at", .null)]]

/-- **All that is decoded of a message that is cut off.** -/
theorem cuts_toJson (k : MessageKind) (m : k.Message) :
    k.layout.cuts (k.toJson m) = k.torn m ++ (k.shortened m).map k.toJson := by
  cases k with
  | order => rfl
  | validation => rfl
  | position => rfl

/-- A position report has a timestamp. -/
theorem CourierLocationMessage.ofJson?_of_null (courierId : String) (latitude longitude : Json) :
    CourierLocationMessage.ofJson? (.object [("courier_id", .string courierId),
      ("latitude", latitude), ("longitude", longitude), ("created_at", .null)]) = none := by
  unfold CourierLocationMessage.ofJson? Json.record?
  simp [Table.lookup]

theorem ofJson?_of_mem_torn {k : MessageKind} {m : k.Message} {j : Json} (hj : j ∈ k.torn m) :
    k.ofJson? j = none := by
  cases k with
  | order =>
    obtain rfl := List.mem_singleton.1 hj
    rfl
  | validation =>
    obtain rfl := List.mem_singleton.1 hj
    rfl
  | position =>
    obtain ⟨courierId, latitude, longitude, createdAt⟩ : CourierLocationMessage := m
    obtain rfl := List.mem_singleton.1 hj
    exact CourierLocationMessage.ofJson?_of_null courierId (Json.ofReal latitude) (Json.ofReal longitude)

theorem ofJson?_of_mem_shortened {k : MessageKind} {m m' : k.Message} (hm' : m' ∈ k.shortened m) :
    k.ofJson? (k.toJson m') = some m' := by
  cases k with
  | order => cases hm'
  | validation => exact OrderValidationMessage.ofJson?_toJson m'
  | position => cases hm'

/-- **What reads as a message, of what is decoded of a message that is cut off**, is the
message shortened. -/
theorem mem_shortened_of_mem_cuts {k : MessageKind} {m m' : k.Message} {j : Json}
    (hj : j ∈ k.layout.cuts (k.toJson m)) (h : k.ofJson? j = some m') : m' ∈ k.shortened m := by
  rw [cuts_toJson] at hj
  rcases List.mem_append.1 hj with hj | hj
  · rw [ofJson?_of_mem_torn hj] at h
    cases h
  · obtain ⟨m'', hm'', rfl⟩ := List.mem_map.1 hj
    rw [ofJson?_of_mem_shortened hm''] at h
    exact Option.some.inj h ▸ hm''

/-- **A validation fact can be cut off so that it is taken for each of the facts
without its last texts.** -/
theorem exists_cutOff_validation {m : OrderValidationMessage} (sendable : validation.Sendable m)
    {c : Avro.Codec} (same : validation.layout.describes c.schema)
    (usable : c.schema.names?.isSome) {b : Bytes} (written : c.binaryOfJson m.toJson = .ok b)
    {m' : OrderValidationMessage} (hm' : m' ∈ validation.shortened m) :
    ∃ p, CutOff p b ∧ c.jsonOfBinary p = .ok m'.toJson := by
  obtain ⟨service, order, courier, error⟩ := sendable
  have reason : Layout.FillsAll [("error", .optionalText)] [("error", Json.ofOptionalString m.error)] :=
    ⟨rfl, fills_ofOptionalString fun t ht => Nat.lt_of_le_of_lt (error t ht) (by decide), trivial⟩
  rcases List.mem_cons.1 hm' with rfl | hm'
  · -- the cut is in front of the courier
    have known : Layout.HoldsAll [("is_successful", .flag), ("service_name", .text), ("order_id", .text)]
        [("is_successful", .bool m.isSuccessful), ("service_name", .string m.serviceName),
          ("order_id", .string m.orderId)] := ⟨rfl, trivial, rfl, service, rfl, order, trivial⟩
    have lost : Layout.FillsAll [("payload", .record [("courier_id", .optionalText)]),
          ("error", .optionalText)]
        [("payload", .object [("courier_id", Json.ofOptionalString m.courierId)]),
          ("error", Json.ofOptionalString m.error)] :=
      ⟨rfl, ⟨rfl, fills_ofOptionalString fun t ht => Nat.lt_of_le_of_lt (courier t ht) (by decide),
        trivial⟩, reason⟩
    exact Layout.exists_cutOff known lost rfl rfl same usable validation.height_layout_le written
  · -- the cut is in front of the reason
    obtain rfl := List.mem_singleton.1 hm'
    have known : Layout.HoldsAll [("is_successful", .flag), ("service_name", .text),
          ("order_id", .text), ("payload", .record [("courier_id", .optionalText)])]
        [("is_successful", .bool m.isSuccessful), ("service_name", .string m.serviceName),
          ("order_id", .string m.orderId),
          ("payload", .object [("courier_id", Json.ofOptionalString m.courierId)])] :=
      ⟨rfl, trivial, rfl, service, rfl, order, rfl,
        ⟨rfl, holds_ofOptionalString courier, trivial⟩, trivial⟩
    exact Layout.exists_cutOff known reason rfl rfl same usable validation.height_layout_le written

/-- **Of a message that is cut off no other message is read**, but for validation facts
without their last texts. Wherever the cut is, decoding fails, or gives JSON that does
not read as a message of its kind, or the message is a validation fact and reads as one
without its reason, or without its courier and its reason. Each fact that can be sent
can be cut off so that it reads as either. -/
theorem read_cutOff (k : MessageKind) (m : k.Message) (inMemory : k.InMemory m) {c : Avro.Codec}
    (compiled : Avro.Codec.compile k.schemaText = .ok c) {b : Bytes}
    (written : c.binaryOfJson (k.toJson m) = .ok b) :
    (∀ p, CutOff p b → (∃ reason, c.jsonOfBinary p = .error (.decoding reason))
        ∨ ∃ j, c.jsonOfBinary p = .ok j ∧ ∀ m', k.ofJson? j = some m' → m' ∈ k.shortened m)
      ∧ (k.Sendable m → ∀ m' ∈ k.shortened m,
        ∃ p, CutOff p b ∧ ∃ j, c.jsonOfBinary p = .ok j ∧ k.ofJson? j = some m') := by
  obtain ⟨c', compiled', same, usable⟩ := k.exists_codec
  obtain rfl := Except.ok.inj (compiled'.symm.trans compiled)
  refine ⟨fun p hcut => ?_, fun sendable m' hm' => ?_⟩
  · cases hread : c'.jsonOfBinary p with
    | error e =>
      obtain ⟨reason, rfl⟩ := Avro.Codec.exists_decoding_of_jsonOfBinary hread
      exact .inl ⟨reason, rfl⟩
    | ok j =>
      refine .inr ⟨j, rfl, fun m' hm' => mem_shortened_of_mem_cuts ?_ hm'⟩
      exact Layout.mem_cuts_of_cutOff same usable (fills_toJson inMemory same written)
        k.height_layout_le written hcut hread
  · cases k with
    | order => cases hm'
    | validation =>
      obtain ⟨p, hcut, hread⟩ := exists_cutOff_validation sendable same usable written hm'
      exact ⟨p, hcut, _, hread, ofJson?_of_mem_shortened hm'⟩
    | position => cases hm'

/-- A fact that names a courier and has no reason. -/
def namedFact : OrderValidationMessage := ⟨true, "courier", "oid", some "cid", none⟩

/-- Its bytes are read as no fact but itself and itself without its courier, and there are
bytes of it that are read so. -/
theorem read_cutOff_namedFact :
    validation.InMemory namedFact
      ∧ ∃ c b, Avro.Codec.compile (schemaText validation) = .ok c
        ∧ c.binaryOfJson (validation.toJson namedFact) = .ok b
        ∧ (∀ p j m, CutOff p b → c.jsonOfBinary p = .ok j → validation.ofJson? j = some m →
          m ∈ [{ namedFact with courierId := none }, namedFact])
        ∧ ∃ p, CutOff p b ∧ ∃ j, c.jsonOfBinary p = .ok j
          ∧ validation.ofJson? j = some { namedFact with courierId := none } := by
  have inMemory : validation.InMemory namedFact := by
    refine ⟨?_, ?_, fun courier hcourier => ?_, fun reason hreason => (by cases hreason)⟩
    · show "courier".utf8ByteSize < 2 ^ 63
      decide
    · show "oid".utf8ByteSize < 2 ^ 63
      decide
    · obtain rfl := Option.some.inj hcourier
      decide
  have sendable : validation.Sendable namedFact := by
    refine ⟨?_, ?_, fun courier hcourier => ?_, fun reason hreason => (by cases hreason)⟩
    · show "courier".utf8ByteSize ≤ 512 * 1024 * 1024
      decide
    · show "oid".utf8ByteSize ≤ 512 * 1024 * 1024
      decide
    · obtain rfl := Option.some.inj hcourier
      show "cid".utf8ByteSize ≤ 512 * 1024 * 1024
      decide
  obtain ⟨c, compiled, same, usable⟩ := validation.exists_codec
  obtain ⟨b, written, -⟩ :=
    Layout.roundTrip same usable (holds_toJson sendable) validation.height_layout_le
  obtain ⟨hread, hcut⟩ := read_cutOff validation namedFact inMemory compiled written
  refine ⟨inMemory, c, b, compiled, written, fun p j m hp hj hm => ?_,
    hcut sendable _ List.mem_cons_self⟩
  rcases hread p hp with ⟨reason, herror⟩ | ⟨j', hj', hall⟩
  · rw [herror] at hj
    cases hj
  · obtain rfl := Except.ok.inj (hj'.symm.trans hj)
    exact hall m hm

/-- **A fact that is cut off within its courier is taken for one without a courier**: of
the nineteen bytes of the fact seventeen are there, and the last of these belong to the
courier. -/
theorem cutOff_taken_for_fact :
    let p : Bytes := [1, 14, 99, 111, 117, 114, 105, 101, 114, 6, 111, 105, 100, 2, 6, 99, 105]
    ∃ c b, Avro.Codec.compile (schemaText validation) = .ok c
      ∧ c.binaryOfJson (validation.toJson namedFact) = .ok b ∧ CutOff p b
      ∧ ∃ j, c.jsonOfBinary p = .ok j
        ∧ validation.ofJson? j = some { namedFact with courierId := none } := by
  intro p
  let b : Bytes :=
    [1, 14, 99, 111, 117, 114, 105, 101, 114, 6, 111, 105, 100, 2, 6, 99, 105, 100, 0]
  have written : (Avro.Codec.compile OrderValidationMessage.schemaText).toOption.map
      (fun c => c.binaryOfJson namedFact.toJson) = some (.ok b) := by decide +kernel
  have taken : (Avro.Codec.compile OrderValidationMessage.schemaText).toOption.bind
      (fun c => (c.jsonOfBinary p).toOption.bind OrderValidationMessage.ofJson?)
        = some { namedFact with courierId := none } := by decide +kernel
  obtain ⟨c, compiled, -, -⟩ := validation.exists_codec
  have compiled' : Avro.Codec.compile OrderValidationMessage.schemaText = .ok c := compiled
  rw [compiled'] at written taken
  obtain ⟨j, hj, hm⟩ := Option.bind_eq_some_iff.1
    (show (c.jsonOfBinary p).toOption.bind OrderValidationMessage.ofJson? = _ from taken)
  have read : c.jsonOfBinary p = .ok j := by
    cases hread : c.jsonOfBinary p with
    | error e =>
      rw [hread] at hj
      cases hj
    | ok j' =>
      rw [hread] at hj
      exact congrArg _ (Option.some.inj hj)
  exact ⟨c, b, compiled, Option.some.inj written, by decide, j, read, hm⟩

end MessageKind

end CourierDispatch
