import CourierDispatch.Bus.Decoder
import CourierDispatch.Bus.Encoder
import CourierDispatch.Bus.Message
import CourierDispatch.Proofs.Avro.Layout
import CourierDispatch.Proofs.Registry.Callers
import CourierDispatch.Proofs.Time.Timestamps

/-!
# Messages cross the bus

What one service publishes another has to read as the same message. On the
way lie the JSON form of the message, its schema, the bytes of each value, the
envelope, and a registry that both sides share with everybody else. The main
result, `MessageKind.decode_encode_among`, says of all of them together what is
kept: a message of any of the three kinds is encoded, and from then on its
bytes decode to JSON that reads as the message as it was written.

That is the very same message, with one exception. A position report carries
its time as text, and a leap second has a text of its own only if it ends a
minute. A report of any other leap second arrives with the time of the next
second, and is never read as what it was (`not_arrives_strayReport`).

The result holds in every state of the registry that callers can bring about,
also while the schema of this very message is being registered by somebody
else, and whatever callers do while the message is being encoded and
afterwards. Only the number of schemas is bounded: numbers have thirty-two
bits, and once they run out one of them may come to stand for the wrong codec.

The text of a schema and the JSON form of its messages meet in a `Layout`.
That the schema texts have it is a computation, `MessageKind.exists_codec`;
that the messages have it is `MessageKind.holds_toJson`.
-/

namespace CourierDispatch

open Avro (Layout)
open MemoryRegistry (Busy Move)

namespace CourierLocationMessage

variable {m : CourierLocationMessage}

/-- **A position report as it is written**: its time is the one that its text writes. -/
def asWritten (m : CourierLocationMessage) : CourierLocationMessage :=
  { m with createdAt := m.createdAt.asWritten }

theorem asWritten_eq_self_iff : m.asWritten = m ↔ m.createdAt.LeapEndsMinute := by
  rw [← Instant.asWritten_eq_self_iff]
  refine ⟨congrArg createdAt, fun same => ?_⟩
  unfold asWritten
  rw [same]

/-- Position reports read back from their JSON form as they are written, coordinates bit for
bit, unless a coordinate has no JSON form. -/
theorem ofJson?_toJson (latitude : m.latitude.isFinite) (longitude : m.longitude.isFinite) :
    ofJson? m.toJson = some m.asWritten := by
  unfold toJson ofJson? Json.record?
  simp [Table.lookup, Json.ofReal, latitude, longitude, Json.real?, Instant.parse?_toText,
    asWritten]

end CourierLocationMessage

/-! ## The three kinds of messages -/

/-- **The messages of the bus.** -/
inductive MessageKind where
  /-- Announcements of orders. -/
  | order
  /-- Validation facts. -/
  | validation
  /-- Position reports. -/
  | position
  deriving DecidableEq

namespace MessageKind

/-- The messages of a kind. -/
def Message : MessageKind → Type
  | order => OrderMessage
  | validation => OrderValidationMessage
  | position => CourierLocationMessage

/-- The topic that messages of a kind are sent to. -/
def topic : MessageKind → String
  | order => Topic.orders
  | validation => Topic.orderValidations
  | position => Topic.courierPositions

/-- The schema text of a kind. -/
def schemaText : MessageKind → String
  | order => OrderMessage.schemaText
  | validation => OrderValidationMessage.schemaText
  | position => CourierLocationMessage.schemaText

/-- The encoder for messages of a kind. -/
def encoder (k : MessageKind) : Encoder := .ofTopic k.topic k.schemaText

/-- The JSON form of a message. -/
def toJson : (k : MessageKind) → k.Message → Json
  | order => OrderMessage.toJson
  | validation => OrderValidationMessage.toJson
  | position => CourierLocationMessage.toJson

/-- Reads the JSON form of a kind. -/
def ofJson? : (k : MessageKind) → Json → Option k.Message
  | order => OrderMessage.ofJson?
  | validation => OrderValidationMessage.ofJson?
  | position => CourierLocationMessage.ofJson?

/-- **A message as it is written**: only position reports have a time. -/
def asWritten : (k : MessageKind) → k.Message → k.Message
  | order, m => m
  | validation, m => m
  | position, m => CourierLocationMessage.asWritten m

/-- A leap second, if the message is of one, ends a minute. -/
def LeapEndsMinute : (k : MessageKind) → k.Message → Prop
  | order, _ => True
  | validation, _ => True
  | position, m => m.createdAt.LeapEndsMinute

theorem asWritten_eq_self_iff {k : MessageKind} {m : k.Message} :
    k.asWritten m = m ↔ k.LeapEndsMinute m := by
  cases k with
  | order => exact iff_of_true rfl trivial
  | validation => exact iff_of_true rfl trivial
  | position => exact CourierLocationMessage.asWritten_eq_self_iff

/-- **Messages that can be sent**: no text is too long, and coordinates are
numbers. -/
def Sendable : (k : MessageKind) → k.Message → Prop
  | order, m => Layout.TextFits m.event ∧ Layout.TextFits m.orderId
  | validation, m => Layout.TextFits m.serviceName ∧ Layout.TextFits m.orderId ∧
      (∀ courier ∈ m.courierId, Layout.TextFits courier) ∧
      ∀ reason ∈ m.error, Layout.TextFits reason
  | position, m => Layout.TextFits m.courierId ∧ m.latitude.isFinite ∧ m.longitude.isFinite

/-- **The layout of a kind.** -/
def layout : MessageKind → Layout
  | order => .record [("event", .text), ("payload", .record [("order_id", .text)])]
  | validation => .record [("is_successful", .flag), ("service_name", .text),
      ("order_id", .text), ("payload", .record [("courier_id", .optionalText)]),
      ("error", .optionalText)]
  | position => .record [("courier_id", .text), ("latitude", .real), ("longitude", .real),
      ("created_at", .text)]

/-! ## Schema texts -/

/-- Whether a text is the schema of values with a layout. -/
def isSchemaOf (l : Layout) (text : String) : Bool :=
  match Avro.Codec.compile text with
  | .ok c => l.describes c.schema && c.schema.names?.isSome
  | .error _ => false

theorem isSchemaOf_schemaText (k : MessageKind) : isSchemaOf k.layout k.schemaText := by
  cases k with
  | order => decide +kernel
  | validation => decide +kernel
  | position => decide +kernel

/-- **The schema texts are schemas**, of values laid out as the messages
are. -/
theorem exists_codec (k : MessageKind) :
    ∃ c, Avro.Codec.compile k.schemaText = .ok c ∧ k.layout.describes c.schema ∧
      c.schema.names?.isSome := by
  have computed := isSchemaOf_schemaText k
  unfold isSchemaOf at computed
  split at computed
  · next c compiled =>
    rw [Bool.and_eq_true] at computed
    exact ⟨c, compiled, computed⟩
  · cases computed

theorem height_layout_le (k : MessageKind) : k.layout.height ≤ Avro.depthLimit := by
  cases k <;> decide

/-! ## JSON forms -/

theorem holds_ofOptionalString {s : Option String} (h : ∀ t ∈ s, Layout.TextFits t) :
    Layout.optionalText.Holds (Json.ofOptionalString s) := by
  cases s with
  | none => exact trivial
  | some t => exact h t rfl

theorem holds_ofReal {x : Binary64} (h : x.isFinite) : Layout.real.Holds (Json.ofReal x) := by
  rw [Json.ofReal, if_pos h]
  exact h

/-- A timestamp is never too long. -/
theorem textFits_toText (i : Instant) : Layout.TextFits i.toText := by
  have short := i.length_ofText_toText_le
  rw [Bytes.length_ofText] at short
  exact Nat.le_trans short (by decide)

/-- **Messages are laid out as their kind says.** -/
theorem holds_toJson {k : MessageKind} {m : k.Message} (h : k.Sendable m) :
    k.layout.Holds (k.toJson m) := by
  cases k with
  | order => exact ⟨rfl, h.1, rfl, ⟨rfl, h.2, trivial⟩, trivial⟩
  | validation =>
    obtain ⟨service, order, courier, error⟩ := h
    exact ⟨rfl, trivial, rfl, service, rfl, order, rfl,
      ⟨rfl, holds_ofOptionalString courier, trivial⟩, rfl, holds_ofOptionalString error, trivial⟩
  | position =>
    obtain ⟨courier, latitude, longitude⟩ := h
    exact ⟨rfl, courier, rfl, holds_ofReal latitude, rfl, holds_ofReal longitude, rfl,
      textFits_toText _, trivial⟩

/-- **Messages read back from their JSON form** as they are written. -/
theorem ofJson?_toJson {k : MessageKind} {m : k.Message} (h : k.Sendable m) :
    k.ofJson? (k.toJson m) = some (k.asWritten m) := by
  cases k with
  | order => exact OrderMessage.ofJson?_toJson m
  | validation => exact OrderValidationMessage.ofJson?_toJson m
  | position =>
    obtain ⟨-, latitude, longitude⟩ := h
    exact CourierLocationMessage.ofJson?_toJson latitude longitude

end MessageKind

/-! ## Encoding among callers -/

/-- **A registry between callers gives a number that stands for the codec**,
whatever others do between the two steps of registering. -/
theorem MemoryRegistry.Busy.exists_register (subject : String) {text : String} {c : Avro.Codec}
    (compiled : Avro.Codec.compile text = .ok c) {b : Busy} (sound : b.Sound)
    (between beforehand : List Move)
    (room : b.registry.registrations + between.countP Move.allocates < 2 ^ 32) :
    ∃ id b', (Busy.among between beforehand).register subject text b = (.ok id, b') ∧
      b'.registry.codecs.get? id = some c := by
  -- The number is given out before the others come in between, the codec supplied after.
  let first := b.registry.allocate subject text
  let numbered : Busy := { b with registry := first.2 }
  have soundNumbered : numbered.Sound := ⟨sound.registry.allocate _ _, fun e he =>
    (sound.underway e he).mono (grows_allocate _ _ _)⟩
  have number : numbered.registry.ids.get? (subject, text) = some first.1 :=
    (get?_ids_allocate _ _ _ _).trans (if_pos rfl)
  have one : numbered.registry.registrations ≤ b.registry.registrations + 1 :=
    registrations_allocate_le _ _ _
  have others := numbered.registrations_run_le between
  refine ⟨first.1, { numbered.run between with
    registry := (numbered.run between).registry.supply first.1 c }, ?_, ?_⟩
  · simp only [Busy.among, compiled]
    rfl
  · exact (soundNumbered.run between).registry.codec_supply (by omega)
      ((numbered.grows_run between).ids number) compiled

/-- **An event is encoded under a number that stands for its codec**, whatever
others do in the meantime. -/
theorem Encoder.exists_encode {e : Encoder} {c : Avro.Codec} {event : Json} {payload : Bytes}
    (compiled : Avro.Codec.compile e.schemaText = .ok c)
    (written : c.binaryOfJson event = .ok payload) {b : Busy} (sound : b.Sound)
    (between beforehand : List Move)
    (room : b.registry.registrations + between.countP Move.allocates < 2 ^ 32) :
    ∃ id b', e.encode (Busy.among between beforehand) event b =
        (.ok (Envelope.encode ⟨id, payload⟩), b') ∧ b'.registry.codecs.get? id = some c := by
  obtain ⟨id, b', registered, stands⟩ :=
    Busy.exists_register e.subject compiled sound between beforehand room
  have stays := (b'.grows_run beforehand).codecs stands
  have resolved : (Busy.among between beforehand).resolve id b' =
      (.ok c, b'.run beforehand) := by
    simp only [Busy.among, MemoryRegistry.resolve, stays]
  exact ⟨id, b'.run beforehand, encode_eq_ok registered resolved written, stays⟩

/-- Bytes are decoded under a number that stands for their codec. -/
theorem Registry.decode_envelope {r : MemoryRegistry} {id : UInt32} {c : Avro.Codec} {j : Json}
    {payload : Bytes} (stands : r.codecs.get? id = some c)
    (read : c.jsonOfBinary payload = .ok j) :
    MemoryRegistry.operations.decode (Envelope.encode ⟨id, payload⟩) r = (.ok j, r) :=
  decode_eq_ok (Envelope.decode_encode _) (MemoryRegistry.resolve_of_some stands) read

/-! ## Across the bus -/

namespace MessageKind

/-- **A message arrives**: it is encoded among callers of a registry, and in a later state
of the registry its bytes decode to JSON of which `reads` holds. -/
def Arrives (k : MessageKind) (m : k.Message) (reads : Json → Prop)
    (earlier between beforehand later : List Move) : Prop :=
  ∃ message b, k.encoder.encode (Busy.among between beforehand) (k.toJson m)
      (Busy.run {} earlier) = (.ok message, b) ∧
    ∃ j, MemoryRegistry.operations.decode message (b.run later).registry =
        (.ok j, (b.run later).registry) ∧ reads j

section arrives

variable {k : MessageKind} {m : k.Message} {earlier between beforehand later : List Move}

/-- **A message that can be sent arrives in its JSON form** and in no other, as long as there
are numbers to spare. -/
theorem arrives_iff (sendable : k.Sendable m)
    (room : (Busy.run {} earlier).registry.registrations + between.countP Move.allocates <
      2 ^ 32) (reads : Json → Prop) :
    k.Arrives m reads earlier between beforehand later ↔ reads (k.toJson m) := by
  obtain ⟨c, compiled, same, usable⟩ := k.exists_codec
  obtain ⟨payload, written, readBack⟩ :=
    Layout.roundTrip same usable (holds_toJson sendable) k.height_layout_le
  obtain ⟨id, b, encoded, stands⟩ := Encoder.exists_encode (e := k.encoder) compiled written
    (Busy.sound_run earlier) between beforehand room
  have decoded : MemoryRegistry.operations.decode (Envelope.encode ⟨id, payload⟩)
      (b.run later).registry = (.ok (k.toJson m), (b.run later).registry) :=
    Registry.decode_envelope ((b.grows_run later).codecs stands) readBack
  constructor
  · rintro ⟨message, b', encoded', j, decoded', read⟩
    obtain ⟨hmessage, rfl⟩ := Prod.mk.inj (encoded.symm.trans encoded')
    obtain rfl := Except.ok.inj hmessage
    obtain rfl := Except.ok.inj (Prod.mk.inj (decoded.symm.trans decoded')).1
    exact read
  · exact fun read => ⟨_, b, encoded, _, decoded, read⟩

/-- A message arrives as itself exactly if it is what is written. -/
theorem arrives_self_iff (sendable : k.Sendable m)
    (room : (Busy.run {} earlier).registry.registrations + between.countP Move.allocates <
      2 ^ 32) :
    k.Arrives m (fun j => k.ofJson? j = some m) earlier between beforehand later
      ↔ k.LeapEndsMinute m := by
  rw [arrives_iff sendable room, ofJson?_toJson sendable, Option.some.injEq,
    asWritten_eq_self_iff]

end arrives

/-- **Messages cross the bus as they are written.** In every state that callers can bring
the registry into, as long as fewer than 2³² numbers have been given out, a
message is encoded; and in every later state its bytes decode to JSON that
reads as the message as it was written. That is the message itself, unless it is a position
report of a leap second that does not end a minute, and then it never is. Others may make their
moves between the steps of the encoder as well, and any number of them afterwards. -/
theorem decode_encode_among (k : MessageKind) (m : k.Message) (sendable : k.Sendable m)
    (earlier between beforehand later : List Move)
    (room : (Busy.run {} earlier).registry.registrations + between.countP Move.allocates <
      2 ^ 32) :
    k.Arrives m (fun j => k.ofJson? j = some (k.asWritten m)) earlier between beforehand later
      ∧ (k.Arrives m (fun j => k.ofJson? j = some m) earlier between beforehand later
        ↔ k.LeapEndsMinute m) :=
  ⟨(arrives_iff sendable room _).2 (ofJson?_toJson sendable), arrives_self_iff sendable room⟩

end MessageKind

/-- A report from the leap second at the end of the first minute that instants
lie in, with a negative zero and the smallest positive number for
coordinates. -/
def leapReport : CourierLocationMessage where
  courierId := "kurier-ü"
  latitude := ⟨0x8000000000000000⟩
  longitude := ⟨1⟩
  createdAt := ⟨-8334601228741, 1999999999, by decide, by decide, by decide⟩

theorem sendable_leapReport : MessageKind.position.Sendable leapReport := by
  refine ⟨?_, ?_, ?_⟩
  · show "kurier-ü".utf8ByteSize ≤ 512 * 1024 * 1024
    decide
  · decide
  · decide

/-- The report crosses the bus although another service is still registering
its schema, and a third one registers another while it is encoded. -/
theorem decode_encode_among_leapReport :
    let earlier : List Move := [.allocate "courier_latest_positions.v1-value"
      CourierLocationMessage.schemaText]
    let between : List Move := [.allocate "orders.v1-value" OrderMessage.schemaText, .supply 0]
    let later : List Move := [.supply 0]
    MessageKind.position.Sendable leapReport ∧
      (Busy.run {} earlier).registry.registrations + between.countP Move.allocates < 2 ^ 32 ∧
      leapReport.createdAt.InLeapSecond ∧
      MessageKind.position.Arrives leapReport
        (fun j => MessageKind.position.ofJson? j = some leapReport) earlier between [] later := by
  intro earlier between later
  have room : (Busy.run {} earlier).registry.registrations + between.countP Move.allocates <
      2 ^ 32 := by decide +kernel
  have ends : leapReport.createdAt.LeapEndsMinute := by decide
  exact ⟨sendable_leapReport, room, by decide,
    (MessageKind.decode_encode_among .position leapReport sendable_leapReport earlier between []
      later room).2.2 ends⟩

/-- The report, from the leap second that follows 23:56:04 on 30 June 2015. -/
def strayReport : CourierLocationMessage :=
  { leapReport with createdAt := ⟨1435708564, 1333333333, by decide, by decide, by decide⟩ }

/-- **A report of a leap second that does not end a minute does not arrive as itself**, even
in a registry that is otherwise unused. -/
theorem not_arrives_strayReport :
    MessageKind.position.Sendable strayReport ∧
      ¬ MessageKind.position.Arrives strayReport
        (fun j => MessageKind.position.ofJson? j = some strayReport) [] [] [] [] := by
  have sendable : MessageKind.position.Sendable strayReport := sendable_leapReport
  have stray : ¬ strayReport.createdAt.LeapEndsMinute := by decide
  have room : (Busy.run {} []).registry.registrations + [].countP Move.allocates < 2 ^ 32 := by
    decide
  exact ⟨sendable, fun arrives => stray ((MessageKind.arrives_self_iff sendable room).1 arrives)⟩

end CourierDispatch
