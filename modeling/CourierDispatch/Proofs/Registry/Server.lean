import CourierDispatch.Http.Exchange
import CourierDispatch.Proofs.Json.Rendered
import CourierDispatch.Proofs.Registry.Book

/-!
# Servers that keep a book

`Serves` says what a registry server does that keeps its book in memory: whoever registers a
schema text is told its number, and whoever asks for a number is told the schema text or that
there is none. It always answers. What else it says, and what it makes of other requests, is
left open, and so is how it comes by its answers.

There is such a server. `Book.serve` takes requests apart and writes its answers out as JSON
(`Book.serves`).
-/

namespace CourierDispatch

/-- Characters of topics that stand for themselves in an address. -/
def Topic.isPlain (c : Char) : Bool := c.isAlphanum || c = '.' || c = '_' || c = '-'

namespace Registry

/-- **The request that registers a schema text** with a server at an address. -/
def registration (address subject text : String) : Http.Call where
  method := "POST"
  url := address ++ "/subjects/" ++ subject ++ "/versions"
  accept := none
  contentType := some "application/vnd.schemaregistry.v1+json"
  body := some (.object [("schema", .string text)])

/-- **The request for the schema text of a number** to a server at an address. -/
def inquiry (address : String) (id : UInt32) : Http.Call where
  method := "GET"
  url := address ++ "/schemas/ids/" ++ toString id.toNat
  accept := some "application/vnd.schemaregistry.v1+json"
  contentType := none
  body := none

variable {σ : Type}

/-- **A server always answers out of its book**, as long as numbers do not run out, texts are
schemas and subjects are those of topics with plain names. -/
structure Serves (server : Http.Server σ) (address : String) (book : σ → Book) : Prop where
  /-- A pair is entered into the book, and the answer is its number. -/
  registers : ∀ {topic text : String} {c : Avro.Codec} {s : σ},
    topic.toList.all Topic.isPlain → Avro.Codec.compile text = .ok c →
    ((book s).enter (Topic.valueSubject topic, text)).pairs.length < 2 ^ 32 →
    ∃ reply s', server (registration address (Topic.valueSubject topic) text) s = (some reply, s')
      ∧ book s' = (book s).enter (Topic.valueSubject topic, text)
      ∧ reply.isSuccess
      ∧ Json.Record.readWord "id" reply.body
        = .ok ((book s').number (Topic.valueSubject topic, text))
  /-- A number that stands for a schema text is answered with it. -/
  finds : ∀ {id : UInt32} {text : String} {s : σ}, (book s).text? id = some text →
    ∃ reply s', server (inquiry address id) s = (some reply, s') ∧ book s' = book s
      ∧ reply.isSuccess ∧ Json.Record.readText "schema" reply.body = .ok text
  /-- A number that stands for none is not found. -/
  misses : ∀ {id : UInt32} {s : σ}, (book s).text? id = none →
    ∃ reply s', server (inquiry address id) s = (some reply, s') ∧ book s' = book s
      ∧ reply.status = 404

/-! ## A server that has a book and nothing else -/

/-- The subject in the address of a registration. -/
def subject? (address url : String) : Option String :=
  (url.toList.dropPrefix? (address ++ "/subjects/").toList).bind fun rest =>
    (rest.dropSuffix? "/versions".toList).map String.ofList

/-- The number in the address of an inquiry. -/
def number? (address url : String) : Option UInt32 :=
  (url.toList.dropPrefix? (address ++ "/schemas/ids/").toList).bind fun digits =>
    if digits.all Char.isDigit then some (UInt32.ofNat (Nat.ofDigitChars 10 digits 0)) else none

theorem subject?_registration (address subject text : String) :
    subject? address (registration address subject text).url = some subject := by
  have hfront : (registration address subject text).url.toList.dropPrefix?
      (address ++ "/subjects/").toList = some (subject.toList ++ "/versions".toList) := by
    simp only [registration, String.toList_append, List.append_assoc]
    rw [← List.append_assoc]
    exact List.dropPrefix?_append_of_beq _ (beq_self_eq_true _)
  have hsuffix : (subject.toList ++ "/versions".toList).dropSuffix? "/versions".toList
      = some subject.toList := List.dropSuffix?_eq_some_iff.2 ⟨_, rfl, beq_self_eq_true _⟩
  unfold subject?
  rw [hfront, Option.bind_some, hsuffix, Option.map_some, String.ofList_toList]

theorem number?_inquiry (address : String) (id : UInt32) :
    number? address (inquiry address id).url = some id := by
  have hfront : (inquiry address id).url.toList.dropPrefix? (address ++ "/schemas/ids/").toList
      = some (Nat.toDigits 10 id.toNat) := by
    have hdigits : (toString id.toNat).toList = Nat.toDigits 10 id.toNat := by
      rw [Nat.toString_eq_repr, Nat.repr_eq_ofList_toDigits, String.toList_ofList]
    rw [inquiry, String.toList_append, hdigits]
    exact List.dropPrefix?_append_of_beq _ (beq_self_eq_true _)
  have hall : (Nat.toDigits 10 id.toNat).all Char.isDigit := List.all_eq_true.2 fun c hc =>
    Nat.isDigit_of_mem_toDigits (by decide) (by decide) hc
  unfold number?
  rw [hfront, Option.bind_some, if_pos hall, Nat.ofDigitChars_ten_toDigits, UInt32.ofNat_toNat]

namespace Book

/-- An answer that is JSON. -/
def reply (status : Nat) (j : Json) : Http.Reply := ⟨status, Bytes.ofText (Json.render j)⟩

/-- **The server that has a book and nothing else.** -/
def serve (address : String) : Http.Server Book := fun call b =>
  if call.method = "POST" then
    match subject? address call.url,
      (call.body.bind fun body => body.get? "schema").bind Json.string? with
    | some subject, some text =>
      (some (reply 200 (.object [("id",
        .integer ((b.enter (subject, text)).number (subject, text)).toNat)])),
        b.enter (subject, text))
    | _, _ => (some (reply 422 (.object [("message", .string "Invalid schema")])), b)
  else
    match (number? address call.url).bind b.text? with
    | some text => (some (reply 200 (.object [("schema", .string text)])), b)
    | none => (some (reply 404 (.object [("message", .string "Schema not found")])), b)

theorem serve_registration (address subject text : String) (b : Book) :
    serve address (registration address subject text) b
      = (some (reply 200 (.object [("id",
          .integer ((b.enter (subject, text)).number (subject, text)).toNat)])),
        b.enter (subject, text)) := by
  have htext : ((registration address subject text).body.bind fun body => body.get? "schema").bind
      Json.string? = some text := by
    simp [registration, Json.get?, Table.lookup, Json.string?]
  have hmethod : (registration address subject text).method = "POST" := rfl
  unfold serve
  rw [if_pos hmethod, subject?_registration, htext]

theorem serve_inquiry (address : String) (id : UInt32) (b : Book) :
    serve address (inquiry address id) b = match b.text? id with
      | some text => (some (reply 200 (.object [("schema", .string text)])), b)
      | none => (some (reply 404 (.object [("message", .string "Schema not found")])), b) := by
  have hmethod : (inquiry address id).method ≠ "POST" := show "GET" ≠ "POST" by decide
  unfold serve
  rw [if_neg hmethod, number?_inquiry, Option.bind_some]

/-- **It serves.** -/
theorem serves (address : String) : Serves (serve address) address id where
  registers _ _ _ :=
    ⟨_, _, serve_registration _ _ _ _, rfl, rfl, Json.Record.readWord_render _ _⟩
  finds {n text b} h := by
    change b.text? n = some text at h
    rw [serve_inquiry, h]
    exact ⟨_, _, rfl, rfl, rfl, Json.Record.readText_render _ _⟩
  misses {n b} h := by
    change b.text? n = none at h
    rw [serve_inquiry, h]
    exact ⟨_, _, rfl, rfl, rfl⟩

end Book

end Registry

end CourierDispatch
