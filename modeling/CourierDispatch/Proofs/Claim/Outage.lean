import CourierDispatch.Proofs.Claim.Turns
import CourierDispatch.Proofs.Registry.Learning
import CourierDispatch.Proofs.Registry.Clients

/-!
# When the registry cannot be asked

A claim reads its messages through a client of a registry, and the server behind it does what
it likes: it gives answers or none, good ones or bad ones, today this and tomorrow that. There
are two ways in which a message can come to nothing. It is hopeless (`Hopeless`) if there is
nothing to read, or if what the server has told of its schema says that it never can be read.
Or the look-up of its schema has failed for any other reason (`Outage`), which says nothing
about the message.

The main result, `outage_lossless`, says that the two are never confused, whatever the client
knows and whatever the server does. A message is marked without being handled exactly if it is
hopeless. At an outage the work ends, the message stays unmarked, and the client is what it
would be if the channel had ended before the message; a claim that begins with the message
later makes the same of it as if nobody had asked.
-/

namespace CourierDispatch

open Avro (Codec)

/-- The envelope in a message. -/
def Fetched.envelope? (m : Fetched) : Option Envelope :=
  m.payload.bind fun payload => (Envelope.decode payload).toOption

namespace Claim

open RemoteRegistry

variable {σ : Type}

/-! ## What comes to nothing -/

section

variable (server : Http.Server σ) (x : RemoteRegistry × σ) (m : Fetched)

/-- **The server is asked for the schema of a message**, and this is its answer. -/
structure Asks (e : Envelope) (reply : Option Http.Reply) : Prop where
  /-- The message is an envelope. -/
  framed : m.envelope? = some e
  /-- The client does not know its schema. -/
  unknown : x.1.codecs.get? e.schemaId = none
  /-- This is what the server says. -/
  told : (server (x.1.schemaRequest e.schemaId) x.2).1 = reply

/-- **A message of which nothing can be made**, now or later. -/
inductive Hopeless : Prop where
  /-- It has no payload. -/
  | empty (h : m.payload = none)
  /-- Its payload is no envelope. -/
  | unframed {payload : Bytes} {fault : EnvelopeFault} (h : m.payload = some payload)
      (hfault : Envelope.decode payload = .error fault)
  /-- The server says that there is no such schema. -/
  | notFound {e : Envelope} {reply : Http.Reply} (asked : Asks server x m e (some reply))
      (missing : reply.status = 404)
  /-- What the server says is no schema. -/
  | noSchema {e : Envelope} {reply : Http.Reply} {text : String} {fault : WireError}
      (asked : Asks server x m e (some reply)) (success : reply.isSuccess)
      (read : Json.Record.readText "schema" reply.body = .ok text)
      (invalid : Codec.compile text = .error fault)
  /-- The schema, which is known after the look-up, does not take what is in the envelope. -/
  | unfit {e : Envelope} {c : Codec} {fault : WireError} (framed : m.envelope? = some e)
      (known : (resolve server e.schemaId x).2.1.codecs.get? e.schemaId = some c)
      (unread : c.jsonOfBinary e.payload = .error fault)

/-- **A look-up that fails**, and not because there is no such schema. -/
inductive Outage : RegistryError → Prop where
  /-- There is no answer. -/
  | silent {e : Envelope} (asked : Asks server x m e none) : Outage (.transport Http.noAnswer)
  /-- The server refuses. -/
  | refused {e : Envelope} {reply : Http.Reply} (asked : Asks server x m e (some reply))
      (found : reply.status ≠ 404) (refused : reply.isSuccess = false) : Outage (refusal reply)
  /-- The answer cannot be read. -/
  | garbled {e : Envelope} {reply : Http.Reply} {fault : Json.Fault}
      (asked : Asks server x m e (some reply)) (success : reply.isSuccess)
      (unread : Json.Record.readText "schema" reply.body = .error fault) :
      Outage (.transport unreadable)

end

/-! ## What is read -/

section

variable {server : Http.Server σ} {x : RemoteRegistry × σ} {m : Fetched} {e : Envelope}
  {reply : Option Http.Reply} {payload : Bytes}

theorem envelope?_eq_some_iff : m.envelope? = some e
    ↔ ∃ payload, m.payload = some payload ∧ Envelope.decode payload = .ok e := by
  unfold Fetched.envelope?
  rw [Option.bind_eq_some_iff]
  refine exists_congr fun payload => and_congr_right fun _ => ?_
  cases Envelope.decode payload <;> simp [Except.toOption]

/-- A look-up that the server answers with a failure leaves the client as it is. -/
theorem Asks.resolve {err : RegistryError} (asked : Asks server x m e reply)
    (told : readSchema e.schemaId reply = .error err) : resolve server e.schemaId x
      = (.error err, x.1, (server (x.1.schemaRequest e.schemaId) x.2).2) := by
  unfold RemoteRegistry.resolve
  dsimp only
  rw [asked.unknown]
  dsimp only
  rw [asked.told, told]

/-- A codec that is known after a look-up is what was looked up. -/
theorem resolve_of_kept {id : UInt32} {c : Codec}
    (known : (resolve server id x).2.1.codecs.get? id = some c) :
    (resolve server id x).1 = .ok c := by
  have hlearns := learns_resolve server x.1 x.2 id
  cases looked : (resolve server id x).1 with
  | error err =>
    rw [looked] at hlearns
    rw [hlearns.of_noCodec.1, hlearns.told_of_noCodec.1] at known
    cases known
  | ok c' =>
    rw [looked] at hlearns
    exact congrArg Except.ok (Option.some.inj (hlearns.codec_kept.symm.trans known))

/-- No refusal says that there is no such schema. -/
theorem ofRegistryError_refusal (reply : Http.Reply) :
    DecodeError.ofRegistryError (refusal reply) = .registry (refusal reply) := by
  unfold refusal
  split <;> rfl

/-- **What comes of a look-up that fails**: it says that nothing can be made of the message, or
it says nothing about the message. -/
theorem Asks.hopeless_or_outage (asked : Asks server x m e reply) {err : RegistryError}
    (told : readSchema e.schemaId reply = .error err) :
    Hopeless server x m ∨ ∃ err, Outage server x m err := by
  cases reply with
  | none => exact .inr ⟨_, .silent asked⟩
  | some reply =>
    by_cases missing : reply.status = 404
    · exact .inl (.notFound asked missing)
    · cases success : reply.isSuccess with
      | false => exact .inr ⟨_, .refused asked missing success⟩
      | true =>
        cases read : Json.Record.readText "schema" reply.body with
        | error fault => exact .inr ⟨_, .garbled asked success read⟩
        | ok text =>
          cases compiled : Codec.compile text with
          | error fault => exact .inl (.noSchema asked success read compiled)
          | ok c =>
            rw [readSchema_of_isSuccess success read, compiled] at told
            cases told

variable (hpayload : m.payload = some payload)
include hpayload

theorem decode_of_envelope? (framed : m.envelope? = some e) : Envelope.decode payload = .ok e := by
  obtain ⟨_, hpayload', hframed⟩ := envelope?_eq_some_iff.1 framed
  obtain rfl := Option.some.inj (hpayload.symm.trans hpayload')
  exact hframed

/-- **At an outage the registry could not be asked**, and the client stays as it is. -/
theorem decode_of_outage {err : RegistryError} (h : Outage server x m err) :
    ∃ s, (operations server).decode payload x = (.error (.registry err), x.1, s) := by
  have hdecode : ∀ {e : Envelope} {reply : Option Http.Reply}, Asks server x m e reply →
      readSchema e.schemaId reply = .error err → DecodeError.ofRegistryError err = .registry err →
      ∃ s, (operations server).decode payload x = (.error (.registry err), x.1, s) := by
    intro e reply asked told hshown
    have hdecoded : (operations server).decode payload x = _ :=
      Registry.decode_of_unresolved (decode_of_envelope? hpayload asked.framed) (asked.resolve told)
    rw [hshown] at hdecoded
    exact ⟨_, hdecoded⟩
  cases h with
  | silent asked => exact hdecode asked rfl rfl
  | refused asked found refused =>
    exact hdecode asked (readSchema_of_refused found refused) (ofRegistryError_refusal _)
  | garbled asked success unread => exact hdecode asked (readSchema_of_garbled success unread) rfl

/-- **What is hopeless cannot be read**, and the registry has been asked if need be. -/
theorem decode_of_hopeless (h : Hopeless server x m) :
    ∃ err s, (operations server).decode payload x = (.error err, s)
      ∧ ∀ e, err ≠ .registry e := by
  cases h with
  | empty hempty => cases hempty.symm.trans hpayload
  | unframed hpayload' hfault =>
    obtain rfl := Option.some.inj (hpayload.symm.trans hpayload')
    exact ⟨_, _, Registry.decode_of_unframed hfault x, by simp⟩
  | notFound asked missing =>
    exact ⟨_, _, Registry.decode_of_unresolved (decode_of_envelope? hpayload asked.framed)
      (asked.resolve (readSchema_of_notFound missing)), by simp [DecodeError.ofRegistryError]⟩
  | @noSchema e reply text fault asked success read invalid =>
    have told : readSchema e.schemaId (some reply) = .error (.schema fault) := by
      rw [readSchema_of_isSuccess success read, invalid]
    exact ⟨_, _, Registry.decode_of_unresolved (decode_of_envelope? hpayload asked.framed)
      (asked.resolve told), by simp [DecodeError.ofRegistryError]⟩
  | unfit framed known unread =>
    exact ⟨_, _, Registry.decode_of_unread (decode_of_envelope? hpayload framed)
      (Prod.ext (resolve_of_kept known) rfl) unread, by simp⟩

/-- **There is nothing else that can come of a message.** -/
theorem decode_cases (server : Http.Server σ) (x : RemoteRegistry × σ) :
    Hopeless server x m ∨ (∃ err, Outage server x m err)
      ∨ ∃ json s, (operations server).decode payload x = (.ok json, s) := by
  cases hframed : Envelope.decode payload with
  | error fault => exact .inl (.unframed hpayload hframed)
  | ok e =>
    have framed : m.envelope? = some e := envelope?_eq_some_iff.2 ⟨payload, hpayload, hframed⟩
    have hlearns := learns_resolve server x.1 x.2 e.schemaId
    cases looked : (resolve server e.schemaId x).1 with
    | error err =>
      rw [looked] at hlearns
      obtain ⟨unknown, told⟩ := hlearns.told_of_noCodec
      exact (Asks.hopeless_or_outage ⟨framed, unknown, rfl⟩ told).imp_right .inl
    | ok c =>
      rw [looked] at hlearns
      cases hread : c.jsonOfBinary e.payload with
      | error fault => exact .inl (.unfit framed hlearns.codec_kept hread)
      | ok json =>
        exact .inr (.inr ⟨json, _, Registry.decode_eq_ok hframed (Prod.ext looked rfl) hread⟩)

end

/-! ## A claim -/

/-- **Everything outside a claim** that reads through a client: the server, the handler, what
marks messages and what stops the work. All but the server may do anything to the client, too:
it is not for this claim alone. -/
structure Outside (σ : Type) where
  /-- The server of the registry. -/
  server : Http.Server σ
  /-- The handler. -/
  handling : Json → RemoteRegistry × σ → Except String Unit × (RemoteRegistry × σ)
  /-- What marks messages. -/
  marking : Fetched → RemoteRegistry × σ → Except String Unit × (RemoteRegistry × σ)
  /-- A look at whether the work is stopped. -/
  stopped : RemoteRegistry × σ → Bool × (RemoteRegistry × σ)

namespace Outside

/-- Answers a call. -/
def answer (o : Outside σ) : (c : Call) → RemoteRegistry × σ → Answer c × (RemoteRegistry × σ)
  | .decode payload, x => (operations o.server).decode payload x
  | .handle json, x => o.handling json x
  | .mark m, x => o.marking m x

/-- **The work on the messages of a channel.** -/
def claim (o : Outside σ) (closed : Bool) (messages : List Fetched) (x : RemoteRegistry × σ) :
    Option (Except ConsumerError Unit) × Journal Unit Call Answer (RemoteRegistry × σ) :=
  work o.answer o.stopped closed messages ⟨x, []⟩

/-- The turns of the messages. -/
def turns (o : Outside σ) (messages : List Fetched) (x : RemoteRegistry × σ) :
    List (Turn (RemoteRegistry × σ)) :=
  Claim.turns o.answer o.stopped messages x

end Outside

/-- **A claim ends at an outage**, and leaves things as if it had ended before the message. -/
structure BreaksOff (o : Outside σ) (closed : Bool) (messages : List Fetched)
    (x : RemoteRegistry × σ) (before : List (Turn (RemoteRegistry × σ)))
    (t : Turn (RemoteRegistry × σ)) (err : RegistryError) : Prop where
  /-- The message stands behind those that had their turns. -/
  parted : ∃ rest, messages = before.map (·.message) ++ t.message :: rest
  /-- The work ends with the error. -/
  result : (o.claim closed messages x).1 = some (.error (.registry err))
  /-- The messages before are marked, and no others. -/
  marked : marks ((o.claim closed messages x).2.log ()) = before.map (·.message)
  /-- Nothing was done for the message but to read it. -/
  calls : ∃ payload, t.message.payload = some payload
    ∧ (o.claim closed messages x).2.log ()
      = (o.claim closed (before.map (·.message)) x).2.log ()
        ++ [⟨.decode payload, .error (.registry err)⟩]
  /-- The client is as it was found. -/
  client : (o.claim closed messages x).2.state.1 = t.found.1
  /-- So it would be if the channel had ended before the message. -/
  found : (o.claim closed (before.map (·.message)) x).2.state = t.found
  /-- Then a later claim makes the same of the message and all others. -/
  resumed : ∀ {τ : Type} (later : Outside τ) (closed' : Bool) (rest : List Fetched) (y : τ),
    later.claim closed' (t.message :: rest) ((o.claim closed messages x).2.state.1, y)
      = later.claim closed' (t.message :: rest)
        ((o.claim closed (before.map (·.message)) x).2.state.1, y)

/-- **A claim loses no message** that is not hopeless. -/
structure Lossless (o : Outside σ) (closed : Bool) (messages : List Fetched)
    (x : RemoteRegistry × σ) : Prop where
  /-- Messages have their turns in the order of the channel. -/
  order : (o.turns messages x).map (·.message) <+: messages
  /-- The calls are those of the turns. -/
  calls : (o.claim closed messages x).2.log ()
    = (o.turns messages x).flatMap (·.calls o.answer)
  /-- A message is marked without being handled exactly if it is hopeless. -/
  skipped : ∀ t ∈ o.turns messages x,
    (marks (t.calls o.answer) = [t.message] ∧ handles (t.calls o.answer) = [])
      ↔ Hopeless o.server t.found t.message
  /-- Other messages are handled, if the registry could be asked. -/
  handled : ∀ t ∈ o.turns messages x, ¬ Hopeless o.server t.found t.message →
    (∃ err, Outage o.server t.found t.message err)
      ∨ ∃ json, handles (t.calls o.answer) = [json]
  /-- If it could not, the work ends. -/
  outage : ∀ before t after, o.turns messages x = before ++ t :: after →
    ∀ err, Outage o.server t.found t.message err →
      after = [] ∧ BreaksOff o closed messages x before t err

section

variable (o : Outside σ) {t : Turn (RemoteRegistry × σ)}

/-- A message with an outage has a payload. -/
theorem Outage.exists_payload {server : Http.Server σ} {x : RemoteRegistry × σ} {m : Fetched}
    {err : RegistryError} (h : Outage server x m err) : ∃ payload, m.payload = some payload := by
  have hframed : ∀ {e : Envelope}, m.envelope? = some e → ∃ payload, m.payload = some payload :=
    fun framed => (envelope?_eq_some_iff.1 framed).imp fun _ => And.left
  cases h with
  | silent asked => exact hframed asked.framed
  | refused asked _ _ => exact hframed asked.framed
  | garbled asked _ _ => exact hframed asked.framed

/-- What is hopeless is marked, and not handled. -/
theorem Turn.of_hopeless (h : Hopeless o.server t.found t.message) :
    marks (t.calls o.answer) = [t.message] ∧ handles (t.calls o.answer) = [] := by
  have hturn : (t.done o.answer).1 = .ok () ∧ handles (t.calls o.answer) = [] := by
    cases hpayload : t.message.payload with
    | none => exact Turn.of_empty hpayload
    | some payload =>
      obtain ⟨err, s, hdecode, herr⟩ := decode_of_hopeless hpayload h
      exact Turn.of_unreadable hpayload hdecode herr
  rw [t.marks_calls, hturn.1]
  exact ⟨rfl, hturn.2⟩

/-- At an outage nothing is done for the message but to read it, and the client stays as it
is. -/
theorem Turn.of_outage {err : RegistryError} (h : Outage o.server t.found t.message err) :
    (t.done o.answer).1 = .error (.registry err) ∧ (t.done o.answer).2.state.1 = t.found.1
      ∧ ∃ payload, t.message.payload = some payload
        ∧ t.calls o.answer = [⟨.decode payload, .error (.registry err)⟩] := by
  obtain ⟨payload, hpayload⟩ := h.exists_payload
  obtain ⟨s, hdecode⟩ := decode_of_outage hpayload h
  have hanswer : o.answer (.decode payload) t.found = _ := hdecode
  obtain ⟨hresult, hstate, hcalls⟩ := Turn.of_unasked hpayload hanswer
  exact ⟨hresult, by rw [hstate], payload, hpayload, hcalls⟩

/-- **All that can come of a turn.** -/
theorem Turn.cases (t : Turn (RemoteRegistry × σ)) : Hopeless o.server t.found t.message
    ∨ (∃ err, Outage o.server t.found t.message err)
      ∨ ∃ json, handles (t.calls o.answer) = [json] := by
  cases hpayload : t.message.payload with
  | none => exact .inl (.empty hpayload)
  | some payload =>
    refine (decode_cases hpayload o.server t.found).imp_right (Or.imp_right ?_)
    rintro ⟨json, s, hdecode⟩
    exact ⟨json, Turn.of_read hpayload hdecode⟩

/-- Nothing but what is hopeless is marked without being handled. -/
theorem Turn.skipped_iff : (marks (t.calls o.answer) = [t.message] ∧ handles (t.calls o.answer) = [])
    ↔ Hopeless o.server t.found t.message := by
  refine ⟨fun ⟨hmarks, hhandles⟩ => ?_, t.of_hopeless o⟩
  rcases t.cases o with h | ⟨err, h⟩ | ⟨json, h⟩
  · exact h
  · obtain ⟨-, -, payload, -, hcalls⟩ := t.of_outage o h
    rw [hcalls] at hmarks
    cases hmarks
  · cases h.symm.trans hhandles

/-- Turns that go well have marked their messages. -/
theorem marks_flatMap_turns {l : List (Turn (RemoteRegistry × σ))}
    (h : ∀ t ∈ l, (t.done o.answer).1 = .ok ()) :
    marks (l.flatMap (·.calls o.answer)) = l.map (·.message) := by
  induction l with
  | nil => rfl
  | cons t l ih =>
    obtain ⟨ht, hl⟩ := List.forall_mem_cons.1 h
    rw [List.flatMap_cons, marks_append, ih hl, t.marks_calls, ht]
    rfl

variable {o} {messages : List Fetched} {x : RemoteRegistry × σ}
  {before after : List (Turn (RemoteRegistry × σ))}

/-- **At an outage a claim breaks off.** -/
theorem breaksOff_of_outage (closed : Bool) (hturns : o.turns messages x = before ++ t :: after)
    {err : RegistryError} (h : Outage o.server t.found t.message err) :
    after = [] ∧ BreaksOff o closed messages x before t err := by
  obtain ⟨hresult, hclient, payload, hpayload, hcalls⟩ := t.of_outage o h
  have hreaches := reaches_of_turns hturns
  obtain ⟨rfl, hwork, hstate⟩ := hreaches.failed _ closed ⟨x, []⟩ rfl hresult
  have hfound := hreaches.found closed ⟨x, []⟩ rfl
  have hlog := log_work o.answer o.stopped closed messages ⟨x, []⟩
  have hshort := log_work o.answer o.stopped closed (before.map (·.message)) ⟨x, []⟩
  rw [hreaches.turns_eq] at hshort
  rw [show Claim.turns o.answer o.stopped messages x = before ++ [t] from hturns,
    List.flatMap_append, List.flatMap_singleton, hcalls] at hlog
  have hkept : (o.claim closed messages x).2.state.1 = t.found.1 :=
    (congrArg Prod.fst hstate).trans hclient
  refine ⟨rfl, hreaches.parted, hwork, ?_, ⟨payload, hpayload, ?_⟩, hkept, hfound, ?_⟩
  · refine (congrArg marks hlog).trans ?_
    rw [Journal.log_nil, List.nil_append, marks_append, marks_flatMap_turns o hreaches.passed]
    exact List.append_nil _
  · exact hlog.trans (congrArg (· ++ _) hshort.symm)
  · intro τ later closed' rest y
    rw [hkept, show (o.claim closed (before.map (·.message)) x).2.state = t.found from hfound]

end

/-- **An outage of the registry loses no message**, whatever the client knows, whatever the
server and everybody else does, and whenever the work is stopped. -/
theorem outage_lossless (o : Outside σ) (closed : Bool) (messages : List Fetched)
    (x : RemoteRegistry × σ) : Lossless o closed messages x where
  order := turns_prefix o.answer o.stopped messages x
  calls := log_work o.answer o.stopped closed messages ⟨x, []⟩
  skipped t _ := t.skipped_iff o
  handled t _ h := (t.cases o).resolve_left h
  outage _ _ _ hturns _ h := breaksOff_of_outage closed hturns h

/-- A server that gives no answer at first, and two claims that begin with the same message. -/
theorem outage_lossless_resumed :
    let m : Fetched := ⟨"facts", 0, 5, some (Envelope.encode ⟨7, [2, 120]⟩)⟩
    let told : Http.Reply := ⟨200, Bytes.ofText "\x7b\"schema\":\"\\\"string\\\"\"\x7d"⟩
    let o : Outside (List (Option Http.Reply)) :=
      { server := fun _ replies => (replies.headD none, replies.tail)
        handling := fun _ x => (.ok (), x)
        marking := fun _ x => (.ok (), x)
        stopped := fun x => (false, x) }
    let x : RemoteRegistry × List (Option Http.Reply) :=
      (connect "http://registry:8081", [none, some told])
    let first := o.claim true [m] x
    let second := o.claim true [m] first.2.state
    Outage o.server x m (.transport Http.noAnswer)
      ∧ first.1 = some (.error (.registry (.transport Http.noAnswer)))
      ∧ marks (first.2.log ()) = [] ∧ marks (second.2.log ()) = [m]
      ∧ (handles (second.2.log ())).map Json.string? = [some "x"] := by
  intro m told o x first second
  have houtage : Outage o.server x m (.transport Http.noAnswer) := .silent ⟨rfl, rfl, rfl⟩
  have hbreaks := ((outage_lossless o true [m] x).outage [] ⟨m, x⟩ [] rfl _ houtage).2
  exact ⟨houtage, hbreaks.result, hbreaks.marked, by decide +kernel, by decide +kernel⟩

end Claim

end CourierDispatch
