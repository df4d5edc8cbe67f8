import CourierDispatch.HandlerError
import CourierDispatch.Proofs.Claim.Processing
import CourierDispatch.Registry.Memory

/-!
# A consumer at work

A consumer takes the messages of a channel until it closes. It reads them by the schemas of
a registry within the process and hands them to a service that works alone on its state
(`consume`). Such a registry has an answer for every number, and always the same one, so
that what can be read of a message is known beforehand (`Fetched.json?`), and what becomes
of all of them is told without a single call (`upshot`, `consume_eq_upshot`).

A service may take no notice of some messages: they leave its state as it is, and the work
goes on. Then the others lead to the same without them (`upshot_filter`). And if the service
does the same whatever the clocks show, so does the consumer (`upshot_congr`).
-/

namespace CourierDispatch

/-! ## What can be read -/

/-- **What can be read of a message**, which has a payload that is an envelope with the
number of a schema and bytes that this schema takes. -/
def Fetched.json? (registry : MemoryRegistry) (m : Fetched) : Option Json :=
  m.payload.bind fun payload =>
    (Envelope.decode payload).toOption.bind fun envelope =>
      (registry.codecs.get? envelope.schemaId).bind fun codec =>
        (codec.jsonOfBinary envelope.payload).toOption

/-- **A registry within the process can always be asked**, and stays as it is. -/
theorem MemoryRegistry.decode_eq (registry : MemoryRegistry) (payload : Bytes) :
    ∃ r, operations.decode payload registry = (r, registry)
      ∧ (∀ e, r ≠ .error (.registry e))
      ∧ r.toOption = (Envelope.decode payload).toOption.bind fun envelope =>
          (registry.codecs.get? envelope.schemaId).bind fun codec =>
            (codec.jsonOfBinary envelope.payload).toOption := by
  cases hframed : Envelope.decode payload with
  | error fault =>
    exact ⟨_, Registry.decode_of_unframed hframed registry, fun _ => (by simp), rfl⟩
  | ok envelope =>
    cases hcodec : registry.codecs.get? envelope.schemaId with
    | none =>
      exact ⟨_, Registry.decode_of_unresolved hframed (resolve_of_none hcodec),
        fun _ => (by simp [DecodeError.ofRegistryError]), by simp [Except.toOption, hcodec]⟩
    | some codec =>
      cases hread : codec.jsonOfBinary envelope.payload with
      | error e =>
        exact ⟨_, Registry.decode_of_unread hframed (resolve_of_some hcodec) hread,
          fun _ => (by simp), by simp [Except.toOption, hcodec, hread]⟩
      | ok j =>
        exact ⟨_, Registry.decode_eq_ok hframed (resolve_of_some hcodec) hread,
          fun _ => (by simp), by simp [Except.toOption, hcodec, hread]⟩

namespace Claim

variable {S T : Type}

/-! ## Consuming -/

/-- **A handler** on states in `S`, with what the clocks show in `T`. -/
abbrev Handler (S T : Type) := T → Json → S → Except HandlerError Unit × S

/-- **What a consumer works on.** -/
structure Bench (S T : Type) where
  /-- The registry. -/
  registry : MemoryRegistry
  /-- The state of the service. -/
  service : S
  /-- What the clocks show for the message at hand. -/
  clocks : T
  /-- What they will show for those to come. -/
  ahead : List T

namespace Bench

/-- **Answers a call.** A failure of the handler is told by its wording. -/
def answer (handler : Handler S T) (marking : Fetched → Except String Unit) :
    (c : Call) → Bench S T → Answer c × Bench S T
  | .decode payload, b =>
    let (r, registry) := MemoryRegistry.operations.decode payload b.registry
    (r, { b with registry })
  | .handle j, b =>
    let (r, service) := handler b.clocks j b.service
    (r.mapError HandlerError.message, { b with service })
  | .mark m, b => (marking m, b)

/-- Nobody stops the work, and time goes on between two messages. -/
def goOn (b : Bench S T) : Bool × Bench S T :=
  match b.ahead with
  | [] => (false, b)
  | t :: ahead => (false, { b with clocks := t, ahead })

end Bench

section
variable (handler : Handler S T) (marking : Fetched → Except String Unit)
  (registry : MemoryRegistry)

/-- **The work on messages until the channel closes**, each with what the clocks show
then. -/
def consume (clocks : T) (stream : List (Fetched × T)) (s : S) :
    Option (Except ConsumerError Unit) × Journal Unit Call Answer (Bench S T) :=
  work (Bench.answer handler marking) Bench.goOn true (stream.map Prod.fst)
    ⟨⟨registry, s, clocks, stream.map Prod.snd⟩, []⟩

/-- **What becomes of messages**: which are marked, what the work comes to, and the state
that it leaves. -/
structure Upshot (S : Type) where
  /-- The messages that are marked. -/
  marked : List Fetched
  /-- What the work comes to. -/
  result : Except ConsumerError Unit
  /-- The state of the service. -/
  service : S

/-- Another message is marked before. -/
def Upshot.after (m : Fetched) (u : Upshot S) : Upshot S := { u with marked := m :: u.marked }

/-- What becomes of messages, without the calls. -/
def upshot : List (Fetched × T) → S → Upshot S
  | [], s => ⟨[], .ok (), s⟩
  | x :: rest, s =>
    match x.1.json? registry with
    | none => (upshot rest s).after x.1
    | some j =>
      match handler x.2 j s with
      | (.ok (), s') => (upshot rest s').after x.1
      | (.error e, s') => ⟨[], .error (.onMessage x.1 e.message), s'⟩

end

variable {handler : Handler S T} {marking : Fetched → Except String Unit}
  {registry : MemoryRegistry}

section
variable {x : Fetched × T} {rest : List (Fetched × T)} {s s' : S} {json : Json}

theorem upshot_of_unread (hread : x.1.json? registry = none) :
    upshot handler registry (x :: rest) s = (upshot handler registry rest s).after x.1 := by
  simp only [upshot, hread]

theorem upshot_of_handled (hread : x.1.json? registry = some json)
    (hhandled : handler x.2 json s = (.ok (), s')) :
    upshot handler registry (x :: rest) s = (upshot handler registry rest s').after x.1 := by
  simp only [upshot, hread, hhandled]

theorem upshot_of_failed {e : HandlerError} (hread : x.1.json? registry = some json)
    (hhandled : handler x.2 json s = (.error e, s')) :
    upshot handler registry (x :: rest) s = ⟨[], .error (.onMessage x.1 e.message), s'⟩ := by
  simp only [upshot, hread, hhandled]

end

/-- A message is marked if the work on it does not fail. -/
theorem marks_noted {σ : Type} (answer : (c : Call) → σ → Answer c × σ) (m : Fetched)
    (j : Journal Unit Call Answer σ) : marks ((noted answer (process m) j).2.log ())
      = marks (j.log ()) ++ if (noted answer (process m) j).1.toBool then [m] else [] := by
  obtain ⟨t, hm, hlog, hresult⟩ := exists_taken_noted answer m j
  have hpasses : t.fare.passes = (noted answer (process m) j).1.toBool := by
    rw [← hresult, Bool.eq_iff_iff, ← result_eq_ok_iff]
    cases t.result <;> simp [Except.toBool]
  rw [hlog, marks_append, marks_calls, hm, hpasses]

/-- What becomes of what was read. -/
theorem noted_handle (m : Fetched) (json : Json) {t : T}
    {j : Journal Unit Call Answer (Bench S T)} (hclocks : j.state.clocks = t) :
    ((noted (Bench.answer handler marking) (handle m json) j).1,
        (noted (Bench.answer handler marking) (handle m json) j).2.state)
      = ((handler t json j.state.service).1.mapError fun e => .onMessage m e.message,
        { j.state with service := (handler t json j.state.service).2 }) := by
  have hanswer : Bench.answer handler marking (.handle json) j.state
      = ((handler t json j.state.service).1.mapError HandlerError.message,
        { j.state with service := (handler t json j.state.service).2 }) := by
    simp only [Bench.answer, hclocks]
  unfold handle
  rw [noted_call, Journal.note_snd, hanswer]
  cases (handler t json j.state.service).1 with
  | error e => rfl
  | ok u => rfl

variable (handler marking) in
/-- **What becomes of one message.** -/
theorem noted_process (x : Fetched × T) {j : Journal Unit Call Answer (Bench S T)}
    (hclocks : j.state.clocks = x.2) :
    ((noted (Bench.answer handler marking) (process x.1) j).1,
        (noted (Bench.answer handler marking) (process x.1) j).2.state)
      = match x.1.json? j.state.registry with
        | none => (.ok (), j.state)
        | some json =>
          ((handler x.2 json j.state.service).1.mapError fun e => .onMessage x.1 e.message,
            { j.state with service := (handler x.2 json j.state.service).2 }) := by
  unfold process Fetched.json?
  cases hpayload : x.1.payload with
  | none => rfl
  | some payload =>
    obtain ⟨r, hdecode, hasked, hread⟩ := j.state.registry.decode_eq payload
    have hanswer : Bench.answer handler marking (.decode payload) j.state = (r, j.state) := by
      simp only [Bench.answer, hdecode]
    rw [Option.bind_some, ← hread]
    dsimp only
    rw [noted_call, Journal.note_snd, hanswer]
    cases r with
    | error e =>
      cases e with
      | registry e => exact absurd rfl (hasked e)
      | malformed e => rfl
      | unknownSchema id => rfl
    | ok json => exact noted_handle x.1 json hclocks

/-- **The work on messages comes to what becomes of them**, from any journal. -/
theorem work_eq_upshot (stream : List (Fetched × T)) {j : Journal Unit Call Answer (Bench S T)}
    (hregistry : j.state.registry = registry) (hahead : j.state.ahead = stream.map Prod.snd) :
    let done := work (Bench.answer handler marking) Bench.goOn true (stream.map Prod.fst) j
    let u := upshot handler registry stream j.state.service
    done.1 = some u.result ∧ marks (done.2.log ()) = marks (j.log ()) ++ u.marked
      ∧ done.2.state.service = u.service := by
  induction stream generalizing j with
  | nil =>
    dsimp only
    rw [List.map_nil, work_nil, Bool.or_true, if_pos rfl]
    refine ⟨rfl, (List.append_nil _).symm, ?_⟩
    unfold look Bench.goOn
    rw [hahead]
    rfl
  | cons x rest ih =>
    have hlook : look Bench.goOn j
        = { j with state := { j.state with clocks := x.2, ahead := rest.map Prod.snd } } := by
      unfold look Bench.goOn
      rw [hahead]
      rfl
    have hgo : (Bench.goOn j.state).1 = false := by
      unfold Bench.goOn
      split <;> rfl
    have hmarks := marks_noted (Bench.answer handler marking) x.1 (look Bench.goOn j)
    have hone := noted_process handler marking x
      (j := look Bench.goOn j) (by rw [hlook])
    have hlog : (look Bench.goOn j).log () = j.log () := rfl
    dsimp only
    rw [List.map_cons, work_cons, hgo, if_neg (by simp)]
    rw [hlog] at hmarks
    cases hdone : noted (Bench.answer handler marking) (process x.1) (look Bench.goOn j) with
    | mk r j' =>
      rw [hdone] at hmarks hone
      rw [hlook] at hone
      dsimp only at hone hmarks ⊢
      rw [hregistry] at hone
      have hpassed : ∀ s', r = .ok () → j'.state.service = s' → j'.state.registry = registry →
          j'.state.ahead = rest.map Prod.snd →
          let done := work (Bench.answer handler marking) Bench.goOn true (rest.map Prod.fst) j'
          let u := (upshot handler registry rest s').after x.1
          done.1 = some u.result ∧ marks (done.2.log ()) = marks (j.log ()) ++ u.marked
            ∧ done.2.state.service = u.service := by
        rintro s' rfl rfl hregistry' hahead'
        obtain ⟨hresult, hmarked, hservice⟩ := ih hregistry' hahead'
        refine ⟨hresult, ?_, hservice⟩
        rw [hmarked, hmarks, List.append_assoc]
        rfl
      unfold upshot
      cases hread : x.1.json? registry with
      | none =>
        rw [hread] at hone
        obtain ⟨rfl, hstate⟩ := Prod.mk.inj hone
        exact hpassed _ rfl (by rw [hstate]) (by rw [hstate]) (by rw [hstate])
      | some json =>
        rw [hread] at hone
        obtain ⟨hr, hstate⟩ := Prod.mk.inj hone
        dsimp only at hr hstate ⊢
        cases hhandled : handler x.2 json j.state.service with
        | mk handled s' =>
          rw [hhandled] at hr hstate
          cases handled with
          | ok u =>
            obtain rfl : r = .ok () := hr
            exact hpassed _ rfl (by rw [hstate]) (by rw [hstate]) (by rw [hstate])
          | error e =>
            obtain rfl : r = .error (.onMessage x.1 e.message) := hr
            refine ⟨rfl, ?_, by rw [hstate]⟩
            rw [hmarks]
            rfl

variable (handler marking registry) in
/-- **Consuming messages comes to what becomes of them.** -/
theorem consume_eq_upshot (clocks : T) (stream : List (Fetched × T)) (s : S) :
    let done := consume handler marking registry clocks stream s
    let u := upshot handler registry stream s
    done.1 = some u.result ∧ marks (done.2.log ()) = u.marked ∧ done.2.state.service = u.service :=
  work_eq_upshot stream rfl rfl

/-! ## What becomes of messages -/

variable (registry) in
/-- **What every message keeps all of them keep.** -/
theorem upshot_preserves {P : S → Prop} (hkeep : ∀ t json s, P s → P (handler t json s).2)
    (stream : List (Fetched × T)) {s : S} (hs : P s) :
    P (upshot handler registry stream s).service := by
  induction stream generalizing s with
  | nil => exact hs
  | cons x rest ih =>
    cases hread : x.1.json? registry with
    | none =>
      rw [upshot_of_unread hread]
      exact ih hs
    | some json =>
      have hs' := hkeep x.2 json s hs
      cases hhandled : handler x.2 json s with
      | mk r s' =>
        rw [hhandled] at hs'
        cases r with
        | ok u =>
          rw [upshot_of_handled hread hhandled]
          exact ih hs'
        | error e =>
          rw [upshot_of_failed hread hhandled]
          exact hs'

/-- **Messages of which the service takes no notice might as well not be there.** -/
theorem upshot_filter {P : S → Prop} (hkeep : ∀ t json s, P s → P (handler t json s).2)
    {p : Fetched → Bool} (hskip : ∀ m json t s, p m = false → m.json? registry = some json → P s →
      handler t json s = (.ok (), s)) (stream : List (Fetched × T)) {s : S} (hs : P s) :
    (upshot handler registry (stream.filter (p ·.1)) s).result
        = (upshot handler registry stream s).result
      ∧ (upshot handler registry (stream.filter (p ·.1)) s).service
        = (upshot handler registry stream s).service := by
  induction stream generalizing s with
  | nil => exact ⟨rfl, rfl⟩
  | cons x rest ih =>
    cases hp : p x.1 with
    | false =>
      rw [List.filter_cons_of_neg (by simp [hp])]
      cases hread : x.1.json? registry with
      | none =>
        rw [upshot_of_unread hread]
        exact ih hs
      | some json =>
        rw [upshot_of_handled hread (hskip x.1 json x.2 s hp hread hs)]
        exact ih hs
    | true =>
      rw [List.filter_cons_of_pos (by simp [hp])]
      cases hread : x.1.json? registry with
      | none =>
        rw [upshot_of_unread hread, upshot_of_unread hread]
        exact ih hs
      | some json =>
        have hs' := hkeep x.2 json s hs
        cases hhandled : handler x.2 json s with
        | mk r s' =>
          rw [hhandled] at hs'
          cases r with
          | ok u =>
            rw [upshot_of_handled hread hhandled, upshot_of_handled hread hhandled]
            exact ih hs'
          | error e =>
            rw [upshot_of_failed hread hhandled, upshot_of_failed hread hhandled]
            exact ⟨rfl, rfl⟩

/-- **How the work on messages ends**: all are marked, or all before the one on which the
handler fails. -/
def Ends (handler : Handler S T) (registry : MemoryRegistry) (stream : List (Fetched × T)) (s : S)
    (u : Upshot S) : Prop :=
  (u.result = .ok () ∧ u.marked = stream.map Prod.fst)
    ∨ ∃ before x rest json e, stream = before ++ x :: rest ∧ u.marked = before.map Prod.fst
      ∧ x.1.json? registry = some json
      ∧ (upshot handler registry before s).result = .ok ()
      ∧ handler x.2 json (upshot handler registry before s).service = (.error e, u.service)
      ∧ u.result = .error (.onMessage x.1 e.message)

/-- A message that is marked goes before the others, whichever way they end. -/
theorem Ends.cons {x : Fetched × T} {rest : List (Fetched × T)} {s s' : S} {u : Upshot S}
    (h : Ends handler registry rest s' u) (hnext : ∀ before,
      upshot handler registry (x :: before) s = (upshot handler registry before s').after x.1) :
    Ends handler registry (x :: rest) s (u.after x.1) := by
  rcases h with ⟨hok, hmarked⟩ | ⟨before, y, rest', json, e, rfl, hmarked, hread, hok, hhandled,
    hresult⟩
  · exact .inl ⟨hok, congrArg (x.1 :: ·) hmarked⟩
  · refine .inr ⟨x :: before, y, rest', json, e, rfl, congrArg (x.1 :: ·) hmarked, hread, ?_, ?_,
      hresult⟩
    · rw [hnext]
      exact hok
    · rw [hnext]
      exact hhandled

variable (handler registry) in
theorem ends_upshot (stream : List (Fetched × T)) (s : S) :
    Ends handler registry stream s (upshot handler registry stream s) := by
  induction stream generalizing s with
  | nil => exact .inl ⟨rfl, rfl⟩
  | cons x rest ih =>
    cases hread : x.1.json? registry with
    | none =>
      rw [upshot_of_unread hread]
      exact (ih s).cons fun _ => upshot_of_unread hread
    | some json =>
      cases hhandled : handler x.2 json s with
      | mk r s' =>
        cases r with
        | ok u =>
          rw [upshot_of_handled hread hhandled]
          exact (ih s').cons fun _ => upshot_of_handled hread hhandled
        | error e =>
          rw [upshot_of_failed hread hhandled]
          exact .inr ⟨[], x, rest, json, e, rfl, rfl, hread, rfl, hhandled, rfl⟩

/-- **Times that make no difference to the service make none to the consumer.** -/
theorem upshot_congr {R : S → S → Prop} (hR : ∀ t t' json s s', R s s' →
      (handler t json s).1 = (handler t' json s').1 ∧ R (handler t json s).2 (handler t' json s').2)
    {stream stream' : List (Fetched × T)} (hsame : stream.map Prod.fst = stream'.map Prod.fst)
    {s s' : S} (hs : R s s') :
    (upshot handler registry stream s).result = (upshot handler registry stream' s').result
      ∧ R (upshot handler registry stream s).service
        (upshot handler registry stream' s').service := by
  induction stream generalizing stream' s s' with
  | nil =>
    obtain rfl := List.map_eq_nil_iff.1 hsame.symm
    exact ⟨rfl, hs⟩
  | cons x rest ih =>
    obtain ⟨y, rest', rfl, hy, hrest⟩ := List.map_eq_cons_iff.1 hsame.symm
    cases hread : x.1.json? registry with
    | none =>
      rw [upshot_of_unread hread, upshot_of_unread (hy ▸ hread)]
      exact ih hrest.symm hs
    | some json =>
      have hone := hR x.2 y.2 json s s' hs
      cases hx : handler x.2 json s with
      | mk r t =>
        cases hx' : handler y.2 json s' with
        | mk r' t' =>
          rw [hx, hx'] at hone
          obtain ⟨hsame', ht⟩ := hone
          obtain rfl : r = r' := hsame'
          cases r with
          | ok u =>
            rw [upshot_of_handled hread hx, upshot_of_handled (hy ▸ hread) hx']
            exact ih hrest.symm ht
          | error e =>
            rw [upshot_of_failed hread hx, upshot_of_failed (hy ▸ hread) hx', hy]
            exact ⟨rfl, ht⟩

end Claim

end CourierDispatch
