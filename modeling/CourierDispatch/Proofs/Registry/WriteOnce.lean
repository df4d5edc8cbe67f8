import CourierDispatch.Journal
import CourierDispatch.Proofs.Registry.Learning

/-!
# What a client has learned it keeps

Any number of queries are put to one client, and its server answers its requests as it likes: not
at all, with any status and any bytes, or with other numbers and other texts than before. The
server is overheard (`Http.overheard`), so that every query is noted together with the requests
that were sent for it.

The main result, `writeOnce`, says what may be relied on nevertheless. What the client has once
answered it answers again, without asking. A query that has failed leaves no trace: the client is
as it was, and the same query sends the same request. And no text goes to the server, or is
remembered, that is no schema.
-/

namespace CourierDispatch

open Avro (Codec)
open Registry (Query)

/-- **A server that is overheard**: beside its state stand the requests that it was sent, first
sent first. -/
def Http.overheard {σ : Type} (server : Http.Server σ) : Http.Server (σ × List Http.Call) :=
  fun call s => ((server call s.1).1, (server call s.1).2, s.2 ++ [call])

namespace RemoteRegistry

variable {σ : Type}

/-- **A query that was put to a client**, with what was answered, and with the client and its
overheard server before and after. -/
abbrev Asked (σ : Type) := Made Unit Query Query.Answer (RemoteRegistry × σ × List Http.Call)

/-- **Queries put to a new client**, one after another. -/
def asked (server : Http.Server σ) (url : String) (t : σ) (queries : List Query) :
    List (Asked σ) :=
  Journal.notes (operations (Http.overheard server)).ask () queries (connect url, t, [])

/-- The requests that were sent for a query. -/
def sent (m : Asked σ) : List Http.Call := m.after.2.2.drop m.before.2.2.length

/-- The query came to nothing. -/
def Failed (m : Asked σ) : Prop :=
  (∃ id e, m.answered = ⟨.resolve id, .error e⟩)
    ∨ ∃ subject text e, m.answered = ⟨.register subject text, .error e⟩

/-- **What may be relied on** by those who put queries to a client. -/
structure WriteOnce (made : List (Asked σ)) : Prop where
  /-- The client asks the server for what it does not know, and for nothing else. -/
  requests : ∀ m ∈ made, sent m = m.before.1.requests m.call
  /-- A codec that was answered is remembered. -/
  codec_kept : ∀ m ∈ made, ∀ id c, m.answered = ⟨.resolve id, .ok c⟩ →
    m.after.1.codecs.get? id = some c
  /-- For a number that was answered a codec is remembered. -/
  number_kept : ∀ m ∈ made, ∀ subject text id, m.answered = ⟨.register subject text, .ok id⟩ →
    ∃ c, m.after.1.codecs.get? id = some c
  /-- A codec that is remembered is the answer ever after, and no request is sent. -/
  codecs : made.Pairwise fun m m' => ∀ id c, m.after.1.codecs.get? id = some c →
    m'.call = .resolve id → m'.answered = ⟨.resolve id, .ok c⟩ ∧ sent m' = []
  /-- A number that was answered is the answer ever after, and there is a codec for it; no
  request is sent for either. -/
  numbers : made.Pairwise fun m m' => ∀ subject text id,
    m.answered = ⟨.register subject text, .ok id⟩ →
      (m'.call = .register subject text → m'.answered = m.answered ∧ sent m' = [])
        ∧ (m'.call = .resolve id → ∃ c, m'.answered = ⟨.resolve id, .ok c⟩ ∧ sent m' = [])
  /-- A query that fails leaves the client as it was. -/
  failures : ∀ m ∈ made, Failed m → m.after.1 = m.before.1
  /-- It was asked of the server, unless it was about a text that is no schema. -/
  failed_sent : ∀ m ∈ made, Failed m → (sent m).length = 1
    ∨ ∃ subject text e, m.call = .register subject text ∧ Codec.compile text = .error e
  /-- The same query sends the same request, when nothing but failures has come between. -/
  again : ∀ earlier m between m' later, made = earlier ++ m :: (between ++ m' :: later) →
    Failed m → (∀ n ∈ between, Failed n) → m'.call = m.call → sent m' = sent m
  /-- No request holds anything but the text of a schema. -/
  sent_schema : ∀ m ∈ made, ∀ call ∈ sent m, ∀ body, call.body = some body →
    ∃ text c, body = .object [("schema", .string text)] ∧ Codec.compile text = .ok c
  /-- Nothing is remembered but schemas. -/
  kept_schema : ∀ m ∈ made, m.after.1.Sound

/-! ## One query -/

section query

variable {server : Http.Server σ} {r r' : RemoteRegistry} {s s' : σ × List Http.Call} {q : Query}
  {a : q.Answer}

/-- **What is sent for a query is what the client has to ask for.** -/
theorem Learns.overheard (h : Learns (Http.overheard server) r s q a r' s') :
    s'.2 = s.2 ++ r.requests q := by
  cases h with
  | knownCodec known => rw [requests_resolve_known known, List.append_nil]
  | noCodec unknown told => rw [requests_resolve_unknown unknown]; rfl
  | codec unknown told => rw [requests_resolve_unknown unknown]; rfl
  | knownNumber known => rw [requests_register_known known, List.append_nil]
  | noSchema unknown invalid => rw [requests_register_invalid invalid, List.append_nil]
  | noNumber unknown compiled told => rw [requests_register_unknown unknown compiled]; rfl
  | number unknown compiled told => rw [requests_register_unknown unknown compiled]; rfl

/-- No request holds anything but the text of a schema. -/
theorem schema_of_mem_requests {call : Http.Call} (h : call ∈ r.requests q) {body : Json}
    (hbody : call.body = some body) :
    ∃ text c, body = .object [("schema", .string text)] ∧ Codec.compile text = .ok c := by
  cases q with
  | resolve id =>
    cases known : r.codecs.get? id with
    | some c =>
      rw [requests_resolve_known known] at h
      cases h
    | none =>
      rw [requests_resolve_unknown known] at h
      obtain rfl := List.mem_singleton.1 h
      cases hbody
  | register subject text =>
    cases known : r.ids.get? (subject, text) with
    | some id =>
      rw [requests_register_known known] at h
      cases h
    | none =>
      cases compiled : Codec.compile text with
      | error e =>
        rw [requests_register_invalid compiled] at h
        cases h
      | ok c =>
        rw [requests_register_unknown known compiled] at h
        obtain rfl := List.mem_singleton.1 h
        exact ⟨text, c, (Option.some.inj hbody).symm, compiled⟩

end query

/-! ## All queries -/

section asked

variable {server : Http.Server σ} {queries : List Query} {x : RemoteRegistry × σ × List Http.Call}
  {m : Asked σ}

/-- The queries put to a client that has come to know something already. -/
def askedFrom (server : Http.Server σ) (queries : List Query)
    (x : RemoteRegistry × σ × List Http.Call) : List (Asked σ) :=
  Journal.notes (operations (Http.overheard server)).ask () queries x

/-- **What is noted of a query is what came of it**, and later queries meet a client that knows
at least as much. -/
structure Course (server : Http.Server σ) (r : RemoteRegistry) (m : Asked σ) : Prop where
  /-- This came of the query. -/
  learns : Learns (Http.overheard server) m.before.1 m.before.2 m.call m.answer m.after.1 m.after.2
  /-- The client knew before what it had come to know. -/
  grows : Grows r m.before.1
  /-- It knew schemas only. -/
  sound : r.Sound → m.before.1.Sound

theorem course_of_mem (h : m ∈ askedFrom server queries x) : Course server x.1 m := by
  unfold askedFrom at h
  induction queries generalizing x with
  | nil => cases h
  | cons q queries ih =>
    have hq := learns_ask (Http.overheard server) q x
    rcases List.mem_cons.1 h with rfl | h
    · exact ⟨hq, .refl _, id⟩
    · have hm := ih h
      exact ⟨hm.learns, hq.grows.trans hm.grows, fun hsound => hm.sound (hq.sound hsound)⟩

/-- **Every query leaves behind a client that the later ones find**, or one that knows more. -/
theorem pairwise_course (server : Http.Server σ) (queries : List Query)
    (x : RemoteRegistry × σ × List Http.Call) :
    (askedFrom server queries x).Pairwise fun m m' => Course server m.after.1 m' := by
  induction queries generalizing x with
  | nil => exact List.Pairwise.nil
  | cons q queries ih => exact List.Pairwise.cons (fun m' hm' => course_of_mem hm') (ih _)

/-- What is noted behind some queries is what is noted of those that follow. -/
theorem exists_askedFrom_of_append {l l' : List (Asked σ)}
    (h : askedFrom server queries x = l ++ l') :
    ∃ queries' x', l' = askedFrom server queries' x' := by
  induction l generalizing queries x with
  | nil => exact ⟨queries, x, h.symm⟩
  | cons m l ih =>
    cases queries with
    | nil => cases h
    | cons q queries => exact ih (List.cons.inj h).2

namespace Course

variable {r : RemoteRegistry}

theorem sent_eq (h : Course server r m) : sent m = m.before.1.requests m.call := by
  unfold sent
  rw [h.learns.overheard, List.drop_left]

/-- A query that fails leaves the client as it was. -/
theorem eq_of_failed (h : Course server r m) (hfailed : Failed m) :
    m.after.1 = m.before.1 ∧ ((sent m).length = 1
      ∨ ∃ subject text e, m.call = .register subject text ∧ Codec.compile text = .error e) := by
  rw [h.sent_eq]
  have hlearns := h.learns
  obtain ⟨_, q, a, before, after⟩ := m
  rcases hfailed with ⟨id, e, ha⟩ | ⟨subject, text, e, ha⟩
  · cases ha
    exact ⟨hlearns.of_noCodec.1, .inl hlearns.of_noCodec.2⟩
  · cases ha
    exact ⟨hlearns.of_noNumber.1, hlearns.of_noNumber.2.imp_right fun ⟨e, he⟩ => ⟨_, _, e, rfl, he⟩⟩

/-- A codec that the client had come to know is the answer. -/
theorem of_knownCodec (h : Course server r m) {id : UInt32} {c : Codec}
    (known : r.codecs.get? id = some c) (hcall : m.call = .resolve id) :
    m.answered = ⟨.resolve id, .ok c⟩ ∧ sent m = [] := by
  have hknown := h.grows.codecs known
  rw [h.sent_eq]
  have hlearns := h.learns
  obtain ⟨_, q, a, before, after⟩ := m
  obtain rfl : q = .resolve id := hcall
  obtain rfl := hlearns.of_knownCodec hknown
  exact ⟨rfl, requests_resolve_known hknown⟩

/-- A number that the client had come to know is the answer. -/
theorem of_knownNumber (h : Course server r m) {subject text : String} {id : UInt32}
    (known : r.ids.get? (subject, text) = some id) (hcall : m.call = .register subject text) :
    m.answered = ⟨.register subject text, .ok id⟩ ∧ sent m = [] := by
  have hknown := h.grows.ids known
  rw [h.sent_eq]
  have hlearns := h.learns
  obtain ⟨_, q, a, before, after⟩ := m
  obtain rfl : q = .register subject text := hcall
  obtain rfl := hlearns.of_knownNumber hknown
  exact ⟨rfl, requests_register_known hknown⟩

/-- What was answered is known from then on. -/
theorem codec_kept (h : Course server r m) {id : UInt32} {c : Codec}
    (hanswered : m.answered = ⟨.resolve id, .ok c⟩) : m.after.1.codecs.get? id = some c := by
  have hlearns := h.learns
  obtain ⟨_, q, a, before, after⟩ := m
  cases hanswered
  exact hlearns.codec_kept

theorem number_kept (h : Course server r m) {subject text : String} {id : UInt32}
    (hanswered : m.answered = ⟨.register subject text, .ok id⟩) :
    m.after.1.ids.get? (subject, text) = some id := by
  have hlearns := h.learns
  obtain ⟨_, q, a, before, after⟩ := m
  cases hanswered
  exact hlearns.number_kept

end Course

/-- **As long as queries fail the client stays as it is.** -/
theorem before_eq_of_failed {between later : List (Asked σ)}
    (h : askedFrom server queries x = between ++ m :: later) (hbetween : ∀ n ∈ between, Failed n) :
    m.before.1 = x.1 := by
  induction between generalizing queries x with
  | nil =>
    cases queries with
    | nil => cases h
    | cons q queries =>
      obtain ⟨rfl, -⟩ := List.cons.inj h
      rfl
  | cons n between ih =>
    cases queries with
    | nil => cases h
    | cons q queries =>
      obtain ⟨hn, hbetween⟩ := List.forall_mem_cons.1 hbetween
      obtain ⟨hfirst, hrest⟩ := List.cons.inj h
      have hmem : n ∈ askedFrom server (q :: queries) x := by simp [h]
      have hcourse : Course server x.1 n := course_of_mem hmem
      have hafter := (hcourse.eq_of_failed hn).1
      rw [ih hrest hbetween]
      subst hfirst
      exact hafter

/-- The same query sends the same request, when nothing but failures has come between. -/
theorem sent_again {earlier between later : List (Asked σ)} {m' : Asked σ}
    (h : askedFrom server queries x = earlier ++ m :: (between ++ m' :: later)) (hm : Failed m)
    (hbetween : ∀ n ∈ between, Failed n) (hcall : m'.call = m.call) : sent m' = sent m := by
  have hcourse : ∀ n ∈ earlier ++ m :: (between ++ m' :: later), Course server x.1 n :=
    fun n hn => course_of_mem (h ▸ hn)
  obtain ⟨queries', x', hrest⟩ := exists_askedFrom_of_append h
  have hfirst : askedFrom server queries' x' = [] ++ m :: (between ++ m' :: later) := hrest.symm
  have hsecond : askedFrom server queries' x' = (m :: between) ++ m' :: later := hrest.symm
  have hbefore : m'.before.1 = m.before.1 := by
    rw [before_eq_of_failed hfirst (by simp)]
    exact before_eq_of_failed hsecond (List.forall_mem_cons.2 ⟨hm, hbetween⟩)
  rw [(hcourse m (by simp)).sent_eq, (hcourse m' (by simp)).sent_eq, hbefore, hcall]

/-- **What a client has learned it keeps, and what has failed leaves no trace**, whatever the
server says. -/
theorem writeOnce (server : Http.Server σ) (url : String) (t : σ) (queries : List Query) :
    WriteOnce (asked server url t queries) := by
  have hcourse : ∀ m ∈ asked server url t queries, Course server (connect url) m :=
    fun m hm => course_of_mem hm
  have hlater : (asked server url t queries).Pairwise fun m m' => Course server m.after.1 m' :=
    pairwise_course server queries (connect url, t, [])
  have hsound : ∀ m ∈ asked server url t queries, m.after.1.Sound := fun m hm =>
    (hcourse m hm).learns.sound ((hcourse m hm).sound (sound_connect url))
  exact {
    requests := fun m hm => (hcourse m hm).sent_eq
    codec_kept := fun m hm id c => (hcourse m hm).codec_kept
    number_kept := fun m hm subject text id hanswered =>
      (hsound m hm).numbers ((hcourse m hm).number_kept hanswered)
    codecs := hlater.imp fun h _ _ => h.of_knownCodec
    numbers := hlater.imp_of_mem fun {m m'} hm _ h subject text id hanswered => by
      have known := (hcourse m hm).number_kept hanswered
      refine ⟨fun hcall => ?_, fun hcall => ?_⟩
      · rw [hanswered]
        exact h.of_knownNumber known hcall
      · obtain ⟨c, hc⟩ := (hsound m hm).numbers known
        exact ⟨c, h.of_knownCodec hc hcall⟩
    failures := fun m hm hfailed => ((hcourse m hm).eq_of_failed hfailed).1
    failed_sent := fun m hm hfailed => ((hcourse m hm).eq_of_failed hfailed).2
    again := fun _ _ _ _ _ hmade hfailed hbetween hcall =>
      sent_again hmade hfailed hbetween hcall
    sent_schema := fun m hm call hcall body hbody =>
      schema_of_mem_requests ((hcourse m hm).sent_eq ▸ hcall) hbody
    kept_schema := hsound }

/-- A server that gives no answer at first, and then the same number to two texts. -/
example :
    let told : Http.Reply := ⟨200, Bytes.ofText "\x7b\"id\":7\x7d"⟩
    (asked (fun _ replies => (replies.headD none, replies.tail)) "http://registry:8081"
        [none, some told, some told]
        [.register "facts" "\"string\"", .register "facts" "\"string\"", .resolve 7,
          .register "facts" "\"bytes\"", .register "facts" "\"string\"",
          .resolve 7]).map (fun m => (sent m).length) = [1, 1, 0, 1, 0, 0] := by
  decide +kernel

end asked

end RemoteRegistry

end CourierDispatch
