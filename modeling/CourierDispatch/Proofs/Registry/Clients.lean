import CourierDispatch.Bus.Message
import CourierDispatch.Proofs.Registry.Server
import CourierDispatch.Registry.Remote
import Mathlib.Logic.Function.Basic

/-!
# Clients of one server

Any number of clients ask one server, each remembers what it learned, and none knows of the
others. `Clients.operations` is the registry that one of them is, in a state that holds all.
The main result, `Clients.answers_eq`, says that nobody can tell them from one registry within
the process: requests spread over the clients get the very answers that the same requests get
there, refusals included.

Both are compared with the book of the server. What a client remembers is in the book
(`RemoteRegistry.Remembers`), and whatever is added to the book leaves that true, because
nothing in it is ever changed (`RemoteRegistry.Remembers.mono`). It does not matter which of
the three ways a codec or a number came to be remembered by, nor what others asked for in the
meantime.
-/

namespace CourierDispatch

open Avro (Codec)
open Registry (Book Serves Simulates Agree)

/-! ## One client -/

namespace RemoteRegistry

/-- **What a client remembers is in the book.** -/
structure Remembers (r : RemoteRegistry) (b : Book) : Prop where
  /-- Numbers are those of the book. -/
  ids : ∀ {p id}, r.ids.get? p = some id → p ∈ b.pairs ∧ b.number p = id
  /-- Codecs are those of its texts. -/
  codecs : ∀ {id c}, r.codecs.get? id = some c →
    ∃ text, b.text? id = some text ∧ Codec.compile text = .ok c

variable {r : RemoteRegistry} {b b' : Book} {id : UInt32} {text : String} {c : Codec}

theorem remembers_connect (url : String) (b : Book) : (connect url).Remembers b where
  ids h := nomatch h
  codecs h := nomatch h

/-- **What is added to the book leaves true what a client remembers.** -/
theorem Remembers.mono (h : r.Remembers b) (hb : b.pairs <+: b'.pairs) : r.Remembers b' where
  ids known := by
    obtain ⟨hp, hid⟩ := h.ids known
    exact ⟨hb.subset hp, (Book.number_of_prefix hb hp).trans hid⟩
  codecs known := by
    obtain ⟨text, htext, hc⟩ := h.codecs known
    exact ⟨text, Book.text?_of_prefix hb htext, hc⟩

/-- A codec of the book may be remembered. -/
theorem Remembers.putNew (h : r.Remembers b) (htext : b.text? id = some text)
    (hc : Codec.compile text = .ok c) :
    Remembers { r with codecs := r.codecs.putNew id c } b where
  ids := h.ids
  codecs known := by
    rcases Table.of_get?_putNew known with known | ⟨rfl, rfl⟩
    · exact h.codecs known
    · exact ⟨text, htext, hc⟩

/-- A number of the book may be remembered. -/
theorem Remembers.put {p : String × String} (h : r.Remembers b) (hp : p ∈ b.pairs)
    (hid : b.number p = id) : Remembers { r with ids := r.ids.put p id } b where
  ids {q j} known := by
    rw [Table.get?_put] at known
    split at known
    · next hq => exact hq ▸ ⟨hp, hid.trans (Option.some.inj known)⟩
    · exact h.ids known
  codecs := h.codecs

/-! ### Answers of the server -/

theorem registerRequest_eq (r : RemoteRegistry) (subject text : String) :
    r.registerRequest subject text = Registry.registration r.baseUrl subject text := rfl

theorem schemaRequest_eq (r : RemoteRegistry) (id : UInt32) :
    r.schemaRequest id = Registry.inquiry r.baseUrl id := rfl

theorem readId_of_isSuccess {reply : Http.Reply} (hsuccess : reply.isSuccess)
    (hid : Json.Record.readWord "id" reply.body = .ok id) : readId (some reply) = .ok id := by
  simp only [readId, hsuccess, hid]
  rfl

/-- What is a success is not missing. -/
theorem status_ne_notFound {reply : Http.Reply} (hsuccess : reply.isSuccess) :
    reply.status ≠ 404 := fun h => by
  rw [Http.Reply.isSuccess, h] at hsuccess
  exact absurd hsuccess (by decide)

theorem readSchema_of_isSuccess {reply : Http.Reply} (hsuccess : reply.isSuccess)
    (htext : Json.Record.readText "schema" reply.body = .ok text) :
    readSchema id (some reply) = match Codec.compile text with
      | .ok c => .ok c
      | .error e => .error (.schema e) := by
  simp only [readSchema, status_ne_notFound hsuccess, if_false, hsuccess, htext]
  rfl

theorem readSchema_of_notFound {reply : Http.Reply} (h : reply.status = 404) :
    readSchema id (some reply) = .error (.schemaNotFound id) :=
  if_pos h

theorem readSchema_of_refused {reply : Http.Reply} (found : reply.status ≠ 404)
    (refused : reply.isSuccess = false) :
    readSchema id (some reply) = .error (refusal reply) := by
  simp only [readSchema, found, if_false, refused]
  rfl

theorem readSchema_of_garbled {reply : Http.Reply} {fault : Json.Fault}
    (hsuccess : reply.isSuccess)
    (garbled : Json.Record.readText "schema" reply.body = .error fault) :
    readSchema id (some reply) = .error (.transport unreadable) := by
  simp only [readSchema, status_ne_notFound hsuccess, if_false, hsuccess, garbled]
  rfl

/-! ### A client keeps to the book -/

variable {σ : Type} {server : Http.Server σ} {address : String} {book : σ → Book}
  {pairs : Finset (String × String)}

/-- **A client and its server keep to a book** within a set of pairs. -/
structure Keeps (address : String) (book : σ → Book) (pairs : Finset (String × String))
    (s : RemoteRegistry × σ) (b : Book) : Prop where
  /-- The client knows the address of the server. -/
  address : s.1.baseUrl = address
  /-- The client remembers what is in the book. -/
  remembers : s.1.Remembers b
  /-- The book is that of the server. -/
  book : book s.2 = b
  /-- Nothing but the pairs is in the book. -/
  within : b.Within pairs

/-- Pairs that a server can be told: those with the subject of a topic with a plain name. -/
def IsPlain (p : String × String) : Prop :=
  ∃ topic : String, topic.toList.all Topic.isPlain ∧ p.1 = Topic.valueSubject topic

variable (hserver : Serves server address book) {s : RemoteRegistry × σ}
include hserver

/-- **Numbers are those of the book**, wherever the client takes them from. -/
theorem Keeps.register (hs : Keeps address book pairs s b) (room : pairs.card < 2 ^ 32)
    {subject : String} (hp : (subject, text) ∈ pairs) (hplain : IsPlain (subject, text)) :
    Agree (Keeps address book pairs) (register server subject text s)
      (Book.operations.register subject text b) := by
  obtain ⟨r, s⟩ := s
  obtain ⟨haddress, hr, hb, hwithin⟩ := hs
  obtain ⟨topic, hplain, hsubject⟩ := hplain
  dsimp only at haddress hr hb hsubject
  subst haddress hb hsubject
  unfold RemoteRegistry.register Book.operations
  dsimp only
  cases known : r.ids.get? (Topic.valueSubject topic, text) with
  | some id =>
    obtain ⟨hmem, hid⟩ := hr.ids known
    obtain ⟨c, hc⟩ := hwithin.compiles _ hmem
    dsimp only at hc ⊢
    rw [hc, Book.enter_of_mem hmem, hid]
    exact ⟨rfl, rfl, hr, rfl, hwithin⟩
  | none =>
    cases hc : Codec.compile text with
    | error e => exact ⟨rfl, rfl, hr, rfl, hwithin⟩
    | ok c =>
      have hwithin' := hwithin.enter hp hc
      have room' := Nat.lt_of_le_of_lt hwithin'.length_le room
      have hmem := Book.mem_enter (b := book s).2 (.inr (Eq.refl (Topic.valueSubject topic, text)))
      have hr' := hr.mono (Book.pairs_prefix_enter (Topic.valueSubject topic, text) (book s))
      obtain ⟨reply, s', hreply, hbook, hsuccess, hid⟩ := hserver.registers hplain hc room'
      rw [registerRequest_eq, hreply]
      dsimp only
      rw [readId_of_isSuccess hsuccess hid, hbook]
      exact ⟨rfl, rfl, (hr'.putNew (Book.text?_number room' hmem) hc).put hmem rfl, hbook, hwithin'⟩

/-- **Codecs are those of the book**, wherever the client takes them from. -/
theorem Keeps.resolve (hs : Keeps address book pairs s b) (id : UInt32) :
    Agree (Keeps address book pairs) (resolve server id s) (Book.operations.resolve id b) := by
  obtain ⟨r, s⟩ := s
  obtain ⟨haddress, hr, hb, hwithin⟩ := hs
  dsimp only at haddress hr hb
  subst haddress hb
  unfold RemoteRegistry.resolve Book.operations
  dsimp only
  cases known : r.codecs.get? id with
  | some c =>
    obtain ⟨text, htext, hc⟩ := hr.codecs known
    simp only [htext, hc]
    exact ⟨rfl, rfl, hr, rfl, hwithin⟩
  | none =>
    rw [schemaRequest_eq]
    cases htext : (book s).text? id with
    | none =>
      obtain ⟨reply, s', hreply, hbook, hstatus⟩ := hserver.misses htext
      rw [hreply]
      dsimp only
      rw [readSchema_of_notFound hstatus]
      exact ⟨rfl, rfl, hr, hbook, hwithin⟩
    | some text =>
      obtain ⟨reply, s', hreply, hbook, hsuccess, hread⟩ := hserver.finds htext
      rw [hreply]
      dsimp only
      rw [readSchema_of_isSuccess hsuccess hread]
      cases hc : Codec.compile text with
      | error e => exact ⟨rfl, rfl, hr, hbook, hwithin⟩
      | ok c => exact ⟨rfl, rfl, hr.putNew htext hc, hbook, hwithin⟩

end RemoteRegistry

/-! ## Many clients -/

/-- **Clients and the server that they share.** -/
structure Clients (ι σ : Type) where
  /-- The clients. -/
  client : ι → RemoteRegistry
  /-- The state of the server. -/
  server : σ

namespace Clients

open RemoteRegistry (IsPlain Keeps)

variable {ι σ : Type} [DecidableEq ι]

/-- What one client does with the server, with the others looking on. -/
def through (i : ι) {α : Type} (m : StateM (RemoteRegistry × σ) α) : StateM (Clients ι σ) α :=
  fun s =>
    let (a, r, t) := m (s.client i, s.server)
    (a, ⟨Function.update s.client i r, t⟩)

/-- **The registry that one of the clients is.** -/
def operations (server : Http.Server σ) (i : ι) : Registry (Clients ι σ) where
  register subject text := through i (RemoteRegistry.register server subject text)
  resolve id := through i (RemoteRegistry.resolve server id)

/-- **A request to one of the clients.** -/
def ask (server : Http.Server σ) (step : ι × Registry.Request) :
    StateM (Clients ι σ) Registry.Answer :=
  step.2.perform (operations server step.1)

/-- Clients that have not asked anything yet, each with an address of the server. -/
def connect (url : ι → String) (s : σ) : Clients ι σ := ⟨fun i => .connect (url i), s⟩

/-- **All clients and their server keep to one book.** -/
def Keep (address : ι → String) (book : σ → Book) (pairs : Finset (String × String))
    (s : Clients ι σ) (b : Book) : Prop :=
  ∀ i, Keeps (address i) book pairs (s.client i, s.server) b

variable {server : Http.Server σ} {address : ι → String} {book : σ → Book}
  {pairs : Finset (String × String)} {s : Clients ι σ} {b : Book}

/-- **What one client does is no harm to the others**, if it only adds to the book. -/
theorem Keep.through (h : Keep address book pairs s b) (i : ι) {α : Type}
    {m : StateM (RemoteRegistry × σ) α} {m' : StateM Book α}
    (hm : Agree (Keeps (address i) book pairs) (m (s.client i, s.server)) (m' b))
    (hb : b.pairs <+: (m' b).2.pairs) :
    Agree (Keep address book pairs) (Clients.through i m s) (m' b) := by
  obtain ⟨hanswer, hkeeps⟩ := hm
  refine ⟨hanswer, fun j => ?_⟩
  show Keeps (address j) book pairs
    (Function.update s.client i (m (s.client i, s.server)).2.1 j, _) _
  by_cases hj : j = i
  · subst hj
    rw [Function.update_self]
    exact hkeeps
  · rw [Function.update_of_ne hj]
    exact ⟨(h j).address, (h j).remembers.mono hb, hkeeps.book, hkeeps.within⟩

/-- **Every client answers as the book of the server does**, whatever the others ask for. -/
theorem simulates_book (hserver : ∀ i, Serves server (address i) book)
    (room : pairs.card < 2 ^ 32) (i : ι) :
    Simulates (fun p => p ∈ pairs ∧ IsPlain p) (Keep address book pairs) (operations server i)
      Book.operations where
  register hp h :=
    h.through i ((h i).register (hserver i) room hp.1 hp.2) (Book.pairs_prefix_register _ _ _)
  resolve {id s b} h := by
    refine h.through i ((h i).resolve (hserver i) id) ?_
    rw [Book.resolve_snd]

omit [DecidableEq ι] in
theorem keep_connect {url : ι → String} {t : σ} (hnew : book t = {}) :
    Keep (fun i => Http.trimSlashes (url i)) book pairs (connect url t) {} := fun _ =>
  ⟨rfl, RemoteRegistry.remembers_connect _ _, hnew, Book.within_nil⟩

/-- **Clients of one server are one registry within the process**, as far as anybody can tell
by asking. The server starts with an empty book; the requests come in any order, to whichever
clients, and register schema texts for fewer than 2³² pairs, under topics with plain names. -/
theorem answers_eq {url : ι → String} (hserver : ∀ i, Serves server (Http.trimSlashes (url i)) book)
    {t : σ} (hnew : book t = {}) (steps : List (ι × Registry.Request))
    (hplain : ∀ step ∈ steps, ∀ p ∈ step.2.registers?, p.1.toList.all Topic.isPlain)
    (room : (steps.filterMap fun step => step.2.pair?).toFinset.card < 2 ^ 32) :
    (steps.mapM (ask server) (connect url t)).1
      = (steps.mapM (fun step => step.2.perform MemoryRegistry.operations)
          MemoryRegistry.empty).1 := by
  have hpairs : ∀ step ∈ steps, ∀ p ∈ step.2.pair?,
      p ∈ (steps.filterMap fun step => step.2.pair?).toFinset ∧ IsPlain p := by
    intro step hstep p hp
    obtain ⟨q, hq, rfl⟩ := Option.map_eq_some_iff.1 hp
    exact ⟨List.mem_toFinset.2 (List.mem_filterMap.2 ⟨step, hstep, hp⟩), q.1,
      hplain step hstep q hq, rfl⟩
  -- Both sides answer as the book does.
  let inBook : ι × Registry.Request → StateM Book Registry.Answer :=
    fun step => step.2.perform Book.operations
  have hclients : (steps.mapM (ask server) (connect url t)).1 = (steps.mapM inBook {}).1 :=
    (Registry.agree_mapM (fun step hstep s b =>
      (simulates_book hserver room step.1).perform step.2 (hpairs step hstep))
      (keep_connect hnew)).1
  have hmemory : (steps.mapM (fun step => step.2.perform MemoryRegistry.operations)
      MemoryRegistry.empty).1 = (steps.mapM inBook {}).1 :=
    (Registry.agree_mapM (fun step hstep m b =>
      (MemoryRegistry.simulates_book room).perform step.2
        fun p hp => (hpairs step hstep p hp).1)
      ⟨MemoryRegistry.mirrors_empty, Book.within_nil⟩).1
  exact hclients.trans hmemory.symm

/-- Two clients, one of whom writes the address with a slash at the end. The first sends an event,
the second reads it and registers its schema as well; then the first asks for a number that was
never given out, and the second is given a text that is no schema. -/
theorem answers_eq_sender_and_reader :
    let url : Bool → String :=
      fun i => if i then "http://registry:8081/" else "http://registry:8081"
    let server := Book.serve "http://registry:8081"
    let event : Json := .object [("event", .string "created"),
      ("payload", .object [("order_id", .string "1")])]
    let steps : List (Bool × Registry.Request) :=
      [(false, .encode Topic.orders OrderMessage.schemaText event),
        (true, .decode [0, 0, 0, 0, 1, 14, 99, 114, 101, 97, 116, 101, 100, 2, 49]),
        (true, .register Topic.orders OrderMessage.schemaText), (false, .resolve 2),
        (true, .register Topic.orders "no schema")]
    (∀ i, Serves server (Http.trimSlashes (url i)) id)
      ∧ (∀ step ∈ steps, ∀ p ∈ step.2.registers?, p.1.toList.all Topic.isPlain)
      ∧ (steps.filterMap fun step => step.2.pair?).toFinset.card < 2 ^ 32
      ∧ (steps.mapM (ask server) (connect url {})).1
        = (steps.mapM (fun step => step.2.perform MemoryRegistry.operations)
            MemoryRegistry.empty).1 := by
  intro url server event steps
  have hserver : ∀ i, Serves server (Http.trimSlashes (url i)) id := fun i => by
    have haddress : Http.trimSlashes (url i) = "http://registry:8081" := by
      cases i <;> decide +kernel
    rw [haddress]
    exact Book.serves _
  have hplain : ∀ step ∈ steps, ∀ p ∈ step.2.registers?, p.1.toList.all Topic.isPlain := by
    decide
  have room : (steps.filterMap fun step => step.2.pair?).toFinset.card < 2 ^ 32 :=
    Nat.lt_of_le_of_lt (List.toFinset_card_le _) (by decide)
  exact ⟨hserver, hplain, room, answers_eq hserver rfl steps hplain room⟩

end Clients

end CourierDispatch
