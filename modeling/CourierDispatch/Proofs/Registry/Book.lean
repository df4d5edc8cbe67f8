import CourierDispatch.Bus.Decoder
import CourierDispatch.Bus.Encoder
import CourierDispatch.Proofs.Registry.Callers
import Mathlib.Data.Finset.Card
import Mathlib.Data.List.Basic

/-!
# Registries by their books

What a registry has been told is one list: the pairs of a subject and a schema text, each where
it first came. A number is a place in the list, counted from one. `Book.operations` is the
registry that keeps this list and nothing else, and other registries are compared with it.

Two registries are alike if they give the same answers from related states and stay related
(`Simulates`). Looking at their two operations is enough, whatever is then done with them: events
that are encoded and messages that are decoded come out the same (`Simulates.perform`), and so do
the answers to requests in any number (`agree_mapM`).

The registry within the process is alike its book as long as numbers do not run out
(`MemoryRegistry.simulates_book`).
-/

namespace CourierDispatch.Registry

open Avro (Codec)

/-! ## Registries that answer alike -/

section alike

variable {σ τ α β γ : Type} {R : σ → τ → Prop}

/-- Two outcomes are alike: the same answer, and related states. -/
def Agree (R : σ → τ → Prop) (x : α × σ) (y : α × τ) : Prop := x.1 = y.1 ∧ R x.2 y.2

theorem agree_pure {a : α} {s : σ} {t : τ} (h : R s t) :
    Agree R ((pure a : StateM σ α) s) ((pure a : StateM τ α) t) := ⟨rfl, h⟩

theorem agree_bind {m : StateM σ α} {m' : StateM τ α} {f : α → StateM σ β} {f' : α → StateM τ β}
    {s : σ} {t : τ} (h : Agree R (m s) (m' t))
    (hf : ∀ a s t, R s t → Agree R (f a s) (f' a t)) : Agree R ((m >>= f) s) ((m' >>= f') t) := by
  show Agree R (f (m s).1 (m s).2) (f' (m' t).1 (m' t).2)
  rw [h.1]
  exact hf _ _ _ h.2

/-- **What is alike step by step is alike throughout.** -/
theorem agree_mapM {f : γ → StateM σ α} {f' : γ → StateM τ α} {l : List γ}
    (hf : ∀ c ∈ l, ∀ s t, R s t → Agree R (f c s) (f' c t)) {s : σ} {t : τ} (h : R s t) :
    Agree R (l.mapM f s) (l.mapM f' t) := by
  induction l generalizing s t with
  | nil => exact ⟨rfl, h⟩
  | cons c l ih =>
    obtain ⟨hc, hl⟩ := List.forall_mem_cons.1 hf
    rw [List.mapM_cons, List.mapM_cons]
    exact agree_bind (hc s t h) fun a s t h =>
      agree_bind (ih hl h) fun as s t h => agree_pure h

/-- **Two registries that answer alike** as long as only pairs with `P` are registered: their
operations have the same answers in related states and leave related states behind. -/
structure Simulates (P : String × String → Prop) (R : σ → τ → Prop) (r : Registry σ)
    (r' : Registry τ) : Prop where
  /-- Numbers are the same. -/
  register : ∀ {subject text s t}, P (subject, text) → R s t →
    Agree R (r.register subject text s) (r'.register subject text t)
  /-- Codecs are the same. -/
  resolve : ∀ {id s t}, R s t → Agree R (r.resolve id s) (r'.resolve id t)

end alike

/-! ## Requests -/

/-- **What is asked of a registry**, by itself or on the way from an event to a message and
back. -/
inductive Request where
  /-- The number of a schema text for the values of a topic. -/
  | register (topic text : String)
  /-- The codec of a number. -/
  | resolve (id : UInt32)
  /-- The message of an event, by the schema text of a topic's values. -/
  | encode (topic text : String) (event : Json)
  /-- The JSON form of a message. -/
  | decode (message : Bytes)

/-- **What comes of a request.** -/
inductive Answer where
  /-- A number. -/
  | number (a : Except RegistryError UInt32)
  /-- A codec. -/
  | codec (a : Except RegistryError Codec)
  /-- A message. -/
  | message (a : Except PublishError Bytes)
  /-- A JSON value. -/
  | json (a : Except DecodeError Json)

namespace Request

/-- The topic and the schema text that a request may register. -/
def registers? : Request → Option (String × String)
  | register topic text => some (topic, text)
  | encode topic text _ => some (topic, text)
  | resolve _ => none
  | decode _ => none

/-- The subject and the schema text that a request may register. -/
def pair? (q : Request) : Option (String × String) :=
  q.registers?.map fun p => (Topic.valueSubject p.1, p.2)

variable {σ τ : Type}

/-- **A request to a registry.** -/
def perform (r : Registry σ) : Request → StateM σ Answer
  | register topic text => .number <$> r.register (Topic.valueSubject topic) text
  | resolve id => .codec <$> r.resolve id
  | encode topic text event => .message <$> (Encoder.ofTopic topic text).encode r event
  | decode message => .json <$> r.decode message

end Request

section alike

variable {σ τ α β : Type} {R : σ → τ → Prop} {P : String × String → Prop} {r : Registry σ}
  {r' : Registry τ} {s : σ} {t : τ}

theorem Agree.map {m : StateM σ α} {m' : StateM τ α} (h : Agree R (m s) (m' t)) (f : α → β) :
    Agree R ((f <$> m) s) ((f <$> m') t) :=
  ⟨congrArg f h.1, h.2⟩

/-- Events become the same messages. -/
theorem Simulates.encode (h : Simulates P R r r') (e : Encoder)
    (hpair : P (e.subject, e.schemaText)) (event : Json) (hR : R s t) : Agree R (e.encode r event s) (e.encode r' event t) := by
  unfold Encoder.encode
  refine agree_bind (h.register hpair hR) fun number s t hR => ?_
  cases number with
  | error err => exact agree_pure hR
  | ok id =>
    refine agree_bind (h.resolve hR) fun codec s t hR => ?_
    cases codec with
    | error err => exact agree_pure hR
    | ok c =>
      dsimp only
      cases c.binaryOfJson event with
      | error err => exact agree_pure hR
      | ok payload => exact agree_pure hR

/-- Messages become the same JSON values. -/
theorem Simulates.decode (h : Simulates P R r r') (message : Bytes) (hR : R s t) :
    Agree R (r.decode message s) (r'.decode message t) := by
  unfold Registry.decode
  cases Envelope.decode message with
  | error fault => exact agree_pure hR
  | ok envelope =>
    refine agree_bind (h.resolve hR) fun codec s t hR => ?_
    cases codec with
    | error err => exact agree_pure hR
    | ok c =>
      dsimp only
      cases c.jsonOfBinary envelope.payload with
      | error err => exact agree_pure hR
      | ok json => exact agree_pure hR

/-- **Registries that are alike answer every request alike.** -/
theorem Simulates.perform (h : Simulates P R r r') (q : Request) (hpair : ∀ p ∈ q.pair?, P p)
    (hR : R s t) : Agree R (q.perform r s) (q.perform r' t) := by
  cases q with
  | register topic text => exact (h.register (hpair _ rfl) hR).map _
  | resolve id => exact (h.resolve hR).map _
  | encode topic text event => exact (h.encode (.ofTopic topic text) (hpair _ rfl) event hR).map _
  | decode message => exact (h.decode message hR).map _

end alike

/-! ## Books -/

/-- **The book of a registry**: the pairs of a subject and a schema text that have a number, in
the order of their numbers. -/
structure Book where
  /-- The pairs, first registered first. -/
  pairs : List (String × String) := []
  /-- No pair is registered twice. -/
  nodup : pairs.Nodup := by simp

namespace Book

/-- The number of a pair that has one: its place, counted from one. -/
def number (b : Book) (p : String × String) : UInt32 := UInt32.ofNat (b.pairs.idxOf p + 1)

/-- The schema text of a number. -/
def text? (b : Book) (id : UInt32) : Option String :=
  match id.toNat with
  | 0 => none
  | n + 1 => b.pairs[n]?.map Prod.snd

/-- The book in which a pair has a number. -/
def enter (p : String × String) (b : Book) : Book :=
  if h : p ∈ b.pairs then b
  else ⟨b.pairs ++ [p], List.nodup_append.2 ⟨b.nodup, List.nodup_singleton p,
    fun _ ha _ hb hab => h (List.mem_singleton.1 hb ▸ hab ▸ ha)⟩⟩

/-- **The registry that has a book and nothing else.** -/
def operations : Registry Book where
  register subject text := fun b =>
    match Codec.compile text with
    | .error e => (.error (.schema e), b)
    | .ok _ => (.ok ((b.enter (subject, text)).number (subject, text)), b.enter (subject, text))
  resolve id := fun b =>
    match b.text? id with
    | none => (.error (.schemaNotFound id), b)
    | some text =>
      match Codec.compile text with
      | .error e => (.error (.schema e), b)
      | .ok c => (.ok c, b)

variable {b b' : Book} {p q : String × String} {id : UInt32} {text : String}

theorem enter_of_mem (h : p ∈ b.pairs) : b.enter p = b := dif_pos h

theorem pairs_enter_of_notMem (h : p ∉ b.pairs) : (b.enter p).pairs = b.pairs ++ [p] := by
  rw [enter, dif_neg h]

theorem mem_enter : q ∈ (b.enter p).pairs ↔ q ∈ b.pairs ∨ q = p := by
  by_cases h : p ∈ b.pairs
  · rw [enter_of_mem h]
    exact ⟨.inl, fun hq => hq.elim id fun hqp => hqp ▸ h⟩
  · rw [pairs_enter_of_notMem h, List.mem_append, List.mem_singleton]

/-- **Nothing in a book is ever changed.** -/
theorem pairs_prefix_enter (p : String × String) (b : Book) : b.pairs <+: (b.enter p).pairs := by
  by_cases h : p ∈ b.pairs
  · rw [enter_of_mem h]
  · rw [pairs_enter_of_notMem h]
    exact List.prefix_append _ _

theorem pairs_prefix_register (subject text : String) (b : Book) :
    b.pairs <+: (operations.register subject text b).2.pairs := by
  unfold operations
  dsimp only
  cases Codec.compile text with
  | error e => exact List.prefix_rfl
  | ok c => exact pairs_prefix_enter (subject, text) b

theorem resolve_snd (id : UInt32) (b : Book) : (operations.resolve id b).2 = b := by
  unfold operations
  dsimp only
  cases b.text? id with
  | none => rfl
  | some text =>
    dsimp only
    cases Codec.compile text with
    | error e => rfl
    | ok c => rfl

/-- A pair keeps its number. -/
theorem number_of_prefix (h : b.pairs <+: b'.pairs) (hp : p ∈ b.pairs) :
    b'.number p = b.number p := by
  obtain ⟨l, hl⟩ := h
  rw [number, number, ← hl, List.idxOf_append_of_mem hp]

/-- A number keeps its text. -/
theorem text?_of_prefix (h : b.pairs <+: b'.pairs) (hid : b.text? id = some text) :
    b'.text? id = some text := by
  unfold text? at hid ⊢
  split at hid
  · exact nomatch hid
  · obtain ⟨p, hp, htext⟩ := Option.map_eq_some_iff.1 hid
    obtain ⟨l, hl⟩ := h
    rw [← hl, List.getElem?_append_left (List.getElem?_eq_some_iff.1 hp).1, hp, Option.map_some,
      htext]

/-- The text of a number is that of a pair. -/
theorem exists_pair_of_text? (h : b.text? id = some text) : ∃ p ∈ b.pairs, p.2 = text := by
  unfold text? at h
  split at h
  · exact nomatch h
  · obtain ⟨p, hp, htext⟩ := Option.map_eq_some_iff.1 h
    exact ⟨p, List.mem_of_getElem? hp, htext⟩

theorem text?_of_toNat {n : Nat} (h : id.toNat = n + 1) :
    b.text? id = b.pairs[n]?.map Prod.snd := by
  unfold text?
  rw [h]

theorem toNat_number (room : b.pairs.length < 2 ^ 32) (hp : p ∈ b.pairs) :
    (b.number p).toNat = b.pairs.idxOf p + 1 := by
  have := List.idxOf_lt_length_iff.2 hp
  rw [number, UInt32.toNat_ofNat', Nat.mod_eq_of_lt (by omega)]

/-- **The number of a pair stands for its text.** -/
theorem text?_number (room : b.pairs.length < 2 ^ 32) (hp : p ∈ b.pairs) :
    b.text? (b.number p) = some p.2 := by
  rw [text?_of_toNat (toNat_number room hp), List.getElem?_idxOf hp, Option.map_some]

section new

variable (room : (b.enter p).pairs.length < 2 ^ 32) (hp : p ∉ b.pairs)
include room hp

theorem toNat_number_enter : ((b.enter p).number p).toNat = b.pairs.length + 1 := by
  rw [toNat_number room (mem_enter.2 (.inr rfl)), pairs_enter_of_notMem hp,
    List.idxOf_append_of_notMem hp, List.idxOf_cons_self]

/-- The number of a new pair stood for nothing before. -/
theorem text?_number_enter : b.text? ((b.enter p).number p) = none := by
  rw [text?_of_toNat (toNat_number_enter room hp), List.getElem?_eq_none (Nat.le_refl _),
    Option.map_none]

/-- Other numbers stand for what they stood for. -/
theorem text?_enter_of_ne (hid : id ≠ (b.enter p).number p) :
    (b.enter p).text? id = b.text? id := by
  have hne : id.toNat ≠ b.pairs.length + 1 := fun h =>
    hid (UInt32.toNat_inj.1 (h.trans (toNat_number_enter room hp).symm))
  unfold text?
  split
  · rfl
  · next n hn =>
    rw [pairs_enter_of_notMem hp]
    by_cases hlt : n < b.pairs.length
    · rw [List.getElem?_append_left hlt]
    · rw [List.getElem?_eq_none (by rw [List.length_append, List.length_singleton]; omega),
        List.getElem?_eq_none (Nat.not_lt.1 hlt)]

end new

/-! ### Books that only hold schemas -/

/-- **A book within a set of pairs**, all of them with schemas. -/
structure Within (b : Book) (pairs : Finset (String × String)) : Prop where
  /-- No other pair is in the book. -/
  mem : ∀ p ∈ b.pairs, p ∈ pairs
  /-- What is in the book is a schema. -/
  compiles : ∀ p ∈ b.pairs, ∃ c, Codec.compile p.2 = .ok c

variable {pairs : Finset (String × String)}

theorem within_nil : Within {} pairs where
  mem _ h := nomatch h
  compiles _ h := nomatch h

theorem Within.enter (h : b.Within pairs) (hp : p ∈ pairs) {c : Codec}
    (hc : Codec.compile p.2 = .ok c) : (b.enter p).Within pairs where
  mem q hq := (mem_enter.1 hq).elim (h.mem q) fun hqp => hqp ▸ hp
  compiles q hq := (mem_enter.1 hq).elim (h.compiles q) fun hqp => ⟨c, hqp ▸ hc⟩

theorem Within.length_le (h : b.Within pairs) : b.pairs.length ≤ pairs.card := by
  rw [← List.toFinset_card_of_nodup b.nodup]
  exact Finset.card_le_card fun p hp => h.mem p (List.mem_toFinset.1 hp)

end Book

end CourierDispatch.Registry

/-! ## The registry within the process -/

namespace CourierDispatch.MemoryRegistry

open Avro (Codec)
open Registry (Book Simulates)

/-- **A registry keeps to a book**: it gives out the numbers of the book and has the codecs of
its texts. -/
structure Mirrors (m : MemoryRegistry) (b : Book) : Prop where
  /-- The last number is that of the last pair. -/
  last : m.lastId.toNat = b.pairs.length
  /-- The pairs have their numbers. -/
  ids : ∀ p, m.ids.get? p = if p ∈ b.pairs then some (b.number p) else none
  /-- The numbers have the codecs of their texts. -/
  codecs : ∀ id, m.codecs.get? id = (b.text? id).bind fun text => (Codec.compile text).toOption

theorem mirrors_empty : empty.Mirrors {} := by
  refine ⟨rfl, fun p => rfl, fun id => ?_⟩
  have hnone : Book.text? {} id = none := by
    unfold Book.text?
    split <;> rfl
  rw [hnone]
  rfl

variable {m : MemoryRegistry} {b : Book} {subject text : String} {c : Codec}

/-- **Both steps of registering keep to the book.** -/
theorem Mirrors.register (h : m.Mirrors b) (room : (b.enter (subject, text)).pairs.length < 2 ^ 32)
    (hc : Codec.compile text = .ok c) :
    (m.allocate subject text).1 = (b.enter (subject, text)).number (subject, text)
      ∧ ((m.allocate subject text).2.supply (m.allocate subject text).1 c).Mirrors
        (b.enter (subject, text)) := by
  by_cases hp : (subject, text) ∈ b.pairs
  · rw [Book.enter_of_mem hp] at room ⊢
    have htext := Book.text?_number room hp
    have hcodec : m.codecs.get? (b.number (subject, text)) = some c := by
      rw [h.codecs, htext, Option.bind_some, hc]
      rfl
    rw [allocate_known ((h.ids _).trans (if_pos hp))]
    refine ⟨rfl, h.last, h.ids, fun id => ?_⟩
    rw [get?_codecs_supply]
    split
    · next hid => rw [hcodec, hid, htext, Option.bind_some, hc]; rfl
    · exact h.codecs id
  · have hlast : m.lastId + 1 = (b.enter (subject, text)).number (subject, text) := by
      refine UInt32.toNat_inj.1 ?_
      rw [Book.toNat_number_enter room hp, UInt32.toNat_add, h.last, UInt32.toNat_one,
        Nat.mod_eq_of_lt]
      rw [Book.pairs_enter_of_notMem hp, List.length_append, List.length_singleton] at room
      exact room
    have htext := Book.text?_number room (Book.mem_enter.2 (.inr rfl))
    rw [allocate_new ((h.ids _).trans (if_neg hp)), hlast]
    refine ⟨rfl, ?_, fun q => ?_, fun id => ?_⟩
    · show ((b.enter (subject, text)).number (subject, text)).toNat = _
      rw [Book.toNat_number_enter room hp, Book.pairs_enter_of_notMem hp, List.length_append,
        List.length_singleton]
    · show (m.ids.put _ _).get? q = _
      rw [Table.get?_put, h.ids]
      by_cases hq : q = (subject, text)
      · rw [if_pos hq, if_pos (Book.mem_enter.2 (.inr hq)), hq]
      · rw [if_neg hq]
        by_cases hqb : q ∈ b.pairs
        · rw [if_pos hqb, if_pos (Book.mem_enter.2 (.inl hqb)),
            Book.number_of_prefix (Book.pairs_prefix_enter _ _) hqb]
        · rw [if_neg hqb, if_neg fun hmem => (Book.mem_enter.1 hmem).elim hqb hq]
    · rw [get?_codecs_supply]
      split
      · next hid =>
        show some ((m.codecs.get? _).getD c) = _
        rw [h.codecs, Book.text?_number_enter room hp, hid, htext, Option.bind_some, hc]
        rfl
      · next hid =>
        rw [Book.text?_enter_of_ne room hp hid]
        exact h.codecs id

/-- **The registry within the process answers as its book does**, as long as it is told fewer
than 2³² pairs. -/
theorem simulates_book {pairs : Finset (String × String)} (room : pairs.card < 2 ^ 32) :
    Simulates (· ∈ pairs) (fun m b => m.Mirrors b ∧ b.Within pairs) operations Book.operations where
  register {subject text m b} hp := by
    rintro ⟨hm, hb⟩
    show Registry.Agree _ (MemoryRegistry.register subject text m) _
    unfold MemoryRegistry.register Book.operations
    dsimp only
    cases hc : Codec.compile text with
    | error e => exact ⟨rfl, hm, hb⟩
    | ok c =>
      have hb' := hb.enter hp hc
      obtain ⟨hid, hm'⟩ := hm.register (Nat.lt_of_le_of_lt hb'.length_le room) hc
      exact ⟨congrArg Except.ok hid, hm', hb'⟩
  resolve {id m b} := by
    rintro ⟨hm, hb⟩
    show Registry.Agree _ (MemoryRegistry.resolve id m) _
    unfold MemoryRegistry.resolve Book.operations
    dsimp only
    rw [hm.codecs]
    cases htext : b.text? id with
    | none => exact ⟨rfl, hm, hb⟩
    | some text =>
      obtain ⟨p, hp, rfl⟩ := Book.exists_pair_of_text? htext
      obtain ⟨c, hc⟩ := hb.compiles p hp
      dsimp only [Option.bind_some]
      rw [hc]
      exact ⟨rfl, hm, hb⟩

end CourierDispatch.MemoryRegistry
