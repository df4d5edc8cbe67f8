import CourierDispatch.Registry.Remote

/-!
# What a client learns

A client that is asked for a codec or a number knows the answer, or it sends one request and
learns from what the server says, whatever that is. `Learns` lists all that can come of a query;
what a client knows already is not asked for, what it did not know it remembers, and if there is
no answer it stays as it is.

So a client only ever knows more (`Learns.grows`), and all that it knows are schemas
(`Learns.sound`).
-/

namespace CourierDispatch.RemoteRegistry

open Avro (Codec)
open Registry (Query)

variable {σ : Type} {server : Http.Server σ} {r r' r'' : RemoteRegistry} {s s' : σ} {id : UInt32}
  {subject text : String}

/-- **All that can come of a query** to a client, who asks the server only for what it does not
know. -/
inductive Learns (server : Http.Server σ) (r : RemoteRegistry) (s : σ) :
    (q : Query) → q.Answer → RemoteRegistry → σ → Prop where
  /-- The codec is known. -/
  | knownCodec {id : UInt32} {c : Codec} (known : r.codecs.get? id = some c) :
    Learns server r s (.resolve id) (.ok c) r s
  /-- The server has told no codec. -/
  | noCodec {id : UInt32} {e : RegistryError} (unknown : r.codecs.get? id = none)
      (told : readSchema id (server (r.schemaRequest id) s).1 = .error e) :
    Learns server r s (.resolve id) (.error e) r (server (r.schemaRequest id) s).2
  /-- The server has told a codec. -/
  | codec {id : UInt32} {c : Codec} (unknown : r.codecs.get? id = none)
      (told : readSchema id (server (r.schemaRequest id) s).1 = .ok c) :
    Learns server r s (.resolve id) (.ok c) { r with codecs := r.codecs.putNew id c }
      (server (r.schemaRequest id) s).2
  /-- The number is known. -/
  | knownNumber {subject text : String} {id : UInt32}
      (known : r.ids.get? (subject, text) = some id) :
    Learns server r s (.register subject text) (.ok id) r s
  /-- The text is no schema. -/
  | noSchema {subject text : String} {e : WireError} (unknown : r.ids.get? (subject, text) = none)
      (invalid : Codec.compile text = .error e) :
    Learns server r s (.register subject text) (.error (.schema e)) r s
  /-- The server has told no number. -/
  | noNumber {subject text : String} {c : Codec} {e : RegistryError}
      (unknown : r.ids.get? (subject, text) = none) (compiled : Codec.compile text = .ok c)
      (told : readId (server (r.registerRequest subject text) s).1 = .error e) :
    Learns server r s (.register subject text) (.error e) r
      (server (r.registerRequest subject text) s).2
  /-- The server has told a number. -/
  | number {subject text : String} {c : Codec} {id : UInt32}
      (unknown : r.ids.get? (subject, text) = none) (compiled : Codec.compile text = .ok c)
      (told : readId (server (r.registerRequest subject text) s).1 = .ok id) :
    Learns server r s (.register subject text) (.ok id)
      { r with codecs := r.codecs.putNew id c, ids := r.ids.put (subject, text) id }
      (server (r.registerRequest subject text) s).2

theorem learns_resolve (server : Http.Server σ) (r : RemoteRegistry) (s : σ) (id : UInt32) :
    Learns server r s (.resolve id) (resolve server id (r, s)).1 (resolve server id (r, s)).2.1
      (resolve server id (r, s)).2.2 := by
  unfold resolve
  dsimp only
  cases known : r.codecs.get? id with
  | some c => exact .knownCodec known
  | none =>
    dsimp only
    cases told : readSchema id (server (r.schemaRequest id) s).1 with
    | error e => exact .noCodec known told
    | ok c => exact .codec known told

theorem learns_register (server : Http.Server σ) (r : RemoteRegistry) (s : σ)
    (subject text : String) :
    Learns server r s (.register subject text) (register server subject text (r, s)).1
      (register server subject text (r, s)).2.1 (register server subject text (r, s)).2.2 := by
  unfold register
  dsimp only
  cases known : r.ids.get? (subject, text) with
  | some id => exact .knownNumber known
  | none =>
    dsimp only
    cases compiled : Codec.compile text with
    | error e => exact .noSchema known compiled
    | ok c =>
      dsimp only
      cases told : readId (server (r.registerRequest subject text) s).1 with
      | error e => exact .noNumber known compiled told
      | ok id => exact .number known compiled told

/-- **Whatever the server says, this is what comes of a query.** -/
theorem learns_ask (server : Http.Server σ) (q : Query) (x : RemoteRegistry × σ) :
    Learns server x.1 x.2 q ((operations server).ask q x).1 ((operations server).ask q x).2.1
      ((operations server).ask q x).2.2 := by
  cases q with
  | resolve id => exact learns_resolve server x.1 x.2 id
  | register subject text => exact learns_register server x.1 x.2 subject text

/-! ## What a client has to ask for -/

/-- **The requests that a query takes**: none if the client knows the answer, and none if the
text that is to be registered is no schema. -/
def requests (r : RemoteRegistry) : Query → List Http.Call
  | .resolve id => if r.codecs.contains id then [] else [r.schemaRequest id]
  | .register subject text =>
    if r.ids.contains (subject, text) then []
    else match Codec.compile text with
      | .ok _ => [r.registerRequest subject text]
      | .error _ => []

theorem requests_resolve_known {c : Codec} (known : r.codecs.get? id = some c) :
    r.requests (.resolve id) = [] := by
  simp [requests, Table.contains, known]

theorem requests_resolve_unknown (unknown : r.codecs.get? id = none) :
    r.requests (.resolve id) = [r.schemaRequest id] := by
  simp [requests, Table.contains, unknown]

theorem requests_register_known (known : r.ids.get? (subject, text) = some id) :
    r.requests (.register subject text) = [] := by
  simp [requests, Table.contains, known]

theorem requests_register_invalid {e : WireError} (invalid : Codec.compile text = .error e) :
    r.requests (.register subject text) = [] := by
  simp [requests, invalid]

theorem requests_register_unknown {c : Codec} (unknown : r.ids.get? (subject, text) = none)
    (compiled : Codec.compile text = .ok c) :
    r.requests (.register subject text) = [r.registerRequest subject text] := by
  simp [requests, Table.contains, unknown, compiled]

variable {q : Query} {a : q.Answer}

/-- A known codec is the answer. -/
theorem Learns.of_knownCodec {a : Query.Answer (.resolve id)} {c : Codec}
    (h : Learns server r s (.resolve id) a r' s') (known : r.codecs.get? id = some c) :
    a = .ok c := by
  cases h with
  | knownCodec known' => exact congrArg Except.ok (Option.some.inj (known'.symm.trans known))
  | noCodec unknown told => cases unknown.symm.trans known
  | codec unknown told => cases unknown.symm.trans known

/-- A known number is the answer. -/
theorem Learns.of_knownNumber {a : Query.Answer (.register subject text)}
    (h : Learns server r s (.register subject text) a r' s')
    (known : r.ids.get? (subject, text) = some id) : a = .ok id := by
  cases h with
  | knownNumber known' => exact congrArg Except.ok (Option.some.inj (known'.symm.trans known))
  | noSchema unknown invalid => cases unknown.symm.trans known
  | noNumber unknown compiled told => cases unknown.symm.trans known
  | number unknown compiled told => cases unknown.symm.trans known

/-- Without a codec the client stays as it is, and the server was asked. -/
theorem Learns.of_noCodec {e : RegistryError} (h : Learns server r s (.resolve id) (.error e) r' s') :
    r' = r ∧ (r.requests (.resolve id)).length = 1 := by
  cases h with
  | noCodec unknown told => exact ⟨rfl, by rw [requests_resolve_unknown unknown]; rfl⟩

/-- Without a codec it was the server that has told none. -/
theorem Learns.told_of_noCodec {e : RegistryError}
    (h : Learns server r s (.resolve id) (.error e) r' s') : r.codecs.get? id = none
      ∧ readSchema id (server (r.schemaRequest id) s).1 = .error e := by
  cases h with
  | noCodec unknown told => exact ⟨unknown, told⟩

/-- Without a number the client stays as it is, and the server was asked unless the text is no
schema. -/
theorem Learns.of_noNumber {e : RegistryError}
    (h : Learns server r s (.register subject text) (.error e) r' s') :
    r' = r ∧ ((r.requests (.register subject text)).length = 1
      ∨ ∃ e, Codec.compile text = .error e) := by
  cases h with
  | noSchema unknown invalid => exact ⟨rfl, .inr ⟨_, invalid⟩⟩
  | noNumber unknown compiled told =>
    exact ⟨rfl, .inl (by rw [requests_register_unknown unknown compiled]; rfl)⟩

/-- A codec that is answered is known from then on. -/
theorem Learns.codec_kept {c : Codec} (h : Learns server r s (.resolve id) (.ok c) r' s') :
    r'.codecs.get? id = some c := by
  cases h with
  | knownCodec known => exact known
  | codec unknown told => exact Table.get?_putNew_of_eq_none unknown

/-- A number that is answered is known from then on. -/
theorem Learns.number_kept (h : Learns server r s (.register subject text) (.ok id) r' s') :
    r'.ids.get? (subject, text) = some id := by
  cases h with
  | knownNumber known => exact known
  | number unknown compiled told => exact Table.get?_put_self _ _ _

/-! ## Nothing is forgotten -/

/-- **A later state of a client**: what it knew it still knows. -/
structure Grows (r r' : RemoteRegistry) : Prop where
  /-- The server is where it was. -/
  baseUrl : r'.baseUrl = r.baseUrl
  /-- What has a number keeps it. -/
  ids : ∀ {p id}, r.ids.get? p = some id → r'.ids.get? p = some id
  /-- A number keeps its codec. -/
  codecs : ∀ {id c}, r.codecs.get? id = some c → r'.codecs.get? id = some c

theorem Grows.refl (r : RemoteRegistry) : Grows r r := ⟨rfl, id, id⟩

theorem Grows.trans (h : Grows r r') (h' : Grows r' r'') : Grows r r'' :=
  ⟨h'.baseUrl.trans h.baseUrl, fun known => h'.ids (h.ids known),
    fun known => h'.codecs (h.codecs known)⟩

/-- **A query only adds to what a client knows**, whatever comes of it. -/
theorem Learns.grows (h : Learns server r s q a r' s') : Grows r r' := by
  cases h with
  | knownCodec known => exact .refl r
  | noCodec unknown told => exact .refl r
  | codec unknown told => exact ⟨rfl, id, Table.get?_putNew_of_eq_some⟩
  | knownNumber known => exact .refl r
  | noSchema unknown invalid => exact .refl r
  | noNumber unknown compiled told => exact .refl r
  | number unknown compiled told =>
    refine ⟨rfl, fun {p id} known => ?_, Table.get?_putNew_of_eq_some⟩
    have other : p ≠ _ := fun same => nomatch (same ▸ known).symm.trans unknown
    exact (Table.get?_put_of_ne _ other _).trans known

/-! ## All that is known are schemas -/

/-- **What holds of a client at every point.** -/
structure Sound (r : RemoteRegistry) : Prop where
  /-- A codec is that of a schema text. -/
  codecs : ∀ {id c}, r.codecs.get? id = some c → Codec.compile c.text = .ok c
  /-- What has a number is a schema. -/
  texts : ∀ {p id}, r.ids.get? p = some id → ∃ c, Codec.compile p.2 = .ok c
  /-- A number that is known has a codec. -/
  numbers : ∀ {p id}, r.ids.get? p = some id → ∃ c, r.codecs.get? id = some c

theorem sound_connect (url : String) : (connect url).Sound where
  codecs known := nomatch known
  texts known := nomatch known
  numbers known := nomatch known

/-- The text of a codec has this codec. -/
theorem compile_text {c : Codec} (h : Codec.compile text = .ok c) :
    Codec.compile c.text = .ok c := by
  rw [Codec.text_of_compile h, h]

/-- The codec that a server has told is that of a schema text. -/
theorem compile_of_readSchema {reply : Option Http.Reply} {c : Codec}
    (h : readSchema id reply = .ok c) : Codec.compile c.text = .ok c := by
  unfold readSchema at h
  split at h
  · cases h
  · split at h
    · cases h
    · split at h
      · cases h
      · split at h
        · split at h
          · next compiled => exact Except.ok.inj h ▸ compile_text compiled
          · cases h
        · cases h

theorem Sound.putNew (h : r.Sound) {c : Codec} (hc : Codec.compile c.text = .ok c) :
    Sound { r with codecs := r.codecs.putNew id c } where
  codecs known := by
    rcases Table.of_get?_putNew known with known | ⟨rfl, rfl⟩
    · exact h.codecs known
    · exact hc
  texts := h.texts
  numbers known := by
    obtain ⟨c', there⟩ := h.numbers known
    exact ⟨c', Table.get?_putNew_of_eq_some there⟩

/-- **No query makes a client know anything but schemas.** -/
theorem Learns.sound (h : Learns server r s q a r' s') (hr : r.Sound) : r'.Sound := by
  cases h with
  | knownCodec known => exact hr
  | noCodec unknown told => exact hr
  | codec unknown told => exact hr.putNew (compile_of_readSchema told)
  | knownNumber known => exact hr
  | noSchema unknown invalid => exact hr
  | noNumber unknown compiled told => exact hr
  | @number subject text c id unknown compiled told =>
    have hr' : Sound { r with codecs := r.codecs.putNew id c } := hr.putNew (compile_text compiled)
    refine ⟨hr'.codecs, fun {p j} known => ?_, fun {p j} known => ?_⟩
    · rw [Table.get?_put] at known
      split at known
      · next same => exact ⟨c, same ▸ compiled⟩
      · exact hr.texts known
    · rw [Table.get?_put] at known
      split at known
      · obtain rfl := Option.some.inj known
        exact ⟨_, (Table.get?_putNew _ _ _ _).trans (if_pos rfl)⟩
      · exact hr'.numbers known

end CourierDispatch.RemoteRegistry
