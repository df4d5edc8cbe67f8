import CourierDispatch.Registry.Memory

/-!
# A registry among callers

Registering a schema takes two steps, and any number of callers may have made
the first and not yet the second. `Busy` is the registry together with the
registrations that are under way, and a `Move` is what some caller does to it
next, so that every state the registry can get into is that after some list
of moves.

Between the two steps of one caller a number exists that stands for no codec
yet. What holds at every point is `Sound`: numbers are told apart as long as
they have not run out, and a number only ever gets the codec of a text that
it was given for. `Grows` is the other half: no number and no codec is ever
taken back. Together they say what a caller may rely on, whatever others do
in the meantime (`Sound.codec_supply`, `Grows.codecs`).

Numbers run out after 2³² of them, and are then given out again. A codec that
is in place stays even then, which is why `Grows` needs no bound.
-/

namespace CourierDispatch.MemoryRegistry

/-! ## Callers -/

/-- **What a caller does next.** -/
inductive Move where
  /-- The first step of registering a schema text under a subject. -/
  | allocate (subject text : String)
  /-- The second step of the registration at a place among those under
  way. -/
  | supply (place : Nat)
  deriving DecidableEq

/-- Whether a move may give out a number. -/
def Move.allocates : Move → Bool
  | allocate _ _ => true
  | supply _ => false

/-- **The registry and the registrations under way**, each with the number it
got and the codec it is going to supply. -/
structure Busy where
  /-- The registry. -/
  registry : MemoryRegistry := empty
  /-- The registrations that have made their first step, first made
  first. -/
  underway : List (UInt32 × Avro.Codec) := []

namespace Busy

/-- **One move.** A text that is no schema is refused before the first
step. -/
def move (b : Busy) : Move → Busy
  | .allocate subject text =>
    match Avro.Codec.compile text with
    | .error _ => b
    | .ok c =>
      let (id, r) := b.registry.allocate subject text
      ⟨r, b.underway ++ [(id, c)]⟩
  | .supply place =>
    match b.underway[place]? with
    | none => b
    | some (id, c) => ⟨b.registry.supply id c, b.underway.eraseIdx place⟩

/-- Moves one after the other. -/
def run (b : Busy) (moves : List Move) : Busy := moves.foldl move b

/-- **The registry as one caller meets it** while others make their moves:
some between the two steps of registering, and some before a codec is looked
up. -/
def among (between beforehand : List Move) : Registry Busy where
  register subject text := fun b =>
    match Avro.Codec.compile text with
    | .error e => (.error (.schema e), b)
    | .ok c =>
      let (id, r) := b.registry.allocate subject text
      let b := { b with registry := r }.run between
      (.ok id, { b with registry := b.registry.supply id c })
  resolve id := fun b =>
    let b := b.run beforehand
    let (answer, r) := MemoryRegistry.resolve id b.registry
    (answer, { b with registry := r })

/-- Without other callers, registering is what it is within the process. -/
theorem register_among_nil (subject text : String) (b : Busy) :
    (among [] []).register subject text b =
      ((operations.register subject text b.registry).1,
        { b with registry := (operations.register subject text b.registry).2 }) := by
  show (match Avro.Codec.compile text with | .error _ => _ | .ok _ => _) =
    ((MemoryRegistry.register subject text b.registry).1,
      { b with registry := (MemoryRegistry.register subject text b.registry).2 })
  unfold MemoryRegistry.register
  cases Avro.Codec.compile text with
  | error e => rfl
  | ok c => rfl

/-- Without other callers, looking up is what it is within the process. -/
theorem resolve_among_nil (id : UInt32) (b : Busy) :
    (among [] []).resolve id b =
      ((operations.resolve id b.registry).1,
        { b with registry := (operations.resolve id b.registry).2 }) := rfl

/-- **All that a move can do**: nothing, or one of the two steps of a
registration. -/
theorem move_cases (b : Busy) (m : Move) :
    b.move m = b ∨
    (∃ subject text c, m = .allocate subject text ∧ Avro.Codec.compile text = .ok c ∧
      b.move m = ⟨(b.registry.allocate subject text).2,
        b.underway ++ [((b.registry.allocate subject text).1, c)]⟩) ∨
    ∃ place id c, m = .supply place ∧ (id, c) ∈ b.underway ∧
      b.move m = ⟨b.registry.supply id c, b.underway.eraseIdx place⟩ := by
  cases m with
  | allocate subject text =>
    simp only [move]
    cases compiled : Avro.Codec.compile text with
    | error e => exact .inl rfl
    | ok c => exact .inr (.inl ⟨subject, text, c, rfl, compiled, rfl⟩)
  | supply place =>
    simp only [move]
    cases found : b.underway[place]? with
    | none => exact .inl rfl
    | some e => exact .inr (.inr ⟨place, e.1, e.2, rfl, List.mem_of_getElem? found, rfl⟩)

end Busy

/-! ## Nothing is taken back -/

/-- **A later state of a registry**: numbers and codecs are still there. -/
structure Grows (r r' : MemoryRegistry) : Prop where
  /-- What has a number keeps it. -/
  ids : ∀ {p id}, r.ids.get? p = some id → r'.ids.get? p = some id
  /-- A number keeps its codec. -/
  codecs : ∀ {id c}, r.codecs.get? id = some c → r'.codecs.get? id = some c

theorem Grows.refl (r : MemoryRegistry) : Grows r r := ⟨id, id⟩

theorem Grows.trans {r r' r'' : MemoryRegistry} (h : Grows r r') (h' : Grows r' r'') :
    Grows r r'' :=
  ⟨fun found => h'.ids (h.ids found), fun found => h'.codecs (h.codecs found)⟩

variable {r : MemoryRegistry} {subject text : String}

theorem allocate_known {id : UInt32} (known : r.ids.get? (subject, text) = some id) :
    r.allocate subject text = (id, r) := by
  unfold allocate
  rw [known]

theorem allocate_new (known : r.ids.get? (subject, text) = none) :
    r.allocate subject text = (r.lastId + 1, { r with
      ids := r.ids.put (subject, text) (r.lastId + 1)
      lastId := r.lastId + 1
      registrations := r.registrations + 1 }) := by
  unfold allocate
  rw [known]

/-- The first step gives a pair the number that it reports, and leaves all
other pairs alone. -/
theorem get?_ids_allocate (subject text : String) (r : MemoryRegistry) (p : String × String) :
    (r.allocate subject text).2.ids.get? p =
      if p = (subject, text) then some (r.allocate subject text).1 else r.ids.get? p := by
  cases known : r.ids.get? (subject, text) with
  | none =>
    rw [allocate_new known]
    exact Table.get?_put _ _ _ _
  | some id =>
    rw [allocate_known known]
    split
    · next same => rw [same, known]
    · rfl

theorem codecs_allocate (subject text : String) (r : MemoryRegistry) :
    (r.allocate subject text).2.codecs = r.codecs := by
  unfold allocate
  split <;> rfl

theorem registrations_allocate_le (subject text : String) (r : MemoryRegistry) :
    (r.allocate subject text).2.registrations ≤ r.registrations + 1 := by
  unfold allocate
  split
  · exact Nat.le_succ _
  · exact Nat.le_refl _

theorem get?_codecs_supply (id : UInt32) (c : Avro.Codec) (r : MemoryRegistry) (j : UInt32) :
    (r.supply id c).codecs.get? j =
      if j = id then some ((r.codecs.get? id).getD c) else r.codecs.get? j :=
  Table.get?_putNew _ _ _ _

theorem grows_allocate (subject text : String) (r : MemoryRegistry) :
    Grows r (r.allocate subject text).2 where
  ids {p id} found := by
    rw [get?_ids_allocate]
    split
    · next same =>
      rw [same] at found
      rw [allocate_known found]
    · exact found
  codecs found := by rwa [codecs_allocate]

theorem grows_supply (id : UInt32) (c : Avro.Codec) (r : MemoryRegistry) :
    Grows r (r.supply id c) where
  ids found := found
  codecs found := Table.get?_putNew_of_eq_some found

theorem Busy.grows_move (b : Busy) (m : Move) : Grows b.registry (b.move m).registry := by
  obtain same | ⟨subject, text, c, -, -, moved⟩ | ⟨place, id, c, -, -, moved⟩ := b.move_cases m
  · rw [same]
    exact .refl _
  · rw [moved]
    exact grows_allocate subject text b.registry
  · rw [moved]
    exact grows_supply id c b.registry

/-- **Whatever callers do, nothing is taken back.** -/
theorem Busy.grows_run (b : Busy) (moves : List Move) :
    Grows b.registry (b.run moves).registry := by
  induction moves generalizing b with
  | nil => exact .refl _
  | cons m moves ih => exact (b.grows_move m).trans (ih (b.move m))

/-! ## Numbers and codecs -/

/-- A number may stand for a codec: it was given out for a text that has this
codec. -/
def Promised (r : MemoryRegistry) (id : UInt32) (c : Avro.Codec) : Prop :=
  ∃ p, r.ids.get? p = some id ∧ Avro.Codec.compile p.2 = .ok c

theorem Promised.mono {r r' : MemoryRegistry} {id : UInt32} {c : Avro.Codec} (grows : Grows r r')
    (h : Promised r id c) : Promised r' id c := by
  obtain ⟨p, known, compiled⟩ := h
  exact ⟨p, grows.ids known, compiled⟩

/-- **What holds of a registry at every point.** -/
structure Sound (r : MemoryRegistry) : Prop where
  /-- The last number counts the numbers given out, for as long as there are
  any. -/
  counted : r.lastId.toNat = r.registrations % 2 ^ 32
  /-- Numbers are counted up to the last one. -/
  numbered : r.registrations < 2 ^ 32 → ∀ {p id}, r.ids.get? p = some id →
    1 ≤ id.toNat ∧ id.toNat ≤ r.registrations
  /-- Until numbers run out, no two pairs have the same. -/
  distinct : r.registrations ≤ 2 ^ 32 → ∀ {p q id}, r.ids.get? p = some id →
    r.ids.get? q = some id → p = q
  /-- A codec is the one of a text that has its number. -/
  supplied : ∀ {id c}, r.codecs.get? id = some c → Promised r id c

namespace Sound

theorem empty : Sound MemoryRegistry.empty where
  counted := rfl
  numbered _ _ _ known := nomatch known
  distinct _ _ _ _ known := nomatch known
  supplied known := nomatch known

/-- A new number is none of those given out before. -/
theorem get?_ids_ne_new (h : r.Sound) (room : r.registrations < 2 ^ 32) {p : String × String} :
    r.ids.get? p ≠ some (r.lastId + 1) := by
  intro known
  obtain ⟨positive, le⟩ := h.numbered room known
  have last := h.counted
  rw [UInt32.toNat_add, UInt32.toNat_one] at positive le
  omega

theorem allocate (h : r.Sound) (subject text : String) : (r.allocate subject text).2.Sound := by
  cases known : r.ids.get? (subject, text) with
  | some id =>
    rw [allocate_known known]
    exact h
  | none =>
    have grows := grows_allocate subject text r
    have counted := h.counted
    have number : (r.lastId + 1).toNat = (r.lastId.toNat + 1) % 2 ^ 32 := by
      rw [UInt32.toNat_add, UInt32.toNat_one]
    rw [allocate_new known] at grows ⊢
    refine ⟨?_, fun room p id found => ?_, fun room p q id found found' => ?_,
      fun found => (h.supplied found).mono grows⟩
    · show (r.lastId + 1).toNat = (r.registrations + 1) % 2 ^ 32
      omega
    · change r.registrations + 1 < 2 ^ 32 at room
      show 1 ≤ id.toNat ∧ id.toNat ≤ r.registrations + 1
      rw [Table.get?_put] at found
      split at found
      · obtain rfl := Option.some.inj found
        omega
      · obtain ⟨positive, le⟩ := h.numbered (by omega) found
        exact ⟨positive, by omega⟩
    · change r.registrations + 1 ≤ 2 ^ 32 at room
      rw [Table.get?_put] at found found'
      -- Two pairs with one number: the new pair is one of them only if both are.
      split at found <;> split at found'
      · next hp hq => rw [hp, hq]
      · rw [← found] at found'
        exact absurd found' (h.get?_ids_ne_new (by omega))
      · rw [← found'] at found
        exact absurd found (h.get?_ids_ne_new (by omega))
      · exact h.distinct (by omega) found found'

theorem supply (h : r.Sound) {id : UInt32} {c : Avro.Codec} (promised : r.Promised id c) :
    (r.supply id c).Sound where
  counted := h.counted
  numbered := h.numbered
  distinct := h.distinct
  supplied {j c'} found := by
    rw [get?_codecs_supply] at found
    split at found
    · next same =>
      rw [same]
      cases there : r.codecs.get? id with
      | none =>
        rw [there, Option.getD_none] at found
        obtain rfl := Option.some.inj found
        exact promised.mono (grows_supply _ _ _)
      | some c'' =>
        rw [there, Option.getD_some] at found
        obtain rfl := Option.some.inj found
        exact (h.supplied there).mono (grows_supply _ _ _)
    · exact (h.supplied found).mono (grows_supply _ _ _)

/-- **After both steps a number stands for the codec of its text**, whoever
put it there: with numbers to spare, only callers of the same text can
have. -/
theorem codec_supply (h : r.Sound) (room : r.registrations ≤ 2 ^ 32) {id : UInt32}
    {c : Avro.Codec} (known : r.ids.get? (subject, text) = some id)
    (compiled : Avro.Codec.compile text = .ok c) : (r.supply id c).codecs.get? id = some c := by
  rw [get?_codecs_supply, if_pos rfl]
  cases there : r.codecs.get? id with
  | none => rfl
  | some c' =>
    obtain ⟨p, known', compiled'⟩ := h.supplied there
    obtain rfl := h.distinct room known known'
    rw [compiled] at compiled'
    rw [Option.getD_some, Except.ok.inj compiled']

end Sound

/-! ## Every point that can be reached -/

/-- The registry is sound, and what is under way will keep it so. -/
structure Busy.Sound (b : Busy) : Prop where
  /-- The registry is sound. -/
  registry : b.registry.Sound
  /-- A registration under way has a number that was given out for its
  text. -/
  underway : ∀ e ∈ b.underway, b.registry.Promised e.1 e.2

namespace Busy

theorem Sound.move {b : Busy} (h : b.Sound) (m : Move) : (b.move m).Sound := by
  have grows := b.grows_move m
  obtain same | ⟨subject, text, c, -, compiled, moved⟩ | ⟨place, id, c, -, mem, moved⟩ :=
    b.move_cases m
  · rw [same]
    exact h
  · rw [moved] at grows ⊢
    refine ⟨h.registry.allocate subject text, fun e he => ?_⟩
    rcases List.mem_append.1 he with old | new
    · exact (h.underway e old).mono grows
    · obtain rfl := List.mem_singleton.1 new
      exact ⟨(subject, text), (get?_ids_allocate _ _ _ _).trans (if_pos rfl), compiled⟩
  · rw [moved] at grows ⊢
    exact ⟨h.registry.supply (h.underway _ mem), fun e he =>
      (h.underway e (List.mem_of_mem_eraseIdx he)).mono grows⟩

theorem Sound.run {b : Busy} (h : b.Sound) (moves : List Move) : (b.run moves).Sound := by
  induction moves generalizing b with
  | nil => exact h
  | cons m moves ih => exact ih (h.move m)

/-- **Every state that callers can bring about is sound.** -/
theorem sound_run (moves : List Move) : (Busy.run {} moves).Sound :=
  Sound.run ⟨.empty, fun _ he => absurd he List.not_mem_nil⟩ moves

theorem registrations_move_le (b : Busy) (m : Move) :
    (b.move m).registry.registrations ≤
      b.registry.registrations + if m.allocates then 1 else 0 := by
  obtain same | ⟨subject, text, c, rfl, -, moved⟩ | ⟨place, id, c, -, -, moved⟩ := b.move_cases m
  · rw [same]
    exact Nat.le_add_right _ _
  · rw [moved]
    exact registrations_allocate_le subject text b.registry
  · rw [moved]
    exact Nat.le_add_right _ _

/-- Moves give out no more numbers than there are first steps among them. -/
theorem registrations_run_le (b : Busy) (moves : List Move) :
    (b.run moves).registry.registrations ≤
      b.registry.registrations + moves.countP Move.allocates := by
  induction moves generalizing b with
  | nil => exact Nat.le_refl _
  | cons m moves ih =>
    have first := b.registrations_move_le m
    have others := ih (b.move m)
    rw [List.countP_cons]
    show ((b.move m).run moves).registry.registrations ≤ _
    omega

end Busy

end CourierDispatch.MemoryRegistry
