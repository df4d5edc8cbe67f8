import CourierDispatch.Journal
import CourierDispatch.Proofs.Registry.Callers
import Mathlib.Data.Finset.Card
import Mathlib.Data.List.Induction
import Mathlib.Data.List.InsertIdx

/-!
# Every pair has a number of its own

Callers register schema texts and look numbers up, in any number and at the same time, so that
between the two steps of a registration anything else may happen. A chronicle
(`MemoryRegistry.Chronicle`) is the registry among its callers together with what has happened:
which pairs of a subject and a schema text a number was allocated for, and what was answered to
whom.

The main result, `dependable_run`, is what callers may rely on as long as there are fewer than 2³²
pairs. Equal pairs get equal numbers and different pairs different ones; the numbers in use are
those from one to the number of pairs; and whoever has been told a number finds the codec of his
text under it from that moment on, though others may have been first with either step.
-/

namespace CourierDispatch.MemoryRegistry

open Avro (Codec)
open Registry (Query)

/-! ## What happens at a registry -/

/-- **What can happen at a registry**: a caller who registers makes a move, or a number is looked
up. -/
inductive Act where
  /-- A move of a caller who registers. -/
  | move (m : Move)
  /-- A number is looked up. -/
  | resolve (id : UInt32)
  deriving DecidableEq

/-- The subject and the schema text that a caller begins to register. -/
def Act.pair? : Act → Option (String × String)
  | move (.allocate subject text) => some (subject, text)
  | _ => none

/-- **A registry among callers with what has happened.** -/
structure Chronicle where
  /-- The registry and the registrations under way. -/
  busy : Busy := {}
  /-- The registrations under way with what is registered, first made first. -/
  waiting : List ((String × String) × UInt32 × Codec) := []
  /-- The pairs for which the first step was made. -/
  allocated : List (String × String) := []
  /-- What was asked for and answered, in the order of the answers. -/
  returned : List (Answered Query Query.Answer) := []

namespace Chronicle

/-- **One act.** Who registers is answered after the second step, and at once if the text is no
schema. -/
def act (c : Chronicle) : Act → Chronicle
  | .move (.allocate subject text) =>
    match Codec.compile text with
    | .error e =>
      { c with returned := c.returned ++ [⟨.register subject text, .error (.schema e)⟩] }
    | .ok codec =>
      { c with
        busy := c.busy.move (.allocate subject text)
        waiting := c.waiting
          ++ [((subject, text), (c.busy.registry.allocate subject text).1, codec)]
        allocated := c.allocated ++ [(subject, text)] }
  | .move (.supply place) =>
    match c.waiting[place]? with
    | none => c
    | some (p, id, _) =>
      { c with
        busy := c.busy.move (.supply place)
        waiting := c.waiting.eraseIdx place
        returned := c.returned ++ [⟨.register p.1 p.2, .ok id⟩] }
  | .resolve id =>
    { c with
      returned := c.returned ++ [⟨.resolve id, (operations.resolve id c.busy.registry).1⟩] }

/-- Acts one after the other, at a registry without schemas. -/
def run (acts : List Act) : Chronicle := acts.foldl act {}

/-- The pairs that callers begin to register. -/
def pairs (acts : List Act) : Finset (String × String) := (acts.filterMap Act.pair?).toFinset

/-- A caller has been told a number. -/
def Told (c : Chronicle) (subject text : String) (id : UInt32) : Prop :=
  (⟨.register subject text, .ok id⟩ : Answered Query Query.Answer) ∈ c.returned

/-- **What callers may rely on**, after some acts have led to a chronicle. -/
structure Dependable (acts : List Act) (c : Chronicle) : Prop where
  /-- Equal pairs have equal numbers, and different pairs different ones. -/
  numbers : ∀ subject text id subject' text' id', c.Told subject text id →
    c.Told subject' text' id' → ((subject, text) = (subject', text') ↔ id = id')
  /-- The numbers in use are those from one to the number of registrations. -/
  in_use : ∀ id, (∃ p, c.busy.registry.ids.get? p = some id) ↔
    1 ≤ id.toNat ∧ id.toNat ≤ c.busy.registry.registrations
  /-- Numbers are in use for the pairs for which the first step was made. -/
  allocated : ∀ p, (∃ id, c.busy.registry.ids.get? p = some id) ↔ p ∈ c.allocated
  /-- There are as many registrations as pairs. -/
  counted : c.busy.registry.registrations = c.allocated.toFinset.card
  /-- A number that a caller was told is that of the pair, and it has the codec of the text, from
  then on and for ever. -/
  usable : ∀ subject text id, c.Told subject text id →
    c.busy.registry.ids.get? (subject, text) = some id
      ∧ ∃ codec, Codec.compile text = .ok codec ∧ codec.text = text
        ∧ ∀ later, operations.resolve id (run (acts ++ later)).busy.registry
          = (.ok codec, (run (acts ++ later)).busy.registry)
  /-- A number that is not in use is not found. -/
  unknown : ∀ id, (∀ p, c.busy.registry.ids.get? p ≠ some id) →
    operations.resolve id c.busy.registry = (.error (.schemaNotFound id), c.busy.registry)
  /-- Both steps at once are the operation of the registry. -/
  undisturbed : ∀ subject text,
    let done := (c.act (.move (.allocate subject text))).act (.move (.supply c.waiting.length))
    done.busy.registry = (operations.register subject text c.busy.registry).2
      ∧ done.returned = c.returned
        ++ [⟨.register subject text, (operations.register subject text c.busy.registry).1⟩]
  /-- Registering what is no schema changes nothing but that it is refused. -/
  invalid : ∀ subject text e, Codec.compile text = .error e →
    operations.register subject text c.busy.registry = (.error (.schema e), c.busy.registry)
      ∧ c.act (.move (.allocate subject text))
        = { c with returned := c.returned ++ [⟨.register subject text, .error (.schema e)⟩] }

/-! ## One act -/

/-- **All that an act can do**: at most answer somebody who is not told a number, or take one of
the two steps of a registration. -/
theorem act_cases (c : Chronicle) (a : Act) :
    (∃ l : List (Answered Query Query.Answer),
      (∀ subject text id, (⟨.register subject text, .ok id⟩ : Answered Query Query.Answer) ∉ l)
        ∧ c.act a = { c with returned := c.returned ++ l })
    ∨ (∃ subject text codec, a = .move (.allocate subject text) ∧ Codec.compile text = .ok codec
      ∧ c.act a = { c with
        busy := c.busy.move (.allocate subject text)
        waiting := c.waiting
          ++ [((subject, text), (c.busy.registry.allocate subject text).1, codec)]
        allocated := c.allocated ++ [(subject, text)] })
    ∨ ∃ place p id codec, a = .move (.supply place) ∧ c.waiting[place]? = some (p, id, codec)
      ∧ c.act a = { c with
        busy := c.busy.move (.supply place)
        waiting := c.waiting.eraseIdx place
        returned := c.returned ++ [⟨.register p.1 p.2, .ok id⟩] } := by
  cases a with
  | resolve id =>
    refine .inl ⟨_, fun subject text id' h => ?_, rfl⟩
    cases List.mem_singleton.1 h
  | move m =>
    cases m with
    | allocate subject text =>
      simp only [act]
      cases compiled : Codec.compile text with
      | error e =>
        refine .inl ⟨_, fun subject text id h => ?_, rfl⟩
        cases List.mem_singleton.1 h
      | ok codec => exact .inr (.inl ⟨subject, text, codec, rfl, compiled, rfl⟩)
    | supply place =>
      simp only [act]
      cases found : c.waiting[place]? with
      | none => exact .inl ⟨[], fun _ _ _ => List.not_mem_nil, by rw [List.append_nil]⟩
      | some w => exact .inr (.inr ⟨place, w.1, w.2.1, w.2.2, rfl, found, rfl⟩)

theorem run_concat (acts : List Act) (a : Act) : run (acts ++ [a]) = (run acts).act a := by
  unfold run
  rw [List.foldl_append]
  rfl

/-- What is true of the registry after each of the two steps is kept by every act. -/
theorem grows_act (c : Chronicle) (a : Act) : Grows c.busy.registry (c.act a).busy.registry := by
  obtain ⟨l, -, hact⟩ | ⟨subject, text, codec, -, -, hact⟩ | ⟨place, p, id, codec, -, -, hact⟩ :=
    c.act_cases a
  · rw [hact]
    exact .refl _
  · rw [hact]
    exact c.busy.grows_move _
  · rw [hact]
    exact c.busy.grows_move _

/-- **Whatever happens, nothing is taken back.** -/
theorem grows_run (acts later : List Act) :
    Grows (run acts).busy.registry (run (acts ++ later)).busy.registry := by
  induction later using List.reverseRecOn with
  | nil =>
    rw [List.append_nil]
    exact .refl _
  | append_singleton later a ih =>
    rw [← List.append_assoc, run_concat]
    exact ih.trans (grows_act _ a)

/-! ## What holds at every point -/

/-- **The numbers of a registry have been given to pairs**, one after another. -/
structure Counted (r : MemoryRegistry) (allocated : List (String × String)) : Prop where
  /-- The pairs that have a number are those for which one was allocated. -/
  given : ∀ p, (∃ id, r.ids.get? p = some id) ↔ p ∈ allocated
  /-- There are as many registrations as pairs. -/
  counted : r.registrations = allocated.toFinset.card
  /-- Every number up to the last one is that of some pair. -/
  covered : r.registrations < 2 ^ 32 → ∀ n, 1 ≤ n → n ≤ r.registrations →
    ∃ p, r.ids.get? p = some (UInt32.ofNat n)

variable {r : MemoryRegistry} {allocated : List (String × String)} {subject text : String}

/-- **The first step gives one more number at most**, and gives it to its pair. -/
theorem Counted.allocate (h : Counted r allocated) (hr : r.Sound) (subject text : String) :
    Counted (r.allocate subject text).2 (allocated ++ [(subject, text)]) := by
  have hgiven : ∀ p, (∃ id, (r.allocate subject text).2.ids.get? p = some id)
      ↔ p ∈ allocated ++ [(subject, text)] := fun p => by
    rw [get?_ids_allocate, List.mem_append, List.mem_singleton, ← h.given p]
    split
    · next same => exact iff_of_true ⟨_, rfl⟩ (.inr same)
    · next other => exact ⟨.inl, fun hp => hp.resolve_right other⟩
  have hinsert : (allocated ++ [(subject, text)]).toFinset
      = insert (subject, text) allocated.toFinset := by
    ext p
    simp [or_comm]
  refine ⟨hgiven, ?_, ?_⟩
  · rw [hinsert]
    cases known : r.ids.get? (subject, text) with
    | some id =>
      have hmem : (subject, text) ∈ allocated.toFinset :=
        List.mem_toFinset.2 ((h.given _).1 ⟨id, known⟩)
      rw [allocate_known known, Finset.insert_eq_of_mem hmem]
      exact h.counted
    | none =>
      have hnew : (subject, text) ∉ allocated.toFinset := fun hmem => by
        obtain ⟨id, hid⟩ := (h.given _).2 (List.mem_toFinset.1 hmem)
        cases known.symm.trans hid
      rw [allocate_new known, Finset.card_insert_of_notMem hnew, ← h.counted]
  · intro room n hpos hle
    cases known : r.ids.get? (subject, text) with
    | some id =>
      rw [allocate_known known] at room hle ⊢
      exact h.covered room n hpos hle
    | none =>
      have grows := grows_allocate subject text r
      rw [allocate_new known] at room hle grows ⊢
      change r.registrations + 1 < 2 ^ 32 at room
      change n ≤ r.registrations + 1 at hle
      rcases Nat.lt_or_eq_of_le hle with hlt | rfl
      · obtain ⟨p, hp⟩ := h.covered (by omega) n hpos (by omega)
        exact ⟨p, grows.ids hp⟩
      · -- The number that is given out now is the next one.
        have hcounted := hr.counted
        have hnext : r.lastId + 1 = UInt32.ofNat (r.registrations + 1) := by
          refine UInt32.toNat_inj.1 ?_
          rw [UInt32.toNat_add, UInt32.toNat_one, UInt32.toNat_ofNat']
          omega
        exact ⟨(subject, text), (Table.get?_put_self _ _ _).trans (congrArg some hnext)⟩

/-- **What holds of a chronicle at every point.** -/
structure Sound (c : Chronicle) : Prop where
  /-- The registry and those who register are sound. -/
  busy : c.busy.Sound
  /-- It is known what is registered by whom. -/
  underway : c.waiting.map Prod.snd = c.busy.underway
  /-- Who registers has the number of his pair, and the codec of his text. -/
  waiting : ∀ w ∈ c.waiting, c.busy.registry.ids.get? w.1 = some w.2.1
    ∧ Codec.compile w.1.2 = .ok w.2.2
  /-- Numbers are those of the pairs for which the first step was made. -/
  numbers : Counted c.busy.registry c.allocated
  /-- Until numbers run out, who was told a number finds his codec under it. -/
  told : c.busy.registry.registrations < 2 ^ 32 → ∀ {subject text id}, c.Told subject text id →
    c.busy.registry.ids.get? (subject, text) = some id
      ∧ ∃ codec, Codec.compile text = .ok codec
        ∧ c.busy.registry.codecs.get? id = some codec

theorem sound_empty : Sound {} where
  busy := ⟨.empty, fun _ he => absurd he List.not_mem_nil⟩
  underway := rfl
  waiting _ hw := absurd hw List.not_mem_nil
  numbers :=
    { given := fun _ => ⟨fun ⟨_, h⟩ => (nomatch h), fun h => absurd h List.not_mem_nil⟩
      counted := rfl
      covered := fun _ _ hpos hle => absurd (Nat.le_trans hpos hle) (Nat.not_succ_le_zero 0) }
  told _ _ _ _ h := absurd h List.not_mem_nil

section step

variable {c : Chronicle}

/-- Nothing holds less if somebody has been answered who was not told a number. -/
theorem Sound.answered (h : c.Sound) {l : List (Answered Query Query.Answer)}
    (hl : ∀ subject text id, (⟨.register subject text, .ok id⟩ : Answered Query Query.Answer) ∉ l) :
    Sound { c with returned := c.returned ++ l } where
  busy := h.busy
  underway := h.underway
  waiting := h.waiting
  numbers := h.numbers
  told room _ _ _ htold :=
    h.told room ((List.mem_append.1 htold).resolve_right (hl _ _ _))

/-- **The first step of a registration.** -/
theorem Sound.allocate (h : c.Sound) {codec : Codec} (compiled : Codec.compile text = .ok codec) :
    Sound { c with
      busy := c.busy.move (.allocate subject text)
      waiting := c.waiting ++ [((subject, text), (c.busy.registry.allocate subject text).1, codec)]
      allocated := c.allocated ++ [(subject, text)] } := by
  have hmove : c.busy.move (.allocate subject text)
      = ⟨(c.busy.registry.allocate subject text).2,
        c.busy.underway ++ [((c.busy.registry.allocate subject text).1, codec)]⟩ := by
    simp only [Busy.move, compiled]
  have hbusy := h.busy.move (.allocate subject text)
  have grows := grows_allocate subject text c.busy.registry
  rw [hmove] at hbusy ⊢
  refine ⟨hbusy, ?_, fun w hw => ?_, h.numbers.allocate h.busy.registry subject text,
    fun room _ _ _ htold => ?_⟩
  · rw [List.map_append, h.underway]
    rfl
  · rcases List.mem_append.1 hw with hw | hw
    · obtain ⟨known, compiled⟩ := h.waiting w hw
      exact ⟨grows.ids known, compiled⟩
    · obtain rfl := List.mem_singleton.1 hw
      exact ⟨(get?_ids_allocate _ _ _ _).trans (if_pos rfl), compiled⟩
  · have hless : c.busy.registry.registrations
        ≤ (c.busy.registry.allocate subject text).2.registrations := by
      unfold MemoryRegistry.allocate
      split
      · exact Nat.le_refl _
      · exact Nat.le_succ _
    obtain ⟨known, codec', compiled', stands⟩ := h.told (Nat.lt_of_le_of_lt hless room) htold
    exact ⟨grows.ids known, codec', compiled', grows.codecs stands⟩

/-- **The second step of a registration**, after which its caller is told the number. -/
theorem Sound.supply (h : c.Sound) {place : Nat} {p : String × String} {id : UInt32} {codec : Codec}
    (hplace : c.waiting[place]? = some (p, id, codec)) :
    Sound { c with
      busy := c.busy.move (.supply place)
      waiting := c.waiting.eraseIdx place
      returned := c.returned ++ [⟨.register p.1 p.2, .ok id⟩] } := by
  have hunderway : c.busy.underway[place]? = some (id, codec) := by
    rw [← h.underway, List.getElem?_map, hplace]
    rfl
  have hmove : c.busy.move (.supply place)
      = ⟨c.busy.registry.supply id codec, c.busy.underway.eraseIdx place⟩ := by
    simp only [Busy.move, hunderway]
  have hbusy := h.busy.move (.supply place)
  have grows := grows_supply id codec c.busy.registry
  obtain ⟨known, compiled⟩ := h.waiting _ (List.mem_of_getElem? hplace)
  rw [hmove] at hbusy ⊢
  refine ⟨hbusy, ?_, fun w hw => h.waiting w (List.mem_of_mem_eraseIdx hw), ?_,
    fun room _ _ _ htold => ?_⟩
  · rw [← h.underway, List.eraseIdx_map]
  · exact ⟨h.numbers.given, h.numbers.counted, h.numbers.covered⟩
  · rcases List.mem_append.1 htold with htold | htold
    · obtain ⟨known', codec', compiled', stands⟩ := h.told room htold
      exact ⟨known', codec', compiled', grows.codecs stands⟩
    · cases List.mem_singleton.1 htold
      exact ⟨known, codec, compiled,
        h.busy.registry.codec_supply (Nat.le_of_lt room) known compiled⟩

/-- **Whatever happens next, a chronicle stays sound.** -/
theorem Sound.act (h : c.Sound) (a : Act) : (c.act a).Sound := by
  obtain ⟨l, hl, hact⟩ | ⟨subject, text, codec, -, compiled, hact⟩
    | ⟨place, p, id, codec, -, hplace, hact⟩ := c.act_cases a
  · rw [hact]
    exact h.answered hl
  · rw [hact]
    exact h.allocate compiled
  · rw [hact]
    exact h.supply hplace

end step

/-- **Every chronicle that can come about is sound.** -/
theorem sound_run (acts : List Act) : (run acts).Sound := by
  induction acts using List.reverseRecOn with
  | nil => exact sound_empty
  | append_singleton acts a ih =>
    rw [run_concat]
    exact ih.act a

/-- Nothing is allocated but what callers begin to register. -/
theorem allocated_subset_pairs (acts : List Act) :
    (run acts).allocated.toFinset ⊆ pairs acts := by
  induction acts using List.reverseRecOn with
  | nil => exact Finset.empty_subset _
  | append_singleton acts a ih =>
    have hpairs : pairs (acts ++ [a]) = pairs acts ∪ a.pair?.toList.toFinset := by
      unfold pairs
      rw [List.filterMap_append, List.toFinset_append]
      cases hp : a.pair? <;> simp [hp]
    rw [run_concat, hpairs]
    obtain ⟨l, -, hact⟩ | ⟨subject, text, codec, rfl, -, hact⟩ | ⟨place, p, id, codec, -, -, hact⟩ :=
      (run acts).act_cases a
    · rw [hact]
      exact ih.trans Finset.subset_union_left
    · rw [hact, List.toFinset_append]
      exact Finset.union_subset_union ih (Finset.Subset.refl _)
    · rw [hact]
      exact ih.trans Finset.subset_union_left

theorem registrations_le_card_pairs (acts : List Act) :
    (run acts).busy.registry.registrations ≤ (pairs acts).card := by
  rw [(sound_run acts).numbers.counted]
  exact Finset.card_le_card (allocated_subset_pairs acts)

/-! ## The operations of the registry -/

/-- **Without anybody in between, the two steps are the operation.** -/
theorem Sound.undisturbed {c : Chronicle} (h : c.Sound) (subject text : String) :
    let done := (c.act (.move (.allocate subject text))).act (.move (.supply c.waiting.length))
    done.busy.registry = (operations.register subject text c.busy.registry).2
      ∧ done.returned = c.returned
        ++ [⟨.register subject text, (operations.register subject text c.busy.registry).1⟩] := by
  have hregister : operations.register subject text c.busy.registry
      = register subject text c.busy.registry := rfl
  have hlength : c.busy.underway.length = c.waiting.length := by
    rw [← h.underway, List.length_map]
  rw [hregister]
  unfold register
  cases compiled : Codec.compile text with
  | error e => simp [Chronicle.act, compiled]
  | ok codec => simp [Chronicle.act, Busy.move, compiled, ← hlength]

/-- **Every pair has a number of its own, and every number that a caller was told can be used**,
whoever else registers or looks up in between, as long as there are fewer than 2³² pairs. -/
theorem dependable_run (acts : List Act) (room : (pairs acts).card < 2 ^ 32) :
    Dependable acts (run acts) := by
  have h := sound_run acts
  have hroom := Nat.lt_of_le_of_lt (registrations_le_card_pairs acts) room
  refine ⟨?_, fun id => ⟨?_, ?_⟩, h.numbers.given, h.numbers.counted, ?_, ?_, h.undisturbed, ?_⟩
  · intro subject text id subject' text' id' htold htold'
    obtain ⟨known, -⟩ := h.told hroom htold
    obtain ⟨known', -⟩ := h.told hroom htold'
    constructor
    · intro same
      exact Option.some.inj ((same ▸ known).symm.trans known')
    · rintro rfl
      exact h.busy.registry.distinct (Nat.le_of_lt hroom) known known'
  · rintro ⟨p, hp⟩
    exact h.busy.registry.numbered hroom hp
  · rintro ⟨hpos, hle⟩
    obtain ⟨p, hp⟩ := h.numbers.covered hroom id.toNat hpos hle
    rw [UInt32.ofNat_toNat] at hp
    exact ⟨p, hp⟩
  · intro subject text id htold
    obtain ⟨known, codec, compiled, stands⟩ := h.told hroom htold
    exact ⟨known, codec, compiled, Codec.text_of_compile compiled, fun later =>
      resolve_of_some ((grows_run acts later).codecs stands)⟩
  · intro id hunused
    cases hcodec : (run acts).busy.registry.codecs.get? id with
    | none => exact resolve_of_none hcodec
    | some codec =>
      obtain ⟨p, hp, -⟩ := h.busy.registry.supplied hcodec
      exact absurd hp (hunused p)
  · intro subject text e invalid
    exact ⟨register_of_error invalid, by simp only [act, invalid]⟩

/-- Two callers race for one pair, and the second is faster; a third registers another text in
between, and a text that is no schema is refused. -/
theorem dependable_run_race :
    let acts : List Act := [.move (.allocate "facts" "\"string\""),
      .move (.allocate "facts" "\"string\""), .resolve 1, .move (.allocate "facts" "\"bytes\""),
      .move (.supply 1), .resolve 1, .move (.allocate "facts" "text"), .move (.supply 1), .resolve 3]
    (pairs acts).card < 2 ^ 32 ∧ Dependable acts (run acts)
      ∧ (run acts).Told "facts" "\"string\"" 1 ∧ (run acts).Told "facts" "\"bytes\"" 2
      ∧ (run acts).busy.registry.registrations = 2 := by
  intro acts
  have room : (pairs acts).card < 2 ^ 32 :=
    Nat.lt_of_le_of_lt (List.toFinset_card_le _) (by decide)
  have hfirst : (run acts).returned[1]? = some ⟨.register "facts" "\"string\"", .ok 1⟩ := by rfl
  have hother : (run acts).returned[4]? = some ⟨.register "facts" "\"bytes\"", .ok 2⟩ := by rfl
  exact ⟨room, dependable_run acts room, List.mem_of_getElem? hfirst, List.mem_of_getElem? hother,
    by decide +kernel⟩

end Chronicle

end CourierDispatch.MemoryRegistry
