import CourierDispatch.Location.Service
import CourierDispatch.Proofs.Courier.Alone
import CourierDispatch.Proofs.Order.Alone

/-!
# Messages that make no sense

No bytes stop a consumer, and none that make no sense leave a trace. A message is well
formed if it can be read and is what the consumer is for: a report of the courier service
about a stored order, a report of a position, an announcement of an order. The others are
passed over (`PassesOver`): they are marked, and everything else is as if they had not been
there.

The consumers of reports mark every message and never fail. The consumer of announcements
fails on the first order for which no courier is free, and on nothing else
(`consumers_pass_over`).
-/

namespace CourierDispatch

/-! ## Reports of positions -/

namespace LocationService

/-- **The handler of reports**, with nobody else at work. -/
def handler : Claim.Handler State (Call → Instant) :=
  fun clocks j s => (track j).run (fun c => answer ⟨clocks c, default, .works⟩ c) s

/-- A report is stored, and any other message leaves everything as it is. -/
theorem handler_eq (clocks : Call → Instant) (j : Json) (s : State) : handler clocks j s
    = (.ok (), (reportOfJson? j).elim s fun r => { s with store := s.store.save r }) := by
  unfold handler track
  cases reportOfJson? j <;> rfl

end LocationService

/-! ## What is well formed -/

namespace Fetched

/-- **The report of the courier service** about a stored order in a message. -/
def orderReport? (registry : MemoryRegistry) (st : OrderStore) (m : Fetched) :
    Option OrderService.Report :=
  (m.json? registry).bind (OrderService.Report.about? st)

/-- **The report of a position** in a message. -/
def positionReport? (registry : MemoryRegistry) (m : Fetched) : Option LocationReport :=
  (m.json? registry).bind LocationService.reportOfJson?

/-- **The announcement of an order** in a message, with the identifier of the order. -/
def announcement? (registry : MemoryRegistry) (m : Fetched) : Option (OrderMessage × Uuid) :=
  (m.json? registry).bind fun j =>
    (OrderMessage.ofJson? j).bind fun a => (Uuid.parse? a.orderId).map (a, ·)

end Fetched

/-- No order is asked for in what is no announcement of one. -/
theorem CourierService.orderOfJson?_eq_none {registry : MemoryRegistry} {m : Fetched} {j : Json}
    (hread : m.json? registry = some j) (h : m.announcement? registry = none) :
    orderOfJson? j = none := by
  unfold Fetched.announcement? at h
  rw [hread, Option.bind_some] at h
  unfold orderOfJson?
  cases ha : OrderMessage.ofJson? j with
  | none => rfl
  | some a =>
    rw [ha, Option.bind_some, Option.map_eq_none_iff] at h
    dsimp only
    rw [h, ite_self]

/-! ## Passing over -/

namespace Claim

variable {S T : Type}

section
variable (handler : Handler S T) (marking : Fetched → Except String Unit)
  (registry : MemoryRegistry)

/-- **Messages that are not well formed are passed over**: without them the work comes to
the same, and leaves the same state; and with other times as well, but for these. -/
structure PassesOver (wellFormed : Fetched → Bool) (Alike : S → S → Prop) (clocks : T)
    (stream : List (Fetched × T)) (s : S) : Prop where
  /-- The work comes to the same. -/
  result : (consume handler marking registry clocks stream s).1
    = (consume handler marking registry clocks (stream.filter (wellFormed ·.1)) s).1
  /-- It leaves the same state. -/
  state : (consume handler marking registry clocks stream s).2.state.service
    = (consume handler marking registry clocks (stream.filter (wellFormed ·.1)) s).2.state.service
  /-- So it does whatever the clocks show. -/
  anytime : ∀ (clocks' : T) (stream' : List (Fetched × T)),
    stream'.map Prod.fst = (stream.map Prod.fst).filter wellFormed →
      (consume handler marking registry clocks stream s).1
          = (consume handler marking registry clocks' stream' s).1
        ∧ Alike (consume handler marking registry clocks stream s).2.state.service
          (consume handler marking registry clocks' stream' s).2.state.service

/-- **The work goes through all the messages.** -/
structure GoesThrough (clocks : T) (stream : List (Fetched × T)) (s : S) : Prop where
  /-- It ends well. -/
  result : (consume handler marking registry clocks stream s).1 = some (.ok ())
  /-- All messages are marked, in their order. -/
  marked : marks ((consume handler marking registry clocks stream s).2.log ())
    = stream.map Prod.fst

end

variable {handler : Handler S T} {marking : Fetched → Except String Unit}
  {registry : MemoryRegistry}

/-- What is passed over: whatever the service takes no notice of. -/
theorem passesOver_of {P : S → Prop} {R : S → S → Prop} {wellFormed : Fetched → Bool}
    (hkeep : ∀ t j s, P s → P (handler t j s).2)
    (hskip : ∀ m j t s, wellFormed m = false → m.json? registry = some j → P s →
      handler t j s = (.ok (), s))
    (hR : ∀ t t' j s s', P s → P s' → R s s' →
      (handler t j s).1 = (handler t' j s').1 ∧ R (handler t j s).2 (handler t' j s').2)
    {clocks : T} {stream : List (Fetched × T)} {s : S} (hs : P s) (hrefl : R s s) :
    PassesOver handler marking registry wellFormed R clocks stream s := by
  obtain ⟨hresult, -, hstate⟩ := consume_eq_upshot handler marking registry clocks stream s
  obtain ⟨hresult', -, hstate'⟩ := consume_eq_upshot handler marking registry clocks (stream.filter (wellFormed ·.1)) s
  obtain ⟨hsame, hservice⟩ := upshot_filter hkeep hskip stream hs
  refine ⟨?_, ?_, fun clocks' stream' hstream' => ?_⟩
  · rw [hresult, hresult', hsame]
  · rw [hstate, hstate', hservice]
  · obtain ⟨hresult'', -, hstate''⟩ := consume_eq_upshot handler marking registry clocks' stream' s
    have hmap : (stream.filter (wellFormed ·.1)).map Prod.fst = stream'.map Prod.fst := by
      rw [hstream', List.filter_map]
      rfl
    obtain ⟨hother, -, -, halike⟩ := upshot_congr (R := fun s s' => P s ∧ P s' ∧ R s s')
      (fun t t' j s s' ⟨hs, hs', h⟩ => by
        obtain ⟨hsame, h'⟩ := hR t t' j s s' hs hs' h
        exact ⟨hsame, hkeep t j s hs, hkeep t' j s' hs', h'⟩) hmap ⟨hs, hs, hrefl⟩
    rw [hresult, hstate, hresult'', hstate'', ← hsame, ← hservice]
    exact ⟨congrArg some hother, halike⟩

/-- The work goes through messages if it ends well. -/
theorem goesThrough_of_result {clocks : T} {stream : List (Fetched × T)} {s : S}
    (h : (upshot handler registry stream s).result = .ok ()) :
    GoesThrough handler marking registry clocks stream s := by
  obtain ⟨hresult, hmarked, -⟩ := consume_eq_upshot handler marking registry clocks stream s
  rcases ends_upshot handler registry stream s with
    ⟨-, hall⟩ | ⟨_, _, _, _, _, -, -, -, -, -, hfailed⟩
  · exact ⟨hresult.trans (congrArg some h), hmarked.trans hall⟩
  · cases h.symm.trans hfailed

/-- A handler that never fails goes through all messages. -/
theorem goesThrough_of {P : S → Prop} (hok : ∀ t j s, P s → (handler t j s).1 = .ok ())
    (hkeep : ∀ t j s, P s → P (handler t j s).2) {clocks : T} {stream : List (Fetched × T)} {s : S}
    (hs : P s) : GoesThrough handler marking registry clocks stream s := by
  rcases ends_upshot handler registry stream s with
    ⟨hend, -⟩ | ⟨before, x, rest, j, e, -, -, -, -, hfailed, -⟩
  · exact goesThrough_of_result hend
  · have hpassed := hok x.2 j _ (upshot_preserves registry hkeep before hs)
    rw [hfailed] at hpassed
    cases hpassed

/-- **The work stops at the first order for which no courier is free**, and all messages
before have been marked. -/
structure StopsShort (marking : Fetched → Except String Unit) (registry : MemoryRegistry)
    (clocks : CourierService.Call → Instant)
    (stream before rest : List (Fetched × (CourierService.Call → Instant)))
    (x : Fetched × (CourierService.Call → Instant)) (orderId : Uuid) (s : CourierService.State) :
    Prop where
  /-- The message comes after some, and before others. -/
  parted : stream = before ++ x :: rest
  /-- It announces an order that was created. -/
  announced : ∃ a, x.1.announcement? registry = some (a, orderId) ∧ a.event ≠ Topic.orderUpdated
  /-- The work goes through those before. -/
  through : GoesThrough CourierService.handler marking registry clocks before s
  /-- Then no courier is free for the order, at any time. -/
  shortage : ∀ now, ((consume CourierService.handler marking registry clocks before
      s).2.state.service.store.assign now orderId).1 = .error (.noCourierAvailable orderId)
  /-- The work ends with this failure. -/
  result : (consume CourierService.handler marking registry clocks stream s).1
    = some (.error (.onMessage x.1
        (CourierService.handlingFailed orderId (.noCourierAvailable orderId)).message))
  /-- The messages before are marked, and no others. -/
  marked : marks ((consume CourierService.handler marking registry clocks stream s).2.log ())
    = before.map Prod.fst
  /-- The state is what those before have left. -/
  state : (consume CourierService.handler marking registry clocks stream s).2.state.service
    = (consume CourierService.handler marking registry clocks before s).2.state.service

/-- An order is asked for in the announcement of one that was created. -/
theorem exists_announcement {m : Fetched} {j : Json} {orderId : Uuid}
    (hread : m.json? registry = some j) (h : CourierService.orderOfJson? j = some orderId) :
    ∃ a, m.announcement? registry = some (a, orderId) ∧ a.event ≠ Topic.orderUpdated := by
  unfold CourierService.orderOfJson? at h
  cases ha : OrderMessage.ofJson? j with
  | none =>
    rw [ha] at h
    cases h
  | some a =>
    rw [ha] at h
    obtain ⟨hevent, hid⟩ := Option.ite_none_left_eq_some.1 h
    refine ⟨a, ?_, hevent⟩
    unfold Fetched.announcement?
    rw [hread, Option.bind_some, ha, Option.bind_some, hid]
    rfl

/-- **Nothing but a shortage of couriers stops the consumer of announcements.** -/
theorem goesThrough_or_stopsShort (clocks : CourierService.Call → Instant)
    (stream : List (Fetched × (CourierService.Call → Instant))) (s : CourierService.State) :
    GoesThrough CourierService.handler marking registry clocks stream s
      ∨ ∃ before rest x orderId, StopsShort marking registry clocks stream before rest x orderId s := by
  rcases ends_upshot CourierService.handler registry stream s with
    ⟨hend, -⟩ | ⟨before, x, rest, j, e, hparted, hmarked, hread, hbefore, hfailed, hresult⟩
  · exact .inl (goesThrough_of_result hend)
  · obtain ⟨hstate, orderId, hj, rfl, hshortage⟩ := CourierService.handler_eq_error hfailed
    obtain ⟨hres, hmarks, hservice⟩ := consume_eq_upshot CourierService.handler marking registry clocks stream s
    obtain ⟨-, -, hservice'⟩ := consume_eq_upshot CourierService.handler marking registry clocks before s
    refine .inr ⟨before, rest, x, orderId, hparted, exists_announcement hread hj,
      goesThrough_of_result hbefore, fun now => ?_, ?_, hmarks.trans hmarked, ?_⟩
    · rw [hservice']
      exact hshortage now
    · rw [hres, hresult]
    · rw [hservice, hservice', hstate]

/-- **No bytes stop a consumer, and none that make no sense leave a trace**, with any
registry, whether marking works or not. The consumers of reports go through all messages.
So does the consumer of announcements, unless no courier is free for an order, which is all
that can stop it. -/
theorem consumers_pass_over (marking : Fetched → Except String Unit) (registry : MemoryRegistry) :
    (∀ clocks stream (s : OrderService.State), s.store.Keyed →
        GoesThrough OrderService.handler marking registry clocks stream s
          ∧ PassesOver OrderService.handler marking registry
            (fun m => (m.orderReport? registry s.store).isSome) OrderService.Alike clocks stream s)
      ∧ (∀ clocks stream (s : LocationService.State),
        GoesThrough LocationService.handler marking registry clocks stream s
          ∧ PassesOver LocationService.handler marking registry
            (fun m => (m.positionReport? registry).isSome) Eq clocks stream s)
      ∧ ∀ clocks stream (s : CourierService.State),
        PassesOver CourierService.handler marking registry
            (fun m => (m.announcement? registry).isSome) CourierService.Alike clocks stream s
          ∧ (GoesThrough CourierService.handler marking registry clocks stream s
            ∨ ∃ before rest x orderId,
              StopsShort marking registry clocks stream before rest x orderId s) := by
  refine ⟨fun clocks stream s hkeyed => ⟨?_, ?_⟩, fun clocks stream s => ⟨?_, ?_⟩,
    fun clocks stream s => ⟨?_, ?_⟩⟩
  · exact goesThrough_of (P := fun s => s.store.Keyed) (fun _ _ _ hs => OrderService.handler_ok hs)
      (fun _ _ _ hs => OrderService.keyed_run hs _) hkeyed
  · refine passesOver_of (P := OrderService.Holds s.store) (fun t j s h => h.handler t j) ?_
      (fun t t' j _ _ hs hs' h => h.handler hs.keyed hs'.keyed t t' j) ⟨hkeyed, fun _ => rfl⟩
      (.refl s)
    intro m j t s' hnone hread h
    refine OrderService.handler_of_none ?_
    rw [h.about?]
    simpa [Fetched.orderReport?, hread] using hnone
  · refine goesThrough_of (P := fun _ => True) (fun t j s _ => ?_) (fun _ _ _ _ => trivial) trivial
    rw [LocationService.handler_eq]
  · refine passesOver_of (P := fun _ => True) (fun _ _ _ _ => trivial) ?_ ?_ trivial rfl
    · intro m j t s' hnone hread _
      have hno : LocationService.reportOfJson? j = none := by
        simpa [Fetched.positionReport?, hread] using hnone
      rw [LocationService.handler_eq, hno]
      rfl
    · rintro t t' j s' _ - - rfl
      rw [LocationService.handler_eq, LocationService.handler_eq]
      exact ⟨rfl, rfl⟩
  · refine passesOver_of (P := fun _ => True) (fun _ _ _ _ => trivial) ?_
      (fun t t' j _ _ _ _ h => h.handler t t' j) trivial (.refl s)
    intro m j t s' hnone hread _
    exact CourierService.handler_of_none
      (CourierService.orderOfJson?_eq_none hread (by simpa using hnone))
  · exact goesThrough_or_stopsShort clocks stream s

/-- A message without a payload and one with bytes that are no envelope. -/
theorem consumers_pass_over_noise :
    let registry := (MemoryRegistry.register "facts" OrderValidationMessage.schemaText .empty).2
    let noise : List Fetched := [⟨"facts", 0, 4, none⟩, ⟨"facts", 0, 5, some [1, 2, 3]⟩]
    let clocks : OrderService.Call → Instant := fun _ => .epoch
    let done := consume OrderService.handler (fun _ => .ok ()) registry clocks
      (noise.map (·, clocks)) OrderService.waiting
    done.1 = some (.ok ()) ∧ marks (done.2.log ()) = noise
      ∧ done.2.state.service = OrderService.waiting := by
  intro registry noise clocks done
  have hkeyed : OrderService.waiting.store.Keyed := OrderStore.Keyed.empty.insertOrder _
  obtain ⟨hthrough, hpassed⟩ := (consumers_pass_over (fun _ => .ok ()) registry).1 clocks
    (noise.map (·, clocks)) OrderService.waiting hkeyed
  exact ⟨hthrough.result, hthrough.marked, hpassed.state⟩

end Claim

end CourierDispatch
