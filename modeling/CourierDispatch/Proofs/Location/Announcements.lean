import CourierDispatch.Journal
import CourierDispatch.Location.Service
import CourierDispatch.Proofs.Location.Contents
import Mathlib.Data.List.Induction

/-!
# What is announced, and what is stored

A report is stored first and announced then, so that a report whose storing failed is never
announced. That does not make what is announced the same as what is stored. Storing keeps the
position that came first for a courier and time, and passes over any other one without a word;
announcing passes on the report as it came. So of two reports with different positions for one
courier and time the second is announced, and the store does not have it (`announced_unstored`).

What holds is told by the history of the store (`announcements`): the position that is announced
is the one that the store holds under its courier and time at that moment, and from then on,
exactly if it is the first one that came for them. Failures make no difference to this, except
that a report whose storing failed may have come all the same.
-/

namespace CourierDispatch

open LocationReport (First)

/-! ## What a store holds after some reports -/

/-- Whether a report is the first is settled as soon as it has come. -/
theorem LocationReport.first_append_iff {l l' : List LocationReport} {r : LocationReport}
    (hr : r ∈ l) : First (l ++ l') r ↔ First l r := by
  rw [first_iff_find?, first_iff_find?, List.find?_append]
  cases hfind : l.find? (·.key = r.key) with
  | none => exact absurd (decide_eq_true rfl) (List.find?_eq_none.1 hfind r hr)
  | some u => rfl

theorem Consistent.first {reports l : List LocationReport} (h : Consistent reports)
    (hl : l ⊆ reports) {r : LocationReport} (hr : r ∈ l) : First l r :=
  have hconsistent : Consistent l := fun r hr u hu => h r (hl hr) u (hl hu)
  (hconsistent.first_iff fun _ => Iff.rfl).2 hr

namespace LocationStore

variable {st : LocationStore} {l : List LocationReport} {r : LocationReport}

theorem save_saveAll (r : LocationReport) (l : List LocationReport) (st : LocationStore) :
    (st.saveAll l).save r = st.saveAll (l ++ [r]) := by
  unfold saveAll
  rw [List.foldl_append]
  rfl

/-- The entries of histories are what is stored. -/
theorem get?_history (st : LocationStore) (c : Uuid) (t : Instant) :
    (st.history c).get? t = (st.stored.find? (·.key = (c, t))).map (·.position) := by
  cases hfind : st.stored.find? (·.key = (c, t)) with
  | some r =>
    obtain ⟨rfl, rfl⟩ := Prod.mk.inj (LocationReport.key_of_find? hfind)
    exact mem_stored_iff.1 (List.mem_of_find?_eq_some hfind)
  | none =>
    cases hentry : (st.history c).get? t with
    | none => rfl
    | some p =>
      have hmem : ⟨c, p, t⟩ ∈ st.stored := mem_stored_iff.2 hentry
      exact absurd (decide_eq_true rfl) (List.find?_eq_none.1 hfind _ hmem)

/-- **A report is stored exactly if it is the first of its courier and time**, of those that the
store held before and those that came. -/
theorem mem_stored_saveAll : r ∈ (st.saveAll l).stored ↔ First (st.stored ++ l) r := by
  have hentry : ((st.saveAll l).history r.courierId).get? r.createdAt
      = ((st.stored ++ l).find? (·.key = r.key)).map (·.position) := by
    rw [history_saveAll, get?_foldl_putNew, get?_history, List.find?_filter, List.find?_append,
      Option.map_or]
    simp [LocationReport.key]
  rw [mem_stored_iff, hentry, LocationReport.first_iff_find?, Option.map_eq_some_iff]
  constructor
  · rintro ⟨u, hu, hposition⟩
    obtain rfl := LocationReport.eq_of_key (LocationReport.key_of_find? hu) hposition
    exact hu
  · exact fun h => ⟨r, h, rfl⟩

/-- **What a store has of a report** among those that came. -/
structure KeepsFirst (st : LocationStore) (came : List LocationReport) (r : LocationReport) :
    Prop where
  /-- It has a position of the courier and time, and one only. -/
  held : ∃! u, u ∈ st.stored ∧ u.key = r.key
  /-- This is the reported one exactly if no other came before. -/
  stored_iff : r ∈ st.stored ↔ First came r

/-- It keeps what came first, whatever comes later. -/
theorem keepsFirst_saveAll (hr : r ∈ st.stored ++ l) (l' : List LocationReport) :
    (st.saveAll (l ++ l')).KeepsFirst (st.stored ++ l) r := by
  have hstored : ∀ u ∈ st.stored ++ l, u ∈ (st.saveAll (l ++ l')).stored
      ↔ First (st.stored ++ l) u := fun u hu => by
    rw [mem_stored_saveAll, ← List.append_assoc]
    exact LocationReport.first_append_iff hu
  refine ⟨?_, hstored r hr⟩
  obtain ⟨u, hu, hkey⟩ := LocationReport.exists_first hr
  have hmem : u ∈ st.stored ++ l := List.mem_of_find?_eq_some (LocationReport.first_iff_find?.1 hu)
  refine ⟨u, ⟨(hstored u hmem).2 hu, hkey⟩, fun v ⟨hv, hkey'⟩ => ?_⟩
  exact List.inj_on_of_nodup_map (nodup_key_stored _) hv ((hstored u hmem).2 hu)
    (hkey'.trans hkey.symm)

end LocationStore

namespace LocationService

/-! ## Calls that save a report -/

/-- **A call that saves a report**, with what the world adds to the calls that it makes. -/
structure Attempt where
  /-- The report. -/
  report : LocationReport
  /-- What the world adds. -/
  world : Call → Moment

/-- The calls of attempts, as they are noted. -/
abbrev Notes := Journal Attempt Call Answer State

/-- **A message that was handed over** to be announced. -/
structure Handed where
  /-- The message. -/
  message : CourierLocationMessage
  /-- The store at that moment. -/
  store : LocationStore

/-- What a call handed over. -/
def handedBy? (m : Made Attempt Call Answer State) : Option Handed :=
  match m.call with
  | .publish message => some ⟨message, m.before.store⟩
  | _ => none

/-- **What was handed over**, whatever became of it then. -/
def handed (j : Notes) : List Handed := j.made.filterMap handedBy?

theorem handed_add (m : Made Attempt Call Answer State) (j : Notes) :
    handed (j.add m) = handed j ++ (handedBy? m).toList := by
  unfold handed Journal.add
  rw [List.filterMap_append]
  cases h : handedBy? m <;> simp [h]

namespace Attempt

/-- What becomes of the report's being stored … -/
def storing (a : Attempt) : Fate := (a.world (.save a.report)).fate

/-- … and of its being announced. -/
def announcing (a : Attempt) : Fate := (a.world (.publish a.report.message)).fate

/-- The calls are answered as the world has it. -/
def answer (a : Attempt) (c : Call) (s : State) : Answer c × State :=
  LocationService.answer (a.world c) c s

/-- **Makes an attempt**, and notes the calls. -/
def perform (a : Attempt) (j : Notes) : Except ServiceError Unit × Notes :=
  (saveReport a.report).perform (m := StateM Notes) (fun c j => j.note a.answer a c) j

/-- The state with the report stored. -/
def stored (a : Attempt) (s : State) : State := { s with store := s.store.save a.report }

/-- The state with the report announced. -/
def announced (a : Attempt) (s : State) : State :=
  { s with announced := s.announced ++ [a.report.message] }

variable {a : Attempt} {j : Notes} {s : State}

theorem answer_save (a : Attempt) (s : State) : a.answer (.save a.report) s
    = (a.storing.news, if a.storing.takesEffect then a.stored s else s) :=
  a.storing.apply_ok a.stored s

theorem answer_publish (a : Attempt) (s : State) : a.answer (.publish a.report.message) s
    = (a.announcing.news, if a.announcing.takesEffect then a.announced s else s) :=
  a.announcing.apply_ok a.announced s

/-- **What was stored is handed over.** -/
theorem perform_of_works (h : a.storing = .works) : a.perform j =
    let s := if a.announcing.takesEffect then a.announced (a.stored j.state) else a.stored j.state
    (a.announcing.news, (j.add ⟨a, .save a.report, .ok (), j.state, a.stored j.state⟩).add
      ⟨a, .publish a.report.message, a.announcing.news, a.stored j.state, s⟩) := by
  unfold perform saveReport
  rw [Script.perform_note_call, answer_save, h]
  simp only [Fate.news, Fate.takesEffect, if_true]
  rw [Script.perform_note_call, Journal.add, answer_publish]
  rfl

/-- What was not stored is not. -/
theorem perform_of_fails {e : ServiceError} (h : a.storing.news = .error e) : a.perform j =
    (.error e, j.add ⟨a, .save a.report, .error e, j.state,
      if a.storing.takesEffect then a.stored j.state else j.state⟩) := by
  unfold perform saveReport
  rw [Script.perform_note_call, answer_save, h]
  rfl

/-- **What an attempt comes to**, wherever others have led. -/
structure Effect (a : Attempt) (j : Notes) : Prop where
  /-- If storing has worked, the message is handed over once, with the report taken in … -/
  handed : a.storing = .works →
    handed (a.perform j).2 = handed j ++ [⟨a.report.message, j.state.store.save a.report⟩]
  /-- … and it has been announced if that has taken effect. -/
  announced : a.storing = .works → (a.perform j).2.state.announced
    = j.state.announced ++ if a.announcing.takesEffect then [a.report.message] else []
  /-- Otherwise nothing is handed over. -/
  withheld : a.storing ≠ .works → LocationService.handed (a.perform j).2 = LocationService.handed j
    ∧ (a.perform j).2.state.announced = j.state.announced
  /-- What was stored is stored, whatever becomes of the announcement. -/
  store : (a.perform j).2.state.store
    = if a.storing.takesEffect then j.state.store.save a.report else j.state.store
  /-- It ends well if both calls have worked, and otherwise as the first one that has not. -/
  result : (a.perform j).1 = a.storing.news.bind fun _ => a.announcing.news

theorem Effect.ok_iff (h : a.Effect j) :
    (a.perform j).1 = .ok () ↔ a.storing = .works ∧ a.announcing = .works := by
  rw [h.result]
  cases a.storing <;> cases a.announcing <;> simp [Fate.news, Except.bind]

theorem effect (a : Attempt) (j : Notes) : a.Effect j := by
  cases hnews : a.storing.news with
  | ok _ =>
    have hworks := Fate.news_eq_ok_iff.1 hnews
    refine ⟨fun _ => ?_, fun _ => ?_, fun h => absurd hworks h, ?_, ?_⟩
    · rw [perform_of_works hworks, handed_add, handed_add]
      simp [handedBy?, stored]
    · rw [perform_of_works hworks]
      cases a.announcing <;> simp [Journal.add, Fate.takesEffect, announced, stored]
    · rw [perform_of_works hworks, hworks]
      cases a.announcing <;> rfl
    · rw [perform_of_works hworks, hnews]
      rfl
  | error e =>
    have hfails : a.storing ≠ .works := fun h => by
      rw [h] at hnews
      cases hnews
    refine ⟨fun h => absurd h hfails, fun h => absurd h hfails, fun _ => ⟨?_, ?_⟩, ?_, ?_⟩
    · rw [perform_of_fails hnews, handed_add]
      exact List.append_nil _
    · rw [perform_of_fails hnews]
      cases a.storing <;> rfl
    · rw [perform_of_fails hnews]
      cases a.storing <;> rfl
    · rw [perform_of_fails hnews, hnews]
      rfl

end Attempt

/-! ## One attempt after another -/

variable {a : Attempt} {attempts earlier later : List Attempt} {s : State} {j : Notes}
  {h : Handed}

/-- **Makes attempts**, one after another. -/
def course (attempts : List Attempt) (j : Notes) : Notes :=
  attempts.foldl (fun j a => (a.perform j).2) j

/-- The reports that came to the store. -/
def takenIn (attempts : List Attempt) : List LocationReport :=
  (attempts.filter (·.storing.takesEffect)).map (·.report)

theorem takenIn_append (attempts attempts' : List Attempt) :
    takenIn (attempts ++ attempts') = takenIn attempts ++ takenIn attempts' := by
  unfold takenIn
  rw [List.filter_append, List.map_append]

theorem course_append (attempts attempts' : List Attempt) (j : Notes) :
    course (attempts ++ attempts') j = course attempts' (course attempts j) :=
  List.foldl_append

/-- **The store takes in the reports that came**, in turn. -/
theorem store_course (attempts : List Attempt) (j : Notes) :
    (course attempts j).state.store = j.state.store.saveAll (takenIn attempts) := by
  induction attempts generalizing j with
  | nil => rfl
  | cons a attempts ih =>
    rw [show course (a :: attempts) j = course attempts (a.perform j).2 from rfl, ih,
      (a.effect j).store]
    unfold takenIn
    rw [List.filter_cons]
    split <;> rfl

/-- What was announced stays announced. -/
theorem announced_subset_course (attempts : List Attempt) (j : Notes) :
    j.state.announced ⊆ (course attempts j).state.announced := by
  induction attempts generalizing j with
  | nil => exact List.Subset.refl _
  | cons a attempts ih =>
    refine List.Subset.trans ?_ (ih (a.perform j).2)
    by_cases hworks : a.storing = .works
    · rw [(a.effect j).announced hworks]
      exact List.subset_append_left _ _
    · rw [((a.effect j).withheld hworks).2]
      exact List.Subset.refl _

/-- **Whatever was handed over was handed over by an attempt** that had stored its report. -/
theorem mem_handed_course (hh : h ∈ handed (course attempts ⟨s, []⟩)) :
    ∃ earlier a later, attempts = earlier ++ a :: later ∧ a.storing = .works
      ∧ h = ⟨a.report.message, (course earlier ⟨s, []⟩).state.store.save a.report⟩ := by
  induction attempts using List.reverseRecOn with
  | nil => cases hh
  | append_singleton attempts a ih =>
    rw [course_append] at hh
    change h ∈ handed (a.perform (course attempts ⟨s, []⟩)).2 at hh
    by_cases hworks : a.storing = .works
    · rw [(a.effect _).handed hworks, List.mem_append, List.mem_singleton] at hh
      rcases hh with hh | rfl
      · obtain ⟨earlier, b, later, rfl, hb⟩ := ih hh
        exact ⟨earlier, b, later ++ [a], by simp, hb⟩
      · exact ⟨attempts, a, [], rfl, hworks, rfl⟩
    · rw [((a.effect _).withheld hworks).1] at hh
      obtain ⟨earlier, b, later, rfl, hb⟩ := ih hh
      exact ⟨earlier, b, later ++ [a], by simp, hb⟩

/-! ## What the store has of what is announced -/

/-- What has come to the store with an attempt: what it held at first, the reports of the attempts
before, and the one of the attempt. -/
def come (s : State) (earlier : List Attempt) (a : Attempt) : List LocationReport :=
  s.store.stored ++ (takenIn earlier ++ [a.report])

theorem mem_come (s : State) (earlier : List Attempt) (a : Attempt) :
    a.report ∈ come s earlier a := by
  simp [come]

theorem come_subset (h : attempts = earlier ++ a :: later) :
    come s earlier a ⊆ s.store.stored ++ attempts.map (·.report) := by
  subst h
  intro r hr
  simp only [come, takenIn, List.mem_append, List.mem_map, List.mem_filter, List.mem_singleton]
    at hr ⊢
  rcases hr with hr | ⟨b, ⟨hb, -⟩, rfl⟩ | rfl
  · exact .inl hr
  · exact .inr ⟨b, .inl hb, rfl⟩
  · exact .inr ⟨a, by simp, rfl⟩

/-- **What is handed over has just been stored**, if it came first. -/
theorem keepsFirst_of_handed (hh : h ∈ handed (course attempts ⟨s, []⟩)) :
    ∃ earlier a later, attempts = earlier ++ a :: later ∧ a.storing = .works
      ∧ h.message = a.report.message ∧ h.store.KeepsFirst (come s earlier a) a.report := by
  obtain ⟨earlier, a, later, hattempts, hworks, rfl⟩ := mem_handed_course hh
  refine ⟨earlier, a, later, hattempts, hworks, rfl, ?_⟩
  have hstore : (course earlier ⟨s, []⟩).state.store.save a.report
      = s.store.saveAll (takenIn earlier ++ [a.report] ++ []) := by
    rw [store_course, LocationStore.save_saveAll, List.append_nil]
  rw [hstore]
  exact LocationStore.keepsFirst_saveAll (mem_come s earlier a) []

/-- **What was stored with success stays**, if it came first. -/
theorem keepsFirst_of_works (hattempts : attempts = earlier ++ a :: later)
    (hworks : a.storing = .works) :
    (course attempts ⟨s, []⟩).state.store.KeepsFirst (come s earlier a) a.report := by
  subst hattempts
  have hstore : (course (earlier ++ a :: later) ⟨s, []⟩).state.store
      = s.store.saveAll (takenIn earlier ++ [a.report] ++ takenIn later) := by
    rw [store_course, takenIn_append]
    simp [takenIn, hworks, Fate.takesEffect]
  rw [hstore]
  exact LocationStore.keepsFirst_saveAll (mem_come s earlier a) (takenIn later)

/-- What was announced with success is announced. -/
theorem mem_announced_of_ok (hattempts : attempts = earlier ++ a :: later)
    (hresult : (a.perform (course earlier ⟨s, []⟩)).1 = .ok ()) :
    a.report.message ∈ (course attempts ⟨s, []⟩).state.announced := by
  subst hattempts
  obtain ⟨hworks, hannounced⟩ := (a.effect _).ok_iff.1 hresult
  rw [course_append]
  refine announced_subset_course later (a.perform (course earlier ⟨s, []⟩)).2 ?_
  rw [(a.effect _).announced hworks, hannounced]
  exact List.mem_append_right _ (List.mem_singleton_self _)

/-! ## The main statement -/

/-- **What is announced in the course of attempts**, and what is stored. -/
structure Announcements (s : State) (attempts : List Attempt) : Prop where
  /-- Each attempt comes to the same, wherever the ones before it have led. -/
  effect : ∀ {earlier a later}, attempts = earlier ++ a :: later →
    a.Effect (course earlier ⟨s, []⟩)
  /-- Whatever is handed over to be announced is a report that has just been stored. The store
  then has one position of its courier and time, and this is the announced one exactly if no
  other came before. -/
  handed : ∀ h ∈ handed (course attempts ⟨s, []⟩), ∃ earlier a later,
    attempts = earlier ++ a :: later ∧ a.storing = .works ∧ h.message = a.report.message
      ∧ h.store.KeepsFirst (come s earlier a) a.report
  /-- If an attempt ends well then its message is announced; and from then on the store has a
  position of the courier and time, which is the announced one exactly if no other came before. -/
  ok : ∀ {earlier a later}, attempts = earlier ++ a :: later →
    (a.perform (course earlier ⟨s, []⟩)).1 = .ok () →
      a.report.message ∈ (course attempts ⟨s, []⟩).state.announced
      ∧ (course attempts ⟨s, []⟩).state.store.KeepsFirst (come s earlier a) a.report
  /-- If there is one position of each courier and time, then the store has every position that
  is handed over … -/
  agrees : Consistent (s.store.stored ++ attempts.map (·.report)) →
    ∀ h ∈ LocationService.handed (course attempts ⟨s, []⟩), ∃ r ∈ h.store.stored,
      h.message = r.message
  /-- … and the report of every attempt that ends well is stored. -/
  kept : Consistent (s.store.stored ++ attempts.map (·.report)) →
    ∀ {earlier a later}, attempts = earlier ++ a :: later →
      (a.perform (course earlier ⟨s, []⟩)).1 = .ok () →
        a.report ∈ (course attempts ⟨s, []⟩).state.store.stored

/-- **The store has what is announced if it came first**, and nothing is announced without a
position of its courier and time in the store. -/
theorem announcements (s : State) (attempts : List Attempt) : Announcements s attempts where
  effect {_ a _} _ := a.effect _
  handed _ hh := keepsFirst_of_handed hh
  ok {_ a _} hattempts hresult :=
    ⟨mem_announced_of_ok hattempts hresult,
      keepsFirst_of_works hattempts ((a.effect _).ok_iff.1 hresult).1⟩
  agrees hconsistent h hh := by
    obtain ⟨earlier, a, later, hattempts, -, hmessage, hkeeps⟩ := keepsFirst_of_handed hh
    refine ⟨a.report, hkeeps.stored_iff.2 ?_, hmessage⟩
    exact hconsistent.first (come_subset hattempts) (mem_come s earlier a)
  kept hconsistent {earlier a later} hattempts hresult := by
    have hworks := ((a.effect _).ok_iff.1 hresult).1
    refine (keepsFirst_of_works hattempts hworks).stored_iff.2 ?_
    exact hconsistent.first (come_subset hattempts) (mem_come s earlier a)

/-- A report is saved twice, and the second time the news of its announcement is lost. -/
theorem announcements_repeated :
    let r : LocationReport := ⟨⟨7⟩, ⟨.ofInt 50, .ofInt 30⟩, .epoch⟩
    let once : Attempt := ⟨r, fun _ => ⟨.epoch, ⟨0⟩, .works⟩⟩
    let again : Attempt := ⟨r, fun
      | .publish _ => ⟨.epoch, ⟨0⟩, .lost (.transport "timeout")⟩
      | _ => ⟨.epoch, ⟨0⟩, .works⟩⟩
    Consistent (([] : List LocationReport) ++ [once, again].map (·.report))
      ∧ ∀ h ∈ handed (course [once, again] ⟨{}, []⟩),
        ∃ u ∈ h.store.stored, h.message = u.message := by
  intro r once again
  have hconsistent : Consistent [r, r] := by decide
  exact ⟨hconsistent, (announcements {} [once, again]).agrees hconsistent⟩

/-- **An announced position that is not stored**: that of the second report of one courier and
time. Nothing has failed. -/
theorem announced_unstored :
    let first : LocationReport := ⟨⟨7⟩, ⟨.ofInt 50, .ofInt 30⟩, .epoch⟩
    let second : LocationReport := ⟨⟨7⟩, ⟨.ofInt 51, .ofInt 30⟩, .epoch⟩
    let once (r : LocationReport) : Attempt := ⟨r, fun _ => ⟨.epoch, ⟨0⟩, .works⟩⟩
    let before := course [once first] ⟨{}, []⟩
    let after := ((once second).perform before).2
    ((once second).perform before).1 = .ok ()
      ∧ handed after = handed before ++ [⟨second.message, after.state.store⟩]
      ∧ after.state.announced = [first.message, second.message]
      ∧ after.state.store.stored = [first] ∧ first.message ≠ second.message := by
  intro first second once before after
  refine ⟨rfl, rfl, rfl, rfl, fun heq => ?_⟩
  exact absurd (congrArg (·.latitude) heq) (by decide)

end LocationService

end CourierDispatch
