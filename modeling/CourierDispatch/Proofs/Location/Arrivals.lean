import CourierDispatch.Proofs.Bus.Delivery
import CourierDispatch.Proofs.Claim.Malformed
import CourierDispatch.Proofs.Location.Contents

/-!
# Reports in any order, any number of times

Reports come to the store on two ways: they are saved at once, by workers that do not wait for
each other, or they come over the bus, which delivers some of them again (`Saving`). A message
over the bus may be no report at all, and then it is passed over. And a report of a leap second
that does not end a minute is another one by the time it has come over the bus
(`LocationReport.asWritten`), so that what carries such a report to the store is only that it
is saved (`Saving.Carries`).

The main result, `order_insensitive`, says that none of this makes a difference as long as there
is one position of each courier and time: the store comes to hold the reports that came, each
once. Where there are several, what the store holds is still told by the list of what was saved.
-/

namespace CourierDispatch

open LocationReport (First Latest)

/-- Both coordinates are numbers that can be written. -/
def Position.IsFinite (p : Position) : Prop := p.latitude.isFinite ∧ p.longitude.isFinite

instance (p : Position) : Decidable p.IsFinite := inferInstanceAs (Decidable (_ ∧ _))

namespace LocationService

/-- **A way on which a report comes to the store.** -/
inductive Saving where
  /-- It is saved. -/
  | direct (r : LocationReport)
  /-- A message is handled, which may or may not be a report. -/
  | tracked (j : Json) (clocks : Call → Instant)

namespace Saving

/-- The report that is saved. -/
def report? : Saving → Option LocationReport
  | direct r => some r
  | tracked j _ => reportOfJson? j

/-- What is done. -/
def apply : Saving → State → State
  | direct r, s => { s with store := s.store.save r }
  | tracked j clocks, s => (handler clocks j s).2

/-- **What brings a report to the store.** -/
inductive Carries : Saving → LocationReport → Prop where
  /-- It is saved. -/
  | direct (r : LocationReport) : Carries (.direct r) r
  /-- Its message is handled, in which it is written as it is. -/
  | tracked (r : LocationReport) (clocks : Call → Instant) (ends : r.createdAt.LeapEndsMinute) :
    Carries (.tracked r.message.toJson clocks) r

theorem apply_eq (v : Saving) (s : State) :
    v.apply s = { s with store := s.store.saveAll v.report?.toList } := by
  cases v with
  | direct r => rfl
  | tracked j clocks =>
    show (handler clocks j s).2 = { s with store := s.store.saveAll (reportOfJson? j).toList }
    rw [handler_eq]
    cases reportOfJson? j <;> rfl

/-- What can be written in a message comes out of it again. -/
theorem Carries.report?_eq {v : Saving} {r : LocationReport} (h : v.Carries r)
    (hfinite : r.position.IsFinite) : v.report? = some r := by
  cases h with
  | direct => rfl
  | tracked _ _ ends =>
    have written : r.asWritten = r := LocationReport.asWritten_eq_self_iff.2 ends
    exact (reportOfJson?_message hfinite.1 hfinite.2).trans (congrArg some written)

end Saving

variable {savings : List Saving} {arrivals reports : List LocationReport}

/-- **Does all that brings reports to the store**, one after another. -/
def saveAll (savings : List Saving) (s : State) : State := savings.foldl (fun s v => v.apply s) s

/-- Nothing but the store is changed, and there the reports are saved. -/
theorem saveAll_eq (savings : List Saving) (s : State) :
    saveAll savings s = { s with store := s.store.saveAll (savings.filterMap (·.report?)) } := by
  unfold saveAll
  induction savings generalizing s with
  | nil => rfl
  | cons v savings ih =>
    rw [List.foldl_cons, ih, v.apply_eq, List.filterMap_cons]
    cases v.report? <;> rfl

/-- **Reports are delivered**: each at least once and on either way, in any order. -/
def Delivers (savings : List Saving) (reports : List LocationReport) : Prop :=
  ∃ arrivals : List LocationReport, (∀ r, r ∈ arrivals ↔ r ∈ reports)
    ∧ List.Forall₂ Saving.Carries savings arrivals

theorem filterMap_report?_of_forall₂ (h : List.Forall₂ Saving.Carries savings arrivals)
    (hfinite : ∀ r ∈ arrivals, r.position.IsFinite) :
    savings.filterMap (·.report?) = arrivals := by
  induction h with
  | nil => rfl
  | cons hcarries _ ih =>
    obtain ⟨hfirst, hrest⟩ := List.forall_mem_cons.1 hfinite
    rw [List.filterMap_cons, hcarries.report?_eq hfirst, ih hrest]

/-- **A store recalls what was saved**, on whichever way it came. -/
theorem recalls_saveAll (savings : List Saving) {s : State} (hempty : s.store = .empty) :
    Recalls (savings.filterMap (·.report?)) (saveAll savings s).store := by
  rw [saveAll_eq, hempty]
  exact LocationStore.recalls_saveAll _

/-- **Reports settle**, however they are delivered. -/
theorem settled_saveAll (hfinite : ∀ r ∈ reports, r.position.IsFinite)
    (hconsistent : Consistent reports) (hdelivers : Delivers savings reports) {s : State}
    (hempty : s.store = .empty) : Settled reports (saveAll savings s).store := by
  obtain ⟨arrivals, hsame, hcarries⟩ := hdelivers
  have hrecalls := recalls_saveAll savings hempty
  rw [filterMap_report?_of_forall₂ hcarries fun r hr => hfinite r ((hsame r).1 hr)] at hrecalls
  exact hrecalls.settled hconsistent hsame

/-- **Neither order nor repetition makes a difference.** Reports with one position of each
courier and time lead to stores that nobody can tell apart, with one entry for each courier and
time, in whatever order, however often and on whichever way they come. And of all reports and
messages, whatever they are, the store recalls the first of each courier and time, and as the
position of a courier that of the first one of the latest time; where a leap second comes after
the second that it follows and before the next one, and so after second 59 and before the next
minute if it ends a minute. -/
theorem order_insensitive :
    (∀ reports : List LocationReport, (∀ r ∈ reports, r.position.IsFinite) → Consistent reports →
        ∀ savings savings' : List Saving, Delivers savings reports → Delivers savings' reports →
          ∀ s s' : State, s.store = .empty → s'.store = .empty →
            Settled reports (saveAll savings s).store
              ∧ Interchangeable (saveAll savings s).store (saveAll savings' s').store)
      ∧ (∀ (savings : List Saving) (s : State), s.store = .empty →
        Recalls (savings.filterMap (·.report?)) (saveAll savings s).store)
      ∧ ∀ i : Instant, i.InLeapSecond → ∀ j : Instant,
        ((¬ j.InLeapSecond → j.seconds ≤ i.seconds → j < i) ∧ (i.seconds < j.seconds → i < j))
          ∧ (i.LeapEndsMinute →
            (¬ j.InLeapSecond → j.seconds / 60 ≤ i.seconds / 60 → j < i)
              ∧ (i.seconds / 60 < j.seconds / 60 → i < j)) := by
  refine ⟨?_, fun savings s => recalls_saveAll savings,
    fun i hi j => ⟨hi.between j, fun ends => hi.endsMinute ends j⟩⟩
  intro reports hfinite hconsistent savings savings' hdelivers hdelivers' s s' hempty hempty'
  have hsettled := settled_saveAll hfinite hconsistent hdelivers hempty
  exact ⟨hsettled,
    hsettled.interchangeable (settled_saveAll hfinite hconsistent hdelivers' hempty')⟩

/-- A report from a leap second comes before one from the second before, and both come again
over the bus. -/
theorem order_insensitive_leap_second :
    let early : LocationReport := ⟨⟨7⟩, ⟨.ofInt 49, .ofInt 30⟩,
      ⟨1483228799, 999000000, by decide, by decide, by decide⟩⟩
    let late : LocationReport := ⟨⟨7⟩, ⟨.ofInt 50, .ofInt 30⟩,
      ⟨1483228799, 1000000000, by decide, by decide, by decide⟩⟩
    let tracked (r : LocationReport) : Saving := .tracked r.message.toJson fun _ => .epoch
    let mixed := [.direct late, tracked early, tracked late, tracked early]
    Interchangeable (saveAll mixed {}).store (saveAll [.direct early, .direct late] {}).store
      ∧ (saveAll mixed {}).store.latestPosition ⟨7⟩ = .ok late.position := by
  intro early late tracked mixed
  obtain ⟨hinsensitive, hrecalls, -⟩ := order_insensitive
  have hfinite : ∀ r ∈ [early, late], r.position.IsFinite := by decide
  have hconsistent : Consistent [early, late] := by decide
  have hsame : ∀ l : List LocationReport, l ⊆ [early, late] → [early, late] ⊆ l →
      ∀ r, r ∈ l ↔ r ∈ [early, late] := fun l h h' r => ⟨fun hr => h hr, fun hr => h' hr⟩
  have hmixed : List.Forall₂ Saving.Carries mixed [late, early, late, early] :=
    .cons (.direct _) (.cons (.tracked _ _ (by decide)) (.cons (.tracked _ _ (by decide))
      (.cons (.tracked _ _ (by decide)) .nil)))
  have hdirect : List.Forall₂ Saving.Carries [.direct early, .direct late] [early, late] :=
    .cons (.direct _) (.cons (.direct _) .nil)
  refine ⟨(hinsensitive [early, late] hfinite hconsistent mixed _
    ⟨_, hsame _ (by simp) (by simp), hmixed⟩ ⟨_, hsame _ (by simp) (by simp), hdirect⟩ {} {}
    rfl rfl).2, ?_⟩
  have hlatest : Latest [late, early, late, early] late :=
    ⟨⟨[], _, rfl, by simp⟩, by decide⟩
  rw [← filterMap_report?_of_forall₂ hmixed (by decide)] at hlatest
  exact (hrecalls mixed {} rfl).latest late hlatest

end LocationService

end CourierDispatch
