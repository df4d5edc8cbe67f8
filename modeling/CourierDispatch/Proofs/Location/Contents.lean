import CourierDispatch.Location.Store
import Mathlib.Data.List.Dedup
import Mathlib.Data.List.Nodup

/-!
# What a store of locations holds

The store takes the first report of a courier and time, and leaves all others. So what it holds
is told by the list of what was saved (`recalls_saveAll`): the reports that were the first of
their courier and time, and the latest of these says where a courier is.

If there is only one position of each courier and time, then every report is the first, and the
store holds all of them once, in whatever order they came and however often
(`Recalls.settled`). Nobody can tell two such stores apart (`Settled.interchangeable`).
-/

namespace CourierDispatch

/-- A table is as large as its entries are many, in whatever order they came. -/
theorem Table.size_congr {κ ν : Type} [DecidableEq κ] {t t' : Table κ ν}
    (hsame : ∀ k, t.get? k = t'.get? k) : t.size = t'.size := by
  refine ((List.perm_ext_iff_of_nodup (List.Nodup.of_map _ t.nodup)
    (List.Nodup.of_map _ t'.nodup)).2 fun e => ?_).length_eq
  rw [Table.mem_entries_iff, Table.mem_entries_iff, hsame]

/-! ## The latest entry of a history -/

namespace History

variable {h : History} {e : Instant × Position} {t : Instant} {p : Position}

theorem le_later (a b : Instant × Position) : a.1 ≤ (later a b).1 ∧ b.1 ≤ (later a b).1 := by
  unfold later
  split
  · next hlt => exact ⟨Instant.le_of_lt hlt, Instant.le_refl _⟩
  · next hle => exact ⟨Instant.le_refl _, hle⟩

/-- The latest of some entries is one of them, and none is later. -/
theorem foldl_later (l : List (Instant × Position)) (e : Instant × Position) :
    l.foldl later e ∈ e :: l ∧ ∀ x ∈ e :: l, x.1 ≤ (l.foldl later e).1 := by
  induction l generalizing e with
  | nil => exact ⟨List.mem_singleton_self e, by simp [Instant.le_refl]⟩
  | cons x l ih =>
    obtain ⟨hmem, hle⟩ := ih (later e x)
    obtain ⟨he, hx⟩ := le_later e x
    obtain ⟨hfirst, hrest⟩ := List.forall_mem_cons.1 hle
    refine ⟨?_, List.forall_mem_cons.2 ⟨Instant.le_trans he hfirst,
      List.forall_mem_cons.2 ⟨Instant.le_trans hx hfirst, hrest⟩⟩⟩
    rcases List.mem_cons.1 hmem with heq | hmem
    · rw [List.foldl_cons, heq]
      unfold later
      split <;> simp
    · exact List.mem_cons_of_mem _ (List.mem_cons_of_mem _ hmem)

theorem latest?_eq_none_iff : h.latest? = none ↔ ∀ t, h.get? t = none := by
  unfold latest? Table.get?
  cases h.entries with
  | nil => exact iff_of_true rfl fun _ => rfl
  | cons e rest => exact iff_of_false (by simp) fun hnone => by simpa [Table.lookup] using hnone e.1

/-- The latest entry is there, and none is later. -/
theorem of_latest? (hlatest : h.latest? = some e) :
    h.get? e.1 = some e.2 ∧ ∀ t p, h.get? t = some p → t ≤ e.1 := by
  unfold latest? at hlatest
  cases hentries : h.entries with
  | nil =>
    rw [hentries] at hlatest
    cases hlatest
  | cons first rest =>
    rw [hentries] at hlatest
    obtain ⟨hmem, hle⟩ := foldl_later rest first
    rw [Option.some.inj hlatest, ← hentries] at hmem
    rw [Option.some.inj hlatest, ← hentries] at hle
    exact ⟨(h.mem_entries_iff _ _).1 hmem, fun t p hp => hle _ ((h.mem_entries_iff _ _).2 hp)⟩

/-- An entry than which none is later is the latest. -/
theorem latest?_eq_some (hentry : h.get? t = some p)
    (hlast : ∀ t' p', h.get? t' = some p' → t' ≤ t) : h.latest? = some (t, p) := by
  cases hlatest : h.latest? with
  | none => cases (latest?_eq_none_iff.1 hlatest t).symm.trans hentry
  | some e =>
    obtain ⟨hget, hle⟩ := of_latest? hlatest
    obtain rfl := Instant.le_antisymm (hle _ _ hentry) (hlast _ _ hget)
    obtain rfl := Option.some.inj (hget.symm.trans hentry)
    rfl

/-- What is the latest depends on nothing but the entries. -/
theorem latest?_congr {h h' : History} (hsame : ∀ t, h.get? t = h'.get? t) :
    h.latest? = h'.latest? := by
  cases hlatest : h.latest? with
  | none =>
    refine (latest?_eq_none_iff.2 fun t => ?_).symm
    rw [← hsame, latest?_eq_none_iff.1 hlatest]
  | some e =>
    obtain ⟨hget, hle⟩ := of_latest? hlatest
    exact (latest?_eq_some (hsame e.1 ▸ hget) fun t p hp => hle t p (hsame t ▸ hp)).symm

end History

/-! ## Reports that are stored one after another -/

/-- What reports are told apart by: courier and time. -/
def LocationReport.key (r : LocationReport) : Uuid × Instant := (r.courierId, r.createdAt)

namespace LocationStore

variable {st : LocationStore} {l : List LocationReport} {r : LocationReport} {c : Uuid}

/-- **Stores reports**, one after another. -/
def saveAll (l : List LocationReport) (st : LocationStore) : LocationStore :=
  l.foldl (fun st r => st.save r) st

/-- **What is stored**, as reports. -/
def stored (st : LocationStore) : List LocationReport :=
  st.histories.entries.flatMap fun e => e.2.entries.map fun x => ⟨e.1, x.2, x.1⟩

theorem mem_stored_iff :
    r ∈ st.stored ↔ (st.history r.courierId).get? r.createdAt = some r.position := by
  obtain ⟨c, p, t⟩ := r
  unfold stored history
  simp only [List.mem_flatMap, List.mem_map, LocationReport.mk.injEq, Prod.exists]
  constructor
  · rintro ⟨_, h, hh, _, _, hx, rfl, rfl, rfl⟩
    rw [(Table.mem_entries_iff _ _ _).1 hh]
    exact (Table.mem_entries_iff _ _ _).1 hx
  · intro hget
    cases hc : st.histories.get? c with
    | none =>
      rw [hc] at hget
      cases hget
    | some h =>
      rw [hc] at hget
      exact ⟨c, h, (Table.mem_entries_iff _ _ _).2 hc, t, p, (Table.mem_entries_iff _ _ _).2 hget,
        rfl, rfl, rfl⟩

/-- **There is one entry for each courier and time.** -/
theorem nodup_key_stored (st : LocationStore) : (st.stored.map (·.key)).Nodup := by
  unfold stored LocationReport.key
  rw [List.map_flatMap, List.nodup_flatMap]
  refine ⟨fun e _ => ?_, (List.pairwise_map.1 st.histories.nodup).imp fun {e e'} hne => ?_⟩
  · rw [List.map_map]
    refine List.Nodup.of_map Prod.snd ?_
    rw [List.map_map]
    exact e.2.nodup
  · simp only [List.map_map, Function.onFun, List.disjoint_left, List.mem_map]
    rintro _ ⟨x, -, rfl⟩ ⟨x', -, heq⟩
    exact hne (congrArg Prod.fst heq).symm

/-! ### One report -/

theorem history_save (r : LocationReport) (st : LocationStore) (c : Uuid) :
    (st.save r).history c = if c = r.courierId
      then (st.history c).putNew r.createdAt r.position else st.history c := by
  unfold save history
  rw [Table.get?_put]
  split
  · next h =>
    subst h
    rfl
  · rfl

theorem mem_keys_save : c ∈ (st.save r).histories.keys ↔ c = r.courierId ∨ c ∈ st.histories.keys := by
  show c ∈ (st.histories.put _ _).keys ↔ _
  rw [Table.keys_put]
  split
  · next hmem => exact ⟨.inr, fun h => h.elim (fun heq => heq ▸ hmem) id⟩
  · rw [List.mem_append, List.mem_singleton, or_comm]

/-! ### All of them -/

/-- **A history is made of the reports of its courier alone.** -/
theorem history_saveAll (l : List LocationReport) (st : LocationStore) (c : Uuid) :
    (st.saveAll l).history c = (l.filter (·.courierId = c)).foldl
      (fun h r => h.putNew r.createdAt r.position) (st.history c) := by
  unfold saveAll
  induction l generalizing st with
  | nil => rfl
  | cons r l ih =>
    rw [List.foldl_cons, ih, history_save, List.filter_cons]
    by_cases hc : r.courierId = c
    · simp [hc]
    · simp [hc, Ne.symm hc]

/-- The first position of a time stays. -/
theorem get?_foldl_putNew (l : List LocationReport) (h : History) (t : Instant) :
    (l.foldl (fun h r => h.putNew r.createdAt r.position) h).get? t
      = (h.get? t).or ((l.find? (·.createdAt = t)).map (·.position)) := by
  induction l generalizing h with
  | nil => exact Option.or_none.symm
  | cons r l ih =>
    rw [List.foldl_cons, ih, Table.get?_putNew, List.find?_cons]
    by_cases ht : r.createdAt = t
    · subst ht
      cases h.get? r.createdAt <;> simp
    · simp [ht, Ne.symm ht]

/-- **The store holds the first position of a courier and time.** -/
theorem get?_history_saveAll (l : List LocationReport) (c : Uuid) (t : Instant) :
    ((empty.saveAll l).history c).get? t
      = (l.find? (·.key = (c, t))).map (·.position) := by
  rw [history_saveAll, get?_foldl_putNew, List.find?_filter]
  simp [LocationReport.key, history, empty]

theorem mem_keys_saveAll :
    c ∈ (st.saveAll l).histories.keys ↔ c ∈ st.histories.keys ∨ ∃ r ∈ l, r.courierId = c := by
  unfold saveAll
  induction l generalizing st with
  | nil => simp
  | cons r l ih =>
    rw [List.foldl_cons, ih, mem_keys_save]
    simp [or_assoc, or_left_comm, eq_comm]

end LocationStore

/-! ## What the store recalls -/

namespace LocationReport

variable {l : List LocationReport} {r u : LocationReport}

/-- **A report is the first of its courier and time.** -/
def First (l : List LocationReport) (r : LocationReport) : Prop :=
  ∃ before after, l = before ++ r :: after ∧ ∀ u ∈ before, u.key ≠ r.key

/-- **A report is the latest of its courier**, and the first of those of its time. -/
structure Latest (l : List LocationReport) (r : LocationReport) : Prop where
  /-- It is the first of its time. -/
  first : First l r
  /-- None of the courier is of a later time. -/
  greatest : ∀ u ∈ l, u.courierId = r.courierId → u.createdAt ≤ r.createdAt

theorem key_of_find? {k : Uuid × Instant} (h : l.find? (·.key = k) = some r) : r.key = k := by
  simpa using List.find?_some h

theorem first_iff_find? : First l r ↔ l.find? (·.key = r.key) = some r := by
  unfold First
  simp [List.find?_eq_some_iff_append]

theorem eq_of_key (hkey : r.key = u.key) (hposition : r.position = u.position) :
    r = u := by
  obtain ⟨c, p, t⟩ := r
  obtain ⟨rfl, rfl⟩ := Prod.mk.inj hkey
  obtain rfl : p = u.position := hposition
  rfl

/-- Of every courier and time one report is the first. -/
theorem exists_first (hr : r ∈ l) : ∃ u, First l u ∧ u.key = r.key := by
  cases hfind : l.find? (·.key = r.key) with
  | none => exact absurd (decide_eq_true rfl) (List.find?_eq_none.1 hfind r hr)
  | some u =>
    have hkey := key_of_find? hfind
    exact ⟨u, first_iff_find?.2 (hkey ▸ hfind), hkey⟩

end LocationReport

open LocationReport (First Latest)

/-- **What a store holds after some reports**, and what it says of couriers. -/
structure Recalls (l : List LocationReport) (st : LocationStore) : Prop where
  /-- It holds the first report of every courier and time. -/
  stored_iff : ∀ r, r ∈ st.stored ↔ First l r
  /-- There is one entry for each courier and time. -/
  nodup : (st.stored.map (·.key)).Nodup
  /-- The couriers are those of the reports. -/
  couriers : ∀ c, c ∈ st.histories.keys ↔ ∃ r ∈ l, r.courierId = c
  /-- Nothing is known of a courier exactly if there was no report. -/
  notFound_iff : ∀ c, st.latestPosition c = .error (.notFound "courier position" c.toText)
    ↔ ∀ r ∈ l, r.courierId ≠ c
  /-- If there was one then there is a latest. -/
  exists_latest : ∀ r ∈ l, ∃ u, Latest l u ∧ u.courierId = r.courierId
  /-- The latest report says where the courier is. -/
  latest : ∀ r, Latest l r → st.latestPosition r.courierId = .ok r.position
  /-- The reports of others make no difference. -/
  alone : ∀ c, st.latestPosition c
    = (LocationStore.empty.saveAll (l.filter (·.courierId = c))).latestPosition c

namespace LocationStore

variable {l : List LocationReport} {r : LocationReport} {c : Uuid}

theorem latestPosition_eq_notFound_iff {st : LocationStore} :
    st.latestPosition c = .error (.notFound "courier position" c.toText)
      ↔ (st.history c).latest? = none := by
  unfold latestPosition
  cases (st.history c).latest? <;> simp

theorem mem_stored_saveAll_iff : r ∈ (empty.saveAll l).stored ↔ First l r := by
  rw [mem_stored_iff, get?_history_saveAll, LocationReport.first_iff_find?, Option.map_eq_some_iff]
  constructor
  · rintro ⟨u, hu, hposition⟩
    obtain rfl := LocationReport.eq_of_key (LocationReport.key_of_find? hu) hposition
    exact hu
  · exact fun h => ⟨r, h, rfl⟩

/-- There is no latest entry exactly if there was no report. -/
theorem latest?_history_saveAll_eq_none_iff :
    ((empty.saveAll l).history c).latest? = none ↔ ∀ r ∈ l, r.courierId ≠ c := by
  rw [History.latest?_eq_none_iff]
  simp only [get?_history_saveAll, Option.map_eq_none_iff, List.find?_eq_none, decide_eq_true_eq]
  constructor
  · rintro hnone r hr rfl
    exact hnone r.createdAt r hr rfl
  · exact fun hnone t r hr hkey => hnone r hr (congrArg Prod.fst hkey)

/-- **The latest entry is that of the latest report.** -/
theorem latest?_history_saveAll (h : Latest l r) :
    ((empty.saveAll l).history r.courierId).latest? = some (r.createdAt, r.position) := by
  refine History.latest?_eq_some ?_ fun t p hp => ?_
  · exact mem_stored_iff.1 (mem_stored_saveAll_iff.2 h.first)
  · rw [get?_history_saveAll, Option.map_eq_some_iff] at hp
    obtain ⟨u, hu, -⟩ := hp
    obtain ⟨hcourier, rfl⟩ := Prod.mk.inj (LocationReport.key_of_find? hu)
    exact h.greatest u (List.mem_of_find?_eq_some hu) hcourier

/-- A courier with a report has a latest one. -/
theorem exists_latest (hr : r ∈ l) : ∃ u, Latest l u ∧ u.courierId = r.courierId := by
  -- It is the one in the latest entry, since every time that was reported has an entry.
  cases hlatest : ((empty.saveAll l).history r.courierId).latest? with
  | none => exact absurd rfl (latest?_history_saveAll_eq_none_iff.1 hlatest r hr)
  | some e =>
    obtain ⟨hget, hle⟩ := History.of_latest? hlatest
    have hfirst : First l ⟨r.courierId, e.2, e.1⟩ :=
      mem_stored_saveAll_iff.1 (mem_stored_iff.2 hget)
    refine ⟨_, ⟨hfirst, fun u hu hcourier => ?_⟩, rfl⟩
    obtain ⟨v, hv, hkey⟩ := LocationReport.exists_first hu
    have hstored := mem_stored_iff.1 (mem_stored_saveAll_iff.2 hv)
    obtain ⟨hcourier', htime⟩ := Prod.mk.inj hkey
    rw [hcourier', htime, hcourier] at hstored
    exact hle _ _ hstored

/-- **What a store holds is told by what was saved.** -/
theorem recalls_saveAll (l : List LocationReport) : Recalls l (empty.saveAll l) where
  stored_iff _ := mem_stored_saveAll_iff
  nodup := nodup_key_stored _
  couriers _ := mem_keys_saveAll.trans (or_iff_right (by simp [empty, Table.keys, Table.empty]))
  notFound_iff _ := latestPosition_eq_notFound_iff.trans latest?_history_saveAll_eq_none_iff
  exists_latest _ := exists_latest
  latest r h := by
    unfold latestPosition
    rw [latest?_history_saveAll h]
  alone c := by
    unfold latestPosition
    rw [history_saveAll, history_saveAll, List.filter_filter]
    simp only [Bool.and_self]

end LocationStore

/-! ## One report of each courier and time -/

/-- There is one position of each courier and time. -/
def Consistent (reports : List LocationReport) : Prop :=
  ∀ r ∈ reports, ∀ u ∈ reports, r.key = u.key → r.position = u.position

instance (reports : List LocationReport) : Decidable (Consistent reports) :=
  inferInstanceAs (Decidable (∀ r ∈ reports, ∀ u ∈ reports, _ → _))

/-- **A store holds some reports and nothing else**, whichever came first. -/
structure Settled (reports : List LocationReport) (st : LocationStore) : Prop where
  /-- All reports are stored, once. -/
  stored : st.stored.Perm reports.dedup
  /-- There is one entry for each courier and time. -/
  keys : (st.stored.map (·.key)).Perm (reports.map (·.key)).dedup
  /-- The couriers are those of the reports. -/
  couriers : st.histories.keys.Perm (reports.map (·.courierId)).dedup

/-- Two stores that nobody can tell apart. -/
structure Interchangeable (st st' : LocationStore) : Prop where
  /-- They hold the same reports. -/
  stored : st.stored.Perm st'.stored
  /-- They know the same couriers. -/
  couriers : st.histories.keys.Perm st'.histories.keys
  /-- They have seen every courier at as many times. -/
  count : ∀ c, st.count c = st'.count c
  /-- They say the same of where it is. -/
  latestPosition : ∀ c, st.latestPosition c = st'.latestPosition c

section

variable {l reports : List LocationReport} {st : LocationStore} {r : LocationReport}

/-- Then every report is the first of its courier and time. -/
theorem Consistent.first_iff (h : Consistent reports) (hsame : ∀ r, r ∈ l ↔ r ∈ reports) :
    First l r ↔ r ∈ reports := by
  constructor
  · rintro ⟨before, after, rfl, -⟩
    exact (hsame r).1 (by simp)
  · intro hr
    obtain ⟨u, hu, hkey⟩ := LocationReport.exists_first ((hsame r).2 hr)
    have hmem : u ∈ l := List.mem_of_find?_eq_some (LocationReport.first_iff_find?.1 hu)
    obtain rfl := LocationReport.eq_of_key hkey (h u ((hsame u).1 hmem) r hr hkey)
    exact hu

theorem Settled.interchangeable {st' : LocationStore} (h : Settled reports st)
    (h' : Settled reports st') : Interchangeable st st' := by
  have hstored := h.stored.trans h'.stored.symm
  have hsame : ∀ c t, (st.history c).get? t = (st'.history c).get? t := fun c t =>
    Option.ext fun p => by
      have hmem := hstored.mem_iff (a := ⟨c, p, t⟩)
      rwa [LocationStore.mem_stored_iff, LocationStore.mem_stored_iff] at hmem
  refine ⟨hstored, h.couriers.trans h'.couriers.symm, fun c => ?_, fun c => ?_⟩
  · exact Table.size_congr (hsame c)
  · unfold LocationStore.latestPosition
    rw [History.latest?_congr (hsame c)]

/-- **A store holds the reports that came**, in whatever order and however often. -/
theorem Recalls.settled (hrecalls : Recalls l st) (h : Consistent reports)
    (hsame : ∀ r, r ∈ l ↔ r ∈ reports) : Settled reports st := by
  have hstored : st.stored.Perm reports.dedup := by
    refine (List.perm_ext_iff_of_nodup (List.Nodup.of_map _ hrecalls.nodup)
      (List.nodup_dedup _)).2 fun r => ?_
    rw [hrecalls.stored_iff, h.first_iff hsame, List.mem_dedup]
  refine ⟨hstored, ?_, ?_⟩
  · refine (List.perm_ext_iff_of_nodup hrecalls.nodup (List.nodup_dedup _)).2 fun k => ?_
    rw [(hstored.map _).mem_iff]
    simp [List.mem_map]
  · refine (List.perm_ext_iff_of_nodup st.histories.nodup (List.nodup_dedup _)).2 fun c => ?_
    refine (hrecalls.couriers c).trans ?_
    simp only [hsame, List.mem_dedup, List.mem_map]

end

end CourierDispatch
