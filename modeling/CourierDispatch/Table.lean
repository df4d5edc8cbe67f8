/-!
# Tables in order of first insertion

Every store of this library (orders, couriers' assignments, location
histories, cached schemas, live claims) is a table from keys to values
whose keys keep the order in which they first arrived. Replacing a value
leaves its key where it stands, so what is listed never depends on how
often a key was written again.

The keys of a table are distinct by construction. The rest of the library
reads a table only through `get?`, and the lemmas here say what each
operation does to it.
-/

namespace CourierDispatch

/-- **A table**: pairs with distinct keys, in order of first insertion. -/
structure Table (κ ν : Type) where
  /-- The pairs, first inserted first. -/
  entries : List (κ × ν)
  /-- No key occurs twice. -/
  nodup : (entries.map Prod.fst).Nodup

namespace Table

variable {κ ν : Type} [DecidableEq κ]

/-! ## Operations on the pairs -/

/-- The value at a key. -/
def lookup (k : κ) : List (κ × ν) → Option ν
  | [] => none
  | (k', v) :: rest => if k' = k then some v else lookup k rest

/-- Replaces the value at a key, or adds the pair at the end. -/
def write (k : κ) (v : ν) : List (κ × ν) → List (κ × ν)
  | [] => [(k, v)]
  | (k', v') :: rest => if k' = k then (k, v) :: rest else (k', v') :: write k v rest

/-- Drops the pair of a key. -/
def drop (k : κ) (l : List (κ × ν)) : List (κ × ν) := l.filter fun e => e.1 ≠ k

theorem lookup_write_self (k : κ) (v : ν) (l : List (κ × ν)) :
    lookup k (write k v l) = some v := by
  induction l with
  | nil => simp [write, lookup]
  | cons e rest ih =>
    obtain ⟨k', v'⟩ := e
    by_cases h : k' = k <;> simp [write, lookup, h, ih]

theorem lookup_write_of_ne {k j : κ} (h : j ≠ k) (v : ν) (l : List (κ × ν)) :
    lookup j (write k v l) = lookup j l := by
  induction l with
  | nil => simp [write, lookup, Ne.symm h]
  | cons e rest ih =>
    obtain ⟨k', v'⟩ := e
    by_cases hk : k' = k
    · subst hk
      simp [write, lookup, Ne.symm h]
    · simp only [write, if_neg hk, lookup, ih]

theorem map_fst_write (k : κ) (v : ν) (l : List (κ × ν)) :
    (write k v l).map Prod.fst =
      if k ∈ l.map Prod.fst then l.map Prod.fst else l.map Prod.fst ++ [k] := by
  induction l with
  | nil => simp [write]
  | cons e rest ih =>
    obtain ⟨k', v'⟩ := e
    by_cases hk : k' = k
    · simp [write, hk]
    · have hk' : ¬ k = k' := fun h => hk h.symm
      simp only [write, if_neg hk, List.map_cons, ih, List.mem_cons, hk', false_or]
      by_cases hm : k ∈ rest.map Prod.fst <;> simp [hm]

theorem lookup_eq_none_iff (k : κ) (l : List (κ × ν)) :
    lookup k l = none ↔ k ∉ l.map Prod.fst := by
  induction l with
  | nil => simp [lookup]
  | cons e rest ih =>
    obtain ⟨k', v'⟩ := e
    by_cases hk : k' = k
    · simp [lookup, hk]
    · have hk' : ¬ k = k' := fun h => hk h.symm
      simp only [lookup, if_neg hk, ih, List.map_cons, List.mem_cons, hk', false_or]

theorem lookup_drop_self (k : κ) (l : List (κ × ν)) : lookup k (drop k l) = none := by
  rw [lookup_eq_none_iff]
  simp [drop]

theorem lookup_drop_of_ne {k j : κ} (h : j ≠ k) (l : List (κ × ν)) :
    lookup j (drop k l) = lookup j l := by
  induction l with
  | nil => rfl
  | cons e rest ih =>
    obtain ⟨k', v'⟩ := e
    by_cases hk : k' = k
    · subst hk
      simpa [drop, lookup, Ne.symm h] using ih
    · have kept : drop k ((k', v') :: rest) = (k', v') :: drop k rest := by simp [drop, hk]
      simp only [kept, lookup, ih]

theorem nodup_write {k : κ} {v : ν} {l : List (κ × ν)} (h : (l.map Prod.fst).Nodup) :
    ((write k v l).map Prod.fst).Nodup := by
  rw [map_fst_write]
  by_cases hm : k ∈ l.map Prod.fst
  · simpa [hm] using h
  · rw [if_neg hm]
    refine List.nodup_append.2 ⟨h, by simp, ?_⟩
    intro a ha b hb hab
    simp only [List.mem_singleton] at hb
    exact hm (hb ▸ hab ▸ ha)

theorem nodup_drop {k : κ} {l : List (κ × ν)} (h : (l.map Prod.fst).Nodup) :
    ((drop k l).map Prod.fst).Nodup :=
  h.sublist (List.Sublist.map _ List.filter_sublist)

theorem mem_of_lookup {k : κ} {v : ν} {l : List (κ × ν)} (h : lookup k l = some v) :
    (k, v) ∈ l := by
  induction l with
  | nil => cases h
  | cons e rest ih =>
    obtain ⟨k', v'⟩ := e
    unfold lookup at h
    split at h
    · next hk =>
      cases h
      exact hk ▸ List.mem_cons_self ..
    · exact List.mem_cons_of_mem _ (ih h)

theorem mem_iff_lookup {k : κ} {v : ν} {l : List (κ × ν)} (h : (l.map Prod.fst).Nodup) :
    (k, v) ∈ l ↔ lookup k l = some v := by
  induction l with
  | nil => simp [lookup]
  | cons e rest ih =>
    obtain ⟨k', v'⟩ := e
    obtain ⟨hnew, hrest⟩ := List.nodup_cons.1 h
    by_cases hk : k' = k
    · subst hk
      have hout : (k', v) ∉ rest := fun hm => hnew (List.mem_map.2 ⟨_, hm, rfl⟩)
      simp [lookup, hout, eq_comm]
    · have hk' : ¬ k = k' := fun h => hk h.symm
      simp [lookup, hk, hk', ih hrest]

theorem mem_of_mem_write {k : κ} {v : ν} {l : List (κ × ν)} {e : κ × ν} (h : e ∈ write k v l) :
    e = (k, v) ∨ e ∈ l := by
  induction l with
  | nil => exact .inl (List.mem_singleton.1 h)
  | cons e' rest ih =>
    obtain ⟨k', v'⟩ := e'
    unfold write at h
    split at h
    · exact (List.mem_cons.1 h).imp_right (List.mem_cons_of_mem _)
    · rcases List.mem_cons.1 h with rfl | hrest
      · exact .inr (List.mem_cons_self ..)
      · exact (ih hrest).imp_right (List.mem_cons_of_mem _)

/-- A new key is written at the end. -/
theorem write_of_notMem {k : κ} {l : List (κ × ν)} (h : k ∉ l.map Prod.fst) (v : ν) :
    write k v l = l ++ [(k, v)] := by
  induction l with
  | nil => rfl
  | cons e rest ih =>
    obtain ⟨k', v'⟩ := e
    obtain ⟨hk, hrest⟩ := not_or.1 (mt List.mem_cons.2 h)
    rw [write, if_neg (Ne.symm hk), ih hrest, List.cons_append]

/-- Pairs that are written one after the other are there as they came, if their keys are
distinct and new. -/
theorem foldl_write {l acc : List (κ × ν)} (h : ((acc ++ l).map Prod.fst).Nodup) :
    l.foldl (fun acc e => write e.1 e.2 acc) acc = acc ++ l := by
  induction l generalizing acc with
  | nil => exact (List.append_nil acc).symm
  | cons e rest ih =>
    have hnew : e.1 ∉ acc.map Prod.fst := fun hmem => by
      rw [List.map_append] at h
      exact (List.nodup_append.1 h).2.2 _ hmem _ (List.mem_cons_self ..) rfl
    rw [List.foldl_cons, write_of_notMem hnew, ih (by rwa [← List.append_cons]),
      ← List.append_cons]

theorem forall_mem_foldl_write {P : κ × ν → Prop} {l acc : List (κ × ν)} (hl : ∀ e ∈ l, P e)
    (hacc : ∀ e ∈ acc, P e) : ∀ e ∈ l.foldl (fun acc e => write e.1 e.2 acc) acc, P e := by
  induction l generalizing acc with
  | nil => exact hacc
  | cons e rest ih =>
    obtain ⟨hfirst, hrest⟩ := List.forall_mem_cons.1 hl
    refine ih hrest fun e' he' => ?_
    rcases mem_of_mem_write he' with rfl | he'
    · exact hfirst
    · exact hacc e' he'

theorem nodup_foldl_write {l acc : List (κ × ν)} (hacc : (acc.map Prod.fst).Nodup) :
    ((l.foldl (fun acc e => write e.1 e.2 acc) acc).map Prod.fst).Nodup := by
  induction l generalizing acc with
  | nil => exact hacc
  | cons e rest ih => exact ih (nodup_write hacc)

/-- Writing a value at a key trades the old value for the new one, where
values are counted. -/
theorem countP_write (p : ν → Bool) (k : κ) (v : ν) (l : List (κ × ν)) :
    (((write k v l).map Prod.snd).countP p) + ((lookup k l).toList.countP p)
      = (l.map Prod.snd).countP p + [v].countP p := by
  induction l with
  | nil => simp [write, lookup]
  | cons e rest ih =>
    obtain ⟨k', v'⟩ := e
    by_cases hk : k' = k
    · simp only [write, lookup, if_pos hk, List.map_cons, List.countP_cons, Option.toList_some,
        List.countP_nil]
      omega
    · simp only [write, lookup, if_neg hk, List.map_cons, List.countP_cons] at ih ⊢
      omega

/-! ## Operations on tables -/

/-- The table without pairs. -/
def empty : Table κ ν := ⟨[], by simp⟩

instance : EmptyCollection (Table κ ν) := ⟨empty⟩

instance : Inhabited (Table κ ν) := ⟨empty⟩

/-- The value at a key, if the key is there. -/
def get? (t : Table κ ν) (k : κ) : Option ν := lookup k t.entries

/-- Whether the key is there. -/
def contains (t : Table κ ν) (k : κ) : Bool := (t.get? k).isSome

/-- The table with the value at a key, in the key's old place if it had
one and at the end otherwise. -/
def put (t : Table κ ν) (k : κ) (v : ν) : Table κ ν :=
  ⟨write k v t.entries, nodup_write t.nodup⟩

/-- The table with the value at a key unless the key is already there. -/
def putNew (t : Table κ ν) (k : κ) (v : ν) : Table κ ν :=
  if t.contains k then t else t.put k v

/-- The table without a key. -/
def erase (t : Table κ ν) (k : κ) : Table κ ν := ⟨drop k t.entries, nodup_drop t.nodup⟩

/-- The keys, first inserted first. -/
def keys (t : Table κ ν) : List κ := t.entries.map Prod.fst

/-- The values, in the order of their keys. -/
def values (t : Table κ ν) : List ν := t.entries.map Prod.snd

/-- The number of keys. -/
def size (t : Table κ ν) : Nat := t.entries.length

omit [DecidableEq κ] in
@[ext]
theorem ext {t u : Table κ ν} (h : t.entries = u.entries) : t = u := by
  cases t; cases u; cases h; rfl

@[simp]
theorem get?_empty (k : κ) : (empty : Table κ ν).get? k = none := rfl

@[simp]
theorem get?_put_self (t : Table κ ν) (k : κ) (v : ν) : (t.put k v).get? k = some v :=
  lookup_write_self k v t.entries

@[simp]
theorem get?_put_of_ne (t : Table κ ν) {k j : κ} (h : j ≠ k) (v : ν) :
    (t.put k v).get? j = t.get? j :=
  lookup_write_of_ne h v t.entries

theorem get?_put (t : Table κ ν) (k j : κ) (v : ν) :
    (t.put k v).get? j = if j = k then some v else t.get? j := by
  by_cases h : j = k
  · subst h
    simp
  · simp [h]

@[simp]
theorem get?_erase_self (t : Table κ ν) (k : κ) : (t.erase k).get? k = none :=
  lookup_drop_self k t.entries

@[simp]
theorem get?_erase_of_ne (t : Table κ ν) {k j : κ} (h : j ≠ k) :
    (t.erase k).get? j = t.get? j :=
  lookup_drop_of_ne h t.entries

theorem get?_erase (t : Table κ ν) (k j : κ) :
    (t.erase k).get? j = if j = k then none else t.get? j := by
  by_cases h : j = k
  · subst h
    simp
  · simp [h]

theorem mem_entries_iff (t : Table κ ν) (k : κ) (v : ν) :
    (k, v) ∈ t.entries ↔ t.get? k = some v :=
  mem_iff_lookup t.nodup

theorem mem_values_iff (t : Table κ ν) (v : ν) : v ∈ t.values ↔ ∃ k, t.get? k = some v := by
  simp [values, mem_entries_iff]

/-- **Counted values under a change**: what stood at the key is counted no
more, and what stands there now is. -/
theorem countP_values_put (p : ν → Bool) (t : Table κ ν) (k : κ) (v : ν) :
    (t.put k v).values.countP p + (t.get? k).toList.countP p
      = t.values.countP p + [v].countP p :=
  countP_write p k v t.entries

omit [DecidableEq κ] in
theorem size_eq_countP (t : Table κ ν) : t.size = t.values.countP fun _ => true := by
  simp [size, values]

/-- A new key makes the table larger by one. -/
theorem size_put_of_get?_eq_none {t : Table κ ν} {k : κ} (h : t.get? k = none) (v : ν) :
    (t.put k v).size = t.size + 1 := by
  have hcount := countP_values_put (fun _ => true) t k v
  rw [size_eq_countP, size_eq_countP]
  simpa [h] using hcount

theorem get?_eq_none_iff (t : Table κ ν) (k : κ) : t.get? k = none ↔ k ∉ t.keys :=
  lookup_eq_none_iff k t.entries

theorem keys_put (t : Table κ ν) (k : κ) (v : ν) :
    (t.put k v).keys = if k ∈ t.keys then t.keys else t.keys ++ [k] :=
  map_fst_write k v t.entries

/-- **The first value written stays**: `putNew` never changes a key that is
there. -/
theorem get?_putNew (t : Table κ ν) (k j : κ) (v : ν) :
    (t.putNew k v).get? j = if j = k then some ((t.get? k).getD v) else t.get? j := by
  unfold putNew contains
  by_cases hk : (t.get? k).isSome
  · rw [if_pos hk]
    obtain ⟨w, hw⟩ := Option.isSome_iff_exists.1 hk
    by_cases h : j = k
    · subst h
      simp [hw]
    · simp [h]
  · rw [if_neg hk, get?_put]
    have hn : t.get? k = none := by simpa using hk
    by_cases h : j = k <;> simp [h, hn]

/-- What is there stays. -/
theorem get?_putNew_of_eq_some {t : Table κ ν} {k j : κ} {v w : ν} (h : t.get? j = some w) :
    (t.putNew k v).get? j = some w := by
  rw [get?_putNew]
  split
  · next same => rw [← same, h, Option.getD_some]
  · exact h

/-- What is there was there before, or it was put there. -/
theorem of_get?_putNew {t : Table κ ν} {k j : κ} {v w : ν} (h : (t.putNew k v).get? j = some w) :
    t.get? j = some w ∨ j = k ∧ w = v := by
  rw [get?_putNew] at h
  split at h
  · next same =>
    subst same
    cases there : t.get? j with
    | some w' =>
      rw [there, Option.getD_some] at h
      exact .inl h
    | none =>
      rw [there, Option.getD_none] at h
      exact .inr ⟨rfl, (Option.some.inj h).symm⟩
  · exact .inl h

/-- At a new key there is what was put there. -/
theorem get?_putNew_of_eq_none {t : Table κ ν} {k : κ} {v : ν} (h : t.get? k = none) :
    (t.putNew k v).get? k = some v := by
  rw [get?_putNew, if_pos rfl, h, Option.getD_none]

end Table

end CourierDispatch
