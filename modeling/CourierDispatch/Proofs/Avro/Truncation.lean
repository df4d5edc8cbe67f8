import CourierDispatch.Proofs.Avro.Layout

/-!
# Values cut off

The bytes of a value may be cut off anywhere. What is read of them then depends on
where: within a length or a number nothing is, but where a truth value is missing,
or the end of a text, or the number of a branch, null is read, and nothing is left
of the input. The fields behind read from no bytes at all, which is null again for
truth values and for texts that may be missing, and fails for the others.

So of a value that is laid out in a known way only few JSON values can be read, and
they can be listed: `Layout.missing?` is what reads from no bytes at all, and
`Layout.cuts` what reads from bytes that are cut off. That nothing else is read is
`Layout.exists_encoded`; that what is missing is read so, `Layout.read_nil`.
-/

namespace CourierDispatch.Avro

/-! ## Bytes cut off -/

/-- **Bytes cut off**: some of the first of them, but not all. -/
def CutOff (p b : Bytes) : Prop := p <+: b ∧ p ≠ b

instance (p b : Bytes) : Decidable (CutOff p b) := inferInstanceAs (Decidable (p <+: b ∧ p ≠ b))

namespace CutOff

variable {p a b : Bytes}

theorem nil_right : ¬ CutOff p [] := fun h => h.2 (List.prefix_nil.1 h.1)

theorem length_lt (h : CutOff p b) : p.length < b.length :=
  Nat.lt_of_le_of_ne h.1.length_le fun heq => h.2 (h.1.eq_of_length heq)

theorem cons_cases {x : UInt8} (h : CutOff p (x :: b)) :
    p = [] ∨ ∃ p', p = x :: p' ∧ CutOff p' b := by
  cases p with
  | nil => exact .inl rfl
  | cons y p' =>
    obtain ⟨rfl, hp'⟩ := List.cons_prefix_cons.1 h.1
    exact .inr ⟨p', rfl, hp', fun heq => h.2 (congrArg _ heq)⟩

/-- The cut is in the first part or in the second. -/
theorem append_cases (h : CutOff p (a ++ b)) : CutOff p a ∨ ∃ p', p = a ++ p' ∧ CutOff p' b := by
  by_cases hlt : p.length < a.length
  · refine .inl ⟨List.prefix_of_prefix_length_le h.1 (List.prefix_append a b) (Nat.le_of_lt hlt), ?_⟩
    rintro rfl
    exact Nat.lt_irrefl _ hlt
  · obtain ⟨p', rfl⟩ :=
      List.prefix_of_prefix_length_le (List.prefix_append a b) h.1 (Nat.le_of_not_lt hlt)
    exact .inr ⟨p', rfl, (List.prefix_append_right_inj a).1 h.1, fun heq => h.2 (congrArg _ heq)⟩

end CutOff

/-! ## Numbers and texts -/

/-- No number is read of groups that are cut off. -/
theorem readGroups_of_cutOff {k n : Nat} {p : Bytes} (h : CutOff p (groups (k + 1) n)) :
    readGroups (k + 1) p = .error .endOfInput := by
  induction k generalizing n p with
  | zero =>
    unfold groups at h
    split at h
    · rcases h.cons_cases with rfl | ⟨p', -, hp'⟩
      · rfl
      · exact absurd hp' CutOff.nil_right
    · rcases h.cons_cases with rfl | ⟨p', -, hp'⟩
      · rfl
      · exact absurd hp' CutOff.nil_right
  | succ k ih =>
    unfold groups at h
    split at h
    · rcases h.cons_cases with rfl | ⟨p', -, hp'⟩
      · rfl
      · exact absurd hp' CutOff.nil_right
    · rcases h.cons_cases with rfl | ⟨p', rfl, hp'⟩
      · rfl
      · have more : ¬ (UInt8.ofNat (n % 128 + 128)).toNat < 128 := by simp; omega
        unfold readGroups
        rw [if_neg more, ih hp']

theorem readLong_of_cutOff {n : Int64} {p : Bytes} (h : CutOff p (long n)) :
    readLong p = .error .endOfInput := by
  have none : readGroups groupLimit p = .error .endOfInput := readGroups_of_cutOff h
  unfold readLong
  rw [none]

theorem writeCount_ne_nil (n : Nat) : writeCount n ≠ [] := by
  unfold writeCount long groupLimit groups
  split
  · exact List.cons_ne_nil _ _
  · exact List.cons_ne_nil _ _

/-- A length that is refused or read, for texts that fit into memory. -/
theorem readLength_writeCount_cases {n : Nat} (h : n < 2 ^ 63) (rest : Bytes) :
    readLength (writeCount n ++ rest) = none
      ∨ readLength (writeCount n ++ rest) = some (n, rest) := by
  by_cases hn : n ≤ lengthLimit
  · exact .inr (readLength_writeCount hn rest)
  · have exact : (Int64.ofNat n).toInt = n := Int64.toInt_ofNat_of_lt h
    unfold readLength writeCount
    rw [readLong_long]
    simp only [exact, Int.toNat_natCast]
    exact .inl (if_neg fun hle => hn hle.2)

theorem takeExactly_of_lt {n : Nat} {b : Bytes} (h : b.length < n) : takeExactly n b = none := by
  unfold takeExactly
  rw [List.take_of_length_le (Nat.le_of_lt h)]
  exact if_neg (Nat.ne_of_lt h)

/-- Of a text that is cut off null is read, or nothing. -/
theorem readText_of_cutOff {s : String} (hs : s.utf8ByteSize < 2 ^ 63) {p : Bytes}
    (h : CutOff p (writeSized (Bytes.ofText s))) : readText p = none ∨ readText p = some (.null, []) := by
  unfold writeSized at h
  rcases h.append_cases with hp | ⟨p', rfl, hp'⟩
  · left
    unfold writeCount at hp
    unfold readText readLength
    rw [readLong_of_cutOff hp]
  · unfold readText
    rw [← Bytes.length_ofText] at hs
    rcases readLength_writeCount_cases hs p' with hnone | hsome
    · rw [hnone]
      exact .inl rfl
    · rw [hsome]
      dsimp only
      rw [takeExactly_of_lt hp'.length_lt]
      exact .inr rfl

/-- Of a whole text nothing else is read. -/
theorem readText_eq_some {s : String} (hs : s.utf8ByteSize < 2 ^ 63) {rest rest' : Bytes} {v : Value}
    (h : readText (writeSized (Bytes.ofText s) ++ rest) = some (v, rest')) :
    v = .string s ∧ rest' = rest := by
  unfold writeSized at h
  rw [← Bytes.length_ofText] at hs
  unfold readText at h
  rw [List.append_assoc] at h
  rcases readLength_writeCount_cases hs (Bytes.ofText s ++ rest) with hnone | hsome
  · rw [hnone] at h
    cases h
  · rw [hsome] at h
    simp only [takeExactly_append, Bytes.text?_ofText, Option.map_some, Option.some.injEq,
      Prod.mk.injEq] at h
    exact ⟨h.1.symm, h.2.symm⟩

/-! ## What is read of bytes -/

variable {ns : Names} {depth : Nat}

/-- **What is read of the bytes of a value**: the JSON value `j`, if they are whole,
and one of `js`, with nothing left, if they are cut off. Nothing at all may be read in
either case. -/
structure ReadsAs (ns : Names) (depth : Nat) (s : Schema) (b : Bytes) (j : Json) (js : List Json) :
    Prop where
  /-- The whole value, and not one byte more. -/
  whole : ∀ {rest v rest'}, read ns depth s (b ++ rest) = some (v, rest') →
    v.toJson? = some j ∧ rest' = rest
  /-- The value cut off. -/
  cut : ∀ {p v rest'}, CutOff p b → read ns depth s p = some (v, rest') →
    (∃ j' ∈ js, v.toJson? = some j') ∧ rest' = []

/-- What is read of the bytes of fields. -/
structure ReadsAll (ns : Names) (depth : Nat) (fields : List (Field × Schema)) (b : Bytes)
    (members : List (String × Json)) (cuts : List (List (String × Json))) : Prop where
  /-- All of the fields, and not one byte more. -/
  whole : ∀ {rest held rest'}, readFields (read ns depth) fields (b ++ rest) = some (held, rest') →
    Value.toMembers? held = some members ∧ rest' = rest
  /-- The fields cut off. -/
  cut : ∀ {p held rest'}, CutOff p b → readFields (read ns depth) fields p = some (held, rest') →
    (∃ ms ∈ cuts, Value.toMembers? held = some ms) ∧ rest' = []

namespace ReadsAs

theorem flag (b : Bool) :
    ReadsAs ns (depth + 1) .boolean [if b then 1 else 0] (.bool b) [.null] where
  whole h := by
    cases b with
    | true => cases h; exact ⟨rfl, rfl⟩
    | false => cases h; exact ⟨rfl, rfl⟩
  cut hcut h := by
    rcases hcut.cons_cases with rfl | ⟨p', -, hp'⟩
    · cases h
      exact ⟨⟨_, List.mem_singleton_self _, rfl⟩, rfl⟩
    · exact absurd hp' CutOff.nil_right

theorem text {s : String} (hs : s.utf8ByteSize < 2 ^ 63) :
    ReadsAs ns (depth + 1) .string (writeSized (Bytes.ofText s)) (.string s) [.null] where
  whole h := by
    obtain ⟨rfl, rfl⟩ := readText_eq_some hs h
    exact ⟨rfl, rfl⟩
  cut {p v rest'} hcut h := by
    have h : readText p = some (v, rest') := h
    rcases readText_of_cutOff hs hcut with hnone | hnull
    · rw [hnone] at h
      cases h
    · rw [hnull] at h
      cases h
      exact ⟨⟨_, List.mem_singleton_self _, rfl⟩, rfl⟩

theorem real {x : Binary64} (hx : x.isFinite) :
    ReadsAs ns (depth + 1) .double x.toBytes (.real x) [] where
  whole {rest v rest'} h := by
    rw [(Carried.real hx).readBack] at h
    cases h
    exact ⟨if_pos hx, rfl⟩
  cut hcut h := by
    have eight : x.toBytes.length = 8 := Bytes.length_littleEndian _ _
    rw [read_double, takeExactly_of_lt (eight ▸ hcut.length_lt)] at h
    cases h

theorem null : ReadsAs ns (depth + 1) .null [] .null [] where
  whole h := by
    cases h
    exact ⟨rfl, rfl⟩
  cut hcut _ := absurd hcut CutOff.nil_right

theorem toJson?_union (i : Nat) (v : Value) : (Value.union i v).toJson? = v.toJson? := by
  rw [Value.toJson?]

/-- Where the number of the branch is missing, null is read. -/
theorem union {branches : List Schema} {i : Nat} {s : Schema} {j : Json} {js : List Json}
    {b : Bytes} (h : ReadsAs ns depth s b j js) (branch : branches[i]? = some s)
    (small : i < 2 ^ 63) :
    ReadsAs ns (depth + 1) (.union branches) (writeCount i ++ b) j (.null :: js) := by
  have exact : (Int64.ofNat i).toInt = i := Int64.toInt_ofNat_of_lt small
  have hread : ∀ rest, read ns (depth + 1) (.union branches) (writeCount i ++ rest)
      = (read ns depth s rest).map fun p => (.union i p.1, p.2) := by
    intro rest
    unfold writeCount
    rw [read_union, readLong_long]
    simp only [exact, Int.toNat_natCast, branch]
    rw [if_pos (by omega)]
  constructor
  · intro rest v rest' hv
    rw [List.append_assoc, hread, Option.map_eq_some_iff] at hv
    obtain ⟨⟨v', r⟩, hv', heq⟩ := hv
    cases heq
    rw [toJson?_union]
    exact h.whole hv'
  · intro p v rest' hcut hv
    rcases hcut.append_cases with hp | ⟨p', rfl, hp'⟩
    · unfold writeCount at hp
      rw [read_union, readLong_of_cutOff hp] at hv
      cases hv
      exact ⟨⟨.null, List.mem_cons_self, rfl⟩, rfl⟩
    · rw [hread, Option.map_eq_some_iff] at hv
      obtain ⟨⟨v', r⟩, hv', heq⟩ := hv
      cases heq
      obtain ⟨⟨j', hj', hshown⟩, hr⟩ := h.cut hp' hv'
      exact ⟨⟨j', List.mem_cons_of_mem _ hj', (toJson?_union i v').trans hshown⟩, hr⟩

theorem mono {s : Schema} {b : Bytes} {j : Json} {js js' : List Json} (h : ReadsAs ns depth s b j js)
    (hjs : js ⊆ js') : ReadsAs ns depth s b j js' where
  whole := h.whole
  cut hcut hv :=
    have ⟨⟨j', hj', hshown⟩, hrest⟩ := h.cut hcut hv
    ⟨⟨j', hjs hj', hshown⟩, hrest⟩

/-- A record reads as its fields do. -/
theorem record {n : Name} {fields : List (Field × Schema)} {b : Bytes}
    {members : List (String × Json)} {cuts : List (List (String × Json))}
    (h : ReadsAll ns depth fields b members cuts) :
    ReadsAs ns (depth + 1) (.record n fields) b (.object members) (cuts.map .object) := by
  constructor
  · intro rest v rest' hv
    rw [read_record, Option.map_eq_some_iff] at hv
    obtain ⟨⟨held, r⟩, hheld, heq⟩ := hv
    cases heq
    obtain ⟨hmembers, hr⟩ := h.whole hheld
    unfold Value.toJson?
    rw [hmembers]
    exact ⟨rfl, hr⟩
  · intro p v rest' hcut hv
    rw [read_record, Option.map_eq_some_iff] at hv
    obtain ⟨⟨held, r⟩, hheld, heq⟩ := hv
    cases heq
    obtain ⟨⟨ms, hms, hmembers⟩, hr⟩ := h.cut hcut hheld
    unfold Value.toJson?
    rw [hmembers]
    exact ⟨⟨.object ms, List.mem_map_of_mem hms, rfl⟩, hr⟩

end ReadsAs

namespace ReadsAll

theorem nil : ReadsAll ns depth [] [] [] [] where
  whole h := by
    cases h
    exact ⟨rfl, rfl⟩
  cut hcut _ := absurd hcut CutOff.nil_right

/-- The cut is in the first field, and the others read from no bytes; or it is behind
the first field. -/
theorem cons {f : Field} {s : Schema} {b bytes : Bytes} {j : Json} {js : List Json}
    {fields : List (Field × Schema)} {members : List (String × Json)}
    {cuts : List (List (String × Json))} {missing? : Option (List (String × Json))}
    (first : ReadsAs ns depth s b j js) (others : ReadsAll ns depth fields bytes members cuts)
    (nothing : ∀ {held rest}, readFields (read ns depth) fields [] = some (held, rest) →
      (∃ ms, missing? = some ms ∧ Value.toMembers? held = some ms) ∧ rest = []) :
    ReadsAll ns depth ((f, s) :: fields) (b ++ bytes) ((f.name, j) :: members)
      ((js.flatMap fun j' => missing?.toList.map ((f.name, j') :: ·))
        ++ cuts.map ((f.name, j) :: ·)) := by
  -- what is read of all the fields, from what is read of the first
  have hsome : ∀ {p held rest'},
      readFields (read ns depth) ((f, s) :: fields) p = some (held, rest') →
      ∃ v p' held', read ns depth s p = some (v, p')
        ∧ readFields (read ns depth) fields p' = some (held', rest')
        ∧ held = (f.name, v) :: held' := by
    intro p held rest' h
    unfold readFields at h
    cases hfirst : read ns depth s p with
    | none =>
      rw [hfirst] at h
      cases h
    | some q =>
      obtain ⟨v, p'⟩ := q
      rw [hfirst] at h
      obtain ⟨⟨held', r⟩, hothers, heq⟩ := Option.map_eq_some_iff.1 h
      cases heq
      exact ⟨v, p', held', rfl, hothers, rfl⟩
  have hshown : ∀ {v : Value} {held' : List (String × Value)} {j' : Json}
      {ms : List (String × Json)}, v.toJson? = some j' → Value.toMembers? held' = some ms →
      Value.toMembers? ((f.name, v) :: held') = some ((f.name, j') :: ms) := by
    intro v held' j' ms hv hheld'
    rw [Value.toMembers?, hv, hheld']
    rfl
  constructor
  · intro rest held rest' h
    rw [List.append_assoc] at h
    obtain ⟨v, p', held', hfirst, hothers, rfl⟩ := hsome h
    obtain ⟨hv, rfl⟩ := first.whole hfirst
    obtain ⟨hheld', hrest⟩ := others.whole hothers
    exact ⟨hshown hv hheld', hrest⟩
  · intro p held rest' hcut h
    obtain ⟨v, p', held', hfirst, hothers, rfl⟩ := hsome h
    rcases hcut.append_cases with hp | ⟨p'', rfl, hp⟩
    · obtain ⟨⟨j', hj', hv⟩, rfl⟩ := first.cut hp hfirst
      obtain ⟨⟨ms, hms, hheld'⟩, hrest⟩ := nothing hothers
      refine ⟨⟨_, List.mem_append_left _ ?_, hshown hv hheld'⟩, hrest⟩
      refine List.mem_flatMap.2 ⟨j', hj', List.mem_map_of_mem ?_⟩
      rw [hms]
      exact List.mem_singleton_self ms
    · obtain ⟨hv, rfl⟩ := first.whole hfirst
      obtain ⟨⟨ms, hms, hheld'⟩, hrest⟩ := others.cut hp hothers
      exact ⟨⟨_, List.mem_append_right _ (List.mem_map_of_mem hms), hshown hv hheld'⟩, hrest⟩

end ReadsAll

/-! ## Layouts -/

namespace Layout

mutual

/-- **What reads from no bytes at all**, if anything does. -/
def missing? : Layout → Option Json
  | flag => some .null
  | text => none
  | real => none
  | optionalText => some .null
  | record parts => (missingAll? parts).map .object

/-- What reads from no bytes at all as parts. -/
def missingAll? : List (String × Layout) → Option (List (String × Json))
  | [] => some []
  | (name, part) :: parts =>
    match part.missing? with
    | none => none
    | some j => (missingAll? parts).map ((name, j) :: ·)

end

mutual

/-- **What reads from the bytes of a JSON value that are cut off.** -/
def cuts : Layout → Json → List Json
  | flag, _ => [.null]
  | text, _ => [.null]
  | real, _ => []
  | optionalText, _ => [.null]
  | record parts, .object members => (cutsAll parts members).map .object
  | record _, _ => []

/-- What reads from the bytes of members that are cut off: one of them is cut off, and
those behind it are missing. -/
def cutsAll : List (String × Layout) → List (String × Json) → List (List (String × Json))
  | (name, part) :: parts, (_, j) :: members =>
    ((part.cuts j).flatMap fun j' => (missingAll? parts).toList.map ((name, j') :: ·))
      ++ (cutsAll parts members).map ((name, j) :: ·)
  | _, _ => []

end

mutual

/-- **Whether a JSON value is laid out in this way**, however long its texts are. -/
def Fills : Layout → Json → Prop
  | flag, .bool _ => True
  | text, .string s => s.utf8ByteSize < 2 ^ 63
  | real, .real x => x.isFinite
  | optionalText, .null => True
  | optionalText, .string s => s.utf8ByteSize < 2 ^ 63
  | record parts, .object members => FillsAll parts members
  | _, _ => False

/-- Whether members are laid out as parts, with the same names in the same order. -/
def FillsAll : List (String × Layout) → List (String × Json) → Prop
  | [], [] => True
  | (name, part) :: parts, (name', j) :: members =>
    name' = name ∧ Fills part j ∧ FillsAll parts members
  | _, _ => False

end

mutual

/-- Whether values that are laid out in this way take a byte at least. -/
def occupies : Layout → Bool
  | record parts => occupiesAny parts
  | _ => true

/-- Whether one of the parts takes a byte at least. -/
def occupiesAny : List (String × Layout) → Bool
  | [] => false
  | (_, part) :: parts => occupies part || occupiesAny parts

end

/-! ## What is missing -/

/-- **What is missing reads as it is listed**, or nothing is read. -/
def ReadsMissing (ns : Names) (depth : Nat) (s : Schema) (missing? : Option Json) : Prop :=
  (missing? = none ∧ read ns depth s [] = none)
    ∨ ∃ j v, missing? = some j ∧ read ns depth s [] = some (v, []) ∧ v.toJson? = some j

/-- What is missing of fields reads as it is listed, or nothing is read. -/
def ReadsMissingAll (ns : Names) (depth : Nat) (fields : List (Field × Schema))
    (missing? : Option (List (String × Json))) : Prop :=
  (missing? = none ∧ readFields (read ns depth) fields [] = none)
    ∨ ∃ ms held, missing? = some ms ∧ readFields (read ns depth) fields [] = some (held, [])
      ∧ Value.toMembers? held = some ms

mutual

theorem readsMissing : ∀ (l : Layout) {s : Schema} {depth : Nat}, l.describes s →
    l.height ≤ depth → ReadsMissing ns depth s l.missing?
  | flag, s, depth + 1, same, _ => by
    cases s with
    | boolean => exact .inr ⟨.null, .null, rfl, rfl, rfl⟩
    | _ => cases same
  | text, s, depth + 1, same, _ => by
    cases s with
    | string => exact .inl ⟨rfl, rfl⟩
    | _ => cases same
  | real, s, depth + 1, same, _ => by
    cases s with
    | double => exact .inl ⟨rfl, rfl⟩
    | _ => cases same
  | optionalText, s, depth + 2, same, _ => by
    rw [eq_of_describes_optionalText same]
    exact .inr ⟨.null, .union 0 .null, rfl, rfl, ReadsAs.toJson?_union 0 .null⟩
  | record parts, s, depth + 1, same, room => by
    cases s with
    | record n fields =>
      simp only [describes, Bool.and_eq_true] at same
      unfold missing?
      rcases readsMissingAll parts same.2 (Nat.le_of_succ_le_succ room) with
        ⟨hnone, hread⟩ | ⟨ms, held, hms, hread, hheld⟩
      · refine .inl ⟨by rw [hnone]; rfl, ?_⟩
        rw [read_record, hread]
        rfl
      · refine .inr ⟨.object ms, .record held, by rw [hms]; rfl, ?_, ?_⟩
        · rw [read_record, hread]
          rfl
        · rw [Value.toJson?, hheld]
          rfl
    | _ => cases same

theorem readsMissingAll : ∀ (parts : List (String × Layout)) {fields : List (Field × Schema)}
    {depth : Nat}, describesAll parts fields → heightAll parts ≤ depth →
    ReadsMissingAll ns depth fields (missingAll? parts)
  | [], fields, depth, same, room => by
    cases fields with
    | nil => exact .inr ⟨[], [], rfl, rfl, rfl⟩
    | cons _ _ => cases same
  | (name, part) :: parts, fields, depth, same, room => by
    cases fields with
    | nil => cases same
    | cons field fields =>
      obtain ⟨f, s⟩ := field
      simp only [describesAll, Bool.and_eq_true, decide_eq_true_eq] at same
      obtain ⟨⟨named, first⟩, others⟩ := same
      have heights : max part.height (heightAll parts) ≤ depth := room
      unfold missingAll?
      rcases readsMissing part first (Nat.le_trans (Nat.le_max_left _ _) heights) with
        ⟨hnone, hread⟩ | ⟨j, v, hj, hread, hv⟩
      · refine .inl ⟨by rw [hnone], ?_⟩
        unfold readFields
        rw [hread]
      · rw [hj]
        rcases readsMissingAll parts others (Nat.le_trans (Nat.le_max_right _ _) heights) with
          ⟨hnone, hreadAll⟩ | ⟨ms, held, hms, hreadAll, hheld⟩
        · refine .inl ⟨by rw [hnone]; rfl, ?_⟩
          unfold readFields
          rw [hread]
          dsimp only
          rw [hreadAll]
          rfl
        · refine .inr ⟨(name, j) :: ms, (f.name, v) :: held, by rw [hms]; rfl, ?_, ?_⟩
          · unfold readFields
            rw [hread]
            dsimp only
            rw [hreadAll]
            rfl
          · rw [Value.toMembers?, hv, hheld, named]
            rfl

end

/-! ## What is cut off -/

/-- Whether it is null or a text, null is read where it is cut off. -/
theorem exists_encoded_optionalText {depth : Nat} {j : Json} (fills : optionalText.Fills j) :
    ∃ v b, Encoded ns (depth + 2) (.union [.null, .string]) j v b
      ∧ ReadsAs ns (depth + 2) (.union [.null, .string]) b j (optionalText.cuts j) ∧ b ≠ [] := by
  cases j with
  | null =>
    exact ⟨_, _, Encoded.null.union rfl rfl, ReadsAs.null.union rfl (by decide),
      List.append_ne_nil_of_left_ne_nil (writeCount_ne_nil 0) _⟩
  | string s =>
    refine ⟨_, _, (Encoded.text s).union rfl rfl,
      ((ReadsAs.text fills).union rfl (by decide)).mono fun j hj => ?_,
      List.append_ne_nil_of_left_ne_nil (writeCount_ne_nil 1) _⟩
    rcases List.mem_cons.1 hj with rfl | hj
    · exact List.mem_singleton_self _
    · exact hj
  | _ => cases fills

mutual

/-- **What is laid out in a known way is written**, and nothing but what is listed is
read of its bytes when they are cut off. -/
theorem exists_encoded : ∀ (l : Layout) {s : Schema} {j : Json} {depth : Nat},
    l.describes s → l.Fills j → l.height ≤ depth →
    ∃ v b, Encoded ns depth s j v b ∧ ReadsAs ns depth s b j (l.cuts j) ∧ (l.occupies → b ≠ [])
  | flag, s, j, depth + 1, same, fills, _ => by
    cases s with
    | boolean =>
      cases j with
      | bool b => exact ⟨_, _, .flag b, .flag b, fun _ => List.cons_ne_nil _ _⟩
      | _ => cases fills
    | _ => cases same
  | text, s, j, depth + 1, same, fills, _ => by
    cases s with
    | string =>
      cases j with
      | string s =>
        exact ⟨_, _, .text s, .text fills,
          fun _ => List.append_ne_nil_of_left_ne_nil (writeCount_ne_nil _) _⟩
      | _ => cases fills
    | _ => cases same
  | real, s, j, depth + 1, same, fills, _ => by
    cases s with
    | double =>
      cases j with
      | real x =>
        refine ⟨_, _, .real x, .real fills, fun _ => List.ne_nil_of_length_pos ?_⟩
        rw [Binary64.toBytes, Bytes.length_littleEndian]
        decide
      | _ => cases fills
    | _ => cases same
  | optionalText, s, j, depth + 2, same, fills, _ => by
    rw [eq_of_describes_optionalText same]
    obtain ⟨v, b, h, hreads, hne⟩ := exists_encoded_optionalText fills
    exact ⟨v, b, h, hreads, fun _ => hne⟩
  | record parts, s, j, depth + 1, same, fills, room => by
    cases s with
    | record n fields =>
      cases j with
      | object members =>
        simp only [describes, Bool.and_eq_true, decide_eq_true_eq, List.all_eq_true,
          List.isEmpty_iff] at same
        obtain ⟨⟨names, noAliases⟩, parts'⟩ := same
        obtain ⟨held, b, h, hreads, hne⟩ :=
          exists_encodedAll parts parts' fills (Nat.le_of_succ_le_succ room)
        exact ⟨_, _, .record h names noAliases, .record hreads, hne⟩
      | _ => cases fills
    | _ => cases same

/-- Members that are laid out as fields are written, and nothing but what is listed is
read of their bytes when these are cut off. -/
theorem exists_encodedAll : ∀ (parts : List (String × Layout)) {fields : List (Field × Schema)}
    {members : List (String × Json)} {depth : Nat},
    describesAll parts fields → FillsAll parts members → heightAll parts ≤ depth →
    ∃ held b, EncodedAll ns depth fields members held b
      ∧ ReadsAll ns depth fields b members (cutsAll parts members) ∧ (occupiesAny parts → b ≠ [])
  | [], fields, members, depth, same, fills, room => by
    cases fields with
    | nil =>
      cases members with
      | nil => exact ⟨_, _, .nil, .nil, fun h => by cases h⟩
      | cons _ _ => cases fills
    | cons _ _ => cases same
  | (name, part) :: parts, fields, members, depth, same, fills, room => by
    cases fields with
    | nil => cases same
    | cons field fields =>
      cases members with
      | nil => cases fills
      | cons member members =>
        obtain ⟨f, s⟩ := field
        obtain ⟨name', j⟩ := member
        simp only [describesAll, Bool.and_eq_true, decide_eq_true_eq] at same
        obtain ⟨⟨named, first⟩, others⟩ := same
        obtain ⟨named', fillsFirst, fillsOthers⟩ := fills
        have heights : max part.height (heightAll parts) ≤ depth := room
        have roomOthers := Nat.le_trans (Nat.le_max_right _ _) heights
        obtain ⟨v, b, h, hreads, hne⟩ := exists_encoded part first fillsFirst
          (Nat.le_trans (Nat.le_max_left _ _) heights)
        obtain ⟨held, bytes, hs, hreadsAll, hneAll⟩ :=
          exists_encodedAll parts others fillsOthers roomOthers
        have nothing : ∀ {held rest}, readFields (read ns depth) fields [] = some (held, rest) →
            (∃ ms, missingAll? parts = some ms ∧ Value.toMembers? held = some ms) ∧ rest = [] := by
          intro held rest hread
          have hmissing : ReadsMissingAll ns depth fields _ := readsMissingAll parts others roomOthers
          rcases hmissing with ⟨-, hnone⟩ | ⟨ms, held', hms, hread', hheld'⟩
          · rw [hnone] at hread
            cases hread
          · obtain ⟨rfl, rfl⟩ := Prod.mk.inj (Option.some.inj (hread'.symm.trans hread))
            exact ⟨⟨ms, hms, hheld'⟩, rfl⟩
        rw [named', ← named]
        refine ⟨_, _, .cons h hs, .cons hreads hreadsAll nothing, fun hoccupies => ?_⟩
        rcases Bool.or_eq_true_iff.1 hoccupies with hfirst | hothers
        · exact List.append_ne_nil_of_left_ne_nil (hne hfirst) _
        · exact List.append_ne_nil_of_right_ne_nil _ (hneAll hothers)

end

theorem exists_describes_of_mem {parts : List (String × Layout)} {fields : List (Field × Schema)}
    (same : describesAll parts fields) {name : String} {part : Layout}
    (hpart : (name, part) ∈ parts) : ∃ e ∈ fields, e.1.name = name ∧ part.describes e.2 := by
  induction parts generalizing fields with
  | nil => cases hpart
  | cons head parts ih =>
    cases fields with
    | nil => cases same
    | cons field fields =>
      obtain ⟨name', part'⟩ := head
      obtain ⟨f, s⟩ := field
      simp only [describesAll, Bool.and_eq_true, decide_eq_true_eq] at same
      rcases List.mem_cons.1 hpart with heq | hpart
      · cases heq
        exact ⟨(f, s), List.mem_cons_self, same.1.1, same.1.2⟩
      · obtain ⟨e, he, hname, hdescribes⟩ := ih same.2 hpart
        exact ⟨e, List.mem_cons_of_mem _ he, hname, hdescribes⟩

/-- Of fields that fit each one does. -/
theorem exists_resolve_of_mem {again : Schema → Value → Option Value}
    {fields : List (Field × Schema)} {object held : List (String × Value)}
    (h : resolveFields again object fields = some held) {e : Field × Schema} (he : e ∈ fields)
    {v : Value} (hv : Table.lookup e.1.name object = some v) : ∃ w, again e.2 v = some w := by
  induction fields generalizing held with
  | nil => cases he
  | cons field fields ih =>
    obtain ⟨f, s⟩ := field
    unfold resolveFields at h
    split at h
    · cases h
    · next w hw =>
      rcases List.mem_cons.1 he with rfl | he
      · have hv : Table.lookup f.name object = some v := hv
        rw [hv, Option.some_or, Option.bind_some] at hw
        exact ⟨w, hw⟩
      · obtain ⟨held', hheld', -⟩ := Option.map_eq_some_iff.1 h
        exact ih hheld' he

/-- **What is written fits**: each member of an object the schema of its part. -/
theorem exists_resolve_of_written {parts : List (String × Layout)} {c : Codec}
    {members : List (String × Json)} {b : Bytes} (same : (record parts).describes c.schema)
    (written : c.binaryOfJson (.object members) = .ok b) {name : String} {part : Layout} {j : Json}
    (hpart : (name, part) ∈ parts) (hj : Table.lookup name members = some j) :
    ∃ ns depth s v, part.describes s ∧ resolve ns depth s (.ofJson j) = some v := by
  obtain ⟨v, hnative⟩ : ∃ v, c.nativeOfJson (.object members) = .ok v := by
    unfold Codec.binaryOfJson at written
    cases hnative : c.nativeOfJson (.object members) with
    | error e =>
      rw [hnative] at written
      cases written
    | ok v => exact ⟨v, rfl⟩
  obtain ⟨ns, hresolve⟩ : ∃ ns, resolve ns depthLimit c.schema (.ofJson (.object members)) = some v := by
    unfold Codec.nativeOfJson at hnative
    split at hnative
    · next v' hv' =>
      obtain ⟨ns, -, hv'⟩ := Option.bind_eq_some_iff.1 hv'
      exact ⟨ns, hv'.trans (congrArg some (Except.ok.inj hnative))⟩
    · cases hnative
  obtain ⟨depth, hdepth⟩ : ∃ depth, depthLimit = depth + 1 := ⟨_, rfl⟩
  cases hschema : c.schema with
  | record n fields =>
    rw [hschema] at same
    simp only [describes, Bool.and_eq_true] at same
    rw [hschema, hdepth, resolve_record] at hresolve
    obtain ⟨held, hheld, -⟩ := Option.map_eq_some_iff.1 hresolve
    obtain ⟨e, he, rfl, hdescribes⟩ := exists_describes_of_mem same.2 hpart
    obtain ⟨w, hw⟩ := exists_resolve_of_mem hheld he
      ((EncodedAll.lookup_ofMembers _ _).trans (congrArg (Option.map Value.ofJson) hj))
    exact ⟨ns, depth, e.2, w, hdescribes, hw⟩
  | _ =>
    rw [hschema] at same
    cases same

/-- **Of bytes that are cut off a codec reads nothing but what is listed.** -/
theorem mem_cuts_of_cutOff {l : Layout} {c : Codec} {j : Json} {b : Bytes}
    (same : l.describes c.schema) (usable : c.schema.names?.isSome) (fills : l.Fills j)
    (room : l.height ≤ depthLimit) (written : c.binaryOfJson j = .ok b) {p : Bytes}
    (hcut : CutOff p b) {j' : Json} (hread : c.jsonOfBinary p = .ok j') : j' ∈ l.cuts j := by
  obtain ⟨ns, names⟩ := Option.isSome_iff_exists.1 usable
  obtain ⟨v, b', hencoded, hreads, -⟩ :
      ∃ v b', Encoded ns depthLimit c.schema j v b' ∧ _ := exists_encoded l same fills room
  obtain rfl := Except.ok.inj ((c.binaryOfJson_eq_ok names hencoded).symm.trans written)
  obtain ⟨v', rest, hv', hshown⟩ := (c.jsonOfBinary_eq_ok_iff names).1 hread
  obtain ⟨⟨j'', hj'', hshown'⟩, -⟩ := hreads.cut hcut hv'
  obtain rfl := Option.some.inj (hshown'.symm.trans hshown)
  exact hj''

/-! ## Cuts between fields -/

theorem describesAll_append {parts₁ parts₂ : List (String × Layout)} {fields : List (Field × Schema)}
    (h : describesAll (parts₁ ++ parts₂) fields) : ∃ fields₁ fields₂, fields = fields₁ ++ fields₂
      ∧ describesAll parts₁ fields₁ ∧ describesAll parts₂ fields₂ := by
  induction parts₁ generalizing fields with
  | nil => exact ⟨[], fields, rfl, rfl, h⟩
  | cons part parts ih =>
    cases fields with
    | nil => cases h
    | cons field fields =>
      obtain ⟨name, part⟩ := part
      obtain ⟨f, s⟩ := field
      simp only [List.cons_append, describesAll, Bool.and_eq_true] at h
      obtain ⟨fields₁, fields₂, rfl, h₁, h₂⟩ := ih h.2
      refine ⟨(f, s) :: fields₁, fields₂, rfl, ?_, h₂⟩
      simp only [describesAll, Bool.and_eq_true]
      exact ⟨h.1, h₁⟩

theorem heightAll_append (parts₁ parts₂ : List (String × Layout)) :
    heightAll (parts₁ ++ parts₂) = max (heightAll parts₁) (heightAll parts₂) := by
  induction parts₁ with
  | nil => exact (Nat.zero_max _).symm
  | cons part parts ih =>
    show max part.2.height (heightAll (parts ++ parts₂)) = max (max part.2.height _) _
    rw [ih, Nat.max_assoc]

theorem encodedAll_append {fields₁ fields₂ : List (Field × Schema)}
    {members₁ members₂ : List (String × Json)} {held₁ held₂ : List (String × Value)}
    {b₁ b₂ : Bytes} (h₁ : EncodedAll ns depth fields₁ members₁ held₁ b₁)
    (h₂ : EncodedAll ns depth fields₂ members₂ held₂ b₂) :
    EncodedAll ns depth (fields₁ ++ fields₂) (members₁ ++ members₂) (held₁ ++ held₂) (b₁ ++ b₂) := by
  induction h₁ with
  | nil => exact h₂
  | cons first _ ih =>
    rw [List.append_assoc]
    exact .cons first ih

/-- Fields that are carried read whole, and those behind them from no bytes. -/
theorem readFields_append_nil {fields₁ fields₂ : List (Field × Schema)}
    {members ms : List (String × Json)} {held₁ held₂ : List (String × Value)} {b : Bytes}
    (h : CarriedAll ns depth fields₁ members held₁ b)
    (hread : readFields (read ns depth) fields₂ [] = some (held₂, []))
    (hshown : Value.toMembers? held₂ = some ms) :
    readFields (read ns depth) (fields₁ ++ fields₂) b = some (held₁ ++ held₂, [])
      ∧ Value.toMembers? (held₁ ++ held₂) = some (members ++ ms) := by
  induction h with
  | nil => exact ⟨hread, hshown⟩
  | @cons f s j v b bytes fields members held first others ih =>
    constructor
    · rw [List.cons_append, readFields, first.readBack]
      dsimp only
      rw [ih.1]
      rfl
    · rw [List.cons_append, Value.toMembers?, first.shown, ih.2]
      rfl

/-- **A record that is cut off between two fields is read**, if something reads from no
bytes for each field that is missing. -/
theorem exists_cutOff {parts₁ parts₂ : List (String × Layout)} {c : Codec}
    {members₁ members₂ ms : List (String × Json)} {b : Bytes} (holds : HoldsAll parts₁ members₁)
    (fills : FillsAll parts₂ members₂) (missing : missingAll? parts₂ = some ms)
    (occupies : occupiesAny parts₂) (same : (record (parts₁ ++ parts₂)).describes c.schema)
    (usable : c.schema.names?.isSome) (room : (record (parts₁ ++ parts₂)).height ≤ depthLimit)
    (written : c.binaryOfJson (.object (members₁ ++ members₂)) = .ok b) :
    ∃ p, CutOff p b ∧ c.jsonOfBinary p = .ok (.object (members₁ ++ ms)) := by
  obtain ⟨ns, names⟩ := Option.isSome_iff_exists.1 usable
  obtain ⟨depth, hdepth⟩ : ∃ depth, depthLimit = depth + 1 := ⟨_, rfl⟩
  have room : heightAll (parts₁ ++ parts₂) + 1 ≤ depth + 1 := hdepth ▸ room
  rw [heightAll_append, Nat.add_le_add_iff_right] at room
  obtain ⟨n, fields, hschema⟩ : ∃ n fields, c.schema = .record n fields := by
    cases hschema : c.schema with
    | record n fields => exact ⟨n, fields, rfl⟩
    | _ =>
      rw [hschema] at same
      cases same
  rw [hschema] at same
  simp only [describes, Bool.and_eq_true, decide_eq_true_eq, List.all_eq_true,
    List.isEmpty_iff] at same
  obtain ⟨⟨distinct, noAliases⟩, same⟩ := same
  obtain ⟨fields₁, fields₂, rfl, same₁, same₂⟩ := describesAll_append same
  have room₂ : heightAll parts₂ ≤ depth := Nat.le_trans (Nat.le_max_right _ _) room
  obtain ⟨held₁, b₁, hcarried⟩ : ∃ held₁ b₁, CarriedAll ns depth fields₁ members₁ held₁ b₁ :=
    exists_carriedAll parts₁ same₁ holds (Nat.le_trans (Nat.le_max_left _ _) room)
  obtain ⟨held₂, b₂, hencoded, -, hne⟩ :
      ∃ held₂ b₂, EncodedAll ns depth fields₂ members₂ held₂ b₂ ∧ _ :=
    exists_encodedAll parts₂ same₂ fills room₂
  have hwritten : c.binaryOfJson (.object (members₁ ++ members₂)) = .ok (b₁ ++ b₂) := by
    refine c.binaryOfJson_eq_ok (v := .record (held₁ ++ held₂)) names ?_
    rw [hschema, hdepth]
    exact .record (encodedAll_append hcarried.encodedAll hencoded) distinct noAliases
  obtain rfl := Except.ok.inj (hwritten.symm.trans written)
  refine ⟨b₁, ⟨List.prefix_append _ _, fun heq => hne occupies (List.self_eq_append_right.1 heq)⟩, ?_⟩
  have hmissing : ReadsMissingAll ns depth fields₂ _ := readsMissingAll parts₂ same₂ room₂
  rcases hmissing with ⟨hnone, -⟩ | ⟨ms', held, hms, hread, hshown⟩
  · rw [missing] at hnone
    cases hnone
  · obtain rfl := Option.some.inj (hms.symm.trans missing)
    obtain ⟨hall, hallShown⟩ := readFields_append_nil hcarried hread hshown
    refine (c.jsonOfBinary_eq_ok_iff names).2 ⟨.record (held₁ ++ held), [], ?_, ?_⟩
    · rw [hschema, hdepth, read_record, hall]
      rfl
    · rw [Value.toJson?, hallShown]
      rfl

end Layout

end CourierDispatch.Avro
