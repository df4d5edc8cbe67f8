import CourierDispatch.Proofs.Avro.Carried

/-!
# The layout of messages

A message type and its schema are written down apart from each other, one as
the members of an object and the other as a text, and nothing but care makes
them agree. A `Layout` is what they have to agree on: truth values, texts,
numbers and texts that may be missing, by name and in order.

`Layout.describes` compares a layout with a schema and is a computation;
`Layout.Holds` says of a JSON value that it is laid out so, with texts that
are not too long and numbers that are finite. Of the two together
`Layout.exists_carried` makes the round trip: whatever the schema and whatever
the value, if one layout fits both, the schema carries the value. By
`Layout.roundTrip` every codec with such a schema takes it over the wire.
-/

namespace CourierDispatch.Avro

/-- **How a message is laid out.** -/
inductive Layout where
  /-- A truth value. -/
  | flag
  /-- A text. -/
  | text
  /-- A binary64 number. -/
  | real
  /-- A text, or null in its place. -/
  | optionalText
  /-- Named parts in order. -/
  | record (parts : List (String × Layout))

namespace Layout

mutual

/-- **Whether the values of a schema are laid out in this way.** -/
def describes : Layout → Schema → Bool
  | flag, .boolean => true
  | text, .string => true
  | real, .double => true
  | optionalText, .union [.null, .string] => true
  | record parts, .record _ fields =>
    (fields.map (·.1.name)).Nodup && fields.all (·.1.aliases.isEmpty) &&
      describesAll parts fields
  | _, _ => false

/-- Whether parts are those of fields, with the same names in the same
order. -/
def describesAll : List (String × Layout) → List (Field × Schema) → Bool
  | [], [] => true
  | (name, part) :: parts, (f, s) :: fields =>
    f.name = name && describes part s && describesAll parts fields
  | _, _ => false

end

/-- A text that may be written. -/
def TextFits (s : String) : Prop := s.utf8ByteSize ≤ lengthLimit

mutual

/-- **Whether a JSON value is laid out in this way**, and may be written. -/
def Holds : Layout → Json → Prop
  | flag, .bool _ => True
  | text, .string s => TextFits s
  | real, .real x => x.isFinite
  | optionalText, .null => True
  | optionalText, .string s => TextFits s
  | record parts, .object members => HoldsAll parts members
  | _, _ => False

/-- Whether members are laid out as parts, with the same names in the same
order. -/
def HoldsAll : List (String × Layout) → List (String × Json) → Prop
  | [], [] => True
  | (name, part) :: parts, (name', j) :: members =>
    name' = name ∧ Holds part j ∧ HoldsAll parts members
  | _, _ => False

end

mutual

/-- The layers of a layout. -/
def height : Layout → Nat
  | flag | text | real => 1
  | optionalText => 2
  | record parts => heightAll parts + 1

/-- The layers of the highest part. -/
def heightAll : List (String × Layout) → Nat
  | [] => 0
  | (_, part) :: parts => max (height part) (heightAll parts)

end

variable {ns : Names}

theorem exists_carried_text {depth : Nat} {s : String} (fits : TextFits s) :
    ∃ v b, Carried ns (depth + 1) .string (.string s) v b := by
  have short : (Bytes.ofText s).length ≤ lengthLimit := by
    rw [Bytes.length_ofText]
    exact fits
  exact ⟨_, _, .text short⟩

/-- Null and text are told apart by the number of their branch. -/
theorem exists_carried_optionalText {depth : Nat} {j : Json} (holds : optionalText.Holds j) :
    ∃ v b, Carried ns (depth + 2) (.union [.null, .string]) j v b := by
  cases j with
  | null => exact ⟨_, _, Carried.null.union rfl rfl (by decide)⟩
  | string s =>
    obtain ⟨v, b, h⟩ := exists_carried_text holds
    exact ⟨_, _, h.union rfl rfl (by decide)⟩
  | _ => cases holds

theorem eq_of_describes_optionalText {s : Schema} (h : optionalText.describes s) :
    s = .union [.null, .string] := by
  unfold describes at h
  split at h <;> first | contradiction | rfl

mutual

/-- **A schema carries what is laid out as it is.** -/
theorem exists_carried : ∀ (l : Layout) {s : Schema} {j : Json} {depth : Nat},
    l.describes s → l.Holds j → l.height ≤ depth → ∃ v b, Carried ns depth s j v b
  | flag, s, j, depth + 1, same, holds, _ => by
    cases s with
    | boolean =>
      cases j with
      | bool b => exact ⟨_, _, .flag b⟩
      | _ => cases holds
    | _ => cases same
  | text, s, j, depth + 1, same, holds, _ => by
    cases s with
    | string =>
      cases j with
      | string s => exact exists_carried_text holds
      | _ => cases holds
    | _ => cases same
  | real, s, j, depth + 1, same, holds, _ => by
    cases s with
    | double =>
      cases j with
      | real x => exact ⟨_, _, .real holds⟩
      | _ => cases holds
    | _ => cases same
  | optionalText, s, j, depth + 2, same, holds, _ => by
    rw [eq_of_describes_optionalText same]
    exact exists_carried_optionalText holds
  | record parts, s, j, depth + 1, same, holds, room => by
    cases s with
    | record n fields =>
      cases j with
      | object members =>
        simp only [describes, Bool.and_eq_true, decide_eq_true_eq, List.all_eq_true,
          List.isEmpty_iff] at same
        obtain ⟨⟨names, noAliases⟩, parts'⟩ := same
        obtain ⟨held, b, h⟩ := exists_carriedAll parts parts' holds (Nat.le_of_succ_le_succ room)
        exact ⟨_, _, .record h names noAliases⟩
      | _ => cases holds
    | _ => cases same

/-- Fields carry what is laid out as they are. -/
theorem exists_carriedAll : ∀ (parts : List (String × Layout)) {fields : List (Field × Schema)}
    {members : List (String × Json)} {depth : Nat},
    describesAll parts fields → HoldsAll parts members → heightAll parts ≤ depth →
    ∃ held b, CarriedAll ns depth fields members held b
  | [], fields, members, depth, same, holds, room => by
    cases fields with
    | nil =>
      cases members with
      | nil => exact ⟨_, _, .nil⟩
      | cons _ _ => cases holds
    | cons _ _ => cases same
  | (name, part) :: parts, fields, members, depth, same, holds, room => by
    cases fields with
    | nil => cases same
    | cons field fields =>
      cases members with
      | nil => cases holds
      | cons member members =>
        obtain ⟨f, s⟩ := field
        obtain ⟨name', j⟩ := member
        simp only [describesAll, Bool.and_eq_true, decide_eq_true_eq] at same
        obtain ⟨⟨named, first⟩, others⟩ := same
        obtain ⟨named', holdsFirst, holdsOthers⟩ := holds
        have heights : max part.height (heightAll parts) ≤ depth := room
        obtain ⟨v, b, h⟩ := exists_carried part first holdsFirst
          (Nat.le_trans (Nat.le_max_left _ _) heights)
        obtain ⟨held, bytes, hs⟩ := exists_carriedAll parts others holdsOthers
          (Nat.le_trans (Nat.le_max_right _ _) heights)
        rw [named', ← named]
        exact ⟨_, _, .cons h hs⟩

end

/-- **A codec takes over the wire what is laid out as its schema is.** -/
theorem roundTrip {l : Layout} {c : Codec} {j : Json} (same : l.describes c.schema)
    (usable : c.schema.names?.isSome) (holds : l.Holds j) (room : l.height ≤ depthLimit) :
    ∃ b, c.binaryOfJson j = .ok b ∧ c.jsonOfBinary b = .ok j := by
  obtain ⟨ns, names⟩ := Option.isSome_iff_exists.1 usable
  obtain ⟨v, b, h⟩ : ∃ v b, Carried ns depthLimit c.schema j v b :=
    exists_carried l same holds room
  exact ⟨b, c.roundTrip names h⟩

end Layout

end CourierDispatch.Avro
