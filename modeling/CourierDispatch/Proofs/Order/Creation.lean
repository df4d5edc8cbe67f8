import CourierDispatch.Proofs.Json.Rendered
import CourierDispatch.Proofs.Order.OneReport

/-!
# The creation of orders

An order is created for a telephone number in international form. The text is checked by its
bytes, which is the same as looking at its characters (`isPhoneNumber_iff`): the bytes of a
character are digits only if it is one, so no other character gets past the check, and a digit
takes one byte, so that bytes are as many as digits.

From there on there are three places at which things can fail, and each leaves something else
behind (`createOrder_outcome`): a text that is no number leaves nothing, a failure of the store
leaves nothing or the order, depending on whether it had taken effect, and a failure of the bus
leaves the order and perhaps its event. An order that the store has not taken is never announced.
-/

namespace CourierDispatch

open String (utf8EncodeChar)

/-! ## Telephone numbers -/

/-- **Telephone numbers in international form**: a plus sign and two to fifteen digits, the first
of which is not zero. -/
def International (p : String) : Prop :=
  ∃ digits, p.toList = '+' :: digits ∧ (∀ c ∈ digits, '0' ≤ c ∧ c ≤ '9')
    ∧ 2 ≤ digits.length ∧ digits.length ≤ 15 ∧ digits.head? ≠ some '0'

/-- **The bytes of a character are digits exactly if it is one.** Every other character takes
several bytes, which are all large, or one that is no digit. -/
theorem forall_digit_utf8EncodeChar {c : Char} :
    (∀ b ∈ utf8EncodeChar c, 48 ≤ b ∧ b ≤ 57) ↔ '0' ≤ c ∧ c ≤ '9' := by
  have hchar : '0' ≤ c ∧ c ≤ '9' ↔ 48 ≤ c.val.toNat ∧ c.val.toNat ≤ 57 := by
    rw [Char.le_def, Char.le_def, UInt32.le_iff_toNat_le, UInt32.le_iff_toNat_le]
    rfl
  have hbyte : ∀ n : Nat, n < 256 →
      (48 ≤ UInt8.ofNat n ∧ UInt8.ofNat n ≤ 57 ↔ 48 ≤ n ∧ n ≤ 57) := by
    intro n hn
    rw [UInt8.le_iff_toNat_le, UInt8.le_iff_toNat_le, UInt8.toNat_ofNat', Nat.mod_eq_of_lt hn]
    rfl
  rw [hchar]
  unfold utf8EncodeChar
  generalize c.val.toNat = v
  dsimp only
  split
  · next hle =>
    rw [List.forall_mem_singleton]
    exact hbyte v (by omega)
  · -- the first of several bytes is large
    have hlarge : ∀ n, 58 ≤ n → n < 256 → ¬ (48 ≤ UInt8.ofNat n ∧ UInt8.ofNat n ≤ 57) := by
      intro n hlow hhigh h
      have := (hbyte n hhigh).1 h
      omega
    refine iff_of_false (fun hall => ?_) (by omega)
    split at hall
    · exact hlarge _ (by omega) (by omega) (hall _ List.mem_cons_self)
    · split at hall
      · exact hlarge _ (by omega) (by omega) (hall _ List.mem_cons_self)
      · exact hlarge _ (by omega) (by omega) (hall _ List.mem_cons_self)

/-- Digits take one byte each. -/
theorem length_ofText_of_digits {cs : List Char} (h : ∀ c ∈ cs, '0' ≤ c ∧ c ≤ '9') :
    (Bytes.ofText (String.ofList cs)).length = cs.length := by
  rw [Bytes.ofText_ofList]
  induction cs with
  | nil => rfl
  | cons c cs ih =>
    obtain ⟨hc, hcs⟩ := List.forall_mem_cons.1 h
    have hdigit : c.isDigit := by
      simpa [Char.isDigit, Char.le_def] using hc
    obtain ⟨b, hb, -⟩ := Json.Draft.digit_byte hdigit
    rw [List.flatMap_cons, hb, List.length_append, ih hcs, List.length_cons]
    exact Nat.add_comm 1 _

/-- **The bytes are checked for the right thing.** -/
theorem isPhoneNumber_iff (p : String) : isPhoneNumber p = true ↔ International p := by
  have hbytes : ∀ cs : List Char,
      (Bytes.ofText (String.ofList cs)).all (fun b => 48 ≤ b && b ≤ 57) = true
        ↔ ∀ c ∈ cs, '0' ≤ c ∧ c ≤ '9' := by
    intro cs
    rw [Bytes.ofText_ofList, List.all_flatMap, List.all_eq_true]
    refine forall₂_congr fun c _ => ?_
    rw [← forall_digit_utf8EncodeChar]
    simp
  by_cases hplus : ∃ digits, p.toList = '+' :: digits
  · obtain ⟨digits, htext⟩ := hplus
    have hafter : afterPlus p = String.ofList digits := by
      unfold afterPlus
      rw [htext]
      rfl
    unfold isPhoneNumber
    rw [hafter, String.toList_ofList]
    simp only [Bool.and_eq_true, decide_eq_true_eq, hbytes]
    constructor
    · rintro ⟨⟨⟨hlow, hhigh⟩, hdigits⟩, hzero⟩
      rw [length_ofText_of_digits hdigits] at hlow hhigh
      exact ⟨digits, htext, hdigits, hlow, hhigh, hzero⟩
    · rintro ⟨digits', htext', hdigits, hlow, hhigh, hzero⟩
      obtain rfl := (List.cons.inj (htext.symm.trans htext')).2
      rw [length_ofText_of_digits hdigits]
      exact ⟨⟨⟨hlow, hhigh⟩, hdigits⟩, hzero⟩
  · have hafter : afterPlus p = "" := by
      unfold afterPlus
      split
      · next digits htext => exact absurd ⟨digits, htext⟩ hplus
      · rfl
    refine iff_of_false ?_ fun ⟨digits, htext, _⟩ => hplus ⟨digits, htext⟩
    unfold isPhoneNumber
    rw [hafter]
    decide

example : isPhoneNumber "+３８" = false := by decide

/-! ## What becomes of an order -/

namespace OrderService

variable {w : World} {p : String} {s : State}

namespace World

/-- The order that is made of a number, of the identifier that is drawn and of the time. -/
def newOrder (w : World) (p : String) : Order := Order.create (w .draw).drawn p (w .clock).now

/-- What becomes of its being stored … -/
def inserting (w : World) (p : String) : Fate := (w (.insertOrder (w.newOrder p))).fate

/-- … and of its being announced. -/
def announcing (w : World) (p : String) : Fate :=
  (w (.publish (w.newOrder p) Topic.orderCreated)).fate

/-- The state with the order stored. -/
def inserted (w : World) (p : String) (s : State) : State :=
  { s with store := s.store.insertOrder (w.newOrder p) }

/-- The state with the order announced. -/
def announced (w : World) (p : String) (s : State) : State :=
  { s with announced := s.announced ++ [⟨w.newOrder p, Topic.orderCreated⟩] }

theorem answer_insertOrder (w : World) (p : String) (s : State) :
    w.answer (.insertOrder (w.newOrder p)) s
      = ((w.inserting p).news, if (w.inserting p).takesEffect then w.inserted p s else s) :=
  (w.inserting p).apply_ok (w.inserted p) s

theorem answer_publish (w : World) (p : String) (s : State) :
    w.answer (.publish (w.newOrder p) Topic.orderCreated) s
      = ((w.announcing p).news, if (w.announcing p).takesEffect then w.announced p s else s) :=
  (w.announcing p).apply_ok (w.announced p) s

end World

/-! ## Storing and announcing -/

/-- **An order that was stored is announced** … -/
theorem run_place_of_works (h : w.inserting p = .works) : (place (w.newOrder p)).run w.answer s
    = ((w.announcing p).news.map fun _ => w.newOrder p,
      if (w.announcing p).takesEffect then w.announced p (w.inserted p s) else w.inserted p s) := by
  unfold place
  rw [Script.run_call, World.answer_insertOrder, h]
  simp only [Fate.news, Fate.takesEffect, if_true]
  rw [Script.run_call, World.answer_publish]
  cases w.announcing p <;> rfl

theorem calls_place_of_works (h : w.inserting p = .works) :
    (place (w.newOrder p)).calls w.answer s
      = [.insertOrder (w.newOrder p), .publish (w.newOrder p) Topic.orderCreated] := by
  unfold place
  rw [Script.calls_call, World.answer_insertOrder, h]
  simp only [Fate.news, Fate.takesEffect, if_true]
  rw [Script.calls_call, World.answer_publish]
  cases w.announcing p <;> rfl

/-- … and one that was not is not. -/
theorem run_place_of_fails {e : ServiceError} (h : (w.inserting p).news = .error e) :
    (place (w.newOrder p)).run w.answer s
      = (.error e, if (w.inserting p).takesEffect then w.inserted p s else s) := by
  unfold place
  rw [Script.run_call, World.answer_insertOrder, h]
  rfl

theorem calls_place_of_fails {e : ServiceError} (h : (w.inserting p).news = .error e) :
    (place (w.newOrder p)).calls w.answer s = [.insertOrder (w.newOrder p)] := by
  unfold place
  rw [Script.calls_call, World.answer_insertOrder, h]
  rfl

/-! ## Creating -/

/-- A number is taken for an order. -/
theorem createOrder_of_international (h : International p) : createOrder p =
    .call .draw fun id => .call .clock fun now => place (Order.create id p now) := by
  unfold createOrder checkPhoneNumber
  rw [if_pos ((isPhoneNumber_iff p).2 h)]

theorem run_createOrder (h : International p) :
    (createOrder p).run w.answer s = (place (w.newOrder p)).run w.answer s := by
  rw [createOrder_of_international h]
  rfl

theorem calls_createOrder (h : International p) : (createOrder p).calls w.answer s
    = .draw :: .clock :: (place (w.newOrder p)).calls w.answer s := by
  rw [createOrder_of_international h]
  rfl

/-- **A text is refused**: nothing is called for, and nothing has changed. -/
structure Refused (w : World) (p : String) (s : State) : Prop where
  /-- The result says which text it is. -/
  result : ((createOrder p).run w.answer s).1 = .error
    (.validation s!"customer_phone_number {Text.quoted p} is not an E.164 phone number")
  /-- Neither the store nor the bus has been called. -/
  calls : (createOrder p).calls w.answer s = []
  /-- The state is as it was. -/
  state : ((createOrder p).run w.answer s).2 = s

theorem refused_of_not_international (h : ¬ International p) : Refused w p s := by
  have hscript : createOrder p = .done (.error
      (.validation s!"customer_phone_number {Text.quoted p} is not an E.164 phone number")) := by
    unfold createOrder checkPhoneNumber
    rw [if_neg fun hcheck => h ((isPhoneNumber_iff p).1 hcheck)]
  refine ⟨?_, ?_, ?_⟩ <;> rw [hscript] <;> rfl

/-- **An order is created**, as far as the calls go that are made for it. -/
structure Created (w : World) (p : String) (s : State) : Prop where
  /-- One order is handed to the store, and if the store has taken it then its event goes to the
  bus once. -/
  calls : (createOrder p).calls w.answer s
    = [.draw, .clock, .insertOrder (w.newOrder p)]
      ++ match (w.inserting p).news with
        | .ok _ => [.publish (w.newOrder p) Topic.orderCreated]
        | .error _ => []
  /-- The order is pending, without a courier, and has the number. -/
  order : (w.newOrder p).status = .pending ∧ (w.newOrder p).courierId = none
    ∧ (w.newOrder p).phoneNumber = p
  /-- The event is that of its creation. -/
  event : (⟨w.newOrder p, Topic.orderCreated⟩ : Announcement).message
    = ⟨"created", (w.newOrder p).id.toText⟩
  /-- The store has the order if storing has taken effect, whatever becomes of the rest. -/
  store : ((createOrder p).run w.answer s).2.store
    = if (w.inserting p).takesEffect then s.store.insertOrder (w.newOrder p) else s.store
  /-- The event has gone out if the store has taken the order, and announcing has taken effect. -/
  announced : ((createOrder p).run w.answer s).2.announced = s.announced
    ++ match (w.inserting p).news with
      | .ok _ => if (w.announcing p).takesEffect then [⟨w.newOrder p, Topic.orderCreated⟩] else []
      | .error _ => []
  /-- It ends as the first of the two calls that has not worked … -/
  result : ((createOrder p).run w.answer s).1
    = (w.inserting p).news.bind fun _ => (w.announcing p).news.map fun _ => w.newOrder p
  /-- … and well, with the order, exactly if both have; the store has that order then. -/
  ok_iff : ∀ o, ((createOrder p).run w.answer s).1 = .ok o
    ↔ w.inserting p = .works ∧ w.announcing p = .works ∧ o = w.newOrder p
  found : ∀ o, ((createOrder p).run w.answer s).1 = .ok o →
    ((createOrder p).run w.answer s).2.store.findOrder o.id = .ok o
  /-- Records are as they were. -/
  records : ((createOrder p).run w.answer s).2.store.validations = s.store.validations
    ∧ ((createOrder p).run w.answer s).2.store.lastToken = s.store.lastToken
  /-- If the identifier is new then so are the orders, but for the one at the end. -/
  orders : s.store.orders.get? (w .draw).drawn = none →
    ((createOrder p).run w.answer s).2.store.orders.entries = s.store.orders.entries
      ++ if (w.inserting p).takesEffect then [((w .draw).drawn, w.newOrder p)] else []

theorem store_createOrder (h : International p) :
    ((createOrder p).run w.answer s).2.store
      = if (w.inserting p).takesEffect then s.store.insertOrder (w.newOrder p) else s.store := by
  rw [run_createOrder h]
  cases hnews : (w.inserting p).news with
  | ok _ =>
    have hworks := Fate.news_eq_ok_iff.1 hnews
    rw [run_place_of_works hworks, hworks]
    cases w.announcing p <;> rfl
  | error e =>
    rw [run_place_of_fails hnews]
    cases w.inserting p <;> rfl

theorem result_createOrder (h : International p) : ((createOrder p).run w.answer s).1
    = (w.inserting p).news.bind fun _ => (w.announcing p).news.map fun _ => w.newOrder p := by
  rw [run_createOrder h]
  cases hnews : (w.inserting p).news with
  | ok _ =>
    rw [run_place_of_works (Fate.news_eq_ok_iff.1 hnews)]
    rfl
  | error e =>
    rw [run_place_of_fails hnews]
    rfl

theorem createOrder_eq_ok_iff (h : International p) {o : Order} :
    ((createOrder p).run w.answer s).1 = .ok o
      ↔ w.inserting p = .works ∧ w.announcing p = .works ∧ o = w.newOrder p := by
  rw [result_createOrder h]
  cases w.inserting p <;> cases w.announcing p <;>
    simp [Fate.news, Except.bind, Except.map, eq_comm]

theorem created_of_international (h : International p) : Created w p s where
  calls := by
    rw [calls_createOrder h]
    cases hnews : (w.inserting p).news with
    | ok _ =>
      rw [calls_place_of_works (Fate.news_eq_ok_iff.1 hnews)]
      rfl
    | error e =>
      rw [calls_place_of_fails hnews]
      rfl
  order := ⟨rfl, rfl, rfl⟩
  event := rfl
  store := store_createOrder h
  announced := by
    rw [run_createOrder h]
    cases hnews : (w.inserting p).news with
    | ok _ =>
      rw [run_place_of_works (Fate.news_eq_ok_iff.1 hnews)]
      cases w.announcing p <;> simp [Fate.takesEffect, World.announced, World.inserted]
    | error e =>
      rw [run_place_of_fails hnews]
      cases w.inserting p <;> simp [Fate.takesEffect, World.inserted]
  result := result_createOrder h
  ok_iff _ := createOrder_eq_ok_iff h
  found o hresult := by
    obtain ⟨hworks, -, rfl⟩ := (createOrder_eq_ok_iff h).1 hresult
    rw [store_createOrder h, hworks]
    simp [Fate.takesEffect, OrderStore.findOrder, OrderStore.insertOrder]
  records := by
    rw [store_createOrder h]
    split <;> exact ⟨rfl, rfl⟩
  orders hnew := by
    rw [store_createOrder h]
    split
    · exact Table.write_of_notMem ((Table.get?_eq_none_iff _ _).1 hnew) _
    · exact (List.append_nil _).symm

/-- **Creating an order** refuses exactly the texts that are no telephone numbers, and otherwise
stores one order and announces it if it was stored, for every choice of what becomes of the two. -/
theorem createOrder_outcome (w : World) (p : String) (s : State) :
    (Refused w p s ↔ ¬ International p) ∧ (International p → Created w p s) := by
  refine ⟨⟨fun hrefused h => ?_, refused_of_not_international⟩, created_of_international⟩
  have hcalls := hrefused.calls
  rw [calls_createOrder h] at hcalls
  cases hcalls

/-- The store takes an order, and the news of it is lost. -/
theorem createOrder_outcome_lostNews :
    let w : World := fun
      | .insertOrder _ => ⟨.epoch, ⟨7⟩, .lost (.storage "timeout")⟩
      | _ => ⟨.epoch, ⟨7⟩, .works⟩
    let p := "+380501234567"
    International p
      ∧ ((createOrder p).run w.answer {}).1 = .error (.storage "timeout")
      ∧ ((createOrder p).run w.answer {}).2.store.orders.entries
        = [(⟨7⟩, Order.create ⟨7⟩ p .epoch)]
      ∧ ((createOrder p).run w.answer {}).2.announced = [] := by
  intro w p
  have hnumber : International p := (isPhoneNumber_iff p).1 (by decide)
  have hcreated := (createOrder_outcome w p {}).2 hnumber
  exact ⟨hnumber, hcreated.result, hcreated.orders rfl, hcreated.announced⟩

end OrderService

end CourierDispatch
