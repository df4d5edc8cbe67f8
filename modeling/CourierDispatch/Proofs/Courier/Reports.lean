import CourierDispatch.Proofs.Contract
import CourierDispatch.Proofs.Courier.Assignment
import CourierDispatch.System

/-!
# What the courier service reports

The courier service reports an assignment after it has been made, and never
anything else. Since an assignment never changes, all reports of one order name
the same courier, however often the order was announced.
-/

namespace CourierDispatch

/-- **The couriers that orders were given**, by the store of assignments. -/
def CourierStore.Paired (s : CourierStore) (o c : Uuid) : Prop :=
  ∃ a, s.findAssignment o = some a ∧ a.courierId = c

namespace CourierService

/-! ## The contract -/

/-- Assignments may be reported; couriers are not stored in answer to an
announcement. -/
def mayCall (given : Uuid → Uuid → Prop) : Call → Prop
  | .publish r => ∃ a : Assignment, r = a.report ∧ given a.orderId a.courierId
  | .insertCourier _ => False
  | _ => True

/-- An assignment that comes back is that of the order. -/
def answerable (given : Uuid → Uuid → Prop) : (c : Call) → Answer c → Prop
  | .assign o, r => ∀ a, r = .ok a → a.orderId = o ∧ given o a.courierId
  | _, _ => True

/-- **The contract of the courier service** with the couriers given to
orders. -/
def reporting : Contract Call Answer (Uuid → Uuid → Prop) where
  may := mayCall
  told := answerable
  may_mono := by
    intro given given' c hle h
    cases c with
    | publish r =>
      obtain ⟨a, hr, ha⟩ := h
      exact ⟨a, hr, hle _ _ ha⟩
    | insertCourier c => exact h
    | _ => trivial

/-- **Handling an announcement** reports the assignment that was made for
it. -/
theorem keeps_handle (j : Json) (given : Uuid → Uuid → Prop) :
    (handle j).Keeps reporting anyResult given := by
  unfold handle
  split
  · exact .done trivial
  · next o ho =>
    have hassign : (assign o).Keeps reporting anyResult given := by
      refine .call trivial fun given' _ result hresult => ?_
      cases result with
      | error e => exact .done trivial
      | ok a =>
        obtain ⟨ha, hgiven⟩ := hresult a rfl
        refine .call ⟨a, rfl, ha ▸ hgiven⟩ ?_
        rintro _ _ (e | _) _ <;> exact .done trivial
    refine hassign.bind ?_
    rintro _ _ (e | a) _ <;> exact .done trivial

end CourierService

/-! ## The floor -/

namespace CourierFloor

variable {τ : Type} [DecidableEq τ]

/-- **Everything reported is an assignment.** -/
def Reported (f : CourierFloor τ) : Prop :=
  ∀ r ∈ f.reports, ∃ a, f.desk.store.findAssignment a.orderId = some a ∧ r = a.report

/-- What has returned from the desk is the assignment of the order. -/
theorem answerable_returned {f : CourierFloor τ} (h : f.desk.Sound) {t : τ} {o : Uuid}
    {result : Except ServiceError Assignment} (hr : f.returned? t o = some result) :
    CourierService.answerable f.desk.store.Paired (.assign o) result := by
  unfold returned? at hr
  split at hr
  · next o' result' hcall =>
    split at hr
    · next heq =>
      obtain rfl := Option.some.inj hr
      subst heq
      intro a ha
      have hstored : f.desk.store.findAssignment o' = some a := h.promised hcall a ha
      exact ⟨h.keyed hstored, a, hstored, rfl⟩
    · cases hr
  · cases hr

/-- **A call that may be made is answered as is relied on.** It leaves the desk
alone, and whatever it reports is an assignment. -/
theorem answer?_eq_some {f f' : CourierFloor τ} (hdesk : f.desk.Sound) (hreported : f.Reported)
    {t : τ} {m : Moment} {c : CourierService.Call} {a : CourierService.Answer c}
    (hmay : CourierService.mayCall f.desk.store.Paired c) (ha : f.answer? t m c = some (a, f')) :
    f'.desk = f.desk ∧ f'.Reported ∧ CourierService.answerable f.desk.store.Paired c a := by
  cases c with
  | assign o =>
    obtain ⟨result, hr, heq⟩ := Option.map_eq_some_iff.1 ha
    obtain ⟨rfl, rfl⟩ := Prod.mk.inj heq
    exact ⟨rfl, hreported, answerable_returned hdesk hr⟩
  | insertCourier x => exact absurd hmay id
  | publish r =>
    obtain rfl := (Prod.mk.inj (Option.some.inj ha)).2
    obtain ⟨b, rfl, x, hx, hxc⟩ := hmay
    -- a report shows the order and the courier, which the stored assignment shares
    have hreport : b.report = x.report := by
      unfold Assignment.report
      rw [hxc, hdesk.keyed hx]
    have hpublished : ∀ r ∈ f.reports ++ [b.report],
        ∃ a, f.desk.store.findAssignment a.orderId = some a ∧ r = a.report := by
      intro r hr
      rcases List.mem_append.1 hr with hr | hr
      · exact hreported r hr
      · exact ⟨x, hdesk.keyed hx ▸ hx, (List.mem_singleton.1 hr).trans hreport⟩
    obtain ⟨now, drawn, fate⟩ := m
    cases fate with
    | works => exact ⟨rfl, hpublished, trivial⟩
    | refused e => exact ⟨rfl, hreported, trivial⟩
    | lost e => exact ⟨rfl, hpublished, trivial⟩
  | _ =>
    obtain rfl := (Prod.mk.inj (Option.some.inj ha)).2
    obtain ⟨now, drawn, fate⟩ := m
    cases fate <;> exact ⟨rfl, hreported, trivial⟩

end CourierFloor

end CourierDispatch
