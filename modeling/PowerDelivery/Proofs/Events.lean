import PowerDelivery.Traced

/-! # Computations that only report

They form a monoid: one after the other reports what the first reports and then what the second
does. A loop over a list reports item by item. -/
namespace PowerDelivery.Traced
variable {ν ε ε' α β : Type}

def tellAll (events : List ν) : Traced ν ε Unit := ⟨events, .ok ()⟩

@[simp] theorem events_tellAll (events : List ν) :
    (tellAll events : Traced ν ε Unit).events = events := rfl

theorem tellAll_bind (events : List ν) (x : Traced ν ε α) :
    (tellAll events >>= fun _ => x) = ⟨events ++ x.events, x.outcome⟩ :=
  bind_of_ok rfl fun _ => x

theorem tellAll_append (xs ys : List ν) :
    (tellAll xs >>= fun _ => tellAll ys : Traced ν ε Unit) = tellAll (xs ++ ys) :=
  tellAll_bind xs (tellAll ys)

theorem forM_eq_tellAll {f : α → Traced ν ε Unit} {events : α → List ν}
    (h : ∀ a, f a = tellAll (events a)) (items : List α) :
    items.forM f = tellAll (items.flatMap events) := by
  induction items with
  | nil => rfl
  | cons a items ih =>
    change (f a >>= fun _ => items.forM f) = _
    rw [h, ih, tellAll_append, List.flatMap_cons]

theorem outcome_bind_eq_ok_iff {x : Traced ν ε α} {f : α → Traced ν ε β} {b : β} :
    (x >>= f).outcome = .ok b ↔ ∃ a, x.outcome = .ok a ∧ (f a).outcome = .ok b := by
  cases h : x.outcome with
  | error e => rw [bind_of_error h]; simp
  | ok a => rw [bind_of_ok h]; simp

theorem outcome_mapError_eq_ok_iff {f : ε → ε'} {x : Traced ν ε α} {a : α} :
    (x.mapError f).outcome = .ok a ↔ x.outcome = .ok a := by
  change x.outcome.mapError f = _ ↔ _
  cases x.outcome with
  | error e => exact iff_of_false nofun nofun
  | ok b => exact ⟨fun h => congrArg _ (Except.ok.inj h), fun h => congrArg _ (Except.ok.inj h)⟩

theorem events_bind_of_silent {x : Traced ν ε α} {f : α → Traced ν ε β}
    (h : ∀ a, (f a).events = []) : (x >>= f).events = x.events := by
  cases hx : x.outcome with
  | error e => rw [bind_of_error hx]
  | ok a => rw [bind_of_ok hx, h a, List.append_nil]

theorem forall_mem_events_bind {p : ν → Prop} {x : Traced ν ε α} {f : α → Traced ν ε β}
    (hx : ∀ n ∈ x.events, p n) (hf : ∀ a, ∀ n ∈ (f a).events, p n) :
    ∀ n ∈ (x >>= f).events, p n := by
  cases h : x.outcome with
  | error e => rwa [bind_of_error h]
  | ok a =>
    rw [bind_of_ok h]
    exact List.forall_mem_append.2 ⟨hx, hf a⟩

theorem bind_eq_tellAll {x : Traced ν ε α} {a : α} {f : α → Traced ν ε Unit} {events : List ν}
    (hx : x.outcome = .ok a) (hf : f a = tellAll events) :
    x >>= f = tellAll (x.events ++ events) := by
  rw [bind_of_ok hx, hf]
  rfl

end PowerDelivery.Traced
