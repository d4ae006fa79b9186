import PowerDelivery.Traced

/-! # Outcomes without the events on the way

Taking the outcome commutes with sequencing, so that what a traced computation returns is found
without following what it reports. -/
namespace PowerDelivery.Traced
variable {ν ε ε' α β : Type}

@[simp] theorem outcome_pure (a : α) : (pure a : Traced ν ε α).outcome = .ok a := rfl

@[simp] theorem outcome_fail (e : ε) : (fail e : Traced ν ε α).outcome = .error e := rfl

@[simp] theorem outcome_ofExcept (x : Except ε α) : (ofExcept x : Traced ν ε α).outcome = x := rfl

@[simp] theorem outcome_tell (e : ν) : (tell e : Traced ν ε Unit).outcome = .ok () := rfl

@[simp] theorem outcome_mapError (f : ε → ε') (x : Traced ν ε α) :
    (x.mapError f).outcome = x.outcome.mapError f := rfl

@[simp] theorem outcome_bind (x : Traced ν ε α) (f : α → Traced ν ε β) :
    (x >>= f).outcome = x.outcome.bind fun a => (f a).outcome := by
  cases h : x.outcome with
  | error e => rw [bind_of_error h]; rfl
  | ok a => rw [bind_of_ok h]; rfl

@[simp] theorem outcome_map (f : α → β) (x : Traced ν ε α) :
    (f <$> x).outcome = x.outcome.map f := by
  rw [← bind_pure_comp, outcome_bind]
  rfl

/-- What follows a computation matters only for a result that it can have. -/
theorem bind_congr_of_ok {x : Traced ν ε α} {f g : α → Traced ν ε β}
    (h : ∀ a, x.outcome = .ok a → f a = g a) : x >>= f = x >>= g := by
  cases hx : x.outcome with
  | error e => rw [bind_of_error hx, bind_of_error hx]
  | ok a => rw [bind_of_ok hx, bind_of_ok hx, h a hx]

theorem mapError_bind (e : ε → ε') (x : Traced ν ε α) (f : α → Traced ν ε β) :
    (x >>= f).mapError e = x.mapError e >>= fun a => (f a).mapError e := by
  obtain ⟨events, outcome⟩ := x
  cases outcome <;> rfl

end PowerDelivery.Traced
