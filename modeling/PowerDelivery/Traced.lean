import PowerDelivery.Note

/-! # Outcomes with what was reported on the way -/
namespace PowerDelivery

/-- A failure keeps the events before it. -/
structure Traced (ν ε α : Type) where
  events : List ν
  outcome : Except ε α

namespace Traced
variable {ν ν' ε ε' α β : Type}

def ok (a : α) : Traced ν ε α := ⟨[], .ok a⟩

def fail (e : ε) : Traced ν ε α := ⟨[], .error e⟩

def ofExcept (x : Except ε α) : Traced ν ε α := ⟨[], x⟩

def tell (e : ν) : Traced ν ε Unit := ⟨[e], .ok ()⟩

def bind (x : Traced ν ε α) (f : α → Traced ν ε β) : Traced ν ε β :=
  match x.outcome with
  | .error e => ⟨x.events, .error e⟩
  | .ok a => ⟨x.events ++ (f a).events, (f a).outcome⟩

instance : Monad (Traced ν ε) := { pure := ok, bind := bind }

def mapError (f : ε → ε') (x : Traced ν ε α) : Traced ν ε' α :=
  ⟨x.events, x.outcome.mapError f⟩

def mapEvents (f : ν → ν') (x : Traced ν ε α) : Traced ν' ε α := ⟨x.events.map f, x.outcome⟩

instance : LawfulMonad (Traced ν ε) := LawfulMonad.mk' (Traced ν ε)
  (fun x => by
    obtain ⟨events, outcome⟩ := x
    cases outcome <;> simp [Functor.map, bind, ok])
  (fun a f => by simp [Bind.bind, Pure.pure, bind, ok])
  (fun x f g => by
    obtain ⟨events, outcome⟩ := x
    cases outcome with
    | error e => rfl
    | ok a => cases h : (f a).outcome <;> simp [Bind.bind, bind, h])

theorem bind_of_ok {x : Traced ν ε α} {a : α} (h : x.outcome = .ok a) (f : α → Traced ν ε β) :
    x >>= f = ⟨x.events ++ (f a).events, (f a).outcome⟩ := by
  simp [Bind.bind, bind, h]

theorem bind_of_error {x : Traced ν ε α} {e : ε} (h : x.outcome = .error e)
    (f : α → Traced ν ε β) : x >>= f = ⟨x.events, .error e⟩ := by
  simp [Bind.bind, bind, h]

end Traced

abbrev Noted := Traced Note

end PowerDelivery
