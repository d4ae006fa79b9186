/-! # Pairs in the order in which their names first came -/
namespace PowerDelivery.Keyed
variable {β : Type}

/-- A name that is there keeps its place and takes the new value. -/
def put (name : String) (value : β) : List (String × β) → List (String × β)
  | [] => [(name, value)]
  | (k, v) :: rest => if k = name then (k, value) :: rest else (k, v) :: put name value rest

def ofList (pairs : List (String × β)) : List (String × β) :=
  pairs.foldl (fun m p => put p.1 p.2 m) []

theorem lookup_cons (name k : String) (value : β) (m : List (String × β)) :
    ((name, value) :: m).lookup k = if k = name then some value else m.lookup k := by
  rw [List.lookup_cons]
  split
  · next h => rw [if_pos (eq_of_beq h)]
  · next h => rw [if_neg (ne_of_beq_false h)]

theorem lookup_put (name k : String) (value : β) (m : List (String × β)) :
    (put name value m).lookup k = if k = name then some value else m.lookup k := by
  induction m with
  | nil => exact lookup_cons name k value []
  | cons p m ih =>
    obtain ⟨first, old⟩ := p
    rw [put]
    split
    · next h => rw [lookup_cons, lookup_cons, h]; split <;> rfl
    · next h =>
      rw [lookup_cons, lookup_cons, ih]
      by_cases hk : k = first
      · rw [if_pos hk, if_pos hk, if_neg (hk ▸ h)]
      · rw [if_neg hk, if_neg hk]

end PowerDelivery.Keyed
