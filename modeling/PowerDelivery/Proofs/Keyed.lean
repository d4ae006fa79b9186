import PowerDelivery.Keyed
import Mathlib.Data.List.Nodup

/-! # Pairs gathered by name -/
namespace PowerDelivery.Keyed
variable {β : Type}

theorem mem_put {name : String} {value : β} {m : List (String × β)} {p : String × β}
    (h : p ∈ put name value m) : p = (name, value) ∨ p ∈ m := by
  induction m with
  | nil => exact Or.inl (List.mem_singleton.1 h)
  | cons q m ih =>
    obtain ⟨k, v⟩ := q
    rw [put] at h
    split at h
    · next hk =>
      rcases List.mem_cons.1 h with rfl | h
      · exact Or.inl (by rw [hk])
      · exact Or.inr (List.mem_cons_of_mem _ h)
    · rcases List.mem_cons.1 h with rfl | h
      · exact Or.inr List.mem_cons_self
      · exact (ih h).imp_right (List.mem_cons_of_mem _)

theorem mem_foldl_put {pairs m : List (String × β)} {p : String × β}
    (h : p ∈ pairs.foldl (fun m p => put p.1 p.2 m) m) : p ∈ pairs ∨ p ∈ m := by
  induction pairs generalizing m with
  | nil => exact Or.inr h
  | cons q pairs ih =>
    rcases ih h with h | h
    · exact Or.inl (List.mem_cons_of_mem q h)
    · rcases mem_put h with rfl | h
      · exact Or.inl List.mem_cons_self
      · exact Or.inr h

theorem mem_of_mem_ofList {pairs : List (String × β)} {p : String × β} (h : p ∈ ofList pairs) :
    p ∈ pairs := (mem_foldl_put h).resolve_right List.not_mem_nil

theorem put_of_not_mem {name : String} {m : List (String × β)} (h : name ∉ m.map Prod.fst)
    (value : β) : put name value m = m ++ [(name, value)] := by
  induction m with
  | nil => rfl
  | cons q m ih =>
    obtain ⟨k, v⟩ := q
    rw [List.map_cons, List.mem_cons, not_or] at h
    rw [put, if_neg (Ne.symm h.1), ih h.2, List.cons_append]

theorem foldl_put_of_nodup {m pairs : List (String × β)} (h : ((m ++ pairs).map Prod.fst).Nodup) :
    pairs.foldl (fun m p => put p.1 p.2 m) m = m ++ pairs := by
  induction pairs generalizing m with
  | nil => simp
  | cons p pairs ih =>
    have hp : p.1 ∉ m.map Prod.fst := by
      rw [List.map_append, List.map_cons, List.nodup_middle, List.nodup_cons] at h
      exact fun hm => h.1 (List.mem_append_left _ hm)
    rw [List.foldl_cons, put_of_not_mem hp, ih (by simpa using h), List.append_assoc,
      List.singleton_append]

theorem ofList_of_nodup {pairs : List (String × β)} (h : (pairs.map Prod.fst).Nodup) :
    ofList pairs = pairs := foldl_put_of_nodup (m := []) h

end PowerDelivery.Keyed
