import PowerDelivery.CommandLine.Settings
import PowerDelivery.Proofs.Text.Runs

/-! # What arguments are read as -/
namespace PowerDelivery.CommandLine

theorem tokens_cons {argument : String} {token : Token} (h : argument ≠ "--")
    (ht : Token.ofArgument argument = .ok token) (rest : List String) :
    tokens (argument :: rest) = (tokens rest).map (token :: ·) := by
  rw [tokens, if_neg h, ht]
  cases tokens rest <;> rfl

theorem Token.ofArgument_of_head {argument : String} {c : Char} {cs : List Char} (hc : c ≠ '-')
    (ha : argument.toList = c :: cs) : Token.ofArgument argument = .ok (.value argument) := by
  unfold Token.ofArgument
  split
  · next h => exact absurd (List.cons.inj (ha.symm.trans h)).1 hc
  · rfl

namespace Settings

theorem attribute?_append {name : List Char} (hn : name ≠ []) (he : '=' ∉ name)
    (value : List Char) : attribute? (String.ofList (name ++ '=' :: value)) =
      some (String.ofList (Text.trim name), String.ofList (Text.trim value)) := by
  obtain ⟨c, name, rfl⟩ := List.exists_cons_of_ne_nil hn
  simp only [attribute?, String.toList_ofList, Text.cutAtEquals_append he]

theorem valued_attr (s : Settings) {text : String} {pair : String × String}
    (h : attribute? text = some pair) : s.valued .attr (some text) =
      .ok { s with attributes := s.attributes ++ [some pair] } := by
  have hpair : valued.pairOf text = .ok pair := by rw [valued.pairOf, h]
  simp only [valued, Option.mapM_some, hpair]
  rfl

/-- An operand of its own, but for the separator, is the same in both dialects. -/
theorem take_valued (dialect : Dialect) (s : Settings) (strays : List String) {mention : Mention}
    {text : String} (hs : mention.switch.takesValue = true) (ha : mention.attached = none)
    (ht : text ≠ "--") (rest : List Token) :
    take dialect s strays (.switch mention :: .value text :: rest) =
      s.valued mention.switch (some text) >>= fun s => take dialect s strays rest := by
  have hoperand : operandOf dialect text = some text := if_neg fun hd => ht hd.2
  simp only [take, hs, ha, hoperand, if_true]

theorem bind_eq_ok_iff {α β : Type} {x : Except Stop α} {f : α → Except Stop β} {b : β} :
    x >>= f = .ok b ↔ ∃ a, x = .ok a ∧ f a = .ok b := by
  cases x with
  | error e => exact iff_of_false nofun fun ⟨_, h, _⟩ => nomatch h
  | ok a => exact ⟨fun h => ⟨a, rfl, h⟩, fun ⟨_, ha, h⟩ => Except.ok.inj ha ▸ h⟩

/-- Nothing that was given was dropped. -/
structure Complete (s : Settings) : Prop where
  pdos : none ∉ s.pdos
  rdos : none ∉ s.rdos
  attributes : none ∉ s.attributes

theorem none_not_mem_concat {α : Type} {xs : List (Option α)} (h : none ∉ xs) (x : α) :
    none ∉ xs ++ [some x] := by
  simpa using h

namespace Complete
variable {s s' : Settings} (h : s.Complete)
include h

theorem flag {switch : Switch} (hs : s.flag switch = .ok s') : s'.Complete := by
  cases switch <;> cases hs <;> exact ⟨h.pdos, h.rdos, h.attributes⟩

theorem flags {switches : List Switch} (hs : switches.foldlM Settings.flag s = .ok s') :
    s'.Complete := by
  induction switches generalizing s with
  | nil => exact Except.ok.inj hs ▸ h
  | cons switch switches ih =>
    obtain ⟨s₁, h₁, hs⟩ := bind_eq_ok_iff.1 hs
    exact ih (h.flag h₁) hs

theorem valued {switch : Switch} {text : String} (hs : s.valued switch (some text) = .ok s') :
    s'.Complete := by
  cases switch with
  | pdo =>
    cases hs
    exact ⟨none_not_mem_concat h.pdos text, h.rdos, h.attributes⟩
  | rdo =>
    cases hs
    exact ⟨h.pdos, none_not_mem_concat h.rdos text, h.attributes⟩
  | attr =>
    obtain ⟨_ | pair, hpair, hs⟩ := bind_eq_ok_iff.1 hs
    · obtain ⟨p, -, hp⟩ := bind_eq_ok_iff.1 hpair
      cases hp
    · cases hs
      exact ⟨h.pdos, h.rdos, none_not_mem_concat h.attributes pair⟩
  | variant =>
    obtain ⟨v, -, hs⟩ := bind_eq_ok_iff.1 hs
    split at hs <;> cases hs
    exact ⟨h.pdos, h.rdos, h.attributes⟩
  | leaf =>
    rw [Settings.valued] at hs
    split at hs <;> cases hs
    exact ⟨h.pdos, h.rdos, h.attributes⟩
  | encode =>
    obtain ⟨v, -, hs⟩ := bind_eq_ok_iff.1 hs
    cases hs
    exact ⟨h.pdos, h.rdos, h.attributes⟩
  | ref =>
    cases hs
    exact ⟨h.pdos, h.rdos, h.attributes⟩
  | _ => cases hs

theorem take {tokens : List Token} {strays left : List String}
    (hs : Settings.take .newer s strays tokens = .ok (s', left)) : s'.Complete := by
  fun_induction Settings.take .newer s strays tokens with
  | case1 s strays => exact (Prod.mk.inj (Except.ok.inj hs)).1 ▸ h
  | case2 s strays text rest ih => exact ih h hs
  | case3 s strays rest ih => exact ih h hs
  | case4 s strays text rest ih => exact ih h hs
  | case5 s strays mention _ text rest _ ih =>
    obtain ⟨s₁, h₁, hs⟩ := bind_eq_ok_iff.1 hs
    exact ih s₁ (h.valued h₁) hs
  | case6 s strays mention _ text rest _ ih =>
    obtain ⟨s₁, h₁, hs⟩ := bind_eq_ok_iff.1 hs
    exact ih s₁ (h.valued h₁) hs
  | case7 => cases hs
  | case8 s strays mention rest _ ih =>
    obtain ⟨⟨flags, left⟩, -, hs⟩ := bind_eq_ok_iff.1 hs
    obtain ⟨s₁, h₁, hs⟩ := bind_eq_ok_iff.1 hs
    exact ih left s₁ (h.flags h₁) hs

end Complete

/-- The newer dialect drops nothing. -/
theorem complete_of_newer {arguments : List String} {s : Settings}
    (hs : ofArguments .newer arguments = .ok s) : s.Complete := by
  obtain ⟨tokens, -, hs⟩ := bind_eq_ok_iff.1 hs
  obtain ⟨⟨s', strays⟩, ht, hs⟩ := bind_eq_ok_iff.1 hs
  have h : s'.Complete :=
    Complete.take ⟨List.not_mem_nil, List.not_mem_nil, List.not_mem_nil⟩ ht
  dsimp only at hs
  split at hs
  · cases hs
  · split at hs <;> cases hs
    exact h

end Settings
end PowerDelivery.CommandLine
