import PowerDelivery.Leaf
import PowerDelivery.Proofs.Attribute.Grammar

/-! # The grammar of leaf names

A leaf is named by a position, a colon and a kind on one line, which a line feed may end. Other
names are none of a leaf. -/
namespace PowerDelivery.Leaf
open Numeral Text

/-- A line, with or without a line feed at its end. -/
def IsLine (cs line : List Char) : Prop := '\n' ∉ line ∧ (cs = line ∨ cs = line ++ ['\n'])

theorem kind?_eq_some_iff {cs kind : List Char} : kind? cs = some kind ↔ IsLine cs kind := by
  constructor
  · intro h
    have hcs := List.takeWhile_append_dropWhile (p := (· != '\n')) (l := cs)
    have hline : '\n' ∉ cs.takeWhile (· != '\n') := by
      intro hmem
      simpa using forall_mem_takeWhile (· != '\n') cs '\n' hmem
    unfold kind? at h
    split at h
    · next hd =>
      rw [hd, List.append_nil] at hcs
      rw [← Option.some.inj h]
      exact ⟨hline, .inl hcs.symm⟩
    · next hd =>
      rw [hd] at hcs
      rw [← Option.some.inj h]
      exact ⟨hline, .inr hcs.symm⟩
    · cases h
  · rintro ⟨hline, hcs⟩
    have hall : ∀ c ∈ kind, (c != '\n') = true := by
      intro c hc
      rw [bne_iff_ne]
      rintro rfl
      exact hline hc
    rcases hcs with rfl | rfl
    · have hrun := takeWhile_run hall (stops_nil (p := (· != '\n')))
      have hrest := dropWhile_run hall (stops_nil (p := (· != '\n')))
      rw [List.append_nil] at hrun hrest
      simp only [kind?, hrun, hrest]
    · have hstop : Stops (· != '\n') ['\n'] := by simp
      simp only [kind?, takeWhile_run hall hstop, dropWhile_run hall hstop]

/-- The name is made of digits, a colon and a kind on a line of its own. -/
def Parts (name : String) (digits kind : List Char) : Prop :=
  ∃ rest, name.toList = digits ++ ':' :: rest ∧ digits ≠ [] ∧ (∀ c ∈ digits, isDigit c = true) ∧
    IsLine rest kind

theorem split?_eq_some_iff {name : String} {ds : List Nat} {kind : String} :
    split? name = some (ds, kind) ↔
      ∃ digits, Parts name digits kind.toList ∧ digits.filterMap digitValue? = ds := by
  constructor
  · intro h
    unfold split? at h
    split at h
    · cases h
    · next rest hrest hne =>
      obtain ⟨line, hline, hp⟩ := Option.map_eq_some_iff.1 h
      obtain ⟨rfl, rfl⟩ := Prod.mk.inj hp
      refine
        ⟨name.toList.takeWhile isDigit, ⟨rest, ?_, ?_, forall_mem_takeWhile isDigit _, ?_⟩, rfl⟩
      · rw [← hrest, List.takeWhile_append_dropWhile]
      · intro hnil
        exact hne (by rw [leadingDigits, hnil, List.filterMap_nil])
      · rw [String.toList_ofList]
        exact kind?_eq_some_iff.1 hline
    · cases h
  · rintro ⟨digits, ⟨rest, hname, hne, hd, hline⟩, rfl⟩
    have hcolon : isDigit ':' = false := by decide
    have hstop : Stops isDigit (':' :: rest) := stops_cons.2 hcolon
    have hlead : leadingDigits name.toList = digits.filterMap digitValue? := by
      rw [leadingDigits, hname, takeWhile_run hd hstop]
    have hrest : name.toList.dropWhile isDigit = ':' :: rest := by
      rw [hname, dropWhile_run hd hstop]
    have hsome : digits.filterMap digitValue? ≠ [] :=
      fun h => hne ((Attribute.filterMap_digits_eq_nil hd).1 h)
    simp only [split?, hlead, hrest, kind?_eq_some_iff.2 hline, Option.map_some,
      String.ofList_toList]

/-- The position, if the name has one, is short enough to be read. -/
def Short (name : String) : Prop := ∀ p ∈ split? name, p.1.length ≤ Numeral.maxDigits

instance (name : String) : Decidable (Short name) :=
  inferInstanceAs (Decidable (∀ p ∈ split? name, p.1.length ≤ Numeral.maxDigits))

theorem read_ok_iff {α : Type} (name : String) (ofVariant : Variant → α) (adjustable : α) :
    (∃ r, read name ofVariant adjustable = .ok r) ↔ Short name := by
  unfold read Short
  cases split? name with
  | none => exact iff_of_true ⟨none, rfl⟩ nofun
  | some p =>
    have hshort : (∀ q ∈ some p, q.1.length ≤ Numeral.maxDigits) ↔
        p.1.length ≤ Numeral.maxDigits := by simp
    rw [hshort]
    by_cases hl : p.1.length ≤ Numeral.maxDigits
    · simp only [Numeral.ofDecimal_eq_ok hl]
      exact iff_of_true ⟨_, rfl⟩ hl
    · have hd : Numeral.ofDecimal p.1 = .error ⟨p.1.length⟩ := if_neg hl
      simp only [hd]
      exact iff_of_false nofun hl

section
variable {α : Type} (ofVariant : Variant → α) (adjustable : α)

def kinds : List (String × Variant) :=
  [("fixed_supply", .fixed), ("battery", .battery), ("variable_supply", .variableSupply),
   ("programmable_supply", .pps), ("spr_adjustable_supply", .sprAvs),
   ("epr_adjustable_supply", .eprAvs)]

theorem variant?_eq_some_iff {kind : String} {v : Variant} :
    variant? kind = some v ↔ (kind, v) ∈ kinds := by
  constructor
  · intro h
    unfold variant? at h
    split at h <;> cases h <;> decide
  · intro h
    have hall : ∀ p ∈ kinds, variant? p.1 = some p.2 := by decide
    exact hall (kind, v) h

/-- What a kind stands for, its whole text taken. One that is not known is null. -/
inductive StandsFor : String → α → Prop where
  | adjustable : StandsFor "adjustable_supply" adjustable
  | known {kind : String} {v : Variant} (h : (kind, v) ∈ kinds) : StandsFor kind (ofVariant v)
  | unknown {kind : String} (ha : kind ≠ "adjustable_supply") (h : ∀ v, (kind, v) ∉ kinds) :
      StandsFor kind (ofVariant .null)

theorem standsFor_iff {kind : String} {x : α} : StandsFor ofVariant adjustable kind x ↔
    (if kind = "adjustable_supply" then adjustable
      else ofVariant ((variant? kind).getD .null)) = x := by
  constructor
  · intro h
    cases h with
    | adjustable => exact if_pos rfl
    | @known _ v h =>
      have hne : kind ≠ "adjustable_supply" := by
        rintro rfl
        simp [kinds] at h
      rw [if_neg hne, variant?_eq_some_iff.2 h, Option.getD_some]
    | unknown ha h =>
      have hnone : variant? kind = none :=
        Option.eq_none_iff_forall_ne_some.2 fun v hv => h v (variant?_eq_some_iff.1 hv)
      rw [if_neg ha, hnone, Option.getD_none]
  · rintro rfl
    by_cases ha : kind = "adjustable_supply"
    · subst ha
      rw [if_pos rfl]
      exact .adjustable
    · rw [if_neg ha]
      cases hv : variant? kind with
      | none => exact .unknown ha fun v h => by simp [variant?_eq_some_iff.2 h] at hv
      | some v => exact .known (variant?_eq_some_iff.1 hv)

theorem read_of_parts {name : String} {digits kind : List Char} (h : Parts name digits kind) :
    read name ofVariant adjustable =
      if digits.length ≤ maxDigits then
        .ok (some (ofDigits 10 (digits.filterMap digitValue?),
          if String.ofList kind = "adjustable_supply" then adjustable
          else ofVariant ((variant? (String.ofList kind)).getD .null)))
      else .error ⟨digits.length⟩ := by
  have hsplit : split? name = some (digits.filterMap digitValue?, String.ofList kind) :=
    split?_eq_some_iff.2 ⟨digits, by rwa [String.toList_ofList], rfl⟩
  have hlength : (digits.filterMap digitValue?).length = digits.length := by
    obtain ⟨-, -, -, hd, -⟩ := h
    exact List.filterMap_length_eq_length.2 hd
  simp only [read, hsplit, ofDecimal, hlength]
  by_cases hl : digits.length ≤ maxDigits
  · simp only [if_pos hl]
    rfl
  · simp only [if_neg hl]
    rfl

theorem read_of_not_parts {name : String} (h : ∀ digits kind, ¬Parts name digits kind) :
    read name ofVariant adjustable = .ok none := by
  have hsplit : split? name = none := by
    rw [Option.eq_none_iff_forall_ne_some]
    rintro ⟨ds, kind⟩ hs
    obtain ⟨digits, hp, -⟩ := split?_eq_some_iff.1 hs
    exact h _ _ hp
  rw [read, hsplit]

theorem Parts.denotes_iff {name : String} {digits kind : List Char} (h : Parts name digits kind)
    {n : Nat} : Denotes 10 IsDecimalDigit digits n ↔
      ofDigits 10 (digits.filterMap digitValue?) = n := by
  obtain ⟨-, -, hne, hd, -⟩ := h
  rw [Numeral.denotes_iff digitValue?_eq_some_iff]
  exact (and_iff_right hne).trans (and_iff_right hd)

/-- A name is read by its parts: as the number that the digits write and as what the kind stands
for. It fails exactly if there are too many digits, and names without such parts are passed over. -/
theorem read_iff_parts (name : String) :
    (read name ofVariant adjustable = .ok none ↔ ∀ digits kind, ¬Parts name digits kind) ∧
    (∀ n x, read name ofVariant adjustable = .ok (some (n, x)) ↔
      ∃ digits kind, Parts name digits kind ∧ digits.length ≤ maxDigits ∧
        Denotes 10 IsDecimalDigit digits n ∧
        StandsFor ofVariant adjustable (String.ofList kind) x) ∧
    ∀ e, read name ofVariant adjustable = .error e ↔
      ∃ digits kind, Parts name digits kind ∧ maxDigits < digits.length ∧ e = ⟨digits.length⟩ := by
  have hread {digits kind : List Char} (h : Parts name digits kind) :=
    read_of_parts ofVariant adjustable h
  by_cases hp : ∃ digits kind, Parts name digits kind
  · obtain ⟨digits, kind, hp⟩ := hp
    refine ⟨iff_of_false ?_ fun h => h digits kind hp, fun n x => ⟨?_, ?_⟩, fun e => ⟨?_, ?_⟩⟩
    · rw [hread hp]
      split <;> exact nofun
    · intro h
      rw [hread hp] at h
      split at h
      · next hl =>
        obtain ⟨hn, hx⟩ := Prod.mk.inj (Option.some.inj (Except.ok.inj h))
        exact ⟨digits, kind, hp, hl, hp.denotes_iff.2 hn,
          (standsFor_iff ofVariant adjustable).2 hx⟩
      · cases h
    · rintro ⟨digits', kind', hp', hl, hn, hx⟩
      rw [hread hp', if_pos hl, hp'.denotes_iff.1 hn, (standsFor_iff ofVariant adjustable).1 hx]
    · intro h
      rw [hread hp] at h
      split at h
      · cases h
      · next hl => exact ⟨digits, kind, hp, Nat.lt_of_not_le hl, (Except.error.inj h).symm⟩
    · rintro ⟨digits', kind', hp', hl, rfl⟩
      rw [hread hp', if_neg (Nat.not_le_of_lt hl)]
  · have hno : ∀ digits kind, ¬Parts name digits kind := fun digits kind h => hp ⟨digits, kind, h⟩
    rw [read_of_not_parts ofVariant adjustable hno]
    refine ⟨iff_of_true rfl hno, fun n x => iff_of_false nofun ?_, fun e => iff_of_false nofun ?_⟩
    · exact fun ⟨digits, kind, h, _⟩ => hno digits kind h
    · exact fun ⟨digits, kind, h, _⟩ => hno digits kind h

end

/-- A position of `n` zeros before a kind that is known. -/
def zeros (n : Nat) : String := String.ofList (List.replicate n '0' ++ ":battery".toList)

theorem parts_zeros (n : Nat) :
    Parts (zeros (n + 1)) (List.replicate (n + 1) '0') "battery".toList := by
  refine ⟨"battery".toList, String.toList_ofList, List.cons_ne_nil _ _, ?_, ?_, .inl rfl⟩
  · intro c hc
    rw [List.eq_of_mem_replicate hc]
    decide
  · decide

/-- A line feed inside a kind hides the leaf and one behind it does not count, though neither makes
it a kind that is known; and the digits of a position can be too many. -/
theorem read_lineFeed :
    read "1:battery\ncell" id .eprAvs = .ok none ∧
    read "1:battery\n" id .eprAvs = .ok (some (1, .battery)) ∧
    read (zeros 4301) id .eprAvs = .error ⟨4301⟩ := by
  refine ⟨by decide +kernel, by decide +kernel, ?_⟩
  rw [read_of_parts id .eprAvs (parts_zeros 4300), List.length_replicate, if_neg (by decide)]

end PowerDelivery.Leaf
