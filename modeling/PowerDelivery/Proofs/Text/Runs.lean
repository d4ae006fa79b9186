import PowerDelivery.Text.Scan
import PowerDelivery.Text.DecimalDigit
import PowerDelivery.Attribute

/-! # Runs of characters of one class

No character is of two of the classes blank, digit and letter, so where a run of one class meets
a run of another there is only one place to part them. -/
namespace PowerDelivery.Text

/-- The characters do not begin with one of the class `p`. -/
def Stops (p : Char → Bool) (cs : List Char) : Prop := ∀ c ∈ cs.head?, p c = false

section Stops
variable {p : Char → Bool} {run rest : List Char}

@[simp] theorem stops_nil : Stops p [] := by simp [Stops]

@[simp] theorem stops_cons {c : Char} : Stops p (c :: rest) ↔ p c = false := by simp [Stops]

theorem Stops.append (hr : ∀ c ∈ run, p c = false) (h : Stops p rest) : Stops p (run ++ rest) := by
  cases run with
  | nil => exact h
  | cons c run => exact stops_cons.2 (hr c List.mem_cons_self)

theorem Stops.takeWhile_eq_nil (h : Stops p rest) : rest.takeWhile p = [] := by
  cases rest with
  | nil => rfl
  | cons c rest => exact List.takeWhile_cons_of_neg (by simp [stops_cons.1 h])

theorem Stops.dropWhile_eq_self (h : Stops p rest) : rest.dropWhile p = rest := by
  cases rest with
  | nil => rfl
  | cons c rest => exact List.dropWhile_cons_of_neg (by simp [stops_cons.1 h])

theorem Stops.of_append (h : Stops p (run ++ rest)) : Stops p run := by
  cases run with
  | nil => exact stops_nil
  | cons c run => exact stops_cons.2 (stops_cons.1 h)

theorem stops_dropWhile (p : Char → Bool) (cs : List Char) : Stops p (cs.dropWhile p) := by
  induction cs with
  | nil => exact stops_nil
  | cons c cs ih =>
    cases hc : p c with
    | true => rwa [List.dropWhile_cons_of_pos hc]
    | false =>
      rw [List.dropWhile_cons_of_neg (by simp [hc])]
      exact stops_cons.2 hc

theorem forall_mem_takeWhile (p : Char → Bool) (cs : List Char) :
    ∀ c ∈ cs.takeWhile p, p c = true := List.all_eq_true.1 List.all_takeWhile

theorem takeWhile_run (hr : ∀ c ∈ run, p c = true) (h : Stops p rest) :
    (run ++ rest).takeWhile p = run := by
  rw [List.takeWhile_append_of_pos hr, h.takeWhile_eq_nil, List.append_nil]

theorem dropWhile_run (hr : ∀ c ∈ run, p c = true) (h : Stops p rest) :
    (run ++ rest).dropWhile p = rest := by
  rw [List.dropWhile_append_of_pos hr, h.dropWhile_eq_self]

end Stops

theorem cutAtEquals_append {name : List Char} (h : '=' ∉ name) (value : List Char) :
    cutAtEquals (name ++ '=' :: value) = some (name, value) := by
  have hname : ∀ c ∈ name, (c != '=') = true := by
    intro c hc
    simpa using fun he : c = '=' => h (he ▸ hc)
  have hstop : Stops (· != '=') ('=' :: value) := by simp
  rw [cutAtEquals, if_pos (by simp), takeWhile_run hname hstop, dropWhile_run hname hstop,
    List.drop_one, List.tail_cons]

/-- The characters without the blanks at either end. -/
def Trimmed (cs body : List Char) : Prop :=
  ∃ before after : List Char, cs = before ++ (body ++ after) ∧
    (∀ c ∈ before ++ after, isBlank c = true) ∧ Stops isBlank body ∧ Stops isBlank body.reverse

theorem trimmed_trim (cs : List Char) : Trimmed cs (trim cs) := by
  have hrest : cs.dropWhile isBlank =
      trim cs ++ ((cs.dropWhile isBlank).reverse.takeWhile isBlank).reverse := by
    rw [trim, trimBy, ← List.reverse_append, List.takeWhile_append_dropWhile, List.reverse_reverse]
  refine ⟨cs.takeWhile isBlank, ((cs.dropWhile isBlank).reverse.takeWhile isBlank).reverse,
    ?_, ?_, ?_, ?_⟩
  · rw [← hrest, List.takeWhile_append_dropWhile]
  · intro c hc
    rcases List.mem_append.1 hc with hc | hc
    · exact forall_mem_takeWhile isBlank _ c hc
    · exact forall_mem_takeWhile isBlank _ c (List.mem_reverse.1 hc)
  · exact (hrest ▸ stops_dropWhile isBlank cs).of_append
  · rw [trim, trimBy, List.reverse_reverse]
    exact stops_dropWhile isBlank _

theorem Trimmed.trim_eq {cs body : List Char} (h : Trimmed cs body) : trim cs = body := by
  obtain ⟨before, after, rfl, hb, hl, hr⟩ := h
  cases body with
  | nil =>
    have hnil : (before ++ ([] ++ after)).dropWhile isBlank = [] := by
      simpa using dropWhile_run hb stops_nil
    rw [trim, trimBy, hnil]
    rfl
  | cons c body =>
    have hbefore : ∀ c ∈ before, isBlank c = true := fun c hc => hb c (by simp [hc])
    have hafter : ∀ c ∈ after.reverse, isBlank c = true := fun c hc =>
      hb c (List.mem_append_right before (List.mem_reverse.1 hc))
    have hstop : Stops isBlank (c :: body ++ after) := stops_cons.2 (stops_cons.1 hl)
    rw [trim, trimBy, dropWhile_run hbefore hstop, List.reverse_append, dropWhile_run hafter hr,
      List.reverse_reverse]

theorem trimmed_iff {cs body : List Char} : Trimmed cs body ↔ body = trim cs :=
  ⟨fun h => h.trim_eq.symm, fun h => h ▸ trimmed_trim cs⟩

/-- The characters with blanks before and after them. -/
def Surrounded (cs body : List Char) : Prop :=
  ∃ before after : List Char, cs = before ++ (body ++ after) ∧
    ∀ c ∈ before ++ after, isBlank c = true

theorem surrounded_self (body : List Char) : Surrounded body body :=
  ⟨[], [], by simp, by simp⟩

theorem Surrounded.trim_eq {cs body : List Char} (h : Surrounded cs body)
    (hb : ∀ c ∈ body, isBlank c = false) : trim cs = body := by
  obtain ⟨before, after, hcs, hblank⟩ := h
  have hfirst : Stops isBlank body := fun c hc => hb c (List.mem_of_mem_head? hc)
  have hlast : Stops isBlank body.reverse := fun c hc =>
    hb c (List.mem_reverse.1 (List.mem_of_mem_head? hc))
  exact Trimmed.trim_eq ⟨before, after, hcs, hblank, hfirst, hlast⟩

theorem exists_of_inRanges {n : Nat} {ranges : List (Nat × Nat)} (h : inRanges n ranges = true) :
    ∃ r ∈ ranges, r.1 ≤ n ∧ n ≤ r.2 := by
  induction ranges with
  | nil => cases h
  | cons r ranges ih =>
    obtain ⟨lo, hi⟩ := r
    rw [inRanges] at h
    split at h
    · exact ⟨(lo, hi), List.mem_cons_self, of_decide_eq_true h, ‹_›⟩
    · obtain ⟨r, hr, hn⟩ := ih h
      exact ⟨r, List.mem_cons_of_mem _ hr, hn⟩

theorem exists_of_isDigit {c : Char} (h : isDigit c = true) :
    ∃ z ∈ digitZeros, z ≤ c.toNat ∧ c.toNat < z + 10 := by
  rw [isDigit, digitValue?, Option.isSome_map] at h
  obtain ⟨z, hz⟩ := Option.isSome_iff_exists.1 h
  exact ⟨z, List.mem_of_find?_eq_some hz, by simpa using List.find?_some hz⟩

private theorem digits_apart_from_blanks :
    ∀ z ∈ digitZeros, ∀ r ∈ blankRanges, r.2 < z ∨ z + 10 ≤ r.1 := by decide +kernel

theorem isBlank_of_isDigit {c : Char} (h : isDigit c = true) : isBlank c = false := by
  rw [← Bool.not_eq_true]
  intro hb
  obtain ⟨z, hz, hd⟩ := exists_of_isDigit h
  obtain ⟨r, hr, hn⟩ := exists_of_inRanges hb
  have := digits_apart_from_blanks z hz r hr
  omega

theorem isDigit_of_isBlank {c : Char} (h : isBlank c = true) : isDigit c = false := by
  rw [← Bool.not_eq_true]
  intro hd
  simp [isBlank_of_isDigit hd] at h

end PowerDelivery.Text

namespace PowerDelivery.Attribute
open Text

theorem isLetter_iff {c : Char} :
    isLetter c = true ↔ 97 ≤ c.toNat ∧ c.toNat ≤ 122 ∨ 65 ≤ c.toNat ∧ c.toNat ≤ 90 := by
  simp [isLetter, Char.le_def, UInt32.le_iff_toNat_le]

private theorem digits_apart_from_letters :
    ∀ z ∈ digitZeros, z + 10 ≤ 65 ∨ 90 < z ∧ z + 10 ≤ 97 ∨ 122 < z := by decide +kernel

private theorem blanks_apart_from_letters :
    ∀ r ∈ blankRanges, r.2 < 65 ∨ 90 < r.1 ∧ r.2 < 97 ∨ 122 < r.1 := by decide +kernel

theorem isDigit_of_isLetter {c : Char} (h : isLetter c = true) : isDigit c = false := by
  rw [← Bool.not_eq_true]
  intro hd
  obtain ⟨z, hz, hd⟩ := exists_of_isDigit hd
  have := digits_apart_from_letters z hz
  rw [isLetter_iff] at h
  omega

theorem isBlank_of_isLetter {c : Char} (h : isLetter c = true) : isBlank c = false := by
  rw [← Bool.not_eq_true]
  intro hb
  obtain ⟨r, hr, hn⟩ := exists_of_inRanges hb
  have := blanks_apart_from_letters r hr
  rw [isLetter_iff] at h
  omega

theorem isLetter_of_isBlank {c : Char} (h : isBlank c = true) : isLetter c = false := by
  rw [← Bool.not_eq_true]
  intro hl
  simp [isBlank_of_isLetter hl] at h

end PowerDelivery.Attribute
