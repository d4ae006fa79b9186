import PowerDelivery.Proofs.Numeral
import PowerDelivery.Proofs.Text.Runs
import PowerDelivery.Text.Quoted

/-! # Lines of a text

A quoted text stays on its line. A text that stands in a line as it is may bring in lines of its
own. -/
namespace PowerDelivery.Text

def OneLine (s : String) : Prop := '\n' ∉ s.toList

instance (s : String) : Decidable (OneLine s) := inferInstanceAs (Decidable ('\n' ∉ s.toList))

/-- Characters up to the first line feed. -/
def firstLine (s : String) : String := String.ofList (s.toList.takeWhile (· != '\n'))

/-- The lines that begin as those of errors do. -/
def errorLines (s : String) : List String :=
  ((s.toList.splitOn '\n').filter ("Error:".toList.isPrefixOf ·)).map String.ofList

/-- No line but perhaps the first begins as those of errors do. -/
def Quiet (s : String) : Prop := ¬"\nError:".toList <:+: s.toList

instance (s : String) : Decidable (Quiet s) :=
  inferInstanceAs (Decidable ¬"\nError:".toList <:+: s.toList)

/-- Nothing, or lines of which each is ended. -/
def Whole (s : String) : Prop := s = "" ∨ ∃ t, s = t ++ "\n"

section OneLine

theorem oneLine_append {s t : String} : OneLine (s ++ t) ↔ OneLine s ∧ OneLine t := by
  simp [OneLine]

theorem not_mem_padded {b : Nat} (hb : 1 < b) (hd : ∀ d < b, d.digitChar ≠ '\n') (width n : Nat) :
    '\n' ∉ Numeral.padded b width n := by
  intro h
  rcases List.mem_append.1 h with h | h
  · exact absurd (List.eq_of_mem_replicate h) (by decide)
  · obtain ⟨d, hlt, hc⟩ := Numeral.exists_of_mem_toDigits hb h
    exact hd d hlt hc.symm

theorem oneLine_toString (n : Nat) : OneLine (toString n) := by
  intro h
  rw [Nat.toString_eq_repr, Nat.toList_repr] at h
  exact absurd (Numeral.isDigit_of_mem_toDigits h) (by decide)

theorem not_mem_escapeCode (n : Nat) : '\n' ∉ escapeCode n := by
  have h := not_mem_padded (b := 16) (by decide) (by decide)
  unfold escapeCode
  split_ifs <;> simp [h]

theorem quoteMark_ne (cs : List Char) : quoteMark cs ≠ '\n' := by
  unfold quoteMark
  split <;> decide

theorem not_mem_escape {mark : Char} (hm : mark ≠ '\n') (c : Char) : '\n' ∉ escape mark c := by
  unfold escape
  split_ifs with hself htab hfeed
  · have hc : c ≠ '\n' := by
      rcases hself with rfl | rfl
      · exact hm
      · decide
    simpa using hc.symm
  · decide
  · decide
  · decide
  · simpa using Ne.symm hfeed
  · exact not_mem_escapeCode c.toNat

theorem oneLine_quoted (s : String) : OneLine (quoted s) := by
  have hmark := quoteMark_ne s.toList
  have hbody : '\n' ∉ s.toList.flatMap (escape (quoteMark s.toList)) := by
    intro h
    obtain ⟨c, -, hc⟩ := List.mem_flatMap.1 h
    exact not_mem_escape hmark c hc
  simp [OneLine, quoted, quoteChars, hmark.symm, hbody]

end OneLine

section errorLines
variable {s t : String}

theorem errorLines_line_append (s t : String) :
    errorLines (s ++ "\n" ++ t) = errorLines s ++ errorLines t := by
  have hlist : (s ++ "\n" ++ t).toList = s.toList ++ '\n' :: t.toList := by simp
  rw [errorLines, hlist, List.splitOn_append_cons_self, List.filter_append, List.map_append]
  rfl

theorem errorLines_line (s : String) : errorLines (s ++ "\n") = errorLines s := by
  rw [← String.append_empty (s := s ++ "\n"), errorLines_line_append]
  exact List.append_nil _

theorem errorLines_append (h : Whole s) (t : String) :
    errorLines (s ++ t) = errorLines s ++ errorLines t := by
  rcases h with rfl | ⟨s, rfl⟩
  · rw [String.empty_append]
    rfl
  · rw [errorLines_line_append, errorLines_line]

theorem errorLines_join {ss : List String} (h : ∀ s ∈ ss, Whole s) :
    errorLines (String.join ss) = ss.flatMap errorLines := by
  induction ss with
  | nil => rfl
  | cons s ss ih =>
    rw [String.join_cons, errorLines_append (h s List.mem_cons_self),
      ih fun t ht => h t (List.mem_cons_of_mem s ht), List.flatMap_cons]

theorem whole_join {ss : List String} (h : ∀ s ∈ ss, Whole s) : Whole (String.join ss) := by
  induction ss with
  | nil => exact .inl rfl
  | cons s ss ih =>
    have hs := h s List.mem_cons_self
    rw [String.join_cons]
    rcases ih fun t ht => h t (List.mem_cons_of_mem s ht) with hrest | ⟨t, hrest⟩
    · rwa [hrest, String.append_empty]
    · exact .inr ⟨s ++ t, by rw [hrest, String.append_assoc]⟩

theorem errorLines_of_oneLine (h : OneLine s) :
    errorLines s = if "Error:".toList <+: s.toList then [s] else [] := by
  rw [errorLines, List.splitOn_eq_singleton h]
  by_cases hp : "Error:".toList <+: s.toList
  · rw [List.filter_cons_of_pos (List.isPrefixOf_iff_prefix.2 hp), if_pos hp]
    simp
  · rw [List.filter_cons_of_neg (mt List.isPrefixOf_iff_prefix.1 hp), if_neg hp]
    rfl

theorem errorLines_of_head {c : Char} {cs : List Char} (h : OneLine s) (hs : s.toList = c :: cs)
    (hc : c ≠ 'E') : errorLines s = [] := by
  rw [errorLines_of_oneLine h, if_neg]
  intro hp
  rw [hs] at hp
  exact hc (List.cons_prefix_cons.1 hp).1.symm

theorem newline_cons_intercalate {ls : List (List Char)} (h : ls ≠ []) :
    '\n' :: ['\n'].intercalate ls = (ls.map ('\n' :: ·)).flatten := by
  induction ls with
  | nil => exact absurd rfl h
  | cons l ls ih =>
    cases ls with
    | nil => simp
    | cons l' ls =>
      rw [List.intercalate_cons_cons, List.map_cons, List.flatten_cons, ← ih (List.cons_ne_nil _ _)]
      simp

theorem infix_of_mem_splitOn {line cs : List Char} (h : line ∈ cs.splitOn '\n') :
    '\n' :: line <:+: '\n' :: cs := by
  have hcs := newline_cons_intercalate (List.splitOn_ne_nil '\n' cs)
  rw [List.intercalate_splitOn] at hcs
  rw [hcs]
  exact List.infix_of_mem_flatten (List.mem_map.2 ⟨line, h, rfl⟩)

/-- Where no line feed is followed by it, there is no line with the mark of an error. -/
theorem errorLines_eq_nil (h : ¬"\nError:".toList <:+: '\n' :: s.toList) : errorLines s = [] := by
  rw [errorLines, List.map_eq_nil_iff, List.filter_eq_nil_iff]
  intro line hline hprefix
  have hmark : "\nError:".toList <+: '\n' :: line :=
    (List.prefix_cons_inj '\n').2 (List.isPrefixOf_iff_prefix.1 hprefix)
  exact h (hmark.isInfix.trans (infix_of_mem_splitOn hline))

theorem toList_firstLine (s : String) :
    (firstLine s).toList = s.toList.takeWhile (· != '\n') := String.toList_ofList

theorem oneLine_firstLine (s : String) : OneLine (firstLine s) := by
  rw [OneLine, toList_firstLine]
  intro h
  exact absurd (forall_mem_takeWhile _ _ _ h) (by decide)

theorem eq_firstLine_or (s : String) :
    s = firstLine s ∨ ∃ t, s = firstLine s ++ "\n" ++ t := by
  have hsplit : (firstLine s).toList ++ s.toList.dropWhile (· != '\n') = s.toList := by
    rw [toList_firstLine, List.takeWhile_append_dropWhile]
  have hstop := stops_dropWhile (· != '\n') s.toList
  cases hdrop : s.toList.dropWhile (· != '\n') with
  | nil =>
    rw [hdrop, List.append_nil] at hsplit
    exact .inl (String.toList_inj.1 hsplit.symm)
  | cons c cs =>
    rw [hdrop] at hsplit hstop
    obtain rfl : c = '\n' := by simpa using hstop
    exact .inr ⟨String.ofList cs, String.toList_inj.1 (by simp [hsplit])⟩

/-- A text that begins as an error does has its first line among the error lines, and no other if
it is quiet. -/
theorem errorLines_eq_cons (hp : "Error:".toList <+: s.toList) :
    ∃ rest, errorLines s = firstLine s :: rest ∧ (Quiet s → rest = []) := by
  have hfirst : errorLines (firstLine s) = [firstLine s] := by
    obtain ⟨rest, hs⟩ := hp
    have hmark : "Error:".toList.all (· != '\n') = true := rfl
    rw [errorLines_of_oneLine (oneLine_firstLine s), toList_firstLine, ← hs,
      List.takeWhile_append_of_pos (List.all_eq_true.1 hmark), if_pos (List.prefix_append _ _)]
  rcases eq_firstLine_or s with hs | ⟨t, hs⟩
  · exact ⟨[], by rw [← hfirst, ← hs], fun _ => rfl⟩
  · refine ⟨errorLines t, ?_, fun hq => errorLines_eq_nil fun hpart => ?_⟩
    · conv_lhs => rw [hs, errorLines_line_append, hfirst]
      rfl
    · have hsuffix : '\n' :: t.toList <:+ s.toList := by
        rw [hs]
        simp
      exact hq (hpart.trans hsuffix.isInfix)

end errorLines

section Quiet

theorem infix_of_infix_append {w before cs : List Char} (h : '\n' :: w <:+: before ++ cs)
    (hb : '\n' ∉ before) : '\n' :: w <:+: cs := by
  rcases List.infix_append_iff.1 h with h | h | ⟨l, l', hw, hl, hl'⟩
  · exact absurd (h.subset List.mem_cons_self) hb
  · exact h
  · cases l with
    | nil => exact hw ▸ hl'.isInfix
    | cons c l =>
      obtain ⟨rfl, -⟩ := List.cons.inj hw
      exact absurd (hl.subset List.mem_cons_self) hb

theorem infix_of_append_left {w cs after : List Char} {c : Char}
    (h : '\n' :: w <:+: cs ++ c :: after) (hc : c ∉ '\n' :: w) (ha : '\n' ∉ c :: after) :
    '\n' :: w <:+: cs := by
  rcases List.infix_append_iff.1 h with h | h | ⟨l, l', hw, hl, hl'⟩
  · exact h
  · exact absurd (h.subset List.mem_cons_self) ha
  · cases l' with
    | nil =>
      rw [hw, List.append_nil]
      exact hl.isInfix
    | cons d l' =>
      obtain ⟨rfl, -⟩ := List.cons_prefix_cons.1 hl'
      exact absurd (hw ▸ List.mem_append_right l List.mem_cons_self) hc

theorem OneLine.quiet (h : OneLine s) : Quiet s :=
  fun hq => h (hq.subset List.mem_cons_self)

/-- A quiet text stays quiet in the middle of a line. -/
theorem Quiet.echo {s : String} (h : Quiet s) {before after : String} (hb : OneLine before)
    (ha : OneLine after) : Quiet (before ++ s ++ ")" ++ after) := by
  intro hq
  have hlist : (before ++ s ++ ")" ++ after).toList =
      before.toList ++ (s.toList ++ ')' :: after.toList) := by simp
  have hafter : '\n' ∉ ')' :: after.toList := List.not_mem_cons_of_ne_of_not_mem (by decide) ha
  rw [hlist] at hq
  exact h (infix_of_append_left (infix_of_infix_append hq hb) (by decide) hafter)

end Quiet

end PowerDelivery.Text
