import NetSteward.Text.Blank
/-!
# Splitting and stripping

A text is split at a character and stripped of a set of characters, and
both are undone by what puts the text together: pieces that do not hold
the character are found again between its occurrences, and a text without
characters of the set at its ends is found again within any of them.
-/

namespace NetSteward

namespace Text

/-! ## Splitting at one occurrence -/

section Once

variable {sep : Char} {cs before after rest : List Char}

/-- A text is split at a character that does not occur before. -/
theorem splitFirst?_append (h : sep ∉ cs) :
    splitFirst? sep (cs ++ sep :: rest) = some (cs, rest) := by
  induction cs with
  | nil => rw [List.nil_append, splitFirst?, if_pos rfl]
  | cons c cs ih =>
    have other : c ≠ sep := Ne.symm (List.ne_of_not_mem_cons h)
    rw [List.cons_append, splitFirst?, if_neg other, ih (List.not_mem_of_not_mem_cons h)]
    rfl

/-- A text is split at a character that does not occur after. -/
theorem splitLast?_append (h : sep ∉ rest) :
    splitLast? sep (cs ++ sep :: rest) = some (cs, rest) := by
  have reversed : (cs ++ sep :: rest).reverse = rest.reverse ++ sep :: cs.reverse := by simp
  rw [splitLast?, reversed, splitFirst?_append (by simpa using h), Option.map_some]
  dsimp only
  rw [List.reverse_reverse, List.reverse_reverse]

/-- A text is split where a character occurs first. -/
theorem splitFirst?_eq_some_iff :
    splitFirst? sep cs = some (before, after) ↔ cs = before ++ sep :: after ∧ sep ∉ before := by
  refine ⟨fun h => ?_, fun ⟨h, hfirst⟩ => h ▸ splitFirst?_append hfirst⟩
  induction cs generalizing before with
  | nil => cases h
  | cons c cs ih =>
    rw [splitFirst?] at h
    split at h
    · rename_i hc
      cases h
      exact ⟨by rw [hc, List.nil_append], List.not_mem_nil⟩
    · rename_i hc
      obtain ⟨⟨rest, _⟩, hrest, heq⟩ := Option.map_eq_some_iff.1 h
      cases heq
      obtain ⟨rfl, hfirst⟩ := ih hrest
      exact ⟨rfl, List.not_mem_cons_of_ne_of_not_mem (Ne.symm hc) hfirst⟩

/-- A text is split where a character occurs last. -/
theorem splitLast?_eq_some_iff :
    splitLast? sep cs = some (before, after) ↔ cs = before ++ sep :: after ∧ sep ∉ after := by
  refine ⟨fun h => ?_, fun ⟨h, hlast⟩ => h ▸ splitLast?_append hlast⟩
  obtain ⟨⟨last, first⟩, hsplit, heq⟩ := Option.map_eq_some_iff.1 h
  cases heq
  obtain ⟨hreverse, hlast⟩ := splitFirst?_eq_some_iff.1 hsplit
  refine ⟨?_, by simpa using hlast⟩
  rw [← List.reverse_reverse cs, hreverse]
  simp

/-- There is one way in which a text is split where a character occurs last. -/
theorem split_unique {other rest : List Char} (h : before ++ sep :: after = other ++ sep :: rest)
    (hafter : sep ∉ after) (hrest : sep ∉ rest) : before = other ∧ after = rest := by
  have hsplit : splitLast? sep (before ++ sep :: after) = some (before, after) :=
    splitLast?_append hafter
  rw [h, splitLast?_append hrest] at hsplit
  cases hsplit
  exact ⟨rfl, rfl⟩

/-- A text is left whole exactly if the character does not occur. -/
theorem splitFirst?_eq_none_iff : splitFirst? sep cs = none ↔ sep ∉ cs := by
  constructor
  · intro h hmem
    obtain ⟨before, after, rfl, hfirst⟩ := List.eq_append_cons_of_mem hmem
    rw [splitFirst?_append hfirst] at h
    cases h
  · intro h
    cases hsplit : splitFirst? sep cs with
    | none => rfl
    | some parts =>
      obtain ⟨rfl, -⟩ := splitFirst?_eq_some_iff.1 hsplit
      exact absurd (List.mem_append_right _ List.mem_cons_self) h

/-- A text is cut at a character that does not occur before. -/
theorem cutAt_append (h : sep ∉ cs) : cutAt sep (cs ++ sep :: rest) = (cs, rest) := by
  rw [cutAt, splitFirst?_append h, Option.getD_some]

/-- Nothing is cut off a text without the character. -/
theorem cutAt_of_not_mem (h : sep ∉ cs) : cutAt sep cs = (cs, []) := by
  rw [cutAt, splitFirst?_eq_none_iff.2 h, Option.getD_none]

end Once

/-! ## Splitting at every occurrence -/

section All

variable {sep : Char} {cs : List Char} {pieces : List (List Char)}

theorem splitAll_eq_splitOn (sep : Char) (cs : List Char) : splitAll sep cs = cs.splitOn sep := by
  induction cs with
  | nil => rfl
  | cons c rest ih =>
    rw [splitAll, ih, List.splitOn_cons_eq_if_modifyHead]
    simp only [beq_iff_eq]
    cases hrest : rest.splitOn sep with
    | nil => exact absurd hrest (List.splitOn_ne_nil sep rest)
    | cons piece more => rfl

/-- **The pieces of a text are found again** between what separates them. -/
theorem splitAll_intercalate (h : ∀ piece ∈ pieces, sep ∉ piece) (hne : pieces ≠ []) :
    splitAll sep ([sep].intercalate pieces) = pieces := by
  rw [splitAll_eq_splitOn, List.splitOn_intercalate sep h hne]

/-- A text is put together again of its pieces. -/
theorem intercalate_splitAll (sep : Char) (cs : List Char) :
    [sep].intercalate (splitAll sep cs) = cs := by
  rw [splitAll_eq_splitOn, List.intercalate_splitOn]

theorem splitAll_ne_nil (sep : Char) (cs : List Char) : splitAll sep cs ≠ [] := by
  rw [splitAll_eq_splitOn]
  exact List.splitOn_ne_nil sep cs

/-- What separates the pieces is in none of them. -/
theorem not_mem_of_mem_splitAll : ∀ piece ∈ splitAll sep cs, sep ∉ piece := by
  induction cs with
  | nil => simp [splitAll]
  | cons c rest ih =>
    rw [splitAll]
    split
    · exact List.forall_mem_cons.2 ⟨List.not_mem_nil, ih⟩
    · rename_i hc
      cases hrest : splitAll sep rest with
      | nil => exact absurd hrest (splitAll_ne_nil sep rest)
      | cons piece more =>
        rw [hrest] at ih
        obtain ⟨hpiece, hmore⟩ := List.forall_mem_cons.1 ih
        exact List.forall_mem_cons.2
          ⟨List.not_mem_cons_of_ne_of_not_mem (Ne.symm hc) hpiece, hmore⟩

end All

/-! ## Stripping -/

section Strip

variable {p : Char → Bool} {before cs after : List Char}

/-- A text without characters of a set at its ends. -/
structure Trimmed (p : Char → Bool) (cs : List Char) : Prop where
  first : ∀ c ∈ cs.head?, p c = false
  last : ∀ c ∈ cs.getLast?, p c = false

instance : Decidable (Trimmed p cs) :=
  decidable_of_iff (cs.head?.any p = false ∧ cs.getLast?.any p = false) <| by
    rw [Option.any_eq_false, Option.any_eq_false]
    exact ⟨fun h => ⟨h.1, h.2⟩, fun h => ⟨h.first, h.last⟩⟩

theorem stripStart_of_first (h : ∀ c ∈ cs.head?, p c = false) : stripStart p cs = cs := by
  cases cs with
  | nil => rfl
  | cons c rest => rw [stripStart, List.dropWhile_cons, h c rfl, if_neg Bool.false_ne_true]

theorem stripEnd_of_last (h : ∀ c ∈ cs.getLast?, p c = false) : stripEnd p cs = cs := by
  have hfirst : ∀ c ∈ cs.reverse.head?, p c = false := by rwa [List.head?_reverse]
  have hkept : cs.reverse.dropWhile p = cs.reverse := stripStart_of_first hfirst
  rw [stripEnd, hkept, List.reverse_reverse]

theorem strip_of_trimmed (h : Trimmed p cs) : strip p cs = cs := by
  rw [strip, stripStart_of_first h.first, stripEnd_of_last h.last]

/-- A text without characters of a set stays as it is where these are
stripped. -/
theorem strip_of_not (h : ∀ c ∈ cs, p c = false) : strip p cs = cs :=
  strip_of_trimmed ⟨fun c hc => h c (List.mem_of_mem_head? hc),
    fun c hc => h c (List.mem_of_mem_getLast? hc)⟩

/-- Nothing comes in by stripping. -/
theorem mem_of_mem_stripStart {c : Char} (h : c ∈ stripStart p cs) : c ∈ cs :=
  (List.dropWhile_suffix p).subset h

theorem mem_of_mem_stripEnd {c : Char} (h : c ∈ stripEnd p cs) : c ∈ cs :=
  List.mem_reverse.1 ((List.dropWhile_suffix p).subset (List.mem_reverse.1 h))

theorem mem_of_mem_strip {c : Char} (h : c ∈ strip p cs) : c ∈ cs :=
  mem_of_mem_stripStart (mem_of_mem_stripEnd h)

theorem stripStart_append (h : ∀ c ∈ before, p c = true) :
    stripStart p (before ++ cs) = stripStart p cs :=
  List.dropWhile_append_of_pos h

theorem stripEnd_append (h : ∀ c ∈ after, p c = true) :
    stripEnd p (cs ++ after) = stripEnd p cs := by
  have hreverse : ∀ c ∈ after.reverse, p c = true := fun c hc => h c (List.mem_reverse.1 hc)
  rw [stripEnd, List.reverse_append, List.dropWhile_append_of_pos hreverse, stripEnd]

/-- Characters of the set before a text do not show once it is stripped. -/
theorem strip_prepend (h : ∀ c ∈ before, p c = true) : strip p (before ++ cs) = strip p cs := by
  rw [strip, stripStart_append h, strip]

/-- Nor do those after it. -/
theorem strip_append (h : ∀ c ∈ after, p c = true) : strip p (cs ++ after) = strip p cs := by
  rw [strip, strip, stripStart, stripStart, List.dropWhile_append]
  split
  · rename_i hempty
    have hgone : after.dropWhile p = [] := by
      have hdrop : (after ++ []).dropWhile p = [].dropWhile p := List.dropWhile_append_of_pos h
      rwa [List.append_nil] at hdrop
    rw [hgone, List.isEmpty_iff.1 hempty]
  · exact stripEnd_append h

/-- **A text that is surrounded by characters of a set is found again** where
these are stripped. -/
theorem strip_surrounded (hbefore : ∀ c ∈ before, p c = true) (hafter : ∀ c ∈ after, p c = true)
    (h : Trimmed p cs) : strip p (before ++ cs ++ after) = cs := by
  rw [strip_append hafter, strip_prepend hbefore, strip_of_trimmed h]

/-- What was stripped at the start alone is stripped as well. -/
theorem strip_stripStart (p : Char → Bool) (cs : List Char) :
    strip p (stripStart p cs) = strip p cs := by
  have hall : ∀ c ∈ cs.takeWhile p, p c = true := List.all_eq_true.1 List.all_takeWhile
  have hsplit : cs.takeWhile p ++ stripStart p cs = cs := List.takeWhile_append_dropWhile
  calc strip p (stripStart p cs) = strip p (cs.takeWhile p ++ stripStart p cs) :=
        (strip_prepend hall).symm
    _ = strip p cs := by rw [hsplit]

/-- And so is what was stripped at the end alone. -/
theorem strip_stripEnd (p : Char → Bool) (cs : List Char) :
    strip p (stripEnd p cs) = strip p cs := by
  have hall : ∀ c ∈ (cs.reverse.takeWhile p).reverse, p c = true :=
    fun c hc => List.all_eq_true.1 List.all_takeWhile c (List.mem_reverse.1 hc)
  have hsplit : stripEnd p cs ++ (cs.reverse.takeWhile p).reverse = cs := by
    rw [stripEnd, ← List.reverse_append, List.takeWhile_append_dropWhile, List.reverse_reverse]
  calc strip p (stripEnd p cs) = strip p (stripEnd p cs ++ (cs.reverse.takeWhile p).reverse) :=
        (strip_append hall).symm
    _ = strip p cs := by rw [hsplit]

/-- Nothing is stripped at the start past a character that is not of the
set. -/
theorem stripStart_around {c : Char} (h : p c = false) :
    stripStart p (before ++ c :: after) = stripStart p before ++ c :: after := by
  have hstop : stripStart p (c :: after) = c :: after :=
    stripStart_of_first fun d hd => Option.some.inj hd ▸ h
  rw [stripStart, List.dropWhile_append]
  split
  · rename_i hempty
    rw [stripStart, List.isEmpty_iff.1 hempty]
    exact hstop
  · rfl

/-- Nor at the end before one. -/
theorem stripEnd_around {c : Char} (h : p c = false) :
    stripEnd p (before ++ c :: after) = before ++ c :: stripEnd p after := by
  have hreverse : (before ++ c :: after).reverse = after.reverse ++ c :: before.reverse := by simp
  have hstrip : stripStart p (after.reverse ++ c :: before.reverse) =
      stripStart p after.reverse ++ c :: before.reverse := stripStart_around h
  rw [stripStart] at hstrip
  rw [stripEnd, hreverse, hstrip, stripStart, stripEnd]
  simp

/-- So each side of such a character is stripped at its outer end. -/
theorem strip_around {c : Char} (h : p c = false) :
    strip p (before ++ c :: after) = stripStart p before ++ c :: stripEnd p after := by
  rw [strip, stripStart_around h, stripEnd_around h]

/-- What is taken at the start ends before a character that is not of the
set. -/
theorem takeWhile_around {c : Char} (h : p c = false) (before after : List Char) :
    (before ++ c :: after).takeWhile p = before.takeWhile p := by
  induction before with
  | nil =>
    rw [List.nil_append, List.takeWhile_cons, h, if_neg Bool.false_ne_true, List.takeWhile_nil]
  | cons d before ih => rw [List.cons_append, List.takeWhile_cons, List.takeWhile_cons, ih]

end Strip

end Text

end NetSteward
