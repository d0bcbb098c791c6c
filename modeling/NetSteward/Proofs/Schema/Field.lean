import NetSteward.Schema.Record
/-!
# Fields that are read

A record is read field by field from the members of an object. The lemmas
here follow a reading through members that are known, which is how a record
that was written is read again, and back from what was read to the value
that it was read from.
-/

namespace NetSteward

/-- A further check passes exactly when both do. -/
theorem Checked.andThen_eq_ok_iff {α β : Type} {x : Checked α} {f : α → Checked β} {b : β} :
    x.andThen f = .ok b ↔ ∃ a, x = .ok a ∧ f a = .ok b := by
  cases x <;> simp [andThen]

namespace Schema

variable {α : Type} {field key : String} {check : Json → Checked α} {j : Json} {a default : α}
variable {members : Keyed Json} {s : String}

/-! ## Members that are known -/

@[simp] theorem record_obj {origin : Origin} {title : String}
    {fields : Keyed Json → Checked α} :
    record origin title fields (.obj members) = fields members :=
  rfl

@[simp] theorem required_cons : required field check ((key, j) :: members) =
    if key = field then (check j).within (.member field) else required field check members := by
  unfold required
  rw [Keyed.get?_cons]
  by_cases h : key = field
  · rw [if_pos h, if_pos h]
  · rw [if_neg h, if_neg h]

@[simp] theorem defaulted_cons : defaulted field default check ((key, j) :: members) =
    if key = field then (check j).within (.member field)
    else defaulted field default check members := by
  unfold defaulted
  rw [Keyed.get?_cons]
  by_cases h : key = field
  · rw [if_pos h, if_pos h]
  · rw [if_neg h, if_neg h]

@[simp] theorem optionalText_cons : optionalText field ((key, j) :: members) =
    if key = field then (nullable text j).within (.member field)
    else optionalText field members :=
  defaulted_cons

@[simp] theorem text_str : text (.str s) = .ok s := rfl

@[simp] theorem boolean_bool (b : Bool) : boolean (.bool b) = .ok b := rfl

@[simp] theorem integer_int (n : Int) : integer (.int n) = .ok n := rfl

@[simp] theorem nullable_null : nullable check .null = .ok none := rfl

@[simp] theorem nullable_obj : nullable check (.obj members) = some <$> check (.obj members) := rfl

/-- An optional text is read as it was written. -/
@[simp] theorem nullable_text_ofOption (o : Option String) :
    nullable text (.ofOption o) = .ok o := by
  cases o <;> rfl

/-! ## Values that were read -/

/-- Only an object is read as a record. -/
theorem exists_of_record {origin : Origin} {title : String} {fields : Keyed Json → Checked α}
    (h : record origin title fields j = .ok a) : ∃ members, fields members = .ok a := by
  cases j with
  | obj members => exact ⟨members, h⟩
  | null | bool | int | float | str | arr => cases h

/-- A field with a default holds the default or what passed the check. -/
theorem of_defaulted (h : defaulted field default check members = .ok a) :
    a = default ∨ ∃ j, check j = .ok a := by
  unfold defaulted at h
  split at h
  next => cases h; exact .inl rfl
  next j _ => exact .inr ⟨j, Checked.within_eq_ok_iff.1 h⟩

theorem of_required (h : required field check members = .ok a) : ∃ j, check j = .ok a := by
  unfold required at h
  split at h
  next => cases h
  next j _ => exact ⟨j, Checked.within_eq_ok_iff.1 h⟩

/-- A bounded text is the text that it is read from. -/
theorem eq_str_of_boundedText {most : Nat} {pattern : Pattern}
    (h : boundedText most pattern j = .ok s) : j = .str s := by
  obtain ⟨t, ht, h⟩ := Checked.andThen_eq_ok_iff.1 h
  obtain ⟨cs, -, h⟩ := Checked.andThen_eq_ok_iff.1 h
  have hs : t = s := by
    split at h
    · cases h
    · split at h
      · cases h
      · split at h
        · cases h; rfl
        · cases h
  cases j with
  | str => cases ht; rw [hs]
  | null | bool | int | float | arr | obj => cases ht

/-- A bounded text is read again from what it was read as. -/
theorem boundedText_of_required {most : Nat} {pattern : Pattern}
    (h : required field (boundedText most pattern) members = .ok s) :
    boundedText most pattern (.str s) = .ok s := by
  obtain ⟨j, hj⟩ := of_required h
  exact eq_str_of_boundedText hj ▸ hj

/-- So is one that may be left out. -/
theorem nullable_boundedText_of_defaulted {most : Nat} {pattern : Pattern} {o : Option String}
    (h : defaulted field none (nullable (boundedText most pattern)) members = .ok o) :
    nullable (boundedText most pattern) (.ofOption o) = .ok o := by
  cases o with
  | none => rfl
  | some s =>
    obtain hnone | ⟨j, hj⟩ := of_defaulted h
    · cases hnone
    · cases j with
      | null => cases hj
      | str t =>
        obtain ⟨_, ht, hs⟩ := Checked.map_eq_ok_iff.1 hj
        cases hs
        cases eq_str_of_boundedText ht
        exact hj
      | bool | int | float | arr | obj =>
        obtain ⟨_, ht, -⟩ := Checked.map_eq_ok_iff.1 hj
        cases eq_str_of_boundedText ht

/-! ## Lists -/

/-- The items of a list that was read passed the check. -/
theorem of_collect {items : List Json} {index : Nat} {as : List α}
    (h : Checked.collect check index items = .ok as) : ∀ a ∈ as, ∃ j, check j = .ok a := by
  induction items generalizing index as with
  | nil => cases h; exact fun _ hmem => by cases hmem
  | cons j rest ih =>
    obtain ⟨f, more, hf, hmore, rfl⟩ := Checked.seq_eq_ok_iff.1 h
    obtain ⟨a, ha, rfl⟩ := Checked.map_eq_ok_iff.1 hf
    exact List.forall_mem_cons.2 ⟨⟨j, Checked.within_eq_ok_iff.1 ha⟩, ih hmore⟩

theorem of_list {as : List α} (h : list check j = .ok as) : ∀ a ∈ as, ∃ j, check j = .ok a := by
  cases j with
  | arr items => exact of_collect h
  | null | bool | int | float | str | obj => cases h

/-- **A list is read again** if each of its items is. -/
theorem list_map {write : α → Json} {as : List α} (h : ∀ a ∈ as, check (write a) = .ok a) :
    list check (.arr (as.map write)) = .ok as := by
  have collected : ∀ index, Checked.collect check index (as.map write) = .ok as := by
    induction as with
    | nil => exact fun _ => rfl
    | cons a rest ih =>
      obtain ⟨ha, hrest⟩ := List.forall_mem_cons.1 h
      intro index
      rw [List.map_cons, Checked.collect, ha, ih hrest]
      rfl
  exact collected 0

end Schema

end NetSteward
