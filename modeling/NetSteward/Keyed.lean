/-!
# Keyed lists in insertion order

A keyed list holds values under keys and remembers the order in which
the keys arrived. The members of a JSON object and the records of the
state table are both keyed lists: replacing a value keeps its position,
removing a key and adding it again moves it to the end. The view of a
keyed list is `get?`, and each operation is described by what it does to
that view.
-/

namespace NetSteward

/-- Values under keys, in the order in which the keys arrived. -/
abbrev Keyed (α : Type) : Type := List (String × α)

namespace Keyed

variable {α : Type}

/-- The value under a key, if the key is present. -/
def get? : Keyed α → String → Option α
  | [], _ => none
  | (k, v) :: rest, key => if k = key then some v else get? rest key

/-- The keys, in order. -/
def keys (xs : Keyed α) : List String := xs.map (·.1)

/-- Puts a value under a key: in place if the key is present, else at
the end. -/
def insert : Keyed α → String → α → Keyed α
  | [], key, v => [(key, v)]
  | (k, x) :: rest, key, v => if k = key then (k, v) :: rest else (k, x) :: insert rest key v

/-- Removes a key and its value. -/
def erase : Keyed α → String → Keyed α
  | [], _ => []
  | (k, v) :: rest, key => if k = key then erase rest key else (k, v) :: erase rest key

/-- The keyed list that arises from adding pairs one after another. -/
def ofPairs (pairs : List (String × α)) : Keyed α :=
  pairs.foldl (fun xs e => insert xs e.1 e.2) []

/-! ## What each operation does to the view -/

@[simp] theorem get?_nil (key : String) : get? ([] : Keyed α) key = none := rfl

@[simp] theorem get?_cons (k : String) (v : α) (rest : Keyed α) (key : String) :
    get? ((k, v) :: rest) key = if k = key then some v else get? rest key := rfl

/-- **A write is read back, and other keys are untouched.** -/
theorem get?_insert (xs : Keyed α) (k : String) (v : α) (key : String) :
    get? (insert xs k v) key = if k = key then some v else get? xs key := by
  induction xs with
  | nil => rfl
  | cons e rest ih =>
    obtain ⟨k', x⟩ := e
    by_cases hk : k' = k
    · subst hk
      by_cases h : k' = key <;> simp [insert, h]
    · rw [insert, if_neg hk, get?_cons, get?_cons, ih]
      by_cases h : k' = key
      · rw [if_pos h, if_neg (fun e => hk (h.trans e.symm)), if_pos h]
      · rw [if_neg h, if_neg h]

/-- **An erased key is absent, and other keys are untouched.** -/
theorem get?_erase (xs : Keyed α) (k key : String) :
    get? (erase xs k) key = if k = key then none else get? xs key := by
  induction xs with
  | nil => simp [erase]
  | cons e rest ih =>
    obtain ⟨k', x⟩ := e
    by_cases hk : k' = k
    · subst hk
      rw [erase, if_pos rfl, ih, get?_cons]
      by_cases h : k' = key <;> simp [h]
    · rw [erase, if_neg hk, get?_cons, get?_cons, ih]
      by_cases h : k' = key
      · rw [if_pos h, if_neg (fun e => hk (h.trans e.symm)), if_pos h]
      · rw [if_neg h, if_neg h]

/-- A write adds its key at the end, or nowhere if it is there. -/
theorem keys_insert (xs : Keyed α) (k : String) (v : α) :
    keys (insert xs k v) = if k ∈ keys xs then keys xs else keys xs ++ [k] := by
  induction xs with
  | nil => rfl
  | cons e rest ih =>
    obtain ⟨k', x⟩ := e
    by_cases hk : k' = k
    · subst hk; simp [insert, keys]
    · have hk' : ¬ k = k' := fun e => hk e.symm
      simp only [keys] at ih
      by_cases hm : k ∈ rest.map (·.1) <;> simp_all [insert, keys]

/-- An erasure takes its key away and leaves the others in order. -/
theorem keys_erase (xs : Keyed α) (k : String) : keys (erase xs k) = (keys xs).filter (· != k) := by
  induction xs with
  | nil => rfl
  | cons e rest ih =>
    obtain ⟨k', x⟩ := e
    simp only [keys] at ih
    by_cases hk : k' = k <;> simp [erase, keys, hk, ih]

@[simp] theorem mem_keys_insert {xs : Keyed α} {k key : String} {v : α} :
    key ∈ keys (insert xs k v) ↔ key = k ∨ key ∈ keys xs := by
  rw [keys_insert]
  split
  next hk => exact ⟨.inr, fun h => h.elim (fun heq => heq ▸ hk) id⟩
  next => rw [List.mem_append, List.mem_singleton, or_comm]

@[simp] theorem mem_keys_erase {xs : Keyed α} {k key : String} :
    key ∈ keys (erase xs k) ↔ key ∈ keys xs ∧ key ≠ k := by
  rw [keys_erase, List.mem_filter, bne_iff_ne]

/-- **Unique keys stay unique** when a value is written. -/
theorem nodup_keys_insert {xs : Keyed α} (h : (keys xs).Nodup) (k : String) (v : α) :
    (keys (insert xs k v)).Nodup := by
  rw [keys_insert]
  split
  next => exact h
  next hk => exact List.nodup_append.2 ⟨h, by simp, fun a ha b hb => by
    rw [List.mem_singleton.1 hb]
    exact fun heq => hk (heq ▸ ha)⟩

/-- Unique keys stay unique when one is erased. -/
theorem nodup_keys_erase {xs : Keyed α} (h : (keys xs).Nodup) (k : String) :
    (keys (erase xs k)).Nodup := by
  rw [keys_erase]
  exact h.filter _

/-- A key is present exactly when the view holds a value under it. -/
theorem mem_keys_iff (xs : Keyed α) (key : String) :
    key ∈ keys xs ↔ (get? xs key).isSome := by
  induction xs with
  | nil => simp [keys]
  | cons e rest ih =>
    obtain ⟨k, x⟩ := e
    by_cases h : k = key
    · simp [keys, h]
    · have h' : ¬ key = k := fun e => h e.symm
      simp only [keys] at ih
      simp [keys, h, h', ih]

end Keyed

end NetSteward
