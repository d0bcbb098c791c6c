import NetSteward.Proofs.Store.Ending
/-!
# What comes to stand in the records

Records are written by `Memory.remember` alone, each under the key of its
resource. So if every write is admitted by some rule, then every record
that is found later was. An action keeps a property of the records if it
leaves the property true whenever it found it true, however it ends; the
rules here lead from the accesses to the table to whole operations.
-/

namespace NetSteward

/-! ## Membership -/

namespace Keyed

variable {α : Type} {xs : Keyed α} {e : String × α} {key : String} {a : α}

theorem eq_or_mem_of_mem_insert (h : e ∈ xs.insert key a) : e = (key, a) ∨ e ∈ xs := by
  induction xs with
  | nil => exact .inl (List.mem_singleton.1 h)
  | cons first rest ih =>
    obtain ⟨k, x⟩ := first
    rw [insert] at h
    split at h
    next hk =>
      rcases List.mem_cons.1 h with rfl | h
      · exact .inl (by rw [hk])
      · exact .inr (List.mem_cons_of_mem _ h)
    next =>
      rcases List.mem_cons.1 h with rfl | h
      · exact .inr List.mem_cons_self
      · exact (ih h).imp_right (List.mem_cons_of_mem _)

theorem mem_of_mem_erase (h : e ∈ xs.erase key) : e ∈ xs := by
  induction xs with
  | nil => exact h
  | cons first rest ih =>
    obtain ⟨k, x⟩ := first
    rw [erase] at h
    split at h
    · exact List.mem_cons_of_mem _ (ih h)
    · rcases List.mem_cons.1 h with rfl | h
      · exact List.mem_cons_self
      · exact List.mem_cons_of_mem _ (ih h)

theorem mem_of_get? (h : xs.get? key = some a) : (key, a) ∈ xs := by
  induction xs with
  | nil => cases h
  | cons first rest ih =>
    obtain ⟨k, x⟩ := first
    rw [get?_cons] at h
    split at h
    next hk =>
      cases h
      exact hk ▸ List.mem_cons_self
    next => exact List.mem_cons_of_mem _ (ih h)

end Keyed

/-! ## Keys -/

/-- **Keys of one kind differ** where the identifiers do. -/
@[simp] theorem ResourceKind.key_inj {kind : ResourceKind} {a b : String} :
    kind.key a = kind.key b ↔ a = b := by
  unfold key recordKey
  refine ⟨fun h => ?_, fun h => by rw [h]⟩
  rw [String.append_assoc, String.append_assoc] at h
  exact String.append_right_inj _ |>.1 (String.append_right_inj _ |>.1 h)

/-- A key shows its kind before the first slash. -/
theorem ResourceKind.takeWhile_key (kind : ResourceKind) (id : String) :
    (kind.key id).toList.takeWhile (· != '/') = kind.name.toList := by
  cases kind <;> simp [key, recordKey, name]

theorem ResourceKind.kind_eq_of_key_eq {kind other : ResourceKind} {a b : String}
    (h : kind.key a = other.key b) : kind = other := by
  have hnames : kind.name.toList = other.name.toList := by
    rw [← takeWhile_key kind a, ← takeWhile_key other b, h]
  exact name_injective (String.toList_inj.1 hnames)

/-! ## Admitted records -/

/-- **Every record was admitted**: each is the record of a resource that
the rule admits, and stands under its key. -/
def Admitted (admits : ResourceKind → Json → Json → Prop) (records : Keyed (Keyed Json)) : Prop :=
  ∀ e ∈ records, ∃ kind id attributes written,
    e = (kind.key id.plain, Memory.record kind id attributes written) ∧ admits kind id attributes

namespace Admitted

variable {admits : ResourceKind → Json → Json → Prop} {records : Keyed (Keyed Json)}
variable {kind : ResourceKind} {id attributes : Json} {written : Time.Instant}

theorem nil : Admitted admits [] := fun e he => by cases he

theorem insert (h : Admitted admits records) (ha : admits kind id attributes) :
    Admitted admits
      (records.insert (kind.key id.plain) (Memory.record kind id attributes written)) := by
  intro e he
  rcases Keyed.eq_or_mem_of_mem_insert he with rfl | he
  · exact ⟨kind, id, attributes, written, rfl, ha⟩
  · exact h e he

theorem erase {key : String} (h : Admitted admits records) : Admitted admits (records.erase key) :=
  fun e he => h e (Keyed.mem_of_mem_erase he)

/-- The record that is found under a key is one of the kind that the key
is for. -/
theorem of_get? {key : String} {record : Keyed Json} (h : Admitted admits records)
    (hr : records.get? (kind.key key) = some record) :
    ∃ id attributes written, id.plain = key ∧
      record = Memory.record kind id attributes written ∧ admits kind id attributes := by
  obtain ⟨other, id, attributes, written, heq, ha⟩ := h _ (Keyed.mem_of_get? hr)
  obtain ⟨hkey, rfl⟩ := Prod.mk.inj heq
  cases ResourceKind.kind_eq_of_key_eq hkey
  exact ⟨id, attributes, written, (ResourceKind.key_inj.1 hkey).symm, rfl, ha⟩

end Admitted

/-! ## Actions that keep a property of the records -/

namespace Action

variable {α β : Type} {inv : Keyed (Keyed Json) → Prop} {post : α → Prop} {later : β → Prop}
variable {w : World}

/-- An action that keeps a property of the records, and whose value has
another. -/
def Keeps (inv : Keyed (Keyed Json) → Prop) (post : α → Prop) (x : Action α) : Prop :=
  ∀ w, inv w.store.records →
    inv (x w).world.store.records ∧ ∀ a, (x w).result = .ok a → post a

namespace Keeps

theorem of_ends {x : Action α}
    (h : ∀ w, inv w.store.records → x.Ends [] w (fun a _ v => inv v.store.records ∧ post a)
      fun _ _ v => inv v.store.records) : x.Keeps inv post := by
  intro w hw
  have he := h w hw
  unfold Ends at he
  split at he
  next a hr => exact ⟨he.1, fun b hb => by cases hr.symm.trans hb; exact he.2⟩
  next f hr => exact ⟨he, fun b hb => by cases hr.symm.trans hb⟩

theorem pure {a : α} (h : post a) : (Pure.pure a : Action α).Keeps inv post :=
  fun w hw => ⟨hw, fun b hb => by cases hb; exact h⟩

theorem fail {f : Failure} : (Action.fail f : Action α).Keeps inv post :=
  fun w hw => ⟨hw, fun b hb => by cases hb⟩

theorem bind {x : Action α} {f : α → Action β} (hx : x.Keeps inv post)
    (hf : ∀ a, post a → (f a).Keeps inv later) : (x >>= f).Keeps inv later := by
  intro w hw
  obtain ⟨hv, hpost⟩ := hx w hw
  rw [bind_apply]
  rcases hxw : x w with ⟨e | a, events, v⟩
  · rw [hxw] at hv
    exact ⟨hv, fun b hb => by cases hb⟩
  · rw [hxw] at hv hpost
    exact hf a (hpost a rfl) v hv

theorem map {x : Action α} {f : α → β} (hx : x.Keeps inv post) (hf : ∀ a, post a → later (f a)) :
    (f <$> x).Keeps inv later := by
  rw [← bind_pure_comp]
  exact hx.bind fun a ha => .pure (hf a ha)

theorem recover {x : Action α} {handler : Failure → Option (Action α)} (hx : x.Keeps inv post)
    (hh : ∀ f y, handler f = some y → y.Keeps inv post) : (x.recover handler).Keeps inv post := by
  intro w hw
  obtain ⟨hv, hpost⟩ := hx w hw
  unfold Action.recover
  rcases hxw : x w with ⟨f | a, events, v⟩
  · rw [hxw] at hv
    cases hf : handler f with
    | none => simp only [hf]; exact ⟨hv, fun b hb => by cases hb⟩
    | some y => simp only [hf]; exact hh f y hf v hv
  · rw [hxw] at hv hpost
    exact ⟨hv, hpost⟩

theorem ifMissing {x y : Action α} (hx : x.Keeps inv post) (hy : y.Keeps inv post) :
    (x.ifMissing y).Keeps inv post := by
  refine hx.recover fun f z hz => ?_
  split at hz
  · split at hz
    · cases hz; exact hy
    · cases hz
  · cases hz

theorem ofRead {r : Read α} (h : ∀ a, r = .ok a → post a) : (Action.ofRead r).Keeps inv post := by
  cases r with
  | ok a => exact .pure (h a rfl)
  | error cause => exact .fail

end Keeps

end Action

open NetSteward.Action (Keeps)

variable {inv : Keyed (Keyed Json) → Prop} {kind : ResourceKind} {id : Json} {α : Type}

/-- Nothing is asked of a value. -/
abbrev Any (_ : α) : Prop := True

theorem Remote.keeps_sendFor {purpose : String} {call : Remote.Call} :
    (Remote.sendFor purpose call).Keeps inv Any :=
  .of_ends fun _ hw => Remote.ends_sendFor (fun _ _ hv => ⟨hv.records_eq ▸ hw, trivial⟩)
    (fun _ _ hv => hv.records_eq ▸ hw) fun _ _ hv => hv.records_eq ▸ hw

theorem Remote.keeps_send {call : Remote.Call} : (Remote.send call).Keeps inv Any :=
  keeps_sendFor

/-- A call for which it does no harm that there is nothing left. -/
theorem Remote.keeps_settled {purpose : String} {call : Remote.Call} :
    ((do let _ ← Remote.sendFor purpose call).ifMissing (pure ())).Keeps inv Any := by
  have sent : (do let _ ← Remote.sendFor purpose call).Keeps inv Any :=
    keeps_sendFor.bind fun _ _ => .pure trivial
  exact sent.ifMissing (.pure trivial)

theorem Remote.keeps_listAll {collection : Remote.Collection} :
    (Remote.listAll collection).Keeps inv Any :=
  .of_ends fun _ hw => Remote.ends_listAll (fun _ _ _ _ _ hv => ⟨hv.records_eq ▸ hw, trivial⟩)
    fun _ _ _ _ _ hv => hv.records_eq ▸ hw

namespace Memory

theorem keeps_forget
    (h : ∀ records, inv records → inv (records.erase (kind.key id.plain))) :
    (forget kind id).Keeps inv Any :=
  .of_ends fun _ hw => ends_forget (fun _ hv => ⟨hv.records_eq ▸ h _ hw, trivial⟩)
    fun _ _ _ hv => hv.records_eq ▸ hw

theorem keeps_retrieve {check : Json → Checked α} : (retrieve kind id check).Keeps inv Any :=
  .of_ends fun _ hw => ends_retrieve (fun _ _ hv => ⟨hv.records_eq ▸ hw, trivial⟩)
    (fun _ _ _ _ _ hv => ⟨hv.records_eq ▸ hw, trivial⟩) fun _ _ _ hv => hv.records_eq ▸ hw

theorem keeps_retrieveAll {check : Json → Checked α} : (retrieveAll kind check).Keeps inv Any :=
  .of_ends fun _ hw => ends_retrieveAll (fun _ _ hv => ⟨hv.records_eq ▸ hw, trivial⟩)
    fun _ _ _ hv => hv.records_eq ▸ hw

end Memory

end NetSteward
