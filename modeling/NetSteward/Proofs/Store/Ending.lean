import NetSteward.Proofs.Ending
import NetSteward.Store.Memory
/-!
# How the memory of resources is used

What the accesses to the state table do to the records, and why they can
fail. No access is a call to the service, so none of them shows among the
calls. An access fails only through a fault of the table; writing a
record can fail before that, on attributes that are nested too deep or on
a clock without a date.
-/

namespace NetSteward

open Remote (Exchange)

namespace Store

variable {past : List Exchange} {w : World}
variable {failed : Failure → List Exchange → World → Prop}

/-- An operation on the table does nothing to the records, and fails only
through a fault. -/
theorem ends_attempt {done : Unit → List Exchange → World → Prop} {operation : Operation}
    (succeeds : ∀ v, w.Leads w.store.records v → done () past v)
    (fails : ∀ e v, w.store.faults ≠ [] → w.Leads w.store.records v →
      failed (.store e) past v) :
    (attempt operation).Ends past w done failed := by
  have hl : w.Leads w.store.records { w with store := (w.store.use operation).2 } :=
    ⟨rfl, rfl, rfl⟩
  simp only [Action.Ends, attempt, Outcome.calls, List.filterMap_nil, List.append_nil]
  cases hu : (w.store.use operation).1 with
  | none => exact succeeds _ hl
  | some e =>
    refine fails e _ ?_ hl
    intro hnil
    simp [use, hnil] at hu

@[simp] theorem ends_access {done : Unit → List Exchange → World → Prop} {a : Access} :
    (access a).Ends past w done failed ↔ done () past w := by
  simp [Action.Ends, Outcome.calls, List.filterMap_cons, Event.exchange?]

@[simp] theorem ends_modify {done : Unit → List Exchange → World → Prop} {f : Store → Store} :
    (modify f).Ends past w done failed ↔ done () past { w with store := f w.store } := by
  simp [Action.Ends, Outcome.calls]

/-! ## The connection -/

/-- Creating the table leaves the records alone. It fails because the
table is there, or through a fault. -/
theorem ends_createTable {done : Unit → List Exchange → World → Prop} {name : Json}
    (created : ∀ v, w.Leads w.store.records v → done () past v)
    (refused : ∀ e v, e.code = inUseCode ∨ w.store.faults ≠ [] → w.Leads w.store.records v →
      failed (.store e) past v) :
    (createTable name).Ends past w done failed := by
  unfold createTable
  simp only [Action.ends_bind, ends_access, Action.ends_world]
  refine ends_attempt (fun v hv => ?_) fun e v hf hv => refused e v (.inr hf) hv
  split
  · exact Action.ends_fail.2 (refused _ v (.inl rfl) hv)
  · simp only [Action.ends_bind, ends_modify, ends_access]
    have hl : w.Leads w.store.records { v with store := { v.store with created := true } } :=
      ⟨hv.records_eq, hv.faults_eq, hv.clock_eq⟩
    refine ends_attempt (fun u hu => created u (hl.still hu)) fun e u hf hu => ?_
    exact refused e u (.inr (hv.faults_eq ▸ hf)) (hl.still hu)

/-- **A connection leaves the records alone**, and fails only through a
fault. -/
theorem ends_connect {done : Unit → List Exchange → World → Prop}
    (connected : ∀ v, w.Leads w.store.records v → done () past v)
    (fails : ∀ e v, w.store.faults ≠ [] → w.Leads w.store.records v →
      failed (.store e) past v) :
    connect.Ends past w done failed := by
  unfold connect openConnection
  simp only [Action.ends_bind, Action.ends_world]
  split
  · exact Action.ends_pure.2 (connected w (.refl w))
  · simp only [Action.ends_bind, Action.ends_world, ends_access, Action.ends_recover, ends_modify]
    have opened : ∀ v, w.Leads w.store.records v →
        done () past { v with store := { v.store with connected := true } } :=
      fun v hv => connected _ ⟨hv.records_eq, hv.faults_eq, hv.clock_eq⟩
    refine ends_createTable opened fun e v he hv => ?_
    by_cases hc : e.code = inUseCode
    · simpa only [if_pos hc, ends_access] using opened v hv
    · simpa only [if_neg hc] using fails e v (he.resolve_left hc) hv

/-! ## Records -/

/-- The record under a key is read without a change to the records. -/
theorem ends_get {done : Option (Keyed Json) → List Exchange → World → Prop} {key : String}
    (found : ∀ v, w.Leads w.store.records v → done (w.store.records.get? key) past v)
    (fails : ∀ e v, w.store.faults ≠ [] → w.Leads w.store.records v →
      failed (.store e) past v) :
    (get key).Ends past w done failed := by
  unfold get
  simp only [Action.ends_bind, ends_access, Action.ends_world, Action.ends_pure]
  refine ends_connect (fun v hv => ?_) fails
  refine ends_attempt (fun u hu => ?_) fun e u hf hu => ?_
  · have hl := hv.still hu
    exact hl.records_eq ▸ found u hl
  · exact fails e u (hv.faults_eq ▸ hf) (hv.still hu)

/-- **A record is saved under its key or not at all.** -/
theorem ends_save {done : Unit → List Exchange → World → Prop} {record : Keyed Json}
    {key : String} (hkey : recordKeyOf record = .ok key)
    (saved : ∀ v, w.Leads (w.store.records.insert key record) v → done () past v)
    (fails : ∀ e v, w.store.faults ≠ [] → w.Leads w.store.records v →
      failed (.store e) past v) :
    (save record).Ends past w done failed := by
  unfold save
  simp only [Action.ends_bind, ends_access, Action.ofShape, hkey, shaped_ok, Action.ofRead_ok,
    Action.ends_pure, ends_modify]
  refine ends_connect (fun v hv => ?_) fails
  refine ends_attempt (fun u hu => ?_) fun e u hf hu => ?_
  · have hl := hv.still hu
    exact saved _ ⟨by rw [hl.records_eq], hl.faults_eq, hl.clock_eq⟩
  · exact fails e u (hv.faults_eq ▸ hf) (hv.still hu)

/-- **A record is deleted or stays.** -/
theorem ends_delete {done : Bool → List Exchange → World → Prop} {key : String}
    (deleted : ∀ v, w.Leads (w.store.records.erase key) v →
      done (w.store.records.get? key).isSome past v)
    (fails : ∀ e v, w.store.faults ≠ [] → w.Leads w.store.records v →
      failed (.store e) past v) :
    (delete key).Ends past w done failed := by
  unfold delete
  simp only [Action.ends_bind, ends_access, Action.ends_world, ends_modify, Action.ends_pure]
  refine ends_connect (fun v hv => ?_) fails
  refine ends_attempt (fun u hu => ?_) fun e u hf hu => ?_
  · have hl := hv.still hu
    rw [hl.records_eq]
    exact deleted _ ⟨rfl, hl.faults_eq, hl.clock_eq⟩
  · exact fails e u (hv.faults_eq ▸ hf) (hv.still hu)

/-! ## Scans -/

/-- A record of a kind that stands under some key. -/
def Found (kind : Json) (records : Keyed (Keyed Json)) (record : Keyed Json) : Prop :=
  isOfKind kind record = true ∧ ∃ key, (key, record) ∈ records

theorem mem_of_mem_recordsAfter {records : Keyed (Keyed Json)} {after : Option String}
    {e : String × Keyed Json} (h : e ∈ recordsAfter records after) : e ∈ records := by
  cases after with
  | none => exact h
  | some key => exact (List.dropWhile_sublist _).subset (List.mem_of_mem_drop h)

theorem found_of_mem_pageOf {size : Nat} {kind : Json} {records : Keyed (Keyed Json)}
    {record : Keyed Json} (h : record ∈ (pageOf size kind records).found) :
    Found kind records record := by
  obtain ⟨hmem, hkind⟩ := List.mem_filter.1 h
  obtain ⟨⟨key, r⟩, he, rfl⟩ := List.mem_map.1 hmem
  exact ⟨hkind, key, List.mem_of_mem_take he⟩

theorem ends_scanAll {done : List (Keyed Json) → List Exchange → World → Prop} {kind : Json}
    {after : Option String} {bound : Nat}
    (found : ∀ rs v, (∀ r ∈ rs, Found kind w.store.records r) → w.Leads w.store.records v →
      done rs past v)
    (fails : ∀ e v, w.store.faults ≠ [] → w.Leads w.store.records v →
      failed (.store e) past v) :
    (scanAll kind bound after).Ends past w done failed := by
  induction bound generalizing w after done with
  | zero => exact Action.ends_pure.2 (found [] w (List.forall_mem_nil _) (.refl w))
  | succ bound ih =>
    simp only [scanAll, scan, Action.ends_bind, ends_access, Action.ends_world, Action.ends_pure]
    refine ends_attempt (fun v hv => ?_) fails
    have page : ∀ r ∈ (pageOf (max 1 v.store.scanSize) kind
        (recordsAfter v.store.records after)).found, Found kind w.store.records r := by
      intro r hr
      obtain ⟨hkind, key, hmem⟩ := found_of_mem_pageOf hr
      exact ⟨hkind, key, hv.records_eq ▸ mem_of_mem_recordsAfter hmem⟩
    split
    · exact Action.ends_pure.2 (found _ v page hv)
    · refine Action.ends_bind.2 (ih (fun rs u hrs hu => ?_) fun e u hf hu => ?_)
      · refine Action.ends_pure.2 (found _ u ?_ (hv.still hu))
        rw [hv.records_eq] at hrs
        exact List.forall_mem_append.2 ⟨page, hrs⟩
      · exact fails e u (hv.faults_eq ▸ hf) (hv.still hu)

/-- **A listing finds only what is there**, and changes nothing. -/
theorem ends_listAll {done : List (Keyed Json) → List Exchange → World → Prop} {kind : Json}
    (hkind : kind.isGiven = true)
    (found : ∀ rs v, (∀ r ∈ rs, Found kind w.store.records r) → w.Leads w.store.records v →
      done rs past v)
    (fails : ∀ e v, w.store.faults ≠ [] → w.Leads w.store.records v →
      failed (.store e) past v) :
    (listAll kind).Ends past w done failed := by
  unfold listAll
  simp only [Action.ends_bind, Action.ends_world, if_pos hkind]
  refine ends_connect (fun v hv => ends_scanAll (fun rs u hrs hu => ?_) fun e u hf hu => ?_) fails
  · exact found rs u (hv.records_eq ▸ hrs) (hv.still hu)
  · exact fails e u (hv.faults_eq ▸ hf) (hv.still hu)

end Store

namespace Memory

variable {past : List Exchange} {w : World} {kind : ResourceKind} {id : Json}
variable {failed : Failure → List Exchange → World → Prop}

/-- Why the record of a resource cannot be written. -/
inductive Unwritten (w : World) (attributes : Json) : Failure → Prop
  /-- The attributes are nested too deep. -/
  | tooDeep (h : 1 + Json.nestingLimit < attributes.depth) :
      Unwritten w attributes (.unreadable (.shape .malformed))
  /-- The clock has no date. -/
  | untimed {m : Mismatch} (h : w.clock.read = .error m) :
      Unwritten w attributes (.unreadable (.shape m))
  /-- The table has a fault. -/
  | faulty {e : Store.TableError} (h : w.store.faults ≠ []) : Unwritten w attributes (.store e)

/-- What keeps a record from being written now kept it from being written
before. -/
theorem Unwritten.before {records : Keyed (Keyed Json)} {v : World} {attributes : Json}
    {f : Failure} (h : Unwritten v attributes f) (hv : w.Leads records v) :
    Unwritten w attributes f := by
  cases h with
  | tooDeep h => exact .tooDeep h
  | untimed h => exact .untimed (hv.clock_eq ▸ h)
  | faulty h => exact .faulty (hv.faults_eq ▸ h)

theorem Unwritten.isGone_eq {attributes : Json} {f : Failure} (h : Unwritten w attributes f) :
    f.isGone = false := by
  cases h <;> rfl

theorem Unwritten.isViolation_eq {attributes : Json} {f : Failure} (h : Unwritten w attributes f) :
    f.isViolation = false := by
  cases h <;> rfl

theorem recordKeyOf_record {attributes : Json} {written : Time.Instant} :
    Store.recordKeyOf (record kind id attributes written) = .ok (kind.key id.plain) := rfl

/-- **A resource is remembered as it is, or not at all.** -/
theorem ends_remember {done : Unit → List Exchange → World → Prop} {attributes : Json}
    (remembered : ∀ written v,
      w.Leads (w.store.records.insert (kind.key id.plain) (record kind id attributes written)) v →
      done () past v)
    (fails : ∀ f v, Unwritten w attributes f → w.Leads w.store.records v → failed f past v) :
    (remember kind id attributes).Ends past w done failed := by
  unfold remember
  simp only [Action.ends_bind, Action.ends_world]
  by_cases hdepth : attributes.depth ≤ 1 + Json.nestingLimit
  · have hw : attributes.writable 1 = .ok attributes := if_pos hdepth
    simp only [Action.ofShape, hw, shaped_ok, Action.ofRead_ok, Action.ends_pure]
    cases ht : w.clock.read with
    | ok now =>
      simp only [shaped_ok, Action.ofRead_ok, Action.ends_pure]
      exact Store.ends_save recordKeyOf_record (remembered now)
        fun e v hf hv => fails _ v (.faulty hf) hv
    | error m => exact Action.ends_fail.2 (fails _ w (.untimed ht) (.refl w))
  · have hw : attributes.writable 1 = .error .malformed := if_neg hdepth
    simp only [Action.ofShape, hw]
    exact Action.ends_fail.2 (fails _ w (.tooDeep (by omega)) (.refl w))

/-- Why the record of a resource cannot be read. -/
inductive Unread {α : Type} (check : Json → Checked α) (w : World) (key : String) : Failure → Prop
  /-- It does not pass the checks. -/
  | unfit {record : Keyed Json} {cause : Unreadable} (h : w.store.records.get? key = some record)
      (hc : ofRecord check record = .error cause) : Unread check w key (.unreadable cause)
  /-- The table has a fault. -/
  | faulty {e : Store.TableError} (h : w.store.faults ≠ []) : Unread check w key (.store e)

theorem Unread.isViolation_eq {α : Type} {check : Json → Checked α} {key : String} {f : Failure}
    (h : Unread check w key f) : f.isViolation = false := by
  cases h <;> rfl

/-- **A resource is retrieved as its record says**, and nothing
changes. -/
theorem ends_retrieve {α : Type} {check : Json → Checked α}
    {done : Option α → List Exchange → World → Prop}
    (absent : ∀ v, w.store.records.get? (kind.key id.plain) = none →
      w.Leads w.store.records v → done none past v)
    (present : ∀ record a v, w.store.records.get? (kind.key id.plain) = some record →
      ofRecord check record = .ok a → w.Leads w.store.records v → done (some a) past v)
    (fails : ∀ f v, Unread check w (kind.key id.plain) f → w.Leads w.store.records v →
      failed f past v) :
    (retrieve kind id check).Ends past w done failed := by
  unfold retrieve
  rw [Action.ends_bind]
  refine Store.ends_get (fun v hv => ?_) fun e v hf hv => fails _ v (.faulty hf) hv
  cases hr : w.store.records.get? (kind.key id.plain) with
  | none => exact Action.ends_pure.2 (absent v hr hv)
  | some record =>
    rw [Action.ends_map]
    exact Action.ends_ofRead (fun a ha => present record a v hr ha hv)
      fun cause hc => fails _ v (.unfit hr hc) hv

/-- **A resource is forgotten or stays.** -/
theorem ends_forget {done : Bool → List Exchange → World → Prop}
    (forgotten : ∀ v, w.Leads (w.store.records.erase (kind.key id.plain)) v →
      done (w.store.records.get? (kind.key id.plain)).isSome past v)
    (fails : ∀ e v, w.store.faults ≠ [] → w.Leads w.store.records v →
      failed (.store e) past v) :
    (forget kind id).Ends past w done failed :=
  Store.ends_delete forgotten fails

/-- Why the resources of a kind cannot be read. -/
inductive Unlisted {α : Type} (check : Json → Checked α) (w : World) (kind : ResourceKind) :
    Failure → Prop
  /-- One of them does not pass the checks. -/
  | unfit {record : Keyed Json} {cause : Unreadable}
      (h : Store.Found (.str kind.name) w.store.records record)
      (hc : ofRecord check record = .error cause) : Unlisted check w kind (.unreadable cause)
  /-- The table has a fault. -/
  | faulty {e : Store.TableError} (h : w.store.faults ≠ []) : Unlisted check w kind (.store e)

/-- A list of records cannot be read because one of them cannot. -/
theorem exists_of_ofRecords_eq_error {α : Type} {check : Json → Checked α}
    {rs : List (Keyed Json)} {cause : Unreadable} (h : ofRecords check rs = .error cause) :
    ∃ r ∈ rs, ofRecord check r = .error cause := by
  induction rs with
  | nil => cases h
  | cons r rest ih =>
    rw [ofRecords] at h
    cases hr : ofRecord check r with
    | error c =>
      rw [hr] at h
      cases h
      exact ⟨r, List.mem_cons_self, hr⟩
    | ok a =>
      rw [hr] at h
      cases hrest : ofRecords check rest with
      | error c =>
        rw [hrest] at h
        cases h
        obtain ⟨s, hs, hc⟩ := ih hrest
        exact ⟨s, List.mem_cons_of_mem _ hs, hc⟩
      | ok more =>
        rw [hrest] at h
        cases h

/-- **The resources of a kind are retrieved as their records say**, and
nothing changes. -/
theorem ends_retrieveAll {α : Type} {check : Json → Checked α}
    {done : List α → List Exchange → World → Prop}
    (retrieved : ∀ as v, w.Leads w.store.records v → done as past v)
    (fails : ∀ f v, Unlisted check w kind f → w.Leads w.store.records v → failed f past v) :
    (retrieveAll kind check).Ends past w done failed := by
  have hkind : (Json.str kind.name).isGiven = true := by cases kind <;> rfl
  unfold retrieveAll
  refine Action.ends_bind.2 (Store.ends_listAll hkind (fun rs v hrs hv => ?_)
    fun e v hf hv => fails _ v (.faulty hf) hv)
  refine Action.ends_ofRead (fun as _ => retrieved as v hv) fun cause hc => ?_
  obtain ⟨r, hr, hc⟩ := exists_of_ofRecords_eq_error hc
  exact fails _ v (.unfit (hrs r hr) hc) hv

end Memory

end NetSteward
