import NetSteward.Proofs.Dns.Patches
import NetSteward.Proofs.Renewal
/-!
# Constraints are reported first

Only what is asked of a DNS configuration can violate a constraint, and this
is found out before anything is done. So an action that fails with a violation
has made no call, has not touched the state table and has left the world as it
was. Here this is stated for everything that callers can ask for: of all but
two actions because they never report a violation.
-/

namespace NetSteward

open Remote (Asked Call Exchange)

variable {α : Type} {calls : List Exchange} {w x : World}

/-- **An action that reports a violated constraint before it does
anything**, if at all. -/
def Action.ObjectsFirst (y : Action α) : Prop :=
  ∀ w f, (y w).result = .error f → f.isViolation = true → (y w).events = [] ∧ (y w).world = w

/-- Which holds if it never reports one. -/
theorem Action.objectsFirst_of_never {y : Action α}
    (h : ∀ w f, (y w).result = .error f → f.isViolation = false) : y.ObjectsFirst := by
  intro w f hf hviolation
  rw [h w f hf] at hviolation
  cases hviolation

/-- Which can be read off the ways in which it ends. -/
theorem Action.objectsFirst_of_outcome {y : Action α}
    (ending : World → Except Failure α → List Exchange → World → Prop)
    (h : ∀ w, ending w (y w).result (y w).calls (y w).world)
    (hf : ∀ {w f calls x}, ending w (.error f) calls x → f.isViolation = false) :
    y.ObjectsFirst := by
  refine objectsFirst_of_never fun w f hresult => ?_
  have hw := h w
  rw [hresult] at hw
  exact hf hw

theorem Action.objectsFirst_of_ends {y : Action α}
    (h : ∀ w, y.Ends [] w (fun _ _ _ => True) fun f _ _ => f.isViolation = false) :
    y.ObjectsFirst := by
  refine objectsFirst_of_never fun w f hf => ?_
  have hw := h w
  rw [Ends, hf] at hw
  exact hw

/-! ## Records -/

theorem Remote.Asked.isViolation_eq {call : Call} {read : Json → Read α} {f : Failure}
    (h : Asked call read (.error f) calls) : f.isViolation = false := by
  cases h <;> rfl

theorem Recording.Renewed.isViolation_eq {r : Recording α} {call : Call} {read : Json → Read α}
    {f : Failure} (h : r.Renewed call read w (.error f) calls x) : f.isViolation = false := by
  cases h with
  | untold h => exact h.isViolation_eq
  | unwritten _ hf => exact hf.isViolation_eq

theorem Recording.Reread.isViolation_eq {r : Recording α} {q : Recording.Query α} {f : Failure}
    (h : r.Reread q w (.error f) calls x) : f.isViolation = false := by
  cases h with
  | unmanaged | missing | undropped => rfl
  | unread hf => exact hf.isViolation_eq
  | renewed _ _ h => exact h.isViolation_eq

theorem Discarded.isViolation_eq {kind : ResourceKind} {id : Json}
    {deletion : Except Failure Unit → List Exchange → Prop} {f : Failure}
    (h : Discarded kind id deletion w (.error f) calls x)
    (hdeletion : ∀ f, deletion (.error f) calls → f.isViolation = false) :
    f.isViolation = false := by
  cases h with
  | undeleted h => exact hdeletion f h
  | undropped => rfl

theorem Remote.ask_objectsFirst (call : Call) (read : Json → Read α) :
    (ask call read).ObjectsFirst :=
  Action.objectsFirst_of_outcome (fun _ result calls _ => Asked call read result calls)
    (fun w => (ask_still call read w).1) fun h => h.isViolation_eq

/-- A listing whose items are read. -/
theorem Remote.listing_objectsFirst (collection : Remote.Collection)
    (read : List Json → Read α) :
    (do
      let answers ← Remote.listAll collection
      Action.ofRead (read answers)).ObjectsFirst := by
  refine Action.objectsFirst_of_ends fun w => Action.ends_bind.2 (Remote.ends_listAll
    (fun items calls v _ _ _ => ?_) fun f calls v hf _ _ => Failure.isViolation_of_isOfExchange hf)
  exact Action.ends_ofRead (fun _ _ => trivial) fun _ _ => rfl

/-! ## Bindings -/

namespace Binding

variable (vpcId bindingId : Json)

theorem create_objectsFirst (q : Request) : (create vpcId q).ObjectsFirst :=
  Action.objectsFirst_of_outcome (Recording.Renewed _ _ _) (created vpcId q)
    fun h => h.isViolation_eq

theorem rename_objectsFirst (q : Renaming) : (rename vpcId bindingId q).ObjectsFirst :=
  Action.objectsFirst_of_outcome (Recording.Renewed _ _ _) (renamed vpcId bindingId q)
    fun h => h.isViolation_eq

theorem read_objectsFirst : (read vpcId bindingId).ObjectsFirst :=
  Action.objectsFirst_of_outcome (Recording.Reread _ _) (readBack vpcId bindingId)
    fun h => h.isViolation_eq

theorem delete_objectsFirst : (delete vpcId bindingId).ObjectsFirst :=
  Action.objectsFirst_of_outcome (Discarded _ _ _) (deleted vpcId bindingId)
    fun h => h.isViolation_eq fun _ hs => Failure.isViolation_of_isOfExchange hs.isOfExchange_eq

theorem fetch_objectsFirst : (fetch vpcId bindingId).ObjectsFirst :=
  Remote.ask_objectsFirst (.getBinding vpcId bindingId) (ofAnswer vpcId)

theorem list_objectsFirst : (list vpcId).ObjectsFirst :=
  Remote.listing_objectsFirst (.bindings vpcId) (readEach (ofAnswer vpcId))

end Binding

/-! ## Placement groups and routes -/

namespace PlacementGroup

variable (groupId : Json)

theorem create_objectsFirst (q : Request) : (create q).ObjectsFirst :=
  Action.objectsFirst_of_outcome (Recording.Renewed _ _ _) (created q)
    fun h => h.isViolation_eq

theorem rename_objectsFirst (q : Renaming) : (rename groupId q).ObjectsFirst :=
  Action.objectsFirst_of_outcome (Recording.Renewed _ _ _) (renamed groupId q)
    fun h => h.isViolation_eq

theorem read_objectsFirst : (read groupId).ObjectsFirst :=
  Action.objectsFirst_of_outcome (Recording.Reread _ _) (readBack groupId)
    fun h => h.isViolation_eq

theorem delete_objectsFirst : (delete groupId).ObjectsFirst :=
  Action.objectsFirst_of_outcome (Discarded _ _ _) (deleted groupId)
    fun h => h.isViolation_eq fun _ ha => ha.isViolation_eq

theorem fetch_objectsFirst : (fetch groupId).ObjectsFirst :=
  Remote.ask_objectsFirst (.getGroup groupId) ofAnswer

theorem list_objectsFirst : list.ObjectsFirst :=
  Remote.listing_objectsFirst .groups (readEach ofAnswer)

end PlacementGroup

theorem Route.list_objectsFirst (vpcId tableId : Json) : (list vpcId tableId).ObjectsFirst :=
  Remote.listing_objectsFirst (.routes vpcId tableId) (readEach ofAnswer)

/-! ## Configurations -/

namespace Dns

theorem ReadBack.isViolation_eq {v : String} {f : Failure} (h : ReadBack v w (.error f) calls x) :
    f.isViolation = false := by
  cases h with
  | unloaded hf => exact hf.isViolation_eq
  | loaded _ _ h => exact h.isViolation_eq

theorem Adopted.isViolation_eq {v : String} {f : Failure} (h : Adopted v w (.error f) calls x) :
    f.isViolation = false := by
  cases h with
  | unread h => exact h.isViolation_eq
  | unlisted _ _ _ hf => exact Failure.isViolation_of_isOfExchange hf
  | unmatched => rfl
  | unrecorded _ _ _ _ _ hf => exact hf.isViolation_eq

theorem create_objectsFirst (d : Desired) : (create d).ObjectsFirst := by
  intro w f hf hviolation
  have h := created d w
  rw [hf] at h
  -- What is asked for violates a constraint then, and that alone decides how the run goes.
  obtain ⟨violation, hsome⟩ := Desired.exists_violation_iff.2 (h.violates_of_failed hviolation)
  rw [create_of_violation hsome]
  exact ⟨rfl, rfl⟩

theorem update_objectsFirst (v : String) (c : Changes) : (update (.str v) c).ObjectsFirst := by
  intro w f hf hviolation
  have h := updated v c w
  rw [hf] at h
  -- It is found out once the changes are completed to a configuration, before the record is read.
  obtain ⟨d, hd, hviolates⟩ := h.violates_of_failed hviolation
  obtain ⟨violation, hsome⟩ := Desired.exists_violation_iff.2 hviolates
  rw [update_of_violation hd hsome]
  exact ⟨rfl, rfl⟩

theorem read_objectsFirst (v : String) : (read (.str v)).ObjectsFirst :=
  Action.objectsFirst_of_outcome (ReadBack v) (readBack v)
    fun h => h.isViolation_eq

theorem adopt_objectsFirst (v : String) : (adopt (.str v)).ObjectsFirst :=
  Action.objectsFirst_of_outcome (Adopted v) (adopted v)
    fun h => h.isViolation_eq

theorem delete_objectsFirst (id : Json) : (delete id).ObjectsFirst :=
  Action.objectsFirst_of_never fun w f hf => (delete_concordant id w).2 f hf

theorem list_objectsFirst : list.ObjectsFirst := by
  refine Action.objectsFirst_of_ends fun w => Memory.ends_retrieveAll (fun _ _ _ => trivial)
    fun f v hf _ => ?_
  cases hf <;> rfl

end Dns

end NetSteward
