import Mathlib.Data.List.Basic
import NetSteward.Proofs.Deletion
import NetSteward.Proofs.Dns.Stale
/-!
# The repository as a map

To those who save, get, list and delete records, the repository is a map
from keys to records that remembers in which order its keys came. `Plain`
is this map and what it answers. The main result is that the repository
answers every sequence of requests as the map does, whatever was in the
table and however few records a scan looks at. What carries it is the
listing: scan after scan goes on behind the last record of a page, so the
pages come to the whole table if no two records share a key.
-/

namespace NetSteward

open Remote (Exchange)

/-! ## Entries under unique keys -/

namespace Keyed

variable {α : Type} {xs : Keyed α} {key : String} {a : α}

/-- Where keys are unique, each entry is found under its key. -/
theorem get?_of_mem (h : xs.keys.Nodup) (hmem : (key, a) ∈ xs) : xs.get? key = some a := by
  induction xs with
  | nil => cases hmem
  | cons e rest ih =>
    obtain ⟨k, x⟩ := e
    obtain ⟨hk, hrest⟩ := List.nodup_cons.1 h
    rcases List.mem_cons.1 hmem with heq | hmem
    · cases heq
      exact if_pos rfl
    · have hne : k ≠ key := fun heq => hk (List.mem_map.2 ⟨_, hmem, heq.symm⟩)
      rw [get?_cons, if_neg hne, ih hrest hmem]

/-- Where keys are unique, the values are found under the keys one after
another. -/
theorem filterMap_get?_keys (h : xs.keys.Nodup) : xs.keys.filterMap xs.get? = xs.map (·.2) := by
  rw [keys, List.filterMap_map]
  exact List.filterMap_eq_map_iff_forall_eq_some.2 fun e he => get?_of_mem h he

end Keyed

namespace Store

/-! ## Requests -/

/-- What is asked of the repository. -/
inductive Request
  | save (record : Keyed Json)
  | get (key : String)
  /-- All records, or those of one kind. -/
  | list (kind : Option String)
  | delete (key : String)

/-- What the repository answers. -/
inductive Answer
  | saved
  | found (record : Option (Keyed Json))
  | listed (records : List (Keyed Json))
  /-- Whether there was a record. -/
  | deleted (existed : Bool)

/-- Does what is asked. -/
def Request.run : Request → Action Answer
  | save record => (fun _ => .saved) <$> Store.save record
  | get key => .found <$> Store.get key
  | list kind => .listed <$> Store.listAll (.ofOption kind)
  | delete key => .deleted <$> Store.delete key

/-- The answers to requests that are made one after another. -/
def answers (w : World) : List Request → List (Except Failure Answer)
  | [] => []
  | q :: rest => (q.run w).result :: answers (q.run w).world rest

/-- The world after some requests. -/
def afterRequests (w : World) : List Request → World
  | [] => w
  | q :: rest => afterRequests (q.run w).world rest

/-- None of some requests fails at the table. -/
def Undisturbed (w : World) (requests : List Request) : Prop :=
  ∀ answer ∈ answers w requests, ∀ e, answer ≠ .error (.store e)

/-! ## The map -/

/-- **A plain map** from keys to records: the keys in the order in which
they came, and the record under each key. -/
structure Plain where
  keys : List String
  at? : String → Option (Keyed Json)

namespace Plain

/-- The map that some records make. -/
def ofRecords (records : Keyed (Keyed Json)) : Plain := ⟨records.keys, records.get?⟩

/-- All records, in order. -/
def all (m : Plain) : List (Keyed Json) := m.keys.filterMap m.at?

/-- The map with a record under a key. A key that is new comes last. -/
def put (m : Plain) (key : String) (record : Keyed Json) : Plain where
  keys := if key ∈ m.keys then m.keys else m.keys ++ [key]
  at? := Function.update m.at? key (some record)

/-- The map without a key. -/
def drop (m : Plain) (key : String) : Plain where
  keys := m.keys.filter (· != key)
  at? := Function.update m.at? key none

/-- Whether a record says that it is of a kind. -/
def isNamed (kind : String) (record : Keyed Json) : Bool :=
  (record.get? kindAttribute).any (·.isStr kind)

/-- The records of a kind, in order; all records if no kind is given or an
empty one. -/
def listed (m : Plain) : Option String → List (Keyed Json)
  | none => m.all
  | some kind => if kind = "" then m.all else m.all.filter (isNamed kind)

/-- What the map answers to a request, and the map after it. A record
without a key is refused. -/
def serve (m : Plain) : Request → Except Failure Answer × Plain
  | .save record => match recordKeyOf record with
    | .ok key => (.ok .saved, m.put key record)
    | .error mismatch => (.error (.unreadable (.shape mismatch)), m)
  | .get key => (.ok (.found (m.at? key)), m)
  | .list kind => (.ok (.listed (m.listed kind)), m)
  | .delete key => (.ok (.deleted (m.at? key).isSome), m.drop key)

/-- The answers of the map to requests that are made one after another. -/
def answers (m : Plain) : List Request → List (Except Failure Answer)
  | [] => []
  | q :: rest => (m.serve q).1 :: (m.serve q).2.answers rest

/-- The map after some requests. -/
def after (m : Plain) : List Request → Plain
  | [] => m
  | q :: rest => (m.serve q).2.after rest

variable {records : Keyed (Keyed Json)}

theorem ofRecords_insert (key : String) (record : Keyed Json) :
    ofRecords (records.insert key record) = (ofRecords records).put key record := by
  have hat : (records.insert key record).get? =
      Function.update records.get? key (some record) := by
    funext k
    rw [Keyed.get?_insert, Function.update_apply]
    exact if_congr eq_comm rfl rfl
  exact congrArg₂ mk (Keyed.keys_insert records key record) hat

theorem ofRecords_erase (key : String) :
    ofRecords (records.erase key) = (ofRecords records).drop key := by
  have hat : (records.erase key).get? = Function.update records.get? key none := by
    funext k
    rw [Keyed.get?_erase, Function.update_apply]
    exact if_congr eq_comm rfl rfl
  exact congrArg₂ mk (Keyed.keys_erase records key) hat

/-- Where keys are unique, the map lists the records as they stand in the
table. -/
theorem all_ofRecords (h : records.keys.Nodup) : (ofRecords records).all = records.map (·.2) :=
  Keyed.filterMap_get?_keys h

end Plain

/-! ## Listings -/

variable {w : World} {past : List Exchange} {kind : Json} {records rest : Keyed (Keyed Json)}
variable {failed : Failure → List Exchange → World → Prop}

/-- Where keys are unique, the key of a record is a place in the table: a
scan from there on goes on with the next record. -/
theorem recordsAfter_of_nodup {before : Keyed (Keyed Json)} {key : String} {record : Keyed Json}
    (h : (Keyed.keys (before ++ (key, record) :: rest)).Nodup) :
    recordsAfter (before ++ (key, record) :: rest) (some key) = rest := by
  have hbefore : ∀ e ∈ before, (e.1 != key) = true := by
    intro e he
    rw [Keyed.keys, List.map_append, List.nodup_append] at h
    exact bne_iff_ne.2 (h.2.2 _ (List.mem_map_of_mem he) _ List.mem_cons_self)
  rw [recordsAfter, List.dropWhile_append_of_pos hbefore, List.dropWhile_cons_of_neg (by simp)]
  rfl

/-- **Scans go through the rest of the table**, page after page, if it does
not hold more records than scans are allowed. -/
theorem ends_scanAll_of_nodup {done : List (Keyed Json) → List Exchange → World → Prop}
    {after : Option String} {bound : Nat} (before : Keyed (Keyed Json))
    (hkeys : w.store.records.keys.Nodup) (hsplit : before ++ rest = w.store.records)
    (hafter : recordsAfter w.store.records after = rest) (hbound : rest.length < bound)
    (scanned : ∀ v, w.Leads w.store.records v →
      done ((rest.map (·.2)).filter (isOfKind kind)) past v)
    (fails : ∀ e v, w.store.faults ≠ [] → w.Leads w.store.records v →
      failed (.store e) past v) :
    (scanAll kind bound after).Ends past w done failed := by
  -- On the number of scans; the part of the table before a scan grows.
  induction bound generalizing w after done before rest with
  | zero => cases hbound
  | succ bound ih =>
    simp only [scanAll, scan, Action.ends_bind, ends_access, Action.ends_world, Action.ends_pure]
    refine ends_attempt (fun v hv => ?_) fails
    rw [hv.records_eq, hafter]
    obtain ⟨size, hsize⟩ : ∃ size, max 1 v.store.scanSize = size + 1 :=
      ⟨max 1 v.store.scanSize - 1, by omega⟩
    rw [hsize]
    by_cases hlast : rest.length ≤ size + 1
    · -- The page holds the rest of the table.
      simp only [pageOf, if_pos hlast, List.take_of_length_le hlast, Action.ends_pure]
      exact scanned v hv
    · -- The page ends with a record behind which the next one goes on.
      obtain ⟨first, ⟨key, record⟩, hpage⟩ : ∃ first e, rest.take (size + 1) = first ++ [e] := by
        have hne : rest.take (size + 1) ≠ [] := by
          intro hnil
          have hlength := congrArg List.length hnil
          simp only [List.length_take, List.length_nil] at hlength
          omega
        exact ⟨_, _, (List.dropLast_concat_getLast hne).symm⟩
      have hrest : rest = first ++ (key, record) :: rest.drop (size + 1) := by
        have hjoin := List.take_append_drop (size + 1) rest
        rw [hpage, List.append_assoc, List.singleton_append] at hjoin
        exact hjoin.symm
      have hsplit' : (before ++ first) ++ (key, record) :: rest.drop (size + 1) =
          v.store.records := by
        rw [List.append_assoc, ← hrest, hsplit, hv.records_eq]
      have hkeys' : v.store.records.keys.Nodup := hv.records_eq ▸ hkeys
      simp only [pageOf, if_neg hlast, hpage, List.getLast?_concat, Option.map_some,
        Action.ends_bind, Action.ends_pure]
      refine ih ((before ++ first) ++ [(key, record)]) hkeys'
        (by rw [← hsplit', List.append_assoc _ [_], List.singleton_append])
        (hsplit' ▸ recordsAfter_of_nodup (hsplit' ▸ hkeys')) ?_ (fun u hu => ?_) fun e u hf hu =>
          fails e u (hv.faults_eq ▸ hf) (hv.still hu)
      · rw [List.length_drop]
        omega
      · have hall : ((first ++ [(key, record)]).map (·.2)).filter (isOfKind kind) ++
            ((rest.drop (size + 1)).map (·.2)).filter (isOfKind kind) =
              (rest.map (·.2)).filter (isOfKind kind) := by
          rw [← List.filter_append, ← List.map_append, ← hpage, List.take_append_drop]
        exact hall ▸ scanned u (hv.still hu)

/-- **A listing goes through the whole table.** -/
theorem ends_listAll_of_nodup {done : List (Keyed Json) → List Exchange → World → Prop}
    (hkeys : w.store.records.keys.Nodup)
    (listed : ∀ v, w.Leads w.store.records v →
      done ((w.store.records.map (·.2)).filter (isOfKind (if kind.isGiven then kind else .null)))
        past v)
    (fails : ∀ e v, w.store.faults ≠ [] → w.Leads w.store.records v →
      failed (.store e) past v) :
    (listAll kind).Ends past w done failed := by
  unfold listAll
  simp only [Action.ends_bind, Action.ends_world]
  refine ends_connect (fun v hv => ?_) fails
  have hkeys' : v.store.records.keys.Nodup := hv.records_eq ▸ hkeys
  refine ends_scanAll_of_nodup [] hkeys' (List.nil_append _) rfl (Nat.lt_succ_self _)
    (fun u hu => ?_) fun e u hf hu => fails e u (hv.faults_eq ▸ hf) (hv.still hu)
  rw [hv.records_eq]
  exact listed u (hv.still hu)

/-! ## One request -/

/-- A record without a key is not saved. -/
theorem ends_save_of_unkeyed {done : Unit → List Exchange → World → Prop} {record : Keyed Json}
    {mismatch : Mismatch} (hkey : recordKeyOf record = .error mismatch)
    (refused : ∀ v, w.Leads w.store.records v →
      failed (.unreadable (.shape mismatch)) past v)
    (fails : ∀ e v, w.store.faults ≠ [] → w.Leads w.store.records v →
      failed (.store e) past v) :
    (save record).Ends past w done failed := by
  unfold save
  simp only [Action.ends_bind, ends_access]
  refine ends_connect (fun v hv => ?_) fails
  refine ends_attempt (fun u hu => ?_) fun e u hf hu => ?_
  · rw [hkey]
    exact Action.ends_fail.2 (refused u (hv.still hu))
  · exact fails e u (hv.faults_eq ▸ hf) (hv.still hu)

/-- A scan for no kind leaves nothing out. -/
theorem filter_isOfKind_null (found : List (Keyed Json)) :
    found.filter (isOfKind .null) = found :=
  List.filter_eq_self.2 fun _ _ => rfl

/-- A scan for a kind finds what says that it is of this kind. -/
theorem isOfKind_str (kind : String) : isOfKind (.str kind) = Plain.isNamed kind := by
  have same_str : ∀ j : Json, j.same (.str kind) = j.isStr kind := by
    intro j
    cases j with
    | str s => simp [Json.same, Json.isStr]
    | null | bool | int | float | arr | obj => simp [Json.same, Json.number?, Json.isStr]
  funext record
  unfold isOfKind Plain.isNamed
  cases record.get? kindAttribute with
  | none => rfl
  | some j => exact same_str j

/-- Where keys are unique, what scans find is what the map lists. -/
theorem listed_ofRecords (h : records.keys.Nodup) (kind : Option String) :
    (records.map (·.2)).filter
        (isOfKind (if (Json.ofOption kind).isGiven then .ofOption kind else .null)) =
      (Plain.ofRecords records).listed kind := by
  cases kind with
  | none =>
    rw [Plain.listed, Plain.all_ofRecords h]
    exact filter_isOfKind_null _
  | some kind =>
    rw [Plain.listed, Plain.all_ofRecords h, Json.ofOption]
    by_cases hkind : kind = ""
    · subst hkind
      exact filter_isOfKind_null _
    · rw [if_pos ((Json.isGiven_str kind).2 hkind), if_neg hkind, isOfKind_str]

/-- **What comes of a request**: it is answered as the map answers it, and
the records are those of the map after it; or the table has a fault, and
nothing changes. -/
inductive Served (w : World) (q : Request) : Except Failure Answer → World → Prop
  | served {answer : Except Failure Answer} {records : Keyed (Keyed Json)} {x : World}
      (h : (Plain.ofRecords w.store.records).serve q = (answer, Plain.ofRecords records))
      (hkeys : records.keys.Nodup) (hx : w.Leads records x) : Served w q answer x
  | faulty {e : TableError} {x : World} (hf : w.store.faults ≠ [])
      (hx : w.Leads w.store.records x) : Served w q (.error (.store e)) x

/-- Where keys are unique, requests are served. -/
theorem served (hkeys : w.store.records.keys.Nodup) (q : Request) :
    Served w q (q.run w).result (q.run w).world := by
  refine (Action.ends_nil_iff fun answer _ x => Served w q answer x).1 ?_
  cases q with
  | save record =>
    rw [Request.run, Action.ends_map]
    cases hkey : recordKeyOf record with
    | ok key =>
      refine ends_save hkey (fun v hv => ?_) fun e v hf hv => .faulty hf hv
      have hserve : (Plain.ofRecords w.store.records).serve (.save record) =
          (.ok .saved, Plain.ofRecords (w.store.records.insert key record)) := by
        rw [Plain.ofRecords_insert, Plain.serve, hkey]
      exact .served hserve (Keyed.nodup_keys_insert hkeys key record) hv
    | error mismatch =>
      refine ends_save_of_unkeyed hkey (fun v hv => ?_) fun e v hf hv => .faulty hf hv
      exact .served (by rw [Plain.serve, hkey]) hkeys hv
  | get key =>
    rw [Request.run, Action.ends_map]
    exact ends_get (fun v hv => .served rfl hkeys hv) fun e v hf hv => .faulty hf hv
  | list kind =>
    rw [Request.run, Action.ends_map]
    refine ends_listAll_of_nodup hkeys (fun v hv => ?_) fun e v hf hv => .faulty hf hv
    rw [listed_ofRecords hkeys]
    exact .served rfl hkeys hv
  | delete key =>
    rw [Request.run, Action.ends_map]
    refine ends_delete (fun v hv => ?_) fun e v hf hv => .faulty hf hv
    have hserve : (Plain.ofRecords w.store.records).serve (.delete key) =
        (.ok (.deleted (w.store.records.get? key).isSome),
          Plain.ofRecords (w.store.records.erase key)) := by
      rw [Plain.ofRecords_erase]
      rfl
    exact .served hserve (Keyed.nodup_keys_erase hkeys key) hv

/-! ## Sequences of requests -/

/-- The map never fails at a table. -/
theorem Plain.serve_ne_store (m : Plain) (q : Request) (e : TableError) :
    (m.serve q).1 ≠ .error (.store e) := by
  intro h
  cases q with
  | save record =>
    rw [serve] at h
    split at h
    · cases h
    · cases h
  | get | list | delete => cases h

/-- Without faults of the table no request fails at it. -/
theorem undisturbed_of_no_faults (hkeys : w.store.records.keys.Nodup)
    (hfaults : w.store.faults = []) (requests : List Request) : Undisturbed w requests := by
  induction requests generalizing w with
  | nil => exact fun _ h => by cases h
  | cons q rest ih =>
    have hq := served hkeys q
    rw [Undisturbed, answers]
    generalize (q.run w).result = answer at hq ⊢
    generalize (q.run w).world = x at hq ⊢
    cases hq with
    | served h hkeys' hx =>
      refine List.forall_mem_cons.2 ⟨fun e he => ?_, ?_⟩
      · exact Plain.serve_ne_store (.ofRecords w.store.records) q e (by rw [h, he])
      · exact ih (hx.records_eq ▸ hkeys') (hx.faults_eq.trans hfaults)
    | faulty hf => exact absurd hfaults hf

/-- Requests that do not fail at the table are answered as the map answers
them, and the table goes on to make the map. -/
theorem serves_as_map {requests : List Request} (hkeys : w.store.records.keys.Nodup)
    (h : Undisturbed w requests) :
    answers w requests = (Plain.ofRecords w.store.records).answers requests ∧
      Plain.ofRecords (afterRequests w requests).store.records =
        (Plain.ofRecords w.store.records).after requests ∧
      (afterRequests w requests).store.records.keys.Nodup := by
  induction requests generalizing w with
  | nil => exact ⟨rfl, rfl, hkeys⟩
  | cons q rest ih =>
    have hq := served hkeys q
    rw [Undisturbed, answers] at h
    rw [answers, afterRequests, Plain.answers, Plain.after]
    generalize (q.run w).result = answer at hq h ⊢
    generalize (q.run w).world = x at hq h ⊢
    obtain ⟨hfirst, hrest⟩ := List.forall_mem_cons.1 h
    cases hq with
    | served hserve hkeys' hx =>
      obtain ⟨hanswers, hafter, hnodup⟩ := ih (hx.records_eq ▸ hkeys') hrest
      rw [hx.records_eq] at hanswers hafter
      rw [hserve]
      exact ⟨congrArg _ hanswers, hafter, hnodup⟩
    | faulty => exact absurd rfl (hfirst _)

/-- **The repository is a map from keys to records.** If no two records
share a key, every sequence of requests is answered as the map answers it,
unless the table fails, which takes a fault. At every point the table
makes the map: it holds each key once, in the order of the table, and
exactly the keys that a record is found under. -/
theorem repository_refines_map {w : World} (hkeys : w.store.records.keys.Nodup)
    (requests : List Request) :
    (w.store.faults = [] → Undisturbed w requests) ∧
    (Undisturbed w requests →
      answers w requests = (Plain.ofRecords w.store.records).answers requests ∧
      Plain.ofRecords (afterRequests w requests).store.records =
        (Plain.ofRecords w.store.records).after requests ∧
      ((Plain.ofRecords w.store.records).after requests).keys.Nodup ∧
      ∀ key, key ∈ ((Plain.ofRecords w.store.records).after requests).keys ↔
        (((Plain.ofRecords w.store.records).after requests).at? key).isSome) := by
  refine ⟨fun hfaults => undisturbed_of_no_faults hkeys hfaults requests, fun h => ?_⟩
  obtain ⟨hanswers, hafter, hnodup⟩ := serves_as_map hkeys h
  exact ⟨hanswers, hafter, hafter ▸ hnodup, hafter ▸ fun key => Keyed.mem_keys_iff _ key⟩

/-- A binding and a placement group are recorded, and a scan looks at one
record. -/
def narrow : World :=
  { Dns.calm heldRecords [] with
    store := { (Dns.calm heldRecords []).store with scanSize := 1 } }

/-- The groups are listed, and the binding is deleted and looked for. -/
def narrowRequests : List Request :=
  [.list (some "placement_group"), .delete "dns_resolution_binding/vpc-1/b-1",
    .get "dns_resolution_binding/vpc-1/b-1"]

/-- The listing passes over a page that holds no group. -/
theorem repository_refines_map_narrow :
    narrow.store.records.keys.Nodup ∧ Undisturbed narrow narrowRequests ∧
      answers narrow narrowRequests =
        [.ok (.listed ((heldRecords.get? "placement_group/pg-1").toList)), .ok (.deleted true),
          .ok (.found none)] := by
  have hkeys : narrow.store.records.keys.Nodup := by decide
  obtain ⟨clear, serves⟩ := repository_refines_map hkeys narrowRequests
  have hclear := clear rfl
  exact ⟨hkeys, hclear, (serves hclear).1.trans rfl⟩

end Store

end NetSteward
