import NetSteward.Caller
import NetSteward.Proofs.Text.Split
/-!
# Callers and their secrets

The callers are set as a text of pairs, which a person may have laid out
with blanks, with pairs that replace earlier ones and with entries that
give no pair. The main result is that nothing but the pairs matters: each
caller has the secret of its last pair, no one else has a secret, and a
caller is known exactly by this secret if it is not empty. What carries it
is that neither a comma nor a colon is blank, so no blank is lost to a
separator and none hides one.
-/

namespace NetSteward

/-! ## The last pair of a key -/

namespace Keyed

variable {α : Type} {pairs : List (String × α)} {xs : Keyed α} {key : String} {a b : α}
variable {e : String × α}

/-- A value stands in the last pair of a key. -/
def Last (pairs : List (String × α)) (key : String) (a : α) : Prop :=
  ∃ before after, pairs = before ++ (key, a) :: after ∧ ∀ e ∈ after, e.1 ≠ key

theorem Last.mem (h : Last pairs key a) : (key, a) ∈ pairs := by
  obtain ⟨before, after, rfl, -⟩ := h
  exact List.mem_append_right _ List.mem_cons_self

theorem last_cons_iff :
    Last (e :: pairs) key a ↔ Last pairs key a ∨ e = (key, a) ∧ ∀ e ∈ pairs, e.1 ≠ key := by
  constructor
  · rintro ⟨before, after, heq, hafter⟩
    cases before with
    | nil =>
      obtain ⟨rfl, rfl⟩ := List.cons.inj heq
      exact .inr ⟨rfl, hafter⟩
    | cons first before =>
      obtain ⟨rfl, rfl⟩ := List.cons.inj heq
      exact .inl ⟨before, after, rfl, hafter⟩
  · rintro (⟨before, after, rfl, hafter⟩ | ⟨rfl, hpairs⟩)
    · exact ⟨e :: before, after, rfl, hafter⟩
    · exact ⟨[], pairs, rfl, hpairs⟩

/-- Pairs that are added to entries replace them. -/
theorem get?_foldl_insert :
    get? (pairs.foldl (fun xs e => insert xs e.1 e.2) xs) key = some a ↔
      Last pairs key a ∨ (∀ e ∈ pairs, e.1 ≠ key) ∧ get? xs key = some a := by
  induction pairs generalizing xs with
  | nil =>
    have hnone : ¬ Last [] key a := by
      rintro ⟨before, after, heq, -⟩
      cases before <;> cases heq
    simp [hnone]
  | cons e pairs ih =>
    rw [List.foldl_cons, ih, get?_insert, last_cons_iff, List.forall_mem_cons]
    by_cases hkey : e.1 = key
    · -- The first pair counts if no later one has its key.
      obtain ⟨k, x⟩ := e
      cases hkey
      simp [and_comm]
    · simp [hkey, Prod.ext_iff]

/-- **A key has the value of its last pair**, and has none without a
pair. -/
theorem get?_ofPairs_eq_some_iff : get? (ofPairs pairs) key = some a ↔ Last pairs key a := by
  rw [ofPairs, get?_foldl_insert]
  simp

/-- There is one last pair. -/
theorem Last.eq (h : Last pairs key a) (h' : Last pairs key b) : a = b := by
  rw [← get?_ofPairs_eq_some_iff] at h h'
  exact Option.some.inj (h.symm.trans h')

theorem nodup_keys_ofPairs (pairs : List (String × α)) : (keys (ofPairs pairs)).Nodup := by
  have hfold : ∀ {xs : Keyed α}, (keys xs).Nodup →
      (keys (pairs.foldl (fun xs e => insert xs e.1 e.2) xs)).Nodup := by
    induction pairs with
    | nil => exact id
    | cons e pairs ih => exact fun h => ih (nodup_keys_insert h e.1 e.2)
  exact hfold List.nodup_nil

end Keyed

/-! ## Entries of the text -/

namespace Settings

/-- Blank characters, which may stand around what an entry writes. -/
structure Blanks where
  chars : List Char
  blank : ∀ c ∈ chars, Text.isBlank c = true

/-- No blank. -/
def Blanks.none : Blanks := ⟨[], by simp⟩

/-- A single one. -/
def Blanks.one (c : Char) (h : Text.isBlank c = true) : Blanks := ⟨[c], by simpa using h⟩

/-- **A caller with its secret** as they can be written: neither has blanks
at its ends or a comma, and the name of a caller has no colon. -/
structure Pair where
  id : String
  secret : String
  id_trimmed : Text.Trimmed Text.isBlank id.toList
  secret_trimmed : Text.Trimmed Text.isBlank secret.toList
  id_comma : ',' ∉ id.toList
  id_colon : ':' ∉ id.toList
  secret_comma : ',' ∉ secret.toList

/-- An entry of the text. -/
inductive Entry
  /-- A pair with blanks before and after each of its parts. -/
  | pair (p : Pair) (beforeId afterId beforeSecret afterSecret : Blanks)
  /-- Anything without a colon, which gives no pair. -/
  | stray (chars : List Char) (comma : ',' ∉ chars) (colon : ':' ∉ chars)

namespace Entry

/-- How an entry is written. -/
def written : Entry → List Char
  | pair p beforeId afterId beforeSecret afterSecret =>
    (beforeId.chars ++ p.id.toList ++ afterId.chars) ++
      ':' :: (beforeSecret.chars ++ p.secret.toList ++ afterSecret.chars)
  | stray chars _ _ => chars

/-- The pair that an entry gives, if it gives one. -/
def given? : Entry → Option (String × String)
  | pair p _ _ _ _ => some (p.id, p.secret)
  | stray _ _ _ => none

end Entry

/-- The text of some entries, with commas between them. -/
def textOf (entries : List Entry) : String :=
  String.ofList ([','].intercalate (entries.map Entry.written))

/-- The pairs that some entries give, in order. -/
def pairsOf (entries : List Entry) : List (String × String) := entries.filterMap Entry.given?

/-! ## Reading the text -/

theorem Blanks.not_mem (blanks : Blanks) {c : Char} (h : Text.isBlank c = false) :
    c ∉ blanks.chars := by
  intro hc
  rw [blanks.blank c hc] at h
  cases h

/-- No entry holds what separates the entries. -/
theorem Entry.comma_not_mem (e : Entry) : ',' ∉ e.written := by
  have hblank : Text.isBlank ',' = false := by decide
  cases e with
  | pair p beforeId afterId beforeSecret afterSecret =>
    simp only [written, List.mem_append, List.mem_cons]
    simp [beforeId.not_mem hblank, afterId.not_mem hblank, beforeSecret.not_mem hblank,
      afterSecret.not_mem hblank, p.id_comma, p.secret_comma]
  | stray chars comma colon => exact comma

/-- What an entry gives is read off how it is written. -/
theorem callerOfEntry?_written (e : Entry) : callerOfEntry? e.written = e.given? := by
  have hblank : Text.isBlank ':' = false := by decide
  cases e with
  | pair p beforeId afterId beforeSecret afterSecret =>
    have hcolon : ':' ∉ Text.stripStart Text.isBlank
        (beforeId.chars ++ p.id.toList ++ afterId.chars) := by
      intro hmem
      have hmem := Text.mem_of_mem_stripStart hmem
      simp [beforeId.not_mem hblank, afterId.not_mem hblank, p.id_colon] at hmem
    -- The blanks at the outer ends go with the entry, those at the colon with its sides.
    have hid : Text.strip Text.isBlank (Text.stripStart Text.isBlank
        (beforeId.chars ++ p.id.toList ++ afterId.chars)) = p.id.toList := by
      rw [Text.strip_stripStart, Text.strip_surrounded beforeId.blank afterId.blank p.id_trimmed]
    have hsecret : Text.strip Text.isBlank (Text.stripEnd Text.isBlank
        (beforeSecret.chars ++ p.secret.toList ++ afterSecret.chars)) = p.secret.toList := by
      rw [Text.strip_stripEnd,
        Text.strip_surrounded beforeSecret.blank afterSecret.blank p.secret_trimmed]
    unfold callerOfEntry?
    rw [Entry.written, Text.strip_around hblank, Text.splitFirst?_append hcolon, Option.map_some]
    dsimp only
    rw [hid, hsecret, String.ofList_toList, String.ofList_toList, Entry.given?]
  | stray chars comma colon =>
    have hcolon : ':' ∉ Text.strip Text.isBlank chars := fun h => colon (Text.mem_of_mem_strip h)
    unfold callerOfEntry?
    rw [Entry.written, Text.splitFirst?_eq_none_iff.2 hcolon]
    rfl

/-- **The callers of a text are those of its pairs.** -/
theorem callersOf_textOf (entries : List Entry) :
    callersOf (textOf entries) = Keyed.ofPairs (pairsOf entries) := by
  cases entries with
  | nil => rfl
  | cons e more =>
    have hcomma : ∀ piece ∈ (e :: more).map Entry.written, ',' ∉ piece := by
      intro piece hpiece
      obtain ⟨entry, -, rfl⟩ := List.mem_map.1 hpiece
      exact entry.comma_not_mem
    have hread : callerOfEntry? ∘ Entry.written = Entry.given? := funext callerOfEntry?_written
    rw [callersOf, textOf, String.toList_ofList,
      Text.splitAll_intercalate hcomma (List.cons_ne_nil _ _), List.filterMap_map, hread, pairsOf]

end Settings

namespace Caller

open Settings (Entry textOf pairsOf)

variable {s : Settings} {clients : Keyed String} {id : String}

/-- A secret that is not kept as a hash is compared as it is. -/
theorem authenticate_of_callers (h : s.callers = .ok clients)
    (hplain : ∀ stored, clients.get? id = some stored → ¬ hashMark <+: stored.toList)
    (secret : Json) : ∃ answer, authenticate s (.str id) secret = .ok answer ∧
      (answer = true ↔ ∃ stored, clients.get? id = some stored ∧ secret = .str stored ∧
        stored ≠ "") := by
  have hstored : storedSecret? s (.str id) = .ok (clients.get? id) := by
    rw [storedSecret?, h]
    rfl
  rw [authenticate, hstored]
  cases hget : clients.get? id with
  | none => exact ⟨false, rfl, by simp⟩
  | some stored =>
    by_cases hempty : stored = ""
    · exact ⟨false, if_pos hempty, by simp [hempty]⟩
    · have hcompared : ¬ hashMark.isPrefixOf stored.toList = true := by
        rw [List.isPrefixOf_iff_prefix]
        exact hplain stored hget
      refine ⟨secret.isStr stored, (if_neg hempty).trans (if_neg hcompared), ?_⟩
      rw [Json.isStr_iff]
      constructor
      · intro hsecret
        exact ⟨stored, rfl, hsecret, hempty⟩
      · rintro ⟨other, hother, hsecret, -⟩
        rw [hsecret, Option.some.inj hother]

variable {entries : List Entry}

theorem callers_of_textOf (h : s.apiClients = .str (textOf entries)) :
    s.callers = .ok (Keyed.ofPairs (pairsOf entries)) := by
  rw [Settings.callers, h, ← Settings.callersOf_textOf]

/-- The secret that is compared is the last one of the pairs. -/
theorem authenticate_of_textOf (h : s.apiClients = .str (textOf entries))
    (hplain : ∀ stored, Keyed.Last (pairsOf entries) id stored → ¬ hashMark <+: stored.toList)
    (secret : Json) : ∃ answer, authenticate s (.str id) secret = .ok answer ∧
      (answer = true ↔ ∃ stored, Keyed.Last (pairsOf entries) id stored ∧
        secret = .str stored ∧ stored ≠ "") := by
  simp only [← Keyed.get?_ofPairs_eq_some_iff] at hplain ⊢
  exact authenticate_of_callers (callers_of_textOf h) hplain secret

/-- What is not the last secret, or is empty, is refused. -/
theorem authenticate_eq_false {secret : Json} (h : s.apiClients = .str (textOf entries))
    (hplain : ∀ stored, Keyed.Last (pairsOf entries) id stored → ¬ hashMark <+: stored.toList)
    (hnot : ∀ stored, Keyed.Last (pairsOf entries) id stored → secret = .str stored →
      stored = "") : authenticate s (.str id) secret = .ok false := by
  obtain ⟨answer, hanswer, hiff⟩ := authenticate_of_textOf h hplain secret
  cases answer with
  | false => exact hanswer
  | true =>
    obtain ⟨stored, hlast, hsecret, hne⟩ := hiff.1 rfl
    exact absurd (hnot stored hlast hsecret) hne

/-- **A caller is known by its last secret.** Whatever blanks are in the
text of pairs and whatever stands between the pairs, each caller has the
secret of its last pair and no one else has one. Unless this secret is
kept as a hash, a caller is known exactly if it shows the secret and the
secret is not empty. -/
theorem known_by_last_secret (h : s.apiClients = .str (textOf entries)) :
    (∃ clients, s.callers = .ok clients ∧ (Keyed.keys clients).Nodup ∧
      ∀ id secret, Keyed.get? clients id = some secret ↔
        Keyed.Last (pairsOf entries) id secret) ∧
    (∀ id, (∀ stored, Keyed.Last (pairsOf entries) id stored → ¬ hashMark <+: stored.toList) →
      (∀ secret, ∃ answer, authenticate s (.str id) secret = .ok answer ∧
        (answer = true ↔ ∃ stored, Keyed.Last (pairsOf entries) id stored ∧
          secret = .str stored ∧ stored ≠ "")) ∧
      authenticate s (.str id) (.str "") = .ok false) ∧
    ∀ id, (∀ stored, (id, stored) ∉ pairsOf entries) →
      ∀ secret, authenticate s (.str id) secret = .ok false := by
  refine ⟨⟨_, callers_of_textOf h, Keyed.nodup_keys_ofPairs _, fun id secret =>
    Keyed.get?_ofPairs_eq_some_iff⟩, fun id hplain => ⟨authenticate_of_textOf h hplain, ?_⟩, ?_⟩
  · exact authenticate_eq_false h hplain fun stored _ hsecret => (Json.str.inj hsecret).symm
  · intro id hunknown secret
    have hnone : ∀ stored, ¬ Keyed.Last (pairsOf entries) id stored :=
      fun stored hlast => hunknown stored hlast.mem
    exact authenticate_eq_false h (fun stored hlast => absurd hlast (hnone stored))
      fun stored hlast => absurd hlast (hnone stored)

/-- A text in which a caller has two pairs, the later one with blanks and
with a colon in its secret. -/
def wornEntries : List Entry :=
  [.pair ⟨"ci", "old", by decide, by decide, by decide, by decide, by decide⟩
      .none .none .none .none,
    .stray " spare".toList (by decide) (by decide),
    .pair ⟨"ci", "s:1", by decide, by decide, by decide, by decide, by decide⟩
      (.one ' ' (by decide)) (.one ' ' (by decide)) (.one '\t' (by decide)) .none]

/-- The settings with this text. -/
def wornSettings : Settings := { Settings.default with apiClients := .str (textOf wornEntries) }

theorem known_by_last_secret_worn :
    textOf wornEntries = "ci:old, spare, ci :\ts:1" ∧
      authenticate wornSettings (.str "ci") (.str "s:1") = .ok true ∧
      authenticate wornSettings (.str "ci") (.str "") = .ok false ∧
      authenticate wornSettings (.str "spare") (.str "s:1") = .ok false := by
  have hset : wornSettings.apiClients = .str (textOf wornEntries) := rfl
  have hlast : Keyed.Last (pairsOf wornEntries) "ci" "s:1" := ⟨[("ci", "old")], [], rfl, by simp⟩
  have hplain : ∀ stored, Keyed.Last (pairsOf wornEntries) "ci" stored →
      ¬ hashMark <+: stored.toList := by
    intro stored hstored
    rw [hstored.eq hlast]
    decide
  obtain ⟨hknown, hempty⟩ := (known_by_last_secret hset).2.1 "ci" hplain
  obtain ⟨answer, hanswer, hiff⟩ := hknown (.str "s:1")
  have htrue : answer = true := hiff.2 ⟨"s:1", hlast, rfl, by decide⟩
  have hspare : ∀ stored, ("spare", stored) ∉ pairsOf wornEntries := by
    simp [pairsOf, wornEntries, Entry.given?]
  refine ⟨by decide, htrue ▸ hanswer, hempty, (known_by_last_secret hset).2.2 "spare" hspare _⟩

end Caller

end NetSteward
