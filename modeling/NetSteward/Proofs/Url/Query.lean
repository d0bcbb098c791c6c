import NetSteward.Proofs.Text.Percent
import NetSteward.Proofs.Text.Split
import NetSteward.Url.Query
/-!
# What a URL asks for

A URL is taken apart by its delimiters: the query stands between the first
question mark and the first number sign, its fields between ampersands, and the
name and the value of a field around the first equals sign. The relations here
say so without a way to compute it, and the lemmas show that reading a URL finds
just what stands there. What is added to a URL without a query does not change
its host, and a field whose name and value are spelled with escapes is read as
what they spell.
-/

namespace NetSteward

namespace Url

/-! ## Queries -/

/-- A text that is empty or that the number sign opens. -/
def IsFragment (text : List Char) : Prop := ∀ c ∈ text.head?, c = '#'

/-- **The query of a URL**: what stands after its first question mark and before
its first number sign, and nothing if there is no question mark before that. -/
inductive HasQuery : List Char → List Char → Prop
  | asked {path query fragment : List Char} (hpath : '?' ∉ path ∧ '#' ∉ path)
      (hquery : '#' ∉ query) (hfragment : IsFragment fragment) :
      HasQuery (path ++ '?' :: query ++ fragment) query
  | unasked {path fragment : List Char} (hpath : '?' ∉ path ∧ '#' ∉ path)
      (hfragment : IsFragment fragment) : HasQuery (path ++ fragment) []

variable {url path query fragment : List Char}

/-- A fragment is cut off where it begins. -/
theorem cutAt_fragment (hpath : '#' ∉ path) (hfragment : IsFragment fragment) :
    (Text.cutAt '#' (path ++ fragment)).1 = path := by
  cases fragment with
  | nil => rw [List.append_nil, Text.cutAt_of_not_mem hpath]
  | cons c rest =>
    cases hfragment c rfl
    rw [Text.cutAt_append hpath]

theorem HasQuery.rawQuery_eq (h : HasQuery url query) : rawQuery url = query := by
  unfold rawQuery
  cases h with
  | @asked path query fragment hpath hquery hfragment =>
    have hbefore : '#' ∉ path ++ '?' :: query := by
      simpa [hpath.2] using hquery
    rw [cutAt_fragment hbefore hfragment, Text.cutAt_append hpath.1]
  | unasked hpath hfragment =>
    rw [cutAt_fragment hpath.2 hfragment, Text.cutAt_of_not_mem hpath.1]

/-- Every URL is one text that has a query, up to a fragment. -/
theorem exists_fragment (url : List Char) :
    ∃ path fragment, url = path ++ fragment ∧ '#' ∉ path ∧ IsFragment fragment := by
  cases hsplit : Text.splitFirst? '#' url with
  | none =>
    exact ⟨url, [], (List.append_nil url).symm, Text.splitFirst?_eq_none_iff.1 hsplit,
      fun c hc => by cases hc⟩
  | some parts =>
    obtain ⟨path, rest⟩ := parts
    obtain ⟨hurl, hpath⟩ := Text.splitFirst?_eq_some_iff.1 hsplit
    exact ⟨path, '#' :: rest, hurl, hpath, fun c hc => (Option.some.inj hc).symm⟩

theorem hasQuery_rawQuery (url : List Char) : HasQuery url (rawQuery url) := by
  obtain ⟨path, fragment, rfl, hpath, hfragment⟩ := exists_fragment url
  rw [rawQuery, cutAt_fragment hpath hfragment]
  cases hsplit : Text.splitFirst? '?' path with
  | none =>
    have hplain : '?' ∉ path := Text.splitFirst?_eq_none_iff.1 hsplit
    rw [Text.cutAt_of_not_mem hplain]
    exact .unasked ⟨hplain, hpath⟩ hfragment
  | some parts =>
    obtain ⟨before, query⟩ := parts
    obtain ⟨rfl, hbefore⟩ := Text.splitFirst?_eq_some_iff.1 hsplit
    obtain ⟨hanchorless, hquery⟩ : '#' ∉ before ∧ '#' ∉ query := by simpa using hpath
    rw [Text.cutAt_append hbefore]
    exact .asked ⟨hbefore, hanchorless⟩ hquery hfragment

/-- **Every URL has one query**, the one that is read. -/
theorem hasQuery_iff : HasQuery url query ↔ rawQuery url = query :=
  ⟨HasQuery.rawQuery_eq, fun h => h ▸ hasQuery_rawQuery url⟩

/-! ## Fields -/

/-- **A piece of a query gives a name a value**: the equals sign stands between
them, and the value is not empty as it is spelled. -/
inductive Gives : List Char → List Char → List Char → Prop
  | intro {name value : List Char} (hname : '=' ∉ name) (hvalue : value ≠ []) :
      Gives (name ++ '=' :: value) (Percent.decodeField name) (Percent.decodeField value)

/-- **The value of a name in a query**: what the first piece gives that gives the
name any. -/
inductive FirstValue (name : List Char) : List (List Char) → Option (List Char) → Prop
  | absent : FirstValue name [] none
  | here {piece value : List Char} {rest : List (List Char)} (h : Gives piece name value) :
      FirstValue name (piece :: rest) (some value)
  | later {piece : List Char} {rest : List (List Char)} {found : Option (List Char)}
      (h : ∀ value, ¬ Gives piece name value) (hrest : FirstValue name rest found) :
      FirstValue name (piece :: rest) found

variable {piece name value : List Char} {pieces : List (List Char)} {found : Option (List Char)}

/-- A piece is read as the field that it gives. -/
theorem field?_eq_some_iff : field? piece = some (name, value) ↔ Gives piece name value := by
  constructor
  · intro h
    unfold field? at h
    split at h
    · rename_i rawName rawValue hsplit
      split at h
      · cases h
      · rename_i hne
        cases h
        obtain ⟨rfl, hname⟩ := Text.splitFirst?_eq_some_iff.1 hsplit
        exact .intro hname (by simpa using hne)
    · cases h
  · rintro ⟨hname, hvalue⟩
    unfold field?
    rw [Text.splitFirst?_append hname]
    exact if_neg (by simpa using hvalue)

/-- What a name is looked up as is what the pieces give it. -/
theorem firstValue_find? (name : List Char) (pieces : List (List Char)) :
    FirstValue name pieces
      (((pieces.filterMap field?).find? fun f => f.1 == name).map (·.2)) := by
  induction pieces with
  | nil => exact .absent
  | cons piece rest ih =>
    cases hfield : field? piece with
    | none =>
      rw [List.filterMap_cons_none hfield]
      refine .later (fun value hgives => ?_) ih
      rw [field?_eq_some_iff.2 hgives] at hfield
      cases hfield
    | some field =>
      obtain ⟨other, value⟩ := field
      rw [List.filterMap_cons_some hfield, List.find?_cons]
      by_cases hname : other = name
      · subst hname
        rw [beq_self_eq_true]
        exact .here (field?_eq_some_iff.1 hfield)
      · have hother : (other == name) = false := beq_false_of_ne hname
        dsimp only
        rw [hother]
        refine .later (fun value hgives => ?_) ih
        rw [field?_eq_some_iff.2 hgives] at hfield
        cases hfield
        exact hname rfl

/-- A piece gives one field. -/
theorem Gives.unique {other : List Char} (h : Gives piece name value)
    (hother : Gives piece name other) : value = other := by
  have hvalue := field?_eq_some_iff.2 h
  rw [field?_eq_some_iff.2 hother] at hvalue
  cases hvalue
  rfl

theorem FirstValue.unique {other : Option (List Char)} (h : FirstValue name pieces found)
    (hother : FirstValue name pieces other) : found = other := by
  induction h with
  | absent =>
    cases hother
    rfl
  | here h =>
    cases hother with
    | here hother => rw [h.unique hother]
    | later hnone => exact absurd h (hnone _)
  | later hnone _ ih =>
    cases hother with
    | here hother => exact absurd hother (hnone _)
    | later _ hother => exact ih hother

/-- Pieces that give the name nothing are passed over. -/
theorem FirstValue.of_append {before after : List (List Char)}
    (hbefore : ∀ other ∈ before, ∀ value, ¬ Gives other name value)
    (h : Gives piece name value) : FirstValue name (before ++ piece :: after) (some value) := by
  induction before with
  | nil => exact .here h
  | cons other before ih =>
    obtain ⟨hother, hbefore⟩ := List.forall_mem_cons.1 hbefore
    exact .later hother (ih hbefore)

/-- The pieces of a query, which stand between its ampersands. -/
structure IsSplit (query : List Char) (pieces : List (List Char)) : Prop where
  ne_nil : pieces ≠ []
  plain : ∀ piece ∈ pieces, '&' ∉ piece
  joined : ['&'].intercalate pieces = query

theorem isSplit_iff : IsSplit query pieces ↔ Text.splitAll '&' query = pieces := by
  constructor
  · rintro ⟨hne, hplain, rfl⟩
    exact Text.splitAll_intercalate hplain hne
  · rintro rfl
    exact ⟨Text.splitAll_ne_nil '&' query, Text.not_mem_of_mem_splitAll,
      Text.intercalate_splitAll '&' query⟩

/-- **What a URL says of a name**: the first value that the pieces of its query
give it. -/
def Says (url name : List Char) (found : Option (List Char)) : Prop :=
  ∃ query pieces, HasQuery url query ∧ IsSplit query pieces ∧ FirstValue name pieces found

/-- **A URL says one thing of a name**, and this is what is found there. -/
theorem says_iff : Says url name found ↔ fieldNamed? name (rawQuery url) = found := by
  have hread : FirstValue name (Text.splitAll '&' (rawQuery url))
      (fieldNamed? name (rawQuery url)) := firstValue_find? name _
  constructor
  · rintro ⟨query, pieces, hquery, hpieces, hfirst⟩
    rw [hasQuery_iff.1 hquery, isSplit_iff.1 hpieces] at hread
    rw [hasQuery_iff.1 hquery]
    exact hread.unique hfirst
  · rintro rfl
    exact ⟨_, _, hasQuery_rawQuery url, isSplit_iff.2 rfl, hread⟩

/-- What a URL says of a name is not empty. -/
theorem Says.ne_nil (h : Says url name (some value)) : value ≠ [] := by
  obtain ⟨query, pieces, -, -, hfirst⟩ := h
  generalize hfound : some value = found at hfirst
  induction hfirst with
  | absent => cases hfound
  | here hgives =>
    cases hfound
    cases hgives with
    | intro _ hvalue => exact Percent.decodeField_ne_nil hvalue
  | later _ _ ih => exact ih hfound

/-! ## What is added to a URL -/

/-- A URL is accepted if its host is sound, once it is clean. -/
def Accepted (text : List Char) : Prop := isSoundHost (authority (clean text)) = true

instance (text : List Char) : Decidable (Accepted text) :=
  inferInstanceAs (Decidable (_ = true))

/-- Whether a character is kept where a URL is cleaned. -/
def isKept (c : Char) : Bool := !(c == '\t' || c == '\r' || c == '\n')

/-- What is added behind a question mark is cleaned by itself. -/
theorem clean_append (base rest : List Char) :
    clean (base ++ '?' :: rest) = clean base ++ '?' :: rest.filter isKept := by
  have hmark : ((fun c : Char => decide (c.toNat ≤ 32)) '?') = false := rfl
  rw [clean, Text.stripStart_around hmark, List.filter_append]
  rfl

theorem mem_of_mem_clean {c : Char} {text : List Char} (h : c ∈ clean text) : c ∈ text :=
  (List.dropWhile_sublist _).subset (List.mem_filter.1 h).1

/-- A colon behind a question mark ends a text that holds the mark. -/
theorem mem_of_append_eq {rest scheme after : List Char} (hpath : ':' ∉ path)
    (h : path ++ '?' :: rest = scheme ++ ':' :: after) : '?' ∈ scheme := by
  obtain ⟨more, hscheme, hmore⟩ | ⟨more, hpath', hmore⟩ := List.append_eq_append_iff.1 h
  · cases more with
    | nil => cases hmore
    | cons c more =>
      cases hmore
      rw [hscheme]
      exact List.mem_append_right _ List.mem_cons_self
  · cases more with
    | nil => cases hmore
    | cons c more =>
      cases hmore
      exact absurd (hpath' ▸ List.mem_append_right _ List.mem_cons_self) hpath

/-- Nor does it change what stands behind the scheme. -/
theorem withoutScheme_append (path rest : List Char) :
    withoutScheme (path ++ '?' :: rest) = withoutScheme path ++ '?' :: rest := by
  unfold withoutScheme
  cases hpath : Text.splitFirst? ':' path with
  | some parts =>
    obtain ⟨scheme, after⟩ := parts
    obtain ⟨rfl, hscheme⟩ := Text.splitFirst?_eq_some_iff.1 hpath
    have hwhole : scheme ++ ':' :: after ++ '?' :: rest =
        scheme ++ ':' :: (after ++ '?' :: rest) := by simp
    rw [hwhole, Text.splitFirst?_append hscheme]
    cases scheme with
    | nil => rfl
    | cons c more =>
      dsimp only
      split
      · rfl
      · rw [hwhole]
  | none =>
    -- A colon that comes later ends no scheme, which cannot hold the question mark.
    cases hsplit : Text.splitFirst? ':' (path ++ '?' :: rest) with
    | none => rfl
    | some parts =>
      obtain ⟨scheme, after⟩ := parts
      obtain ⟨hwhole, -⟩ := Text.splitFirst?_eq_some_iff.1 hsplit
      have hmark : '?' ∈ scheme := mem_of_append_eq (Text.splitFirst?_eq_none_iff.1 hpath) hwhole
      cases scheme with
      | nil => rfl
      | cons c more =>
        have hscheme : (c :: more).all isSchemeChar = false :=
          List.all_eq_false.2 ⟨'?', hmark, by decide⟩
        dsimp only
        rw [hscheme, Bool.and_false, if_neg Bool.false_ne_true]

/-- **A query does not change the host of a URL.** -/
theorem authority_append (path rest : List Char) :
    authority (path ++ '?' :: rest) = authority path := by
  unfold authority
  rw [withoutScheme_append]
  generalize withoutScheme path = hier
  -- Two slashes open the host, and they stand before the question mark or not at all.
  split
  · rename_i host hhost
    cases hier with
    | nil => cases hhost
    | cons c hier =>
      cases hier with
      | nil => cases hhost
      | cons d hier =>
        cases hhost
        exact Text.takeWhile_around rfl hier rest
  · rename_i hnone
    split
    · rename_i host
      exact absurd rfl (hnone (host ++ '?' :: rest))
    · rfl

/-- What is added to a URL without a query is its query. -/
theorem hasQuery_clean {base query fragment : List Char} (hbase : '?' ∉ base ∧ '#' ∉ base)
    (hkept : ∀ c ∈ query, isKept c = true) (hquery : '#' ∉ query) (hfragment : IsFragment fragment) :
    HasQuery (clean (base ++ '?' :: (query ++ fragment))) query := by
  have hclean : '?' ∉ clean base ∧ '#' ∉ clean base :=
    ⟨mt mem_of_mem_clean hbase.1, mt mem_of_mem_clean hbase.2⟩
  have hrest : IsFragment (fragment.filter isKept) := by
    cases fragment with
    | nil => exact hfragment
    | cons c rest =>
      cases hfragment c rfl
      exact fun d hd => (Option.some.inj hd).symm
  have hasked : HasQuery (clean base ++ '?' :: query ++ fragment.filter isKept) query :=
    .asked hclean hquery hrest
  rw [clean_append, List.filter_append, List.filter_eq_self.2 hkept]
  simpa using hasked

theorem accepted_append {base : List Char} (h : Accepted base) (rest : List Char) :
    Accepted (base ++ '?' :: rest) := by
  rw [Accepted, clean_append, authority_append]
  exact h

/-! ## Parameters -/

/-- **A parameter of a query**: the bytes of its name and of its value, each with
a text that spells them. -/
structure Parameter where
  name : Bytes
  value : Bytes
  nameText : List Char
  valueText : List Char
  name_spelled : Percent.Spells nameText name
  value_spelled : Percent.Spells valueText value

namespace Parameter

variable {p : Parameter}

/-- How a parameter is written. -/
def text (p : Parameter) : List Char := p.nameText ++ '=' :: p.valueText

/-- Whether the name of a parameter is read as a text. -/
def IsNamed (p : Parameter) (name : List Char) : Prop := Utf8.decodeLossy p.name = name

instance (p : Parameter) (name : List Char) : Decidable (p.IsNamed name) :=
  inferInstanceAs (Decidable (_ = name))

/-- A parameter whose name and value are texts of characters, written with the
fewest escapes. -/
def ofCharacters (name value : List Char) : Parameter where
  name := Utf8.encode name
  value := Utf8.encode value
  nameText := Percent.encode (Text.ofCharacters name)
  valueText := Percent.encode (Text.ofCharacters value)
  name_spelled := Percent.spells_encode name
  value_spelled := Percent.spells_encode value

/-- A parameter gives the name that it has, if any. -/
theorem isNamed_of_gives {name value : List Char}
    (h : Gives p.text (Text.ofCharacters name) value) : p.IsNamed name := by
  have hname : '=' ∉ p.nameText := fun hmem => (p.name_spelled.visible '=' hmem).2.2.2.1 rfl
  have hfield := field?_eq_some_iff.2 h
  rw [field?, text, Text.splitFirst?_append hname] at hfield
  dsimp only at hfield
  split at hfield
  · cases hfield
  · have hread : Percent.decodeField p.nameText = Text.ofCharacters name :=
      congrArg Prod.fst (Option.some.inj hfield)
    rw [Percent.decodeField_of_spells p.name_spelled] at hread
    exact Text.ofCharacters_injective hread

/-- **A parameter gives its name its value**, if it has any. -/
theorem gives (hvalue : p.valueText ≠ []) :
    Gives p.text (Text.ofCharacters (Utf8.decodeLossy p.name))
      (Text.ofCharacters (Utf8.decodeLossy p.value)) := by
  have hname : '=' ∉ p.nameText := fun hmem => (p.name_spelled.visible '=' hmem).2.2.2.1 rfl
  have hgives := Gives.intro hname hvalue
  rwa [Percent.decodeField_of_spells p.name_spelled,
    Percent.decodeField_of_spells p.value_spelled] at hgives

/-- The characters of a parameter can be seen, and none of them ends it. -/
theorem visible : ∀ c ∈ p.text, 0x21 ≤ c.toNat ∧ c.toNat < 0x7F ∧ c ≠ '&' ∧ c ≠ '#' := by
  intro c hc
  rw [text, List.mem_append, List.mem_cons] at hc
  rcases hc with hc | rfl | hc
  · obtain ⟨hlow, hhigh, hamp, -, hanchor⟩ := p.name_spelled.visible c hc
    exact ⟨hlow, hhigh, hamp, hanchor⟩
  · decide
  · obtain ⟨hlow, hhigh, hamp, -, hanchor⟩ := p.value_spelled.visible c hc
    exact ⟨hlow, hhigh, hamp, hanchor⟩

end Parameter

/-- How parameters are written one after another. -/
def queryOf (parameters : List Parameter) : List Char :=
  ['&'].intercalate (parameters.map Parameter.text)

theorem isSplit_queryOf {parameters : List Parameter} (h : parameters ≠ []) :
    IsSplit (queryOf parameters) (parameters.map Parameter.text) := by
  refine ⟨by simpa using h, ?_, rfl⟩
  intro piece hpiece hmem
  obtain ⟨p, -, rfl⟩ := List.mem_map.1 hpiece
  exact (p.visible '&' hmem).2.2.1 rfl

theorem visible_queryOf (parameters : List Parameter) :
    ∀ c ∈ queryOf parameters, 0x21 ≤ c.toNat ∧ c.toNat < 0x7F ∧ c ≠ '#' := by
  have visible (p : Parameter) : ∀ c ∈ p.text, 0x21 ≤ c.toNat ∧ c.toNat < 0x7F ∧ c ≠ '#' := by
    intro c hc
    obtain ⟨hlow, hhigh, -, hanchor⟩ := p.visible c hc
    exact ⟨hlow, hhigh, hanchor⟩
  unfold queryOf
  induction parameters with
  | nil => simp
  | cons p rest ih =>
    cases rest with
    | nil => simpa using visible p
    | cons q rest =>
      intro c hc
      rw [List.map_cons, List.map_cons, List.intercalate_cons_cons, List.append_assoc,
        List.mem_append, List.mem_append, List.mem_singleton, ← List.map_cons] at hc
      rcases hc with hc | rfl | hc
      · exact visible p c hc
      · decide
      · exact ih c hc

end Url

end NetSteward
