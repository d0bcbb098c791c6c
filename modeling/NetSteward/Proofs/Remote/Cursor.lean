import NetSteward.Proofs.Url.Query
import NetSteward.Remote.Cursor
/-!
# The token in the link of a page

A page that is not the last one links to the next by its address, and the token
stands in the query of that address. Whatever bytes of the token are escaped
there, and whatever else the address holds, the token is read as it was meant:
`cursor_of_link` is the main result. It also says what is read of any address at
all.
-/

namespace NetSteward

namespace Remote

/-- The name of the parameter that holds a token. -/
def startName : List Char := "start".toList

/-- **An address with a token**: a URL without a query, to which a query is added
in which a parameter `start` has the token for its value, and perhaps a fragment.
No parameter before it has this name. -/
structure PageLink where
  base : List Char
  before : List Url.Parameter
  start : Url.Parameter
  after : List Url.Parameter
  fragment : Option (List Char)
  token : List Char
  base_plain : '?' ∉ base ∧ '#' ∉ base
  base_accepted : Url.Accepted base
  before_other : ∀ p ∈ before, ¬ p.IsNamed startName
  start_name : start.name = Utf8.encode startName
  start_value : start.value = Utf8.encode token
  token_ne_nil : token ≠ []

namespace PageLink

/-- The parameters of an address, in order. -/
def parameters (l : PageLink) : List Url.Parameter := l.before ++ l.start :: l.after

/-- What stands behind the query of an address. -/
def tail (l : PageLink) : List Char :=
  match l.fragment with
  | none => []
  | some fragment => '#' :: fragment

/-- The address itself. -/
def text (l : PageLink) : List Char := l.base ++ '?' :: (Url.queryOf l.parameters ++ l.tail)

theorem accepted (l : PageLink) : Url.Accepted l.text := Url.accepted_append l.base_accepted _

/-- The query of an address is made of its parameters. -/
theorem hasQuery (l : PageLink) : Url.HasQuery (Url.clean l.text) (Url.queryOf l.parameters) := by
  have hvisible := Url.visible_queryOf l.parameters
  have htail : Url.IsFragment l.tail := by
    unfold tail
    cases l.fragment with
    | none => exact fun c hc => by cases hc
    | some fragment => exact fun c hc => (Option.some.inj hc).symm
  refine Url.hasQuery_clean l.base_plain (fun c hc => ?_) (fun hc => (hvisible '#' hc).2.2 rfl) htail
  obtain ⟨hlow, -⟩ := hvisible c hc
  have apart (d : Char) (hd : d.toNat < 0x21) : c ≠ d := by
    rintro rfl
    omega
  simp [Url.isKept, apart '\t' (by decide), apart '\r' (by decide), apart '\n' (by decide)]

/-- The bytes of the token are some, and so is what spells them. -/
theorem startText_ne_nil (l : PageLink) : l.start.valueText ≠ [] := by
  intro hnil
  have hspelled := l.start.value_spelled
  rw [hnil, l.start_value] at hspelled
  have hread := Utf8.decodeLossy_encode l.token
  generalize Utf8.encode l.token = bytes at hspelled hread
  cases hspelled
  exact l.token_ne_nil hread.symm

/-- **An address says that the token is what it was made with.** -/
theorem tells_token (l : PageLink) :
    Url.Says (Url.clean l.text) startName (some (Text.ofCharacters l.token)) := by
  have hname : Text.ofCharacters startName = startName := Text.ofCharacters_of_plain (by decide)
  have hgives := l.start.gives l.startText_ne_nil
  rw [l.start_name, l.start_value, Utf8.decodeLossy_encode, Utf8.decodeLossy_encode, hname] at hgives
  have hbefore : ∀ piece ∈ l.before.map Url.Parameter.text, ∀ value,
      ¬ Url.Gives piece startName value := by
    intro piece hpiece value hother
    obtain ⟨p, hp, rfl⟩ := List.mem_map.1 hpiece
    exact l.before_other p hp (Url.Parameter.isNamed_of_gives (hname.symm ▸ hother))
  have hsplit : Url.IsSplit (Url.queryOf l.parameters) (l.parameters.map Url.Parameter.text) :=
    Url.isSplit_queryOf (by simp [parameters])
  refine ⟨_, _, l.hasQuery, hsplit, ?_⟩
  rw [parameters, List.map_append, List.map_cons]
  exact .of_append hbefore hgives

end PageLink

/-! ## Pages -/

/-- The address that a page links to. -/
def LinksTo (page : Json) (address : String) : Prop :=
  ∃ members link, page = .obj members ∧ Keyed.get? members "next" = some (.obj link) ∧
    Keyed.get? link "href" = some (.str address)

variable {page : Json} {address : String}

/-- The token of a page is the one in the address that it links to. -/
theorem nextStart_of_linksTo (h : LinksTo page address) :
    nextStart page = startOfAddress address := by
  obtain ⟨members, link, rfl, hnext, hlink⟩ := h
  have hfound : (Json.obj members).find "next" = .ok (.obj link) := by
    rw [Json.find_obj, hnext, Option.getD_some]
  have haddress : (Json.obj link).find "href" = .ok (.str address) := by
    rw [Json.find_obj, hlink, Option.getD_some]
  have hgiven : (Json.obj link).isGiven = true := by
    cases link with
    | nil => cases hlink
    | cons => rfl
  unfold nextStart
  rw [hfound]
  change (if (Json.obj link).isGiven then _ else _) = _
  rw [if_pos hgiven, haddress]
  change (if (Json.str address).isGiven then startOfAddress address else _) = _
  split
  · rfl
  · rename_i hempty
    -- An empty address has no query, so there is no token in it either.
    have haddress : address = "" := by simpa using hempty
    rw [haddress]
    rfl

/-- What is read of an address that is accepted is what is looked up in its
query. -/
theorem startOfAddress_of_accepted (h : Url.Accepted address.toList) :
    startOfAddress address =
      .ok ((Url.fieldNamed? startName (Url.rawQuery (Url.clean address.toList))).map
        String.ofList) := by
  have hquery : Url.query address.toList = .ok (Url.rawQuery (Url.clean address.toList)) :=
    if_pos h
  rw [startOfAddress, hquery]
  rfl

theorem startOfAddress_of_refused (h : ¬ Url.Accepted address.toList) :
    startOfAddress address = .error .malformed := by
  have hquery : Url.query address.toList = .error .malformed := if_neg h
  rw [startOfAddress, hquery]
  rfl

/-- **The token in the link of a page.** An address that was made with a token is
read as this token. Of any other address that is accepted, what is read is what
the address says, and never an empty token; and one that is not accepted is an
error. -/
theorem cursor_of_link :
    (∀ (page : Json) (l : PageLink), LinksTo page (String.ofList l.text) →
      nextStart page = .ok (some (String.ofList (Text.ofCharacters l.token)))) ∧
    (∀ (page : Json) (address : String), LinksTo page address → Url.Accepted address.toList →
      ∃ token, nextStart page = .ok (token.map String.ofList) ∧ token ≠ some [] ∧
        ∀ found, Url.Says (Url.clean address.toList) startName found ↔ found = token) ∧
    ∀ (page : Json) (address : String), LinksTo page address → ¬ Url.Accepted address.toList →
      nextStart page = .error .malformed := by
  refine ⟨fun page l hpage => ?_, fun page address hpage haccepted => ?_,
    fun page address hpage hrefused => ?_⟩
  · have hsays := Url.says_iff.1 l.tells_token
    have haccepted : Url.Accepted (String.ofList l.text).toList := by
      rw [String.toList_ofList]
      exact l.accepted
    rw [nextStart_of_linksTo hpage, startOfAddress_of_accepted haccepted, String.toList_ofList,
      hsays]
    rfl
  · refine ⟨Url.fieldNamed? startName (Url.rawQuery (Url.clean address.toList)), ?_, ?_, ?_⟩
    · rw [nextStart_of_linksTo hpage, startOfAddress_of_accepted haccepted]
    · intro hempty
      exact (Url.says_iff.2 hempty).ne_nil rfl
    · intro found
      rw [Url.says_iff]
      exact eq_comm
  · rw [nextStart_of_linksTo hpage, startOfAddress_of_refused hrefused]

/-- A token of characters that mean something in a URL, and of one that is not of
ASCII. -/
def reservedToken : List Char := "a+b &c=\u00E9#?%41".toList

/-- An address with this token, and with another one in its fragment. -/
def reservedLink : PageLink where
  base := "https://us-south.iaas.cloud.ibm.com/v1/vpcs".toList
  before := [.ofCharacters "limit".toList "50".toList]
  start := .ofCharacters startName reservedToken
  after := [.ofCharacters "generation".toList "2".toList]
  fragment := some "?start=other".toList
  token := reservedToken
  base_plain := by decide
  base_accepted := by decide
  before_other := List.forall_mem_singleton.2 (by decide)
  start_name := rfl
  start_value := rfl
  token_ne_nil := by decide

/-- A page that links to it. -/
def reservedPage : Json :=
  .obj [("limit", .int 50), ("next", .obj [("href", .str (String.ofList reservedLink.text))])]

theorem cursor_of_link_reserved :
    LinksTo reservedPage (String.ofList reservedLink.text) ∧
      nextStart reservedPage = .ok (some "a+b &c=\u00E9#?%41") := by
  have hlinks : LinksTo reservedPage (String.ofList reservedLink.text) := ⟨_, _, rfl, rfl, rfl⟩
  exact ⟨hlinks, cursor_of_link.1 reservedPage reservedLink hlinks⟩

end Remote

end NetSteward
