import NetSteward.Remote.Call
import NetSteward.Url.Query
/-!
# Pages and cursors

The service answers a listing page by page. A page that is not the last
one names the address of the next, and the token to ask for it with is
the field `start` of the query of that address.
-/

namespace NetSteward

namespace Remote

/-- The token in the address of a page. -/
def startOfAddress (address : String) : Except Mismatch (Option String) := do
  let query ← Url.query address.toList
  return (Url.fieldNamed? "start".toList query).map String.ofList

/-- The token of the page after a page, if there is one. -/
def nextStart (page : Json) : Except Mismatch (Option String) := do
  let next ← page.find "next"
  if next.isGiven then
    let address ← next.find "href"
    if address.isGiven then
      match address with
      | .str address => startOfAddress address
      | _ => .error .noMembers
    else return none
  else return none

/-- The items of a page; a page without the member has none. -/
def pageItems (collection : Collection) (page : Json) : Except Mismatch (List Json) := do
  match ← page.find? collection.itemsMember with
  | some items => items.iterate
  | none => return []

/-- What a page holds: its items and the token of the page after it. -/
def readPage (collection : Collection) (page : Json) :
    Except Mismatch (List Json × Option String) := do
  let items ← pageItems collection page
  let next ← nextStart page
  return (items, next)

end Remote

end NetSteward
