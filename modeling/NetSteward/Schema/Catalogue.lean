import NetSteward.Dns.Config
import NetSteward.Binding.Config
import NetSteward.Placement.Config
import NetSteward.Route.Map
/-!
# The catalogue of published records

Every record that is exchanged with callers is published under a title.
The catalogue lists them, with the type that each is read into, how it
is read and how it is written.
-/

namespace NetSteward

/-- The published records. -/
inductive Published
  | manualServer
  | dnsChanges
  | dnsDesired
  | dnsState
  | dnsListing
  | bindingRequest
  | bindingRenaming
  | hubReference
  | gatewayReference
  | binding
  | bindingListing
  | groupRequest
  | groupRenaming
  | group
  | groupListing
  | deleted
  | ipNextHop
  | connectionNextHop
  | creatorReference
  | gatewayCreator
  | serverCreator
  | route
  | routeListing
deriving DecidableEq

namespace Published

/-- All published records. -/
def all : List Published :=
  [manualServer, dnsChanges, dnsDesired, dnsState, dnsListing, bindingRequest, bindingRenaming,
    hubReference, gatewayReference, binding, bindingListing, groupRequest, groupRenaming, group,
    groupListing, deleted, ipNextHop, connectionNextHop, creatorReference, gatewayCreator,
    serverCreator, route, routeListing]

/-- The title of a record. -/
def title : Published → String
  | manualServer => "ManualServer"
  | dnsChanges => "DnsConfigSettings"
  | dnsDesired => "CreateDnsConfigRequest"
  | dnsState => Dns.State.title
  | dnsListing => "DnsConfigListResponse"
  | bindingRequest => "CreateBindingRequest"
  | bindingRenaming => "UpdateBindingRequest"
  | hubReference => Reference.hubTitle
  | gatewayReference => Reference.gatewayTitle
  | binding => Binding.title
  | bindingListing => "BindingListResponse"
  | groupRequest => "CreatePlacementGroupRequest"
  | groupRenaming => "UpdatePlacementGroupRequest"
  | group => PlacementGroup.title
  | groupListing => "PlacementGroupListResponse"
  | deleted => "ReferenceDeleted"
  | ipNextHop => "RouteNextHopIP"
  | connectionNextHop => "RouteNextHopVPNGatewayConnection"
  | creatorReference => Route.CreatorReference.title
  | gatewayCreator => Route.CreatorKind.title .vpnGateway
  | serverCreator => Route.CreatorKind.title .vpnServer
  | route => Route.title
  | routeListing => "RouteListResponse"

/-- The record with a title. -/
def ofTitle? (t : String) : Option Published := all.find? fun p => p.title = t

/-- The type that a record is read into. -/
abbrev Carrier : Published → Type
  | manualServer => Dns.ManualServer
  | dnsChanges => Dns.Changes
  | dnsDesired => Dns.Desired
  | dnsState => Dns.State
  | dnsListing => Dns.Listing
  | bindingRequest => Binding.Request
  | bindingRenaming => Binding.Renaming
  | hubReference => Reference
  | gatewayReference => Reference
  | binding => Binding
  | bindingListing => Binding.Listing
  | groupRequest => PlacementGroup.Request
  | groupRenaming => PlacementGroup.Renaming
  | group => PlacementGroup
  | groupListing => PlacementGroup.Listing
  | deleted => Route.Deleted
  | ipNextHop => Route.NextHop
  | connectionNextHop => Route.NextHop
  | creatorReference => Route.CreatorReference
  | gatewayCreator => Route.Creator
  | serverCreator => Route.Creator
  | route => Route
  | routeListing => Route.Listing

/-- Reads a record. -/
def check (origin : Schema.Origin) : (p : Published) → Json → Checked p.Carrier
  | manualServer => Dns.ManualServer.check origin
  | dnsChanges => Dns.Changes.check origin
  | dnsDesired => Dns.Desired.check origin
  | dnsState => Dns.State.check origin
  | dnsListing => Dns.Listing.check origin
  | bindingRequest => Binding.Request.check origin
  | bindingRenaming => Binding.Renaming.check origin
  | hubReference => Reference.check origin Reference.hubTitle
  | gatewayReference => Reference.check origin Reference.gatewayTitle
  | binding => Binding.check origin
  | bindingListing => Binding.Listing.check origin
  | groupRequest => PlacementGroup.Request.check origin
  | groupRenaming => PlacementGroup.Renaming.check origin
  | group => PlacementGroup.check origin
  | groupListing => PlacementGroup.Listing.check origin
  | deleted => Route.Deleted.check origin
  | ipNextHop => Route.NextHop.checkIp origin
  | connectionNextHop => Route.NextHop.checkConnection origin
  | creatorReference => Route.CreatorReference.check origin
  | gatewayCreator => Route.Creator.checkKind origin .vpnGateway
  | serverCreator => Route.Creator.checkKind origin .vpnServer
  | route => Route.check origin
  | routeListing => Route.Listing.check origin

/-- A record as a JSON value. -/
def toJson : (p : Published) → p.Carrier → Json
  | manualServer => Dns.ManualServer.toJson
  | dnsChanges => Dns.Changes.toJson
  | dnsDesired => Dns.Desired.toJson
  | dnsState => Dns.State.toJson
  | dnsListing => Dns.Listing.toJson
  | bindingRequest => Binding.Request.toJson
  | bindingRenaming => Binding.Renaming.toJson
  | hubReference => Reference.toJson
  | gatewayReference => Reference.toJson
  | binding => Binding.toJson
  | bindingListing => Binding.Listing.toJson
  | groupRequest => PlacementGroup.Request.toJson
  | groupRenaming => PlacementGroup.Renaming.toJson
  | group => PlacementGroup.toJson
  | groupListing => PlacementGroup.Listing.toJson
  | deleted => Route.Deleted.toJson
  | ipNextHop => Route.NextHop.toJson
  | connectionNextHop => Route.NextHop.toJson
  | creatorReference => Route.CreatorReference.toJson
  | gatewayCreator => Route.Creator.toJson
  | serverCreator => Route.Creator.toJson
  | route => Route.toJson
  | routeListing => Route.Listing.toJson

/-- The map of a record as a next hop. -/
def nextHopMap : (p : Published) → p.Carrier → Read (Keyed Json)
  | ipNextHop, n => .ok (Route.NextHop.toMap n)
  | connectionNextHop, n => .ok (Route.NextHop.toMap n)
  | p, _ => .error (.wrongVariant .nextHop p.title)

/-- The map of a record as a creator. -/
def creatorMap : (p : Published) → p.Carrier → Read (Keyed Json)
  | gatewayCreator, c => .ok (Route.Creator.toMap c)
  | serverCreator, c => .ok (Route.Creator.toMap c)
  | p, _ => .error (.wrongVariant .creator p.title)

/-- The map of a record as a route. -/
def routeMap : (p : Published) → p.Carrier → Read (Keyed Json)
  | route, r => .ok (Route.toMap r)
  | _, _ => .error (.shape .noMembers)

end Published

end NetSteward
