import SiteRouter.Address.Cidr
import SiteRouter.Document.Value

/-!
# Routes

A planned route: where it leads, through which gateway, in which table, and the properties by which
the device chooses among routes and resolves one through another.
-/

namespace SiteRouter

open Document (Value)

/-- The next hop of a route. -/
inductive Gateway where
  | address (address : Ipv4)
  | interface (name : String)
  deriving DecidableEq

/-- The next hop as it is written. -/
def Gateway.render : Gateway → String
  | .address a => a.render
  | .interface name => name

/-- A route of one table. -/
structure Route where
  destination : Cidr
  gateway : Gateway
  /-- The table of the route; without one it is a route of the main table. -/
  table : Option String
  distance : Option Nat
  scope : Option Nat
  targetScope : Option Nat
  checkGateway : Bool
  comment : String
  deriving DecidableEq

namespace Route

/-- A route of the main table without further properties. -/
def plain (destination : Cidr) (gateway : Gateway) (comment : String) : Route :=
  ⟨destination, gateway, none, none, none, none, false, comment⟩

/-- The properties of a route besides its destination and gateway, as names with values, in the
order in which they are shown. -/
def properties (r : Route) : List (String × String) :=
  let number := fun key (n : Option Nat) => n.toList.map fun n => (key, toString n)
  r.table.toList.map (fun t => ("table", t)) ++ number "distance" r.distance ++
    number "scope" r.scope ++ number "target-scope" r.targetScope ++
    (if r.checkGateway then [("check-gateway", "ping")] else [])

/-- The route on one line, without its comment. -/
def describe (r : Route) : String :=
  " ".intercalate (s!"{r.destination} via {r.gateway.render}" ::
    r.properties.map fun (key, value) => key ++ "=" ++ value)

end Route

/-- The document value of a gateway. -/
def Gateway.toValue : Gateway → Value
  | .address a => .table [("type", .text "address"), ("value", .text a.render)]
  | .interface name => .table [("type", .text "interface"), ("value", .text name)]

/-- The document value of a route. -/
def Route.toValue (r : Route) : Value :=
  let number := fun (n : Option Nat) => n.elim Value.null Value.natural
  .table [
    ("dst", .text r.destination.render),
    ("gateway", r.gateway.toValue),
    ("table", r.table.elim .null .text),
    ("distance", number r.distance),
    ("scope", number r.scope),
    ("target_scope", number r.targetScope),
    ("check_gateway", .bool r.checkGateway),
    ("comment", .text r.comment)]

end SiteRouter
