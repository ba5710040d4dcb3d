import SiteRouter.Proofs.AddressText
import SiteRouter.Proofs.Menus

/-!
# Packets and rules

What the rules of a script do to a packet. A chain consists of the rules that are added to it and
not disabled (`Script.chain`). A rule applies to a packet that meets all of its arguments, address
lists are read off the entries of the script (`Script.holds`), and the rules that mark traffic are
tried in order until one of them ends the search (`Script.routingMark`).

`Blueprint.holds_localList_iff` says what the list of local addresses of a configuration comes to:
the addresses of its networks, each entry being read back as the subnet that it was written for.
-/

namespace SiteRouter

/-- A packet that has entered the router and is about to be routed. -/
structure Packet where
  source : Ipv4
  destination : Ipv4
  /-- The interface through which it has entered. -/
  inInterface : String
  deriving DecidableEq

open Script

/-! ## Rules -/

/-- Does the address meet what a rule asks? The rule names a list for it to be in or, after an
exclamation mark, a list for it not to be in. -/
def Ipv4.meets (holds : String → Ipv4 → Bool) (value : String) (a : Ipv4) : Bool :=
  match value.toList with
  | '!' :: list => !holds (String.ofList list) a
  | _ => holds value a

/-- The arguments that say where a rule stands and what it does. All others ask something of a
packet. -/
def Script.ruleSettings : List String :=
  ["chain", "disabled", "action", "new-routing-mark", "passthrough", "comment"]

/-- Does the packet meet what an argument of a rule asks of it? It does not if nothing is known
about what is asked. -/
def Packet.meets (holds : String → Ipv4 → Bool) (p : Packet) (key value : String) : Bool :=
  if key = "in-interface" then value == p.inInterface
  else if key = "src-address-list" then p.source.meets holds value
  else if key = "dst-address-list" then p.destination.meets holds value
  else ruleSettings.contains key

namespace Script

/-- The rules of a chain. -/
def chain (s : Script) (menu name : String) : List Command :=
  (s.commandsAt menu).filter fun c => c.adds && c.has "chain" name

/-- Is all that a rule asks met? -/
def Command.applies (c : Command) (meets : String → String → Bool) : Bool :=
  c.args.all fun arg => arg.value.any (meets arg.key)

/-- The mark that rules leave on a packet with a mark: a rule that accepts the packet ends the
search, and so does one that marks it and does not pass it on. -/
def markFrom (meets : String → String → Bool) : Option String → List Command → Option String
  | mark, [] => mark
  | mark, c :: rest =>
    if !c.applies meets then markFrom meets mark rest
    else if c.has "action" "accept" then mark
    else if c.has "action" "mark-routing" then
      if c.has "passthrough" "no" then c.get? "new-routing-mark"
      else markFrom meets (c.get? "new-routing-mark") rest
    else markFrom meets mark rest

/-- Does the address list hold the address? It is what its entries hold together. -/
def holds (s : Script) (list : String) (a : Ipv4) : Bool :=
  (s.commandsAt "/ip firewall address-list").any fun c =>
    c.adds && c.has "list" list && ((c.get? "address").bind Cidr.ofString?).any (·.contains a)

/-- The mark that the packet gets before it is routed, if it gets one. -/
def routingMark (s : Script) (p : Packet) : Option String :=
  markFrom (p.meets s.holds) none (s.chain "/ip firewall mangle" "prerouting")

/-- A chain has all commands of its menu if each of them is a rule of the chain. -/
theorem chain_eq {s : Script} {menu name : String} {rules : List Command}
    (hrules : s.commandsAt menu = rules)
    (hchain : ∀ c ∈ rules, c.adds = true ∧ c.has "chain" name = true) :
    s.chain menu name = rules := by
  rw [chain, hrules, List.filter_eq_self]
  exact fun c hc => Bool.and_eq_true_iff.mpr (hchain c hc)

end Script

/-! ## Address lists -/

section Lists

variable {holds : String → Ipv4 → Bool} {list : String} {a : Ipv4}

theorem Ipv4.meets_of_plain (h : list.toList.head? ≠ some '!') :
    a.meets holds list = holds list a := by
  unfold meets
  split
  next rest hlist => exact absurd (by rw [hlist]; rfl) h
  next => rfl

theorem Ipv4.meets_negated : a.meets holds s!"!{list}" = !holds list a := by
  have hchars : (s!"!{list}").toList = '!' :: list.toList := by simp [toString]
  rw [meets, hchars]
  exact congrArg (fun name => !holds name a) String.ofList_toList

end Lists

namespace Blueprint

variable {b : Blueprint} {list : String} {a : Ipv4}

/-- An address list holds the subnets of its entries. -/
theorem holds_iff : b.script.holds list a = true ↔
    (∃ net ∈ b.profile.managementAllowList, b.profile.managementList = list ∧ a ∈ net) ∨
      ∃ n ∈ b.site.networks, b.profile.localList = list ∧ a ∈ n.subnet := by
  rw [Script.holds, commandsAt_addressList, addressListCommands, List.any_append, List.any_map,
    List.any_map, Bool.or_eq_true, List.any_eq_true, List.any_eq_true]
  simp [addressEntry, Command.adds, Command.has, Command.get?, Cidr.ofString?_render,
    Cidr.contains_iff]

theorem holds_localList_iff (hlists : b.profile.managementList ≠ b.profile.localList) :
    b.script.holds b.profile.localList a = true ↔ ∃ n ∈ b.site.networks, a ∈ n.subnet := by
  rw [holds_iff]
  simp [hlists]

end Blueprint

end SiteRouter
