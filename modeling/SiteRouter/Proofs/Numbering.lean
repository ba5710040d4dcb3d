import SiteRouter.Proofs.RouteCommands
import SiteRouter.Proofs.Steering

/-!
# One number for every uplink

The position of an uplink is counted in four places: where names of networks are checked, where
routes are planned, where uplinks are brought up, and where they join the list of uplinks. Were one
of them to count the routed uplinks only, the traffic of one uplink would leave through another.

They agree. What a script says of the uplink at an index is said under the number of that index,
whatever uplinks come before it: how it is brought up (`Script.BringsUp`), and its table, its routes
and its marks if it is routed (`Script.Routes`). An uplink that is not routed leaves its number
unused (`Script.LeavesOut`). `compile_numbers_uplinks` says so of every compiled script.
-/

namespace SiteRouter

open Script

/-! ## What a script says of an uplink -/

/-- The menus in which uplinks are brought up. -/
def bringUpMenus : List String :=
  ["/ip address", "/interface pppoe-client", "/ip dhcp-client"]

/-- The commands that bring something up on a port. -/
def Script.bringUps (sc : Script) (port : String) : List Command :=
  bringUpMenus.flatMap fun menu => sc.select menu [("interface", port)]

/-- The interface through which an uplink leaves: its client if it has one, else its port. -/
inductive Uplink.HasEgress (u : Uplink) (position : Nat) : String → Prop where
  | client (username password : Option String) (kind : u.kind = .pppoe username password) :
      u.HasEgress position s!"pppoe-out{position}"
  | port (kind : ∀ username password, u.kind ≠ .pppoe username password) :
      u.HasEgress position u.interface

/-- The command brings the uplink up: it adds the address that the uplink has on its port, or a
client there, with the account of the uplink. -/
structure Script.Command.BringsUp (c : Command) (u : Uplink) : Prop where
  adds : c.adds = true
  menu : c.path = u.kind.menu
  address : ∀ a gateway, u.kind = .static (some a) gateway → c.get? "address" = some a.render
  account : ∀ name password, u.kind = .pppoe (some name) password → c.get? "user" = some name
  /-- A client stays down unless it is told to start. -/
  starts : u.kind.menu ≠ "/ip address" → c.get? "disabled" = some "no"
  comment : c.get? "comment" = some u.id

/-- The uplink at an index is brought up once and is one member of the list of uplinks, under the
name that its position gives it. -/
structure Script.BringsUp (sc : Script) (s : Site) (list : String) (k : Nat) (u : Uplink) :
    Prop where
  once : ∃ c, sc.bringUps u.interface = [c] ∧ c.BringsUp u
  /-- The client has the name that was kept free for it. -/
  client : ∀ username password, u.kind = .pppoe username password →
    sc.AddsOnce "/interface pppoe-client" [("interface", u.interface)]
        [("name", s!"pppoe-out{k + 1}")] ∧
      ∀ n ∈ s.networks, n.name ≠ s!"pppoe-out{k + 1}"
  /-- The list has a member for each uplink, and they stand in the order of the uplinks. Names would
  not tell whose a member is, since a port may be called like a client. -/
  members : (sc.commandsAt "/interface list member").length = s.uplinks.length
  member : ∃ c egress, (sc.commandsAt "/interface list member")[k]? = some c ∧ c.adds = true ∧
    u.HasEgress (k + 1) egress ∧ c.hasAll [("list", list), ("interface", egress)] = true

/-- The marks of a network are for the table of the uplink at the index. -/
structure Site.Marks (s : Site) (probes : List Ipv4) (n : Network) (k : Nat) : Prop where
  enabled : s.steering.enabled = true
  choice : 2 ≤ routedCount s.uplinks probes
  steered : s.SteersTo probes n k

/-- The uplink at an index has one table, and its routes and marks are those of that table. -/
structure Script.Routes (sc : Script) (s : Site) (probes : List Ipv4) (k : Nat) (u : Uplink) :
    Prop where
  table : sc.AddsOnce "/routing table" [("name", s!"to-wan{k + 1}")] []
  /-- The gateway of the uplink pins its probe, and is where its backups in other tables lead. -/
  gateway : ∃ probe gateway, probes[k]? = some probe ∧ u.HasGateway (k + 1) gateway ∧
    sc.AddsOnce "/ip route" [("scope", "10"), ("comment", s!"probe {u.id}")]
      [("dst-address", s!"{probe}/32"), ("gateway", gateway.render)] ∧
    sc.AddsOnce "/ip route" [("routing-table", s!"to-wan{k + 1}"), ("check-gateway", "ping")]
      [("dst-address", "0.0.0.0/0"), ("gateway", probe.render)] ∧
    ∀ j v, IsRouted s.uplinks probes j v → j ≠ k →
      sc.AddsOnce "/ip route" [("routing-table", s!"to-wan{j + 1}"), ("distance", s!"{k + 3}")]
        [("dst-address", "0.0.0.0/0"), ("gateway", gateway.render),
          ("comment", s!"to-wan{j + 1} backup via {u.id}")]
  /-- Beside the default, the table has one backup through every other uplink. -/
  backups : ∀ j v, IsRouted s.uplinks probes j v → j ≠ k → ∃ gateway, v.HasGateway (j + 1) gateway ∧
    sc.AddsOnce "/ip route" [("routing-table", s!"to-wan{k + 1}"), ("distance", s!"{j + 3}")]
      [("dst-address", "0.0.0.0/0"), ("gateway", gateway.render),
        ("comment", s!"to-wan{k + 1} backup via {v.id}")]
  /-- There are no further routes in the table. -/
  size : (sc.select "/ip route" [("routing-table", s!"to-wan{k + 1}")]).length =
    routedCount s.uplinks probes
  marked : ∀ n ∈ s.networks, s.Marks probes n k →
    sc.AddsOnce "/ip firewall mangle" [("in-interface", n.name)]
      [("chain", "prerouting"), ("action", "mark-routing"),
        ("new-routing-mark", s!"to-wan{k + 1}")]
  marked_only : ∀ c ∈ sc.select "/ip firewall mangle" [("new-routing-mark", s!"to-wan{k + 1}")],
    ∃ n ∈ s.networks, s.Marks probes n k ∧ c.get? "in-interface" = some n.name

/-- A route is about the uplink at an index: it is in the table of the uplink or leads through its
client, it pins its probe, or it has the distance of its default in the main table or of its backup
in another. -/
inductive Script.Command.IsRouteOf (c : Command) (k : Nat) (u : Uplink) : Prop where
  | table (said : c.get? "routing-table" = some s!"to-wan{k + 1}")
  | client (said : c.get? "gateway" = some s!"pppoe-out{k + 1}")
  | probe (scope : c.get? "scope" = some "10") (said : c.get? "comment" = some s!"probe {u.id}")
  | mainDefault (main : c.get? "routing-table" = none)
      (said : c.get? "distance" = some s!"{k + 1}")
  | backup (table : String) (other : c.get? "routing-table" = some table)
      (said : c.get? "distance" = some s!"{k + 3}")

/-- The uplink at an index is in no route and under no mark. -/
structure Script.LeavesOut (sc : Script) (k : Nat) (u : Uplink) : Prop where
  no_table : sc.select "/routing table" [("name", s!"to-wan{k + 1}")] = []
  no_route : ∀ c ∈ sc.commandsAt "/ip route", ¬c.IsRouteOf k u
  no_mark : sc.select "/ip firewall mangle" [("new-routing-mark", s!"to-wan{k + 1}")] = []

/-! ## Bringing up -/

namespace Uplink

variable {u : Uplink} {position : Nat}

theorem get?_interface_bringUp : (u.bringUp position).get? "interface" = some u.interface := by
  unfold bringUp
  cases u.kind with
  | «static» address gateway => cases address <;> rfl
  | pppoe username password => cases username <;> cases password <;> rfl
  | dhcp => rfl

theorem get?_comment_bringUp : (u.bringUp position).get? "comment" = some u.id := by
  unfold bringUp
  cases u.kind with
  | «static» address gateway => cases address <;> rfl
  | pppoe username password => cases username <;> cases password <;> rfl
  | dhcp => rfl

theorem get?_name_bringUp {username password : Option String}
    (hkind : u.kind = .pppoe username password) :
    (u.bringUp position).get? "name" = some s!"pppoe-out{position}" := by
  unfold bringUp egress
  rw [hkind]
  cases username <;> cases password <;> rfl

/-- The command that is made for an uplink brings it up. -/
theorem bringsUp_bringUp (u : Uplink) (position : Nat) : (u.bringUp position).BringsUp u := by
  refine ⟨?_, u.path_bringUp position, ?_, ?_, ?_, get?_comment_bringUp⟩
  · unfold bringUp
    cases u.kind <;> simp
  · intro a gateway hkind
    rw [bringUp, hkind]
    rfl
  · intro name password hkind
    rw [bringUp, hkind]
    cases password <;> rfl
  · unfold bringUp
    cases u.kind with
    | «static» address gateway => exact fun hmenu => absurd rfl hmenu
    | pppoe username password => cases username <;> cases password <;> exact fun _ => rfl
    | dhcp => exact fun _ => rfl

theorem hasEgress_egress (u : Uplink) (position : Nat) :
    u.HasEgress position (u.egress position) := by
  unfold egress
  cases hkind : u.kind with
  | pppoe username password => exact .client username password hkind
  | «static» address gateway => exact .port fun _ _ h => nomatch hkind.symm.trans h
  | dhcp => exact .port fun _ _ h => nomatch hkind.symm.trans h

end Uplink

namespace Blueprint

variable {b : Blueprint} {k : Nat} {u : Uplink}

/-- Of the commands that bring uplinks up, one is about the port of an uplink. -/
theorem filter_bringUp (hports : (b.site.uplinks.map (·.interface)).Nodup)
    (hu : b.site.uplinks[k]? = some u) (menu : String) :
    ((b.site.placedUplinks.map fun (i, u) => u.bringUp i).filter (·.path == menu)).filter
        (·.hasAll [("interface", u.interface)]) =
      if u.kind.menu = menu then [u.bringUp (k + 1)] else [] := by
  have hnodup : (b.site.placedUplinks.map fun x => x.2.interface).Nodup := by
    rw [← b.site.map_snd_placedUplinks, List.map_map] at hports
    exact hports
  have hport : (b.site.placedUplinks.map fun (i, u) => u.bringUp i).filter
      (·.hasAll [("interface", u.interface)]) = [u.bringUp (k + 1)] := by
    refine filter_map_of_nodup hnodup
      (List.mem_of_getElem? (Site.getElem?_placedUplinks hu)) ?_ fun x _ hx => ?_
    · simp [Uplink.get?_interface_bringUp]
    · simpa [Uplink.get?_interface_bringUp] using hx
  rw [List.filter_filter, ← List.filter_congr fun c _ => Bool.and_comm _ _, ← List.filter_filter,
    hport, List.filter_cons, Uplink.path_bringUp, List.filter_nil]
  simp only [beq_iff_eq]

/-- Nothing but the uplink is brought up on its port. -/
theorem bringUps_eq {profile : Profile} {strict : Bool} (hs : b.site.IsValid profile strict)
    (hu : b.site.uplinks[k]? = some u) :
    b.script.bringUps u.interface = [u.bringUp (k + 1)] := by
  have hnetworks : (b.site.networks.map Network.addressCommand).filter
      (·.hasAll [("interface", u.interface)]) = [] := by
    rw [List.filter_eq_nil_iff, List.forall_mem_map]
    intro n hn hsaid
    have hname : n.name = u.interface := by
      simpa [Network.addressCommand, Command.get?, Command.add, Command.arg] using hsaid
    obtain ⟨p, hp, hport⟩ := hs.uplink_ports u (List.mem_of_getElem? hu)
    exact hs.names_not_port n hn p hp (hport.trans hname.symm)
  have hmenu := filter_bringUp hs.uplink_ports_nodup hu
  rw [Script.bringUps, bringUpMenus, List.flatMap_cons, List.flatMap_cons, List.flatMap_cons,
    List.flatMap_nil, select, select, select, commandsAt_address, commandsAt_client,
    commandsAt_dhcpClient, List.filter_append, hnetworks, hmenu, hmenu, hmenu]
  cases u.kind <;> simp [UplinkKind.menu]

/-- How an uplink is brought up. -/
theorem bringsUp {profile : Profile} {strict : Bool} (hs : b.site.IsValid profile strict)
    (hu : b.site.uplinks[k]? = some u) :
    b.script.BringsUp b.site b.profile.wanList k u where
  once := ⟨u.bringUp (k + 1), bringUps_eq hs hu, u.bringsUp_bringUp (k + 1)⟩
  client username password hkind := by
    refine ⟨⟨u.bringUp (k + 1), ?_, (u.bringsUp_bringUp (k + 1)).adds, ?_⟩, ?_⟩
    · rw [select, commandsAt_client, filter_bringUp hs.uplink_ports_nodup hu, hkind]
      rfl
    · simp [Uplink.get?_name_bringUp hkind]
    · exact fun n hn => hs.names_not_client n hn k u username password hu hkind
  members := by
    rw [commandsAt_member, List.length_map, ← b.site.map_snd_placedUplinks, List.length_map]
  member := by
    refine ⟨u.memberCommand b.profile.wanList (k + 1), u.egress (k + 1), ?_, ?_,
      u.hasEgress_egress (k + 1), ?_⟩
    · rw [commandsAt_member, List.getElem?_map, Site.getElem?_placedUplinks hu]
      rfl
    · simp [Uplink.memberCommand]
    · simp [Uplink.memberCommand, Command.get?]

end Blueprint

/-! ## Marks -/

/-- No interface has two marks. -/
theorem SteeringPlan.nodup_interfaces {s : Site} {f : Failover} {p : SteeringPlan}
    (h : plan s f = .ok p) (hnames : (s.networks.map (·.name)).Nodup) :
    (p.marks.map (·.interface)).Nodup := by
  rcases plan_cases s f with ⟨-, hplan⟩ | ⟨fallback, rest, -, -, hplan⟩
  · obtain rfl := Except.ok.inj (hplan.symm.trans h)
    exact List.nodup_nil
  · obtain ⟨marks, hmarks, rfl⟩ := map_eq_ok.mp (hplan.symm.trans h)
    show (marks.map (·.interface)).Nodup
    rw [map_eq_of_mapM_eq_ok hmarks fun n m hm => (markOf_cases hm).2.1]
    exact hnames

namespace Blueprint

variable {b : Blueprint} {strict : Bool} {k : Nat}

/-- Beside the bypass for local traffic, the rules that mark traffic are the marks of the plan. -/
theorem select_mark {said : List (String × String)}
    (hsaid : (bypassRule b.profile.localList).hasAll said = false) :
    b.script.select "/ip firewall mangle" said =
      (b.plan.steering.marks.map (·.command b.profile.localList)).filter (·.hasAll said) := by
  have hrules : b.markRules = bypassRule b.profile.localList ::
      b.plan.steering.marks.map (·.command b.profile.localList) := rfl
  rw [select, commandsAt_mangle, hrules, List.filter_cons, hsaid]
  rfl

/-- What marks traffic for a table is a mark of the plan for that table. -/
theorem of_mem_select_table {c : Command} {table : String}
    (hc : c ∈ b.script.select "/ip firewall mangle" [("new-routing-mark", table)]) :
    ∃ m ∈ b.plan.steering.marks, m.table = table ∧ c = m.command b.profile.localList := by
  rw [select_mark (by rfl)] at hc
  obtain ⟨hc, hsaid⟩ := List.mem_filter.mp hc
  obtain ⟨m, hm, rfl⟩ := List.mem_map.mp hc
  refine ⟨m, hm, ?_, rfl⟩
  simpa [Mark.command, prerouting, Command.get?] using hsaid

variable (hs : b.site.IsValid b.profile strict)
  (hf : b.plan.failover.IsFor b.site.uplinks b.profile.probes)
  (hp : SteeringPlan.plan b.site b.plan.failover = .ok b.plan.steering)

include hs hf hp

/-- The traffic of a network is marked once, for the uplink that the network is steered to. -/
theorem addsOnce_mark {n : Network} (hn : n ∈ b.site.networks)
    (hmarks : b.site.Marks b.profile.probes n k) :
    b.script.AddsOnce "/ip firewall mangle" [("in-interface", n.name)]
      [("chain", "prerouting"), ("action", "mark-routing"),
        ("new-routing-mark", s!"to-wan{k + 1}")] := by
  have hchoice : b.site.steering.enabled = true ∧ 2 ≤ b.plan.failover.uplinks.length := by
    rw [hf.length_uplinks]
    exact ⟨hmarks.enabled, hmarks.choice⟩
  rcases SteeringPlan.marks_cases hp with ⟨hnone, -⟩ | ⟨fallback, rest, hhead, -, hall, hmem⟩
  · exact absurd hchoice hnone
  obtain ⟨m, hm⟩ := hall n hn
  -- The table of the mark is that of the uplink since a network is steered to one uplink alone.
  obtain ⟨hname, j, hj, htable⟩ := hs.of_markOf_eq_ok hf hhead hm
  obtain rfl : j = k := hs.steersTo_unique hj hmarks.steered
  refine ⟨m.command b.profile.localList, ?_, ?_, ?_⟩
  · rw [select_mark (by rfl)]
    refine filter_map_of_nodup (SteeringPlan.nodup_interfaces hp hs.network_names_nodup)
      ((hmem m).mpr ⟨n, hn, hm⟩) ?_ fun m' _ hm' => ?_
    · simp [Mark.command, prerouting, Command.get?, hname]
    · rw [hname]
      simpa [Mark.command, prerouting, Command.get?] using hm'
  · simp [Mark.command, prerouting]
  · simp [Mark.command, prerouting, Command.get?, htable]

/-- No other traffic is marked for an uplink. -/
theorem of_mem_select_mark {c : Command}
    (hc : c ∈ b.script.select "/ip firewall mangle" [("new-routing-mark", s!"to-wan{k + 1}")]) :
    ∃ n ∈ b.site.networks, b.site.Marks b.profile.probes n k ∧
      c.get? "in-interface" = some n.name := by
  obtain ⟨m, hmem, htable, rfl⟩ := of_mem_select_table hc
  rcases SteeringPlan.marks_cases hp with ⟨-, hnone⟩ |
    ⟨fallback, rest, hhead, hchoice, -, hmarks⟩
  · rw [hnone] at hmem
    exact absurd hmem List.not_mem_nil
  obtain ⟨n, hn, hm⟩ := (hmarks m).mp hmem
  obtain ⟨hname, j, hj, htable'⟩ := hs.of_markOf_eq_ok hf hhead hm
  obtain rfl : k = j := Nat.succ.inj (routingTable_injective (htable.symm.trans htable'))
  rw [hf.length_uplinks] at hchoice
  refine ⟨n, hn, ⟨hchoice.1, hchoice.2, hj⟩, ?_⟩
  simp [Mark.command, prerouting, Command.get?, hname]

end Blueprint

/-! ## Routed or not -/

/-- An address is not written like a client. -/
theorem Ipv4.render_ne_client (a : Ipv4) (position : Nat) :
    a.render ≠ s!"pppoe-out{position}" := by
  intro h
  have hp : 'p' ∈ (s!"pppoe-out{position}").toList := by simp [toString]
  rw [← h] at hp
  exact Ipv4.not_mem_render (by decide) (by decide) a hp

/-- A gateway that is written like a client tells the position. -/
theorem Uplink.HasGateway.position_eq {u : Uplink} {i j : Nat} {g : Gateway}
    (h : u.HasGateway i g) (hclient : g.render = s!"pppoe-out{j}") : i = j := by
  cases h with
  | address address gateway kind => exact absurd hclient (Ipv4.render_ne_client gateway j)
  | client username password kind => exact pppoeInterface_injective hclient

namespace Failover.IsFor

variable {uplinks : List Uplink} {probes : List Ipv4} {f : Failover} {k : Nat} {u : Uplink}

/-- What the plan holds of an uplink that is routed. -/
theorem exists_routes (h : f.IsFor uplinks probes) (hu : IsRouted uplinks probes k u) :
    ∃ r ∈ f.uplinks, r.position = k + 1 ∧ r.uplink = u.id ∧ r.table = s!"to-wan{k + 1}" ∧
      probes[k]? = some r.probe ∧ u.HasGateway (k + 1) r.gateway := by
  obtain ⟨r, hr, hposition, hid, htable⟩ := h.exists_mem hu
  obtain ⟨j, v, hj, hv, hprobe, -, hgateway⟩ := (h.routes_isFor r hr).placed
  obtain rfl : j = k := Nat.succ.inj (hj.symm.trans hposition)
  obtain rfl : v = u := Option.some.inj (hv.symm.trans hu.1)
  rw [hposition] at hgateway
  exact ⟨r, hr, hposition, hid, htable, hprobe, hgateway⟩

/-- A route that is about an uplink is that of an uplink at its position or with its id. -/
theorem exists_of_isRouteOf (h : f.IsFor uplinks probes) {r : Route} (hr : r ∈ f.routes)
    (hc : r.command.IsRouteOf k u) : ∃ q ∈ f.uplinks, q.position = k + 1 ∨ q.uplink = u.id := by
  obtain ⟨q, hq, hr⟩ := List.mem_flatMap.mp hr
  have hroutes := h.routes_isFor q hq
  have hkinds := (h.mem_routes_iff hq).mp hr
  cases hc with
  | table said =>
    rw [Route.get?_table] at said
    have htable := h.table_of_mem_routes hq hr said
    rw [hroutes.table_eq] at htable
    exact ⟨q, hq, .inl (routingTable_injective htable)⟩
  | client said =>
    rw [Route.get?_gateway, Option.some.injEq] at said
    rcases hkinds with rfl | rfl | rfl | ⟨w, hw, -, rfl⟩
    · obtain ⟨_, _, -, -, -, -, hgateway⟩ := hroutes.placed
      rw [hroutes.hostRoute_eq] at said
      exact ⟨q, hq, .inl (hgateway.position_eq said)⟩
    · rw [hroutes.tableDefault_eq] at said
      exact absurd said (Ipv4.render_ne_client q.probe (k + 1))
    · rw [hroutes.mainDefault_eq] at said
      exact absurd said (Ipv4.render_ne_client q.probe (k + 1))
    · obtain ⟨_, _, -, -, -, -, hgateway⟩ := (h.routes_isFor w hw).placed
      exact ⟨w, hw, .inl (hgateway.position_eq said)⟩
  | probe scope said =>
    -- The comment alone would not do: "probe a primary" may stand at the default of "probe a".
    have hscope : r.scope = some 10 := (r.get?_scope_eq_iff 10).mp scope
    have hhost : r ∈ q.routes.filter (·.scope == some 10) :=
      List.mem_filter.mpr ⟨hr, beq_iff_eq.mpr hscope⟩
    rw [h.filter_scope hq, List.mem_singleton] at hhost
    rw [Route.get?_comment, hhost, hroutes.hostRoute_eq, Option.some.injEq] at said
    exact ⟨q, hq, .inr ((String.append_right_inj _).mp said)⟩
  | mainDefault main said =>
    rw [Route.get?_table] at main
    have hdistance := (r.get?_distance_eq_iff (k + 1)).mp said
    rcases hkinds with rfl | rfl | rfl | ⟨w, -, -, rfl⟩
    · rw [hroutes.hostRoute_eq] at hdistance
      exact nomatch hdistance
    · rw [hroutes.tableDefault_eq] at main
      exact nomatch main
    · rw [hroutes.mainDefault_eq] at hdistance
      exact ⟨q, hq, .inl (Option.some.inj hdistance)⟩
    · exact nomatch main
  | backup table other said =>
    rw [Route.get?_table] at other
    have hdistance := (r.get?_distance_eq_iff (k + 3)).mp said
    rcases hkinds with rfl | rfl | rfl | ⟨w, hw, -, rfl⟩
    · rw [hroutes.hostRoute_eq] at other
      exact nomatch other
    · rw [hroutes.tableDefault_eq] at hdistance
      exact nomatch hdistance
    · rw [hroutes.mainDefault_eq] at other
      exact nomatch other
    · exact ⟨w, hw, .inl (Nat.add_right_cancel (Option.some.inj hdistance))⟩

/-- An uplink that is not routed shares neither its position nor its id with one that is. -/
theorem not_routed (h : f.IsFor uplinks probes) (hids : (uplinks.map (·.id)).Nodup)
    (hk : uplinks[k]? = some u) (hu : ¬IsRouted uplinks probes k u) {q : UplinkRoutes}
    (hq : q ∈ f.uplinks) : q.position ≠ k + 1 ∧ q.uplink ≠ u.id := by
  obtain ⟨j, v, hv, hposition, hid, -⟩ := h.isRouted_of_mem hq
  have hne : j ≠ k := by
    rintro rfl
    obtain rfl : v = u := Option.some.inj (hv.1.symm.trans hk)
    exact hu hv
  refine ⟨fun hsame => hne (Nat.succ.inj (hposition.symm.trans hsame)), fun hsame => hne ?_⟩
  exact eq_of_getElem?_of_nodup hids hv.1 hk (hid.symm.trans hsame)

end Failover.IsFor

namespace Blueprint

variable {b : Blueprint} {strict : Bool} {k : Nat} {u : Uplink}
  (hs : b.site.IsValid b.profile strict)
  (hf : b.plan.failover.IsFor b.site.uplinks b.profile.probes)
  (hp : SteeringPlan.plan b.site b.plan.failover = .ok b.plan.steering)

include hs hf hp

/-- The routes and the marks of an uplink that is routed. -/
theorem routes (hu : IsRouted b.site.uplinks b.profile.probes k u) :
    b.script.Routes b.site b.profile.probes k u := by
  obtain ⟨r, hr, hposition, hid, htable, hprobe, hgateway⟩ := hf.exists_routes hu
  have hother : ∀ {j : Nat} {q : UplinkRoutes}, q.position = j + 1 → j ≠ k → q ≠ r := by
    intro j q hj hne heq
    rw [heq, hposition] at hj
    exact hne (Nat.succ.inj hj).symm
  constructor
  case table =>
    rw [← htable]
    exact addsOnce_table hf hr
  case gateway =>
    have hhost := addsOnce_hostRoute hf hs.uplinks_nodup hr
    have hdefault := addsOnce_default hf hr
    rw [hid] at hhost
    rw [htable] at hdefault
    refine ⟨r.probe, r.gateway, hprobe, hgateway, hhost, hdefault, fun j v hv hne => ?_⟩
    -- The backup through this uplink stands in the table of the other.
    obtain ⟨q, hq, hj, -, hqtable, -⟩ := hf.exists_routes hv
    have hbackup := addsOnce_backup hf hq hr (hother hj hne).symm
    rw [hqtable, hposition, hid] at hbackup
    exact hbackup
  case backups =>
    intro j v hv hne
    obtain ⟨q, hq, hj, hqid, -, -, hqgateway⟩ := hf.exists_routes hv
    have hbackup := addsOnce_backup hf hr hq (hother hj hne)
    rw [htable, hj, hqid] at hbackup
    exact ⟨q.gateway, hqgateway, hbackup⟩
  case size =>
    rw [← htable, select_table hf hr, List.length_map]
    exact hf.length_table hr
  case marked => exact fun n hn hmarks => addsOnce_mark hs hf hp hn hmarks
  case marked_only => exact fun c hc => of_mem_select_mark hs hf hp hc

/-- An uplink that is not routed has neither. -/
theorem leavesOut (hk : b.site.uplinks[k]? = some u)
    (hu : ¬IsRouted b.site.uplinks b.profile.probes k u) : b.script.LeavesOut k u := by
  have hnone : ∀ q ∈ b.plan.failover.uplinks, q.table ≠ s!"to-wan{k + 1}" := by
    intro q hq htable
    rw [(hf.routes_isFor q hq).table_eq] at htable
    exact (hf.not_routed hs.uplinks_nodup hk hu hq).1 (routingTable_injective htable)
  constructor
  case no_table =>
    rw [select, commandsAt_table, List.filter_eq_nil_iff, List.forall_mem_map]
    intro q hq hsaid
    refine hnone q hq ?_
    simpa [UplinkRoutes.tableCommand, Command.get?] using hsaid
  case no_route =>
    rw [commandsAt_route, List.forall_mem_map]
    intro r hr hc
    obtain ⟨q, hq, hsame⟩ := hf.exists_of_isRouteOf hr hc
    obtain ⟨hposition, hid⟩ := hf.not_routed hs.uplinks_nodup hk hu hq
    exact hsame.elim hposition hid
  case no_mark =>
    refine List.eq_nil_iff_forall_not_mem.mpr fun c hc => ?_
    obtain ⟨m, hm, htable, -⟩ := of_mem_select_table hc
    obtain ⟨-, -, q, hq, -, -, hqtable⟩ := SteeringPlan.of_mem_marks hp hm
    exact hnone q hq (hqtable.symm.trans htable)

end Blueprint

/-! ## Compiled scripts -/

/-- **One number stands for an uplink everywhere.** A compiled script brings every uplink up once
and makes it a member of the list of uplinks under the name that its position gives it. An uplink
that is routed has the table, the routes and the marks that its position gives it, and an uplink
that is not has none. -/
theorem compile_numbers_uplinks {s : Site} {profile : Profile} {options : CompileOptions}
    {out : Compiled} (h : compile s profile options = .ok out) {k : Nat} {u : Uplink}
    (hu : s.uplinks[k]? = some u) :
    out.script.BringsUp s profile.wanList k u ∧
      (IsRouted s.uplinks profile.probes k u → out.script.Routes s profile.probes k u) ∧
      (¬IsRouted s.uplinks profile.probes k u → out.script.LeavesOut k u) := by
  obtain ⟨hs, hplan, hscript, -⟩ := of_compile_eq_ok h
  obtain ⟨-, hfailover, hsteering⟩ := Plan.of_build_eq_ok hplan
  have hf := Failover.isFor_of_plan_eq_ok hfailover
  let b : Blueprint := .mk s profile out.plan options.generatedAt
  rw [hscript]
  exact ⟨b.bringsUp hs hu, fun hrouted => b.routes hs hf hsteering hrouted,
    fun hrouted => b.leavesOut hs hf hsteering hu hrouted⟩

/-- The third uplink of the sample has the third number, although the second one is not routed. -/
theorem compile_numbers_uplinks_past_dhcp : ∃ out,
    compile .sample .builtin .sample = .ok out ∧
      out.script.AddsOnce "/interface pppoe-client" [("interface", "ether3")]
        [("name", "pppoe-out3")] ∧
      out.script.AddsOnce "/routing table" [("name", "to-wan3")] [] ∧
      out.script.select "/routing table" [("name", "to-wan2")] = [] := by
  obtain ⟨out, h⟩ := exists_compile_sample
  have hcable : Site.sample.uplinks[1]? = some ⟨"cable", "ether2", .dhcp⟩ := rfl
  have hdsl : Site.sample.uplinks[2]? = some
      ⟨"dsl", "ether3", .pppoe (some "user") (some "secret")⟩ := rfl
  have hname : s!"pppoe-out{2 + 1}" = "pppoe-out3" := by decide
  have htable : s!"to-wan{2 + 1}" = "to-wan3" := by decide
  have hother : s!"to-wan{1 + 1}" = "to-wan2" := by decide
  obtain ⟨-, -, hleft⟩ := compile_numbers_uplinks h hcable
  obtain ⟨hup, hroutes, -⟩ := compile_numbers_uplinks h hdsl
  refine ⟨out, h, ?_, ?_, ?_⟩
  · rw [← hname]
    exact (hup.client _ _ rfl).1
  · rw [← htable]
    exact (hroutes ⟨hdsl, by decide, by decide⟩).table
  · rw [← hother]
    exact (hleft fun hrouted => hrouted.2.2 rfl).no_table

end SiteRouter
