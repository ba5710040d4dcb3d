import SiteRouter.Proofs.AddressText
import SiteRouter.Proofs.Menus
import SiteRouter.Proofs.PlanFailures

/-!
# Which ports carry a VLAN

The VLAN table is made from the assignments of the ports, but it is organised by networks, and the
script says it once more as text. `VlanTable.Covers` is the table in terms of the site alone: which
ports join the bridge and how, and for every network which ports carry its VLAN tagged, in the order
of their assignments.

* `Site.vlans_covered`: the table that is planned covers the site in this sense, and in a compiled
  script the tagged ports of every network are read back from one command by splitting its value
  at commas.
-/

namespace SiteRouter

/-- The port has no uplink and is a trunk that carries the VLAN tagged. The name of the bridge
stands for the bridge itself. -/
def Site.IsTagged (s : Site) (bridge : String) (vlan : VlanId) (port : String) : Prop :=
  port ≠ bridge ∧ (∀ u ∈ s.uplinks, u.interface ≠ port) ∧
    ∃ native allowed, s.assignments.get? port = some (.trunk native allowed) ∧
      vlan ∈ allowed ∧ native ≠ vlan

/-- The ports are those that carry the VLAN tagged, in the order of their assignments. Names have
one assignment each, so that no port comes twice. -/
def Site.AreTagged (s : Site) (bridge : String) (vlan : VlanId) (ports : List String) : Prop :=
  ports.Sublist s.assignments.keys ∧ ∀ port, port ∈ ports ↔ s.IsTagged bridge vlan port

/-- The port joins the bridge as its assignment says. -/
inductive BridgePort.IsFor (p : BridgePort) : Assignment → Prop where
  | access (mode : p.mode = .access) : p.IsFor (.access p.pvid)
  | trunk (allowed : List VlanId) (mode : p.mode = .trunk) : p.IsFor (.trunk p.pvid allowed)

/-- The table has the ports without an uplink as they are assigned, and for each network the members
of the bridge that carry its VLAN tagged. -/
structure VlanTable.Covers (s : Site) (bridge : String) (t : VlanTable) : Prop where
  bridge_eq : t.bridge = bridge
  ports_sublist : (t.ports.map (·.port)).Sublist s.assignments.keys
  mem_ports : ∀ port ∈ s.assignments.keys,
    port ∈ t.ports.map (·.port) ↔ ∀ u ∈ s.uplinks, u.interface ≠ port
  ports_nodup : (t.ports.map (·.port)).Nodup
  ports_isFor : ∀ p ∈ t.ports, ∃ a, s.assignments.get? p.port = some a ∧ p.IsFor a
  vlans_eq : t.vlans.map (fun m => (m.vlan, m.network)) = s.networks.map fun n => (n.vlan, n.name)
  tagged_nodup : ∀ m ∈ t.vlans, m.tagged.Nodup
  /-- Only trunks are tagged, and the bridge before all of them. -/
  tagged_trunks : ∀ m ∈ t.vlans, ∃ ports, m.tagged = bridge :: ports ∧
    ∀ port ∈ ports, ∀ pvid, s.assignments.get? port ≠ some (.access pvid)
  /-- Only the first of several networks with one VLAN has its ports. -/
  tagged_of_first : ∀ i n m, s.networks[i]? = some n → t.vlans[i]? = some m →
    (∀ e ∈ s.networks.take i, e.vlan ≠ n.vlan) →
      ∃ ports, m.tagged = bridge :: ports ∧ s.AreTagged bridge n.vlan ports

namespace Site

variable {s : Site} {bridge : String} {vlan : VlanId}

/-! ## Ports -/

theorem mem_bridged {port : String} {a : Assignment} : (port, a) ∈ s.bridged ↔
    s.assignments.get? port = some a ∧ ∀ u ∈ s.uplinks, u.interface ≠ port := by
  rw [bridged, List.mem_filter, Keyed.get?_eq_some_iff, Bool.not_eq_true', carriesUplink,
    any_eq_false_iff]

theorem tags_eq_true_iff {a : Assignment} : a.tags vlan = true ↔
    ∃ native allowed, a = .trunk native allowed ∧ vlan ∈ allowed ∧ native ≠ vlan := by
  cases a with
  | access pvid => exact iff_of_false Bool.false_ne_true nofun
  | trunk native allowed =>
    rw [Assignment.tags, Bool.and_eq_true, bne_iff_ne, List.contains_iff_mem]
    constructor
    · rintro ⟨hne, hallowed⟩
      exact ⟨native, allowed, rfl, hallowed, hne.symm⟩
    · rintro ⟨_, _, ⟨rfl, rfl⟩, hallowed, hne⟩
      exact ⟨hne.symm, hallowed⟩

theorem areTagged_taggedPorts : s.AreTagged bridge vlan (s.taggedPorts bridge vlan) := by
  refine ⟨(List.filter_sublist.map _).trans bridged_sublist, fun port => ?_⟩
  rw [taggedPorts, List.mem_map]
  constructor
  · rintro ⟨⟨port, a⟩, hmem, rfl⟩
    obtain ⟨hbridged, hcond⟩ := List.mem_filter.mp hmem
    obtain ⟨hget, huplinks⟩ := mem_bridged.mp hbridged
    rw [Bool.and_eq_true, bne_iff_ne, tags_eq_true_iff] at hcond
    obtain ⟨hne, native, allowed, rfl, hallowed, hnative⟩ := hcond
    exact ⟨hne, huplinks, native, allowed, hget, hallowed, hnative⟩
  · rintro ⟨hne, huplinks, native, allowed, hget, hallowed, hnative⟩
    refine ⟨(port, .trunk native allowed),
      List.mem_filter.mpr ⟨mem_bridged.mpr ⟨hget, huplinks⟩, ?_⟩, rfl⟩
    rw [Bool.and_eq_true, bne_iff_ne, tags_eq_true_iff]
    exact ⟨hne, native, allowed, rfl, hallowed, hnative⟩

theorem AreTagged.nodup {ports : List String} (h : s.AreTagged bridge vlan ports) :
    (bridge :: ports).Nodup := by
  refine List.nodup_cons.mpr ⟨fun hmem => ?_, s.assignments.nodup.sublist h.1⟩
  exact ((h.2 bridge).mp hmem).1 rfl

/-! ## Networks -/

theorem exists_of_mem_memberships {networks : List Network} {m : Membership}
    (hm : m ∈ s.memberships bridge [] networks) : ∃ ports, m.tagged = bridge :: ports ∧
      (ports = [] ∨ s.AreTagged bridge m.vlan ports) := by
  obtain ⟨i, hi⟩ := List.mem_iff_getElem?.mp hm
  rw [getElem?_memberships] at hi
  obtain ⟨n, -, rfl⟩ := Option.map_eq_some_iff.mp hi
  refine ⟨_, rfl, ?_⟩
  split
  · exact Or.inl rfl
  · exact Or.inr areTagged_taggedPorts

/-- In a valid site no VLAN comes twice, so every network is the first with its own. -/
theorem IsValid.vlan_ne_of_mem_take {profile : Profile} {strict : Bool}
    (hs : s.IsValid profile strict) {i : Nat} {n : Network} (hn : s.networks[i]? = some n) :
    ∀ e ∈ s.networks.take i, e.vlan ≠ n.vlan := by
  intro e he heq
  obtain ⟨j, hj⟩ := List.mem_iff_getElem?.mp he
  rw [List.getElem?_take] at hj
  split at hj
  next hlt =>
    obtain rfl := eq_of_getElem?_of_nodup hs.vlans_nodup hj hn heq
    exact Nat.lt_irrefl _ hlt
  next => exact nomatch hj

end Site

/-- The table that is planned covers the site. -/
theorem VlanTable.covers_of_plan_eq_ok {s : Site} {bridge : String} {t : VlanTable}
    (h : plan s bridge = .ok t) : t.Covers s bridge := by
  obtain ⟨hbridge, hports, hvlans⟩ := of_plan_eq_ok h
  have hnames : t.ports.map (·.port) = s.bridged.map Prod.fst := by
    rw [hports, List.map_map]
    rfl
  refine ⟨hbridge, ?_, ?_, ?_, ?_, ?_, ?_, ?_, ?_⟩
  · rw [hnames]
    exact Site.bridged_sublist
  · intro port hport
    obtain ⟨⟨port, a⟩, ha, rfl⟩ := List.mem_map.mp hport
    rw [hnames, List.mem_map]
    constructor
    · rintro ⟨⟨port, b⟩, hb, rfl⟩
      exact (Site.mem_bridged.mp hb).2
    · intro huplinks
      exact ⟨(port, a), Site.mem_bridged.mpr ⟨Keyed.get?_eq_some_iff.mpr ha, huplinks⟩, rfl⟩
  · rw [hnames]
    exact Site.nodup_bridged
  · intro p hp
    rw [hports] at hp
    obtain ⟨⟨port, a⟩, ha, rfl⟩ := List.mem_map.mp hp
    refine ⟨a, (Site.mem_bridged.mp ha).1, ?_⟩
    cases a with
    | access pvid => exact .access rfl
    | trunk native allowed => exact .trunk allowed rfl
  · rw [hvlans]
    refine List.ext_getElem? fun i => ?_
    rw [List.getElem?_map, List.getElem?_map, Site.getElem?_memberships, Option.map_map]
    rfl
  · intro m hm
    rw [hvlans] at hm
    obtain ⟨ports, htagged, rfl | hports⟩ := Site.exists_of_mem_memberships hm
    · rw [htagged]
      exact List.nodup_cons.mpr ⟨List.not_mem_nil, List.nodup_nil⟩
    · rw [htagged]
      exact hports.nodup
  · intro m hm
    rw [hvlans] at hm
    obtain ⟨ports, htagged, hports⟩ := Site.exists_of_mem_memberships hm
    refine ⟨ports, htagged, fun port hport pvid hget => ?_⟩
    rcases hports with rfl | hports
    · exact absurd hport List.not_mem_nil
    · obtain ⟨-, -, native, allowed, htrunk, -⟩ := (hports.2 port).mp hport
      exact nomatch hget.symm.trans htrunk
  · intro i n m hn hm hfirst
    rw [hvlans, Site.getElem?_memberships, hn] at hm
    obtain rfl := Option.some.inj hm
    have hnew : (([] ++ s.networks.take i).any (·.vlan == n.vlan)) = false := by
      rw [List.nil_append]
      exact Site.any_eq_false_iff.mpr hfirst
    refine ⟨s.taggedPorts bridge n.vlan, ?_, Site.areTagged_taggedPorts⟩
    show bridge :: (if _ then _ else _) = _
    rw [hnew]
    rfl

namespace Site.IsValid

variable {s : Site} {profile : Profile} {strict : Bool} {bridge : String} {t : VlanTable}
  {n : Network}

/-- The assigned ports are bridged. -/
theorem mem_ports_iff (hs : s.IsValid profile strict) (ht : VlanTable.plan s bridge = .ok t)
    {port : String} : port ∈ t.ports.map (·.port) ↔ port ∈ s.assignments.keys := by
  rw [(VlanTable.of_plan_eq_ok ht).2.1, hs.bridged_eq, List.map_map]
  rfl

/-- The entry of a network lists the ports that carry its VLAN tagged. -/
theorem membership?_eq (hs : s.IsValid profile strict) (ht : VlanTable.plan s bridge = .ok t)
    (hn : n ∈ s.networks) : t.membership? n.vlan =
      some ⟨n.vlan, n.name, bridge :: s.taggedPorts bridge n.vlan⟩ := by
  have hcovers := VlanTable.covers_of_plan_eq_ok ht
  have hvlans : (t.vlans.map (·.vlan)).Nodup := by
    have hpairs := congrArg (List.map Prod.fst) hcovers.vlans_eq
    rw [List.map_map, List.map_map] at hpairs
    exact hpairs ▸ hs.vlans_nodup
  obtain ⟨i, hi⟩ := List.mem_iff_getElem?.mp hn
  have hnew : ([] ++ s.networks.take i).any (·.vlan == n.vlan) = false :=
    any_eq_false_iff.mpr (hs.vlan_ne_of_mem_take hi)
  have hentry : t.vlans[i]? = some ⟨n.vlan, n.name, bridge :: s.taggedPorts bridge n.vlan⟩ := by
    rw [(VlanTable.of_plan_eq_ok ht).2.2, getElem?_memberships, hi, Option.map_some, hnew]
    rfl
  have hmem := List.mem_of_getElem? hentry
  obtain ⟨m, hm⟩ := exists_find?_eq_some (f := Membership.vlan) hmem
  obtain ⟨hmMem, hmVlan⟩ := of_find?_eq_some hm
  rw [VlanTable.membership?, hm, eq_of_mem_of_nodup hvlans hmMem hmem hmVlan]

end Site.IsValid

/-! ## Text -/

namespace IsInterfaceName

variable {name : String}

theorem of_mem_toList (h : IsInterfaceName name) {c : Char} (hc : c ∈ name.toList) :
    c.isAlphanum = true ∨ c ∈ ['-', '_', '.'] := by
  obtain ⟨first, rest, hname, hfirst, hrest, -⟩ := h
  rw [hname] at hc
  rcases List.mem_cons.mp hc with rfl | hc
  · exact Or.inl (by rw [Char.isAlphanum, hfirst, Bool.true_or])
  · exact hrest c hc

theorem comma_not_mem (h : IsInterfaceName name) : ',' ∉ name.toList := by
  intro hc
  rcases h.of_mem_toList hc with hc | hc
  · exact absurd hc (by decide)
  · exact absurd hc (by decide)

theorem isBare_of_mem (h : IsInterfaceName name) {c : Char} (hc : c ∈ name.toList) :
    Script.isBare c = true := by
  rcases h.of_mem_toList hc with hc | hc
  · rw [Script.isBare, hc, Bool.true_or]
  · have hmarks : ['-', '_', '.'].all Script.isBare = true := by decide
    exact List.all_eq_true.mp hmarks c hc

theorem toList_ne_nil (h : IsInterfaceName name) : name.toList ≠ [] := by
  obtain ⟨first, rest, hname, -⟩ := h
  rw [hname]
  exact List.cons_ne_nil first rest

end IsInterfaceName

section Names

variable {name : String} {names : List String}

theorem toList_commaJoin :
    (",".intercalate names).toList = Text.joinWith ',' (names.map String.toList) :=
  Text.toList_intercalate ',' names

/-- Names are read back from a list of them, since no name holds a comma. -/
theorem fieldsAt_commaJoin (h : ∀ n ∈ name :: names, IsInterfaceName n) :
    (Text.fieldsAt ',' (",".intercalate (name :: names)).toList).map String.ofList =
      name :: names := by
  have hcommas : ∀ f ∈ (name :: names).map String.toList, ',' ∉ f :=
    List.forall_mem_map.mpr fun n hn => (h n hn).comma_not_mem
  rw [toList_commaJoin, Text.fieldsAt_joinWith (by simp) hcommas, List.map_map]
  exact List.map_id'' (fun _ => String.ofList_toList) _

/-- A list of names is written without quotes. -/
theorem quote_commaJoin (h : ∀ n ∈ name :: names, IsInterfaceName n) :
    Script.quote (",".intercalate (name :: names)) = ",".intercalate (name :: names) := by
  have hbare : ∀ c ∈ (",".intercalate (name :: names)).toList, Script.isBare c = true := by
    intro c hc
    rw [toList_commaJoin] at hc
    rcases Text.mem_joinWith hc with rfl | ⟨f, hf, hc⟩
    · rfl
    · obtain ⟨n, hn, rfl⟩ := List.mem_map.mp hf
      exact (h n hn).isBare_of_mem hc
  -- Only the empty value would need quotes without a character that asks for them.
  have hfilled : (",".intercalate (name :: names)).toList ≠ [] := by
    rw [toList_commaJoin]
    cases names with
    | nil => exact (h name (List.mem_cons_self ..)).toList_ne_nil
    | cons n ns => simp [Text.joinWith]
  rw [Script.quote, Script.quoteChars, if_pos ⟨hfilled, List.all_eq_true.mpr hbare⟩,
    String.ofList_toList]

end Names

/-! ## Scripts -/

/-- The command says who carries the VLAN of the network tagged: the bridge and the ports that do,
as one value that needs no quotes. -/
structure Network.IsTaggedBy (s : Site) (bridge : String) (n : Network) (c : Script.Command) :
    Prop where
  bridge_eq : c.get? "bridge" = some bridge
  vlan_eq : c.get? "vlan-ids" = some (toString n.vlan)
  tagged : ∃ value ports, c.get? "tagged" = some value ∧ Script.quote value = value ∧
    (Text.fieldsAt ',' value.toList).map String.ofList = bridge :: ports ∧
      s.AreTagged bridge n.vlan ports

theorem VlanTable.Covers.isTaggedBy {s : Site} {bridge : String} {t : VlanTable}
    (h : t.Covers s bridge) {profile : Profile} {strict : Bool} (hs : s.IsValid profile strict)
    (hbridge : IsInterfaceName bridge) {i : Nat} {n : Network} {m : Membership}
    (hn : s.networks[i]? = some n) (hm : t.vlans[i]? = some m) :
    n.IsTaggedBy s bridge (m.command bridge) := by
  have hvlan : m.vlan = n.vlan := by
    have hpair := congrArg (·[i]?) h.vlans_eq
    simp only [List.getElem?_map, hn, hm, Option.map_some, Option.some.injEq] at hpair
    exact congrArg Prod.fst hpair
  have hfirst := hs.vlan_ne_of_mem_take hn
  obtain ⟨ports, htagged, hports⟩ := h.tagged_of_first i n m hn hm hfirst
  have hnames : ∀ name ∈ bridge :: ports, IsInterfaceName name := by
    refine List.forall_mem_cons.mpr ⟨hbridge, fun port hport => ?_⟩
    obtain ⟨p, hp, rfl⟩ := hs.assigned_ports port (hports.1.subset hport)
    exact hs.port_names p hp
  refine ⟨?_, ?_, ",".intercalate m.tagged, ports, ?_, ?_, ?_, hports⟩
  · simp [Membership.command, Script.Command.get?]
  · simp [Membership.command, Script.Command.get?, hvlan]
  · simp [Membership.command, Script.Command.get?]
  · rw [htagged]
    exact quote_commaJoin hnames
  · rw [htagged]
    exact fieldsAt_commaJoin hnames

/-- **Every VLAN reaches the ports that carry it, up to the text of the script.** The table that is
planned covers the site; and a compiled script has one command for each network, in order, from
which the tagged ports of the network are read back, for a bridge with a name that an interface may
have. -/
theorem Site.vlans_covered (s : Site) :
    (∀ bridge t, VlanTable.plan s bridge = .ok t → t.Covers s bridge) ∧
    ∀ (profile : Profile) (options : CompileOptions) (out : Compiled),
      compile s profile options = .ok out → IsInterfaceName profile.bridgeName →
        (out.script.commandsAt "/interface bridge vlan").length = s.networks.length ∧
        ∀ (i : Nat) (n : Network), s.networks[i]? = some n →
          ∃ c, (out.script.commandsAt "/interface bridge vlan")[i]? = some c ∧
            n.IsTaggedBy s profile.bridgeName c := by
  refine ⟨fun bridge t h => VlanTable.covers_of_plan_eq_ok h, ?_⟩
  intro profile options out h hname
  obtain ⟨hs, hplan, hscript, -⟩ := of_compile_eq_ok h
  have hcovers := VlanTable.covers_of_plan_eq_ok (Plan.of_build_eq_ok hplan).1
  have hlength : out.plan.vlans.vlans.length = s.networks.length := by
    have hlengths := congrArg List.length hcovers.vlans_eq
    rwa [List.length_map, List.length_map] at hlengths
  rw [hscript, Blueprint.commandsAt_bridgeVlan, List.length_map]
  refine ⟨hlength, fun i n hn => ?_⟩
  have hi : i < out.plan.vlans.vlans.length := by
    rw [hlength]
    exact (List.getElem?_eq_some_iff.mp hn).1
  have hm := List.getElem?_eq_getElem hi
  refine ⟨out.plan.vlans.vlans[i].command profile.bridgeName, ?_, hcovers.isTaggedBy hs hname hn hm⟩
  rw [List.getElem?_map, hm, hcovers.bridge_eq]
  rfl

/-- Two trunks, one with a native VLAN of its own and a VLAN that it allows twice. -/
theorem Site.vlans_covered_of_trunks :
    let s : Site := { Site.sample with
      ports := Site.sample.ports ++ [⟨"ether5", .ether, .lan⟩]
      assignments := ⟨[("ether5", .trunk ⟨10, by decide⟩ [⟨10, by decide⟩, ⟨20, by decide⟩,
        ⟨20, by decide⟩]), ("ether4", .trunk .default [⟨10, by decide⟩, ⟨20, by decide⟩])],
        by decide⟩ }
    (∃ t, VlanTable.plan s "bridge-lan" = .ok t ∧ t.Covers s "bridge-lan") ∧
      ∃ out, compile s .builtin .sample = .ok out ∧ IsInterfaceName Profile.builtin.bridgeName ∧
        ∃ c, (out.script.commandsAt "/interface bridge vlan")[1]? = some c ∧
          Network.IsTaggedBy s Profile.builtin.bridgeName
            ⟨"office", "vlan20", ⟨20, by decide⟩, ⟨⟨0xc0a81401, by decide⟩, 24, by decide⟩, false,
              false⟩ c := by
  intro s
  have hplan : VlanTable.plan s "bridge-lan" = .ok _ := rfl
  have hcompile : ∃ out, compile s .builtin .sample = .ok out :=
    exists_compile_of_checks (by decide +kernel) (by decide +kernel)
  have hname : IsInterfaceName Profile.builtin.bridgeName :=
    isInterfaceName_iff.mp (by decide +kernel)
  obtain ⟨out, hout⟩ := hcompile
  obtain ⟨hcovers, hscript⟩ := vlans_covered s
  exact ⟨⟨_, hplan, hcovers _ _ hplan⟩, out, hout, hname, (hscript _ _ _ hout hname).2 1 _ rfl⟩

end SiteRouter
