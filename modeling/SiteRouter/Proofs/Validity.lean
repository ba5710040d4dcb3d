import SiteRouter.Proofs.Along
import SiteRouter.Proofs.Positions
import SiteRouter.Proofs.Subnets
import SiteRouter.Proofs.Writing

/-!
# What makes a site valid

`Site.IsValid` says which sites can be planned, in terms of the site alone: names that are pairwise
distinct, references that lead somewhere, subnets without a common address. `Site.findings` comes to
the same in one pass over each list, where the findings about an item depend on the items before
it; with `Along` such a pass becomes a condition on all pairs.

One lemma for each part of the check says when that part finds nothing, and the parts together make
`Site.check_accepts_iff_isValid`.
-/

namespace SiteRouter

/-! ## Validity -/

/-- The text holds something besides white space. -/
def IsFilled (text : String) : Prop := ∃ c ∈ text.toList, c ∉ Text.blanks

/-- The text is a letter with letters, digits and the marks `-_.` behind it, 64 characters at
most. -/
def IsInterfaceName (name : String) : Prop :=
  ∃ c r, name.toList = c :: r ∧ c.isAlpha = true ∧
    (∀ d ∈ r, d.isAlphanum = true ∨ d ∈ ['-', '_', '.']) ∧ name.length ≤ 64

/-- The site can be planned with the profile; in strict mode, without a default for steering. -/
structure Site.IsValid (s : Site) (profile : Profile) (strict : Bool) : Prop where
  identity_filled : IsFilled s.identity
  token_filled : IsFilled s.management.token
  heartbeatUrl_filled : IsFilled s.management.heartbeatUrl
  port_names : ∀ p ∈ s.ports, IsInterfaceName p.name
  ports_nodup : (s.ports.map (·.name)).Nodup
  uplink_ids : ∀ u ∈ s.uplinks, IsFilled u.id
  uplinks_nodup : (s.uplinks.map (·.id)).Nodup
  uplink_ports : ∀ u ∈ s.uplinks, ∃ p ∈ s.ports, p.name = u.interface
  uplink_ports_nodup : (s.uplinks.map (·.interface)).Nodup
  uplink_ports_unassigned : ∀ u ∈ s.uplinks, u.interface ∉ s.assignments.keys
  networks_nodup : (s.networks.map (·.id)).Nodup
  network_names : ∀ n ∈ s.networks, IsInterfaceName n.name
  network_names_nodup : (s.networks.map (·.name)).Nodup
  vlans_usable : ∀ n ∈ s.networks, 2 ≤ n.vlan.val ∧ n.vlan.val ≤ 4094
  vlans_nodup : (s.networks.map (·.vlan)).Nodup
  hotspot_dhcp : ∀ n ∈ s.networks, n.hotspot = true → n.dhcp = true
  dhcp_length : ∀ n ∈ s.networks, n.dhcp = true → n.cidr.length ≤ 30
  /-- Where a subnet has hosts, the address of the router is neither the first nor the last. -/
  router_host : ∀ n ∈ s.networks, n.cidr.length ≤ 30 →
    (∃ a ∈ n.cidr, a < n.router) ∧ ∃ a ∈ n.cidr, n.router < a
  subnets_disjoint : s.networks.Pairwise fun m n => ∀ a, ¬(a ∈ m.cidr ∧ a ∈ n.cidr)
  names_not_bridge : ∀ n ∈ s.networks, n.name ≠ profile.bridgeName
  names_not_port : ∀ n ∈ s.networks, ∀ p ∈ s.ports, p.name ≠ n.name
  names_not_client : ∀ n ∈ s.networks, ∀ k u username password, s.uplinks[k]? = some u →
    u.kind = .pppoe username password → n.name ≠ s!"pppoe-out{k + 1}"
  assigned_ports : ∀ name ∈ s.assignments.keys, ∃ p ∈ s.ports, p.name = name
  access_vlans : ∀ port pvid, (port, .access pvid) ∈ s.assignments.entries →
    ∃ n ∈ s.networks, n.vlan = pvid
  /-- The native VLAN of a trunk is left to the planner. -/
  trunk_vlans : ∀ port native allowed, (port, .trunk native allowed) ∈ s.assignments.entries →
    ∀ v ∈ allowed, v ≠ native → ∃ n ∈ s.networks, n.vlan = v
  mapped_networks : ∀ network uplink, (network, uplink) ∈ s.steering.mapping.entries →
    ∃ n ∈ s.networks, n.id = network
  mapped_uplinks : ∀ network uplink, (network, uplink) ∈ s.steering.mapping.entries →
    ∃ u ∈ s.uplinks, u.id = uplink
  strict_mapping : strict = true → s.steering.enabled = true →
    2 ≤ s.uplinks.countP (fun u => decide (u.kind ≠ .dhcp)) →
    ∀ n ∈ s.networks, n.id ∈ s.steering.mapping.keys
  servers_ne_nil : s.resolver.servers ≠ []

/-! ## Names and texts -/

theorem isBlankText_eq_false_iff {text : String} :
    Text.isBlankText text = false ↔ IsFilled text := by
  simp [Text.isBlankText, Text.isBlank, IsFilled]

/-- ASCII text has one octet for each character. -/
theorem utf8ByteSize_of_ascii {cs : List Char} (h : ∀ c ∈ cs, c.val ≤ 127) :
    (String.ofList cs).utf8ByteSize = cs.length := by
  induction cs with
  | nil => rfl
  | cons c cs ih =>
    have hc : c.utf8Size = 1 := Char.utf8Size_eq_one_iff.mpr (h c (List.mem_cons_self ..))
    have ih := ih fun d hd => h d (List.mem_cons_of_mem _ hd)
    rw [← List.singleton_append, String.ofList_append, String.utf8ByteSize_append, ih,
      ← String.singleton_eq_ofList, String.utf8ByteSize_singleton, hc, List.length_append,
      List.length_singleton]

/-- The characters of a name need no quotes, so they are ASCII. -/
theorem val_le_of_isBare {c : Char} (h : Script.isBare c = true) : c.val ≤ 127 := by
  have h := Script.isConsoleChar_of_isBare h
  simp only [Script.isConsoleChar, Bool.and_eq_true, decide_eq_true_eq] at h
  exact UInt32.le_trans h.2 (by decide)

theorem isInterfaceName_iff {name : String} :
    isInterfaceName name = true ↔ IsInterfaceName name := by
  unfold isInterfaceName IsInterfaceName
  cases hname : name.toList with
  | nil => simp
  | cons c r =>
    simp only [Bool.and_eq_true, decide_eq_true_eq, List.all_eq_true, Bool.or_eq_true,
      List.contains_iff_mem, List.cons.injEq]
    have hlength : c.isAlpha = true →
        (∀ d ∈ r, d.isAlphanum = true ∨ d ∈ ['-', '_', '.']) →
        name.utf8ByteSize = name.length := by
      intro hc hr
      have hascii : ∀ d ∈ c :: r, d.val ≤ 127 := by
        intro d hd
        refine val_le_of_isBare ?_
        rcases List.mem_cons.mp hd with rfl | hd
        · simp [Script.isBare, Char.isAlphanum, hc]
        · rcases hr d hd with h | h
          · simp [Script.isBare, h]
          · simp only [List.mem_cons, List.not_mem_nil, or_false] at h
            rcases h with rfl | rfl | rfl <;> rfl
      rw [← String.length_toList, hname, ← utf8ByteSize_of_ascii hascii, ← hname,
        String.ofList_toList]
    constructor
    · rintro ⟨⟨hsize, hc⟩, hr⟩
      exact ⟨c, r, ⟨rfl, rfl⟩, hc, hr, by rwa [← hlength hc hr]⟩
    · rintro ⟨_, _, ⟨rfl, rfl⟩, hc, hr, hsize⟩
      exact ⟨⟨by rwa [hlength hc hr], hc⟩, hr⟩

/-! ## Findings -/

/-- The findings along a list are none when there are none at any item. -/
theorem findingsAlong_eq_nil_iff {α : Type} {check : List α → α → List Finding}
    {earlier xs : List α} : findingsAlong check earlier xs = [] ↔
      Along (fun front x => check (earlier ++ front) x = []) xs := by
  induction xs generalizing earlier with
  | nil => exact iff_of_true rfl along_nil
  | cons x xs ih =>
    rw [findingsAlong, List.append_eq_nil_iff, ih, along_cons, List.append_nil]
    simp only [List.append_assoc, List.singleton_append]

theorem findingIf_eq_nil_iff {p : Bool} {finding : Finding} :
    findingIf p finding = [] ↔ p = false := by
  cases p <;> simp [findingIf]

namespace Site

variable {s : Site}

theorem requiredFieldFindings_eq_nil_iff : s.requiredFieldFindings = [] ↔
    IsFilled s.identity ∧ IsFilled s.management.token ∧ IsFilled s.management.heartbeatUrl := by
  simp only [requiredFieldFindings, List.append_eq_nil_iff, findingIf_eq_nil_iff,
    isBlankText_eq_false_iff, and_assoc]

theorem any_eq_false_iff {α β : Type} [DecidableEq β] {f : α → β} {b : β} {xs : List α} :
    xs.any (f · == b) = false ↔ ∀ x ∈ xs, f x ≠ b := by
  simp

theorem portFindings_eq_nil_iff : s.portFindings = [] ↔
    (∀ p ∈ s.ports, IsInterfaceName p.name) ∧ (s.ports.map (·.name)).Nodup := by
  simp only [portFindings, findingsAlong_eq_nil_iff, List.append_eq_nil_iff, findingIf_eq_nil_iff,
    List.nil_append, any_eq_false_iff, along_and, along_const, along_nodup, Bool.not_eq_false',
    isInterfaceName_iff]

theorem find?_isNone_eq_false_iff {α β : Type} [DecidableEq β] {f : α → β} {b : β}
    {xs : List α} : (xs.find? (f · == b)).isNone = false ↔ ∃ x ∈ xs, f x = b := by
  simp

theorem contains_eq_false_iff {α : Type} {m : Keyed α} {name : String} :
    m.contains name = false ↔ name ∉ m.keys := by
  simp [Keyed.contains]

theorem uplinkFindings_eq_nil_iff : s.uplinkFindings = [] ↔
    (∀ u ∈ s.uplinks, IsFilled u.id) ∧ (s.uplinks.map (·.id)).Nodup ∧
    (∀ u ∈ s.uplinks, ∃ p ∈ s.ports, p.name = u.interface) ∧
    (s.uplinks.map (·.interface)).Nodup ∧
    ∀ u ∈ s.uplinks, u.interface ∉ s.assignments.keys := by
  simp only [uplinkFindings, findingsAlong_eq_nil_iff, List.append_eq_nil_iff,
    findingIf_eq_nil_iff, List.nil_append, any_eq_false_iff, isBlankText_eq_false_iff,
    port?, find?_isNone_eq_false_iff, contains_eq_false_iff, along_and, along_const, along_nodup,
    and_assoc]
  refine and_congr_right fun _ => and_congr_right fun _ => and_congr_right fun _ =>
    and_congr_left fun _ => ?_
  rw [← along_nodup]
  refine along_congr fun earlier u => ?_
  split
  next v hv =>
    have hmem := List.mem_of_find?_eq_some hv
    have heq : v.interface = u.interface := by simpa using List.find?_some hv
    exact iff_of_false (List.cons_ne_nil _ _) fun h => h v hmem heq
  next hv => simpa using hv

theorem vlanFindings_eq_nil_iff {earlier : List Network} {n : Network} :
    vlanFindings earlier n = [] ↔
      (2 ≤ n.vlan.val ∧ n.vlan.val ≤ 4094) ∧ ∀ m ∈ earlier, m.vlan ≠ n.vlan := by
  have hhighest : VlanId.highest < n.vlan ↔ 4094 < n.vlan.val := Iff.rfl
  have hdefault : n.vlan = VlanId.default ↔ n.vlan.val = 1 := Fin.ext_iff
  unfold vlanFindings
  split
  next h =>
    rw [hhighest] at h
    exact iff_of_false (List.cons_ne_nil _ _) fun hn => by omega
  next h =>
    rw [hhighest] at h
    split
    next h1 =>
      rw [hdefault] at h1
      exact iff_of_false (List.cons_ne_nil _ _) fun hn => by omega
    next h1 =>
      rw [hdefault] at h1
      rw [and_iff_right (by omega)]
      split
      next m hm =>
        have hmem := List.mem_of_find?_eq_some hm
        have heq : m.vlan = n.vlan := by simpa using List.find?_some hm
        exact iff_of_false (List.cons_ne_nil _ _) fun h => h m hmem heq
      next hm => simpa using hm

theorem routerAtEnd_eq_false_iff {n : Network} : routerAtEnd n = false ↔
    (n.cidr.length ≤ 30 → (∃ a ∈ n.cidr, a < n.router) ∧ ∃ a ∈ n.cidr, n.router < a) := by
  rw [Network.router, ← Cidr.ne_ends_iff n.cidr.address_mem]
  simp [routerAtEnd, Network.router]

theorem networkFindings_eq_nil_iff : s.networkFindings = [] ↔
    (s.networks.map (·.id)).Nodup ∧
    (∀ n ∈ s.networks, IsInterfaceName n.name) ∧ (s.networks.map (·.name)).Nodup ∧
    (∀ n ∈ s.networks, 2 ≤ n.vlan.val ∧ n.vlan.val ≤ 4094) ∧ (s.networks.map (·.vlan)).Nodup ∧
    (∀ n ∈ s.networks, n.hotspot = true → n.dhcp = true) ∧
    (∀ n ∈ s.networks, n.dhcp = true → n.cidr.length ≤ 30) ∧
    ∀ n ∈ s.networks, n.cidr.length ≤ 30 →
      (∃ a ∈ n.cidr, a < n.router) ∧ ∃ a ∈ n.cidr, n.router < a := by
  simp only [networkFindings, findingsAlong_eq_nil_iff, List.append_eq_nil_iff,
    findingIf_eq_nil_iff, List.nil_append, any_eq_false_iff, isInterfaceName_iff,
    vlanFindings_eq_nil_iff, Bool.and_eq_false_imp, Bool.not_eq_false', decide_eq_false_iff_not,
    Nat.not_lt, routerAtEnd_eq_false_iff, along_and, along_const, along_nodup, imp_and, forall_and,
    and_assoc]

theorem overlapFindings_eq_nil_iff {networks : List Network} : overlapFindings networks = [] ↔
    networks.Pairwise fun m n => ∀ a, ¬(a ∈ m.cidr ∧ a ∈ n.cidr) := by
  have hpair : ∀ m n : Network, overlap m.subnet n.subnet = true ↔
      ∃ a, a ∈ m.cidr ∧ a ∈ n.cidr := by
    intro m n
    simp only [Cidr.overlap_iff, Network.subnet, Cidr.mem_subnet]
  induction networks with
  | nil => exact iff_of_true rfl List.Pairwise.nil
  | cons m rest ih =>
    rw [overlapFindings, List.append_eq_nil_iff, List.map_eq_nil_iff, List.filter_eq_nil_iff,
      List.pairwise_cons]
    simp only [hpair, not_exists, ih]

/-- A name is nobody's when it is neither the bridge nor a port nor the client of an uplink. -/
theorem interfaceOwner?_eq_none_iff {bridge name : String} :
    s.interfaceOwner? bridge name = none ↔ name ≠ bridge ∧ (∀ p ∈ s.ports, p.name ≠ name) ∧
      ∀ k u username password, s.uplinks[k]? = some u → u.kind = .pppoe username password →
        name ≠ s!"pppoe-out{k + 1}" := by
  unfold interfaceOwner?
  split
  next hbridge => exact iff_of_false (by simp) fun h => h.1 hbridge
  next hbridge =>
    split
    next hp =>
      refine iff_of_false (by simp) fun h => ?_
      rw [any_eq_false_iff.mpr h.2.1] at hp
      exact Bool.false_ne_true hp
    next hp =>
      rw [Bool.not_eq_true, any_eq_false_iff] at hp
      rw [Option.map_eq_none_iff, List.find?_eq_none]
      constructor
      · intro h
        refine ⟨hbridge, hp, ?_⟩
        rintro k u username password hu hkind rfl
        refine h (k + 1, u) (mem_placedUplinks.mpr ⟨k, hu, rfl⟩) ?_
        simp [hkind, UplinkKind.isPppoe, pppoeInterface]
      · rintro ⟨-, -, h⟩ ⟨i, u⟩ hu hfound
        obtain ⟨k, hk, rfl⟩ := mem_placedUplinks.mp hu
        cases hkind : u.kind with
        | pppoe username password =>
          simp only [hkind, UplinkKind.isPppoe, Bool.true_and, beq_iff_eq] at hfound
          exact h k u username password hk hkind hfound.symm
        | «static» address gateway => simp [hkind, UplinkKind.isPppoe] at hfound
        | dhcp => simp [hkind, UplinkKind.isPppoe] at hfound

theorem clashFindings_eq_nil_iff {bridge : String} : s.clashFindings bridge = [] ↔
    (∀ n ∈ s.networks, n.name ≠ bridge) ∧ (∀ n ∈ s.networks, ∀ p ∈ s.ports, p.name ≠ n.name) ∧
    ∀ n ∈ s.networks, ∀ k u username password, s.uplinks[k]? = some u →
      u.kind = .pppoe username password → n.name ≠ s!"pppoe-out{k + 1}" := by
  simp only [clashFindings, List.filterMap_eq_nil_iff, Option.map_eq_none_iff,
    interfaceOwner?_eq_none_iff, forall_and]

theorem hasVlan_eq_true_iff {vlan : VlanId} :
    s.hasVlan vlan = true ↔ ∃ n ∈ s.networks, n.vlan = vlan := by
  simp [hasVlan, networkOnVlan?]

/-- An assignment is accepted when its VLANs have networks. -/
theorem assignmentFindings_eq_nil_iff : s.assignmentFindings = [] ↔
    (∀ name ∈ s.assignments.keys, ∃ p ∈ s.ports, p.name = name) ∧
    (∀ port pvid, (port, .access pvid) ∈ s.assignments.entries →
      ∃ n ∈ s.networks, n.vlan = pvid) ∧
    ∀ port native allowed, (port, .trunk native allowed) ∈ s.assignments.entries →
      ∀ v ∈ allowed, v ≠ native → ∃ n ∈ s.networks, n.vlan = v := by
  rw [assignmentFindings, List.flatMap_eq_nil_iff]
  constructor
  · intro h
    refine ⟨?_, ?_, ?_⟩
    · intro name hname
      obtain ⟨⟨_, a⟩, ha, rfl⟩ := List.mem_map.mp hname
      have hport := (List.append_eq_nil_iff.mp (h _ ha)).1
      rwa [findingIf_eq_nil_iff, port?, find?_isNone_eq_false_iff] at hport
    · intro port pvid ha
      have hvlan := (List.append_eq_nil_iff.mp (h _ ha)).2
      rwa [findingIf_eq_nil_iff, Bool.not_eq_false', hasVlan_eq_true_iff] at hvlan
    · intro port native allowed ha v hv hne
      have hvlans := (List.append_eq_nil_iff.mp (h _ ha)).2
      rw [List.map_eq_nil_iff, List.filter_eq_nil_iff] at hvlans
      have hvlan := hvlans v hv
      simpa [hne, ← hasVlan_eq_true_iff] using hvlan
  · rintro ⟨hports, haccess, htrunk⟩ ⟨port, a⟩ ha
    rw [List.append_eq_nil_iff, findingIf_eq_nil_iff, port?, find?_isNone_eq_false_iff]
    refine ⟨hports port (List.mem_map.mpr ⟨_, ha, rfl⟩), ?_⟩
    cases a with
    | access pvid =>
      rw [findingIf_eq_nil_iff, Bool.not_eq_false', hasVlan_eq_true_iff]
      exact haccess port pvid ha
    | trunk native allowed =>
      rw [List.map_eq_nil_iff, List.filter_eq_nil_iff]
      intro v hv hfound
      simp only [Bool.and_eq_true, bne_iff_ne, Bool.not_eq_true'] at hfound
      have hvlan := hasVlan_eq_true_iff.mpr (htrunk port native allowed ha v hv hfound.1)
      exact Bool.false_ne_true (hfound.2.symm.trans hvlan)

/-- An id is that of an uplink at whatever position. -/
theorem uplink?_isNone_eq_false_iff {id : String} :
    (s.uplink? id).isNone = false ↔ ∃ u ∈ s.uplinks, u.id = id := by
  rw [uplink?, find?_isNone_eq_false_iff (f := fun x : Nat × Uplink => x.2.id)]
  constructor
  · rintro ⟨⟨i, u⟩, hu, rfl⟩
    obtain ⟨k, hk, -⟩ := mem_placedUplinks.mp hu
    exact ⟨u, List.mem_of_getElem? hk, rfl⟩
  · rintro ⟨u, hu, rfl⟩
    obtain ⟨k, hk⟩ := List.mem_iff_getElem?.mp hu
    exact ⟨(k + 1, u), mem_placedUplinks.mpr ⟨k, hk, rfl⟩, rfl⟩

theorem routableCount_eq : s.routableCount =
    s.uplinks.countP (fun u => decide (u.kind ≠ .dhcp)) := by
  unfold routableCount
  refine congrArg (List.countP · s.uplinks) (funext fun u => ?_)
  cases u.kind with
  | pppoe username password => rfl
  | «static» address gateway => rfl
  | dhcp => rfl

theorem steeringFindings_eq_nil_iff {strict : Bool} : s.steeringFindings strict = [] ↔
    (∀ network uplink, (network, uplink) ∈ s.steering.mapping.entries →
      ∃ n ∈ s.networks, n.id = network) ∧
    (∀ network uplink, (network, uplink) ∈ s.steering.mapping.entries →
      ∃ u ∈ s.uplinks, u.id = uplink) ∧
    (strict = true → s.steering.enabled = true →
      2 ≤ s.uplinks.countP (fun u => decide (u.kind ≠ .dhcp)) →
      ∀ n ∈ s.networks, n.id ∈ s.steering.mapping.keys) := by
  rw [steeringFindings, List.append_eq_nil_iff, List.flatMap_eq_nil_iff, ← and_assoc,
    ← routableCount_eq]
  refine and_congr ?_ ?_
  · simp only [Prod.forall, List.append_eq_nil_iff, findingIf_eq_nil_iff, network?,
      find?_isNone_eq_false_iff, uplink?_isNone_eq_false_iff, forall_and]
  · split
    next h =>
      simp only [Bool.and_eq_true, decide_eq_true_eq] at h
      simp [h.1.1, h.1.2, h.2, Keyed.contains]
    next h =>
      refine iff_of_true rfl fun hstrict henabled hcount => absurd ?_ h
      simp [hstrict, henabled, hcount]

theorem findings_eq_nil_iff {profile : Profile} {strict : Bool} :
    s.findings profile strict = [] ↔ s.IsValid profile strict := by
  rw [findings]
  simp only [List.append_eq_nil_iff, requiredFieldFindings_eq_nil_iff, portFindings_eq_nil_iff,
    uplinkFindings_eq_nil_iff, networkFindings_eq_nil_iff, overlapFindings_eq_nil_iff,
    clashFindings_eq_nil_iff, assignmentFindings_eq_nil_iff, steeringFindings_eq_nil_iff,
    findingIf_eq_nil_iff, List.isEmpty_eq_false_iff]
  constructor
  · rintro ⟨⟨⟨⟨⟨⟨⟨⟨⟨hidentity, htoken, hurl⟩, hportNames, hports⟩,
      hids, hidsNodup, hup, hupNodup, hupFree⟩,
      hnets, hnetNames, hnetNamesNodup, hvlans, hvlansNodup, hhotspot, hdhcp, hrouter⟩, hdisjoint⟩,
      hbridge, hport, hclient⟩, hassigned, haccess, htrunk⟩, hmapNet, hmapUp, hstrict⟩, hservers⟩
    exact ⟨hidentity, htoken, hurl, hportNames, hports, hids, hidsNodup, hup, hupNodup, hupFree,
      hnets, hnetNames, hnetNamesNodup, hvlans, hvlansNodup, hhotspot, hdhcp, hrouter, hdisjoint,
      hbridge, hport, hclient, hassigned, haccess, htrunk, hmapNet, hmapUp, hstrict, hservers⟩
  · intro h
    exact ⟨⟨⟨⟨⟨⟨⟨⟨⟨h.identity_filled, h.token_filled, h.heartbeatUrl_filled⟩,
      h.port_names, h.ports_nodup⟩,
      h.uplink_ids, h.uplinks_nodup, h.uplink_ports, h.uplink_ports_nodup,
      h.uplink_ports_unassigned⟩,
      h.networks_nodup, h.network_names, h.network_names_nodup, h.vlans_usable, h.vlans_nodup,
      h.hotspot_dhcp, h.dhcp_length, h.router_host⟩, h.subnets_disjoint⟩,
      h.names_not_bridge, h.names_not_port, h.names_not_client⟩,
      h.assigned_ports, h.access_vlans, h.trunk_vlans⟩,
      h.mapped_networks, h.mapped_uplinks, h.strict_mapping⟩, h.servers_ne_nil⟩

/-- A site is refused with its first finding, so it is accepted when it has none. -/
theorem check_eq_ok_iff {profile : Profile} {strict : Bool} :
    s.check profile strict = .ok () ↔ s.findings profile strict = [] := by
  unfold check
  split
  next h => exact iff_of_true rfl h
  next f rest h => exact iff_of_false (by simp) (by simp [h])

/-- **The check accepts exactly the valid sites.** -/
theorem check_accepts_iff_isValid (s : Site) (profile : Profile) (strict : Bool) :
    s.check profile strict = .ok () ↔ s.IsValid profile strict := by
  rw [check_eq_ok_iff, findings_eq_nil_iff]

end Site

end SiteRouter
