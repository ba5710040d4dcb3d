import SiteRouter.Plan.VlanTable
import SiteRouter.Proofs.Validity

/-!
# The loop behind the VLAN table

The table is made by going through the assignments once. Each of them may be refused, adds its port
to the bridge, and for a trunk enters the port with every VLAN that it allows. What a loop over the
VLANs leaves behind is said here member by member: `VlanDraft.enter` is what one port does to the
members of all VLANs at once, and taking the VLANs of a trunk one after the other comes to one such
step (`VlanDraft.assign_eq`). Whether an assignment is refused does not depend on the draft.

Hence `VlanTable.plan_eq`: the first assignment that is refused decides, and otherwise the entry of
a network lists the trunks that carry its VLAN. Both are said by the site alone, so that the loop
need not be looked at again.
-/

namespace SiteRouter

/-! ## What the loop comes to -/

/-- Does a port with the assignment carry the VLAN tagged? -/
def Assignment.tags (vlan : VlanId) : Assignment → Bool
  | .access _ => false
  | .trunk native allowed => vlan != native && allowed.contains vlan

namespace Site

/-- The assignments of ports that carry no uplink. -/
def bridged (s : Site) : List (String × Assignment) :=
  s.assignments.entries.filter fun (port, _) => !s.carriesUplink port

/-- The first VLAN of an assignment that no network has. Only the default VLAN needs none. -/
def vlanError? (s : Site) (port : String) : Assignment → Option PlanError
  | .access pvid => if s.hasVlan pvid then none else some (.unknownAccessVlan port pvid)
  | .trunk native allowed =>
    if native ≠ VlanId.default ∧ !s.hasVlan native then some (.unknownNativeVlan port native)
    else (allowed.find? fun v => v != native && !s.hasVlan v).map (.unknownTrunkVlan port)

/-- The tagged ports of a VLAN, in the order of their assignments. A port that is named like the
bridge is not listed a second time. -/
def taggedPorts (s : Site) (bridge : String) (vlan : VlanId) : List String :=
  (s.bridged.filter fun (port, a) => port != bridge && a.tags vlan).map Prod.fst

/-- The members of the VLANs of the networks. Only the first of several networks with one VLAN has
tagged ports. -/
def memberships (s : Site) (bridge : String) (earlier : List Network) :
    List Network → List Membership
  | [] => []
  | n :: rest =>
    -- A VLAN that comes again has its ports in the first entry.
    let ports := if earlier.any (·.vlan == n.vlan) then [] else s.taggedPorts bridge n.vlan
    ⟨n.vlan, n.name, bridge :: ports⟩ :: s.memberships bridge (earlier ++ [n]) rest

/-- The entry at an index is that of the network there; it has no ports when the VLAN came
before. -/
theorem getElem?_memberships {s : Site} {bridge : String} {earlier networks : List Network}
    {i : Nat} : (s.memberships bridge earlier networks)[i]? = networks[i]?.map fun n =>
      ⟨n.vlan, n.name, bridge ::
        if (earlier ++ networks.take i).any (·.vlan == n.vlan) then []
        else s.taggedPorts bridge n.vlan⟩ := by
  induction networks generalizing earlier i with
  | nil => rfl
  | cons n rest ih =>
    cases i with
    | zero => rw [List.take_zero, List.append_nil]; rfl
    | succ i =>
      rw [memberships, List.getElem?_cons_succ, ih, List.getElem?_cons_succ, List.take_succ_cons,
        List.append_assoc]
      rfl

/-- Does a port with the assignment come into the entry at an index? A VLAN has its ports in the
first entry that it has. -/
def enters (s : Site) (i : Nat) : Assignment → Bool
  | .access _ => false
  | .trunk native allowed =>
    allowed.any fun v => v != native && s.networks.findIdx? (·.vlan == v) == some i

/-- The first entry with a VLAN is that of the first network with it. -/
theorem findIdx?_vlan_eq_some_iff {s : Site} {i : Nat} {n : Network} (hn : s.networks[i]? = some n)
    {vlan : VlanId} : s.networks.findIdx? (·.vlan == vlan) = some i ↔
      (s.networks.take i).any (·.vlan == n.vlan) = false ∧ n.vlan = vlan := by
  obtain ⟨hi, rfl⟩ := List.getElem?_eq_some_iff.mp hn
  rw [List.findIdx?_eq_some_iff_getElem, any_eq_false_iff]
  simp only [beq_iff_eq]
  constructor
  · rintro ⟨_, hvlan, hbefore⟩
    refine ⟨fun e he => ?_, hvlan⟩
    obtain ⟨j, hj, rfl⟩ := List.mem_take_iff_getElem.mp he
    rw [hvlan]
    exact hbefore j (by omega)
  · rintro ⟨hbefore, rfl⟩
    refine ⟨hi, rfl, fun j hj => hbefore _ ?_⟩
    exact List.mem_take_iff_getElem.mpr ⟨j, by omega, rfl⟩

theorem enters_eq {s : Site} {i : Nat} {n : Network} (hn : s.networks[i]? = some n)
    (a : Assignment) :
    s.enters i a = (!(s.networks.take i).any (·.vlan == n.vlan) && a.tags n.vlan) := by
  cases a with
  | access pvid => rw [enters, Assignment.tags, Bool.and_false]
  | trunk native allowed =>
    rw [Bool.eq_iff_iff]
    simp only [enters, Assignment.tags, List.any_eq_true, Bool.and_eq_true, bne_iff_ne, beq_iff_eq,
      findIdx?_vlan_eq_some_iff hn, Bool.not_eq_true', List.contains_iff_mem]
    constructor
    · rintro ⟨_, hmem, hnative, hnew, rfl⟩
      exact ⟨hnew, hnative, hmem⟩
    · rintro ⟨hnew, hnative, hmem⟩
      exact ⟨n.vlan, hmem, hnative, hnew, rfl⟩

end Site

namespace VlanDraft

variable {s : Site} {bridge port : String}

/-! ## One assignment -/

/-- A port becomes a member of the VLANs at some indices. -/
def enter (port : String) (places : Nat → Bool) (members : List (List String)) :
    List (List String) :=
  members.mapIdx fun i names => if places i then withMember port names else names

theorem enter_of_none (members : List (List String)) :
    enter port (fun _ => false) members = members :=
  List.mapIdx_eq_iff.mpr fun _ => Option.map_id'.symm

theorem modify_eq_enter (i : Nat) (members : List (List String)) :
    members.modify i (withMember port) = enter port (fun j => some i == some j) members := by
  refine List.ext_getElem? fun j => ?_
  rw [enter, List.getElem?_modify, List.getElem?_mapIdx]
  simp only [Option.some_beq_some, beq_iff_eq]
  rfl

theorem withMember_cons {names : List String} (hnew : port ∉ names) :
    withMember port (bridge :: names) =
      bridge :: names ++ if port != bridge then [port] else [] := by
  by_cases h : port = bridge <;> simp [withMember, h, hnew]

theorem withMember_withMember (names : List String) :
    withMember port (withMember port names) = withMember port names := by
  by_cases h : port ∈ names <;> simp [withMember, h]

/-- A port that becomes a member twice is one. -/
theorem enter_enter (p q : Nat → Bool) (members : List (List String)) :
    enter port q (enter port p members) = enter port (fun i => p i || q i) members := by
  rw [enter, enter, List.mapIdx_mapIdx, enter]
  refine congrArg (List.mapIdx · members) (funext fun i => funext fun names => ?_)
  cases p i <;> cases q i <;> simp [withMember_withMember]

theorem foldl_enter (p : VlanId → Nat → Bool) (vlans : List VlanId) (members : List (List String)) :
    vlans.foldl (fun members v => enter port (p v) members) members =
      enter port (fun i => vlans.any (p · i)) members := by
  induction vlans generalizing members with
  | nil => exact (enter_of_none members).symm
  | cons v vlans ih => simp only [List.foldl_cons, ih, enter_enter, List.any_cons]

theorem hasVlan_eq_isSome (vlan : VlanId) :
    s.hasVlan vlan = (s.networks.findIdx? (·.vlan == vlan)).isSome := by
  rw [List.findIdx?_isSome, Site.hasVlan, Site.networkOnVlan?, List.isSome_find?]

/-- A trunk port is refused for an unknown VLAN, and otherwise comes into its entry. -/
theorem tag_eq (native : VlanId) (members : List (List String)) (vlan : VlanId) :
    tag s port native members vlan =
      ((Option.guard (fun v => v != native && !s.hasVlan v) vlan).map (.unknownTrunkVlan port)).elim
        (.ok (enter port (fun i => vlan != native &&
          s.networks.findIdx? (·.vlan == vlan) == some i) members)) .error := by
  rw [tag, Option.guard, hasVlan_eq_isSome]
  by_cases hnative : vlan = native
  · simp [hnative, enter_of_none]
  · cases hfound : s.networks.findIdx? (·.vlan == vlan) with
    | none => simp [hnative]
    | some i =>
      have hne : (vlan != native) = true := bne_iff_ne.mpr hnative
      simp [hnative, hne, modify_eq_enter]

theorem assign_eq (members : List (List String)) (a : Assignment) : assign s port members a =
    (s.vlanError? port a).elim (.ok (enter port (s.enters · a) members)) .error := by
  cases a with
  | access pvid =>
    rw [assign, Site.vlanError?]
    split
    next => exact congrArg _ (enter_of_none members).symm
    next => rfl
  | trunk native allowed =>
    rw [assign, Site.vlanError?]
    split
    next => rfl
    next =>
      rw [foldlM_eq_of_refusal (tag_eq native), foldl_enter, ← List.findSome?_guard,
        List.map_findSome?]
      rfl

/-! ## All assignments -/

/-- The draft with an assignment that is not refused. -/
def add (s : Site) (d : VlanDraft) (x : String × Assignment) : VlanDraft :=
  ⟨d.ports ++ [⟨x.1, x.2.mode, x.2.pvid⟩], enter x.1 (s.enters · x.2) d.members⟩

/-- Going through all assignments is going through those that count. -/
theorem foldlM_join (d : VlanDraft) : s.assignments.entries.foldlM (join s) d =
    (s.bridged.findSome? fun (port, a) => s.vlanError? port a).elim
      (.ok (s.bridged.foldl (add s) d)) .error := by
  have hjoin : join s = fun d x =>
      if !s.carriesUplink x.1 then (s.vlanError? x.1 x.2).elim (.ok (add s d x)) .error
      else pure d := by
    funext d x
    rw [join, assign_eq]
    cases s.carriesUplink x.1 <;> cases s.vlanError? x.1 x.2 <;> rfl
  rw [hjoin, ← List.foldlM_filter, foldlM_eq_of_refusal fun _ _ => rfl]
  rfl

/-- The draft after some of the assignments. -/
structure IsAfter (s : Site) (bridge : String) (done : List (String × Assignment))
    (d : VlanDraft) : Prop where
  ports_eq : d.ports = done.map fun (port, a) => ⟨port, a.mode, a.pvid⟩
  members_eq : d.members = s.networks.mapIdx fun i _ =>
    bridge :: (done.filter fun (port, a) => port != bridge && s.enters i a).map Prod.fst

variable {done xs : List (String × Assignment)} {d : VlanDraft}

theorem isAfter_start : (start s bridge).IsAfter s bridge [] :=
  ⟨rfl, (List.mapIdx_eq_iff.mpr fun _ => List.getElem?_map ..).symm⟩

/-- A port that has not been met before is a new member, unless it is named like the bridge. -/
theorem IsAfter.add (h : d.IsAfter s bridge done) {x : String × Assignment}
    (hnew : x.1 ∉ done.map Prod.fst) : (d.add s x).IsAfter s bridge (done ++ [x]) := by
  refine ⟨?_, ?_⟩
  · rw [VlanDraft.add, h.ports_eq, List.map_append]
    rfl
  · rw [VlanDraft.add, h.members_eq, enter, List.mapIdx_mapIdx]
    refine congrArg (List.mapIdx · s.networks) (funext fun i => funext fun _ => ?_)
    have hnew : x.1 ∉ (done.filter fun (port, a) => port != bridge && s.enters i a).map Prod.fst :=
      fun hmem => hnew ((List.filter_sublist.map _).subset hmem)
    rw [Function.comp, withMember_cons hnew, List.filter_append, List.map_append]
    cases henters : s.enters i x.2 <;> cases hbridge : x.1 != bridge <;> simp [henters, hbridge]

theorem IsAfter.foldl_add (h : d.IsAfter s bridge done)
    (hnodup : ((done ++ xs).map Prod.fst).Nodup) :
    (xs.foldl (VlanDraft.add s) d).IsAfter s bridge (done ++ xs) := by
  induction xs generalizing done d with
  | nil => rwa [List.append_nil]
  | cons x xs ih =>
    have hnew : x.1 ∉ done.map Prod.fst := by
      rw [List.map_append, List.nodup_append] at hnodup
      exact fun hmem => hnodup.2.2 x.1 hmem x.1 (List.mem_cons_self ..) rfl
    rw [List.append_cons] at hnodup ⊢
    exact ih (h.add hnew) hnodup

end VlanDraft

/-! ## The table -/

theorem Site.bridged_sublist {s : Site} :
    (s.bridged.map Prod.fst).Sublist s.assignments.keys :=
  List.filter_sublist.map _

theorem Site.nodup_bridged {s : Site} : (s.bridged.map Prod.fst).Nodup :=
  s.assignments.nodup.sublist bridged_sublist

/-- The ports that come into an entry are those that are tagged with its VLAN, unless it came
before. -/
theorem Site.filter_enters {s : Site} {bridge : String} {i : Nat} {n : Network}
    (hn : s.networks[i]? = some n) :
    (s.bridged.filter fun (port, a) => port != bridge && s.enters i a).map Prod.fst =
      if (s.networks.take i).any (·.vlan == n.vlan) then [] else s.taggedPorts bridge n.vlan := by
  simp only [enters_eq hn, taggedPorts]
  cases (s.networks.take i).any (·.vlan == n.vlan) <;> simp

theorem VlanDraft.IsAfter.table_eq {s : Site} {bridge : String} {d : VlanDraft}
    (h : d.IsAfter s bridge s.bridged) : d.table s bridge = {
      bridge
      ports := s.bridged.map fun (port, a) => ⟨port, a.mode, a.pvid⟩
      vlans := s.memberships bridge [] s.networks } := by
  have hvlans : (d.table s bridge).vlans = s.memberships bridge [] s.networks := by
    refine List.ext_getElem? fun i => ?_
    rw [table, List.getElem?_map, Site.getElem?_memberships, h.members_eq, List.zip_eq_zipWith,
      List.getElem?_zipWith, List.getElem?_mapIdx]
    cases hn : s.networks[i]? with
    | none => rfl
    | some n => simp only [Option.map_some, List.nil_append, Site.filter_enters hn]
  rw [← hvlans, ← h.ports_eq]
  rfl

/-- The table in terms of the site: the first assignment that is refused decides, and otherwise the
members are those that the assignments make. -/
theorem VlanTable.plan_eq (s : Site) (bridge : String) : plan s bridge =
    (s.bridged.findSome? fun (port, a) => s.vlanError? port a).elim
      (.ok {
        bridge
        ports := s.bridged.map fun (port, a) => ⟨port, a.mode, a.pvid⟩
        vlans := s.memberships bridge [] s.networks }) .error := by
  have hloop : (s.bridged.foldl (VlanDraft.add s) (.start s bridge)).IsAfter s bridge s.bridged :=
    VlanDraft.isAfter_start.foldl_add Site.nodup_bridged
  rw [plan, VlanDraft.foldlM_join]
  cases s.bridged.findSome? fun (port, a) => s.vlanError? port a with
  | some e => rfl
  | none => exact congrArg Except.ok hloop.table_eq

end SiteRouter
