import SiteRouter.Proofs.RoutedUplinks

/-!
# Routes during outages

When an uplink is down, every default route that leads through it is out of use, and a table takes
the route of least distance among those that are left. `Failover.taken` are these routes for any
choice of uplinks that are up; it reads the routes of the plan as a device does, from the whole list
and without knowing for which uplink each was made.

`Failover.plan_fails_over` says which they are: every table is left with one route, through its own
uplink as long as that is up, and else through the first one that is. It is one because the routes
that are left to a table (`usable_main`, `usable_table`) have different distances, so that one of
them is the cheapest (`filter_cheapest`); it is the right one because a route leads through one
uplink alone (`leadsThrough_tableDefault`, `leadsThrough_backup`), for which probes and ids have to
be distinct.
-/

namespace SiteRouter

/-! ## Reading the routes of a plan -/

namespace Route

/-- The distance by which the device compares the route. -/
def cost (r : Route) : Nat := r.distance.getD 1

/-- Does the default route lead through the uplink? A route that is checked points at a probe and
leads through the uplink whose host route pins the probe. Any other is a backup and leads through
the uplink that its comment names. -/
def leadsThrough (r : Route) (u : UplinkRoutes) : Bool :=
  -- The gateway alone does not tell the two apart, since an address may be probe and gateway.
  if r.checkGateway then
    match r.gateway with
    | .address probe => u.hostRoute.destination == .host probe
    | .interface _ => false
  else r.table.any fun table => r.comment == s!"{table} backup via {u.uplink}"

end Route

namespace Failover

/-- Is the route a default of the table, through one of the uplinks that are up? Uplinks go by their
positions, and without a table it is the main one. -/
def isUsable (f : Failover) (isUp : Nat → Bool) (table : Option String) (r : Route) : Bool :=
  r.destination == .everything && r.table == table &&
    f.uplinks.any fun u => isUp u.position && r.leadsThrough u

/-- The default routes of the table that can be used. -/
def usable (f : Failover) (isUp : Nat → Bool) (table : Option String) : List Route :=
  f.routes.filter (f.isUsable isUp table)

/-- Those of them that no other is nearer than. -/
def taken (f : Failover) (isUp : Nat → Bool) (table : Option String) : List Route :=
  (f.usable isUp table).filter fun r => (f.usable isUp table).all fun other => r.cost ≤ other.cost

end Failover

/-- Where no two items cost the same, the cheapest is the only one that none is cheaper than. -/
theorem filter_cheapest {α : Type} {cost : α → Nat} {xs : List α} {x : α}
    (hnodup : (xs.map cost).Nodup) (hx : x ∈ xs) (hleast : ∀ y ∈ xs, cost x ≤ cost y) :
    xs.filter (fun y => xs.all fun z => cost y ≤ cost z) = [x] := by
  have hcheapest : ∀ y ∈ xs, (xs.all fun z => cost y ≤ cost z) = true → cost x = cost y := by
    intro y hy hall
    have hle : cost y ≤ cost x := of_decide_eq_true (List.all_eq_true.mp hall x hx)
    exact Nat.le_antisymm (hleast y hy) hle
  have hkept : (xs.all fun z => decide (cost x ≤ cost z)) = true :=
    List.all_eq_true.mpr fun z hz => decide_eq_true (hleast z hz)
  obtain ⟨front, back, hxs⟩ := List.append_of_mem hx
  have hcosts := hnodup
  rw [hxs, List.map_append, List.map_cons, List.nodup_append, List.nodup_cons] at hcosts
  obtain ⟨-, ⟨hback, -⟩, hfront⟩ := hcosts
  rw [List.filter_eq_cons_iff]
  refine ⟨front, back, hxs, ?_, hkept, List.filter_eq_nil_iff.mpr ?_⟩
  · intro y hy hall
    have hmem : y ∈ xs := by
      rw [hxs]
      exact List.mem_append_left _ hy
    exact hfront (cost y) (List.mem_map.mpr ⟨y, hy, rfl⟩) (cost x) (List.mem_cons_self ..)
      (hcheapest y hmem hall).symm
  · intro y hy hall
    have hmem : y ∈ xs := by
      rw [hxs]
      exact List.mem_append_right _ (List.mem_cons_of_mem _ hy)
    exact hback (List.mem_map.mpr ⟨y, hy, (hcheapest y hmem hall).symm⟩)

namespace Failover.IsFor

variable {uplinks : List Uplink} {probes : List Ipv4} {f : Failover} {u v : UplinkRoutes}

/-! ## Through which uplink a route leads -/

theorem eq_of_position (h : f.IsFor uplinks probes) (hu : u ∈ f.uplinks) (hv : v ∈ f.uplinks)
    (hposition : u.position = v.position) : u = v :=
  eq_of_mem_of_nodup h.positions_nodup hu hv hposition

/-- Where probes are distinct, a probe tells its uplink. -/
theorem eq_of_probe (h : f.IsFor uplinks probes) (hprobes : probes.Nodup) (hu : u ∈ f.uplinks)
    (hv : v ∈ f.uplinks) (hprobe : u.probe = v.probe) : u = v := by
  obtain ⟨i, -, hi, -, hui, -⟩ := (h.routes_isFor u hu).placed
  obtain ⟨j, -, hj, -, hvj, -⟩ := (h.routes_isFor v hv).placed
  have hij : i = j := by
    rw [← List.map_id probes] at hprobes
    exact eq_of_getElem?_of_nodup hprobes hui hvj hprobe
  exact h.eq_of_position hu hv (by rw [hi, hj, hij])

/-- Where ids are distinct, an id tells its uplink. -/
theorem eq_of_id (h : f.IsFor uplinks probes) (hids : (uplinks.map (·.id)).Nodup)
    (hu : u ∈ f.uplinks) (hv : v ∈ f.uplinks) (hid : u.uplink = v.uplink) : u = v := by
  obtain ⟨i, x, hi, hxi, -, hux, -⟩ := (h.routes_isFor u hu).placed
  obtain ⟨j, y, hj, hyj, -, hvy, -⟩ := (h.routes_isFor v hv).placed
  have hij : i = j :=
    eq_of_getElem?_of_nodup hids hxi hyj (hux.symm.trans (hid.trans hvy))
  exact h.eq_of_position hu hv (by rw [hi, hj, hij])

/-- A checked route to the probe of an uplink leads through that uplink. -/
theorem leadsThrough_probe (h : f.IsFor uplinks probes) (hprobes : probes.Nodup)
    (hu : u ∈ f.uplinks) (hv : v ∈ f.uplinks) {r : Route} (hchecked : r.checkGateway = true)
    (hgateway : r.gateway = .address u.probe) : r.leadsThrough v = true ↔ v = u := by
  rw [Route.leadsThrough, if_pos hchecked, hgateway, (h.routes_isFor v hv).hostRoute_eq]
  constructor
  · intro hpinned
    have hdestination := beq_iff_eq.mp hpinned
    exact h.eq_of_probe hprobes hv hu (congrArg Cidr.address hdestination)
  · rintro rfl
    exact beq_self_eq_true _

theorem leadsThrough_tableDefault (h : f.IsFor uplinks probes) (hprobes : probes.Nodup)
    (hu : u ∈ f.uplinks) (hv : v ∈ f.uplinks) : u.tableDefault.leadsThrough v = true ↔ v = u := by
  have hroute := (h.routes_isFor u hu).tableDefault_eq
  exact h.leadsThrough_probe hprobes hu hv (by rw [hroute]) (by rw [hroute])

theorem leadsThrough_mainDefault (h : f.IsFor uplinks probes) (hprobes : probes.Nodup)
    (hu : u ∈ f.uplinks) (hv : v ∈ f.uplinks) : u.mainDefault.leadsThrough v = true ↔ v = u := by
  have hroute := (h.routes_isFor u hu).mainDefault_eq
  exact h.leadsThrough_probe hprobes hu hv (by rw [hroute]) (by rw [hroute])

theorem leadsThrough_backup (h : f.IsFor uplinks probes) (hids : (uplinks.map (·.id)).Nodup)
    (hu : u ∈ f.uplinks) (hv : v ∈ f.uplinks) (r : UplinkRoutes) :
    (r.backupThrough u).leadsThrough v = true ↔ v = u := by
  have hcomment : (r.backupThrough u).leadsThrough v = true ↔
      s!"{r.table} backup via {u.uplink}" = s!"{r.table} backup via {v.uplink}" := beq_iff_eq
  rw [hcomment]
  constructor
  · intro hsame
    have hid : u.uplink = v.uplink := (String.append_right_inj _).mp hsame
    exact (h.eq_of_id hids hu hv hid).symm
  · rintro rfl
    rfl

/-! ## The routes that can be used -/

variable {isUp : Nat → Bool} {table : Option String}

/-- A route that leads through one uplink alone can be used when that uplink is up. -/
theorem isUsable_eq (hu : u ∈ f.uplinks) {r : Route} (hdefault : r.destination = .everything)
    (hleads : ∀ v ∈ f.uplinks, r.leadsThrough v = true ↔ v = u) :
    f.isUsable isUp table r = (r.table == table && isUp u.position) := by
  have hany : (f.uplinks.any fun v => isUp v.position && r.leadsThrough v) = isUp u.position := by
    rw [Bool.eq_iff_iff, List.any_eq_true]
    constructor
    · rintro ⟨v, hv, hup⟩
      rw [Bool.and_eq_true, hleads v hv] at hup
      exact hup.2 ▸ hup.1
    · intro hup
      exact ⟨u, hu, by rw [hup, (hleads u hu).mpr rfl]; rfl⟩
  rw [isUsable, hdefault, hany, beq_self_eq_true, Bool.true_and]

/-- A host route is no default route. -/
theorem isUsable_hostRoute (h : f.IsFor uplinks probes) (hu : u ∈ f.uplinks) :
    f.isUsable isUp table u.hostRoute = false := by
  have hother : (u.hostRoute.destination == Cidr.everything) = false := by
    rw [(h.routes_isFor u hu).hostRoute_eq]
    refine beq_eq_false_iff_ne.mpr fun heq => ?_
    exact absurd (congrArg Cidr.length heq) (by decide : 32 ≠ 0)
  rw [isUsable, hother, Bool.false_and, Bool.false_and]

theorem isUsable_tableDefault (h : f.IsFor uplinks probes) (hprobes : probes.Nodup)
    (hu : u ∈ f.uplinks) :
    f.isUsable isUp table u.tableDefault = (some u.table == table && isUp u.position) := by
  have hroute := (h.routes_isFor u hu).tableDefault_eq
  rw [isUsable_eq hu (by rw [hroute]) fun v hv => h.leadsThrough_tableDefault hprobes hu hv, hroute]

theorem isUsable_mainDefault (h : f.IsFor uplinks probes) (hprobes : probes.Nodup)
    (hu : u ∈ f.uplinks) :
    f.isUsable isUp table u.mainDefault = (none == table && isUp u.position) := by
  have hroute := (h.routes_isFor u hu).mainDefault_eq
  rw [isUsable_eq hu (by rw [hroute]) fun v hv => h.leadsThrough_mainDefault hprobes hu hv, hroute]

theorem isUsable_backup (h : f.IsFor uplinks probes) (hids : (uplinks.map (·.id)).Nodup)
    (hu : u ∈ f.uplinks) (r : UplinkRoutes) :
    f.isUsable isUp table (r.backupThrough u) = (some r.table == table && isUp u.position) :=
  isUsable_eq hu rfl fun _ hv => h.leadsThrough_backup hids hu hv r

/-- The main table has the defaults of the uplinks that are up. -/
theorem usable_main (h : f.IsFor uplinks probes) (hprobes : probes.Nodup)
    (hids : (uplinks.map (·.id)).Nodup) :
    f.usable isUp none = (f.uplinks.filter fun u => isUp u.position).map (·.mainDefault) := by
  have hroutes : ∀ u ∈ f.uplinks, u.routes.filter (f.isUsable isUp none) =
      if isUp u.position then [u.mainDefault] else [] := by
    intro u hu
    have hbackups : u.backups.filter (f.isUsable isUp none) = [] := by
      rw [h.backups_eq u hu, List.filter_eq_nil_iff]
      intro r hr
      obtain ⟨v, hv, rfl⟩ := List.mem_map.mp hr
      rw [h.isUsable_backup hids (List.mem_filter.mp hv).1 u]
      exact Bool.false_ne_true
    rw [UplinkRoutes.routes, List.filter_cons, List.filter_cons, List.filter_cons,
      h.isUsable_hostRoute hu, h.isUsable_tableDefault hprobes hu,
      h.isUsable_mainDefault hprobes hu, hbackups]
    cases isUp u.position <;> rfl
  rw [usable, routes, List.filter_flatMap, List.flatMap_def, List.map_congr_left hroutes,
    ← List.flatMap_def]
  -- What is left are one default at most for each uplink, whatever the uplinks are.
  generalize f.uplinks = us
  induction us with
  | nil => rfl
  | cons u us ih =>
    rw [List.flatMap_cons, ih, List.filter_cons]
    cases isUp u.position <;> rfl

/-- Of the routes of an uplink its table has the default while the uplink is up, and the backups
through the others that are up. -/
theorem filter_routes_self (h : f.IsFor uplinks probes) (hprobes : probes.Nodup)
    (hids : (uplinks.map (·.id)).Nodup) (hu : u ∈ f.uplinks) :
    u.routes.filter (f.isUsable isUp (some u.table)) =
      (if isUp u.position then [u.tableDefault] else []) ++
        (f.uplinks.filter fun v => v.position != u.position && isUp v.position).map
          u.backupThrough := by
  have hbackups : u.backups.filter (f.isUsable isUp (some u.table)) =
      (f.uplinks.filter fun v => v.position != u.position && isUp v.position).map
        u.backupThrough := by
    rw [h.backups_eq u hu, List.filter_map, List.filter_filter]
    refine congrArg (List.map u.backupThrough) (List.filter_congr fun v hv => ?_)
    rw [Function.comp, h.isUsable_backup hids hv u, beq_self_eq_true, Bool.true_and,
      Bool.and_comm]
  rw [UplinkRoutes.routes, List.filter_cons, List.filter_cons, List.filter_cons,
    h.isUsable_hostRoute hu, h.isUsable_tableDefault hprobes hu,
    h.isUsable_mainDefault hprobes hu, hbackups, beq_self_eq_true]
  cases isUp u.position <;> rfl

/-- The routes of one uplink are in no table of another. -/
theorem filter_routes_of_ne (h : f.IsFor uplinks probes) (hprobes : probes.Nodup)
    (hids : (uplinks.map (·.id)).Nodup) (hu : u ∈ f.uplinks) (hv : v ∈ f.uplinks) (hne : v ≠ u) :
    v.routes.filter (f.isUsable isUp (some u.table)) = [] := by
  have htable : (some v.table == some u.table) = false := by
    rw [beq_eq_false_iff_ne, (h.routes_isFor v hv).table_eq, (h.routes_isFor u hu).table_eq]
    intro heq
    exact hne (h.eq_of_position hv hu (routingTable_injective (Option.some.inj heq)))
  refine List.filter_eq_nil_iff.mpr fun r hr => Bool.not_eq_true _ ▸ ?_
  rw [UplinkRoutes.routes, List.mem_cons, List.mem_cons, List.mem_cons, h.backups_eq v hv] at hr
  rcases hr with rfl | rfl | rfl | hr
  · exact h.isUsable_hostRoute hv
  · rw [h.isUsable_tableDefault hprobes hv, htable, Bool.false_and]
  · rw [h.isUsable_mainDefault hprobes hv]
    rfl
  · obtain ⟨w, hw, rfl⟩ := List.mem_map.mp hr
    rw [h.isUsable_backup hids (List.mem_filter.mp hw).1 v, htable, Bool.false_and]

theorem usable_table (h : f.IsFor uplinks probes) (hprobes : probes.Nodup)
    (hids : (uplinks.map (·.id)).Nodup) (hu : u ∈ f.uplinks) :
    f.usable isUp (some u.table) = (if isUp u.position then [u.tableDefault] else []) ++
      (f.uplinks.filter fun v => v.position != u.position && isUp v.position).map
        u.backupThrough := by
  have hothers : ∀ v ∈ f.uplinks, v ≠ u →
      v.routes.filter (f.isUsable isUp (some u.table)) = [] :=
    fun v hv hne => h.filter_routes_of_ne hprobes hids hu hv hne
  rw [usable, routes, List.filter_flatMap, flatMap_of_nodup h.positions_nodup hu hothers,
    h.filter_routes_self hprobes hids hu]

/-! ## The routes that are taken -/

/-- Some uplink that is up comes first. -/
theorem exists_first (h : f.IsFor uplinks probes) (hup : ∃ u ∈ f.uplinks, isUp u.position = true) :
    ∃ first ∈ f.uplinks, isUp first.position = true ∧
      ∀ u ∈ f.uplinks, isUp u.position = true → first.position ≤ u.position := by
  obtain ⟨u, hu, hup⟩ := hup
  -- The uplinks stand in the order of their positions, so the first to be found is the least.
  cases hfind : f.uplinks.find? fun u => isUp u.position with
  | none => exact absurd hup (List.find?_eq_none.mp hfind u hu)
  | some first =>
    obtain ⟨hfirst, front, back, huplinks, hfront⟩ := List.find?_eq_some_iff_append.mp hfind
    refine ⟨first, List.mem_of_find?_eq_some hfind, hfirst, fun v hv hvup => ?_⟩
    have hascending := h.positions_ascending
    rw [huplinks, List.map_append, List.map_cons, List.pairwise_append, List.pairwise_cons]
      at hascending
    rw [huplinks, List.mem_append, List.mem_cons] at hv
    rcases hv with hv | rfl | hv
    · exact absurd (hfront v hv) (by rw [hvup]; exact Bool.false_ne_true)
    · exact Nat.le_refl _
    · exact Nat.le_of_lt (hascending.2.1.1 v.position (List.mem_map.mpr ⟨v, hv, rfl⟩))

variable {first : UplinkRoutes}

/-- The main table takes the default of the first uplink that is up. -/
theorem taken_main (h : f.IsFor uplinks probes) (hprobes : probes.Nodup)
    (hids : (uplinks.map (·.id)).Nodup) (hfirst : first ∈ f.uplinks)
    (hup : isUp first.position = true)
    (hleast : ∀ u ∈ f.uplinks, isUp u.position = true → first.position ≤ u.position) :
    f.taken isUp none = [first.mainDefault] := by
  have hcost : ∀ u ∈ f.uplinks, u.mainDefault.cost = u.position := by
    intro u hu
    rw [(h.routes_isFor u hu).mainDefault_eq]
    rfl
  rw [taken, h.usable_main hprobes hids]
  apply filter_cheapest
  · have hcosts : (f.uplinks.filter fun u => isUp u.position).map (Route.cost ∘ (·.mainDefault)) =
        (f.uplinks.filter fun u => isUp u.position).map (·.position) :=
      List.map_congr_left fun u hu => hcost u (List.mem_filter.mp hu).1
    rw [List.map_map, hcosts]
    exact h.positions_nodup.sublist (List.filter_sublist.map _)
  · exact List.mem_map.mpr ⟨first, List.mem_filter.mpr ⟨hfirst, hup⟩, rfl⟩
  · intro r hr
    obtain ⟨u, hu, rfl⟩ := List.mem_map.mp hr
    obtain ⟨hu, huUp⟩ := List.mem_filter.mp hu
    rw [hcost first hfirst, hcost u hu]
    exact hleast u hu huUp

/-- The table of an uplink takes its default while it is up, and else the backup through the first
one that is. -/
theorem taken_table (h : f.IsFor uplinks probes) (hprobes : probes.Nodup)
    (hids : (uplinks.map (·.id)).Nodup) (hfirst : first ∈ f.uplinks)
    (hup : isUp first.position = true)
    (hleast : ∀ u ∈ f.uplinks, isUp u.position = true → first.position ≤ u.position)
    (hu : u ∈ f.uplinks) : f.taken isUp (some u.table) =
      [if isUp u.position then u.tableDefault else u.backupThrough first] := by
  have hdefault : u.tableDefault.cost = 1 := by
    rw [(h.routes_isFor u hu).tableDefault_eq]
    rfl
  have hbackup : ∀ v, (u.backupThrough v).cost = v.position + 2 := fun v => rfl
  have hbackups : (((f.uplinks.filter fun v => v.position != u.position && isUp v.position).map
      u.backupThrough).map Route.cost).Nodup := by
    rw [List.map_map]
    have hpositions := h.positions_nodup.sublist
      ((List.filter_sublist (p := fun v => v.position != u.position && isUp v.position)).map _)
    rw [List.Nodup, List.pairwise_map] at hpositions ⊢
    exact hpositions.imp fun hne heq => hne (Nat.add_right_cancel heq)
  rw [taken, h.usable_table hprobes hids hu]
  -- The default of the table is nearer than any backup, whose distances start at 3.
  cases huUp : isUp u.position with
  | true =>
    apply filter_cheapest
    · rw [if_pos rfl, List.singleton_append, List.map_cons, List.nodup_cons]
      refine ⟨fun hmem => ?_, hbackups⟩
      obtain ⟨r, hr, hcost⟩ := List.mem_map.mp hmem
      obtain ⟨v, -, rfl⟩ := List.mem_map.mp hr
      rw [hdefault, hbackup] at hcost
      omega
    · exact List.mem_append_left _ (List.mem_singleton_self _)
    · intro r hr
      rcases List.mem_append.mp hr with hr | hr
      · rw [List.mem_singleton.mp hr]
        exact Nat.le_refl _
      · obtain ⟨v, -, rfl⟩ := List.mem_map.mp hr
        rw [if_pos rfl, hdefault, hbackup]
        omega
  | false =>
    apply filter_cheapest
    · exact hbackups
    · have hne : first.position ≠ u.position := by
        intro heq
        rw [heq, huUp] at hup
        exact Bool.false_ne_true hup
      refine List.mem_map.mpr ⟨first, List.mem_filter.mpr ⟨hfirst, ?_⟩, rfl⟩
      rw [hup, Bool.and_true]
      exact bne_iff_ne.mpr hne
    · intro r hr
      obtain ⟨v, hv, rfl⟩ := List.mem_map.mp hr
      obtain ⟨hv, hvUp⟩ := List.mem_filter.mp hv
      have hle := hleast v hv (Bool.and_eq_true_iff.mp hvUp).2
      rw [if_neg Bool.false_ne_true, hbackup, hbackup]
      omega

end Failover.IsFor

/-- **Every table is left with one route, and the right one.** As long as some uplink is up, the
main table takes the default of the first one, and the table of an uplink takes a route through
that uplink if it is up and through the first one that is if it is not. -/
theorem Failover.plan_fails_over {uplinks : List Uplink} {probes : List Ipv4} {overflow : Overflow}
    {f : Failover} (h : plan uplinks probes overflow = .ok f) (hprobes : probes.Nodup)
    (hids : (uplinks.map (·.id)).Nodup) {isUp : Nat → Bool}
    (hup : ∃ u ∈ f.uplinks, isUp u.position = true) :
    ∃ first ∈ f.uplinks, isUp first.position = true ∧
      (∀ u ∈ f.uplinks, isUp u.position = true → first.position ≤ u.position) ∧
      f.taken isUp none = [first.mainDefault] ∧
      (∀ v ∈ f.uplinks, first.mainDefault.leadsThrough v = true ↔ v = first) ∧
      ∀ u ∈ f.uplinks, ∃ r, f.taken isUp (some s!"to-wan{u.position}") = [r] ∧
        ∀ v ∈ f.uplinks, r.leadsThrough v = true ↔ v = if isUp u.position then u else first := by
  have hf := isFor_of_plan_eq_ok h
  obtain ⟨first, hfirst, hfirstUp, hleast⟩ := hf.exists_first hup
  refine ⟨first, hfirst, hfirstUp, hleast, hf.taken_main hprobes hids hfirst hfirstUp hleast,
    fun v hv => hf.leadsThrough_mainDefault hprobes hfirst hv, fun u hu => ?_⟩
  have htaken := hf.taken_table hprobes hids hfirst hfirstUp hleast hu
  rw [(hf.routes_isFor u hu).table_eq] at htaken
  refine ⟨_, htaken, fun v hv => ?_⟩
  cases isUp u.position with
  | true => exact hf.leadsThrough_tableDefault hprobes hu hv
  | false => exact hf.leadsThrough_backup hids hfirst hv u

/-- Four uplinks of which the first is down and the second has no routes: the main table takes the
third, and so does the table of the first. -/
theorem Failover.plan_fails_over_past_dhcp :
    let uplinks : List Uplink := [
      ⟨"fibre", "ether1", .static (some ⟨⟨0x0a000002, by decide⟩, 30, by decide⟩)
        (some ⟨0x0a000001, by decide⟩)⟩,
      ⟨"cable", "ether2", .dhcp⟩,
      ⟨"dsl", "ether3", .pppoe (some "user") none⟩,
      ⟨"radio", "ether4", .static (some ⟨⟨0x0a000106, by decide⟩, 30, by decide⟩)
        (some ⟨0x08080808, by decide⟩)⟩]
    let probes : List Ipv4 := [⟨0x01010101, by decide⟩, ⟨0x08080808, by decide⟩,
      ⟨0x09090909, by decide⟩, ⟨0x08080404, by decide⟩]
    let isUp : Nat → Bool := (· != 1)
    ∃ f, plan uplinks probes .reject = .ok f ∧ f.uplinks.map (·.position) = [1, 3, 4] ∧
      ∃ first ∈ f.uplinks, first.position = 3 ∧ f.taken isUp none = [first.mainDefault] ∧
        ∀ u ∈ f.uplinks, ∃ r, f.taken isUp (some s!"to-wan{u.position}") = [r] ∧
          ∀ v ∈ f.uplinks, r.leadsThrough v = true ↔
            v = if isUp u.position then u else first := by
  intro uplinks probes isUp
  obtain ⟨f, h, hpositions⟩ : ∃ f, plan uplinks probes .reject = .ok f ∧
      f.uplinks.map (·.position) = [1, 3, 4] := ⟨_, rfl, rfl⟩
  have hprobes : probes.Nodup := by decide
  have hids : (uplinks.map (·.id)).Nodup := by decide
  have hthree : 3 ∈ f.uplinks.map (·.position) := by
    rw [hpositions]
    decide
  obtain ⟨dsl, hdsl, hthird⟩ := List.exists_of_mem_map hthree
  obtain ⟨first, hfirst, hfirstUp, hleast, hmain, -, htables⟩ :=
    plan_fails_over h hprobes hids
      (show ∃ u ∈ _, isUp u.position = true from ⟨dsl, hdsl, by rw [hthird]; rfl⟩)
  refine ⟨f, h, hpositions, first, hfirst, ?_, hmain, htables⟩
  have hle := hleast dsl hdsl (by rw [hthird]; rfl)
  have hposition : first.position ∈ [1, 3, 4] := by
    rw [← hpositions]
    exact List.mem_map.mpr ⟨first, hfirst, rfl⟩
  have hne : first.position ≠ 1 := bne_iff_ne.mp hfirstUp
  simp only [List.mem_cons, List.not_mem_nil, or_false] at hposition
  omega

end SiteRouter
