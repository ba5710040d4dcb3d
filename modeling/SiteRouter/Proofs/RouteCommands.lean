import SiteRouter.Proofs.Outages
import SiteRouter.Proofs.Selection

/-!
# Routes as commands

Which routes a script adds for an uplink, found by what they say and not by where the plan has put
them: the host route of its probe by the comment that names the uplink, the routes of its table by
the name of the table, the default among them by its check, and the backup through another uplink by
the distance.

Each of them has to be the only one of its kind. Positions tell tables and distances apart
(`Failover.IsFor.filter_table`, `Failover.IsFor.filter_backups`), and ids tell host routes apart
(`Failover.IsFor.filter_hostRoute`), since nothing says that probes are distinct.
-/

namespace SiteRouter

open Script

/-! ## Routes of a plan -/

namespace Failover.IsFor

variable {uplinks : List Uplink} {probes : List Ipv4} {f : Failover} {u v : UplinkRoutes}
  {r : Route}

/-- An uplink has a host route, a default in its own table and in the main one, and backups. -/
theorem mem_routes_iff (h : f.IsFor uplinks probes) (hu : u ∈ f.uplinks) :
    r ∈ u.routes ↔ r = u.hostRoute ∨ r = u.tableDefault ∨ r = u.mainDefault ∨
      ∃ v ∈ f.uplinks, v.position ≠ u.position ∧ r = u.backupThrough v := by
  rw [UplinkRoutes.routes, List.mem_cons, List.mem_cons, List.mem_cons, h.backups_eq u hu,
    List.mem_map]
  simp only [List.mem_filter, bne_iff_ne, and_assoc, eq_comm (b := r)]

/-- A table tells its uplink. -/
theorem eq_of_table (h : f.IsFor uplinks probes) (hu : u ∈ f.uplinks) (hv : v ∈ f.uplinks)
    (htable : u.table = v.table) : u = v := by
  rw [(h.routes_isFor u hu).table_eq, (h.routes_isFor v hv).table_eq] at htable
  exact h.eq_of_position hu hv (routingTable_injective htable)

/-- An uplink has no routes in the tables of others. -/
theorem table_of_mem_routes (h : f.IsFor uplinks probes) (hu : u ∈ f.uplinks) (hr : r ∈ u.routes)
    {table : String} (htable : r.table = some table) : u.table = table := by
  have hroutes := h.routes_isFor u hu
  rcases (h.mem_routes_iff hu).mp hr with rfl | rfl | rfl | ⟨v, -, -, rfl⟩
  · rw [hroutes.hostRoute_eq] at htable
    exact nomatch htable
  · rw [hroutes.tableDefault_eq] at htable
    exact Option.some.inj htable
  · rw [hroutes.mainDefault_eq] at htable
    exact nomatch htable
  · exact Option.some.inj htable

/-- The table of an uplink has its default and its backups. -/
theorem filter_table (h : f.IsFor uplinks probes) (hu : u ∈ f.uplinks) :
    f.routes.filter (·.table == some u.table) = u.tableDefault :: u.backups := by
  have hothers : ∀ v ∈ f.uplinks, v ≠ u → v.routes.filter (·.table == some u.table) = [] := by
    intro v hv hne
    refine List.filter_eq_nil_iff.mpr fun r hr hsame => hne (h.eq_of_table hv hu ?_)
    exact h.table_of_mem_routes hv hr (eq_of_beq hsame)
  have hroutes := h.routes_isFor u hu
  have hhost : (u.hostRoute.table == some u.table) = false := by
    rw [hroutes.hostRoute_eq]
    rfl
  have hdefault : (u.tableDefault.table == some u.table) = true := by
    rw [hroutes.tableDefault_eq]
    exact beq_self_eq_true _
  have hmain : (u.mainDefault.table == some u.table) = false := by
    rw [hroutes.mainDefault_eq]
    rfl
  have hbackups : ∀ r ∈ u.backups, (r.table == some u.table) = true := by
    rw [h.backups_eq u hu, List.forall_mem_map]
    exact fun v _ => beq_self_eq_true _
  rw [routes, List.filter_flatMap, flatMap_of_nodup h.positions_nodup hu hothers,
    UplinkRoutes.routes, List.filter_cons, List.filter_cons, List.filter_cons, hhost, hdefault,
    hmain, List.filter_eq_self.mpr hbackups]
  rfl

/-- A table has as many routes as there are uplinks that are routed. -/
theorem length_table (h : f.IsFor uplinks probes) (hu : u ∈ f.uplinks) :
    (u.tableDefault :: u.backups).length = routedCount uplinks probes := by
  obtain ⟨distances, hdistances, hcount, -⟩ := h.backup_distances hu
  have hbackups : u.backups.length = distances.length := by
    rw [← List.length_map (·.distance), hdistances, List.length_map]
  have hpos := List.length_pos_of_mem hu
  rw [← h.length_uplinks, List.length_cons, hbackups, hcount]
  omega

/-- One of the backups of an uplink leads through each of the others. -/
theorem filter_backups (h : f.IsFor uplinks probes) (hu : u ∈ f.uplinks) (hv : v ∈ f.uplinks)
    (hne : v ≠ u) : u.backups.filter (·.distance == some (v.position + 2)) =
      [u.backupThrough v] := by
  have hnodup : ((f.uplinks.filter (·.position != u.position)).map (·.position)).Nodup :=
    h.positions_nodup.sublist (List.filter_sublist.map _)
  have hmem : v ∈ f.uplinks.filter (·.position != u.position) :=
    List.mem_filter.mpr ⟨hv, bne_iff_ne.mpr fun heq => hne (h.eq_of_position hv hu heq)⟩
  rw [h.backups_eq u hu]
  refine filter_map_of_nodup hnodup hmem (beq_self_eq_true _) fun w _ hw => ?_
  exact Nat.add_right_cancel (Option.some.inj (eq_of_beq hw))

/-- Of the routes of an uplink only its host route has a scope. -/
theorem filter_scope (h : f.IsFor uplinks probes) (hu : u ∈ f.uplinks) :
    u.routes.filter (·.scope == some 10) = [u.hostRoute] := by
  have hroutes := h.routes_isFor u hu
  have hhost : (u.hostRoute.scope == some 10) = true := by
    rw [hroutes.hostRoute_eq]
    rfl
  have hdefault : (u.tableDefault.scope == some 10) = false := by
    rw [hroutes.tableDefault_eq]
    rfl
  have hmain : (u.mainDefault.scope == some 10) = false := by
    rw [hroutes.mainDefault_eq]
    rfl
  have hbackups : u.backups.filter (·.scope == some 10) = [] := by
    rw [h.backups_eq u hu, List.filter_eq_nil_iff, List.forall_mem_map]
    exact fun v _ => Bool.false_ne_true
  rw [UplinkRoutes.routes, List.filter_cons, List.filter_cons, List.filter_cons, hhost, hdefault,
    hmain, hbackups]
  rfl

/-- The routes with a scope are the host routes of the uplinks. -/
theorem filter_routes_scope (h : f.IsFor uplinks probes) :
    f.routes.filter (·.scope == some 10) = f.uplinks.map (·.hostRoute) := by
  rw [routes, List.filter_flatMap, List.map_eq_flatMap, List.flatMap_def, List.flatMap_def,
    List.map_congr_left fun v hv => h.filter_scope hv]

/-- One route pins a probe under the id of an uplink. -/
theorem filter_hostRoute (h : f.IsFor uplinks probes) (hids : (uplinks.map (·.id)).Nodup)
    (hu : u ∈ f.uplinks) :
    (f.routes.filter (·.scope == some 10)).filter (·.comment == s!"probe {u.uplink}") =
      [u.hostRoute] := by
  have hcomment : ∀ v ∈ f.uplinks, v.hostRoute.comment = s!"probe {v.uplink}" := fun v hv => by
    rw [(h.routes_isFor v hv).hostRoute_eq]
  rw [h.filter_routes_scope]
  refine filter_map_of_nodup h.positions_nodup hu (beq_iff_eq.mpr (hcomment u hu)) ?_
  intro v hv hsame
  rw [beq_iff_eq, hcomment v hv] at hsame
  rw [h.eq_of_id hids hv hu ((String.append_right_inj _).mp hsame)]

end Failover.IsFor

/-! ## Routes of a script -/

theorem Cidr.render_everything : everything.render = "0.0.0.0/0" := by decide

theorem Cidr.render_host (a : Ipv4) (h : 32 ≤ 32) : (mk a 32 h).render = s!"{a}/32" := by
  have hlength : toString "/" ++ toString 32 = "/32" := by decide
  rw [render, String.append_assoc, hlength]
  rfl

namespace Blueprint

variable {b : Blueprint} {uplinks : List Uplink} {probes : List Ipv4} {u v : UplinkRoutes}

/-- The routes that a script adds to the table of an uplink. -/
theorem select_table (h : b.plan.failover.IsFor uplinks probes)
    (hu : u ∈ b.plan.failover.uplinks) :
    b.script.select "/ip route" [("routing-table", u.table)] =
      (u.tableDefault :: u.backups).map Route.command := by
  have hsaid : ∀ r : Route, r.command.hasAll [("routing-table", u.table)] =
      (r.table == some u.table) := fun r => by
    rw [Bool.eq_iff_iff]
    simp
  rw [select_route, ← h.filter_table hu]
  simp only [hsaid]

/-- One of them is watched by a probe, and leads there. -/
theorem addsOnce_default (h : b.plan.failover.IsFor uplinks probes)
    (hu : u ∈ b.plan.failover.uplinks) :
    b.script.AddsOnce "/ip route" [("routing-table", u.table), ("check-gateway", "ping")]
      [("dst-address", "0.0.0.0/0"), ("gateway", u.probe.render)] := by
  have hroute := (h.routes_isFor u hu).tableDefault_eq
  have hbackups : ∀ c ∈ u.backups.map Route.command,
      ¬c.hasAll [("check-gateway", "ping")] = true := by
    rw [h.backups_eq u hu, List.forall_mem_map, List.forall_mem_map]
    intro v _
    simp [UplinkRoutes.backupThrough]
  refine ⟨u.tableDefault.command, ?_, u.tableDefault.adds_command, ?_⟩
  · rw [← List.singleton_append, select_append, select_table h hu, List.map_cons,
      List.filter_cons_of_pos (by rw [hroute]; simp), List.filter_eq_nil_iff.mpr hbackups]
  · rw [hroute]
    simp [Gateway.render, Cidr.render_everything]

/-- One of them has the distance of each other uplink, and names that uplink and leads through
it. -/
theorem addsOnce_backup (h : b.plan.failover.IsFor uplinks probes)
    (hu : u ∈ b.plan.failover.uplinks) (hv : v ∈ b.plan.failover.uplinks) (hne : v ≠ u) :
    b.script.AddsOnce "/ip route"
      [("routing-table", u.table), ("distance", toString (v.position + 2))]
      [("dst-address", "0.0.0.0/0"), ("gateway", v.gateway.render),
        ("comment", s!"{u.table} backup via {v.uplink}")] := by
  have hdistance : ∀ r : Route, r.command.hasAll [("distance", toString (v.position + 2))] =
      (r.distance == some (v.position + 2)) := fun r => by
    rw [Bool.eq_iff_iff, Command.hasAll_cons, Route.get?_distance_eq_iff, Command.hasAll_nil,
      and_iff_left rfl, beq_iff_eq]
  have hdefault : (u.tableDefault.distance == some (v.position + 2)) = false := by
    rw [(h.routes_isFor u hu).tableDefault_eq]
    rfl
  refine ⟨(u.backupThrough v).command, ?_, (u.backupThrough v).adds_command, ?_⟩
  · rw [← List.singleton_append, select_append, select_table h hu, List.filter_map]
    simp only [Function.comp_def, hdistance]
    rw [List.filter_cons, hdefault, h.filter_backups hu hv hne]
    rfl
  · simp [UplinkRoutes.backupThrough, Cidr.render_everything]

/-- One route pins the probe of an uplink to the gateway of the uplink. -/
theorem addsOnce_hostRoute (h : b.plan.failover.IsFor uplinks probes)
    (hids : (uplinks.map (·.id)).Nodup) (hu : u ∈ b.plan.failover.uplinks) :
    b.script.AddsOnce "/ip route" [("scope", "10"), ("comment", s!"probe {u.uplink}")]
      [("dst-address", s!"{u.probe}/32"), ("gateway", u.gateway.render)] := by
  have hsaid : ∀ r : Route,
      r.command.hasAll [("scope", "10"), ("comment", s!"probe {u.uplink}")] =
        (r.comment == s!"probe {u.uplink}" && r.scope == some 10) := by
    intro r
    have hscope : r.command.get? "scope" = some "10" ↔ r.scope = some 10 := r.get?_scope_eq_iff 10
    rw [Bool.eq_iff_iff, Command.hasAll_cons, Command.hasAll_cons, hscope, Route.get?_comment,
      Command.hasAll_nil, and_iff_left rfl, Option.some.injEq, Bool.and_eq_true, beq_iff_eq,
      beq_iff_eq, and_comm]
  refine ⟨u.hostRoute.command, ?_, u.hostRoute.adds_command, ?_⟩
  · rw [select_route]
    simp only [hsaid]
    rw [← List.filter_filter, h.filter_hostRoute hids hu]
    rfl
  · rw [(h.routes_isFor u hu).hostRoute_eq]
    simp [Cidr.render_host]

/-- One table is created for an uplink. -/
theorem addsOnce_table (h : b.plan.failover.IsFor uplinks probes)
    (hu : u ∈ b.plan.failover.uplinks) :
    b.script.AddsOnce "/routing table" [("name", u.table)] [] := by
  refine ⟨u.tableCommand, ?_, ?_, rfl⟩
  · rw [select, commandsAt_table]
    refine filter_map_of_nodup h.positions_nodup hu ?_ fun v hv hsame => ?_
    · simp [UplinkRoutes.tableCommand, Command.get?]
    · have htable : v.table = u.table := by
        simpa [UplinkRoutes.tableCommand, Command.get?] using hsame
      rw [h.eq_of_table hv hu htable]
  · simp [UplinkRoutes.tableCommand]

end Blueprint

end SiteRouter
