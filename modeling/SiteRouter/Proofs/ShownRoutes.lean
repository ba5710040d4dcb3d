import Mathlib.Data.List.Flatten
import SiteRouter.Plan.Render
import SiteRouter.Proofs.Compilation
import SiteRouter.Proofs.Ipv6Text
import SiteRouter.Proofs.Quoting
import SiteRouter.Proofs.RouteCommands

/-!
# Routes as they are shown

The routes of a plan are written twice: as commands of the script, and as lines of the report for
people. Neither leaves a field of a route out, which is shown by reading the fields back: from the
arguments of the command (`Route.ofCommand?`), and from the words of the line (`Route.ofLine?`),
which say all but the comment.

A line can be read because the names in the routes of a plan hold no spaces, and the name of a
client is not written like an address (`Route.IsLegible`). `Plan.build_shows_routes` says of every
plan that its report and its script show its routes, each of them and in the same order.
-/

namespace SiteRouter

/-! ## Reading routes -/

/-- Reads a number. -/
def Text.natural? (s : String) : Option Nat := number? 10 1 s.length s.toList

/-- Reads the next hop of a route. What is not an address is the name of an interface. -/
def Gateway.ofString (s : String) : Gateway :=
  match Ipv4.ofString? s with
  | some a => .address a
  | none => .interface s

/-- What a text says about the check of a gateway: nothing, or how to do it. -/
def Route.check? : Option String → Option Bool
  | none => some false
  | some how => if how = "ping" then some true else none

/-- Reads a route from the texts of its fields. -/
def Route.ofTexts? (destination gateway : String)
    (table distance scope targetScope check : Option String) (comment : String) : Option Route := do
  return {
    destination := ← Cidr.ofString? destination
    gateway := .ofString gateway
    table
    distance := ← distance.mapM Text.natural?
    scope := ← scope.mapM Text.natural?
    targetScope := ← targetScope.mapM Text.natural?
    checkGateway := ← check? check
    comment }

/-- Reads a route from the arguments of the command that creates it. -/
def Route.ofCommand? (c : Script.Command) : Option Route := do
  ofTexts? (← c.get? "dst-address") (← c.get? "gateway") (c.get? "routing-table")
    (c.get? "distance") (c.get? "scope") (c.get? "target-scope") (c.get? "check-gateway")
    (← c.get? "comment")

/-- Cuts a word at its first equals sign. -/
def Text.property (w : List Char) : String × String :=
  (String.ofList (w.takeWhile (· != '=')), String.ofList (Script.writtenValue w))

/-- Reads a route from its description, which does not tell the comment. -/
def Route.ofDescription? (cs : List Char) : Option Route :=
  match Text.fieldsAt ' ' cs with
  | destination :: ['v', 'i', 'a'] :: gateway :: words =>
    let said := words.map Text.property
    ofTexts? (String.ofList destination) (String.ofList gateway) (said.lookup "table")
      (said.lookup "distance") (said.lookup "scope") (said.lookup "target-scope")
      (said.lookup "check-gateway") ""
  | _ => none

/-- Is the line set in under another one? -/
def Text.isIndented : List Char → Bool
  | ' ' :: ' ' :: _ => true
  | _ => false

/-- Reads a route from a line of the report. -/
def Route.ofLine? : List Char → Option Route
  | ' ' :: ' ' :: cs => ofDescription? cs
  | _ => none

/-- The text is one word on one line. -/
def Text.IsWord (s : String) : Prop := ' ' ∉ s.toList ∧ '\n' ∉ s.toList

/-- The next hop is one word, from which it can be read back. -/
structure Gateway.IsLegible (g : Gateway) : Prop where
  read : ofString g.render = g
  word : Text.IsWord g.render

/-- The names in the route can be told from what stands around them. -/
structure Route.IsLegible (r : Route) : Prop where
  gateway : r.gateway.IsLegible
  table : ∀ table, r.table = some table → Text.IsWord table

/-- The lines of the report about a plan. -/
def Plan.reportLines (p : Plan) (color : Bool) : List String :=
  let heading := Text.styled .bold color
  heading "vlans" :: p.vlans.lines ++
  heading "failover" :: p.failover.lines color ++
  heading "policy" :: p.steering.lines

/-- The report shows the routes of the plan, each of them on a line that is set in. -/
structure Plan.ShowsRoutes (p : Plan) (color : Bool) : Prop where
  lines : (p.reportLines color).filter (Text.isIndented ·.toList) =
    p.failover.routes.map fun r => "  " ++ r.describe
  /-- Each description stands on one line of the text, whatever the names around it hold. -/
  sublist : (p.failover.routes.map fun r => ("  " ++ r.describe).toList).Sublist
    (Text.fieldsAt '\n' (p.render color).toList)
  /-- Unless a name breaks a line, no other line of the text is set in. -/
  lines_text : (∀ line ∈ p.reportLines color, '\n' ∉ line.toList) →
    (Text.fieldsAt '\n' (p.render color).toList).filter Text.isIndented =
      p.failover.routes.map fun r => ("  " ++ r.describe).toList

namespace Text

theorem isWord_append {s t : String} (hs : IsWord s) (ht : IsWord t) : IsWord (s ++ t) := by
  simp only [IsWord, String.toList_append, List.mem_append, not_or]
  exact ⟨⟨hs.1, ht.1⟩, hs.2, ht.2⟩

theorem isWord_toString (n : Nat) : IsWord (toString n) :=
  ⟨not_mem_toString rfl n, not_mem_toString rfl n⟩

theorem isWord_of_isKey {key : String} (h : Script.isKey key = true) : IsWord key :=
  ⟨fun hc => (Script.ne_of_isKey h hc).1 rfl,
    fun hc => absurd (Script.ne_of_isKey h hc).2.2.2 (by decide)⟩

theorem joinWith_append (sep : Char) (f g : List Char) (fs : List (List Char)) :
    joinWith sep ((f ++ sep :: g) :: fs) = joinWith sep (f :: g :: fs) := by
  cases fs with
  | nil => rfl
  | cons h hs => simp [joinWith]

theorem natural?_toString (n : Nat) : natural? (toString n) = some n := by
  refine number?_toString (Nat.le_of_eq ?_)
  rw [← toList_toString, String.length_toList]

theorem mapM_natural? (n? : Option Nat) :
    (n?.map fun n => toString n).mapM natural? = some n? := by
  cases n? with
  | none => rfl
  | some n =>
    rw [Option.map_some, Option.mapM_some, natural?_toString]
    rfl

theorem property_of_isKey {key : String} (h : Script.isKey key = true) (value : String) :
    property (key ++ "=" ++ value).toList = (key, value) := by
  have hword : (key ++ "=" ++ value).toList = key.toList ++ '=' :: value.toList := by simp
  rw [property, Script.writtenValue, hword, (Script.takeWhile_key h _).1,
    (Script.takeWhile_key h _).2, List.drop_one, List.tail_cons, String.ofList_toList,
    String.ofList_toList]

end Text

theorem Ipv4.isWord_render (a : Ipv4) : Text.IsWord a.render :=
  ⟨not_mem_render (by decide) rfl a, not_mem_render (by decide) rfl a⟩

theorem Cidr.isWord_render (c : Cidr) : Text.IsWord c.render := by
  have hrender : c.render = c.address.render ++ "/" ++ toString c.length := by
    simp [render, toString]
  rw [hrender]
  exact Text.isWord_append (Text.isWord_append c.address.isWord_render ⟨by decide, by decide⟩)
    (Text.isWord_toString c.length)

namespace Route

variable {r : Route}

theorem check?_some (checks : Bool) :
    check? (if checks then some "ping" else none) = some checks := by
  cases checks <;> rfl

/-- A route is read back from the texts of its fields. -/
theorem ofTexts?_eq (r : Route) (comment : String)
    (hgateway : Gateway.ofString r.gateway.render = r.gateway) :
    ofTexts? r.destination.render r.gateway.render r.table (r.distance.map fun n => toString n)
      (r.scope.map fun n => toString n) (r.targetScope.map fun n => toString n)
      (if r.checkGateway then some "ping" else none) comment = some { r with comment } := by
  rw [ofTexts?, Cidr.ofString?_render, Text.mapM_natural?, Text.mapM_natural?, Text.mapM_natural?,
    check?_some, hgateway]
  rfl

/-- **A command says every field of its route.** -/
theorem ofCommand?_command (h : r.IsLegible) : ofCommand? r.command = some r := by
  have hdistance : r.command.get? "distance" = r.distance.map fun n => toString n :=
    r.get?_command "distance"
  have hscope : r.command.get? "scope" = r.scope.map fun n => toString n := r.get?_command "scope"
  have htarget : r.command.get? "target-scope" = r.targetScope.map fun n => toString n :=
    r.get?_command "target-scope"
  rw [ofCommand?, get?_destination, get?_gateway, get?_table, hdistance, hscope, htarget,
    get?_checkGateway, get?_comment]
  simp only [Option.bind_eq_bind, Option.bind_some]
  exact r.ofTexts?_eq r.comment h.gateway.read

/-! ## Descriptions -/

/-- What the properties of a route are. -/
theorem of_mem_properties {p : String × String} (hp : p ∈ r.properties) :
    p.1 ∈ ["table", "distance", "scope", "target-scope", "check-gateway"] ∧
      (r.table = some p.2 ∨ (∃ n : Nat, p.2 = toString n) ∨ p.2 = "ping") := by
  simp only [properties, List.mem_append, List.mem_map, Option.mem_toList] at hp
  rcases hp with (((⟨table, htable, rfl⟩ | ⟨n, -, rfl⟩) | ⟨n, -, rfl⟩) | ⟨n, -, rfl⟩) | hp
  · exact ⟨by simp, .inl htable⟩
  · exact ⟨by simp, .inr (.inl ⟨n, rfl⟩)⟩
  · exact ⟨by simp, .inr (.inl ⟨n, rfl⟩)⟩
  · exact ⟨by simp, .inr (.inl ⟨n, rfl⟩)⟩
  · split at hp
    · obtain rfl := List.mem_singleton.mp hp
      exact ⟨by simp, .inr (.inr rfl)⟩
    · exact absurd hp List.not_mem_nil

theorem isKey_of_mem_properties {p : String × String} (hp : p ∈ r.properties) :
    Script.isKey p.1 = true := by
  have hkeys : ∀ key ∈ ["table", "distance", "scope", "target-scope", "check-gateway"],
      Script.isKey key = true := by decide
  exact hkeys p.1 (of_mem_properties hp).1

theorem isWord_of_mem_properties (h : r.IsLegible) {p : String × String} (hp : p ∈ r.properties) :
    Text.IsWord (p.1 ++ "=" ++ p.2) := by
  have hvalue : Text.IsWord p.2 := by
    rcases (of_mem_properties hp).2 with htable | ⟨n, hn⟩ | hping
    · exact h.table p.2 htable
    · rw [hn]
      exact Text.isWord_toString n
    · rw [hping]
      exact ⟨by decide, by decide⟩
  have hkey : Text.IsWord (p.1 ++ "=") :=
    Text.isWord_append (Text.isWord_of_isKey (isKey_of_mem_properties hp)) ⟨by decide, by decide⟩
  exact Text.isWord_append hkey hvalue

/-- The words of the description of a route. -/
def words (r : Route) : List String :=
  r.destination.render :: "via" :: r.gateway.render ::
    r.properties.map fun (key, value) => key ++ "=" ++ value

theorem isWord_of_mem_words (h : r.IsLegible) : ∀ w ∈ r.words, Text.IsWord w := by
  rw [words, List.forall_mem_cons, List.forall_mem_cons, List.forall_mem_cons, List.forall_mem_map]
  exact ⟨r.destination.isWord_render, ⟨by decide, by decide⟩, h.gateway.word,
    fun p => isWord_of_mem_properties h⟩

/-- A description is its words with spaces between them. -/
theorem toList_describe (r : Route) :
    r.describe.toList = Text.joinWith ' ' (r.words.map String.toList) := by
  have hvia : "via".toList = ['v', 'i', 'a'] := rfl
  -- The first three words are written as one text.
  have hfirst : (s!"{r.destination} via {r.gateway.render}").toList = r.destination.render.toList ++
      ' ' :: ("via".toList ++ ' ' :: r.gateway.render.toList) := by
    simp [toString, hvia]
  rw [describe, show " " = String.singleton ' ' from rfl, Text.toList_intercalate, List.map_cons,
    hfirst, Text.joinWith_append, Text.joinWith, Text.joinWith_append, Text.joinWith]
  rfl

theorem fieldsAt_describe (h : r.IsLegible) :
    Text.fieldsAt ' ' r.describe.toList = r.words.map String.toList := by
  rw [toList_describe]
  refine Text.fieldsAt_joinWith (List.cons_ne_nil _ _) ?_
  exact List.forall_mem_map.mpr fun w hw => (isWord_of_mem_words h w hw).1

/-- A description is one line. -/
theorem IsLegible.feed_not_mem_describe (h : r.IsLegible) : '\n' ∉ r.describe.toList := by
  intro hc
  rw [toList_describe] at hc
  rcases Text.mem_joinWith hc with hspace | ⟨f, hf, hc⟩
  · exact absurd hspace (by decide)
  · obtain ⟨w, hw, rfl⟩ := List.mem_map.mp hf
    exact (isWord_of_mem_words h w hw).2 hc

theorem lookup_toList {α : Type} (key name : String) (x? : Option α) (text : α → String) :
    (x?.toList.map fun x => (name, text x)).lookup key =
      if key == name then x?.map text else none := by
  cases x? with
  | none => simp
  | some x =>
    rw [Option.toList_some, List.map_singleton, List.lookup_cons]
    cases key == name <;> rfl

/-- A property is found under its name. -/
theorem lookup_properties (r : Route) :
    r.properties.lookup "table" = r.table ∧
    r.properties.lookup "distance" = (r.distance.map fun n => toString n) ∧
    r.properties.lookup "scope" = (r.scope.map fun n => toString n) ∧
    r.properties.lookup "target-scope" = (r.targetScope.map fun n => toString n) ∧
    r.properties.lookup "check-gateway" = if r.checkGateway then some "ping" else none := by
  have htable := fun key => lookup_toList key "table" r.table id
  simp only [id_eq, Option.map_id_fun] at htable
  cases hcheck : r.checkGateway <;>
    simp [properties, List.lookup_append, htable, lookup_toList, hcheck]

/-- **A description says all of its route but the comment.** -/
theorem ofDescription?_describe (h : r.IsLegible) :
    ofDescription? r.describe.toList = some { r with comment := "" } := by
  have hfields : Text.fieldsAt ' ' r.describe.toList =
      r.destination.render.toList :: ['v', 'i', 'a'] :: r.gateway.render.toList ::
        r.properties.map fun p => (p.1 ++ "=" ++ p.2).toList := by
    rw [fieldsAt_describe h, words, List.map_cons, List.map_cons, List.map_cons, List.map_map]
    rfl
  have hsaid : (r.properties.map fun p => (p.1 ++ "=" ++ p.2).toList).map Text.property =
      r.properties := by
    rw [List.map_map]
    conv_rhs => rw [← List.map_id r.properties]
    exact List.map_congr_left fun p hp => Text.property_of_isKey (isKey_of_mem_properties hp) p.2
  obtain ⟨htable, hdistance, hscope, htarget, hcheck⟩ := r.lookup_properties
  rw [ofDescription?, hfields]
  simp only [hsaid, htable, hdistance, hscope, htarget, hcheck, String.ofList_toList]
  exact r.ofTexts?_eq "" h.gateway.read

end Route

/-! ## Routes of a plan -/

namespace Gateway

theorem isLegible_address (a : Ipv4) : (Gateway.address a).IsLegible where
  read := by rw [render, ofString, Ipv4.ofString?_render]
  word := a.isWord_render

/-- The client of a PPPoE uplink is not written like an address. -/
theorem isLegible_client (position : Nat) :
    (Gateway.interface s!"pppoe-out{position}").IsLegible where
  read := by
    have hdot : '.' ∉ (s!"pppoe-out{position}").toList := by
      have hposition : '.' ∉ (toString position).toList := Text.not_mem_toString rfl position
      simpa [toString] using hposition
    rw [render, ofString, Ipv4.ofString?, Ipv4.ofChars?_of_no_dots hdot]
  word := Text.isWord_append ⟨by decide, by decide⟩ (Text.isWord_toString position)

end Gateway

theorem Uplink.HasGateway.isLegible {u : Uplink} {position : Nat} {g : Gateway}
    (h : u.HasGateway position g) : g.IsLegible := by
  cases h with
  | address address gateway kind => exact Gateway.isLegible_address gateway
  | client username password kind => exact Gateway.isLegible_client position

/-- The routes of a plan can be told from their texts. -/
theorem Failover.IsFor.isLegible {uplinks : List Uplink} {probes : List Ipv4} {f : Failover}
    (h : f.IsFor uplinks probes) {r : Route} (hr : r ∈ f.routes) : r.IsLegible := by
  have hown : ∀ u ∈ f.uplinks, u.gateway.IsLegible ∧ Text.IsWord u.table := by
    intro u hu
    have hroutes := h.routes_isFor u hu
    obtain ⟨_, _, -, -, -, -, hgateway⟩ := hroutes.placed
    refine ⟨hgateway.isLegible, ?_⟩
    rw [hroutes.table_eq]
    exact Text.isWord_append ⟨by decide, by decide⟩ (Text.isWord_toString u.position)
  obtain ⟨u, hu, hr⟩ := List.mem_flatMap.mp hr
  have hroutes := h.routes_isFor u hu
  have htable : ∀ table, some u.table = some table → Text.IsWord table := by
    rintro _ ⟨⟩
    exact (hown u hu).2
  -- Defaults lead through the probe; only host routes and backups name a gateway of an uplink.
  rcases (h.mem_routes_iff hu).mp hr with rfl | rfl | rfl | ⟨v, hv, -, rfl⟩
  · rw [hroutes.hostRoute_eq]
    exact ⟨(hown u hu).1, fun _ hnone => nomatch hnone⟩
  · rw [hroutes.tableDefault_eq]
    exact ⟨Gateway.isLegible_address u.probe, htable⟩
  · rw [hroutes.mainDefault_eq]
    exact ⟨Gateway.isLegible_address u.probe, fun _ hnone => nomatch hnone⟩
  · exact ⟨(hown v hv).1, htable⟩

/-! ## Lines of a report -/

theorem Text.isIndented_styled (style : Style) (color : Bool) {s : String}
    (h : isIndented s.toList = false) : isIndented (styled style color s).toList = false := by
  unfold styled
  cases color with
  | false => exact h
  | true => cases style <;> simp [isIndented, Style.on]

/-- The lines about ports and VLANs are not set in. -/
theorem VlanTable.filter_lines (t : VlanTable) :
    t.lines.filter (Text.isIndented ·.toList) = [] := by
  simp [lines, Text.isIndented, toString]

theorem Mark.isIndented_describe (m : Mark) : Text.isIndented m.describe.toList = false := by
  unfold describe
  simp only [String.append_assoc]
  rw [String.toList_append]
  rfl

theorem SteeringPlan.filter_lines (p : SteeringPlan) :
    p.lines.filter (Text.isIndented ·.toList) = [] := by
  have hmarks : (p.marks.map Mark.describe).filter (Text.isIndented ·.toList) = [] := by
    rw [List.filter_eq_nil_iff, List.forall_mem_map]
    intro m _
    rw [m.isIndented_describe]
    exact Bool.false_ne_true
  rw [lines, List.filter_append, hmarks]
  cases p.active <;> rfl

/-- Under the line about an uplink its routes are set in. -/
theorem UplinkRoutes.filter_describe (u : UplinkRoutes) :
    u.describe.filter (Text.isIndented ·.toList) = u.routes.map fun r => "  " ++ r.describe := by
  rw [describe, List.filter_cons_of_neg (by simp [Text.isIndented, toString]),
    List.filter_eq_self, List.forall_mem_map]
  intro r hr
  simp [Text.isIndented]

theorem Failover.filter_lines (f : Failover) (color : Bool) :
    (f.lines color).filter (Text.isIndented ·.toList) =
      f.routes.map fun r => "  " ++ r.describe := by
  have hnone : (if f.uplinks.isEmpty then ["- none"] else []).filter (Text.isIndented ·.toList) =
      [] := by
    split <;> rfl
  have hskipped : (f.skipped.map fun id => Text.styled .yellow color s!"- {id} skipped").filter
      (Text.isIndented ·.toList) = [] := by
    rw [List.filter_eq_nil_iff, List.forall_mem_map]
    intro id _
    rw [Text.isIndented_styled .yellow color (by simp [Text.isIndented, toString])]
    exact Bool.false_ne_true
  rw [lines, List.filter_append, List.filter_append, hnone, hskipped, List.nil_append,
    List.append_nil, List.filter_flatMap, routes, List.map_flatMap]
  simp only [UplinkRoutes.filter_describe]

namespace Plan

variable {p : Plan} {color : Bool}

theorem render_eq (p : Plan) (color : Bool) :
    p.render color = "\n".intercalate (p.reportLines color) := rfl

/-- **The lines of the report that are set in are the descriptions of the routes.** -/
theorem filter_reportLines (p : Plan) (color : Bool) :
    (p.reportLines color).filter (Text.isIndented ·.toList) =
      p.failover.routes.map fun r => "  " ++ r.describe := by
  have hheading : ∀ name ∈ ["vlans", "failover", "policy"],
      Text.isIndented (Text.styled .bold color name).toList = false := by
    intro name hname
    refine Text.isIndented_styled .bold color ?_
    revert name
    decide
  simp only [List.forall_mem_cons] at hheading
  obtain ⟨hvlans, hfailover, hpolicy, -⟩ := hheading
  rw [reportLines]
  simp only [List.cons_append, List.filter_cons, List.filter_append, hvlans, hfailover, hpolicy,
    VlanTable.filter_lines, SteeringPlan.filter_lines, Failover.filter_lines]
  simp

/-- Every line of the report is one line of the text or, if a name in it breaks, several. -/
theorem fieldsAt_render (p : Plan) (color : Bool) : Text.fieldsAt '\n' (p.render color).toList =
    ((p.reportLines color).map String.toList).flatMap (Text.fieldsAt '\n') := by
  rw [render_eq, show "\n" = String.singleton '\n' from rfl, Text.toList_intercalate]
  exact Text.fieldsAt_joinWith_flatMap (List.cons_ne_nil _ _)

/-- A report shows the routes of its plan if they can be told from their texts. -/
theorem showsRoutes (h : ∀ r ∈ p.failover.routes, r.IsLegible) (color : Bool) :
    p.ShowsRoutes color where
  lines := p.filter_reportLines color
  sublist := by
    have hunbroken : ∀ line ∈ p.failover.routes.map fun r => ("  " ++ r.describe).toList,
        '\n' ∉ line := by
      rw [List.forall_mem_map]
      intro r hr
      simpa using (h r hr).feed_not_mem_describe
    -- Each of these lines is its own only field, so the fields of the report hold them in order.
    rw [← Text.flatMap_fieldsAt hunbroken, fieldsAt_render]
    refine List.Sublist.flatMap ?_ _
    have hsub : ((p.reportLines color).filter (Text.isIndented ·.toList)).Sublist
        (p.reportLines color) := List.filter_sublist
    rw [filter_reportLines] at hsub
    have hsub := hsub.map String.toList
    rwa [List.map_map] at hsub
  lines_text hunbroken := by
    rw [fieldsAt_render, Text.flatMap_fieldsAt (List.forall_mem_map.mpr hunbroken), List.filter_map]
    show (((p.reportLines color).filter (Text.isIndented ·.toList)).map String.toList) = _
    rw [filter_reportLines, List.map_map]
    rfl

end Plan

/-- **The report of a plan and its script show the same routes.** The commands of the script that
create routes are one for each route of the plan, in order, and say every field of it. The lines of
the report that are set in are one for each route too, in the same order, and say every field but
the comment; so routes that differ in more than their comments have different lines. -/
theorem Plan.build_shows_routes {s : Site} {profile : Profile} {overflow : Overflow} {p : Plan}
    (h : build s profile overflow = .ok p) :
    (∀ generatedAt, ((Blueprint.mk s profile p generatedAt).script.commandsAt "/ip route").map
        Route.ofCommand? = (p.failover.uplinks.flatMap fun u =>
          u.hostRoute :: u.tableDefault :: u.mainDefault :: u.backups).map some) ∧
    (∀ color, p.ShowsRoutes color) ∧
    (∀ r ∈ p.failover.routes,
      Route.ofLine? ("  " ++ r.describe).toList = some { r with comment := "" }) ∧
    ∀ r ∈ p.failover.routes, ∀ r' ∈ p.failover.routes, r.describe = r'.describe →
      { r with comment := "" } = { r' with comment := "" } := by
  obtain ⟨-, hfailover, -⟩ := Plan.of_build_eq_ok h
  have hlegible : ∀ r ∈ p.failover.routes, r.IsLegible :=
    fun r => (Failover.isFor_of_plan_eq_ok hfailover).isLegible
  refine ⟨fun generatedAt => ?_, showsRoutes hlegible, fun r hr => ?_, fun r hr r' hr' hsame => ?_⟩
  · rw [Blueprint.commandsAt_route, List.map_map]
    exact List.map_congr_left fun r hr => Route.ofCommand?_command (hlegible r hr)
  · have hline : ("  " ++ r.describe).toList = ' ' :: ' ' :: r.describe.toList := by simp
    rw [hline, Route.ofLine?, Route.ofDescription?_describe (hlegible r hr)]
  · have hread := congrArg (fun text : String => Route.ofDescription? text.toList) hsame
    simp only [Route.ofDescription?_describe (hlegible r hr),
      Route.ofDescription?_describe (hlegible r' hr')] at hread
    exact Option.some.inj hread

/-- The routes of the sample, whose two routed uplinks back each other up, are created by its
script, and the lines of its report that are set in are their descriptions. -/
theorem Plan.build_shows_routes_of_sample : ∃ p, build .sample .builtin .reject = .ok p ∧
    p.failover.uplinks.map (·.backups.length) = [1, 1] ∧
    ((Blueprint.mk .sample .builtin p ⟨2024, 2, 29, 12, 0, 0⟩).script.commandsAt "/ip route").map
        Route.ofCommand? = p.failover.routes.map some ∧
    (Text.fieldsAt '\n' (p.render false).toList).filter Text.isIndented =
        p.failover.routes.map fun r => ("  " ++ r.describe).toList := by
  have hchecked : (build .sample .builtin .reject).toOption.any (fun p =>
      p.failover.uplinks.map (·.backups.length) == [1, 1] &&
        (p.reportLines false).all fun line => !line.toList.contains '\n') = true := by
    decide +kernel
  cases hbuild : build .sample .builtin .reject with
  | error e =>
    rw [hbuild] at hchecked
    exact absurd hchecked Bool.false_ne_true
  | ok p =>
    rw [hbuild] at hchecked
    obtain ⟨hbackups, hunbroken⟩ := Bool.and_eq_true_iff.mp hchecked
    have hunbroken : ∀ line ∈ p.reportLines false, '\n' ∉ line.toList := by
      simpa using hunbroken
    obtain ⟨hcommands, hreport, -⟩ := build_shows_routes hbuild
    exact ⟨p, rfl, beq_iff_eq.mp hbackups, hcommands _, (hreport false).lines_text hunbroken⟩

end SiteRouter
