import SiteRouter.Configuration.Basic
import SiteRouter.Proofs.Quoting

/-!
# The commands of a configuration

What most statements about a script need is the list of its commands and, of a command, its menu
and what its arguments say. This file supplies both as rewriting rules: one rule for every way in
which a command is built up, one for the commands of every section, and `commands_script` for the
whole script. Proofs about scripts use these and leave the definitions of the sections closed.
-/

namespace SiteRouter.Script

namespace Command

/-- The command has the argument `key=value`. -/
def Says (c : Command) (key value : String) : Prop := ⟨key, some value⟩ ∈ c.args

/-- Does the command add an item that is in force? An item is not if it is disabled. -/
def adds (c : Command) : Bool :=
  c.action == .add && c.args.all fun arg => arg.key != "disabled" || arg.value == some "no"

variable (c : Command) (path key value : String)

/-! ## How commands are built up -/

@[simp] theorem path_add : (add path).path = path := rfl

@[simp] theorem path_set : (set path).path = path := rfl

@[simp] theorem path_on (target : String) : (c.on target).path = c.path := rfl

@[simp] theorem path_arg : (c.arg key value).path = c.path := rfl

@[simp] theorem path_keyword : (c.keyword key).path = c.path := rfl

@[simp] theorem path_argIfSome (v : Option String) : (c.argIfSome key v).path = c.path := by
  cases v <;> rfl

@[simp] theorem path_flag (on : Bool) : (c.flag key on).path = c.path := rfl

@[simp] theorem path_list (values : List String) : (c.list key values).path = c.path := rfl

@[simp] theorem path_does (action comment : String) : (c.does action comment).path = c.path := rfl

@[simp] theorem path_masquerades (comment : String) : (c.masquerades comment).path = c.path := rfl

@[simp] theorem action_add : (add path).action = .add := rfl

@[simp] theorem action_set : (set path).action = .set := rfl

@[simp] theorem action_on (target : String) : (c.on target).action = c.action := rfl

@[simp] theorem action_arg : (c.arg key value).action = c.action := rfl

@[simp] theorem action_keyword : (c.keyword key).action = c.action := rfl

@[simp] theorem action_argIfSome (v : Option String) :
    (c.argIfSome key v).action = c.action := by
  cases v <;> rfl

@[simp] theorem action_flag (on : Bool) : (c.flag key on).action = c.action := rfl

@[simp] theorem action_list (values : List String) : (c.list key values).action = c.action := rfl

@[simp] theorem action_does (action comment : String) :
    (c.does action comment).action = c.action := rfl

@[simp] theorem action_masquerades (comment : String) :
    (c.masquerades comment).action = c.action := rfl

@[simp] theorem args_add : (add path).args = [] := rfl

@[simp] theorem args_set : (set path).args = [] := rfl

@[simp] theorem args_on (target : String) : (c.on target).args = c.args := rfl

@[simp] theorem args_arg : (c.arg key value).args = c.args ++ [⟨key, some value⟩] := rfl

@[simp] theorem args_keyword : (c.keyword key).args = c.args ++ [⟨key, none⟩] := rfl

@[simp] theorem args_argIfSome (v : Option String) :
    (c.argIfSome key v).args = c.args ++ v.toList.map fun value => ⟨key, some value⟩ := by
  cases v with
  | none => exact (List.append_nil _).symm
  | some v => rfl

@[simp] theorem args_flag (on : Bool) :
    (c.flag key on).args = c.args ++ [⟨key, some (if on then "yes" else "no")⟩] := rfl

@[simp] theorem args_list (values : List String) :
    (c.list key values).args = c.args ++ [⟨key, some (String.intercalate "," values)⟩] := rfl

@[simp] theorem args_does (action comment : String) : (c.does action comment).args =
    c.args ++ [⟨"action", some action⟩, ⟨"comment", some comment⟩] := by
  simp [does]

@[simp] theorem args_masquerades (comment : String) : (c.masquerades comment).args =
    c.args ++ [⟨"action", some "masquerade"⟩, ⟨"comment", some comment⟩] := by
  simp [masquerades]

@[simp] theorem adds_add : (add path).adds = true := rfl

@[simp] theorem adds_flag_disabled : (c.flag "disabled" false).adds = c.adds := by
  simp [adds]

@[simp] theorem adds_does (action comment : String) : (c.does action comment).adds = c.adds := by
  simp [adds]

@[simp] theorem adds_masquerades (comment : String) : (c.masquerades comment).adds = c.adds := by
  simp [adds]

section

variable {c key} (h : key ≠ "disabled")

include h

@[simp] theorem adds_arg : (c.arg key value).adds = c.adds := by
  simp [adds, bne_iff_ne.mpr h]

@[simp] theorem adds_keyword : (c.keyword key).adds = c.adds := by
  simp [adds, bne_iff_ne.mpr h]

@[simp] theorem adds_argIfSome (v : Option String) : (c.argIfSome key v).adds = c.adds := by
  cases v with
  | none => rfl
  | some value => exact adds_arg value h

@[simp] theorem adds_flag (on : Bool) : (c.flag key on).adds = c.adds := adds_arg _ h

@[simp] theorem adds_list (values : List String) : (c.list key values).adds = c.adds := adds_arg _ h

end

end Command

/-! ## The commands of sections -/

namespace Section

@[simp] theorem commands_ofCommands (name : String) (cs : List Command) :
    (ofCommands name cs).commands = cs := by
  rw [commands, ofCommands, List.filterMap_map]
  exact List.filterMap_some

@[simp] theorem commands_extend (s : Section) (cs : List Command) :
    (s.extend cs).commands = s.commands ++ cs := by
  rw [commands, extend, List.filterMap_append, List.filterMap_map]
  exact congrArg (s.commands ++ ·) List.filterMap_some

end Section

end SiteRouter.Script

namespace SiteRouter

open Script

/-- Creates the table of a routed uplink. -/
def UplinkRoutes.tableCommand (u : UplinkRoutes) : Command :=
  ((Command.add "/routing table").arg "name" u.table).keyword "fib"

/-- The commands for a routed uplink. -/
def UplinkRoutes.commands (u : UplinkRoutes) : List Command :=
  u.tableCommand :: u.routes.map Route.command

theorem UplinkRoutes.filterMap_lines (u : UplinkRoutes) :
    u.lines.filterMap Line.command? = u.commands := by
  show u.tableCommand :: (u.routes.map fun r => Line.command r.command).filterMap Line.command? = _
  rw [List.filterMap_map, commands]
  exact congrArg (u.tableCommand :: ·) (congrFun List.filterMap_eq_map u.routes)

namespace Blueprint

variable (b : Blueprint)

/-- Creates the bridge. -/
def bridgeCommand : Command :=
  ((Command.add "/interface bridge").arg "name" b.plan.vlans.bridge).flag "vlan-filtering" true

theorem commands_deviceSection : b.deviceSection.commands =
    b.identityCommands ++ b.accountCommand :: b.serviceCommands := by
  rw [deviceSection, Section.commands_extend, List.append_assoc]
  rfl

theorem commands_bridgeSection : b.bridgeSection.commands =
    b.bridgeCommand ::
      (b.plan.vlans.ports.map (·.command b.plan.vlans.bridge) ++
        (b.site.networks.map (·.vlanCommand b.plan.vlans.bridge) ++
          b.plan.vlans.vlans.map (·.command b.plan.vlans.bridge))) := by
  rw [bridgeSection, Section.commands_ofCommands, List.append_assoc, List.append_assoc]
  rfl

theorem commands_uplinkSection : b.uplinkSection.commands =
    (Command.add "/interface list").arg "name" b.profile.wanList ::
      (b.site.placedUplinks.flatMap (fun (i, u) =>
          [u.bringUp i, u.memberCommand b.profile.wanList i]) ++
        b.plan.failover.uplinks.flatMap UplinkRoutes.commands) := by
  rw [uplinkSection, Section.commands, List.filterMap_append, List.filterMap_append,
    List.filterMap_flatMap, List.filterMap_flatMap, List.append_assoc]
  simp only [UplinkRoutes.filterMap_lines]
  rfl

theorem commands_networkSection : b.networkSection.commands =
    b.site.networks.flatMap (·.commands b.profile b.site.resolver) := by
  rw [networkSection, Section.commands_ofCommands]

theorem commands_firewallSection : b.firewallSection.commands =
    b.addressListCommands ++ (b.inputRules ++ b.markRules) := by
  rw [firewallSection, Section.commands_ofCommands, List.append_assoc]

/-- The commands of the script are those of its sections, one section after the other. -/
theorem commands_script : b.script.commands =
    b.deviceSection.commands ++ (b.bridgeSection.commands ++ (b.uplinkSection.commands ++
      (b.networkSection.commands ++ (b.resolverSection.commands ++ (b.firewallSection.commands ++
        (b.masqueradeSection.commands ++ b.heartbeatSection.commands)))))) := by
  simp [Script.commands, script, sections]

end Blueprint

end SiteRouter
