import SiteRouter.Proofs.Along
import SiteRouter.Proofs.Commands

/-!
# References between commands

Commands create entries under names, and the values of some arguments are such names again: a VLAN
interface names its bridge, a route its table. `created` lists what commands create, `referent` says
which arguments refer to what, and `Command.Resolves` that every reference of a command leads to a
port of the device or to something that an earlier command has created. A list of commands is
`Closed` when this holds at each of its places.

What has been created stays (`Command.Resolves.mono`), so that commands which need nothing of each
other are closed wherever they stand (`closed_of_forall`, `closed_flatMap`).
-/

namespace SiteRouter.Script

/-! ## Entries -/

namespace Command

/-- The names that the command gives. -/
def names (c : Command) : List String :=
  c.args.filterMap fun a => if a.key = "name" then a.value else none

/-- What the command creates: entries of its menu under the names that it gives. -/
def creations (c : Command) : List (String × String) :=
  match c.action with
  | .add => c.names.map (c.path, ·)
  | .set => []

end Command

/-- What the commands create, as menus with names. -/
def created (cs : List Command) : List (String × String) := cs.flatMap Command.creations

/-- A command joins the port to a bridge. -/
def Joins (cs : List Command) (port : String) : Prop :=
  ∃ c ∈ cs, c.path = "/interface bridge port" ∧ c.action = .add ∧ c.Says "interface" port

variable {ports : List String} {before after : List Command}

theorem created_append (xs ys : List Command) : created (xs ++ ys) = created xs ++ created ys :=
  List.flatMap_append

theorem created_cons (c : Command) (cs : List Command) :
    created (c :: cs) = c.creations ++ created cs := List.flatMap_cons

theorem created_mono (h : before ⊆ after) : created before ⊆ created after := by
  intro e he
  obtain ⟨c, hc, he⟩ := List.mem_flatMap.mp he
  exact List.mem_flatMap.mpr ⟨c, h hc, he⟩

/-- What has been created stays. -/
theorem mem_created_append {e : String × String} {cs : List Command} (he : e ∈ created before) :
    e ∈ created (before ++ cs) := created_mono (List.subset_append_left ..) he

/-- An entry is there for the commands after the one that creates it. -/
theorem mem_created_concat {e : String × String} {c : Command} (he : e ∈ c.creations) :
    e ∈ created (before ++ [c]) :=
  List.mem_flatMap.mpr ⟨c, List.mem_append_right _ (List.mem_singleton_self c), he⟩

theorem Joins.mono {port : String} (h : before ⊆ after) : Joins before port → Joins after port
  | ⟨c, hc, hjoins⟩ => ⟨c, h hc, hjoins⟩

/-! ## References -/

/-- What the value of an argument can refer to. -/
inductive Referent where
  /-- Nothing; the value stands for itself. -/
  | nothing
  /-- An entry of a menu. -/
  | entry (menu : String)
  /-- A port of the device. -/
  | port
  /-- A port, a VLAN interface or a PPPoE client. -/
  | interface
  /-- A bridge, and after it ports that have been joined to a bridge. -/
  | members
  /-- A PPPoE client, unless it is an address. -/
  | nextHop

/-- What the value of an argument refers to, by the menu of its command and its key. -/
def referent (menu key : String) : Referent :=
  if key = "bridge" then .entry "/interface bridge"
  else if key = "tagged" then .members
  else if key = "interface" then
    if menu = "/interface vlan" then .entry "/interface bridge"
    else if menu = "/interface bridge port" then .port
    else .interface
  else if key = "in-interface" then .interface
  -- Only lists of interfaces are created; a list of addresses is there with its first entry.
  else if key = "list" ∧ menu = "/interface list member" then .entry "/interface list"
  else if key = "out-interface-list" then .entry "/interface list"
  else if key = "address-pool" then .entry "/ip pool"
  else if key = "profile" then .entry "/ip hotspot profile"
  else if key = "routing-table" ∨ key = "new-routing-mark" then .entry "/routing table"
  else if key = "gateway" then .nextHop
  else if key = "on-event" then .entry "/system script"
  else .nothing

/-- What the value refers to is a port or has been created. -/
def Referent.IsFound (ports : List String) (before : List Command) (value : String) :
    Referent → Prop
  | .nothing => True
  | .entry menu => (menu, value) ∈ created before
  | .port => value ∈ ports
  | .interface => value ∈ ports ∨ ("/interface vlan", value) ∈ created before ∨
      ("/interface pppoe-client", value) ∈ created before
  | .members => ∃ bridge members, value = ",".intercalate (bridge :: members) ∧
      ("/interface bridge", bridge) ∈ created before ∧ ∀ m ∈ members, Joins before m
  | .nextHop => (∃ a : Ipv4, value = a.render) ∨
      ("/interface pppoe-client", value) ∈ created before

/-- Whatever the arguments of the command refer to is found, among the ports and what the commands
before it have created. -/
def Command.Resolves (ports : List String) (before : List Command) (c : Command) : Prop :=
  ∀ key value, c.Says key value → (referent c.path key).IsFound ports before value

/-- What is found once is found later on. -/
theorem Referent.IsFound.mono (h : before ⊆ after) {value : String} {r : Referent}
    (hfound : r.IsFound ports before value) : r.IsFound ports after value := by
  have hcreated : created before ⊆ created after := created_mono h
  cases r with
  | nothing => trivial
  | entry menu => exact hcreated hfound
  | port => exact hfound
  | interface => exact hfound.imp_right (Or.imp (hcreated ·) (hcreated ·))
  | members =>
    obtain ⟨bridge, members, hvalue, hbridge, hmembers⟩ := hfound
    exact ⟨bridge, members, hvalue, hcreated hbridge, fun m hm => (hmembers m hm).mono h⟩
  | nextHop => exact hfound.imp_right (hcreated ·)

theorem Command.Resolves.mono {c : Command} (h : before ⊆ after) (hc : c.Resolves ports before) :
    c.Resolves ports after :=
  fun key value hsays => (hc key value hsays).mono h

namespace Command

variable (c : Command) (path key value : String)

/-! ## References of a command, one argument at a time -/

@[simp] theorem resolves_add : (add path).Resolves ports before := by
  intro key value h
  exact absurd h List.not_mem_nil

@[simp] theorem resolves_set : (set path).Resolves ports before := by
  intro key value h
  exact absurd h List.not_mem_nil

@[simp] theorem resolves_on (item : String) :
    (c.on item).Resolves ports before ↔ c.Resolves ports before := Iff.rfl

@[simp] theorem resolves_arg : (c.arg key value).Resolves ports before ↔
    c.Resolves ports before ∧ (referent c.path key).IsFound ports before value := by
  constructor
  · intro h
    exact ⟨fun k v hs => h k v (List.mem_append_left _ hs), h key value (by simp [Says])⟩
  · rintro ⟨h, hfound⟩ k v hs
    rcases List.mem_append.mp hs with hs | hs
    · exact h k v hs
    · obtain ⟨rfl, hv⟩ := Arg.mk.inj (List.mem_singleton.mp hs)
      obtain rfl := Option.some.inj hv
      exact hfound

@[simp] theorem resolves_keyword :
    (c.keyword key).Resolves ports before ↔ c.Resolves ports before := by
  simp [Resolves, Says]

@[simp] theorem resolves_flag (on : Bool) : (c.flag key on).Resolves ports before ↔
    c.Resolves ports before ∧
      (referent c.path key).IsFound ports before (if on then "yes" else "no") :=
  resolves_arg c key _

@[simp] theorem resolves_list (values : List String) : (c.list key values).Resolves ports before ↔
    c.Resolves ports before ∧
      (referent c.path key).IsFound ports before (",".intercalate values) :=
  resolves_arg c key _

@[simp] theorem resolves_argIfSome (v : Option String) :
    (c.argIfSome key v).Resolves ports before ↔ c.Resolves ports before ∧
      ∀ value ∈ v, (referent c.path key).IsFound ports before value := by
  cases v with
  | none => simp [argIfSome]
  | some value => simp [argIfSome]

end Command

/-! ## Closed lists of commands -/

/-- Every command of the list resolves, behind the given ones and those before it in the list. -/
def Closed (ports : List String) (before cs : List Command) : Prop :=
  Along (fun front c => c.Resolves ports (before ++ front)) cs

theorem closed_nil : Closed ports before [] := along_nil

theorem closed_cons {c : Command} {cs : List Command} : Closed ports before (c :: cs) ↔
    c.Resolves ports before ∧ Closed ports (before ++ [c]) cs := by
  rw [Closed, along_cons, List.append_nil, Closed]
  simp only [List.append_assoc, List.singleton_append]

theorem closed_append {xs ys : List Command} : Closed ports before (xs ++ ys) ↔
    Closed ports before xs ∧ Closed ports (before ++ xs) ys := by
  rw [Closed, along_append, Closed, Closed]
  simp only [List.append_assoc]

/-- Commands that need nothing of each other are closed. -/
theorem closed_of_forall {cs : List Command} (h : ∀ c ∈ cs, c.Resolves ports before) :
    Closed ports before cs := by
  rintro front c back rfl
  exact (h c (by simp)).mono (List.subset_append_left ..)

/-- Groups of commands that need nothing of each other are closed. -/
theorem closed_flatMap {α : Type} {f : α → List Command} {xs : List α}
    (h : ∀ x ∈ xs, ∀ later, before ⊆ later → Closed ports later (f x)) :
    Closed ports before (xs.flatMap f) := by
  refine along_flatMap fun x hx front => ?_
  simpa only [Closed, List.append_assoc] using
    h x hx (before ++ front) (List.subset_append_left ..)

end SiteRouter.Script
