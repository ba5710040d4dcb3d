import SiteRouter.Proofs.Menus
import SiteRouter.Proofs.Positions

/-!
# Finding commands by what they say

What a script says about one thing is told by selecting the commands of a menu that have certain
arguments (`Script.select`). Mostly there is just one, which adds what it is about and says
something more of it (`Script.AddsOnce`).

To select among the commands of a script one must know what their arguments say. A command whose
arguments are listed with their keys is read like the list (`Script.Command.get?_eq_lookup`), and
so is every route (`Route.get?_command`).
-/

namespace SiteRouter

namespace Script

/-- Does the command have all of these arguments? -/
def Command.hasAll (c : Command) (said : List (String × String)) : Bool :=
  said.all fun (key, value) => c.has key value

/-- The commands of a menu that have all of these arguments. -/
def select (s : Script) (menu : String) (said : List (String × String)) : List Command :=
  (s.commandsAt menu).filter (·.hasAll said)

/-- One command of the menu has the first arguments. It adds an item, and has the others too. -/
def AddsOnce (s : Script) (menu : String) (said more : List (String × String)) : Prop :=
  ∃ c, s.select menu said = [c] ∧ c.adds = true ∧ c.hasAll more = true

/-! ## Arguments of a command -/

namespace Command

variable {c : Command} {key value : String} {said more : List (String × String)}

theorem has_iff : c.has key value = true ↔ c.get? key = some value := by
  rw [has, beq_iff_eq]

@[simp] theorem hasAll_nil : c.hasAll [] = true := rfl

@[simp] theorem hasAll_cons :
    c.hasAll ((key, value) :: said) = true ↔ c.get? key = some value ∧ c.hasAll said = true := by
  rw [hasAll, List.all_cons, Bool.and_eq_true, has_iff]
  rfl

theorem hasAll_append : c.hasAll (said ++ more) = (c.hasAll said && c.hasAll more) :=
  List.all_append

/-- The arguments of a list of keys, each of which may have a value. -/
def listed (es : List (String × Option String)) : List Arg :=
  es.flatMap fun (key, value?) => value?.toList.map fun value => ⟨key, some value⟩

theorem listed_cons_some (es : List (String × Option String)) :
    listed ((key, some value) :: es) = ⟨key, some value⟩ :: listed es := rfl

theorem listed_cons_none (es : List (String × Option String)) :
    listed ((key, none) :: es) = listed es := rfl

/-- A key that is not listed is not found. -/
theorem find?_listed_eq_none {es : List (String × Option String)} (h : key ∉ es.map Prod.fst) :
    (listed es).find? (·.key == key) = none := by
  refine List.find?_eq_none.mpr fun a ha heq => h ?_
  obtain ⟨⟨k, value?⟩, he, ha⟩ := List.mem_flatMap.mp ha
  obtain ⟨value, -, rfl⟩ := List.mem_map.mp ha
  exact List.mem_map.mpr ⟨_, he, beq_iff_eq.mp heq⟩

/-- A command whose arguments are listed is read like the list. -/
theorem get?_eq_lookup {es : List (String × Option String)} (hargs : c.args = listed es)
    (hkeys : (es.map Prod.fst).Nodup) (key : String) : c.get? key = (es.lookup key).join := by
  rw [get?, hargs]
  clear hargs
  induction es with
  | nil => rfl
  | cons e es ih =>
    obtain ⟨k, value?⟩ := e
    rw [List.map_cons, List.nodup_cons] at hkeys
    obtain ⟨hnew, hkeys⟩ := hkeys
    rw [List.lookup_cons]
    by_cases hkey : key = k
    · subst hkey
      rw [beq_self_eq_true]
      cases value? with
      | some value =>
        rw [listed_cons_some, List.find?_cons_of_pos (by simp)]
        rfl
      | none =>
        rw [listed_cons_none, find?_listed_eq_none hnew]
        rfl
    · have hother : (key == k) = false := beq_eq_false_iff_ne.mpr hkey
      rw [hother, ← ih hkeys]
      cases value? with
      | some value => rw [listed_cons_some, List.find?_cons_of_neg (by simpa using Ne.symm hkey)]
      | none => rw [listed_cons_none]

end Command

/-! ## Selections -/

section Selections

variable {s : Script} {menu : String} {said more : List (String × String)}

/-- More arguments select among fewer commands. -/
theorem select_append : s.select menu (said ++ more) =
    (s.select menu said).filter (·.hasAll more) := by
  rw [select, select, List.filter_filter]
  refine List.filter_congr fun c _ => ?_
  rw [Command.hasAll_append, Bool.and_comm]

end Selections

end Script

open Script

/-! ## Arguments of a route -/

theorem map_toString_eq_some_iff {n? : Option Nat} {n : Nat} :
    (n?.map fun n => toString n) = some (toString n) ↔ n? = some n := by
  constructor
  · intro h
    obtain ⟨m, hm, hsame⟩ := Option.map_eq_some_iff.mp h
    rw [hm, toString_injective hsame]
  · rintro rfl
    rfl

namespace Route

/-- What the arguments of a route say. -/
def arguments (r : Route) : List (String × Option String) := [
  ("dst-address", some r.destination.render),
  ("gateway", some r.gateway.render),
  ("routing-table", r.table),
  ("distance", r.distance.map fun n => toString n),
  ("scope", r.scope.map fun n => toString n),
  ("target-scope", r.targetScope.map fun n => toString n),
  ("check-gateway", if r.checkGateway then some "ping" else none),
  ("comment", some r.comment)]

theorem adds_command (r : Route) : r.command.adds = true := by
  cases hcheck : r.checkGateway <;> simp [command, hcheck]

theorem get?_command (r : Route) (key : String) :
    r.command.get? key = (r.arguments.lookup key).join := by
  refine Command.get?_eq_lookup ?_ ?_ key
  · cases hcheck : r.checkGateway <;>
      simp [command, arguments, Command.listed, hcheck]
  · show ["dst-address", "gateway", "routing-table", "distance", "scope", "target-scope",
      "check-gateway", "comment"].Nodup
    decide

section

variable (r : Route)

@[simp] theorem get?_destination :
    r.command.get? "dst-address" = some r.destination.render := r.get?_command "dst-address"

@[simp] theorem get?_gateway : r.command.get? "gateway" = some r.gateway.render :=
  r.get?_command "gateway"

@[simp] theorem get?_table : r.command.get? "routing-table" = r.table :=
  r.get?_command "routing-table"

@[simp] theorem get?_checkGateway :
    r.command.get? "check-gateway" = if r.checkGateway then some "ping" else none :=
  r.get?_command "check-gateway"

@[simp] theorem get?_comment : r.command.get? "comment" = some r.comment :=
  r.get?_command "comment"

theorem get?_distance_eq_iff (n : Nat) :
    r.command.get? "distance" = some (toString n) ↔ r.distance = some n := by
  have hdistance : r.command.get? "distance" = r.distance.map fun n => toString n :=
    r.get?_command "distance"
  rw [hdistance, map_toString_eq_some_iff]

theorem get?_scope_eq_iff (n : Nat) :
    r.command.get? "scope" = some (toString n) ↔ r.scope = some n := by
  have hscope : r.command.get? "scope" = r.scope.map fun n => toString n := r.get?_command "scope"
  rw [hscope, map_toString_eq_some_iff]

end

end Route

/-- What a script says of routes is told by the routes of its plan. -/
theorem Blueprint.select_route {b : Blueprint} (said : List (String × String)) :
    b.script.select "/ip route" said =
      (b.plan.failover.routes.filter (·.command.hasAll said)).map Route.command := by
  rw [select, commandsAt_route, List.filter_map]
  rfl

end SiteRouter
