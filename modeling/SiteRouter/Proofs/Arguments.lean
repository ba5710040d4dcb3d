import SiteRouter.Proofs.Commands

/-!
# No value escapes its argument

Every command of a configuration has proper keys, and a command with proper keys is written so that
its text gives its arguments back: `render_seals_arguments`. Values may hold anything, so whoever
controls a value controls that value alone, and neither another argument nor another line.
-/

namespace SiteRouter

open Script

/-! ## The keys of a configuration -/

namespace Script.Command

variable {c : Command} {key : String}

@[simp] theorem hasKeys_add (path : String) : (add path).HasKeys := by
  intro a ha
  cases ha

@[simp] theorem hasKeys_set (path : String) : (set path).HasKeys := by
  intro a ha
  cases ha

@[simp] theorem hasKeys_on (target : String) : (c.on target).HasKeys ↔ c.HasKeys := Iff.rfl

@[simp] theorem hasKeys_arg (value : String) :
    (c.arg key value).HasKeys ↔ c.HasKeys ∧ isKey key = true := by
  simp [HasKeys, or_imp, forall_and]

@[simp] theorem hasKeys_keyword : (c.keyword key).HasKeys ↔ c.HasKeys ∧ isKey key = true := by
  simp [HasKeys, or_imp, forall_and]

@[simp] theorem hasKeys_flag (on : Bool) :
    (c.flag key on).HasKeys ↔ c.HasKeys ∧ isKey key = true := hasKeys_arg _

@[simp] theorem hasKeys_list (values : List String) :
    (c.list key values).HasKeys ↔ c.HasKeys ∧ isKey key = true := hasKeys_arg _

/-- An argument that may be missing asks no more of the keys than one that is there. -/
theorem hasKeys_argIfSome (v : Option String) (h : c.HasKeys ∧ isKey key = true) :
    (c.argIfSome key v).HasKeys := by
  cases v with
  | none => exact h.1
  | some value => exact (hasKeys_arg value).mpr h

end Script.Command

open Script.Command (hasKeys_argIfSome)

theorem Uplink.hasKeys_bringUp (u : Uplink) (position : Nat) : (u.bringUp position).HasKeys := by
  unfold bringUp
  cases u.kind with
  | pppoe username password =>
    have huser : (((((Command.add "/interface pppoe-client").arg "name" (u.egress position)).arg
        "interface" u.interface).argIfSome "user" username).argIfSome "password"
        password).HasKeys :=
      hasKeys_argIfSome _ ⟨hasKeys_argIfSome _ (by simp +decide), by decide⟩
    simp +decide [huser]
  | static address gateway =>
    have haddress : ((Command.add "/ip address").argIfSome "address"
        (address.map Cidr.render)).HasKeys := hasKeys_argIfSome _ (by simp +decide)
    simp +decide [haddress]
  | dhcp => simp +decide

theorem Route.hasKeys_command (r : Route) : r.command.HasKeys := by
  have hchosen : ∀ (table distance scope target : Option String) (c : Command), c.HasKeys →
      ((((c.argIfSome "routing-table" table).argIfSome "distance" distance).argIfSome "scope"
        scope).argIfSome "target-scope" target).HasKeys := by
    intro table distance scope target c hc
    have h := hasKeys_argIfSome table ⟨hc, (by decide : isKey "routing-table" = true)⟩
    have h := hasKeys_argIfSome distance ⟨h, (by decide : isKey "distance" = true)⟩
    have h := hasKeys_argIfSome scope ⟨h, (by decide : isKey "scope" = true)⟩
    exact hasKeys_argIfSome target ⟨h, by decide⟩
  unfold command
  split <;> simp +decide [hchosen]

theorem Network.hasKeys_commands (n : Network) (profile : Profile) (resolver : Resolver) :
    ∀ c ∈ n.commands profile resolver, c.HasKeys := by
  unfold commands
  split
  · split <;> simp +decide [addressCommand, dhcpCommands, hotspotCommands]
  · simp +decide [addressCommand]

namespace Blueprint

variable (b : Blueprint)

theorem hasKeys_deviceSection : ∀ c ∈ b.deviceSection.commands, c.HasKeys := by
  have haccount : b.accountCommand.HasKeys := hasKeys_argIfSome _ (by simp +decide)
  have hidentity : ∀ c ∈ b.identityCommands, c.HasKeys := by
    unfold identityCommands
    split <;> simp +decide
  have hservice : ∀ c ∈ b.serviceCommands, c.HasKeys := by
    intro c hc
    rcases List.mem_append.mp hc with hc | hc
    · obtain ⟨name, -, rfl⟩ := List.mem_map.mp hc
      simp +decide
    · obtain rfl := List.mem_singleton.mp hc
      split <;> simp +decide
  rw [commands_deviceSection]
  intro c hc
  rcases List.mem_append.mp hc with hc | hc
  · exact hidentity c hc
  · rcases List.mem_cons.mp hc with rfl | hc
    · exact haccount
    · exact hservice c hc

theorem hasKeys_bridgeSection : ∀ c ∈ b.bridgeSection.commands, c.HasKeys := by
  rw [commands_bridgeSection]
  simp +decide [or_imp, forall_and, bridgeCommand, BridgePort.command, Network.vlanCommand,
    Membership.command]

theorem hasKeys_uplinkSection : ∀ c ∈ b.uplinkSection.commands, c.HasKeys := by
  rw [commands_uplinkSection]
  intro c hc
  rcases List.mem_cons.mp hc with rfl | hc
  · simp +decide
  rcases List.mem_append.mp hc with hc | hc
  · obtain ⟨⟨i, u⟩, -, hc⟩ := List.mem_flatMap.mp hc
    rcases List.mem_cons.mp hc with rfl | hc
    · exact u.hasKeys_bringUp i
    · obtain rfl := List.mem_singleton.mp hc
      simp +decide [Uplink.memberCommand]
  · obtain ⟨u, -, hc⟩ := List.mem_flatMap.mp hc
    rcases List.mem_cons.mp hc with rfl | hc
    · simp +decide [UplinkRoutes.tableCommand]
    · obtain ⟨r, -, rfl⟩ := List.mem_map.mp hc
      exact r.hasKeys_command

theorem hasKeys_networkSection : ∀ c ∈ b.networkSection.commands, c.HasKeys := by
  rw [commands_networkSection]
  intro c hc
  obtain ⟨n, -, hc⟩ := List.mem_flatMap.mp hc
  exact n.hasKeys_commands _ _ c hc

theorem hasKeys_firewallSection : ∀ c ∈ b.firewallSection.commands, c.HasKeys := by
  rw [commands_firewallSection]
  simp +decide [or_imp, forall_and, addressListCommands, addressEntry, inputRules, inputRule,
    markRules, prerouting, Mark.command, Command.does]

/-- **Every key in a script is a proper one.** -/
theorem hasKeys_script : ∀ c ∈ b.script.commands, c.HasKeys := by
  rw [commands_script]
  intro c hc
  simp only [List.mem_append] at hc
  rcases hc with hc | hc | hc | hc | hc | hc | hc | hc
  · exact b.hasKeys_deviceSection c hc
  · exact b.hasKeys_bridgeSection c hc
  · exact b.hasKeys_uplinkSection c hc
  · exact b.hasKeys_networkSection c hc
  · revert c
    simp +decide [resolverSection]
  · exact b.hasKeys_firewallSection c hc
  · rw [masqueradeSection, Section.commands_ofCommands] at hc
    rcases List.mem_cons.mp hc with rfl | hc
    · simp +decide [sourceRule, Command.masquerades]
    · obtain ⟨n, -, rfl⟩ := List.mem_map.mp hc
      simp +decide [sourceRule, Command.masquerades]
  · revert c
    simp +decide [heartbeatSection]

end Blueprint

/-! ## The seal -/

/-- **No value escapes its argument.** Values are read back from how they are written; the text of a
command gives back its arguments, which keep to one line and leave no `$` to be expanded; and this
holds of every command of a script. -/
theorem render_seals_arguments :
    (∀ value, unquote (quote value) = some value) ∧
    Function.Injective quote ∧
    (∀ c d : Command, c.path = d.path → c.action = d.action → c.target = d.target →
      c.HasKeys → d.HasKeys → c.render = d.render → c.args = d.args) ∧
    (∀ c : Command, c.HasKeys →
      c.render.toList = c.opening.toList ++ writtenArguments c.args ∧
      readArguments (writtenArguments c.args) = some c.args ∧
      (∀ ch ∈ writtenArguments c.args, isLineControl ch = false) ∧
      ∀ w ∈ wordsFrom .outside (writtenArguments c.args), hasOpenDollar (writtenValue w) = false) ∧
    ∀ b : Blueprint, ∀ c ∈ b.script.commands, c.HasKeys := by
  refine ⟨unquote_quote, quote_injective, ?_, ?_, fun b => b.hasKeys_script⟩
  · intro c d hpath haction htarget hc hd hrender
    have hopening : c.opening = d.opening := by
      rw [Command.opening, Command.opening, hpath, haction, htarget]
    exact Command.args_eq_of_render_eq hopening hc hd hrender
  · intro c hc
    exact ⟨c.toList_render, readArguments_writtenArguments hc,
      fun ch hch => isLineControl_of_mem_written hc hch,
      fun w hw => hasOpenDollar_of_mem_words hc hw⟩

/-- A table whose name holds all that could end a value, written in two ways. -/
theorem render_seals_arguments_of_table :
    let name := "a\\\" $x=\n b"
    let c := ((Command.add "/routing table").arg "name" name).keyword "fib"
    let d : Command := ⟨"/routing table", .add, none, [⟨"name", some name⟩, ⟨"fib", none⟩]⟩
    c.HasKeys ∧ d.HasKeys ∧ c.args = d.args ∧
      (∀ ch ∈ writtenArguments c.args, isLineControl ch = false) ∧
      wordsFrom .outside (writtenArguments c.args) =
        [[], "name=\"a\\\\\\\" \\$x=\\n b\"".toList, "fib".toList] :=
  have hkeys : Command.HasKeys
      (((Command.add "/routing table").arg "name" "a\\\" $x=\n b").keyword "fib") := by decide
  ⟨hkeys, hkeys, render_seals_arguments.2.2.1 _ _ rfl rfl rfl hkeys hkeys rfl,
    (render_seals_arguments.2.2.2.1 _ hkeys).2.2.1, by decide⟩

end SiteRouter
