import SiteRouter.CommandLine.Request
import SiteRouter.Proofs.Compilation

/-!
# Spelling an invocation

Many command lines ask for the same. Here one is written down for a compilation and one for a plan,
with the options by their long names and each value behind a `=`. Options that are spelled like this
are read back one after the other (`readArguments_spelled`), and so everything that can be asked for
at all is asked for by some command line (`exists_arguments_compile`, `exists_arguments_plan`).
-/

namespace SiteRouter.CommandLine

/-! ## Options -/

/-- An option as it stands behind two hyphens, by its long name. -/
def spelledOut : String × Option String → List Char
  | (long, none) => long.toList
  | (long, some value) => long.toList ++ '=' :: value.toList

/-- An option as an argument. -/
def spelled (option : String × Option String) : String :=
  String.ofList ('-' :: '-' :: spelledOut option)

/-- The option can be spelled out and is no call for help, and one of the forms is its own. -/
structure IsReadable (forms : List OptionForm) (option : String × Option String) : Prop where
  name : option.1 ≠ "" ∧ option.1 ≠ "help" ∧ '=' ∉ option.1.toList
  form : ∃ form, forms.find? (·.long == option.1) = some form ∧
    form.accepts.isSome = option.2.isSome ∧
    ∀ accepts ∈ form.accepts, ∀ value ∈ option.2, accepts value = true

section Spelled

variable {forms : List OptionForm} {stopAtOther : Bool} {fuel : Nat} {g : Given}
  {option : String × Option String} {options : List (String × Option String)} {rest : List String}

theorem cutAtEquals_spelledOut (h : '=' ∉ option.1.toList) :
    cutAtEquals (spelledOut option) = option := by
  obtain ⟨long, value⟩ := option
  have hne : ∀ c ∈ long.toList, decide (c ≠ '=') = true := by
    intro c hc
    exact decide_eq_true fun heq => h (heq ▸ hc)
  cases value with
  | none =>
    have htake : (long.toList ++ []).takeWhile (· ≠ '=') = long.toList ++ [] :=
      List.takeWhile_append_of_pos hne
    rw [List.append_nil] at htake
    rw [spelledOut, cutAtEquals, htake, String.ofList_toList, List.drop_length]
  | some v =>
    have hcut : ('=' :: v.toList).takeWhile (· ≠ '=') = [] := by simp
    rw [spelledOut, cutAtEquals, List.takeWhile_append_of_pos hne, hcut, List.append_nil,
      String.ofList_toList, List.drop_left]
    show (long, some (String.ofList v.toList)) = (long, some v)
    rw [String.ofList_toList]

theorem spelledOut_ne_nil (h : option.1 ≠ "") : spelledOut option ≠ [] := by
  have hlong : option.1.toList ≠ [] := fun hnil => h (String.toList_eq_nil_iff.mp hnil)
  obtain ⟨long, value⟩ := option
  cases value with
  | none => exact hlong
  | some v => exact List.append_ne_nil_of_left_ne_nil hlong _

/-- An option that is spelled out is read back, unless it has been given before. -/
theorem readLong_spelled (h : IsReadable forms option) (hfirst : g.has option.1 = false) :
    readLong forms g (spelledOut option) rest =
      .ok ({ g with options := g.options ++ [option] }, rest) := by
  have hcut := cutAtEquals_spelledOut h.name.2.2
  obtain ⟨long, value⟩ := option
  obtain ⟨form, hform, hvalue, haccepts⟩ := h.form
  have hoption : g.option long value = .ok { g with options := g.options ++ [(long, value)] } := by
    rw [Given.option, hfirst]
    rfl
  rw [readLong, hcut]
  dsimp only
  rw [if_neg h.name.2.1, hform]
  dsimp only
  cases haccept : form.accepts with
  | none =>
    rw [haccept] at hvalue
    obtain rfl : value = none := by simpa using hvalue.symm
    dsimp only
    rw [hoption]
    rfl
  | some accepts =>
    rw [haccept] at hvalue
    obtain ⟨v, rfl⟩ := Option.isSome_iff_exists.mp hvalue.symm
    dsimp only
    rw [Given.valued, if_pos (haccepts accepts haccept v rfl), hoption]
    rfl

theorem readArguments_cons_spelled (h : IsReadable forms option)
    (hfirst : g.has option.1 = false) :
    readArguments forms stopAtOther (fuel + 1) g (spelled option :: rest) =
      readArguments forms stopAtOther fuel { g with options := g.options ++ [option] } rest := by
  have hread : readLong forms g (spelledOut option) rest =
      .ok ({ g with options := g.options ++ [option] }, rest) := readLong_spelled h hfirst
  obtain ⟨c, cs, hcs⟩ := List.exists_cons_of_ne_nil (spelledOut_ne_nil h.name.1)
  rw [readArguments, spelled, String.toList_ofList]
  rw [hcs] at hread ⊢
  -- There is a name behind the two hyphens, so they do not end the options.
  show (readLong forms g _ rest >>= fun x => readArguments forms stopAtOther fuel x.1 x.2) = _
  rw [hread]
  rfl

/-- Options that are spelled out are read back. -/
theorem readArguments_spelled (hreadable : ∀ option ∈ options, IsReadable forms option)
    (hnodup : (g.options.map Prod.fst ++ options.map Prod.fst).Nodup) :
    readArguments forms stopAtOther (options.length + fuel) g (options.map spelled ++ rest) =
      readArguments forms stopAtOther fuel { g with options := g.options ++ options } rest := by
  induction options generalizing g with
  | nil => simp
  | cons option options ih =>
    have hfirst : g.has option.1 = false := by
      rw [Given.has, List.any_eq_false]
      intro given hgiven heq
      refine (List.nodup_append.mp hnodup).2.2 given.1 (List.mem_map_of_mem hgiven) option.1
        List.mem_cons_self ?_
      exact eq_of_beq heq
    rw [List.map_cons, List.cons_append, List.length_cons, Nat.add_right_comm,
      readArguments_cons_spelled (hreadable option List.mem_cons_self) hfirst,
      ih (fun o ho => hreadable o (List.mem_cons_of_mem _ ho)) (by simpa using hnodup)]
    simp

end Spelled

/-! ## Optional options -/

/-- An option among the options, if it is there. -/
def optionIf (long : String) (value : Option (Option String)) : List (String × Option String) :=
  value.toList.map fun v => (long, v)

/-- An option that takes no value is there or not. -/
def switched (on : Bool) : Option (Option String) := if on then some none else none

section OptionIf

variable {long key : String} {value : Option (Option String)} {on : Bool}

@[simp] theorem isSome_switched : (switched on).isSome = on := by cases on <;> rfl

@[simp] theorem lookup_optionIf :
    (optionIf long value).lookup key = if key = long then value else none := by
  cases value with
  | none => simp [optionIf]
  | some v => by_cases h : key = long <;> simp [optionIf, List.lookup_cons, h, beq_false_of_ne]

@[simp] theorem any_optionIf :
    (optionIf long value).any (·.1 == key) = (value.isSome && long == key) := by
  cases value <;> simp [optionIf]

theorem sublist_optionIf : ((optionIf long value).map Prod.fst).Sublist [long] := by
  cases value <;> simp [optionIf]

theorem isReadable_optionIf {forms : List OptionForm}
    (h : ∀ v, value = some v → IsReadable forms (long, v)) :
    ∀ option ∈ optionIf long value, IsReadable forms option := by
  cases value with
  | none => simp [optionIf]
  | some v => simp [optionIf, h v rfl]

theorem isReadable_switched {forms : List OptionForm} {short : Option Char} (on : Bool)
    (hname : long ≠ "" ∧ long ≠ "help" ∧ '=' ∉ long.toList)
    (hform : forms.find? (·.long == long) = some ⟨long, short, none⟩) :
    ∀ option ∈ optionIf long (switched on), IsReadable forms option := by
  refine isReadable_optionIf fun v hv => ⟨hname, _, hform, ?_, nofun⟩
  cases on with
  | false => exact nomatch hv
  | true =>
    obtain rfl := Option.some.inj hv
    rfl

theorem isReadable_setting {forms : List OptionForm} {short : Option Char}
    {accepts : String → Bool} {value : Option String}
    (hname : long ≠ "" ∧ long ≠ "help" ∧ '=' ∉ long.toList)
    (hform : forms.find? (·.long == long) = some ⟨long, short, some accepts⟩)
    (haccepts : ∀ v, value = some v → accepts v = true) :
    ∀ option ∈ optionIf long (value.map some), IsReadable forms option := by
  refine isReadable_optionIf fun v hv => ?_
  obtain ⟨text, htext, rfl⟩ := Option.map_eq_some_iff.mp hv
  refine ⟨hname, _, hform, rfl, ?_⟩
  rintro _ ⟨⟩ _ ⟨⟩
  exact haccepts text htext

end OptionIf

/-! ## Command lines -/

/-- Options that are spelled out are read back, and the site behind them. -/
theorem readAll_spelled {forms : List OptionForm} {options : List (String × Option String)}
    {site : String} (hreadable : ∀ option ∈ options, IsReadable forms option)
    (hnodup : (options.map Prod.fst).Nodup) (hsite : site ≠ "")
    (hconsistent : isConsistent ⟨options, some site⟩ = true) :
    readAll forms (options.map spelled ++ ["--", site]) = .ok ⟨options, some site⟩ := by
  have hlength : (options.map spelled ++ ["--", site]).length + 1 = options.length + 3 := by
    rw [List.length_append, List.length_map]
    rfl
  have hother : Given.other ⟨options, none⟩ site = .ok ⟨options, some site⟩ := by
    simp [Given.other, hsite]
  have hread : readArguments forms false (options.length + 3) .none
      (options.map spelled ++ ["--", site]) = .ok (⟨options, some site⟩, []) := by
    rw [readArguments_spelled hreadable (by simpa [Given.none] using hnodup)]
    show (List.foldlM Given.other ⟨options, none⟩ [site] >>= fun g =>
      pure (g, ([] : List String))) = _
    rw [List.foldlM_cons, hother]
    rfl
  rw [readAll, hlength, hread]
  exact if_pos hconsistent

/-- A command that is understood is what the command line asks for. Before the command and after it,
the options have to be consistent each on their own, so that quiet stands before it. -/
theorem exists_arguments_of_request {name : String} {own : List String} {given : Given}
    {request : Request} (quiet : Bool) (hown : request? name own = .ok (given, request))
    (hquiet : given.has "quiet" = false)
    (hname : ∀ fuel g, readArguments commonForms true (fuel + 1) g (name :: own) =
      .ok (g, name :: own)) :
    ∃ arguments, Invocation.ofArguments arguments =
      .ok ⟨given.has "verbose", given.has "debug", quiet, request⟩ := by
  let common := optionIf "quiet" (switched quiet)
  have hlength : (common.map spelled ++ name :: own).length + 1 =
      common.length + (own.length + 2) := by
    rw [List.length_append, List.length_map]
    rfl
  have hcommon : readArguments commonForms true (common.length + (own.length + 2)) .none
      (common.map spelled ++ name :: own) = .ok (⟨common, none⟩, name :: own) := by
    have hnodup : (common.map Prod.fst).Nodup := sublist_optionIf.nodup (by decide)
    rw [readArguments_spelled (isReadable_switched quiet (by decide) rfl)
      (by simpa [Given.none] using hnodup), hname]
    rfl
  refine ⟨common.map spelled ++ name :: own, ?_⟩
  rw [Invocation.ofArguments, hlength, hcommon]
  show (request? name own >>= _) = _
  rw [hown]
  have hconsistent : isConsistent ⟨common, none⟩ = true := by
    simp [common, isConsistent, Given.has]
  show (if isConsistent ⟨common, none⟩ = true then _ else _) = _
  rw [if_pos hconsistent]
  have hcommonHas : ∀ long, Given.has ⟨common, none⟩ long = (quiet && "quiet" == long) := by
    intro long
    simp [common, Given.has]
  simp [hcommonHas, hquiet, pure, Except.pure]

theorem join_map_some (value : Option String) : (value.map some).join = value := by
  cases value <;> rfl

/-! ## Compilations -/

namespace CompileRequest

variable {r : CompileRequest} {verbose debug : Bool} {time : Option String}

/-- The options of a compilation, with the time as it is written. -/
def options (r : CompileRequest) (verbose debug : Bool) (time : Option String) :
    List (String × Option String) :=
  optionIf "verbose" (switched verbose) ++ (optionIf "debug" (switched debug) ++
    (optionIf "output" (r.output.map some) ++ (optionIf "profile" (r.profile.map some) ++
    (optionIf "truncate-uplinks" (switched r.truncate) ++
    (optionIf "strict-policy" (switched r.strict) ++
    (optionIf "generated-at" (time.map some) ++ optionIf "summary" (switched r.summary)))))))

theorem nodup_options : ((r.options verbose debug time).map Prod.fst).Nodup := by
  have hsublist : ((r.options verbose debug time).map Prod.fst).Sublist
      ["verbose", "debug", "output", "profile", "truncate-uplinks", "strict-policy",
        "generated-at", "summary"] := by
    simp only [options, List.map_append]
    exact sublist_optionIf.append <| sublist_optionIf.append <| sublist_optionIf.append <|
      sublist_optionIf.append <| sublist_optionIf.append <| sublist_optionIf.append <|
      sublist_optionIf.append sublist_optionIf
  exact hsublist.nodup (by decide)

theorem isReadable_options
    (hpath : ∀ path, r.output = some path ∨ r.profile = some path → path ≠ "")
    (htime : ∀ s, time = some s → (Timestamp.ofString? s).isSome = true) :
    ∀ option ∈ r.options verbose debug time, IsReadable compileForms option := by
  simp only [options, List.forall_mem_append]
  exact ⟨isReadable_switched verbose (by decide) rfl, isReadable_switched debug (by decide) rfl,
    isReadable_setting (by decide) rfl fun path h => decide_eq_true (hpath path (Or.inl h)),
    isReadable_setting (by decide) rfl fun path h => decide_eq_true (hpath path (Or.inr h)),
    isReadable_switched r.truncate (by decide) rfl, isReadable_switched r.strict (by decide) rfl,
    isReadable_setting (by decide) rfl htime, isReadable_switched r.summary (by decide) rfl⟩

/-- The options and the site are the compilation that they are the options of. -/
theorem request?_options (hsite : r.site ≠ "")
    (hpath : ∀ path, r.output = some path ∨ r.profile = some path → path ≠ "")
    (htime : time.bind Timestamp.ofString? = r.generatedAt)
    (hwritten : ∀ s, time = some s → (Timestamp.ofString? s).isSome = true) :
    request? "compile" ((r.options verbose debug time).map spelled ++ ["--", r.site]) =
      .ok (⟨r.options verbose debug time, some r.site⟩, .compile r) := by
  have hconsistent : isConsistent ⟨r.options verbose debug time, some r.site⟩ = true := by
    simp [isConsistent, Given.has, options, List.any_append]
  show (readAll _ _ >>= _) = _
  rw [readAll_spelled (isReadable_options hpath hwritten) nodup_options hsite hconsistent]
  show Except.ok (_, Request.compile ⟨r.site, _, _, _, _, _, _⟩) = _
  simp [Given.value?, Given.has, options, List.lookup_append, List.any_append, join_map_some, htime]

end CompileRequest

/-! ## Plans -/

/-- The name of a form. -/
def OutputForm.name : OutputForm → String
  | .text => "text"
  | .json => "json"

theorem OutputForm.ofString?_name (form : OutputForm) : ofString? form.name = some form := by
  cases form <;> rfl

namespace PlanRequest

variable {r : PlanRequest} {verbose debug : Bool}

/-- The options of a plan. -/
def options (r : PlanRequest) (verbose debug : Bool) : List (String × Option String) :=
  optionIf "verbose" (switched verbose) ++ (optionIf "debug" (switched debug) ++
    (optionIf "format" ((some r.form.name).map some) ++ (optionIf "profile" (r.profile.map some) ++
    optionIf "truncate-uplinks" (switched r.truncate))))

theorem nodup_options : ((r.options verbose debug).map Prod.fst).Nodup := by
  have hsublist : ((r.options verbose debug).map Prod.fst).Sublist
      ["verbose", "debug", "format", "profile", "truncate-uplinks"] := by
    simp only [options, List.map_append]
    exact sublist_optionIf.append <| sublist_optionIf.append <| sublist_optionIf.append <|
      sublist_optionIf.append sublist_optionIf
  exact hsublist.nodup (by decide)

theorem isReadable_options (hpath : r.profile ≠ some "") :
    ∀ option ∈ r.options verbose debug, IsReadable planForms option := by
  have hform : ∀ s, some r.form.name = some s → (OutputForm.ofString? s).isSome = true := by
    rintro _ ⟨⟩
    rw [OutputForm.ofString?_name]
    rfl
  simp only [options, List.forall_mem_append]
  exact ⟨isReadable_switched verbose (by decide) rfl, isReadable_switched debug (by decide) rfl,
    isReadable_setting (by decide) rfl hform,
    isReadable_setting (by decide) rfl fun path h => decide_eq_true fun hnil =>
      hpath (hnil ▸ h),
    isReadable_switched r.truncate (by decide) rfl⟩

/-- The options and the site are the plan that they are the options of. -/
theorem request?_options (hsite : r.site ≠ "") (hpath : r.profile ≠ some "") :
    request? "plan" ((r.options verbose debug).map spelled ++ ["--", r.site]) =
      .ok (⟨r.options verbose debug, some r.site⟩, .plan r) := by
  have hconsistent : isConsistent ⟨r.options verbose debug, some r.site⟩ = true := by
    simp [isConsistent, Given.has, options, List.any_append]
  show (readAll _ _ >>= _) = _
  rw [readAll_spelled (isReadable_options hpath) nodup_options hsite hconsistent]
  show Except.ok (_, Request.plan ⟨r.site, _, _, _⟩) = _
  simp [CommandLine.form, Given.value?, Given.has, options, List.lookup_append, List.any_append,
    join_map_some, OutputForm.ofString?_name]

/-- **Every plan can be asked for.** -/
theorem exists_arguments_plan (verbose debug quiet : Bool) (hsite : r.site ≠ "")
    (hpath : r.profile ≠ some "") :
    ∃ arguments, Invocation.ofArguments arguments = .ok ⟨verbose, debug, quiet, .plan r⟩ := by
  have hquiet : Given.has ⟨r.options verbose debug, some r.site⟩ "quiet" = false := by
    simp [Given.has, options, List.any_append]
  have harguments := exists_arguments_of_request quiet (request?_options hsite hpath) hquiet
    fun _ _ => rfl
  simpa [Given.has, options, List.any_append] using harguments

end PlanRequest

end SiteRouter.CommandLine
