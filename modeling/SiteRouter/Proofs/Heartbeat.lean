import SiteRouter.Proofs.Lines
import SiteRouter.Proofs.Menus
import SiteRouter.Proofs.Quoting

/-!
# The heartbeat carries its URL and token

The stored script of the heartbeat is a command inside the value of an argument: its URL and token
are quoted once for the stored script, and the whole is quoted once more for the line that stores
it. `IsCommandText` says of a text that it is a single command with the given arguments, so that
nothing else is executed when the text is. A command with plain keys is written as such a text
(`isCommandText_written`), whatever its values hold, and this applies at both levels: the line is
one command, and so is what the line stores (`Blueprint.heartbeat_sealed`).
-/

namespace SiteRouter

namespace Script

/-! ## What stands outside of quotes -/

/-- The characters of a text that stand outside of quotes, opening quotes included. -/
def unquotedFrom : Place → List Char → List Char
  | _, [] => []
  | p, c :: r => if p = .outside then c :: unquotedFrom (p.next c) r else unquotedFrom (p.next c) r

theorem mem_of_mem_unquotedFrom {p : Place} {cs : List Char} {c : Char}
    (h : c ∈ unquotedFrom p cs) : c ∈ cs := by
  induction cs generalizing p with
  | nil => exact h
  | cons d cs ih =>
    rw [unquotedFrom] at h
    split at h
    · rcases List.mem_cons.mp h with rfl | h
      · exact List.mem_cons_self ..
      · exact List.mem_cons_of_mem _ (ih h)
    · exact List.mem_cons_of_mem _ (ih h)

/-- Behind a whole text the reader starts afresh. -/
theorem unquotedFrom_append {p : Place} {a : List Char} (b : List Char)
    (ha : isWhole p a = true) :
    unquotedFrom p (a ++ b) = unquotedFrom p a ++ unquotedFrom .outside b := by
  induction a generalizing p with
  | nil =>
    obtain rfl : p = .outside := by simpa [isWhole] using ha
    rfl
  | cons c a ih =>
    obtain ⟨-, ha⟩ := isWhole_cons_eq_true.mp ha
    rw [List.cons_append, unquotedFrom, unquotedFrom, ih ha]
    split <;> rfl

/-- Between quotes an escape hides its character. -/
theorem unquotedFrom_escape_append (c : Char) (r : List Char) :
    unquotedFrom .inside (escape c ++ r) = unquotedFrom .inside r := by
  unfold escape
  cases hl : escapes.lookup c with
  | some e => rfl
  | none =>
    show (if Place.inside = .outside then _ else unquotedFrom (Place.inside.next c) r) = _
    rw [next_inside hl, if_neg (by decide)]

theorem unquotedFrom_flatMap_escape (cs : List Char) :
    unquotedFrom .inside (cs.flatMap escape ++ ['"']) = [] := by
  induction cs with
  | nil => rfl
  | cons c cs ih => rw [List.flatMap_cons, List.append_assoc, unquotedFrom_escape_append, ih]

/-- Of a written value, bare characters and a quote stand outside of quotes. -/
theorem of_mem_unquotedFrom_quoteChars {cs : List Char} {c : Char}
    (h : c ∈ unquotedFrom .outside (quoteChars cs)) : isBare c = true ∨ c = '"' := by
  unfold quoteChars at h
  split at h
  next hbare =>
    exact Or.inl (List.all_eq_true.mp hbare.2 c (mem_of_mem_unquotedFrom h))
  next =>
    have hall : unquotedFrom .outside ('"' :: cs.flatMap escape ++ ['"']) = ['"'] :=
      congrArg ('"' :: ·) (unquotedFrom_flatMap_escape cs)
    rw [hall] at h
    exact Or.inr (List.mem_singleton.mp h)

/-- Does the character end no command and start none: may it stand in a bare value, or is it a
space, an equals sign or a quote? -/
def isPlain (c : Char) : Bool := isBare c || c == ' ' || c == '=' || c == '"'

/-- Is the text fit to be a key, and made of bare characters? -/
def isPlainKey (key : String) : Bool := isKey key && key.toList.all isBare

theorem isPlainKey_iff {key : String} :
    isPlainKey key = true ↔ isKey key = true ∧ ∀ c ∈ key.toList, isBare c = true := by
  rw [isPlainKey, Bool.and_eq_true, List.all_eq_true]

theorem isPlain_of_mem_render {a : Arg} (h : isPlainKey a.key = true) {c : Char}
    (hc : c ∈ unquotedFrom .outside a.render.toList) : isPlain c = true := by
  obtain ⟨-, hbare⟩ := isPlainKey_iff.mp h
  have hkey : isWhole .outside a.key.toList = true := by
    refine isWhole_of_ne fun d hd => ?_
    obtain ⟨hquote, -, hspace, -⟩ := ne_of_isBare (hbare d hd)
    exact ⟨hspace, hquote⟩
  rw [toList_render, unquotedFrom_append _ hkey] at hc
  rcases List.mem_append.mp hc with hc | hc
  · simp [isPlain, hbare c (mem_of_mem_unquotedFrom hc)]
  · cases hv : a.value with
    | none => simp [hv, unquotedFrom] at hc
    | some v =>
      simp only [hv] at hc
      rcases List.mem_cons.mp hc with rfl | hc
      · rfl
      · rcases of_mem_unquotedFrom_quoteChars hc with hbare | rfl
        · simp [isPlain, hbare]
        · rfl

/-- Written arguments hold nothing else outside of quotes. -/
theorem isPlain_of_mem_written {args : List Arg} (h : ∀ a ∈ args, isPlainKey a.key = true)
    {c : Char} (hc : c ∈ unquotedFrom .outside (writtenArguments args)) : isPlain c = true := by
  induction args with
  | nil => cases hc
  | cons a args ih =>
    have ha := h a (List.mem_cons_self ..)
    have hproper := (isPlainKey_iff.mp ha).1
    have hsplit : unquotedFrom .outside (writtenArguments (a :: args)) =
        ' ' :: (unquotedFrom .outside a.render.toList ++
          unquotedFrom .outside (writtenArguments args)) :=
      congrArg (' ' :: ·) (unquotedFrom_append _ (isWhole_render hproper))
    rw [hsplit] at hc
    rcases List.mem_cons.mp hc with rfl | hc
    · rfl
    · rcases List.mem_append.mp hc with hc | hc
      · exact isPlain_of_mem_render ha hc
      · exact ih (fun b hb => h b (List.mem_cons_of_mem _ hb)) hc

/-! ## One command -/

/-- The text is a single command: it opens with the given words, what follows them is read as the
given arguments, and nothing in there can start a second command or be replaced when the text is
run. -/
def IsCommandText (opening : String) (args : List Arg) (text : String) : Prop :=
  ∃ rest, text.toList = opening.toList ++ rest ∧ readArguments rest = some args ∧
    (∀ c ∈ unquotedFrom .outside rest, isPlain c = true) ∧
    (∀ c ∈ rest, isLineControl c = false) ∧
    ∀ w ∈ wordsFrom .outside rest, hasOpenDollar (writtenValue w) = false

/-- **A text of written arguments is a single command**, whatever the values hold. -/
theorem isCommandText_written {opening text : String} {args : List Arg}
    (htext : text.toList = opening.toList ++ writtenArguments args)
    (hkeys : ∀ a ∈ args, isPlainKey a.key = true) : IsCommandText opening args text := by
  have hproper : ∀ a ∈ args, isKey a.key = true :=
    fun a ha => (isPlainKey_iff.mp (hkeys a ha)).1
  exact ⟨_, htext, readArguments_writtenArguments hproper,
    fun c hc => isPlain_of_mem_written hkeys hc,
    fun c hc => isLineControl_of_mem_written hproper hc,
    fun w hw => hasOpenDollar_of_mem_words hproper hw⟩

/-- What a text says behind an opening is determined by the text. -/
theorem IsCommandText.args_eq {opening text : String} {args args' : List Arg}
    (h : IsCommandText opening args text) (h' : IsCommandText opening args' text) :
    args = args' := by
  obtain ⟨rest, hrest, hargs, -⟩ := h
  obtain ⟨rest', hrest', hargs', -⟩ := h'
  obtain rfl : rest = rest' := List.append_cancel_left (hrest.symm.trans hrest')
  exact Option.some.inj (hargs.symm.trans hargs')

end Script

open Script

namespace Blueprint

/-- The blueprint with another URL and token for its heartbeat. -/
def withHeartbeat (b : Blueprint) (url token : String) : Blueprint :=
  { b with site.management.heartbeatUrl := url, site.management.token := token }

/-- Stores the script of the heartbeat. -/
def storeCommand (b : Blueprint) : Command :=
  (((Command.add "/system script").arg "name" b.profile.heartbeatScript).arg "policy"
    "read,write,test").arg "source"
      (heartbeatSource b.site.management.heartbeatUrl b.site.management.token)

/-- Has the stored script run at intervals. -/
def scheduleCommand (b : Blueprint) : Command :=
  ((((Command.add "/system scheduler").arg "name" b.profile.heartbeatScript).arg "interval"
    b.profile.heartbeatInterval).arg "start-time" "startup").arg "on-event"
      b.profile.heartbeatScript

theorem texts_heartbeatSection (b : Blueprint) : b.heartbeatSection.texts =
    ["# --- heartbeat ---", b.storeCommand.render, b.scheduleCommand.render] := rfl

/-- Of the whole script only the line that stores the heartbeat depends on its URL and token. -/
theorem lines_withHeartbeat (b : Blueprint) (url token : String) :
    (b.withHeartbeat url token).script.lines =
      (b.script.header.map ("# " ++ ·) ++ (b.sections.take 7).flatMap Section.texts ++
        ["# --- heartbeat ---"]) ++
      (b.withHeartbeat url token).storeCommand.render :: [b.scheduleCommand.render] := by
  have hsections : (b.withHeartbeat url token).script.sections =
      b.sections.take 7 ++ [(b.withHeartbeat url token).heartbeatSection] := rfl
  rw [Script.lines, hsections, List.flatMap_append, List.flatMap_singleton, texts_heartbeatSection]
  simp only [List.append_assoc]
  rfl

theorem commandsAt_systemScript (b : Blueprint) :
    b.script.commandsAt "/system script" = [b.storeCommand] := by
  simp [commandsAt_script, sections, sectionMenus, heartbeatSection, storeCommand]

/-- The arguments of the request that the heartbeat makes. -/
def requestArguments (url token : String) : List Arg :=
  [⟨"url", some url⟩, ⟨"http-method", some "post"⟩,
    ⟨"http-header-field", some ("Authorization: Bearer " ++ token)⟩, ⟨"output", some "none"⟩]

/-- The first of some arguments, as it is written behind a text. -/
theorem toList_append_written (text : String) (a : Arg) (args : List Arg) :
    text.toList ++ writtenArguments (a :: args) =
      (text ++ " " ++ a.render).toList ++ writtenArguments args := by
  simp [writtenArguments]

theorem toList_heartbeatSource (url token : String) : (heartbeatSource url token).toList =
    "/tool fetch".toList ++ writtenArguments (requestArguments url token) := by
  have hurl : "/tool fetch url=" = "/tool fetch" ++ " " ++ "url" ++ "=" := by decide
  have hmethod : " http-method=post http-header-field=" =
      " " ++ "http-method" ++ "=" ++ quote "post" ++ " " ++ "http-header-field" ++ "=" := by decide
  have houtput : " output=none" = " " ++ "output" ++ "=" ++ quote "none" := by decide
  rw [requestArguments, toList_append_written, toList_append_written, toList_append_written,
    toList_append_written, writtenArguments, List.flatMap_nil, List.append_nil]
  refine congrArg String.toList ?_
  unfold heartbeatSource Arg.render
  rewrite [hurl, hmethod, houtput]
  simp only [String.append_assoc]

theorem isCommandText_heartbeatSource (url token : String) :
    IsCommandText "/tool fetch" (requestArguments url token) (heartbeatSource url token) :=
  isCommandText_written (toList_heartbeatSource url token) (by simp +decide [requestArguments])

/-- A token cannot close its quotes to set another output. -/
example : heartbeatSource "u" "k\\\" output=user" =
    "/tool fetch url=u http-method=post " ++
      "http-header-field=\"Authorization: Bearer k\\\\\\\" output=user\" output=none" := by
  decide

theorem isCommandText_storeCommand (b : Blueprint) :
    IsCommandText "/system script add" b.storeCommand.args b.storeCommand.render := by
  have hopening : b.storeCommand.opening = "/system script add" := by
    show "/system script" ++ " " ++ "add" ++ "" = "/system script add"
    decide
  refine isCommandText_written ?_ ?_
  · rw [← hopening]
    exact b.storeCommand.toList_render
  · simp +decide [storeCommand]

/-- **The heartbeat carries its URL and token and nothing they could add.** Whatever the two are,
one line of the script differs, which is a single command that stores a text. That text is a single
request with four arguments, and the URL and the token are read back from it. So sections that are
written alike under one profile have the same URL and token. -/
theorem heartbeat_sealed (b : Blueprint) :
    (∃ front back, ∀ url token, ∃ store source,
      (b.withHeartbeat url token).script.lines = front ++ store.render :: back ∧
      (b.withHeartbeat url token).script.commandsAt "/system script" = [store] ∧
      IsCommandText "/system script add" [⟨"name", some b.profile.heartbeatScript⟩,
        ⟨"policy", some "read,write,test"⟩, ⟨"source", some source⟩] store.render ∧
      IsCommandText "/tool fetch" (requestArguments url token) source) ∧
    ∀ b' : Blueprint, b'.profile = b.profile →
      b'.heartbeatSection.texts = b.heartbeatSection.texts →
        b'.site.management.heartbeatUrl = b.site.management.heartbeatUrl ∧
          b'.site.management.token = b.site.management.token := by
  refine ⟨⟨b.script.header.map ("# " ++ ·) ++ (b.sections.take 7).flatMap Section.texts ++
    ["# --- heartbeat ---"], [b.scheduleCommand.render], fun url token => ?_⟩, ?_⟩
  · have hstore := (b.withHeartbeat url token).isCommandText_storeCommand
    exact ⟨_, _, b.lines_withHeartbeat url token, commandsAt_systemScript _, hstore,
      isCommandText_heartbeatSource url token⟩
  · -- The written line gives its source back, and the source the request.
    intro b' hprofile htexts
    rw [texts_heartbeatSection, texts_heartbeatSection] at htexts
    have hrender : b'.storeCommand.render = b.storeCommand.render := by
      injection htexts with _ htexts
      exact (List.cons.inj htexts).1
    have hstore := b'.isCommandText_storeCommand
    rw [hrender] at hstore
    have hargs := hstore.args_eq b.isCommandText_storeCommand
    have hsource : heartbeatSource b'.site.management.heartbeatUrl b'.site.management.token =
        heartbeatSource b.site.management.heartbeatUrl b.site.management.token := by
      simpa [storeCommand, hprofile] using hargs
    have hrequest := isCommandText_heartbeatSource b'.site.management.heartbeatUrl
      b'.site.management.token
    rw [hsource] at hrequest
    have hargs := hrequest.args_eq (isCommandText_heartbeatSource _ _)
    simpa [requestArguments] using hargs

end Blueprint

end SiteRouter
