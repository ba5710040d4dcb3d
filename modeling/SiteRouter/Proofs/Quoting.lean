import SiteRouter.Script.Command

/-!
# Written values are read back

`quote` writes a value so that it stands for itself between the arguments of a command. This file
shows both halves of that:

- `unquote_quote`: reading a written value gives the value back, whatever characters it holds.
- `wordsFrom_arguments`: a text of arguments falls apart at its spaces outside of quotes into
  exactly the written arguments, so no value ends early and none runs on into the next.

The second half is an invariant of a small machine. `Place` tells where the reader of a line stands
with respect to quotes, and a text is whole (`isWhole`) when the machine meets no space outside of
quotes in it and ends outside again. Keys, bare values and quoted values are whole, so every
written argument is.
-/

namespace SiteRouter.Script

/-! ## One value -/

/-- The letter of an escape stands for the character that it was made from. -/
theorem unescape_of_lookup {c e : Char} (h : escapes.lookup c = some e) : unescape e = some c := by
  have hall : ∀ p ∈ escapes, unescape p.2 = some p.1 := by decide
  obtain ⟨front, back, hsplit, -⟩ := List.lookup_eq_some_iff.mp h
  exact hall (c, e) (by rw [hsplit]; simp)

/-- A character without an escape is neither a backslash nor a quote. -/
theorem ne_of_lookup_eq_none {c : Char} (h : escapes.lookup c = none) : c ≠ '\\' ∧ c ≠ '"' := by
  constructor
  · rintro rfl
    exact absurd h (by decide)
  · rintro rfl
    exact absurd h (by decide)

/-- The reader of a quoted value takes one written character at a time. -/
theorem unquoteBody_escape_append (c : Char) (r : List Char) :
    unquoteBody (escape c ++ r) = (unquoteBody r).map (c :: ·) := by
  unfold escape
  cases hl : escapes.lookup c with
  | some e =>
    show unquoteBody ('\\' :: e :: r) = _
    rw [unquoteBody, unescape_of_lookup hl]
    cases unquoteBody r <;> rfl
  | none =>
    obtain ⟨hbackslash, hquote⟩ := ne_of_lookup_eq_none hl
    show unquoteBody (c :: r) = _
    rw [unquoteBody, if_neg hquote]
    intro e r' hc
    exact absurd hc hbackslash

/-- The reader of a quoted value takes all of it, up to the quote that ends it. -/
theorem unquoteBody_flatMap_escape (cs : List Char) :
    unquoteBody (cs.flatMap escape ++ ['"']) = some cs := by
  induction cs with
  | nil => rfl
  | cons c cs ih =>
    rw [List.flatMap_cons, List.append_assoc, unquoteBody_escape_append, ih]
    rfl

/-- No bare character is one of the characters that mean something to a reader. -/
theorem ne_of_isBare {c : Char} (h : isBare c = true) :
    c ≠ '"' ∧ c ≠ '\\' ∧ c ≠ ' ' ∧ c ≠ '$' ∧ c ≠ '\n' ∧ c ≠ '\r' ∧ c ≠ '\t' := by
  refine ⟨?_, ?_, ?_, ?_, ?_, ?_, ?_⟩ <;>
  · rintro rfl
    exact absurd h (by decide)

theorem unquoteChars_quoteChars (cs : List Char) : unquoteChars (quoteChars cs) = some cs := by
  unfold quoteChars
  split
  next h =>
    obtain ⟨hne, hbare⟩ := h
    match cs, hne with
    | c :: r, _ =>
      have hc := ne_of_isBare (List.all_eq_true.mp hbare c (List.mem_cons_self ..))
      rw [unquoteChars]
      intro r' hr
      exact hc.1 (List.cons.inj hr).1
  next => exact unquoteBody_flatMap_escape cs

/-- **A written value is read back**, whatever it holds. -/
theorem unquote_quote (value : String) : unquote (quote value) = some value := by
  unfold unquote quote
  rw [String.toList_ofList, unquoteChars_quoteChars, Option.map_some, String.ofList_toList]

/-- Values that are written alike are alike. -/
theorem quote_injective : Function.Injective quote := by
  intro v w h
  have hv := unquote_quote v
  rw [h, unquote_quote w] at hv
  exact (Option.some.inj hv).symm

/-! ## What a written value never holds -/

/-- Does the written value hold a `$` that no backslash stands before? -/
def hasOpenDollar : List Char → Bool
  | '\\' :: _ :: r => hasOpenDollar r
  | c :: r => c == '$' || hasOpenDollar r
  | [] => false

/-- Does the character end a line or move to a tab stop? -/
def isLineControl (c : Char) : Bool := c == '\n' || c == '\r' || c == '\t'

theorem hasOpenDollar_cons {c : Char} (r : List Char) (hbackslash : c ≠ '\\') (hdollar : c ≠ '$') :
    hasOpenDollar (c :: r) = hasOpenDollar r := by
  rw [hasOpenDollar]
  · rw [beq_eq_false_iff_ne.mpr hdollar, Bool.false_or]
  · intro _ _ hc
    exact absurd hc hbackslash

theorem hasOpenDollar_escape_append (c : Char) (r : List Char) :
    hasOpenDollar (escape c ++ r) = hasOpenDollar r := by
  unfold escape
  cases hl : escapes.lookup c with
  | some e => rfl
  | none =>
    have hdollar : c ≠ '$' := by
      rintro rfl
      exact absurd hl (by decide)
    exact hasOpenDollar_cons r (ne_of_lookup_eq_none hl).1 hdollar

theorem hasOpenDollar_flatMap_escape_append (cs r : List Char) :
    hasOpenDollar (cs.flatMap escape ++ r) = hasOpenDollar r := by
  induction cs with
  | nil => rfl
  | cons c cs ih => rw [List.flatMap_cons, List.append_assoc, hasOpenDollar_escape_append, ih]

theorem hasOpenDollar_of_all_isBare {cs : List Char} (h : ∀ c ∈ cs, isBare c = true) :
    hasOpenDollar cs = false := by
  induction cs with
  | nil => rfl
  | cons c cs ih =>
    obtain ⟨-, hbackslash, -, hdollar, -⟩ := ne_of_isBare (h c (List.mem_cons_self ..))
    rw [hasOpenDollar_cons cs hbackslash hdollar]
    exact ih fun d hd => h d (List.mem_cons_of_mem _ hd)

/-- Every `$` of a written value has its backslash. -/
theorem hasOpenDollar_quoteChars (cs : List Char) : hasOpenDollar (quoteChars cs) = false := by
  unfold quoteChars
  split
  next h => exact hasOpenDollar_of_all_isBare (List.all_eq_true.mp h.2)
  next =>
    rw [List.cons_append, hasOpenDollar_cons _ (by decide) (by decide),
      hasOpenDollar_flatMap_escape_append]
    rfl

/-- No escape holds a line control. -/
theorem isLineControl_of_mem_escape {c d : Char} (h : d ∈ escape c) : isLineControl d = false := by
  unfold escape at h
  cases hl : escapes.lookup c with
  | some e =>
    have hletters : ∀ p ∈ escapes, isLineControl p.2 = false := by decide
    obtain ⟨front, back, hsplit, -⟩ := List.lookup_eq_some_iff.mp hl
    rw [hl] at h
    rcases List.mem_cons.mp h with rfl | h
    · rfl
    · obtain rfl := List.mem_singleton.mp h
      exact hletters (c, d) (by rw [hsplit]; simp)
  | none =>
    rw [hl] at h
    obtain rfl := List.mem_singleton.mp h
    cases hd : isLineControl d with
    | false => rfl
    | true =>
      simp only [isLineControl, Bool.or_eq_true, beq_iff_eq] at hd
      rcases hd with (rfl | rfl) | rfl <;> exact absurd hl (by decide)

/-- A written value stays on its line. -/
theorem isLineControl_of_mem_quoteChars {cs : List Char} {d : Char} (h : d ∈ quoteChars cs) :
    isLineControl d = false := by
  unfold quoteChars at h
  split at h
  next hb =>
    obtain ⟨-, -, -, -, hn, hr, ht⟩ := ne_of_isBare (List.all_eq_true.mp hb.2 d h)
    simp [isLineControl, hn, hr, ht]
  next =>
    rcases List.mem_append.mp h with h | h
    · rcases List.mem_cons.mp h with rfl | h
      · rfl
      · obtain ⟨c, -, hc⟩ := List.mem_flatMap.mp h
        exact isLineControl_of_mem_escape hc
    · obtain rfl := List.mem_singleton.mp h
      rfl

/-! ## Words of a line -/

/-- Where the reader of a line stands with respect to quotes. -/
inductive Place where
  | outside
  /-- Between quotes. -/
  | inside
  /-- Between quotes and right behind a backslash. -/
  | escaped
  deriving DecidableEq, Repr

/-- The place behind a character. -/
def Place.next : Place → Char → Place
  | .outside, '"' => .inside
  | .inside, '"' => .outside
  | .inside, '\\' => .escaped
  | .escaped, _ => .inside
  | p, _ => p

/-- The words of a text: what stands between its spaces outside of quotes. -/
def wordsFrom : Place → List Char → List (List Char)
  | _, [] => [[]]
  | p, c :: r =>
    if p = .outside ∧ c = ' ' then [] :: wordsFrom .outside r
    else
      match wordsFrom (p.next c) r with
      | [] => [[c]]
      | w :: ws => (c :: w) :: ws

/-- Is there no space outside of quotes in the text, and does it end outside of quotes? -/
def isWhole : Place → List Char → Bool
  | p, [] => p == .outside
  | p, c :: r => !(p == .outside && c == ' ') && isWhole (p.next c) r

theorem isWhole_cons_eq_true {p : Place} {c : Char} {r : List Char} :
    isWhole p (c :: r) = true ↔ ¬(p = .outside ∧ c = ' ') ∧ isWhole (p.next c) r = true := by
  rw [isWhole, Bool.and_eq_true, Bool.not_eq_true', Bool.and_eq_false_iff, beq_eq_false_iff_ne,
    beq_eq_false_iff_ne, Decidable.not_and_iff_not_or_not]

/-- Whole texts one after the other are whole. -/
theorem isWhole_append {p : Place} {a b : List Char} (ha : isWhole p a = true)
    (hb : isWhole .outside b = true) : isWhole p (a ++ b) = true := by
  induction a generalizing p with
  | nil =>
    obtain rfl : p = .outside := by simpa [isWhole] using ha
    exact hb
  | cons c a ih =>
    obtain ⟨hc, ha⟩ := isWhole_cons_eq_true.mp ha
    exact isWhole_cons_eq_true.mpr ⟨hc, ih ha⟩

/-- A whole text is one word. -/
theorem wordsFrom_of_isWhole {p : Place} {w : List Char} (h : isWhole p w = true) :
    wordsFrom p w = [w] := by
  induction w generalizing p with
  | nil => rfl
  | cons c w ih =>
    obtain ⟨hc, hw⟩ := isWhole_cons_eq_true.mp h
    rw [wordsFrom, if_neg hc, ih hw]

/-- A whole text with a space behind it is the first word. -/
theorem wordsFrom_append_space {p : Place} {w : List Char} (r : List Char)
    (h : isWhole p w = true) : wordsFrom p (w ++ ' ' :: r) = w :: wordsFrom .outside r := by
  induction w generalizing p with
  | nil =>
    obtain rfl : p = .outside := by simpa [isWhole] using h
    rfl
  | cons c w ih =>
    obtain ⟨hc, hw⟩ := isWhole_cons_eq_true.mp h
    rw [List.cons_append, wordsFrom, if_neg hc, ih hw]

/-- Whole texts with a space before each are the words behind the first space. -/
theorem wordsFrom_spaced (ws : List (List Char)) (h : ∀ w ∈ ws, isWhole .outside w = true) :
    wordsFrom .outside (ws.flatMap (' ' :: ·)) = [] :: ws := by
  induction ws with
  | nil => rfl
  | cons w ws ih =>
    have hw := h w (List.mem_cons_self ..)
    have ih := ih fun v hv => h v (List.mem_cons_of_mem _ hv)
    rw [List.flatMap_cons, List.cons_append, wordsFrom, if_pos ⟨rfl, rfl⟩]
    cases ws with
    | nil => rw [List.flatMap_nil, List.append_nil, wordsFrom_of_isWhole hw]
    | cons v vs =>
      rw [List.flatMap_cons, List.cons_append] at ih ⊢
      rw [wordsFrom, if_pos ⟨rfl, rfl⟩] at ih
      rw [wordsFrom_append_space _ hw, List.tail_eq_of_cons_eq ih]

/-! ## Arguments -/

/-- A control character (general category `Cc`). -/
def isControl (c : Char) : Bool := c.toNat < 0x20 || (0x7f ≤ c.toNat && c.toNat ≤ 0x9f)

/-- Is the text fit to be the key of an argument: not empty, and without spaces, equals signs,
quotes and control characters? -/
def isKey (key : String) : Bool :=
  key != "" && key.toList.all fun c => !(c == ' ' || c == '=' || c == '"' || isControl c)

/-- What a key does not hold. -/
theorem ne_of_isKey {key : String} (h : isKey key = true) {c : Char} (hc : c ∈ key.toList) :
    c ≠ ' ' ∧ c ≠ '=' ∧ c ≠ '"' ∧ isControl c = false := by
  have hall := List.all_eq_true.mp (Bool.and_eq_true_iff.mp h).2 c hc
  simpa [not_or, and_assoc] using hall

/-- What stands behind the first equals sign of a word. -/
def writtenValue (w : List Char) : List Char := (w.dropWhile (· != '=')).drop 1

/-- Reads one argument: a keyword, or a key and its written value. -/
def readArg (w : List Char) : Option Arg :=
  let key := String.ofList (w.takeWhile (· != '='))
  if '=' ∈ w then (unquoteChars (writtenValue w)).map fun v => ⟨key, some (String.ofList v)⟩
  else some ⟨key, none⟩

/-- Reads arguments, each with a space before it. -/
def readArguments (cs : List Char) : Option (List Arg) :=
  match wordsFrom .outside cs with
  | [] :: ws => ws.mapM readArg
  | _ => none

/-- Arguments as they are written, each with a space before it. -/
def writtenArguments (args : List Arg) : List Char := args.flatMap fun a => ' ' :: a.render.toList

/-- The characters of a keyword, or of a key, its equals sign and its written value. -/
theorem toList_render (a : Arg) : a.render.toList =
    a.key.toList ++ (match a.value with | some v => '=' :: quoteChars v.toList | none => []) := by
  unfold Arg.render
  cases a.value with
  | some v =>
    show (a.key ++ "=" ++ quote v).toList = a.key.toList ++ '=' :: quoteChars v.toList
    rw [String.toList_append, String.toList_append, show "=".toList = ['='] from rfl, quote,
      String.toList_ofList, List.append_assoc, List.singleton_append]
  | none => exact (List.append_nil _).symm

/-- Text without spaces and quotes is whole. -/
theorem isWhole_of_ne {cs : List Char} (h : ∀ c ∈ cs, c ≠ ' ' ∧ c ≠ '"') :
    isWhole .outside cs = true := by
  induction cs with
  | nil => rfl
  | cons c cs ih =>
    obtain ⟨hspace, hquote⟩ := h c (List.mem_cons_self ..)
    have hnext : Place.outside.next c = .outside := by
      unfold Place.next
      split <;> trivial
    refine isWhole_cons_eq_true.mpr ⟨fun hc => hspace hc.2, ?_⟩
    rw [hnext]
    exact ih fun d hd => h d (List.mem_cons_of_mem _ hd)

/-- A character without an escape leaves the reader between quotes. -/
theorem next_inside {c : Char} (h : escapes.lookup c = none) : Place.inside.next c = .inside := by
  obtain ⟨hbackslash, hquote⟩ := ne_of_lookup_eq_none h
  unfold Place.next
  split <;> trivial

/-- Behind the escape of a character the reader is between quotes again. -/
theorem isWhole_escape_append (c : Char) (r : List Char) :
    isWhole .inside (escape c ++ r) = isWhole .inside r := by
  unfold escape
  cases hl : escapes.lookup c with
  | some e => rfl
  | none =>
    show (!(Place.inside == .outside && c == ' ') && isWhole (Place.inside.next c) r) = _
    rw [next_inside hl]
    rfl

theorem isWhole_flatMap_escape (cs : List Char) :
    isWhole .inside (cs.flatMap escape ++ ['"']) = true := by
  induction cs with
  | nil => rfl
  | cons c cs ih => rw [List.flatMap_cons, List.append_assoc, isWhole_escape_append, ih]

/-- A written value is whole. -/
theorem isWhole_quoteChars (cs : List Char) : isWhole .outside (quoteChars cs) = true := by
  unfold quoteChars
  split
  next h =>
    refine isWhole_of_ne fun c hc => ?_
    obtain ⟨hquote, -, hspace, -⟩ := ne_of_isBare (List.all_eq_true.mp h.2 c hc)
    exact ⟨hspace, hquote⟩
  next => exact isWhole_flatMap_escape cs

/-- A written argument is whole. -/
theorem isWhole_render {a : Arg} (h : isKey a.key = true) :
    isWhole .outside a.render.toList = true := by
  rw [toList_render]
  have hkey : isWhole .outside a.key.toList = true := by
    refine isWhole_of_ne fun c hc => ?_
    obtain ⟨hspace, -, hquote, -⟩ := ne_of_isKey h hc
    exact ⟨hspace, hquote⟩
  refine isWhole_append hkey ?_
  cases a.value with
  | some v => exact isWhole_quoteChars v.toList
  | none => rfl

/-- **The words of written arguments are the arguments**, one each. -/
theorem wordsFrom_arguments {args : List Arg} (h : ∀ a ∈ args, isKey a.key = true) :
    wordsFrom .outside (writtenArguments args) = [] :: args.map (·.render.toList) := by
  rw [← wordsFrom_spaced (args.map (·.render.toList))]
  · rw [List.flatMap_map, writtenArguments]
  · intro w hw
    obtain ⟨a, ha, rfl⟩ := List.mem_map.mp hw
    exact isWhole_render (h a ha)

/-- A key ends right before the equals sign. -/
theorem takeWhile_key {key : String} (h : isKey key = true) (r : List Char) :
    (key.toList ++ '=' :: r).takeWhile (· != '=') = key.toList ∧
      (key.toList ++ '=' :: r).dropWhile (· != '=') = '=' :: r := by
  have hne : ∀ c ∈ key.toList, (c != '=') = true := fun c hc =>
    bne_iff_ne.mpr (ne_of_isKey h hc).2.1
  rw [List.takeWhile_append_of_pos hne, List.dropWhile_append_of_pos hne]
  simp

/-- Behind the equals sign stands the value as it was written. -/
theorem writtenValue_render {key : String} (h : isKey key = true) (v : String) :
    writtenValue (Arg.render ⟨key, some v⟩).toList = quoteChars v.toList := by
  rw [toList_render, writtenValue, (takeWhile_key h _).2, List.drop_one, List.tail_cons]

theorem readArg_render {a : Arg} (h : isKey a.key = true) : readArg a.render.toList = some a := by
  obtain ⟨key, value⟩ := a
  cases value with
  | some v =>
    have hmem : '=' ∈ (Arg.render ⟨key, some v⟩).toList := by simp [toList_render]
    have htake : (Arg.render ⟨key, some v⟩).toList.takeWhile (· != '=') = key.toList := by
      rw [toList_render]
      exact (takeWhile_key h (quoteChars v.toList)).1
    simp only [readArg, if_pos hmem, writtenValue_render h, unquoteChars_quoteChars, htake,
      String.ofList_toList, Option.map_some]
  | none =>
    rw [toList_render]
    have hmem : '=' ∉ key.toList := fun hc => (ne_of_isKey h hc).2.1 rfl
    have htake : (key.toList ++ []).takeWhile (· != '=') = key.toList ++ [] :=
      List.takeWhile_append_of_pos fun c hc => bne_iff_ne.mpr (ne_of_isKey h hc).2.1
    simp only [List.append_nil] at htake
    simp only [readArg, List.append_nil, if_neg hmem, htake, String.ofList_toList]

/-- **Written arguments are read back**, all of them and in their order. -/
theorem readArguments_writtenArguments {args : List Arg} (h : ∀ a ∈ args, isKey a.key = true) :
    readArguments (writtenArguments args) = some args := by
  rw [readArguments, wordsFrom_arguments h]
  show (args.map (·.render.toList)).mapM readArg = some args
  induction args with
  | nil => rfl
  | cons a args ih =>
    rw [List.map_cons, List.mapM_cons, readArg_render (h a (List.mem_cons_self ..)),
      ih fun b hb => h b (List.mem_cons_of_mem _ hb)]
    rfl

/-- A written argument stays on its line. -/
theorem isLineControl_of_mem_render {a : Arg} (h : isKey a.key = true) {c : Char}
    (hc : c ∈ a.render.toList) : isLineControl c = false := by
  rw [toList_render] at hc
  rcases List.mem_append.mp hc with hc | hc
  · obtain ⟨-, -, -, hcontrol⟩ := ne_of_isKey h hc
    cases hline : isLineControl c with
    | false => rfl
    | true =>
      simp only [isLineControl, Bool.or_eq_true, beq_iff_eq] at hline
      rcases hline with (rfl | rfl) | rfl <;> exact absurd hcontrol (by decide)
  · cases hv : a.value with
    | none =>
      rw [hv] at hc
      cases hc
    | some v =>
      rw [hv] at hc
      rcases List.mem_cons.mp hc with rfl | hc
      · rfl
      · exact isLineControl_of_mem_quoteChars hc

/-- No written argument has a `$` in its value that no backslash stands before. -/
theorem hasOpenDollar_render {a : Arg} (h : isKey a.key = true) :
    hasOpenDollar (writtenValue a.render.toList) = false := by
  obtain ⟨key, value⟩ := a
  cases value with
  | some v => rw [writtenValue_render h, hasOpenDollar_quoteChars]
  | none =>
    have hdrop : (key.toList ++ []).dropWhile (· != '=') = [] := by
      rw [List.dropWhile_append_of_pos fun c hc => bne_iff_ne.mpr (ne_of_isKey h hc).2.1]
      rfl
    rw [toList_render, writtenValue, hdrop]
    rfl

/-- Written arguments stay on their line. -/
theorem isLineControl_of_mem_written {args : List Arg} (h : ∀ a ∈ args, isKey a.key = true)
    {c : Char} (hc : c ∈ writtenArguments args) : isLineControl c = false := by
  obtain ⟨a, ha, hc⟩ := List.mem_flatMap.mp hc
  rcases List.mem_cons.mp hc with rfl | hc
  · rfl
  · exact isLineControl_of_mem_render (h a ha) hc

/-- Every `$` in the values of written arguments has its backslash. -/
theorem hasOpenDollar_of_mem_words {args : List Arg} (h : ∀ a ∈ args, isKey a.key = true)
    {w : List Char} (hw : w ∈ wordsFrom .outside (writtenArguments args)) :
    hasOpenDollar (writtenValue w) = false := by
  rw [wordsFrom_arguments h] at hw
  rcases List.mem_cons.mp hw with rfl | hw
  · rfl
  · obtain ⟨a, ha, rfl⟩ := List.mem_map.mp hw
    exact hasOpenDollar_render (h a ha)

/-- Does every argument of the command have a proper key? -/
def Command.HasKeys (c : Command) : Prop := ∀ a ∈ c.args, isKey a.key = true

instance (c : Command) : Decidable c.HasKeys :=
  inferInstanceAs (Decidable (∀ a ∈ c.args, isKey a.key = true))

/-- A command is written as its opening with its arguments behind it. -/
theorem Command.toList_render (c : Command) :
    c.render.toList = c.opening.toList ++ writtenArguments c.args := by
  unfold Command.render
  generalize c.opening = line
  induction c.args generalizing line with
  | nil => simp [writtenArguments]
  | cons a args ih =>
    rw [List.foldl_cons, ih]
    simp [writtenArguments]

/-- Commands that open alike and are written alike have the same arguments. -/
theorem Command.args_eq_of_render_eq {c d : Command} (hopening : c.opening = d.opening)
    (hc : c.HasKeys) (hd : d.HasKeys) (h : c.render = d.render) : c.args = d.args := by
  have htext : writtenArguments c.args = writtenArguments d.args := by
    have h := congrArg String.toList h
    rw [toList_render, toList_render, hopening] at h
    exact List.append_cancel_left h
  have hread := readArguments_writtenArguments hc
  rw [htext, readArguments_writtenArguments hd] at hread
  exact (Option.some.inj hread).symm

end SiteRouter.Script
