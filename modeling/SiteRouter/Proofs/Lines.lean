import SiteRouter.Files.Tree
import SiteRouter.Proofs.AddressText
import SiteRouter.Proofs.Writing
import SiteRouter.Script.Save

/-!
# The lines of a script

A script is written line by line, and what a value or a comment holds must not change how many lines
there are. `Script.lines` is the sequence of lines as texts, and `StandsAfter` says of a line where
it stands: in which section, under which number, and behind which other lines.

`Script.write_exact` says what the writer comes to in these terms. A text is written exactly when
the console can take every line, and splitting the text at line feeds gives the lines back; else the
answer is the first line that it cannot take, with its place, and saving the script changes no file.
-/

namespace SiteRouter

section Split

variable {α β : Type} {before after : List β} {y : β}

/-- An item of two lists stands in the first, or in the second behind all of the first. -/
theorem split_append {xs ys : List β} (h : xs ++ ys = before ++ y :: after) :
    (∃ rest, xs = before ++ y :: rest) ∨
      ∃ above, before = xs ++ above ∧ ys = above ++ y :: after := by
  rw [List.append_eq_append_iff] at h
  rcases h with ⟨above, hbefore, hys⟩ | ⟨own, hxs, hown⟩
  · exact Or.inr ⟨above, hbefore, hys⟩
  · cases own with
    | nil =>
      rw [List.append_nil] at hxs
      exact Or.inr ⟨[], by rw [List.append_nil, hxs], hown.symm⟩
    | cons z own =>
      obtain ⟨rfl, -⟩ := List.cons.inj hown
      exact Or.inl ⟨own, hxs⟩

/-- An item of a list of runs stands in one of them, behind all of the earlier ones. -/
theorem split_flatMap {g : α → List β} {xs : List α} (h : xs.flatMap g = before ++ y :: after) :
    ∃ front x back above below, xs = front ++ x :: back ∧ g x = above ++ y :: below ∧
      before = front.flatMap g ++ above := by
  induction xs generalizing before with
  | nil => exact absurd h (by simp)
  | cons x xs ih =>
    rw [List.flatMap_cons] at h
    rcases split_append h with ⟨below, hown⟩ | ⟨rest, rfl, hrest⟩
    · exact ⟨[], x, xs, before, below, rfl, hown, rfl⟩
    · obtain ⟨front, z, back, above, below, rfl, hz, rfl⟩ := ih hrest
      refine ⟨x :: front, z, back, above, below, rfl, hz, ?_⟩
      rw [List.flatMap_cons, List.append_assoc]

/-- An item that is made from a numbered one has as many before it as its number says. -/
theorem split_map_zipIdx {f : α × Nat → β} {xs : List α}
    (h : xs.zipIdx.map f = before ++ y :: after) : ∃ front x back,
      xs = front ++ x :: back ∧ before = front.zipIdx.map f ∧ y = f (x, front.length) := by
  obtain ⟨first, second, hzip, rfl, hsecond⟩ := List.map_eq_append_iff.mp h
  obtain ⟨item, last, rfl, rfl, -⟩ := List.map_eq_cons_iff.mp hsecond
  obtain ⟨front, rear, rfl, rfl, hrear⟩ := List.zipIdx_eq_append_iff.mp hzip
  obtain ⟨x, back, rfl, rfl, -⟩ := List.zipIdx_eq_cons_iff.mp hrear.symm
  exact ⟨front, x, back, rfl, rfl, by rw [Nat.zero_add]⟩

end Split

namespace Script

/-- The lines of a section, its banner first. -/
def Section.texts (sec : Section) : List String :=
  ("# --- " ++ sec.name ++ " ---") :: sec.lines.map Line.render

/-- The lines of the script, in order and without their line ends. -/
def lines (s : Script) : List String :=
  s.header.map ("# " ++ ·) ++ s.sections.flatMap Section.texts

/-- The line stands in the script behind the given ones: in the header, as the banner of a section,
or as one of its lines, which count from 1. -/
inductive StandsAfter (s : Script) : List String → Placed → Prop where
  | header (front back : List String) (text : String) (split : s.header = front ++ text :: back) :
      s.StandsAfter (front.map ("# " ++ ·)) ⟨"header", 0, "# " ++ text⟩
  | banner (front back : List Section) (sec : Section) (split : s.sections = front ++ sec :: back) :
      s.StandsAfter (s.header.map ("# " ++ ·) ++ front.flatMap Section.texts)
        ⟨sec.name, 0, "# --- " ++ sec.name ++ " ---"⟩
  | line (front back : List Section) (sec : Section) (above below : List Line) (line : Line)
      (split : s.sections = front ++ sec :: back) (own : sec.lines = above ++ line :: below) :
      s.StandsAfter
        (s.header.map ("# " ++ ·) ++ front.flatMap Section.texts ++
          ("# --- " ++ sec.name ++ " ---") :: above.map Line.render)
        ⟨sec.name, above.length + 1, line.render⟩

/-! ## Places -/

/-- A numbered line with its section. -/
def placeIn (name : String) : Line × Nat → Placed := fun (line, i) => ⟨name, i + 1, line.render⟩

theorem map_text_lines (name : String) (lines : List Line) :
    (lines.zipIdx.map (placeIn name)).map Placed.text = lines.map Line.render := by
  have hfst := congrArg (List.map Line.render) (List.zipIdx_map_fst 0 lines)
  rw [List.map_map] at hfst ⊢
  exact hfst

theorem Section.map_text_placed (sec : Section) : sec.placed.map Placed.text = sec.texts :=
  congrArg (("# --- " ++ sec.name ++ " ---") :: ·) (map_text_lines sec.name sec.lines)

theorem map_text_flatMap_placed (secs : List Section) :
    (secs.flatMap Section.placed).map Placed.text = secs.flatMap Section.texts := by
  rw [List.map_flatMap]
  simp only [Section.map_text_placed]

theorem map_text_header (texts : List String) :
    (texts.map fun text => (⟨"header", 0, headerLine text⟩ : Placed)).map Placed.text =
      texts.map ("# " ++ ·) := by
  rw [List.map_map]
  rfl

theorem map_text_placed (s : Script) : s.placed.map Placed.text = s.lines := by
  rw [placed, List.map_append, map_text_header, map_text_flatMap_placed, lines]

/-- A line stands behind those that are written before it. -/
theorem standsAfter_of_split {s : Script} {before after : List Placed} {p : Placed}
    (h : s.placed = before ++ p :: after) : s.StandsAfter (before.map Placed.text) p := by
  rw [placed] at h
  -- The line stands in the header, or in a section, where the banner is first.
  rcases split_append h with ⟨rest, hheader⟩ | ⟨inner, rfl, hsections⟩
  · obtain ⟨front, rear, hsplit, rfl, hrear⟩ := List.map_eq_append_iff.mp hheader
    obtain ⟨text, back, rfl, rfl, -⟩ := List.map_eq_cons_iff.mp hrear
    rw [map_text_header]
    exact .header front back text hsplit
  · obtain ⟨front, sec, back, above, below, hsplit, hown, rfl⟩ := split_flatMap hsections
    rw [List.map_append, List.map_append, map_text_header, map_text_flatMap_placed]
    cases above with
    | nil =>
      obtain ⟨rfl, -⟩ := List.cons.inj hown
      rw [List.map_nil, List.append_nil]
      exact .banner front back sec hsplit
    | cons banner above =>
      obtain ⟨rfl, hlines⟩ := List.cons.inj hown
      obtain ⟨earlier, line, later, hsec, rfl, rfl⟩ :=
        split_map_zipIdx (f := placeIn sec.name) hlines
      rw [List.map_cons, map_text_lines, ← List.append_assoc]
      exact .line front back sec earlier later line hsplit hsec

/-- A line is written behind those that it stands behind. -/
theorem StandsAfter.exists_split {s : Script} {earlier : List String} {p : Placed}
    (h : s.StandsAfter earlier p) :
    ∃ before after, s.placed = before ++ p :: after ∧ before.map Placed.text = earlier := by
  let header := fun (texts : List String) =>
    texts.map fun text => (⟨"header", 0, headerLine text⟩ : Placed)
  cases h with
  | header front back text split =>
    refine ⟨header front, header back ++ s.sections.flatMap Section.placed, ?_,
      map_text_header front⟩
    rw [placed, split, List.map_append, List.append_assoc]
    rfl
  | banner front back sec split =>
    refine ⟨header s.header ++ front.flatMap Section.placed,
      sec.lines.zipIdx.map (placeIn sec.name) ++ back.flatMap Section.placed, ?_, ?_⟩
    · rw [placed, split, List.flatMap_append, ← List.append_assoc]
      rfl
    · rw [List.map_append, map_text_header, map_text_flatMap_placed]
  | line front back sec above below line split own =>
    refine ⟨header s.header ++ front.flatMap Section.placed ++
        ⟨sec.name, 0, sec.banner⟩ :: above.zipIdx.map (placeIn sec.name),
      (below.zipIdx (above.length + 1)).map (placeIn sec.name) ++ back.flatMap Section.placed,
      ?_, ?_⟩
    · have hown : sec.placed = ⟨sec.name, 0, sec.banner⟩ :: above.zipIdx.map (placeIn sec.name) ++
          ⟨sec.name, above.length + 1, line.render⟩ ::
            (below.zipIdx (above.length + 1)).map (placeIn sec.name) := by
        rw [Section.placed, own, List.zipIdx_append, List.zipIdx_cons, List.map_append,
          List.map_cons, Nat.zero_add]
        rfl
      rw [placed, split, List.flatMap_append, List.flatMap_cons, hown, List.append_assoc,
        List.append_assoc, List.append_assoc]
      rfl
    · rw [List.map_append, List.map_append, map_text_header, map_text_flatMap_placed,
        List.map_cons, map_text_lines]
      rfl

/-! ## Texts -/

theorem isConsoleChar_iff {c : Char} :
    isConsoleChar c = true ↔ 0x20 ≤ c.toNat ∧ c.toNat ≤ 0x7e := by
  rw [isConsoleChar, Bool.and_eq_true, decide_eq_true_iff, decide_eq_true_iff]
  rfl

/-- Lines without line feeds are found between the line feeds. -/
theorem fieldsAt_join {lines : List String} (h : ∀ line ∈ lines, '\n' ∉ line.toList) :
    Text.fieldsAt '\n' (String.join (lines.map (· ++ "\n"))).toList =
      lines.map String.toList ++ [[]] := by
  rw [String.toList_join, List.flatMap_map]
  induction lines with
  | nil => rfl
  | cons line lines ih =>
    rw [List.forall_mem_cons] at h
    rw [List.flatMap_cons, String.toList_append, List.append_assoc, List.map_cons, List.cons_append,
      ← ih h.2]
    exact Text.fieldsAt_append h.1

/-! ## Writing -/

/-- A script is written as the text of its lines when the console can take all of them. -/
theorem write_eq_ok_iff {s : Script} {text : String} : s.write = .ok text ↔
    (∀ line ∈ s.lines, IsPrintable line) ∧ text = String.join (s.lines.map (· ++ "\n")) := by
  have hsafe : (∀ line ∈ s.lines, IsPrintable line) ↔ ∀ p ∈ s.placed, p.isSafe = true := by
    rw [← map_text_placed, List.forall_mem_map]
    exact forall₂_congr fun p _ => Placed.isSafe_iff.symm
  have htext : s.placed.map (fun p => p.text ++ "\n") = s.lines.map (· ++ "\n") := by
    rw [← map_text_placed, List.map_map]
    rfl
  rw [hsafe, write, htext]
  split
  next p hp =>
    refine iff_of_false nofun fun h => ?_
    have hrefused := List.find?_some hp
    rw [h.1 p (List.mem_of_find?_eq_some hp)] at hrefused
    exact Bool.false_ne_true hrefused
  next hnone =>
    rw [Except.ok.injEq, eq_comm]
    refine (and_iff_right fun p hp => ?_).symm
    simpa using List.find?_eq_none.mp hnone p hp

/-- A text that is written is found to hold the lines of its script. -/
theorem fieldsAt_of_write_eq_ok {s : Script} {text : String} (h : s.write = .ok text) :
    Text.fieldsAt '\n' text.toList = s.lines.map String.toList ++ [[]] := by
  obtain ⟨hlines, rfl⟩ := write_eq_ok_iff.mp h
  refine fieldsAt_join fun line hline hfeed => ?_
  exact absurd (hlines line hline '\n' hfeed) (by decide)

theorem write_eq_error_iff_find? {s : Script} {p : Placed} :
    s.write = .error p ↔ s.placed.find? (fun p => !p.isSafe) = some p := by
  unfold write
  cases s.placed.find? fun p => !p.isSafe with
  | some q => rw [Except.error.injEq, Option.some.injEq]
  | none => exact iff_of_false nofun nofun

/-- A script is refused for the first line that the console cannot take. -/
theorem write_eq_error_iff {s : Script} {p : Placed} : s.write = .error p ↔
    ∃ earlier, s.StandsAfter earlier p ∧ ¬IsPrintable p.text ∧
      ∀ line ∈ earlier, IsPrintable line := by
  rw [write_eq_error_iff_find?, List.find?_eq_some_iff_append]
  simp only [Bool.not_eq_true', Bool.not_not, ← Bool.not_eq_true, Placed.isSafe_iff]
  constructor
  · rintro ⟨hrefused, before, after, hplaced, hbefore⟩
    exact ⟨_, standsAfter_of_split hplaced, hrefused, List.forall_mem_map.mpr hbefore⟩
  · rintro ⟨earlier, hstands, hrefused, hearlier⟩
    obtain ⟨before, after, hplaced, rfl⟩ := hstands.exists_split
    exact ⟨hrefused, before, after, hplaced, List.forall_mem_map.mp hearlier⟩

/-- A script that is refused is saved nowhere: none of the actions on files is taken. -/
theorem save_of_write_eq_error {m : Type → Type} [Monad m] {s : Script} {p : Placed}
    (h : s.write = .error p) (files : FileAccess m) (path : String) :
    s.save files path = pure (.error (.refused p)) := by
  rw [save, h]

/-- **The writer is exact.** A text comes out exactly when every character of every line is one that
the console takes; it is then the lines with a line feed behind each, and splitting it at line feeds
gives the lines back, with nothing behind the last one. Else the first line with another character
comes out, with its place, and saving the script leaves all files as they are. -/
theorem write_exact (s : Script) :
    (∀ text, s.write = .ok text ↔
      (∀ line ∈ s.lines, ∀ c ∈ line.toList, 0x20 ≤ c.toNat ∧ c.toNat ≤ 0x7e) ∧
        text = String.join (s.lines.map (· ++ "\n"))) ∧
    (∀ text, s.write = .ok text →
      Text.fieldsAt '\n' text.toList = s.lines.map String.toList ++ [[]]) ∧
    (∀ p, s.write = .error p ↔ ∃ earlier, s.StandsAfter earlier p ∧
      (∃ c ∈ p.text.toList, ¬(0x20 ≤ c.toNat ∧ c.toNat ≤ 0x7e)) ∧
        ∀ line ∈ earlier, ∀ c ∈ line.toList, 0x20 ≤ c.toNat ∧ c.toNat ≤ 0x7e) ∧
    ∀ p, s.write = .error p → ∀ (path : String) (files : FileTree),
      (s.save FileTree.access path).run files = (.error (.refused p), files) := by
  have hprintable : ∀ line : String,
      IsPrintable line ↔ ∀ c ∈ line.toList, 0x20 ≤ c.toNat ∧ c.toNat ≤ 0x7e :=
    fun line => forall₂_congr fun c _ => isConsoleChar_iff
  refine ⟨fun text => ?_, fun text h => fieldsAt_of_write_eq_ok h, fun p => ?_,
    fun p h path files => ?_⟩
  · rw [write_eq_ok_iff]
    simp only [hprintable]
  · rw [write_eq_error_iff]
    simp only [hprintable, Classical.not_forall, exists_prop]
  · rw [save_of_write_eq_error h]
    rfl

end Script

end SiteRouter
