import SiteRouter.Proofs.Compilation
import SiteRouter.Proofs.Lines
import SiteRouter.Proofs.Printing

/-!
# The time of generation

A script says when it was generated in one comment, which is its third line. Neither the check nor
the planners look at the time, and the comment is always a line that the console takes, so that the
writer never refuses a script because of it (`Script.write_eq_error_congr`).

`compile_agrees_over_time` sets two compilations side by side that differ in the time alone: they
fail for the same reason, or they come to the same plan, the same commands, and texts with the same
lines except the third.
-/

namespace SiteRouter

open Script

/-- The texts have the same number of lines, and the same line at every index but one. -/
structure Text.AgreeExceptAt (k : Nat) (s t : String) : Prop where
  length_eq : (fieldsAt '\n' s.toList).length = (fieldsAt '\n' t.toList).length
  line_eq : ∀ i, i ≠ k → (fieldsAt '\n' s.toList)[i]? = (fieldsAt '\n' t.toList)[i]?

/-! ## Scripts that differ in one line -/

section

variable {α : Type} {front back : List α}

theorem getElem?_append_cons_of_ne (x y : α) {k : Nat} (h : k ≠ front.length) :
    (front ++ x :: back)[k]? = (front ++ y :: back)[k]? := by
  rw [List.getElem?_append, List.getElem?_append]
  split
  next => rfl
  next hk =>
    obtain ⟨j, hj⟩ : ∃ j, k - front.length = j + 1 := ⟨k - front.length - 1, by omega⟩
    rw [hj, List.getElem?_cons_succ, List.getElem?_cons_succ]

/-- The search passes over an item that it does not look for. -/
theorem find?_append_cons_of_neg {p : α → Bool} {x : α} (h : ¬p x = true) :
    (front ++ x :: back).find? p = (front ++ back).find? p := by
  rw [List.find?_append, List.find?_append, List.find?_cons_of_neg h]

end

namespace Script

variable {a b : Script} {front back : List Placed} {x y : Placed} {text text' : String}

/-- A line that the console takes does not matter for what is refused. -/
theorem write_eq_error_congr (ha : a.placed = front ++ x :: back)
    (hb : b.placed = front ++ y :: back) (hx : x.isSafe = true) (hy : y.isSafe = true)
    (p : Placed) : a.write = .error p ↔ b.write = .error p := by
  rw [write_eq_error_iff_find?, write_eq_error_iff_find?, ha, hb,
    find?_append_cons_of_neg (by simp [hx]), find?_append_cons_of_neg (by simp [hy])]

/-- The lines of a written text, one of them singled out. -/
theorem fieldsAt_of_placed (ha : a.placed = front ++ x :: back) (h : a.write = .ok text) :
    Text.fieldsAt '\n' text.toList = front.map (·.text.toList) ++
      x.text.toList :: (back.map (·.text.toList) ++ [[]]) := by
  rw [fieldsAt_of_write_eq_ok h, ← map_text_placed, ha, List.map_map, List.map_append,
    List.map_cons, List.append_assoc]
  rfl

/-- **Scripts that differ in a line that the console takes** are written as texts that differ in
that line. -/
theorem agreeExceptAt_of_write (ha : a.placed = front ++ x :: back)
    (hb : b.placed = front ++ y :: back) (htext : a.write = .ok text)
    (htext' : b.write = .ok text') : Text.AgreeExceptAt front.length text text' where
  length_eq := by
    rw [fieldsAt_of_placed ha htext, fieldsAt_of_placed hb htext']
    simp
  line_eq i hi := by
    rw [fieldsAt_of_placed ha htext, fieldsAt_of_placed hb htext']
    exact getElem?_append_cons_of_ne _ _ (by simpa using hi)

end Script

/-! ## The comment -/

/-- The line that says when a script was generated. -/
def generationLine (t : Timestamp) : Placed := ⟨"system", 1, "# generated " ++ t.render⟩

theorem isSafe_generationLine (t : Timestamp) : (generationLine t).isSafe = true := by
  rw [Placed.isSafe_iff]
  simp +decide [generationLine, isPrintable_append]

namespace Blueprint

/-- The time is in the third line and nowhere else. -/
theorem placed_script (b : Blueprint) : ∃ front back, front.length = 2 ∧ ∀ t,
    ({ b with generatedAt := t } : Blueprint).script.placed =
      front ++ generationLine t :: back := by
  -- Before it stand the header and the banner of the first section.
  refine ⟨[⟨"header", 0, headerLine s!"ros-topology configuration for {b.site.identity}"⟩,
    ⟨"system", 0, b.deviceSection.banner⟩],
    b.deviceSection.placed.drop 2 ++ (b.sections.drop 1).flatMap Section.placed, rfl, fun t => ?_⟩
  have hline : (Line.comment s!"generated {t}").render = "# generated " ++ t.render := by
    simp [Line.render, toString, ← String.append_assoc]
  rw [generationLine, ← hline]
  rfl

variable (s : Site) (profile : Profile) (p : Plan) (t t' : Timestamp)

theorem commands_script_eq : (Blueprint.mk s profile p t).script.commands =
    (Blueprint.mk s profile p t').script.commands := rfl

/-- Two scripts of one plan are refused for the same line. -/
theorem write_script_eq_error_iff (line : Placed) :
    (Blueprint.mk s profile p t).script.write = .error line ↔
      (Blueprint.mk s profile p t').script.write = .error line := by
  obtain ⟨front, back, -, hplaced⟩ := (Blueprint.mk s profile p t).placed_script
  exact write_eq_error_congr (hplaced t) (hplaced t') (isSafe_generationLine t)
    (isSafe_generationLine t') line

variable {s profile p t t'}

theorem agreeExceptAt_of_write_script {text text' : String}
    (h : (Blueprint.mk s profile p t).script.write = .ok text)
    (h' : (Blueprint.mk s profile p t').script.write = .ok text') :
    Text.AgreeExceptAt 2 text text' := by
  obtain ⟨front, back, hfront, hplaced⟩ := (Blueprint.mk s profile p t).placed_script
  rw [← hfront]
  exact agreeExceptAt_of_write (hplaced t) (hplaced t') h h'

theorem getElem?_two_of_write_script {text : String}
    (h : (Blueprint.mk s profile p t).script.write = .ok text) :
    (Text.fieldsAt '\n' text.toList)[2]? = some ("# generated " ++ t.render).toList := by
  obtain ⟨front, back, hfront, hplaced⟩ := (Blueprint.mk s profile p t).placed_script
  have hindex : 2 = (front.map (·.text.toList)).length := by rw [List.length_map, hfront]
  rw [fieldsAt_of_placed (hplaced t) h, hindex, List.getElem?_append_right (Nat.le_refl _),
    Nat.sub_self]
  rfl

end Blueprint

/-! ## Compilations -/

/-- **The time of generation is in one line and nowhere else.** Two compilations at different times
fail for the same reason, or they come to the same plan, the same commands, and texts that agree in
all lines but the third, which says the time. -/
theorem compile_agrees_over_time (s : Site) (profile : Profile) (overflow : Overflow)
    (strict : Bool) (t t' : Timestamp) :
    (∃ e, compile s profile ⟨t, overflow, strict⟩ = .error e ∧
      compile s profile ⟨t', overflow, strict⟩ = .error e) ∨
    ∃ out out', compile s profile ⟨t, overflow, strict⟩ = .ok out ∧
      compile s profile ⟨t', overflow, strict⟩ = .ok out' ∧
      out.plan = out'.plan ∧ out.script.commands = out'.script.commands ∧
      Text.AgreeExceptAt 2 out.text out'.text ∧
      (Text.fieldsAt '\n' out.text.toList)[2]? = some ("# generated " ++ t.render).toList ∧
      (Text.fieldsAt '\n' out'.text.toList)[2]? = some ("# generated " ++ t'.render).toList := by
  cases hcheck : s.check profile strict with
  | error e =>
    refine .inl ⟨.site e, ?_, ?_⟩
    · rw [compile, hcheck]
      rfl
    · rw [compile, hcheck]
      rfl
  | ok accepted =>
    cases hplan : Plan.build s profile overflow with
    | error e =>
      refine .inl ⟨.plan e, ?_, ?_⟩
      · rw [compile, hcheck, hplan]
        rfl
      · rw [compile, hcheck, hplan]
        rfl
    | ok p =>
      rw [compile_eq_of_build ⟨t, overflow, strict⟩ hcheck hplan,
        compile_eq_of_build ⟨t', overflow, strict⟩ hcheck hplan]
      have hrefused := Blueprint.write_script_eq_error_iff s profile p t t'
      cases hwrite : (Blueprint.mk s profile p t).script.write with
      | error line =>
        rw [(hrefused line).mp hwrite]
        exact .inl ⟨.script line, rfl, rfl⟩
      | ok text =>
        cases hwrite' : (Blueprint.mk s profile p t').script.write with
        | error line =>
          rw [(hrefused line).mpr hwrite'] at hwrite
          exact absurd hwrite (by simp)
        | ok text' =>
          exact .inr ⟨_, _, rfl, rfl, rfl, Blueprint.commands_script_eq s profile p t t',
            Blueprint.agreeExceptAt_of_write_script hwrite hwrite',
            Blueprint.getElem?_two_of_write_script hwrite,
            Blueprint.getElem?_two_of_write_script hwrite'⟩

end SiteRouter
