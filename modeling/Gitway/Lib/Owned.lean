import Mathlib.Logic.Function.Basic

/-!
# Directories and their owners

What stands at the places of a Unix file system, with its owner and its mode, and the calls
that make a directory and that change a mode. A place is given by the names on the way to
it, the innermost first.

Names that stand on the way are taken to be open to the search of everybody. Whether entries
can be made in a directory is up to its owner, its mode and whatever else the kernel asks.
-/
namespace Lib.Owned

inductive Kind where
  | directory
  | link
  | other
  deriving DecidableEq, Repr

structure Entry where
  kind : Kind
  owner : Nat
  mode : Nat
  deriving DecidableEq, Repr

structure User where
  uid : Nat
  umask : Nat
  /-- Whether the user may make entries in such a directory. -/
  mayWrite : Entry → Bool

inductive Errno where
  | noEntry
  | alreadyExists
  | notDirectory
  | denied
  deriving DecidableEq, Repr

/-- `entry` is what `lstat` reports of a place, and `leadsTo` the place at which the links
from there end. -/
structure Tree (Name : Type) where
  entry : List Name → Option Entry
  leadsTo : List Name → List Name
  straight : ∀ place, (∀ e, entry place = some e → e.kind ≠ .link) → leadsTo place = place
  ends : ∀ place e, entry (leadsTo place) = some e → e.kind ≠ .link

variable {Name : Type} [DecidableEq Name]

/-- What `stat` reports of a place. -/
def Tree.stat (t : Tree Name) (place : List Name) : Option Entry := t.entry (t.leadsTo place)

def Tree.isDir (t : Tree Name) (place : List Name) : Bool :=
  match t.stat place with
  | some e => decide (e.kind = .directory)
  | none => false

/-- Put something at a place where no link stands. -/
def Tree.put (t : Tree Name) (place : List Name) (e : Entry) (plain : e.kind ≠ .link)
    (free : ∀ old, t.entry place = some old → old.kind ≠ .link) : Tree Name where
  entry := Function.update t.entry place (some e)
  leadsTo := t.leadsTo
  straight := by
    intro q unlinked
    by_cases here : q = place
    · exact t.straight q (here ▸ free)
    · exact t.straight q (by simpa only [Function.update_of_ne here] using unlinked)
  ends := by
    intro q found at_end
    by_cases here : t.leadsTo q = place
    · rw [here, Function.update_self, Option.some.injEq] at at_end
      exact at_end ▸ plain
    · rw [Function.update_of_ne here] at at_end
      exact t.ends q found at_end

/-! ### Calls -/

/-- A directory that the user makes, before anything else is done to it: the bits of the
mask are missing in its mode. -/
def User.newDirectory (u : User) : Entry := ⟨.directory, u.uid, 0o777 - (0o777 &&& u.umask)⟩

/-- Whether the user may change the mode of something. -/
def User.mayChange (u : User) (e : Entry) : Bool := decide (e.owner = u.uid ∨ u.uid = 0)

def mkdir (u : User) (place : List Name) (t : Tree Name) : Except Errno Unit × Tree Name :=
  match place with
  | [] => (.error .alreadyExists, t)
  | name :: above =>
    match there : t.entry (name :: above) with
    | some _ => (.error .alreadyExists, t)
    | none =>
      match t.stat above with
      | none => (.error .noEntry, t)
      | some dir =>
        if dir.kind ≠ .directory then (.error .notDirectory, t)
        else if u.mayWrite dir then
          (.ok (), t.put (name :: above) u.newDirectory (by simp [User.newDirectory])
            (by simp [there]))
        else (.error .denied, t)

/-- A directory that is there counts as made. -/
def orIsDir (place : List Name) (made : Except Errno Unit × Tree Name) :
    Except Errno Unit × Tree Name :=
  match made.1 with
  | .ok () => made
  | .error _ => if made.2.isDir place then (.ok (), made.2) else made

/-- Make a directory, and the directories above it that are missing. -/
def createDirAll (u : User) : List Name → Tree Name → Except Errno Unit × Tree Name
  | [], t => orIsDir [] (mkdir u [] t)
  | name :: above, t =>
    match (mkdir u (name :: above) t).1 with
    | .error .noEntry =>
      match (createDirAll u above t).1 with
      | .ok () => orIsDir (name :: above) (mkdir u (name :: above) (createDirAll u above t).2)
      | .error e => (.error e, (createDirAll u above t).2)
    | _ => orIsDir (name :: above) (mkdir u (name :: above) t)

/-- `chmod`. It goes to where the links end. -/
def setMode (u : User) (place : List Name) (mode : Nat) (t : Tree Name) :
    Except Errno Unit × Tree Name :=
  match there : t.stat place with
  | none => (.error .noEntry, t)
  | some e =>
    if u.mayChange e then
      (.ok (), t.put (t.leadsTo place) { e with mode := mode } (t.ends place e there)
        (fun old found => t.ends place old found))
    else (.error .denied, t)

/-! ### What the calls do -/

section
omit [DecidableEq Name]

theorem Tree.stat_of_entry {t : Tree Name} {place : List Name} {e : Entry}
    (there : t.entry place = some e) (plain : e.kind ≠ .link) :
    t.leadsTo place = place ∧ t.stat place = some e := by
  have straight : t.leadsTo place = place := t.straight place (by simp [there, plain])
  exact ⟨straight, by rw [Tree.stat, straight, there]⟩

theorem Tree.stat_of_absent {t : Tree Name} {place : List Name} (absent : t.entry place = none) :
    t.stat place = none := by
  have straight : t.leadsTo place = place := t.straight place (by simp [absent])
  rw [Tree.stat, straight, absent]

/-- A link leads away from its place. -/
theorem Tree.leadsTo_ne {t : Tree Name} {place : List Name} {e : Entry}
    (there : t.entry place = some e) (link : e.kind = .link) : t.leadsTo place ≠ place := by
  intro still
  have ends := t.ends place e
  rw [still] at ends
  exact ends there link

end

section
variable {u : User} {t : Tree Name} {place : List Name}

omit [DecidableEq Name] in
@[simp] theorem orIsDir_tree (made : Except Errno Unit × Tree Name) :
    (orIsDir place made).2 = made.2 := by
  unfold orIsDir
  split
  · rfl
  · split <;> rfl

omit [DecidableEq Name] in
theorem orIsDir_ok_iff (made : Except Errno Unit × Tree Name) :
    (orIsDir place made).1 = .ok () ↔ made.1 = .ok () ∨ made.2.isDir place = true := by
  unfold orIsDir
  split
  next done => simp [done]
  next e failed =>
    split
    next dir => simp [dir]
    next other => simp [failed, other]

/-- The user may make an entry in what stands at this place. -/
def Open (u : User) (t : Tree Name) (place : List Name) : Prop :=
  ∃ dir, t.stat place = some dir ∧ dir.kind = .directory ∧ u.mayWrite dir = true

/-- A directory is made where nothing stands and the one above is open. -/
theorem mkdir_made {name : Name} {above : List Name} (absent : t.entry (name :: above) = none)
    (free : Open u t above) :
    (mkdir u (name :: above) t).1 = .ok () ∧
      (mkdir u (name :: above) t).2.entry =
        Function.update t.entry (name :: above) (some u.newDirectory) := by
  obtain ⟨dir, found, kind, write⟩ := free
  simp only [mkdir]
  split
  next e there => exact absurd (absent.symm.trans there) (by simp)
  next there => simp [found, kind, write, Tree.put]

variable (u t place) in
/-- Everywhere else nothing is made, and the call says so. -/
theorem mkdir_refused (blocked : ∀ name above, place = name :: above →
      t.entry place ≠ none ∨ ¬ Open u t above) :
    (mkdir u place t).1 ≠ .ok () ∧ (mkdir u place t).2 = t := by
  unfold mkdir
  split
  · simp
  next name above =>
    split
    · simp
    next there =>
      have shut := (blocked name above rfl).resolve_left (by simp [there])
      split
      · simp
      next dir found =>
        split
        · simp
        next kind =>
          rw [not_not] at kind
          split
          next write => exact absurd ⟨dir, found, kind, write⟩ shut
          · simp

theorem mkdir_other {q : List Name} (other : q ≠ place) :
    (mkdir u place t).2.entry q = t.entry q := by
  unfold mkdir
  split
  · rfl
  · split
    · rfl
    · split
      · rfl
      · split
        · rfl
        · split
          · exact Function.update_of_ne other _ _
          · rfl

theorem mkdir_noEntry_iff {name : Name} {above : List Name}
    (absent : t.entry (name :: above) = none) :
    (mkdir u (name :: above) t).1 = .error .noEntry ↔ t.stat above = none := by
  simp only [mkdir]
  split
  next e there => exact absurd (absent.symm.trans there) (by simp)
  next there =>
    cases t.stat above with
    | none => simp
    | some dir =>
      simp only [reduceCtorEq, iff_false]
      split
      · simp
      · split <;> simp

/-! ### Making a directory with all that is above it -/

/-- Nothing stands at the place, and it can be made: the directory above is open, or it can be
made as well and lets its maker in. -/
def Makeable (u : User) (t : Tree Name) : List Name → Prop
  | [] => False
  | name :: above => t.entry (name :: above) = none ∧
      (Open u t above ∨ Makeable u t above ∧ u.mayWrite u.newDirectory = true)

omit [DecidableEq Name] in
theorem Makeable.absent (makeable : Makeable u t place) : t.entry place = none := by
  cases place with
  | nil => exact makeable.elim
  | cons name above => exact makeable.1

/-- What is there stays as it is. -/
theorem createDirAll_present (there : t.entry place ≠ none) :
    (createDirAll u place t).2 = t ∧
      ((createDirAll u place t).1 = .ok () ↔ t.isDir place = true) := by
  obtain ⟨refused, same⟩ := mkdir_refused u t place
    fun _ _ _ => Or.inl there
  suffices direct : createDirAll u place t = orIsDir place (mkdir u place t) by
    rw [direct, orIsDir_tree, orIsDir_ok_iff, same]
    simp [refused]
  cases place with
  | nil => rfl
  | cons name above =>
    have found : (mkdir u (name :: above) t).1 ≠ .error .noEntry := by
      simp only [mkdir]
      split
      · simp
      next absent => exact absurd absent there
    unfold createDirAll
    split
    next missing => exact absurd missing found
    · rfl

/-- Only the place and what is above it can come into being. -/
theorem createDirAll_frame (q : List Name) (deeper : place.length < q.length) :
    (createDirAll u place t).2.entry q = t.entry q := by
  induction place generalizing t with
  | nil =>
    simp only [createDirAll, orIsDir_tree]
    exact mkdir_other (by rintro rfl; simp at deeper)
  | cons name above ih =>
    have other : q ≠ name :: above := by
      rintro rfl
      exact absurd deeper (Nat.lt_irrefl _)
    have higher : above.length < q.length := Nat.lt_of_succ_lt deeper
    simp only [createDirAll]
    split
    · split
      · rw [orIsDir_tree, mkdir_other other, ih higher]
      · exact ih higher
    · rw [orIsDir_tree, mkdir_other other]

/-- Where nothing stands a directory of the user is made, or nothing. -/
theorem createDirAll_absent (absent : t.entry place = none) :
    (Makeable u t place → (createDirAll u place t).1 = .ok () ∧
      (createDirAll u place t).2.entry place = some u.newDirectory) ∧
    (¬ Makeable u t place → (createDirAll u place t).1 ≠ .ok () ∧
      (createDirAll u place t).2.entry place = none) := by
  induction place with
  | nil =>
    have nothing : t.isDir [] = false := by simp [Tree.isDir, Tree.stat_of_absent absent]
    refine ⟨False.elim, fun _ => ?_⟩
    simp only [createDirAll, orIsDir_tree, ne_eq, orIsDir_ok_iff]
    simp [mkdir, nothing, absent]
  | cons name above ih =>
    by_cases free : Open u t above
    · obtain ⟨made, after⟩ := mkdir_made absent free
      have direct : createDirAll u (name :: above) t =
          orIsDir (name :: above) (mkdir u (name :: above) t) := by
        simp only [createDirAll]
        split
        next missing => exact absurd (made.symm.trans missing) (by simp)
        · rfl
      rw [direct, orIsDir_tree, ne_eq, orIsDir_ok_iff, after, Function.update_self]
      exact ⟨fun _ => ⟨Or.inl made, rfl⟩, fun not => absurd ⟨absent, Or.inl free⟩ not⟩
    · obtain ⟨refused, same⟩ := mkdir_refused u t (name :: above)
        (by rintro _ _ ⟨⟩; exact Or.inr free)
      -- The one above is not open, so it would have to be made first.
      have makeable_iff : Makeable u t (name :: above) ↔
          Makeable u t above ∧ u.mayWrite u.newDirectory = true := by
        simp [Makeable, absent, free]
      have nothing {t' : Tree Name} (absent : t'.entry (name :: above) = none) :
          t'.isDir (name :: above) = false := by simp [Tree.isDir, Tree.stat_of_absent absent]
      rw [makeable_iff]
      cases missing : t.stat above with
      | some dir =>
        have blocked : ¬ Makeable u t above := fun makeable =>
          absurd (missing.symm.trans (Tree.stat_of_absent makeable.absent)) (by simp)
        have direct : createDirAll u (name :: above) t =
            orIsDir (name :: above) (mkdir u (name :: above) t) := by
          simp only [createDirAll]
          split
          next gone =>
            rw [mkdir_noEntry_iff absent] at gone
            exact absurd (missing.symm.trans gone) (by simp)
          · rfl
        rw [direct, orIsDir_tree, ne_eq, orIsDir_ok_iff, same]
        simp [blocked, refused, nothing absent, absent]
      | none =>
        have gone : (mkdir u (name :: above) t).1 = .error .noEntry :=
          (mkdir_noEntry_iff absent).mpr missing
        have frame : (createDirAll u above t).2.entry (name :: above) = none :=
          (createDirAll_frame _ (Nat.lt_succ_self _)).trans absent
        simp only [createDirAll, gone]
        by_cases upper_absent : t.entry above = none
        · by_cases makeable : Makeable u t above
          · obtain ⟨made, upper⟩ := (ih upper_absent).1 makeable
            have found := Tree.stat_of_entry upper (by simp [User.newDirectory])
            have open_iff : Open u (createDirAll u above t).2 above ↔
                u.mayWrite u.newDirectory = true := by
              simp [Open, found.2, User.newDirectory]
            simp only [made]
            rw [orIsDir_tree, ne_eq, orIsDir_ok_iff]
            by_cases admitted : u.mayWrite u.newDirectory = true
            · obtain ⟨ok, after⟩ := mkdir_made frame (open_iff.mpr admitted)
              rw [after, Function.update_self]
              exact ⟨fun _ => ⟨Or.inl ok, rfl⟩, fun not => absurd ⟨makeable, admitted⟩ not⟩
            · obtain ⟨not_ok, still⟩ := mkdir_refused u (createDirAll u above t).2 (name :: above)
                (by rintro _ _ ⟨⟩; exact Or.inr (open_iff.not.mpr admitted))
              rw [still]
              simp [admitted, not_ok, nothing frame, frame]
          · obtain ⟨not_made, -⟩ := (ih upper_absent).2 makeable
            split
            next made => exact absurd made not_made
            · simp [makeable, frame]
        · have blocked : ¬ Makeable u t above := fun makeable => upper_absent makeable.absent
          have not_made : (createDirAll u above t).1 ≠ .ok () := by
            rw [ne_eq, (createDirAll_present upper_absent).2]
            simp [Tree.isDir, missing]
          split
          next made => exact absurd made not_made
          · simp [blocked, frame]

/-! ### Making a directory one's own -/

/-- A mode is changed by the owner, and not at the place of a link. -/
theorem setMode_entry (mode : Nat) :
    (setMode u place mode t).2.entry place =
      (t.entry place).map fun e =>
        if e.kind ≠ .link ∧ u.mayChange e = true then { e with mode := mode } else e := by
  cases there : t.entry place with
  | none =>
    unfold setMode
    split
    · exact there
    next e found => exact absurd (found.symm.trans (Tree.stat_of_absent there)) (by simp)
  | some e =>
    by_cases link : e.kind = .link
    · -- The mode changes elsewhere, if at all.
      have away := Tree.leadsTo_ne there link
      unfold setMode
      split
      · simp [there, link]
      · split
        · simp [Tree.put, Function.update_of_ne away.symm, there, link]
        · simp [there, link]
    · obtain ⟨straight, found⟩ := Tree.stat_of_entry there link
      unfold setMode
      split
      next gone => exact absurd (gone.symm.trans found) (by simp)
      next e' found' =>
        obtain rfl : e = e' := Option.some.inj (found.symm.trans found')
        split
        next change => simp [Tree.put, straight, link, change]
        next change => simp [there, change]

/-- A place that the user can make a directory of his own: he owns the directory there, or
nothing is there and one can be made. -/
def Claimable (u : User) (t : Tree Name) (place : List Name) : Prop :=
  (∃ e, t.entry place = some e ∧ e.kind = .directory ∧ e.owner = u.uid) ∨ Makeable u t place

/-- Making a directory and setting its mode, with the answers of both calls dropped, leaves a
directory of the user with this mode exactly where the place could be claimed. -/
theorem claimed_iff (mode : Nat) :
    (setMode u place mode (createDirAll u place t).2).2.entry place =
      some ⟨.directory, u.uid, mode⟩ ↔ Claimable u t place := by
  rw [setMode_entry]
  unfold Claimable
  cases there : t.entry place with
  | none =>
    obtain ⟨made, not_made⟩ := createDirAll_absent (u := u) there
    by_cases makeable : Makeable u t place
    · rw [(made makeable).2]
      simp [makeable, User.newDirectory, User.mayChange]
    · rw [(not_made makeable).2]
      simp [makeable]
  | some e =>
    have kept : (createDirAll u place t).2 = t := (createDirAll_present (by simp [there])).1
    have no_room : ¬ Makeable u t place := fun makeable =>
      absurd (there.symm.trans makeable.absent) (by simp)
    rw [kept, there]
    simp only [Option.map_some, Option.some.injEq, no_room, or_false, exists_eq_left']
    split
    next changed =>
      constructor
      · intro owned
        simp only [Entry.mk.injEq, and_true] at owned
        exact owned
      · rintro ⟨kind, owner⟩
        rw [kind, owner]
    next unchanged =>
      constructor
      · rintro rfl
        exact ⟨rfl, rfl⟩
      · -- The owner of a directory may change its mode.
        rintro ⟨kind, owner⟩
        exact absurd ⟨by simp [kind], by simp [User.mayChange, owner]⟩ unchanged

end

end Lib.Owned
