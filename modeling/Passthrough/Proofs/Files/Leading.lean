import Passthrough.Files.Tree

set_option autoImplicit false

/-! The rules by which a path leads to a place, one for each way in which a component can be
met. A walk comes to exactly what the rules say, so that what they say is unique. Where a path
is looked up, the rules for its text come first: it has no NUL, is not empty and is not
too long. -/

namespace Passthrough.Files.FileTree

/-- A component that is looked up, rather than a step that stays or goes up. -/
def Named (name : String) : Prop :=
  name ≠ "" ∧ name ≠ "." ∧ name ≠ ".."

/-- Where components lead from a place while a number of links may still be followed. -/
inductive Leads (tree : FileTree) : Nat → Location → List String → Except Errno Location → Prop
  where
  | arrives {links : Nat} {place : Location} : Leads tree links place [] (.ok place)
  | stays {links : Nat} {place : Location} {name : String} {rest : List String}
      {outcome : Except Errno Location} (directory : tree.entry? place = some .directory)
      (step : name = "" ∨ name = ".") (onward : Leads tree links place rest outcome) :
      Leads tree links place (name :: rest) outcome
  | rises {links : Nat} {place : Location} {rest : List String} {outcome : Except Errno Location}
      (directory : tree.entry? place = some .directory)
      (onward : Leads tree links place.dropLast rest outcome) :
      Leads tree links place (".." :: rest) outcome
  | enters {links : Nat} {place : Location} {name : String} {rest : List String} {entry : Entry}
      {outcome : Except Errno Location} (directory : tree.entry? place = some .directory)
      (named : Named name) (short : name.utf8ByteSize ≤ componentLimit)
      (found : tree.entry? (place ++ [name]) = some entry) (plain : ∀ target, entry ≠ .link target)
      (onward : Leads tree links (place ++ [name]) rest outcome) :
      Leads tree links place (name :: rest) outcome
  | follows {links : Nat} {place : Location} {name target : String} {rest : List String}
      {outcome : Except Errno Location} (directory : tree.entry? place = some .directory)
      (named : Named name) (short : name.utf8ByteSize ≤ componentLimit)
      (found : tree.entry? (place ++ [name]) = some (.link target))
      (onward : Leads tree links (if target.startsWith "/" then [] else place)
        (Path.components target ++ rest) outcome) :
      Leads tree (links + 1) place (name :: rest) outcome
  | loops {place : Location} {name target : String} {rest : List String}
      (directory : tree.entry? place = some .directory) (named : Named name)
      (short : name.utf8ByteSize ≤ componentLimit)
      (found : tree.entry? (place ++ [name]) = some (.link target)) :
      Leads tree 0 place (name :: rest) (.error .linkLoop)
  | missing {links : Nat} {place : Location} {name : String} {rest : List String}
      (directory : tree.entry? place = some .directory) (named : Named name)
      (short : name.utf8ByteSize ≤ componentLimit) (absent : tree.entry? (place ++ [name]) = none) :
      Leads tree links place (name :: rest) (.error .noEntry)
  | tooLong {links : Nat} {place : Location} {name : String} {rest : List String}
      (directory : tree.entry? place = some .directory) (named : Named name)
      (long : componentLimit < name.utf8ByteSize) :
      Leads tree links place (name :: rest) (.error .nameTooLong)
  | blocked {links : Nat} {place : Location} {name : String} {rest : List String}
      (other : tree.entry? place ≠ some .directory) :
      Leads tree links place (name :: rest) (.error .notDirectory)

variable {tree : FileTree}

/-- No two rules fit, and none fits in two ways. -/
theorem Leads.unique {links : Nat} {place : Location} {names : List String}
    {one other : Except Errno Location} (first : tree.Leads links place names one)
    (second : tree.Leads links place names other) : one = other := by
  induction first with
  | arrives => cases second; rfl
  | stays directory step onward ih => cases second <;> grind [Named]
  | rises directory onward ih => cases second <;> grind [Named]
  | enters directory named short found plain onward ih => cases second <;> grind [Named]
  | follows directory named short found onward ih => cases second <;> grind [Named]
  | loops directory named short found => cases second <;> grind [Named]
  | missing directory named short absent => cases second <;> grind [Named]
  | tooLong directory named long => cases second <;> grind [Named]
  | blocked other => cases second <;> grind [Named]

/-- Walking follows the rules, if what it does at a link does. -/
theorem leads_walkWith {links : Nat} {follow : Location → List String → Except Errno Location}
    (follows : ∀ place name rest target, tree.entry? place = some .directory → Named name →
      name.utf8ByteSize ≤ componentLimit → tree.entry? (place ++ [name]) = some (.link target) →
        tree.Leads links place (name :: rest)
          (follow (if target.startsWith "/" then [] else place) (Path.components target ++ rest)))
    (names : List String) (place : Location) :
    tree.Leads links place names
      (tree.walkWith (fun _ => .error .noEntry) follow place names) := by
  induction names generalizing place with
  | nil => exact .arrives
  | cons name rest ih =>
      unfold walkWith
      split
      · next directory =>
          split
          · next step => exact .stays directory step (ih place)
          · next inside =>
              split
              · next up =>
                  subst up
                  exact .rises directory (ih place.dropLast)
              · next down =>
                  have named : Named name := by
                    simp only [not_or] at inside
                    exact ⟨inside.1, inside.2, down⟩
                  split
                  · next long => exact .tooLong directory named long
                  · next fits =>
                      have short : name.utf8ByteSize ≤ componentLimit := Nat.not_lt.mp fits
                      split
                      · next absent =>
                          have nowhere : (if rest.isEmpty then
                              (.error .noEntry : Except Errno Location)
                            else .error .noEntry) = .error .noEntry := by
                            split <;> rfl
                          rw [nowhere]
                          exact .missing directory named short absent
                      · next target found =>
                          exact follows place name rest target directory named short found
                      · next entry plain found =>
                          refine .enters directory named short found ?_ (ih _)
                          rintro target rfl
                          exact plain target rfl
      · next other => exact .blocked other

/-- A walk that follows a number of links comes to what the rules say. -/
theorem leads_walk (links : Nat) (place : Location) (names : List String) :
    tree.Leads links place names
      (tree.walk (fun _ => .error .noEntry) links place names) := by
  induction links generalizing place names with
  | zero =>
      refine leads_walkWith ?_ names place
      intro place name rest target directory named short found
      exact .loops directory named short found
  | succ links ih =>
      refine leads_walkWith ?_ names place
      intro place name rest target directory named short found
      exact .follows directory named short found (ih _ _)

/-- What a lookup of a path comes to, by its text first and then by where it leads. -/
inductive Finds (tree : FileTree) (path : String) : Except SystemError Entry → Prop where
  | nul (embedded : '\x00' ∈ path.toList) : Finds tree path (.error .embeddedNul)
  | empty (nothing : path = "") : Finds tree path (.error (.numbered .noEntry))
  | tooLong (text : '\x00' ∉ path.toList) (long : pathLimit < path.utf8ByteSize) :
      Finds tree path (.error (.numbered .nameTooLong))
  | stops {errno : Errno} (text : '\x00' ∉ path.toList) (named : path ≠ "")
      (short : path.utf8ByteSize ≤ pathLimit)
      (leads : tree.Leads linkLimit (tree.start path) (Path.components path) (.error errno)) :
      Finds tree path (.error (.numbered errno))
  | vanishes {place : Location} (text : '\x00' ∉ path.toList) (named : path ≠ "")
      (short : path.utf8ByteSize ≤ pathLimit)
      (leads : tree.Leads linkLimit (tree.start path) (Path.components path) (.ok place))
      (absent : tree.entry? place = none) :
      Finds tree path (.error (.numbered .noEntry))
  | finds {place : Location} {entry : Entry} (text : '\x00' ∉ path.toList) (named : path ≠ "")
      (short : path.utf8ByteSize ≤ pathLimit)
      (leads : tree.Leads linkLimit (tree.start path) (Path.components path) (.ok place))
      (found : tree.entry? place = some entry) : Finds tree path (.ok entry)

theorem Finds.unique {path : String} {one other : Except SystemError Entry}
    (first : tree.Finds path one) (second : tree.Finds path other) : one = other := by
  have bare (nothing : path = "") : '\x00' ∉ path.toList ∧ path.utf8ByteSize ≤ pathLimit := by
    subst nothing
    decide
  cases first <;> cases second <;> grind [Leads.unique]

theorem finds_status (tree : FileTree) (path : String) : tree.Finds path (tree.status path) := by
  unfold status
  by_cases embedded : '\x00' ∈ path.toList
  · have refused : hasNul path = true := by simpa [hasNul] using embedded
    rw [if_pos refused]
    exact .nul embedded
  have text : ¬ hasNul path = true := by simpa [hasNul] using embedded
  rw [if_neg text]
  unfold lookup resolve resolveWith
  by_cases nothing : path = ""
  · subst nothing
    exact .empty rfl
  have named : ¬ path.isEmpty = true := by simpa using nothing
  rw [if_neg named]
  by_cases long : path.utf8ByteSize > pathLimit
  · rw [if_pos long]
    exact .tooLong embedded long
  have short : path.utf8ByteSize ≤ pathLimit := Nat.not_lt.mp long
  rw [if_neg long]
  have leads := @leads_walk tree linkLimit (tree.start path) (Path.components path)
  cases walked : tree.walk (fun _ => .error .noEntry) linkLimit (tree.start path)
      (Path.components path) with
  | error errno =>
      rw [walked] at leads
      exact .stops embedded nothing short leads
  | ok place =>
      rw [walked] at leads
      simp only [bind, Except.bind]
      cases found : tree.entry? place with
      | none => exact .vanishes embedded nothing short leads found
      | some entry => exact .finds embedded nothing short leads found

theorem finds_iff {path : String} {outcome : Except SystemError Entry} :
    tree.Finds path outcome ↔ tree.status path = outcome := by
  constructor
  · intro finds
    exact (finds_status tree path).unique finds
  · intro looked
    rw [← looked]
    exact finds_status tree path

end Passthrough.Files.FileTree
