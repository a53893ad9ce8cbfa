import Mathlib.Data.List.Basic

/-!
# File trees with symbolic links

A file tree says what is at each location, a location being the names on the way from the root.  A
path is resolved against it one component at a time: a link is replaced by the components of its
target, up to a number of links, `..` leads to the parent of the real directory that was reached,
and a path that ends in a slash or a dot must reach a directory.
-/

inductive PathComponent (Name : Type) where
  | curDir
  | parentDir
  | normal (name : Name)
  deriving DecidableEq

/-- A path: whether it starts at the root, its components, and whether a slash
or a dot follows the last of them. -/
structure FilePath (Name : Type) where
  absolute : Bool
  components : List (PathComponent Name)
  directory : Bool
  deriving DecidableEq

namespace FilePath

variable {Name : Type}

def isEmpty (path : FilePath Name) : Bool := !path.absolute && path.components.isEmpty

/-- The components to walk: what has to be a directory is entered. -/
def steps (path : FilePath Name) : List (PathComponent Name) :=
  path.components ++ if path.directory then [.curDir] else []

/-- The last component, where it is a name. -/
def fileName (path : FilePath Name) : Option Name :=
  match path.components.getLast? with
  | some (.normal name) => some name
  | _ => none

def parent (path : FilePath Name) : Option (FilePath Name) :=
  if path.components.isEmpty then none
  else some ⟨path.absolute, path.components.dropLast, false⟩

lemma components_of_fileName {path : FilePath Name} {name : Name}
    (named : path.fileName = some name) :
    path.components = path.components.dropLast ++ [.normal name] := by
  unfold fileName at named
  cases last : path.components.getLast? with
  | none => simp [last] at named
  | some component =>
    cases component with
    | normal other =>
      simp only [last, Option.some.injEq] at named
      subst named
      exact (List.dropLast_append_getLast? _ last).symm
    | curDir => simp [last] at named
    | parentDir => simp [last] at named

end FilePath

abbrev FileLocation (Name : Type) : Type := List Name

inductive FileEntry (Name : Type) where
  | directory
  | file
  | link (target : FilePath Name)
  deriving DecidableEq

/-- What is at each location, with the directory that relative paths start from
and the number of links one resolution follows. -/
structure FileTree (Name : Type) where
  entry : FileLocation Name → Option (FileEntry Name)
  workingDirectory : FileLocation Name
  linkLimit : Nat
  root : entry [] = some .directory
  nested {location : FileLocation Name} {name : Name} :
    (entry (location ++ [name])).isSome → entry location = some .directory

/-- Where a path leads: to something that is there, to a place where nothing is
yet, or nowhere. -/
inductive Landing (Name : Type) where
  | found (location : FileLocation Name)
  | missing (location : FileLocation Name)
  | failed
  deriving DecidableEq

def Landing.location {Name : Type} : Landing Name → Option (FileLocation Name)
  | .found location => some location
  | .missing location => some location
  | .failed => none

namespace FileTree

variable {Name : Type} [DecidableEq Name]

/-- The components as they read, without looking. -/
def lexically (location : FileLocation Name) : List (PathComponent Name) → FileLocation Name
  | [] => location
  | .curDir :: rest => lexically location rest
  | .parentDir :: rest => lexically location.dropLast rest
  | .normal name :: rest => lexically (location ++ [name]) rest

/-- The walk along the components, given how links are followed.  What is
missing has its place where the rest of the path reads from there. -/
def walkWith (tree : FileTree Name)
    (follow : FileLocation Name → List (PathComponent Name) → Landing Name) :
    FileLocation Name → List (PathComponent Name) → Landing Name
  | location, [] => .found location
  | location, component :: rest =>
    if tree.entry location ≠ some .directory then .failed
    else
      match component with
      | .curDir => walkWith tree follow location rest
      | .parentDir => walkWith tree follow location.dropLast rest
      | .normal name =>
        match tree.entry (location ++ [name]) with
        | none => .missing (lexically (location ++ [name]) rest)
        | some (.link target) =>
          follow (if target.absolute then [] else location) (target.steps ++ rest)
        | some _ => walkWith tree follow (location ++ [name]) rest

/-- The walk that follows at most the given number of links. -/
def walk (tree : FileTree Name) : Nat → FileLocation Name → List (PathComponent Name) → Landing Name
  | 0 => tree.walkWith fun _ _ => .failed
  | links + 1 => tree.walkWith (tree.walk links)

def origin (tree : FileTree Name) (path : FilePath Name) : FileLocation Name :=
  if path.absolute then [] else tree.workingDirectory

/-- Where a path leads when its last component is followed as well. -/
def resolve (tree : FileTree Name) (path : FilePath Name) : Landing Name :=
  if path.isEmpty then .failed
  else tree.walk tree.linkLimit (tree.origin path) path.steps

def canonicalize (tree : FileTree Name) (path : FilePath Name) : Option (FileLocation Name) :=
  match tree.resolve path with
  | .found location => some location
  | _ => none

def exists' (tree : FileTree Name) (path : FilePath Name) : Bool := (tree.canonicalize path).isSome

/-- The entry a path names, a link itself rather than what it leads to, unless a
slash or a dot follows it. -/
def symlinkMetadata (tree : FileTree Name) (path : FilePath Name) : Option (FileEntry Name) :=
  match path.directory, path.fileName with
  | false, some name =>
    match tree.walk tree.linkLimit (tree.origin path) path.components.dropLast with
    | .found location => tree.entry (location ++ [name])
    | _ => none
  | _, _ =>
    match tree.resolve path with
    | .found location => tree.entry location
    | _ => none

/-- The tree of the listed entries: the root is a directory, and every other
entry stands in one. -/
def ofEntries (entries : List (FileLocation Name × FileEntry Name)) (linkLimit : Nat)
    (root : entries.lookup [] = some .directory)
    (nested : ∀ listed ∈ entries, entries.lookup listed.1.dropLast = some .directory) :
    FileTree Name where
  entry := fun location => entries.lookup location
  workingDirectory := []
  linkLimit := linkLimit
  root := root
  nested := by
    intro location name present
    obtain ⟨entry, found⟩ := Option.isSome_iff_exists.mp present
    obtain ⟨before, after, rfl, -⟩ := List.lookup_eq_some_iff.mp found
    have above := nested (location ++ [name], entry) (by simp)
    rwa [List.dropLast_concat] at above

variable {tree : FileTree Name}
  {follow : FileLocation Name → List (PathComponent Name) → Landing Name}
  {start middle : FileLocation Name} {before : List (PathComponent Name)}

/-- A walk goes on from where its first part led, by itself or by one of the
walks that its links go on by. -/
lemma walkWith_append
    (goesOn : (FileLocation Name → List (PathComponent Name) → Landing Name) → Prop)
    (links : ∀ {start before}, follow start before = .found middle →
      ∃ onward, goesOn onward ∧ ∀ rest, follow start (before ++ rest) = onward middle rest)
    (reached : tree.walkWith follow start before = .found middle) :
    ∃ onward, (onward = tree.walkWith follow ∨ goesOn onward) ∧
      ∀ rest, tree.walkWith follow start (before ++ rest) = onward middle rest := by
  induction before generalizing start with
  | nil =>
    cases reached
    exact ⟨_, .inl rfl, fun _ => rfl⟩
  | cons component before ih =>
    simp only [walkWith] at reached
    split_ifs at reached with inside
    simp only [List.cons_append, walkWith, if_neg inside]
    cases component with
    | curDir => exact ih reached
    | parentDir => exact ih reached
    | normal name =>
      cases there : tree.entry (start ++ [name]) with
      | none => simp [there] at reached
      | some entry =>
        cases entry with
        | directory =>
          simp only [there] at reached ⊢
          exact ih reached
        | file =>
          simp only [there] at reached ⊢
          exact ih reached
        | link target =>
          simp only [there] at reached ⊢
          obtain ⟨onward, further, same⟩ := links reached
          refine ⟨onward, .inr further, fun rest => ?_⟩
          rw [← same, List.append_assoc]

/-- The walk along `before ++ rest` goes on from where the walk along `before`
led, with the links that are left. -/
lemma walk_append {links : Nat} (reached : tree.walk links start before = .found middle) :
    ∃ left, ∀ rest, tree.walk links start (before ++ rest) = tree.walk left middle rest := by
  induction links generalizing start before with
  | zero =>
    obtain ⟨onward, rfl | ⟨⟨⟩⟩, same⟩ :=
      walkWith_append (fun _ => False) (fun found => by cases found) reached
    exact ⟨0, same⟩
  | succ links ih =>
    have later {start : FileLocation Name} {before : List (PathComponent Name)}
        (found : tree.walk links start before = .found middle) :
        ∃ onward, (∃ left, onward = tree.walk left) ∧
          ∀ rest, tree.walk links start (before ++ rest) = onward middle rest := by
      obtain ⟨left, same⟩ := ih found
      exact ⟨_, ⟨left, rfl⟩, same⟩
    obtain ⟨onward, rfl | ⟨left, rfl⟩, same⟩ := walkWith_append _ later reached
    · exact ⟨links + 1, same⟩
    · exact ⟨left, same⟩

lemma walk_name {links : Nat} {location : FileLocation Name} {name : Name}
    {rest : List (PathComponent Name)} (inside : tree.entry location = some .directory)
    (absent : tree.entry (location ++ [name]) = none) :
    tree.walk links location (.normal name :: rest) =
      .missing (lexically (location ++ [name]) rest) := by
  cases links <;> simp only [walk, walkWith, inside, absent, ne_eq, not_true_eq_false, if_false]

end FileTree
