import RuleQuery.Text.Split

/-!
**Making directories.**

A file tree holds directories and plain files. A path names a place in it from the working directory
or from the root, by names between slashes; one dot stays in place and two dots go up. A directory is
made together with those above it that are missing: `ensure` makes the path itself, or else first the
path without its last name and then the path itself. For this the dots at the end of a path do not
count as names, but the directory is made at the path with its dots, so that a missing directory
cannot be made by its name and a dot. What has been made stays, also when a later step fails.
-/

namespace RuleQuery.Log

/-- Why a directory cannot be made. -/
inductive DirectoryError where
  /-- A directory on the way is missing. -/
  | missing
  /-- Something has the path already. -/
  | occupied
  /-- A plain file stands on the way. -/
  | blocked
  /-- A name, or the whole path, is too long. -/
  | tooLong
  /-- The path holds the null character. -/
  | nullCharacter
deriving DecidableEq, Repr

/-- The message of an error. -/
def DirectoryError.message : DirectoryError → String
  | missing => "No such file or directory (os error 2)"
  | occupied => "File exists (os error 17)"
  | blocked => "Not a directory (os error 20)"
  | tooLong => "File name too long (os error 36)"
  | nullCharacter => "file name contained an unexpected NUL byte"

/-! ### Paths -/

/-- A path. -/
structure Path where
  /-- The path starts at the root. -/
  absolute : Bool
  /-- The names on the way, dots included. -/
  names : List String
deriving DecidableEq, Repr

/-- The path that a text names. -/
def Path.ofText (text : String) : Path where
  absolute := text.toList.head? = some '/'
  names := ((Text.splitAt '/' text.toList).filter (· ≠ [])).map String.ofList

/-- The names without single dots at their end. -/
def dropDots (names : List String) : List String :=
  (names.reverse.dropWhile (· = ".")).reverse

/-- The path without its last name. -/
def Path.parent (path : Path) : Path :=
  { path with names := dropDots (dropDots path.names).dropLast }

theorem dropDots_length (names : List String) : (dropDots names).length ≤ names.length := by
  have := (List.dropWhile_suffix (l := names.reverse) (· = ".")).length_le
  simpa [dropDots] using this

theorem Path.parent_length {path : Path} (named : path.names ≠ []) :
    path.parent.names.length < path.names.length := by
  have outer := dropDots_length (dropDots path.names).dropLast
  have inner := dropDots_length path.names
  have positive := List.length_pos_iff.2 named
  simp only [Path.parent, List.length_dropLast] at outer ⊢
  omega

/-! ### File trees -/

/-- A place in a file tree, by the names on the way to it from the root, last first. -/
abbrev Place := List String

/-- A file tree. The root is a directory. -/
structure FileTree where
  /-- The working directory. -/
  home : Place
  /-- The directories below the root. -/
  directories : List Place
  /-- The plain files. -/
  files : List Place
deriving DecidableEq, Repr

/-- The tree of a working directory that holds nothing but some plain files. -/
def FileTree.ofFiles (names : List String) : FileTree :=
  let home := ["home"]
  ⟨home, [home], names.map (· :: home)⟩

/-- A directory is at a place. -/
def FileTree.isDirectory (tree : FileTree) (place : Place) : Bool :=
  place.isEmpty || tree.directories.contains place

/-- Something is at a place. -/
def FileTree.holds (tree : FileTree) (place : Place) : Bool :=
  tree.isDirectory place || tree.files.contains place

/-- The most bytes in a name. -/
def nameLimit : Nat := 255

/-- The place that a name leads to from another place. -/
def FileTree.step (tree : FileTree) (place : Place) (name : String) :
    Except DirectoryError Place :=
  if !tree.isDirectory place then .error .blocked
  else if name = "." then .ok place
  else if name = ".." then .ok place.tail
  else if nameLimit < name.utf8ByteSize then .error .tooLong
  else if tree.holds (name :: place) then .ok (name :: place)
  else .error .missing

/-- The place that a path leads to. -/
def FileTree.find (tree : FileTree) (path : Path) : Except DirectoryError Place :=
  path.names.foldlM tree.step (if path.absolute then [] else tree.home)

/-- A directory is at a path. -/
def FileTree.hasDirectory (tree : FileTree) (path : Path) : Bool :=
  match tree.find path with
  | .ok place => tree.isDirectory place
  | .error _ => false

/-! ### New directories -/

/-- The tree with a new directory at a path, in a directory that is there. -/
def FileTree.make (tree : FileTree) (path : Path) : Except DirectoryError FileTree :=
  match path.names.getLast? with
  | none => .error .occupied
  | some name => do
    let place ← tree.find { path with names := path.names.dropLast }
    match tree.step place name with
    | .ok _ => throw .occupied
    | .error .missing => return { tree with directories := (name :: place) :: tree.directories }
    | .error error => throw error

/-- The tree with a directory at a path, in a directory that is there, or why there is none. -/
def FileTree.settle (tree : FileTree) (path : Path) : FileTree × Option DirectoryError :=
  match tree.make path with
  | .ok grown => (grown, none)
  | .error error => if tree.hasDirectory path then (tree, none) else (tree, some error)

/-- **The tree with a directory at a path**, in directories that are made where they are missing, or
why there is none. -/
def FileTree.ensure (tree : FileTree) (path : Path) : FileTree × Option DirectoryError :=
  if path.names = [] then (tree, none)
  else
    match tree.make path with
    | .error .missing =>
      match tree.ensure path.parent with
      | (grown, none) => grown.settle path
      | failed => failed
    | _ => tree.settle path
termination_by path.names.length
decreasing_by exact Path.parent_length ‹_›

/-- One byte more than a path may have. -/
def pathLimit : Nat := 4096

/-- The tree with a directory at the path that a text names, or why there is none. -/
def FileTree.makeDirectory (tree : FileTree) (text : String) : FileTree × Option DirectoryError :=
  if text.toList.contains '\x00' then (tree, some .nullCharacter)
  else if pathLimit ≤ text.utf8ByteSize then (tree, some .tooLong)
  else tree.ensure (.ofText text)

end RuleQuery.Log
