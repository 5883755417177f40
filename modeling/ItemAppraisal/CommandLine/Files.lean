import ItemAppraisal.Text.Part

/-!
# Files

What the program finds at a path, and trees of files in memory. Main statements: every file of a tree
makes the directories above it (`isDirectory_of_mem`), and nothing is found by name outside of a tree
(`walk_outside`).
-/

namespace ItemAppraisal.CommandLine

/-- Why the text of a file could not be read. -/
inductive ReadFailure where
  | missing
  /-- The path leads through a file. -/
  | throughFile
  | directory
  | nameTooLong
  | notText
  | other (reason : String)
  deriving DecidableEq, Repr

/-- The text of a failure to read. -/
def ReadFailure.message : ReadFailure → String
  | missing => "No such file or directory (os error 2)"
  | throughFile => "Not a directory (os error 20)"
  | directory => "Is a directory (os error 21)"
  | nameTooLong => "File name too long (os error 36)"
  | notText => "stream did not contain valid UTF-8"
  | other reason => reason

/-- What stands at a path. -/
inductive Node where
  | file (text : String)
  | directory
  | missing
  /-- Nothing, since the path leads through a file. -/
  | beyondFile
  /-- Nothing, since the path or a name on it is too long. -/
  | nameTooLong
  /-- A file that cannot be read. -/
  | locked (cause : ReadFailure)
  deriving DecidableEq, Repr

namespace Node

/-- Whether something stands at the path. -/
def isPresent : Node → Bool
  | file _ | directory | locked _ => true
  | missing | beyondFile | nameTooLong => false

/-- Whether a directory stands at the path. -/
def isDirectory : Node → Bool
  | directory => true
  | _ => false

/-- The text at the path. -/
def read : Node → Except ReadFailure String
  | file text => .ok text
  | directory => .error .directory
  | missing => .error .missing
  | beyondFile => .error .throughFile
  | nameTooLong => .error .nameTooLong
  | locked cause => .error cause

end Node

/-- A path that leads on from a directory. -/
def joinPath (directory name : String) : String :=
  if ['/'].isSuffixOf directory.toList then directory ++ name else directory ++ "/" ++ name

/-- The names that a path is made of. -/
def pathParts (path : String) : List String :=
  (Text.splitAt (· == '/') path.toList).map String.ofList

/-- What the outside offers to the program. -/
structure Host (m : Type → Type) where
  /-- The directory for the settings of the user. -/
  settingsHome : String
  /-- The directory for the data of the user. -/
  dataHome : String
  node : String → m Node
  standardInput : m (Except ReadFailure String)
  /-- A new id for an appraisal. -/
  newId : m String
  /-- The seconds since 1970. -/
  now : m Int

/-! ## Trees of files -/

/-- Files by the names that lead to them from the directory that the program runs in. -/
abbrev FileTree := List (List String × String)

/-- A place that a path leads to. -/
inductive Place where
  /-- A place in a tree of files, by the names that lead to it. -/
  | inside (names : List String)
  /-- A directory above the tree or beside it. -/
  | outside
  deriving DecidableEq, Repr

/-- The directory above a place. -/
def Place.parent : Place → Place
  | inside [] | outside => outside
  | inside names => inside names.dropLast

/-- The most bytes of a name. -/
def longestName : Nat := 255

/-- The most bytes of a path. -/
def longestPath : Nat := 4095

namespace FileTree

/-- The tree of files that are given by their paths. -/
def ofPaths (files : List (String × String)) : FileTree :=
  files.map fun (path, text) =>
    ((pathParts path).filter fun name => !name.isEmpty && name != ".", text)

/-- Whether names lead to a directory: the top one, or one with a file below it. -/
def isDirectory (tree : FileTree) (names : List String) : Bool :=
  names.isEmpty || tree.any fun file => names.isPrefixOf file.1 && file.1.length != names.length

/-- What names lead to from a directory on. A name that is empty or a dot leads nowhere else, two dots
lead one directory up. Outside of the tree there are no files. -/
def walk (tree : FileTree) : Place → List String → Node
  | _, [] => .directory
  | here, name :: rest =>
    if name.isEmpty || name == "." then walk tree here rest
    else if name == ".." then walk tree here.parent rest
    else if longestName < name.utf8ByteSize then .nameTooLong
    else match here with
      | .outside => .missing
      | .inside names =>
        let there := names ++ [name]
        match tree.lookup there with
        | some text => if rest.isEmpty then .file text else .beyondFile
        | none => if tree.isDirectory there then walk tree (.inside there) rest else .missing

/-- What stands at a path. One that starts with a slash leads outside. -/
def node (tree : FileTree) (path : String) : Node :=
  if longestPath < path.utf8ByteSize then .nameTooLong
  else walk tree (if ['/'].isPrefixOf path.toList then .outside else .inside []) (pathParts path)

theorem walk_outside (tree : FileTree) (name : String) (rest : List String)
    (h : name ≠ "" ∧ name ≠ "." ∧ name ≠ "..") (hl : name.utf8ByteSize ≤ longestName) :
    walk tree .outside (name :: rest) = .missing := by
  obtain ⟨h₁, h₂, h₃⟩ := h
  simp [walk, h₁, h₂, h₃, Nat.not_lt.2 hl]

theorem isDirectory_of_mem {tree : FileTree} {above below : List String} {text : String}
    (h : (above ++ below, text) ∈ tree) (hb : below ≠ []) : tree.isDirectory above = true := by
  simp only [isDirectory, Bool.or_eq_true, List.any_eq_true]
  refine Or.inr ⟨_, h, ?_⟩
  have : below.length ≠ 0 := by simpa using hb
  simp [List.isPrefixOf_iff_prefix, this]

end FileTree

end ItemAppraisal.CommandLine
