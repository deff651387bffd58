import PseudoAsm.File.Access

/-!
# Trees of files

A tree of files is a working directory with everything below it, as a list of files and
directories with the names that lead to them. The directories above are known to be directories,
and nothing else is known about them. A path is followed name by name, so a step into a file or
into what does not exist fails, even if a later step would lead back.

The lengths of names and of paths are limited, counted in bytes. A path that is too long is not
followed at all; a name that is too long fails where a directory is searched for it.
-/

namespace PseudoAsm

/-- A file with its bytes, or a directory. -/
inductive FileNode where
  | file (bytes : List UInt8)
  | directory
  deriving DecidableEq, Repr

/-- The files and directories below the working directory, with the names that lead there. -/
abbrev FileTree := List (List Text × FileNode)

namespace FileTree

/-- The bytes that a name may have. -/
def nameLimit : Nat := 255

/-- The bytes that a path may have. -/
def pathLimit : Nat := 4095

/-- Where a path leads: below the working directory, with the last name first, or above it. -/
inductive Place where
  | below (names : List Text)
  | above
  deriving DecidableEq, Repr

/-- Where a path starts: at the root or in the current directory. -/
def Place.start (path : Text) : Place :=
  if path.head? == some '/' then .above else .below []

/-- The place that a name leads to from a directory. -/
def Place.enter (name : Text) (place : Place) : Except FileFault Place :=
  if nameLimit < Text.Utf8.byteCount name then .error .nameTooLong
  else
    match place with
    | .above =>
      if name = [] ∨ name = ['.'] ∨ name = ['.', '.'] then .ok .above else .error .missing
    | .below names =>
      if name = [] ∨ name = ['.'] then .ok (.below names)
      else if name = ['.', '.'] then
        match names with
        | [] => .ok .above
        | _ :: names => .ok (.below names)
      else .ok (.below (name :: names))

/-- What is at the end of some names; a directory is implied by what it holds. -/
def nodeAt? (tree : FileTree) (names : List Text) : Option FileNode :=
  match tree.lookup names with
  | some node => some node
  | none =>
    if names.isEmpty || tree.any (fun (other, _) => names.isPrefixOf other) then some .directory
    else none

/-- What there is at a place. -/
def node? (tree : FileTree) : Place → Option FileNode
  | .above => some .directory
  | .below names => tree.nodeAt? names.reverse

/-- What is at the end of a list of names from a place on. -/
def follow (tree : FileTree) (place : Place) : List Text → Except FileFault FileNode
  | [] =>
    match tree.node? place with
    | none => .error .missing
    | some node => .ok node
  | name :: names =>
    match tree.node? place with
    | none => .error .missing
    | some (.file _) => .error .notDirectory
    | some .directory =>
      match place.enter name with
      | .error fault => .error fault
      | .ok place => follow tree place names

/-- The files of a tree, seen from its working directory. -/
def system (tree : FileTree) : FileSystem := fun path =>
  if path.isEmpty then .error .missing
  else if pathLimit < Text.Utf8.byteCount path then .error .nameTooLong
  else
    match tree.follow (.start path) (path.splitOn '/') with
    | .error fault => .error fault
    | .ok .directory => .error .directory
    | .ok (.file bytes) => .ok bytes

end FileTree

end PseudoAsm
