import PseudoAsm.Text.Display
import PseudoAsm.Text.Utf8

/-!
# Access to files

Files are seen through one function, which gives the bytes at a path or says why there are none.
Nothing is ever written to a file, so the function does not change while a program runs. Text is
read from a file as UTF-8, and a byte order mark is a character like any other.

A path name is normal when no part of it is empty or a single dot: separators are single, there is
none at the end, and a path without parts is a dot. Steps to the parent directory stay, since they
depend on the files. Two separators at the start are kept apart from one; three or more are one.
-/

namespace PseudoAsm

namespace PathName

/-- The parts of a path that lead somewhere. -/
def parts (path : Text) : List Text :=
  (path.splitOn '/').filter fun part => !part.isEmpty && part != ['.']

/-- The separators that a normal path starts with. -/
def root : Text → Text
  | '/' :: '/' :: '/' :: _ => "/".toList
  | '/' :: '/' :: _ => "//".toList
  | '/' :: _ => "/".toList
  | _ => []

/-- The normal path name that leads to the same place. -/
def normalize (path : Text) : Text :=
  let normal := root path ++ Text.join "/" (parts path)
  if normal.isEmpty then ['.'] else normal

end PathName

/-- Why a path cannot be read. -/
inductive FileFault where
  | missing
  | directory
  | notDirectory
  | nameTooLong
  | denied
  | other (code : Nat) (reason : Text)
  deriving DecidableEq, Repr

namespace FileFault

/-- The number of the cause and its wording. -/
def cause : FileFault → Nat × Text
  | .missing => (2, "No such file or directory".toList)
  | .denied => (13, "Permission denied".toList)
  | .notDirectory => (20, "Not a directory".toList)
  | .directory => (21, "Is a directory".toList)
  | .nameTooLong => (36, "File name too long".toList)
  | .other code reason => (code, reason)

/-- What the user is told about a path. -/
def message (path : Text) (fault : FileFault) : Text :=
  let (code, reason) := fault.cause
  "[Errno ".toList ++ Text.ofNat code ++ "] ".toList ++ reason ++ ": ".toList ++ Text.quoted path

end FileFault

/-- The bytes at each path, or why there are none. -/
abbrev FileSystem := Text → Except FileFault (List UInt8)

/-- Why no text can be read from a path. -/
inductive TextFault where
  /-- The path holds a null character, which no file system is asked for. -/
  | nullCharacter
  | unreadable (path : Text) (fault : FileFault)
  | undecodable (fault : Text.Utf8.Fault)
  deriving DecidableEq, Repr

namespace TextFault

/-- What the user is told. -/
def message : TextFault → Text
  | .nullCharacter => "embedded null byte".toList
  | .unreadable path fault => fault.message path
  | .undecodable fault => fault.message

end TextFault

namespace FileSystem

/-- The text in a file. -/
def readText (files : FileSystem) (path : Text) : Except TextFault Text :=
  if path.contains '\x00' then .error .nullCharacter
  else
    match files path with
    | .error fault => .error (.unreadable path fault)
    | .ok bytes => (Text.Utf8.decode bytes).mapError .undecodable

end FileSystem

end PseudoAsm
