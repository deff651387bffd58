import PseudoAsm.Expander
import PseudoAsm.File.Access
import PseudoAsm.Settings
import PseudoAsm.Table.Builtin
import PseudoAsm.Table.Format

/-!
# Tables from files

A table file is named in messages by the normal form of its path. An expander takes its table from
the file that its settings name; without one it takes the built-in table, and then it cannot fail.
-/

namespace PseudoAsm

namespace Table

/-- Why there is no table in a file. -/
inductive LoadFault where
  | unreadable (fault : TextFault)
  | malformed (error : FormatError)
  deriving DecidableEq, Repr

/-- The table in the file at a path, and what is worth noting about it. -/
def load (files : FileSystem) (path : Text) : Except LoadFault Table × List Note :=
  let file := PathName.normalize path
  match files.readText file with
  | .error fault => (.error (.unreadable fault), [])
  | .ok text =>
    let reading := readForms file text
    ((reading.result.map ofForms).mapError .malformed, readingNotes file reading)

/-- The table that settings name, and what is worth noting about it. -/
def ofSettings (files : FileSystem) (settings : Settings) :
    Except LoadFault Table × List Note :=
  match settings.tablePath with
  | none => (.ok builtin, [])
  | some path => load files path

end Table

namespace Expander

/-- The expander with a table that works as the settings say. -/
def ofSettings (settings : Settings) (table : Table) : Expander where
  table
  preferred := settings.preferred
  textBase := settings.textBase

end Expander

end PseudoAsm
