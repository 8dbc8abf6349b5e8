import ColumnFold.Text.Separated

/-!
# Directories

The files that a command line names are found below the directory that the command runs in.  A path
is a list of names; each name before the last must be that of a directory.  Of what lies outside of
the directory nothing is known.

* `Source` — what stands behind a path.
* `Directory` — the files and directories below a directory.
* `Directory.lookup` — what stands behind a path in a directory.
-/

set_option autoImplicit false

namespace ColumnFold

/-- Why nothing can stand behind a path. -/
inductive PathError where
  /-- A file is named where there must be a directory. -/
  | throughFile
  /-- The path, or a name in it, is too long. -/
  | tooLong
  /-- The path holds the character that no path may hold. -/
  | hasNul
deriving DecidableEq

/-- What stands behind a path. -/
inductive Source where
  /-- Nothing. -/
  | missing
  /-- A directory. -/
  | directory
  /-- A file with these bytes. -/
  | content (bytes : List UInt8)
  /-- Nothing, as the path is not in order. -/
  | unusable (e : PathError)
deriving DecidableEq

/-- The files and directories below a directory, the latest one last; what stands behind the names
is a file or a directory. -/
structure Directory where
  /-- What stands behind some lists of names. -/
  entries : List (List String × Source)

namespace Directory

/-- The bound on the bytes of a path. -/
def pathLimit : Nat := 4096

/-- How many bytes a name may have. -/
def nameLimit : Nat := 255

/-- The names between the slashes of a path. -/
def names (path : String) : List String :=
  (Separated.fields '/' path.toList).map String.ofList

/-- Whether a name leads from a directory to the same one. -/
def staysHere (name : String) : Bool := name == "" || name == "."

/-- The directory of files and directories with the given paths. -/
def ofPaths (entries : List (String × Source)) : Directory :=
  ⟨entries.map fun (path, source) => ((names path).filter (!staysHere ·), source)⟩

/-- What stands behind a list of names.  Names that lead to others are those of directories. -/
def source (d : Directory) (place : List String) : Source :=
  match d.entries.reverse.find? (·.1 == place) with
  | some (_, source) => source
  | none => if place.isEmpty || d.entries.any (place.isPrefixOf ·.1) then .directory else .missing

/-- What stands behind names outside of the directory. -/
def outside : List String → Source
  | [] => .directory
  | name :: path =>
    if staysHere name || name == ".." then outside path
    else if nameLimit < name.utf8ByteSize then .unusable .tooLong
    else .missing

/-- What stands behind names, from the place on whose names, the last one first, are `here`. -/
def follow (d : Directory) (here : List String) : List String → Source
  | [] => d.source here.reverse
  | name :: path =>
    match d.source here.reverse with
    | .content _ => .unusable .throughFile
    | .directory =>
      if staysHere name then follow d here path
      else if name = ".." then
        match here with
        | [] => outside path
        | _ :: here => follow d here path
      else if nameLimit < name.utf8ByteSize then .unusable .tooLong
      else follow d (name :: here) path
    | other => other

/-- What stands behind a path. -/
def lookup (d : Directory) (path : String) : Source :=
  if path.contains '\x00' then .unusable .hasNul
  else if pathLimit ≤ path.utf8ByteSize then .unusable .tooLong
  else match names path with
    | [""] => .missing
    | "" :: path => outside path
    | path => d.follow [] path

end Directory
end ColumnFold
