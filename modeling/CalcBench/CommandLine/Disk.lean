import CalcBench.Failure

/-!
# CalcBench.CommandLine.Disk — paths, files, directories and the working directory

Names of directories and files are joined by slashes.  The extension of a file name is what follows
its last dot, unless that dot is the first character of the name.

A place on a disk is the list of the names that lead to it from the top; there are no links.  The
directories are the working directory, the directory of the null device, and those on the way to them
or to a file.  The null device is empty and keeps nothing.
-/

namespace CalcBench.CommandLine.Path

/-! ### Paths -/

def pieces : List Char → List (List Char)
  | [] => [[]]
  | c :: rest =>
    if c = '/' then [] :: pieces rest
    else
      match pieces rest with
      | [] => [[c]]
      | first :: others => (c :: first) :: others

/-- The names of a path in order, without empty ones. -/
def parts (path : String) : List String :=
  ((pieces path.toList).filter (· != [])).map String.ofList

/-- A path from the top of all directories. -/
def isAbsolute (path : String) : Bool := path.toList.head? == some '/'

/-- A path that can only mean a directory. -/
def endsInSlash (path : String) : Bool := path.toList.getLast? == some '/'

/-- The part of a file name before its last dot; the whole name where that part is empty or there
is no dot. -/
def stem (name : List Char) : List Char :=
  match name.reverse.dropWhile (· != '.') with
  | [] => name
  | [_] => name
  | _ :: front => front.reverse

/-- A path, from its last character to its first, without the slashes at its end and the single dots
between them. -/
def trimTail : List Char → List Char
  | '/' :: rest => trimTail rest
  | '.' :: '/' :: rest => trimTail rest
  | path => path

/-- A path with the extension of its last name set to `extension`; what stands behind that name goes.
A path without a name, or whose last name is two dots, is left as it is. -/
def withExtension (path extension : String) : String :=
  let chars := trimTail path.toList.reverse
  let name := (chars.takeWhile (· != '/')).reverse
  let front := (chars.dropWhile (· != '/')).reverse
  if name = [] ∨ name = ['.'] ∨ name = ['.', '.'] then path
  else String.ofList (front ++ stem name ++ '.' :: extension.toList)

end CalcBench.CommandLine.Path

namespace CalcBench.CommandLine

/-! ### Disks -/

/-- The files of a disk by their places, and the working directory. -/
structure Disk where
  files : List (List String × ByteArray)
  workingDirectory : List String

namespace Disk

def nullDevice : List String := ["dev", "null"]

/-- What is read from a place that is not a directory. -/
def content? (d : Disk) (place : List String) : Option ByteArray :=
  if place = nullDevice then some .empty else (d.files.find? (·.1 == place)).map (·.2)

def isDirectory (d : Disk) (place : List String) : Bool :=
  place.isPrefixOf d.workingDirectory ||
    (nullDevice :: d.files.map (·.1)).any fun file => place.isPrefixOf file && place != file

def maxNameBytes : Nat := 255

def maxPathBytes : Nat := 4095

/-- A place is a directory, as it must be for a path to lead on from there. -/
def enter (d : Disk) (place : List String) : Except FileError Unit :=
  if d.isDirectory place then .ok ()
  else if (d.content? place).isSome then .error .notADirectory
  else .error .notFound

/-- The place that a name leads to from a directory: a single dot stays, two go up, but not from the
top. -/
def step (directory : List String) (name : String) : Except FileError (List String) :=
  if name = "." then .ok directory
  else if name = ".." then .ok directory.dropLast
  else if maxNameBytes < name.utf8ByteSize then .error .nameTooLong
  else .ok (directory ++ [name])

/-- The place that names lead to from a place; all but the last must be directories. -/
def walk (d : Disk) (place : List String) : List String → Except FileError (List String)
  | [] => .ok place
  | name :: rest =>
    (d.enter place).bind fun _ => (step place name).bind fun place' => walk d place' rest

def start (d : Disk) (path : String) : List String :=
  if Path.isAbsolute path then [] else d.workingDirectory

/-- The place where a path starts, and the names from there. -/
def route (d : Disk) (path : String) : Except FileError (List String × List String) :=
  if path = "" then .error .notFound
  else if maxPathBytes < path.utf8ByteSize then .error .nameTooLong
  else .ok (d.start path, Path.parts path)

def locate (d : Disk) (path : String) : Except FileError (List String) :=
  (d.route path).bind fun (start, names) => d.walk start names

/-- All names of a path but the last lead to a directory. -/
def enterParent (d : Disk) (path : String) : Except FileError Unit :=
  (d.route path).bind fun (start, names) => (d.walk start names.dropLast).bind d.enter

def read (d : Disk) (path : String) : Except FileError ByteArray :=
  (d.locate path).bind fun place =>
    if d.isDirectory place then .error .isDirectory
    else
      match d.content? place with
      | some bytes => if Path.endsInSlash path then .error .notADirectory else .ok bytes
      | none => .error .notFound

def readText (d : Disk) (path : String) : Except FileError String :=
  (d.read path).bind FileError.decode

def set (d : Disk) (place : List String) (bytes : ByteArray) : Disk :=
  if place = nullDevice then d
  else if (d.content? place).isSome then
    { d with files := d.files.map fun file => if file.1 == place then (place, bytes) else file }
  else { d with files := d.files ++ [(place, bytes)] }

/-- The disk after a text was written to the file at a path.  A path that ends in a slash is taken
for a directory before its last name is looked at. -/
def writeText (d : Disk) (path text : String) : Except FileError Disk :=
  if Path.endsInSlash path then (d.enterParent path).bind fun _ => .error .isDirectory
  else
    (d.locate path).bind fun place =>
      if d.isDirectory place then .error .isDirectory else .ok (d.set place text.toUTF8)

end Disk

end CalcBench.CommandLine
