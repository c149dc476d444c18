/-!
# CalcBench.Failure — errors with their causes, and those of files
-/

namespace CalcBench

/-- A message, and the messages of its causes from the nearest to the deepest. -/
structure Failure where
  message : String
  causes : List String := []
  deriving DecidableEq

namespace Failure

/-- Puts a failure into a wider context. -/
def within (context : String) (f : Failure) : Failure := ⟨context, f.message :: f.causes⟩

def line (f : Failure) : String := String.intercalate ": " (f.message :: f.causes)

/-- The causes below a failure, numbered if there are several. -/
def causeLines : List String → List String
  | [] => []
  | [cause] => ["", "Caused by:", "    " ++ cause]
  | causes =>
    "" :: "Caused by:" :: causes.mapIdx fun i cause => "    " ++ Nat.repr i ++ ": " ++ cause

/-- The last words of a program that ends with this failure. -/
def report (f : Failure) : String :=
  String.join ((("Error: " ++ f.message) :: causeLines f.causes).map (· ++ "\n"))

end Failure

/-- The reasons for which a text file cannot be read or written. -/
inductive FileError where
  | notFound
  | isDirectory
  | notADirectory
  | nameTooLong
  | notUtf8
  | other (text : String)
  deriving DecidableEq

namespace FileError

def message : FileError → String
  | .notFound => "No such file or directory (os error 2)"
  | .isDirectory => "Is a directory (os error 21)"
  | .notADirectory => "Not a directory (os error 20)"
  | .nameTooLong => "File name too long (os error 36)"
  | .notUtf8 => "stream did not contain valid UTF-8"
  | .other text => text

def failure (e : FileError) (action path : String) : Failure :=
  ⟨"could not " ++ action ++ " `" ++ path ++ "`", [e.message]⟩

/-- The text that a file of these bytes holds. -/
def decode (bytes : ByteArray) : Except FileError String :=
  match String.fromUTF8? bytes with
  | some text => .ok text
  | none => .error .notUtf8

end FileError

end CalcBench
