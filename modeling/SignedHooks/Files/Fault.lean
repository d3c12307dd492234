/-
# Faults of files

Why a file cannot be read or written. Most faults are those of the system,
with its number; one is that a file that should be a text is none.

Key definitions: `Files.Fault`, `Files.Fault.message`.
-/

namespace SignedHooks
namespace Files

/-- Why a file cannot be read or written. -/
inductive Fault where
  /-- There is no file of this name, or no directory on the way. -/
  | missing
  /-- Something on the way is no directory. -/
  | notADirectory
  /-- The name is that of a directory. -/
  | isADirectory
  /-- The name is too long. -/
  | nameTooLong
  /-- The file is no text. -/
  | notText
  /-- The system says something else. -/
  | other (message : String)
  deriving DecidableEq, Repr

/-- The wording of a fault of the system, with its number. -/
def systemMessage (text : String) (number : Nat) : String :=
  text ++ " (os error " ++ toString number ++ ")"

/-- The wording of a fault. -/
def Fault.message : Fault → String
  | .missing => systemMessage "No such file or directory" 2
  | .notADirectory => systemMessage "Not a directory" 20
  | .isADirectory => systemMessage "Is a directory" 21
  | .nameTooLong => systemMessage "File name too long" 36
  | .notText => "stream did not contain valid UTF-8"
  | .other message => message

end Files
end SignedHooks
