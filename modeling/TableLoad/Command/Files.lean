/-! # Files

What a command needs of the files around it, as operations of any monad, and what can go wrong
with them.
-/
namespace TableLoad

inductive FileFault where
  | notFound
  | taken
  | notFolder
  | isFolder
  | nameTooLong
  | notText
  | other (description : String)
  deriving DecidableEq, Repr

def FileFault.message : FileFault → String
  | notFound => "No such file or directory (os error 2)"
  | taken => "File exists (os error 17)"
  | notFolder => "Not a directory (os error 20)"
  | isFolder => "Is a directory (os error 21)"
  | nameTooLong => "File name too long (os error 36)"
  | notText => "stream did not contain valid UTF-8"
  | other description => description

/-- The operations on files that a command uses. -/
structure Files (m : Type → Type) where
  isPresent : String → m Bool
  read : String → m (Except FileFault String)
  /-- Makes a folder and those on the way to it; one that is there stays as it is. -/
  makeFolder : String → m (Except FileFault Unit)
  /-- Writes a text to a file, in place of what it held. -/
  write : String → String → m (Except FileFault Unit)

end TableLoad
