import TableLoad.Command.Files
import TableLoad.Command.Path
import TableLoad.Text.Bytes

/-! # Folders

Files as a value: a tree of folders with one of them as the working folder.  It gives a command
its files without any effect outside.
-/
namespace TableLoad

/-- A tree of folders.  Places are lists of names from the root. -/
structure Folder where
  /-- The working folder, from which paths start. -/
  working : List String
  files : List (List String × String)
  made : List (List String) := []
  deriving Repr

namespace Folder

def file? (f : Folder) (place : List String) : Option String := f.files.lookup place

/-- Whether a place is a folder: one that was made, or one on the way to another place. -/
def isFolder (f : Folder) (place : List String) : Bool :=
  (f.working :: f.made).any place.isPrefixOf ||
    f.files.any fun (p, _) => place.isPrefixOf p && place != p

def start (f : Folder) (path : String) : List String :=
  if path.startsWith "/" then [] else f.working

/-- A file system takes names of up to 255 bytes. -/
def isTooLong (name : String) : Bool := 255 < Text.byteLength name.toList

/-- The place to which steps lead from the place `here`; all before the last must be folders. -/
def walk (f : Folder) (here : List String) : List String → Except FileFault (List String)
  | [] => .ok here
  | step :: rest =>
    if f.isFolder here then
      if step == "" || step == "." then f.walk here rest
      else if step == ".." then f.walk here.dropLast rest
      else if isTooLong step then .error .nameTooLong
      else f.walk (here ++ [step]) rest
    else if (f.file? here).isSome then .error .notFolder
    else .error .notFound

def find (f : Folder) (path : String) : Except FileFault (List String) :=
  if path.isEmpty then .error .notFound else f.walk (f.start path) (Path.steps path)

def isPresent (f : Folder) (path : String) : Bool :=
  match f.find path with
  | .ok place => f.isFolder place || (f.file? place).isSome
  | .error _ => false

def read (f : Folder) (path : String) : Except FileFault String :=
  match f.find path with
  | .error fault => .error fault
  | .ok place =>
    if f.isFolder place then .error .isFolder
    else match f.file? place with
      | some text => .ok text
      | none => .error .notFound

def put (f : Folder) (place : List String) (text : String) : Folder :=
  { f with files := (f.files.filter fun (p, _) => p != place) ++ [(place, text)] }

def write (f : Folder) (path text : String) : Except FileFault Folder :=
  match f.find path with
  | .error fault => .error fault
  | .ok place => if f.isFolder place then .error .isFolder else .ok (f.put place text)

/-- The tree after folders are made for all steps from the place `here` on. -/
def makeSteps (f : Folder) (here : List String) : List String → Except FileFault Folder
  | [] => .ok f
  | step :: rest =>
    if step == "." then f.makeSteps here rest
    else if step == ".." then f.makeSteps here.dropLast rest
    else if isTooLong step then .error .nameTooLong
    else
      let next := here ++ [step]
      if f.isFolder next then f.makeSteps next rest
      else if (f.file? next).isSome then .error (if rest.isEmpty then .taken else .notFolder)
      else { f with made := f.made ++ [next] }.makeSteps next rest

def makeFolder (f : Folder) (path : String) : Except FileFault Folder :=
  f.makeSteps (f.start path) ((Path.steps path).filter (· != ""))

/-- An operation that changes the tree, unless it fails. -/
def change (operation : Folder → Except FileFault Folder) :
    StateM Folder (Except FileFault Unit) := fun f =>
  match operation f with
  | .ok next => (.ok (), next)
  | .error fault => (.error fault, f)

def access : Files (StateM Folder) where
  isPresent path := fun f => (f.isPresent path, f)
  read path := fun f => (f.read path, f)
  makeFolder path := change fun f => f.makeFolder path
  write path text := change fun f => f.write path text

/-- The files under the working folder, by their paths from there. -/
def listing (f : Folder) : List (String × String) :=
  f.files.filterMap fun (place, text) =>
    if f.working.isPrefixOf place then
      some ("/".intercalate (place.drop f.working.length), text)
    else none

end Folder

end TableLoad
