/-! # Paths

Places of files as text: steps between slashes.
-/
namespace TableLoad.Path

def join (folder file : String) : String :=
  if folder.isEmpty || folder.endsWith "/" then folder ++ file else folder ++ "/" ++ file

/-- The steps of a path, of which blank ones and single points lead nowhere. -/
def steps (path : String) : List String := path.splitOn "/"

/-- The last step that leads somewhere, unless it leads back. -/
def fileName? (path : String) : Option String :=
  match ((steps path).filter fun step => step != "" && step != ".").getLast? with
  | some ".." => none
  | other => other

/-- A file name without its extension, which starts at the last point.  A point at the start is
part of the name. -/
def withoutExtension (name : List Char) : List Char :=
  match (name.reverse.dropWhile (· != '.')).reverse with
  | [] | [_] => name
  | withPoint => withPoint.dropLast

def stem? (path : String) : Option String :=
  (fileName? path).map fun name => String.ofList (withoutExtension name.toList)

end TableLoad.Path
