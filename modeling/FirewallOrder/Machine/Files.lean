/-!
# Files

What can be read under a path: some bytes, or why there are none. Most of what is read is wanted as
a text. A tree of files is given by the paths of its files; the directories are those in which a
file lies.
-/

namespace FirewallOrder

/-- Why nothing, or no text, can be read under a path. -/
inductive FileFault
  | missing
  | isDirectory
  | notDirectory
  | denied
  /-- What is there is no text. -/
  | notText
  deriving DecidableEq, Repr

def FileFault.message : FileFault → String
  | .missing => "No such file or directory (os error 2)"
  | .isDirectory => "Is a directory (os error 21)"
  | .notDirectory => "Not a directory (os error 20)"
  | .denied => "Permission denied (os error 13)"
  | .notText => "stream did not contain valid UTF-8"

/-- The files of a machine: the bytes that are read under each path. -/
structure Files where
  bytes : String → Except FileFault ByteArray

namespace Files

/-- The text that is read under a path. -/
def read (files : Files) (path : String) : Except FileFault String :=
  match files.bytes path with
  | .error fault => .error fault
  | .ok bytes =>
    match String.fromUTF8? bytes with
    | some text => .ok text
    | none => .error .notText

/-- A path below a directory. -/
def below (directory path : String) : String :=
  if directory == "" || directory.toList.getLast? = some '/' then directory ++ path
  else directory ++ "/" ++ path

/-- The path begins at the root. -/
def isAbsolute (path : String) : Bool := path.toList.head? = some '/'

/-- There is a file under the path, though perhaps one that must not be read. -/
def isFile (files : Files) (path : String) : Bool :=
  match files.bytes path with
  | .ok _ | .error .denied | .error .notText => true
  | .error .missing | .error .isDirectory | .error .notDirectory => false

/-- Where a relative path leads from other directories. -/
def elsewhere (directories : List String) (path : String) : List String :=
  if isAbsolute path then [] else directories.map fun directory => below directory path

/-- The files as they are found by somebody who looks further: if nothing is under a relative path,
in one directory after the other, until there is a file below it. -/
def orBelow (files : Files) (directories : List String) : Files where
  bytes := fun path =>
    match files.bytes path with
    | .error .missing | .error .notDirectory =>
      files.bytes (((elsewhere directories path).find? files.isFile).getD path)
    | found => found

/-- The parts of a path between its slashes. -/
def segments (path : List Char) : List (List Char) :=
  (go [] path).filter (!·.isEmpty)
where
  /-- The parts of the rest of a path, when the last part so far is `part`, in reverse. -/
  go (part : List Char) : List Char → List (List Char)
    | [] => [part.reverse]
    | c :: cs => if c = '/' then part.reverse :: go [] cs else go (c :: part) cs

/-- The directories above that of a whole path, the nearest first. -/
def parents (path : String) : List String :=
  let parts := segments path.toList
  (List.range parts.length).reverse.map fun n =>
    "/" ++ "/".intercalate ((parts.take n).map String.ofList)

/-- The text of the file that lies at a place. -/
def fileAt? (tree : List (List (List Char) × String)) (place : List (List Char)) : Option String :=
  (tree.find? fun file => file.1 == place).map (·.2)

/-- A file lies below the place. -/
def hasDirectory (tree : List (List (List Char) × String)) (place : List (List Char)) : Bool :=
  tree.any fun file => place.isPrefixOf file.1 && place.length < file.1.length

/-- Follows the parts of a path from a directory; a file must not be followed any further. -/
def follow (tree : List (List (List Char) × String)) (place : List (List Char)) :
    List (List Char) → Except FileFault ByteArray
  | [] => .error .isDirectory
  | part :: rest =>
    if part = ['.'] then follow tree place rest
    else if part = ['.', '.'] then follow tree place.dropLast rest
    else
      let next := place ++ [part]
      match fileAt? tree next with
      | some text => if rest.isEmpty then .ok text.toUTF8 else .error .notDirectory
      | none => if hasDirectory tree next then follow tree next rest else .error .missing

/-- The files of a tree, by their whole paths; `directories` are there even if no file lies in them.
A path that does not begin with a slash is followed from `working`. -/
def ofTree (working : String) (directories : List String) (files : List (String × String)) :
    Files where
  bytes := fun path =>
    let tree := files.map fun file => (segments file.1.toList, file.2)
    -- a directory without files is held open by a file that no path can name
    let marks := directories.map fun d => (segments d.toList ++ [[]], "")
    let parts := segments path.toList
    let start := if isAbsolute path then [] else segments working.toList
    let endsInSlash := path.toList.getLast? = some '/' && !parts.isEmpty
    if path == "" then .error .missing
    else follow (tree ++ marks) start (if endsInSlash then parts ++ [['.']] else parts)

end Files

end FirewallOrder
