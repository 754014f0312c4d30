import StructSync.CommandLine.Machine

/-!
# Workspaces

A machine held in a value: a tree of folders and files, the folder in which the work is done, an
environment, and all that was written to the two streams. Nobody is there to answer questions.
-/

namespace StructSync

/-- A machine held in a value. Files and folders are named by the parts of their paths from the
top of the tree. -/
structure Workspace where
  files : List (List String × String)
  folders : List (List String)
  /-- files that stay empty, whatever is written to them -/
  sinks : List (List String)
  /-- the folder in which relative paths start -/
  home : List String
  environment : List (String × String)
  output : String
  errors : String
  timestamp : String
  elapsed : String

namespace Workspace

/-- What a path leads to. -/
inductive Place where
  | folder
  | sink
  | file (path : List String) (text : String)
  /-- nothing yet, but a file may be put there -/
  | free (path : List String)
deriving DecidableEq

variable (w : Workspace)

/-- The place of those parts, below a folder that exists. -/
def place (path : List String) : Place :=
  if path.isEmpty || w.folders.contains path then .folder
  else if w.sinks.contains path then .sink
  else
    match w.files.lookup path with
    | some text => .file path text
    | none => .free path

/-- Follows the parts of a path from a place. The top of the tree is above itself. -/
def walk (here : List String) : List String → Except FileFault Place
  | [] => .ok (w.place here)
  | part :: rest =>
    match w.place here with
    | .file .. | .sink => .error .notDirectory
    | .free _ => .error .notFound
    | .folder =>
      if part.isEmpty || part == "." then walk here rest
      else if part == ".." then walk here.dropLast rest
      else if part.utf8ByteSize > 255 then .error .nameTooLong
      else walk (here ++ [part]) rest

/-- What is wrong with a path wherever it may lead. -/
def pathFault? (path : String) : Option FileFault :=
  if path.contains '\x00' then some .nulCharacter
  else if path.isEmpty then some .notFound
  else if path.utf8ByteSize ≥ 4096 then some .nameTooLong
  else none

/-- What the path leads to. -/
def find (path : String) : Except FileFault Place :=
  match pathFault? path with
  | some fault => .error fault
  | none => w.walk (if path.startsWith "/" then [] else w.home) (path.splitOn "/")

/-- What the path leads to when a file is to be put there. A path that ends in `/` can only name a
folder. -/
def findNew (path : String) : Except FileFault Place :=
  let trimmed := String.ofList (path.toList.reverse.dropWhile (· == '/')).reverse
  match pathFault? path with
  | some fault => .error fault
  | none =>
    if path.endsWith "/" && !trimmed.isEmpty then
      match w.find trimmed with
      | .ok _ => .error .isDirectory
      | .error fault => .error fault
    else w.find path

/-- The workspace with a file put at a path. -/
def put (path : List String) (text : String) : Workspace :=
  { w with files := (path, text) :: w.files.filter (·.1 != path) }

def readFile (path : String) : Except FileFault String :=
  match w.find path with
  | .error fault => .error fault
  | .ok .folder => .error .isDirectory
  | .ok (.free _) => .error .notFound
  | .ok .sink => .ok ""
  | .ok (.file _ text) => .ok text

def writeFile (path text : String) : Except FileFault Unit × Workspace :=
  match w.findNew path with
  | .error fault => (.error fault, w)
  | .ok .folder => (.error .isDirectory, w)
  | .ok .sink => (.ok (), w)
  | .ok (.free parts) | .ok (.file parts _) => (.ok (), w.put parts text)

def appendFile (path text : String) : Workspace :=
  match w.findNew path with
  | .ok (.free parts) => w.put parts text
  | .ok (.file parts before) => w.put parts (before ++ text)
  | _ => w

def fileExists (path : String) : Bool :=
  match w.find path with
  | .ok .folder | .ok .sink | .ok (.file ..) => true
  | _ => false

end Workspace

instance : Machine (StateM Workspace) where
  readFile path := do return (← get).readFile path
  writeFile path text := modifyGet fun w => w.writeFile path text
  appendFile path text := modify fun w => w.appendFile path text
  fileExists path := do return (← get).fileExists path
  environment? name := do return (← get).environment.lookup name
  outputIsTerminal := return false
  print text := modify fun w => { w with output := w.output ++ text }
  printError text := modify fun w => { w with errors := w.errors ++ text }
  ask := Confirmer.unattended
  timestamp := do return (← get).timestamp
  elapsed := do return (← get).elapsed

end StructSync
