import Reckoner.Fault

/-!
# Folders (files by path)

A path leads from the folder that the program runs in to a file, step by step. An empty
step and a single dot stay where they are, two dots go back, and any other step goes on
to what has that name. Only folders can be stepped through. `Folder.find` says where a
path leads, and `Folder.read` and `Folder.target` what comes of reading and writing
there. Outside the folder there are the folders around it and nothing else, and what is
written into those does not show.
-/

namespace Reckoner

/-- The steps of a path: what stands between its slashes. -/
def Text.steps : Text → List Text
  | [] => [[]]
  | '/' :: rest => [] :: steps rest
  | c :: rest =>
    match steps rest with
    | [] => [[c]]
    | step :: more => (c :: step) :: more

/-- How many bytes a text takes in a path. -/
def Text.bytes (s : Text) : Nat :=
  s.foldl (fun n c => n + c.utf8Size) 0

/-- The files in a folder and in the folders below it, each with the steps that lead
to it. -/
structure Folder where
  files : List (List Text × Text)
  deriving DecidableEq, Repr

/-- What a path leads to. -/
inductive Place where
  | file (path : List Text) (content : Text)
  | folder (path : List Text)
  /-- Nothing, in a folder that there is. -/
  | vacant (path : List Text)
  /-- One of the folders around this one. -/
  | outside
  deriving DecidableEq, Repr

namespace Folder

/-- Whether a step stays where it is. -/
def isIdle (step : Text) : Bool :=
  step.isEmpty || step == ['.']

/-- Whether a step goes back. -/
def isBack (step : Text) : Bool :=
  step == ['.', '.']

/-- Where steps lead from outside: the only folders there are those around this one. -/
def walkOutside (steps : List Text) : Except Obstacle Place :=
  if steps.all fun step => isIdle step || isBack step then .ok .outside else .error .missing

/-- The folder with the given files. -/
def ofList (files : List (Text × Text)) : Folder :=
  ⟨files.map fun (name, content) => (name.steps.filter (!isIdle ·), content)⟩

/-- Whether some file lies below the folder that the steps lead to. -/
def hasFolder (f : Folder) (path : List Text) : Bool :=
  f.files.any fun (steps, _) => path.isPrefixOf steps && path.length < steps.length

/-- The most bytes that one step may take. -/
def longestStep : Nat := 255

/-- The most bytes that a path may take. -/
def longestPath : Nat := 4095

/-- Where the given steps lead from the place `here`. -/
def walk (f : Folder) (here : List Text) : List Text → Except Obstacle Place
  | [] => .ok (.folder here)
  | step :: more =>
    if isIdle step then f.walk here more
    else if isBack step then
      if here.isEmpty then walkOutside more else f.walk here.dropLast more
    else if longestStep < step.bytes then .error .nameTooLong
    else
      let there := here ++ [step]
      match f.files.lookup there with
      | some content => if more.isEmpty then .ok (.file there content) else .error .notFolder
      | none =>
        if f.hasFolder there then f.walk there more
        else if more.isEmpty then .ok (.vacant there)
        else .error .missing

/-- Where a path leads. -/
def find (f : Folder) (path : Text) : Except Obstacle Place :=
  if longestPath < path.bytes then .error .nameTooLong
  else if path.head? = some '/' then walkOutside path.steps
  else f.walk [] path.steps

/-- The content of a file. -/
def read (f : Folder) (path : Text) : Except Fault Text :=
  if path.contains '\x00' then .error .nullInPath
  else
    match f.find path with
    | .ok (.file _ content) => .ok content
    | .ok (.folder _) | .ok .outside => .error (.unusableFile .isFolder path)
    | .ok (.vacant _) => .error (.unusableFile .missing path)
    | .error obstacle => .error (.unusableFile obstacle path)

/-- The path of the folder that a path leads into. -/
def parent (path : Text) : Text :=
  let steps := (path.steps.filter (!isIdle ·)).dropLast
  if path.head? = some '/' then '/' :: Text.joinWith "/" steps
  else if steps.isEmpty then ['.']
  else Text.joinWith "/" steps

/-- The path, without detours, of the file that writing makes; nothing if it lies outside
the folder. No folder is made for it. -/
def target (f : Folder) (path : Text) : Except Fault (Option Text) :=
  match f.find (parent path) with
  | .ok (.folder _) | .ok .outside =>
    if path.contains '\x00' then .error .nullInPath
    else if path.getLast? = some '/' then .error (.unusableFile .isFolder path)
    else
      match f.find path with
      | .ok (.file steps _) | .ok (.vacant steps) => .ok (some (Text.joinWith "/" steps))
      | .ok (.folder _) | .ok .outside => .error (.unusableFile .isFolder path)
      | .error .missing => .ok none
      | .error obstacle => .error (.unusableFile obstacle path)
  | .error .nameTooLong => .error (.unusableFile .nameTooLong (parent path))
  | _ => .error (.noFolder (parent path))

end Folder

end Reckoner
