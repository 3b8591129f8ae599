/-
  RetryControl.Settings.Files
  ────────────────────────────────
  **FILES OF SETTINGS.**

  What stands where, where the name of a file leads, what format the name says
  the file has, and what settings its text gives.  Files below the working
  directory are found by their absolute paths, too.
-/
import RetryControl.Json.Read
import RetryControl.Settings.Basic
import RetryControl.Settings.Node
import RetryControl.Toml.Read

namespace RetryControl

/-! ## §1. The file system. -/

/-- What stands at a path. -/
inductive Place where
  /-- A directory, from which steps lead on. -/
  | directory
  /-- A file with its text. -/
  | file (text : String)
  /-- Anything else, such as a device. -/
  | other
  deriving DecidableEq

/-- Places that systems commonly have, by their paths from the top. -/
def commonPlaces : List (List String × Place) :=
  [ (["bin"], .directory), (["bin", "sh"], .file ""), (["boot"], .directory),
    (["dev"], .directory), (["dev", "full"], .other), (["dev", "null"], .other),
    (["dev", "random"], .other), (["dev", "tty"], .other), (["dev", "urandom"], .other),
    (["dev", "zero"], .other), (["etc"], .directory), (["etc", "group"], .file ""),
    (["etc", "hosts"], .file ""), (["etc", "passwd"], .file ""), (["home"], .directory),
    (["lib"], .directory), (["media"], .directory), (["mnt"], .directory), (["opt"], .directory),
    (["proc"], .directory), (["root"], .directory), (["run"], .directory),
    (["sbin"], .directory), (["srv"], .directory), (["sys"], .directory), (["tmp"], .directory),
    (["usr"], .directory), (["usr", "bin"], .directory), (["usr", "lib"], .directory),
    (["var"], .directory) ]

/-- What a program finds around it when it starts. -/
structure Surroundings where
  /-- The texts of the files below the working directory, by their paths from it. -/
  files : List (List String × String) := []
  /-- What else there is, by the paths from the top of the system. -/
  system : List (List String × Place) := commonPlaces
  /-- The variables of the environment. -/
  environment : List (String × String) := []
  /-- The absolute path of the working directory. -/
  workingDirectory : String
  /-- The directory for the user's settings, from the working directory. -/
  userDirectory : List String

/-- A path as the names on the way. -/
def stepsOfPath (path : String) : List String := (path.toList.splitOn '/').map String.ofList

/-- Steps without those that stay where they are. -/
def movingSteps (steps : List String) : List String := steps.filter fun s => s ≠ "" ∧ s ≠ "."

/-- The path of the top of the system: an absolute path starts with the empty name. -/
def topPath : List String := [""]

/-- The path of the directory that a path stands in; the top stands in itself. -/
def parentPath (path : List String) : List String :=
  if path = topPath then topPath else path.dropLast

/-- The steps from a directory to a path, through the last directory that both paths have in
common. -/
def stepsFrom : List String → List String → List String
  | b :: base, p :: path =>
    if b = p then stepsFrom base path else (b :: base).map (fun _ => "..") ++ p :: path
  | base, path => base.map (fun _ => "..") ++ path

namespace Surroundings

/-- The path of the working directory. -/
def home (around : Surroundings) : List String :=
  let steps := stepsOfPath around.workingDirectory
  steps.take 1 ++ movingSteps (steps.drop 1)

/-- Everything that is listed, by its whole path. -/
def places (around : Surroundings) : List (List String × Place) :=
  (around.files.map fun (path, text) => (around.home ++ path, .file text))
    ++ (around.home, .directory) :: (topPath, .directory)
    :: around.system.map fun (path, place) => (topPath ++ path, place)

/-- What is at a whole path. Directories exist for what is in them. -/
def at? (around : Surroundings) (path : List String) : Option Place :=
  (around.places.lookup path).or
    (if around.places.any fun entry => path.isPrefixOf entry.1 then some .directory else none)

/-- The text of the file at a whole path. -/
def textAt? (around : Surroundings) (path : List String) : Option String :=
  match around.at? path with
  | some (.file text) => some text
  | _ => none

/-- Where a step leads to; steps lead on from directories only. -/
def step? (around : Surroundings) (path : List String) (name : String) : Option (List String) :=
  if around.at? path ≠ some .directory then none
  else if name = "" ∨ name = "." then some path
  else
    let next := if name = ".." then parentPath path else path ++ [name]
    if (around.at? next).isSome then some next else none

/-- Where steps lead to. -/
def walk? (around : Surroundings) (path : List String) (steps : List String) :
    Option (List String) :=
  steps.foldlM around.step? path

end Surroundings

/-! ## §2. Names of files. -/

/-- The name of a file. -/
inductive FileName where
  /-- A path that somebody gave. -/
  | given (path : String)
  /-- A path from the working directory that is written with the whole way to it. -/
  | absolute (steps : List String)
  deriving DecidableEq

/-- A path below a directory, in writing. -/
def joined (directory path : String) : String :=
  if directory.toList.getLast? = some '/' then directory ++ path else directory ++ "/" ++ path

namespace FileName

/-- The names on the way to a file, from the top of the system for an absolute path and from the
working directory otherwise. -/
def steps : FileName → List String
  | .given path => stepsOfPath path
  | .absolute steps => steps

/-- The name leads on from the top of the system. -/
def startsAtTop : FileName → Bool
  | .given path => path.toList.head? = some '/'
  | .absolute _ => false

/-- The path of the directory that the steps of a name start from. -/
def start (around : Surroundings) (name : FileName) : List String :=
  if name.startsAtTop then topPath else around.home

/-- The name of a file as it was given. -/
def text (around : Surroundings) : FileName → String
  | .given path => path
  | .absolute steps => joined around.workingDirectory ("/".intercalate steps)

/-- The name of a file with the whole way to it. -/
def wholeText (around : Surroundings) (name : FileName) : String :=
  match name with
  | .given path => if name.startsAtTop then path else joined around.workingDirectory path
  | name => name.text around

end FileName

/-- The whole path of what a name leads to; the empty name leads nowhere. -/
def Surroundings.find? (around : Surroundings) (name : FileName) : Option (List String) :=
  if name = .given "" then none else around.walk? (name.start around) name.steps

/-! ## §3. Formats. -/

/-- The format of a file. -/
inductive Format where
  /-- TOML. -/
  | toml
  /-- JSON. -/
  | json
  deriving DecidableEq

namespace Format

/-- Every format with what ends the names of its files. -/
def extensions : List (String × Format) := [("toml", .toml), ("json", .json)]

/-- What ends the name of a file after its last point, which may not be its first character. -/
def extensionOf (name : String) : Option String :=
  let reversed := name.toList.reverse
  match reversed.dropWhile (· ≠ '.') with
  | '.' :: _ :: _ => some (String.ofList (reversed.takeWhile (· ≠ '.')).reverse)
  | _ => none

/-- The format of a file of this name. -/
def ofName? (name : String) : Option Format := (extensionOf name).bind fun e => extensions.lookup e

/-- The settings that a text gives, by their keys; none if it is malformed. -/
def source? (format : Format) (origin text : String) : Option (List (String × Node)) :=
  match format with
  | .toml => (Toml.read text).map (Node.ofTomlMembers (some origin))
  | .json =>
    match Json.read text with
    | .ok (.object members) => some (Node.ofJsonMembers (some origin) members)
    | _ => none

end Format

/-! ## §4. Reading files. -/

/-- The file to read for a name: the steps to it, where it is and its format. -/
structure Located where
  /-- The steps to it from the working directory, as they are shown. -/
  shown : List String
  /-- Where it is. -/
  path : List String
  /-- Its format. -/
  format : Format
  deriving DecidableEq

/-- What settings from the file are said to come from. -/
def Located.origin (located : Located) : String := "/".intercalate located.shown

namespace Surroundings

/-- The steps of a path from the working directory, as they are shown. -/
def shown (around : Surroundings) (name : FileName) (steps : List String) : List String :=
  stepsFrom around.home (name.start around ++ steps)

/-- The file with a name that an ending of a format is added to, if there is one. -/
def withExtension? (around : Surroundings) (name : FileName) : Option Located :=
  match (movingSteps name.steps).getLast? with
  | none => none
  | some last =>
    if last = ".." then none
    else
      Format.extensions.findSome? fun (ending, format) =>
        let steps := (movingSteps name.steps).dropLast ++ [last ++ "." ++ ending]
        match around.walk? (name.start around) steps with
        | some path =>
          if (around.textAt? path).isSome then some ⟨around.shown name steps, path, format⟩
          else none
        | none => none

/-- The file to read for a name. A name of something that is no file stands for the file that has an
ending of a format besides. -/
def locate (around : Surroundings) (name : FileName) : Except SettingsError Located :=
  match around.find? name with
  | none => .error (.fileNotFound (name.text around))
  | some path =>
    if (around.textAt? path).isSome then
      match Format.ofName? (path.getLast?.getD "") with
      | some format => .ok ⟨around.shown name (movingSteps name.steps), path, format⟩
      | none =>
        .error (.load ("configuration file \"" ++ name.wholeText around
          ++ "\" is not of a registered file format"))
    else
      match around.withExtension? name with
      | some located => .ok located
      | none => .error (.load ("configuration file \"" ++ name.text around ++ "\" not found"))

/-- The settings that the file of a name gives, by their keys. -/
def source (around : Surroundings) (name : FileName) :
    Except SettingsError (List (String × Node)) := do
  let located ← around.locate name
  match (around.textAt? located.path).bind (located.format.source? located.origin) with
  | some entries => .ok entries
  | none => .error .fileMalformed

end Surroundings

end RetryControl
