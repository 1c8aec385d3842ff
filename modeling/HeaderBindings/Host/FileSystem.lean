import HeaderBindings.Host.Path
import HeaderBindings.Text.Quoted

/-!
# Files

The files and directories below the working directory, as far as a run can tell them apart: whether
a path leads to a file that can be read, and what comes of opening a path to write. Of what lies
outside the working directory, the directories above it and the usual ones of a system are known to
exist. What opening a path depends on besides, such as permissions, links, devices and the space
that is left, is not computed: any outcome of opening may be given with its path. A file that was
opened takes the whole text.
-/

namespace HeaderBindings

/-- The place of a file or directory: the names on the way to it. -/
abbrev Location := List String

/-- What comes of opening a path to write. -/
inductive Opening where
  | refused (reason : String)
  | opened (location : Location)
  deriving Repr, DecidableEq

/-- Files with their contents, and directories. -/
structure FileSystem where
  files : List (Location × String) := []
  directories : List Location := []
  /-- The files that must not be read. -/
  unreadable : List Location := []
  /-- What comes of opening paths, where it does not follow from the files and directories. -/
  openings : List (String × Opening) := []
  deriving Repr

inductive Spot where
  | directory (location : Location)
  | file (location : Location)
  | missing
  /-- Through a file, as if it were a directory. -/
  | blocked
  /-- To nothing, because of a name that is longer than the name of a file can be. -/
  | unnameable
  deriving Repr, DecidableEq

inductive WriteFault where
  | noSuchFile
  | notADirectory
  | isADirectory
  | nameTooLong
  deriving Repr, DecidableEq

def WriteFault.message (path : String) : WriteFault → String
  | .noSuchFile => "[Errno 2] No such file or directory: " ++ Text.quoted path
  | .notADirectory => "[Errno 20] Not a directory: " ++ Text.quoted path
  | .isADirectory => "[Errno 21] Is a directory: " ++ Text.quoted path
  | .nameTooLong => "[Errno 36] File name too long: " ++ Text.quoted path

namespace FileSystem

/-- The largest size of the name of a file, in bytes. -/
def maxNameSize : Nat := 255

/-- The largest size of a path, in bytes. -/
def maxPathSize : Nat := 4095

/-- Directories that every system has. -/
def systemDirectories : List Location :=
  ["bin", "boot", "dev", "etc", "home", "lib", "media", "mnt", "opt", "proc", "root", "run", "sbin",
    "srv", "sys", "tmp", "usr", "var"].map (["/", ·]) ++
  ["bin", "include", "lib", "local", "sbin", "share", "src"].map (["/", "usr", ·]) ++
  ["bin", "include", "lib", "share"].map (["/", "usr", "local", ·])

/-- Whether a location is that of a known directory outside the working directory, or the working
    directory itself. -/
def isOuterDirectory (location : Location) : Bool :=
  location.all (· == "..") || location == ["/"] || systemDirectories.contains location

def isOutside (location : Location) : Bool :=
  location.head?.any fun name => name == ".." || name == "/"

def parent (location : Location) : Location :=
  if location = ["/"] then location
  else if location.all (· == "..") then location ++ [".."]
  else location.dropLast

def startOf (path : String) : Location :=
  if path.toList.head? = some '/' then ["/"] else []

/-- The location that a path names, as far as every directory on the way exists. -/
def locationOf (path : String) : Location :=
  (Path.steps path).foldl
    (fun location step => if step = ".." then parent location else location ++ [step])
    (startOf path)

def ofPaths (files : List (String × String)) (directories : List String) : FileSystem :=
  { files := files.map fun (path, text) => (locationOf path, text)
    directories := directories.map locationOf }

variable (fs : FileSystem)

/-- Whether there is a directory at a location. A directory that holds something is there. -/
def isDirectoryAt (location : Location) : Bool :=
  isOuterDirectory location || fs.directories.any location.isPrefixOf ||
    fs.files.any fun (file, _) => file ≠ location && location.isPrefixOf file

def textAt? (location : Location) : Option String :=
  fs.files.lookup location

/-- Where the segments of a path lead from a directory. -/
def walk : Location → List String → Spot
  | directory, [] => .directory directory
  | directory, segment :: rest =>
      if segment = "" || segment = "." then walk directory rest
      else if segment = ".." then walk (parent directory) rest
      else
        let location := directory ++ [segment]
        if segment.utf8ByteSize > maxNameSize then .unnameable
        else if (fs.textAt? location).isSome then
          if rest.isEmpty then .file location else .blocked
        else if fs.isDirectoryAt location then walk location rest
        else .missing

def find (path : String) : Spot :=
  if path = "" then .missing
  else if path.utf8ByteSize > maxPathSize then .unnameable
  else fs.walk (startOf path) (Path.segments path)

def isFile (path : String) : Bool :=
  match fs.find path with
  | .file _ => true
  | _ => false

/-- Whether a path leads to a file that can be read. No file has a null in its path. -/
def isReadable (path : String) : Bool :=
  !path.toList.contains '\x00' &&
    match fs.find path with
    | .file location => !fs.unreadable.contains location
    | _ => false

def isDirectory (path : String) : Bool :=
  match fs.find path with
  | .directory _ => true
  | _ => false

/-- The location of the file that writing to a path creates or changes, as far as the files and
    directories tell. A path that ends in a slash is one of a directory. -/
def target (path : String) : Except WriteFault Location :=
  if path = "" then .error .noSuchFile
  else if path.utf8ByteSize > maxPathSize then .error .nameTooLong
  else
    let segments := Path.segments path
    match (segments.reverse.dropWhile (· = "")) with
    | [] => .error .isADirectory
    | name :: before =>
        match fs.walk (startOf path) before.reverse with
        | .missing => .error .noSuchFile
        | .blocked | .file _ => .error .notADirectory
        | .unnameable => .error .nameTooLong
        | .directory directory =>
            let location := directory ++ [name]
            if segments.getLast? = some "" || name = "." || name = ".." ||
                fs.isDirectoryAt location then
              .error .isADirectory
            else if name.utf8ByteSize > maxNameSize then .error .nameTooLong
            else .ok location

/-- What comes of opening a path to write. -/
def opening (path : String) : Opening :=
  match fs.openings.lookup path with
  | some opening => opening
  | none =>
      match fs.target path with
      | .ok location => .opened location
      | .error fault => .refused (fault.message path)

/-- The files after a text was put in a place. -/
def put (location : Location) (text : String) : FileSystem :=
  { fs with files := (location, text) :: fs.files.filter fun (file, _) => file ≠ location }

/-- The files below the working directory that an earlier file system does not have, or has with
    another text. -/
def changedSince (before : FileSystem) : List (String × String) :=
  (fs.files.filter fun (location, text) =>
      !isOutside location && before.textAt? location ≠ some text).map
    fun (location, text) => ("/".intercalate location, text)

end FileSystem

end HeaderBindings
