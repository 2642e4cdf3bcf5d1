import Gatehouse.Bytes

/-!
# Files

A tree of files and directories, the way a path is followed through it, and why a text cannot be
read from a file. A path is followed name by name, so the first name that leads nowhere decides
which fault is reported.
-/

namespace Gatehouse

/-- Why a file does not give a text. -/
inductive FileFault where
  /-- There is no such file. -/
  | missing
  /-- The path goes on behind something that is no directory. -/
  | notDirectory
  /-- The path names a directory. -/
  | directory
  /-- The path, or a name in it, is too long. -/
  | nameTooLong
  /-- The path holds the character with the number zero. -/
  | nulInPath
  /-- The file does not hold UTF-8. -/
  | notText
  deriving DecidableEq, Repr

/-- The wording of a reason. -/
def FileFault.message : FileFault → String
  | missing => "No such file or directory (os error 2)"
  | notDirectory => "Not a directory (os error 20)"
  | directory => "Is a directory (os error 21)"
  | nameTooLong => "File name too long (os error 36)"
  | nulInPath => "file name contained an unexpected NUL byte"
  | notText => "stream did not contain valid UTF-8"

/-- What reading a file gives: its text, or the reason why there is none. -/
abbrev FileContent := Except FileFault String

/-- The text in the bytes of a file. -/
def FileContent.ofBytes (bytes : Bytes) : FileContent :=
  match Bytes.text? bytes with
  | some text => .ok text
  | none => .error .notText

/-- The fault of a path that can name no file, whatever files there are. -/
def FileFault.ofPath? (path : String) : Option FileFault :=
  if path.toList.contains '\x00' then some nulInPath
  else if path.isEmpty then some missing
  else if 4096 ≤ (utf8 path).length then some nameTooLong
  else none

/-- A file, or a directory with what is in it. -/
inductive FileTree where
  /-- A file with its bytes. -/
  | file (content : Bytes)
  /-- A directory with the names in it. -/
  | directory (entries : List (String × FileTree))

namespace FileTree

/-- Follows one name of a path. The trail leads from the place that is reached outwards to the root.
An empty name and a dot stay where they are and two dots go out, yet all of them are names in a
directory only. -/
def step (trail : List FileTree) (name : String) : Except FileFault (List FileTree) :=
  match trail with
  | .directory entries :: outer =>
    if name == "" || name == "." then .ok trail
    else if name == ".." then .ok (if outer.isEmpty then trail else outer)
    else if 255 < (utf8 name).length then .error .nameTooLong
    else
      match entries.lookup name with
      | some found => .ok (found :: trail)
      | none => .error .missing
  | _ => .error .notDirectory

/-- Reads the text that a path names. A path with a slash in front starts at the root, any other at
the trail of the workplace. -/
def read (root : FileTree) (workplace : List FileTree) (path : String) : FileContent :=
  match FileFault.ofPath? path with
  | some fault => .error fault
  | none =>
    let names := (path.toList.splitOn '/').map String.ofList
    let start := if names.head? = some "" then [root] else workplace
    match names.foldlM step start with
    | .error fault => .error fault
    | .ok (.file content :: _) => FileContent.ofBytes content
    | .ok _ => .error .directory

end FileTree

end Gatehouse
