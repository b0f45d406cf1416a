/-
# Reading files

Templates are read from files. A relative path is followed beneath the working folder and may not
lead out of it, not even for a while; an absolute path has to end in the name of a file. The folder
of this module is a value: the files in it with their texts. A path leads through folders, and a
folder is there as soon as a file lies in it.
-/

import StackDeploy.Text.Percent

namespace StackDeploy.CommandLine

/-- Why a file cannot be read. -/
inductive ReadError where
  | notFound
  | notFolder
  | isFolder
  | nameTooLong
  /-- The path leads out of the working folder. -/
  | outside
  /-- The path is the root. -/
  | noParent (path : String)
  /-- The path ends in the folder above. -/
  | noFileName (path : String)
  /-- The file holds no text. -/
  | notText
  /-- Another cause, in words. -/
  | reported (cause : String)
deriving DecidableEq

/-- The wording of a read error. -/
def ReadError.message : ReadError → String
  | .notFound => "No such file or directory (os error 2)"
  | .notFolder => "Not a directory (os error 20)"
  | .isFolder => "Is a directory (os error 21)"
  | .nameTooLong => "File name too long (os error 36)"
  | .outside => "a path led outside of the filesystem"
  | .noParent path => "path has no parent directory: " ++ path
  | .noFileName path => "path has no file name: " ++ path
  | .notText => "stream did not contain valid UTF-8"
  | .reported cause => cause

/-- The segments of a path. -/
def segments (path : String) : List String :=
  (path.toList.splitOn '/').map String.ofList

/-- Whether a segment leads nowhere. -/
def isIdle (segment : String) : Bool :=
  segment.isEmpty || segment == "."

/-- Whether a path starts at the root. -/
def isAbsolute (path : String) : Bool :=
  path.toList.head? == some '/'

/-- Checks that an absolute path ends in the name of a file. -/
def checkAbsolute (path : String) : Except ReadError Unit :=
  match ((segments path).filter fun segment => !isIdle segment).getLast? with
  | none => .error (.noParent path)
  | some last => if last = ".." then .error (.noFileName path) else .ok ()

/-- Whether segments lead out of a folder from some depth within it. -/
def leadsOutside : Nat → List String → Bool
  | _, [] => false
  | depth, segment :: rest =>
    if isIdle segment then leadsOutside depth rest
    else if segment = ".." then depth == 0 || leadsOutside (depth - 1) rest
    else leadsOutside (depth + 1) rest

/-- Checks that a path may be followed: it ends in the name of a file if it is absolute, and stays
within the working folder if not. -/
def checkPath (path : String) : Except ReadError Unit :=
  if isAbsolute path then checkAbsolute path
  else if leadsOutside 0 (segments path) then .error .outside
  else .ok ()

/-- The greatest number of bytes in a segment. -/
def longestSegment : Nat := 255

/-- The files of a folder by their segments. -/
abbrev Folder : Type := List (List String × String)

namespace Folder

/-- A folder of files by their paths. -/
def ofFiles (files : List (String × String)) : Folder :=
  files.map fun file => ((segments file.1).filter fun segment => !isIdle segment, file.2)

/-- The text of the file at a place. -/
def text? (f : Folder) (place : List String) : Option String :=
  (f.find? fun file => file.1 = place).map Prod.snd

/-- Whether there is a folder at a place. -/
def hasFolder (f : Folder) (place : List String) : Bool :=
  place.isEmpty || f.any fun file => place.isPrefixOf file.1 && place.length < file.1.length

/-- Follows segments from a folder within this one. -/
def follow (f : Folder) : List String → List String → Except ReadError String
  | _, [] => .error .isFolder
  | place, segment :: rest =>
    if isIdle segment then f.follow place rest
    else if segment = ".." then
      if place.isEmpty then .error .outside else f.follow place.dropLast rest
    else if longestSegment < (Text.bytes segment).length then .error .nameTooLong
    else
      let inside := place ++ [segment]
      if f.hasFolder inside then f.follow inside rest
      else
        match f.text? inside, rest with
        | none, _ => .error .notFound
        | some text, [] => .ok text
        | some _, _ :: _ => .error .notFolder

/-- Reads the file at a path. Nothing is known of what lies outside. -/
def read (f : Folder) (path : String) : Except ReadError String :=
  if isAbsolute path then (checkAbsolute path).bind fun _ => .error .notFound
  else if path.isEmpty then .error .notFound
  else f.follow [] (segments path)

end Folder

end StackDeploy.CommandLine
