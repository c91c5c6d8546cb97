/-
**A folder of files.**

Settings are read from files in one folder. A path is a text with slashes between its parts; empty
parts and single points mean nothing. `Files.find` walks along a path: every part but the last has to
be a folder, two points lead back out of it, and what lies outside the one folder is not known. A part
of more than 255 bytes that the walk comes to, or a path of 4096 bytes or more, is refused.
-/

import AlarmFeed.Text.Utf8

namespace AlarmFeed

/-- What stands under a path. -/
inductive Entry
  | file (content : Bytes)
  | folder
  deriving DecidableEq

/-- Entries under the parts of their paths. -/
abbrev Files := List (List Text × Entry)

namespace Path

/-- Whether a path starts at the root of all folders. -/
def isAbsolute (path : Text) : Bool :=
  path.head? == some (CodePoint.ofChar '/')

/-- The parts of a path that mean something. -/
def parts (path : Text) : List Text :=
  (Text.splitOn '/' path).filter fun part => part != [] && part != "."

/-- The slashes in front of a path: two stay two, and more are one. -/
def root (path : Text) : Text :=
  match (path.takeWhile fun (c : CodePoint) => c == '/').length with
  | 0 => []
  | 2 => "//"
  | _ => "/"

/-- A path without the parts that mean nothing. -/
def normal (path : Text) : Text :=
  match root path ++ Text.joinWith "/" (parts path) with
  | [] => "."
  | t => t

/-- A surrogate that stands for one byte of a path. -/
def isEscapedByte (c : CodePoint) : Bool :=
  0xDC80 ≤ c.val && c.val ≤ 0xDCFF

/-- Whether a path can be asked for at all. -/
def isPossible (path : Text) : Bool :=
  path.all fun c => c.val != 0 && (!c.isSurrogate || isEscapedByte c)

/-- How many bytes a path or a part of one takes. -/
def size (path : Text) : Nat :=
  path.foldl (fun bytes c => bytes + if isEscapedByte c then 1 else Utf8.pointLength c) 0

/-- The most bytes that a part may have. -/
def partLimit : Nat := 255

/-- The number of bytes from which on a path is too long. -/
def limit : Nat := 4096

end Path

namespace Files

/-- What stands under some parts; the folder itself is always there. -/
def entryAt? (files : Files) (parts : List Text) : Option Entry :=
  if parts = [] then some .folder
  else (files.find? fun (known, _) => known == parts).map Prod.snd

/-- What a path leads to. -/
inductive Found
  | content (bytes : Bytes)
  | nothing
  | tooLong
  deriving DecidableEq

/-- Walks on outside the folder, where no name is known. -/
def walkOutside : List Text → Found
  | [] => .nothing
  | part :: rest =>
    if part = ".." then walkOutside rest
    else if Path.partLimit < Path.size part then .tooLong
    else .nothing

/-- Walks on inside the folder, from what stands under some parts. -/
def walk (files : Files) (place : List Text) : List Text → Found
  | [] =>
    match entryAt? files place with
    | some (.file bytes) => .content bytes
    | _ => .nothing
  | part :: rest =>
    if entryAt? files place ≠ some .folder then .nothing
    else if part = ".." then
      if place = [] then walkOutside rest else walk files place.dropLast rest
    else if Path.partLimit < Path.size part then .tooLong
    else walk files (place ++ [part]) rest

/-- What a path leads to. -/
def find (files : Files) (path : Text) : Found :=
  if !Path.isPossible path then .nothing
  else if Path.limit ≤ Path.size (Path.normal path) then .tooLong
  else if Path.isAbsolute path then walkOutside (Path.parts path)
  else walk files [] (Path.parts path)

/-- Goes one part further and makes a folder there if nothing is there. -/
def enter (reached : Files × List Text) (part : Text) : Files × List Text :=
  let (files, place) := reached
  if part = ".." then (files, place.dropLast)
  else
    let place := place ++ [part]
    if (entryAt? files place).isSome then (files, place) else ((place, .folder) :: files, place)

/-- Goes along a path and makes the folders that are missing. -/
def reach (files : Files) (parts : List Text) : Files × List Text :=
  parts.foldl enter (files, [])

/-- Puts a folder under a path, unless something is there. -/
def makeFolder (files : Files) (path : Text) : Files :=
  (reach files (Path.parts path)).1

/-- The entries that are neither under a path nor inside it. -/
def remove (files : Files) (path : Text) : Files :=
  let place := (reach files (Path.parts path)).2
  files.filter fun (known, _) => !place.isPrefixOf known

/-- Puts a file under a path, and the folders around it that are missing. -/
def write (files : Files) (path : Text) (content : Bytes) : Files :=
  let (files, folder) := reach files (Path.parts path).dropLast
  match (Path.parts path).getLast? with
  | some name => (folder ++ [name], .file content) :: remove files path
  | none => files

end Files

end AlarmFeed
