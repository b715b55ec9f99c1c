import ChipEight.Fault

/-! # Directories

A name of a file leads, part by part, through directories to what it names. `Directory.find` follows
a name that is given in a directory with some files. Of the other directories nothing is known but
that they are there, so only the names `.` and `..` lead to anything in them. -/

namespace ChipEight

/-- What is found under the name of a file. -/
inductive FileEntry where
  | directory
  | file (bytes : Array UInt8)
  /-- There is nothing that could be opened. -/
  | nothing (why : ReadFailure)
deriving DecidableEq, Repr

/-- A directory that holds files and no directories. -/
structure Directory where
  /-- The files in it, each with its name. -/
  files : List (String × Array UInt8)

namespace Directory

/-- The greatest number of bytes in a part of a name. -/
def maxPartSize : Nat := 255

/-- The greatest number of bytes in a whole name. -/
def maxNameSize : Nat := 4095

/-- How far the parts of a name have led. -/
inductive Place where
  /-- To the directory itself. -/
  | inside
  /-- To another directory. -/
  | outside
  /-- To a file. -/
  | file (bytes : Array UInt8)
deriving DecidableEq, Repr

/-- What is found at a place. -/
def Place.entry : Place → FileEntry
  | .inside | .outside => .directory
  | .file bytes => .file bytes

/-- What a part that is a name of its own leads to in a directory. -/
def named (d : Directory) (place : Place) (part : String) : Except ReadFailure Place :=
  if maxPartSize < part.utf8ByteSize then .error .nameTooLong
  else
    match place, d.files.lookup part with
    | .inside, some bytes => .ok (.file bytes)
    | _, _ => .error .notFound

/-- Follow one part of a name. Nothing leads on from a file, not even a part that is empty or `.`.
In a directory these two lead nowhere else. -/
def step (d : Directory) (place : Place) (part : String) : Except ReadFailure Place :=
  match place with
  | .file _ => .error .notDirectory
  | .inside | .outside =>
    if part = "" ∨ part = "." then .ok place
    else if part = ".." then .ok .outside
    else d.named place part

/-- Where a name starts: a slash in front leads out of the directory. -/
def start (name : String) : Place :=
  if name.startsWith "/" then .outside else .inside

/-- Follow all the parts of a name. -/
def walk (d : Directory) (name : String) : Except ReadFailure Place :=
  (name.splitOn "/").foldlM d.step (start name)

/-- What is found under a name that is given in a directory. A name that cannot be handed on is
refused first, then one without a character in it, then one that is too long as a whole. -/
def find (d : Directory) (name : String) : FileEntry :=
  if name.contains '\x00' then .nothing .nulInName
  else if name = "" then .nothing .notFound
  else if maxNameSize < name.utf8ByteSize then .nothing .nameTooLong
  else
    match d.walk name with
    | .ok place => place.entry
    | .error why => .nothing why

end Directory

end ChipEight
