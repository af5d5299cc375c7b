import SchemaEngine.Disk.Fault
import SchemaEngine.Path.Basic

/-!
# A file system

A tree of files and directories as paths address it. A path is followed segment by segment: an
empty segment and a dot stay where they are, two dots go up, and each of them, like a name, is
followed only from a directory. Every file has the time of its last modification, in nanoseconds;
changes that give no time take the next one of a clock that never stands still.

## Main definitions

* `Disk`: the tree.
* `Disk.resolve`: what a path leads to.
* `Disk.read`, `Disk.write`, `Disk.touch`: reading and writing.
* `Disk.makeDirectories`, `Disk.remove`: making and removing whole trees.
* `FileSystem`: reading and writing texts, whatever does it.
-/

set_option autoImplicit false

namespace SchemaEngine

/-- The names on the way from the root to an entry. -/
abbrev Location := List (List UInt8)

/-- A file or a directory. -/
inductive DiskEntry where
  | file (content : List UInt8) (modified : Int)
  | directory (modified : Int)
  deriving Repr

namespace DiskEntry

/-- The time of the last modification. -/
def modified : DiskEntry → Int
  | file _ time => time
  | directory time => time

/-- The entry with another time of modification. -/
def withTime (time : Int) : DiskEntry → DiskEntry
  | file content _ => .file content time
  | directory _ => .directory time

/-- Whether this is a directory. -/
def isDirectory : DiskEntry → Bool
  | file .. => false
  | directory _ => true

end DiskEntry

/-- A tree of files. -/
structure Disk where
  /-- All entries but the root. -/
  entries : List (Location × DiskEntry) := []
  /-- Where paths begin that do not begin at the root. -/
  home : Location := []
  /-- The time of the next change. -/
  clock : Int := 2000000000000000000
  deriving Repr

/-- What a path leads to. -/
inductive Target where
  /-- An entry. -/
  | found (location : Location) (entry : DiskEntry)
  /-- A name that a directory does not hold; a slash may follow it. -/
  | vacant (directory : Location) (name : List UInt8) (slashed : Bool)
  deriving Repr

namespace Disk

/-- How long a name may be. -/
def nameLimit : Nat := 255

/-- How long a path may be, and one more. -/
def pathLimit : Nat := 4096

/-- The entry at a location. -/
def entry? (disk : Disk) (location : Location) : Option DiskEntry :=
  if location.isEmpty then some (.directory 0)
  else (disk.entries.find? fun e => e.1 == location).map (·.2)

/-- Whether a segment of a path stays where it is. -/
def stays (segment : List UInt8) : Bool :=
  segment.isEmpty || segment == [Path.dot]

/-- Follows segments from a location. -/
def follow (disk : Disk) : Location → List (List UInt8) → Except IoFault Target
  | location, [] =>
    match disk.entry? location with
    | some entry => .ok (.found location entry)
    | none => .error .notFound
  | location, segment :: rest =>
    match disk.entry? location with
    | none => .error .notFound
    | some (.file ..) => .error .notDirectory
    | some (.directory _) =>
      if stays segment then disk.follow location rest
      else if segment = [Path.dot, Path.dot] then disk.follow location.dropLast rest
      else if nameLimit < segment.length then .error .nameTooLong
      else if (disk.entry? (location ++ [segment])).isNone && rest.all List.isEmpty then
        .ok (.vacant location segment (!rest.isEmpty))
      else disk.follow (location ++ [segment]) rest

/-- What a path leads to. -/
def resolve (disk : Disk) (path : Path) : Except IoFault Target :=
  if path.bytes.contains 0 then .error .nullInPath
  else if path.bytes.isEmpty then .error .notFound
  else if pathLimit ≤ path.bytes.length then .error .nameTooLong
  else disk.follow (if path.isAbsolute then [] else disk.home) (Path.splitSlash path.bytes)

/-- The entry that a path leads to. -/
def locate (disk : Disk) (path : Path) : Except IoFault (Location × DiskEntry) :=
  match disk.resolve path with
  | .ok (.found location entry) => .ok (location, entry)
  | .ok (.vacant ..) => .error .notFound
  | .error fault => .error fault

/-- Puts an entry at a location. -/
def setEntry (location : Location) (entry : DiskEntry) (disk : Disk) : Disk :=
  if disk.entries.any fun e => e.1 == location then
    { disk with
      entries := disk.entries.map fun e => if e.1 == location then (location, entry) else e }
  else { disk with entries := disk.entries ++ [(location, entry)] }

/-- The time of a change, and the disk after that time. -/
def tick (disk : Disk) : Int × Disk :=
  (disk.clock, { disk with clock := disk.clock + 1 })

/-- Marks a directory as modified. -/
def stampDirectory (location : Location) (time : Int) (disk : Disk) : Disk :=
  match disk.entry? location with
  | some entry => if location.isEmpty then disk else disk.setEntry location (entry.withTime time)
  | none => disk

/-- The bytes of a file. -/
def read (disk : Disk) (path : Path) : Except IoFault (List UInt8) :=
  match disk.locate path with
  | .error fault => .error fault
  | .ok (_, .directory _) => .error .isDirectory
  | .ok (_, .file content _) => .ok content

/-- The text of a file. -/
def readText (disk : Disk) (path : Path) : Except IoFault String :=
  match disk.read path with
  | .error fault => .error fault
  | .ok content =>
    match Utf8.decode content with
    | some text => .ok text
    | none => .error .notText

/-- Writes a file; the directory that it is in must be there. -/
def write (path : Path) (content : List UInt8) (disk : Disk) : Except IoFault Unit × Disk :=
  match disk.resolve path with
  | .error fault => (.error fault, disk)
  | .ok (.found _ (.directory _)) => (.error .isDirectory, disk)
  | .ok (.found location (.file ..)) =>
    let (time, disk) := disk.tick
    (.ok (), disk.setEntry location (.file content time))
  | .ok (.vacant directory name slashed) =>
    if slashed then (.error .isDirectory, disk)
    else
      let (time, disk) := disk.tick
      let disk := disk.setEntry (directory ++ [name]) (.file content time)
      (.ok (), disk.stampDirectory directory time)

/-- Whether a path leads to a directory. -/
def isDirectory (disk : Disk) (path : Path) : Bool :=
  match disk.locate path with
  | .ok (_, entry) => entry.isDirectory
  | .error _ => false

/-- Makes one directory; the one that it is in must be there. -/
def makeDirectory (path : Path) (disk : Disk) : Except IoFault Disk :=
  match disk.resolve path with
  | .error fault => .error fault
  | .ok (.found ..) => .error .alreadyThere
  | .ok (.vacant directory name _) =>
    let (time, disk) := disk.tick
    .ok ((disk.setEntry (directory ++ [name]) (.directory time)).stampDirectory directory time)

/-- Makes the first of some directories, where each one is in the next. Those that it is in are made
only if it cannot be made without them, and stay even if it cannot be made with them. -/
def makeNested : List Path → Disk → Except IoFault Unit × Disk
  | [], disk => (.ok (), disk)
  | path :: above, disk =>
    match disk.makeDirectory path with
    | .ok disk => (.ok (), disk)
    | .error fault =>
      if disk.isDirectory path then (.ok (), disk)
      else if fault ≠ .notFound then (.error fault, disk)
      else
        match makeNested above disk with
        | (.error fault, disk) => (.error fault, disk)
        | (.ok (), disk) =>
          match disk.makeDirectory path with
          | .ok disk => (.ok (), disk)
          | .error fault => if disk.isDirectory path then (.ok (), disk) else (.error fault, disk)

/-- Makes a directory and those that it is in. -/
def makeDirectories (path : Path) (disk : Disk) : Except IoFault Unit × Disk :=
  disk.makeNested path.upward

/-- Sets the time of modification; false if there is nothing at the path. -/
def touch (path : Path) (time : Int) (disk : Disk) : Bool × Disk :=
  match disk.locate path with
  | .error _ => (false, disk)
  | .ok (location, entry) => (true, disk.setEntry location (entry.withTime time))

/-- Removes the entry at a location. -/
def removeEntry (location : Location) (disk : Disk) : Disk :=
  let (time, disk) := disk.tick
  { disk with entries := disk.entries.filter fun e => !location.isPrefixOf e.1 }.stampDirectory
    location.dropLast time

/-- Whether an entry is below a location. -/
def isBelow (location : Location) (entry : Location × DiskEntry) : Bool :=
  location.isPrefixOf entry.1 && entry.1 != location

/-- Removes everything below a location. -/
def clear (location : Location) (disk : Disk) : Disk :=
  if disk.entries.any (isBelow location) then
    let (time, disk) := disk.tick
    { disk with entries := disk.entries.filter fun e => !isBelow location e }.stampDirectory
      location time
  else disk

/-- The last segment of a path, slashes at the end aside. -/
def lastSegment (path : Path) : List UInt8 :=
  ((Path.splitSlash path.bytes).filter fun segment => !segment.isEmpty).getLast?.getD []

/-- Removes an empty directory, which the path must name: a path that ends in dots does not. -/
def removeDirectory (path : Path) (disk : Disk) : Except IoFault Disk :=
  match disk.locate path with
  | .error fault => .error fault
  | .ok (_, .file ..) => .error .notDirectory
  | .ok (location, .directory _) =>
    if lastSegment path = [Path.dot] then .error .invalidPath
    else if lastSegment path = [Path.dot, Path.dot] then .error .notEmpty
    else if location.isEmpty then .error .busy
    else if disk.entries.any (isBelow location) then .error .notEmpty
    else .ok (disk.removeEntry location)

/-- Removes an entry and everything below it; false if there is nothing at the path, or if something
is left there. What is below goes first, and with it perhaps the way by which the path leads to the
directory, which then stays. -/
def remove (path : Path) (disk : Disk) : Bool × Disk :=
  match disk.locate path with
  | .error _ => (false, disk)
  | .ok (location, .file ..) => (true, disk.removeEntry location)
  | .ok (location, .directory _) =>
    let disk := disk.clear location
    match disk.removeDirectory path with
    | .ok disk => (true, disk)
    | .error fault => (fault = .notFound, disk)

/-- The stamp of a file: the time of its last modification, or zero if that is not known or lies
before the epoch. -/
def stamp (disk : Disk) (path : Path) : UInt64 :=
  match disk.locate path with
  | .error _ => 0
  | .ok (_, entry) => if entry.modified < 0 then 0 else UInt64.ofNat entry.modified.toNat

end Disk

/-- What reads and writes texts in a world `W`. -/
structure FileSystem (W : Type) where
  read : W → Path → Except IoFault String
  write : Path → String → W → Except IoFault Unit × W

/-- The texts of a disk. -/
def Disk.fileSystem : FileSystem Disk where
  read := Disk.readText
  write path text := Disk.write path (Utf8.encodeString text)

end SchemaEngine
