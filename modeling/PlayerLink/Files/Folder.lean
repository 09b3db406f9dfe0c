import PlayerLink.Files.Medium
import PlayerLink.Files.Place

/-!
# The working folder

The program reads and writes files in one folder without subfolders. A path is walked part by
part from the working folder or from the root; `Place` says where it may lead. Creating a file
empties it.

`OutputFile` is a file that is written through a buffer: what is written waits until the buffer
would overflow or is flushed, so a full device is noticed only then.
-/

namespace PlayerLink

/-- The files of the working folder with their contents. -/
structure Folder where
  files : List (String × List UInt8) := []
  deriving DecidableEq, Repr

namespace Folder

/-- The content of a file. -/
def content? (f : Folder) (name : String) : Option (List UInt8) := f.files.lookup name

/-- The folder with a file of the given content. -/
def put (name : String) (content : List UInt8) (f : Folder) : Folder where
  files :=
    if (f.content? name).isSome then
      f.files.map fun (other, old) => (other, if other = name then content else old)
    else f.files ++ [(name, content)]

/-- A path holds fewer octets than this. -/
def pathLimit : Nat := 4096

/-- Where the next part of a path leads. A part that is not the last asks for a folder. -/
def step (f : Folder) : Place → String → Place
  | .here, part =>
    if part = "." then .here
    else if part = ".." then .around
    else if part.utf8ByteSize > Place.nameLimit then .nowhere .nameTooLong
    else .file part
  | .folder path, part =>
    if part = "." then .folder path
    else if part = ".." then .folder path.dropLast
    else Place.entry path part
  | .file name, _ => .nowhere (if (f.content? name).isSome then .notDirectory else .missing)
  | .vacant _, _ => .nowhere .missing
  | .device _, _ => .nowhere .notDirectory
  | .nowhere e, _ => .nowhere e

/-- The parts of a path. -/
def parts (path : String) : List String :=
  ((path.toList.splitOn '/').map String.ofList).filter (· ≠ "")

/-- Whether a path ends in a slash, which asks for a folder. -/
def AsksFolder (path : String) : Prop := path.toList.getLast? = some '/'

instance (path : String) : Decidable (AsksFolder path) := inferInstanceAs (Decidable (_ = _))

/-- Where the walk along a path begins; some paths are refused before it. -/
def start (path : String) : Place :=
  if path.toList.contains '\x00' then .nowhere .nulInName
  else if path.isEmpty then .nowhere .missing
  else if path.utf8ByteSize ≥ pathLimit then .nowhere .nameTooLong
  else if path.toList.head? = some '/' then .root
  else .here

/-- Where a path leads, without regard to a slash at its end. -/
def place (f : Folder) (path : String) : Place := (parts path).foldl f.step (start path)

/-- Opens a file for reading; a folder can be opened, but not read. -/
def openFile (f : Folder) (path : String) : Except FileError Place :=
  let place := f.place path
  match if AsksFolder path then f.step place "." else place with
  | .nowhere e => .error e
  | .vacant _ => .error .missing
  | .device .terminal => .error .noSuchDevice
  | .file name => if (f.content? name).isSome then .ok (.file name) else .error .missing
  | place => .ok place

/-- Reads all of what was opened. A device that has no end to read to is refused. -/
def readAll (f : Folder) : Place → Except FileError (List UInt8)
  | .file name => .ok ((f.content? name).getD [])
  | .here | .folder _ => .error .isDirectory
  | .vacant _ => .error .missing
  | .device .sink => .ok []
  | .device .endless | .device .full => .error .other
  | .device .terminal => .error .noSuchDevice
  | .nowhere e => .error e

/-- Where a file that is to be written may be created. A slash at the end of the path asks for a
folder, which no file can be; the last part is then not looked at, only the way to it. -/
def creatable (f : Folder) (path : String) : Except FileError Place :=
  if AsksFolder path then
    match f.step ((parts path).dropLast.foldl f.step (start path)) "." with
    | .nowhere e => .error e
    | _ => .error .isDirectory
  else
    match f.place path with
    | .nowhere e | .vacant (some e) => .error e
    | .device .terminal => .error .noSuchDevice
    | place => if place.IsFolder then .error .isDirectory else .ok place

/-- The folder after something was written to a place. -/
def keep (place : Place) (content : List UInt8) (f : Folder) : Folder :=
  match place with
  | .file name => f.put name content
  | _ => f

/-- The medium at a place that a file was created at. -/
def medium : Place → Medium
  | .device .full => { writes := [.fail .noSpace] }
  | _ => {}

end Folder

/-- A file that is written through a buffer. -/
structure OutputFile where
  place : Place
  /-- What the file has taken, the last part first. -/
  kept : List (List UInt8) := []
  /-- What waits in the buffer, the last part first. -/
  waiting : List (List UInt8) := []
  deriving DecidableEq, Repr

namespace OutputFile

/-- The buffer holds this many octets. -/
def room : Nat := 8192

/-- Everything that was written. -/
def written (o : OutputFile) : List UInt8 := (o.waiting ++ o.kept).reverse.flatten

/-- The number of octets in the buffer. -/
def waitingSize (o : OutputFile) : Nat := o.waiting.foldl (fun size bs => size + bs.length) 0

/-- Hands what waits over to the file. -/
def flush (o : OutputFile) : Except FileError OutputFile :=
  if o.waitingSize = 0 then .ok o
  else if o.place = .device .full then .error .noSpace
  else .ok { o with kept := o.waiting ++ o.kept, waiting := [] }

/-- Writes octets, fewer than the buffer holds. -/
def write (bs : List UInt8) (o : OutputFile) : Except FileError OutputFile := do
  let o ← if o.waitingSize + bs.length > room then o.flush else pure o
  pure { o with waiting := bs :: o.waiting }

/-- The folder after the file was closed, which hands over what still waits if it can. -/
def close (o : OutputFile) (f : Folder) : Folder := f.keep o.place o.written

end OutputFile

end PlayerLink
