import PlayerLink.Files.Error

/-!
# Where a path may lead

A path leads to a name in the working folder, to a folder, to a device or nowhere. Of what
stands outside of the working folder, the folders and the devices that every system has are
known; any other name there is taken to be free. A free name can be created, except in the
folders that the system itself fills, and what is written to it is out of sight from then on.
-/

namespace PlayerLink

/-- What a device does with the octets written to it, and what it has to read. -/
inductive Device where
  /-- Takes everything and keeps nothing; there is nothing to read. -/
  | sink
  /-- Takes everything; reading it has no end. -/
  | endless
  /-- Takes nothing, since it is always full; reading it has no end. -/
  | full
  /-- The terminal of the program, which has none. -/
  | terminal
  deriving DecidableEq, Repr

/-- Where a path leads. -/
inductive Place where
  /-- A name in the working folder, whether there is such a file or not. -/
  | file (name : String)
  /-- The working folder itself. -/
  | here
  /-- Another folder, by the parts of its path from the root. -/
  | folder (path : List String)
  /-- A free name in another folder, and what creating a file there is refused with. -/
  | vacant (refusal : Option FileError)
  | device (device : Device)
  | nowhere (cause : FileError)
  deriving DecidableEq, Repr

namespace Place

/-- Whether a place is a folder. -/
def IsFolder : Place → Prop
  | here | folder _ => True
  | _ => False

instance : (p : Place) → Decidable p.IsFolder
  | here | folder _ => isTrue trivial
  | file _ | vacant _ | device _ | nowhere _ => isFalse id

/-- The root, which lies in itself. -/
def root : Place := folder []

/-- The folder that the working folder is taken to lie in. -/
def around : Place := folder ["tmp"]

/-- The folders that are known to stand in a folder. -/
def subfolders : List (List String × List String) :=
  [([], ["boot", "dev", "etc", "home", "media", "mnt", "opt", "proc", "root", "run", "srv", "sys",
      "tmp", "usr", "var"]),
    (["dev"], ["pts", "shm"]),
    (["proc"], ["1", "bus", "fs", "irq", "self", "sys", "tty"]),
    (["proc", "self"], ["fd"]),
    (["sys"], ["block", "bus", "class", "dev", "devices", "firmware", "fs", "kernel", "module",
      "power"]),
    (["usr"], ["bin", "games", "include", "lib", "lib64", "local", "sbin", "share", "src"]),
    (["usr", "local"], ["bin", "etc", "games", "include", "lib", "sbin", "share", "src"]),
    (["var"], ["backups", "cache", "lib", "local", "log", "mail", "opt", "spool", "tmp"])]

/-- The paths that stand for another folder. -/
def links : List (List String × List String) :=
  [(["bin"], ["usr", "bin"]), (["lib"], ["usr", "lib"]), (["lib64"], ["usr", "lib64"]),
    (["sbin"], ["usr", "sbin"]), (["dev", "fd"], ["proc", "self", "fd"]),
    (["var", "lock"], ["run", "lock"]), (["var", "run"], ["run"])]

/-- The devices that are known. -/
def devices : List (List String × Device) :=
  [(["dev", "full"], .full), (["dev", "null"], .sink), (["dev", "random"], .endless),
    (["dev", "tty"], .terminal), (["dev", "urandom"], .endless), (["dev", "zero"], .endless)]

/-- A name holds at most this many octets. -/
def nameLimit : Nat := 255

/-- Where a name leads that nothing is known to stand at. The system fills some folders by itself
and lets nobody create a file in them; two of these take names of any length. -/
def free (path : List String) (name : String) : Place :=
  if path.head? = some "proc" then vacant (some .missing)
  else if path.head? = some "sys" then vacant (some .accessDenied)
  else if name.utf8ByteSize > nameLimit then nowhere .nameTooLong
  else if path = ["dev", "pts"] then vacant (some .accessDenied)
  else vacant none

/-- Where a name leads in a folder outside of the working folder. -/
def entry (path : List String) (name : String) : Place :=
  let full := path ++ [name]
  if name ∈ (subfolders.lookup path).getD [] then folder full
  else
    match links.lookup full with
    | some target => folder target
    | none =>
      match devices.lookup full with
      | some d => device d
      | none => free path name

end Place

end PlayerLink
