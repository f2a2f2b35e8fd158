import PidOne.Errno
import PidOne.Path

/-!
# Mounts and path resolution

File systems are trees of inodes. A mount shows the tree below one inode at a place of another
mount, and hides what is there; mounts on one place stack, and the last one is seen. A place is an
inode as seen through a mount, and a process has two of them: its root and its working directory.
Resolution walks a path from there, through whatever mounts cover the places on the way.
-/

namespace PidOne

inductive Inode where
  /-- Named children, and the directory it is in; the top of a file system is in itself. -/
  | directory (parent : Nat) (entries : List (List UInt8 × Nat))
  | file
  | symlink (target : Path)
  deriving DecidableEq, Repr

structure Place where
  mount : Nat
  inode : Nat
  deriving DecidableEq, Repr

/-- A mount: the inode it shows, and the place it covers, unless it is detached. -/
structure Mount where
  root : Nat
  on : Option Place
  deriving DecidableEq, Repr

structure MountSpace where
  inodes : List Inode
  mounts : List Mount
  root : Place
  workdir : Place
  deriving DecidableEq, Repr

namespace MountSpace

/-- An empty root file system, mounted over the kernel's first one. -/
def initial : MountSpace where
  inodes := [.directory 0 [], .directory 1 []]
  mounts := [⟨0, none⟩, ⟨1, some ⟨0, 0⟩⟩]
  root := ⟨1, 1⟩
  workdir := ⟨1, 1⟩

/-- The directory entries of an inode that is a directory. -/
def entries? (space : MountSpace) (inode : Nat) : Option (List (List UInt8 × Nat)) :=
  match space.inodes[inode]? with
  | some (.directory _ entries) => some entries
  | _ => none

def covered? (space : MountSpace) (mount : Nat) : Option Place :=
  space.mounts[mount]?.bind Mount.on

/-- Whether a mount is in its place, and not taken off it. -/
def isAttached (space : MountSpace) (mount : Nat) : Bool := (space.covered? mount).isSome

/-- Whether the place is the root of its mount. -/
def isMountRoot (space : MountSpace) (place : Place) : Bool :=
  (space.mounts[place.mount]?.map Mount.root) == some place.inode

/-- The last mount on a place, with the inode it shows. -/
def cover? (space : MountSpace) (place : Place) : Option Place :=
  (space.mounts.zipIdx.reverse.find? fun (mount, _) => mount.on == some place).map
    fun (mount, index) => ⟨index, mount.root⟩

/-- What is seen at a place, at most `limit` mounts up. -/
def top (space : MountSpace) : Nat → Place → Place
  | 0, place => place
  | limit + 1, place =>
    match space.cover? place with
    | none => place
    | some above => space.top limit above

/-- What is seen at a place through all mounts on it. -/
def seen (space : MountSpace) (place : Place) : Place := space.top space.mounts.length place

/-- The place that the root of a mount stands for in the mounts below, at most `limit` mounts down;
the root of the process is never left. -/
def below (space : MountSpace) : Nat → Place → Place
  | 0, place => place
  | limit + 1, place =>
    if place == space.root || !space.isMountRoot place then place
    else
      match space.covered? place.mount with
      | none => place
      | some under => space.below limit under

/-- The place in a mount that another place stands over, at most `limit` mounts up from there. -/
def foot? (space : MountSpace) (mount : Nat) : Nat → Place → Option Place
  | 0, place => if place.mount = mount then some place else none
  | limit + 1, place =>
    if place.mount = mount then some place
    else
      match space.covered? place.mount with
      | none => none
      | some under => space.foot? mount limit under

/-- Whether a place is in a mount or in one that stands in it. -/
def isWithin (space : MountSpace) (mount : Nat) (place : Place) : Bool :=
  (space.foot? mount space.mounts.length place).isSome

/-- The directory a place is in. Nothing is above the root of the process, nor above the root of a
mount that is detached. -/
def parent (space : MountSpace) (place : Place) : Place :=
  let under := space.below space.mounts.length place
  if under == space.root || space.isMountRoot under then space.seen under
  else
    match space.inodes[under.inode]? with
    | some (.directory parent _) => space.seen ⟨under.mount, parent⟩
    | _ => under

def dot : List UInt8 := [0x2e]

def dotDot : List UInt8 := [0x2e, 0x2e]

def maxName : Nat := 255

/-- A path has to be shorter than this. -/
def maxPath : Nat := 4096

/-- How many symbolic links are followed for one path. -/
def maxLinks : Nat := 40

/-- Walks names from a place, following at most `links` symbolic links. -/
def walk (space : MountSpace) (links : Nat) (place : Place) (names : List (List UInt8)) :
    Except Errno Place :=
  match names with
  | [] => .ok place
  | name :: rest =>
    match space.entries? place.inode with
    | none => .error .enotdir
    | some entries =>
      if name = dot then space.walk links place rest
      else if name = dotDot then space.walk links (space.parent place) rest
      else if maxName < name.length then .error .enametoolong
      else
        match entries.lookup name with
        | none => .error .enoent
        | some inode =>
          let next := space.seen ⟨place.mount, inode⟩
          match space.inodes[next.inode]? with
          | some (.symlink target) =>
            match links with
            | 0 => .error .eloop
            | links + 1 =>
              if target.isEmpty then .error .enoent
              else
                space.walk links (if target.isAbsolute then space.root else place)
                  (target.components ++ rest)
          | _ => space.walk links next rest
termination_by (links, names.length)

def resolve (space : MountSpace) (path : Path) : Except Errno Place :=
  if path.isEmpty then .error .enoent
  else if maxPath ≤ path.length then .error .enametoolong
  else
    space.walk maxLinks (if path.isAbsolute then space.root else space.workdir) path.components

/-- The place a path names, if it is a directory. -/
def resolveDirectory (space : MountSpace) (path : Path) : Except Errno Place :=
  match space.resolve path with
  | .error errno => .error errno
  | .ok place => if (space.entries? place.inode).isSome then .ok place else .error .enotdir

end MountSpace

end PidOne
