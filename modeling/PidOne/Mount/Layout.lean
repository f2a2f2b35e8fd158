import PidOne.Mount.Space

/-!
# Laying out mounts

The steps by which a mount space comes about: making directories, files and symbolic links, mounting
a directory over itself or an empty file system over a directory, taking a mount off, and moving
about. Each step either is done or leaves the space as it was.
-/

namespace PidOne

inductive MountStep where
  | makeDirectory (path : Path)
  | makeFile (path : Path)
  | makeSymlink (path target : Path)
  /-- Mounts what is at the path over itself. -/
  | bind (path : Path)
  | mountEmpty (path : Path)
  | changeDirectory (path : Path)
  /-- Takes off the mount whose root is at the path. -/
  | detach (path : Path)
  deriving DecidableEq, Repr

namespace MountStep

/-- Whether the step changes what is mounted where. -/
def isMounting : MountStep → Bool
  | bind _ | mountEmpty _ | detach _ => true
  | makeDirectory _ | makeFile _ | makeSymlink _ _ | changeDirectory _ => false

end MountStep

namespace MountSpace

/-- The directory a new entry goes to and the name it gets; no name may be there before. -/
def slot (space : MountSpace) (path : Path) : Except Errno (Place × List UInt8) :=
  if path.isEmpty then .error .enoent
  else if maxPath ≤ path.length then .error .enametoolong
  else
    match path.components.getLast? with
    | none => .error .eexist
    | some name =>
      let start := if path.isAbsolute then space.root else space.workdir
      match space.walk maxLinks start path.components.dropLast with
      | .error errno => .error errno
      | .ok place =>
        match space.entries? place.inode with
        | none => .error .enotdir
        | some entries =>
          if name = dot ∨ name = dotDot then .error .eexist
          else if maxName < name.length then .error .enametoolong
          else if (entries.lookup name).isSome then .error .eexist
          else .ok (place, name)

def addEntry (name : List UInt8) (index : Nat) : Inode → Inode
  | .directory parent entries => .directory parent (entries ++ [(name, index)])
  | inode => inode

/-- Makes a new inode and enters it at a path. -/
def create (space : MountSpace) (path : Path) (inode : Place → Inode) :
    Except Errno MountSpace := do
  let (place, name) ← space.slot path
  let entered := space.inodes.modify place.inode (addEntry name space.inodes.length)
  return { space with inodes := entered ++ [inode place] }

/-- Mounts what is below an inode on top of a place, and of all that is mounted there. Nothing can
be mounted inside a mount that is detached. -/
def mountOn (space : MountSpace) (inode : Nat) (place : Place) : Except Errno MountSpace :=
  let top := space.seen place
  if !space.isAttached top.mount then .error .einval
  else .ok { space with mounts := space.mounts ++ [⟨inode, some top⟩] }

/-- Takes off a mount, and all that is mounted inside it from where it is. -/
def detach (space : MountSpace) (mount : Nat) : MountSpace :=
  { space with
    mounts := space.mounts.mapIdx fun index inner =>
      if space.isWithin mount ⟨index, inner.root⟩ then { inner with on := none } else inner }

def apply (space : MountSpace) : MountStep → Except Errno MountSpace
  | .makeDirectory path => space.create path fun parent => .directory parent.inode []
  | .makeFile path => space.create path fun _ => .file
  | .makeSymlink path target => space.create path fun _ => .symlink target
  | .bind path => do
    let place ← space.resolve path
    space.mountOn place.inode place
  | .mountEmpty path => do
    let place ← space.resolveDirectory path
    let top := space.inodes.length
    let grown : MountSpace := { space with inodes := space.inodes ++ [.directory top []] }
    grown.mountOn top place
  | .changeDirectory path => do
    let workdir ← space.resolveDirectory path
    return { space with workdir }
  | .detach path => do
    let place ← space.resolve path
    if !space.isMountRoot place || !space.isAttached place.mount then throw .einval
    return space.detach place.mount

def contains (space : MountSpace) (path : Path) : Bool := (space.resolve path).isOk

/-- A path of one name below the root. -/
def topLevel (name : String) : Path := Path.slash :: Utf8.encode name

/-- The layout of a private mount space: file systems of their own at `/proc` and `/tmp`. -/
def privateLayout : List MountStep :=
  ["proc", "tmp"].flatMap fun name =>
    [.makeDirectory (topLevel name), .mountEmpty (topLevel name)]

/-- The space that the steps lead to, those that fail left out. -/
def applyAll (space : MountSpace) (steps : List MountStep) : MountSpace :=
  steps.foldl (fun space step => (space.apply step).toOption.getD space) space

end MountSpace

end PidOne
