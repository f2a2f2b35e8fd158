import PidOne.Mount.Space

/-!
# Changing the root

`pivotRoot` makes a mount the root of the process and puts the mount that was the root at a place
inside the new one. It asks for much: both paths are directories, neither is on the present root
mount, the new root is the root of a mount, and the place for the old one can be reached from it.
A place that is covered already is not covered twice: like any mount, the old root goes on top. When
it refuses, nothing has changed.
-/

namespace PidOne.MountSpace

/-- Whether an inode is a directory or anywhere in it, at most `limit` directories down. -/
def isInside (space : MountSpace) (directory : Nat) : Nat → Nat → Bool
  | 0, inode => inode == directory
  | limit + 1, inode =>
    inode == directory ||
      match space.inodes[inode]? with
      | some (.directory parent _) => space.isInside directory limit parent
      | _ => false

/-- Whether a place can be reached going up from another: out of all mounts between them, and then
through directories of one mount. -/
def reaches (space : MountSpace) (ancestor place : Place) : Bool :=
  match space.foot? ancestor.mount space.mounts.length place with
  | none => false
  | some foot => space.isInside ancestor.inode space.inodes.length foot.inode

def move (space : MountSpace) (mount : Nat) (on : Option Place) : MountSpace :=
  { space with mounts := space.mounts.modify mount fun moved => { moved with on } }

/-- A place with the root of the process exchanged for another. -/
def follow (space : MountSpace) (newRoot place : Place) : Place :=
  if place == space.root then newRoot else place

/-- The space after the old root has been put on `putOld` and `newRoot` where that was. -/
def exchange (space : MountSpace) (newRoot putOld : Place) : MountSpace :=
  let moved := (space.move space.root.mount (some putOld)).move newRoot.mount
    (space.covered? space.root.mount)
  { moved with root := newRoot, workdir := space.follow newRoot space.workdir }

/-- Makes the mount that `newRoot` names the root of the process, and puts the old root on top of
all that is mounted where `putOld` names. -/
def pivotRoot (space : MountSpace) (newRoot putOld : Path) : Except Errno MountSpace :=
  match space.resolveDirectory newRoot with
  | .error errno => .error errno
  | .ok newRoot =>
    match space.resolveDirectory putOld with
    | .error errno => .error errno
    | .ok putOld =>
      let putOld := space.seen putOld
      if !space.isAttached space.root.mount || !space.isAttached newRoot.mount then .error .einval
      else if newRoot.mount = space.root.mount ∨ putOld.mount = space.root.mount then .error .ebusy
      else if !space.isMountRoot space.root || !space.isMountRoot newRoot then .error .einval
      else if !space.reaches newRoot putOld || !space.reaches space.root newRoot then
        .error .einval
      else .ok (space.exchange newRoot putOld)

end PidOne.MountSpace
