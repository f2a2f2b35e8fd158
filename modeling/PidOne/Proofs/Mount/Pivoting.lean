import PidOne.Proofs.Mount.Laying

/-!
# What a change of the root moves

Of all mounts only two are hung elsewhere: the root mount goes on top of the place for the old root,
and the mount of the new root goes where the root mount was. The place for the old root hangs from
the new root, and that from the old one, so afterwards it is the old root that hangs from the new:
the forest is a forest again, with what hangs from the old root and not from the new one moved up.
Walks that stay in one of the two parts lead where they led.
-/

namespace PidOne.MountSpace

variable {space after : MountSpace} {new top place above : Place} {mount index : Nat}

/-! ## When the root is changed -/

/-- What a mount can be reached from going up hangs from it. -/
theorem hangs_of_foot? {limit : Nat} {foot : Place}
    (h : space.foot? mount limit place = some foot) : space.Hangs mount place.mount := by
  induction limit generalizing place with
  | zero =>
      rw [foot?] at h
      split at h
      · next heq => exact heq ▸ .refl
      · cases h
  | succ limit ih =>
      rw [foot?] at h
      split at h
      · next heq => exact heq ▸ .refl
      · split at h
        · cases h
        · next under hcovered => exact (ih h).on hcovered

theorem hangs_of_reaches (h : space.reaches place above = true) :
    space.Hangs place.mount above.mount := by
  rw [reaches] at h
  split at h
  · cases h
  · next foot hfoot => exact hangs_of_foot? hfoot

/-- Two places for which the root may be changed: a new root, and the top of the place for the old
root. -/
structure Fits (space : MountSpace) (new top : Place) : Prop where
  new_ne : new.mount ≠ space.root.mount
  attached_root : ∃ base, space.covered? space.root.mount = some base
  attached_new : ∃ point, space.covered? new.mount = some point
  isMountRoot_root : space.isMountRoot space.root = true
  isMountRoot_new : space.isMountRoot new = true
  hangs_new : space.Hangs space.root.mount new.mount
  hangs_top : space.Hangs new.mount top.mount
  free : space.cover? top = none
  has_new : space.Has new
  has_top : space.Has top
  isDirectory_new : space.IsDirectory new.inode
  isDirectory_top : space.IsDirectory top.inode

theorem pivotRoot_eq_ok {newRoot putOld : Path} (hforest : space.Forest)
    (h : space.pivotRoot newRoot putOld = .ok after) :
    ∃ new old, space.resolve newRoot = .ok new ∧ space.resolve putOld = .ok old
      ∧ space.Fits new (space.seen old) ∧ after = space.exchange new (space.seen old) := by
  rw [pivotRoot] at h
  split at h
  · cases h
  · next new hnew =>
    split at h
    · cases h
    · next old hold =>
      dsimp only at h
      split at h
      · cases h
      · next hattached =>
        split at h
        · cases h
        · next hbusy =>
          split at h
          · cases h
          · next hroots =>
            split at h
            · cases h
            · next hreaches =>
              cases h
              obtain ⟨hnew, hnewDirectory⟩ := resolveDirectory_eq_ok_iff.mp hnew
              obtain ⟨hold, holdDirectory⟩ := resolveDirectory_eq_ok_iff.mp hold
              simp only [isAttached, Bool.or_eq_true, Bool.not_eq_true', not_or,
                Bool.not_eq_false] at hattached hroots hreaches
              rw [not_or] at hbusy
              refine ⟨new, old, hnew, hold, ?_, rfl⟩
              exact {
                new_ne := hbusy.1
                attached_root := Option.isSome_iff_exists.mp hattached.1
                attached_new := Option.isSome_iff_exists.mp hattached.2
                isMountRoot_root := hroots.1
                isMountRoot_new := hroots.2
                hangs_new := hangs_of_reaches hreaches.2
                hangs_top := hangs_of_reaches hreaches.1
                free := hforest.cover?_seen old
                has_new := hforest.has_resolve hnew
                has_top := hforest.has_seen (hforest.has_resolve hold)
                isDirectory_new := hnewDirectory
                isDirectory_top := (hforest.isDirectory_over (over_seen space old)).mpr
                  holdDirectory }

/-! ## Where the two mounts hang -/

theorem covered?_move {on : Option Place} (hmount : mount < space.mounts.length) :
    (space.move mount on).covered? index = if index = mount then on else space.covered? index := by
  rw [covered?, move]
  by_cases heq : index = mount
  · rw [heq, if_pos rfl, List.getElem?_modify_eq, List.getElem?_eq_getElem hmount]
    rfl
  · rw [if_neg heq, List.getElem?_modify_ne _ _ (Ne.symm heq), covered?]

theorem root_move (space : MountSpace) (mount : Nat) (on : Option Place) (index : Nat) :
    (space.move mount on).mounts[index]?.map Mount.root = space.mounts[index]?.map Mount.root := by
  rw [move]
  by_cases heq : index = mount
  · rw [heq, List.getElem?_modify_eq]
    exact Option.map_map ..
  · rw [List.getElem?_modify_ne _ _ (Ne.symm heq)]

theorem root_exchange (space : MountSpace) (new top : Place) (index : Nat) :
    (space.exchange new top).mounts[index]?.map Mount.root
      = space.mounts[index]?.map Mount.root :=
  (root_move _ new.mount _ index).trans (root_move space _ _ index)

theorem isMountRoot_exchange :
    (space.exchange new top).isMountRoot place = space.isMountRoot place := by
  rw [isMountRoot, root_exchange, isMountRoot]

namespace Fits

theorem covered?_exchange (hfits : space.Fits new top) (mount : Nat) :
    (space.exchange new top).covered? mount
      = if mount = new.mount then space.covered? space.root.mount
        else if mount = space.root.mount then some top
        else space.covered? mount := by
  have hroot := lt_of_isMountRoot hfits.isMountRoot_root
  have hnew : new.mount < (space.move space.root.mount (some top)).mounts.length := by
    rw [move, List.length_modify]
    exact hfits.has_new.1
  calc (space.exchange new top).covered? mount
      = ((space.move space.root.mount (some top)).move new.mount
          (space.covered? space.root.mount)).covered? mount := rfl
    _ = _ := by rw [covered?_move hnew, covered?_move hroot]

/-- The ways in which a mount can have come to cover a place. -/
theorem covered?_exchange_cases (hfits : space.Fits new top)
    (h : (space.exchange new top).covered? mount = some place) :
    mount = new.mount ∧ space.covered? space.root.mount = some place
      ∨ mount = space.root.mount ∧ place = top
      ∨ mount ≠ new.mount ∧ mount ≠ space.root.mount ∧ space.covered? mount = some place := by
  rw [hfits.covered?_exchange] at h
  split at h
  · next heq => exact .inl ⟨heq, h⟩
  · next hnew =>
    split at h
    · next heq => exact .inr (.inl ⟨heq, (Option.some.inj h).symm⟩)
    · next hroot => exact .inr (.inr ⟨hnew, hroot, h⟩)

theorem not_hangs_root (hfits : space.Fits new top) {rank : Nat → Nat} (hrank : space.Ranks rank) :
    ¬space.Hangs new.mount space.root.mount := fun h =>
  hfits.new_ne (h.antisymm hfits.hangs_new hrank)

end Fits

/-- What hangs from a mount, but is not that mount, hangs with the place it covers. -/
theorem hangs_iff_of_ne {lower : Nat} (hcovered : space.covered? mount = some place)
    (hne : mount ≠ lower) : space.Hangs lower mount ↔ space.Hangs lower place.mount := by
  constructor
  · intro h
    rcases h.eq_or_on with rfl | ⟨other, hother, hlower⟩
    · exact absurd rfl hne
    · rw [hcovered] at hother
      cases hother
      exact hlower
  · exact fun h => h.on hcovered

open Classical in
/-- The ranks after the change: what hangs from the old root and not from the new is put above the
place for the old root. -/
noncomputable def rankAfter (space : MountSpace) (new top : Place) (rank : Nat → Nat)
    (mount : Nat) : Nat :=
  if space.Hangs space.root.mount mount ∧ ¬space.Hangs new.mount mount then
    rank mount + rank top.mount + 1
  else rank mount

theorem ranks_exchange {rank : Nat → Nat} (hfits : space.Fits new top) (hrank : space.Ranks rank) :
    (space.exchange new top).Ranks (space.rankAfter new top rank) := by
  intro mount place hcovered
  rcases hfits.covered?_exchange_cases hcovered with
    ⟨rfl, hbase⟩ | ⟨rfl, rfl⟩ | ⟨hnew, hroot, hbefore⟩
  · -- the new root, below which nothing has moved
    have hbelow := hrank hbase
    have hplace : ¬space.Hangs space.root.mount place.mount := fun h =>
      Nat.not_lt.mpr (h.rank_le hrank) hbelow
    rw [rankAfter, if_neg fun h => hplace h.1, rankAfter, if_neg fun h => h.2 .refl]
    exact hbelow.trans_le (hfits.hangs_new.rank_le hrank)
  · -- the old root, with all that has moved
    rw [rankAfter, if_neg fun h => h.2 hfits.hangs_top, rankAfter,
      if_pos ⟨.refl, hfits.not_hangs_root hrank⟩]
    omega
  · -- any other mount has moved if the one has that it hangs from
    have hlt := hrank hbefore
    rw [rankAfter, ← hangs_iff_of_ne hbefore hroot, ← hangs_iff_of_ne hbefore hnew, rankAfter]
    split
    · omega
    · exact hlt

/-- The two mounts that are hung elsewhere show directories, and so do the places they go to. -/
theorem alike_exchange (hforest : space.Forest) (hfits : space.Fits new top)
    (h : (space.exchange new top).covered? mount = some place) :
    space.Has place ∧ ∀ above, space.isMountRoot above = true → above.mount = mount →
      (space.IsDirectory above.inode ↔ space.IsDirectory place.inode) := by
  rcases hfits.covered?_exchange_cases h with ⟨rfl, hbase⟩ | ⟨rfl, rfl⟩ | ⟨-, -, hbefore⟩
  · refine ⟨hforest.covered hbase, ?_⟩
    intro above habove hmount
    obtain rfl := eq_of_isMountRoot habove hfits.isMountRoot_new hmount
    apply iff_of_true hfits.isDirectory_new
    exact (hforest.alike hbase hfits.isMountRoot_root).mp hforest.isDirectory_root
  · refine ⟨hfits.has_top, ?_⟩
    intro above habove hmount
    obtain rfl := eq_of_isMountRoot habove hfits.isMountRoot_root hmount
    exact iff_of_true hforest.isDirectory_root hfits.isDirectory_top
  · refine ⟨hforest.covered hbefore, ?_⟩
    rintro above habove rfl
    exact hforest.alike hbefore habove

/-- Nothing else is on either of the two places. -/
theorem alone_exchange (hforest : space.Forest) (hfits : space.Fits new top) {first second : Nat}
    (hfirst : (space.exchange new top).covered? first = some place)
    (hsecond : (space.exchange new top).covered? second = some place) : first = second := by
  have hfree := cover?_eq_none_iff.mp hfits.free
  rcases hfits.covered?_exchange_cases hfirst with
    ⟨rfl, hbase⟩ | ⟨rfl, rfl⟩ | ⟨-, hroot, hbefore⟩
  · rcases hfits.covered?_exchange_cases hsecond with
      ⟨rfl, -⟩ | ⟨-, rfl⟩ | ⟨-, hroot, hbefore⟩
    · rfl
    · exact absurd hbase (hfree _)
    · exact absurd (hforest.alone hbefore hbase) hroot
  · rcases hfits.covered?_exchange_cases hsecond with
      ⟨-, hbase⟩ | ⟨rfl, -⟩ | ⟨-, -, hbefore⟩
    · exact absurd hbase (hfree _)
    · rfl
    · exact absurd hbefore (hfree _)
  · rcases hfits.covered?_exchange_cases hsecond with
      ⟨-, hbase⟩ | ⟨-, rfl⟩ | ⟨-, -, hother⟩
    · exact absurd (hforest.alone hbefore hbase) hroot
    · exact absurd hbefore (hfree _)
    · exact hforest.alone hbefore hother

/-- **A change of the root keeps the forest.** -/
theorem Forest.exchange (hforest : space.Forest) (hfits : space.Fits new top) :
    (space.exchange new top).Forest := by
  have hinodes : (space.exchange new top).inodes = space.inodes := rfl
  apply hforest.rehang hinodes
  · exact root_exchange space new top
  · exact fun mount place h => alike_exchange hforest hfits h
  · exact fun first second place hfirst hsecond => alone_exchange hforest hfits hfirst hsecond
  · obtain ⟨rank, hrank⟩ := hforest.ranked
    exact ⟨_, ranks_exchange hfits hrank⟩
  · exact hfits.has_new
  · rw [MountSpace.exchange, follow]
    split
    · exact hfits.has_new
    · exact hforest.workdir
  · exact hfits.isDirectory_new

/-! ## What is seen afterwards -/

section Seeing

variable (hforest : space.Forest) (hfits : space.Fits new top)
include hforest hfits

/-- The old root is on top of the place for it. -/
theorem cover?_exchange_top : (space.exchange new top).cover? top = some space.root := by
  rw [(hforest.exchange hfits).cover?_eq_some_iff, hfits.covered?_exchange,
    if_neg hfits.new_ne.symm, if_pos rfl, isMountRoot_exchange]
  exact ⟨rfl, hfits.isMountRoot_root⟩

/-- Three places may be covered by something else than before. -/
theorem cover?_exchange_of_ne (htop : place ≠ top)
    (hbase : space.covered? space.root.mount ≠ some place)
    (hpoint : space.covered? new.mount ≠ some place) :
    (space.exchange new top).cover? place = space.cover? place := by
  apply Option.ext
  intro above
  rw [(hforest.exchange hfits).cover?_eq_some_iff, hforest.cover?_eq_some_iff,
    isMountRoot_exchange]
  apply and_congr_left
  intro _
  constructor
  · intro h
    rcases hfits.covered?_exchange_cases h with ⟨-, hroot⟩ | ⟨-, rfl⟩ | ⟨-, -, hbefore⟩
    · exact absurd hroot hbase
    · exact absurd rfl htop
    · exact hbefore
  · intro h
    rw [hfits.covered?_exchange, if_neg, if_neg]
    · exact h
    · intro heq
      rw [heq] at h
      exact hbase h
    · intro heq
      rw [heq] at h
      exact hpoint h

/-- Where the new root was, nothing is left. -/
theorem cover?_exchange_point (hpoint : space.covered? new.mount = some place)
    (hbase : space.covered? space.root.mount ≠ some place) :
    (space.exchange new top).cover? place = none := by
  rw [cover?_eq_none_iff]
  intro mount h
  rcases hfits.covered?_exchange_cases h with ⟨-, hroot⟩ | ⟨-, rfl⟩ | ⟨hnew, -, hbefore⟩
  · exact hbase hroot
  · exact cover?_eq_none_iff.mp hfits.free _ hpoint
  · exact hnew (hforest.alone hbefore hpoint)

/-- In what hangs from the new root all is covered as before, but for the place of the old root. -/
theorem cover?_exchange_of_hangs_new (hplace : space.Hangs new.mount place.mount)
    (htop : place ≠ top) : (space.exchange new top).cover? place = space.cover? place := by
  obtain ⟨rank, hrank⟩ := hforest.ranked
  have hle := hplace.rank_le hrank
  apply cover?_exchange_of_ne hforest hfits htop
  · intro hbase
    have hle' := (hfits.hangs_new.rank_le hrank).trans hle
    exact Nat.not_lt.mpr hle' (hrank hbase)
  · intro hpoint
    exact Nat.not_lt.mpr hle (hrank hpoint)

/-- Below the new root too, but for the place of the new root. -/
theorem cover?_exchange_of_hangs_root (hplace : space.Hangs space.root.mount place.mount)
    (htop : place ≠ top) (hpoint : space.covered? new.mount ≠ some place) :
    (space.exchange new top).cover? place = space.cover? place := by
  obtain ⟨rank, hrank⟩ := hforest.ranked
  apply cover?_exchange_of_ne hforest hfits htop _ hpoint
  intro hbase
  exact Nat.not_lt.mpr (hplace.rank_le hrank) (hrank hbase)

theorem seen_exchange_of_hangs_new (hplace : space.Hangs new.mount place.mount) :
    (space.exchange new top).seen place
      = if space.seen place = top then (space.exchange new top).seen space.root
        else space.seen place := by
  have hafter := hforest.exchange hfits
  have hover : (space.exchange new top).Over place (space.seen place) := by
    apply (over_seen space place).kept
    intro under next hunder hcover _
    rw [cover?_exchange_of_hangs_new hforest hfits (hplace.trans hunder.hangs)]
    · exact hcover
    · rintro rfl
      rw [hfits.free] at hcover
      cases hcover
  split
  · next heq =>
    rw [heq] at hover
    rw [hafter.seen_of_over hover]
    exact hafter.seen_of_over (.single (cover?_exchange_top hforest hfits))
  · next hne =>
    apply hafter.seen_eq_iff.mpr
    refine ⟨hover, ?_⟩
    rw [cover?_exchange_of_hangs_new hforest hfits _ hne]
    · exact hforest.cover?_seen place
    · exact hplace.trans (over_seen space place).hangs

/-- What was seen in the old root outside the new one is still seen there. -/
theorem seen_exchange_of_not_hangs_new (hplace : space.Hangs space.root.mount place.mount)
    (hseen : ¬space.Hangs new.mount (space.seen place).mount) :
    (space.exchange new top).seen place = space.seen place := by
  have hover := over_seen space place
  have hne : ∀ {under}, space.Over under (space.seen place) → under ≠ top := by
    rintro under h rfl
    exact hseen (hfits.hangs_top.trans h.hangs)
  apply (hforest.exchange hfits).seen_eq_iff.mpr
  constructor
  · apply hover.kept
    intro under next hunder hcover hnext
    rw [cover?_exchange_of_hangs_root hforest hfits (hplace.trans hunder.hangs)]
    · exact hcover
    · exact hne (hnext.head hcover)
    · intro hpoint
      have hnew := hforest.cover?_eq_some_iff.mpr ⟨hpoint, hfits.isMountRoot_new⟩
      rw [hcover] at hnew
      cases hnew
      exact hseen hnext.hangs
  · have hnone := hforest.cover?_seen place
    rw [cover?_exchange_of_hangs_root hforest hfits (hplace.trans hover.hangs) (hne .refl)]
    · exact hnone
    · exact cover?_eq_none_iff.mp hnone _

/-- The old root is seen itself unless something else than the new root was mounted over it. -/
theorem seen_exchange_root_eq_iff :
    (space.exchange new top).seen space.root = space.root
      ↔ space.cover? space.root = none ∨ space.cover? space.root = some new := by
  obtain ⟨rank, hrank⟩ := hforest.ranked
  have htop : space.root ≠ top := by
    intro heq
    have hhangs := hfits.hangs_top
    rw [← heq] at hhangs
    exact hfits.not_hangs_root hrank hhangs
  have hnew : space.cover? space.root = some new ↔ space.covered? new.mount = some space.root := by
    rw [hforest.cover?_eq_some_iff]
    exact and_iff_left hfits.isMountRoot_new
  rw [(hforest.exchange hfits).seen_eq_self_iff, hnew]
  by_cases hpoint : space.covered? new.mount = some space.root
  · have hbase : space.covered? space.root.mount ≠ some space.root := fun hbase =>
      Nat.lt_irrefl _ (hrank hbase)
    exact iff_of_true (cover?_exchange_point hforest hfits hpoint hbase) (.inr hpoint)
  · rw [cover?_exchange_of_hangs_root hforest hfits .refl htop hpoint, or_iff_left hpoint]

end Seeing

/-! ## Where names lead afterwards -/

theorem Leads.eq_or_seen {start target : Place} {names : List (List UInt8)}
    (h : space.Leads start names target) (hforest : space.Forest) :
    target = start ∨ space.seen target = target := by
  induction h with
  | nil => exact .inl rfl
  | stay _ _ ih => exact ih
  | enter _ _ _ _ _ _ _ ih =>
      right
      rcases ih with rfl | hseen
      · exact hforest.seen_eq_self_iff.mpr (hforest.cover?_seen _)
      · exact hseen

theorem IsDirectory.ne_symlink {inode : Nat} (h : space.IsDirectory inode) (path : Path) :
    space.inodes[inode]? ≠ some (.symlink path) := by
  obtain ⟨entries, hentries⟩ := isDirectory_iff.mp h
  obtain ⟨parent, hinode⟩ := entries?_eq_some_iff.mp hentries
  rw [hinode]
  exact nofun

section Leading

variable {start target : Place} {names : List (List UInt8)} (hforest : space.Forest)
  (hfits : space.Fits new top)
include hforest hfits

/-- What is seen on the old root afterwards is a directory, as the old root is. -/
theorem isDirectory_seen_root :
    space.IsDirectory ((space.exchange new top).seen space.root).inode :=
  ((hforest.exchange hfits).isDirectory_over (over_seen _ space.root)).mpr hforest.isDirectory_root

/-- Names that led down to the place for the old root lead to what is now seen on the old root. -/
theorem leads_exchange_top (h : space.Leads start names target) (htop : target = top)
    (hstart : space.Hangs new.mount start.mount) :
    start = top
      ∨ (space.exchange new top).Leads start names ((space.exchange new top).seen space.root) := by
  induction h with
  | nil => exact .inl htop
  | stay hplace _ ih => exact (ih htop hstart).imp_right fun hrest => .stay hplace hrest
  | @enter place target name rest entries child hentries hdot hdotDot hname hlookup hlink h ih =>
      have hchild : space.Hangs new.mount (⟨place.mount, child⟩ : Place).mount := hstart
      have hnext := hchild.trans (over_seen space ⟨place.mount, child⟩).hangs
      have hseen := seen_exchange_of_hangs_new hforest hfits hchild
      right
      by_cases heq : space.seen ⟨place.mount, child⟩ = top
      · -- the rest of the names leads from the place to itself, and so nowhere
        have hdirectory := isDirectory_seen_root hforest hfits
        rw [heq, htop] at h
        rw [if_pos heq] at hseen
        refine .enter hentries hdot hdotDot hname hlookup ?_ ?_
        · rw [hseen]
          exact hdirectory.ne_symlink
        · rw [hseen]
          exact leads_dots hdirectory (h.dots hforest)
      · rw [if_neg heq] at hseen
        refine .enter hentries hdot hdotDot hname hlookup ?_ ?_
        · rw [hseen]
          exact hlink
        · rw [hseen]
          exact (ih htop hnext).resolve_left heq

/-- Names that led down from the old root to outside the new one lead there still. -/
theorem leads_exchange_root (h : space.Leads start names target)
    (hstart : space.Hangs space.root.mount start.mount)
    (houtside : ¬space.Hangs new.mount target.mount) :
    (space.exchange new top).Leads start names target := by
  induction h with
  | nil => exact .nil _
  | stay hplace _ ih => exact .stay hplace (ih hstart houtside)
  | @enter place target name rest entries child hentries hdot hdotDot hname hlookup hlink h ih =>
      have hchild : space.Hangs space.root.mount (⟨place.mount, child⟩ : Place).mount := hstart
      have hnext := hchild.trans (over_seen space ⟨place.mount, child⟩).hangs
      have hseen := seen_exchange_of_not_hangs_new hforest hfits hchild
        fun hinside => houtside (hinside.trans h.hangs)
      refine .enter hentries hdot hdotDot hname hlookup ?_ ?_
      · rw [hseen]
        exact hlink
      · rw [hseen]
        exact ih hnext houtside

end Leading

end PidOne.MountSpace
