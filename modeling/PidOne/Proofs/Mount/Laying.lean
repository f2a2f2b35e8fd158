import PidOne.Proofs.Mount.Walking

/-!
# Laying out mounts keeps the forest

Every step of a layout is one of three things. Inodes are added, and those that were there stay what
they were. A mount is added on top of all others at its place, so that it is ranked above them. Or
mounts are taken off, and the rest hang as before. So whatever is laid out is a forest.
-/

namespace PidOne.MountSpace

variable {space after : MountSpace} {place : Place} {mount : Nat}

/-! ## More inodes -/

theorem entries?_eq_some_iff {inode : Nat} {entries : List (List UInt8 × Nat)} :
    space.entries? inode = some entries
      ↔ ∃ parent, space.inodes[inode]? = some (.directory parent entries) := by
  rw [entries?]
  split
  · next parent found hinode =>
    rw [hinode, Option.some.injEq]
    constructor
    · rintro rfl
      exact ⟨parent, rfl⟩
    · rintro ⟨_, heq⟩
      cases heq
      rfl
  · next hno =>
    refine iff_of_false nofun ?_
    rintro ⟨parent, hinode⟩
    exact hno parent entries hinode

theorem IsDirectory.lt {inode : Nat} (h : space.IsDirectory inode) :
    inode < space.inodes.length := by
  obtain ⟨entries, hentries⟩ := isDirectory_iff.mp h
  obtain ⟨parent, hinode⟩ := entries?_eq_some_iff.mp hentries
  exact (List.getElem?_eq_some_iff.mp hinode).1

def withInodes (space : MountSpace) (inodes : List Inode) : MountSpace := { space with inodes }

/-- Inodes may be added to a forest if they make trees and what was there stays what it is. -/
theorem Forest.grow (hforest : space.Forest) {inodes : List Inode}
    (hlength : space.inodes.length ≤ inodes.length)
    (hkept : ∀ inode < space.inodes.length,
      (space.withInodes inodes).IsDirectory inode ↔ space.IsDirectory inode)
    (htrees : ∀ ⦃inode parent : Nat⦄ ⦃entries⦄,
      inodes[inode]? = some (Inode.directory parent entries) →
        parent < inodes.length ∧ ∀ name child, entries.lookup name = some child →
          inode < child ∧ child < inodes.length) :
    (space.withInodes inodes).Forest where
  children := by
    intro inode entries name child hentries hlookup
    obtain ⟨parent, hinode⟩ := entries?_eq_some_iff.mp hentries
    exact (htrees hinode).2 name child hlookup
  parents := fun inode parent entries hinode => (htrees hinode).1
  shown := fun place hplace => (hforest.shown hplace).trans_le hlength
  covered := fun mount place hcovered =>
    (hforest.covered hcovered).imp_right fun hinode => hinode.trans_le hlength
  alone := hforest.alone
  ranked := hforest.ranked
  alike := by
    intro place above hcovered habove
    rw [hkept _ (hforest.shown habove), hkept _ (hforest.covered hcovered).2]
    exact hforest.alike hcovered habove
  root := hforest.root.imp_right fun hinode => hinode.trans_le hlength
  workdir := hforest.workdir.imp_right fun hinode => hinode.trans_le hlength
  isDirectory_root := (hkept _ hforest.root.2).mpr hforest.isDirectory_root

theorem isDirectory_of_slot {path : Path} {name : List UInt8}
    (h : space.slot path = .ok (place, name)) : space.IsDirectory place.inode := by
  unfold slot at h
  dsimp only at h
  -- all ways out but the last are refusals
  iterate 8 (split at h <;> try cases h)
  next hentries _ _ _ _ => exact isDirectory_iff.mpr ⟨_, hentries⟩

/-- Entering an inode in a directory adds to the entries of that directory only. -/
theorem getElem?_modify_addEntry {inodes : List Inode} {name : List UInt8}
    {directory index inode parent : Nat} {entries : List (List UInt8 × Nat)} :
    (inodes.modify directory (addEntry name index))[inode]? = some (.directory parent entries)
      ↔ ∃ old, inodes[inode]? = some (.directory parent old)
        ∧ entries = if directory = inode then old ++ [(name, index)] else old := by
  rw [List.getElem?_modify]
  cases inodes[inode]? with
  | none => exact iff_of_false nofun nofun
  | some found =>
      by_cases hentered : directory = inode
      · cases found with
        | directory found old => grind [addEntry]
        | _ => simp [addEntry, hentered]
      · grind

/-- A new directory is empty, and in one that is there or in itself. -/
theorem Forest.append (hforest : space.Forest) {new : Inode}
    (hnew : ∀ parent entries, new = .directory parent entries →
      parent ≤ space.inodes.length ∧ entries = []) :
    (space.withInodes (space.inodes ++ [new])).Forest := by
  apply hforest.grow
  · rw [List.length_append]
    exact Nat.le_add_right _ _
  · intro inode hinode
    rw [IsDirectory, entries?, withInodes, List.getElem?_append_left hinode, IsDirectory, entries?]
  · intro inode parent entries hinode
    rw [List.length_append, List.length_singleton]
    rcases Nat.lt_or_ge inode space.inodes.length with hlt | hge
    · rw [List.getElem?_append_left hlt] at hinode
      have hentries := entries?_eq_some_iff.mpr ⟨parent, hinode⟩
      refine ⟨Nat.lt_succ_of_lt (hforest.parents hinode), ?_⟩
      intro name child hlookup
      exact (hforest.children hentries hlookup).imp_right Nat.lt_succ_of_lt
    · rw [List.getElem?_append_right hge, List.getElem?_singleton] at hinode
      split at hinode
      · obtain ⟨hparent, rfl⟩ := hnew parent entries (Option.some.inj hinode)
        exact ⟨Nat.lt_succ_of_le hparent, nofun⟩
      · cases hinode

/-- An inode is entered in a directory that was made before it. -/
theorem Forest.enter (hforest : space.Forest) {directory index : Nat} (name : List UInt8)
    (hbefore : directory < index) (hindex : index < space.inodes.length) :
    (space.withInodes (space.inodes.modify directory (addEntry name index))).Forest := by
  apply hforest.grow
  · rw [List.length_modify]
  · intro inode _
    simp only [isDirectory_iff, entries?_eq_some_iff, withInodes, getElem?_modify_addEntry]
    grind
  · intro inode parent entries hinode
    obtain ⟨old, hold, rfl⟩ := getElem?_modify_addEntry.mp hinode
    have hentries := entries?_eq_some_iff.mpr ⟨parent, hold⟩
    rw [List.length_modify]
    refine ⟨hforest.parents hold, ?_⟩
    intro asked child hlookup
    split at hlookup
    · next heq =>
      rw [List.lookup_append, Option.or_eq_some_iff, List.lookup_cons] at hlookup
      rcases hlookup with hlookup | ⟨-, hlookup⟩
      · exact hforest.children hentries hlookup
      · split at hlookup
        · cases hlookup
          exact ⟨heq ▸ hbefore, hindex⟩
        · cases hlookup
    · exact hforest.children hentries hlookup

theorem Forest.create (hforest : space.Forest) {path : Path} {inode : Place → Inode}
    (hnew : ∀ place parent entries, inode place = .directory parent entries →
      parent = place.inode ∧ entries = [])
    (h : space.create path inode = .ok after) : after.Forest := by
  rw [MountSpace.create] at h
  cases hslot : space.slot path with
  | error errno =>
      rw [hslot] at h
      cases h
  | ok found =>
      obtain ⟨place, name⟩ := found
      rw [hslot] at h
      cases h
      have hplace := (isDirectory_of_slot hslot).lt
      -- the inode is there before it is entered
      have hmade : (space.withInodes (space.inodes ++ [inode place])).Forest := by
        refine hforest.append fun parent entries h => ?_
        obtain ⟨rfl, rfl⟩ := hnew place parent entries h
        exact ⟨hplace.le, rfl⟩
      have hlast : space.inodes.length < (space.inodes ++ [inode place]).length := by
        rw [List.length_append]
        exact Nat.lt_succ_self _
      have hmodify : (space.inodes ++ [inode place]).modify place.inode
            (addEntry name space.inodes.length)
          = space.inodes.modify place.inode (addEntry name space.inodes.length)
              ++ [inode place] := by
        apply List.ext_getElem?
        intro index
        grind
      have hentered := hmade.enter name hplace hlast
      simp only [withInodes, hmodify] at hentered
      exact hentered

/-! ## Another mount -/

/-- The space with a mount of an inode on a place. -/
def withMount (space : MountSpace) (inode : Nat) (place : Place) : MountSpace :=
  { space with mounts := space.mounts ++ [⟨inode, some place⟩] }

variable {inode : Nat}

theorem mounts_withMount (index : Nat) :
    (space.withMount inode place).mounts[index]?
      = if index = space.mounts.length then some ⟨inode, some place⟩ else space.mounts[index]? := by
  rw [withMount]
  rcases Nat.lt_trichotomy index space.mounts.length with hlt | rfl | hgt
  · rw [List.getElem?_append_left hlt, if_neg hlt.ne]
  · rw [List.getElem?_concat_length, if_pos rfl]
  · rw [if_neg hgt.ne', List.getElem?_eq_none hgt.le, List.getElem?_eq_none]
    rw [List.length_append]
    exact hgt

theorem covered?_withMount :
    (space.withMount inode place).covered? mount
      = if mount = space.mounts.length then some place else space.covered? mount := by
  rw [covered?, mounts_withMount]
  split
  · rfl
  · rfl

theorem isMountRoot_withMount {above : Place} :
    (space.withMount inode place).isMountRoot above = true
      ↔ if above.mount = space.mounts.length then inode = above.inode
        else space.isMountRoot above = true := by
  rw [isMountRoot, mounts_withMount]
  split
  · simp
  · rfl

/-- A mount on top of all others at its place hangs above them. -/
theorem Forest.withMount (hforest : space.Forest) (hplace : space.Has place)
    (hfree : space.cover? place = none) (hinode : inode < space.inodes.length)
    (halike : space.IsDirectory inode ↔ space.IsDirectory place.inode) :
    (space.withMount inode place).Forest := by
  have hhas : ∀ {other}, space.Has other → (space.withMount inode place).Has other := by
    refine fun hother => ⟨?_, hother.2⟩
    rw [MountSpace.withMount, List.length_append]
    exact hother.1.trans_le (Nat.le_add_right _ _)
  exact {
    children := hforest.children
    parents := hforest.parents
    shown := by
      intro above habove
      rw [isMountRoot_withMount] at habove
      split at habove
      · exact habove ▸ hinode
      · exact hforest.shown habove
    covered := by
      intro mount other hcovered
      rw [covered?_withMount] at hcovered
      split at hcovered
      · cases hcovered
        exact hhas hplace
      · exact hhas (hforest.covered hcovered)
    alone := by
      -- the place was free, so that nothing else is on it
      have hno := cover?_eq_none_iff.mp hfree
      intro first second other hfirst hsecond
      rw [covered?_withMount] at hfirst hsecond
      split at hfirst
      · split at hsecond
        · next heq heq' => rw [heq, heq']
        · cases hfirst
          exact absurd hsecond (hno _)
      · split at hsecond
        · cases hsecond
          exact absurd hfirst (hno _)
        · exact hforest.alone hfirst hsecond
    ranked := by
      obtain ⟨rank, hrank⟩ := hforest.ranked
      refine ⟨fun mount => if mount = space.mounts.length then rank place.mount + 1
        else rank mount, ?_⟩
      intro mount other hcovered
      rw [covered?_withMount] at hcovered
      dsimp only
      split at hcovered
      · next heq =>
        cases hcovered
        rw [if_neg hplace.1.ne, if_pos heq]
        exact Nat.lt_succ_self _
      · next hne =>
        rw [if_neg (hforest.covered hcovered).1.ne, if_neg hne]
        exact hrank hcovered
    alike := by
      intro other above hcovered habove
      rw [covered?_withMount] at hcovered
      rw [isMountRoot_withMount] at habove
      split at hcovered
      · next heq =>
        cases hcovered
        rw [if_pos heq] at habove
        exact habove ▸ halike
      · next hne =>
        rw [if_neg hne] at habove
        exact hforest.alike hcovered habove
    root := hhas hforest.root
    workdir := hhas hforest.workdir
    isDirectory_root := hforest.isDirectory_root }

theorem Forest.mountOn (hforest : space.Forest) (hplace : space.Has place)
    (hinode : inode < space.inodes.length)
    (halike : space.IsDirectory inode ↔ space.IsDirectory place.inode)
    (h : space.mountOn inode place = .ok after) : after.Forest := by
  rw [MountSpace.mountOn] at h
  split at h
  · cases h
  · cases h
    have hover := over_seen space place
    exact hforest.withMount (hforest.has_seen hplace) (hforest.cover?_seen place) hinode
      (halike.trans (hforest.isDirectory_over hover).symm)

/-- A new file system is a directory at its top, which is in itself. -/
theorem Forest.mountEmpty (hforest : space.Forest) (hplace : space.Has place)
    (hdirectory : space.IsDirectory place.inode)
    (h : (space.withInodes (space.inodes ++ [.directory space.inodes.length []])).mountOn
      space.inodes.length place = .ok after) : after.Forest := by
  have hnew : ∀ parent entries, Inode.directory space.inodes.length [] = .directory parent entries →
      parent ≤ space.inodes.length ∧ entries = [] := by
    rintro parent entries ⟨⟩
    exact ⟨le_rfl, rfl⟩
  have hlength : (space.inodes ++ [Inode.directory space.inodes.length []]).length
      = space.inodes.length + 1 := List.length_append
  refine (hforest.append hnew).mountOn ?_ ?_ ?_ h
  · exact ⟨hplace.1, hplace.2.trans_le (hlength ▸ Nat.le_add_right _ _)⟩
  · exact hlength ▸ Nat.lt_succ_self _
  · apply iff_of_true
    · rw [IsDirectory, entries?, withInodes, List.getElem?_concat_length]
      rfl
    · rw [IsDirectory, entries?, withInodes, List.getElem?_append_left hplace.2]
      exact hdirectory

/-! ## The same mounts on other places -/

/-- Mounts that show what they showed may hang in another way, if that makes a forest again. -/
theorem Forest.rehang (hforest : space.Forest) (hinodes : after.inodes = space.inodes)
    (hroots : ∀ index : Nat,
      after.mounts[index]?.map Mount.root = space.mounts[index]?.map Mount.root)
    (hcovered : ∀ ⦃mount place⦄, after.covered? mount = some place →
      space.Has place ∧ ∀ above, space.isMountRoot above = true → above.mount = mount →
        (space.IsDirectory above.inode ↔ space.IsDirectory place.inode))
    (halone : ∀ ⦃first second place⦄, after.covered? first = some place →
      after.covered? second = some place → first = second)
    (hranked : ∃ rank, after.Ranks rank) (hroot : space.Has after.root)
    (hworkdir : space.Has after.workdir) (hdirectory : space.IsDirectory after.root.inode) :
    after.Forest := by
  have hentries : after.entries? = space.entries? := by
    funext inode
    rw [entries?, hinodes, entries?]
  have hisDirectory : after.IsDirectory = space.IsDirectory := by
    funext inode
    rw [IsDirectory, hentries, IsDirectory]
  have hisRoot : after.isMountRoot = space.isMountRoot := by
    funext place
    rw [isMountRoot, hroots, isMountRoot]
  have hlength : after.mounts.length = space.mounts.length := by
    have hall : after.mounts.map Mount.root = space.mounts.map Mount.root := by
      apply List.ext_getElem?
      intro index
      rw [List.getElem?_map, List.getElem?_map, hroots]
    rw [← List.length_map, hall, List.length_map]
  have hhas : after.Has = space.Has := by
    funext place
    rw [Has, hlength, hinodes, Has]
  exact {
    children := by
      rw [hentries, hinodes]
      exact hforest.children
    parents := by
      rw [hinodes]
      exact hforest.parents
    shown := by
      rw [hisRoot, hinodes]
      exact hforest.shown
    covered := by
      rw [hhas]
      exact fun mount place h => (hcovered h).1
    alone := halone
    ranked := hranked
    alike := by
      rw [hisRoot, hisDirectory]
      exact fun place above h habove => (hcovered h).2 above habove rfl
    root := hhas ▸ hroot
    workdir := hhas ▸ hworkdir
    isDirectory_root := hisDirectory ▸ hdirectory }

theorem covered?_of_detach (h : (space.detach mount).covered? index = some place) :
    space.covered? index = some place := by
  rw [covered?, detach, List.getElem?_mapIdx, Option.bind_eq_some_iff] at h
  obtain ⟨found, hfound, hon⟩ := h
  obtain ⟨before, hbefore, rfl⟩ := Option.map_eq_some_iff.mp hfound
  split at hon
  · cases hon
  · exact covered?_eq_some_iff.mpr ⟨before, hbefore, hon⟩

theorem Forest.detach (hforest : space.Forest) (mount : Nat) : (space.detach mount).Forest := by
  have hinodes : (space.detach mount).inodes = space.inodes := rfl
  apply hforest.rehang hinodes
  · intro index
    rw [MountSpace.detach, List.getElem?_mapIdx]
    cases space.mounts[index]? with
    | none => rfl
    | some inner =>
      rw [Option.map_some, Option.map_some, Option.map_some]
      split
      · rfl
      · rfl
  · intro index place hcovered
    have hbefore := covered?_of_detach hcovered
    refine ⟨hforest.covered hbefore, ?_⟩
    rintro above habove rfl
    exact hforest.alike hbefore habove
  · intro first second place hfirst hsecond
    exact hforest.alone (covered?_of_detach hfirst) (covered?_of_detach hsecond)
  · obtain ⟨rank, hrank⟩ := hforest.ranked
    exact ⟨rank, fun index place hcovered => hrank (covered?_of_detach hcovered)⟩
  · exact hforest.root
  · exact hforest.workdir
  · exact hforest.isDirectory_root

/-! ## Layouts -/

/-- **Every step of a layout keeps the forest.** -/
theorem Forest.apply (hforest : space.Forest) {step : MountStep}
    (h : space.apply step = .ok after) : after.Forest := by
  cases step with
  | makeDirectory path =>
      rw [MountSpace.apply] at h
      refine hforest.create ?_ h
      rintro place parent entries ⟨⟩
      exact ⟨rfl, rfl⟩
  | makeFile path =>
      rw [MountSpace.apply] at h
      refine hforest.create ?_ h
      rintro place parent entries ⟨⟩
  | makeSymlink path target =>
      rw [MountSpace.apply] at h
      refine hforest.create ?_ h
      rintro place parent entries ⟨⟩
  | bind path =>
      rw [MountSpace.apply] at h
      cases hplace : space.resolve path with
      | error errno =>
          rw [hplace] at h
          cases h
      | ok place =>
          rw [hplace] at h
          have hhas := hforest.has_resolve hplace
          exact hforest.mountOn hhas hhas.2 Iff.rfl h
  | mountEmpty path =>
      rw [MountSpace.apply] at h
      cases hresolved : space.resolveDirectory path with
      | error errno =>
          rw [hresolved] at h
          cases h
      | ok place =>
          rw [hresolved] at h
          obtain ⟨hplace, hdirectory⟩ := resolveDirectory_eq_ok_iff.mp hresolved
          exact hforest.mountEmpty (hforest.has_resolve hplace) hdirectory h
  | changeDirectory path =>
      rw [MountSpace.apply] at h
      cases hresolved : space.resolveDirectory path with
      | error errno =>
          rw [hresolved] at h
          cases h
      | ok place =>
          rw [hresolved] at h
          cases h
          have hplace := hforest.has_resolve (resolveDirectory_eq_ok_iff.mp hresolved).1
          exact ⟨hforest.children, hforest.parents, hforest.shown, hforest.covered, hforest.alone,
            hforest.ranked, hforest.alike, hforest.root, hplace, hforest.isDirectory_root⟩
  | detach path =>
      rw [MountSpace.apply] at h
      cases hplace : space.resolve path with
      | error errno =>
          rw [hplace] at h
          cases h
      | ok place =>
          rw [hplace] at h
          simp only [bind, Except.bind] at h
          split at h
          · cases h
          · cases h
            exact hforest.detach place.mount

theorem Forest.applyAll (hforest : space.Forest) (steps : List MountStep) :
    (space.applyAll steps).Forest := by
  rw [MountSpace.applyAll]
  induction steps generalizing space with
  | nil => exact hforest
  | cons step steps ih =>
      rw [List.foldl_cons]
      apply ih
      cases h : space.apply step with
      | error errno => exact hforest
      | ok after => exact hforest.apply h

theorem inodes_initial {inode parent : Nat} {entries : List (List UInt8 × Nat)}
    (h : initial.inodes[inode]? = some (.directory parent entries)) :
    parent < 2 ∧ entries = [] := by
  match inode with
  | 0 | 1 =>
    cases h
    decide
  | _ + 2 => cases h

theorem isDirectory_initial (h : index < 2) : initial.IsDirectory index := by
  match index with
  | 0 | 1 => rfl

theorem covered?_initial (h : initial.covered? mount = some place) :
    mount = 1 ∧ place = ⟨0, 0⟩ := by
  match mount with
  | 1 =>
    cases h
    exact ⟨rfl, rfl⟩
  | 0 | _ + 2 => cases h

theorem isMountRoot_initial (h : initial.isMountRoot place = true) : place.inode < 2 := by
  obtain ⟨found, hfound, hinode⟩ := isMountRoot_iff.mp h
  have hall : ∀ mount ∈ initial.mounts, mount.root < 2 := by decide
  rw [← hinode]
  exact hall found (List.mem_of_getElem? hfound)

theorem forest_initial : initial.Forest where
  children := by
    intro inode entries name child hentries hlookup
    obtain ⟨parent, hinode⟩ := entries?_eq_some_iff.mp hentries
    rw [(inodes_initial hinode).2] at hlookup
    cases hlookup
  parents := fun inode parent entries hinode => (inodes_initial hinode).1
  shown := fun place hroot => isMountRoot_initial hroot
  covered := by
    intro mount place hcovered
    obtain ⟨-, rfl⟩ := covered?_initial hcovered
    exact ⟨Nat.zero_lt_two, Nat.zero_lt_two⟩
  alone := fun first second place hfirst hsecond =>
    (covered?_initial hfirst).1.trans (covered?_initial hsecond).1.symm
  ranked := by
    refine ⟨id, ?_⟩
    intro mount place hcovered
    obtain ⟨rfl, rfl⟩ := covered?_initial hcovered
    exact Nat.zero_lt_one
  alike := by
    intro place above hcovered hroot
    obtain ⟨-, rfl⟩ := covered?_initial hcovered
    exact iff_of_true (isDirectory_initial (isMountRoot_initial hroot))
      (isDirectory_initial Nat.zero_lt_two)
  root := ⟨Nat.one_lt_two, Nat.one_lt_two⟩
  workdir := ⟨Nat.one_lt_two, Nat.one_lt_two⟩
  isDirectory_root := rfl

end PidOne.MountSpace
