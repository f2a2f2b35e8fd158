import Mathlib.Data.Finset.Card
import Mathlib.Data.Finset.Range
import Mathlib.Logic.Relation
import PidOne.Mount.Layout
import PidOne.Mount.Pivot

/-!
# The forest of mounts

Inodes form trees, and so do mounts, where a mount hangs from the one that has the place it covers.
`Forest` says that it is so and that no place is covered twice. Then what is on top of a place is
well determined: the mounts over it are a chain, which `seen` walks to its end, since every mount on
it is ranked above the one before and there are only so many.
-/

namespace PidOne.MountSpace

/-- The mount and the inode of a place are there. -/
def Has (space : MountSpace) (place : Place) : Prop :=
  place.mount < space.mounts.length ∧ place.inode < space.inodes.length

def IsDirectory (space : MountSpace) (inode : Nat) : Prop := (space.entries? inode).isSome = true

/-- Each mount is ranked above the one it hangs from. -/
def Ranks (space : MountSpace) (rank : Nat → Nat) : Prop :=
  ∀ ⦃mount place⦄, space.covered? mount = some place → rank place.mount < rank mount

structure Forest (space : MountSpace) : Prop where
  /-- Inodes are numbered as they were made, and a directory is made before what is in it. -/
  children : ∀ ⦃inode entries name child⦄, space.entries? inode = some entries →
    entries.lookup name = some child → inode < child ∧ child < space.inodes.length
  parents : ∀ ⦃inode parent : Nat⦄ ⦃entries⦄,
    space.inodes[inode]? = some (Inode.directory parent entries) → parent < space.inodes.length
  shown : ∀ ⦃place⦄, space.isMountRoot place = true → place.inode < space.inodes.length
  covered : ∀ ⦃mount place⦄, space.covered? mount = some place → space.Has place
  alone : ∀ ⦃first second place⦄, space.covered? first = some place →
    space.covered? second = some place → first = second
  ranked : ∃ rank, space.Ranks rank
  /-- Directories are covered by directories, and all else by something else. -/
  alike : ∀ ⦃place above⦄, space.covered? above.mount = some place →
    space.isMountRoot above = true → (space.IsDirectory above.inode ↔ space.IsDirectory place.inode)
  root : space.Has space.root
  workdir : space.Has space.workdir
  isDirectory_root : space.IsDirectory space.root.inode

variable {space : MountSpace} {place above other : Place} {mount index : Nat}

/-! ## What covers a place -/

theorem covered?_eq_some_iff :
    space.covered? mount = some place
      ↔ ∃ found, space.mounts[mount]? = some found ∧ found.on = some place :=
  Option.bind_eq_some_iff

theorem isMountRoot_iff :
    space.isMountRoot place = true
      ↔ ∃ found, space.mounts[place.mount]? = some found ∧ found.root = place.inode := by
  rw [isMountRoot, beq_iff_eq, Option.map_eq_some_iff]

theorem lt_of_isMountRoot (h : space.isMountRoot place = true) :
    place.mount < space.mounts.length := by
  obtain ⟨found, hfound, -⟩ := isMountRoot_iff.mp h
  exact (List.getElem?_eq_some_iff.mp hfound).1

/-- Places with mounts that show them are the same if their mounts are. -/
theorem eq_of_isMountRoot (h : space.isMountRoot place = true)
    (hother : space.isMountRoot other = true) (hmount : place.mount = other.mount) :
    place = other := by
  rw [isMountRoot, beq_iff_eq] at h hother
  rw [hmount, hother] at h
  cases place
  cases other
  cases hmount
  cases h
  rfl

theorem of_cover?_eq_some (h : space.cover? place = some above) :
    space.covered? above.mount = some place ∧ space.isMountRoot above = true := by
  rw [cover?, Option.map_eq_some_iff] at h
  obtain ⟨⟨found, index⟩, hfind, rfl⟩ := h
  have hmem := List.mem_reverse.mp (List.mem_of_find?_eq_some hfind)
  have hfound : space.mounts[index]? = some found := List.mem_zipIdx_iff_getElem?.mp hmem
  have hon : found.on = some place := by simpa using List.find?_some hfind
  constructor
  · exact covered?_eq_some_iff.mpr ⟨found, hfound, hon⟩
  · exact isMountRoot_iff.mpr ⟨found, hfound, rfl⟩

theorem cover?_eq_none_iff :
    space.cover? place = none ↔ ∀ mount, space.covered? mount ≠ some place := by
  rw [cover?, Option.map_eq_none_iff, List.find?_eq_none]
  constructor
  · intro h mount hcovered
    obtain ⟨found, hfound, hon⟩ := covered?_eq_some_iff.mp hcovered
    refine h (found, mount) ?_ (beq_iff_eq.mpr hon)
    exact List.mem_reverse.mpr (List.mem_zipIdx_iff_getElem?.mpr hfound)
  · rintro h ⟨found, index⟩ hmem hon
    refine h index (covered?_eq_some_iff.mpr ⟨found, ?_, beq_iff_eq.mp hon⟩)
    exact List.mem_zipIdx_iff_getElem?.mp (List.mem_reverse.mp hmem)

theorem Forest.cover?_eq_some_iff (hforest : space.Forest) :
    space.cover? place = some above
      ↔ space.covered? above.mount = some place ∧ space.isMountRoot above = true := by
  constructor
  · exact of_cover?_eq_some
  · rintro ⟨hcovered, hroot⟩
    cases hcover : space.cover? place with
    | none => exact absurd hcovered (cover?_eq_none_iff.mp hcover _)
    | some found =>
        obtain ⟨hfound, hfoundRoot⟩ := of_cover?_eq_some hcover
        rw [eq_of_isMountRoot hfoundRoot hroot (hforest.alone hfound hcovered)]

/-! ## What hangs from a mount -/

/-- A mount is another one, or hangs from it by way of others. -/
def Hangs (space : MountSpace) (lower : Nat) : Nat → Prop :=
  Relation.ReflTransGen (fun under mount => ∃ place, space.covered? mount = some place
    ∧ place.mount = under) lower

variable {lower upper : Nat} {rank : Nat → Nat}

theorem Hangs.trans {between : Nat} (h : space.Hangs lower between)
    (hnext : space.Hangs between upper) : space.Hangs lower upper :=
  Relation.ReflTransGen.trans h hnext

theorem Hangs.on (h : space.Hangs lower place.mount)
    (hcovered : space.covered? mount = some place) : space.Hangs lower mount :=
  Relation.ReflTransGen.tail h ⟨place, hcovered, rfl⟩

theorem Hangs.eq_or_on (h : space.Hangs lower upper) :
    lower = upper ∨ ∃ place, space.covered? upper = some place ∧ space.Hangs lower place.mount := by
  rcases Relation.ReflTransGen.cases_tail h with rfl | ⟨_, hlower, place, hcovered, rfl⟩
  · exact .inl rfl
  · exact .inr ⟨place, hcovered, hlower⟩

theorem Hangs.rank_le (h : space.Hangs lower upper) (hrank : space.Ranks rank) :
    rank lower ≤ rank upper := by
  induction h with
  | refl => exact Nat.le_refl _
  | tail _ hstep ih =>
      obtain ⟨place, hcovered, rfl⟩ := hstep
      exact ih.trans (Nat.le_of_lt (hrank hcovered))

/-- Nothing hangs from a mount that hangs from it. -/
theorem Hangs.antisymm (h : space.Hangs lower upper) (hback : space.Hangs upper lower)
    (hrank : space.Ranks rank) : lower = upper := by
  rcases h.eq_or_on with heq | ⟨place, hcovered, hlower⟩
  · exact heq
  · have hbelow := hrank hcovered
    have hle := (hback.trans hlower).rank_le hrank
    exact absurd hbelow (Nat.not_lt.mpr hle)

/-! ## What is over a place -/

/-- A place is another one, or seen there through some of the mounts over it. -/
def Over (space : MountSpace) : Place → Place → Prop :=
  Relation.ReflTransGen fun under above => space.cover? under = some above

theorem Over.hangs (h : space.Over place above) : space.Hangs place.mount above.mount := by
  induction h with
  | refl => exact .refl
  | tail _ hcover ih => exact ih.on (of_cover?_eq_some hcover).1

/-- What is on each other in one space is so in another one that covers the places between alike. -/
theorem Over.kept {after : MountSpace} (h : space.Over place above)
    (hkept : ∀ ⦃under next⦄, space.Over place under → space.cover? under = some next →
      space.Over next above → after.cover? under = some next) : after.Over place above := by
  induction h with
  | refl => exact .refl
  | tail hover hcover ih =>
      apply Relation.ReflTransGen.tail
      · exact ih fun under next hunder hnext hrest => hkept hunder hnext (hrest.tail hcover)
      · exact hkept hover hcover .refl

theorem over_top (space : MountSpace) (limit : Nat) (place : Place) :
    space.Over place (space.top limit place) := by
  induction limit generalizing place with
  | zero => exact .refl
  | succ limit ih =>
      rw [top]
      split
      · exact .refl
      · next above hcover => exact .head hcover (ih above)

theorem over_seen (space : MountSpace) (place : Place) : space.Over place (space.seen place) :=
  over_top space _ place

/-- The mounts that are ranked above that of a place. -/
def higher (space : MountSpace) (rank : Nat → Nat) (place : Place) : Finset Nat :=
  (Finset.range space.mounts.length).filter fun mount => rank place.mount < rank mount

theorem card_higher_lt (hrank : space.Ranks rank) (h : space.cover? place = some other) :
    (space.higher rank other).card < (space.higher rank place).card := by
  obtain ⟨hcovered, hroot⟩ := of_cover?_eq_some h
  have hlt := hrank hcovered
  apply Finset.card_lt_card
  rw [Finset.ssubset_iff_of_subset]
  · refine ⟨other.mount, ?_, ?_⟩
    · exact Finset.mem_filter.mpr ⟨Finset.mem_range.mpr (lt_of_isMountRoot hroot), hlt⟩
    · intro hmem
      exact Nat.lt_irrefl _ (Finset.mem_filter.mp hmem).2
  · intro mount hmem
    obtain ⟨hrange, habove⟩ := Finset.mem_filter.mp hmem
    exact Finset.mem_filter.mpr ⟨hrange, hlt.trans habove⟩

theorem cover?_top (hrank : space.Ranks rank) {limit : Nat}
    (h : (space.higher rank place).card ≤ limit) : space.cover? (space.top limit place) = none := by
  induction limit generalizing place with
  | zero =>
      rw [top]
      by_contra hcovered
      obtain ⟨other, hcover⟩ := Option.ne_none_iff_exists'.mp hcovered
      exact Nat.not_lt.mpr (h.trans (Nat.zero_le _)) (card_higher_lt hrank hcover)
  | succ limit ih =>
      rw [top]
      split
      · next hcover => exact hcover
      · next other hcover =>
        exact ih (Nat.le_of_lt_succ ((card_higher_lt hrank hcover).trans_le h))

theorem Forest.cover?_seen (hforest : space.Forest) (place : Place) :
    space.cover? (space.seen place) = none := by
  obtain ⟨rank, hrank⟩ := hforest.ranked
  apply cover?_top hrank
  calc (space.higher rank place).card
      ≤ (Finset.range space.mounts.length).card := Finset.card_filter_le _ _
    _ = space.mounts.length := Finset.card_range _

/-- There is one way up from a place, and it ends at what is seen there. -/
theorem Forest.seen_eq_iff (hforest : space.Forest) :
    space.seen place = above ↔ space.Over place above ∧ space.cover? above = none := by
  constructor
  · rintro rfl
    exact ⟨over_seen space place, hforest.cover?_seen place⟩
  · rintro ⟨hover, htop⟩
    have hunique : Relator.RightUnique fun under above => space.cover? under = some above := by
      intro under first second hfirst hsecond
      rw [hfirst] at hsecond
      exact Option.some.inj hsecond
    rcases Relation.ReflTransGen.total_of_right_unique hunique (over_seen space place) hover with
      hup | hup
    · rcases Relation.ReflTransGen.cases_head hup with heq | ⟨next, hcover, -⟩
      · exact heq
      · rw [hforest.cover?_seen] at hcover
        cases hcover
    · rcases Relation.ReflTransGen.cases_head hup with heq | ⟨next, hcover, -⟩
      · exact heq.symm
      · rw [htop] at hcover
        cases hcover

theorem Forest.seen_eq_self_iff (hforest : space.Forest) :
    space.seen place = place ↔ space.cover? place = none := by
  rw [hforest.seen_eq_iff]
  exact and_iff_right .refl

theorem Forest.seen_of_over (hforest : space.Forest) (h : space.Over place above) :
    space.seen place = space.seen above :=
  hforest.seen_eq_iff.mpr ⟨h.trans (over_seen space above), hforest.cover?_seen above⟩

theorem Forest.isDirectory_over (hforest : space.Forest) (h : space.Over place above) :
    space.IsDirectory above.inode ↔ space.IsDirectory place.inode := by
  induction h with
  | refl => exact Iff.rfl
  | tail _ hcover ih =>
      obtain ⟨hcovered, hroot⟩ := of_cover?_eq_some hcover
      exact (hforest.alike hcovered hroot).trans ih

theorem Forest.has_over (hforest : space.Forest) (h : space.Over place above)
    (hplace : space.Has place) : space.Has above := by
  rcases Relation.ReflTransGen.cases_tail h with rfl | ⟨under, -, hcover⟩
  · exact hplace
  · have hroot := (of_cover?_eq_some hcover).2
    exact ⟨lt_of_isMountRoot hroot, hforest.shown hroot⟩

theorem Forest.has_seen (hforest : space.Forest) (hplace : space.Has place) :
    space.Has (space.seen place) :=
  hforest.has_over (over_seen space place) hplace

end PidOne.MountSpace
