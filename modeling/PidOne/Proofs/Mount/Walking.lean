import Mathlib.Data.Prod.Lex
import PidOne.Proofs.Mount.Forest

/-!
# Walking along a path

A walk goes up and down and over symbolic links, and all it comes to is there. A walk that only goes
down is simpler: `Leads` says to which place names lead, without links and without `..`, and such a
walk comes to no place twice but by a dot, since everything in a directory was made after it and
everything over a place is ranked above it.
-/

namespace PidOne.MountSpace

variable {space : MountSpace} {place start target : Place} {names : List (List UInt8)}

/-! ## All walks -/

theorem Forest.has_below (hforest : space.Forest) (limit : Nat) (hplace : space.Has place) :
    space.Has (space.below limit place) := by
  induction limit generalizing place with
  | zero => exact hplace
  | succ limit ih =>
      rw [below]
      split
      · exact hplace
      · split
        · exact hplace
        · next under hcovered => exact ih (hforest.covered hcovered)

theorem Forest.has_parent (hforest : space.Forest) (hplace : space.Has place) :
    space.Has (space.parent place) := by
  have hbelow := hforest.has_below space.mounts.length hplace
  unfold parent
  dsimp only
  split
  · exact hforest.has_seen hbelow
  · split
    · next parent entries hinode => exact hforest.has_seen ⟨hbelow.1, hforest.parents hinode⟩
    · exact hbelow

theorem Forest.has_walk (hforest : space.Forest) {links : Nat} (hplace : space.Has place)
    (h : space.walk links place names = .ok target) : space.Has target := by
  fun_induction space.walk links place names with
  | case1 =>
      cases h
      exact hplace
  | case3 links place rest entries hentries ih => exact ih hplace h
  | case4 links place rest entries hentries hne ih => exact ih (hforest.has_parent hplace) h
  | case9 place name rest entries hentries hdot hdotDot hname inode hlookup next path hlink links
      hempty ih =>
      refine ih ?_ h
      split
      · exact hforest.root
      · exact hplace
  | case10 links place name rest entries hentries hdot hdotDot hname inode hlookup next hlink ih =>
      exact ih (hforest.has_seen ⟨hplace.1, (hforest.children hentries hlookup).2⟩) h
  | case2 | case5 | case6 | case7 | case8 => cases h

theorem Forest.has_resolve (hforest : space.Forest) {path : Path}
    (h : space.resolve path = .ok place) : space.Has place := by
  rw [resolve] at h
  split at h
  · cases h
  · split at h
    · cases h
    · refine hforest.has_walk ?_ h
      split
      · exact hforest.root
      · exact hforest.workdir

theorem resolveDirectory_eq_ok_iff {path : Path} :
    space.resolveDirectory path = .ok place
      ↔ space.resolve path = .ok place ∧ space.IsDirectory place.inode := by
  rw [resolveDirectory]
  cases h : space.resolve path with
  | error errno => exact iff_of_false nofun nofun
  | ok found =>
      dsimp only
      split
      · next hdirectory =>
        constructor
        · rintro ⟨⟩
          exact ⟨rfl, hdirectory⟩
        · rintro ⟨⟨⟩, -⟩
          rfl
      · next hnone =>
        apply iff_of_false nofun
        rintro ⟨⟨⟩, hdirectory⟩
        exact hnone hdirectory

theorem resolve_of_isAbsolute {path : Path} (habsolute : path.isAbsolute = true)
    (hlength : path.length < maxPath) :
    space.resolve path = space.walk maxLinks space.root path.components := by
  have hne : path.isEmpty = false := by
    cases path with
    | nil => cases habsolute
    | cons => rfl
  rw [resolve, hne, if_neg Bool.false_ne_true, if_neg (Nat.not_le.mpr hlength), if_pos habsolute]

/-! ## Walks down -/

/-- To which place names lead from another one, over no symbolic link and never up. -/
inductive Leads (space : MountSpace) : Place → List (List UInt8) → Place → Prop where
  | nil (place : Place) : Leads space place [] place
  | stay {place target : Place} {names : List (List UInt8)}
      (hplace : space.IsDirectory place.inode) (h : Leads space place names target) :
      Leads space place (dot :: names) target
  | enter {place target : Place} {name : List UInt8} {names : List (List UInt8)}
      {entries : List (List UInt8 × Nat)} {child : Nat}
      (hentries : space.entries? place.inode = some entries) (hdot : name ≠ dot)
      (hdotDot : name ≠ dotDot) (hname : name.length ≤ maxName)
      (hlookup : entries.lookup name = some child)
      (hlink : ∀ path, space.inodes[(space.seen ⟨place.mount, child⟩).inode]?
        ≠ some (.symlink path))
      (h : Leads space (space.seen ⟨place.mount, child⟩) names target) :
      Leads space place (name :: names) target

theorem isDirectory_iff {inode : Nat} :
    space.IsDirectory inode ↔ ∃ entries, space.entries? inode = some entries :=
  Option.isSome_iff_exists

/-- It does not matter how many links might have been followed. -/
theorem Leads.walk (h : space.Leads start names target) (links : Nat) :
    space.walk links start names = .ok target := by
  induction h with
  | nil => rw [MountSpace.walk]
  | stay hplace _ ih =>
      obtain ⟨entries, hentries⟩ := isDirectory_iff.mp hplace
      rw [MountSpace.walk, hentries]
      exact ih
  | enter hentries hdot hdotDot hname hlookup hlink _ ih =>
      rw [MountSpace.walk, hentries]
      dsimp only
      rw [if_neg hdot, if_neg hdotDot, if_neg (Nat.not_lt.mpr hname), hlookup]
      dsimp only
      split
      · next path hpath => exact absurd hpath (hlink path)
      · exact ih

/-- **Names lead down as walks do that may not follow a link.** -/
theorem leads_iff :
    space.Leads start names target ↔ dotDot ∉ names ∧ space.walk 0 start names = .ok target := by
  constructor
  · intro h
    refine ⟨?_, h.walk 0⟩
    induction h with
    | nil => exact List.not_mem_nil
    | stay _ _ ih =>
        rw [List.mem_cons, not_or]
        exact ⟨by decide, ih⟩
    | enter _ _ hdotDot _ _ _ _ ih =>
        rw [List.mem_cons, not_or]
        exact ⟨hdotDot.symm, ih⟩
  · rintro ⟨hup, hwalk⟩
    generalize hlinks : 0 = links at hwalk
    fun_induction space.walk links start names with
    | case1 =>
        cases hwalk
        exact .nil _
    | case3 links place rest entries hentries ih =>
        have hrest : dotDot ∉ rest := fun hmem => hup (List.mem_cons_of_mem _ hmem)
        exact .stay (isDirectory_iff.mpr ⟨entries, hentries⟩) (ih hrest hlinks hwalk)
    | case4 => exact absurd List.mem_cons_self hup
    | case9 => cases hlinks
    | case10 links place name rest entries hentries hdot hdotDot hname inode hlookup next hlink
        ih =>
        have hrest : dotDot ∉ rest := fun hmem => hup (List.mem_cons_of_mem _ hmem)
        exact .enter hentries hdot hdotDot (Nat.not_lt.mp hname) hlookup hlink
          (ih hrest hlinks hwalk)
    | case2 | case5 | case6 | case7 | case8 => cases hwalk

theorem Leads.append {between : Place} {rest : List (List UInt8)}
    (h : space.Leads start names between) (hrest : space.Leads between rest target) :
    space.Leads start (names ++ rest) target := by
  induction h with
  | nil => exact hrest
  | stay hplace _ ih => exact .stay hplace (ih hrest)
  | enter hentries hdot hdotDot hname hlookup hlink _ ih =>
      exact .enter hentries hdot hdotDot hname hlookup hlink (ih hrest)

theorem Leads.hangs (h : space.Leads start names target) :
    space.Hangs start.mount target.mount := by
  induction h with
  | nil => exact .refl
  | stay _ _ ih => exact ih
  | @enter place _ _ _ _ child _ _ _ _ _ _ _ ih =>
      exact (over_seen space ⟨place.mount, child⟩).hangs.trans ih

theorem leads_dots (hplace : space.IsDirectory place.inode) (h : ∀ name ∈ names, name = dot) :
    space.Leads place names place := by
  induction names with
  | nil => exact .nil place
  | cons name rest ih =>
      obtain rfl := h name List.mem_cons_self
      exact .stay hplace (ih fun name hmem => h name (List.mem_cons_of_mem _ hmem))

/-! ## Going deeper -/

variable {rank : Nat → Nat}

/-- How deep a place is: first by its mount, then by its inode. -/
def depth (rank : Nat → Nat) (place : Place) : ℕ ×ₗ ℕ := toLex (rank place.mount, place.inode)

theorem Over.depth_le (h : space.Over place target) (hrank : space.Ranks rank) :
    depth rank place ≤ depth rank target := by
  induction h with
  | refl => exact le_rfl
  | tail _ hcover ih =>
      apply ih.trans
      apply le_of_lt
      exact Prod.Lex.toLex_lt_toLex.mpr (.inl (hrank (of_cover?_eq_some hcover).1))

/-- Names either are all dots and lead nowhere else, or they lead deeper. -/
theorem Leads.dots_or_deeper (h : space.Leads start names target) (hforest : space.Forest)
    (hrank : space.Ranks rank) :
    (∀ name ∈ names, name = dot) ∧ target = start ∨ depth rank start < depth rank target := by
  induction h with
  | nil => exact .inl ⟨nofun, rfl⟩
  | stay _ _ ih =>
      refine ih.imp_left ?_
      rintro ⟨hdots, htarget⟩
      exact ⟨List.forall_mem_cons.mpr ⟨rfl, hdots⟩, htarget⟩
  | @enter place target name names entries child hentries _ _ _ hlookup _ _ ih =>
      right
      have hdown : depth rank place < depth rank ⟨place.mount, child⟩ :=
        Prod.Lex.toLex_lt_toLex.mpr (.inr ⟨rfl, (hforest.children hentries hlookup).1⟩)
      have hup := (over_seen space ⟨place.mount, child⟩).depth_le hrank
      rcases ih with ⟨-, rfl⟩ | hdeeper
      · exact hdown.trans_le hup
      · exact (hdown.trans_le hup).trans hdeeper

theorem Leads.dots (h : space.Leads place names place) (hforest : space.Forest) :
    ∀ name ∈ names, name = dot := by
  obtain ⟨rank, hrank⟩ := hforest.ranked
  rcases h.dots_or_deeper hforest hrank with ⟨hdots, -⟩ | hdeeper
  · exact hdots
  · exact absurd hdeeper (lt_irrefl _)

end PidOne.MountSpace
