import PidOne.Proofs.Session.Inversion

/-!
# Accounts of descriptors

Two invariants between a descriptor table, the numbers that objects hold, and the numbers that were
open before anything was made. `Covers` says that no descriptor is lost: each is old or held by an
object. `Accounts` adds that each is held once, and that nothing is held that is not open or is old.

Both are kept by making, letting go and moving. Closing a number behind the back of its holder keeps
`Covers` only: the holder then waits for a number that may come back under another one, and two
objects hold the same. `Accounts` is kept where no object holds the number.
-/

namespace PidOne

/-- Every descriptor is old or held by an object. -/
def Covers (table : FdTable) (held? : String → Option Nat) (old : Nat → Prop) : Prop :=
  ∀ fd, table.get? fd ≠ none → (∃ name, held? name = some fd) ∨ old fd

/-- Every descriptor that is not old is held by one object, and objects hold nothing else. -/
structure Accounts (table : FdTable) (held? : String → Option Nat) (old : Nat → Prop) : Prop where
  covers : Covers table held? old
  injective : ∀ {name other fd}, held? name = some fd → held? other = some fd → name = other
  open_of_held : ∀ {name fd}, held? name = some fd → table.get? fd ≠ none
  not_old : ∀ {name fd}, held? name = some fd → ¬ old fd

variable {table : FdTable} {held? : String → Option Nat} {old older : Nat → Prop}
  {name new : String} {fd : Nat}

/-! ## What is made, and what is let go -/

theorem ne_lowestFree (h : table.get? fd ≠ none) : fd ≠ table.lowestFree := by
  rintro rfl
  exact h table.get?_lowestFree

namespace Covers

theorem insert (h : Covers table held? old) (hname : held? name = none)
    (descriptor : Descriptor) :
    Covers (table.insert descriptor)
      (Function.update held? name (some table.lowestFree)) old := by
  intro fd hopen
  by_cases hfd : fd = table.lowestFree
  · exact .inl ⟨name, by rw [Function.update_self, hfd]⟩
  rw [FdTable.get?_insert, if_neg hfd] at hopen
  rcases h fd hopen with ⟨holder, hheld⟩ | hold
  · have hne : holder ≠ name := by
      rintro rfl
      rw [hname] at hheld
      cases hheld
    exact .inl ⟨holder, by rwa [Function.update_of_ne hne]⟩
  · exact .inr hold

theorem letGo (h : Covers table held? old) (name : String) :
    Covers ((held? name).elim table table.erase) (Function.update held? name none) old := by
  intro fd hopen
  -- a number that is open afterwards is not the one that has been closed
  have hbefore : table.get? fd ≠ none ∧ held? name ≠ some fd := by
    cases hheld : held? name with
    | none =>
        rw [hheld] at hopen
        exact ⟨hopen, nofun⟩
    | some closed =>
        rw [hheld, Option.elim_some, FdTable.get?_erase] at hopen
        split at hopen
        · exact absurd rfl hopen
        · next hne => exact ⟨hopen, fun heq => hne (Option.some.inj heq).symm⟩
  rcases h fd hbefore.1 with ⟨holder, hheld⟩ | hold
  · have hne : holder ≠ name := by
      rintro rfl
      exact hbefore.2 hheld
    exact .inl ⟨holder, by rwa [Function.update_of_ne hne]⟩
  · exact .inr hold

theorem move (h : Covers table held? old) (hheld : held? name = some fd)
    (hnew : held? new = none) :
    Covers table (Function.update (Function.update held? name none) new (some fd)) old := by
  intro other hopen
  rcases h other hopen with ⟨holder, hholder⟩ | hold
  · left
    have hne : holder ≠ new := by
      rintro rfl
      rw [hnew] at hholder
      cases hholder
    by_cases hname : holder = name
    · subst hname
      rw [hheld] at hholder
      cases hholder
      exact ⟨new, Function.update_self _ _ _⟩
    · exact ⟨holder, by rwa [Function.update_of_ne hne, Function.update_of_ne hname]⟩
  · exact .inr hold

theorem erase (h : Covers table held? old) (closed : Nat) :
    Covers (table.erase closed) held? old := by
  intro fd hopen
  rw [FdTable.get?_erase] at hopen
  split at hopen
  · exact absurd rfl hopen
  · exact h fd hopen

theorem mono (h : Covers table held? old) (hold : ∀ fd, old fd → table.get? fd ≠ none → older fd) :
    Covers table held? older := by
  intro fd hopen
  rcases h fd hopen with hheld | hbefore
  · exact .inl hheld
  · exact .inr (hold fd hbefore hopen)

end Covers

namespace Accounts

theorem insert (h : Accounts table held? old) (hname : held? name = none)
    (hold : ¬ old table.lowestFree) (descriptor : Descriptor) :
    Accounts (table.insert descriptor)
      (Function.update held? name (some table.lowestFree)) old where
  covers := h.covers.insert hname descriptor
  injective := by
    intro holder other fd hholder hother
    rw [Function.update_apply] at hholder hother
    split at hholder
    · next hfirst =>
      -- the lowest free number is held by nobody, as objects hold open numbers only
      split at hother
      · next hsecond => exact hfirst.trans hsecond.symm
      · cases hholder
        exact absurd rfl (ne_lowestFree (h.open_of_held hother))
    · split at hother
      · cases hother
        exact absurd rfl (ne_lowestFree (h.open_of_held hholder))
      · exact h.injective hholder hother
  open_of_held := by
    intro holder fd hholder
    rw [FdTable.get?_insert]
    rw [Function.update_apply] at hholder
    split at hholder
    · cases hholder
      rw [if_pos rfl]
      exact nofun
    · rw [if_neg (ne_lowestFree (h.open_of_held hholder))]
      exact h.open_of_held hholder
  not_old := by
    intro holder fd hholder
    rw [Function.update_apply] at hholder
    split at hholder
    · cases hholder
      exact hold
    · exact h.not_old hholder

theorem letGo (h : Accounts table held? old) (name : String) :
    Accounts ((held? name).elim table table.erase) (Function.update held? name none) old := by
  have hbefore : ∀ {holder fd}, Function.update held? name none holder = some fd →
      held? holder = some fd ∧ holder ≠ name := by
    intro holder fd hholder
    rw [Function.update_apply] at hholder
    split at hholder
    · cases hholder
    · next hne => exact ⟨hholder, hne⟩
  refine ⟨h.covers.letGo name, ?_, ?_, ?_⟩
  · intro holder other fd hholder hother
    exact h.injective (hbefore hholder).1 (hbefore hother).1
  · intro holder fd hholder
    obtain ⟨hheld, hne⟩ := hbefore hholder
    cases hclosed : held? name with
    | none => exact h.open_of_held hheld
    | some closed =>
        -- the number that is closed has no other holder
        have hfd : fd ≠ closed := by
          rintro rfl
          exact hne (h.injective hheld hclosed)
        rw [Option.elim_some, FdTable.get?_erase, if_neg hfd]
        exact h.open_of_held hheld
  · intro holder fd hholder
    exact h.not_old (hbefore hholder).1

theorem move (h : Accounts table held? old) (hheld : held? name = some fd)
    (hnew : held? new = none) :
    Accounts table (Function.update (Function.update held? name none) new (some fd)) old := by
  -- either the new object, or one that was there and is not the old one
  have hbefore : ∀ {holder number},
      Function.update (Function.update held? name none) new (some fd) holder = some number →
        holder = new ∧ number = fd ∨ held? holder = some number ∧ holder ≠ name := by
    intro holder number hholder
    rw [Function.update_apply, Function.update_apply] at hholder
    split at hholder
    · next hholder' =>
      cases hholder
      exact .inl ⟨hholder', rfl⟩
    · split at hholder
      · cases hholder
      · next hne => exact .inr ⟨hholder, hne⟩
  refine ⟨h.covers.move hheld hnew, ?_, ?_, ?_⟩
  · intro holder other number hholder hother
    rcases hbefore hholder with ⟨rfl, rfl⟩ | ⟨hfirst, hne⟩
    · rcases hbefore hother with ⟨rfl, _⟩ | ⟨hsecond, hne⟩
      · rfl
      · exact absurd (h.injective hsecond hheld) hne
    · rcases hbefore hother with ⟨rfl, rfl⟩ | ⟨hsecond, _⟩
      · exact absurd (h.injective hfirst hheld) hne
      · exact h.injective hfirst hsecond
  · intro holder number hholder
    rcases hbefore hholder with ⟨_, rfl⟩ | ⟨hfirst, _⟩
    · exact h.open_of_held hheld
    · exact h.open_of_held hfirst
  · intro holder number hholder
    rcases hbefore hholder with ⟨_, rfl⟩ | ⟨hfirst, _⟩
    · exact h.not_old hheld
    · exact h.not_old hfirst

theorem erase (h : Accounts table held? old) {closed : Nat}
    (hclosed : ∀ name, held? name ≠ some closed) : Accounts (table.erase closed) held? old where
  covers := h.covers.erase closed
  injective := h.injective
  open_of_held := by
    intro name fd hheld
    have hfd : fd ≠ closed := by
      rintro rfl
      exact hclosed name hheld
    rw [FdTable.get?_erase, if_neg hfd]
    exact h.open_of_held hheld
  not_old := h.not_old

theorem mono (h : Accounts table held? old)
    (hold : ∀ fd, table.get? fd ≠ none → (older fd ↔ old fd)) : Accounts table held? older where
  covers := h.covers.mono fun fd hbefore hopen => (hold fd hopen).mpr hbefore
  injective := h.injective
  open_of_held := h.open_of_held
  not_old := fun hheld holder => h.not_old hheld ((hold _ (h.open_of_held hheld)).mp holder)

end Accounts

end PidOne
