import PidOne.Proofs.Session.Run

/-!
# Objects stay whole

`Holder.Whole` holds of every object at every point of a run: a guard has the descriptor whose
number it knows, or none, and the guard inside a process descriptor or a copied one always has its
descriptor. Nothing that a kernel does bears on this, numbers closed behind an object's back
included. It is kept because a guard is emptied in one deed only that leaves its object behind, and
that object is a guard of its own.
-/

namespace PidOne

theorem Holder.number_of_whole {holder : Holder} {kept : Guard} {owned : Owned} (h : holder.Whole)
    (hguard : holder.guard? = some kept) (hheld : kept.held = some owned) :
    owned.number = kept.number := by
  cases holder with
  | bare fd => cases hguard
  | owned plain => cases hguard
  | guard plain =>
      cases hguard
      exact h owned hheld
  | pidfd pidfd =>
      cases hguard
      rw [show pidfd = _ from h] at hheld ⊢
      cases hheld
      rfl
  | remote remote =>
      cases hguard
      rw [show remote = _ from h] at hheld ⊢
      cases hheld
      rfl

theorem Holder.borrow?_of_whole {holder : Holder} {guard : Guard} {fd : Nat} (h : holder.Whole)
    (hguard : holder.guard? = some guard) (hheld : holder.held? = some fd) :
    guard.borrow? = some guard.number := by
  rw [Session.held?_of_guard? hguard] at hheld
  cases hown : guard.held with
  | none =>
      rw [Guard.borrow?_of_empty hown] at hheld
      cases hheld
  | some owned => rw [Guard.borrow?_of_held hown, Holder.number_of_whole h hguard hown]

namespace Session

def AllWhole (session : Session) : Prop :=
  ∀ name holder, session.holder? name = some holder → holder.Whole

variable {session before after : Session} {step : Step} {outcome : Outcome} {name : String}
  {holder : Holder}

theorem AllWhole.update {value : Option Holder} (h : before.AllWhole)
    (hvalue : ∀ made, value = some made → made.Whole)
    (hafter : after.holder? = Function.update before.holder? name value) : after.AllWhole := by
  intro other made hmade
  rw [hafter, Function.update_apply] at hmade
  split at hmade
  · exact hvalue made hmade
  · exact h other made hmade

theorem AllWhole.bind (h : session.AllWhole) (hwhole : holder.Whole) :
    (session.bind name holder).AllWhole := by
  refine h.update (fun made hmade => ?_) (holder?_bind session name holder)
  obtain rfl := Option.some.inj hmade
  exact hwhole

theorem AllWhole.remove (h : session.AllWhole) : (session.remove name).AllWhole :=
  h.update (fun _ hnone => by cases hnone) (holder?_remove session name)

theorem AllWhole.replace {guard : Guard} (h : session.AllWhole)
    (hholder : session.holder? name = some holder) :
    (session.replace name (.guard guard.emptied)).AllWhole := by
  refine h.update (fun made hmade => ?_) (holder?_replace hholder _)
  obtain rfl := Option.some.inj hmade
  -- an empty guard has no number to know
  rintro owned ⟨⟩

theorem Deed.allWhole (h : Deed before step outcome after) (hwhole : before.AllWhole) :
    after.AllWhole := by
  cases h with
  | ignored => exact hwhole
  | noted => exact hwhole
  | stirred => exact hwhole
  | piped =>
      have hkernel : (before.withKernel before.host.kernel.pipe.2.2).AllWhole := hwhole
      exact (hkernel.bind (Holder.whole_bare _)).bind (Holder.whole_bare _)
  | asked => exact hwhole
  | misfit => exact hwhole
  | opened _ _ _ _ _ hmade => exact AllWhole.bind hwhole hmade
  | tookIn _ _ _ _ _ _ hmade => exact hwhole.remove.bind hmade
  | used => exact hwhole
  | released hholder => exact AllWhole.replace hwhole hholder
  | closed => exact hwhole.remove
  | dropped => exact hwhole.remove
  | closedPlain => exact hwhole.remove
  | handedOut => exact hwhole.remove.bind (Holder.whole_owned _)
  | keptBack => exact hwhole.remove

theorem allWhole_run (kernel : Kernel) (steps : List Step) :
    ((start kernel).run steps).AllWhole := by
  induction steps using List.reverseRecOn with
  | nil =>
      intro name holder hholder
      cases hholder
  | append_singleton steps step ih =>
      rw [run_concat]
      exact (deed_step _ step).allWhole ih

end Session

end PidOne
