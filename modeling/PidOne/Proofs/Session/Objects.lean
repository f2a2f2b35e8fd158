import Mathlib.Logic.Function.Basic
import PidOne.Session
import PidOne.Proofs.Lookup

/-!
# The objects of a session

A session keeps its objects in lists; proofs look at them as functions of the name. `holder?` is
changed by `bind`, `remove` and `replace` at one name only, and `held?` follows it: the number that
goes away with an object, which a guard that has been emptied does not have.

A name that has been given stays in `numbers`, so a name that can still be given has no object.
-/

namespace PidOne.Session

def table (session : Session) : FdTable := session.host.kernel.table

/-- The number that the object under a name will close when it goes away. -/
def held? (session : Session) (name : String) : Option Nat :=
  (session.holder? name).bind Holder.held?

/-- Every object has a name that has been given. -/
def Named (session : Session) : Prop :=
  ∀ name, session.numbers.lookup name = none → session.holder? name = none

variable {session before after : Session} {name other : String} {holder made : Holder}

theorem held?_of_holder? (h : session.holder? name = some holder) :
    session.held? name = holder.held? := by
  rw [held?, h, Option.bind_some]

theorem Named.ne_of_lookup (h : session.Named) (hholder : session.holder? name = some holder)
    (hfree : session.numbers.lookup other = none) : name ≠ other := by
  rintro rfl
  rw [h name hfree] at hholder
  cases hholder

theorem held?_of_none (h : session.holder? name = none) : session.held? name = none := by
  rw [held?, h, Option.bind_none]

theorem held?_update {value : Option Holder}
    (h : after.holder? = Function.update before.holder? name value) :
    after.held? = Function.update before.held? name (value.bind Holder.held?) := by
  funext other
  rw [held?, h]
  by_cases hname : other = name
  · subst hname
    simp
  · simp [hname, held?]

theorem held?_eq (h : after.holder? = before.holder?) : after.held? = before.held? := by
  funext other
  rw [held?, held?, h]

/-! ## Changes of the lists -/

theorem holder?_bind (session : Session) (name : String) (holder : Holder) :
    (session.bind name holder).holder?
      = Function.update session.holder? name (some holder) := by
  funext other
  rw [holder?, bind, lookup_cons_eq, Function.update_apply]
  rfl

theorem holder?_remove (session : Session) (name : String) :
    (session.remove name).holder? = Function.update session.holder? name none := by
  funext other
  rw [holder?, remove, lookup_filter_ne, Function.update_apply]
  rfl

theorem holder?_remove_self (session : Session) (name : String) :
    (session.remove name).holder? name = none := by
  rw [holder?_remove, Function.update_self]

theorem holder?_remove_of_ne {other : String} (h : name ≠ other) (session : Session) :
    (session.remove other).holder? name = session.holder? name := by
  rw [holder?_remove, Function.update_of_ne h]

theorem holder?_bind_of_ne {other : String} (h : name ≠ other) (session : Session)
    (holder : Holder) : (session.bind other holder).holder? name = session.holder? name := by
  rw [holder?_bind, Function.update_of_ne h]

theorem holder?_replace (h : session.holder? name = some holder) (made : Holder) :
    (session.replace name made).holder?
      = Function.update session.holder? name (some made) := by
  funext other
  rw [holder?, replace, lookup_map_replace, Function.update_apply]
  by_cases hname : other = name
  · subst hname
    rw [if_pos rfl, if_pos rfl]
    exact congrArg (Option.map _) h
  · rw [if_neg hname, if_neg hname]
    rfl

end PidOne.Session
