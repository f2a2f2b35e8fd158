import PidOne.Config.Environment
import PidOne.Config.Json
import PidOne.Log.Logger
import PidOne.Session.Report
import PidOne.Syscall.Json
import PidOne.Proofs.Guard.Once
import PidOne.Proofs.Lockstep
import PidOne.Proofs.Ownership.Exclusive
import PidOne.Proofs.Session.Whole
import PidOne.Proofs.Session.Failing
import PidOne.Proofs.Guard.Telling
import PidOne.Proofs.Session.Moments
import PidOne.Proofs.Session.Telling
import PidOne.Proofs.Session.Chronicle
import PidOne.Proofs.Kernel.Pipes
import PidOne.Proofs.Session.Sharing
import PidOne.Proofs.Text.Utf8
import PidOne.Proofs.Json.Quoted
import PidOne.Proofs.Config.RoundTrip
import PidOne.Proofs.Config.Documents
import PidOne.Proofs.Session.Apart
import PidOne.Proofs.Ownership.Lasting
import PidOne.Proofs.Reporting
import PidOne.Proofs.Kernel.Granting
import PidOne.Proofs.Session.Adopting
import PidOne.Proofs.Kernel.Allocating
import PidOne.Proofs.Kernel.Orderly
import PidOne.Proofs.Kernel.Renumbering
import PidOne.Proofs.Session.Opening
import PidOne.Proofs.Carrying
import PidOne.Proofs.Log.SettingUp
import PidOne.Proofs.Text.Lossy
import PidOne.Proofs.Handing
import PidOne.Proofs.Wrapping
import PidOne.Proofs.Kernel.Living
import PidOne.Proofs.Kernel.Refusing
import PidOne.Proofs.PidFd.Opening
import PidOne.Proofs.PidFd.Copying
import PidOne.Proofs.PidFd.Racing
import PidOne.Proofs.Syscall.Keys
import PidOne.Proofs.Config.Environment
import PidOne.Proofs.Messages
import PidOne.Proofs.PidFd.Uniting
import PidOne.Proofs.Mount.Forest
import PidOne.Proofs.Mount.Walking
import PidOne.Proofs.Mount.Laying
import PidOne.Proofs.Mount.Pivoting
import PidOne.Proofs.Mount.Switching
