import HdfsOperator.Core.Shell
import HdfsOperator.Models.FormatNameNode

/-!
# Starting NameNode pods

A NameNode pod runs two init scripts, one after the other, before its containers. The first
formats the data directory. The second creates the ZNode of the failover controllers: it
takes the ordinal from the name of its pod, executes `zkfc -formatZK` if that is zero, and
reads the exit code of the command. A script that fails is run again. A pod can be lost at
any time; it then starts from the beginning, with the data directory that it had.
-/

namespace HdfsOperator

/-- The test of the second script on the name of its pod. -/
def isFirstOrdinal (podName : String) : Bool :=
  decide (Shell.number (Shell.afterLast '-' podName) = some 0)

/-- The exit code with which the command says that it has created the ZNode. -/
def zkFormatted : Nat := 0

/-- The exit code with which the command says that the ZNode was there. -/
def zkExisted : Nat := 2

/-- The exit codes after which the second script ends well. -/
def formatZKSucceeds (exitCode : Nat) : Bool := exitCode == zkFormatted || exitCode == zkExisted

/-- What the command can do, if the ZNode is there or not: it creates it at most once, and the two
exit codes that the script knows tell the truth. A command that fails may have created it. -/
def FormatZKAnswer (znode : Bool) (exitCode : Nat) (creates : Bool) : Prop :=
  (creates = true → znode = false) ∧ (exitCode = zkFormatted → creates = true) ∧
    (exitCode = zkExisted → znode = true)

instance (znode : Bool) (exitCode : Nat) (creates : Bool) :
    Decidable (FormatZKAnswer znode exitCode creates) := inferInstanceAs (Decidable (_ ∧ _ ∧ _))

/-- The state of all NameNode pods and of the ZNode. -/
structure BootstrapState where
  /-- The pods as far as the first script and the NameNodes are concerned. -/
  format : FormatState
  /-- The second script of the pod has ended. -/
  zkReady : Pod → Bool
  /-- The ZNode is there. -/
  znode : Bool
  /-- The pods that executed the command, latest first. -/
  attempted : List Pod
  /-- The pods that created the ZNode, latest first. -/
  created : List Pod

/-- Before any pod has started. The data directories may hold anything; the ZNode may be there. -/
def BootstrapState.init (version : Pod → Bool) (znode : Bool) : BootstrapState where
  format := .init version
  zkReady _ := false
  znode := znode
  attempted := []
  created := []

/-- What can happen next. -/
inductive BootstrapAction
  /-- An action of the first script, or of a NameNode. -/
  | format (a : FormatAction)
  /-- The second script of a pod runs; if it executes the command, this is what that does. -/
  | formatZK (p : Pod) (exitCode : Nat) (creates : Bool)
  /-- A pod is lost. -/
  | lose (p : Pod)
  deriving DecidableEq, Repr

namespace BootstrapState

/-- The second script of a pod has ended. -/
def setZkReady (s : BootstrapState) (p : Pod) (ready : Bool) : BootstrapState :=
  { s with zkReady := fun q => if q = p then ready else s.zkReady q }

/-- The command has been executed. -/
def record (s : BootstrapState) (p : Pod) (creates : Bool) : BootstrapState :=
  { s with
    znode := s.znode || creates
    attempted := p :: s.attempted
    created := if creates then p :: s.created else s.created }

/-- The second script of a pod. -/
def runFormatZK (c : HdfsCluster) (s : BootstrapState) (p : Pod) (exitCode : Nat)
    (creates : Bool) : Option BootstrapState :=
  if isFirstOrdinal (c.podName p) then
    if FormatZKAnswer s.znode exitCode creates then
      some ((s.record p creates).setZkReady p (formatZKSucceeds exitCode))
    else none
  else some (s.setZkReady p true)

/-- A pod is gone, and with it the role of its NameNode. -/
def forget (s : BootstrapState) (p : Pod) : BootstrapState :=
  { s.setZkReady p false with
    format := { s.format.setPhase p .pending with
      active := if s.format.active = some p then none else s.format.active } }

/-- The containers of a pod start after its second script. -/
def Allowed (s : BootstrapState) : FormatAction → Bool
  | .serve p => s.zkReady p
  | _ => true

/-- One action; `none` when it is not enabled. -/
def step (c : HdfsCluster) (s : BootstrapState) : BootstrapAction → Option BootstrapState
  | .format a =>
    if s.Allowed a then (FormatState.step c s.format a).map fun f => { s with format := f }
    else none
  | .formatZK p exitCode creates =>
    if s.format.phase p = .initialized ∧ s.zkReady p = false then
      s.runFormatZK c p exitCode creates
    else none
  | .lose p => if s.format.phase p = .pending then none else some (s.forget p)

end BootstrapState

end HdfsOperator
