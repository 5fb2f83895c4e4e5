import HdfsOperator.Models.Bootstrap
import HdfsOperator.Models.Discovery
import HdfsOperator.Models.WaitForNameNodes

/-!
# Starting DataNode pods

The init script of a DataNode pod asks for the service state of all NameNodes in passes, until
every answer of a pass says that the NameNode is active or standby. After the last pass it
ends all the same. The admin command of Hadoop, which answers, reads the `hdfs-site.xml` of the
DataNode group and is a parameter. NameNode pods start, run and are lost meanwhile.
-/

namespace HdfsOperator

/-- The number of passes that the script makes at most. -/
def maxPasses : Nat := 12

/-- The service states that the script accepts. -/
def isServing (serviceState : String) : Bool :=
  serviceState == "active" || serviceState == "standby"

/-- What the admin command may print: with a document, in a state of the NameNode pods, for an
id. -/
abbrev AdminCommand := String → FormatState → String → String → Bool

/-- How far the script has come. -/
inductive WaitPhase
  /-- In pass `n`, with these ids still to ask for; whether all answers so far were accepted. -/
  | checking (n : Nat) (unread : List String) (allNodesReady : Bool)
  /-- The script has ended; whether it has seen all NameNodes ready. -/
  | ended (ready : Bool)
  deriving DecidableEq, Repr

/-- The NameNode pods and the script of one DataNode pod. -/
structure DataNodeStart where
  boot : BootstrapState
  wait : WaitPhase

/-- What can happen next. -/
inductive StartAction
  /-- Something happens to a NameNode pod. -/
  | boot (a : BootstrapAction)
  /-- The script asks for the next id of its pass, and gets an answer. -/
  | check (serviceState : String)
  /-- The script ends its pass. -/
  | endPass
  deriving DecidableEq, Repr

namespace DataNodeStart

/-- The script starts its first pass before any NameNode pod has started. -/
def init (version : Pod → Bool) (znode : Bool) (ids : List String) : DataNodeStart where
  boot := .init version znode
  wait := .checking 0 ids true

/-- What the script does after a pass. -/
def afterPass (ids : List String) (n : Nat) (allNodesReady : Bool) : WaitPhase :=
  if allNodesReady then .ended true
  else if n + 1 < maxPasses then .checking (n + 1) ids true
  else .ended false

/-- One action; `none` when it is not enabled. -/
def step (admin : AdminCommand) (c : HdfsCluster) (site : String) (ids : List String)
    (s : DataNodeStart) : StartAction → Option DataNodeStart
  | .boot a => (s.boot.step c a).map fun b => { s with boot := b }
  | .check serviceState =>
    match s.wait with
    | .checking n (id :: unread) allNodesReady =>
      if admin site s.boot.format id serviceState then
        some { s with
          wait := .checking n unread (if isServing serviceState then allNodesReady else false) }
      else none
    | _ => none
  | .endPass =>
    match s.wait with
    | .checking n [] allNodesReady => some { s with wait := afterPass ids n allNodesReady }
    | _ => none

end DataNodeStart

end HdfsOperator
