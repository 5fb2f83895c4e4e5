import HdfsOperator.Core.Transition
import HdfsOperator.Models.Replicas

/-!
# Formatting NameNodes

The init script of a NameNode pod reads the service state of the ids in its list, one after
the other, and stops at the first one that is active. Then, if its data directory has not
been formatted, it formats it when it saw no active NameNode and copies the active one
otherwise. Pods of one stateful set start in order; stateful sets are independent of each
other, and running NameNodes change their state at any time.
-/

namespace HdfsOperator

/-- The ids in the init script of a role group. -/
def HdfsCluster.formatPodNames (c : HdfsCluster) (g : String) : Go (List String) := do
  let spec ← deref ((c.groups .nameNode).lookup g)
  let nameNodeReplicates ← deref spec.replicas
  createPodNamesByReplicas nameNodeReplicates (c.fullName .nameNode g)

/-- How far a pod has come. -/
inductive Phase
  /-- The init script has not started. -/
  | pending
  /-- The script has still to read these ids. -/
  | scanning (ids : List String)
  /-- The script has left the loop; whether it has seen an active NameNode. -/
  | scanned (activeSeen : Bool)
  /-- The script has ended. -/
  | initialized
  /-- The NameNode runs with its RPC port open. -/
  | running
  deriving DecidableEq, Repr

/-- The ids that the script of a pod has still to read. -/
def Phase.unread : Phase → List String
  | .scanning ids => ids
  | _ => []

/-- The state of all NameNode pods. -/
structure FormatState where
  phase : Pod → Phase
  /-- The data directory has a `VERSION` file. -/
  version : Pod → Bool
  /-- The NameNode that is active. -/
  active : Option Pod
  /-- The pods that found no `VERSION` file, latest first. -/
  missing : List Pod
  /-- The pods that executed `namenode -format`, latest first. -/
  formatted : List Pod
  /-- The pods that executed `namenode -bootstrapStandby`, latest first. -/
  bootstrapped : List Pod

/-- Before any pod has started; the data directories may hold anything. -/
def FormatState.init (version : Pod → Bool) : FormatState where
  phase _ := .pending
  version := version
  active := none
  missing := []
  formatted := []
  bootstrapped := []

/-- What can happen next. -/
inductive FormatAction
  /-- The init script of a pod starts. -/
  | start (p : Pod)
  /-- The init script of a pod reads the state of the next id. -/
  | read (p : Pod)
  /-- The init script of a pod looks at its data directory and acts. -/
  | act (p : Pod)
  /-- The NameNode of a pod opens its RPC port. -/
  | serve (p : Pod)
  /-- A running NameNode becomes active. -/
  | elect (p : Pod)
  /-- The active NameNode becomes standby. -/
  | demote
  deriving DecidableEq, Repr

namespace FormatState

/-- A pod moves to another phase. -/
def setPhase (s : FormatState) (p : Pod) (ph : Phase) : FormatState :=
  { s with phase := fun q => if q = p then ph else s.phase q }

/-- A data directory gets a `VERSION` file. -/
def setVersion (s : FormatState) (p : Pod) : FormatState :=
  { s with version := fun q => if q = p then true else s.version q }

/-- The loop of the script with the given ids still to read. -/
def loop : List String → Phase
  | [] => .scanned false
  | ids => .scanning ids

/-- The end of the script, after the loop. -/
def finish (s : FormatState) (p : Pod) (activeSeen : Bool) : FormatState :=
  let s' := s.setPhase p .initialized
  if s.version p then s'
  else if activeSeen then
    { s'.setVersion p with missing := p :: s.missing, bootstrapped := p :: s.bootstrapped }
  else { s'.setVersion p with missing := p :: s.missing, formatted := p :: s.formatted }

/-- One action; `none` when it is not enabled. -/
def step (c : HdfsCluster) (s : FormatState) : FormatAction → Option FormatState
  | .start p =>
    if p ∈ c.nameNodePods ∧ s.phase p = .pending ∧
        ∀ i ∈ List.range p.ordinal, s.phase ⟨p.group, i⟩ = .running then
      match c.formatPodNames p.group with
      | .ok ids => some (s.setPhase p (loop ids))
      | .error _ => none
    else none
  | .read p =>
    match s.phase p with
    | .scanning (id :: ids) =>
      if s.active.map c.podName = some id then some (s.setPhase p (.scanned true))
      else some (s.setPhase p (loop ids))
    | _ => none
  | .act p =>
    match s.phase p with
    | .scanned activeSeen => some (s.finish p activeSeen)
    | _ => none
  | .serve p => if s.phase p = .initialized then some (s.setPhase p .running) else none
  | .elect p =>
    if s.phase p = .running ∧ s.active = none then some { s with active := some p } else none
  | .demote => if s.active = none then none else some { s with active := none }

end FormatState

end HdfsOperator
