import HdfsOperator.Core.GoMap
import HdfsOperator.Core.Text

/-!
# The cluster resource and its role groups

The data that the operator reads from an `HdfsCluster` and the names it derives from
it. Object names have passed the API server; role group names are free map keys, and
pointers that the resource definition does not require are optional.
-/

namespace HdfsOperator

/-- Run-time panics of the modelled code. -/
inductive Panic
  | nilDereference
  | indexOutOfRange
  | makeSlice
  /-- A value passed to `panic`. -/
  | raised (message : String)
  deriving DecidableEq, Repr

/-- The ways in which a call does not return a result: it panics, or returns an error. -/
inductive Fault
  | panic (p : Panic)
  | error (message : String)
  deriving DecidableEq, Repr

/-- The result of a call that can fail. -/
abbrev Go (α : Type) := Except Fault α

/-- A sequence of two calls returns exactly when both do. -/
theorem Go.bind_eq_ok {α β : Type} {x : Go α} {f : α → Go β} {b : β} :
    x >>= f = .ok b ↔ ∃ a, x = .ok a ∧ f a = .ok b := by
  cases x with
  | error e => simp [bind, Except.bind]
  | ok a => simp [bind, Except.bind]

/-- A sequence of two calls fails when the first fails, or when it returns and the second fails. -/
theorem Go.bind_eq_error {α β : Type} {x : Go α} {f : α → Go β} {e : Fault} :
    x >>= f = .error e ↔ x = .error e ∨ ∃ a, x = .ok a ∧ f a = .error e := by
  cases x with
  | error e => simp [bind, Except.bind]
  | ok a => simp [bind, Except.bind]

@[simp] theorem Go.ok_bind {α β : Type} (a : α) (f : α → Go β) :
    (Except.ok a : Go α) >>= f = f a := rfl

@[simp] theorem Go.error_bind {α β : Type} (e : Fault) (f : α → Go β) :
    (Except.error e : Go α) >>= f = .error e := rfl

/-- Reading through a pointer. -/
def deref {α : Type} : Option α → Go α
  | some a => .ok a
  | none => .error (.panic .nilDereference)

@[simp] theorem deref_some {α : Type} (a : α) : deref (some a) = .ok a := rfl

/-- A pointer can be followed exactly when it is set. -/
theorem deref_eq_ok {α : Type} {x : Option α} {a : α} : deref x = .ok a ↔ x = some a := by
  cases x with
  | none => simp [deref]
  | some b => simp

/-- `make` with a negative length or capacity panics. -/
def checkSize (n : Int32) : Go Unit :=
  if n.toInt < 0 then .error (.panic .makeSlice) else .ok ()

/-- The roles of HDFS components. -/
inductive Role
  | nameNode
  | dataNode
  | journalNode
  deriving DecidableEq, Repr

/-- The text of a role in names and labels. -/
def Role.text : Role → String
  | .nameNode => "namenode"
  | .dataNode => "datanode"
  | .journalNode => "journalnode"

/-- The server certificate settings. -/
structure TlsSpec where
  secretClass : String := "tls"
  jksPassword : String := "changeit"
  deriving DecidableEq

/-- The Kerberos settings. -/
structure KerberosSpec where
  secretClass : String
  deriving DecidableEq

/-- The settings of an OIDC provider. -/
structure OidcSpec where
  clientCredentialsSecret : String
  deriving DecidableEq

/-- The authentication settings of a cluster. -/
structure AuthenticationSpec where
  authenticationClass : String := ""
  oidc : Option OidcSpec := none
  tls : Option TlsSpec := none
  kerberos : Option KerberosSpec := none
  deriving DecidableEq

/-- The settings that all roles share. -/
structure ClusterConfigSpec where
  vectorAggregatorConfigMapName : String := ""
  authentication : Option AuthenticationSpec := none
  clusterDomain : String := "cluster.local"
  dfsReplication : Int32 := 1
  deriving DecidableEq

/-- The notation in which a quantity is written. -/
inductive QuantityFormat
  | decimalExponent
  | binarySI
  | decimalSI
  deriving DecidableEq

/-- A quantity: `value` times ten to the power `scale`. -/
structure Quantity where
  value : Int
  scale : Int := 0
  format : QuantityFormat := .decimalSI
  deriving DecidableEq

/-- Whether a quantity is zero, in any notation. -/
def Quantity.isZero (q : Quantity) : Bool := q.value == 0

/-- The least and the largest share of a processor. -/
structure CPUResource where
  min : Quantity
  max : Quantity
  deriving DecidableEq

/-- The memory limit. -/
structure MemoryResource where
  limit : Quantity
  deriving DecidableEq

/-- The size of the data volume. -/
structure StorageResource where
  capacity : Quantity
  deriving DecidableEq

/-- The resources of a role group. -/
@[ext]
structure ResourcesSpec where
  cpu : Option CPUResource := none
  memory : Option MemoryResource := none
  storage : Option StorageResource := none
  deriving DecidableEq

/-- The log settings of a role group. -/
structure LoggingSpec where
  enableVectorAgent : Option Bool
  deriving DecidableEq

/-- The settings that the operator framework defines for role groups. -/
structure RoleGroupConfigSpec where
  resources : Option ResourcesSpec := none
  logging : Option LoggingSpec := none
  deriving DecidableEq

/-- The settings of a role or of a role group. -/
@[ext]
structure ConfigSpec where
  roleGroupConfigSpec : Option RoleGroupConfigSpec := none
  listenerClass : Option String := none
  deriving DecidableEq

/-- One role group of a role. -/
structure RoleGroupSpec where
  replicas : Option Int32 := some 1
  config : Option ConfigSpec := none
  deriving DecidableEq

/-- One role. -/
structure RoleSpec where
  config : Option ConfigSpec := none
  roleGroups : GoMap RoleGroupSpec

/-- The resource that describes a cluster. -/
structure HdfsCluster where
  name : DnsName
  nameSpace : DnsName
  clusterConfig : ClusterConfigSpec
  nameNode : Option RoleSpec
  dataNode : Option RoleSpec
  journalNode : Option RoleSpec

/-- The role groups of a role; a missing role has none. -/
def roleGroupsOf : Option RoleSpec → GoMap RoleGroupSpec
  | some r => r.roleGroups
  | none => ∅

/-- The role of a cluster. -/
def HdfsCluster.role (c : HdfsCluster) : Role → Option RoleSpec
  | .nameNode => c.nameNode
  | .dataNode => c.dataNode
  | .journalNode => c.journalNode

/-- The role groups of one role of a cluster. -/
def HdfsCluster.groups (c : HdfsCluster) (r : Role) : GoMap RoleGroupSpec :=
  roleGroupsOf (c.role r)

/-- The NameNode groups of a cluster with NameNodes. -/
theorem HdfsCluster.groups_nameNode {c : HdfsCluster} {spec : RoleSpec}
    (h : c.nameNode = some spec) : c.groups .nameNode = spec.roleGroups := by
  simp only [groups, role, h, roleGroupsOf]

/-- A cluster without NameNodes has no NameNode groups. -/
theorem HdfsCluster.groups_nameNode_of_none {c : HdfsCluster} (h : c.nameNode = none) :
    c.groups .nameNode = ∅ := by
  simp only [groups, role, h, roleGroupsOf]

/-- A cluster with a NameNode group has the NameNode role. -/
theorem HdfsCluster.exists_nameNode {c : HdfsCluster} {g : String} {s : RoleGroupSpec}
    (h : (c.groups .nameNode).lookup g = some s) : ∃ spec, c.nameNode = some spec := by
  refine Option.ne_none_iff_exists'.mp fun hnone => ?_
  rw [groups_nameNode_of_none hnone] at h
  cases h

/-- Kerberos is on when its settings are present. -/
def isKerberosEnabled (clusterSpec : ClusterConfigSpec) : Bool :=
  clusterSpec.authentication.any fun a => a.kerberos.isSome

/-- TLS is on when its settings are present. -/
def isTlsEnabled (clusterSpec : ClusterConfigSpec) : Bool :=
  clusterSpec.authentication.any fun a => a.tls.isSome

/-- The identity of a role group. -/
structure RoleGroupInfo where
  clusterName : String
  roleName : String
  roleGroupName : String
  deriving DecidableEq

/-- The name that the objects of a role group share. -/
def RoleGroupInfo.getFullName (r : RoleGroupInfo) : String :=
  r.clusterName ++ "-" ++ r.roleName ++ "-" ++ r.roleGroupName

/-- The shared name of the role group `g` of the role `r`. -/
def HdfsCluster.fullName (c : HdfsCluster) (r : Role) (g : String) : String :=
  RoleGroupInfo.getFullName ⟨c.name.val, r.text, g⟩

/-- Groups of one role have different full names. -/
theorem HdfsCluster.fullName_inj {c : HdfsCluster} {r : Role} {g g' : String}
    (h : c.fullName r g = c.fullName r g') : g = g' := by
  have hl := congrArg String.toList h
  simp only [HdfsCluster.fullName, RoleGroupInfo.getFullName, String.toList_append,
    List.append_cancel_left_eq] at hl
  exact String.toList_inj.mp hl

/-- The number of ordinals that a loop below a replica count visits. -/
def ordinals (replicas : Int32) : List Nat := List.range replicas.toInt.toNat

@[simp] theorem length_ordinals (replicas : Int32) :
    (ordinals replicas).length = replicas.toInt.toNat := by simp [ordinals]

/-- The number of pods that a role group asks for. -/
def RoleGroupSpec.podCount (s : RoleGroupSpec) : Nat :=
  match s.replicas with
  | some r => r.toInt.toNat
  | none => 0

/-- The ordinals of a replica count are those of the pods. -/
theorem ordinals_podCount {s : RoleGroupSpec} {n : Int32} (h : s.replicas = some n) :
    ordinals n = List.range s.podCount := by
  rw [ordinals, RoleGroupSpec.podCount, h]

/-- A replica count is set and is not negative. -/
def RoleGroupSpec.Sized (s : RoleGroupSpec) : Prop := ∃ r : Int32, s.replicas = some r ∧ 0 ≤ r.toInt

/-- Every role group of a role has a replica count that is set and not negative. -/
def HdfsCluster.Sized (c : HdfsCluster) (r : Role) : Prop :=
  ∀ g s, (c.groups r).lookup g = some s → s.Sized

/-- The pods of a role, over all its groups: an entry for each group and ordinal. -/
def HdfsCluster.podTotal (c : HdfsCluster) (r : Role) : Nat :=
  ((c.groups r).entries.map fun e => e.2.podCount).sum

/-- The number of role groups of a role. -/
def HdfsCluster.groupCount (c : HdfsCluster) (r : Role) : Nat := (c.groups r).entries.length

/-- A pod of a role: the ordinal of a replica of one of its groups. -/
structure Pod where
  group : String
  ordinal : Nat
  deriving DecidableEq, Repr

/-- The pods of a role of a cluster. -/
def HdfsCluster.pods (c : HdfsCluster) (r : Role) : List Pod :=
  (c.groups r).entries.flatMap fun e => (List.range e.2.podCount).map (Pod.mk e.1)

/-- The NameNode pods of a cluster. -/
def HdfsCluster.nameNodePods (c : HdfsCluster) : List Pod := c.pods .nameNode

/-- The pods of a role are the ordinals below the replica counts of its groups. -/
theorem HdfsCluster.mem_pods {c : HdfsCluster} {r : Role} {p : Pod} :
    p ∈ c.pods r ↔ ∃ s, (c.groups r).lookup p.group = some s ∧ p.ordinal < s.podCount := by
  simp only [pods, List.mem_flatMap, List.mem_map, List.mem_range]
  constructor
  · rintro ⟨⟨g, s⟩, he, i, hi, rfl⟩
    exact ⟨s, AList.mem_lookup_iff.mpr he, hi⟩
  · rintro ⟨s, hs, hi⟩
    exact ⟨⟨p.group, s⟩, AList.mem_lookup_iff.mp hs, p.ordinal, hi, rfl⟩

/-- The name of a NameNode pod. -/
def HdfsCluster.podName (c : HdfsCluster) (p : Pod) : String :=
  ordinalName (c.fullName .nameNode p.group) p.ordinal

/-- A role with the given role groups and replica counts. -/
def RoleSpec.ofReplicas (groups : List (String × Int32)) : RoleSpec :=
  { roleGroups := .ofList (groups.map fun e => (e.1, { replicas := some e.2 })) }

/-- A cluster named `hdfs` with the given role groups and replica counts. -/
def HdfsCluster.ofReplicas (clusterConfig : ClusterConfigSpec)
    (nameNode dataNode journalNode : List (String × Int32)) : HdfsCluster where
  name := ⟨"hdfs", by decide⟩
  nameSpace := ⟨"default", by decide⟩
  clusterConfig := clusterConfig
  nameNode := some (.ofReplicas nameNode)
  dataNode := some (.ofReplicas dataNode)
  journalNode := some (.ofReplicas journalNode)

/-- One group with one pod in each role. -/
def oneGroupEach : HdfsCluster := .ofReplicas {} [("default", 1)] [("default", 1)] [("default", 1)]

/-- One group in each role, with two NameNode and three JournalNode pods. -/
def nameNodeGroupWith (clusterConfig : ClusterConfigSpec) : HdfsCluster :=
  .ofReplicas clusterConfig [("default", 2)] [("default", 1)] [("default", 3)]

/-- Such a cluster without security. -/
def oneNameNodeGroup : HdfsCluster := nameNodeGroupWith {}

/-- Such a cluster with Kerberos. -/
def kerberosCluster : HdfsCluster :=
  nameNodeGroupWith { authentication := some { kerberos := some ⟨"kerberos"⟩ } }

end HdfsOperator
