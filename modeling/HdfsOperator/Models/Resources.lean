import HdfsOperator.Models.Components

/-!
# The objects of a cluster

`RegisterResources` registers a reconciler for every object that the operator keeps for a
cluster. An object is identified by its kind and its name.
-/

namespace HdfsOperator

/-- The kinds of objects that the operator writes. -/
inductive Kind
  | serviceAccount
  | service
  | statefulSet
  | configMap
  deriving DecidableEq, Repr

/-- The identity of an object in the namespace of the cluster. -/
structure ObjectKey where
  kind : Kind
  name : String
  deriving DecidableEq, Repr

/-- The parts of a generated name; an empty part is left out. -/
structure ResourceNameGenerator where
  instanceName : String
  roleName : String := ""
  groupName : String := ""

/-- The instance, group and role names and a suffix, separated by dashes. -/
def ResourceNameGenerator.generateResourceName (r : ResourceNameGenerator) (extraSuffix : String) :
    Go String := do
  let res := if r.instanceName ≠ "" then r.instanceName ++ "-" else ""
  let res := if r.groupName ≠ "" then res ++ r.groupName ++ "-" else res
  let res ←
    if r.roleName ≠ "" then .ok (res ++ r.roleName)
    -- The last character is cut off, which must be there.
    else if res = "" then .error (.panic .indexOutOfRange)
    else .ok (String.ofList res.toList.dropLast)
  return if extraSuffix ≠ "" then res ++ "-" ++ extraSuffix else res

/-- The name of the service account of a cluster. -/
def createServiceAccountName (instanceName : String) : Go String :=
  ResourceNameGenerator.generateResourceName { instanceName } "sa"

/-- The name of the metrics service of a role group. -/
def createServiceMetricsName (roleGroupInfo : RoleGroupInfo) : String :=
  roleGroupInfo.getFullName ++ "-metrics"

/-- The objects of a role group. Every role has a metrics port, so the metrics service is always
among them. -/
def registerStandardResources (roleGroupInfo : RoleGroupInfo) : List ObjectKey :=
  [⟨.service, roleGroupInfo.getFullName⟩,
   ⟨.service, createServiceMetricsName roleGroupInfo⟩,
   ⟨.statefulSet, roleGroupInfo.getFullName⟩,
   ⟨.configMap, roleGroupInfo.getFullName⟩]

/-- The objects of a role: a loop over its groups. -/
def HdfsCluster.registerRole (c : HdfsCluster) (r : Role) (o : RangeOrder) : List ObjectKey :=
  ((c.groups r).range o).flatMap fun e => registerStandardResources ⟨c.name.val, r.text, e.1⟩

/-- The objects of a cluster, with an iteration order for each loop over the groups of a role. -/
def HdfsCluster.registerResources (c : HdfsCluster) (populate o : Role → RangeOrder) :
    Go (List ObjectKey) := do
  let serviceAccountName ← createServiceAccountName c.name.val
  let _ ← clusterComponents c populate
  return ⟨.serviceAccount, serviceAccountName⟩ ::
    (c.registerRole .nameNode (o .nameNode) ++ c.registerRole .journalNode (o .journalNode) ++
      c.registerRole .dataNode (o .dataNode)) ++ [⟨.configMap, c.name.val⟩]

end HdfsOperator
