import HdfsOperator.Core.CountedLoop
import HdfsOperator.Models.Discovery

/-!
# The loops over replica counts

The loops behind the names, addresses and properties by replica count, as they are written:
a counter of 32 bits, and slices that are either made in full length and written by index or
appended to. Every loop computes what the definition by ordinals computes, for every count.
-/

namespace HdfsOperator.Loops

open Counted Printf

/-- `make([]T, n)`: every entry is the zero value of its type. -/
def makeSlice {α : Type} (n : Int32) (zero : α) : Go (List α) := do
  checkSize n
  return List.replicate n.toInt.toNat zero

/-- `slice[i] = a`. -/
def store {α : Type} (slice : List α) (i : Int32) (a : α) : Go (List α) :=
  if 0 ≤ i.toInt ∧ i.toInt.toNat < slice.length then .ok (slice.set i.toInt.toNat a)
  else .error (.panic .indexOutOfRange)

/-- `fmt.Sprintf("%s-%d", name, i)`. -/
def podNameOf (name : String) (i : Int32) : String := name ++ "-" ++ toString i.toInt

/-- The addresses of the pods of a stateful set. -/
def createNetworksByReplicates (replicates : Int32)
    (statefulResourceName svcName nameSpace clusterDomain : String) (port : Nat) :
    Go (List String) := do
  let networks ← makeSlice replicates ""
  forBelow replicates (fun i networks =>
    let podName := podNameOf statefulResourceName i
    let networkUrl := createNetworkUrl podName svcName nameSpace clusterDomain port
    store networks i networkUrl) 0 networks

/-- The names of the pods of a stateful set. -/
def createPodNamesByReplicas (replicas : Int32) (statefulResourceName : String) :
    Go (List String) := do
  let podNames ← makeSlice replicas ""
  forBelow replicas (fun i podNames =>
    let podName := podNameOf statefulResourceName i
    store podNames i podName) 0 podNames

/-- A rendered key and value for each ordinal. The counter is not negative when a template is
rendered. -/
def createKvContentByReplicas (replicas : Int32) (keyTemplate valueTemplate : String) :
    Go (List (String × String)) :=
  forBelow replicas (fun i res =>
    let key := sprintf keyTemplate i.toInt.toNat
    let value := renderValue valueTemplate i.toInt.toNat
    .ok (res ++ [(key, value)])) 0 []

/-- A rendered property for each ordinal. The result is made with room for all of them. -/
def createXmlContentByReplicas (replicas : Int32) (keyTemplate valueTemplate : String) :
    Go (List XmlNameValuePair) := do
  checkSize replicas
  let kvs ← createKvContentByReplicas replicas keyTemplate valueTemplate
  return kvs.foldl (fun res kv => res ++ [⟨kv.1, kv.2⟩]) []

/-- The pods of one group are appended to those of the groups before it. -/
def appendPodNames (podNames : List String) (nameNodeStatefulSetName : String)
    (replicas : Int32) : Go (List String) :=
  forBelow replicas (fun i podNames => .ok (podNames ++ [podNameOf nameNodeStatefulSetName i])) 0
    podNames

/-- The body of the loop over the groups. -/
def visitGroup (instanceName : String) (nameNodeGroups : GoMap RoleGroupSpec)
    (podNames : List String) (groupName : String) : Go (List String) :=
  match nameNodeGroups.lookup groupName with
  | some roleGroup =>
    match roleGroup.replicas with
    | some replicas => appendPodNames podNames (instanceName ++ "-namenode-" ++ groupName) replicas
    | none => .ok podNames
  | none => .ok podNames

/-- The names of all NameNode pods, as the discovery ConfigMap enumerates them. -/
def getPodNames (instanceName : String) (nameNodeGroups : GoMap RoleGroupSpec) (o : RangeOrder) :
    Go (List String) :=
  ((nameNodeGroups.range o).map Prod.fst).foldlM (visitGroup instanceName nameNodeGroups) []

/-- The name that the loop body makes from its index. -/
theorem podNameOf_eq {i : Int32} (h : 0 ≤ i.toInt) (name : String) :
    podNameOf name i = ordinalName name i.toInt.toNat := by
  obtain ⟨k, hk⟩ := Int.eq_ofNat_of_zero_le h
  rw [podNameOf, ordinalName, hk]
  rfl

/-- A slice of which the first `k` entries are written and the others are zero. -/
def written {α : Type} (entry : Nat → α) (zero : α) (n k : Nat) : List α :=
  (List.range k).map entry ++ List.replicate (n - k) zero

section Written

variable {α : Type} (entry : Nat → α) (zero : α) {n k : Nat}

theorem written_zero (n : Nat) : written entry zero n 0 = List.replicate n zero := rfl

/-- After the last turn every slot is written. -/
theorem written_self (n : Nat) : written entry zero n n = (List.range n).map entry := by
  rw [written, Nat.sub_self, List.replicate_zero, List.append_nil]

/-- Writing keeps the number of slots. -/
theorem length_written (h : k ≤ n) : (written entry zero n k).length = n := by
  rw [written, List.length_append, List.length_map, List.length_range, List.length_replicate]
  omega

/-- The next entry is written at the end of those that are. -/
theorem written_set (h : k < n) :
    (written entry zero n k).set k (entry k) = written entry zero n (k + 1) := by
  obtain ⟨left, hleft⟩ : ∃ left, n - k = left + 1 := ⟨n - k - 1, by omega⟩
  have hrest : n - (k + 1) = left := by omega
  have hskip : k - ((List.range k).map entry).length = 0 := by simp
  rw [written, written, hrest, hleft, List.replicate_succ, List.set_append_right _ _ (by simp),
    hskip, List.set_cons_zero, List.range_succ, List.map_append, List.append_assoc]
  rfl

end Written

/-- A loop that writes an entry at every index of a slice of its own length. -/
theorem forBelow_store {α : Type} (n : Int32) {f : Int32 → α} {entry : Nat → α}
    (hf : ∀ i, 0 ≤ i.toInt → f i = entry i.toInt.toNat) (zero : α) :
    (makeSlice n zero >>= forBelow n (fun i slice => store slice i (f i)) 0) =
      checkSize n >>= fun _ => .ok ((ordinals n).map entry) := by
  by_cases hn : n.toInt < 0
  · have hsize : checkSize n = .error (.panic .makeSlice) := if_pos hn
    rw [makeSlice, hsize]
    rfl
  -- Before turn `k` the first `k` entries are written.
  have hkeeps : Keeps n (fun i slice => store slice i (f i))
      (fun k slice => slice = written entry zero n.toInt.toNat k) := by
    refine ⟨fun i slice hi hlt hslice => ?_⟩
    have hbound := Int32.lt_iff_toInt_lt.mp hlt
    have hlength : i.toInt.toNat < slice.length := by
      rw [hslice, length_written entry zero (by omega)]
      omega
    refine ⟨slice.set i.toInt.toNat (f i), if_pos ⟨hi, hlength⟩, ?_⟩
    rw [hslice, hf i hi]
    exact written_set entry zero (by omega)
  obtain ⟨slice, hloop, hslice⟩ := hkeeps.forBelow (written_zero entry zero _).symm
  rw [written_self] at hslice
  rw [makeSlice, checkSize_of_nonneg (Int.not_lt.mp hn)]
  exact hloop.trans (congrArg Except.ok hslice)

/-- A loop that appends an entry at every turn. -/
theorem forBelow_append {α : Type} (n : Int32) {f : Int32 → α} {entry : Nat → α}
    (hf : ∀ i, 0 ≤ i.toInt → f i = entry i.toInt.toNat) (l : List α) :
    (forBelow n (fun i l => .ok (l ++ [f i])) 0 l : Go (List α)) =
      .ok (l ++ (ordinals n).map entry) := by
  let body (i : Int32) (l : List α) : Go (List α) := .ok (l ++ [f i])
  have hkeeps : Keeps n body (fun k l' => l' = l ++ (List.range k).map entry) := by
    refine ⟨fun i l' hi _ hl' => ⟨l' ++ [f i], rfl, ?_⟩⟩
    rw [hl', hf i hi, List.range_succ, List.map_append, List.append_assoc]
    rfl
  obtain ⟨l', hloop, hl'⟩ := hkeeps.forBelow (List.append_nil l).symm
  exact hloop.trans (congrArg Except.ok hl')

/-- The loop over slots returns the names of the ordinals. -/
theorem createPodNamesByReplicas_eq (replicas : Int32) (statefulResourceName : String) :
    createPodNamesByReplicas replicas statefulResourceName =
      HdfsOperator.createPodNamesByReplicas replicas statefulResourceName :=
  forBelow_store replicas (fun _ hi => podNameOf_eq hi statefulResourceName) ""

/-- The loop over slots returns the addresses of the ordinals. -/
theorem createNetworksByReplicates_eq (replicates : Int32)
    (statefulResourceName svcName nameSpace clusterDomain : String) (port : Nat) :
    createNetworksByReplicates replicates statefulResourceName svcName nameSpace clusterDomain
        port =
      HdfsOperator.createNetworksByReplicates replicates statefulResourceName svcName nameSpace
        clusterDomain port := by
  refine forBelow_store replicates (fun i hi => ?_) ""
  rw [podNameOf_eq hi statefulResourceName]

/-- The loop that appends returns the pairs of the ordinals. -/
theorem createKvContentByReplicas_eq (replicas : Int32) (keyTemplate valueTemplate : String) :
    createKvContentByReplicas replicas keyTemplate valueTemplate =
      .ok (HdfsOperator.createKvContentByReplicas replicas keyTemplate valueTemplate) := by
  let entry (i : Nat) : String × String := (sprintf keyTemplate i, renderValue valueTemplate i)
  have hentry (i : Int32) (_ : 0 ≤ i.toInt) : entry i.toInt.toNat = entry i.toInt.toNat := rfl
  exact forBelow_append replicas hentry []

/-- The loop over slots returns the properties of the ordinals. -/
theorem createXmlContentByReplicas_eq (replicas : Int32) (keyTemplate valueTemplate : String) :
    createXmlContentByReplicas replicas keyTemplate valueTemplate =
      HdfsOperator.createXmlContentByReplicas replicas keyTemplate valueTemplate := by
  have happend (kvs : List (String × String)) :
      kvs.foldl (fun res kv => res ++ [(⟨kv.1, kv.2⟩ : XmlNameValuePair)]) [] =
        kvs.map fun kv => ⟨kv.1, kv.2⟩ := by
    rw [List.foldl_append_eq_append, List.nil_append, ← List.flatMap_def, List.map_eq_flatMap]
  simp only [createXmlContentByReplicas, createKvContentByReplicas_eq, Go.ok_bind, happend]
  rfl

/-- The inner loop appends the pods of one group. -/
theorem appendPodNames_eq (podNames : List String) (nameNodeStatefulSetName : String)
    (replicas : Int32) :
    appendPodNames podNames nameNodeStatefulSetName replicas =
      .ok (podNames ++ (ordinals replicas).map (ordinalName nameNodeStatefulSetName)) :=
  forBelow_append replicas (fun _ hi => podNameOf_eq hi nameNodeStatefulSetName) podNames

/-- The pods that a group adds. -/
def groupPodNames (instanceName : String) (e : String × RoleGroupSpec) : List String :=
  match e.2.replicas with
  | some replicas => (ordinals replicas).map (ordinalName (instanceName ++ "-namenode-" ++ e.1))
  | none => []

/-- A turn of the outer loop looks the group up that it visits. -/
theorem visitGroup_eq (instanceName : String) {nameNodeGroups : GoMap RoleGroupSpec}
    {e : String × RoleGroupSpec} (he : nameNodeGroups.lookup e.1 = some e.2)
    (podNames : List String) :
    visitGroup instanceName nameNodeGroups podNames e.1 =
      .ok (podNames ++ groupPodNames instanceName e) := by
  simp only [visitGroup, groupPodNames, he]
  cases e.2.replicas with
  | none => exact congrArg Except.ok (List.append_nil podNames).symm
  | some replicas => exact appendPodNames_eq podNames _ replicas

/-- The pods of the visited groups are appended group by group. -/
theorem foldlM_visitGroup (instanceName : String) {nameNodeGroups : GoMap RoleGroupSpec}
    {l : List (String × RoleGroupSpec)} (hl : ∀ e ∈ l, nameNodeGroups.lookup e.1 = some e.2)
    (podNames : List String) :
    (l.map Prod.fst).foldlM (visitGroup instanceName nameNodeGroups) podNames =
      .ok (podNames ++ l.flatMap (groupPodNames instanceName)) := by
  induction l generalizing podNames with
  | nil => exact congrArg Except.ok (List.append_nil podNames).symm
  | cons e l ih =>
    rw [List.map_cons, List.foldlM_cons, visitGroup_eq instanceName (hl e List.mem_cons_self),
      Go.ok_bind, ih fun e' he' => hl e' (List.mem_cons_of_mem _ he'), List.flatMap_cons,
      List.append_assoc]

/-- The discovery ConfigMap enumerates the pods of every group, whatever its count. -/
theorem getPodNames_eq (instanceName : String) (nameNodeGroups : GoMap RoleGroupSpec)
    (o : RangeOrder) :
    getPodNames instanceName nameNodeGroups o =
      .ok (HdfsOperator.getPodNames instanceName nameNodeGroups o) :=
  foldlM_visitGroup instanceName (fun _ he => GoMap.mem_range.mp he) []

end HdfsOperator.Loops
