import HdfsOperator.Correctness.Bootstrap
import HdfsOperator.Correctness.NameNodeIds
import HdfsOperator.Correctness.SiteConsistency
import HdfsOperator.Models.DataNodeStart

/-!
# DataNodes wait for NameNodes that they know

The script of DataNode pods asks for all NameNodes, but the document that the admin command finds
addresses in has only those of one group. So it can see all NameNodes ready exactly when all
belong to that group; with another NameNode pod it makes all its passes in vain. What it reports
is true: the ZNode is there, and as long as no NameNode pod is lost all of them run.
-/

namespace HdfsOperator

open HdfsCluster

section Address

variable {c : HdfsCluster} {o : RunOrders} {r : Role} {g text : String}

/-- The document of the group named `g` has the RPC addresses of the pods of the NameNode group of
that name, and no others. -/
theorem documentValue_rpc_ne_none (hg : DnsText g) (h : c.hdfsSite o r g = .ok text)
    {id : String} : documentValue text (connectionName "rpc" c.name.val id) ≠ none ↔
      ∃ p ∈ c.nameNodePods, p.group = g ∧ c.podName p = id := by
  obtain ⟨info, n, ps, hinfo, hn, hps, rfl⟩ := hdfsSite_eq_ok.mp h
  obtain ⟨hsize, -⟩ := siteLeading_eq_ok hps
  rw [siteLeading_of_percent_free hsize (hg.notMem (by decide))] at hps
  cases hps
  let gen := c.siteGenerator info g n
  let sts := c.fullName .nameNode g
  have hfields : gen.nameNodeReplicas = n ∧ gen.instanceName = c.name.val ∧
      gen.document sts o.site.serviceNames = siteTemplateProperties ++
        (c.siteHead g n ++ c.siteAddresses g n) ++ c.siteTail info o.site.serviceNames := by
    rw [NameNodeHdfsSiteXmlGenerator.document_eq]
    simp only [gen, siteHead, siteAddresses, siteGenerator, RoleGroupBuilder.siteGenerator_eq]
    exact ⟨rfl, rfl, rfl⟩
  obtain ⟨hreplicas, hinst, hdocument⟩ := hfields
  have hsts : gen.statefulSetName = .ok sts := by
    rw [siteGenerator_statefulSetName (clusterComponents_populated hinfo), hn]
    rfl
  have hvalid : gen.Valid sts :=
    ⟨hreplicas ▸ hsize, hsts, hinst ▸ c.name.text, dnsText_fullName .nameNode hg⟩
  have hids : gen.nameNodeIds sts = (ordinals n).map (ordinalName sts) := by
    rw [NameNodeHdfsSiteXmlGenerator.nameNodeIds, hreplicas]
  have hbij := NameNodeHdfsSiteXmlGenerator.bijOn_keys
    (c.siteGenerator_secured info g n).securityOnly hvalid o.site.serviceNames
    (show "dfs.namenode.rpc-address." ∈ gen.replicaKeys by
      simp [NameNodeHdfsSiteXmlGenerator.replicaKeys])
  rw [hdocument, hinst, hids] at hbij
  have hname (id : String) : connectionName "rpc" c.name.val id =
      "dfs.namenode.rpc-address." ++ c.name.val ++ "." ++ id := rfl
  have hkey : DnsText ("dfs.namenode.rpc-address." ++ c.name.val ++ ".") :=
    ((show DnsText "dfs.namenode.rpc-address." by decide).append c.name.text).append (by decide)
  have hkept {id : String} (hid : id ∈ (ordinals n).map (ordinalName sts)) :
      Xml.replaceText id = id := by
    obtain ⟨i, -, rfl⟩ := List.mem_map.mp hid
    exact Xml.replaceText_of_xmlText
      ((dnsText_fullName .nameNode hg).ordinalName i).plainText.xmlText
  rw [← mem_groupPodNames hn, documentValue_encode, ← mem_propertyNames_iff_effectiveValue,
    mem_propertyNames]
  constructor
  · rintro ⟨q, hq, hqname⟩
    obtain ⟨p, hp, rfl⟩ := List.mem_map.mp hq
    -- The name in the document starts with the key already before characters are replaced.
    obtain ⟨t, ht, rfl⟩ := Xml.replaceText_eq_append (hkey.notMem (by decide))
      (hqname.trans (hname id))
    obtain ⟨id', hid', heq⟩ := hbij.surjOn
      ⟨mem_propertyNames.mpr ⟨p, hp, rfl⟩, ht ▸ ⟨t.toList, String.toList_append.symm⟩⟩
    obtain rfl : id' = t := by simpa [ht] using heq
    rwa [hkept hid']
  · intro hid
    obtain ⟨p, hp, hpname⟩ := mem_propertyNames.mp (hbij.mapsTo hid).1
    refine ⟨replacePair p, List.mem_map_of_mem hp, ?_⟩
    rw [replacePair, hpname, hname, Xml.replaceText_append,
      Xml.replaceText_of_xmlText hkey.plainText.xmlText, hkept hid]

/-- The ids in the script are the names of the NameNode pods. -/
theorem words_podNames (hgroups : ∀ p ∈ c.nameNodePods, DnsText p.group) (d : RangeOrder) :
    Shell.words (" ".intercalate (c.podNames d)) = some (c.podNames d) := by
  refine Shell.words_intercalate fun w hw => ?_
  obtain ⟨p, hp, rfl⟩ := List.mem_map.mp (mem_podNames.mp hw)
  exact Shell.word_of_dnsText ((dnsText_fullName .nameNode (hgroups p hp)).ordinalName p.ordinal)
    (podName_ne_empty p)

end Address

namespace BootstrapState

variable {c : HdfsCluster} {s s' : BootstrapState} {a : BootstrapAction} {p : Pod}

/-- The ZNode stays. -/
theorem step_znode (hstep : BootstrapState.step c s a = some s') (h : s.znode = true) :
    s'.znode = true := by
  cases effect_of_step hstep with
  | format | later | lose => exact h
  | first => simp [setZkReady, record, h]

/-- A pod that runs goes on running until it is lost. -/
theorem step_running (hkeeps : KeepsPods a = true) (hstep : BootstrapState.step c s a = some s')
    (h : s.format.phase p = .running) : s'.format.phase p = .running := by
  cases effect_of_step hstep with
  | @format _ f _ hformat =>
    show f.phase p = .running
    rcases FormatState.step_advances hformat with ⟨hphase, -⟩ | ⟨q, ph, hadv⟩
    · rwa [hphase]
    · have hpq : p ≠ q := by
        rintro rfl
        exact hadv.notRunning h
      rw [hadv.phase, FormatState.setPhase_phase_of_ne _ _ hpq]
      exact h
  | first | later => exact h
  | lose => cases hkeeps

end BootstrapState

/-- What is assumed of the admin command. -/
structure AdminCommand.Lawful (admin : AdminCommand) (c : HdfsCluster) : Prop where
  /-- It says that a NameNode serves only if the document has its address and it runs. -/
  sound : ∀ {site s id serviceState}, admin site s id serviceState = true →
    isServing serviceState = true →
      documentValue site (connectionName "rpc" c.name.val id) ≠ none ∧
        ∃ p, c.podName p = id ∧ (s.active = some p ∨ s.phase p = .running)
  /-- It can say so of every such NameNode. -/
  complete : ∀ {site s p}, p ∈ c.nameNodePods → s.phase p = .running →
    documentValue site (connectionName "rpc" c.name.val (c.podName p)) ≠ none →
      ∃ serviceState, isServing serviceState = true ∧
        admin site s (c.podName p) serviceState = true
  /-- It prints something. -/
  total : ∀ site s id, ∃ serviceState, admin site s id serviceState = true

namespace DataNodeStart

variable {admin : AdminCommand} {c : HdfsCluster} {site : String} {ids : List String}
  {s s' : DataNodeStart} {a : StartAction}

/-- An action that loses no NameNode pod. -/
def KeepsPods : StartAction → Bool
  | .boot a => BootstrapState.KeepsPods a
  | .check _ | .endPass => true

/-- An action of the script. -/
def OfScript : StartAction → Bool
  | .boot _ => false
  | .check _ | .endPass => true

/-- What an action does. -/
theorem step_cases (h : step admin c site ids s a = some s') :
    (∃ b b', a = .boot b ∧ BootstrapState.step c s.boot b = some b' ∧
      s' = { s with boot := b' }) ∨
    (∃ n id unread ready serviceState, a = .check serviceState ∧
      s.wait = .checking n (id :: unread) ready ∧
      admin site s.boot.format id serviceState = true ∧
      s' = { s with
        wait := .checking n unread (if isServing serviceState then ready else false) }) ∨
    ∃ n ready, a = .endPass ∧ s.wait = .checking n [] ready ∧
      s' = { s with wait := afterPass ids n ready } := by
  cases a with
  | boot b =>
    obtain ⟨b', hb, rfl⟩ := Option.map_eq_some_iff.mp h
    exact .inl ⟨b, b', rfl, hb, rfl⟩
  | check serviceState =>
    simp only [step] at h
    split at h
    · next n id unread ready hwait =>
      split at h
      · next hanswer =>
        cases h
        exact .inr (.inl ⟨n, id, unread, ready, serviceState, rfl, hwait, hanswer, rfl⟩)
      · cases h
    · cases h
  | endPass =>
    simp only [step] at h
    split at h
    · next n ready hwait =>
      cases h
      exact .inr (.inr ⟨n, ready, rfl, hwait, rfl⟩)
    · cases h

/-- The script has seen something of every NameNode that it has accepted in its pass, and of all
NameNodes when it reports them ready. -/
def Seen (P : BootstrapState → String → Prop) (ids : List String) (b : BootstrapState) :
    WaitPhase → Prop
  | .checking _ unread ready => ∃ read, ids = read ++ unread ∧ (ready = true → ∀ id ∈ read, P b id)
  | .ended ready => ready = true → ∀ id ∈ ids, P b id

/-- What the script has seen stays true as long as nothing that happens to NameNode pods undoes
it. -/
theorem Seen.mono {P : BootstrapState → String → Prop} {b b' : BootstrapState} {w : WaitPhase}
    (h : Seen P ids b w) (hmono : ∀ id, P b id → P b' id) : Seen P ids b' w := by
  cases w with
  | checking n unread ready =>
    obtain ⟨read, hids, hread⟩ := h
    exact ⟨read, hids, fun hr id hid => hmono id (hread hr id hid)⟩
  | ended ready => exact fun hr id hid => hmono id (h hr id hid)

/-- Asking for one id. -/
theorem Seen.check {P : BootstrapState → String → Prop} {b : BootstrapState} {n : Nat}
    {id : String} {unread : List String} {ready serving : Bool}
    (h : Seen P ids b (.checking n (id :: unread) ready)) (hid : serving = true → P b id) :
    Seen P ids b (.checking n unread (if serving then ready else false)) := by
  obtain ⟨read, hids, hread⟩ := h
  refine ⟨read ++ [id], by simp [hids], fun hr => ?_⟩
  cases hserving : serving with
  | false => simp [hserving] at hr
  | true =>
    simp only [hserving, if_true] at hr
    intro x hx
    rcases List.mem_append.mp hx with hx | hx
    · exact hread hr x hx
    · rw [List.mem_singleton.mp hx]
      exact hid hserving

/-- The end of a pass. -/
theorem Seen.afterPass {P : BootstrapState → String → Prop} {b : BootstrapState} {n : Nat}
    {ready : Bool} (h : Seen P ids b (.checking n [] ready)) :
    Seen P ids b (afterPass ids n ready) := by
  obtain ⟨read, hids, hread⟩ := h
  unfold DataNodeStart.afterPass
  split
  · next hr =>
    intro _ id hid
    rw [hids, List.append_nil] at hid
    exact hread hr id hid
  split
  · exact ⟨[], rfl, by simp⟩
  · exact fun hr => by cases hr

/-- A fact that is true of every accepted NameNode, and that the admitted actions do not undo, is
true of all NameNodes when the script reports them ready. -/
theorem seen_run {P : BootstrapState → String → Prop} {A : BootstrapAction → Prop}
    {version : Pod → Bool} {znode : Bool} {actions : List StartAction}
    (hmono : ∀ b x b', A x → BootstrapState.step c b x = some b' →
      ∀ id, P b id → P b' id)
    (hserving : ∀ b : BootstrapState, b.Inv znode → ∀ id serviceState,
      admin site b.format id serviceState = true → isServing serviceState = true → P b id)
    (hadmitted : ∀ x, .boot x ∈ actions → A x)
    (hrun : Transition.run (step admin c site ids) (init version znode ids) actions = some s) :
    s.boot.Inv znode ∧ Seen P ids s.boot s.wait := by
  refine Transition.run_invariant (P := fun a => ∀ x, a = .boot x → A x)
    (I := fun s => s.boot.Inv znode ∧ Seen P ids s.boot s.wait) ?_ ?_ ?_ hrun
  · rintro s a s' ha ⟨hinv, hseen⟩ hstep
    rcases step_cases hstep with ⟨x, b', rfl, hb, rfl⟩ |
      ⟨n, id, unread, ready, serviceState, rfl, hwait, hanswer, rfl⟩ | ⟨n, ready, rfl, hwait, rfl⟩
    · exact ⟨hinv.step hb, hseen.mono (hmono _ _ _ (ha x rfl) hb)⟩
    · rw [hwait] at hseen
      exact ⟨hinv, hseen.check (hserving _ hinv id serviceState hanswer)⟩
    · rw [hwait] at hseen
      exact ⟨hinv, hseen.afterPass⟩
  · rintro a ha x rfl
    exact hadmitted x ha
  · exact ⟨BootstrapState.inv_init version znode, [], rfl, by simp⟩

/-- An accepted NameNode has an address in the document, and it runs. -/
theorem of_isServing (hadmin : admin.Lawful c) {b : BootstrapState} {znode : Bool}
    (hinv : b.Inv znode) {id serviceState : String}
    (hanswer : admin site b.format id serviceState = true)
    (hserving : isServing serviceState = true) :
    documentValue site (connectionName "rpc" c.name.val id) ≠ none ∧
      ∃ p, c.podName p = id ∧ b.format.phase p = .running := by
  obtain ⟨hvalue, p, hname, hp⟩ := hadmin.sound hanswer hserving
  exact ⟨hvalue, p, hname, hp.elim (hinv.active p) fun hrunning => hrunning⟩

/-- What the script reports is true, in a cluster with a NameNode pod and if the script asks for
every pod: when it reports all NameNodes ready, the ZNode is there, and all NameNode pods run if
none was lost. -/
theorem reported_ready_sound (hadmin : admin.Lawful c) {version : Pod → Bool} {znode : Bool}
    {actions : List StartAction}
    (hids : ∀ p ∈ c.nameNodePods, c.podName p ∈ ids)
    (hrun : Transition.run (step admin c site ids) (init version znode ids) actions = some s)
    (hready : s.wait = .ended true) :
    ∀ p ∈ c.nameNodePods, s.boot.znode = true ∧
      ((∀ a ∈ actions, KeepsPods a = true) → s.boot.format.phase p = .running) := by
  intro p hp
  constructor
  · have hseen := seen_run (P := fun b _ => b.znode = true) (A := fun _ => True)
      (fun b x b' _ hb _ => BootstrapState.step_znode hb)
      (fun b hinv id serviceState hanswer hserving => by
        obtain ⟨-, q, -, hq⟩ := of_isServing hadmin hinv hanswer hserving
        exact hinv.ready q (hinv.running q hq))
      (fun _ _ => trivial) hrun
    rw [hready] at hseen
    exact hseen.2 rfl _ (hids p hp)
  · intro hkeeps
    have hseen := seen_run
      (P := fun b id => ∃ q, c.podName q = id ∧ b.format.phase q = .running)
      (A := fun x => BootstrapState.KeepsPods x = true)
      (fun b x b' hx hb id hid => by
        obtain ⟨q, hname, hq⟩ := hid
        exact ⟨q, hname, BootstrapState.step_running hx hb hq⟩)
      (fun b hinv id serviceState hanswer hserving =>
        (of_isServing hadmin hinv hanswer hserving).2) (fun x hx => hkeeps _ hx) hrun
    rw [hready] at hseen
    obtain ⟨q, hname, hq⟩ := hseen.2 rfl _ (hids p hp)
    rwa [← podName_injective c hname]

/-- The passes are counted below their limit, and no pass has more ids than the list. -/
def Counted (ids : List String) : WaitPhase → Prop
  | .checking n unread _ => n < maxPasses ∧ unread.length ≤ ids.length
  | .ended _ => True

/-- The number of actions until the script ends, at most. -/
def left (ids : List String) : WaitPhase → Nat
  | .checking n unread _ => (maxPasses - 1 - n) * (ids.length + 1) + unread.length + 1
  | .ended _ => 0

/-- The counter stays within its bound after a pass. -/
theorem afterPass_counted {n : Nat} {ready : Bool} : Counted ids (afterPass ids n ready) := by
  unfold afterPass
  split
  · trivial
  split
  · next h => exact ⟨h, le_rfl⟩
  · trivial

/-- A pass that ends in vain leaves one action fewer. -/
theorem left_afterPass {n : Nat} (hn : n < maxPasses) :
    left ids (afterPass ids n false) + 1 = left ids (.checking n [] false) := by
  unfold afterPass
  rw [if_neg Bool.false_ne_true]
  split
  · next h =>
    have hpasses : maxPasses - 1 - n = maxPasses - 1 - (n + 1) + 1 := by omega
    simp only [left, hpasses, List.length_nil, Nat.add_mul, Nat.one_mul]
    omega
  · have hpasses : maxPasses - 1 - n = 0 := by omega
    simp [left, hpasses]

/-- Every action of the script leaves fewer actions, and one fewer until it reports all NameNodes
ready. -/
theorem step_left (h : Counted ids s.wait) (hstep : step admin c site ids s a = some s') :
    Counted ids s'.wait ∧
      left ids s'.wait + (if OfScript a then 1 else 0) ≤ left ids s.wait ∧
      (s'.wait ≠ .ended true → s.wait ≠ .ended true ∧
        left ids s'.wait + (if OfScript a then 1 else 0) = left ids s.wait) := by
  rcases step_cases hstep with ⟨x, b', rfl, hb, rfl⟩ |
    ⟨n, id, unread, ready, serviceState, rfl, hwait, -, rfl⟩ | ⟨n, ready, rfl, hwait, rfl⟩
  · exact ⟨h, by simp [OfScript], fun hne => ⟨hne, by simp [OfScript]⟩⟩
  · rw [hwait] at h ⊢
    obtain ⟨hn, hlen⟩ := h
    rw [List.length_cons] at hlen
    refine ⟨⟨hn, by omega⟩, ?_, fun _ => ⟨by simp, ?_⟩⟩
    · simp only [left, OfScript, if_true, List.length_cons]
      omega
    · simp only [left, OfScript, if_true, List.length_cons]
      omega
  · rw [hwait] at h ⊢
    refine ⟨afterPass_counted, ?_, fun hne => ⟨by simp, ?_⟩⟩
    · cases ready with
      | false => simpa [OfScript] using (left_afterPass h.1).le
      | true => simp [afterPass, left, OfScript]
    · cases ready with
      | false => simpa [OfScript] using left_afterPass h.1
      | true => simp [afterPass] at hne

theorem init_counted (version : Pod → Bool) (znode : Bool) (ids : List String) :
    Counted ids (init version znode ids).wait := ⟨by decide, le_rfl⟩

/-- At the start all passes are left. -/
theorem left_init (version : Pod → Bool) (znode : Bool) (ids : List String) :
    left ids (init version znode ids).wait = maxPasses * (ids.length + 1) := by
  simp only [init, left, maxPasses]
  omega

/-- Whatever happens to NameNode pods, the script ends: until then it can go on, and it makes at
most twelve passes over its ids, and exactly twelve if it does not see all NameNodes ready. -/
theorem script_ends (hadmin : admin.Lawful c) {version : Pod → Bool} {znode : Bool}
    {actions : List StartAction}
    (hrun : Transition.run (step admin c site ids) (init version znode ids) actions = some s) :
    actions.countP OfScript ≤ maxPasses * (ids.length + 1) ∧
      (s.wait = .ended false → actions.countP OfScript = maxPasses * (ids.length + 1)) ∧
      ((∀ ready, s.wait ≠ .ended ready) →
        ∃ a s', OfScript a = true ∧ step admin c site ids s a = some s') := by
  have hbound := Transition.countP_add_le (I := fun s => Counted ids s.wait)
    (k := OfScript) (w := fun s => left ids s.wait)
    (fun s a s' hs hstep => ⟨(step_left hs hstep).1, (step_left hs hstep).2.1⟩)
    (init_counted version znode ids) hrun
  rw [left_init] at hbound
  refine ⟨by omega, fun hended => ?_, fun hnot => ?_⟩
  · have hexact := Transition.countP_add_eq (I := fun s => Counted ids s.wait)
      (G := fun s => s.wait ≠ .ended true) (k := OfScript)
      (w := fun s => left ids s.wait)
      (fun s a s' hs hstep => ⟨(step_left hs hstep).1, (step_left hs hstep).2.2⟩)
      (init_counted version znode ids) hrun (by simp [hended])
    rw [left_init, hended] at hexact
    exact hexact.2
  · cases hwait : s.wait with
    | ended ready => exact absurd hwait (hnot ready)
    | checking n unread ready =>
      cases unread with
      | nil =>
        refine ⟨.endPass, { s with wait := afterPass ids n ready }, rfl, ?_⟩
        simp only [step, hwait]
      | cons id unread =>
        obtain ⟨serviceState, hanswer⟩ := hadmin.total site s.boot.format id
        refine ⟨.check serviceState, { s with wait := (.checking n unread
          (if isServing serviceState then ready else false)) }, rfl, ?_⟩
        simp only [step, hwait, hanswer, if_true]

/-- The NameNode pods can run while the script waits. -/
theorem run_boot {b b' : BootstrapState} {actions : List BootstrapAction} (w : WaitPhase)
    (h : Transition.run (BootstrapState.step c) b actions = some b') :
    Transition.run (step admin c site ids) ⟨b, w⟩ (actions.map .boot) = some ⟨b', w⟩ := by
  induction actions generalizing b with
  | nil =>
    cases h
    rfl
  | cons a actions ih =>
    obtain ⟨t, ht, hrest⟩ := Option.bind_eq_some_iff.mp h
    refine Option.bind_eq_some_iff.mpr ⟨⟨t, w⟩, ?_, ih hrest⟩
    simp only [step, ht, Option.map_some]

/-- A pass in which every answer is accepted. -/
theorem run_checks {b : BootstrapState} {n : Nat} {unread : List String}
    (h : ∀ id ∈ unread, ∃ serviceState, isServing serviceState = true ∧
      admin site b.format id serviceState = true) :
    ∃ actions, Transition.run (step admin c site ids) ⟨b, .checking n unread true⟩ actions =
      some ⟨b, .checking n [] true⟩ := by
  induction unread with
  | nil => exact ⟨[], rfl⟩
  | cons id unread ih =>
    rw [List.forall_mem_cons] at h
    obtain ⟨⟨serviceState, hserving, hanswer⟩, hrest⟩ := h
    obtain ⟨actions, hrun⟩ := ih hrest
    refine ⟨.check serviceState :: actions, Option.bind_eq_some_iff.mpr
      ⟨⟨b, .checking n unread true⟩, ?_, hrun⟩⟩
    simp only [step, hanswer, hserving, if_true]

end DataNodeStart

/-- The script of the DataNode group `g` asks for all NameNode pods, and it can see them ready, in
some run, exactly when all of them belong to the NameNode group of that name. -/
theorem waitScript_ready_iff {admin : AdminCommand} {c : HdfsCluster} {o : RunOrders}
    {d : RangeOrder} {g site line : String} (hadmin : admin.Lawful c) (hg : DnsText g)
    (hgroups : ∀ p ∈ c.nameNodePods, DnsText p.group)
    (hsite : c.hdfsSite o .dataNode g = .ok site) (hline : nameNodeIds c d = .ok line) :
    ∃ ids, Shell.words line = some ids ∧ (∀ x, x ∈ ids ↔ x ∈ c.nameNodePods.map c.podName) ∧
      ∀ version znode, (∃ actions s, s.wait = .ended true ∧
        Transition.run (DataNodeStart.step admin c site ids) (.init version znode ids) actions =
          some s) ↔ ∀ p ∈ c.nameNodePods, p.group = g := by
  obtain ⟨-, -, rfl⟩ := nameNodeIds_eq_ok.mp hline
  refine ⟨c.podNames d, words_podNames hgroups d, fun _ => mem_podNames, fun version znode => ?_⟩
  constructor
  · rintro ⟨actions, s, hended, hrun⟩ p hp
    have hseen := DataNodeStart.seen_run
      (P := fun _ id => documentValue site (connectionName "rpc" c.name.val id) ≠ none)
      (A := fun _ => True) (fun _ _ _ _ _ _ hid => hid)
      (fun b hinv id serviceState hanswer hserving =>
        (DataNodeStart.of_isServing hadmin hinv hanswer hserving).1) (fun _ _ => trivial) hrun
    rw [hended] at hseen
    have hvalue := hseen.2 rfl _ (mem_podNames.mpr (List.mem_map_of_mem hp))
    obtain ⟨q, -, hq, hname⟩ := (documentValue_rpc_ne_none hg hsite).mp hvalue
    rw [← podName_injective c hname]
    exact hq
  · intro honly
    -- All NameNode pods start, and then one pass of the script is enough.
    obtain ⟨boot, b, -, hboot, hrunning⟩ :=
      (BootstrapState.inv_init version znode).exists_run (c := c)
    have hserving : ∀ id ∈ c.podNames d, ∃ serviceState, isServing serviceState = true ∧
        admin site b.format id serviceState = true := by
      intro id hid
      obtain ⟨p, hp, rfl⟩ := List.mem_map.mp (mem_podNames.mp hid)
      exact hadmin.complete hp (hrunning p hp)
        ((documentValue_rpc_ne_none hg hsite).mpr ⟨p, hp, honly p hp, rfl⟩)
    obtain ⟨checks, hchecks⟩ := DataNodeStart.run_checks (c := c) (n := 0) hserving
    refine ⟨boot.map .boot ++ (checks ++ [.endPass]), ⟨b, .ended true⟩, rfl, ?_⟩
    exact Transition.run_append (DataNodeStart.run_boot _ hboot)
      (Transition.run_append hchecks rfl)

/-- The state of the NameNode with an id, if its address is known and it runs. -/
def getServiceState (c : HdfsCluster) (known : Bool) (s : FormatState) (id : String) : String :=
  if known = false then ""
  else if s.active.map c.podName = some id then "active"
  else if ∃ p ∈ c.nameNodePods, c.podName p = id ∧ s.phase p = .running then "standby"
  else ""

/-- A command that finds addresses in the document, and prints nothing when it fails. -/
def plainAdmin (c : HdfsCluster) : AdminCommand := fun site s id serviceState =>
  serviceState == "" || serviceState ==
    getServiceState c (documentValue site (connectionName "rpc" c.name.val id)).isSome s id

/-- The admin command above tells the truth. -/
theorem plainAdmin_lawful (c : HdfsCluster) : (plainAdmin c).Lawful c where
  sound := by
    intro site s id serviceState hanswer hserving
    simp only [plainAdmin, Bool.or_eq_true, beq_iff_eq] at hanswer
    rcases hanswer with rfl | rfl
    · exact absurd hserving (by decide)
    unfold getServiceState at hserving
    split at hserving
    · exact absurd hserving (by decide)
    next hvalue =>
    refine ⟨Option.isSome_iff_ne_none.mp (Bool.eq_true_of_not_eq_false hvalue), ?_⟩
    split at hserving
    · next hactive =>
      obtain ⟨p, hp, hname⟩ := Option.map_eq_some_iff.mp hactive
      exact ⟨p, hname, .inl hp⟩
    split at hserving
    · next hrunning =>
      obtain ⟨p, -, hname, hp⟩ := hrunning
      exact ⟨p, hname, .inr hp⟩
    · exact absurd hserving (by decide)
  complete := by
    intro site s p hp hrunning hvalue
    have hknown := Option.isSome_iff_ne_none.mpr hvalue
    refine ⟨getServiceState c true s (c.podName p), ?_, by simp [plainAdmin, hknown]⟩
    unfold getServiceState
    rw [if_neg (by decide)]
    split
    · rfl
    · rw [if_pos ⟨p, hp, rfl, hrunning⟩]
      rfl
  total := fun _ _ _ => ⟨"", rfl⟩

/-- With two NameNode groups the script never sees all NameNodes ready. -/
theorem waitScript_ready_iff_twoNameNodeGroups :
    ∃ site ids, twoNameNodeGroups.hdfsSite .stored .dataNode "a" = .ok site ∧
      (∀ x, x ∈ ids ↔ x ∈ twoNameNodeGroups.nameNodePods.map twoNameNodeGroups.podName) ∧
      ¬ ∃ actions s, s.wait = .ended true ∧
        Transition.run
          (DataNodeStart.step (plainAdmin twoNameNodeGroups) twoNameNodeGroups site ids)
          (.init (fun _ => false) false ids) actions = some s := by
  obtain ⟨site, hsite⟩ := hdfsSite_ok (c := twoNameNodeGroups) (g := "a") (n := 1)
    (ofReplicas_replicasSet _ _ _ _) (by decide) (by decide) (by decide) .stored .dataNode
  have hline : nameNodeIds twoNameNodeGroups .stored = .ok _ := nameNodeIds_eq_ok.mpr
    ⟨Option.some_ne_none _, ofReplicas_sized _ (by decide) _, rfl⟩
  obtain ⟨ids, -, hids, hready⟩ := waitScript_ready_iff
    (plainAdmin_lawful twoNameNodeGroups) (by decide) (by decide) hsite hline
  refine ⟨site, ids, hsite, hids, fun hrun => ?_⟩
  exact absurd ((hready _ _).mp hrun ⟨"b", 0⟩ (by decide)) (by decide)

/-- A command that knows the addresses of all NameNode pods, whatever the document. -/
def knowingAdmin (c : HdfsCluster) : AdminCommand := fun _ s id serviceState =>
  serviceState == "" || serviceState ==
    getServiceState c (decide (∃ p ∈ c.nameNodePods, c.podName p = id)) s id

/-- The document of the only NameNode group has the addresses of all NameNode pods. -/
theorem step_plainAdmin {c : HdfsCluster} {o : RunOrders} {r : Role} {g site : String}
    (hg : DnsText g) (honly : ∀ p ∈ c.nameNodePods, p.group = g)
    (hsite : c.hdfsSite o r g = .ok site) (ids : List String) :
    DataNodeStart.step (plainAdmin c) c site ids =
      DataNodeStart.step (knowingAdmin c) c "" ids := by
  have hknown (id : String) : (documentValue site (connectionName "rpc" c.name.val id)).isSome =
      decide (∃ p ∈ c.nameNodePods, c.podName p = id) := by
    rw [Bool.eq_iff_iff, Option.isSome_iff_ne_none, decide_eq_true_iff,
      documentValue_rpc_ne_none hg hsite]
    exact ⟨fun ⟨p, hp, _, hname⟩ => ⟨p, hp, hname⟩,
      fun ⟨p, hp, hname⟩ => ⟨p, hp, honly p hp, hname⟩⟩
  have hadmin : plainAdmin c site = knowingAdmin c "" := by
    funext s id serviceState
    rw [plainAdmin, hknown]
    rfl
  funext s a
  cases a with
  | boot a => rfl
  | endPass => rfl
  | check serviceState => simp only [DataNodeStart.step, hadmin]

/-- The ids of the pods of two NameNodes. -/
def twoIds : List String := ["hdfs-namenode-default-0", "hdfs-namenode-default-1"]

/-- The DataNode group has a document. -/
theorem twoNameNodes_hdfsSite :
    ∃ site, twoNameNodes.hdfsSite .stored .dataNode "default" = .ok site :=
  hdfsSite_ok (n := 2) (ofReplicas_replicasSet _ _ _ _) (by decide) (by decide) (by decide) .stored
    .dataNode

/-- The script of a DataNode pod makes one pass in vain. In its second pass it sees the first
NameNode active, and then the second one standby, which has started meanwhile. -/
def secondPass : List StartAction :=
  [.check "", .check "", .endPass, .boot (.format (.start ⟨"default", 0⟩)),
    .boot (.format (.read ⟨"default", 0⟩)), .boot (.format (.read ⟨"default", 0⟩)),
    .boot (.format (.act ⟨"default", 0⟩)), .boot (.formatZK ⟨"default", 0⟩ 0 true),
    .boot (.format (.serve ⟨"default", 0⟩)), .boot (.format (.elect ⟨"default", 0⟩)),
    .check "active", .boot (.format (.start ⟨"default", 1⟩)),
    .boot (.format (.read ⟨"default", 1⟩)), .boot (.format (.act ⟨"default", 1⟩)),
    .boot (.formatZK ⟨"default", 1⟩ 0 false), .boot (.format (.serve ⟨"default", 1⟩)),
    .check "standby", .endPass]

theorem reported_ready_sound_secondPass :
    ∃ site s, twoNameNodes.hdfsSite .stored .dataNode "default" = .ok site ∧
      Transition.run (DataNodeStart.step (plainAdmin twoNameNodes) twoNameNodes site twoIds)
        (.init (fun _ => false) false twoIds) secondPass = some s ∧
      s.boot.znode = true ∧ ∀ p ∈ twoNameNodes.nameNodePods, s.boot.format.phase p = .running := by
  obtain ⟨site, hsite⟩ := twoNameNodes_hdfsSite
  have hrun : (Transition.run (DataNodeStart.step (knowingAdmin twoNameNodes) twoNameNodes ""
      twoIds) (.init (fun _ => false) false twoIds) secondPass).map DataNodeStart.wait =
        some (.ended true) := by decide +kernel
  rw [← step_plainAdmin (by decide) (by decide) hsite] at hrun
  obtain ⟨s, hs, hwait⟩ := Option.map_eq_some_iff.mp hrun
  have hsound := DataNodeStart.reported_ready_sound (plainAdmin_lawful twoNameNodes) (by decide) hs
    hwait
  exact ⟨site, s, hsite, hs, (hsound ⟨"default", 0⟩ (by decide)).1,
    fun p hp => (hsound p hp).2 (by decide)⟩

/-- The script of a DataNode pod gets no answer in any pass. -/
def noAnswers : List StartAction :=
  (List.replicate maxPasses [.check "", .check "", .endPass]).flatten

theorem script_ends_noAnswers :
    ∃ site s, twoNameNodes.hdfsSite .stored .dataNode "default" = .ok site ∧
      Transition.run (DataNodeStart.step (plainAdmin twoNameNodes) twoNameNodes site twoIds)
        (.init (fun _ => false) false twoIds) noAnswers = some s ∧
      s.wait = .ended false ∧ noAnswers.countP DataNodeStart.OfScript = 36 := by
  obtain ⟨site, hsite⟩ := twoNameNodes_hdfsSite
  have hrun : (Transition.run (DataNodeStart.step (knowingAdmin twoNameNodes) twoNameNodes ""
      twoIds) (.init (fun _ => false) false twoIds) noAnswers).map DataNodeStart.wait =
        some (.ended false) := by decide +kernel
  rw [← step_plainAdmin (by decide) (by decide) hsite] at hrun
  obtain ⟨s, hs, hwait⟩ := Option.map_eq_some_iff.mp hrun
  exact ⟨site, s, hsite, hs, hwait,
    (DataNodeStart.script_ends (plainAdmin_lawful twoNameNodes) hs).2.1 hwait⟩

end HdfsOperator
