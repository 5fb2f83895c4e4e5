import HdfsOperator.Correctness.FormatProtocol
import HdfsOperator.Models.Bootstrap

/-!
# Starting the NameNodes of a cluster that loses pods

Only first pods execute the command that creates the ZNode. The other pods of a stateful set
start when the first one runs, and that one has seen the ZNode. So in every run, whatever
pods are lost and whatever commands fail, no NameNode runs without the ZNode, and the ZNode
is created once.

A pod that is lost leaves its data directory. It may have formatted it, and yet it is pending
again, so the condition of the first scripts by themselves does not carry over: a pod that
finds no active NameNode must be alone and nothing may have been formatted before. With that
at most one pod formats its directory, whatever is lost.

No state is a dead end: some run without losses starts all pods.
-/

namespace HdfsOperator

/-- The second script recognises the first pod of every stateful set, and no other one. -/
theorem isFirstOrdinal_podName (c : HdfsCluster) (p : Pod) :
    isFirstOrdinal (c.podName p) = decide (p.ordinal = 0) := by
  rw [isFirstOrdinal, HdfsCluster.podName, Shell.afterLast_ordinalName, Shell.number_toString]
  simp only [Option.some.injEq]

namespace FormatState

variable {c : HdfsCluster} {p : Pod}

/-- The pods before a pod of the cluster are pods of the cluster. -/
theorem mem_nameNodePods_of_lt (hp : p ∈ c.nameNodePods) {i : Nat} (hi : i < p.ordinal) :
    ⟨p.group, i⟩ ∈ c.nameNodePods := by
  obtain ⟨e, he, hp⟩ := List.mem_flatMap.mp hp
  obtain ⟨j, hj, rfl⟩ := List.mem_map.mp hp
  refine List.mem_flatMap.mpr ⟨e, he, List.mem_map.mpr ⟨i, ?_, rfl⟩⟩
  rw [List.mem_range] at hj ⊢
  exact lt_trans hi hj

/-- The first script of every pod of the cluster has a list of ids. -/
theorem formatPodNames_eq_ok (hp : p ∈ c.nameNodePods) :
    ∃ ids, c.formatPodNames p.group = .ok ids := by
  obtain ⟨e, he, hp⟩ := List.mem_flatMap.mp hp
  obtain ⟨i, hi, rfl⟩ := List.mem_map.mp hp
  have hlookup : (c.groups .nameNode).lookup e.1 = some e.2 := AList.mem_lookup_iff.mpr he
  rw [List.mem_range] at hi
  cases hreplicas : e.2.replicas with
  | none => simp [RoleGroupSpec.podCount, hreplicas] at hi
  | some n =>
    have hn : 0 ≤ n.toInt := by
      simp only [RoleGroupSpec.podCount, hreplicas] at hi
      omega
    refine ⟨(ordinals n).map (ordinalName (c.fullName .nameNode e.1)), ?_⟩
    rw [HdfsCluster.formatPodNames, hlookup, deref_some, Go.ok_bind, hreplicas, deref_some,
      Go.ok_bind]
    exact createPodNamesByReplicas_eq_ok.mpr ⟨hn, rfl⟩

end FormatState

namespace BootstrapState

variable {c : HdfsCluster} {s s' : BootstrapState} {p : Pod} {znode : Bool}

/-- What holds in every reachable state, if the ZNode was there at the start or not. -/
structure Inv (znode : Bool) (s : BootstrapState) : Prop where
  /-- The containers of a pod start after its second script. -/
  running : ∀ p, s.format.phase p = .running → s.zkReady p = true
  /-- A second script that has ended has seen the ZNode. -/
  ready : ∀ p, s.zkReady p = true → s.znode = true
  /-- A pod that is not the first one starts when the ZNode is there. -/
  later : ∀ p, p.ordinal ≠ 0 → s.format.phase p ≠ .pending → s.znode = true
  /-- The active NameNode runs. -/
  active : ∀ p, s.format.active = some p → s.format.phase p = .running
  /-- A script that is still reading has an id to read. -/
  scanning : ∀ p, s.format.phase p ≠ .scanning []
  /-- Only first pods execute the command. -/
  first : ∀ p ∈ s.attempted, p.ordinal = 0
  /-- The ZNode is created when it is not there. -/
  once : s.created.length + znode.toNat ≤ s.znode.toNat

theorem inv_init (version : Pod → Bool) (znode : Bool) : Inv znode (init version znode) where
  running p hp := by cases hp
  ready p hp := by cases hp
  later p _ hp := absurd rfl hp
  active p hp := by cases hp
  scanning p hp := by cases hp
  first p hp := by cases hp
  once := by simp [init]

/-- Everything but the phases and the active NameNode is as before. -/
theorem Inv.of_format {f : FormatState} (h : Inv znode s)
    (hrunning : ∀ p, f.phase p = .running → s.zkReady p = true)
    (hlater : ∀ p, p.ordinal ≠ 0 → f.phase p ≠ .pending → s.znode = true)
    (hactive : ∀ p, f.active = some p → f.phase p = .running)
    (hscanning : ∀ p, f.phase p ≠ .scanning []) : Inv znode { s with format := f } :=
  ⟨hrunning, h.ready, hlater, hactive, hscanning, h.first, h.once⟩

/-- Moving one pod forward keeps the invariant. -/
theorem Inv.advance (h : Inv znode s) {a : FormatAction} {f : FormatState} {ph : Phase}
    (hallowed : s.Allowed a = true) (hadv : FormatState.Advances s.format a f p ph) :
    Inv znode { s with format := f } := by
  have hself : f.phase p = ph := by rw [hadv.phase, FormatState.setPhase_phase_self]
  have hother {q : Pod} (hq : q ≠ p) : f.phase q = s.format.phase q := by
    rw [hadv.phase, FormatState.setPhase_phase_of_ne _ _ hq]
  refine h.of_format ?_ ?_ ?_ ?_
  · intro q hq
    by_cases hqp : q = p
    · subst hqp
      rw [hself] at hq
      rw [hadv.serves hq] at hallowed
      exact hallowed
    · rw [hother hqp] at hq
      exact h.running q hq
  · intro q hq hstarted
    by_cases hqp : q = p
    · subst hqp
      by_cases hpending : s.format.phase q = .pending
      · -- The first pod of the stateful set runs.
        have hfirst := hadv.starts hpending 0 (Nat.pos_of_ne_zero hq)
        exact h.ready _ (h.running _ hfirst)
      · exact h.later q hq hpending
    · rw [hother hqp] at hstarted
      exact h.later q hq hstarted
  · intro q hq
    rw [hadv.active] at hq
    have hrunning := h.active q hq
    have hqp : q ≠ p := by
      rintro rfl
      exact hadv.notRunning hrunning
    rw [hother hqp]
    exact hrunning
  · intro q hq
    by_cases hqp : q = p
    · subst hqp
      rw [hself] at hq
      exact hadv.notScanning hq
    · rw [hother hqp] at hq
      exact h.scanning q hq

/-- An action of the first script or of a NameNode keeps the invariant. -/
theorem Inv.format (h : Inv znode s) {a : FormatAction} {f : FormatState}
    (hallowed : s.Allowed a = true) (hstep : FormatState.step c s.format a = some f) :
    Inv znode { s with format := f } := by
  rcases FormatState.step_advances hstep with ⟨hphase, -, hactive⟩ | ⟨p, ph, hadv⟩
  · refine h.of_format ?_ ?_ ?_ ?_
    · intro p hp
      rw [hphase] at hp
      exact h.running p hp
    · intro p hp hstarted
      rw [hphase] at hstarted
      exact h.later p hp hstarted
    · intro p hp
      rw [hphase]
      exact hactive p hp
    · intro p hp
      rw [hphase] at hp
      exact h.scanning p hp
  · exact h.advance hallowed hadv

/-- The end of a second script keeps the invariant if the ZNode is there when it ends well. -/
theorem Inv.setZkReady (h : Inv znode s) {ready : Bool} (hinit : s.format.phase p = .initialized)
    (hznode : ready = true → s.znode = true) : Inv znode (s.setZkReady p ready) := by
  refine ⟨?_, ?_, h.later, h.active, h.scanning, h.first, h.once⟩
  · intro q hq
    have hqp : q ≠ p := by
      rintro rfl
      simp [BootstrapState.setZkReady, hinit] at hq
    simp only [BootstrapState.setZkReady, if_neg hqp]
    exact h.running q hq
  · intro q hq
    by_cases hqp : q = p
    · simp only [BootstrapState.setZkReady, if_pos hqp] at hq
      exact hznode hq
    · simp only [BootstrapState.setZkReady, if_neg hqp] at hq
      exact h.ready q hq

/-- Executing the command keeps the invariant. -/
theorem Inv.record (h : Inv znode s) {creates : Bool} (hfirst : p.ordinal = 0)
    (hcreates : creates = true → s.znode = false) : Inv znode (s.record p creates) := by
  have hmono (hz : s.znode = true) : (s.record p creates).znode = true := by
    simp [BootstrapState.record, hz]
  refine ⟨h.running, fun q hq => hmono (h.ready q hq), fun q hq hs => hmono (h.later q hq hs),
    h.active, h.scanning, ?_, ?_⟩
  · intro q hq
    rcases List.mem_cons.mp hq with rfl | hq
    · exact hfirst
    · exact h.first q hq
  · have honce := h.once
    cases creates with
    | false => simpa [BootstrapState.record] using honce
    | true =>
      rw [hcreates rfl, Bool.toNat_false] at honce
      simp only [BootstrapState.record, if_true, List.length_cons, Bool.or_true, Bool.toNat_true]
      omega

/-- The second script of a first pod keeps the invariant. -/
theorem Inv.formatZK (h : Inv znode s) {exitCode : Nat} {creates : Bool}
    (hinit : s.format.phase p = .initialized) (hfirst : p.ordinal = 0)
    (hanswer : FormatZKAnswer s.znode exitCode creates) :
    Inv znode ((s.record p creates).setZkReady p (formatZKSucceeds exitCode)) := by
  refine (h.record hfirst hanswer.1).setZkReady hinit fun hsucc => ?_
  -- The script ends well only if the command has created the ZNode or found it.
  simp only [formatZKSucceeds, Bool.or_eq_true, beq_iff_eq] at hsucc
  rcases hsucc with hcode | hcode
  · simp [BootstrapState.record, hanswer.2.1 hcode]
  · simp [BootstrapState.record, hanswer.2.2 hcode]

/-- The loss of a pod keeps the invariant. -/
theorem Inv.forget (h : Inv znode s) (p : Pod) : Inv znode (s.forget p) := by
  have hphase {q : Pod} (hq : q ≠ p) : (s.forget p).format.phase q = s.format.phase q :=
    FormatState.setPhase_phase_of_ne s.format .pending hq
  have hself : (s.forget p).format.phase p = .pending :=
    FormatState.setPhase_phase_self s.format p .pending
  have hready {q : Pod} : (s.forget p).zkReady q = if q = p then false else s.zkReady q := rfl
  refine ⟨?_, ?_, ?_, ?_, ?_, h.first, h.once⟩
  · intro q hq
    have hqp : q ≠ p := by
      rintro rfl
      simp [hself] at hq
    rw [hready, if_neg hqp]
    exact h.running q (hphase hqp ▸ hq)
  · intro q hq
    rw [hready] at hq
    split at hq
    · cases hq
    · exact h.ready q hq
  · intro q hq hstarted
    by_cases hqp : q = p
    · exact absurd (hqp ▸ hself) hstarted
    · exact h.later q hq (hphase hqp ▸ hstarted)
  · intro q hq
    have hq' : (if s.format.active = some p then none else s.format.active) = some q := hq
    split at hq'
    · cases hq'
    · next hp =>
      have hqp : q ≠ p := by
        rintro rfl
        exact hp hq'
      rw [hphase hqp]
      exact h.active q hq'
  · intro q hq
    by_cases hqp : q = p
    · rw [hqp, hself] at hq
      cases hq
    · exact h.scanning q (hphase hqp ▸ hq)

/-- What an enabled action does. -/
inductive Effect (c : HdfsCluster) (s : BootstrapState) : BootstrapAction → BootstrapState → Prop
  | format {a : FormatAction} {f : FormatState} (hallowed : s.Allowed a = true)
      (hformat : FormatState.step c s.format a = some f) :
      Effect c s (.format a) { s with format := f }
  /-- The second script of a first pod executes the command. -/
  | first {p : Pod} {exitCode : Nat} {creates : Bool} (hinit : s.format.phase p = .initialized)
      (hfirst : p.ordinal = 0) (hanswer : FormatZKAnswer s.znode exitCode creates) :
      Effect c s (.formatZK p exitCode creates)
        ((s.record p creates).setZkReady p (formatZKSucceeds exitCode))
  /-- The second script of another pod has nothing to do. -/
  | later {p : Pod} {exitCode : Nat} {creates : Bool} (hinit : s.format.phase p = .initialized)
      (hlater : p.ordinal ≠ 0) : Effect c s (.formatZK p exitCode creates) (s.setZkReady p true)
  | lose {p : Pod} : Effect c s (.lose p) (s.forget p)

/-- The step function does nothing else. -/
theorem effect_of_step {a : BootstrapAction} (h : BootstrapState.step c s a = some s') :
    Effect c s a s' := by
  cases a with
  | format a =>
    simp only [BootstrapState.step] at h
    split at h
    · next hallowed =>
      obtain ⟨f, hf, rfl⟩ := Option.map_eq_some_iff.mp h
      exact .format hallowed hf
    · cases h
  | formatZK p exitCode creates =>
    simp only [BootstrapState.step, runFormatZK, isFirstOrdinal_podName, decide_eq_true_eq] at h
    split at h
    · next hguard =>
      split at h
      · next hfirst =>
        split at h
        · next hanswer =>
          cases h
          exact .first hguard.1 hfirst hanswer
        · cases h
      · next hlater =>
        cases h
        exact .later hguard.1 hlater
    · cases h
  | lose p =>
    simp only [BootstrapState.step] at h
    split at h
    · cases h
    · cases h
      exact .lose

/-- Every action keeps the invariant. -/
theorem Inv.step (h : Inv znode s) {a : BootstrapAction} (hstep : step c s a = some s') :
    Inv znode s' := by
  cases effect_of_step hstep with
  | format hallowed hformat => exact h.format hallowed hformat
  | first hinit hfirst hanswer => exact h.formatZK hinit hfirst hanswer
  | later hinit hlater =>
    exact h.setZkReady hinit fun _ => h.later _ hlater (by simp [hinit])
  | lose => exact h.forget _

/-- The invariant holds in every reachable state. -/
theorem inv_run {version : Pod → Bool} {actions : List BootstrapAction}
    (hrun : Transition.run (BootstrapState.step c) (init version znode) actions = some s) :
    Inv znode s :=
  Transition.run_invariant (P := fun _ => True) (fun _ _ _ _ h hstep => h.step hstep)
    (fun _ _ => trivial) (inv_init version znode) hrun

/-- In every run, the ZNode is there when a NameNode runs or is active, it is created at most once
and only if it was not there, and only the first pods of stateful sets execute the command. -/
theorem znode_before_running {version : Pod → Bool} {actions : List BootstrapAction}
    (hrun : Transition.run (BootstrapState.step c) (init version znode) actions = some s) :
    (∀ p, s.format.phase p = .running ∨ s.format.active = some p → s.znode = true) ∧
      s.created.length + znode.toNat ≤ 1 ∧ ∀ p ∈ s.attempted, p.ordinal = 0 := by
  have h := inv_run hrun
  refine ⟨fun p hp => ?_, h.once.trans (Bool.toNat_le s.znode), h.first⟩
  rcases hp with hp | hp
  · exact h.ready p (h.running p hp)
  · exact h.ready p (h.running p (h.active p hp))

/-- A pod without data that reads the last id of its list finds it active, or it is the only pod
that has started and no directory was formatted before. -/
def LastReadSafe (c : HdfsCluster) (s : BootstrapState) : BootstrapAction → Prop
  | .format (.read p) =>
      s.format.version p = false → (s.format.phase p).unread.length = 1 →
        ((∀ q ∈ c.nameNodePods, q ≠ p → s.format.phase q = .pending) ∧ s.format.formatted = []) ∨
          s.format.active.map c.podName = (s.format.phase p).unread.head?
  | _ => True

instance (c : HdfsCluster) (s : BootstrapState) :
    (a : BootstrapAction) → Decidable (LastReadSafe c s a)
  | .format (.read _) => inferInstanceAs (Decidable (_ → _ → _ ∨ _))
  | .format (.start _) | .format (.act _) | .format (.serve _) | .format (.elect _)
  | .format .demote | .formatZK _ _ _ | .lose _ => .isTrue trivial

/-- When nothing was formatted and no other pod has started, no other pod is committed. -/
theorem LastReadSafe.readSafe {a : FormatAction} (hs : FormatState.Inv c s.format)
    (h : LastReadSafe c s (.format a)) : FormatState.ReadSafe c s.format a := by
  cases a with
  | read p =>
    intro hversion hlast
    refine (h hversion hlast).imp_left fun hfree q hq hc => ?_
    rcases hc with hf | ⟨hscanned, -⟩
    · rw [hfree.2] at hf
      cases hf
    · have hphase : s.format.phase q ≠ .pending := by simp [hscanned]
      exact hphase (hfree.1 q (hs.member q hphase) hq)
  | start p | act p | serve p | elect p | demote => trivial

/-- Every action keeps what holds of the first scripts: the loss of a pod takes back what it was
about to do, and leaves what it has done. -/
theorem formatInv_step (h : FormatState.Inv c s.format) {a : BootstrapAction}
    (hcond : LastReadSafe c s a) (hstep : BootstrapState.step c s a = some s') :
    FormatState.Inv c s'.format := by
  cases effect_of_step hstep with
  | format _ hformat => exact h.step (hcond.readSafe h) hformat
  | first | later => exact h
  | @lose p =>
    have hlost : FormatState.Inv c (s.format.setPhase p .pending) :=
      h.setPhase (absurd rfl) (by simp) (by simp)
    exact hlost.setActive _

/-- In every run whose last reads are safe, whatever pods are lost and whatever commands fail, at
most one pod formats its directory, every other pod that found no data copies the active NameNode,
and every pod that runs has data. -/
theorem formats_once {version : Pod → Bool} {actions : List BootstrapAction}
    (hcond : Transition.AllSteps (BootstrapState.step c) (LastReadSafe c) (init version znode)
      actions)
    (hrun : Transition.run (BootstrapState.step c) (init version znode) actions = some s) :
    (s.format.formatted.length ≤ 1 ∧
        ∀ p ∈ s.format.missing, p ∉ s.format.formatted → p ∈ s.format.bootstrapped) ∧
      ∀ p, s.format.phase p = .running → s.format.version p = true := by
  have hstep (s : BootstrapState) (a : BootstrapAction) (s' : BootstrapState)
      (hs : FormatState.Inv c s.format) (hc : LastReadSafe c s a)
      (h : BootstrapState.step c s a = some s') : FormatState.Inv c s'.format :=
    formatInv_step hs hc h
  have h := Transition.run_induction hstep (FormatState.inv_init c version) hcond hrun
  exact ⟨h.formatted_le_one, fun p hp => h.data p (.inr hp)⟩

/-- An action that loses no pod. -/
def KeepsPods : BootstrapAction → Bool
  | .lose _ => false
  | .format _ | .formatZK _ _ _ => true

/-- The number of ids that the first script of a pod reads at most. -/
def idCount (c : HdfsCluster) (p : Pod) : Nat :=
  match c.formatPodNames p.group with
  | .ok ids => ids.length
  | .error _ => 0

/-- The number of actions until a pod runs, at most. -/
def remaining (c : HdfsCluster) (s : BootstrapState) (p : Pod) : Nat :=
  match s.format.phase p with
  | .pending => idCount c p + 5
  | .scanning ids => ids.length + 4
  | .scanned _ => 3
  | .initialized => if s.zkReady p then 1 else 2
  | .running => 0

/-- The number of actions until all pods run, at most. -/
def work (c : HdfsCluster) (s : BootstrapState) : Nat :=
  (c.nameNodePods.map (remaining c s)).sum

/-- A pod has nothing left to do exactly when it runs. -/
theorem remaining_eq_zero : remaining c s p = 0 ↔ s.format.phase p = .running := by
  unfold remaining
  split <;> simp_all
  split <;> simp

/-- A pod of the cluster that does not run, while the pods before it do. -/
theorem exists_next (hp : p ∈ c.nameNodePods) (hrunning : s.format.phase p ≠ .running) :
    ∃ q ∈ c.nameNodePods, s.format.phase q ≠ .running ∧
      ∀ i < q.ordinal, s.format.phase ⟨q.group, i⟩ = .running := by
  induction hn : p.ordinal using Nat.strongRecOn generalizing p with
  | ind n ih =>
    by_cases hbefore : ∀ i < p.ordinal, s.format.phase ⟨p.group, i⟩ = .running
    · exact ⟨p, hp, hrunning, hbefore⟩
    · push Not at hbefore
      obtain ⟨i, hi, hne⟩ := hbefore
      exact ih i (hn ▸ hi) (FormatState.mem_nameNodePods_of_lt hp hi) hne rfl

/-- Doing part of the work of one pod leaves less work. -/
theorem work_lt (hp : p ∈ c.nameNodePods) (hlt : remaining c s' p < remaining c s p)
    (hother : ∀ q, q ≠ p → remaining c s' q = remaining c s q) : work c s' < work c s := by
  refine List.sum_lt_sum _ _ (fun q _ => ?_) ⟨p, hp, hlt⟩
  by_cases hq : q = p
  · rw [hq]
    exact hlt.le
  · exact (hother q hq).le

/-- What a pod has left depends on its own phase and its own second script only. -/
theorem remaining_congr {q : Pod} (hphase : s'.format.phase q = s.format.phase q)
    (hready : s'.zkReady q = s.zkReady q) : remaining c s' q = remaining c s q := by
  simp only [remaining, hphase, hready]

/-- What a pod has left when it starts or goes on reading. -/
theorem remaining_loop (ids : List String) (h : s.format.phase p = FormatState.loop ids) :
    remaining c s p ≤ ids.length + 4 := by
  cases ids with
  | nil => simp [remaining, h, FormatState.loop]
  | cons id ids => simp [remaining, h, FormatState.loop]

/-- Some action that loses no pod leaves less work. -/
def Improvable (c : HdfsCluster) (znode : Bool) (s : BootstrapState) : Prop :=
  ∃ a s', KeepsPods a = true ∧ BootstrapState.step c s a = some s' ∧ Inv znode s' ∧
    work c s' < work c s

/-- An action of the first scripts that moves one pod forward does part of the work. -/
theorem improvable_of_format (h : Inv znode s) {a : FormatAction} {f : FormatState} {ph : Phase}
    (hp : p ∈ c.nameNodePods) (hallowed : s.Allowed a = true)
    (hstep : FormatState.step c s.format a = some f)
    (hphase : f.phase = (s.format.setPhase p ph).phase)
    (hlt : remaining c { s with format := f } p < remaining c s p) : Improvable c znode s := by
  have hs : BootstrapState.step c s (.format a) = some { s with format := f } := by
    simp only [BootstrapState.step, hallowed, if_true, hstep, Option.map_some]
  refine ⟨.format a, _, rfl, hs, h.format hallowed hstep, work_lt hp hlt fun q hq => ?_⟩
  refine remaining_congr ?_ rfl
  show f.phase q = s.format.phase q
  rw [hphase, FormatState.setPhase_phase_of_ne _ _ hq]

/-- A pod can start when the pods before it run. -/
theorem improvable_of_pending (h : Inv znode s) (hp : p ∈ c.nameNodePods)
    (hpending : s.format.phase p = .pending)
    (hbefore : ∀ i < p.ordinal, s.format.phase ⟨p.group, i⟩ = .running) :
    Improvable c znode s := by
  obtain ⟨ids, hids⟩ := FormatState.formatPodNames_eq_ok hp
  have hstep : FormatState.step c s.format (.start p) =
      some (s.format.setPhase p (FormatState.loop ids)) := by
    simp only [FormatState.step]
    rw [if_pos ⟨hp, hpending, fun i hi => hbefore i (List.mem_range.mp hi)⟩, hids]
  refine improvable_of_format h hp rfl hstep rfl ?_
  have hold : remaining c s p = ids.length + 5 := by simp [remaining, hpending, idCount, hids]
  have hnew := remaining_loop (c := c) (p := p)
    (s := { s with format := s.format.setPhase p (FormatState.loop ids) }) ids
    (FormatState.setPhase_phase_self ..)
  omega

/-- A first script can read its next id. -/
theorem improvable_of_scanning (h : Inv znode s) (hp : p ∈ c.nameNodePods) {ids : List String}
    (hphase : s.format.phase p = .scanning ids) : Improvable c znode s := by
  cases ids with
  | nil => exact absurd hphase (h.scanning p)
  | cons id ids =>
    have hold : remaining c s p = ids.length + 5 := by simp [remaining, hphase]
    by_cases hactive : s.format.active.map c.podName = some id
    · have hstep : FormatState.step c s.format (.read p) =
          some (s.format.setPhase p (.scanned true)) := by
        simp only [FormatState.step, hphase, hactive, if_true]
      refine improvable_of_format h hp rfl hstep rfl ?_
      have hnew : remaining c { s with format := s.format.setPhase p (.scanned true) } p = 3 := by
        simp [remaining]
      omega
    · have hstep : FormatState.step c s.format (.read p) =
          some (s.format.setPhase p (FormatState.loop ids)) := by
        simp only [FormatState.step, hphase, if_neg hactive]
      refine improvable_of_format h hp rfl hstep rfl ?_
      have hnew := remaining_loop (c := c) (p := p)
        (s := { s with format := s.format.setPhase p (FormatState.loop ids) }) ids
        (FormatState.setPhase_phase_self ..)
      omega

/-- A first script that has read its ids can end. -/
theorem improvable_of_scanned (h : Inv znode s) (hp : p ∈ c.nameNodePods) {activeSeen : Bool}
    (hphase : s.format.phase p = .scanned activeSeen) : Improvable c znode s := by
  have hstep : FormatState.step c s.format (.act p) = some (s.format.finish p activeSeen) := by
    simp only [FormatState.step, hphase]
  refine improvable_of_format h hp rfl hstep (FormatState.finish_phase ..) ?_
  have hold : remaining c s p = 3 := by simp [remaining, hphase]
  have hnew : remaining c { s with format := s.format.finish p activeSeen } p ≤ 2 := by
    simp only [remaining, FormatState.finish_phase, FormatState.setPhase_phase_self]
    split <;> omega
  omega

/-- A second script can end: the command can say whether the ZNode is there. -/
theorem improvable_of_initialized (h : Inv znode s) (hp : p ∈ c.nameNodePods)
    (hphase : s.format.phase p = .initialized) (hready : s.zkReady p = false) :
    Improvable c znode s := by
  let exitCode := if s.znode then zkExisted else zkFormatted
  have hanswer : FormatZKAnswer s.znode exitCode (!s.znode) := by
    cases hz : s.znode <;> simp [FormatZKAnswer, exitCode, hz, zkExisted, zkFormatted]
  have hsucc : formatZKSucceeds exitCode = true := by
    cases hz : s.znode <;> simp [exitCode, hz, formatZKSucceeds]
  obtain ⟨s', hs', hformat, hready'⟩ : ∃ s', s.runFormatZK c p exitCode (!s.znode) = some s' ∧
      s'.format = s.format ∧ s'.zkReady = fun q => if q = p then true else s.zkReady q := by
    unfold runFormatZK
    rw [if_pos hanswer, hsucc]
    split
    · exact ⟨_, rfl, rfl, rfl⟩
    · exact ⟨_, rfl, rfl, rfl⟩
  have hstep : BootstrapState.step c s (.formatZK p exitCode (!s.znode)) = some s' := by
    simp only [BootstrapState.step]
    rw [if_pos ⟨hphase, hready⟩, hs']
  refine ⟨_, s', rfl, hstep, h.step hstep, work_lt hp ?_ fun q hq => ?_⟩
  · simp [remaining, hformat, hready', hphase, hready]
  · refine remaining_congr (by rw [hformat]) ?_
    rw [hready']
    exact if_neg hq

/-- As long as a pod does not run, some action does part of the work. -/
theorem improvable (h : Inv znode s) (hwork : 0 < work c s) : Improvable c znode s := by
  obtain ⟨p, hp, hpos⟩ : ∃ p ∈ c.nameNodePods, remaining c s p ≠ 0 := by
    by_contra hnone
    push Not at hnone
    have hzero : work c s = 0 := List.sum_eq_zero fun n hn => by
      obtain ⟨p, hp, rfl⟩ := List.mem_map.mp hn
      exact hnone p hp
    omega
  obtain ⟨q, hq, hrunning, hbefore⟩ := exists_next hp fun hr => hpos (remaining_eq_zero.mpr hr)
  cases hphase : s.format.phase q with
  | pending => exact improvable_of_pending h hq hphase hbefore
  | scanning ids => exact improvable_of_scanning h hq hphase
  | scanned activeSeen => exact improvable_of_scanned h hq hphase
  | running => exact absurd hphase hrunning
  | initialized =>
    cases hready : s.zkReady q with
    | false => exact improvable_of_initialized h hq hphase hready
    | true =>
      have hstep : FormatState.step c s.format (.serve q) =
          some (s.format.setPhase q .running) := by
        simp only [FormatState.step, hphase, if_true]
      refine improvable_of_format h hq (a := .serve q) hready hstep rfl ?_
      simp [remaining, hphase, hready]

/-- Some run that loses no pod leads to a state in which all NameNode pods run. -/
theorem Inv.exists_run (h : Inv znode s) :
    ∃ more s', (∀ a ∈ more, KeepsPods a = true) ∧
      Transition.run (BootstrapState.step c) s more = some s' ∧
        ∀ p ∈ c.nameNodePods, s'.format.phase p = .running := by
  obtain ⟨more, s', hkeeps, hmore, -, hzero⟩ := Transition.exists_run_of_decreasing
    (P := fun a => KeepsPods a = true) (fun s hs hwork => improvable hs hwork) h
  refine ⟨more, s', hkeeps, hmore, fun p hp => ?_⟩
  have hdone : remaining c s' p = 0 :=
    List.sum_eq_zero_iff.mp hzero _ (List.mem_map_of_mem hp)
  exact remaining_eq_zero.mp hdone

end BootstrapState

/-- The first pod creates the ZNode with a command that fails, and is lost. It then finds its data
directory and the ZNode, and the second pod starts. -/
def lostAfterCreating : List BootstrapAction :=
  [.format (.start ⟨"default", 0⟩), .format (.read ⟨"default", 0⟩),
    .format (.read ⟨"default", 0⟩), .format (.act ⟨"default", 0⟩),
    .formatZK ⟨"default", 0⟩ 1 true, .lose ⟨"default", 0⟩, .format (.start ⟨"default", 0⟩),
    .format (.read ⟨"default", 0⟩), .format (.read ⟨"default", 0⟩),
    .format (.act ⟨"default", 0⟩), .formatZK ⟨"default", 0⟩ zkExisted false,
    .format (.serve ⟨"default", 0⟩), .format (.elect ⟨"default", 0⟩),
    .format (.start ⟨"default", 1⟩)]

/-- The second pod finds the first one active. -/
def copiesFirst : List BootstrapAction :=
  [.format (.read ⟨"default", 1⟩), .format (.act ⟨"default", 1⟩),
    .formatZK ⟨"default", 1⟩ zkFormatted false, .format (.serve ⟨"default", 1⟩)]

theorem znode_before_running_lostAfterCreating :
    ∃ s, Transition.run (BootstrapState.step twoNameNodes) (.init (fun _ => false) false)
        lostAfterCreating = some s ∧ s.format.active = some ⟨"default", 0⟩ ∧ s.znode = true ∧
      s.created.length ≤ 1 := by
  have hlog : (Transition.run (BootstrapState.step twoNameNodes) (.init (fun _ => false) false)
      lostAfterCreating).map (fun s => s.format.active) = some (some ⟨"default", 0⟩) := by
    decide +kernel
  obtain ⟨s, hs, hactive⟩ := Option.map_eq_some_iff.mp hlog
  obtain ⟨hznode, hcreated, -⟩ := BootstrapState.znode_before_running hs
  exact ⟨s, hs, hactive, hznode _ (.inr hactive), hcreated⟩

/-- The second pod of the cluster above reads the first one as active and copies it. -/
theorem formats_once_lostAfterCreating :
    ∃ s, Transition.run (BootstrapState.step twoNameNodes) (.init (fun _ => false) false)
        (lostAfterCreating ++ copiesFirst) = some s ∧
      s.format.missing = [⟨"default", 1⟩, ⟨"default", 0⟩] ∧ s.format.formatted.length ≤ 1 ∧
        ∀ p, s.format.phase p = .running → s.format.version p = true := by
  have hlog : (Transition.run (BootstrapState.step twoNameNodes) (.init (fun _ => false) false)
      (lostAfterCreating ++ copiesFirst)).map (fun s => s.format.missing) =
        some [⟨"default", 1⟩, ⟨"default", 0⟩] := by decide +kernel
  obtain ⟨s, hs, hmissing⟩ := Option.map_eq_some_iff.mp hlog
  obtain ⟨⟨hle, -⟩, hdata⟩ := BootstrapState.formats_once (by decide +kernel) hs
  exact ⟨s, hs, hmissing, hle, hdata⟩

/-- In a cluster with a pod in each of two groups, the first pod formats its directory and is lost.
The second one then starts alone. -/
def lostAfterFormatting : List BootstrapAction :=
  [.format (.start ⟨"a", 0⟩), .format (.read ⟨"a", 0⟩), .format (.act ⟨"a", 0⟩), .lose ⟨"a", 0⟩,
    .format (.start ⟨"b", 0⟩), .format (.read ⟨"b", 0⟩), .format (.act ⟨"b", 0⟩)]

-- That no other pod has started is not enough when pods are lost.
example :
    let c := HdfsCluster.ofReplicas {} [("a", 1), ("b", 1)] [("default", 1)] [("default", 1)]
    (Transition.run (BootstrapState.step c) (.init (fun _ => false) false)
        lostAfterFormatting).map (fun s => s.format.formatted) = some [⟨"b", 0⟩, ⟨"a", 0⟩] ∧
      ¬Transition.AllSteps (BootstrapState.step c) (BootstrapState.LastReadSafe c)
        (.init (fun _ => false) false) lostAfterFormatting := by
  decide +kernel

end HdfsOperator
