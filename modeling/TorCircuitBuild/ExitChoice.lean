import TorCircuitBuild.NodeChoice
import Mathlib.Order.Basic

set_option autoImplicit false

/-!
# The general-purpose exit

`choose_good_exit_server_general` scores every node by the pending streams it could carry
(`n_supported`, with -1 for a node it will not use), keeps the best score in `best_support`,
and either draws among the best nodes, recurses once with the uptime and capacity
requirements dropped, or falls back to the usable nodes that handle a predicted port.
-/

namespace TorCircuitBuild.ExitChoice

open NodeChoice (RouterSet)

/-- The fields of a connection that ap_stream_wants_exit_attention reads. -/
structure Conn where
  isAp : Bool
  circuitWait : Bool
  markedForClose : Bool
  wantOnehop : Bool
  useBegindir : Bool
  chosenExitName : Bool
  /-- connection_edge_is_rendezvous_stream -/
  isRendezvous : Bool
  /-- circuit_stream_is_being_handled(conn, 0, MIN_CIRCUITS_HANDLING_STREAM) -/
  beingHandled : Bool
  deriving DecidableEq, Repr

inductive AddrPolicyResult
  | accepted | rejected | probablyAccepted | probablyRejected
  deriving DecidableEq, Repr

/-- The connection array, the node list, the options and the directory services the exit
choice reads. -/
structure ExitEnv where
  nodes : List Node
  connections : List Conn
  routerDigestIsMe : Digest → Bool
  excludeExitNodesUnion : RouterSet
  exitNodes : Option RouterSet
  allowInvalidExit : Bool
  excludeSingleHopRelays : Bool
  connectionApCanUseExit : Conn → Node → Bool
  compareTorAddrToNodePolicy : ℕ → Node → AddrPolicyResult
  /-- circuit_get_unhandled_ports -/
  neededPorts : List ℕ
  nodeSlChooseByBandwidth : List Node → Option Node

def apStreamWantsExitAttention (conn : Conn) : Bool :=
  conn.isAp && conn.circuitWait && !conn.markedForClose && !conn.wantOnehop &&
    !conn.useBegindir && !conn.chosenExitName && !conn.isRendezvous && !conn.beingHandled

/-- Modelled from the spec: node_is_unreliable, a node is insufficiently stable or fast, or
not a possible guard, for what is requested. -/
def nodeIsUnreliable (node : Node) (needUptime needCapacity needGuard : Bool) : Bool :=
  (needUptime && !node.isStable) || (needCapacity && !node.isFast) ||
    (needGuard && !node.isPossibleGuard)

def nodeHandlesSomePort (env : ExitEnv) (node : Node) (neededPorts : List ℕ) : Bool :=
  neededPorts.any fun port =>
    let r := env.compareTorAddrToNodePolicy port node
    r ≠ .rejected && r ≠ .probablyRejected

/-- n_pending_connections. -/
def nPending (env : ExitEnv) : ℕ := env.connections.countP apStreamWantsExitAttention

/-- The pending streams that can exit from `node`. -/
def pendingSupport (env : ExitEnv) (node : Node) : ℕ :=
  (env.connections.filter apStreamWantsExitAttention).countP (env.connectionApCanUseExit · node)

/-- The scoring loop's tests, taken in its order: a node failing one gets n_supported[i] = -1
and is skipped. -/
def nodeSkipped (env : ExitEnv) (needUptime needCapacity : Bool) (node : Node) : Bool :=
  env.routerDigestIsMe node.identity || !node.hasDescriptor ||
    (!node.isRunning || node.isBadExit) || !node.isGeneralPurpose ||
    env.excludeExitNodesUnion node || env.exitNodes.any (fun s => !s node) ||
    nodeIsUnreliable node needUptime needCapacity false ||
    !(node.isValid || env.allowInvalidExit) ||
    (env.excludeSingleHopRelays && node.allowsSingleHopExits) || node.exitPolicyRejectsAll

/-- n_supported[i] for the node at index i. -/
def nodeSupport (env : ExitEnv) (needUptime needCapacity : Bool) (node : Node) : ℤ :=
  if nodeSkipped env needUptime needCapacity node then -1 else pendingSupport env node

/-- One turn of the scoring loop on best_support; a node at 0 while streams are pending
leaves it at -1 if that is where it is. -/
def bestSupportStep (nPending : ℕ) (best s : ℤ) : ℤ :=
  if s = -1 then best
  else if 0 < nPending ∧ s = 0 then best
  else if best < s then s else best

def bestSupport (env : ExitEnv) (needUptime needCapacity : Bool) : ℤ :=
  (env.nodes.map (nodeSupport env needUptime needCapacity)).foldl
    (bestSupportStep (nPending env)) (-1)

def chooseGoodExitServerGeneral (env : ExitEnv) (needUptime needCapacity : Bool) :
    Option Node :=
  let best := bestSupport env needUptime needCapacity
  if 0 < best then
    env.nodeSlChooseByBandwidth
      (env.nodes.filter fun node => nodeSupport env needUptime needCapacity node = best)
  else if _h : best = -1 ∧ (needUptime || needCapacity) = true then
    chooseGoodExitServerGeneral env false false
  else
    let supporting := env.nodes.filter fun node => nodeSupport env needUptime needCapacity node ≠ -1
    match env.nodeSlChooseByBandwidth
        (supporting.filter fun node => nodeHandlesSomePort env node env.neededPorts) with
    | some node => some node
    | none => env.nodeSlChooseByBandwidth supporting
termination_by (needUptime || needCapacity).toNat
decreasing_by simp [_h.2]

/-! ## The filters as the spec lists them -/

/-- The hard filters of the scoring loop. -/
def passesExitFilters (env : ExitEnv) (node : Node) : Bool :=
  !env.routerDigestIsMe node.identity && node.hasDescriptor && node.isRunning &&
    !node.isBadExit && node.isGeneralPurpose && !env.excludeExitNodesUnion node &&
    env.exitNodes.all (· node) && (node.isValid || env.allowInvalidExit) &&
    !(env.excludeSingleHopRelays && node.allowsSingleHopExits) && !node.exitPolicyRejectsAll

/-- A node the first pass scores: every hard filter, and reliable for the requested flags. -/
def exitAdmissible (env : ExitEnv) (needUptime needCapacity : Bool) (node : Node) : Bool :=
  passesExitFilters env node && !nodeIsUnreliable node needUptime needCapacity false

theorem nodeSkipped_eq (env : ExitEnv) (needUptime needCapacity : Bool) (node : Node) :
    nodeSkipped env needUptime needCapacity node = !exitAdmissible env needUptime needCapacity node := by
  have hall : env.exitNodes.all (· node) = !env.exitNodes.any (fun s => !s node) := by
    cases env.exitNodes <;> simp
  simp only [nodeSkipped, exitAdmissible, passesExitFilters, hall, Bool.not_and, Bool.not_or,
    Bool.not_not, Bool.or_assoc, Bool.or_comm, Bool.or_left_comm]

theorem nodeSupport_eq (env : ExitEnv) (needUptime needCapacity : Bool) (node : Node) :
    nodeSupport env needUptime needCapacity node =
      if exitAdmissible env needUptime needCapacity node = true then (pendingSupport env node : ℤ)
      else -1 := by
  rw [nodeSupport, nodeSkipped_eq]
  cases exitAdmissible env needUptime needCapacity node <;> rfl

theorem nodeSupport_ne_neg_one (env : ExitEnv) (needUptime needCapacity : Bool) (node : Node) :
    nodeSupport env needUptime needCapacity node ≠ -1 ↔
      exitAdmissible env needUptime needCapacity node = true := by
  rw [nodeSupport_eq]; split <;> simp_all

theorem passesExitFilters_of_admissible {env : ExitEnv} {needUptime needCapacity : Bool}
    {node : Node} (h : exitAdmissible env needUptime needCapacity node = true) :
    passesExitFilters env node = true := by
  simp only [exitAdmissible, Bool.and_eq_true] at h
  exact h.1

theorem nodeIsUnreliable_relaxed (node : Node) : nodeIsUnreliable node false false false = false :=
  rfl

/-! ## best_support -/

section BestSupport

variable (n : ℕ)

/-- A score the loop counts: not skipped, and not a zero while streams are pending. -/
def Counted (s : ℤ) : Prop := s ≠ -1 ∧ ¬(0 < n ∧ s = 0)

theorem foldl_bestSupportStep_ge (l : List ℤ) :
    ∀ b, b ≤ l.foldl (bestSupportStep n) b := by
  induction l with
  | nil => intro b; exact Int.le_refl b
  | cons s l ih =>
    intro b
    refine Int.le_trans ?_ (ih _)
    unfold bestSupportStep; split_ifs <;> omega

theorem le_foldl_bestSupportStep (l : List ℤ) :
    ∀ b, ∀ s ∈ l, Counted n s → s ≤ l.foldl (bestSupportStep n) b := by
  induction l with
  | nil => simp
  | cons t l ih =>
    intro b s hs hc
    rcases List.mem_cons.mp hs with rfl | hs
    · refine Int.le_trans ?_ (foldl_bestSupportStep_ge n l _)
      unfold bestSupportStep Counted at *; split_ifs <;> omega
    · exact ih _ s hs hc

theorem foldl_bestSupportStep_cases (l : List ℤ) :
    ∀ b, l.foldl (bestSupportStep n) b = b ∨
      (l.foldl (bestSupportStep n) b ∈ l ∧ Counted n (l.foldl (bestSupportStep n) b)) := by
  induction l with
  | nil => simp
  | cons s l ih =>
    intro b
    simp only [List.foldl_cons]
    rcases ih (bestSupportStep n b s) with h | h
    · rw [h]; unfold bestSupportStep Counted; split_ifs <;> simp_all
    · exact .inr ⟨List.mem_cons_of_mem s h.1, h.2⟩

end BestSupport

section Choice

variable (env : ExitEnv) (needUptime needCapacity : Bool)

theorem le_bestSupport {node : Node} (hmem : node ∈ env.nodes)
    (hc : Counted (nPending env) (nodeSupport env needUptime needCapacity node)) :
    nodeSupport env needUptime needCapacity node ≤ bestSupport env needUptime needCapacity :=
  le_foldl_bestSupportStep _ _ _ _ (List.mem_map_of_mem _ hmem) hc

theorem bestSupport_cases :
    bestSupport env needUptime needCapacity = -1 ∨
      ∃ node ∈ env.nodes, nodeSupport env needUptime needCapacity node =
        bestSupport env needUptime needCapacity ∧
        Counted (nPending env) (bestSupport env needUptime needCapacity) := by
  rcases foldl_bestSupportStep_cases (nPending env)
    (env.nodes.map (nodeSupport env needUptime needCapacity)) (-1) with h | ⟨hmem, hc⟩
  · exact .inl h
  · obtain ⟨node, hnode, hs⟩ := List.mem_map.mp hmem
    exact .inr ⟨node, hnode, hs, hc⟩

/-- A choice made without recursing is a listed node the first pass scored, and when some
node scored above zero it is one with the best score. -/
theorem chooseGoodExitServerGeneral_pass
    (hbw : ∀ l node, env.nodeSlChooseByBandwidth l = some node → node ∈ l)
    (hpass : ¬(bestSupport env needUptime needCapacity = -1 ∧
      (needUptime || needCapacity) = true))
    {node : Node} (h : chooseGoodExitServerGeneral env needUptime needCapacity = some node) :
    node ∈ env.nodes ∧ nodeSupport env needUptime needCapacity node ≠ -1 ∧
      (0 < bestSupport env needUptime needCapacity →
        nodeSupport env needUptime needCapacity node = bestSupport env needUptime needCapacity) := by
  rw [chooseGoodExitServerGeneral] at h
  simp only [hpass, dite_false] at h
  split at h
  · have := List.mem_filter.mp (hbw _ _ h)
    simp only [decide_eq_true_eq] at this
    exact ⟨this.1, by omega, fun _ => this.2⟩
  · rename_i hnpos
    have hsupp : ∀ l, l ⊆ env.nodes.filter (fun node =>
        nodeSupport env needUptime needCapacity node ≠ -1) → node ∈ l →
        node ∈ env.nodes ∧ nodeSupport env needUptime needCapacity node ≠ -1 := by
      intro l hl hn
      simpa using hl hn
    suffices hmem : node ∈ env.nodes ∧ nodeSupport env needUptime needCapacity node ≠ -1 from
      ⟨hmem.1, hmem.2, fun hb => absurd hb hnpos⟩
    split at h
    · rename_i hfirst
      cases h
      exact hsupp _ (fun _ hx => (List.mem_filter.mp hx).1) (hbw _ _ hfirst)
    · exact hsupp _ (List.Subset.refl _) (hbw _ _ h)

end Choice

/-- Whatever node the general exit choice returns passes the scoring loop's hard filters, and
when some listed node passing every filter can carry a pending stream, the returned node is
such a node and carries the most pending streams among them. -/
theorem chooseGoodExitServerGeneral_spec (env : ExitEnv)
    (hbw : ∀ l node, env.nodeSlChooseByBandwidth l = some node → node ∈ l)
    (needUptime needCapacity : Bool) :
    (∀ node, chooseGoodExitServerGeneral env needUptime needCapacity = some node →
      node ∈ env.nodes ∧ passesExitFilters env node = true) ∧
    ((∃ n ∈ env.nodes, exitAdmissible env needUptime needCapacity n = true ∧
        0 < pendingSupport env n) →
      ∀ node, chooseGoodExitServerGeneral env needUptime needCapacity = some node →
        node ∈ env.nodes ∧ exitAdmissible env needUptime needCapacity node = true ∧
          0 < pendingSupport env node ∧
          ∀ n ∈ env.nodes, exitAdmissible env needUptime needCapacity n = true →
            pendingSupport env n ≤ pendingSupport env node) := by
  have filters : ∀ u c node, node ∈ env.nodes → nodeSupport env u c node ≠ -1 →
      node ∈ env.nodes ∧ passesExitFilters env node = true := fun u c node hmem hs =>
    ⟨hmem, passesExitFilters_of_admissible ((nodeSupport_ne_neg_one env u c node).mp hs)⟩
  refine ⟨fun node h => ?_, fun ⟨n, hn, hadm, hpos⟩ node h => ?_⟩
  · by_cases hpass : bestSupport env needUptime needCapacity = -1 ∧
        (needUptime || needCapacity) = true
    · rw [chooseGoodExitServerGeneral] at h
      simp only [hpass, dite_true, show ¬(0 : ℤ) < -1 by omega, if_false] at h
      have := chooseGoodExitServerGeneral_pass env false false hbw (by simp) h
      exact filters _ _ node this.1 this.2.1
    · have := chooseGoodExitServerGeneral_pass env needUptime needCapacity hbw hpass h
      exact filters _ _ node this.1 this.2.1
  · have hsn : nodeSupport env needUptime needCapacity n = pendingSupport env n := by
      simp [nodeSupport_eq, hadm]
    have hbest : (pendingSupport env n : ℤ) ≤ bestSupport env needUptime needCapacity :=
      hsn ▸ le_bestSupport env needUptime needCapacity hn ⟨by omega, by omega⟩
    obtain ⟨hmem, hne, heq⟩ := chooseGoodExitServerGeneral_pass env needUptime needCapacity hbw
      (by omega) h
    have hadm' := (nodeSupport_ne_neg_one env needUptime needCapacity node).mp hne
    have hsnode : nodeSupport env needUptime needCapacity node = pendingSupport env node := by
      simp [nodeSupport_eq, hadm']
    have htop := heq (by omega)
    refine ⟨hmem, hadm', by omega, fun m hm hadm_m => ?_⟩
    have hsm : nodeSupport env needUptime needCapacity m = pendingSupport env m := by
      simp [nodeSupport_eq, hadm_m]
    rcases Nat.eq_zero_or_pos (pendingSupport env m) with h0 | h0
    · omega
    · have := le_bestSupport env needUptime needCapacity hm (by unfold Counted; omega)
      omega

/-- The relaxing recursion is taken only when best_support stays at -1, and it stays there
unless some listed node passes every filter of the first pass and can carry a pending stream,
or no stream is pending at all: then the returned node is reliable for the requested flags. -/
theorem chooseGoodExitServerGeneral_reliable (env : ExitEnv)
    (hbw : ∀ l node, env.nodeSlChooseByBandwidth l = some node → node ∈ l)
    (needUptime needCapacity : Bool)
    (hadm : ∃ n ∈ env.nodes, exitAdmissible env needUptime needCapacity n = true ∧
      (nPending env = 0 ∨ 0 < pendingSupport env n)) :
    ∀ node, chooseGoodExitServerGeneral env needUptime needCapacity = some node →
      nodeIsUnreliable node needUptime needCapacity false = false := by
  obtain ⟨n, hn, hadm_n, hcount⟩ := hadm
  have hsn : nodeSupport env needUptime needCapacity n = pendingSupport env n := by
    simp [nodeSupport_eq, hadm_n]
  have hbest := le_bestSupport env needUptime needCapacity hn (by unfold Counted; omega)
  intro node h
  obtain ⟨-, hne, -⟩ := chooseGoodExitServerGeneral_pass env needUptime needCapacity hbw
    (by omega) h
  have hadm' := (nodeSupport_ne_neg_one env needUptime needCapacity node).mp hne
  simp only [exitAdmissible, Bool.and_eq_true, Bool.not_eq_true'] at hadm'
  exact hadm'.2

/-- A reliable exit that can carry nothing of the one pending stream. -/
def reliableExit : Node := ⟨1, true, true, true, false, true, true, true, true, false, false⟩

/-- The same relay, but not fast. -/
def slowExit : Node := ⟨2, true, true, true, false, true, true, false, true, false, false⟩

/-- One pending stream that no exit can carry, the two exits above, no predicted port, and a
bandwidth choice that takes the last candidate. -/
def strandedStreamEnv : ExitEnv where
  nodes := [reliableExit, slowExit]
  connections := [⟨true, true, false, false, false, false, false, false⟩]
  routerDigestIsMe := fun _ => false
  excludeExitNodesUnion := fun _ => false
  exitNodes := none
  allowInvalidExit := false
  excludeSingleHopRelays := false
  connectionApCanUseExit := fun _ _ => false
  compareTorAddrToNodePolicy := fun _ _ => .rejected
  neededPorts := []
  nodeSlChooseByBandwidth := List.getLast?

theorem strandedStreamEnv_chooses_member (l : List Node) (node : Node)
    (h : strandedStreamEnv.nodeSlChooseByBandwidth l = some node) : node ∈ l :=
  List.mem_of_getLast?_eq_some h

/-- The same relays and stream, but the fast exit can carry it. -/
def servedStreamEnv : ExitEnv :=
  { strandedStreamEnv with connectionApCanUseExit := fun _ node => node.isFast }

theorem servedStreamEnv_chooses_reliable :
    chooseGoodExitServerGeneral servedStreamEnv false true = some reliableExit := by
  rw [chooseGoodExitServerGeneral]
  decide

theorem servedStreamEnv_spec :
    (∀ l node, servedStreamEnv.nodeSlChooseByBandwidth l = some node → node ∈ l) ∧
    (∀ node, chooseGoodExitServerGeneral servedStreamEnv false true = some node →
      node ∈ servedStreamEnv.nodes ∧ passesExitFilters servedStreamEnv node = true) ∧
    (∃ n ∈ servedStreamEnv.nodes, exitAdmissible servedStreamEnv false true n = true ∧
        0 < pendingSupport servedStreamEnv n) ∧
    chooseGoodExitServerGeneral servedStreamEnv false true = some reliableExit ∧
    ∀ node, chooseGoodExitServerGeneral servedStreamEnv false true = some node →
      node ∈ servedStreamEnv.nodes ∧ exitAdmissible servedStreamEnv false true node = true ∧
        0 < pendingSupport servedStreamEnv node ∧
        ∀ n ∈ servedStreamEnv.nodes, exitAdmissible servedStreamEnv false true n = true →
          pendingSupport servedStreamEnv n ≤ pendingSupport servedStreamEnv node := by
  have hex : ∃ n ∈ servedStreamEnv.nodes, exitAdmissible servedStreamEnv false true n = true ∧
      0 < pendingSupport servedStreamEnv n := ⟨reliableExit, by decide, by decide, by decide⟩
  have h := chooseGoodExitServerGeneral_spec servedStreamEnv strandedStreamEnv_chooses_member
    false true
  exact ⟨strandedStreamEnv_chooses_member, h.1, hex, servedStreamEnv_chooses_reliable, h.2 hex⟩

/-- The same relays with no stream pending. -/
def idleEnv : ExitEnv := { strandedStreamEnv with connections := [] }

theorem idleEnv_servedStreamEnv_reliable :
    ((∀ l node, idleEnv.nodeSlChooseByBandwidth l = some node → node ∈ l) ∧
      (∃ n ∈ idleEnv.nodes, exitAdmissible idleEnv false true n = true ∧
        (nPending idleEnv = 0 ∨ 0 < pendingSupport idleEnv n)) ∧
      ∀ node, chooseGoodExitServerGeneral idleEnv false true = some node →
        nodeIsUnreliable node false true false = false) ∧
    ((∀ l node, servedStreamEnv.nodeSlChooseByBandwidth l = some node → node ∈ l) ∧
      (∃ n ∈ servedStreamEnv.nodes, exitAdmissible servedStreamEnv false true n = true ∧
        (nPending servedStreamEnv = 0 ∨ 0 < pendingSupport servedStreamEnv n)) ∧
      0 < nPending servedStreamEnv ∧
      ∀ node, chooseGoodExitServerGeneral servedStreamEnv false true = some node →
        nodeIsUnreliable node false true false = false) := by
  have hidle : ∃ n ∈ idleEnv.nodes, exitAdmissible idleEnv false true n = true ∧
      (nPending idleEnv = 0 ∨ 0 < pendingSupport idleEnv n) :=
    ⟨reliableExit, by decide, by decide, .inl rfl⟩
  have hserved : ∃ n ∈ servedStreamEnv.nodes, exitAdmissible servedStreamEnv false true n = true ∧
      (nPending servedStreamEnv = 0 ∨ 0 < pendingSupport servedStreamEnv n) :=
    ⟨reliableExit, by decide, by decide, .inr (by decide)⟩
  exact ⟨⟨strandedStreamEnv_chooses_member, hidle,
      chooseGoodExitServerGeneral_reliable idleEnv strandedStreamEnv_chooses_member false true
        hidle⟩,
    strandedStreamEnv_chooses_member, hserved, by decide,
      chooseGoodExitServerGeneral_reliable servedStreamEnv strandedStreamEnv_chooses_member false
        true hserved⟩

/-- With a stream pending that no exit can carry, best_support stays at -1 although a reliable
exit passes every filter, so the choice is made again without the capacity requirement and
returns a relay that is not fast. -/
theorem chooseGoodExitServerGeneral_drops_capacity :
    (∀ l node, strandedStreamEnv.nodeSlChooseByBandwidth l = some node → node ∈ l) ∧
    exitAdmissible strandedStreamEnv false true reliableExit = true ∧
    chooseGoodExitServerGeneral strandedStreamEnv false true = some slowExit ∧
    nodeIsUnreliable slowExit false true false = true := by
  refine ⟨strandedStreamEnv_chooses_member, by decide, ?_, by decide⟩
  rw [chooseGoodExitServerGeneral, chooseGoodExitServerGeneral]
  decide

end TorCircuitBuild.ExitChoice
