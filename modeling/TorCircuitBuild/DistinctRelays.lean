import Mathlib.Data.List.Nodup
import TorCircuitBuild.NodeChoice
import TorCircuitBuild.PathSelection

set_option autoImplicit false

/-!
# No relay twice, no family twice

Path selection hands its node choices on: onion_pick_cpath_exit to choose_good_exit_server,
onion_extend_cpath to choose_good_entry_server for the first hop and to
choose_good_middle_server for the hops between, each chosen node turned into an extend info by
extend_info_from_node. Each choice excludes what was chosen before it, with its family: the
exit comes first, an entry avoids the exit, a middle hop the exit and every hop before it. So
a path built this way never goes through one relay twice, nor through two relays of one
family.

The node list, the families, the random choice and the guard store belong to code outside
this file, and the result holds under what that code guarantees (`DirectoryOk`).
-/

namespace TorCircuitBuild.NodeChoice

open PathSelection

/-- What extend_info_from_node reads of a node's descriptor beyond its identity: the onion
keys, and the address family of its preferred OR port. -/
structure NodeDesc where
  onionKey : Node → Bool
  curve25519OnionKey : Node → Bool
  prefAddrFamily : Node → AddrFamily

/-- extend_info_from_node: the primary OR port is the IPv4 one, the preferred one (used for a
direct connection) may be IPv6. The choices ask for a descriptor (CRN_NEED_DESC), so the NULL
return that the callers assert against does not arise. -/
def extendInfoFromNode (desc : NodeDesc) (node : Node) (forDirectConnect : Bool) :
    ExtendInfo where
  identityDigest := node.identity
  onionKey := desc.onionKey node
  curve25519OnionKey := desc.curve25519OnionKey node
  addrFamily := if forDirectConnect then desc.prefAddrFamily node else .inet

/-- The selectors of onion_pick_cpath_exit and onion_extend_cpath: the exit from
choose_good_exit_server, the entry from choose_good_entry_server with the preferred address
on a client, a middle hop from choose_good_middle_server. -/
def nodeSelectors (env : NodeEnv) (desc : NodeDesc) (serverMode : Bool)
    (chooseGoodExitServer : Purpose → CpathBuildState → Option Node) : Selectors where
  exit := fun purpose state =>
    (chooseGoodExitServer purpose state).map (extendInfoFromNode desc · false)
  entry := fun purpose state =>
    (chooseGoodEntryServer env purpose (some state)).map (extendInfoFromNode desc · !serverMode)
  middle := fun _ state cpath curLen =>
    (chooseGoodMiddleServer env state cpath curLen).map (extendInfoFromNode desc · false)

/-- Two hops apart: different relays and, when both are listed, neither in the other's
family. -/
def Apart (env : NodeEnv) (a b : ExtendInfo) : Prop :=
  a.identityDigest ≠ b.identityDigest ∧ ∀ ra rb, nodeGetById env a.identityDigest = some ra →
    nodeGetById env b.identityDigest = some rb → ra ∉ env.family rb ∧ rb ∉ env.family ra

theorem Apart.symm {env : NodeEnv} {a b : ExtendInfo} (h : Apart env a b) : Apart env b a :=
  ⟨h.1.symm, fun rb ra hb ha => (h.2 ra rb ha hb).symm⟩

/-- What the code outside this file guarantees: identities are unique among the listed nodes;
families are mutual (nodelist_add_node_and_family adds a declared family member only if it
declares the node back, and subnets and configured families are symmetric);
router_choose_random_node returns a listed node outside its exclusion list; and the guard
store's entry (choose_random_entry) is listed and avoids the chosen exit and its family. -/
structure DirectoryOk (env : NodeEnv) : Prop where
  nodup : (env.nodes.map (·.identity)).Nodup
  familySymm : ∀ a b, a ∈ env.family b → b ∈ env.family a
  choosesOutside : ∀ excluded rs flags node,
    env.routerChooseRandomNode excluded rs flags = some node → node ∈ env.nodes ∧ node ∉ excluded
  entryAvoids : ∀ st node, env.chooseRandomEntry st = some node → node ∈ env.nodes ∧
    ∀ e, buildStateGetExitNode env st = some e → node ≠ e ∧ node ∉ env.family e

section Choices

variable {env : NodeEnv}

theorem nodeGetById_of_mem (hnodup : (env.nodes.map (·.identity)).Nodup) {n : Node}
    (hn : n ∈ env.nodes) : nodeGetById env n.identity = some n := by
  have hsome : (env.nodes.find? (·.identity = n.identity)).isSome :=
    List.find?_isSome.mpr ⟨n, hn, by simp⟩
  obtain ⟨m, hm⟩ := Option.isSome_iff_exists.mp hsome
  have hid : m.identity = n.identity := by simpa using List.find?_some hm
  rw [nodeGetById, hm, List.inj_on_of_nodup_map hnodup (List.mem_of_find?_eq_some hm) hn hid]

theorem avoids_of_not_mem {excluded : List Node} {n x : Node} (hnot : n ∉ excluded)
    (hsub : ∀ m, m = x ∨ m ∈ env.family x → m ∈ excluded) : n ≠ x ∧ n ∉ env.family x :=
  ⟨fun h => hnot (hsub _ (.inl h)), fun h => hnot (hsub _ (.inr h))⟩

theorem DirectoryOk.apart (hdir : DirectoryOk env) {n : Node} (hn : n ∈ env.nodes)
    {a : ExtendInfo}
    (havoid : ∀ r, nodeGetById env a.identityDigest = some r → n ≠ r ∧ n ∉ env.family r)
    (b : ExtendInfo) (hb : b.identityDigest = n.identity) : Apart env a b := by
  have hget := nodeGetById_of_mem hdir.nodup hn
  refine ⟨fun hid => (havoid n (by rw [hid, hb, hget])).1 rfl, fun ra rb ha hrb => ?_⟩
  rw [hb, hget] at hrb
  cases hrb
  exact ⟨fun h => (havoid ra ha).2 (hdir.familySymm _ _ h), (havoid ra ha).2⟩

theorem chooseGoodMiddleServer_avoids (hdir : DirectoryOk env) {state : CpathBuildState}
    {hops : List CryptPath} {n : Node}
    (h : chooseGoodMiddleServer env state hops hops.length = some n) :
    n ∈ env.nodes ∧ (∀ e, buildStateGetExitNode env state = some e → n ≠ e ∧ n ∉ env.family e) ∧
      ∀ hop ∈ hops, ∀ r, nodeGetById env hop.extendInfo.identityDigest = some r →
        n ≠ r ∧ n ∉ env.family r := by
  obtain ⟨hmem, hnot⟩ := hdir.choosesOutside _ _ _ _ h
  obtain ⟨hsub, hfold⟩ := foldl_addKnown env
    (fun hop : CryptPath => nodeGetById env hop.extendInfo.identityDigest) (hops.take hops.length)
    (addKnown env [] (buildStateGetExitNode env state))
  refine ⟨hmem, fun e he => avoids_of_not_mem hnot fun m hm => hsub ?_,
    fun hop hop_mem r hr => avoids_of_not_mem hnot (hfold hop (by simpa using hop_mem) r hr)⟩
  rw [he]
  exact mem_addKnown env [] m hm

theorem chooseGoodEntryServer_avoids (hdir : DirectoryOk env) {purpose : Purpose}
    {st : CpathBuildState} {n : Node} (h : chooseGoodEntryServer env purpose (some st) = some n) :
    n ∈ env.nodes ∧ ∀ e, buildStateGetExitNode env st = some e → n ≠ e ∧ n ∉ env.family e := by
  unfold chooseGoodEntryServer at h
  split_ifs at h
  · exact hdir.entryAvoids st n h
  · obtain ⟨hmem, hnot⟩ := hdir.choosesOutside _ _ _ _ h
    refine ⟨hmem, fun e he => avoids_of_not_mem hnot fun m hm => ?_⟩
    have hbase : m ∈ addKnown env [] ((some st).bind (buildStateGetExitNode env)) := by
      rw [Option.some_bind, he]
      exact mem_addKnown env [] m hm
    have hwall : m ∈ if env.firewallIsFascistOr = true
        then addKnown env [] ((some st).bind (buildStateGetExitNode env)) ++
          env.nodes.filter (fun node => !env.fascistFirewallAllowsNode node)
        else addKnown env [] ((some st).bind (buildStateGetExitNode env)) := by
      split
      · exact List.mem_append_left _ hbase
      · exact hbase
    split
    · exact (foldl_addKnown env (nodeGetById env) env.entryGuards _).1 hwall
    · exact hwall

end Choices

/-! ## The populate loop -/

section Loop

variable {env : NodeEnv} {desc : NodeDesc} {serverMode : Bool}
  {chooseExit : Purpose → CpathBuildState → Option Node} {purpose : Purpose}
  {state : CpathBuildState}

/-- What the populate loop keeps: the hops so far pairwise apart and, while the exit is still
to come, each apart from it. -/
def PathApart (env : NodeEnv) (state : CpathBuildState) (hops : List CryptPath) : Prop :=
  (hops.map (·.extendInfo)).Pairwise (Apart env) ∧
    (hops.length < state.desiredPathLen → ∀ e, state.chosenExit = some e →
      ∀ a ∈ hops.map (·.extendInfo), Apart env a e)

theorem map_extendInfo_onionAppendHop (hops : List CryptPath) (info : ExtendInfo) :
    (onionAppendHop hops info).map (·.extendInfo) = hops.map (·.extendInfo) ++ [info] := by
  simp [onionAppendHop]

theorem pairwise_snoc_apart {l : List ExtendInfo} {b : ExtendInfo} (hl : l.Pairwise (Apart env))
    (hb : ∀ a ∈ l, Apart env a b) : (l ++ [b]).Pairwise (Apart env) :=
  List.pairwise_append.mpr ⟨hl, List.pairwise_singleton _ _, fun a ha b' hb' => by
    rw [List.mem_singleton] at hb'
    exact hb' ▸ hb a ha⟩

theorem PathApart.snoc (hdir : DirectoryOk env) {hops : List CryptPath} {info : ExtendInfo}
    (hinv : PathApart env state hops) (hlen : hops.length < state.desiredPathLen)
    (hchoice : hopChoice (nodeSelectors env desc serverMode chooseExit) purpose state hops =
      some info) :
    PathApart env state (onionAppendHop hops info) := by
  obtain ⟨hpair, hexit⟩ := hinv
  rw [PathApart, map_extendInfo_onionAppendHop]
  unfold hopChoice at hchoice
  split_ifs at hchoice with hlast hfirst
  · -- the exit, which completes the path
    refine ⟨pairwise_snoc_apart hpair fun a ha => hexit hlen info hchoice a ha, fun h => ?_⟩
    simp only [onionAppendHop, List.length_append, List.length_singleton] at h
    omega
  · -- the entry, on an empty cpath
    obtain ⟨n, hn, rfl⟩ := Option.map_eq_some'.mp hchoice
    obtain ⟨hmem, havoid⟩ := chooseGoodEntryServer_avoids hdir hn
    rw [List.length_eq_zero.mp hfirst]
    refine ⟨List.pairwise_singleton _ _, fun _ e he a ha => ?_⟩
    rw [List.map_nil, List.nil_append, List.mem_singleton] at ha
    subst ha
    exact (hdir.apart hmem (fun r hr => havoid r (by simp [buildStateGetExitNode, he, hr])) _
      rfl).symm
  · -- a middle hop
    obtain ⟨n, hn, rfl⟩ := Option.map_eq_some'.mp hchoice
    obtain ⟨hmem, havoidExit, havoidHops⟩ := chooseGoodMiddleServer_avoids hdir hn
    refine ⟨pairwise_snoc_apart hpair fun a ha => ?_, fun _ e he a ha => ?_⟩
    · obtain ⟨hop, hhop, rfl⟩ := List.mem_map.mp ha
      exact hdir.apart hmem (havoidHops hop hhop) _ rfl
    · rw [List.mem_append, List.mem_singleton] at ha
      rcases ha with ha | rfl
      · exact hexit hlen e he a ha
      · exact (hdir.apart hmem (fun r hr => havoidExit r (by
          simp [buildStateGetExitNode, he, hr])) _ rfl).symm

end Loop

end TorCircuitBuild.NodeChoice
