import TorCircuitBuild.Types

set_option autoImplicit false

/-!
# Entry and middle choices

`choose_good_middle_server` and `choose_good_entry_server` build an exclusion list and hand
it to `router_choose_random_node`. The node list, the declared families and the random
choice are the directory's; the guard list is the guard store's.
-/

namespace TorCircuitBuild.NodeChoice

abbrev RouterSet := Node → Bool

/-- The CRN_* flags passed to router_choose_random_node. -/
structure CrnFlags where
  needUptime : Bool
  needCapacity : Bool
  needGuard : Bool
  needDesc : Bool
  allowInvalid : Bool
  deriving DecidableEq, Repr

/-- What the two choices read from the node directory, the guard store and the options. -/
structure NodeEnv where
  nodes : List Node
  family : Node → List Node
  routerChooseRandomNode : List Node → RouterSet → CrnFlags → Option Node
  chooseRandomEntry : CpathBuildState → Option Node
  entryGuards : List Digest
  useEntryGuards : Bool
  bridgeRelay : Bool
  allowInvalidEntry : Bool
  allowInvalidMiddle : Bool
  excludeNodes : RouterSet
  firewallIsFascistOr : Bool
  fascistFirewallAllowsNode : Node → Bool

/-- Modelled from the spec: node_get_by_id, the listed node with that identity. -/
def nodeGetById (env : NodeEnv) (d : Digest) : Option Node := env.nodes.find? (·.identity = d)

/-- Modelled from the spec: nodelist_add_node_and_family adds the node and the members of
its family. -/
def nodelistAddNodeAndFamily (env : NodeEnv) (sl : List Node) (node : Node) : List Node :=
  sl ++ node :: env.family node

def buildStateGetExitNode (env : NodeEnv) (state : CpathBuildState) : Option Node :=
  state.chosenExit.bind fun e => nodeGetById env e.identityDigest

/-- Adds a known node and its family; an unknown one adds nothing. -/
def addKnown (env : NodeEnv) (sl : List Node) : Option Node → List Node
  | some r => nodelistAddNodeAndFamily env sl r
  | none => sl

def chooseGoodMiddleServer (env : NodeEnv) (state : CpathBuildState)
    (head : List CryptPath) (curLen : ℕ) : Option Node :=
  let excluded := addKnown env [] (buildStateGetExitNode env state)
  let excluded := (head.take curLen).foldl
    (fun sl hop => addKnown env sl (nodeGetById env hop.extendInfo.identityDigest)) excluded
  let flags : CrnFlags :=
    { needUptime := state.needUptime, needCapacity := state.needCapacity, needGuard := false,
      needDesc := true, allowInvalid := env.allowInvalidMiddle }
  env.routerChooseRandomNode excluded env.excludeNodes flags

def chooseGoodEntryServer (env : NodeEnv) (purpose : Purpose) (state : Option CpathBuildState) :
    Option Node :=
  match state with
  | some st =>
    if env.useEntryGuards ∧ (purpose ≠ .testing ∨ env.bridgeRelay) then env.chooseRandomEntry st
    else entryByExclusion env (some st)
  | none => entryByExclusion env none
where
  entryByExclusion (env : NodeEnv) (state : Option CpathBuildState) : Option Node :=
    let excluded := addKnown env [] (state.bind (buildStateGetExitNode env))
    let excluded := if env.firewallIsFascistOr
      then excluded ++ env.nodes.filter (fun node => !env.fascistFirewallAllowsNode node)
      else excluded
    let excluded := if env.useEntryGuards
      then env.entryGuards.foldl (fun sl g => addKnown env sl (nodeGetById env g)) excluded
      else excluded
    let flags : CrnFlags :=
      { needUptime := state.any (·.needUptime), needCapacity := state.any (·.needCapacity),
        needGuard := true, needDesc := true, allowInvalid := env.allowInvalidEntry }
    env.routerChooseRandomNode excluded env.excludeNodes flags

section Exclusion

variable (env : NodeEnv)

theorem subset_addKnown (sl : List Node) (r : Option Node) : sl ⊆ addKnown env sl r := by
  cases r <;> simp [addKnown, nodelistAddNodeAndFamily]

theorem mem_addKnown (sl : List Node) {x : Node} (n : Node) (hn : n = x ∨ n ∈ env.family x) :
    n ∈ addKnown env sl (some x) := by
  rcases hn with rfl | hn <;> simp [addKnown, nodelistAddNodeAndFamily, *]

theorem foldl_addKnown {α : Type} (get : α → Option Node) (l : List α) :
    ∀ sl : List Node, sl ⊆ l.foldl (fun sl a => addKnown env sl (get a)) sl ∧
      ∀ a ∈ l, ∀ x, get a = some x → ∀ n, n = x ∨ n ∈ env.family x →
        n ∈ l.foldl (fun sl a => addKnown env sl (get a)) sl := by
  induction l with
  | nil => simp
  | cons a l ih =>
    intro sl
    obtain ⟨hsub, hmem⟩ := ih (addKnown env sl (get a))
    refine ⟨List.Subset.trans (subset_addKnown env sl _) hsub, fun b hb x hx n hn => ?_⟩
    rcases List.mem_cons.mp hb with rfl | hb
    · exact hsub (by rw [hx]; exact mem_addKnown env sl n hn)
    · exact hmem b hb x hx n hn

end Exclusion

/-- Among the hops this code chooses no relay repeats and no family meets itself: a middle
node avoids the exit and every earlier hop with their families, and an entry chosen without
the guard store avoids the exit with its family and, when entry guards are in use, every
current guard with its family. -/
theorem chooseGoodServer_excludes (env : NodeEnv)
    (hchoose : ∀ excluded rs flags node,
      env.routerChooseRandomNode excluded rs flags = some node → node ∉ excluded) :
    (∀ state cpath node, chooseGoodMiddleServer env state cpath cpath.length = some node →
      (∀ e, buildStateGetExitNode env state = some e → node ≠ e ∧ node ∉ env.family e) ∧
      (∀ hop ∈ cpath, ∀ r, nodeGetById env hop.extendInfo.identityDigest = some r →
        node ≠ r ∧ node ∉ env.family r)) ∧
    (∀ purpose state node, chooseGoodEntryServer env purpose state = some node →
      (state = none ∨ ¬(env.useEntryGuards = true ∧ (purpose ≠ .testing ∨ env.bridgeRelay = true))) →
      (∀ e, state.bind (buildStateGetExitNode env) = some e → node ≠ e ∧ node ∉ env.family e) ∧
      (env.useEntryGuards = true → ∀ g ∈ env.entryGuards, ∀ r, nodeGetById env g = some r →
        node ≠ r ∧ node ∉ env.family r)) := by
  have avoid : ∀ {excluded : List Node} {node x : Node}, node ∉ excluded →
      (∀ n, n = x ∨ n ∈ env.family x → n ∈ excluded) → node ≠ x ∧ node ∉ env.family x :=
    fun hnot hsub => ⟨fun h => hnot (hsub _ (.inl h)), fun h => hnot (hsub _ (.inr h))⟩
  refine ⟨fun state cpath node h => ?_, fun purpose state node h hstore => ?_⟩
  · have hnot := hchoose _ _ _ _ h
    obtain ⟨hsub, hmem⟩ := foldl_addKnown env
      (fun hop : CryptPath => nodeGetById env hop.extendInfo.identityDigest) (cpath.take cpath.length)
      (addKnown env [] (buildStateGetExitNode env state))
    refine ⟨fun e he => avoid hnot fun n hn => hsub ?_, fun hop hop_mem r hr => ?_⟩
    · rw [he]; exact mem_addKnown env [] n hn
    · exact avoid hnot fun n hn => hmem hop (by simpa using hop_mem) r hr n hn
  · have hex : chooseGoodEntryServer.entryByExclusion env state = some node := by
      rcases state with _ | st
      · exact h
      · simp only [Option.some_ne_none, false_or] at hstore
        simpa [chooseGoodEntryServer, hstore] using h
    have hnot := hchoose _ _ _ _ hex
    set base := addKnown env [] (state.bind (buildStateGetExitNode env))
    set walled := if env.firewallIsFascistOr
      then base ++ env.nodes.filter (fun node => !env.fascistFirewallAllowsNode node) else base
    have hbase : base ⊆ walled := by
      simp only [walled]; split
      · exact List.subset_append_left _ _
      · exact List.Subset.refl _
    obtain ⟨hsub, hmem⟩ := foldl_addKnown env (nodeGetById env) env.entryGuards walled
    refine ⟨fun e he => avoid hnot fun n hn => ?_, fun hguards g hg r hr => avoid hnot ?_⟩
    · have : n ∈ walled := hbase (by simp only [base]; rw [he]; exact mem_addKnown env [] n hn)
      split
      · exact hsub this
      · exact this
    · intro n hn
      simp only [chooseGoodEntryServer.entryByExclusion, hguards, ite_true]
      exact hmem g hg r hr n hn

/-- A running, valid guard with identity 1. -/
def guardNode : Node := ⟨1, true, true, true, false, true, true, true, true, false, false⟩

/-- One relay, which is also the only current entry guard, with entry guards turned off; the
random choice takes the first listed node outside the exclusion list. -/
def guardOnlyEnv : NodeEnv where
  nodes := [guardNode]
  family := fun _ => []
  routerChooseRandomNode := fun excluded _ _ => [guardNode].find? (· ∉ excluded)
  chooseRandomEntry := fun _ => none
  entryGuards := [1]
  useEntryGuards := false
  bridgeRelay := false
  allowInvalidEntry := false
  allowInvalidMiddle := false
  excludeNodes := fun _ => false
  firewallIsFascistOr := false
  fascistFirewallAllowsNode := fun _ => true

theorem guardOnlyEnv_chooses_outside (excluded : List Node) (rs : RouterSet) (flags : CrnFlags)
    (node : Node) (h : guardOnlyEnv.routerChooseRandomNode excluded rs flags = some node) :
    node ∉ excluded := by
  simpa using List.find?_some h

/-- Relays 1 to 5, where 1 and 2 are one family and 4 and 5 another; entry guards are in use
with relay 1 the one guard, and the random choice takes the first listed node outside the
exclusion list. -/
def familyEnv : NodeEnv where
  nodes := [1, 2, 3, 4, 5].map relayNode
  family := fun n =>
    if n.identity = 1 then [relayNode 2] else if n.identity = 2 then [relayNode 1]
    else if n.identity = 4 then [relayNode 5] else if n.identity = 5 then [relayNode 4] else []
  routerChooseRandomNode := fun excluded _ _ => ([1, 2, 3, 4, 5].map relayNode).find? (· ∉ excluded)
  chooseRandomEntry := fun _ => none
  entryGuards := [1]
  useEntryGuards := true
  bridgeRelay := false
  allowInvalidEntry := false
  allowInvalidMiddle := false
  excludeNodes := fun _ => false
  firewallIsFascistOr := false
  fascistFirewallAllowsNode := fun _ => true

/-- A three-hop build state whose chosen exit is relay 5. -/
def familyState : CpathBuildState := ⟨3, false, false, false, false, some ⟨5, true, true, .inet⟩⟩

theorem familyEnv_chooses_outside (excluded : List Node) (rs : RouterSet) (flags : CrnFlags)
    (node : Node) (h : familyEnv.routerChooseRandomNode excluded rs flags = some node) :
    node ∉ excluded := by
  simpa using List.find?_some h

/-- A testing circuit's entry avoids the exit 5 with its family member 4, and the guard 1 with
its family member 2: relay 3. A middle hop after entry 1 avoids 5, 4, 1 and 2: relay 3 again. -/
theorem familyEnv_excludes :
    (∀ excluded rs flags node,
      familyEnv.routerChooseRandomNode excluded rs flags = some node → node ∉ excluded) ∧
    chooseGoodEntryServer familyEnv .testing (some familyState) = some (relayNode 3) ∧
    chooseGoodMiddleServer familyEnv familyState [⟨⟨1, true, true, .inet⟩, .open, none⟩] 1 =
      some (relayNode 3) ∧
    (∀ state cpath node, chooseGoodMiddleServer familyEnv state cpath cpath.length = some node →
      (∀ e, buildStateGetExitNode familyEnv state = some e → node ≠ e ∧ node ∉ familyEnv.family e) ∧
      (∀ hop ∈ cpath, ∀ r, nodeGetById familyEnv hop.extendInfo.identityDigest = some r →
        node ≠ r ∧ node ∉ familyEnv.family r)) ∧
    (∀ purpose state node, chooseGoodEntryServer familyEnv purpose state = some node →
      (state = none ∨ ¬(familyEnv.useEntryGuards = true ∧
        (purpose ≠ .testing ∨ familyEnv.bridgeRelay = true))) →
      (∀ e, state.bind (buildStateGetExitNode familyEnv) = some e →
        node ≠ e ∧ node ∉ familyEnv.family e) ∧
      (familyEnv.useEntryGuards = true → ∀ g ∈ familyEnv.entryGuards, ∀ r,
        nodeGetById familyEnv g = some r → node ≠ r ∧ node ∉ familyEnv.family r)) :=
  ⟨familyEnv_chooses_outside, by decide, by decide,
    chooseGoodServer_excludes familyEnv familyEnv_chooses_outside⟩

/-- With entry guards turned off, the entry chosen without a build state is a current entry
guard. -/
theorem chooseGoodEntryServer_returns_guard :
    (∀ excluded rs flags node,
      guardOnlyEnv.routerChooseRandomNode excluded rs flags = some node → node ∉ excluded) ∧
    chooseGoodEntryServer guardOnlyEnv .cGeneral none = some guardNode ∧
    1 ∈ guardOnlyEnv.entryGuards ∧ nodeGetById guardOnlyEnv 1 = some guardNode :=
  ⟨guardOnlyEnv_chooses_outside, by decide, by decide, by decide⟩

end TorCircuitBuild.NodeChoice
