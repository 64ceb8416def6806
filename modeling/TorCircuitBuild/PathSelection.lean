import TorCircuitBuild.Types
import Mathlib.Order.Basic

set_option autoImplicit false

/-!
# Choosing the route of a new circuit

`circuit_establish_circuit` first fixes the route length and the exit
(`onion_pick_cpath_exit`), then loops over `onion_extend_cpath` until it answers 1. The node
choices themselves are the selectors below; `NodeChoice` and `ExitChoice` model them.
-/

namespace TorCircuitBuild.PathSelection

def defaultRouteLen : ℕ := 3

/-- The node choices that path selection delegates, each followed by
extend_info_from_node: choose_good_exit_server, choose_good_entry_server and
choose_good_middle_server (which also reads the cpath built so far and its length). -/
structure Selectors where
  exit : Purpose → CpathBuildState → Option ExtendInfo
  entry : Purpose → CpathBuildState → Option ExtendInfo
  middle : Purpose → CpathBuildState → List CryptPath → ℕ → Option ExtendInfo

structure LaunchFlags where
  onehopTunnel : Bool
  needUptime : Bool
  needCapacity : Bool
  isInternal : Bool

def countAcceptableNodes (nodes : List Node) : ℕ :=
  nodes.countP fun node => node.isRunning && node.isValid && node.hasDescriptor

/-- The route length, none standing for the -1 answer. -/
def newRouteLen (purpose : Purpose) (exit : Option ExtendInfo) (nodes : List Node) : Option ℕ :=
  let routelen := defaultRouteLen +
    if exit.isSome ∧ purpose ≠ .testing ∧ purpose ≠ .sEstablishIntro then 1 else 0
  let num := countAcceptableNodes nodes
  if num < 2 then none
  else if num < routelen then some num
  else some routelen

def originCircuitInit (purpose : Purpose) (flags : LaunchFlags) : OriginCircuit where
  purpose := purpose
  state := .chanWait
  markedForClose := false
  cpath := []
  buildState :=
    { desiredPathLen := 0
      onehopTunnel := flags.onehopTunnel
      needUptime := flags.needUptime
      needCapacity := flags.needCapacity
      isInternal := flags.isInternal
      chosenExit := none }
  hasOpened := false
  pathState := .newCirc
  pathbiasProbeId := 0
  pathbiasProbeNonce := 0

/-- The length onion_pick_cpath_exit settles on; none when it gives up. -/
def pickRouteLen (circ : OriginCircuit) (exit : Option ExtendInfo) (nodes : List Node) :
    Option ℕ :=
  if circ.buildState.onehopTunnel then some 1
  else match newRouteLen circ.purpose exit nodes with
    | some r => if r < 1 then none else some r
    | none => none

def onionPickCpathExit (sel : Selectors) (nodes : List Node) (circ : OriginCircuit)
    (exit : Option ExtendInfo) : Option OriginCircuit :=
  (pickRouteLen circ exit nodes).bind fun len =>
    let state := { circ.buildState with desiredPathLen := len }
    let chosen := match exit with
      | some e => some e
      | none => sel.exit circ.purpose state
    chosen.map fun e => { circ with buildState := { state with chosenExit := some e } }

def onionAppendHop (cpath : List CryptPath) (choice : ExtendInfo) : List CryptPath :=
  cpath ++ [{ extendInfo := choice, state := .closed, handshakeState := none }]

/-- The extend info onion_extend_cpath picks for the hop after the given ones. -/
def hopChoice (sel : Selectors) (purpose : Purpose) (state : CpathBuildState)
    (cpath : List CryptPath) : Option ExtendInfo :=
  if cpath.length = state.desiredPathLen - 1 then state.chosenExit
  else if cpath.length = 0 then sel.entry purpose state
  else sel.middle purpose state cpath cpath.length

/-- One call: 1 when the path is complete, 0 after appending a hop, -1 on failure. -/
def onionExtendCpath (sel : Selectors) (circ : OriginCircuit) : ℤ × OriginCircuit :=
  if circ.buildState.desiredPathLen ≤ circ.cpath.length then (1, circ)
  else match hopChoice sel circ.purpose circ.buildState circ.cpath with
    | none => (-1, circ)
    | some info => (0, { circ with cpath := onionAppendHop circ.cpath info })

/-- The again-loop of onion_populate_cpath with explicit fuel; none means it was still
looping when the fuel ran out. -/
def onionPopulateCpath (sel : Selectors) : ℕ → OriginCircuit → Option (ℤ × OriginCircuit)
  | 0, _ => none
  | fuel + 1, circ =>
    let r := onionExtendCpath sel circ
    if r.1 < 0 then some (-1, r.2)
    else if r.1 = 0 then onionPopulateCpath sel fuel r.2
    else some (0, r.2)

inductive PathResult
  | noPath
  | built (circ : OriginCircuit)
  | running

/-- The path part of circuit_establish_circuit, with the populate loop given
desired_path_len + 1 passes. -/
def circuitEstablishPath (sel : Selectors) (nodes : List Node) (purpose : Purpose)
    (exit : Option ExtendInfo) (flags : LaunchFlags) : PathResult :=
  match onionPickCpathExit sel nodes (originCircuitInit purpose flags) exit with
  | none => .noPath
  | some circ =>
    match onionPopulateCpath sel (circ.buildState.desiredPathLen + 1) circ with
    | none => .running
    | some (r, circ) => if r < 0 then .noPath else .built circ

def circuitAppendNewExit (circ : OriginCircuit) (exit : ExtendInfo) : OriginCircuit :=
  { circ with
    buildState := { circ.buildState with
      chosenExit := some exit
      desiredPathLen := circ.buildState.desiredPathLen + 1 }
    cpath := onionAppendHop circ.cpath exit }

/-- The route length the spec states: one hop for a tunnel, otherwise three, plus one for a
given exit outside testing and intro establishment, clamped to the acceptable nodes. -/
def specRouteLen (flags : LaunchFlags) (purpose : Purpose) (exit : Option ExtendInfo)
    (nodes : List Node) : ℕ :=
  if flags.onehopTunnel then 1
  else min (3 + if exit.isSome ∧ purpose ≠ .testing ∧ purpose ≠ .sEstablishIntro then 1 else 0)
    (countAcceptableNodes nodes)

/-- Hops appended one at a time, each closed and holding the choice made for its position. -/
inductive Chosen (sel : Selectors) (purpose : Purpose) (state : CpathBuildState) :
    List CryptPath → Prop
  | nil : Chosen sel purpose state []
  | snoc {hops : List CryptPath} {info : ExtendInfo} : Chosen sel purpose state hops →
      hopChoice sel purpose state hops = some info →
      Chosen sel purpose state (onionAppendHop hops info)

section Spec

variable {sel : Selectors} {purpose : Purpose} {state : CpathBuildState}

theorem Chosen.getElem {hops : List CryptPath} (h : Chosen sel purpose state hops) :
    ∀ k (hk : k < hops.length), hops[k].state = .closed ∧
      hopChoice sel purpose state (hops.take k) = some hops[k].extendInfo := by
  induction h with
  | nil => intro k hk; simp at hk
  | @snoc hops info _ hinfo ih =>
    intro k hk
    simp only [onionAppendHop, List.length_append, List.length_singleton] at hk
    rcases Nat.lt_succ_iff_lt_or_eq.mp hk with hk | rfl
    · simp only [onionAppendHop, List.getElem_append_left hk, List.take_append_of_le_length hk.le]
      exact ih k hk
    · simp [onionAppendHop, hinfo]

theorem onionExtendCpath_complete (circ : OriginCircuit)
    (h : circ.buildState.desiredPathLen ≤ circ.cpath.length) :
    onionExtendCpath sel circ = (1, circ) := by
  simp [onionExtendCpath, h]

theorem onionExtendCpath_extend (circ : OriginCircuit)
    (h : circ.cpath.length < circ.buildState.desiredPathLen) :
    onionExtendCpath sel circ =
      match hopChoice sel circ.purpose circ.buildState circ.cpath with
      | none => (-1, circ)
      | some info => (0, { circ with cpath := onionAppendHop circ.cpath info }) := by
  simp [onionExtendCpath, Nat.not_le.mpr h]

theorem onionPopulateCpath_spec (fuel : ℕ) :
    ∀ circ : OriginCircuit, Chosen sel circ.purpose circ.buildState circ.cpath →
      circ.cpath.length ≤ circ.buildState.desiredPathLen →
      circ.buildState.desiredPathLen - circ.cpath.length < fuel →
      ∃ r hops, onionPopulateCpath sel fuel circ = some (r, { circ with cpath := hops }) ∧
        (r = -1 ∨ r = 0 ∧ hops.length = circ.buildState.desiredPathLen ∧
          Chosen sel circ.purpose circ.buildState hops) := by
  induction fuel with
  | zero => intro circ _ _ h; omega
  | succ fuel ih =>
    intro circ hc hle hfuel
    rcases Nat.lt_or_ge circ.cpath.length circ.buildState.desiredPathLen with hlt | hge
    · have hstep := @onionExtendCpath_extend sel circ hlt
      cases hchoice : hopChoice sel circ.purpose circ.buildState circ.cpath with
      | none =>
        rw [hchoice] at hstep
        exact ⟨-1, circ.cpath, by simp [onionPopulateCpath, hstep], .inl rfl⟩
      | some info =>
        rw [hchoice] at hstep
        obtain ⟨r, hops, hrun, hres⟩ := ih { circ with cpath := onionAppendHop circ.cpath info }
          (hc.snoc hchoice) (by simp [onionAppendHop]; omega) (by simp [onionAppendHop]; omega)
        exact ⟨r, hops, by simpa [onionPopulateCpath, hstep] using hrun, hres⟩
    · exact ⟨0, circ.cpath, by simp [onionPopulateCpath, onionExtendCpath_complete circ hge],
        .inr ⟨rfl, by omega, hc⟩⟩

theorem newRouteLen_eq (purpose : Purpose) (exit : Option ExtendInfo) (nodes : List Node) :
    newRouteLen purpose exit nodes =
      if countAcceptableNodes nodes < 2 then none
      else some (min (3 + if exit.isSome ∧ purpose ≠ .testing ∧ purpose ≠ .sEstablishIntro
        then 1 else 0) (countAcceptableNodes nodes)) := by
  unfold newRouteLen defaultRouteLen
  dsimp only
  split_ifs <;> simp only [Option.some.injEq] <;> omega

theorem pickRouteLen_init (flags : LaunchFlags) (exit : Option ExtendInfo) (nodes : List Node) :
    pickRouteLen (originCircuitInit purpose flags) exit nodes =
      if flags.onehopTunnel = false ∧ countAcceptableNodes nodes < 2 then none
      else some (specRouteLen flags purpose exit nodes) := by
  unfold pickRouteLen specRouteLen
  cases hf : flags.onehopTunnel
  · simp only [originCircuitInit, hf, Bool.false_eq_true, ite_false, true_and, newRouteLen_eq]
    generalize (if exit.isSome = true ∧ purpose ≠ .testing ∧ purpose ≠ .sEstablishIntro
      then 1 else 0) = c
    by_cases h : countAcceptableNodes nodes < 2
    · simp [h]
    · simp only [h, ite_false]
      rw [if_neg (by omega)]
  · simp [originCircuitInit, hf]

theorem specRouteLen_pos {flags : LaunchFlags} {exit : Option ExtendInfo} {nodes : List Node}
    (h : ¬(flags.onehopTunnel = false ∧ countAcceptableNodes nodes < 2)) :
    1 ≤ specRouteLen flags purpose exit nodes := by
  unfold specRouteLen
  split
  · exact le_rfl
  · exact le_min (by omega) (by simp_all; omega)

theorem onionPickCpathExit_spec (nodes : List Node) (flags : LaunchFlags)
    (exit : Option ExtendInfo) (circ : OriginCircuit)
    (h : onionPickCpathExit sel nodes (originCircuitInit purpose flags) exit = some circ) :
    circ.purpose = purpose ∧ circ.cpath = [] ∧
      circ.buildState.desiredPathLen = specRouteLen flags purpose exit nodes ∧
      1 ≤ circ.buildState.desiredPathLen ∧ circ.buildState.chosenExit.isSome := by
  simp only [onionPickCpathExit, Option.bind_eq_some, Option.map_eq_some'] at h
  obtain ⟨len, hlen, e, -, rfl⟩ := h
  rw [pickRouteLen_init] at hlen
  split at hlen
  · cases hlen
  · cases hlen; exact ⟨rfl, rfl, rfl, specRouteLen_pos ‹_›, rfl⟩

theorem onionPickCpathExit_init (nodes : List Node) (flags : LaunchFlags)
    (exit : Option ExtendInfo) (circ : OriginCircuit)
    (h : onionPickCpathExit sel nodes (originCircuitInit purpose flags) exit = some circ) :
    circ = { originCircuitInit purpose flags with buildState := circ.buildState } ∧
      circ.buildState.onehopTunnel = flags.onehopTunnel ∧
      (flags.onehopTunnel = false → 2 ≤ circ.buildState.desiredPathLen) := by
  have hlen := (onionPickCpathExit_spec nodes flags exit circ h).2.2.1
  simp only [onionPickCpathExit, Option.bind_eq_some, Option.map_eq_some'] at h
  obtain ⟨len, hpick, e, -, rfl⟩ := h
  rw [pickRouteLen_init] at hpick
  refine ⟨rfl, rfl, fun hone => ?_⟩
  split at hpick
  · cases hpick
  · rename_i hfew
    rw [hlen]
    simp only [specRouteLen, hone, Bool.false_eq_true, ite_false]
    exact le_min (by omega) (by simp_all)

theorem circuitEstablishPath_eq_built {nodes : List Node} {exit : Option ExtendInfo}
    {flags : LaunchFlags} {circ : OriginCircuit}
    (h : circuitEstablishPath sel nodes purpose exit flags = .built circ) :
    ∃ start hops, onionPickCpathExit sel nodes (originCircuitInit purpose flags) exit = some start ∧
      circ = { start with cpath := hops } ∧ hops.length = start.buildState.desiredPathLen ∧
      Chosen sel start.purpose start.buildState hops := by
  unfold circuitEstablishPath at h
  split at h
  · cases h
  rename_i start hpick
  obtain ⟨-, hnil, -⟩ := onionPickCpathExit_spec nodes flags exit start hpick
  obtain ⟨r, hops, hrun, hres⟩ := @onionPopulateCpath_spec sel
    (start.buildState.desiredPathLen + 1) start (by rw [hnil]; exact .nil) (by simp [hnil])
    (by simp [hnil])
  rw [hrun] at h
  dsimp only at h
  split at h
  · cases h
  cases h
  obtain ⟨-, hhops, hchosen⟩ := hres.resolve_left (by omega)
  exact ⟨start, hops, hpick, rfl, hhops, hchosen⟩

/-- What the build machine relies on: a built circuit is a fresh one from
origin_circuit_init, with as many hops as desired, all closed, and at least two unless it is
a one-hop tunnel. -/
theorem circuitEstablishPath_built {nodes : List Node} {exit : Option ExtendInfo}
    {flags : LaunchFlags} {circ : OriginCircuit}
    (h : circuitEstablishPath sel nodes purpose exit flags = .built circ) :
    circ = { originCircuitInit purpose flags with
      cpath := circ.cpath, buildState := circ.buildState } ∧
      circ.buildState.onehopTunnel = flags.onehopTunnel ∧
      circ.cpath.length = circ.buildState.desiredPathLen ∧
      (∀ hop ∈ circ.cpath, hop.state = .closed) ∧
      1 ≤ circ.buildState.desiredPathLen ∧
      (flags.onehopTunnel = false → 2 ≤ circ.buildState.desiredPathLen) := by
  obtain ⟨start, hops, hpick, rfl, hlen, hchosen⟩ := circuitEstablishPath_eq_built h
  obtain ⟨hinit, hone, htwo⟩ := onionPickCpathExit_init nodes flags exit start hpick
  obtain ⟨-, -, -, hpos, -⟩ := onionPickCpathExit_spec nodes flags exit start hpick
  refine ⟨?_, hone, hlen, fun hop hmem => ?_, hpos, htwo⟩
  · rw [hinit]
  · obtain ⟨k, hk, rfl⟩ := List.getElem_of_mem hmem
    exact (hchosen.getElem k hk).1

theorem circuitAppendNewExit_spec (circ : OriginCircuit) (exit : ExtendInfo)
    (hlen : circ.cpath.length = circ.buildState.desiredPathLen) :
    (circuitAppendNewExit circ exit).cpath.length =
        (circuitAppendNewExit circ exit).buildState.desiredPathLen ∧
      (circuitAppendNewExit circ exit).cpath.getLast?.map (·.extendInfo) =
        (circuitAppendNewExit circ exit).buildState.chosenExit := by
  simp [circuitAppendNewExit, onionAppendHop, hlen]

end Spec

/-- Path selection always finishes. It fails when a multi-hop circuit has fewer than two
acceptable nodes; when it succeeds the cpath holds exactly the stated number of closed hops,
ending at the chosen exit, starting at the entry choice and with middle choices between.
Appending a new exit later keeps length and exit in step. -/
theorem circuitEstablishPath_spec (sel : Selectors) (nodes : List Node) (purpose : Purpose)
    (exit : Option ExtendInfo) (flags : LaunchFlags) :
    circuitEstablishPath sel nodes purpose exit flags ≠ .running ∧
    (flags.onehopTunnel = false → countAcceptableNodes nodes < 2 →
      circuitEstablishPath sel nodes purpose exit flags = .noPath) ∧
    (∀ circ, circuitEstablishPath sel nodes purpose exit flags = .built circ →
      circ.buildState.desiredPathLen = specRouteLen flags purpose exit nodes ∧
      circ.cpath.length = specRouteLen flags purpose exit nodes ∧
      (∀ hop ∈ circ.cpath, hop.state = .closed) ∧
      circ.cpath.getLast?.map (·.extendInfo) = circ.buildState.chosenExit ∧
      (2 ≤ specRouteLen flags purpose exit nodes →
        circ.cpath.head?.map (·.extendInfo) = sel.entry purpose circ.buildState) ∧
      (∀ k, 0 < k → k < specRouteLen flags purpose exit nodes - 1 →
        circ.cpath[k]?.map (·.extendInfo) =
          sel.middle purpose circ.buildState (circ.cpath.take k) k)) ∧
    (∀ (circ : OriginCircuit) (e : ExtendInfo),
      circ.cpath.length = circ.buildState.desiredPathLen →
      circ.cpath.getLast?.map (·.extendInfo) = circ.buildState.chosenExit →
      (circuitAppendNewExit circ e).cpath.length =
          (circuitAppendNewExit circ e).buildState.desiredPathLen ∧
        (circuitAppendNewExit circ e).cpath.getLast?.map (·.extendInfo) =
          (circuitAppendNewExit circ e).buildState.chosenExit) := by
  refine ⟨?_, ?_, ?_, fun circ e hlen _ => circuitAppendNewExit_spec circ e hlen⟩
  · unfold circuitEstablishPath
    split
    · simp
    · rename_i circ hpick
      obtain ⟨-, hnil, -⟩ := onionPickCpathExit_spec nodes flags exit circ hpick
      obtain ⟨r, hops, hrun, -⟩ := @onionPopulateCpath_spec sel
        (circ.buildState.desiredPathLen + 1) circ (by rw [hnil]; exact .nil) (by simp [hnil])
        (by simp [hnil])
      rw [hrun]
      dsimp only
      split <;> simp
  · intro hone hfew
    simp [circuitEstablishPath, onionPickCpathExit, pickRouteLen_init, hone, hfew]
  · intro built hbuilt
    obtain ⟨circ, hops, hpick, rfl, hhops, hchosen⟩ := circuitEstablishPath_eq_built hbuilt
    obtain ⟨hpur, -, hlen, hpos, -⟩ := onionPickCpathExit_spec nodes flags exit circ hpick
    simp only [hpur] at hchosen
    have hget := hchosen.getElem
    rw [← hlen]
    dsimp only
    refine ⟨rfl, hhops, fun hop hmem => ?_, ?_, fun h2 => ?_, fun k hk hk' => ?_⟩
    · obtain ⟨k, hk, rfl⟩ := List.getElem_of_mem hmem
      exact (hget k hk).1
    · have h := (hget (circ.buildState.desiredPathLen - 1) (by omega)).2
      rw [hopChoice, if_pos (by simp [hhops])] at h
      rw [List.getLast?_eq_getElem?, hhops, List.getElem?_eq_getElem (by omega), Option.map_some']
      exact h.symm
    · have h := (hget 0 (by omega)).2
      rw [hopChoice, if_neg (by simp; omega), if_pos (by simp)] at h
      rw [List.head?_eq_getElem?, List.getElem?_eq_getElem (by omega), Option.map_some']
      exact h.symm
    · have h := (hget k (by omega)).2
      rw [hopChoice, if_neg (by simp [hhops]; omega), if_neg (by simp [hhops]; omega)] at h
      rw [List.getElem?_eq_getElem (by omega), Option.map_some']
      simpa [hhops, Nat.min_eq_left (by omega : k ≤ circ.buildState.desiredPathLen)] using h.symm

/-- Selectors that take relay 3 as exit, relay 1 as entry and relay 2 for every middle hop. -/
def fixedSelectors : Selectors where
  exit _ _ := some (hopAt 3 .closed).extendInfo
  entry _ _ := some (hopAt 1 .closed).extendInfo
  middle _ _ _ _ := some (hopAt 2 .closed).extendInfo

/-- With three acceptable relays the general circuit gets three closed hops, entry first and
the chosen exit last. -/
example : circuitEstablishPath fixedSelectors [relayNode 1, relayNode 2, relayNode 3]
    .cGeneral none ⟨false, false, false, false⟩ =
    .built { originCircuitInit .cGeneral ⟨false, false, false, false⟩ with
      cpath := [hopAt 1 .closed, hopAt 2 .closed, hopAt 3 .closed]
      buildState := { (originCircuitInit .cGeneral ⟨false, false, false, false⟩).buildState with
        desiredPathLen := 3
        chosenExit := some (hopAt 3 .closed).extendInfo } } := rfl

end TorCircuitBuild.PathSelection
