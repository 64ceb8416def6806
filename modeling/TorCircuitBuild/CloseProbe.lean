import TorCircuitBuild.Accountant

set_option autoImplicit false

/-!
# Closing a circuit, and the end-of-life probe

`circuit_mark_for_close` asks `pathbias_check_close` first. In USE_ATTEMPTED the check sends a
probe and answers -1, and the circuit stays open until the probe is answered or the circuit is
closed again. The probe goes out with `relay_send_command_from_edge`, which closes the circuit
itself when it fails, so a close can run inside a close; the nesting ends there, since the
inner check finds the probe outstanding and sends nothing.
-/

namespace TorCircuitBuild.PathBias

/-- What the probe reads from outside the circuit list. -/
structure ProbeOracle where
  /-- circ->n_chan is set and in CHANNEL_STATE_OPEN or CHANNEL_STATE_MAINT -/
  chanOpen : Bool
  /-- crypto_rand for the nonce -/
  rand : ℕ
  /-- get_unique_stream_id_by_circ, 0 when the stream ids ran out -/
  streamId : ℕ
  /-- relay_send_command_from_edge succeeded -/
  relayOk : Bool
  deriving DecidableEq, Repr

/-- What a close reads from outside the circuit list. -/
structure CloseOracle where
  /-- circ->n_chan is set and its reason_for_closing is not CHANNEL_CLOSE_REQUESTED -/
  chanClosedRemotely : Bool
  probe : ProbeOracle
  deriving DecidableEq, Repr

/-- Modelled from the spec and from the caller's comment in circuit_send_next_onion_skin
(a failed send leaves the circuit closed): relay_send_command_from_edge answers -1 after
closing the circuit with END_CIRC_REASON_INTERNAL, which `markForClose` does. -/
def relaySendCommandFromEdge (ok : Bool) (markForClose : Sys → Sys) (sys : Sys) : ℤ × Sys :=
  if ok then (0, sys) else (-1, markForClose sys)

section Close

variable (cfg : Config)

/-- 0 once the probe is sent, -1 when the circuit cannot be probed. -/
def pathbiasSendUsableProbe (markForClose : Sys → Sys) (sys : Sys) (i : ℕ) (o : ProbeOracle) :
    ℤ × Sys :=
  match sys.circuits[i]? with
  | none => (-1, sys)
  | some ocirc =>
    match ocirc.cpath.getLast? with
    | none => (-1, sys)
    | some cpathLayer =>
      if cpathLayer.state ≠ .open then (-1, sys)
      else if ocirc.purpose = .pathBiasTesting ∧ ocirc.pathbiasProbeId ≠ 0 then (-1, sys)
      else if !o.chanOpen then (-1, sys)
      else
        let sys := sys.modifyCirc i fun c =>
          { c with purpose := .pathBiasTesting, pathbiasProbeNonce := o.rand &&& 0xffffff,
                   pathbiasProbeId := o.streamId }
        if o.streamId = 0 then (-1, sys)
        else relaySendCommandFromEdge o.relayOk markForClose sys

/-- What pathbias_send_usable_probe can do: decline and leave everything as it was, or write
the probe fields into the circuit and then answer -1 (no stream id), -1 after the failed send
closed the circuit, or 0 once the probe is out, on an open last hop with a stream id. -/
theorem pathbiasSendUsableProbe_cases (markForClose : Sys → Sys) (sys : Sys) (i : ℕ)
    (o : ProbeOracle) :
    let probed := sys.modifyCirc i fun c =>
      { c with purpose := .pathBiasTesting, pathbiasProbeNonce := o.rand &&& 0xffffff,
               pathbiasProbeId := o.streamId }
    pathbiasSendUsableProbe markForClose sys i o = (-1, sys) ∨
      pathbiasSendUsableProbe markForClose sys i o = (-1, probed) ∨
      pathbiasSendUsableProbe markForClose sys i o = (-1, markForClose probed) ∨
      (∃ c layer, sys.circuits[i]? = some c ∧ c.cpath.getLast? = some layer ∧
        layer.state = .open ∧ o.streamId ≠ 0) ∧
        pathbiasSendUsableProbe markForClose sys i o = (0, probed) := by
  intro probed
  unfold pathbiasSendUsableProbe relaySendCommandFromEdge
  rcases hc : sys.circuits[i]? with _ | c
  · exact .inl rfl
  dsimp only
  rcases hl : c.cpath.getLast? with _ | layer
  · exact .inl rfl
  dsimp only
  by_cases hopen : layer.state = .open
  swap
  · exact .inl (if_pos hopen)
  rw [if_neg (not_not.mpr hopen)]
  by_cases hidle : c.purpose = .pathBiasTesting ∧ c.pathbiasProbeId ≠ 0
  · exact .inl (if_pos hidle)
  rw [if_neg hidle]
  cases hchan : o.chanOpen
  · exact .inl rfl
  by_cases hid : o.streamId = 0
  · exact .inr (.inl (if_pos hid))
  rw [if_neg hid]
  cases hok : o.relayOk
  · exact .inr (.inr (.inl rfl))
  · exact .inr (.inr (.inr ⟨⟨c, layer, rfl, hl, hopen, hid⟩, rfl⟩))

/-- 0 when the close goes ahead, -1 when it waits for a probe. -/
def pathbiasCheckClose (markForClose : Sys → Sys) (sys : Sys) (i : ℕ) (reason : CloseReason)
    (o : CloseOracle) : ℤ × Sys :=
  match sys.circuits[i]? with
  | none => (0, sys)
  | some ocirc =>
    if !pathbiasShouldCount cfg.options ocirc then (0, sys)
    else
      let counted := fun s : Sys => (0, s.setPathState i .alreadyCounted)
      match ocirc.pathState with
      | .buildSucceeded =>
        if reason.remote then counted (pathbiasCountCollapse cfg sys i)
        else if reason.reason = .channelClosed ∧ o.chanClosedRemotely then
          counted (pathbiasCountCollapse cfg sys i)
        else counted (pathbiasCountSuccessfulClose cfg sys i)
      | .useAttempted =>
        let (r, sys) := pathbiasSendUsableProbe markForClose sys i o.probe
        if r = 0 then (-1, sys) else counted (pathbiasCountUseFailed cfg sys i)
      | .useSucceeded =>
        counted (pathbiasCountUseSuccess cfg (pathbiasCountSuccessfulClose cfg sys i) i)
      | .useFailed => counted (pathbiasCountUseFailed cfg sys i)
      | _ => counted sys

/-- Modelled from the spec: circuit_mark_for_close. A marked circuit is left alone; otherwise
pathbias_check_close decides first, and -1 keeps the circuit open for its probe. `depth`
bounds the closes nested in a failed probe send. -/
def circuitMarkForCloseDepth : ℕ → Sys → ℕ → CloseReason → CloseOracle → Sys
  | 0, sys, _, _, _ => sys
  | depth + 1, sys, i, reason, o =>
    match sys.circuits[i]? with
    | none => sys
    | some circ =>
      if circ.markedForClose then sys
      else
        let (r, sys) := pathbiasCheckClose cfg
          (fun s => circuitMarkForCloseDepth depth s i ⟨.internal, false⟩ o) sys i reason o
        if r = -1 then sys else sys.modifyCirc i fun c => { c with markedForClose := true }

/-- A close nests at most once, so two levels are the whole recursion: every larger depth gives
the same close (`circuitMarkForCloseDepth_stable`, below). -/
def circuitMarkForClose (sys : Sys) (i : ℕ) (reason : CloseReason) (o : CloseOracle) : Sys :=
  circuitMarkForCloseDepth cfg 2 sys i reason o

theorem circuitMarkForCloseDepth_live (depth : ℕ) {sys : Sys} {i : ℕ} {c : OriginCircuit}
    (hc : sys.circuits[i]? = some c) (hlive : c.markedForClose = false) (reason : CloseReason)
    (o : CloseOracle) :
    circuitMarkForCloseDepth cfg (depth + 1) sys i reason o =
      let r := pathbiasCheckClose cfg
        (fun s => circuitMarkForCloseDepth cfg depth s i ⟨.internal, false⟩ o) sys i reason o
      if r.1 = -1 then r.2 else r.2.modifyCirc i fun c => { c with markedForClose := true } := by
  simp only [circuitMarkForCloseDepth, hc, hlive, Bool.false_eq_true, if_false]

theorem pathbiasSendUsableProbe_congr {m m' : Sys → Sys} {sys : Sys} {i : ℕ} {o : ProbeOracle}
    (h : ∀ c, sys.circuits[i]? = some c →
      ¬(c.purpose = .pathBiasTesting ∧ c.pathbiasProbeId ≠ 0) → o.streamId ≠ 0 →
      m (sys.modifyCirc i fun c =>
          { c with purpose := .pathBiasTesting, pathbiasProbeNonce := o.rand &&& 0xffffff,
                   pathbiasProbeId := o.streamId }) =
        m' (sys.modifyCirc i fun c =>
          { c with purpose := .pathBiasTesting, pathbiasProbeNonce := o.rand &&& 0xffffff,
                   pathbiasProbeId := o.streamId })) :
    pathbiasSendUsableProbe m sys i o = pathbiasSendUsableProbe m' sys i o := by
  unfold pathbiasSendUsableProbe relaySendCommandFromEdge
  rcases hc : sys.circuits[i]? with _ | c
  · rfl
  dsimp only
  rcases c.cpath.getLast? with _ | layer
  · rfl
  dsimp only
  split_ifs <;> first | rfl | rw [h c hc ‹_› ‹_›]

theorem pathbiasCheckClose_congr {m m' : Sys → Sys} {sys : Sys} {i : ℕ} {o : CloseOracle}
    (h : ∀ c, sys.circuits[i]? = some c →
      ¬(c.purpose = .pathBiasTesting ∧ c.pathbiasProbeId ≠ 0) → o.probe.streamId ≠ 0 →
      m (sys.modifyCirc i fun c =>
          { c with purpose := .pathBiasTesting, pathbiasProbeNonce := o.probe.rand &&& 0xffffff,
                   pathbiasProbeId := o.probe.streamId }) =
        m' (sys.modifyCirc i fun c =>
          { c with purpose := .pathBiasTesting, pathbiasProbeNonce := o.probe.rand &&& 0xffffff,
                   pathbiasProbeId := o.probe.streamId }))
    (reason : CloseReason) :
    pathbiasCheckClose cfg m sys i reason o = pathbiasCheckClose cfg m' sys i reason o := by
  unfold pathbiasCheckClose
  rw [pathbiasSendUsableProbe_congr h]

theorem circuitMarkForCloseDepth_succ_congr {a b : ℕ} {sys : Sys} {i : ℕ} {o : CloseOracle}
    (h : ∀ c, sys.circuits[i]? = some c →
      ¬(c.purpose = .pathBiasTesting ∧ c.pathbiasProbeId ≠ 0) → o.probe.streamId ≠ 0 →
      let probed := sys.modifyCirc i fun c =>
        { c with purpose := .pathBiasTesting, pathbiasProbeNonce := o.probe.rand &&& 0xffffff,
                 pathbiasProbeId := o.probe.streamId }
      circuitMarkForCloseDepth cfg a probed i ⟨.internal, false⟩ o =
        circuitMarkForCloseDepth cfg b probed i ⟨.internal, false⟩ o)
    (reason : CloseReason) :
    circuitMarkForCloseDepth cfg (a + 1) sys i reason o =
      circuitMarkForCloseDepth cfg (b + 1) sys i reason o := by
  rcases hc : sys.circuits[i]? with _ | c
  · simp only [circuitMarkForCloseDepth, hc]
  cases hlive : c.markedForClose
  · have hcheck : pathbiasCheckClose cfg (fun s => circuitMarkForCloseDepth cfg a s i
          ⟨.internal, false⟩ o) sys i reason o =
        pathbiasCheckClose cfg (fun s => circuitMarkForCloseDepth cfg b s i
          ⟨.internal, false⟩ o) sys i reason o :=
      pathbiasCheckClose_congr cfg h reason
    rw [circuitMarkForCloseDepth_live cfg a hc hlive, circuitMarkForCloseDepth_live cfg b hc hlive,
      hcheck]
  · simp only [circuitMarkForCloseDepth, hc, hlive, if_true]

theorem circuitMarkForCloseDepth_probing (k : ℕ) {sys : Sys} {i : ℕ}
    (hp : ∀ c, sys.circuits[i]? = some c → c.purpose = .pathBiasTesting ∧ c.pathbiasProbeId ≠ 0)
    (reason : CloseReason) (o : CloseOracle) :
    circuitMarkForCloseDepth cfg (k + 1) sys i reason o =
      circuitMarkForCloseDepth cfg 1 sys i reason o :=
  circuitMarkForCloseDepth_succ_congr cfg (fun c hc hidle _ => absurd (hp c hc) hidle) reason

/-- A close nests at most once: every depth from two on is circuit_mark_for_close. -/
theorem circuitMarkForCloseDepth_stable (d : ℕ) (hd : 2 ≤ d) (sys : Sys) (i : ℕ)
    (reason : CloseReason) (o : CloseOracle) :
    circuitMarkForCloseDepth cfg d sys i reason o = circuitMarkForClose cfg sys i reason o := by
  obtain ⟨k, rfl⟩ : ∃ k, d = k + 1 + 1 := ⟨d - 2, by omega⟩
  refine circuitMarkForCloseDepth_succ_congr cfg (fun c hc _ hid => ?_) reason
  refine circuitMarkForCloseDepth_probing cfg k (fun c' hc' => ?_) _ o
  rw [Sys.getElem?_modifyCirc_self hc] at hc'
  cases hc'
  exact ⟨rfl, hid⟩

/-- The fields of the relay cell the probe check reads. -/
structure RelayCell where
  command : ℕ
  streamId : ℕ
  length : ℕ
  /-- the first payload byte: the END reason -/
  reasonByte : ℕ
  /-- the four payload bytes after the reason, as an address -/
  ipv4Host : ℕ
  deriving DecidableEq, Repr

def relayCommandEnd : ℕ := 3

def endStreamReasonMisc : ℕ := 1

def endStreamReasonExitpolicy : ℕ := 4

/-- 0 for the expected END, after counting the use and closing the circuit; -1 otherwise
(the short-length answer -END_CIRC_REASON_TORPROTOCOL is also -1). -/
def pathbiasCheckProbeResponse (sys : Sys) (i : ℕ) (cell : RelayCell) (o : CloseOracle) :
    ℤ × Sys :=
  match sys.circuits[i]? with
  | none => (-1, sys)
  | some ocirc =>
    let reason := if 0 < cell.length then cell.reasonByte else endStreamReasonMisc
    if cell.command = relayCommandEnd ∧ reason = endStreamReasonExitpolicy ∧
        ocirc.pathbiasProbeId = cell.streamId then
      if cell.length < 9 then (-1, sys)
      else if cell.ipv4Host = ocirc.pathbiasProbeNonce then
        (0, circuitMarkForClose cfg (pathbiasMarkUseSuccess cfg sys i) i ⟨.finished, false⟩ o)
      else (-1, sys)
    else (-1, sys)

end Close

end TorCircuitBuild.PathBias
