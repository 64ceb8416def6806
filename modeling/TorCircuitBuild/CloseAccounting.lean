import TorCircuitBuild.Frame

set_option autoImplicit false

/-!
# A close whose probe cannot be sent

`pathbias_check_close` on a circuit in USE_ATTEMPTED asks `pathbias_send_usable_probe` for a
probe. The probe switches the circuit to PATH_BIAS_TESTING and records its stream id before
it sends; when `relay_send_command_from_edge` then fails, the circuit is closed from inside the
send. That nested close runs `pathbias_check_close` again: the probe is outstanding, so the
send answers -1 at once, the circuit is counted unusable and set to ALREADY_COUNTED. Back in
the outer check the send has answered -1 too, and `pathbias_count_use_failed`, which does not
look at the path state, counts the circuit unusable a second time.

The deferral itself happens at most once: a check either settles the circuit in
ALREADY_COUNTED or leaves its probe pending, and a check of a pending circuit goes ahead. When
the probe is answered as it should be, the close that follows counts a successful close and a
use success, and nothing is counted unusable.
-/

namespace TorCircuitBuild.PathBias

open Sys

variable (cfg : Config)

theorem pathbiasCountClose_counted {sys : Sys} {i : ℕ} {c : OriginCircuit}
    (hc : sys.circuits[i]? = some c) (hcount : pathbiasShouldCount cfg.options c = true)
    {d : Digest} {g : EntryGuard} (hg : guardOf sys c = some (d, g)) (k : Counter) :
    pathbiasCountClose cfg sys i k = sys.setGuard d (g.bump k) := by
  simp [pathbiasCountClose, hc, hcount, hg]

theorem pathbiasShouldCount_of_purpose {o : PathBiasOptions} {c c' : OriginCircuit}
    (h : pathbiasShouldCount o c = true) (hbs : c'.buildState = c.buildState)
    (hp : c'.purpose = .pathBiasTesting) : pathbiasShouldCount o c' = true := by
  simp only [pathbiasShouldCount, hbs, hp, Purpose.isClientIntro, reduceCtorEq, or_false,
    Bool.false_eq_true] at h ⊢
  split_ifs at h ⊢ <;> simp_all

theorem pathbiasSendUsableProbe_probing (markForClose : Sys → Sys) {sys : Sys} {i : ℕ}
    {c : OriginCircuit} (hc : sys.circuits[i]? = some c) {layer : CryptPath}
    (hlast : c.cpath.getLast? = some layer) (hopen : layer.state = .open)
    (hprobing : c.purpose = .pathBiasTesting) (hid : c.pathbiasProbeId ≠ 0) (o : ProbeOracle) :
    pathbiasSendUsableProbe markForClose sys i o = (-1, sys) := by
  simp [pathbiasSendUsableProbe, hc, hlast, hopen, hprobing, hid]

theorem pathbiasSendUsableProbe_sendFails (markForClose : Sys → Sys) {sys : Sys} {i : ℕ}
    {c : OriginCircuit} (hc : sys.circuits[i]? = some c) {layer : CryptPath}
    (hlast : c.cpath.getLast? = some layer) (hopen : layer.state = .open)
    (hidle : ¬(c.purpose = .pathBiasTesting ∧ c.pathbiasProbeId ≠ 0)) {o : ProbeOracle}
    (hchan : o.chanOpen = true) (hid : o.streamId ≠ 0) (hrelay : o.relayOk = false) :
    pathbiasSendUsableProbe markForClose sys i o = (-1, markForClose (sys.modifyCirc i fun c =>
      { c with purpose := .pathBiasTesting, pathbiasProbeNonce := o.rand &&& 0xffffff,
               pathbiasProbeId := o.streamId })) := by
  simp [pathbiasSendUsableProbe, relaySendCommandFromEdge, hc, hlast, hopen, hidle, hchan, hid,
    hrelay]

theorem pathbiasCheckClose_useAttempted (markForClose : Sys → Sys) {sys : Sys} {i : ℕ}
    {c : OriginCircuit} (hc : sys.circuits[i]? = some c)
    (hcount : pathbiasShouldCount cfg.options c = true) (hua : c.pathState = .useAttempted)
    (reason : CloseReason) (o : CloseOracle) :
    pathbiasCheckClose cfg markForClose sys i reason o =
      if (pathbiasSendUsableProbe markForClose sys i o.probe).1 = 0 then
        (-1, (pathbiasSendUsableProbe markForClose sys i o.probe).2)
      else (0, (pathbiasCountUseFailed cfg (pathbiasSendUsableProbe markForClose sys i o.probe).2
        i).setPathState i .alreadyCounted) := by
  simp only [pathbiasCheckClose, hc, hcount, hua, Bool.not_true, Bool.false_eq_true, if_false]

/-- A close of a live, counted circuit in USE_ATTEMPTED whose probe cannot be sent. The probe
marks the circuit PATH_BIAS_TESTING and relay_send_command_from_edge fails and closes it; the
nested check finds the probe outstanding and counts the circuit unusable, and the outer check
then counts it unusable once more. -/
theorem circuitMarkForClose_probeSendFails {sys : Sys} {i : ℕ} {c : OriginCircuit}
    (hc : sys.circuits[i]? = some c) (hlive : c.markedForClose = false)
    (hcount : pathbiasShouldCount cfg.options c = true) (hua : c.pathState = .useAttempted)
    {layer : CryptPath} (hlast : c.cpath.getLast? = some layer) (hopen : layer.state = .open)
    (hidle : ¬(c.purpose = .pathBiasTesting ∧ c.pathbiasProbeId ≠ 0)) {d : Digest}
    {g : EntryGuard} (hg : guardOf sys c = some (d, g)) (reason : CloseReason) {o : CloseOracle}
    (hchan : o.probe.chanOpen = true) (hid : o.probe.streamId ≠ 0)
    (hrelay : o.probe.relayOk = false) :
    (circuitMarkForClose cfg sys i reason o).guards d =
      some ((g.bump .unusableCircuits).bump .unusableCircuits) := by
  set probe : OriginCircuit → OriginCircuit := fun c =>
    { c with purpose := .pathBiasTesting, pathbiasProbeNonce := o.probe.rand &&& 0xffffff,
             pathbiasProbeId := o.probe.streamId }
  set sys₁ := sys.modifyCirc i probe
  have hc₁ : sys₁.circuits[i]? = some (probe c) := getElem?_modifyCirc_self hc probe
  have hcount₁ : pathbiasShouldCount cfg.options (probe c) = true :=
    pathbiasShouldCount_of_purpose hcount rfl rfl
  have hg₁ : guardOf sys₁ (probe c) = some (d, g) := hg
  -- the nested close: the probe is outstanding, so the circuit is counted unusable and marked
  set inner := circuitMarkForCloseDepth cfg 1 sys₁ i ⟨.internal, false⟩ o
  have hinner : inner = (((sys₁.setGuard d (g.bump .unusableCircuits)).setPathState i
      .alreadyCounted).modifyCirc i fun c => { c with markedForClose := true }) := by
    simp only [inner, circuitMarkForCloseDepth_live cfg 0 hc₁ hlive,
      pathbiasCheckClose_useAttempted cfg _ hc₁ hcount₁ hua,
      pathbiasSendUsableProbe_probing _ hc₁ hlast hopen rfl hid, pathbiasCountUseFailed,
      pathbiasCountClose_counted cfg hc₁ hcount₁ hg₁]
    rfl
  set c₂ : OriginCircuit := { probe c with pathState := .alreadyCounted, markedForClose := true }
  have hc₂ : inner.circuits[i]? = some c₂ := by
    simp [hinner, setPathState, List.getElem?_modify, hc₁, c₂]
  have hg₂ : guardOf inner c₂ = some (d, g.bump .unusableCircuits) := by
    have hd : firstHopId c₂ = some d := (guardOf_eq_some hg).1
    simp [guardOf, hinner, setPathState, hd]
  -- the outer close counts the circuit unusable again
  simp only [circuitMarkForClose, circuitMarkForCloseDepth_live cfg 1 hc hlive,
    pathbiasCheckClose_useAttempted cfg _ hc hcount hua,
    pathbiasSendUsableProbe_sendFails _ hc hlast hopen hidle hchan hid hrelay]
  simp [pathbiasCountUseFailed, pathbiasCountClose_counted cfg hc₂ (pathbiasShouldCount_of_purpose
    hcount rfl rfl) hg₂, setPathState]

/-- A general-purpose three-hop circuit through the guard at digest 0, open and used: a stream
was attempted on it and none succeeded. -/
def usedCircuit : OriginCircuit where
  purpose := .cGeneral
  state := .open
  markedForClose := false
  cpath := [hopAt 0 .open, hopAt 1 .open, hopAt 2 .open]
  buildState := ⟨3, false, false, false, false, none⟩
  hasOpened := true
  pathState := .useAttempted
  pathbiasProbeId := 0
  pathbiasProbeNonce := 0

/-- A guard that has counted one attempt and one success and no unusable circuit. -/
def usedGuard : EntryGuard :=
  ⟨1, 1, 0, 0, 0, 0, 1, 0, false, false, false, false, false, false⟩

/-- The circuit alone in the list, and its guard. -/
def usedSys : Sys := ⟨[usedCircuit], fun d => if d = 0 then some usedGuard else none⟩

/-- The circuit's channel is open and a stream id is free, but the BEGIN cell cannot be sent. -/
def probeSendFails : CloseOracle := ⟨false, ⟨true, 0, 1, false⟩⟩

/-- Closing the used circuit once, when its probe cannot be sent, leaves two unusable circuits
at its guard. -/
theorem usedSys_unusableCircuits_twice :
    ((circuitMarkForClose unsetConfig usedSys 0 ⟨.finished, false⟩ probeSendFails).guards
      0).map (·.unusableCircuits) = some 2 := by
  rw [@circuitMarkForClose_probeSendFails unsetConfig usedSys 0 usedCircuit rfl rfl rfl rfl
    (hopAt 2 .open) rfl rfl (by decide) 0 usedGuard rfl ⟨.finished, false⟩ probeSendFails rfl
    (by decide) rfl]
  norm_num [EntryGuard.bump, usedGuard]


/-! ## A close waits for its probe at most once -/

/-- After a close went ahead, the circuit, if it is still there and counted, is
ALREADY_COUNTED. -/
def CloseSettled (sys : Sys) (i : ℕ) : Prop :=
  ∀ c, sys.circuits[i]? = some c → pathbiasShouldCount cfg.options c = true →
    c.pathState = .alreadyCounted

/-- After a close waits for its probe, the circuit is counted, in USE_ATTEMPTED and
PATH_BIAS_TESTING with a probe id, and its last hop is open. -/
structure ProbePending (sys : Sys) (i : ℕ) (c : OriginCircuit) (layer : CryptPath) : Prop where
  get : sys.circuits[i]? = some c
  counted : pathbiasShouldCount cfg.options c = true
  useAttempted : c.pathState = .useAttempted
  testing : c.purpose = .pathBiasTesting
  probeId : c.pathbiasProbeId ≠ 0
  last : c.cpath.getLast? = some layer
  lastOpen : layer.state = .open

theorem closeSettled_setPathState (sys : Sys) (i : ℕ) :
    CloseSettled cfg (sys.setPathState i .alreadyCounted) i := by
  intro c hc _
  simp only [setPathState, modifyCirc_circuits, List.getElem?_modify, if_true] at hc
  obtain ⟨c₀, -, rfl⟩ := Option.map_eq_some'.mp hc
  rfl

theorem probePending_of_sent (markForClose : Sys → Sys) {sys : Sys} {i : ℕ} {c : OriginCircuit}
    (hc : sys.circuits[i]? = some c) (hcount : pathbiasShouldCount cfg.options c = true)
    (hua : c.pathState = .useAttempted) {o : ProbeOracle}
    (h : (pathbiasSendUsableProbe markForClose sys i o).1 = 0) :
    ∃ c' layer, ProbePending cfg (pathbiasSendUsableProbe markForClose sys i o).2 i c' layer := by
  rcases pathbiasSendUsableProbe_cases markForClose sys i o with he | he | he |
    ⟨⟨c₀, layer, hc₀, hl, hopen, hid⟩, he⟩ <;> rw [he] at h ⊢ <;> try simp at h
  cases hc.symm.trans hc₀
  exact ⟨_, layer, getElem?_modifyCirc_self hc _, pathbiasShouldCount_of_purpose hcount rfl rfl,
    hua, rfl, hid, hl, hopen⟩

/-- pathbias_check_close either lets the close go ahead and leaves the circuit settled, or
waits with the circuit's probe pending. -/
theorem pathbiasCheckClose_cases (markForClose : Sys → Sys) (sys : Sys) (i : ℕ)
    (reason : CloseReason) (o : CloseOracle) :
    ((pathbiasCheckClose cfg markForClose sys i reason o).1 = 0 ∧
        CloseSettled cfg (pathbiasCheckClose cfg markForClose sys i reason o).2 i) ∨
      ((pathbiasCheckClose cfg markForClose sys i reason o).1 = -1 ∧ ∃ c layer,
        ProbePending cfg (pathbiasCheckClose cfg markForClose sys i reason o).2 i c layer) := by
  have settled := closeSettled_setPathState cfg
  unfold pathbiasCheckClose
  rcases hc : sys.circuits[i]? with _ | c
  · exact .inl ⟨rfl, fun c h => by simp [hc] at h⟩
  dsimp only
  by_cases hcount : pathbiasShouldCount cfg.options c = true
  swap
  · rw [if_pos (by simpa using hcount)]
    exact .inl ⟨rfl, fun c' h' hc' => by cases hc.symm.trans h'; exact absurd hc' hcount⟩
  rw [if_neg (by simpa using hcount)]
  split
  next => split_ifs <;> exact .inl ⟨rfl, settled _ i⟩
  next hps =>
    split_ifs with h0
    · exact .inr ⟨rfl, probePending_of_sent cfg markForClose hc hcount hps h0⟩
    · exact .inl ⟨rfl, settled _ i⟩
  all_goals exact .inl ⟨rfl, settled _ i⟩

theorem pathbiasCheckClose_of_settled (markForClose : Sys → Sys) {sys : Sys} {i : ℕ}
    (h : CloseSettled cfg sys i) (reason : CloseReason) (o : CloseOracle) :
    (pathbiasCheckClose cfg markForClose sys i reason o).1 = 0 ∧
      (pathbiasCheckClose cfg markForClose sys i reason o).2.guards = sys.guards := by
  unfold pathbiasCheckClose
  rcases hc : sys.circuits[i]? with _ | c
  · exact ⟨rfl, rfl⟩
  dsimp only
  by_cases hcount : pathbiasShouldCount cfg.options c = true
  · rw [if_neg (by simpa using hcount), h c hc hcount]
    exact ⟨rfl, rfl⟩
  · rw [if_pos (by simpa using hcount)]
    exact ⟨rfl, rfl⟩

theorem pathbiasCheckClose_of_pending (markForClose : Sys → Sys) {sys : Sys} {i : ℕ}
    {c : OriginCircuit} {layer : CryptPath} (h : ProbePending cfg sys i c layer)
    (reason : CloseReason) (o : CloseOracle) :
    (pathbiasCheckClose cfg markForClose sys i reason o).1 = 0 := by
  rw [pathbiasCheckClose_useAttempted cfg _ h.get h.counted h.useAttempted,
    pathbiasSendUsableProbe_probing _ h.get h.last h.lastOpen h.testing h.probeId]
  rfl

/-- pathbias_check_close waits for a probe at most once: a second call on the circuit goes
ahead, whatever the first did, and after a first call that went ahead it counts nothing. The
first call either goes ahead and settles the circuit, or returns -1 with the probe pending. -/
theorem pathbiasCheckClose_defersOnce (markForClose markForClose' : Sys → Sys) (sys : Sys)
    (i : ℕ) (reason reason' : CloseReason) (o o' : CloseOracle) :
    let first := pathbiasCheckClose cfg markForClose sys i reason o
    let second := pathbiasCheckClose cfg markForClose' first.2 i reason' o'
    second.1 = 0 ∧ (first.1 = 0 → second.2.guards = first.2.guards) ∧
      ((first.1 = 0 ∧ CloseSettled cfg first.2 i) ∨
        (first.1 = -1 ∧ ∃ c layer, ProbePending cfg first.2 i c layer)) := by
  rcases pathbiasCheckClose_cases cfg markForClose sys i reason o with ⟨h0, hs⟩ | ⟨h1, c, l, hp⟩
  · have hsecond := pathbiasCheckClose_of_settled cfg markForClose' hs reason' o'
    exact ⟨hsecond.1, fun _ => hsecond.2, .inl ⟨h0, hs⟩⟩
  · exact ⟨pathbiasCheckClose_of_pending cfg markForClose' hp reason' o',
      fun h0 => absurd (h1.symm.trans h0) (by decide), .inr ⟨h1, c, l, hp⟩⟩

theorem pathbiasSendUsableProbe_sent (markForClose : Sys → Sys) {sys : Sys} {i : ℕ}
    {c : OriginCircuit} (hc : sys.circuits[i]? = some c) {layer : CryptPath}
    (hlast : c.cpath.getLast? = some layer) (hopen : layer.state = .open)
    (hidle : ¬(c.purpose = .pathBiasTesting ∧ c.pathbiasProbeId ≠ 0)) {o : ProbeOracle}
    (hchan : o.chanOpen = true) (hid : o.streamId ≠ 0) (hrelay : o.relayOk = true) :
    pathbiasSendUsableProbe markForClose sys i o = (0, sys.modifyCirc i fun c =>
      { c with purpose := .pathBiasTesting, pathbiasProbeNonce := o.rand &&& 0xffffff,
               pathbiasProbeId := o.streamId }) := by
  simp [pathbiasSendUsableProbe, relaySendCommandFromEdge, hc, hlast, hopen, hidle, hchan, hid,
    hrelay]

theorem pathbiasMarkUseSuccess_useAttempted {sys : Sys} {i : ℕ} {c : OriginCircuit}
    (hc : sys.circuits[i]? = some c) (hcount : pathbiasShouldCount cfg.options c = true)
    (hua : c.pathState = .useAttempted) :
    pathbiasMarkUseSuccess cfg sys i = sys.setPathState i .useSucceeded := by
  simp [pathbiasMarkUseSuccess, hc, hcount, hua, PathState.toNat]

theorem pathbiasCountUseSuccess_counted {sys : Sys} {i : ℕ} {c : OriginCircuit}
    (hc : sys.circuits[i]? = some c) (hcount : pathbiasShouldCount cfg.options c = true)
    (hus : c.pathState = .useSucceeded) {d : Digest} {g : EntryGuard}
    (hg : guardOf sys c = some (d, g)) :
    pathbiasCountUseSuccess cfg sys i = sys.setGuard d (g.bump .useSuccesses) := by
  simp [pathbiasCountUseSuccess, hc, hcount, hus, hg]

/-- pathbias_check_probe_response accepts the END cell with the EXITPOLICY reason, the probe's
stream id, a full address and the probe's nonce: it counts the use a success and closes the
circuit. -/
theorem pathbiasCheckProbeResponse_accepts {sys : Sys} {i : ℕ} {c : OriginCircuit}
    (hc : sys.circuits[i]? = some c) (cell : RelayCell) (hcmd : cell.command = relayCommandEnd)
    (hreason : cell.reasonByte = endStreamReasonExitpolicy)
    (hid : c.pathbiasProbeId = cell.streamId) (hlen : 9 ≤ cell.length)
    (hnonce : cell.ipv4Host = c.pathbiasProbeNonce) (o : CloseOracle) :
    pathbiasCheckProbeResponse cfg sys i cell o =
      (0, circuitMarkForClose cfg (pathbiasMarkUseSuccess cfg sys i) i ⟨.finished, false⟩ o) := by
  have hpos : 0 < cell.length := by omega
  simp [pathbiasCheckProbeResponse, hc, hcmd, hreason, hid, hpos, hnonce, Nat.not_lt.mpr hlen]

theorem pathbiasCheckClose_useSucceeded (markForClose : Sys → Sys) {sys : Sys} {i : ℕ}
    {c : OriginCircuit} (hc : sys.circuits[i]? = some c)
    (hcount : pathbiasShouldCount cfg.options c = true) (hus : c.pathState = .useSucceeded)
    (reason : CloseReason) (o : CloseOracle) :
    pathbiasCheckClose cfg markForClose sys i reason o =
      (0, (pathbiasCountUseSuccess cfg (pathbiasCountSuccessfulClose cfg sys i) i).setPathState i
        .alreadyCounted) := by
  simp only [pathbiasCheckClose, hc, hcount, hus, Bool.not_true, Bool.false_eq_true, if_false]

/-- A close of a live, counted circuit in USE_ATTEMPTED whose probe is sent waits and counts
nothing. The END cell that answers the probe, with the EXITPOLICY reason, the probe's stream id
and the nonce echoed as the address, then closes the circuit and counts one successful close
and one use success at its guard. -/
theorem circuitMarkForClose_probeAnswered {sys : Sys} {i : ℕ} {c : OriginCircuit}
    (hc : sys.circuits[i]? = some c) (hlive : c.markedForClose = false)
    (hcount : pathbiasShouldCount cfg.options c = true) (hua : c.pathState = .useAttempted)
    {layer : CryptPath} (hlast : c.cpath.getLast? = some layer) (hopen : layer.state = .open)
    (hidle : ¬(c.purpose = .pathBiasTesting ∧ c.pathbiasProbeId ≠ 0)) {d : Digest}
    {g : EntryGuard} (hg : guardOf sys c = some (d, g)) (reason : CloseReason) {o : CloseOracle}
    (hchan : o.probe.chanOpen = true) (hid : o.probe.streamId ≠ 0)
    (hrelay : o.probe.relayOk = true) (o' : CloseOracle) :
    let deferred := circuitMarkForClose cfg sys i reason o
    let answer := pathbiasCheckProbeResponse cfg deferred i
      ⟨relayCommandEnd, o.probe.streamId, 9, endStreamReasonExitpolicy,
        o.probe.rand &&& 0xffffff⟩ o'
    deferred.guards = sys.guards ∧ answer.1 = 0 ∧
      answer.2.guards d = some ((g.bump .successfulCircuitsClosed).bump .useSuccesses) := by
  set probe : OriginCircuit → OriginCircuit := fun c =>
    { c with purpose := .pathBiasTesting, pathbiasProbeNonce := o.probe.rand &&& 0xffffff,
             pathbiasProbeId := o.probe.streamId }
  have hdeferred : circuitMarkForClose cfg sys i reason o = sys.modifyCirc i probe := by
    simp only [circuitMarkForClose, circuitMarkForCloseDepth_live cfg 1 hc hlive,
      pathbiasCheckClose_useAttempted cfg _ hc hcount hua,
      pathbiasSendUsableProbe_sent _ hc hlast hopen hidle hchan hid hrelay]
    rfl
  have hc₁ := getElem?_modifyCirc_self hc probe
  have hcount₁ : pathbiasShouldCount cfg.options (probe c) = true :=
    pathbiasShouldCount_of_purpose hcount rfl rfl
  -- the answer marks the use a success, then the close counts it
  set c₂ : OriginCircuit := { probe c with pathState := .useSucceeded }
  set sys₂ := (sys.modifyCirc i probe).setPathState i .useSucceeded
  have hc₂ : sys₂.circuits[i]? = some c₂ := by
    simp only [sys₂, setPathState]
    rw [modifyCirc_circuits, List.getElem?_modify, hc₁]
    simp [c₂]
  have hcount₂ : pathbiasShouldCount cfg.options c₂ = true :=
    pathbiasShouldCount_of_purpose hcount rfl rfl
  have hg₂ : guardOf sys₂ c₂ = some (d, g) := hg
  have hg₃ : guardOf (pathbiasCountSuccessfulClose cfg sys₂ i) c₂ =
      some (d, g.bump .successfulCircuitsClosed) := by
    have hd : firstHopId c₂ = some d := (guardOf_eq_some hg).1
    simp [pathbiasCountSuccessfulClose, pathbiasCountClose_counted cfg hc₂ hcount₂ hg₂, guardOf,
      hd]
  refine ⟨by rw [hdeferred]; rfl, ?_⟩
  rw [hdeferred]
  simp only [pathbiasCheckProbeResponse_accepts cfg hc₁ ⟨relayCommandEnd, o.probe.streamId, 9,
      endStreamReasonExitpolicy, o.probe.rand &&& 0xffffff⟩ rfl rfl rfl (le_refl 9) rfl,
    pathbiasMarkUseSuccess_useAttempted cfg hc₁ hcount₁ hua, circuitMarkForClose,
    circuitMarkForCloseDepth_live cfg 1 hc₂ hlive,
    pathbiasCheckClose_useSucceeded cfg _ hc₂ hcount₂ rfl]
  have hc₃ : (pathbiasCountSuccessfulClose cfg sys₂ i).circuits[i]? = some c₂ := by
    simpa [pathbiasCountSuccessfulClose, pathbiasCountClose_counted cfg hc₂ hcount₂ hg₂] using hc₂
  simp [pathbiasCountUseSuccess_counted cfg hc₃ hcount₂ rfl hg₃, setPathState]

/-- The circuit's channel is open, a stream id is free and the BEGIN cell is sent. -/
def probeSent : CloseOracle := ⟨false, ⟨true, 0, 1, true⟩⟩

theorem usedSys_probeAnswered :
    usedSys.circuits[0]? = some usedCircuit ∧ usedCircuit.markedForClose = false ∧
      pathbiasShouldCount unsetConfig.options usedCircuit = true ∧
      usedCircuit.pathState = .useAttempted ∧ usedCircuit.cpath.getLast? = some (hopAt 2 .open) ∧
      (hopAt 2 .open).state = .open ∧
      ¬(usedCircuit.purpose = .pathBiasTesting ∧ usedCircuit.pathbiasProbeId ≠ 0) ∧
      guardOf usedSys usedCircuit = some (0, usedGuard) ∧ probeSent.probe.chanOpen = true ∧
      probeSent.probe.streamId ≠ 0 ∧ probeSent.probe.relayOk = true ∧
      (let deferred := circuitMarkForClose unsetConfig usedSys 0 ⟨.finished, false⟩ probeSent
       let answer := pathbiasCheckProbeResponse unsetConfig deferred 0
         ⟨relayCommandEnd, probeSent.probe.streamId, 9, endStreamReasonExitpolicy,
           probeSent.probe.rand &&& 0xffffff⟩ probeSent
       deferred.guards = usedSys.guards ∧ answer.1 = 0 ∧
         answer.2.guards 0 =
           some ((usedGuard.bump .successfulCircuitsClosed).bump .useSuccesses)) :=
  ⟨rfl, rfl, rfl, rfl, rfl, rfl, by decide, rfl, rfl, by decide, rfl,
    @circuitMarkForClose_probeAnswered unsetConfig usedSys 0 usedCircuit rfl rfl rfl rfl
      (hopAt 2 .open) rfl rfl (by decide) 0 usedGuard rfl ⟨.finished, false⟩ probeSent rfl
      (by decide) rfl probeSent⟩

end TorCircuitBuild.PathBias
