import TorCircuitBuild.CloseProbe
import TorCircuitBuild.CircId
import TorCircuitBuild.PathSelection

set_option autoImplicit false

/-!
# The origin-side build machine

A circuit chosen by path selection joins the global list in CHAN_WAIT. Its first create goes
out when the channel to the entry is open (`circuit_handle_first_hop`, or
`circuit_n_chan_done`); each created or extended reply opens the hop awaiting keys
(`circuit_finish_handshake`, which also counts the build attempt), and
`circuit_send_next_onion_skin` then extends to the next closed hop or, when none is left,
opens the circuit and counts the build success. A negative return closes the circuit.

The functions answer none where the source would fail a `tor_assert`.
-/

namespace TorCircuitBuild.Build

open PathBias PathSelection CircId

structure BuildOptions where
  fastFirstHopPK : Bool
  publicServerMode : Bool
  /-- circuits_can_use_ntor -/
  canUseNtor : Bool
  deriving DecidableEq, Repr

structure Options where
  pathBias : PathBias.Config
  build : BuildOptions

/-- The path-bias defaults, with fast first hops, a client and ntor available. -/
def unsetOptions : Options := ⟨unsetConfig, ⟨true, false, true⟩⟩

/-- What one onion skin reads from outside: the channel its create cell goes out on, and
whether onion_skin_create, the cell format and the relay send succeed. -/
structure SkinOracle where
  chan : Channel
  skinOk : Bool
  formatOk : Bool
  relayOk : Bool
  close : CloseOracle

/-- What a created or extended reply brings: whether onion_skin_client_handshake and
circuit_init_cpath_crypto succeed on it. -/
structure ReplyOracle where
  handshakeOk : Bool
  cryptoOk : Bool
  deriving DecidableEq, Repr

/-- What circuit_handle_first_hop learns from channel_get_for_extend and
channel_connect_for_circuit. -/
structure FirstHopOracle where
  chanOpen : Bool
  shouldLaunch : Bool
  connectOk : Bool
  skin : SkinOracle

/-- The index of the first hop, from the head, that is not open. -/
def onionNextHopInCpath (cpath : List CryptPath) : Option ℕ :=
  cpath.findIdx? fun hop => hop.state ≠ .open

def shouldUseCreateFastForCircuit (opts : BuildOptions) (ei : ExtendInfo) : Bool :=
  if !ei.onionKey then true
  else if !opts.fastFirstHopPK then false
  else if opts.publicServerMode then false
  else true

def circuitPickCreateHandshake (opts : BuildOptions) (ei : ExtendInfo) : HandshakeType :=
  if ei.curve25519OnionKey && opts.canUseNtor then .ntor else .tap

/-- 0, or -1 when no circuit id is free on the channel or the cell cannot be formatted. -/
def circuitDeliverCreateCell (chan : Channel) (formatOk : Bool) : ℤ :=
  match getUniqueCircIdByChan chan with
  | some (id, _) => if id = 0 then -1 else if !formatOk then -1 else 0
  | none => -1

def setHop (sys : Sys) (i k : ℕ) (f : CryptPath → CryptPath) : Sys :=
  sys.modifyCirc i fun c => { c with cpath := c.cpath.modify f k }

theorem setHop_eq (sys : Sys) (i k : ℕ) (f : CryptPath → CryptPath) :
    setHop sys i k f = sys.modifyCirc i fun c => { c with cpath := c.cpath.modify f k } := rfl

/-- Modelled from the spec: circuit_has_opened marks has_opened on the transition to open;
what it starts for hidden-service purposes is left out. -/
def circuitHasOpened (sys : Sys) (i : ℕ) : Sys :=
  sys.modifyCirc i fun c => { c with hasOpened := true }

section Steps

variable (opt : Options)

def circuitSendNextOnionSkin (sys : Sys) (i : ℕ) (o : SkinOracle) :
    Option (Option EndCircReason × Sys) :=
  match sys.circuits[i]? with
  | none => some (none, sys)
  | some circ =>
    match circ.cpath with
    | [] => none
    | head :: _ =>
      if head.state = .closed then
        let handshakeType := if shouldUseCreateFastForCircuit opt.build head.extendInfo
          then HandshakeType.fast else circuitPickCreateHandshake opt.build head.extendInfo
        if !o.skinOk then some (some .internal, sys)
        else
          let sys := setHop sys i 0 fun h => { h with handshakeState := some handshakeType }
          if circuitDeliverCreateCell o.chan o.formatOk < 0 then some (some .resourceLimit, sys)
          else
            let sys := setHop sys i 0 fun h => { h with state := .awaitingKeys }
            some (none, sys.modifyCirc i fun c => { c with state := .building })
      else if head.state ≠ .open ∨ circ.state ≠ .building then none
      else
        match onionNextHopInCpath circ.cpath with
        | none =>
          let sys := sys.modifyCirc i fun c => { c with state := .open }
          let sys := pathbiasCountBuildSuccess opt.pathBias sys i
          let sys := circuitHasOpened sys i
          let sys := if circ.purpose = .cMeasureTimeout then
            circuitMarkForClose opt.pathBias sys i ⟨.finished, false⟩ o.close else sys
          some (none, sys)
        | some k =>
          match circ.cpath[k]? with
          | none => none
          | some hop =>
            if hop.extendInfo.addrFamily ≠ .inet then some (some .internal, sys)
            else if !o.skinOk then some (some .internal, sys)
            else
              let handshakeType := circuitPickCreateHandshake opt.build hop.extendInfo
              let sys := setHop sys i k fun h => { h with handshakeState := some handshakeType }
              if !o.formatOk then some (some .internal, sys)
              else if !o.relayOk then
                some (none, circuitMarkForClose opt.pathBias sys i ⟨.internal, false⟩ o.close)
              else some (none, setHop sys i k fun h => { h with state := .awaitingKeys })

/-- What circuit_send_next_onion_skin can leave behind: the system as it was; a hop's handshake
filled in, and then perhaps that hop awaiting keys (for the first hop, with the circuit
building) or the circuit closed; or, once no hop is left to extend, the circuit opened and, for a
measurement circuit, closed. -/
theorem circuitSendNextOnionSkin_cases {sys : Sys} {i : ℕ} {o : SkinOracle}
    {res : Option EndCircReason × Sys} (h : circuitSendNextOnionSkin opt sys i o = some res) :
    res.2 = sys ∨
      (∃ k x, let sys₁ := setHop sys i k fun h => { h with handshakeState := x }
        res.2 = sys₁ ∨ res.2 = setHop sys₁ i k (fun h => { h with state := .awaitingKeys }) ∨
          res.2 = (setHop sys₁ i k fun h => { h with state := .awaitingKeys }).modifyCirc i
            (fun c => { c with state := .building }) ∨
          ∃ r, res.2 = circuitMarkForClose opt.pathBias sys₁ i r o.close) ∨
      ∃ c, sys.circuits[i]? = some c ∧ onionNextHopInCpath c.cpath = none ∧
        let opened := circuitHasOpened (pathbiasCountBuildSuccess opt.pathBias
          (sys.modifyCirc i fun c => { c with state := .open }) i) i
        (res.2 = opened ∨
          res.2 = circuitMarkForClose opt.pathBias opened i ⟨.finished, false⟩ o.close) := by
  unfold circuitSendNextOnionSkin at h
  rcases hc : sys.circuits[i]? with _ | c
  · rw [hc] at h
    cases h
    exact .inl rfl
  rw [hc] at h
  dsimp only at h
  rcases hcp : c.cpath with _ | ⟨head, tail⟩
  · rw [hcp] at h
    cases h
  rw [hcp] at h
  dsimp only at h
  by_cases hclosed : head.state = .closed
  · -- the first create
    rw [if_pos hclosed] at h
    by_cases hskin : (!o.skinOk) = true
    · rw [if_pos hskin] at h
      cases h
      exact .inl rfl
    rw [if_neg hskin] at h
    by_cases hdeliver : circuitDeliverCreateCell o.chan o.formatOk < 0
    · rw [if_pos hdeliver] at h
      cases h
      exact .inr (.inl ⟨0, _, .inl rfl⟩)
    · rw [if_neg hdeliver] at h
      cases h
      exact .inr (.inl ⟨0, _, .inr (.inr (.inl rfl))⟩)
  rw [if_neg hclosed] at h
  by_cases hbad : head.state ≠ .open ∨ c.state ≠ .building
  · rw [if_pos hbad] at h
    cases h
  rw [if_neg hbad] at h
  rcases hnext : onionNextHopInCpath (head :: tail) with _ | k
  · -- no hop left: the circuit opens
    rw [hnext] at h
    dsimp only at h
    refine .inr (.inr ⟨c, rfl, hcp ▸ hnext, ?_⟩)
    by_cases hmeasure : c.purpose = .cMeasureTimeout
    · rw [if_pos hmeasure] at h
      cases h
      exact .inr rfl
    · rw [if_neg hmeasure] at h
      cases h
      exact .inl rfl
  -- the next create goes to hop k
  rw [hnext] at h
  dsimp only at h
  rcases hhop : (head :: tail)[k]? with _ | hop
  · rw [hhop] at h
    cases h
  rw [hhop] at h
  dsimp only at h
  by_cases haddr : hop.extendInfo.addrFamily ≠ .inet
  · rw [if_pos haddr] at h
    cases h
    exact .inl rfl
  rw [if_neg haddr] at h
  by_cases hskin : (!o.skinOk) = true
  · rw [if_pos hskin] at h
    cases h
    exact .inl rfl
  rw [if_neg hskin] at h
  by_cases hformat : (!o.formatOk) = true
  · rw [if_pos hformat] at h
    cases h
    exact .inr (.inl ⟨k, _, .inl rfl⟩)
  rw [if_neg hformat] at h
  by_cases hrelay : (!o.relayOk) = true
  · rw [if_pos hrelay] at h
    cases h
    exact .inr (.inl ⟨k, _, .inr (.inr (.inr ⟨_, rfl⟩))⟩)
  · rw [if_neg hrelay] at h
    cases h
    exact .inr (.inl ⟨k, _, .inr (.inl rfl)⟩)

def circuitFinishHandshake (sys : Sys) (i : ℕ) (o : ReplyOracle) :
    Option (Option EndCircReason × Sys) :=
  match pathbiasCountBuildAttempt opt.pathBias sys i with
  | (some r, sys) => some (some r, sys)
  | (none, sys) =>
    match sys.circuits[i]? with
    | none => some (none, sys)
    | some circ =>
      match circ.cpath with
      | [] => none
      | head :: _ =>
        let hop := if head.state = .awaitingKeys then some 0 else onionNextHopInCpath circ.cpath
        match hop with
        | none => some (some .torProtocol, sys)
        | some k =>
          match circ.cpath[k]? with
          | none => none
          | some h =>
            if h.state ≠ .awaitingKeys then none
            else if !o.handshakeOk then some (some .torProtocol, sys)
            else
              let sys := setHop sys i k fun h => { h with handshakeState := none }
              if !o.cryptoOk then some (some .torProtocol, sys)
              else some (none, setHop sys i k fun h => { h with state := .open })

def circuitHandleFirstHop (sys : Sys) (i : ℕ) (o : FirstHopOracle) :
    Option (Option EndCircReason × Sys) :=
  match sys.circuits[i]? with
  | none => some (none, sys)
  | some circ =>
    if (onionNextHopInCpath circ.cpath).isNone then none
    else if !o.chanOpen then
      if o.shouldLaunch ∧ !o.connectOk then some (some .connectFailed, sys) else some (none, sys)
    else circuitSendNextOnionSkin opt sys i o.skin

/-- The callers' rule: a negative return closes the circuit with that reason. -/
def closeOnError (i : ℕ) (o : CloseOracle) : Option EndCircReason × Sys → Sys
  | (some r, sys) => circuitMarkForClose opt.pathBias sys i ⟨r, false⟩ o
  | (none, sys) => sys

/-- circuit_establish_circuit: a chosen path joins the global list, then its first hop is
handled. A selection that fails leaves nothing that a later step reads. -/
def circuitEstablishCircuit (sys : Sys) (sel : Selectors) (nodes : List Node)
    (purpose : Purpose) (exit : Option ExtendInfo) (flags : LaunchFlags) (o : FirstHopOracle) :
    Option Sys :=
  match circuitEstablishPath sel nodes purpose exit flags with
  | .built circ =>
    let i := sys.circuits.length
    let sys := { sys with circuits := sys.circuits ++ [circ] }
    (circuitHandleFirstHop opt sys i o).map (closeOnError opt i o.skin.close)
  | _ => some sys

/-- circuit_n_chan_done for one circuit waiting on the channel. -/
def circuitNChanDone (sys : Sys) (i : ℕ) (status : Bool) (o : SkinOracle) : Option Sys :=
  if !status then some (circuitMarkForClose opt.pathBias sys i ⟨.channelClosed, false⟩ o.close)
  else (circuitSendNextOnionSkin opt sys i o).map (closeOnError opt i o.close)

def circuitExtendToNewExit (sys : Sys) (i : ℕ) (exit : ExtendInfo) (o : SkinOracle) :
    Option Sys :=
  let sys := sys.modifyCirc i fun c => { circuitAppendNewExit c exit with state := .building }
  (circuitSendNextOnionSkin opt sys i o).map (closeOnError opt i o.close)

/-- Modelled from the spec: the cell dispatcher hands a created or extended reply to
circuit_finish_handshake, sends the next onion skin when that returns 0, and closes the
circuit on a negative return. -/
def circuitHandleReply (sys : Sys) (i : ℕ) (reply : ReplyOracle) (o : SkinOracle) :
    Option Sys :=
  (circuitFinishHandshake opt sys i reply).bind fun r =>
    match r with
    | (some reason, sys) => some (circuitMarkForClose opt.pathBias sys i ⟨reason, false⟩ o.close)
    | (none, sys) => (circuitSendNextOnionSkin opt sys i o).map (closeOnError opt i o.close)

end Steps

/-! ## Runs -/

/-- Circuit `i` is in the list, not marked for close, and satisfies `p`. -/
def LiveWith (sys : Sys) (i : ℕ) (p : OriginCircuit → Prop) : Prop :=
  ∃ c, sys.circuits[i]? = some c ∧ c.markedForClose = false ∧ p c

/-- The purpose changes the rest of Tor may make on a live circuit. -/
abbrev PurposePolicy := OriginCircuit → Purpose → Prop

/-- One event. A marked circuit gets none; replies reach a circuit whose first create went
out; streams and probe answers reach a circuit that has opened or awaits its probe; only the
accountant itself switches a circuit to PATH_BIAS_TESTING. -/
inductive Step (opt : Options) (policy : PurposePolicy) : Sys → Sys → Prop
  | establish {sys sys' : Sys} (sel : Selectors) (nodes : List Node) (purpose : Purpose)
      (exit : Option ExtendInfo) (flags : LaunchFlags) (o : FirstHopOracle)
      (hpurpose : purpose ≠ .pathBiasTesting)
      (h : circuitEstablishCircuit opt sys sel nodes purpose exit flags o = some sys') :
      Step opt policy sys sys'
  | chanDone {sys sys' : Sys} (i : ℕ) (status : Bool) (o : SkinOracle)
      (hwait : LiveWith sys i (·.state = .chanWait))
      (h : circuitNChanDone opt sys i status o = some sys') : Step opt policy sys sys'
  | reply {sys sys' : Sys} (i : ℕ) (reply : ReplyOracle) (o : SkinOracle)
      (hsent : LiveWith sys i (·.state ≠ .chanWait))
      (h : circuitHandleReply opt sys i reply o = some sys') : Step opt policy sys sys'
  | extendToNewExit {sys sys' : Sys} (i : ℕ) (exit : ExtendInfo) (o : SkinOracle)
      (hopen : LiveWith sys i (·.state = .open))
      (h : circuitExtendToNewExit opt sys i exit o = some sys') : Step opt policy sys sys'
  | useAttempt {sys : Sys} (i : ℕ) (hused : LiveWith sys i (·.hasOpened = true)) :
      Step opt policy sys (pathbiasCountUseAttempt opt.pathBias sys i)
  | useSuccess {sys : Sys} (i : ℕ) (hused : LiveWith sys i (·.hasOpened = true)) :
      Step opt policy sys (pathbiasMarkUseSuccess opt.pathBias sys i)
  | useRollback {sys : Sys} (i : ℕ) (hused : LiveWith sys i (·.hasOpened = true)) :
      Step opt policy sys (pathbiasMarkUseRollback sys i)
  | probeResponse {sys : Sys} (i : ℕ) (cell : RelayCell) (o : CloseOracle)
      (htesting : LiveWith sys i (·.purpose = .pathBiasTesting)) :
      Step opt policy sys (pathbiasCheckProbeResponse opt.pathBias sys i cell o).2
  | timeout {sys : Sys} (i : ℕ) (hlive : LiveWith sys i fun _ => True) :
      Step opt policy sys (pathbiasCountTimeout opt.pathBias sys i)
  | close {sys : Sys} (i : ℕ) (reason : CloseReason) (o : CloseOracle)
      (hlive : LiveWith sys i fun _ => True) :
      Step opt policy sys (circuitMarkForClose opt.pathBias sys i reason o)
  | changePurpose {sys : Sys} (i : ℕ) (p : Purpose) (hp : p ≠ .pathBiasTesting)
      (hpolicy : LiveWith sys i fun c => policy c p) :
      Step opt policy sys (sys.modifyCirc i fun c => { c with purpose := p })

inductive Reachable (opt : Options) (policy : PurposePolicy) (init : Sys) : Sys → Prop
  | init : Reachable opt policy init init
  | step {sys sys' : Sys} : Reachable opt policy init sys → Step opt policy sys sys' →
      Reachable opt policy init sys'

end TorCircuitBuild.Build
