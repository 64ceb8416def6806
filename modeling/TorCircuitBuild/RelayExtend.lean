import TorCircuitBuild.BuildMachine

set_option autoImplicit false

/-!
# The relay side of an extend

A relay that gets an EXTEND cell on a circuit passes the create cell in it on to the next hop.
circuit_extend checks the cell, then either hands the create cell to an open channel to the
next relay, or records the next hop and waits. circuit_n_chan_done sends the waiting create
cells once the channel opens. The checks keep the relay from extending for a client, to a null
or private address, to an empty identity or back to the previous hop, and from extending a
circuit twice.

Each relay circuit is a record, and a run is any interleaving of answered creates, extends,
channel callbacks and closes over the relay's circuits. Over every run no circuit's next hop is
the hop it came from or the empty identity, no circuit both has a channel and waits for one,
circuit_n_chan_done never fails its assertion, and a next hop once chosen never changes.

A circuit knows its channels by their peers' identities. extend_cell_parse, the address checks
of address.c, channel_get_for_extend, channel_connect and the cell formats are inputs of a step.
-/

namespace TorCircuitBuild.Relay

open CircId Build

/-- The IPv4 address and OR port of an EXTEND cell. -/
structure AddrPort where
  addr : ℕ
  port : ℕ
  deriving DecidableEq, Repr

/-- The create cell an EXTEND cell carries for the next hop; only its handshake is kept. -/
structure CreateCell where
  handshakeType : HandshakeType
  deriving DecidableEq, Repr

/-- The fields of extend_cell_t that circuit_extend reads. -/
structure ExtendCell where
  orportIpv4 : AddrPort
  nodeId : Digest
  createCell : CreateCell
  deriving DecidableEq, Repr

/-- The states of circuit_t that a relay circuit takes. -/
inductive OrState
  | onionskinPending
  | chanWait
  | «open»
  deriving DecidableEq, Repr

/-- The hop a relay circuit waits to connect to. -/
structure NextHop where
  info : ExtendInfo
  addrPort : AddrPort
  deriving DecidableEq, Repr

/-- An or_circuit_t, with the fields the extend path reads and writes. `nChan` is the identity
of the next channel's peer, `pChanIdentity` that of the previous channel's. -/
structure OrCircuit where
  state : OrState
  markedForClose : Bool
  pChanIdentity : Digest
  nChan : Option Digest
  nHop : Option NextHop
  nChanCreateCell : Option CreateCell
  isFirstHop : Bool
  deriving DecidableEq, Repr

/-- A channel to a relay, with its circuit-id state. -/
structure RelayChannel where
  identityDigest : Digest
  circIds : Channel

structure RelayOptions where
  serverMode : Bool
  extendAllowPrivateAddresses : Bool
  /-- tor_addr_is_internal(addr, 0) -/
  addrIsInternal : ℕ → Bool
  /-- create_cell_format_relayed succeeds on the cell -/
  createCellFormatRelayed : CreateCell → Bool

/-- What circuit_extend learns from outside: extend_cell_parse of the relay cell (none when it
fails), channel_get_for_extend (a channel, and should_launch) and channel_connect. -/
structure ExtendOracle where
  cell : Option ExtendCell
  getForExtend : Option RelayChannel
  shouldLaunch : Bool
  connect : Option RelayChannel

/-- The checks circuit_extend returns -1 on before it looks for a channel, in their order. -/
inductive ExtendRefusal
  | nChanSet
  | nHopSet
  | clientMode
  | unparsable
  | zeroDestination
  | privateAddress
  | noIdDigest
  | previousHop
  deriving DecidableEq, Repr

/-- extend_info_new(NULL, node_id, NULL, NULL, addr, port): no nickname and no onion keys. -/
def extendInfoNew (digest : Digest) (ap : AddrPort) : NextHop :=
  ⟨⟨digest, false, false, .inet⟩, ap⟩

/-- circuit_mark_for_close on a relay circuit (circuitlist.c, not under src/): the mark; the
DESTROY cells it sends are not modelled. -/
def circuitMarkForClose (circ : OrCircuit) : OrCircuit :=
  { circ with markedForClose := true }

/-- The checks circuit_extend makes before it looks for a channel, in their order; the parsed
cell when all pass. -/
def circuitExtendChecks (opts : RelayOptions) (circ : OrCircuit) (cell : Option ExtendCell) :
    Except ExtendRefusal ExtendCell :=
  if circ.nChan.isSome then .error .nChanSet
  else if circ.nHop.isSome then .error .nHopSet
  else if !opts.serverMode then .error .clientMode
  else match cell with
  | none => .error .unparsable
  | some ec =>
    if ec.orportIpv4.port = 0 ∨ ec.orportIpv4.addr = 0 then .error .zeroDestination
    else if opts.addrIsInternal ec.orportIpv4.addr ∧ !opts.extendAllowPrivateAddresses then
      .error .privateAddress
    else if ec.nodeId = 0 then .error .noIdDigest
    else if ec.nodeId = circ.pChanIdentity then .error .previousHop
    else .ok ec

/-- The rest of circuit_extend, on a checked cell: with no open channel the circuit records the
next hop and waits, and is closed at once when a launch fails; with one it takes the channel
and its create cell goes out. -/
def circuitExtendToChannel (opts : RelayOptions) (circ : OrCircuit) (o : ExtendOracle)
    (ec : ExtendCell) : ℤ × OrCircuit :=
  match o.getForExtend with
  | none =>
    let circ := { circ with nHop := some (extendInfoNew ec.nodeId ec.orportIpv4),
                            nChanCreateCell := some ec.createCell, state := .chanWait }
    if o.shouldLaunch ∧ o.connect.isNone then (0, circuitMarkForClose circ) else (0, circ)
  | some chan =>
    let circ := { circ with nChan := some chan.identityDigest }
    if circuitDeliverCreateCell chan.circIds (opts.createCellFormatRelayed ec.createCell) < 0 then
      (-1, circ)
    else (0, circ)

/-- circuit_extend. A refusal returns -1 and changes nothing. -/
def circuitExtend (opts : RelayOptions) (circ : OrCircuit) (o : ExtendOracle) :
    Except ExtendRefusal (ℤ × OrCircuit) :=
  (circuitExtendChecks opts circ o.cell).map (circuitExtendToChannel opts circ o)

/-- The rule circuit_extend's contract states: on -1 the caller tears the circuit down. -/
def handleExtend (opts : RelayOptions) (circ : OrCircuit) (o : ExtendOracle) : OrCircuit :=
  match circuitExtend opts circ o with
  | .error _ => circuitMarkForClose circ
  | .ok (r, circ') => if r < 0 then circuitMarkForClose circ' else circ'

/-- The body of circuit_n_chan_done's loop on a relay circuit. `status` is whether the channel
opened, and `sameAddr` is channel_matches_extend_info, read for a hop with no identity. `none`
is the failed tor_assert on the stored create cell. -/
def circuitNChanDone (opts : RelayOptions) (chan : RelayChannel) (status : Bool)
    (sameAddr : NextHop → Bool) (circ : OrCircuit) : Option OrCircuit :=
  match circ.nHop with
  | none => some circ
  | some hop =>
    if circ.markedForClose ∨ circ.nChan.isSome ∨ circ.state ≠ .chanWait then some circ
    else
      let wrongChan := if hop.info.identityDigest = 0 then !sameAddr hop
        else decide (chan.identityDigest ≠ hop.info.identityDigest)
      if wrongChan then some circ
      else if !status then some (circuitMarkForClose circ)
      else
        let circ := { circ with nChan := some chan.identityDigest, nHop := none }
        match circ.nChanCreateCell with
        | none => none
        | some cell =>
          if circuitDeliverCreateCell chan.circIds (opts.createCellFormatRelayed cell) < 0 then
            some (circuitMarkForClose circ)
          else some { circ with nChanCreateCell := none, state := .open }

/-- What onionskin_answer learns from outside: whether created_cell_format and
circuit_init_cpath_crypto succeed, and whether the created cell is CREATED_FAST. -/
structure AnswerOracle where
  formatOk : Bool
  cryptoOk : Bool
  createdFast : Bool
  deriving DecidableEq, Repr

/-- onionskin_answer: the circuit opens before its keys are set up, so a crypto failure leaves
it open. -/
def onionskinAnswer (circ : OrCircuit) (o : AnswerOracle) : ℤ × OrCircuit :=
  if !o.formatOk then (-1, circ)
  else
    let circ := { circ with state := .open }
    if !o.cryptoOk then (-1, circ)
    else (0, { circ with isFirstHop := o.createdFast })

/-- or_circuit_new (circuitlist.c, not under src/): a circuit from the previous hop, waiting
for its onion skin to be processed. -/
def orCircuitNew (pChan : Digest) : OrCircuit :=
  ⟨.onionskinPending, false, pChan, none, none, none, false⟩

/-- A create cell answered: the new circuit, closed when onionskin_answer fails. -/
def answerCreate (pChan : Digest) (o : AnswerOracle) : OrCircuit :=
  let (r, circ) := onionskinAnswer (orCircuitNew pChan) o
  if r < 0 then circuitMarkForClose circ else circ

/-! ## What one call does -/

section Calls

variable {opts : RelayOptions} {circ : OrCircuit} {o : ExtendOracle}

theorem ite_error_eq_ok {ε α : Type} {c : Prop} [Decidable c] {e : ε} {x : Except ε α} {a : α}
    (h : (if c then .error e else x) = .ok a) : ¬c ∧ x = .ok a := by
  by_cases hc : c
  · rw [if_pos hc] at h
    cases h
  · rw [if_neg hc] at h
    exact ⟨hc, h⟩

theorem circuitExtendChecks_ok {cell : Option ExtendCell} {ec : ExtendCell}
    (h : circuitExtendChecks opts circ cell = .ok ec) :
    cell = some ec ∧ circ.nChan = none ∧ circ.nHop = none ∧ opts.serverMode = true ∧
      ec.nodeId ≠ 0 ∧ ec.nodeId ≠ circ.pChanIdentity := by
  unfold circuitExtendChecks at h
  obtain ⟨hc, h⟩ := ite_error_eq_ok h
  obtain ⟨hh, h⟩ := ite_error_eq_ok h
  obtain ⟨hs, h⟩ := ite_error_eq_ok h
  cases cell with
  | none => cases h
  | some ec' =>
    obtain ⟨-, h⟩ := ite_error_eq_ok h
    obtain ⟨-, h⟩ := ite_error_eq_ok h
    obtain ⟨hid, h⟩ := ite_error_eq_ok h
    obtain ⟨hprev, h⟩ := ite_error_eq_ok h
    cases h
    exact ⟨rfl, Option.not_isSome_iff_eq_none.mp hc, Option.not_isSome_iff_eq_none.mp hh,
      by simpa using hs, hid, hprev⟩

theorem circuitExtendToChannel_cases (ec : ExtendCell) :
    let waiting := { circ with nHop := some (extendInfoNew ec.nodeId ec.orportIpv4),
                               nChanCreateCell := some ec.createCell, state := .chanWait }
    (o.getForExtend = none ∧ ((circuitExtendToChannel opts circ o ec).2 = waiting ∨
        (circuitExtendToChannel opts circ o ec).2 = circuitMarkForClose waiting)) ∨
      ∃ chan, o.getForExtend = some chan ∧
        (circuitExtendToChannel opts circ o ec).2 = { circ with nChan := some chan.identityDigest } := by
  intro waiting
  unfold circuitExtendToChannel
  cases hget : o.getForExtend with
  | none =>
    refine .inl ⟨rfl, ?_⟩
    dsimp only
    split_ifs
    exacts [.inr rfl, .inl rfl]
  | some chan =>
    refine .inr ⟨chan, rfl, ?_⟩
    dsimp only
    split_ifs <;> rfl

theorem circuitExtend_client (hs : opts.serverMode = false) :
    ∃ e, circuitExtend opts circ o = .error e := by
  cases h : circuitExtendChecks opts circ o.cell with
  | error e => exact ⟨e, by rw [circuitExtend, h]; rfl⟩
  | ok ec => simp [(circuitExtendChecks_ok h).2.2.2.1] at hs

end Calls

/-! ## What every relay circuit keeps -/

/-- A relay circuit's next hop is neither the empty identity nor the hop the circuit came from,
a circuit waits for a channel only with a create cell to send, and it never both has a channel
and waits for one. -/
structure OrCircuit.NextHopOk (c : OrCircuit) : Prop where
  nChan : ∀ d, c.nChan = some d → d ≠ 0 ∧ d ≠ c.pChanIdentity
  nHop : ∀ h, c.nHop = some h → h.info.identityDigest ≠ 0 ∧ h.info.identityDigest ≠ c.pChanIdentity
  createCell : c.nHop.isSome → c.nChanCreateCell.isSome
  exclusive : c.nChan = none ∨ c.nHop = none

/-- A later value of a relay circuit: the previous hop stays, a mark is never cleared, a
channel to the next hop is kept, and a hop waited for is kept until a channel to it opens. -/
structure OrCircuit.Later (c c' : OrCircuit) : Prop where
  pChan : c'.pChanIdentity = c.pChanIdentity
  marked : c.markedForClose = true → c'.markedForClose = true
  nChan : ∀ d, c.nChan = some d → c'.nChan = some d
  nHop : ∀ h, c.nHop = some h → c'.nHop = some h ∨ c'.nChan = some h.info.identityDigest

namespace OrCircuit

theorem Later.refl (c : OrCircuit) : Later c c := ⟨rfl, id, fun _ => id, fun _ => .inl⟩

theorem Later.trans {c c' c'' : OrCircuit} (h : Later c c') (h' : Later c' c'') : Later c c'' where
  pChan := h'.pChan.trans h.pChan
  marked := h'.marked ∘ h.marked
  nChan d := h'.nChan d ∘ h.nChan d
  nHop hop hh := (h.nHop hop hh).elim (h'.nHop hop) fun hc => .inr (h'.nChan _ hc)

theorem NextHopOk.markForClose {c : OrCircuit} (h : c.NextHopOk) :
    (circuitMarkForClose c).NextHopOk :=
  ⟨h.nChan, h.nHop, h.createCell, h.exclusive⟩

theorem later_markForClose (c : OrCircuit) : Later c (circuitMarkForClose c) :=
  ⟨rfl, fun _ => rfl, fun _ => id, fun _ => .inl⟩

theorem later_of_eq {c c' : OrCircuit} (hp : c'.pChanIdentity = c.pChanIdentity)
    (hm : c'.markedForClose = c.markedForClose) (hc : c'.nChan = c.nChan) (hh : c'.nHop = c.nHop) :
    Later c c' :=
  ⟨hp, fun h => hm.trans h, fun _ h => hc.trans h, fun _ h => .inl (hh.trans h)⟩

end OrCircuit

open OrCircuit

theorem nextHopOk_of_none {c : OrCircuit} (hc : c.nChan = none) (hh : c.nHop = none) :
    c.NextHopOk :=
  ⟨fun _ h => (nomatch hc.symm.trans h), fun _ h => (nomatch hh.symm.trans h),
    fun h => absurd h (by simp [hh]), .inl hc⟩

theorem answerCreate_none (pChan : Digest) (o : AnswerOracle) :
    (answerCreate pChan o).nChan = none ∧ (answerCreate pChan o).nHop = none := by
  unfold answerCreate onionskinAnswer
  split_ifs <;> dsimp only <;> split_ifs <;> exact ⟨rfl, rfl⟩

theorem nextHopOk_answerCreate (pChan : Digest) (o : AnswerOracle) :
    (answerCreate pChan o).NextHopOk :=
  nextHopOk_of_none (answerCreate_none pChan o).1 (answerCreate_none pChan o).2

section Calls

variable {opts : RelayOptions} {circ c' : OrCircuit} {o : ExtendOracle}

theorem handleExtend_cases :
    handleExtend opts circ o = circuitMarkForClose circ ∨
      ∃ ec, circuitExtendChecks opts circ o.cell = .ok ec ∧
        (handleExtend opts circ o = (circuitExtendToChannel opts circ o ec).2 ∨
          handleExtend opts circ o = circuitMarkForClose (circuitExtendToChannel opts circ o ec).2) := by
  unfold handleExtend circuitExtend
  cases hc : circuitExtendChecks opts circ o.cell with
  | error e => exact .inl rfl
  | ok ec =>
    refine .inr ⟨ec, rfl, ?_⟩
    dsimp only [Except.map]
    split_ifs
    exacts [.inr rfl, .inl rfl]

/-- The channel a lookup returns goes to the relay it was asked for. -/
def LookupOk (o : ExtendOracle) : Prop :=
  ∀ chan, o.getForExtend = some chan → ∀ ec, o.cell = some ec → chan.identityDigest = ec.nodeId

theorem nextHopOk_extendToChannel (hlookup : LookupOk o) {ec : ExtendCell}
    (hc : circuitExtendChecks opts circ o.cell = .ok ec) :
    (circuitExtendToChannel opts circ o ec).2.NextHopOk := by
  obtain ⟨hcell, hn, hh, -, hid, hprev⟩ := circuitExtendChecks_ok hc
  have hwait : NextHopOk { circ with
      nHop := some (extendInfoNew ec.nodeId ec.orportIpv4), nChanCreateCell := some ec.createCell,
      state := .chanWait } :=
    ⟨fun _ hd => (nomatch hn.symm.trans hd), fun _ hd => Option.some.inj hd ▸ ⟨hid, hprev⟩,
      fun _ => rfl, .inl hn⟩
  rcases circuitExtendToChannel_cases ec with ⟨-, hr | hr⟩ | ⟨chan, hget, hr⟩ <;> rw [hr]
  · exact hwait
  · exact hwait.markForClose
  · refine ⟨fun d hd => ?_, fun _ hd => (nomatch hh.symm.trans hd), fun hs => ?_, .inr hh⟩
    · rw [← Option.some.inj hd, hlookup chan hget ec hcell]
      exact ⟨hid, hprev⟩
    · simp [hh] at hs

theorem OrCircuit.NextHopOk.handleExtend (h : circ.NextHopOk) (hlookup : LookupOk o) :
    (handleExtend opts circ o).NextHopOk := by
  rcases @handleExtend_cases opts circ o with hr | ⟨ec, hc, hr | hr⟩ <;>
    rw [hr]
  · exact h.markForClose
  · exact nextHopOk_extendToChannel hlookup hc
  · exact (nextHopOk_extendToChannel hlookup hc).markForClose

theorem later_handleExtend : Later circ (handleExtend opts circ o) := by
  rcases @handleExtend_cases opts circ o with hr | ⟨ec, hc, hr | hr⟩ <;>
    rw [hr]
  · exact later_markForClose circ
  all_goals
    obtain ⟨-, hn, hh, -⟩ := circuitExtendChecks_ok hc
    have hto : Later circ (circuitExtendToChannel opts circ o ec).2 := by
      refine ⟨?_, fun hm => ?_, fun _ hd => (nomatch hn.symm.trans hd),
        fun _ hd => (nomatch hh.symm.trans hd)⟩ <;>
      rcases @circuitExtendToChannel_cases opts circ o ec with
        ⟨-, hr | hr⟩ | ⟨chan, -, hr⟩ <;> rw [hr] <;> first | rfl | exact hm
  · exact hto
  · exact hto.trans (later_markForClose _)

end Calls

/-! ## The channel callback -/

section ChanDone

variable {opts : RelayOptions} {chan : RelayChannel} {status : Bool} {sameAddr : NextHop → Bool}
  {circ c' : OrCircuit}

/-- What circuit_n_chan_done does to a circuit that waits for a channel to the relay with
identity `d`: nothing, a close, or the channel to `d`, with the create cell sent or the circuit
closed. -/
theorem circuitNChanDone_cases (h : circ.NextHopOk)
    (hd : circuitNChanDone opts chan status sameAddr circ = some c') :
    c' = circ ∨ c' = circuitMarkForClose circ ∨
      ∃ hop, circ.nHop = some hop ∧ chan.identityDigest = hop.info.identityDigest ∧
        let sent := { circ with nChan := some chan.identityDigest, nHop := none }
        (c' = circuitMarkForClose sent ∨ c' = { sent with nChanCreateCell := none, state := .open }) := by
  unfold circuitNChanDone at hd
  cases hh : circ.nHop with
  | none =>
    rw [hh] at hd
    exact .inl (Option.some.inj hd).symm
  | some hop =>
    rw [hh] at hd
    dsimp only at hd
    rw [if_neg (h.nHop hop hh).1] at hd
    split_ifs at hd with hskip hwrong hstatus
    · exact .inl (Option.some.inj hd).symm
    · exact .inl (Option.some.inj hd).symm
    · exact .inr (.inl (Option.some.inj hd).symm)
    refine .inr (.inr ⟨hop, rfl, by simpa using hwrong, ?_⟩)
    split at hd
    · cases hd
    · split_ifs at hd
      · exact .inl (Option.some.inj hd).symm
      · exact .inr (Option.some.inj hd).symm

theorem OrCircuit.NextHopOk.nChanDone (h : circ.NextHopOk)
    (hd : circuitNChanDone opts chan status sameAddr circ = some c') : c'.NextHopOk := by
  rcases circuitNChanDone_cases h hd with rfl | rfl | ⟨hop, hh, hid, hr | hr⟩
  · exact h
  · exact h.markForClose
  all_goals
    have hsent : NextHopOk { circ with nChan := some chan.identityDigest, nHop := none } := by
      refine ⟨fun d hd => ?_, fun _ hd => (nomatch hd), fun hs => (nomatch hs), .inr rfl⟩
      rw [← Option.some.inj hd, hid]
      exact h.nHop hop hh
    subst hr
  · exact hsent.markForClose
  · exact ⟨hsent.nChan, hsent.nHop, fun hs => (nomatch hs), hsent.exclusive⟩

theorem later_nChanDone (h : circ.NextHopOk)
    (hd : circuitNChanDone opts chan status sameAddr circ = some c') : Later circ c' := by
  rcases circuitNChanDone_cases h hd with rfl | rfl | ⟨hop, hh, hid, hr | hr⟩
  · exact .refl _
  · exact later_markForClose _
  all_goals
    -- the hop waited for is now the channel's relay
    have hsent : Later circ { circ with nChan := some chan.identityDigest, nHop := none } := by
      refine ⟨rfl, id, fun _ hd => ?_, fun hop' hh' => .inr ?_⟩
      · exact absurd hd (by rw [h.exclusive.resolve_right (by rw [hh]; exact Option.some_ne_none hop)]; simp)
      · rw [hh, Option.some.injEq] at hh'
        rw [← hh', hid]
    subst hr
  · exact hsent.trans (later_markForClose _)
  · exact hsent.trans ⟨rfl, id, fun _ => id, fun _ hd => (nomatch hd)⟩

/-- channel_matches_extend_info for a hop with no identity, the identity otherwise: whether
the channel goes to the hop. -/
def chanMatches (chan : RelayChannel) (sameAddr : NextHop → Bool) (hop : NextHop) : Bool :=
  if hop.info.identityDigest = 0 then sameAddr hop
  else decide (chan.identityDigest = hop.info.identityDigest)

/-- A circuit the callback for `chan` acts on: live, without a channel, waiting, and for a hop
the channel goes to. -/
def WaitsFor (chan : RelayChannel) (sameAddr : NextHop → Bool) (c : OrCircuit) : Prop :=
  c.markedForClose = false ∧ c.nChan = none ∧ c.state = .chanWait ∧
    ∃ hop, c.nHop = some hop ∧ chanMatches chan sameAddr hop = true

theorem circuitNChanDone_waitsFor (hd : circuitNChanDone opts chan status sameAddr circ = some c') :
    (WaitsFor chan sameAddr circ → c'.markedForClose = true ∨
      (status = true ∧ c'.nChan = some chan.identityDigest ∧ c'.nHop = none ∧
        c'.state = .open)) ∧
    (¬WaitsFor chan sameAddr circ → c' = circ) := by
  unfold circuitNChanDone at hd
  cases hh : circ.nHop with
  | none =>
    rw [hh, Option.some.injEq] at hd
    exact ⟨fun ⟨_, _, _, _, h, _⟩ => (nomatch hh.symm.trans h), fun _ => hd.symm⟩
  | some hop =>
    have hwrong : (if hop.info.identityDigest = 0 then !sameAddr hop
        else decide (chan.identityDigest ≠ hop.info.identityDigest)) =
        !chanMatches chan sameAddr hop := by
      unfold chanMatches; split <;> simp
    rw [hh] at hd
    dsimp only at hd
    rw [hwrong] at hd
    by_cases hskip : circ.markedForClose ∨ circ.nChan.isSome ∨ circ.state ≠ .chanWait
    · rw [if_pos hskip, Option.some.injEq] at hd
      exact ⟨fun ⟨hm, hn, hs, _⟩ => absurd hskip (by simp [hm, hn, hs]), fun _ => hd.symm⟩
    rw [if_neg hskip] at hd
    have hw : circ.markedForClose = false ∧ circ.nChan = none ∧ circ.state = .chanWait := by
      simpa [not_or] using hskip
    by_cases hm : chanMatches chan sameAddr hop = true
    case neg =>
      rw [if_pos (by simpa using hm), Option.some.injEq] at hd
      exact ⟨fun ⟨_, _, _, hop', hh', hm'⟩ =>
        absurd (Option.some.inj (hh.symm.trans hh') ▸ hm') hm, fun _ => hd.symm⟩
    case pos =>
      refine ⟨fun _ => ?_, fun hn => absurd ⟨hw.1, hw.2.1, hw.2.2, hop, hh, hm⟩ hn⟩
      rw [hm, Bool.not_true, if_neg Bool.false_ne_true] at hd
      cases status with
      | false =>
        rw [Bool.not_false, if_pos rfl, Option.some.injEq] at hd
        exact .inl (hd ▸ rfl)
      | true =>
        rw [Bool.not_true, if_neg Bool.false_ne_true] at hd
        split at hd
        · cases hd
        · split_ifs at hd <;> rw [Option.some.injEq] at hd <;> subst hd
          exacts [.inl rfl, .inr ⟨rfl, rfl, rfl, rfl⟩]

theorem circuitNChanDone_isSome (h : circ.NextHopOk) :
    (circuitNChanDone opts chan status sameAddr circ).isSome := by
  unfold circuitNChanDone
  cases hh : circ.nHop with
  | none => rfl
  | some hop =>
    obtain ⟨cell, hcell⟩ := Option.isSome_iff_exists.mp (h.createCell (by rw [hh]; rfl))
    dsimp only
    rw [hcell]
    -- every branch but the failed assertion returns a circuit
    simp only [apply_ite Option.isSome, Option.isSome_some, ite_self]

end ChanDone

/-! ## Runs

circuit_n_chan_done runs its body over the circuits pending on the channel. The body itself skips
every circuit that is not, so the loop is modelled over all the relay's circuits. -/

section Lists

variable {α β : Type} {f : α → Option β}

theorem mapM_cons_eq_some {a : α} {l : List α} {l' : List β} (h : (a :: l).mapM f = some l') :
    ∃ b bs, f a = some b ∧ l.mapM f = some bs ∧ l' = b :: bs := by
  simp only [List.mapM_cons, Option.bind_eq_bind, Option.bind_eq_some, Option.pure_def,
    Option.some.injEq] at h
  obtain ⟨b, hb, bs, hbs, rfl⟩ := h
  exact ⟨b, bs, hb, hbs, rfl⟩

theorem mem_of_mapM_eq_some : ∀ {l : List α} {l' : List β}, l.mapM f = some l' →
    ∀ b ∈ l', ∃ a ∈ l, f a = some b
  | [], l', h => by
    rw [List.mapM_nil, Option.pure_def, Option.some.injEq] at h
    simp [← h]
  | a :: l, l', h => by
    obtain ⟨b, bs, hb, hbs, rfl⟩ := mapM_cons_eq_some h
    intro b' hb'
    rcases List.mem_cons.mp hb' with rfl | hb'
    · exact ⟨a, List.mem_cons_self a l, hb⟩
    · obtain ⟨a', ha', h'⟩ := mem_of_mapM_eq_some hbs b' hb'
      exact ⟨a', List.mem_cons_of_mem a ha', h'⟩

theorem getElem?_of_mapM_eq_some : ∀ {l : List α} {l' : List β}, l.mapM f = some l' →
    ∀ {j : ℕ} {a : α}, l[j]? = some a → ∃ b, l'[j]? = some b ∧ f a = some b
  | [], _, _, _, _, hj => nomatch hj
  | a :: l, l', h, j, a', hj => by
    obtain ⟨b, bs, hb, hbs, rfl⟩ := mapM_cons_eq_some h
    cases j with
    | zero =>
      rw [List.getElem?_cons_zero, Option.some.injEq] at hj
      exact ⟨b, List.getElem?_cons_zero, hj ▸ hb⟩
    | succ j =>
      rw [List.getElem?_cons_succ] at hj ⊢
      exact getElem?_of_mapM_eq_some hbs hj

theorem length_of_mapM_eq_some : ∀ {l : List α} {l' : List β}, l.mapM f = some l' →
    l'.length = l.length
  | [], l', h => by
    rw [List.mapM_nil, Option.pure_def, Option.some.injEq] at h
    subst h
    rfl
  | a :: l, l', h => by
    obtain ⟨b, bs, -, hbs, rfl⟩ := mapM_cons_eq_some h
    exact congrArg (· + 1) (length_of_mapM_eq_some hbs)

theorem mapM_isSome : ∀ {l : List α}, (∀ a ∈ l, (f a).isSome) → (l.mapM f).isSome
  | [], _ => rfl
  | a :: l, h => by
    obtain ⟨b, hb⟩ := Option.isSome_iff_exists.mp (h a (List.mem_cons_self a l))
    obtain ⟨bs, hbs⟩ := Option.isSome_iff_exists.mp
      (mapM_isSome fun a' ha' => h a' (List.mem_cons_of_mem a ha'))
    rw [List.mapM_cons, hb, hbs]
    rfl

end Lists

/-- One event at the relay: a create cell answered, which adds a circuit from the previous hop
`pChan`; an EXTEND cell on a circuit; a channel that opened or failed; or a close. -/
inductive Step (opts : RelayOptions) : List OrCircuit → List OrCircuit → Prop
  | create {circs : List OrCircuit} (pChan : Digest) (o : AnswerOracle) :
      Step opts circs (circs ++ [answerCreate pChan o])
  | extend {circs : List OrCircuit} (i : ℕ) (o : ExtendOracle) {circ : OrCircuit}
      (hc : circs[i]? = some circ) (hlookup : LookupOk o) :
      Step opts circs (circs.set i (handleExtend opts circ o))
  | chanDone {circs circs' : List OrCircuit} (chan : RelayChannel) (status : Bool)
      (sameAddr : NextHop → Bool)
      (h : circs.mapM (circuitNChanDone opts chan status sameAddr) = some circs') :
      Step opts circs circs'
  | close {circs : List OrCircuit} (i : ℕ) {circ : OrCircuit} (hc : circs[i]? = some circ) :
      Step opts circs (circs.set i (circuitMarkForClose circ))

inductive Reachable (opts : RelayOptions) (init : List OrCircuit) : List OrCircuit → Prop
  | init : Reachable opts init init
  | step {circs circs' : List OrCircuit} : Reachable opts init circs → Step opts circs circs' →
      Reachable opts init circs'

/-- Each circuit of the earlier list has a later value at its index. -/
def LaterAll (l l' : List OrCircuit) : Prop :=
  ∀ (j : ℕ) (c : OrCircuit), l[j]? = some c → ∃ c', l'[j]? = some c' ∧ Later c c'

theorem LaterAll.refl (l : List OrCircuit) : LaterAll l l := fun _ c hc => ⟨c, hc, .refl c⟩

theorem LaterAll.trans {l l' l'' : List OrCircuit} (h : LaterAll l l') (h' : LaterAll l' l'') :
    LaterAll l l'' := fun j c hc => by
  obtain ⟨c', hc', hl⟩ := h j c hc
  obtain ⟨c'', hc'', hl'⟩ := h' j c' hc'
  exact ⟨c'', hc'', hl.trans hl'⟩

theorem laterAll_set {l : List OrCircuit} {i : ℕ} {c c' : OrCircuit} (hc : l[i]? = some c)
    (hl : Later c c') : LaterAll l (l.set i c') := fun j c₀ hc₀ => by
  rw [List.getElem?_set]
  by_cases hij : i = j
  · subst hij
    obtain rfl := Option.some.inj (hc.symm.trans hc₀)
    exact ⟨c', by rw [if_pos rfl, if_pos (List.getElem?_eq_some_iff.mp hc).1], hl⟩
  · exact ⟨c₀, by rw [if_neg hij, hc₀], .refl c₀⟩

section Steps

variable {opts : RelayOptions} {circs circs' : List OrCircuit}

theorem nextHopOk_step (hall : ∀ c ∈ circs, c.NextHopOk) (hstep : Step opts circs circs') :
    ∀ c ∈ circs', c.NextHopOk := by
  cases hstep with
  | create pChan o =>
    intro c hc
    rcases List.mem_append.mp hc with hc | hc
    · exact hall c hc
    · rw [List.mem_singleton.mp hc]
      exact nextHopOk_answerCreate pChan o
  | extend i o hc hlookup =>
    intro c hmem
    rcases List.mem_or_eq_of_mem_set hmem with hmem | rfl
    · exact hall c hmem
    · exact (hall _ (List.getElem?_mem hc)).handleExtend hlookup
  | chanDone chan status sameAddr h =>
    intro c hmem
    obtain ⟨c₀, hc₀, hd⟩ := mem_of_mapM_eq_some h c hmem
    exact (hall c₀ hc₀).nChanDone hd
  | close i hc =>
    intro c hmem
    rcases List.mem_or_eq_of_mem_set hmem with hmem | rfl
    · exact hall c hmem
    · exact (hall _ (List.getElem?_mem hc)).markForClose

theorem laterAll_step (hall : ∀ c ∈ circs, c.NextHopOk) (hstep : Step opts circs circs') :
    LaterAll circs circs' := by
  cases hstep with
  | create pChan o => exact fun j c hc => ⟨c, List.getElem?_append_left
      (List.getElem?_eq_some_iff.mp hc).1 ▸ hc, .refl c⟩
  | extend i o hc hlookup => exact laterAll_set hc later_handleExtend
  | chanDone chan status sameAddr h =>
    intro j c hc
    obtain ⟨c', hc', hd⟩ := getElem?_of_mapM_eq_some h hc
    exact ⟨c', hc', later_nChanDone (hall c (List.getElem?_mem hc)) hd⟩
  | close i hc => exact laterAll_set hc (later_markForClose _)

end Steps

section Runs

variable {opts : RelayOptions} {init circs : List OrCircuit}

theorem nextHopOk_of_reachable (hinit : ∀ c ∈ init, c.NextHopOk) (h : Reachable opts init circs) :
    ∀ c ∈ circs, c.NextHopOk := by
  induction h with
  | init => exact hinit
  | step _ hstep ih => exact nextHopOk_step ih hstep

/-- From any relay state whose circuits have well-formed next hops, over any interleaving of
answered creates, EXTEND cells (with channel_get_for_extend returning a channel to the relay
asked for), channel callbacks and closes: no circuit's next hop, pending or connected, is the
empty identity or the hop the circuit came from, no circuit both has a channel and waits for
one, and circuit_n_chan_done never fails its assertion on the stored create cell. -/
theorem reachable_nextHopOk (hinit : ∀ c ∈ init, c.NextHopOk) (h : Reachable opts init circs) :
    (∀ c ∈ circs, c.NextHopOk) ∧ ∀ chan status sameAddr,
      (circs.mapM (circuitNChanDone opts chan status sameAddr)).isSome :=
  have hall := nextHopOk_of_reachable hinit h
  ⟨hall, fun _ _ _ => mapM_isSome fun c hc => circuitNChanDone_isSome (hall c hc)⟩

/-- Over the same runs every circuit keeps its index and its previous hop, a mark is never
cleared, a channel to the next hop is never replaced, and a hop the circuit waits for is kept
until the channel that opens for it is to that very relay: no later EXTEND cell or channel
redirects a circuit. -/
theorem reachable_nextHop_kept (hinit : ∀ c ∈ init, c.NextHopOk) (h : Reachable opts init circs) :
    LaterAll init circs := by
  induction h with
  | init => exact .refl init
  | step hreach hstep ih =>
    exact ih.trans (laterAll_step (nextHopOk_of_reachable hinit hreach) hstep)

/-- A relay that is not in server mode refuses every EXTEND cell, so a circuit that starts
without a next hop never gets one. -/
theorem reachable_client_noNextHop (hs : opts.serverMode = false)
    (hinit : ∀ c ∈ init, c.nChan = none ∧ c.nHop = none) (h : Reachable opts init circs) :
    ∀ c ∈ circs, c.nChan = none ∧ c.nHop = none := by
  induction h with
  | init => exact hinit
  | step _ hstep ih =>
    cases hstep with
    | create pChan o =>
      intro c hc
      rcases List.mem_append.mp hc with hc | hc
      · exact ih c hc
      · exact List.mem_singleton.mp hc ▸ answerCreate_none pChan o
    | extend i o hc _ =>
      intro c hmem
      rcases List.mem_or_eq_of_mem_set hmem with hmem | rfl
      · exact ih c hmem
      · obtain ⟨e, he⟩ := @circuitExtend_client opts _ o hs
        rw [handleExtend, he]
        have := ih _ (List.getElem?_mem hc)
        exact this
    | chanDone chan status sameAddr hd =>
      intro c hmem
      obtain ⟨c₀, hc₀, hd⟩ := mem_of_mapM_eq_some hd c hmem
      have hnone := ih c₀ hc₀
      rw [circuitNChanDone, hnone.2, Option.some.injEq] at hd
      exact hd ▸ hnone
    | close i hc =>
      intro c hmem
      rcases List.mem_or_eq_of_mem_set hmem with hmem | rfl
      · exact ih c hmem
      · have := ih _ (List.getElem?_mem hc)
        exact this

end Runs

/-- A relay in server mode that extends to public addresses only, and whose cells format. -/
def publicRelay : RelayOptions := ⟨true, false, fun _ => false, fun _ => true⟩

/-- A channel to relay 9 with circuit ids free from 1. -/
def chan9 : RelayChannel := ⟨9, ⟨1, false, .lower, fun _ => false⟩⟩

/-- An EXTEND cell to relay 9 at 1:9001, with no open channel to it yet and a launch that
starts. -/
def extendTo9 : ExtendOracle := ⟨some ⟨⟨1, 9001⟩, 9, ⟨.ntor⟩⟩, none, true, some chan9⟩

/-- The circuit from relay 7, waiting for its channel to relay 9. -/
def waitingFor9 : List OrCircuit :=
  [⟨.chanWait, false, 7, none, some (extendInfoNew 9 ⟨1, 9001⟩), some ⟨.ntor⟩, false⟩]

/-- The same circuit once the channel to relay 9 opened and the create cell went out. -/
def extendedTo9 : List OrCircuit := [⟨.open, false, 7, some 9, none, none, false⟩]

theorem extendedTo9_reachable : Reachable publicRelay [] extendedTo9 := by
  have h₀ : Reachable publicRelay [] [answerCreate 7 ⟨true, true, false⟩] :=
    .step .init (.create 7 ⟨true, true, false⟩)
  have h₁ : Reachable publicRelay [] waitingFor9 := by
    have e : [answerCreate 7 ⟨true, true, false⟩].set 0
        (handleExtend publicRelay (answerCreate 7 ⟨true, true, false⟩) extendTo9) = waitingFor9 :=
      rfl
    exact e ▸ h₀.step (.extend 0 extendTo9 rfl fun _ h => (nomatch h))
  exact .step h₁ (.chanDone chan9 true (fun _ => false) rfl)

theorem extendedTo9_nextHopOk :
    (∀ c ∈ ([] : List OrCircuit), c.NextHopOk) ∧
      ((∀ c ∈ extendedTo9, c.NextHopOk) ∧ ∀ chan status sameAddr,
        (extendedTo9.mapM (circuitNChanDone publicRelay chan status sameAddr)).isSome) :=
  ⟨List.forall_mem_nil _, reachable_nextHopOk (List.forall_mem_nil _) extendedTo9_reachable⟩

theorem waitingFor9_kept :
    (∀ c ∈ waitingFor9, c.NextHopOk) ∧ Reachable publicRelay waitingFor9 extendedTo9 ∧
      LaterAll waitingFor9 extendedTo9 :=
  have hok : ∀ c ∈ waitingFor9, c.NextHopOk := by
    intro c hc
    rw [List.mem_singleton.mp hc]
    exact ⟨fun _ h => (nomatch h), fun _ h => Option.some.inj h ▸ ⟨by decide, by decide⟩,
      fun _ => rfl, .inl rfl⟩
  have hrun : Reachable publicRelay waitingFor9 extendedTo9 :=
    .step .init (.chanDone chan9 true (fun _ => false) rfl)
  ⟨hok, hrun, reachable_nextHop_kept hok hrun⟩

/-- The same relay run as a client. -/
def clientRelay : RelayOptions := ⟨false, false, fun _ => false, fun _ => true⟩

/-- The circuit from relay 7, closed after its EXTEND cell was refused. -/
def refusedAt7 : List OrCircuit := [⟨.open, true, 7, none, none, none, false⟩]

theorem refusedAt7_noNextHop :
    clientRelay.serverMode = false ∧ (∀ c ∈ ([] : List OrCircuit), c.nChan = none ∧ c.nHop = none) ∧
      Reachable clientRelay [] refusedAt7 ∧ ∀ c ∈ refusedAt7, c.nChan = none ∧ c.nHop = none :=
  have hrun : Reachable clientRelay [] refusedAt7 := by
    have e : [answerCreate 7 ⟨true, true, false⟩].set 0
        (handleExtend clientRelay (answerCreate 7 ⟨true, true, false⟩) extendTo9) = refusedAt7 :=
      rfl
    exact e ▸ (Reachable.init.step (.create 7 ⟨true, true, false⟩)).step
      (.extend 0 extendTo9 rfl fun _ h => (nomatch h))
  ⟨rfl, List.forall_mem_nil _, hrun, reachable_client_noNextHop rfl (List.forall_mem_nil _) hrun⟩

/-- circuit_n_chan_done resolves every circuit that waits for the channel and touches no other:
over all the relay's circuits, none is added or lost, each circuit that was live, without a
channel and waiting for a hop this channel goes to is closed or, when the channel opened, sent
on it and open, and every other circuit is as it was. -/
theorem circuitNChanDone_resolves {opts : RelayOptions} {chan : RelayChannel} {status : Bool}
    {sameAddr : NextHop → Bool} {circs circs' : List OrCircuit}
    (h : circs.mapM (circuitNChanDone opts chan status sameAddr) = some circs') :
    circs'.length = circs.length ∧ ∀ (j : ℕ) c, circs[j]? = some c →
      ∃ c', circs'[j]? = some c' ∧
        (WaitsFor chan sameAddr c → c'.markedForClose = true ∨
          (status = true ∧ c'.nChan = some chan.identityDigest ∧ c'.nHop = none ∧
            c'.state = .open)) ∧
        (¬WaitsFor chan sameAddr c → c' = c) := by
  refine ⟨length_of_mapM_eq_some h, fun j c hc => ?_⟩
  obtain ⟨c', hc', hd⟩ := getElem?_of_mapM_eq_some h hc
  exact ⟨c', hc', circuitNChanDone_waitsFor hd⟩

theorem waitingFor9_resolved :
    waitingFor9.mapM (circuitNChanDone publicRelay chan9 true fun _ => false) = some extendedTo9 ∧
      (extendedTo9.length = waitingFor9.length ∧ ∀ (j : ℕ) c, waitingFor9[j]? = some c →
        ∃ c', extendedTo9[j]? = some c' ∧
          (WaitsFor chan9 (fun _ => false) c → c'.markedForClose = true ∨
            (true = true ∧ c'.nChan = some chan9.identityDigest ∧ c'.nHop = none ∧
              c'.state = .open)) ∧
          (¬WaitsFor chan9 (fun _ => false) c → c' = c)) :=
  ⟨rfl, @circuitNChanDone_resolves publicRelay chan9 true (fun _ => false) _ _ rfl⟩

end TorCircuitBuild.Relay
