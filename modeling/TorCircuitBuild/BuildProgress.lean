import TorCircuitBuild.BuildBooks
import TorCircuitBuild.GuardLatch
import TorCircuitBuild.HopShape

set_option autoImplicit false

/-!
# Every path the machine chose can be built

The safety results say what no run does. This module says that the build machine does not get
stuck: a live circuit in CHAN_WAIT, fresh from path selection, opens once its channel opens
and each hop answers. The channel callback sends the first create; each created or extended
reply opens the hop awaiting keys, and circuit_send_next_onion_skin extends to the next closed
hop, until none is left and the circuit opens. Each event moves the circuit along one hop, so
the run is by induction on the number of hops still closed.

The run asks of the outside what a successful build needs: a free circuit id on the channel,
onion skins, cells and relay sends that succeed, good replies, and IPv4 hops. The path-bias
accountant counts the attempt and the success at the circuit's guard, and refuses the attempt
only at a guard the close-rate check leaves disabled: never at an enabled guard while
PathBiasDropGuards is off.
-/

namespace TorCircuitBuild.Build

open PathBias PathSelection Sys CircId

/-- A channel end that can allocate: not NEITHER, with some id of its side free. -/
def FreeChan (chan : Channel) : Prop :=
  chan.circIdType ≠ .neither ∧
    ∃ t, 1 ≤ t ∧ t < 2 ^ circIdWidth chan ∧ chan.circIdInUse (t ||| highBit chan) = false

/-- An onion-skin oracle under which every send succeeds. -/
def SkinOk (o : SkinOracle) : Prop :=
  FreeChan o.chan ∧ o.skinOk = true ∧ o.formatOk = true ∧ o.relayOk = true

/-- The reply every hop answers with when the handshake and the keys work. -/
def goodReply : ReplyOracle := ⟨true, true⟩

theorem circuitDeliverCreateCell_free {chan : Channel} (h : FreeChan chan) :
    circuitDeliverCreateCell chan true = 0 := by
  obtain ⟨id, chan', hrun, -, hzero⟩ := getUniqueCircIdByChan_spec chan
  have hid : id ≠ 0 := fun h0 => by
    obtain ⟨t, ht, ht', hfree⟩ := h.2
    rcases hzero h0 with hn | hall
    · exact h.1 hn
    · simp [hall t ht ht'] at hfree
  simp [circuitDeliverCreateCell, hrun, hid]

/-! ## A guard that stays enabled -/

/-- The circuit's guard, when the store has one, is enabled, and PathBiasDropGuards is off, so
that no close-rate check disables it. -/
def GuardEnabled (cfg : Config) (sys : Sys) (c : OriginCircuit) : Prop :=
  ∀ d g, guardOf sys c = some (d, g) →
    g.pathBiasDisabled = false ∧ pathbiasGetDropguards cfg.options cfg.consensus = 0

section Enabled

variable {cfg : Config} {sys : Sys} {i : ℕ} {c : OriginCircuit}

theorem GuardEnabled.of_guardOf {sys' : Sys} {c' : OriginCircuit} (hg : GuardEnabled cfg sys c)
    (h : guardOf sys' c' = guardOf sys c) : GuardEnabled cfg sys' c' :=
  fun d g h' => hg d g (h ▸ h')

theorem GuardEnabled.setGuard (hg : GuardEnabled cfg sys c) {d : Digest} {g g' : EntryGuard}
    (hd : guardOf sys c = some (d, g)) (hg' : g'.pathBiasDisabled = false) (c' : OriginCircuit)
    (hfirst : firstHopId c' = firstHopId c) : GuardEnabled cfg (sys.setGuard d g') c' := by
  intro d' g'' h
  obtain ⟨hfd, -⟩ := guardOf_eq_some hd
  obtain ⟨hfd', hg''⟩ := guardOf_eq_some h
  rw [hfirst, hfd, Option.some.injEq] at hfd'
  subst hfd'
  rw [setGuard_guards, if_pos rfl, Option.some.injEq] at hg''
  subst hg''
  exact ⟨hg', (hg _ _ hd).2⟩

theorem pathbiasMeasureCloseRate_disabled_eq
    (hdrop : pathbiasGetDropguards cfg.options cfg.consensus = 0) (circs : List OriginCircuit)
    (d : Digest) (g : EntryGuard) :
    (pathbiasMeasureCloseRate cfg circs d g).pathBiasDisabled = g.pathBiasDisabled := by
  unfold pathbiasMeasureCloseRate
  simp only [hdrop, ne_eq, not_true_eq_false, ite_false]
  split_ifs <;> rfl

theorem entryGuardIncCircAttemptCount_enabled
    (hdrop : pathbiasGetDropguards cfg.options cfg.consensus = 0) (circs : List OriginCircuit)
    (d : Digest) {g : EntryGuard} (hg : g.pathBiasDisabled = false) :
    (entryGuardIncCircAttemptCount cfg circs d g).1 = 0 ∧
      (entryGuardIncCircAttemptCount cfg circs d g).2.pathBiasDisabled = false := by
  have hm := (pathbiasMeasureCloseRate_disabled_eq hdrop circs d g).trans hg
  unfold entryGuardIncCircAttemptCount
  rw [if_neg (by simp [hm])]
  exact ⟨rfl, ((EntryGuard.flag_bump _ _ .disabled).trans (flag_pathbiasScaleCloseRates ..)).trans hm⟩

theorem pathbiasCountBuildAttempt_enabled (hc : sys.circuits[i]? = some c)
    (hg : GuardEnabled cfg sys c) :
    ∃ sys₁ ps, pathbiasCountBuildAttempt cfg sys i = (none, sys₁) ∧
      sys₁.circuits[i]? = some { c with pathState := ps } ∧
      GuardEnabled cfg sys₁ { c with pathState := ps } := by
  have hstay : ∃ sys₁ ps, ((none : Option EndCircReason), sys) = (none, sys₁) ∧
      sys₁.circuits[i]? = some { c with pathState := ps } ∧
      GuardEnabled cfg sys₁ { c with pathState := ps } := ⟨sys, c.pathState, rfl, hc, hg⟩
  unfold pathbiasCountBuildAttempt
  rw [hc]
  dsimp only
  cases hd : guardOf sys c with
  | none =>
    dsimp only
    split_ifs <;> exact hstay
  | some dg =>
    obtain ⟨d, g⟩ := dg
    obtain ⟨hdis, hdrop⟩ := hg d g hd
    by_cases hcount : (!pathbiasShouldCount cfg.options c) = true
    · rw [if_pos hcount]; exact hstay
    by_cases hnew : pathbiasIsNewCircAttempt c = true ∧ (!c.hasOpened) = true
    swap
    · rw [if_neg hcount, if_neg hnew]; exact hstay
    by_cases hps : c.pathState = .newCirc
    swap
    · rw [if_neg hcount, if_pos hnew]; dsimp only; rw [if_neg hps]; exact hstay
    rw [if_neg hcount, if_pos hnew]
    dsimp only
    rw [if_pos hps]
    simp only [setPathState, modifyCirc_guards, (guardOf_eq_some hd).2]
    obtain ⟨hr, hdis'⟩ := entryGuardIncCircAttemptCount_enabled hdrop
      (sys.modifyCirc i fun c => { c with pathState := .buildAttempted }).circuits d hdis
    rw [if_neg (by rw [hr]; decide)]
    exact ⟨_, .buildAttempted, rfl, getElem?_modifyCirc_self hc _, hg.setGuard hd hdis' _ rfl⟩

theorem pathbiasCountBuildSuccess_enabled (hc : sys.circuits[i]? = some c)
    (hg : GuardEnabled cfg sys c) :
    ∃ ps, (pathbiasCountBuildSuccess cfg sys i).circuits[i]? = some { c with pathState := ps } ∧
      GuardEnabled cfg (pathbiasCountBuildSuccess cfg sys i) { c with pathState := ps } := by
  unfold pathbiasCountBuildSuccess
  rw [hc]
  dsimp only
  cases hd : guardOf sys c with
  | none =>
    dsimp only
    split_ifs <;> exact ⟨c.pathState, hc, hg⟩
  | some dg =>
    obtain ⟨d, g⟩ := dg
    dsimp only
    split_ifs
    · exact ⟨c.pathState, hc, hg⟩
    · exact ⟨.buildSucceeded, getElem?_modifyCirc_self hc _,
        hg.setGuard hd ((EntryGuard.flag_bump g .circSuccesses .disabled).trans (hg d g hd).1) _ rfl⟩
    all_goals exact ⟨c.pathState, hc, hg⟩

end Enabled

/-! ## A circuit on its way to open -/

/-- Circuit `i` on the happy path from `c₀`: live, in state `s`, with the hop states of `p`,
the purpose and relays of `c₀`, and its guard enabled. -/
structure OnTrack (cfg : Config) (c₀ : OriginCircuit) (sys : Sys) (i : ℕ) (p : HopProfile)
    (s : CircuitState) (c : OriginCircuit) : Prop where
  get : sys.circuits[i]? = some c
  state : c.state = s
  hops : hopStates c = p.states
  live : c.markedForClose = false
  purpose : c.purpose = c₀.purpose
  infos : c.cpath.map (·.extendInfo) = c₀.cpath.map (·.extendInfo)
  guard : GuardEnabled cfg sys c

section Track

variable {cfg : Config} {c₀ c : OriginCircuit} {sys : Sys} {i : ℕ} {p : HopProfile}
  {s : CircuitState}

theorem firstHopId_eq_of_infos {c c' : OriginCircuit}
    (h : c'.cpath.map (·.extendInfo) = c.cpath.map (·.extendInfo)) :
    firstHopId c' = firstHopId c := by
  have := congrArg (fun l => l.head?.map (·.identityDigest)) h
  simpa [firstHopId, List.head?_map, Option.map_map] using this

theorem OnTrack.modifyCirc (ht : OnTrack cfg c₀ sys i p s c) (f : OriginCircuit → OriginCircuit)
    {p' : HopProfile} {s' : CircuitState} (hs : (f c).state = s')
    (hp : hopStates (f c) = p'.states) (hm : (f c).markedForClose = c.markedForClose)
    (hpur : (f c).purpose = c.purpose)
    (hinfo : (f c).cpath.map (·.extendInfo) = c.cpath.map (·.extendInfo)) :
    OnTrack cfg c₀ (sys.modifyCirc i f) i p' s' (f c) where
  get := getElem?_modifyCirc_self ht.get f
  state := hs
  hops := hp
  live := hm.trans ht.live
  purpose := hpur.trans ht.purpose
  infos := hinfo.trans ht.infos
  guard := ht.guard.of_guardOf <| by
    simp only [guardOf, modifyCirc_guards, firstHopId_eq_of_infos hinfo]

theorem OnTrack.cpath_ne_nil (ht : OnTrack cfg c₀ sys i p s c) (hp : p.states ≠ []) :
    c.cpath ≠ [] := by
  have := ht.hops ▸ hp
  simpa [hopStates] using this

theorem OnTrack.sent (ht : OnTrack cfg c₀ sys i p .building c) :
    LiveWith sys i (·.state ≠ .chanWait) :=
  ⟨c, ht.get, ht.live, by simp [ht.state]⟩

theorem OnTrack.inet (ht : OnTrack cfg c₀ sys i p s c)
    (hinet : ∀ h ∈ c₀.cpath, h.extendInfo.addrFamily = .inet) {k : ℕ} {hop : CryptPath}
    (hk : c.cpath[k]? = some hop) : hop.extendInfo.addrFamily = .inet := by
  have hmem : hop.extendInfo ∈ c₀.cpath.map (·.extendInfo) :=
    ht.infos ▸ List.mem_map_of_mem _ (List.getElem?_mem hk)
  obtain ⟨h₀, hh₀, he⟩ := List.mem_map.mp hmem
  exact he ▸ hinet h₀ hh₀

theorem OnTrack.withPathState (ht : OnTrack cfg c₀ sys i p s c) {sys' : Sys} {ps : PathState}
    (hget : sys'.circuits[i]? = some { c with pathState := ps })
    (hguard : GuardEnabled cfg sys' { c with pathState := ps }) :
    OnTrack cfg c₀ sys' i p s { c with pathState := ps } :=
  ⟨hget, ht.state, ht.hops, ht.live, ht.purpose, ht.infos, hguard⟩

theorem OnTrack.countBuildAttempt (ht : OnTrack cfg c₀ sys i p s c) :
    ∃ sys' c', pathbiasCountBuildAttempt cfg sys i = (none, sys') ∧
      OnTrack cfg c₀ sys' i p s c' := by
  obtain ⟨sys', ps, he, hget, hguard⟩ := pathbiasCountBuildAttempt_enabled ht.get ht.guard
  exact ⟨sys', _, he, ht.withPathState hget hguard⟩

theorem OnTrack.countBuildSuccess (ht : OnTrack cfg c₀ sys i p s c) :
    ∃ c', OnTrack cfg c₀ (pathbiasCountBuildSuccess cfg sys i) i p s c' := by
  obtain ⟨ps, hget, hguard⟩ := pathbiasCountBuildSuccess_enabled ht.get ht.guard
  exact ⟨_, ht.withPathState hget hguard⟩

theorem map_extendInfo_setHops (l : List CryptPath) (k : ℕ) (x : Option HandshakeType)
    (st : CpathState) :
    ((l.modify (fun h => { h with handshakeState := x }) k).modify
      (fun h => { h with state := st }) k).map (·.extendInfo) = l.map (·.extendInfo) := by
  rw [@map_extendInfo_modify (fun h => { h with state := st }) (fun _ => rfl),
    @map_extendInfo_modify (fun h => { h with handshakeState := x }) (fun _ => rfl)]

theorem hopStates_setHops (c : OriginCircuit) (k : ℕ) (x : Option HandshakeType)
    (st : CpathState) :
    ((c.cpath.modify (fun h => { h with handshakeState := x }) k).modify
      (fun h => { h with state := st }) k).map (·.state) =
      (hopStates c).modify (fun _ => st) k := by
  rw [map_state_setState, map_state_setHandshake]
  rfl

end Track

/-! ## The events of the happy path -/

section Events

variable (opt : Options) {c₀ c : OriginCircuit} {sys : Sys} {i : ℕ} {p : HopProfile}
  {o : SkinOracle}

theorem OnTrack.nChanDone (ht : OnTrack opt.pathBias c₀ sys i p .chanWait c) (hopened : p.opened = 0)
    (hawait : p.awaiting = 0) (hclosed : 1 ≤ p.closed) (ho : SkinOk o) :
    ∃ sys' c', circuitNChanDone opt sys i true o = some sys' ∧
      OnTrack opt.pathBias c₀ sys' i p.awaitNext .building c' := by
  obtain ⟨head, tail, hcp⟩ := List.exists_cons_of_ne_nil
    (ht.cpath_ne_nil (by rw [ne_eq, HopProfile.states_eq_nil]; omega))
  have hhead : head.state = .closed := by
    have := head_state_eq hcp ht.hops
    rw [HopProfile.getElem?_states, if_neg (by omega), if_neg (by omega), if_pos (by omega)] at this
    exact Option.some.inj this
  obtain ⟨hchan, hskin, hformat, -⟩ := ho
  unfold circuitNChanDone circuitSendNextOnionSkin
  rw [ht.get]
  dsimp only
  rw [hcp]
  dsimp only
  rw [if_pos hhead, hskin, hformat, circuitDeliverCreateCell_free hchan]
  exact ⟨_, _, rfl, by
    rw [closeOnError_none, setHop_eq, setHop_eq, modifyCirc_modifyCirc, modifyCirc_modifyCirc]
    apply ht.modifyCirc
    · rfl
    · refine (hopStates_setHops c 0 _ .awaitingKeys).trans ?_
      rw [ht.hops, ← hopened, HopProfile.states_awaitNext hawait hclosed]
    · rfl
    · rfl
    · exact map_extendInfo_setHops ..⟩

theorem OnTrack.finishHandshake (ht : OnTrack opt.pathBias c₀ sys i p .building c) (hawait : p.awaiting = 1) :
    ∃ sys' c', circuitFinishHandshake opt sys i goodReply = some (none, sys') ∧
      OnTrack opt.pathBias c₀ sys' i p.openNext .building c' := by
  obtain ⟨sys₁, c₁, hcount, ht₁⟩ := ht.countBuildAttempt
  obtain ⟨head, tail, hcp⟩ := List.exists_cons_of_ne_nil
    (ht₁.cpath_ne_nil (by rw [ne_eq, HopProfile.states_eq_nil]; omega))
  have hchoice := replyHop_of_building hcp ht₁.hops hawait
  obtain ⟨hop, hhop, hawaitHop⟩ : ∃ hop, c₁.cpath[p.opened]? = some hop ∧
      hop.state = .awaitingKeys := by
    have hk := getElem_state_eq ht₁.hops p.opened
    rw [HopProfile.getElem_states_opened_of_awaiting hawait, Option.map_eq_some'] at hk
    exact hk
  unfold circuitFinishHandshake
  rw [hcount]
  dsimp only
  rw [ht₁.get]
  dsimp only
  rw [hcp] at hchoice ⊢
  dsimp only
  rw [hchoice, ← hcp]
  dsimp only
  rw [hhop]
  dsimp only
  rw [if_neg (by simp [hawaitHop])]
  exact ⟨_, _, rfl, by
    rw [setHop_eq, setHop_eq, modifyCirc_modifyCirc]
    apply ht₁.modifyCirc
    · exact ht₁.state
    · refine (hopStates_setHops c₁ p.opened none .open).trans ?_
      rw [ht₁.hops, HopProfile.states_openNext hawait]
    · rfl
    · rfl
    · exact map_extendInfo_setHops ..⟩

theorem OnTrack.sendNextOnionSkin (ht : OnTrack opt.pathBias c₀ sys i p .building c) (hawait : p.awaiting = 0)
    (hopen : 1 ≤ p.opened) (hclosed : 1 ≤ p.closed)
    (hinet : ∀ hop, c.cpath[p.opened]? = some hop → hop.extendInfo.addrFamily = .inet)
    (ho : o.skinOk = true ∧ o.formatOk = true ∧ o.relayOk = true) :
    ∃ sys' c', circuitSendNextOnionSkin opt sys i o = some (none, sys') ∧
      OnTrack opt.pathBias c₀ sys' i p.awaitNext .building c' := by
  obtain ⟨head, tail, hcp⟩ := List.exists_cons_of_ne_nil
    (ht.cpath_ne_nil (by rw [ne_eq, HopProfile.states_eq_nil]; omega))
  have hhead : head.state = .open := by
    have := head_state_eq hcp ht.hops
    rw [HopProfile.getElem?_states, if_pos (by omega)] at this
    exact Option.some.inj this
  obtain ⟨hop, hhop, -⟩ : ∃ hop, c.cpath[p.opened]? = some hop ∧ hop.state = .closed := by
    have hk := getElem_state_eq ht.hops p.opened
    rw [HopProfile.getElem_states_opened_of_closed hawait hclosed, Option.map_eq_some'] at hk
    exact hk
  obtain ⟨hskin, hformat, hrelay⟩ := ho
  unfold circuitSendNextOnionSkin
  rw [ht.get]
  dsimp only
  rw [hcp]
  dsimp only
  rw [if_neg (by simp [hhead]), if_neg (by simp [hhead, ht.state]), ← hcp,
    onionNextHopInCpath_eq ht.hops, if_neg (by omega)]
  dsimp only
  rw [hhop]
  dsimp only
  rw [if_neg (by simp [hinet hop hhop]), hskin, hformat, hrelay]
  exact ⟨_, _, rfl, by
    rw [setHop_eq, setHop_eq, modifyCirc_modifyCirc]
    apply ht.modifyCirc
    · exact ht.state
    · refine (hopStates_setHops c p.opened _ .awaitingKeys).trans ?_
      rw [ht.hops, HopProfile.states_awaitNext hawait hclosed]
    · rfl
    · rfl
    · exact map_extendInfo_setHops ..⟩

theorem OnTrack.sendNextOnionSkin_opens (ht : OnTrack opt.pathBias c₀ sys i p .building c)
    (hawait : p.awaiting = 0) (hopen : 1 ≤ p.opened) (hclosed : p.closed = 0)
    (hpurpose : c₀.purpose ≠ .cMeasureTimeout) :
    circuitSendNextOnionSkin opt sys i o = some (none, circuitHasOpened
      (pathbiasCountBuildSuccess opt.pathBias (sys.modifyCirc i fun c => { c with state := .open })
        i) i) := by
  obtain ⟨head, tail, hcp⟩ := List.exists_cons_of_ne_nil
    (ht.cpath_ne_nil (by rw [ne_eq, HopProfile.states_eq_nil]; omega))
  have hhead : head.state = .open := by
    have := head_state_eq hcp ht.hops
    rw [HopProfile.getElem?_states, if_pos (by omega)] at this
    exact Option.some.inj this
  unfold circuitSendNextOnionSkin
  rw [ht.get]
  dsimp only
  rw [hcp]
  dsimp only
  rw [if_neg (by simp [hhead]), if_neg (by simp [hhead, ht.state]), ← hcp,
    onionNextHopInCpath_eq ht.hops, if_pos (by omega)]
  dsimp only
  rw [if_neg (by rw [ht.purpose]; exact hpurpose)]

theorem OnTrack.lastReply (ht : OnTrack opt.pathBias c₀ sys i p .building c) (hawait : p.awaiting = 1)
    (hclosed : p.closed = 0) (hpurpose : c₀.purpose ≠ .cMeasureTimeout) :
    ∃ sys' c', circuitHandleReply opt sys i goodReply o = some sys' ∧
      OnTrack opt.pathBias c₀ sys' i p.openNext .open c' ∧ c'.hasOpened = true := by
  obtain ⟨sys₁, c₁, hfin, ht₁⟩ := ht.finishHandshake opt hawait
  have hsend := ht₁.sendNextOnionSkin_opens opt (o := o) rfl (by simp [HopProfile.openNext])
    hclosed hpurpose
  obtain ⟨c₂, ht₂⟩ :=
    (ht₁.modifyCirc (fun c => { c with state := .open }) rfl ht₁.hops rfl rfl rfl).countBuildSuccess
  refine ⟨_, _, ?_, ht₂.modifyCirc (fun c => { c with hasOpened := true }) ht₂.state ht₂.hops
    rfl rfl rfl, rfl⟩
  rw [circuitHandleReply, hfin, Option.some_bind]
  dsimp only
  rw [hsend]
  rfl

theorem OnTrack.extendReply (ht : OnTrack opt.pathBias c₀ sys i p .building c)
    (hawait : p.awaiting = 1) (hclosed : 1 ≤ p.closed)
    (hinet : ∀ h ∈ c₀.cpath, h.extendInfo.addrFamily = .inet)
    (ho : o.skinOk = true ∧ o.formatOk = true ∧ o.relayOk = true) :
    ∃ sys' c', circuitHandleReply opt sys i goodReply o = some sys' ∧
      OnTrack opt.pathBias c₀ sys' i p.openNext.awaitNext .building c' := by
  obtain ⟨sys₁, c₁, hfin, ht₁⟩ := ht.finishHandshake opt hawait
  obtain ⟨sys₂, c₂, hsend, ht₂⟩ := ht₁.sendNextOnionSkin opt rfl
    (by simp [HopProfile.openNext]) (by simpa [HopProfile.openNext] using hclosed)
    (fun _ => ht₁.inet hinet) ho
  refine ⟨sys₂, c₂, ?_, ht₂⟩
  rw [circuitHandleReply, hfin, Option.some_bind]
  dsimp only
  rw [hsend]
  rfl

theorem extendToNewExit_onTrack {exit : ExtendInfo} (hc : sys.circuits[i]? = some c)
    (hlive : c.markedForClose = false) (hne : c.cpath ≠ [])
    (hopen : ∀ h ∈ c.cpath, h.state = .open) (hinet : exit.addrFamily = .inet)
    (hguard : GuardEnabled opt.pathBias sys c)
    (ho : o.skinOk = true ∧ o.formatOk = true ∧ o.relayOk = true) :
    ∃ sys' c', circuitExtendToNewExit opt sys i exit o = some sys' ∧
      OnTrack opt.pathBias (circuitAppendNewExit c exit) sys' i ⟨c.cpath.length, 1, 0, le_rfl⟩ .building c' := by
  obtain ⟨head, tail, hcp⟩ := List.exists_cons_of_ne_nil hne
  have hall : c.cpath.map (·.state) = List.replicate c.cpath.length .open := by
    rw [← List.length_map c.cpath (·.state)]
    exact List.eq_replicate_of_mem fun s hs => by
      obtain ⟨hop, hmem, rfl⟩ := List.mem_map.mp hs
      exact hopen hop hmem
  have hp : (onionAppendHop c.cpath exit).map (·.state) =
      (⟨c.cpath.length, 0, 1, Nat.zero_le 1⟩ : HopProfile).states := by
    simp [onionAppendHop, hall, HopProfile.states]
  have ht : OnTrack opt.pathBias (circuitAppendNewExit c exit)
      (sys.modifyCirc i fun c => { circuitAppendNewExit c exit with state := .building }) i
      ⟨c.cpath.length, 0, 1, Nat.zero_le 1⟩ .building
      { circuitAppendNewExit c exit with state := .building } :=
    ⟨getElem?_modifyCirc_self hc _, rfl, hp, hlive, rfl, rfl, hguard.of_guardOf <| by
      simp [guardOf, firstHopId, circuitAppendNewExit, onionAppendHop, hcp]⟩
  obtain ⟨sys', c', hsend, ht'⟩ := ht.sendNextOnionSkin opt rfl (List.length_pos.mpr hne) le_rfl
    (fun hop hhop => by
      change (onionAppendHop c.cpath exit)[c.cpath.length]? = some hop at hhop
      rw [onionAppendHop, List.getElem?_concat_length] at hhop
      cases hhop
      exact hinet) ho
  refine ⟨sys', c', ?_, ht'⟩
  rw [circuitExtendToNewExit]
  dsimp only
  rw [hsend]
  rfl

end Events

/-! ## The whole build -/

section Build

variable {opt : Options} {policy : PurposePolicy} {c₀ : OriginCircuit} {o : SkinOracle}

theorem Reachable.head {sys sys₁ sys' : Sys} (hs : Step opt policy sys sys₁)
    (hr : Reachable opt policy sys₁ sys') : Reachable opt policy sys sys' := by
  induction hr with
  | init => exact .step .init hs
  | step _ hs' ih => exact ih.step hs'

theorem Reachable.trans {sys sys₁ sys' : Sys} (h₁ : Reachable opt policy sys sys₁)
    (h₂ : Reachable opt policy sys₁ sys') : Reachable opt policy sys sys' := by
  induction h₂ with
  | init => exact h₁
  | step _ hs ih => exact ih.step hs

/-- From a BUILDING circuit with a hop awaiting keys and `m` hops closed, `m + 1` good replies
open the circuit, and the guard store only latches. -/
theorem OnTrack.opens (hinet : ∀ h ∈ c₀.cpath, h.extendInfo.addrFamily = .inet)
    (hpurpose : c₀.purpose ≠ .cMeasureTimeout) (ho : SkinOk o) :
    ∀ (m : ℕ) {sys : Sys} {i : ℕ} {p : HopProfile} {c : OriginCircuit},
      OnTrack opt.pathBias c₀ sys i p .building c → p.awaiting = 1 → p.closed = m →
      ∃ sys', Reachable opt policy sys sys' ∧ Sys.Latch sys sys' ∧
        ∃ c', sys'.circuits[i]? = some c' ∧ c'.state = .open ∧ c'.hasOpened = true ∧
          c'.markedForClose = false ∧ hopStates c' = List.replicate (p.opened + 1 + m) .open := by
  intro m
  induction m with
  | zero =>
    intro sys i p c ht hawait hclosed
    obtain ⟨sys', c', hreply, ht', hho⟩ := ht.lastReply opt (o := o) hawait hclosed hpurpose
    have hstep : Step opt policy sys sys' := .reply i goodReply o ht.sent hreply
    refine ⟨sys', .step .init hstep, latch_step hstep, c', ht'.get, ht'.state, hho, ht'.live, ?_⟩
    simpa [hopStates, HopProfile.states, HopProfile.openNext, hclosed] using ht'.hops
  | succ m ih =>
    intro sys i p c ht hawait hclosed
    obtain ⟨sys₁, c₁, hreply, ht₁⟩ := ht.extendReply opt hawait (by omega) hinet ho.2
    have hstep : Step opt policy sys sys₁ := .reply i goodReply o ht.sent hreply
    obtain ⟨sys', hrun, hlatch, c', hc', hs, hho, hl, hhops⟩ := ih ht₁ rfl
      (by simp [HopProfile.awaitNext, HopProfile.openNext, hclosed])
    refine ⟨sys', Reachable.head hstep hrun, (latch_step hstep).trans hlatch, c', hc', hs, hho, hl,
      hhops.trans ?_⟩
    simp only [HopProfile.awaitNext, HopProfile.openNext]
    congr 1
    omega

/-- A live circuit in CHAN_WAIT with all its hops closed, as path selection leaves it, opens:
when its channel opens with a circuit id free, every onion skin, cell and relay send succeeds,
and every hop answers with a good reply, the build machine reaches a state where the circuit
is OPEN, has_opened is set, it is not marked for close, and all its hops are open. Its hops
are IPv4, its guard, if the store has one, is enabled with PathBiasDropGuards off, and it is
not a timeout-measurement circuit, which closes as soon as it opens. -/
theorem reachable_opens {sys : Sys} {i : ℕ} {c : OriginCircuit} (hc : sys.circuits[i]? = some c)
    (hlive : c.markedForClose = false) (hwait : c.state = .chanWait) (hne : c.cpath ≠ [])
    (hclosed : ∀ h ∈ c.cpath, h.state = .closed)
    (hinet : ∀ h ∈ c.cpath, h.extendInfo.addrFamily = .inet)
    (hguard : GuardEnabled opt.pathBias sys c) (hpurpose : c.purpose ≠ .cMeasureTimeout)
    (ho : SkinOk o) :
    ∃ sys', Reachable opt policy sys sys' ∧ ∃ c', sys'.circuits[i]? = some c' ∧
      c'.state = .open ∧ c'.hasOpened = true ∧ c'.markedForClose = false ∧
      hopStates c' = List.replicate c.cpath.length .open := by
  have hp : hopStates c = (⟨0, 0, c.cpath.length, Nat.zero_le 1⟩ : HopProfile).states := by
    simp only [HopProfile.states, List.replicate_zero, List.nil_append]
    rw [← List.length_map c.cpath (·.state)]
    exact List.eq_replicate_of_mem fun s hs => by
      obtain ⟨hop, hmem, rfl⟩ := List.mem_map.mp hs
      exact hclosed hop hmem
  have hlen : 1 ≤ c.cpath.length := List.length_pos.mpr hne
  have ht : OnTrack opt.pathBias c sys i ⟨0, 0, c.cpath.length, Nat.zero_le 1⟩ .chanWait c :=
    ⟨hc, hwait, hp, hlive, rfl, rfl, hguard⟩
  obtain ⟨sys₁, c₁, hdone, ht₁⟩ := ht.nChanDone opt rfl rfl hlen ho
  obtain ⟨sys', hrun, -, hopen⟩ :=
    @OnTrack.opens opt policy c o hinet hpurpose ho _ sys₁ i _ c₁ ht₁ rfl rfl
  refine ⟨sys', Reachable.head (.chanDone i true o ⟨c, hc, hlive, hwait⟩ hdone) hrun, ?_⟩
  obtain ⟨c', hc', hs, hho, hl, hhops⟩ := hopen
  exact ⟨c', hc', hs, hho, hl, hhops.trans (congrArg (List.replicate · _)
    (by simp only [HopProfile.awaitNext]; omega))⟩

/-- An open circuit extended to a new exit, as circuit_extend_to_new_exit does for a
cannibalized circuit, opens again: with the extend's sends succeeding and a good reply from
the exit, the build machine reaches a state where the circuit is OPEN and not marked for
close, its relays are the old ones followed by the exit, and all its hops are open. Its hops
are open to begin with, the exit is IPv4, its guard, if the store has one, is enabled with
PathBiasDropGuards off, and it is not a timeout-measurement circuit. -/
theorem reachable_reopens {sys : Sys} {i : ℕ} {c : OriginCircuit} {exit : ExtendInfo}
    (hc : sys.circuits[i]? = some c) (hlive : c.markedForClose = false)
    (hopen : c.state = .open) (hne : c.cpath ≠ []) (hopenHops : ∀ h ∈ c.cpath, h.state = .open)
    (hinet : exit.addrFamily = .inet) (hguard : GuardEnabled opt.pathBias sys c)
    (hpurpose : c.purpose ≠ .cMeasureTimeout)
    (ho : o.skinOk = true ∧ o.formatOk = true ∧ o.relayOk = true) :
    ∃ sys', Reachable opt policy sys sys' ∧ ∃ c', sys'.circuits[i]? = some c' ∧
      c'.state = .open ∧ c'.markedForClose = false ∧
      c'.cpath.map (·.extendInfo) = c.cpath.map (·.extendInfo) ++ [exit] ∧
      hopStates c' = List.replicate (c.cpath.length + 1) .open := by
  obtain ⟨sys₁, c₁, hext, ht₁⟩ :=
    extendToNewExit_onTrack opt hc hlive hne hopenHops hinet hguard ho
  obtain ⟨sys', c', hreply, ht', -⟩ := ht₁.lastReply opt (o := o) rfl rfl hpurpose
  refine ⟨sys', .step (.step .init (.extendToNewExit i exit o ⟨c, hc, hlive, hopen⟩ hext))
    (.reply i goodReply o ht₁.sent hreply), c', ht'.get, ht'.state, ht'.live, ?_, ?_⟩
  · rw [ht'.infos]
    simp [circuitAppendNewExit, onionAppendHop]
  · simpa [HopProfile.states, HopProfile.openNext] using ht'.hops

end Build

/-- A guard with a history: 3 attempts, 2 of them built and 1 closed successfully, 2 use
attempts and 1 use success. -/
def busyGuard : EntryGuard := ⟨3, 2, 1, 0, 0, 0, 2, 1, false, false, false, false, false, false⟩

theorem guardEnabled_of_guardOf {cfg : Config} {sys : Sys} {c : OriginCircuit} {d : Digest}
    {g : EntryGuard} (h : guardOf sys c = some (d, g)) (hg : g.pathBiasDisabled = false)
    (hdrop : pathbiasGetDropguards cfg.options cfg.consensus = 0) : GuardEnabled cfg sys c := by
  intro d' g' h'
  rw [h, Option.some.injEq, Prod.mk.injEq] at h'
  obtain ⟨-, rfl⟩ := h'
  exact ⟨hg, hdrop⟩

/-- The general-purpose three-hop circuit path selection builds through relays 1, 2 and 3: in
CHAN_WAIT, its hops closed. -/
def chanWaitCircuit : OriginCircuit where
  purpose := .cGeneral
  state := .chanWait
  markedForClose := false
  cpath := [hopAt 1 .closed, hopAt 2 .closed, hopAt 3 .closed]
  buildState := ⟨3, false, false, false, false, some (hopAt 3 .closed).extendInfo⟩
  hasOpened := false
  pathState := .newCirc
  pathbiasProbeId := 0
  pathbiasProbeNonce := 0

/-- The circuit, with the busy guard at its entry. -/
def chanWaitSys : Sys := ⟨[chanWaitCircuit], fun d => if d = 1 then some busyGuard else none⟩

theorem chanWaitSys_guardEnabled :
    GuardEnabled unsetOptions.pathBias chanWaitSys chanWaitCircuit :=
  guardEnabled_of_guardOf rfl rfl (by decide)

/-- Sends that all succeed, on a new HIGHER channel end with no id in use. -/
def freshSkin : SkinOracle :=
  ⟨⟨1, false, .higher, fun _ => false⟩, true, true, true, ⟨false, ⟨false, 0, 0, true⟩⟩⟩

theorem freshSkin_ok : SkinOk freshSkin := ⟨⟨by decide, 1, le_rfl, by decide, rfl⟩, rfl, rfl, rfl⟩

theorem chanWaitSys_opens :
    (chanWaitSys.circuits[0]? = some chanWaitCircuit ∧ chanWaitCircuit.markedForClose = false ∧
      chanWaitCircuit.state = .chanWait ∧ chanWaitCircuit.cpath ≠ [] ∧
      (∀ h ∈ chanWaitCircuit.cpath, h.state = .closed) ∧
      (∀ h ∈ chanWaitCircuit.cpath, h.extendInfo.addrFamily = .inet) ∧
      GuardEnabled unsetOptions.pathBias chanWaitSys chanWaitCircuit ∧
      chanWaitCircuit.purpose ≠ .cMeasureTimeout ∧ SkinOk freshSkin) ∧
    ∃ sys', Reachable unsetOptions (fun _ _ => True) chanWaitSys sys' ∧
      ∃ c', sys'.circuits[0]? = some c' ∧ c'.state = .open ∧ c'.hasOpened = true ∧
        c'.markedForClose = false ∧
        hopStates c' = List.replicate chanWaitCircuit.cpath.length .open :=
  ⟨⟨rfl, rfl, rfl, List.cons_ne_nil _ _, by decide, by decide, chanWaitSys_guardEnabled,
      by decide, freshSkin_ok⟩,
    reachable_opens rfl rfl rfl (List.cons_ne_nil _ _) (by decide) (by decide)
      chanWaitSys_guardEnabled (by decide) freshSkin_ok⟩

/-- The same circuit once built: OPEN, its hops open. -/
def reopenCircuit : OriginCircuit :=
  { chanWaitCircuit with
    state := .open
    cpath := [hopAt 1 .open, hopAt 2 .open, hopAt 3 .open]
    hasOpened := true
    pathState := .buildSucceeded }

/-- The built circuit, with the busy guard at its entry. -/
def reopenSys : Sys := ⟨[reopenCircuit], chanWaitSys.guards⟩

/-- Relay 4, the new exit. -/
def newExit : ExtendInfo := (hopAt 4 .closed).extendInfo

theorem reopenSys_reopens :
    (reopenSys.circuits[0]? = some reopenCircuit ∧ reopenCircuit.markedForClose = false ∧
      reopenCircuit.state = .open ∧ reopenCircuit.cpath ≠ [] ∧
      (∀ h ∈ reopenCircuit.cpath, h.state = .open) ∧ newExit.addrFamily = .inet ∧
      GuardEnabled unsetOptions.pathBias reopenSys reopenCircuit ∧
      reopenCircuit.purpose ≠ .cMeasureTimeout ∧
      (freshSkin.skinOk = true ∧ freshSkin.formatOk = true ∧ freshSkin.relayOk = true)) ∧
    ∃ sys', Reachable unsetOptions (fun _ _ => True) reopenSys sys' ∧
      ∃ c', sys'.circuits[0]? = some c' ∧ c'.state = .open ∧ c'.markedForClose = false ∧
        c'.cpath.map (·.extendInfo) = reopenCircuit.cpath.map (·.extendInfo) ++ [newExit] ∧
        hopStates c' = List.replicate (reopenCircuit.cpath.length + 1) .open :=
  have hguard : GuardEnabled unsetOptions.pathBias reopenSys reopenCircuit :=
    guardEnabled_of_guardOf rfl rfl (by decide)
  ⟨⟨rfl, rfl, rfl, List.cons_ne_nil _ _, by decide, rfl, hguard, by decide, rfl, rfl, rfl⟩,
    @reachable_reopens unsetOptions (fun _ _ => True) freshSkin reopenSys 0 reopenCircuit newExit
      rfl rfl rfl (List.cons_ne_nil _ _) (by decide) rfl hguard (by decide) ⟨rfl, rfl, rfl⟩⟩

/-! ## A run through the guard

The invariants of the build machine, applied to a run that establishes a circuit through a
guard with a history, opens its channel and answers its hops. -/

/-- No circuit yet, and the busy guard. -/
def guardedSys : Sys := { chanWaitSys with circuits := [] }

/-- Path selection through relays 1, 2 and 3, as entry, middle and exit. -/
def guardPathSel : Selectors :=
  ⟨fun _ _ => some (hopAt 3 .closed).extendInfo, fun _ _ => some (hopAt 1 .closed).extendInfo,
    fun _ _ _ _ => some (hopAt 2 .closed).extendInfo⟩

/-- Relays 1, 2 and 3, running, valid and with descriptors. -/
def pathNodes : List Node :=
  [1, 2, 3].map fun d => ⟨d, true, true, true, false, true, true, true, true, false, false⟩

/-- The channel to the entry is not open yet; it is launched. -/
def launchHop : FirstHopOracle := ⟨false, true, true, freshSkin⟩

theorem guardedSys_firstCreate (policy : PurposePolicy) :
    ∃ sys c, Reachable unsetOptions policy guardedSys sys ∧ Sys.Latch guardedSys sys ∧
      OnTrack unsetOptions.pathBias chanWaitCircuit sys 0 ⟨0, 1, 2, le_rfl⟩ .building c := by
  have hest : Step unsetOptions policy guardedSys chanWaitSys :=
    .establish guardPathSel pathNodes .cGeneral none ⟨false, false, false, false⟩ launchHop
      (by decide) rfl
  have ht : OnTrack unsetOptions.pathBias chanWaitCircuit chanWaitSys 0
      ⟨0, 0, 3, Nat.zero_le 1⟩ .chanWait chanWaitCircuit :=
    ⟨rfl, rfl, rfl, rfl, rfl, rfl, chanWaitSys_guardEnabled⟩
  obtain ⟨sys, c, hdone, ht'⟩ := ht.nChanDone unsetOptions rfl rfl (by decide) freshSkin_ok
  have hstep : Step unsetOptions policy chanWaitSys sys :=
    .chanDone 0 true freshSkin ⟨_, rfl, rfl, rfl⟩ hdone
  exact ⟨sys, c, (Reachable.init.step hest).step hstep, (latch_step hest).trans (latch_step hstep),
    ht'⟩

theorem guardedSys_hopsWellFormed :
    guardedSys.circuits = [] ∧ ∃ sys c, Reachable unsetOptions (fun _ _ => True) guardedSys sys ∧
      sys.circuits[0]? = some c ∧ c.state = .building ∧
      hopStates c = [.open, .awaitingKeys, .closed] ∧
      HopsWellFormed (hopStates c) c.state c.markedForClose ∧
      (c.markedForClose = false → c.state ≠ .chanWait →
        ∀ reply, (circuitFinishHandshake unsetOptions sys 0 reply).isSome) := by
  obtain ⟨sys₁, c₁, hrun, -, ht₁⟩ := guardedSys_firstCreate (fun _ _ => True)
  obtain ⟨sys, c, hreply, ht⟩ := ht₁.extendReply unsetOptions rfl (by decide) (by decide)
    freshSkin_ok.2
  have hrun' := hrun.step (.reply 0 goodReply freshSkin ht₁.sent hreply)
  exact ⟨rfl, sys, c, hrun', ht.get, ht.state, ht.hops,
    reachable_hopsWellFormed rfl hrun' 0 c ht.get⟩

theorem guardedSys_opens (policy : PurposePolicy) :
    ∃ sys c, Reachable unsetOptions policy guardedSys sys ∧ Sys.Latch guardedSys sys ∧
      sys.circuits[0]? = some c ∧ c.state = .open ∧ c.hasOpened = true ∧
      c.markedForClose = false := by
  obtain ⟨sys₁, c₁, hrun₁, hlatch₁, ht₁⟩ := guardedSys_firstCreate policy
  obtain ⟨sys, hrun, hlatch, c, hc, hs, hho, hl, -⟩ :=
    @OnTrack.opens unsetOptions policy chanWaitCircuit freshSkin (by decide) (by decide)
      freshSkin_ok 2 sys₁ 0 _ c₁ ht₁ rfl rfl
  exact ⟨sys, c, hrun₁.trans hrun, hlatch₁.trans hlatch, hc, hs, hho, hl⟩

theorem guardedSys_circSuccesses_le :
    NoFlip unsetOptions.pathBias (fun _ _ => False) ∧ guardedSys.circuits = [] ∧
      guardedSys.guards 1 = some busyGuard ∧ busyGuard.circSuccesses ≤ busyGuard.circAttempts ∧
      ∃ sys c g, Reachable unsetOptions (fun _ _ => False) guardedSys sys ∧
        sys.circuits[0]? = some c ∧ c.state = .open ∧ sys.guards 1 = some g ∧
        g.circSuccesses ≤ g.circAttempts ∧
        (pathbiasCountCircsInStates unsetOptions.pathBias.options sys.circuits 1 .buildAttempted
          .buildAttempted : ℚ) ≤ g.circAttempts - g.circSuccesses := by
  obtain ⟨sys, c, hrun, hlatch, hc, hs, -⟩ := guardedSys_opens (fun _ _ => False)
  obtain ⟨g, hg, -⟩ := hlatch.latch 1 busyGuard rfl
  have hle : busyGuard.circSuccesses ≤ busyGuard.circAttempts := by norm_num [busyGuard]
  exact ⟨fun _ _ h => h.elim, rfl, rfl, hle, sys, c, g, hrun, hc, hs, hg,
    reachable_circSuccesses_le (fun _ _ h => h.elim) rfl hrun rfl hle hg⟩

theorem guardedSys_useSuccesses_le :
    NoFlip unsetOptions.pathBias (fun _ _ => False) ∧ guardedSys.circuits = [] ∧
      guardedSys.guards 1 = some busyGuard ∧ busyGuard.useSuccesses ≤ busyGuard.useAttempts ∧
      ∃ sys g, Reachable unsetOptions (fun _ _ => False) guardedSys sys ∧
        sys.guards 1 = some g ∧ g.useSuccesses ≤ g.useAttempts ∧
        (pathbiasCountCircsInStates unsetOptions.pathBias.options sys.circuits 1 .useAttempted
          .useSucceeded : ℚ) ≤ g.useAttempts - g.useSuccesses := by
  obtain ⟨sys, c, hrun, hlatch, hc, -, hho, hl⟩ := guardedSys_opens (fun _ _ => False)
  have huse : Step unsetOptions (fun _ _ => False) sys
      (pathbiasCountUseAttempt unsetOptions.pathBias sys 0) := .useAttempt 0 ⟨c, hc, hl, hho⟩
  obtain ⟨g, hg, -⟩ := (hlatch.trans (latch_step huse)).latch 1 busyGuard rfl
  have hle : busyGuard.useSuccesses ≤ busyGuard.useAttempts := by norm_num [busyGuard]
  exact ⟨fun _ _ h => h.elim, rfl, rfl, hle, _, g, hrun.step huse, hg,
    reachable_useSuccesses_le (fun _ _ h => h.elim) rfl (hrun.step huse) rfl hle hg⟩

end TorCircuitBuild.Build
