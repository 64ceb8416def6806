import TorCircuitBuild.Books
import TorCircuitBuild.BuildMachine

set_option autoImplicit false

/-!
# The books over whole runs

The build machine writes what the books read in three places: a reply opens a hop, the last
hop opening opens the circuit, and a new exit lengthens the path. Opening the second hop is
safe because the build attempt was counted just before, in the same handler; opening the
circuit is safe because a counted circuit with every hop open was counted as an attempt. So
every event keeps the books, provided no event turns a circuit the accountant ignores into one
it counts, and on every reachable state each guard's attempts cover its successes, with the
live circuits still in BUILD_ATTEMPTED owed on top, and its use attempts cover its use
successes, with the live circuits in USE_ATTEMPTED or USE_SUCCEEDED owed on top.
-/

namespace TorCircuitBuild.Build

open PathBias PathSelection Sys

section Hops

variable {cfg : Config} {P Q : Digest → Prop}

theorem map_extendInfo_modify {f : CryptPath → CryptPath}
    (hf : ∀ hop, (f hop).extendInfo = hop.extendInfo) :
    ∀ (l : List CryptPath) (k : ℕ), (l.modify f k).map (·.extendInfo) = l.map (·.extendInfo)
  | [], _ => by simp
  | _ :: _, 0 => by simp [hf]
  | _ :: l, k + 1 => by simp [map_extendInfo_modify hf l k]

theorem firstHopId_modify (c : OriginCircuit) {f : CryptPath → CryptPath}
    (hf : ∀ hop, (f hop).extendInfo = hop.extendInfo) (k : ℕ) :
    firstHopId { c with cpath := c.cpath.modify f k } = firstHopId c := by
  have := congrArg (fun l => l.head?.map (·.identityDigest)) (map_extendInfo_modify hf c.cpath k)
  simpa [firstHopId, List.head?_map, Option.map_map] using this

theorem books_setHop {sys : Sys} (h : Books cfg P Q sys) (i k : ℕ) {f : CryptPath → CryptPath}
    (hf : ∀ hop, (f hop).extendInfo = hop.extendInfo)
    (hatt : ∀ c, sys.circuits[i]? = some c → c.markedForClose = false → c.hasOpened = false →
      pathbiasShouldCount cfg.options c = true → (guardOf sys c).isSome →
      (c.cpath.modify f k)[1]?.map (·.state) = some .open → c.pathState = .buildAttempted) :
    Books cfg P Q (setHop sys i k f) := by
  cases hc : sys.circuits[i]? with
  | none => exact h.modifyCirc_none hc _
  | some c =>
    have hb := h.circuits i c hc
    have hd := firstHopId_modify c hf k
    have hguard : (guardOf (setHop sys i k f) { c with cpath := c.cpath.modify f k }).isSome =
        (guardOf sys c).isSome := by
      simp only [guardOf, hd]
      rfl
    have hind : ∀ d lo hi, openCircInStates cfg.options d lo hi
        { c with cpath := c.cpath.modify f k } = true → openCircInStates cfg.options d lo hi c = true := by
      intro d lo hi hin
      rw [openCircInStates_eq_true] at hin ⊢
      rwa [hd] at hin
    have hlen : (c.cpath.modify f k).length = c.cpath.length := List.length_modify f k c.cpath
    refine h.modifyCirc_of_le hc ⟨hlen.trans hb.length, ?_, hb.multihop, hb.testing, hb.fresh,
      fun hl ho hcnt hg => hatt c hc hl ho hcnt (hguard ▸ hg),
      fun hl ho hcnt hg => hb.opened hl ho hcnt (hguard ▸ hg)⟩
      (fun d _ _ => hind d _ _) (fun d _ _ => hind d _ _)
    rw [ne_eq, ← List.length_eq_zero, hlen, List.length_eq_zero]
    exact hb.nonempty

theorem books_setHop_notOpen {sys : Sys} (h : Books cfg P Q sys) (i k : ℕ) {f : CryptPath → CryptPath}
    (hf : ∀ hop, (f hop).extendInfo = hop.extendInfo)
    (hopen : k = 1 → ∀ hop, (f hop).state = .open → hop.state = .open) :
    Books cfg P Q (setHop sys i k f) := by
  refine books_setHop h i k hf fun c hc hl ho hcnt hg h1 =>
    (h.circuits i c hc).attempted hl ho hcnt hg ?_
  rw [List.getElem?_modify] at h1
  cases hx : c.cpath[1]? with
  | none => simp [hx] at h1
  | some hop =>
    simp only [hx, Option.map_some', Option.some.injEq] at h1 ⊢
    split_ifs at h1 with hk
    · exact hopen hk hop (by simpa using h1)
    · simpa using h1

theorem books_setHandshake {sys : Sys} (h : Books cfg P Q sys) (i k : ℕ)
    (x : Option HandshakeType) :
    Books cfg P Q (setHop sys i k fun h => { h with handshakeState := x }) :=
  books_setHop_notOpen h i k (fun _ => rfl) fun _ _ => id

theorem books_setAwaiting {sys : Sys} (h : Books cfg P Q sys) (i k : ℕ) :
    Books cfg P Q (setHop sys i k fun h => { h with state := .awaitingKeys }) :=
  books_setHop_notOpen h i k (fun _ => rfl) fun _ _ h => by cases h

theorem pathbiasIsNewCircAttempt_of_second {c : OriginCircuit} {hop : CryptPath}
    (h : c.cpath[1]? = some hop) (hawait : hop.state = .awaitingKeys) :
    pathbiasIsNewCircAttempt c = true := by
  match hcp : c.cpath, h with
  | _ :: _ :: _, h =>
    simp only [List.getElem?_cons_succ, List.getElem?_cons_zero, Option.some.injEq] at h
    simp [pathbiasIsNewCircAttempt, hcp, h, hawait]

theorem books_openHop {sys s₀ : Sys} (h₀ : Books cfg P Q s₀) {i k : ℕ} {c : OriginCircuit}
    (hdom : ∀ d, (s₀.guards d).isSome = (sys.guards d).isSome) {ps : PathState}
    (hc₀ : s₀.circuits[i]? = some { c with pathState := ps })
    (hatt : c.markedForClose = false → pathbiasIsNewCircAttempt c = true → c.hasOpened = false →
      pathbiasShouldCount cfg.options c = true → (guardOf sys c).isSome → ps = .buildAttempted)
    {hop : CryptPath} (hhop : c.cpath[k]? = some hop) (hawait : hop.state = .awaitingKeys)
    (x : Option HandshakeType) :
    Books cfg P Q (setHop (setHop s₀ i k fun h => { h with handshakeState := x }) i k
      fun h => { h with state := .open }) := by
  refine books_setHop (books_setHandshake h₀ i k x) i k (fun _ => rfl)
    fun c₁ hc₁ hl ho hcnt hg h1 => ?_
  rw [setHop_eq, getElem?_modifyCirc_self hc₀, Option.some.injEq] at hc₁
  subst hc₁
  have hg₀ : (guardOf s₀ c).isSome := by
    rwa [guardOf, firstHopId_modify _ (f := fun h => { h with handshakeState := x }) (fun _ => rfl)
      k] at hg
  by_cases hk : k = 1
  · subst hk
    exact hatt hl (pathbiasIsNewCircAttempt_of_second hhop hawait) ho hcnt
      (guardOf_isSome_congr hdom c ▸ hg₀)
  · exact (h₀.circuits i _ hc₀).attempted hl ho hcnt hg₀
      (by simpa [List.getElem?_modify, hk] using h1)

theorem books_circuitOpened {sys : Sys} (h : Books cfg P Q sys) {i : ℕ} {c : OriginCircuit}
    (hc : sys.circuits[i]? = some c) (hlive : c.markedForClose = false)
    (hnext : onionNextHopInCpath c.cpath = none) :
    Books cfg P Q (circuitHasOpened (pathbiasCountBuildSuccess cfg
      (sys.modifyCirc i fun c => { c with state := .open }) i) i) :=
  (h.setState i .open).countBuildSuccess_opened (getElem?_modifyCirc_self hc _) hlive
    (by simpa [onionNextHopInCpath, List.findIdx?_eq_none_iff] using hnext)

/-- circuit_append_new_exit, and the circuit builds again: the path grows by a closed hop. A
multi-hop circuit never wants one hop, so whether the circuit is counted does not change, and
a counted circuit keeps its second hop. -/
theorem books_appendExit {sys : Sys} (h : Books cfg P Q sys) (i : ℕ) (exit : ExtendInfo) :
    Books cfg P Q (sys.modifyCirc i fun c => { circuitAppendNewExit c exit with state := .building }) := by
  cases hc : sys.circuits[i]? with
  | none => exact h.modifyCirc_none hc _
  | some c =>
    have hb := h.circuits i c hc
    have hcount : pathbiasShouldCount cfg.options
        { circuitAppendNewExit c exit with state := .building } =
        pathbiasShouldCount cfg.options c := by
      have hm := hb.multihop
      unfold pathbiasShouldCount
      cases hone : c.buildState.onehopTunnel
      · have := hm hone
        simp [circuitAppendNewExit, hone, show c.buildState.desiredPathLen ≠ 1 by omega,
          show c.buildState.desiredPathLen ≠ 0 by omega]
      · simp [circuitAppendNewExit, hone]
    obtain ⟨head, tail, hcp⟩ := List.exists_cons_of_ne_nil hb.nonempty
    have hd : firstHopId { circuitAppendNewExit c exit with state := .building } = firstHopId c := by
      simp [firstHopId, circuitAppendNewExit, onionAppendHop, hcp]
    have hguard : (guardOf (sys.modifyCirc i fun c => { circuitAppendNewExit c exit with
        state := .building }) { circuitAppendNewExit c exit with state := .building }).isSome =
        (guardOf sys c).isSome := by
      simp only [guardOf, hd]
      rfl
    have hind : ∀ d lo hi, openCircInStates cfg.options d lo hi
        { circuitAppendNewExit c exit with state := .building } = true →
        openCircInStates cfg.options d lo hi c = true := by
      intro d lo hi hin
      rw [openCircInStates_eq_true, hd, hcount] at hin
      rwa [openCircInStates_eq_true]
    refine h.modifyCirc_of_le hc ⟨by simp [circuitAppendNewExit, onionAppendHop, hb.length],
      by simp [circuitAppendNewExit, onionAppendHop], fun _ => ?_,
      hb.testing, hb.fresh, fun hl ho hcnt hg h1 => ?_,
      fun hl ho hcnt hg => hb.opened hl ho (hcount ▸ hcnt) (hguard ▸ hg)⟩
      (fun d _ _ => hind d _ _) (fun d _ _ => hind d _ _)
    · have := hb.length
      simp only [hcp, List.length_cons] at this
      simp only [circuitAppendNewExit]
      omega
    rw [hcount] at hcnt
    have hlen : 1 < c.cpath.length := by
      have := hb.multihop (shouldCount_multihop hcnt).1
      have := hb.length
      omega
    refine hb.attempted hl ho hcnt (hguard ▸ hg) ?_
    simpa [circuitAppendNewExit, onionAppendHop, List.getElem?_append_left hlen] using h1

end Hops

section Handlers

variable (opt : Options) {P Q : Digest → Prop}

theorem books_closeOnError {i : ℕ} (o : CloseOracle) {res : Option EndCircReason × Sys}
    (h : Books opt.pathBias P Q res.2) : Books opt.pathBias P Q (closeOnError opt i o res) := by
  obtain ⟨_ | r, s⟩ := res
  · exact h
  · exact h.markForClose i _ _

theorem books_sendNextOnionSkin {sys : Sys} (h : Books opt.pathBias P Q sys) {i : ℕ}
    {c : OriginCircuit} (hc : sys.circuits[i]? = some c) (hlive : c.markedForClose = false)
    (o : SkinOracle) {res : Option EndCircReason × Sys}
    (hres : circuitSendNextOnionSkin opt sys i o = some res) : Books opt.pathBias P Q res.2 := by
  rcases circuitSendNextOnionSkin_cases opt hres with
    hr | ⟨k, x, hr | hr | hr | ⟨r, hr⟩⟩ | ⟨c', hc', hnext, hr | hr⟩ <;> rw [hr]
  · exact h
  · exact books_setHandshake h i k x
  · exact books_setAwaiting (books_setHandshake h i k x) i k
  · exact (books_setAwaiting (books_setHandshake h i k x) i k).setState i _
  · exact (books_setHandshake h i k x).markForClose i _ _
  · obtain rfl := Option.some.inj (hc.symm.trans hc')
    exact books_circuitOpened h hc hlive hnext
  · obtain rfl := Option.some.inj (hc.symm.trans hc')
    exact (books_circuitOpened h hc hlive hnext).markForClose i _ _

theorem books_handleFirstHop {sys : Sys} (h : Books opt.pathBias P Q sys) {i : ℕ}
    {c : OriginCircuit} (hc : sys.circuits[i]? = some c) (hlive : c.markedForClose = false)
    (o : FirstHopOracle) {res : Option EndCircReason × Sys}
    (hres : circuitHandleFirstHop opt sys i o = some res) : Books opt.pathBias P Q res.2 := by
  unfold circuitHandleFirstHop at hres
  rw [hc] at hres
  dsimp only at hres
  split_ifs at hres
  all_goals first
    | exact books_sendNextOnionSkin opt h hc hlive o.skin hres
    | (cases hres; exact h)

theorem books_establish {sys sys' : Sys} (h : Books opt.pathBias P Q sys) (sel : Selectors)
    (nodes : List Node) {purpose : Purpose} (exit : Option ExtendInfo) (flags : LaunchFlags)
    (o : FirstHopOracle) (hpurpose : purpose ≠ .pathBiasTesting)
    (hres : circuitEstablishCircuit opt sys sel nodes purpose exit flags o = some sys') :
    Books opt.pathBias P Q sys' := by
  unfold circuitEstablishCircuit at hres
  split at hres
  · rename_i circ hbuilt
    obtain ⟨hinit, hone, hlen, hclosed, hpos, htwo⟩ := circuitEstablishPath_built hbuilt
    have hpur : circ.purpose = purpose := by rw [hinit]; rfl
    have hps : circ.pathState = .newCirc := by rw [hinit]; rfl
    have hopened : circ.hasOpened = false := by rw [hinit]; rfl
    have hlive : circ.markedForClose = false := by rw [hinit]; rfl
    have hb : CircBooks opt.pathBias sys circ := by
      refine ⟨hlen, fun hnil => ?_, fun h1 => htwo (hone ▸ h1), fun _ hp => absurd (hpur ▸ hp) hpurpose,
        fun _ _ => .inl hps, fun _ _ _ _ h1 => ?_, fun _ ho => absurd (hopened ▸ ho) (by decide)⟩
      · rw [hnil, List.length_nil] at hlen
        omega
      · cases hx : circ.cpath[1]? with
        | none => simp [hx] at h1
        | some hop => simp [hx, hclosed hop (List.getElem?_mem hx)] at h1
    dsimp only at hres
    obtain ⟨res, hfirst, rfl⟩ := Option.map_eq_some'.mp hres
    exact books_closeOnError opt _ (books_handleFirstHop opt (h.append hb hps)
      (List.getElem?_concat_length _ _) hlive o hfirst)
  all_goals
    cases hres
    exact h

/-- A reply to a live circuit: the build attempt is counted, the hop awaiting keys opens and the
next onion skin goes out, or the circuit is closed. The second hop opens only on a circuit the
count just moved to BUILD_ATTEMPTED, and a close undoes the count refused by a disabled guard. -/
theorem books_handleReply {sys sys' : Sys} (h : Books opt.pathBias P Q sys) {i : ℕ}
    {c : OriginCircuit} (hc : sys.circuits[i]? = some c) (hlive : c.markedForClose = false)
    (reply : ReplyOracle) (o : SkinOracle)
    (hres : circuitHandleReply opt sys i reply o = some sys') : Books opt.pathBias P Q sys' := by
  have hframe := pathbiasCountBuildAttempt_frame opt.pathBias sys i
  unfold circuitHandleReply circuitFinishHandshake at hres
  cases hcb : pathbiasCountBuildAttempt opt.pathBias sys i with
  | mk r s₀ =>
  rw [hcb] at hres hframe
  cases r with
  | some r =>
    simp only [Option.some_bind] at hres
    cases hres
    have := h.countBuildAttempt_close hc hlive (r := r) (by rw [hcb]) ⟨r, false⟩ o.close
    rwa [hcb] at this
  | none =>
  have h₀ : Books opt.pathBias P Q s₀ := by simpa [hcb] using h.countBuildAttempt hc (by rw [hcb])
  obtain ⟨ps, hc₀, hatt⟩ := h.countBuildAttempt_circuit hc (by rw [hcb])
  rw [hcb] at hc₀
  dsimp only at hc₀ hres
  rw [hc₀] at hres
  dsimp only at hres
  repeat' first | (split at hres) | (dsimp only at hres)
  all_goals simp only [Option.some_bind, Option.none_bind, reduceCtorEq] at hres
  all_goals first
    | (cases hres; exact h₀.markForClose i _ _)
    | (cases hres; exact (books_setHandshake h₀ i _ _).markForClose i _ _)
    | skip
  rename_i _ head tail hcp _ k hk _ hop hhop hawait _ _
  obtain ⟨res, hsend, rfl⟩ := Option.map_eq_some'.mp hres
  have h₂ := books_openHop h₀ hframe.guards hc₀ hatt hhop (by simpa using hawait) none
  have hc₂ := getElem?_modifyCirc_self (getElem?_modifyCirc_self hc₀
    fun c => { c with cpath := c.cpath.modify (fun h => { h with handshakeState := none }) k })
    fun c => { c with cpath := c.cpath.modify (fun h => { h with state := .open }) k }
  rw [← setHop_eq, ← setHop_eq] at hc₂
  exact books_closeOnError opt o.close (books_sendNextOnionSkin opt h₂ hc₂ hlive o hsend)

end Handlers

/-! ## Runs -/

/-- No purpose change the rest of Tor makes turns a circuit the accountant ignores into one it
counts. -/
def NoFlip (cfg : Config) (policy : PurposePolicy) : Prop :=
  ∀ c p, policy c p → pathbiasShouldCount cfg.options { c with purpose := p } = true →
    pathbiasShouldCount cfg.options c = true

section Runs

variable {opt : Options} {policy : PurposePolicy} {P Q : Digest → Prop}

theorem books_step (hpolicy : NoFlip opt.pathBias policy) {sys sys' : Sys}
    (h : Books opt.pathBias P Q sys) (hstep : Step opt policy sys sys') :
    Books opt.pathBias P Q sys' := by
  cases hstep with
  | establish sel nodes purpose exit flags o hpurpose hres =>
    exact books_establish opt h sel nodes exit flags o hpurpose hres
  | chanDone i status o hwait hres =>
    obtain ⟨c, hc, hlive, -⟩ := hwait
    unfold circuitNChanDone at hres
    split_ifs at hres
    · cases hres
      exact h.markForClose i _ _
    · obtain ⟨res, hsend, rfl⟩ := Option.map_eq_some'.mp hres
      exact books_closeOnError opt _ (books_sendNextOnionSkin opt h hc hlive o hsend)
  | reply i reply o hsent hres =>
    obtain ⟨c, hc, hlive, -⟩ := hsent
    exact books_handleReply opt h hc hlive reply o hres
  | extendToNewExit i exit o hopen hres =>
    obtain ⟨c, hc, hlive, -⟩ := hopen
    obtain ⟨res, hsend, rfl⟩ := Option.map_eq_some'.mp hres
    exact books_closeOnError opt _ (books_sendNextOnionSkin opt (books_appendExit h i exit)
      (getElem?_modifyCirc_self hc _) hlive o hsend)
  | useAttempt i _ => exact h.countUseAttempt i
  | useSuccess i hused =>
    obtain ⟨c, hc, -, hopened⟩ := hused
    exact h.markUseSuccess hc fun _ => hopened
  | useRollback i hused =>
    obtain ⟨c, hc, -, hopened⟩ := hused
    exact h.markUseRollback hc fun _ => hopened
  | probeResponse i cell o htesting =>
    obtain ⟨c, hc, hlive, hp⟩ := htesting
    exact h.checkProbeResponse hc hlive hp cell o
  | timeout i _ => exact h.countTimeout i
  | close i reason o _ => exact h.markForClose i reason o
  | changePurpose i p hp hpc =>
    obtain ⟨c, hc, -, hpc⟩ := hpc
    exact h.modifyCirc_unread hc ⟨rfl, rfl, rfl, rfl, rfl⟩ (fun _ hpt => absurd hpt hp)
      (hpolicy c p hpc)

theorem books_reachable (hpolicy : NoFlip opt.pathBias policy) {init sys : Sys}
    (hinit : Books opt.pathBias P Q init) (hreach : Reachable opt policy init sys) :
    Books opt.pathBias P Q sys := by
  induction hreach with
  | init => exact hinit
  | step _ hstep ih => exact books_step hpolicy ih hstep

theorem books_empty {cfg : Config} {init : Sys} (hinit : init.circuits = []) :
    Books cfg (fun d => ∀ g, init.guards d = some g → g.circSuccesses ≤ g.circAttempts)
      (fun d => ∀ g, init.guards d = some g → g.useSuccesses ≤ g.useAttempts) init where
  circuits j c hj := by simp [hinit] at hj
  close d g hg hP := by
    simpa [closeSlack, hinit, pathbiasCountCircsInStates, EntryGuard.count] using hP g hg
  use d g hg hQ := by
    simpa [useSlack, hinit, pathbiasCountCircsInStates, EntryGuard.count] using hQ g hg

end Runs

/-- For every guard whose attempts covered its successes when no circuit existed, in every
state reachable by any interleaving of builds, replies, extensions, channel callbacks, use
attempts, use successes, rollbacks, probes, probe answers, timeouts and closes, its attempts
still cover its successes, with one more for every live counted circuit at it still in
BUILD_ATTEMPTED. -/
theorem reachable_circSuccesses_le {opt : Options} {policy : PurposePolicy} {init sys : Sys}
    (hpolicy : NoFlip opt.pathBias policy) (hinit : init.circuits = [])
    (hreach : Reachable opt policy init sys) {d : Digest} {g₀ g : EntryGuard}
    (hg₀ : init.guards d = some g₀) (hle : g₀.circSuccesses ≤ g₀.circAttempts)
    (hg : sys.guards d = some g) :
    g.circSuccesses ≤ g.circAttempts ∧
      (pathbiasCountCircsInStates opt.pathBias.options sys.circuits d .buildAttempted
        .buildAttempted : ℚ) ≤ g.circAttempts - g.circSuccesses := by
  have h := (books_reachable hpolicy (books_empty hinit) hreach).close d g hg fun g' hg' => by
    rw [hg₀, Option.some.injEq] at hg'
    exact hg' ▸ hle
  simp only [closeSlack, EntryGuard.count] at h
  have : (0 : ℚ) ≤ pathbiasCountCircsInStates opt.pathBias.options sys.circuits d .buildAttempted
    .buildAttempted := Nat.cast_nonneg _
  constructor <;> linarith

/-- For every guard whose use attempts covered its use successes when no circuit existed, in
every reachable state its use attempts still cover its use successes, with one more for every
live counted circuit at it in USE_ATTEMPTED or USE_SUCCEEDED. -/
theorem reachable_useSuccesses_le {opt : Options} {policy : PurposePolicy} {init sys : Sys}
    (hpolicy : NoFlip opt.pathBias policy) (hinit : init.circuits = [])
    (hreach : Reachable opt policy init sys) {d : Digest} {g₀ g : EntryGuard}
    (hg₀ : init.guards d = some g₀) (hle : g₀.useSuccesses ≤ g₀.useAttempts)
    (hg : sys.guards d = some g) :
    g.useSuccesses ≤ g.useAttempts ∧
      (pathbiasCountCircsInStates opt.pathBias.options sys.circuits d .useAttempted
        .useSucceeded : ℚ) ≤ g.useAttempts - g.useSuccesses := by
  have h := (books_reachable hpolicy (books_empty hinit) hreach).use d g hg fun g' hg' => by
    rw [hg₀, Option.some.injEq] at hg'
    exact hg' ▸ hle
  simp only [useSlack, EntryGuard.count] at h
  have : (0 : ℚ) ≤ pathbiasCountCircsInStates opt.pathBias.options sys.circuits d .useAttempted
    .useSucceeded := Nat.cast_nonneg _
  constructor <;> linarith

end TorCircuitBuild.Build
