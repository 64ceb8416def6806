import TorCircuitBuild.CloseAccounting
import TorCircuitBuild.BuildMachine

set_option autoImplicit false

/-!
# A closed circuit is final

Every event of the build machine and of the accountant acts on one circuit: it rewrites that
circuit and guard counters, and leaves every other circuit of the list as it was. No event is
given a circuit marked for close. The accountant writes ALREADY_COUNTED only inside
circuit_mark_for_close, which then marks the circuit, unless pathbias_check_close waits for its
probe, and then the circuit is still USE_ATTEMPTED. So over any run a circuit whose close was
accounted is marked, and a circuit once marked is never changed again: no later event counts
its close a second time or brings it back.

circuit_truncated is such a close, with the remote flag set on the reason of the cell: on a
circuit built and not yet used it always counts a collapse.
-/

namespace TorCircuitBuild

namespace PathBias

/-- A circuit whose close was accounted is marked for close. -/
def Settled (c : OriginCircuit) : Prop :=
  c.pathState = .alreadyCounted → c.markedForClose = true

instance (c : OriginCircuit) : Decidable (Settled c) :=
  inferInstanceAs (Decidable (_ → _))

namespace Sys

/-- Every circuit but `i` is as it was. -/
def Beside (i : ℕ) (sys sys' : Sys) : Prop :=
  ∀ j, j ≠ i → sys'.circuits[j]? = sys.circuits[j]?

theorem Beside.trans {i : ℕ} {sys sys' sys'' : Sys} (h : Beside i sys sys')
    (h' : Beside i sys' sys'') : Beside i sys sys'' :=
  fun j hj => (h' j hj).trans (h j hj)

theorem beside_modifyCirc (sys : Sys) (i : ℕ) (f : OriginCircuit → OriginCircuit) :
    Beside i sys (sys.modifyCirc i f) := fun j hj => by
  simp [List.getElem?_modify, Ne.symm hj]

theorem getElem?_modifyCirc_eq_some {sys : Sys} {i : ℕ} {f : OriginCircuit → OriginCircuit}
    {c : OriginCircuit} (hc : (sys.modifyCirc i f).circuits[i]? = some c) :
    ∃ c₀, sys.circuits[i]? = some c₀ ∧ f c₀ = c := by
  simpa only [modifyCirc_circuits, List.getElem?_modify, if_true, Option.map_eq_map,
    Option.map_eq_some'] using hc

/-- An event on circuit `i`: every other circuit is as it was, and circuit `i` stays settled. -/
structure Keeps (i : ℕ) (sys sys' : Sys) : Prop where
  beside : Beside i sys sys'
  settled : (∀ c, sys.circuits[i]? = some c → Settled c) →
    ∀ c, sys'.circuits[i]? = some c → Settled c

theorem Keeps.refl (i : ℕ) (sys : Sys) : Keeps i sys sys :=
  ⟨fun _ _ => rfl, id⟩

theorem Keeps.trans {i : ℕ} {sys sys' sys'' : Sys} (h : Keeps i sys sys')
    (h' : Keeps i sys' sys'') : Keeps i sys sys'' :=
  ⟨h.beside.trans h'.beside, h'.settled ∘ h.settled⟩

theorem keeps_of_settled {i : ℕ} {sys sys' : Sys} (h : Beside i sys sys')
    (hs : ∀ c, sys'.circuits[i]? = some c → Settled c) : Keeps i sys sys' :=
  ⟨h, fun _ => hs⟩

theorem keeps_modifyCirc (sys : Sys) (i : ℕ) {f : OriginCircuit → OriginCircuit}
    (hf : ∀ c, Settled c → Settled (f c)) : Keeps i sys (sys.modifyCirc i f) := by
  refine ⟨beside_modifyCirc sys i f, fun h c hc => ?_⟩
  obtain ⟨c₀, hc₀, rfl⟩ := getElem?_modifyCirc_eq_some hc
  exact hf c₀ (h c₀ hc₀)

theorem keeps_setPathState (sys : Sys) (i : ℕ) {s : PathState} (hs : s ≠ .alreadyCounted) :
    Keeps i sys (sys.setPathState i s) :=
  keeps_modifyCirc sys i fun _ _ h => absurd h hs

theorem keeps_setState (sys : Sys) (i : ℕ) (st : CircuitState) :
    Keeps i sys (sys.modifyCirc i fun c => { c with state := st }) :=
  keeps_modifyCirc sys i fun _ h => h

theorem keeps_setGuard (sys : Sys) (i : ℕ) (d : Digest) (g : EntryGuard) :
    Keeps i sys (sys.setGuard d g) :=
  ⟨fun _ _ => rfl, id⟩

end Sys

open Sys

section Ops

variable (cfg : Config) (sys : Sys) (i : ℕ)

theorem pathbiasCountBuildAttempt_keeps : Keeps i sys (pathbiasCountBuildAttempt cfg sys i).2 := by
  unfold pathbiasCountBuildAttempt
  repeat' first | dsimp only | split
  all_goals first
    | exact .refl i sys
    | exact keeps_setPathState sys i (by decide)
    | exact (keeps_setPathState sys i (by decide)).trans (keeps_setGuard _ i _ _)

theorem pathbiasCountBuildSuccess_keeps : Keeps i sys (pathbiasCountBuildSuccess cfg sys i) := by
  unfold pathbiasCountBuildSuccess
  repeat' split
  all_goals first
    | exact .refl i sys
    | exact (keeps_setPathState sys i (by decide)).trans (keeps_setGuard _ i _ _)

theorem pathbiasCountUseAttempt_keeps : Keeps i sys (pathbiasCountUseAttempt cfg sys i) := by
  unfold pathbiasCountUseAttempt
  repeat' split
  all_goals first
    | exact .refl i sys
    | exact keeps_setPathState sys i (by decide)
    | exact (keeps_setGuard sys i _ _).trans (keeps_setPathState _ i (by decide))

theorem pathbiasMarkUseSuccess_keeps : Keeps i sys (pathbiasMarkUseSuccess cfg sys i) := by
  unfold pathbiasMarkUseSuccess
  repeat' split
  all_goals first
    | exact .refl i sys
    | exact keeps_setPathState sys i (by decide)
    | exact (pathbiasCountUseAttempt_keeps cfg sys i).trans (keeps_setPathState _ i (by decide))

theorem pathbiasMarkUseRollback_keeps : Keeps i sys (pathbiasMarkUseRollback sys i) :=
  keeps_modifyCirc sys i fun c h => by
    split_ifs with hs
    · exact fun h' => absurd h' (by simp)
    · exact h

theorem pathbiasCountUseSuccess_keeps : Keeps i sys (pathbiasCountUseSuccess cfg sys i) := by
  unfold pathbiasCountUseSuccess
  repeat' split
  all_goals first
    | exact .refl i sys
    | exact keeps_setGuard sys i _ _

theorem pathbiasCountClose_keeps (k : Counter) : Keeps i sys (pathbiasCountClose cfg sys i k) := by
  unfold pathbiasCountClose
  repeat' split
  all_goals first
    | exact .refl i sys
    | exact keeps_setGuard sys i _ _

theorem pathbiasCountTimeout_keeps : Keeps i sys (pathbiasCountTimeout cfg sys i) := by
  unfold pathbiasCountTimeout
  repeat' split
  all_goals first
    | exact .refl i sys
    | exact keeps_setGuard sys i _ _

variable {markForClose : Sys → Sys} (hm : ∀ s, Keeps i s (markForClose s))
include hm

theorem pathbiasSendUsableProbe_keeps (o : ProbeOracle) :
    Keeps i sys (pathbiasSendUsableProbe markForClose sys i o).2 := by
  have probed := keeps_modifyCirc sys i (f := fun c =>
    { c with purpose := .pathBiasTesting, pathbiasProbeNonce := o.rand &&& 0xffffff,
             pathbiasProbeId := o.streamId }) fun _ h => h
  rcases pathbiasSendUsableProbe_cases markForClose sys i o with h | h | h | ⟨-, h⟩ <;> rw [h]
  · exact .refl i sys
  · exact probed
  · exact probed.trans (hm _)
  · exact probed

theorem pathbiasCheckClose_beside (reason : CloseReason) (o : CloseOracle) :
    Beside i sys (pathbiasCheckClose cfg markForClose sys i reason o).2 := by
  have counted : ∀ s, Beside i sys s → Beside i sys (s.setPathState i .alreadyCounted) :=
    fun s h => h.trans (beside_modifyCirc s i _)
  have hprobe := (pathbiasSendUsableProbe_keeps sys i hm o.probe).beside
  have hclose := fun k => (pathbiasCountClose_keeps cfg sys i k).beside
  unfold pathbiasCheckClose
  rcases sys.circuits[i]? with _ | c
  · exact fun _ _ => rfl
  dsimp only
  split
  · exact fun _ _ => rfl
  split
  · split_ifs <;> exact counted _ (hclose _)
  · split_ifs
    · exact hprobe
    · exact counted _ (hprobe.trans (pathbiasCountClose_keeps cfg _ i _).beside)
  · exact counted _ ((hclose _).trans (pathbiasCountUseSuccess_keeps cfg _ i).beside)
  · exact counted _ (hclose _)
  · exact counted _ fun _ _ => rfl

omit hm

theorem circuitMarkForCloseDepth_keeps (depth : ℕ) :
    ∀ (sys : Sys) (reason : CloseReason) (o : CloseOracle),
      Keeps i sys (circuitMarkForCloseDepth cfg depth sys i reason o) := by
  induction depth with
  | zero => exact fun sys _ _ => .refl i sys
  | succ depth ih =>
    intro sys reason o
    let inner := fun s => circuitMarkForCloseDepth cfg depth s i ⟨.internal, false⟩ o
    have hcheck := @pathbiasCheckClose_beside cfg sys i inner (fun s => ih s _ o) reason o
    unfold circuitMarkForCloseDepth
    split
    · exact .refl i sys
    split_ifs
    · exact .refl i sys
    dsimp only
    split_ifs with hr
    · -- waiting for the probe: the circuit is still USE_ATTEMPTED
      refine keeps_of_settled hcheck fun c hc => ?_
      rcases pathbiasCheckClose_cases cfg inner sys i reason o with ⟨h0, -⟩ | ⟨-, c₀, l, hp⟩
      · exact absurd (h0.symm.trans hr) (by decide)
      · obtain rfl := Option.some.inj (hp.get.symm.trans hc)
        exact fun h => absurd (hp.useAttempted.symm.trans h) (by decide)
    · refine keeps_of_settled (hcheck.trans (beside_modifyCirc _ i _)) fun c hc => ?_
      obtain ⟨c₀, -, rfl⟩ := getElem?_modifyCirc_eq_some hc
      exact fun _ => rfl

theorem circuitMarkForClose_keeps (reason : CloseReason) (o : CloseOracle) :
    Keeps i sys (circuitMarkForClose cfg sys i reason o) :=
  circuitMarkForCloseDepth_keeps cfg i 2 sys reason o

theorem pathbiasCheckProbeResponse_keeps (cell : RelayCell) (o : CloseOracle) :
    Keeps i sys (pathbiasCheckProbeResponse cfg sys i cell o).2 := by
  unfold pathbiasCheckProbeResponse
  repeat' first | dsimp only | split
  all_goals first
    | exact .refl i sys
    | exact (pathbiasMarkUseSuccess_keeps cfg sys i).trans (circuitMarkForClose_keeps cfg _ i _ o)

end Ops

/-- A general circuit through the guard at digest 0, built and not yet used. -/
def unusedCircuit : OriginCircuit where
  purpose := .cGeneral
  state := .open
  markedForClose := false
  cpath := [hopAt 0 .open, hopAt 1 .open, hopAt 2 .open]
  buildState := ⟨3, false, false, false, false, none⟩
  hasOpened := true
  pathState := .buildSucceeded
  pathbiasProbeId := 0
  pathbiasProbeNonce := 0

/-- A second circuit through the same guard, waiting for the keys of its second hop. -/
def buildingCircuit : OriginCircuit :=
  { unusedCircuit with state := .building, cpath := [hopAt 0 .open, hopAt 1 .awaitingKeys,
      hopAt 2 .closed], hasOpened := false, pathState := .buildAttempted }

/-- Their guard: two attempts, one of them built. -/
def twoCircGuard : EntryGuard := ⟨2, 1, 0, 0, 0, 0, 0, 0, false, false, false, false, false, false⟩

def twoCircSys : Sys := ⟨[unusedCircuit, buildingCircuit], fun d => if d = 0 then some twoCircGuard else none⟩

/-- A close on our side, with the channel not closed remotely. -/
def quietClose : CloseOracle := ⟨false, ⟨false, 0, 0, true⟩⟩

section Truncated

variable (cfg : Config)

/-- circuit_truncated: a TRUNCATED cell closes the circuit, with the remote flag on its reason.
The loop that would drop the hops after the truncation point is compiled out. -/
def circuitTruncated (sys : Sys) (i : ℕ) (reason : EndCircReason) (o : CloseOracle) : ℤ × Sys :=
  (0, circuitMarkForClose cfg sys i ⟨reason, true⟩ o)

theorem circuitTruncated_collapse {sys : Sys} {i : ℕ} {c : OriginCircuit}
    (hc : sys.circuits[i]? = some c) (hlive : c.markedForClose = false)
    (hcount : pathbiasShouldCount cfg.options c = true) (hbs : c.pathState = .buildSucceeded)
    {d : Digest} {g : EntryGuard} (hg : guardOf sys c = some (d, g)) (reason : EndCircReason)
    (o : CloseOracle) :
    circuitTruncated cfg sys i reason o =
      (0, (((sys.setGuard d (g.bump .collapsedCircuits)).setPathState i .alreadyCounted).modifyCirc
        i fun c => { c with markedForClose := true })) := by
  -- the remote flag makes the check count a collapse, whatever the nested close would do
  have hcheck : ∀ m : Sys → Sys, pathbiasCheckClose cfg m sys i ⟨reason, true⟩ o =
      (0, (sys.setGuard d (g.bump .collapsedCircuits)).setPathState i .alreadyCounted) := by
    intro m
    simp [pathbiasCheckClose, hc, hcount, hbs, pathbiasCountCollapse,
      pathbiasCountClose_counted cfg hc hcount hg]
  simp only [circuitTruncated, circuitMarkForClose, circuitMarkForCloseDepth, hc, hlive,
    Bool.false_eq_true, if_false, hcheck]
  rfl

example :
    circuitTruncated unsetConfig twoCircSys 0 .channelClosed quietClose =
      (0, (((twoCircSys.setGuard 0 (twoCircGuard.bump .collapsedCircuits)).setPathState 0
        .alreadyCounted).modifyCirc 0 fun c => { c with markedForClose := true })) :=
  @circuitTruncated_collapse unsetConfig twoCircSys 0 unusedCircuit rfl rfl (by decide) rfl 0
    twoCircGuard rfl .channelClosed quietClose

end Truncated

end PathBias

namespace Build

open PathBias PathSelection Sys

section Handlers

variable (opt : Options) {sys : Sys} {i : ℕ} {res : Option EndCircReason × Sys}

theorem keeps_setHop (sys : Sys) (i k : ℕ) (f : CryptPath → CryptPath) :
    Keeps i sys (setHop sys i k f) :=
  keeps_modifyCirc sys i fun _ h => h

theorem keeps_circuitHasOpened (sys : Sys) (i : ℕ) : Keeps i sys (circuitHasOpened sys i) :=
  keeps_modifyCirc sys i fun _ h => h

theorem closeOnError_keeps (o : CloseOracle) (res : Option EndCircReason × Sys) :
    Keeps i res.2 (closeOnError opt i o res) := by
  obtain ⟨_ | r, s⟩ := res
  · exact .refl i s
  · exact circuitMarkForClose_keeps opt.pathBias s i _ o

theorem circuitSendNextOnionSkin_keeps {o : SkinOracle}
    (h : circuitSendNextOnionSkin opt sys i o = some res) : Keeps i sys res.2 := by
  have opened : Keeps i sys (circuitHasOpened (pathbiasCountBuildSuccess opt.pathBias
      (sys.modifyCirc i fun c => { c with state := .open }) i) i) :=
    ((keeps_setState sys i _).trans (pathbiasCountBuildSuccess_keeps opt.pathBias _ i)).trans
      (keeps_circuitHasOpened _ i)
  rcases circuitSendNextOnionSkin_cases opt h with
    hr | ⟨k, x, hr | hr | hr | ⟨r, hr⟩⟩ | ⟨c, -, -, hr | hr⟩ <;> rw [hr]
  · exact .refl i sys
  · exact keeps_setHop sys i k _
  · exact (keeps_setHop sys i k _).trans (keeps_setHop _ i k _)
  · exact ((keeps_setHop sys i k _).trans (keeps_setHop _ i k _)).trans (keeps_setState _ i _)
  · exact (keeps_setHop sys i k _).trans (circuitMarkForClose_keeps opt.pathBias _ i r o.close)
  · exact opened
  · exact opened.trans (circuitMarkForClose_keeps opt.pathBias _ i _ o.close)

theorem circuitFinishHandshake_keeps {o : ReplyOracle}
    (h : circuitFinishHandshake opt sys i o = some res) : Keeps i sys res.2 := by
  have hcount := pathbiasCountBuildAttempt_keeps opt.pathBias sys i
  unfold circuitFinishHandshake at h
  generalize pathbiasCountBuildAttempt opt.pathBias sys i = p at h hcount
  refine hcount.trans ?_
  obtain ⟨_ | r, s⟩ := p
  all_goals
    dsimp only at h
    repeat' first | (split at h) | (dsimp only at h)
  all_goals first
    | (cases h; exact .refl i _)
    | (cases h; exact keeps_setHop _ i _ _)
    | (cases h; exact (keeps_setHop _ i _ _).trans (keeps_setHop _ i _ _))
    | cases h

theorem circuitHandleFirstHop_keeps {o : FirstHopOracle}
    (h : circuitHandleFirstHop opt sys i o = some res) : Keeps i sys res.2 := by
  unfold circuitHandleFirstHop at h
  repeat' first | (split at h) | (split_ifs at h)
  all_goals first
    | exact circuitSendNextOnionSkin_keeps opt h
    | (cases h; exact .refl i sys)
    | cases h

theorem circuitHandleReply_keeps {sys' : Sys} {reply : ReplyOracle} {o : SkinOracle}
    (h : circuitHandleReply opt sys i reply o = some sys') : Keeps i sys sys' := by
  obtain ⟨⟨_ | r, s⟩, hfin, h⟩ := Option.bind_eq_some.mp h
  · obtain ⟨res, hsend, rfl⟩ := Option.map_eq_some'.mp h
    exact ((circuitFinishHandshake_keeps opt hfin).trans (circuitSendNextOnionSkin_keeps opt hsend)).trans
      (closeOnError_keeps opt _ res)
  · cases h
    exact (circuitFinishHandshake_keeps opt hfin).trans (circuitMarkForClose_keeps opt.pathBias s i _ _)

theorem keeps_append {circ : OriginCircuit} (hnew : circ.pathState = .newCirc) (sys : Sys) :
    Keeps sys.circuits.length sys { sys with circuits := sys.circuits ++ [circ] } := by
  refine keeps_of_settled (fun j hj => ?_) fun c hc => ?_
  · rcases Nat.lt_or_ge j sys.circuits.length with hlt | hge
    · exact List.getElem?_append_left hlt
    · rw [List.getElem?_eq_none (by simp; omega), List.getElem?_eq_none hge]
  · rw [List.getElem?_concat_length] at hc
    cases hc
    exact fun h => absurd (hnew.symm.trans h) (by decide)

end Handlers

variable {opt : Options} {policy : PurposePolicy}

theorem keeps_step {sys sys' : Sys} (hstep : Step opt policy sys sys') :
    ∃ i, Keeps i sys sys' ∧ ∀ c, sys.circuits[i]? = some c → c.markedForClose = false := by
  have live : ∀ {i : ℕ} {p : OriginCircuit → Prop}, LiveWith sys i p →
      ∀ c, sys.circuits[i]? = some c → c.markedForClose = false := by
    rintro i p ⟨c₀, hc₀, hlive, -⟩ c hc
    exact Option.some.inj (hc.symm.trans hc₀) ▸ hlive
  cases hstep with
  | establish sel nodes purpose exit flags o _ h =>
    refine ⟨sys.circuits.length, ?_, fun c hc => by rw [List.getElem?_eq_none le_rfl] at hc; cases hc⟩
    unfold circuitEstablishCircuit at h
    split at h
    · rename_i circ hbuilt
      obtain ⟨res, hfirst, rfl⟩ := Option.map_eq_some'.mp h
      have hnew : circ.pathState = .newCirc := by
        rw [(circuitEstablishPath_built hbuilt).1]
        rfl
      exact ((keeps_append hnew sys).trans (circuitHandleFirstHop_keeps opt hfirst)).trans
        (closeOnError_keeps opt _ res)
    all_goals
      cases h
      exact .refl _ sys
  | chanDone i status o hwait h =>
    refine ⟨i, ?_, live hwait⟩
    unfold circuitNChanDone at h
    split_ifs at h
    · cases h
      exact circuitMarkForClose_keeps opt.pathBias sys i _ _
    · obtain ⟨res, hsend, rfl⟩ := Option.map_eq_some'.mp h
      exact (circuitSendNextOnionSkin_keeps opt hsend).trans (closeOnError_keeps opt _ res)
  | reply i reply o hsent h => exact ⟨i, circuitHandleReply_keeps opt h, live hsent⟩
  | extendToNewExit i exit o hopen h =>
    obtain ⟨res, hsend, rfl⟩ := Option.map_eq_some'.mp h
    have hexit : Keeps i sys (sys.modifyCirc i fun c =>
        { circuitAppendNewExit c exit with state := .building }) :=
      keeps_modifyCirc sys i fun _ h => h
    exact ⟨i, (hexit.trans (circuitSendNextOnionSkin_keeps opt hsend)).trans
      (closeOnError_keeps opt _ res), live hopen⟩
  | useAttempt i hused => exact ⟨i, pathbiasCountUseAttempt_keeps opt.pathBias sys i, live hused⟩
  | useSuccess i hused => exact ⟨i, pathbiasMarkUseSuccess_keeps opt.pathBias sys i, live hused⟩
  | useRollback i hused => exact ⟨i, pathbiasMarkUseRollback_keeps sys i, live hused⟩
  | probeResponse i cell o htesting =>
    exact ⟨i, pathbiasCheckProbeResponse_keeps opt.pathBias sys i cell o, live htesting⟩
  | timeout i hlive => exact ⟨i, pathbiasCountTimeout_keeps opt.pathBias sys i, live hlive⟩
  | close i reason o hlive =>
    exact ⟨i, circuitMarkForClose_keeps opt.pathBias sys i reason o, live hlive⟩
  | changePurpose i p _ hpolicy =>
    exact ⟨i, keeps_modifyCirc sys i fun _ h => h, live hpolicy⟩

/-- Every circuit of the list whose close was accounted is marked. -/
def AllSettled (sys : Sys) : Prop :=
  ∀ (j : ℕ) (c : OriginCircuit), sys.circuits[j]? = some c → Settled c

theorem allSettled_of_mem {sys : Sys} (h : ∀ c ∈ sys.circuits, Settled c) : AllSettled sys :=
  fun _ c hc => h c (List.getElem?_mem hc)

theorem allSettled_step {sys sys' : Sys} (hstep : Step opt policy sys sys') (h : AllSettled sys) :
    AllSettled sys' := by
  obtain ⟨i, hk, -⟩ := keeps_step hstep
  intro j c hc
  by_cases hj : j = i
  · subst hj
    exact hk.settled (h j) c hc
  · exact h j c (hk.beside j hj ▸ hc)

theorem allSettled_reachable {init sys : Sys} (hinit : AllSettled init)
    (hreach : Reachable opt policy init sys) : AllSettled sys := by
  induction hreach with
  | init => exact hinit
  | step _ hstep ih => exact allSettled_step hstep ih

theorem marked_step {sys sys' : Sys} (hstep : Step opt policy sys sys') {j : ℕ} {c : OriginCircuit}
    (hc : sys.circuits[j]? = some c) (hmarked : c.markedForClose = true) :
    sys'.circuits[j]? = some c := by
  obtain ⟨i, hk, hlive⟩ := keeps_step hstep
  have hj : j ≠ i := by
    rintro rfl
    simp [hlive c hc] at hmarked
  exact (hk.beside j hj).trans hc

/-- From any state where every circuit whose close was accounted is marked, over any run of
builds, replies, extensions, channel callbacks, use attempts and successes, rollbacks, probe
answers, timeouts, closes and purpose changes: a circuit that is marked for close, or whose
close was accounted (ALREADY_COUNTED), stays exactly as it is in every later state. So its
close is never counted again, and no event reaches it. -/
theorem reachable_closed_final {init sys sys' : Sys} (hinit : AllSettled init)
    (hreach : Reachable opt policy init sys) {j : ℕ} {c : OriginCircuit}
    (hc : sys.circuits[j]? = some c)
    (hdone : c.markedForClose = true ∨ c.pathState = .alreadyCounted)
    (hrun : Reachable opt policy sys sys') : sys'.circuits[j]? = some c := by
  have hmarked : c.markedForClose = true :=
    hdone.elim id (allSettled_reachable hinit hreach j c hc)
  induction hrun with
  | init => exact hc
  | step _ hstep ih => exact marked_step hstep ih hmarked

/-- The built circuit closed: its close is counted a successful one. -/
def closedSys : Sys := circuitMarkForClose unsetOptions.pathBias twoCircSys 0 ⟨.finished, false⟩ quietClose

def closedCircuit : OriginCircuit :=
  { unusedCircuit with markedForClose := true, pathState := .alreadyCounted }

/-- A timeout on the other circuit leaves the closed one as it was. -/
theorem closedSys_final :
    (pathbiasCountTimeout unsetOptions.pathBias closedSys 1).circuits[0]? = some closedCircuit :=
  @reachable_closed_final unsetOptions (fun _ _ => False) twoCircSys closedSys
    (pathbiasCountTimeout unsetOptions.pathBias closedSys 1) (allSettled_of_mem (by decide))
    (.step .init (.close 0 ⟨.finished, false⟩ quietClose ⟨unusedCircuit, rfl, rfl, trivial⟩))
    0 closedCircuit (by decide) (.inl rfl)
    (.step .init (.timeout 1 ⟨buildingCircuit, by decide, rfl, trivial⟩))

end Build

end TorCircuitBuild
