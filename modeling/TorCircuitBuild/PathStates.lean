import Mathlib.Logic.Relation
import TorCircuitBuild.CloseFinal

set_option autoImplicit false

/-!
# The path-bias state of a circuit

For each origin circuit the accountant keeps how far it has counted it: NEW_CIRC, then
BUILD_ATTEMPTED and BUILD_SUCCEEDED once its build attempt and success were counted at its
guard, USE_ATTEMPTED and USE_SUCCEEDED for its use, and ALREADY_COUNTED once its close was.
`PathState.Edge` lists the moves the code makes: each counting function moves the state one
step on, pathbias_mark_use_success jumps to USE_SUCCEEDED from any state whose close was not
counted (counting the use attempt on the way when there was none), pathbias_mark_use_rollback
steps back from USE_SUCCEEDED to USE_ATTEMPTED, and pathbias_check_close ends in
ALREADY_COUNTED.

Every function of the model moves the path state of the circuit it acts on along these edges
and leaves every other circuit alone. So over every run each circuit's path state is reached,
edge by edge, from the one it started with (NEW_CIRC for a circuit the run built). In
particular no circuit enters USE_FAILED, which nothing in circuitbuild.c writes, and none
leaves ALREADY_COUNTED.
-/

namespace TorCircuitBuild

open Relation

namespace PathState

/-- The moves of a circuit's path state that the accountant makes. -/
inductive Edge : PathState → PathState → Prop
  /-- pathbias_count_build_attempt -/
  | attempt : Edge .newCirc .buildAttempted
  /-- pathbias_count_build_success -/
  | build : Edge .buildAttempted .buildSucceeded
  /-- pathbias_count_use_attempt -/
  | use : Edge .buildSucceeded .useAttempted
  /-- pathbias_mark_use_success -/
  | useSuccess {s : PathState} (h : s ≠ .alreadyCounted) : Edge s .useSucceeded
  /-- pathbias_mark_use_rollback -/
  | rollback : Edge .useSucceeded .useAttempted
  /-- pathbias_check_close -/
  | counted (s : PathState) : Edge s .alreadyCounted

theorem Edge.ne_useFailed {s t : PathState} (h : Edge s t) : t ≠ .useFailed := by
  cases h <;> decide

theorem Edge.of_alreadyCounted {t : PathState} (h : Edge .alreadyCounted t) :
    t = .alreadyCounted := by
  cases h with
  | useSuccess h => exact absurd rfl h
  | counted => rfl

theorem useFailed_of_reaches {s : PathState} (h : ReflTransGen Edge s .useFailed) :
    s = .useFailed := by
  rcases ReflTransGen.cases_tail h with h | ⟨b, -, hb⟩
  · exact h.symm
  · exact absurd rfl hb.ne_useFailed

theorem alreadyCounted_of_reaches {t : PathState} (h : ReflTransGen Edge .alreadyCounted t) :
    t = .alreadyCounted := by
  induction h with
  | refl => rfl
  | tail _ hbc ih =>
    subst ih
    exact hbc.of_alreadyCounted

theorem eq_buildSucceeded {s : PathState} (h₁ : ¬s.toNat < PathState.buildSucceeded.toNat)
    (h₂ : s.toNat < PathState.useAttempted.toNat) : s = .buildSucceeded := by
  revert h₁ h₂
  cases s <;> decide

end PathState

open PathState

namespace PathBias

namespace Sys

/-- The path state circuit `i` starts from: its own, or NEW_CIRC for a circuit the list does
not hold yet. -/
def startAt (sys : Sys) (i : ℕ) : PathState := (sys.circuits[i]?.map (·.pathState)).getD .newCirc

theorem startAt_of_some {sys : Sys} {i : ℕ} {c : OriginCircuit} (h : sys.circuits[i]? = some c) :
    sys.startAt i = c.pathState := by
  simp [startAt, h]

theorem startAt_of_none {sys : Sys} {i : ℕ} (h : sys.circuits[i]? = none) :
    sys.startAt i = .newCirc := by
  simp [startAt, h]

/-- An event on circuit `i`: every other circuit is as it was, circuit `i` stays in the list,
and its path state moves along the edges. -/
structure Advances (i : ℕ) (sys sys' : Sys) : Prop where
  beside : Beside i sys sys'
  isSome : (sys.circuits[i]?).isSome → (sys'.circuits[i]?).isSome
  path : ∀ c', sys'.circuits[i]? = some c' → ReflTransGen Edge (sys.startAt i) c'.pathState

variable {i : ℕ} {sys sys' sys'' : Sys}

theorem Advances.refl (i : ℕ) (sys : Sys) : Advances i sys sys :=
  ⟨fun _ _ => rfl, id, fun _ h => by rw [startAt_of_some h]⟩

theorem Advances.startAt (h : Advances i sys sys') :
    ReflTransGen Edge (sys.startAt i) (sys'.startAt i) := by
  rcases h' : sys'.circuits[i]? with _ | c'
  · -- circuit `i` is not in the list after the event, so it was not before
    have hnone : sys.circuits[i]? = none := by
      rcases hs : sys.circuits[i]? with _ | c
      · rfl
      · simpa [h'] using h.isSome (by simp [hs])
    rw [startAt_of_none hnone, startAt_of_none h']
  · rw [startAt_of_some h']
    exact h.path c' h'

theorem Advances.trans (h : Advances i sys sys') (h' : Advances i sys' sys'') :
    Advances i sys sys'' :=
  ⟨h.beside.trans h'.beside, h'.isSome ∘ h.isSome, fun c hc => h.startAt.trans (h'.path c hc)⟩

theorem advances_modifyCirc (sys : Sys) (i : ℕ) {f : OriginCircuit → OriginCircuit}
    (hf : ∀ c, ReflTransGen Edge c.pathState (f c).pathState) :
    Advances i sys (sys.modifyCirc i f) := by
  refine ⟨beside_modifyCirc sys i f, fun h => by simpa [List.getElem?_modify] using h,
    fun c' hc => ?_⟩
  obtain ⟨c₀, hc₀, rfl⟩ := getElem?_modifyCirc_eq_some hc
  rw [startAt_of_some hc₀]
  exact hf c₀

theorem advances_modifyCirc_same (sys : Sys) (i : ℕ) {f : OriginCircuit → OriginCircuit}
    (hf : ∀ c, (f c).pathState = c.pathState) : Advances i sys (sys.modifyCirc i f) :=
  advances_modifyCirc sys i fun c => by rw [hf c]

theorem advances_setGuard (sys : Sys) (i : ℕ) (d : Digest) (g : EntryGuard) :
    Advances i sys (sys.setGuard d g) :=
  ⟨fun _ _ => rfl, id, fun _ h => by rw [startAt_of_some (show sys.circuits[i]? = some _ from h)]⟩

theorem Advances.setPathState (h : Advances i sys sys') {s : PathState}
    (hs : ReflTransGen Edge (sys.startAt i) s) : Advances i sys (sys'.setPathState i s) := by
  refine ⟨h.beside.trans (beside_modifyCirc _ i _), fun hi => ?_, fun c' hc => ?_⟩
  · simpa [Sys.setPathState, List.getElem?_modify] using h.isSome hi
  · obtain ⟨c₀, -, rfl⟩ := getElem?_modifyCirc_eq_some hc
    exact hs

theorem startAt_edge {c : OriginCircuit} (hc : sys.circuits[i]? = some c) {s t : PathState}
    (hs : c.pathState = s) (e : Edge s t) : ReflTransGen Edge (sys.startAt i) t := by
  rw [startAt_of_some hc, hs]
  exact .single e

end Sys

open Sys

section Ops

variable (cfg : Config) (sys : Sys) (i : ℕ)

theorem pathbiasCountBuildAttempt_advances :
    Advances i sys (pathbiasCountBuildAttempt cfg sys i).2 := by
  unfold pathbiasCountBuildAttempt
  rcases hc : sys.circuits[i]? with _ | c
  · exact .refl i sys
  repeat' first | dsimp only | split
  all_goals first
    | exact .refl i sys
    | exact (Advances.refl i sys).setPathState (startAt_edge hc ‹_› .attempt)
    | exact ((Advances.refl i sys).setPathState (startAt_edge hc ‹_› .attempt)).trans
        (advances_setGuard _ i _ _)

theorem pathbiasCountBuildSuccess_advances :
    Advances i sys (pathbiasCountBuildSuccess cfg sys i) := by
  unfold pathbiasCountBuildSuccess
  rcases hc : sys.circuits[i]? with _ | c
  · exact .refl i sys
  repeat' first | dsimp only | split
  all_goals first
    | exact .refl i sys
    | exact ((Advances.refl i sys).setPathState (startAt_edge hc ‹_› .build)).trans
        (advances_setGuard _ i _ _)

theorem pathbiasCountUseAttempt_advances :
    Advances i sys (pathbiasCountUseAttempt cfg sys i) := by
  unfold pathbiasCountUseAttempt
  rcases hc : sys.circuits[i]? with _ | c
  · exact .refl i sys
  dsimp only
  split_ifs with _ h₁ h₂
  · exact .refl i sys
  · exact .refl i sys
  · have hs := startAt_edge hc (eq_buildSucceeded h₁ h₂) .use
    split
    · exact (advances_setGuard sys i _ _).setPathState hs
    · exact (Advances.refl i sys).setPathState hs
  · exact .refl i sys

theorem pathbiasMarkUseSuccess_advances (hnc : sys.startAt i ≠ .alreadyCounted) :
    Advances i sys (pathbiasMarkUseSuccess cfg sys i) := by
  have hs : ReflTransGen Edge (sys.startAt i) .useSucceeded := .single (.useSuccess hnc)
  unfold pathbiasMarkUseSuccess
  repeat' first | dsimp only | split
  all_goals first
    | exact .refl i sys
    | exact (pathbiasCountUseAttempt_advances cfg sys i).setPathState hs
    | exact (Advances.refl i sys).setPathState hs

theorem pathbiasMarkUseRollback_advances : Advances i sys (pathbiasMarkUseRollback sys i) :=
  advances_modifyCirc sys i fun c => by
    split_ifs with h
    · exact .single (h ▸ .rollback)
    · exact .refl

theorem pathbiasCountUseSuccess_advances : Advances i sys (pathbiasCountUseSuccess cfg sys i) := by
  unfold pathbiasCountUseSuccess
  repeat' split
  all_goals first
    | exact .refl i sys
    | exact advances_setGuard sys i _ _

theorem pathbiasCountClose_advances (k : Counter) :
    Advances i sys (pathbiasCountClose cfg sys i k) := by
  unfold pathbiasCountClose
  repeat' split
  all_goals first
    | exact .refl i sys
    | exact advances_setGuard sys i _ _

theorem pathbiasCountTimeout_advances : Advances i sys (pathbiasCountTimeout cfg sys i) := by
  unfold pathbiasCountTimeout
  repeat' split
  all_goals first
    | exact .refl i sys
    | exact advances_setGuard sys i _ _

variable {markForClose : Sys → Sys} (hm : ∀ s, Advances i s (markForClose s))
include hm

theorem pathbiasSendUsableProbe_advances (o : ProbeOracle) :
    Advances i sys (pathbiasSendUsableProbe markForClose sys i o).2 := by
  have probed := advances_modifyCirc_same sys i (f := fun c =>
    { c with purpose := .pathBiasTesting, pathbiasProbeNonce := o.rand &&& 0xffffff,
             pathbiasProbeId := o.streamId }) fun _ => rfl
  rcases pathbiasSendUsableProbe_cases markForClose sys i o with h | h | h | ⟨-, h⟩ <;> rw [h]
  · exact .refl i sys
  · exact probed
  · exact probed.trans (hm _)
  · exact probed

theorem pathbiasCheckClose_advances (reason : CloseReason) (o : CloseOracle) :
    Advances i sys (pathbiasCheckClose cfg markForClose sys i reason o).2 := by
  have counted : ∀ s, Advances i sys s → Advances i sys (s.setPathState i .alreadyCounted) :=
    fun s h => h.setPathState (.single (.counted _))
  have hprobe := pathbiasSendUsableProbe_advances sys i hm o.probe
  have hclose := fun k => pathbiasCountClose_advances cfg sys i k
  unfold pathbiasCheckClose
  rcases sys.circuits[i]? with _ | c
  · exact .refl i sys
  dsimp only
  split
  · exact .refl i sys
  split
  · split_ifs <;> exact counted _ (hclose _)
  · split_ifs
    · exact hprobe
    · exact counted _ (hprobe.trans (pathbiasCountClose_advances cfg _ i _))
  · exact counted _ ((hclose _).trans (pathbiasCountUseSuccess_advances cfg _ i))
  · exact counted _ (hclose _)
  · exact counted _ (.refl i sys)

omit hm

theorem circuitMarkForCloseDepth_advances (depth : ℕ) :
    ∀ (sys : Sys) (reason : CloseReason) (o : CloseOracle),
      Advances i sys (circuitMarkForCloseDepth cfg depth sys i reason o) := by
  induction depth with
  | zero => exact fun sys _ _ => .refl i sys
  | succ depth ih =>
    intro sys reason o
    let inner := fun s => circuitMarkForCloseDepth cfg depth s i ⟨.internal, false⟩ o
    have hcheck := @pathbiasCheckClose_advances cfg sys i inner (fun s => ih s _ o) reason o
    unfold circuitMarkForCloseDepth
    split
    · exact .refl i sys
    split_ifs
    · exact .refl i sys
    dsimp only
    split_ifs
    · exact hcheck
    · exact hcheck.trans (advances_modifyCirc_same _ i fun _ => rfl)

theorem circuitMarkForClose_advances (reason : CloseReason) (o : CloseOracle) :
    Advances i sys (circuitMarkForClose cfg sys i reason o) :=
  circuitMarkForCloseDepth_advances cfg i 2 sys reason o

theorem pathbiasCheckProbeResponse_advances (hnc : sys.startAt i ≠ .alreadyCounted)
    (cell : RelayCell) (o : CloseOracle) :
    Advances i sys (pathbiasCheckProbeResponse cfg sys i cell o).2 := by
  unfold pathbiasCheckProbeResponse
  repeat' first | dsimp only | split
  all_goals first
    | exact .refl i sys
    | exact (pathbiasMarkUseSuccess_advances cfg sys i hnc).trans
        (circuitMarkForClose_advances cfg _ i _ o)

end Ops

end PathBias

namespace Build

open PathBias PathSelection Sys

section Handlers

variable (opt : Options) {sys : Sys} {i : ℕ} {res : Option EndCircReason × Sys}

theorem advances_setHop (sys : Sys) (i k : ℕ) (f : CryptPath → CryptPath) :
    Advances i sys (setHop sys i k f) :=
  advances_modifyCirc_same sys i fun _ => rfl

theorem advances_setState (sys : Sys) (i : ℕ) (st : CircuitState) :
    Advances i sys (sys.modifyCirc i fun c => { c with state := st }) :=
  advances_modifyCirc_same sys i fun _ => rfl

theorem advances_circuitHasOpened (sys : Sys) (i : ℕ) : Advances i sys (circuitHasOpened sys i) :=
  advances_modifyCirc_same sys i fun _ => rfl

theorem closeOnError_advances (o : CloseOracle) (res : Option EndCircReason × Sys) :
    Advances i res.2 (closeOnError opt i o res) := by
  obtain ⟨_ | r, s⟩ := res
  · exact .refl i s
  · exact circuitMarkForClose_advances opt.pathBias s i _ o

theorem circuitSendNextOnionSkin_advances {o : SkinOracle}
    (h : circuitSendNextOnionSkin opt sys i o = some res) : Advances i sys res.2 := by
  have opened : Advances i sys (circuitHasOpened (pathbiasCountBuildSuccess opt.pathBias
      (sys.modifyCirc i fun c => { c with state := .open }) i) i) :=
    ((advances_setState sys i _).trans (pathbiasCountBuildSuccess_advances opt.pathBias _ i)).trans
      (advances_circuitHasOpened _ i)
  rcases circuitSendNextOnionSkin_cases opt h with
    hr | ⟨k, x, hr | hr | hr | ⟨r, hr⟩⟩ | ⟨c, -, -, hr | hr⟩ <;> rw [hr]
  · exact .refl i sys
  · exact advances_setHop sys i k _
  · exact (advances_setHop sys i k _).trans (advances_setHop _ i k _)
  · exact ((advances_setHop sys i k _).trans (advances_setHop _ i k _)).trans
      (advances_setState _ i _)
  · exact (advances_setHop sys i k _).trans (circuitMarkForClose_advances opt.pathBias _ i r o.close)
  · exact opened
  · exact opened.trans (circuitMarkForClose_advances opt.pathBias _ i _ o.close)

theorem circuitFinishHandshake_advances {o : ReplyOracle}
    (h : circuitFinishHandshake opt sys i o = some res) : Advances i sys res.2 := by
  have hcount := pathbiasCountBuildAttempt_advances opt.pathBias sys i
  unfold circuitFinishHandshake at h
  generalize pathbiasCountBuildAttempt opt.pathBias sys i = p at h hcount
  refine hcount.trans ?_
  obtain ⟨_ | r, s⟩ := p
  all_goals
    dsimp only at h
    repeat' first | (split at h) | (dsimp only at h)
  all_goals first
    | (cases h; exact .refl i _)
    | (cases h; exact advances_setHop _ i _ _)
    | (cases h; exact (advances_setHop _ i _ _).trans (advances_setHop _ i _ _))
    | cases h

theorem circuitHandleFirstHop_advances {o : FirstHopOracle}
    (h : circuitHandleFirstHop opt sys i o = some res) : Advances i sys res.2 := by
  unfold circuitHandleFirstHop at h
  repeat' first | (split at h) | (split_ifs at h)
  all_goals first
    | exact circuitSendNextOnionSkin_advances opt h
    | (cases h; exact .refl i sys)
    | cases h

theorem circuitHandleReply_advances {sys' : Sys} {reply : ReplyOracle} {o : SkinOracle}
    (h : circuitHandleReply opt sys i reply o = some sys') : Advances i sys sys' := by
  obtain ⟨⟨_ | r, s⟩, hfin, h⟩ := Option.bind_eq_some.mp h
  · obtain ⟨res, hsend, rfl⟩ := Option.map_eq_some'.mp h
    exact ((circuitFinishHandshake_advances opt hfin).trans
      (circuitSendNextOnionSkin_advances opt hsend)).trans (closeOnError_advances opt _ res)
  · cases h
    exact (circuitFinishHandshake_advances opt hfin).trans
      (circuitMarkForClose_advances opt.pathBias s i _ _)

theorem advances_append {circ : OriginCircuit} (hnew : circ.pathState = .newCirc) (sys : Sys) :
    Advances sys.circuits.length sys { sys with circuits := sys.circuits ++ [circ] } := by
  refine ⟨fun j hj => ?_, fun h => ?_, fun c hc => ?_⟩
  · rcases Nat.lt_or_ge j sys.circuits.length with hlt | hge
    · exact List.getElem?_append_left hlt
    · rw [List.getElem?_eq_none (by simp; omega), List.getElem?_eq_none hge]
  · rw [List.getElem?_eq_none le_rfl] at h
    cases h
  · rw [List.getElem?_concat_length] at hc
    cases hc
    rw [startAt_of_none (List.getElem?_eq_none le_rfl), hnew]

end Handlers

variable {opt : Options} {policy : PurposePolicy}

theorem advances_step {sys sys' : Sys} (hset : AllSettled sys) (hstep : Step opt policy sys sys') :
    ∃ i, Advances i sys sys' := by
  -- a live circuit's close was not counted
  have live : ∀ {i : ℕ} {p : OriginCircuit → Prop}, LiveWith sys i p →
      sys.startAt i ≠ .alreadyCounted := by
    rintro i p ⟨c, hc, hlive, -⟩ hac
    rw [startAt_of_some hc] at hac
    simp [hset i c hc hac] at hlive
  cases hstep with
  | establish sel nodes purpose exit flags o _ h =>
    unfold circuitEstablishCircuit at h
    split at h
    · rename_i circ hbuilt
      obtain ⟨res, hfirst, rfl⟩ := Option.map_eq_some'.mp h
      have hnew : circ.pathState = .newCirc := by
        rw [(circuitEstablishPath_built hbuilt).1]
        rfl
      exact ⟨_, ((advances_append hnew sys).trans (circuitHandleFirstHop_advances opt hfirst)).trans
        (closeOnError_advances opt _ res)⟩
    all_goals
      cases h
      exact ⟨0, .refl 0 sys⟩
  | chanDone i status o hwait h =>
    refine ⟨i, ?_⟩
    unfold circuitNChanDone at h
    split_ifs at h
    · cases h
      exact circuitMarkForClose_advances opt.pathBias sys i _ _
    · obtain ⟨res, hsend, rfl⟩ := Option.map_eq_some'.mp h
      exact (circuitSendNextOnionSkin_advances opt hsend).trans (closeOnError_advances opt _ res)
  | reply i reply o hsent h => exact ⟨i, circuitHandleReply_advances opt h⟩
  | extendToNewExit i exit o hopen h =>
    obtain ⟨res, hsend, rfl⟩ := Option.map_eq_some'.mp h
    have hexit : Advances i sys (sys.modifyCirc i fun c =>
        { circuitAppendNewExit c exit with state := .building }) :=
      advances_modifyCirc_same sys i fun _ => rfl
    exact ⟨i, (hexit.trans (circuitSendNextOnionSkin_advances opt hsend)).trans
      (closeOnError_advances opt _ res)⟩
  | useAttempt i hused => exact ⟨i, pathbiasCountUseAttempt_advances opt.pathBias sys i⟩
  | useSuccess i hused =>
    exact ⟨i, pathbiasMarkUseSuccess_advances opt.pathBias sys i (live hused)⟩
  | useRollback i hused => exact ⟨i, pathbiasMarkUseRollback_advances sys i⟩
  | probeResponse i cell o htesting =>
    exact ⟨i, pathbiasCheckProbeResponse_advances opt.pathBias sys i (live htesting) cell o⟩
  | timeout i hlive => exact ⟨i, pathbiasCountTimeout_advances opt.pathBias sys i⟩
  | close i reason o hlive => exact ⟨i, circuitMarkForClose_advances opt.pathBias sys i reason o⟩
  | changePurpose i p _ hpolicy => exact ⟨i, advances_modifyCirc_same sys i fun _ => rfl⟩

theorem startAt_reachable {init sys : Sys} (hinit : AllSettled init)
    (hreach : Reachable opt policy init sys) (j : ℕ) :
    ReflTransGen Edge (init.startAt j) (sys.startAt j) ∧
      ((init.circuits[j]?).isSome → (sys.circuits[j]?).isSome) := by
  induction hreach with
  | init => exact ⟨.refl, id⟩
  | step hr hstep ih =>
    obtain ⟨i, hadv⟩ := advances_step (allSettled_reachable hinit hr) hstep
    by_cases hj : j = i
    · subst hj
      exact ⟨ih.1.trans hadv.startAt, hadv.isSome ∘ ih.2⟩
    · have he := hadv.beside j hj
      simp only [startAt, he]
      exact ⟨by simpa only [startAt] using ih.1, by simpa only [he] using ih.2⟩

/-- From any state where every circuit whose close was counted is marked, over any run of the
build machine and the accountant, the path state of each circuit moves only along the edges of
the path-bias machine from the state it started in, NEW_CIRC for a circuit the run built: the
build attempt, the build success and the use attempt each one step on, a use success from any
state whose close was not counted, the rollback from USE_SUCCEEDED to USE_ATTEMPTED, and the
counted close. So no circuit comes to USE_FAILED, and a circuit whose close was counted stays
ALREADY_COUNTED. -/
theorem reachable_pathState {init sys : Sys} (hinit : AllSettled init)
    (hreach : Reachable opt policy init sys) {j : ℕ} {c : OriginCircuit}
    (hc : sys.circuits[j]? = some c) :
    ReflTransGen Edge (init.startAt j) c.pathState ∧
      (c.pathState = .useFailed → init.startAt j = .useFailed) ∧
      (init.startAt j = .alreadyCounted → c.pathState = .alreadyCounted) := by
  have h := (startAt_reachable hinit hreach j).1
  rw [startAt_of_some hc] at h
  exact ⟨h, fun hf => useFailed_of_reaches (hf ▸ h), fun ha => alreadyCounted_of_reaches (ha ▸ h)⟩

/-- The use attempt on the built circuit of `twoCircSys` moves it from BUILD_SUCCEEDED to
USE_ATTEMPTED. -/
theorem twoCircSys_pathState :
    AllSettled twoCircSys ∧
      Reachable unsetOptions (fun _ _ => True) twoCircSys
        (pathbiasCountUseAttempt unsetConfig twoCircSys 0) ∧
      (pathbiasCountUseAttempt unsetConfig twoCircSys 0).circuits[0]? =
        some { unusedCircuit with pathState := .useAttempted } ∧
      (ReflTransGen Edge (twoCircSys.startAt 0) PathState.useAttempted ∧
        (PathState.useAttempted = .useFailed → twoCircSys.startAt 0 = .useFailed) ∧
        (twoCircSys.startAt 0 = .alreadyCounted → PathState.useAttempted = .alreadyCounted)) :=
  have hset : AllSettled twoCircSys := allSettled_of_mem (by decide)
  have hrun : Reachable unsetOptions (fun _ _ => True) twoCircSys
      (pathbiasCountUseAttempt unsetConfig twoCircSys 0) :=
    .step .init (.useAttempt 0 ⟨unusedCircuit, rfl, rfl, rfl⟩)
  ⟨hset, hrun, rfl, @reachable_pathState unsetOptions (fun _ _ => True) twoCircSys _ hset hrun 0
    { unusedCircuit with pathState := .useAttempted } rfl⟩

end Build

end TorCircuitBuild
