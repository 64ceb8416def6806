import TorCircuitBuild.AttemptScaling
import TorCircuitBuild.BuildMachine

set_option autoImplicit false

/-!
# A guard's alerts are latches

pathbias_measure_close_rate and pathbias_measure_use_rate only ever set a guard's alert flags,
and entry_guard_inc_circ_attempt_count counts no attempt at a guard that the close-rate check
leaves disabled. Nothing else the accountant or the build machine does writes a flag or the
attempts of a guard, and no event adds a guard to the store or takes one away. So over every
run, from any state: no flag of any guard is cleared, and a guard disabled by
pb_dropguards counts no further circuit attempt.
-/

namespace TorCircuitBuild

/-- The alerts of a guard that the rate checks set. -/
inductive Flag
  | noticed
  | warned
  | extreme
  | disabled
  | useNoticed
  | useExtreme
  deriving DecidableEq, Repr

namespace EntryGuard

def flag (g : EntryGuard) : Flag → Bool
  | .noticed => g.pathBiasNoticed
  | .warned => g.pathBiasWarned
  | .extreme => g.pathBiasExtreme
  | .disabled => g.pathBiasDisabled
  | .useNoticed => g.pathBiasUseNoticed
  | .useExtreme => g.pathBiasUseExtreme

@[simp] theorem flag_bump (g : EntryGuard) (k : Counter) (f : Flag) :
    (g.bump k).flag f = g.flag f := by
  cases k <;> rfl

/-- A later value of a guard: no flag it had is cleared, and once disabled it counts no more
attempts. -/
structure Latch (g g' : EntryGuard) : Prop where
  flags : ∀ f, g.flag f = true → g'.flag f = true
  attempts : g.pathBiasDisabled = true → g'.circAttempts = g.circAttempts

theorem Latch.refl (g : EntryGuard) : Latch g g := ⟨fun _ => id, fun _ => rfl⟩

theorem Latch.trans {g g' g'' : EntryGuard} (h : Latch g g') (h' : Latch g' g'') :
    Latch g g'' :=
  ⟨fun f => h'.flags f ∘ h.flags f,
    fun hd => (h'.attempts (h.flags .disabled hd)).trans (h.attempts hd)⟩

theorem Latch.ite {g a b : EntryGuard} {c : Prop} [Decidable c] (ha : Latch g a)
    (hb : Latch g b) : Latch g (if c then a else b) := by
  split <;> assumption

theorem latch_bump (g : EntryGuard) {k : Counter} (hk : k ≠ .circAttempts) :
    Latch g (g.bump k) :=
  ⟨fun f => (g.flag_bump k f).symm ▸ id, fun _ => by simp [hk]⟩

end EntryGuard

namespace PathBias

open EntryGuard

section Guard

variable (cfg : Config) (circs : List OriginCircuit) (d : Digest) (g : EntryGuard)

theorem pathbiasMeasureCloseRate_latch : Latch g (pathbiasMeasureCloseRate cfg circs d g) := by
  unfold pathbiasMeasureCloseRate
  dsimp only
  refine .ite (.ite (.ite ?disabled ?extreme) (.ite ?warned (.ite ?noticed (.refl g)))) (.refl g)
  all_goals exact ⟨fun f hf => by cases f <;> first | exact hf | rfl, fun _ => rfl⟩

theorem pathbiasMeasureUseRate_latch : Latch g (pathbiasMeasureUseRate cfg circs d g) := by
  unfold pathbiasMeasureUseRate
  dsimp only
  refine .ite (.ite (.ite ?disabled ?useExtreme) (.ite ?useNoticed (.refl g))) (.refl g)
  all_goals exact ⟨fun f hf => by cases f <;> first | exact hf | rfl, fun _ => rfl⟩

@[simp] theorem flag_pathbiasScaleCloseRates (f : Flag) :
    (pathbiasScaleCloseRates cfg circs d g).flag f = g.flag f := by
  unfold pathbiasScaleCloseRates
  split_ifs <;> cases f <;> rfl

theorem pathbiasScaleUseRates_latch : Latch g (pathbiasScaleUseRates cfg circs d g) := by
  unfold pathbiasScaleUseRates
  split_ifs
  · exact ⟨fun _ => id, fun _ => rfl⟩
  · exact .refl g

theorem entryGuardIncCircAttemptCount_latch :
    Latch g (entryGuardIncCircAttemptCount cfg circs d g).2 := by
  have hm := pathbiasMeasureCloseRate_latch cfg circs d g
  unfold entryGuardIncCircAttemptCount
  dsimp only
  split_ifs with hdis
  · exact hm
  · refine ⟨fun f hf => ?_, fun hd => absurd (hm.flags .disabled hd) hdis⟩
    rw [flag_bump, flag_pathbiasScaleCloseRates]
    exact hm.flags f hf

theorem latch_useAttempt :
    Latch g ((pathbiasScaleUseRates cfg circs d (pathbiasMeasureUseRate cfg circs d g)).bump
      .useAttempts) :=
  ((pathbiasMeasureUseRate_latch cfg circs d g).trans (pathbiasScaleUseRates_latch ..)).trans
    (latch_bump _ (by decide))

end Guard

namespace Sys

/-- A later state of the store: the same digests have guards, and each guard is a later value
of itself. -/
structure Latch (sys sys' : Sys) : Prop where
  guards : ∀ d, (sys'.guards d).isSome = (sys.guards d).isSome
  latch : ∀ d g, sys.guards d = some g → ∃ g', sys'.guards d = some g' ∧ g.Latch g'

theorem Latch.refl (sys : Sys) : Latch sys sys :=
  ⟨fun _ => rfl, fun _ g hg => ⟨g, hg, .refl g⟩⟩

theorem Latch.trans {sys sys' sys'' : Sys} (h : Latch sys sys') (h' : Latch sys' sys'') :
    Latch sys sys'' where
  guards d := (h'.guards d).trans (h.guards d)
  latch d g hg := by
    obtain ⟨g', hg', hl⟩ := h.latch d g hg
    obtain ⟨g'', hg'', hl'⟩ := h'.latch d g' hg'
    exact ⟨g'', hg'', hl.trans hl'⟩

theorem latch_of_guards {sys sys' : Sys} (h : sys'.guards = sys.guards) : Latch sys sys' :=
  ⟨fun _ => by rw [h], fun _ g hg => ⟨g, by rw [h]; exact hg, .refl g⟩⟩

theorem latch_modifyCirc (sys : Sys) (i : ℕ) (f : OriginCircuit → OriginCircuit) :
    Latch sys (sys.modifyCirc i f) :=
  latch_of_guards rfl

theorem latch_setPathState (sys : Sys) (i : ℕ) (s : PathState) :
    Latch sys (sys.setPathState i s) :=
  latch_of_guards rfl

theorem latch_setGuard {sys : Sys} {d : Digest} {g g' : EntryGuard} (hd : sys.guards d = some g)
    (hg : g.Latch g') : Latch sys (sys.setGuard d g') where
  guards d' := by by_cases h : d' = d <;> simp [h, hd]
  latch d' g₀ hg₀ := by
    by_cases h : d' = d
    · subst h
      obtain rfl := Option.some.inj (hg₀.symm.trans hd)
      exact ⟨g', by simp, hg⟩
    · exact ⟨g₀, by simpa [h] using hg₀, .refl g₀⟩

theorem latch_setGuard_guardOf {sys : Sys} {c : OriginCircuit} {d : Digest} {g g' : EntryGuard}
    (h : guardOf sys c = some (d, g)) (hg : g.Latch g') : Latch sys (sys.setGuard d g') :=
  latch_setGuard (guardOf_eq_some h).2 hg

end Sys

open Sys

section Ops

variable (cfg : Config) (sys : Sys) (i : ℕ)

theorem pathbiasCountBuildAttempt_latch : Latch sys (pathbiasCountBuildAttempt cfg sys i).2 := by
  unfold pathbiasCountBuildAttempt
  repeat' first | dsimp only | split
  all_goals first
    | exact .refl sys
    | exact latch_setPathState sys i _
    | exact (latch_setPathState sys i _).trans
        (latch_setGuard (by assumption) (entryGuardIncCircAttemptCount_latch ..))

theorem pathbiasCountBuildSuccess_latch : Latch sys (pathbiasCountBuildSuccess cfg sys i) := by
  unfold pathbiasCountBuildSuccess
  repeat' split
  all_goals first
    | exact .refl sys
    | exact (latch_setPathState sys i _).trans
        (latch_setGuard_guardOf (by assumption) (latch_bump _ (by decide)))

theorem pathbiasCountUseAttempt_latch : Latch sys (pathbiasCountUseAttempt cfg sys i) := by
  unfold pathbiasCountUseAttempt
  repeat' split
  all_goals first
    | exact .refl sys
    | exact latch_setPathState sys i _
    | exact (latch_setGuard_guardOf (by assumption) (latch_useAttempt ..)).trans
        (latch_setPathState _ i _)

theorem pathbiasMarkUseSuccess_latch : Latch sys (pathbiasMarkUseSuccess cfg sys i) := by
  unfold pathbiasMarkUseSuccess
  repeat' split
  all_goals first
    | exact .refl sys
    | exact latch_setPathState sys i _
    | exact (pathbiasCountUseAttempt_latch cfg sys i).trans (latch_setPathState _ i _)

theorem pathbiasCountUseSuccess_latch : Latch sys (pathbiasCountUseSuccess cfg sys i) := by
  unfold pathbiasCountUseSuccess
  repeat' split
  all_goals first
    | exact .refl sys
    | exact latch_setGuard_guardOf (by assumption) (latch_bump _ (by decide))

theorem pathbiasCountClose_latch {k : Counter} (hk : k ≠ .circAttempts) :
    Latch sys (pathbiasCountClose cfg sys i k) := by
  unfold pathbiasCountClose
  repeat' split
  all_goals first
    | exact .refl sys
    | exact latch_setGuard_guardOf (by assumption) (latch_bump _ hk)

theorem pathbiasCountTimeout_latch : Latch sys (pathbiasCountTimeout cfg sys i) := by
  unfold pathbiasCountTimeout
  repeat' split
  all_goals first
    | exact .refl sys
    | exact latch_setGuard_guardOf (by assumption) (latch_bump _ (by decide))

variable {markForClose : Sys → Sys} (hm : ∀ s, Latch s (markForClose s))
include hm

theorem pathbiasSendUsableProbe_latch (o : ProbeOracle) :
    Latch sys (pathbiasSendUsableProbe markForClose sys i o).2 := by
  rcases pathbiasSendUsableProbe_cases markForClose sys i o with h | h | h | ⟨-, h⟩ <;> rw [h]
  · exact .refl sys
  · exact latch_modifyCirc sys i _
  · exact (latch_modifyCirc sys i _).trans (hm _)
  · exact latch_modifyCirc sys i _

theorem pathbiasCheckClose_latch (reason : CloseReason) (o : CloseOracle) :
    Latch sys (pathbiasCheckClose cfg markForClose sys i reason o).2 := by
  have counted : ∀ s, Latch sys s → Latch sys (s.setPathState i .alreadyCounted) :=
    fun s h => h.trans (latch_setPathState s i _)
  have hprobe := pathbiasSendUsableProbe_latch sys i hm o.probe
  have hclose := fun (k : Counter) (hk : k ≠ .circAttempts) => pathbiasCountClose_latch cfg sys i hk
  unfold pathbiasCheckClose
  rcases sys.circuits[i]? with _ | c
  · exact .refl sys
  dsimp only
  split
  · exact .refl sys
  split
  · split_ifs <;> exact counted _ (hclose _ (by decide))
  · split_ifs
    · exact hprobe
    · exact counted _ (hprobe.trans (pathbiasCountClose_latch cfg _ i (by decide)))
  · exact counted _ ((hclose _ (by decide)).trans (pathbiasCountUseSuccess_latch cfg _ i))
  · exact counted _ (hclose _ (by decide))
  · exact counted _ (.refl sys)

omit hm

theorem circuitMarkForCloseDepth_latch (depth : ℕ) :
    ∀ (sys : Sys) (reason : CloseReason) (o : CloseOracle),
      Latch sys (circuitMarkForCloseDepth cfg depth sys i reason o) := by
  induction depth with
  | zero => exact fun sys _ _ => .refl sys
  | succ depth ih =>
    intro sys reason o
    unfold circuitMarkForCloseDepth
    split
    · exact .refl sys
    split_ifs
    · exact .refl sys
    · have hcheck := pathbiasCheckClose_latch cfg sys i (fun s => ih s ⟨.internal, false⟩ o) reason o
      dsimp only
      split_ifs
      · exact hcheck
      · exact hcheck.trans (latch_modifyCirc _ i _)

theorem circuitMarkForClose_latch (reason : CloseReason) (o : CloseOracle) :
    Latch sys (circuitMarkForClose cfg sys i reason o) :=
  circuitMarkForCloseDepth_latch cfg i 2 sys reason o

theorem pathbiasCheckProbeResponse_latch (cell : RelayCell) (o : CloseOracle) :
    Latch sys (pathbiasCheckProbeResponse cfg sys i cell o).2 := by
  unfold pathbiasCheckProbeResponse
  repeat' first | dsimp only | split
  all_goals first
    | exact .refl sys
    | exact (pathbiasMarkUseSuccess_latch cfg sys i).trans (circuitMarkForClose_latch cfg _ i _ o)

end Ops

end PathBias

namespace Build

open PathBias PathSelection Sys

section Handlers

variable (opt : Options) {sys : Sys} {i : ℕ} {res : Option EndCircReason × Sys}

theorem latch_setHop (sys : Sys) (i k : ℕ) (f : CryptPath → CryptPath) :
    Latch sys (setHop sys i k f) :=
  latch_modifyCirc sys i _

theorem closeOnError_latch (o : CloseOracle) (res : Option EndCircReason × Sys) :
    Latch res.2 (closeOnError opt i o res) := by
  obtain ⟨_ | r, s⟩ := res
  · exact .refl s
  · exact circuitMarkForClose_latch opt.pathBias s i _ o

theorem circuitSendNextOnionSkin_latch {o : SkinOracle}
    (h : circuitSendNextOnionSkin opt sys i o = some res) : Latch sys res.2 := by
  have opened : Latch sys (circuitHasOpened (pathbiasCountBuildSuccess opt.pathBias
      (sys.modifyCirc i fun c => { c with state := .open }) i) i) :=
    ((latch_modifyCirc sys i _).trans (pathbiasCountBuildSuccess_latch opt.pathBias _ i)).trans
      (latch_modifyCirc _ i _)
  rcases circuitSendNextOnionSkin_cases opt h with
    hr | ⟨k, x, hr | hr | hr | ⟨r, hr⟩⟩ | ⟨c, -, -, hr | hr⟩ <;> rw [hr]
  · exact .refl sys
  · exact latch_setHop sys i k _
  · exact (latch_setHop sys i k _).trans (latch_setHop _ i k _)
  · exact ((latch_setHop sys i k _).trans (latch_setHop _ i k _)).trans (latch_modifyCirc _ i _)
  · exact (latch_setHop sys i k _).trans (circuitMarkForClose_latch opt.pathBias _ i r o.close)
  · exact opened
  · exact opened.trans (circuitMarkForClose_latch opt.pathBias _ i _ o.close)

theorem circuitFinishHandshake_latch {o : ReplyOracle}
    (h : circuitFinishHandshake opt sys i o = some res) : Latch sys res.2 := by
  have hcount := pathbiasCountBuildAttempt_latch opt.pathBias sys i
  unfold circuitFinishHandshake at h
  generalize pathbiasCountBuildAttempt opt.pathBias sys i = p at h hcount
  refine hcount.trans (latch_of_guards ?_)
  obtain ⟨_ | r, s⟩ := p
  all_goals
    dsimp only at h
    repeat' first | (split at h) | (dsimp only at h)
  all_goals first | (cases h; rfl) | cases h

theorem circuitHandleFirstHop_latch {o : FirstHopOracle}
    (h : circuitHandleFirstHop opt sys i o = some res) : Latch sys res.2 := by
  unfold circuitHandleFirstHop at h
  repeat' first | (split at h) | (split_ifs at h)
  all_goals first
    | exact circuitSendNextOnionSkin_latch opt h
    | (cases h; exact .refl sys)
    | cases h

theorem circuitHandleReply_latch {sys' : Sys} {reply : ReplyOracle} {o : SkinOracle}
    (h : circuitHandleReply opt sys i reply o = some sys') : Latch sys sys' := by
  obtain ⟨⟨_ | r, s⟩, hfin, h⟩ := Option.bind_eq_some.mp h
  · obtain ⟨res, hsend, rfl⟩ := Option.map_eq_some'.mp h
    exact ((circuitFinishHandshake_latch opt hfin).trans (circuitSendNextOnionSkin_latch opt hsend)).trans
      (closeOnError_latch opt _ res)
  · cases h
    exact (circuitFinishHandshake_latch opt hfin).trans (circuitMarkForClose_latch opt.pathBias s i _ _)

end Handlers

variable {opt : Options} {policy : PurposePolicy}

theorem latch_step {sys sys' : Sys} (hstep : Step opt policy sys sys') : Latch sys sys' := by
  cases hstep with
  | establish sel nodes purpose exit flags o _ h =>
    unfold circuitEstablishCircuit at h
    split at h
    · obtain ⟨res, hfirst, rfl⟩ := Option.map_eq_some'.mp h
      -- the new circuit joins the list; the store is as it was
      refine Latch.trans ?_ ((circuitHandleFirstHop_latch opt hfirst).trans
        (closeOnError_latch opt _ res))
      exact latch_of_guards rfl
    all_goals
      cases h
      exact .refl sys
  | chanDone i status o _ h =>
    unfold circuitNChanDone at h
    split_ifs at h
    · cases h
      exact circuitMarkForClose_latch opt.pathBias sys i _ _
    · obtain ⟨res, hsend, rfl⟩ := Option.map_eq_some'.mp h
      exact (circuitSendNextOnionSkin_latch opt hsend).trans (closeOnError_latch opt _ res)
  | reply i reply o _ h => exact circuitHandleReply_latch opt h
  | extendToNewExit i exit o _ h =>
    obtain ⟨res, hsend, rfl⟩ := Option.map_eq_some'.mp h
    exact ((latch_modifyCirc sys i _).trans (circuitSendNextOnionSkin_latch opt hsend)).trans
      (closeOnError_latch opt _ res)
  | useAttempt i _ => exact pathbiasCountUseAttempt_latch opt.pathBias sys i
  | useSuccess i _ => exact pathbiasMarkUseSuccess_latch opt.pathBias sys i
  | useRollback i _ => exact latch_modifyCirc sys i _
  | probeResponse i cell o _ => exact pathbiasCheckProbeResponse_latch opt.pathBias sys i cell o
  | timeout i _ => exact pathbiasCountTimeout_latch opt.pathBias sys i
  | close i reason o _ => exact circuitMarkForClose_latch opt.pathBias sys i reason o
  | changePurpose i p _ _ => exact latch_modifyCirc sys i _

/-- From any state, over any run of builds, replies, extensions, channel callbacks, use
attempts and successes, rollbacks, probes, probe answers, timeouts, closes and purpose changes:
the store keeps the same guards, no alert flag of a guard is cleared, and a guard that is
disabled counts no further circuit attempt. -/
theorem reachable_latch {init sys : Sys} (hreach : Reachable opt policy init sys) :
    Latch init sys := by
  induction hreach with
  | init => exact .refl init
  | step _ hstep ih => exact ih.trans (latch_step hstep)

/-- A guard that pb_dropguards disabled: 5 of its 40 attempts closed successfully. -/
def droppedGuard : EntryGuard :=
  ⟨40, 5, 5, 0, 0, 0, 0, 0, false, false, false, true, false, false⟩

/-- A new circuit through the disabled guard at digest 0. -/
def droppedSys : Sys := ⟨[s4Circuit], fun d => if d = 0 then some droppedGuard else none⟩

theorem droppedSys_latch :
    Reachable unsetOptions (fun _ _ => False) droppedSys
        (pathbiasCountTimeout unsetOptions.pathBias droppedSys 0) ∧
      Latch droppedSys (pathbiasCountTimeout unsetOptions.pathBias droppedSys 0) :=
  have h : Reachable unsetOptions (fun _ _ => False) droppedSys _ :=
    .step .init (.timeout 0 ⟨s4Circuit, rfl, rfl, trivial⟩)
  ⟨h, reachable_latch h⟩

end Build

end TorCircuitBuild
