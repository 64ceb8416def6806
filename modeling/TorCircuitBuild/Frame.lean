import TorCircuitBuild.CloseProbe

set_option autoImplicit false

/-!
# What the accountant leaves alone

The path-bias functions and `circuit_mark_for_close` write a circuit's path state, purpose,
probe fields and mark, and the counters of guards already in the store. They never touch a
circuit's hops, its circuit state, its build state or has_opened, they add no guard, and a
mark for close is never cleared. The build machine's invariants rest on this frame.
-/

namespace TorCircuitBuild.PathBias

/-- What only the build machine writes: the hops, the circuit state, the build state and
has_opened; a mark for close is never cleared. -/
structure SameBuild (c c' : OriginCircuit) : Prop where
  cpath : c'.cpath = c.cpath
  state : c'.state = c.state
  buildState : c'.buildState = c.buildState
  hasOpened : c'.hasOpened = c.hasOpened
  marked : c.markedForClose = true → c'.markedForClose = true

theorem SameBuild.refl (c : OriginCircuit) : SameBuild c c := ⟨rfl, rfl, rfl, rfl, id⟩

theorem SameBuild.trans {c c' c'' : OriginCircuit} (h : SameBuild c c')
    (h' : SameBuild c' c'') : SameBuild c c'' :=
  ⟨h'.cpath.trans h.cpath, h'.state.trans h.state, h'.buildState.trans h.buildState,
    h'.hasOpened.trans h.hasOpened, h'.marked ∘ h.marked⟩

theorem SameBuild.live {c c' : OriginCircuit} (h : SameBuild c c')
    (hlive : c'.markedForClose = false) : c.markedForClose = false := by
  cases hc : c.markedForClose
  · rfl
  · simpa [hlive] using h.marked hc

namespace Sys

/-- Every circuit keeps what the build machine owns, and the store keeps its guards. -/
structure Frame (sys sys' : Sys) : Prop where
  length : sys'.circuits.length = sys.circuits.length
  circuits : ∀ (j : ℕ) (c' : OriginCircuit), sys'.circuits[j]? = some c' →
    ∃ c, sys.circuits[j]? = some c ∧ SameBuild c c'
  guards : ∀ d, (sys'.guards d).isSome = (sys.guards d).isSome

theorem Frame.refl (sys : Sys) : Frame sys sys :=
  ⟨rfl, fun _ c hc => ⟨c, hc, .refl c⟩, fun _ => rfl⟩

theorem Frame.trans {sys sys' sys'' : Sys} (h : Frame sys sys') (h' : Frame sys' sys'') :
    Frame sys sys'' where
  length := h'.length.trans h.length
  circuits j c'' hc'' := by
    obtain ⟨c', hc', hsame'⟩ := h'.circuits j c'' hc''
    obtain ⟨c, hc, hsame⟩ := h.circuits j c' hc'
    exact ⟨c, hc, hsame.trans hsame'⟩
  guards d := (h'.guards d).trans (h.guards d)

theorem Frame.get_some {sys sys' : Sys} (h : Frame sys sys') {j : ℕ} {c : OriginCircuit}
    (hj : sys.circuits[j]? = some c) : ∃ c', sys'.circuits[j]? = some c' ∧ SameBuild c c' := by
  have hlt : j < sys'.circuits.length := by
    rw [h.length]
    exact (List.getElem?_eq_some_iff.mp hj).1
  obtain ⟨c₀, hc₀, hsame⟩ := h.circuits j _ (List.getElem?_eq_getElem hlt)
  rw [hj, Option.some.injEq] at hc₀
  exact ⟨_, List.getElem?_eq_getElem hlt, hc₀ ▸ hsame⟩

theorem frame_modifyCirc (sys : Sys) (i : ℕ) {f : OriginCircuit → OriginCircuit}
    (hf : ∀ c, SameBuild c (f c)) : Frame sys (sys.modifyCirc i f) where
  length := List.length_modify f i sys.circuits
  circuits j c' hj := by
    rw [modifyCirc_circuits, List.getElem?_modify] at hj
    cases hc : sys.circuits[j]? with
    | none => simp [hc] at hj
    | some c =>
      simp only [hc, Option.map_eq_map, Option.map_some', Option.some.injEq] at hj
      refine ⟨c, rfl, ?_⟩
      split at hj
      · exact hj ▸ hf c
      · exact hj ▸ .refl c
  guards _ := rfl

theorem frame_setPathState (sys : Sys) (i : ℕ) (s : PathState) :
    Frame sys (sys.setPathState i s) :=
  frame_modifyCirc sys i fun _ => ⟨rfl, rfl, rfl, rfl, id⟩

theorem frame_setGuard (sys : Sys) {d : Digest} {g g' : EntryGuard} (hd : sys.guards d = some g) :
    Frame sys (sys.setGuard d g') where
  length := rfl
  circuits := (Frame.refl sys).circuits
  guards d' := by by_cases h : d' = d <;> simp [h, hd]

end Sys

open Sys

theorem guardOf_eq_some {sys : Sys} {c : OriginCircuit} {d : Digest} {g : EntryGuard}
    (h : guardOf sys c = some (d, g)) : firstHopId c = some d ∧ sys.guards d = some g := by
  simp only [guardOf, Option.bind_eq_some, Option.map_eq_some', Prod.mk.injEq] at h
  obtain ⟨d', hd, g', hg, rfl, rfl⟩ := h
  exact ⟨hd, hg⟩

theorem frame_setGuard_guardOf (sys : Sys) {c : OriginCircuit} {d : Digest} {g g' : EntryGuard}
    (h : guardOf sys c = some (d, g)) : Frame sys (sys.setGuard d g') :=
  frame_setGuard sys (guardOf_eq_some h).2

section Ops

variable (cfg : Config) (sys : Sys) (i : ℕ)

theorem pathbiasCountBuildAttempt_frame : Frame sys (pathbiasCountBuildAttempt cfg sys i).2 := by
  unfold pathbiasCountBuildAttempt
  repeat' first | dsimp only | split
  all_goals first
    | exact .refl sys
    | exact frame_setPathState sys i _
    | exact (frame_setPathState sys i _).trans (frame_setGuard _ (by assumption))

theorem pathbiasCountBuildSuccess_frame : Frame sys (pathbiasCountBuildSuccess cfg sys i) := by
  unfold pathbiasCountBuildSuccess
  repeat' split
  all_goals first
    | exact .refl sys
    | exact (frame_setPathState sys i _).trans (frame_setGuard_guardOf _ (by assumption))

theorem pathbiasCountUseAttempt_frame : Frame sys (pathbiasCountUseAttempt cfg sys i) := by
  unfold pathbiasCountUseAttempt
  repeat' split
  all_goals first
    | exact .refl sys
    | exact frame_setPathState sys i _
    | exact (frame_setGuard_guardOf sys (by assumption)).trans (frame_setPathState _ i _)

theorem pathbiasMarkUseSuccess_frame : Frame sys (pathbiasMarkUseSuccess cfg sys i) := by
  unfold pathbiasMarkUseSuccess
  repeat' split
  all_goals first
    | exact .refl sys
    | exact frame_setPathState sys i _
    | exact (pathbiasCountUseAttempt_frame cfg sys i).trans (frame_setPathState _ i _)

theorem pathbiasMarkUseRollback_frame : Frame sys (pathbiasMarkUseRollback sys i) :=
  frame_modifyCirc sys i fun c => by
    split_ifs
    · exact ⟨rfl, rfl, rfl, rfl, id⟩
    · exact .refl c

theorem pathbiasCountUseSuccess_frame : Frame sys (pathbiasCountUseSuccess cfg sys i) := by
  unfold pathbiasCountUseSuccess
  repeat' split
  all_goals first
    | exact .refl sys
    | exact frame_setGuard_guardOf sys (by assumption)

theorem pathbiasCountClose_frame (k : Counter) : Frame sys (pathbiasCountClose cfg sys i k) := by
  unfold pathbiasCountClose
  repeat' split
  all_goals first
    | exact .refl sys
    | exact frame_setGuard_guardOf sys (by assumption)

theorem pathbiasCountTimeout_frame : Frame sys (pathbiasCountTimeout cfg sys i) := by
  unfold pathbiasCountTimeout
  repeat' split
  all_goals first
    | exact .refl sys
    | exact frame_setGuard_guardOf sys (by assumption)

variable {markForClose : Sys → Sys} (hm : ∀ s, Frame s (markForClose s))
include hm

theorem pathbiasSendUsableProbe_frame (o : ProbeOracle) :
    Frame sys (pathbiasSendUsableProbe markForClose sys i o).2 := by
  rcases pathbiasSendUsableProbe_cases markForClose sys i o with h | h | h | ⟨-, h⟩ <;> rw [h]
  · exact .refl sys
  · exact frame_modifyCirc sys i fun _ => ⟨rfl, rfl, rfl, rfl, id⟩
  · refine (frame_modifyCirc sys i ?_).trans (hm _)
    exact fun _ => ⟨rfl, rfl, rfl, rfl, id⟩
  · exact frame_modifyCirc sys i fun _ => ⟨rfl, rfl, rfl, rfl, id⟩

theorem pathbiasCheckClose_frame (reason : CloseReason) (o : CloseOracle) :
    Frame sys (pathbiasCheckClose cfg markForClose sys i reason o).2 := by
  have counted : ∀ s, Frame sys s → Frame sys (s.setPathState i .alreadyCounted) :=
    fun s h => h.trans (frame_setPathState s i _)
  have hprobe := pathbiasSendUsableProbe_frame sys i hm o.probe
  unfold pathbiasCheckClose
  rcases sys.circuits[i]? with _ | c
  · exact .refl sys
  dsimp only
  split
  · exact .refl sys
  split
  · split_ifs <;> exact counted _ (pathbiasCountClose_frame cfg sys i _)
  · split_ifs
    · exact hprobe
    · exact counted _ (hprobe.trans (pathbiasCountClose_frame cfg _ i _))
  · exact counted _ ((pathbiasCountClose_frame cfg sys i _).trans
      (pathbiasCountUseSuccess_frame cfg _ i))
  · exact counted _ (pathbiasCountClose_frame cfg sys i _)
  · exact counted _ (.refl sys)

omit hm

theorem circuitMarkForCloseDepth_frame (depth : ℕ) :
    ∀ (sys : Sys) (reason : CloseReason) (o : CloseOracle),
      Frame sys (circuitMarkForCloseDepth cfg depth sys i reason o) := by
  induction depth with
  | zero => exact fun sys _ _ => .refl sys
  | succ depth ih =>
    intro sys reason o
    unfold circuitMarkForCloseDepth
    split
    · exact .refl sys
    split_ifs
    · exact .refl sys
    · have hcheck := pathbiasCheckClose_frame cfg sys i (fun s => ih s ⟨.internal, false⟩ o) reason o
      dsimp only
      split_ifs
      · exact hcheck
      · exact hcheck.trans (frame_modifyCirc _ i fun _ => ⟨rfl, rfl, rfl, rfl, fun _ => rfl⟩)

theorem circuitMarkForClose_frame (reason : CloseReason) (o : CloseOracle) :
    Frame sys (circuitMarkForClose cfg sys i reason o) :=
  circuitMarkForCloseDepth_frame cfg i 2 sys reason o

theorem pathbiasCheckProbeResponse_frame (cell : RelayCell) (o : CloseOracle) :
    Frame sys (pathbiasCheckProbeResponse cfg sys i cell o).2 := by
  unfold pathbiasCheckProbeResponse
  repeat' first | dsimp only | split
  all_goals first
    | exact .refl sys
    | exact (pathbiasMarkUseSuccess_frame cfg sys i).trans (circuitMarkForClose_frame cfg _ i _ o)

end Ops

/-! ## A close that cannot wait for a probe

The probe needs an open last hop, so a close of a circuit whose last hop is not open never
waits: it marks the circuit. -/

section Marks

variable (cfg : Config) {sys : Sys} {i : ℕ} {c : OriginCircuit} (hc : sys.circuits[i]? = some c)
  (hlast : c.cpath.getLast?.map (·.state) ≠ some .open)
include hc hlast

theorem pathbiasSendUsableProbe_of_last_not_open (markForClose : Sys → Sys) (o : ProbeOracle) :
    pathbiasSendUsableProbe markForClose sys i o = (-1, sys) := by
  unfold pathbiasSendUsableProbe
  rw [hc]
  dsimp only
  cases hl : c.cpath.getLast? with
  | none => rfl
  | some layer =>
    have hne : layer.state ≠ .open := fun h => hlast (by rw [hl, Option.map_some', h])
    simp only [hne, ne_eq, not_false_eq_true, if_true]

theorem pathbiasCheckClose_of_last_not_open (markForClose : Sys → Sys) (reason : CloseReason)
    (o : CloseOracle) : (pathbiasCheckClose cfg markForClose sys i reason o).1 = 0 := by
  unfold pathbiasCheckClose
  rw [hc, pathbiasSendUsableProbe_of_last_not_open hc hlast]
  dsimp only
  split
  · rfl
  · split <;> (try split_ifs) <;> first | rfl | simp_all

theorem circuitMarkForClose_marks (reason : CloseReason) (o : CloseOracle) :
    ∃ c', (circuitMarkForClose cfg sys i reason o).circuits[i]? = some c' ∧
      c'.markedForClose = true ∧ SameBuild c c' := by
  unfold circuitMarkForClose circuitMarkForCloseDepth
  rw [hc]
  dsimp only
  by_cases hmarked : c.markedForClose = true
  · rw [if_pos hmarked]
    exact ⟨c, hc, hmarked, .refl c⟩
  · rw [if_neg hmarked, pathbiasCheckClose_of_last_not_open cfg hc hlast, if_neg (by decide)]
    obtain ⟨c₁, hc₁, hsame⟩ := (pathbiasCheckClose_frame cfg sys i
      (fun s => circuitMarkForCloseDepth_frame cfg i 1 s ⟨.internal, false⟩ o) reason o).get_some hc
    refine ⟨{ c₁ with markedForClose := true }, ?_, rfl, hsame.trans ⟨rfl, rfl, rfl, rfl, fun _ => rfl⟩⟩
    simp only [modifyCirc_circuits, List.getElem?_modify, hc₁, if_true, Option.map_eq_map,
      Option.map_some']

end Marks

end TorCircuitBuild.PathBias
