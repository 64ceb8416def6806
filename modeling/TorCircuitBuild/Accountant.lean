import TorCircuitBuild.GuardCounts

set_option autoImplicit false

/-!
# The path-bias accountant on the global circuit list

The accountant's functions take a circuit of the global list and its guard, found by the
identity of the circuit's first hop. Each one moves the circuit's `path_state` and bumps at
most one counter of that guard; the use attempt also measures and scales the use rates first.
-/

namespace TorCircuitBuild.PathBias

/-- The global circuit list (its origin circuits; an index names a circuit) and the guard
store, keyed by identity digest. -/
structure Sys where
  circuits : List OriginCircuit
  guards : Digest → Option EntryGuard

namespace Sys

def modifyCirc (sys : Sys) (i : ℕ) (f : OriginCircuit → OriginCircuit) : Sys :=
  { sys with circuits := sys.circuits.modify f i }

def setGuard (sys : Sys) (d : Digest) (g : EntryGuard) : Sys :=
  { sys with guards := Function.update sys.guards d (some g) }

def setPathState (sys : Sys) (i : ℕ) (s : PathState) : Sys :=
  sys.modifyCirc i fun c => { c with pathState := s }

@[simp] theorem modifyCirc_guards (sys : Sys) (i : ℕ) (f : OriginCircuit → OriginCircuit) :
    (sys.modifyCirc i f).guards = sys.guards := rfl

@[simp] theorem modifyCirc_circuits (sys : Sys) (i : ℕ) (f : OriginCircuit → OriginCircuit) :
    (sys.modifyCirc i f).circuits = sys.circuits.modify f i := rfl

@[simp] theorem modifyCirc_modifyCirc (sys : Sys) (i : ℕ) (f g : OriginCircuit → OriginCircuit) :
    (sys.modifyCirc i f).modifyCirc i g = sys.modifyCirc i (g ∘ f) := by
  simp [modifyCirc, List.modify_modify_eq]

@[simp] theorem setGuard_circuits (sys : Sys) (d : Digest) (g : EntryGuard) :
    (sys.setGuard d g).circuits = sys.circuits := rfl

@[simp] theorem setGuard_guards (sys : Sys) (d d' : Digest) (g : EntryGuard) :
    (sys.setGuard d g).guards d' = if d' = d then some g else sys.guards d' := by
  simp [setGuard, Function.update_apply]

theorem getElem?_modifyCirc_self {sys : Sys} {i : ℕ} {c : OriginCircuit}
    (hc : sys.circuits[i]? = some c) (f : OriginCircuit → OriginCircuit) :
    (sys.modifyCirc i f).circuits[i]? = some (f c) := by
  simp [List.getElem?_modify, hc]

theorem modifyCirc_congr {sys : Sys} {i : ℕ} {c : OriginCircuit}
    (hc : sys.circuits[i]? = some c) {f g : OriginCircuit → OriginCircuit} (hfg : f c = g c) :
    sys.modifyCirc i f = sys.modifyCirc i g := by
  simp only [modifyCirc, Sys.mk.injEq, and_true]
  apply List.ext_getElem?
  intro m
  simp only [List.getElem?_modify]
  by_cases him : i = m
  · subst him
    simp [hc, hfg]
  · simp [him]

theorem setGuard_modifyCirc (sys : Sys) (d : Digest) (g : EntryGuard) (i : ℕ)
    (f : OriginCircuit → OriginCircuit) :
    (sys.setGuard d g).modifyCirc i f = (sys.modifyCirc i f).setGuard d g := rfl

end Sys

/-- The identity of the circuit's first hop, the key of its guard. -/
def firstHopId (circ : OriginCircuit) : Option Digest :=
  circ.cpath.head?.map (·.extendInfo.identityDigest)

/-- entry_guard_get_by_id_digest on the first hop's identity. -/
def guardOf (sys : Sys) (circ : OriginCircuit) : Option (Digest × EntryGuard) :=
  (firstHopId circ).bind fun d => (sys.guards d).map fun g => (d, g)

section Ops

variable (cfg : Config) (sys : Sys) (i : ℕ)

/-- 0, or the reason of the -END_CIRC_REASON_TORPROTOCOL return for a disabled guard. -/
def pathbiasCountBuildAttempt : Option EndCircReason × Sys :=
  match sys.circuits[i]? with
  | none => (none, sys)
  | some circ =>
    if !pathbiasShouldCount cfg.options circ then (none, sys)
    else if pathbiasIsNewCircAttempt circ ∧ !circ.hasOpened then
      match guardOf sys circ with
      | none => (none, sys)
      | some (d, _) =>
        if circ.pathState = .newCirc then
          let sys := sys.setPathState i .buildAttempted
          match sys.guards d with
          | none => (none, sys)
          | some guard =>
            let (r, guard) := entryGuardIncCircAttemptCount cfg sys.circuits d guard
            let sys := sys.setGuard d guard
            if r < 0 then (some .torProtocol, sys) else (none, sys)
        else (none, sys)
    else (none, sys)

def pathbiasCountBuildSuccess : Sys :=
  match sys.circuits[i]? with
  | none => sys
  | some circ =>
    if !pathbiasShouldCount cfg.options circ then sys
    else if !circ.hasOpened then
      match guardOf sys circ with
      | some (d, guard) =>
        if circ.pathState = .buildAttempted then
          (sys.setPathState i .buildSucceeded).setGuard d (guard.bump .circSuccesses)
        else sys
      | none => sys
    else sys

def pathbiasCountUseAttempt : Sys :=
  match sys.circuits[i]? with
  | none => sys
  | some circ =>
    if !pathbiasShouldCount cfg.options circ then sys
    else if circ.pathState.toNat < PathState.buildSucceeded.toNat then sys
    else if circ.pathState.toNat < PathState.useAttempted.toNat then
      let sys := match guardOf sys circ with
        | some (d, guard) =>
          let guard := pathbiasMeasureUseRate cfg sys.circuits d guard
          let guard := pathbiasScaleUseRates cfg sys.circuits d guard
          sys.setGuard d (guard.bump .useAttempts)
        | none => sys
      sys.setPathState i .useAttempted
    else sys

def pathbiasMarkUseSuccess : Sys :=
  match sys.circuits[i]? with
  | none => sys
  | some circ =>
    if !pathbiasShouldCount cfg.options circ then sys
    else
      let sys := if circ.pathState.toNat < PathState.useAttempted.toNat then
        pathbiasCountUseAttempt cfg sys i else sys
      sys.setPathState i .useSucceeded

def pathbiasMarkUseRollback : Sys :=
  sys.modifyCirc i fun c =>
    if c.pathState = .useSucceeded then { c with pathState := .useAttempted } else c

def pathbiasCountUseSuccess : Sys :=
  match sys.circuits[i]? with
  | none => sys
  | some circ =>
    if !pathbiasShouldCount cfg.options circ then sys
    else if circ.pathState ≠ .useSucceeded then sys
    else match guardOf sys circ with
      | some (d, guard) => sys.setGuard d (guard.bump .useSuccesses)
      | none => sys

/-- pathbias_count_successful_close, pathbias_count_collapse and pathbias_count_use_failed:
one counter of the guard, bumped for a counted circuit. -/
def pathbiasCountClose (k : Counter) : Sys :=
  match sys.circuits[i]? with
  | none => sys
  | some circ =>
    if !pathbiasShouldCount cfg.options circ then sys
    else match guardOf sys circ with
      | some (d, guard) => sys.setGuard d (guard.bump k)
      | none => sys

def pathbiasCountSuccessfulClose : Sys := pathbiasCountClose cfg sys i .successfulCircuitsClosed

def pathbiasCountCollapse : Sys := pathbiasCountClose cfg sys i .collapsedCircuits

def pathbiasCountUseFailed : Sys := pathbiasCountClose cfg sys i .unusableCircuits

/-- Like the close counters, but a circuit already used successfully is not a timeout. -/
def pathbiasCountTimeout : Sys :=
  match sys.circuits[i]? with
  | none => sys
  | some circ =>
    if !pathbiasShouldCount cfg.options circ then sys
    else if circ.pathState = .useSucceeded then sys
    else match guardOf sys circ with
      | some (d, guard) => sys.setGuard d (guard.bump .timeouts)
      | none => sys

end Ops

end TorCircuitBuild.PathBias
