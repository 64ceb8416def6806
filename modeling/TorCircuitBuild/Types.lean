import Mathlib.Data.Rat.Defs

set_option autoImplicit false

/-!
# Data model of the circuit construction core

Records of `circuitbuild.c` with the fields its functions read and write. Identity digests
are abstract naturals; cipher and digest state, nicknames and ports are left out.
-/

namespace TorCircuitBuild

/-- Relay identity digests. -/
abbrev Digest := ℕ

/-- Hop states of a crypt path, in the order of the C enum. -/
inductive CpathState
  | closed
  | awaitingKeys
  | «open»
  deriving DecidableEq, Repr

/-- Coarse states of an origin circuit. -/
inductive CircuitState
  | building
  | chanWait
  | «open»
  deriving DecidableEq, Repr

/-- Path-bias lifecycle of a circuit, in the order of the C enum. -/
inductive PathState
  | newCirc
  | buildAttempted
  | buildSucceeded
  | useAttempted
  | useSucceeded
  | useFailed
  | alreadyCounted
  deriving DecidableEq, Repr

def PathState.toNat : PathState → ℕ
  | .newCirc => 0
  | .buildAttempted => 1
  | .buildSucceeded => 2
  | .useAttempted => 3
  | .useSucceeded => 4
  | .useFailed => 5
  | .alreadyCounted => 6

/-- Circuit purposes named by the source. -/
inductive Purpose
  | or | introPoint | rendPointWaiting | rendEstablished
  | cGeneral | cIntroducing | cIntroduceAckWait | cIntroduceAcked | cEstablishRend
  | cRendReady | cRendReadyIntroAcked | cRendJoined | cMeasureTimeout
  | sEstablishIntro | sIntro | sConnectRend | sRendJoined
  | testing | controller | pathBiasTesting
  deriving DecidableEq, Repr

/-- Modelled from the spec: the range from C_INTRODUCING to C_INTRODUCE_ACKED of the purpose
enum is the client-side intro states. -/
def Purpose.isClientIntro : Purpose → Bool
  | .cIntroducing | .cIntroduceAckWait | .cIntroduceAcked => true
  | _ => false

inductive HandshakeType
  | tap
  | fast
  | ntor
  deriving DecidableEq, Repr

inductive AddrFamily
  | inet
  | inet6
  deriving DecidableEq, Repr

/-- Contact data of one hop: a legacy onion key may be unknown, the curve25519 key may be
all zero. -/
structure ExtendInfo where
  identityDigest : Digest
  onionKey : Bool
  curve25519OnionKey : Bool
  addrFamily : AddrFamily
  deriving DecidableEq, Repr

/-- One hop of the cpath; the handshake state is the tag of a pending handshake. -/
structure CryptPath where
  extendInfo : ExtendInfo
  state : CpathState
  handshakeState : Option HandshakeType
  deriving DecidableEq, Repr

/-- A hop at the relay with digest `d`, with both onion keys, in state `st`. -/
def hopAt (d : Digest) (st : CpathState) : CryptPath :=
  ⟨⟨d, true, true, .inet⟩, st, none⟩

structure CpathBuildState where
  desiredPathLen : ℕ
  onehopTunnel : Bool
  needUptime : Bool
  needCapacity : Bool
  isInternal : Bool
  chosenExit : Option ExtendInfo
  deriving DecidableEq, Repr

/-- An origin circuit. The cpath ring is read from its head as a list. -/
structure OriginCircuit where
  purpose : Purpose
  state : CircuitState
  markedForClose : Bool
  cpath : List CryptPath
  buildState : CpathBuildState
  hasOpened : Bool
  pathState : PathState
  pathbiasProbeId : ℕ
  pathbiasProbeNonce : ℕ
  deriving DecidableEq, Repr

/-- The END_CIRC_REASON_* codes a close carries. -/
inductive EndCircReason
  | none | torProtocol | internal | requested | hibernating | resourceLimit | connectFailed
  | orIdentity | channelClosed | finished | timeout | destroyed | noPath | noSuchService
  | measurementExpired
  deriving DecidableEq, Repr

/-- A close reason; `remote` is END_CIRC_REASON_FLAG_REMOTE, set for one the other side sent. -/
structure CloseReason where
  reason : EndCircReason
  remote : Bool
  deriving DecidableEq, Repr

/-- The counters of a guard that the accountant bumps and scales. -/
inductive Counter
  | circAttempts
  | circSuccesses
  | successfulCircuitsClosed
  | collapsedCircuits
  | unusableCircuits
  | timeouts
  | useAttempts
  | useSuccesses
  deriving DecidableEq, Repr

/-- Path-bias record of an entry guard: exact rational counters and latched alerts. -/
structure EntryGuard where
  circAttempts : ℚ
  circSuccesses : ℚ
  successfulCircuitsClosed : ℚ
  collapsedCircuits : ℚ
  unusableCircuits : ℚ
  timeouts : ℚ
  useAttempts : ℚ
  useSuccesses : ℚ
  pathBiasNoticed : Bool
  pathBiasWarned : Bool
  pathBiasExtreme : Bool
  pathBiasDisabled : Bool
  pathBiasUseNoticed : Bool
  pathBiasUseExtreme : Bool
  deriving DecidableEq, Repr

def EntryGuard.count (g : EntryGuard) : Counter → ℚ
  | .circAttempts => g.circAttempts
  | .circSuccesses => g.circSuccesses
  | .successfulCircuitsClosed => g.successfulCircuitsClosed
  | .collapsedCircuits => g.collapsedCircuits
  | .unusableCircuits => g.unusableCircuits
  | .timeouts => g.timeouts
  | .useAttempts => g.useAttempts
  | .useSuccesses => g.useSuccesses

/-- The increment the source writes as one of the eight counters followed by ++. -/
def EntryGuard.bump (g : EntryGuard) : Counter → EntryGuard
  | .circAttempts => { g with circAttempts := g.circAttempts + 1 }
  | .circSuccesses => { g with circSuccesses := g.circSuccesses + 1 }
  | .successfulCircuitsClosed => { g with successfulCircuitsClosed := g.successfulCircuitsClosed + 1 }
  | .collapsedCircuits => { g with collapsedCircuits := g.collapsedCircuits + 1 }
  | .unusableCircuits => { g with unusableCircuits := g.unusableCircuits + 1 }
  | .timeouts => { g with timeouts := g.timeouts + 1 }
  | .useAttempts => { g with useAttempts := g.useAttempts + 1 }
  | .useSuccesses => { g with useSuccesses := g.useSuccesses + 1 }

theorem EntryGuard.count_bump (g : EntryGuard) (k j : Counter) :
    (g.bump k).count j = g.count j + if k = j then 1 else 0 := by
  by_cases h : k = j
  · subst h
    cases k <;> simp only [bump, count, if_true]
  · -- every other counter is left as it was
    rw [if_neg h, add_zero]
    cases k <;> cases j <;> first | rfl | exact absurd rfl h

@[simp] theorem EntryGuard.bump_circAttempts (g : EntryGuard) (k : Counter) :
    (g.bump k).circAttempts = g.circAttempts + if k = .circAttempts then 1 else 0 :=
  g.count_bump k .circAttempts

@[simp] theorem EntryGuard.bump_circSuccesses (g : EntryGuard) (k : Counter) :
    (g.bump k).circSuccesses = g.circSuccesses + if k = .circSuccesses then 1 else 0 :=
  g.count_bump k .circSuccesses

@[simp] theorem EntryGuard.bump_useAttempts (g : EntryGuard) (k : Counter) :
    (g.bump k).useAttempts = g.useAttempts + if k = .useAttempts then 1 else 0 :=
  g.count_bump k .useAttempts

@[simp] theorem EntryGuard.bump_useSuccesses (g : EntryGuard) (k : Counter) :
    (g.bump k).useSuccesses = g.useSuccesses + if k = .useSuccesses then 1 else 0 :=
  g.count_bump k .useSuccesses

/-- A relay of the node list, with the flags that the selection code reads. -/
structure Node where
  identity : Digest
  isRunning : Bool
  isValid : Bool
  hasDescriptor : Bool
  isBadExit : Bool
  isGeneralPurpose : Bool
  isStable : Bool
  isFast : Bool
  isPossibleGuard : Bool
  allowsSingleHopExits : Bool
  exitPolicyRejectsAll : Bool
  deriving DecidableEq, Repr

/-- A running, valid relay with identity \`d\`. -/
def relayNode (d : Digest) : Node := ⟨d, true, true, true, false, true, true, true, true, false, false⟩

end TorCircuitBuild
