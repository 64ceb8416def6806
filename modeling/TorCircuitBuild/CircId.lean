import Mathlib.Data.Nat.Bitwise
import Mathlib.Logic.Function.Iterate

set_option autoImplicit false

/-!
# Circuit identifier allocation

`get_unique_circ_id_by_chan` probes `next_circ_id` upward through `[1, max_range - 1]`,
resetting the cursor to 1 when it leaves the range, ORs in the side bit, and gives up once
the attempt counter passes `max_range`. The loop carries its fuel explicitly: `none` means
it did not leave within the given number of passes.
-/

namespace TorCircuitBuild.CircId

/-- Which end of the channel owns the side bit. -/
inductive CircIdType
  | higher
  | lower
  | neither
  deriving DecidableEq, Repr

/-- The fields of a channel that the allocator reads and writes; the in-use test is
circuit_id_in_use_on_channel. -/
structure Channel where
  nextCircId : ℕ
  wideCircIds : Bool
  circIdType : CircIdType
  circIdInUse : ℕ → Bool

def circIdWidth (chan : Channel) : ℕ := if chan.wideCircIds then 31 else 15

def maxRange (chan : Channel) : ℕ := if chan.wideCircIds then 2 ^ 31 else 2 ^ 15

def highBit (chan : Channel) : ℕ := if chan.circIdType = .higher then maxRange chan else 0

/-- One pass: the tested id, and the cursor after the post-increment or the reset. -/
def nextProbe (range next : ℕ) : ℕ × ℕ :=
  if next = 0 ∨ range ≤ next then (1, 2) else (next, (next + 1) % 2 ^ 32)

/-- The do-while loop, returning the id (0 on failure) and the new cursor. -/
def circIdLoop (chan : Channel) : ℕ → ℕ → ℕ → Option (ℕ × ℕ)
  | 0, _, _ => none
  | fuel + 1, next, attempts =>
    let p := nextProbe (maxRange chan) next
    if maxRange chan < attempts + 1 then some (0, p.2)
    else if chan.circIdInUse (p.1 ||| highBit chan) then circIdLoop chan fuel p.2 (attempts + 1)
    else some (p.1 ||| highBit chan, p.2)

/-- The allocator, run for at most max_range + 1 passes. -/
def getUniqueCircIdByChan (chan : Channel) : Option (ℕ × Channel) :=
  if chan.circIdType = .neither then some (0, chan)
  else (circIdLoop chan (maxRange chan + 1) chan.nextCircId 0).map
    fun r => (r.1, { chan with nextCircId := r.2 })

theorem maxRange_eq (chan : Channel) : maxRange chan = 2 ^ circIdWidth chan := by
  unfold maxRange circIdWidth; split <;> rfl

theorem maxRange_bounds (chan : Channel) : 2 ≤ maxRange chan ∧ maxRange chan < 2 ^ 32 := by
  unfold maxRange; split <;> decide

theorem lor_two_pow_of_lt {t w : ℕ} (h : t < 2 ^ w) : t ||| 2 ^ w = t + 2 ^ w := by
  apply Nat.eq_of_testBit_eq
  intro j
  rw [Nat.testBit_lor, Nat.add_comm, Nat.testBit_two_pow]
  rcases Nat.lt_trichotomy j w with hj | rfl | hj
  · rw [Nat.testBit_two_pow_add_gt hj]; simp [Nat.ne_of_gt hj]
  · rw [Nat.testBit_two_pow_add_eq, Nat.testBit_lt_two_pow h]; simp
  · have hw : 2 ^ (w + 1) ≤ 2 ^ j := Nat.pow_le_pow_right (by decide) hj
    rw [Nat.pow_succ] at hw
    rw [Nat.testBit_lt_two_pow (by omega : t < 2 ^ j),
      Nat.testBit_lt_two_pow (by omega : 2 ^ w + t < 2 ^ j)]
    simp [Nat.ne_of_lt hj]

theorem lor_highBit (chan : Channel) {t : ℕ} (ht : t < maxRange chan) :
    t ||| highBit chan =
      t + if chan.circIdType = .higher then 2 ^ circIdWidth chan else 0 := by
  unfold highBit
  split
  · rw [maxRange_eq] at ht ⊢; exact lor_two_pow_of_lt ht
  · simp

section Probes

variable {range : ℕ}

theorem nextProbe_fst_mem (h : 2 ≤ range) (next : ℕ) :
    1 ≤ (nextProbe range next).1 ∧ (nextProbe range next).1 < range := by
  unfold nextProbe; split <;> simp only <;> omega

theorem nextProbe_snd (h : range < 2 ^ 32) (next : ℕ) :
    (nextProbe range next).2 = (nextProbe range next).1 + 1 := by
  unfold nextProbe; split
  · rfl
  · exact Nat.mod_eq_of_lt (by omega)

/-- The cursor before the pass numbered j. -/
def cursorAfter (range next j : ℕ) : ℕ := (fun c => (nextProbe range c).2)^[j] next

/-- The id tested in the pass numbered j. -/
def testAt (range next j : ℕ) : ℕ := (nextProbe range (cursorAfter range next j)).1

theorem testAt_shift (next j : ℕ) :
    testAt range (nextProbe range next).2 j = testAt range next (j + 1) := by
  simp only [testAt, cursorAfter, Function.iterate_succ_apply]

theorem nextProbe_succ_fst {t : ℕ} (ht : 1 ≤ t) (ht' : t < range) :
    (nextProbe range (t + 1)).1 = if t + 1 = range then 1 else t + 1 := by
  unfold nextProbe; split <;> split <;> simp only <;> omega

variable (h2 : 2 ≤ range) (h32 : range < 2 ^ 32)
include h2 h32

theorem testAt_succ (next j : ℕ) :
    testAt range next (j + 1) =
      if testAt range next j + 1 = range then 1 else testAt range next j + 1 := by
  have hm := nextProbe_fst_mem h2 (cursorAfter range next j)
  have hc : cursorAfter range next (j + 1) = testAt range next j + 1 := by
    rw [cursorAfter, Function.iterate_succ_apply']
    exact nextProbe_snd h32 _
  rw [testAt, hc]
  exact nextProbe_succ_fst hm.1 hm.2

theorem testAt_add (next j i : ℕ) (h : testAt range next j + i < range) :
    testAt range next (j + i) = testAt range next j + i := by
  induction i with
  | zero => rfl
  | succ i ih =>
    rw [← Nat.add_assoc, testAt_succ h2 h32, ih (by omega)]
    split <;> omega

theorem testAt_covers (next u : ℕ) (hu : 1 ≤ u) (hu' : u < range) :
    ∃ j < range, testAt range next j = u := by
  have hp : 1 ≤ testAt range next 0 ∧ testAt range next 0 < range := nextProbe_fst_mem h2 _
  set p := testAt range next 0 with hp_def
  by_cases hle : p ≤ u
  · exact ⟨u - p, by omega, by rw [← Nat.zero_add (u - p), testAt_add h2 h32 next 0 _ (by omega)]; omega⟩
  · have htop : testAt range next (range - 1 - p) = range - 1 := by
      rw [← Nat.zero_add (range - 1 - p), testAt_add h2 h32 next 0 _ (by omega)]; omega
    have hone : testAt range next (range - p) = 1 := by
      have := testAt_succ h2 h32 next (range - 1 - p)
      rw [htop, if_pos (by omega)] at this
      rwa [show range - 1 - p + 1 = range - p by omega] at this
    refine ⟨range - p + (u - 1), by omega, ?_⟩
    rw [testAt_add h2 h32 next _ _ (by omega), hone]; omega

end Probes

/-- The loop started with k + 1 passes of fuel and attempts + k = max_range: it finishes,
returns a free in-range id with its side bit, or 0 after finding the k probes it tested
all in use. -/
theorem circIdLoop_spec (chan : Channel) (k : ℕ) :
    ∀ next attempts, attempts + k = maxRange chan →
      ∃ id c, circIdLoop chan (k + 1) next attempts = some (id, c) ∧
        (id ≠ 0 → chan.circIdInUse id = false ∧
          ∃ t, 1 ≤ t ∧ t < maxRange chan ∧ id = t ||| highBit chan) ∧
        (id = 0 → ∀ j < k,
          chan.circIdInUse (testAt (maxRange chan) next j ||| highBit chan) = true) := by
  obtain ⟨h2, h32⟩ := maxRange_bounds chan
  induction k with
  | zero =>
    intro next attempts h
    exact ⟨0, (nextProbe (maxRange chan) next).2, by simp [circIdLoop, show maxRange chan < attempts + 1 by omega], by simp,
      by simp⟩
  | succ k ih =>
    intro next attempts h
    have hp := nextProbe_fst_mem h2 next
    have hlor : (nextProbe (maxRange chan) next).1 ||| highBit chan ≠ 0 := by
      rw [lor_highBit chan hp.2]; omega
    by_cases hu : chan.circIdInUse ((nextProbe (maxRange chan) next).1 ||| highBit chan) = true
    · obtain ⟨id, c, hrun, hfree, hfull⟩ := ih _ (attempts + 1) (by omega)
      refine ⟨id, c, ?_, hfree, fun h0 j hj => ?_⟩
      · simpa [circIdLoop, hu, show ¬ maxRange chan < attempts + 1 by omega] using hrun
      · cases j with
        | zero => exact hu
        | succ j => rw [← testAt_shift]; exact hfull h0 j (by omega)
    · refine ⟨_, (nextProbe (maxRange chan) next).2, by simp [circIdLoop, hu, show ¬ maxRange chan < attempts + 1 by omega],
        fun _ => ⟨by simpa using hu, _, hp.1, hp.2, rfl⟩, fun h0 => absurd h0 hlor⟩

/-- The allocator finishes within 2^w + 1 passes. A nonzero result is free, carries the
side bit 2^w exactly when the channel is HIGHER, has its other bits in [1, 2^w - 1] and
fits in w + 1 bits; 0 comes only from a NEITHER channel or a side with all ids in use. -/
theorem getUniqueCircIdByChan_spec (chan : Channel) :
    ∃ id chan', getUniqueCircIdByChan chan = some (id, chan') ∧
      (id ≠ 0 → chan.circIdInUse id = false ∧
        (∃ t, 1 ≤ t ∧ t < 2 ^ circIdWidth chan ∧
          id = t + if chan.circIdType = .higher then 2 ^ circIdWidth chan else 0) ∧
        id < 2 ^ (circIdWidth chan + 1)) ∧
      (id = 0 → chan.circIdType = .neither ∨
        ∀ t, 1 ≤ t → t < 2 ^ circIdWidth chan → chan.circIdInUse (t ||| highBit chan) = true) := by
  obtain ⟨h2, h32⟩ := maxRange_bounds chan
  unfold getUniqueCircIdByChan
  split
  · exact ⟨0, chan, rfl, by simp, fun _ => .inl ‹_›⟩
  · obtain ⟨id, c, hrun, hfree, hfull⟩ := circIdLoop_spec chan (maxRange chan) _ 0 (by omega)
    refine ⟨id, _, by rw [hrun]; rfl, fun hid => ?_, fun hid => .inr fun t ht ht' => ?_⟩
    · obtain ⟨hnot, t, ht, ht', rfl⟩ := hfree hid
      rw [lor_highBit chan ht'] at hnot ⊢
      rw [maxRange_eq] at ht'
      refine ⟨hnot, ⟨t, ht, ht', rfl⟩, ?_⟩
      rw [Nat.pow_succ]; split <;> omega
    · rw [← maxRange_eq] at ht'
      obtain ⟨j, hj, rfl⟩ := testAt_covers h2 h32 chan.nextCircId t ht ht'
      exact hfull hid j hj

theorem getUniqueCircIdByChan_side (chan : Channel) (id : ℕ) (chan' : Channel)
    (h : getUniqueCircIdByChan chan = some (id, chan')) (hid : id ≠ 0) :
    (2 ^ circIdWidth chan ≤ id ↔ chan.circIdType = .higher) := by
  obtain ⟨id', c, hrun, hfree, -⟩ := getUniqueCircIdByChan_spec chan
  rw [hrun] at h
  cases h
  obtain ⟨-, ⟨t, -, ht, rfl⟩, -⟩ := hfree hid
  split <;> simp_all

end TorCircuitBuild.CircId
