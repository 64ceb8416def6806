import TorCircuitBuild.CpathRing

set_option autoImplicit false

/-!
# Two more readers of the cpath ring

circuit_rep_hist_note_result and circuit_list_path_impl walk the ring from its head with the
do-while loop that `cpathDoWhile` models, each with a body that can break. Each walk is given
a list model on the hops in ring order, and shown to answer as that model does on any ring
(`IsCpath`) whose hops have their extend_info, when the fuel covers the ring. On a hop without
one the listing stops, and the rep-hist walk dereferences NULL. The list models are then characterized: the rep-hist
notes are the links between consecutive known hops, successes up to the first link to a hop
that is not open, which is noted as failed; the short path listing names the open hops from the
head on, and the verbose one every hop with its state.
-/

namespace TorCircuitBuild.CpathRing

theorem IsCpath.doWhile_eq_forIn {s : RingState} {ps : List Ptr} (hc : IsCpath s ps)
    {head : Ptr} (hh : s.head = some head) {σ : Type} (body : Ptr → σ → ForInStep σ)
    {fuel : ℕ} (hf : ps.length ≤ fuel) (acc : σ) :
    cpathDoWhile s.heap head body fuel head acc =
      some (Id.run (forIn ps acc fun q a => pure (body q a))) := by
  have h0 : ps[0]? = some head := by rw [← List.head?_eq_getElem?, ← hc.head, hh]
  simpa using cpathDoWhile_eq_forIn body hc.next hc.nodup h0 fuel 0 head acc h0 (by omega)

theorem IsCpath.eq_nil {s : RingState} {ps : List Ptr} (hc : IsCpath s ps) (hh : s.head = none) :
    ps = [] :=
  List.head?_eq_none_iff.mp (hc.head.symm.trans hh)

/-- Three hops appended to an empty cpath in cells 1, 2 and 3, the first two since opened. -/
def halfOpenRing : RingState :=
  let s := ((1, (hopAt 1 .closed).extendInfo) :: laterHops).foldl
    (fun s hop => onionAppendHop s hop.1 hop.2) emptyCpath
  let s : RingState := ⟨s.head, setHop s.heap 1 (hopAt 1 .open)⟩
  ⟨s.head, setHop s.heap 2 (hopAt 2 .open)⟩

theorem halfOpenRing_isCpath : IsCpath halfOpenRing [1, 2, 3] :=
  ((((IsCpath.empty rfl).foldl_appendHop ((1, (hopAt 1 .closed).extendInfo) :: laterHops)
    (by decide)).setHop 1 _).setHop 2 _)

theorem halfOpenRing_hasExtendInfo : HasExtendInfo halfOpenRing.heap [1, 2, 3] :=
  ((@hasExtendInfo_foldl_appendHop ((1, (hopAt 1 .closed).extendInfo) :: laterHops) emptyCpath []
    (fun _ h => nomatch h)).setHop 1 _).setHop 2 _

/-! ## circuit_rep_hist_note_result -/

/-- The two calls into the reputation history: rep_hist_note_extend_succeeded and
rep_hist_note_extend_failed, from one identity to the next. -/
inductive ExtendNote
  | succeeded (fromId toId : Digest)
  | failed (fromId toId : Digest)
  deriving DecidableEq, Repr

/-- The loop body of circuit_rep_hist_note_result on one cell, with prev_digest and the notes
made so far. `known` is node_get_by_id, whose node has the hop's identity. The body reads
hop->extend_info without a check, so on a cell whose extend_info is NULL it dereferences NULL:
`none`, after which nothing runs. -/
def noteResultStep (known : Digest → Bool) (cell : CryptPathCell) :
    Option (Option Digest × List ExtendNote) → ForInStep (Option (Option Digest × List ExtendNote))
  | none => .done none
  | some (prev, notes) =>
    if !cell.extendInfoSet then .done none
    else
      let d := cell.hop.extendInfo.identityDigest
      if known d then
        match prev with
        | some p =>
          if cell.hop.state = .open then .yield (some (some d, notes ++ [.succeeded p d]))
          else .done (some (prev, notes ++ [.failed p d]))
        | none => .yield (some (some d, notes))
      else .yield (some (none, notes))

/-- circuit_rep_hist_note_result: the notes, in call order. A server starts from its own
identity (router_get_my_routerinfo, `me`) and notes nothing without one; a client starts with
no previous hop. `none` is a walk out of fuel, or the NULL dereference. -/
def circuitRepHistNoteResult (known : Digest → Bool) (serverMode : Bool) (me : Option Digest)
    (s : RingState) (fuel : ℕ) : Option (List ExtendNote) :=
  match s.head with
  | none => some []
  | some head =>
    if serverMode ∧ me = none then some []
    else (cpathDoWhile s.heap head (fun q acc => noteResultStep known (s.heap q) acc) fuel head
      (some (if serverMode then me else none, []))).bind (Option.map (·.2))

/-- The notes over the hops in ring order, from the identity before the first. -/
def noteResults (known : Digest → Bool) : Option Digest → List CryptPath → List ExtendNote
  | _, [] => []
  | prev, hop :: hops =>
    let d := hop.extendInfo.identityDigest
    if known d then
      match prev with
      | some p => if hop.state = .open then .succeeded p d :: noteResults known (some d) hops
        else [.failed p d]
      | none => noteResults known (some d) hops
    else noteResults known none hops

theorem forIn_noteResultStep (known : Digest → Bool) (heap : Heap) (ps : List Ptr)
    (hset : HasExtendInfo heap ps) : ∀ (prev : Option Digest) (notes : List ExtendNote),
      (Id.run (forIn ps (some (prev, notes)) fun q acc =>
          pure (noteResultStep known (heap q) acc))).map (·.2) =
        some (notes ++ noteResults known prev (cpathHops heap ps)) := by
  induction ps with
  | nil => intro _ _; simp [Id.run, cpathHops, noteResults]
  | cons q ps ih =>
    intro prev notes
    have hq : (heap q).extendInfoSet = true := hset q (List.mem_cons_self _ _)
    have ih := ih fun r hr => hset r (List.mem_cons_of_mem _ hr)
    rw [List.forIn_cons]
    simp only [cpathHops, List.map_cons, noteResults, noteResultStep, hq, Bool.not_true,
      Bool.false_eq_true, if_false] at ih ⊢
    by_cases hk : known (heap q).hop.extendInfo.identityDigest = true
    · rcases prev with _ | p
      · simpa [hk] using ih _ notes
      · by_cases ho : (heap q).hop.state = .open
        · simp only [hk, ho, if_true, pure_bind]
          exact (ih _ _).trans (by rw [List.append_assoc, List.singleton_append])
        · simp [hk, ho, Id.run]
    · simpa [hk] using ih none notes

theorem circuitRepHistNoteResult_eq (known : Digest → Bool) (serverMode : Bool)
    (me : Option Digest) {s : RingState} {ps : List Ptr} (hc : IsCpath s ps)
    (hset : HasExtendInfo s.heap ps) {fuel : ℕ} (hf : ps.length ≤ fuel) :
    circuitRepHistNoteResult known serverMode me s fuel =
      if serverMode ∧ me = none then some []
      else some (noteResults known (if serverMode then me else none) (cpathHops s.heap ps)) := by
  unfold circuitRepHistNoteResult
  cases hh : s.head with
  | none =>
    rw [hc.eq_nil hh]
    split_ifs <;> rfl
  | some head =>
    dsimp only
    by_cases hm : serverMode = true ∧ me = none
    · rw [if_pos hm, if_pos hm]
    · rw [if_neg hm, if_neg hm, hc.doWhile_eq_forIn hh _ hf, Option.some_bind,
        forIn_noteResultStep known s.heap ps hset, List.nil_append]

/-- The links the walk can note: each hop whose node is known, with the identity of the hop
before it when that one's node was known too, starting from the identity before the first hop. -/
def knownLinks (known : Digest → Bool) : Option Digest → List CryptPath → List (Digest × CryptPath)
  | _, [] => []
  | prev, hop :: hops =>
    let d := hop.extendInfo.identityDigest
    if known d then (prev.map (·, hop)).toList ++ knownLinks known (some d) hops
    else knownLinks known none hops

/-- The notes made over the links: a success for each link to an open hop, up to the first link
to a hop that is not open, which is a failure, and nothing after it. -/
def notesOfLinks (ls : List (Digest × CryptPath)) : List ExtendNote :=
  (ls.takeWhile (·.2.state = .open)).map (fun l => .succeeded l.1 l.2.extendInfo.identityDigest) ++
    ((ls.dropWhile (·.2.state = .open)).head?.map
      fun l => .failed l.1 l.2.extendInfo.identityDigest).toList

theorem notesOfLinks_cons_open {p : Digest} {hop : CryptPath} (ho : hop.state = .open)
    (ls : List (Digest × CryptPath)) :
    notesOfLinks ((p, hop) :: ls) = .succeeded p hop.extendInfo.identityDigest :: notesOfLinks ls := by
  simp [notesOfLinks, ho]

theorem notesOfLinks_cons_not_open {p : Digest} {hop : CryptPath} (ho : hop.state ≠ .open)
    (ls : List (Digest × CryptPath)) :
    notesOfLinks ((p, hop) :: ls) = [.failed p hop.extendInfo.identityDigest] := by
  simp [notesOfLinks, ho]

theorem noteResults_eq_notesOfLinks (known : Digest → Bool) (prev : Option Digest)
    (hops : List CryptPath) : noteResults known prev hops = notesOfLinks (knownLinks known prev hops) := by
  induction hops generalizing prev with
  | nil => rfl
  | cons hop hops ih =>
    by_cases hk : known hop.extendInfo.identityDigest = true
    · rcases prev with _ | p
      · simpa only [noteResults, knownLinks, hk, if_true, Option.map_none', Option.toList_none,
          List.nil_append] using ih _
      · by_cases ho : hop.state = .open
        · simp only [noteResults, knownLinks, hk, ho, if_true, Option.map_some', Option.toList_some,
            List.singleton_append, notesOfLinks_cons_open ho, ih]
        · simp only [noteResults, knownLinks, hk, ho, if_true, if_false, Option.map_some',
            Option.toList_some, List.singleton_append, notesOfLinks_cons_not_open ho]
    · simpa only [noteResults, knownLinks, hk, if_false, Bool.false_eq_true] using ih _

/-- circuit_rep_hist_note_result, with fuel for the whole ring and unless it is a server without
its own router info, notes the links between consecutive hops whose nodes are known, in ring
order and starting from the server's own identity: a success for each link to an open hop, up
to the first link to a hop that is not open, which is noted as failed, and nothing after it. A
client has no link to its first hop, so that hop's state is never read. -/
theorem circuitRepHistNoteResult_links (known : Digest → Bool) (serverMode : Bool)
    (me : Option Digest) {s : RingState} {ps : List Ptr} (hc : IsCpath s ps)
    (hset : HasExtendInfo s.heap ps) {fuel : ℕ} (hf : ps.length ≤ fuel)
    (hme : serverMode = true → me.isSome) :
    circuitRepHistNoteResult known serverMode me s fuel =
      some (notesOfLinks (knownLinks known (if serverMode then me else none)
        (cpathHops s.heap ps))) := by
  rw [circuitRepHistNoteResult_eq known serverMode me hc hset hf, if_neg,
    noteResults_eq_notesOfLinks]
  rintro ⟨hs, hn⟩
  simp [hs, hn] at hme

/-- A client whose first two hops are open and third is not, with every node known, notes the
extend from the first to the second as a success and from the second to the third as a
failure. -/
theorem halfOpenRing_notes :
    circuitRepHistNoteResult (fun _ => true) false none halfOpenRing 3 =
      some [.succeeded 1 2, .failed 2 3] :=
  (circuitRepHistNoteResult_links (fun _ => true) false none halfOpenRing_isCpath
    halfOpenRing_hasExtendInfo (le_refl 3) (by decide)).trans (by decide)

/-! ## circuit_list_path_impl -/

/-- The states[] table of circuit_list_path_impl. -/
def cpathStateName : CpathState → String
  | .closed => ("closed")
  | .awaitingKeys => ("waiting for keys")
  | .open => ("open")

/-- The first element of a verbose listing. `exitNickname` is build_state_get_exit_nickname. -/
def listPathHeader (circ : OriginCircuit) (exitNickname : Option String) : String :=
  (if circ.buildState.isInternal then ("internal") else ("exit")) ++
    (if circ.buildState.needUptime then (" (high-uptime)") else ("")) ++
    " circ (length " ++ toString circ.buildState.desiredPathLen ++
    (if circ.state = .open then ("") else (", last hop ")) ++
    (if circ.state = .open then ("") else exitNickname.getD ("*unnamed*")) ++ "):"

/-- The loop body of circuit_list_path_impl on one cell: a short listing stops at the first hop
that is not open, and either listing stops at a cell whose extend_info is NULL; a verbose listing
gives each hop with its state. `name` is the element for the hop's identity (its nickname, its
verbose nickname or its hex digest, by the nodes known). -/
def listPathStep (verbose : Bool) (name : ExtendInfo → String) (cell : CryptPathCell)
    (elements : List String) : ForInStep (List String) :=
  if !verbose ∧ cell.hop.state ≠ .open then .done elements
  else if !cell.extendInfoSet then .done elements
  else .yield (elements ++ [if verbose then
      name cell.hop.extendInfo ++ "(" ++ cpathStateName cell.hop.state ++ ")"
    else name cell.hop.extendInfo])

/-- circuit_list_path_impl: the elements joined by spaces in a verbose listing, by commas
otherwise. `names` gives the element of a hop by verbose_names. -/
def circuitListPathImpl (names : Bool → ExtendInfo → String) (exitNickname : Option String)
    (circ : OriginCircuit) (s : RingState) (verbose verboseNames : Bool) (fuel : ℕ) :
    Option String :=
  let header := if verbose then [listPathHeader circ exitNickname] else []
  let elements := match s.head with
    | none => some header
    | some head => cpathDoWhile s.heap head
      (fun q els => listPathStep verbose (names verboseNames) (s.heap q) els) fuel head header
  elements.map fun els => (if verbose then (" ") else (",")).intercalate els

def circuitListPath (names : Bool → ExtendInfo → String) (exitNickname : Option String)
    (circ : OriginCircuit) (s : RingState) (verbose : Bool) (fuel : ℕ) : Option String :=
  circuitListPathImpl names exitNickname circ s verbose false fuel

def circuitListPathForController (names : Bool → ExtendInfo → String)
    (exitNickname : Option String) (circ : OriginCircuit) (s : RingState) (fuel : ℕ) :
    Option String :=
  circuitListPathImpl names exitNickname circ s false true fuel

/-- The elements the walk adds over the cells in ring order. -/
def listPathElements (verbose : Bool) (name : ExtendInfo → String) :
    List CryptPathCell → List String
  | [] => []
  | cell :: cells =>
    if !verbose ∧ cell.hop.state ≠ .open then []
    else if !cell.extendInfoSet then []
    else (if verbose then name cell.hop.extendInfo ++ "(" ++ cpathStateName cell.hop.state ++ ")"
      else name cell.hop.extendInfo) :: listPathElements verbose name cells

theorem forIn_listPathStep (verbose : Bool) (name : ExtendInfo → String) (heap : Heap)
    (ps : List Ptr) : ∀ elements : List String,
      Id.run (forIn ps elements fun q els => pure (listPathStep verbose name (heap q) els)) =
        elements ++ listPathElements verbose name (ps.map heap) := by
  induction ps with
  | nil => intro _; simp [Id.run, listPathElements]
  | cons q ps ih =>
    intro elements
    rw [List.forIn_cons]
    simp only [List.map_cons, listPathElements, listPathStep] at ih ⊢
    by_cases hstop : (!verbose) = true ∧ (heap q).hop.state ≠ .open
    · simp only [if_pos hstop, List.append_nil]
      rfl
    by_cases hnull : (!(heap q).extendInfoSet) = true
    · simp only [if_neg hstop, if_pos hnull, List.append_nil]
      rfl
    · simp only [if_neg hstop, if_neg hnull, pure_bind]
      exact (ih _).trans (by rw [List.append_assoc, List.singleton_append])

section Listing

variable (name : ExtendInfo → String) {cells : List CryptPathCell}
  (hset : ∀ c ∈ cells, c.extendInfoSet = true)
include hset

theorem listPathElements_short :
    listPathElements false name cells =
      ((cells.map (·.hop)).takeWhile (·.state = .open)).map (name ·.extendInfo) := by
  induction cells with
  | nil => rfl
  | cons cell cells ih =>
    have hc : cell.extendInfoSet = true := hset cell (List.mem_cons_self _ _)
    have ih := ih fun c hc => hset c (List.mem_cons_of_mem _ hc)
    by_cases ho : cell.hop.state = .open <;> simp [listPathElements, ho, hc, ih]

theorem listPathElements_verbose :
    listPathElements true name cells =
      (cells.map (·.hop)).map fun hop => name hop.extendInfo ++ "(" ++ cpathStateName hop.state ++ ")" := by
  induction cells with
  | nil => rfl
  | cons cell cells ih =>
    have hc : cell.extendInfoSet = true := hset cell (List.mem_cons_self _ _)
    simp [listPathElements, hc, ih fun c hc => hset c (List.mem_cons_of_mem _ hc)]

end Listing

/-- On any ring, with fuel for all of it, the listing is the walk's elements over the cells in
ring order: it stops at a cell whose extend_info is NULL, and a short listing also at the first
hop that is not open. -/
theorem circuitListPathImpl_eq_cells (names : Bool → ExtendInfo → String)
    (exitNickname : Option String) (circ : OriginCircuit) {s : RingState} {ps : List Ptr}
    (hc : IsCpath s ps) (verbose verboseNames : Bool) {fuel : ℕ} (hf : ps.length ≤ fuel) :
    circuitListPathImpl names exitNickname circ s verbose verboseNames fuel =
      some ((if verbose then (" ") else (",")).intercalate
        ((if verbose then [listPathHeader circ exitNickname] else []) ++
          listPathElements verbose (names verboseNames) (ps.map s.heap))) := by
  unfold circuitListPathImpl
  cases hh : s.head with
  | none =>
    rw [hc.eq_nil hh]
    simp [listPathElements]
  | some head =>
    dsimp only
    rw [hc.doWhile_eq_forIn hh _ hf, forIn_listPathStep, Option.map_some']

/-- On a circuit whose ring holds its cpath, with every hop's extend_info set and fuel for the
whole ring, a short listing (circuit_list_path without verbose, and
circuit_list_path_for_controller) names, comma-separated and in order, the hops from the first up
to the first one that is not open; a verbose listing gives the header and then every hop with its
state, separated by spaces. -/
theorem circuitListPathImpl_eq (names : Bool → ExtendInfo → String) (exitNickname : Option String)
    {circ : OriginCircuit} {s : RingState} {ps : List Ptr} (hc : IsCpath s ps)
    (hset : HasExtendInfo s.heap ps) (hhops : cpathHops s.heap ps = circ.cpath)
    (verbose verboseNames : Bool) {fuel : ℕ} (hf : ps.length ≤ fuel) :
    circuitListPathImpl names exitNickname circ s verbose verboseNames fuel =
      some (if verbose then (" ").intercalate (listPathHeader circ exitNickname ::
          circ.cpath.map fun hop => names verboseNames hop.extendInfo ++ "(" ++
            cpathStateName hop.state ++ ")")
        else (",").intercalate ((circ.cpath.takeWhile (·.state = .open)).map
          (names verboseNames ·.extendInfo))) := by
  have hcells : ∀ c ∈ ps.map s.heap, c.extendInfoSet = true := by
    simpa [HasExtendInfo] using hset
  have hmap : (ps.map s.heap).map (·.hop) = circ.cpath := by
    rw [← hhops, cpathHops, List.map_map]
    rfl
  rw [circuitListPathImpl_eq_cells names exitNickname circ hc verbose verboseNames hf]
  cases verbose
  · simp [listPathElements_short _ hcells, hmap]
  · simp [listPathElements_verbose _ hcells, hmap]

/-- Hops named by their digest in hex, as for a node that is not known. -/
def hexNames (_ : Bool) (e : ExtendInfo) : String := "$" ++ toString e.identityDigest

/-- The general circuit whose ring is `halfOpenRing`, still building its third hop. -/
def halfOpenCircuit : OriginCircuit :=
  ⟨.cGeneral, .building, false, [hopAt 1 .open, hopAt 2 .open, hopAt 3 .closed],
    ⟨3, false, false, false, false, some (hopAt 3 .closed).extendInfo⟩, false, .buildAttempted,
    0, 0⟩

theorem halfOpenCircuit_listPath :
    circuitListPathImpl hexNames none halfOpenCircuit halfOpenRing false false 3 = some ("$1,$2") :=
  (circuitListPathImpl_eq hexNames none halfOpenRing_isCpath halfOpenRing_hasExtendInfo
    (by decide) false false (le_refl 3)).trans (by decide)

/-- A verbose listing stops at a cell whose extend_info is NULL: with cell 2's pointer cleared
only the first hop is listed. -/
example : circuitListPathImpl hexNames none halfOpenCircuit
    ⟨halfOpenRing.head, Function.update halfOpenRing.heap 2
      { halfOpenRing.heap 2 with extendInfoSet := false }⟩ true false 3 =
    some ("exit circ (length 3, last hop *unnamed*): $1(open)") := by
  decide

end TorCircuitBuild.CpathRing
