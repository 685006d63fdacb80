import Mathlib.Logic.Function.Basic
import Tquic.Lib.Transition
import Tquic.Connection.Path

/-! What a PATH_RESPONSE can bring about on a path, over any sequence of challenges,
responses, timeouts and new paths. -/

set_option autoImplicit false

namespace Tquic.Connection

open Lib

/-! ## Challenges that wait for a response -/

namespace Path

/-- The outstanding challenges of `after` are outstanding in `before`. -/
def FewerChals (before after : Path) : Prop :=
  ∀ sent ∈ after.sentChals, sent ∈ before.sentChals

theorem sentChals_promoteTo (path : Path) (state : PathState) :
    (path.promoteTo state).sentChals = path.sentChals := by
  unfold promoteTo
  split <;> rfl

private theorem fewer_noteResponse (path : Path) (data : ChallengeData) :
    FewerChals path (path.noteResponse data) := by
  intro sent member
  unfold noteResponse at member
  rw [sentChals_promoteTo] at member
  exact (List.mem_filter.mp member).1

private theorem fewer_onPathRespReceived (path : Path) (data : ChallengeData) (multipath : Bool) :
    FewerChals path (path.onPathRespReceived data multipath).2 := by
  unfold onPathRespReceived
  dsimp only
  split_ifs
  · exact fun sent member => member
  · exact fun sent member => absurd member (List.not_mem_nil)
  · exact fewer_noteResponse path data

theorem fewer_dropLostChals (now : Instant) (outstanding : List SentChallenge) (path : Path) :
    ∀ sent ∈ (dropLostChals now outstanding path).sentChals, sent ∈ outstanding := by
  induction outstanding generalizing path with
  | nil => exact fun sent member => member
  | cons first rest ih =>
    intro sent member
    unfold dropLostChals at member
    split_ifs at member
    · exact member
    · exact List.mem_cons_of_mem _ (ih _ sent member)
    · exact absurd member List.not_mem_nil

private theorem fewer_onPathChalTimeout (path : Path) (now : Instant) :
    FewerChals path (path.onPathChalTimeout now) := by
  unfold onPathChalTimeout
  split
  · exact fun sent member => member
  · exact fewer_dropLostChals now path.sentChals path

/-! ## Responses -/

/-- Something a response is meant to bring about: the address is verified, a challenge is
settled, the count of lost challenges is reset or the validation state advances. -/
def Advances (before after : Path) : Prop :=
  (before.verifiedPeerAddress = false ∧ after.verifiedPeerAddress = true) ∨
    (∃ sent ∈ before.sentChals, sent ∉ after.sentChals) ∨
    (before.lostChal ≠ 0 ∧ after.lostChal = 0) ∨
    before.state.rank < after.state.rank

/-- A challenge with this data waits for its response. -/
def Awaits (path : Path) (data : ChallengeData) : Prop :=
  ∃ sent ∈ path.sentChals, sent.data = data

/-- A response without a challenge changes nothing on such a path. -/
def Settled (path : Path) : Prop :=
  path.verifiedPeerAddress = true ∧ path.lostChal = 0 ∧ path.state = .validatingMtu ∧
    path.maxChallengeSize < minClientInitialLen

instance (before after : Path) : Decidable (Advances before after) :=
  inferInstanceAs (Decidable (_ ∨ _ ∨ _ ∨ _))

instance (path : Path) (data : ChallengeData) : Decidable (path.Awaits data) :=
  inferInstanceAs (Decidable (∃ sent ∈ path.sentChals, sent.data = data))

variable {data : ChallengeData}

private theorem challengeSize_of_not_awaits {path : Path}
    (unmatched : ¬ path.Awaits data) : path.challengeSize data = 0 := by
  have none : path.sentChals.filter (fun sent => sent.data = data) = [] := by
    rw [List.filter_eq_nil_iff]
    intro sent member same
    exact unmatched ⟨sent, member, by simpa using same⟩
  simp [challengeSize, none]

private theorem sentChals_of_not_awaits {path : Path} (unmatched : ¬ path.Awaits data) :
    path.sentChals.filter (fun sent => !(sent.data = data)) = path.sentChals := by
  rw [List.filter_eq_self]
  intro sent member
  have different : sent.data ≠ data := fun same => unmatched ⟨sent, member, same⟩
  simp [different]

private theorem onPathRespReceived_of_not_awaits {path : Path} (multipath : Bool)
    (unmatched : ¬ path.Awaits data) (pending : path.isValidated = false) :
    (path.onPathRespReceived data multipath).2 =
      if path.maxChallengeSize ≥ minClientInitialLen then
        { path with
          verifiedPeerAddress := true, lostChal := 0, state := .validated, active := multipath
          sentChals := [] }
      else
        { path with
          verifiedPeerAddress := true, lostChal := 0, state := .validatingMtu
          needSendChallenge := true } := by
  have unvalidated : path.state ≠ .validated := by simpa [isValidated] using pending
  have promoted : path.noteResponse data =
      { path with verifiedPeerAddress := true, lostChal := 0, state := .validatingMtu } := by
    unfold noteResponse promoteTo
    rw [challengeSize_of_not_awaits unmatched, sentChals_of_not_awaits unmatched]
    cases found : path.state with
    | failed => simp [PathState.rank]
    | unknown => simp [PathState.rank]
    | validating => simp [PathState.rank]
    | validatingMtu => simp [PathState.rank]
    | validated => exact absurd found unvalidated
  unfold onPathRespReceived
  rw [pending, promoted]
  by_cases large : path.maxChallengeSize ≥ minClientInitialLen
  · simp [large, promoteTo, PathState.rank]
  · simp [large]

/-- A response advances the path only for an outstanding challenge, exactly if it answers
one, the path is validated already or there is nothing to gain. -/
theorem advances_only_awaited_iff (path : Path) (data : ChallengeData) (multipath : Bool) :
    (Advances path (path.onPathRespReceived data multipath).2 → path.Awaits data) ↔
      path.Awaits data ∨ path.isValidated = true ∨ path.Settled := by
  by_cases matched : path.Awaits data
  · exact ⟨fun _ => .inl matched, fun _ _ => matched⟩
  by_cases done : path.isValidated = true
  · refine ⟨fun _ => .inr (.inl done), fun _ advances => ?_⟩
    simp [onPathRespReceived, done, Advances] at advances
  have pending : path.isValidated = false := by simpa using done
  have unvalidated : path.state ≠ .validated := by simpa [isValidated] using pending
  simp only [matched, done, false_or, Bool.false_eq_true, imp_false]
  rw [onPathRespReceived_of_not_awaits multipath matched pending]
  constructor
  · intro still
    by_cases large : path.maxChallengeSize ≥ minClientInitialLen
    · refine absurd ?_ still
      rw [if_pos large]
      refine .inr (.inr (.inr ?_))
      cases found : path.state with
      | validated => exact absurd found unvalidated
      | _ => simp [PathState.rank]
    · rw [if_neg large] at still
      simp only [Advances, not_or, not_and, Nat.not_lt] at still
      obtain ⟨verified, _, lost, rank⟩ := still
      refine ⟨by simpa using verified, by simpa using lost, ?_, by omega⟩
      cases found : path.state with
      | validatingMtu => rfl
      | validated => exact absurd found unvalidated
      | _ => simp [found, PathState.rank] at rank
  · rintro ⟨verified, lost, state, small⟩ advances
    rw [if_neg (by omega)] at advances
    simp [Advances, verified, lost, state] at advances

end Path

/-! ## Runs -/

theorem PathMap.get_onPathChalTimeout {map : PathMap} {now : Instant} {pathId : Nat} {path : Path}
    (present : (map.onPathChalTimeout now).get pathId = some path) :
    ∃ old, map.get pathId = some old ∧ path = old.onPathChalTimeout now := by
  unfold onPathChalTimeout get at present
  rw [List.getElem?_map] at present
  obtain ⟨old, stored, rfl⟩ := Option.map_eq_some_iff.mp present
  exact ⟨old, stored, rfl⟩

/-- Paths with the challenges sent on each of them since it was created. -/
structure ValidationRun where
  map : PathMap
  challenged : Nat → List ChallengeData

namespace ValidationRun

inductive Op where
  | insertPath (localAddr remoteAddr : SocketAddr) (maxDatagramSize : Nat)
      (scidSeq dcidSeq : Option Nat) (limit : Nat)
  | initiateChal (pathId : Nat)
  | chalSent (pathId : Nat) (data : ChallengeData) (pktSize : Nat) (sentTime : Instant)
  | chalTimeout (now : Instant)
  | chalReceived (pathId : Nat) (data : ChallengeData)
  | popRecvChal (pathId : Nat)
  | respReceived (pathId : Nat) (data : ChallengeData)
  /-- A server processed a Handshake packet. -/
  | verifyAddress (pathId : Nat)
  | received (pathId pktLen : Nat)
  | sent (pathId pktLen : Nat)
  | assignDcid (pathId : Nat) (dcidSeq : Option Nat)
  | assignScid (pathId : Nat) (scidSeq : Option Nat)
  | enableMultipath

def start (localAddr remoteAddr : SocketAddr) (maxDatagramSize maxPaths antiAmplFactor : Nat)
    (isServer addrToken : Bool) : ValidationRun :=
  { map := .new (.initial localAddr remoteAddr maxDatagramSize isServer addrToken) maxPaths
      antiAmplFactor isServer
    challenged := fun _ => [] }

def step (run : ValidationRun) : Op → Option ValidationRun
  | .insertPath localAddr remoteAddr maxDatagramSize scidSeq dcidSeq limit =>
    let path := { Path.new localAddr remoteAddr false maxDatagramSize with
      scidSeq, dcidSeq, antiAmplLimit := limit, needSendChallenge := true }
    match run.map.insertPath path with
    | .error _ => none
    | .ok (pathId, map) => some { map, challenged := Function.update run.challenged pathId [] }
  | .initiateChal pathId => some { run with map := run.map.modify pathId (·.initiatePathChal) }
  | .chalSent pathId data pktSize sentTime =>
    match run.map.onPathChalSent pathId data pktSize sentTime with
    | .error _ => none
    | .ok map => some
        { map
          challenged := Function.update run.challenged pathId (data :: run.challenged pathId) }
  | .chalTimeout now => some { run with map := run.map.onPathChalTimeout now }
  | .chalReceived pathId data => some { run with map := run.map.onPathChalReceived pathId data }
  | .popRecvChal pathId => some { run with map := run.map.modify pathId (·.popRecvChal.2) }
  | .respReceived pathId data => some { run with map := (run.map.onPathRespReceived pathId data).2 }
  | .verifyAddress pathId =>
    some { run with map := run.map.modify pathId ({ · with verifiedPeerAddress := true }) }
  | .received pathId pktLen => some { run with map := run.map.incAntiAmplLimit pathId pktLen }
  | .sent pathId pktLen => some { run with map := run.map.decAntiAmplLimit pathId pktLen }
  | .assignDcid pathId dcidSeq =>
    some { run with map := run.map.modify pathId ({ · with dcidSeq }) }
  | .assignScid pathId scidSeq =>
    some { run with map := run.map.modify pathId ({ · with scidSeq }) }
  | .enableMultipath => some { run with map := run.map.enableMultipath }

/-! ## What a step makes of a path -/

/-- The part of a path that the validation depends on is the same. -/
structure SameStanding (before after : Path) : Prop where
  sentChals : after.sentChals = before.sentChals
  active : after.active = before.active
  state : after.state = before.state

/-- How the path that a slot holds after a step came about. -/
inductive Effect (run : ValidationRun) (op : Op) (next : ValidationRun) (pathId : Nat)
    (found : Path) : Prop where
  | created {path map} (unchallenged : found.sentChals = [])
      (inserted : run.map.insertPath path = .ok (pathId, map))
  | kept {old} (stored : run.map.get pathId = some old) (same : SameStanding old found)
      (challenged : next.challenged pathId = run.challenged pathId)
  | challenged {old data pktSize sentTime} (stored : run.map.get pathId = some old)
      (asked : op = .chalSent pathId data pktSize sentTime)
      (result : found = old.onPathChalSent data pktSize sentTime)
      (challenged : next.challenged pathId = data :: run.challenged pathId)
  | timedOut {old now} (stored : run.map.get pathId = some old)
      (result : found = old.onPathChalTimeout now)
      (challenged : next.challenged pathId = run.challenged pathId)
  | answered {old data} (stored : run.map.get pathId = some old)
      (result : found = (old.onPathRespReceived data run.map.isMultipath).2)
      (challenged : next.challenged pathId = run.challenged pathId)

section Steps

variable {run next : ValidationRun} {op : Op} {pathId : Nat} {found : Path}

theorem effect_modify {slot : Nat} {change : Path → Path}
    (same : ∀ path, SameStanding path (change path))
    (present : (run.map.modify slot change).get pathId = some found) :
    Effect run op { run with map := run.map.modify slot change } pathId found := by
  obtain ⟨old, stored, rfl⟩ := PathMap.get_modify present
  refine .kept stored ?_ rfl
  split
  · exact same old
  · exact ⟨rfl, rfl, rfl⟩

theorem effect_updateLimit {slot : Nat} {change : Nat → Nat}
    (present : (run.map.updateLimit slot change).get pathId = some found) :
    Effect run op { run with map := run.map.updateLimit slot change } pathId found := by
  unfold PathMap.updateLimit at present ⊢
  split at present
  case isTrue client =>
    rw [if_pos client]
    exact .kept present ⟨rfl, rfl, rfl⟩ rfl
  case isFalse server =>
    rw [if_neg server]
    refine effect_modify (fun path => ?_) present
    split <;> exact ⟨rfl, rfl, rfl⟩

/-- What a step does to each path. -/
theorem step_effect (stepped : step run op = some next)
    (present : next.map.get pathId = some found) : Effect run op next pathId found := by
  cases op with
  | insertPath localAddr remoteAddr maxDatagramSize scidSeq dcidSeq limit =>
    unfold step at stepped
    dsimp only at stepped
    split at stepped
    · cases stepped
    · next slot map inserted =>
        cases stepped
        rcases PathMap.get_insertPath inserted present with ⟨rfl, rfl⟩ | ⟨different, stored⟩
        · exact .created rfl inserted
        · exact .kept stored ⟨rfl, rfl, rfl⟩ (Function.update_of_ne different _ _)
  | chalSent slot data pktSize sentTime =>
    unfold step PathMap.onPathChalSent at stepped
    cases stored : run.map.get slot with
    | none => simp [stored] at stepped
    | some path =>
      simp only [stored, Option.some.injEq] at stepped
      subst stepped
      rcases PathMap.get_set present with ⟨rfl, rfl⟩ | ⟨different, kept⟩
      · exact .challenged stored rfl rfl (Function.update_self _ _ _)
      · exact .kept kept ⟨rfl, rfl, rfl⟩ (Function.update_of_ne different _ _)
  | chalTimeout now =>
    cases stepped
    obtain ⟨old, stored, result⟩ := PathMap.get_onPathChalTimeout present
    exact .timedOut stored result rfl
  | respReceived slot data =>
    cases stepped
    unfold PathMap.onPathRespReceived at present ⊢
    cases stored : run.map.get slot with
    | none =>
      simp only [stored] at present
      exact .kept present ⟨rfl, rfl, rfl⟩ rfl
    | some path =>
      simp only [stored] at present
      rcases PathMap.get_set present with ⟨rfl, rfl⟩ | ⟨_, kept⟩
      · exact .answered stored rfl rfl
      · exact .kept kept ⟨rfl, rfl, rfl⟩ rfl
  | received slot pktLen =>
    cases stepped
    exact effect_updateLimit present
  | sent slot pktLen =>
    cases stepped
    exact effect_updateLimit present
  | enableMultipath =>
    cases stepped
    exact .kept present ⟨rfl, rfl, rfl⟩ rfl
  | initiateChal | chalReceived | popRecvChal | verifyAddress | assignDcid | assignScid =>
    cases stepped
    exact effect_modify (fun _ => ⟨rfl, rfl, rfl⟩) present

end Steps

def Recorded (run : ValidationRun) : Prop :=
  ∀ pathId path, run.map.get pathId = some path → ∀ sent ∈ path.sentChals,
    sent.data ∈ run.challenged pathId

/-- The challenges that a path waits for were sent on it. -/
theorem step_recorded {run next : ValidationRun} {op : Op} (recorded : Recorded run)
    (stepped : step run op = some next) : Recorded next := by
  intro pathId found present sent member
  cases step_effect stepped present with
  | created unchallenged _ =>
    rw [unchallenged] at member
    cases member
  | kept stored same challenged =>
    rw [same.sentChals] at member
    rw [challenged]
    exact recorded pathId _ stored sent member
  | @challenged old data pktSize sentTime stored _ result challenged =>
    rw [challenged]
    simp only [result, Path.onPathChalSent, Path.sentChals_promoteTo, List.mem_append,
      List.mem_singleton] at member
    rcases member with earlier | rfl
    · exact List.mem_cons_of_mem _ (recorded pathId old stored sent earlier)
    · exact List.mem_cons_self
  | timedOut stored result challenged =>
    rw [result] at member
    rw [challenged]
    exact recorded pathId _ stored sent (Path.fewer_onPathChalTimeout _ _ sent member)
  | answered stored result challenged =>
    rw [result] at member
    rw [challenged]
    exact recorded pathId _ stored sent (Path.fewer_onPathRespReceived _ _ _ sent member)

section Runs

variable {localAddr remoteAddr : SocketAddr} {maxDatagramSize maxPaths antiAmplFactor : Nat}
  {isServer addrToken : Bool} {run next : ValidationRun}

private theorem run_recorded (reached : Run step anyStep
      (start localAddr remoteAddr maxDatagramSize maxPaths antiAmplFactor isServer addrToken) run) :
    Recorded run := by
  refine reached.invariant (fun _ _ _ recorded _ stepped => step_recorded recorded stepped) ?_
  intro pathId path present sent member
  cases pathId with
  | zero =>
    simp only [start, PathMap.new, PathMap.get, List.getElem?_cons_zero,
      Option.some.injEq] at present
    subst present
    cases isServer with
    | false => exact absurd member List.not_mem_nil
    | true => exact absurd member List.not_mem_nil
  | succ pathId => simp [start, PathMap.new, PathMap.get] at present

/-- After any run, a PATH_RESPONSE on `pathId` advances a path only by answering a challenge
that was sent on that path and is outstanding, exactly under the stated condition. -/
theorem response_advances_iff (reached : Run step anyStep
      (start localAddr remoteAddr maxDatagramSize maxPaths antiAmplFactor isServer addrToken) run)
    {pathId : Nat} {data : ChallengeData} (stepped : step run (.respReceived pathId data) = some next)
    {other : Nat} {before after : Path} (present : run.map.get other = some before)
    (present' : next.map.get other = some after) :
    (Path.Advances before after →
        other = pathId ∧
          ∃ sent ∈ before.sentChals, sent.data = data ∧ data ∈ run.challenged other) ↔
      other ≠ pathId ∨ before.Awaits data ∨ before.isValidated = true ∨ before.Settled := by
  have recorded := run_recorded reached
  cases stepped
  by_cases same : other = pathId
  · subst same
    simp only [PathMap.onPathRespReceived, present] at present'
    rcases PathMap.get_set present' with ⟨_, rfl⟩ | ⟨different, _⟩
    · simp only [ne_eq, not_true_eq_false, false_or, true_and]
      rw [← Path.advances_only_awaited_iff before data run.map.isMultipath]
      constructor
      · intro only advances
        obtain ⟨sent, member, equal, _⟩ := only advances
        exact ⟨sent, member, equal⟩
      · intro only advances
        obtain ⟨sent, member, equal⟩ := only advances
        exact ⟨sent, member, equal, equal ▸ recorded other before present sent member⟩
    · exact absurd rfl different
  · refine ⟨fun _ => .inl same, fun _ advances => ?_⟩
    have kept : run.map.get other = some after := by
      unfold PathMap.onPathRespReceived at present'
      cases stored : run.map.get pathId with
      | none => simpa [stored] using present'
      | some path =>
        simp only [stored] at present'
        rcases PathMap.get_set present' with ⟨equal, _⟩ | ⟨_, kept⟩
        · exact absurd equal same
        · exact kept
    rw [present, Option.some.injEq] at kept
    subst kept
    simp [Path.Advances] at advances

end Runs

/-- A server opens a second path; the first PATH_RESPONSE on it, with any data, verifies the
address although no challenge was sent. -/
theorem unsolicited_response_advances :
    ¬ ∀ (run next : ValidationRun) (pathId : Nat) (data : ChallengeData) (before after : Path),
      Run step anyStep (start (.localhost 1) (.localhost 2) 1200 2 3 true false) run →
      step run (.respReceived pathId data) = some next → run.map.get pathId = some before →
      next.map.get pathId = some after → Path.Advances before after →
      ∃ sent ∈ before.sentChals, sent.data = data := by
  intro always
  have reached := Run.of_exec
    (show exec step (start (.localhost 1) (.localhost 2) 1200 2 3 true false)
      [.insertPath (.localhost 1) (.localhost 3) 1200 (some 0) none 3600] = some _ from rfl)
  obtain ⟨sent, member, _⟩ := always _ _ 1 (.replicate 8 0) _ _ reached rfl rfl rfl (by decide)
  exact absurd member List.not_mem_nil

/-- The response to a challenge that was sent on the second path advances it. -/
theorem answered_challenge_advances :
    ∃ (run next : ValidationRun) (before after : Path),
      step run (.respReceived 1 (.replicate 8 7)) = some next ∧ run.map.get 1 = some before ∧
        next.map.get 1 = some after ∧ Path.Advances before after ∧
        ((Path.Advances before after →
            1 = 1 ∧ ∃ sent ∈ before.sentChals, sent.data = .replicate 8 7 ∧
              .replicate 8 7 ∈ run.challenged 1) ↔
          1 ≠ 1 ∨ before.Awaits (.replicate 8 7) ∨ before.isValidated = true ∨ before.Settled) := by
  have reached := Run.of_exec
    (show exec step (start (.localhost 1) (.localhost 2) 1200 2 3 true false)
      [.insertPath (.localhost 1) (.localhost 3) 1200 (some 0) none 3600,
        .chalSent 1 (.replicate 8 7) 1200 0] = some _ from rfl)
  exact ⟨_, _, _, _, rfl, rfl, rfl, by decide, response_advances_iff reached rfl rfl rfl⟩

end ValidationRun

end Tquic.Connection
