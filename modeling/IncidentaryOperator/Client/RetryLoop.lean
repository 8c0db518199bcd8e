import IncidentaryOperator.Client.Flush
import IncidentaryOperator.Foundation.Float64

/-!
# The retry loop as a whole

A `Flush` call against a script: for each round of its loop, how long it took until the clock is
read, the jitter, what the context does, and the answer to the request. The clock is monotone, a
sleep takes exactly as long as was asked, and a negative one no time. The trace of a call is its
attempts, in order, and what it returns.

`FaithfulFrom` is what holds of every trace. Two bounds depend on the options. A retry count of the
largest `int` is never exceeded, and the call may not return at all. A backoff of `2 ^ 62`
nanoseconds or more, which is 146 years, is negative after it is doubled; the sleep is then negative
as well, the check of the deadline passes, and a retry starts after the window.

The jitter factor is `1.0 + (r * 0.4 - 0.2)` for a draw `r` from zero to one. The roundings of that
expression can be fused on some processors, so the factor is any number near one; the product with
the backoff is rounded as `Foundation.Float64` does.
-/

set_option autoImplicit false
set_option relaxedAutoImplicit false

namespace IncidentaryOperator.Client

open Foundation WireFormat

/-! ### The script and the trace -/

/-- A jitter factor. The exact ones are between 0.8 and 1.2, and rounding does not take them out of
these bounds. -/
structure JitterFactor where
  value : ℚ
  low : 3 / 4 ≤ value
  high : value ≤ 5 / 4

/-- `time.Duration(float64(backoff) * jitterFactor)`. -/
def jitteredBackoff (backoff : ℤ) (factor : JitterFactor) (outOfRange : ℤ) : ℤ :=
  toInt64 (roundDouble (roundDouble backoff * factor.value)) outOfRange

/-- What the environment does in a round: the time from the start of the request before, or of the
call, to the reading of the clock, the jitter factor, what a duration out of range is converted to,
the error of the context when the select receives its end, whether the request can be built, the
answer, and the error of the context after the request. -/
structure Round where
  elapsed : ℕ
  factor : JitterFactor
  outOfRange : ℤ := 0
  done : Option String := none
  built : Except String Unit := .ok ()
  answer : Answer
  ctxErr : Option String := none

/-- A call of `doRequest`: the body, the sleep asked for before it, when it starts, and what it
returns. -/
structure AttemptMade where
  body : List UInt8
  slept : ℤ
  startedAt : ℤ
  outcome : Attempted

/-- A `Flush` call: its attempts, what it returns, and the variables of the loop if it was left
before a request. -/
structure FlushTrace where
  attempts : List AttemptMade
  outcome : FlushOutcome
  left : Option FlushCall := none

/-- The trace with one more attempt before. -/
def FlushTrace.cons (made : AttemptMade) (trace : FlushTrace) : FlushTrace :=
  { trace with attempts := made :: trace.attempts }

/-- `doRequest`. -/
def HTTPClient.request (c : HTTPClient) (round : Round) : Attempted :=
  match round.built with
  | .error text => .permanent s!"build request: {text}"
  | .ok () => c.doRequest round.answer

/-- From the request back to the head of the loop. -/
def HTTPClient.respond (c : HTTPClient) (call : FlushCall) (round : Round) : FlushState :=
  match round.built with
  | .error text => .returning (.error s!"build request: {text}")
  | .ok () => c.receive call round.answer round.ctxErr

/-- The head of the loop in a round, with the reading of the clock, up to a request that can be
built. -/
def Round.pause (round : Round) (call : FlushCall) (now : ℤ) : Pause where
  now := now
  jittered := jitteredBackoff call.backoff round.factor round.outOfRange
  done := round.done

/-- The sleep of a round: none before the first attempt. -/
def HTTPClient.sleep (c : HTTPClient) (call : FlushCall) (pause : Pause) : ℤ :=
  if call.attempt > 0 then min pause.jittered c.maxBackoff else 0

/-- The attempt of a round. -/
def HTTPClient.attemptMade (c : HTTPClient) (body : List UInt8) (round : Round) (call : FlushCall)
    (now : ℤ) : AttemptMade where
  body := body
  slept := c.sleep call (round.pause call now)
  startedAt := now + max 0 (c.sleep call (round.pause call now))
  outcome := c.request round

/-- The loop of `Flush` from a round on; none when the fuel runs out. -/
def HTTPClient.flushLoop (c : HTTPClient) (body : List UInt8) (script : ℕ → Round) :
    ℕ → ℕ → FlushCall → ℤ → Option FlushTrace
  | 0, _, _, _ => none
  | fuel + 1, index, call, clock =>
    let round := script index
    let now := clock + round.elapsed
    match c.attempt call (round.pause call now) with
    | .waiting waiting =>
      let made := c.attemptMade body round call now
      match c.respond waiting round with
      | .pausing next => (c.flushLoop body script fuel (index + 1) next made.startedAt).map
          (FlushTrace.cons made)
      | .returning outcome => some { attempts := [made], outcome := outcome }
      | _ => none
    | .returning outcome => some { attempts := [], outcome := outcome, left := some call }
    | _ => none

/-- `Flush` of a batch that marshals, called at a time. -/
def HTTPClient.flush (c : HTTPClient) (body : List UInt8) (script : ℕ → Round) (start : ℤ)
    (fuel : ℕ) : Option FlushTrace :=
  match c.enterFlush start (.ok ()) with
  | .pausing call => c.flushLoop body script fuel 0 call start
  | _ => none

/-! ### Options -/

/-- What holds of the settings of every client. -/
structure HTTPClient.Sane (c : HTTPClient) : Prop where
  maxRetries : 0 ≤ c.maxRetries
  initialBackoff : 0 < c.initialBackoff
  maxBackoff : 0 < c.maxBackoff

theorem HTTPClient.Sane.apply {c : HTTPClient} (hsane : c.Sane) (opt : HTTPClientOption) :
    (opt.apply c).Sane := by
  obtain ⟨hretries, hinitial, hmax⟩ := hsane
  cases opt with
  | withEndpoint url =>
    simp only [HTTPClientOption.apply]
    split_ifs <;> exact ⟨hretries, hinitial, hmax⟩
  | withAgentVersion version =>
    simp only [HTTPClientOption.apply]
    split_ifs <;> exact ⟨hretries, hinitial, hmax⟩
  | withMaxRetries n =>
    simp only [HTTPClientOption.apply]
    split_ifs with hn
    · exact ⟨hn, hinitial, hmax⟩
    · exact ⟨hretries, hinitial, hmax⟩
  | withRetryBackoff initial maxBackoff window =>
    refine ⟨hretries, ?_, ?_⟩
    · show 0 < if initial > 0 then initial else c.initialBackoff
      split_ifs with hpositive
      · exact hpositive
      · exact hinitial
    · show 0 < if maxBackoff > 0 then maxBackoff else c.maxBackoff
      split_ifs with hpositive
      · exact hpositive
      · exact hmax

theorem newHTTPClient_sane (apiKey : String) (opts : List HTTPClientOption) :
    (newHTTPClient apiKey opts).Sane :=
  have hdefaults : HTTPClient.Sane { apiKey := apiKey } :=
    ⟨(by decide : (0 : ℤ) ≤ 5), (by decide : 0 < second / 2), (by decide : 0 < 15 * second)⟩
  List.foldlRecOn opts _ hdefaults fun _ hsane opt _ ↦ hsane.apply opt

/-! ### Backoff -/

/-- The backoffs for which doubling and jitter stay in range. -/
def BackoffFits (backoff : ℤ) : Prop :=
  0 < backoff ∧ backoff < 2 ^ 62

theorem roundDouble_le_two_pow {backoff : ℤ} (hfits : BackoffFits backoff) :
    roundDouble backoff ≤ 2 ^ 62 := by
  obtain ⟨hpositive, hlt⟩ := hfits
  have hexact : (0 : ℚ) < backoff := by exact_mod_cast hpositive
  have hle : (backoff : ℚ) ≤ (1 : ℤ) * 2 ^ (62 : ℤ) := by
    rw [Int.cast_one, one_mul]
    exact_mod_cast hlt.le
  have hsize : |(backoff : ℚ)| < 2 ^ ((62 : ℤ) + 53) := by
    rw [abs_of_pos hexact]
    refine hle.trans_lt ?_
    norm_num
  simpa using roundDouble_le_multiple hexact.ne' hsize hle

theorem jitteredBackoff_nonneg {backoff : ℤ} (hfits : BackoffFits backoff) (factor : JitterFactor)
    (outOfRange : ℤ) : 0 ≤ jitteredBackoff backoff factor outOfRange := by
  have hexact : (0 : ℚ) ≤ backoff := by exact_mod_cast hfits.1.le
  have hfactor : 0 ≤ factor.value := by linarith [factor.low]
  have hproduct : 0 ≤ roundDouble backoff * factor.value :=
    mul_nonneg (roundDouble_nonneg hexact) hfactor
  have hbound : roundDouble backoff * factor.value ≤ (5 : ℤ) * 2 ^ (60 : ℤ) :=
    calc roundDouble backoff * factor.value ≤ 2 ^ 62 * (5 / 4) :=
          mul_le_mul (roundDouble_le_two_pow hfits) factor.high hfactor (by norm_num)
      _ = (5 : ℤ) * 2 ^ (60 : ℤ) := by norm_num
  have hrounded : roundDouble (roundDouble backoff * factor.value) < 2 ^ 63 := by
    by_cases hzero : roundDouble backoff * factor.value = 0
    · rw [hzero, roundDouble, if_pos rfl]
      norm_num
    · have hsize : |roundDouble backoff * factor.value| < 2 ^ ((60 : ℤ) + 53) := by
        rw [abs_of_nonneg hproduct]
        refine hbound.trans_lt ?_
        norm_num
      refine (roundDouble_le_multiple hzero hsize hbound).trans_lt ?_
      norm_num
  unfold jitteredBackoff
  rw [toInt64_of_lt (roundDouble_nonneg hproduct) hrounded]
  exact Int.floor_nonneg.mpr (roundDouble_nonneg hproduct)

theorem HTTPClient.nextBackoff_fits {c : HTTPClient} (hsane : c.Sane) (hmax : c.maxBackoff < 2 ^ 62)
    {backoff : ℤ} (hfits : BackoffFits backoff) : BackoffFits (c.nextBackoff backoff) := by
  obtain ⟨hpositive, hlt⟩ := hfits
  have hwrapped : wrapped 64 (2 * backoff) = 2 * backoff :=
    wrapped_of_fits (by omega) (by omega)
  have hmaxPositive := hsane.maxBackoff
  unfold HTTPClient.nextBackoff BackoffFits
  dsimp only
  rw [hwrapped]
  split_ifs with hcapped
  · exact ⟨hmaxPositive, hmax⟩
  · omega

/-! ### One round -/

/-- The head of a round: the first attempt, a stop with an error, or a retry within the deadline. -/
theorem HTTPClient.attempt_cases (c : HTTPClient) (hretries : 0 ≤ c.maxRetries) {call : FlushCall}
    {pause : Pause} (hattempt : 0 ≤ call.attempt) (hbuilt : pause.built = .ok ()) :
    (call.attempt = 0 ∧ c.attempt call pause = .waiting call) ∨
    (0 < call.attempt ∧ ∃ text, c.attempt call pause = .returning (.error text)) ∨
    (0 < call.attempt ∧ call.attempt ≤ c.maxRetries ∧
      pause.now + c.sleep call pause ≤ call.deadline ∧
      c.attempt call pause = .waiting { call with backoff := c.nextBackoff call.backoff }) := by
  rcases hattempt.eq_or_lt with hfirst | hretry
  · exact .inl ⟨hfirst.symm, HTTPClient.attempt_first hretries hfirst.symm hbuilt⟩
  · right
    unfold HTTPClient.attempt HTTPClient.sleep
    rw [if_pos hretry, if_pos hretry]
    dsimp only
    split_ifs with hover hlate
    · exact .inl ⟨hretry, _, rfl⟩
    · exact .inl ⟨hretry, _, rfl⟩
    · cases hdone : pause.done with
      | some text => exact .inl ⟨hretry, text, rfl⟩
      | none =>
        refine .inr ⟨hretry, not_lt.mp hover, not_lt.mp hlate, ?_⟩
        unfold FlushCall.sendRequest
        rw [hbuilt]

/-- What follows a request: the call returns, with the result of the request if it has one, or the
request is to be retried. -/
theorem HTTPClient.respond_cases (c : HTTPClient) (call : FlushCall) (round : Round) :
    (∃ outcome, c.respond call round = .returning outcome ∧
      ∀ res, outcome = .ok res ↔ c.request round = .succeeded res) ∨
    ∃ text, c.request round = .retryable text ∧
      c.respond call round =
        .pausing { call with
          attempt := wrapped 64 (call.attempt + 1)
          lastErr := some text } := by
  unfold HTTPClient.request HTTPClient.respond
  cases round.built with
  | error text => exact .inl ⟨_, rfl, by simp⟩
  | ok =>
    unfold HTTPClient.receive
    dsimp only
    cases c.doRequest round.answer with
    | succeeded res => exact .inl ⟨.ok res, rfl, by simp⟩
    | permanent text => exact .inl ⟨.error text, rfl, by simp⟩
    | retryable text =>
      cases round.ctxErr with
      | some cause => exact .inl ⟨.error cause, rfl, by simp⟩
      | none => exact .inr ⟨text, rfl, rfl⟩

theorem HTTPClient.sleep_le {c : HTTPClient} (hsane : c.Sane) (call : FlushCall) (pause : Pause) :
    c.sleep call pause ≤ c.maxBackoff := by
  unfold HTTPClient.sleep
  split_ifs
  · exact min_le_right _ _
  · exact hsane.maxBackoff.le

section Step

variable (c : HTTPClient) {body : List UInt8} {script : ℕ → Round} {fuel index : ℕ}
variable {call waiting next : FlushCall} {clock : ℤ} {outcome : FlushOutcome}

theorem HTTPClient.flushLoop_left
    (hleft : c.attempt call ((script index).pause call (clock + (script index).elapsed)) =
      .returning outcome) :
    c.flushLoop body script (fuel + 1) index call clock =
      some { attempts := [], outcome := outcome, left := some call } := by
  unfold HTTPClient.flushLoop
  dsimp only
  rw [hleft]

theorem HTTPClient.flushLoop_last
    (hwaiting : c.attempt call ((script index).pause call (clock + (script index).elapsed)) =
      .waiting waiting)
    (hreturn : c.respond waiting (script index) = .returning outcome) :
    c.flushLoop body script (fuel + 1) index call clock =
      some
        { attempts := [c.attemptMade body (script index) call (clock + (script index).elapsed)]
          outcome := outcome } := by
  unfold HTTPClient.flushLoop
  dsimp only
  rw [hwaiting]
  dsimp only
  rw [hreturn]

theorem HTTPClient.flushLoop_retry
    (hwaiting : c.attempt call ((script index).pause call (clock + (script index).elapsed)) =
      .waiting waiting)
    (hpausing : c.respond waiting (script index) = .pausing next) {made : AttemptMade}
    (hmade : c.attemptMade body (script index) call (clock + (script index).elapsed) = made) :
    c.flushLoop body script (fuel + 1) index call clock =
      (c.flushLoop body script fuel (index + 1) next made.startedAt).map
        (FlushTrace.cons made) := by
  subst hmade
  conv_lhs => unfold HTTPClient.flushLoop
  dsimp only
  rw [hwaiting]
  dsimp only
  rw [hpausing]

end Step

/-! ### Every round -/

/-- The variables of the loop at the head of a round. -/
structure AtRound (c : HTTPClient) (start : ℤ) (index : ℕ) (call : FlushCall) : Prop where
  attempt : call.attempt = index
  bound : (index : ℤ) ≤ c.maxRetries + 1
  lastErr : 0 < index → call.lastErr.isSome
  deadline : call.deadline = start + c.maxRetryWindow
  backoff : c.initialBackoff < 2 ^ 62 → c.maxBackoff < 2 ^ 62 → BackoffFits call.backoff

/-- The attempt of a round. A retry that does not ask for a negative sleep starts within the window,
and with backoffs below `2 ^ 62` none does. -/
structure MadeAt (c : HTTPClient) (body : List UInt8) (script : ℕ → Round) (start : ℤ) (index : ℕ)
    (made : AttemptMade) : Prop where
  body : made.body = body
  outcome : made.outcome = c.request (script index)
  slept : made.slept ≤ c.maxBackoff
  nonneg : c.initialBackoff < 2 ^ 62 → c.maxBackoff < 2 ^ 62 → 0 ≤ made.slept
  window : 0 < index → 0 ≤ made.slept → made.startedAt ≤ start + c.maxRetryWindow

/-- What holds of the trace from a round on: between them the rounds make at most one attempt more
than there are retries, only the last one may be something else than a failure that is worth a
retry, and the result of the call is a success if that of the last one is, and then the same. -/
structure FaithfulFrom (c : HTTPClient) (body : List UInt8) (script : ℕ → Round) (start : ℤ)
    (index : ℕ) (trace : FlushTrace) : Prop where
  first : index = 0 → trace.attempts ≠ []
  count : (trace.attempts.length + index : ℤ) ≤ c.maxRetries + 1
  made : ∀ i made, trace.attempts[i]? = some made → MadeAt c body script start (index + i) made
  retried : ∀ made ∈ trace.attempts.dropLast, ∃ text, made.outcome = .retryable text
  result : ∀ res, trace.outcome = .ok res ↔
    ∃ made, trace.attempts.getLast? = some made ∧ made.outcome = .succeeded res
  left : ∀ call, trace.left = some call → call.lastErr.isSome

section Trace

variable {c : HTTPClient} {body : List UInt8} {script : ℕ → Round} {start : ℤ} {index : ℕ}

/-- The loop is left at the head of a round after the first. -/
theorem faithfulFrom_left {call : FlushCall} (hcall : AtRound c start index call)
    (hindex : 0 < index) (text : String) :
    FaithfulFrom c body script start index
      { attempts := [], outcome := .error text, left := some call } where
  first := by omega
  count := by simpa using hcall.bound
  made := by simp
  retried := by simp
  result := by simp
  left := by
    intro last hlast
    obtain rfl := Option.some.inj hlast
    exact hcall.lastErr hindex

/-- The call returns after the attempt of a round. -/
theorem faithfulFrom_last {made : AttemptMade} (hmade : MadeAt c body script start index made)
    (hbound : (index : ℤ) ≤ c.maxRetries) {outcome : FlushOutcome}
    (houtcome : ∀ res, outcome = .ok res ↔ made.outcome = .succeeded res) :
    FaithfulFrom c body script start index { attempts := [made], outcome := outcome } where
  first := by simp
  count := by simpa [add_comm] using hbound
  made := by
    intro i other hother
    obtain ⟨hi, rfl⟩ := List.getElem?_eq_some_iff.mp hother
    obtain rfl : i = 0 := by simpa using hi
    exact hmade
  retried := by simp
  result := by simpa using houtcome
  left := by simp

/-- The attempt of a round is retried. -/
theorem FaithfulFrom.cons {made : AttemptMade} {trace : FlushTrace}
    (hrest : FaithfulFrom c body script start (index + 1) trace)
    (hmade : MadeAt c body script start index made) {text : String}
    (hretryable : made.outcome = .retryable text) :
    FaithfulFrom c body script start index (trace.cons made) where
  first := by simp [FlushTrace.cons]
  count := by
    have hcount := hrest.count
    simp only [FlushTrace.cons, List.length_cons]
    push_cast at hcount ⊢
    omega
  made := by
    intro i other hother
    cases i with
    | zero =>
      obtain rfl : made = other := by simpa [FlushTrace.cons] using hother
      exact hmade
    | succ i =>
      have hother := hrest.made i other (by simpa [FlushTrace.cons] using hother)
      rwa [Nat.add_right_comm] at hother
  retried := by
    intro other hother
    cases hattempts : trace.attempts with
    | nil => simp [FlushTrace.cons, hattempts] at hother
    | cons next rest =>
      have hmem : other ∈ made :: trace.attempts.dropLast := by
        simpa [FlushTrace.cons, hattempts] using hother
      rcases List.mem_cons.mp hmem with rfl | hmem
      · exact ⟨text, hretryable⟩
      · exact hrest.retried other hmem
  result := by
    intro res
    refine (hrest.result res).trans ?_
    cases hattempts : trace.attempts with
    | nil => simp [FlushTrace.cons, hattempts, hretryable]
    | cons next rest => simp [FlushTrace.cons, hattempts]
  left := hrest.left

end Trace

/-! ### The whole call -/

section Loop

variable {c : HTTPClient} (hsane : c.Sane) (hretries : c.maxRetries < 2 ^ 63 - 1)
variable (body : List UInt8) (script : ℕ → Round) {start : ℤ} {index : ℕ} {call : FlushCall}

include hsane

theorem AtRound.sleep_nonneg (hcall : AtRound c start index call)
    (hinitial : c.initialBackoff < 2 ^ 62) (hmax : c.maxBackoff < 2 ^ 62) (round : Round)
    (now : ℤ) :
    0 ≤ c.sleep call (round.pause call now) := by
  unfold HTTPClient.sleep
  split_ifs
  · refine le_min ?_ hsane.maxBackoff.le
    exact jitteredBackoff_nonneg (hcall.backoff hinitial hmax) round.factor round.outOfRange
  · exact le_rfl

/-- The head of a round leaves the loop with an error or makes the attempt. -/
theorem AtRound.attempt_cases (hcall : AtRound c start index call) (now : ℤ) :
    (0 < index ∧ ∃ text,
      c.attempt call ((script index).pause call now) = .returning (.error text)) ∨
    ∃ backoff, (backoff = call.backoff ∨ backoff = c.nextBackoff call.backoff) ∧
      (index : ℤ) ≤ c.maxRetries ∧
      MadeAt c body script start index (c.attemptMade body (script index) call now) ∧
      c.attempt call ((script index).pause call now) =
        .waiting { call with backoff := backoff } := by
  have hattempt := hcall.attempt
  have hmade : (0 < index → now + c.sleep call ((script index).pause call now) ≤ call.deadline) →
      MadeAt c body script start index (c.attemptMade body (script index) call now) := by
    intro hintime
    refine ⟨rfl, rfl, HTTPClient.sleep_le hsane _ _, ?_, ?_⟩
    · intro hinitial hmax
      exact hcall.sleep_nonneg hsane hinitial hmax (script index) now
    · intro hindex hnonneg
      have hstarted := hintime hindex
      rw [hcall.deadline] at hstarted
      have hslept : max 0 (c.sleep call ((script index).pause call now)) =
          c.sleep call ((script index).pause call now) := max_eq_right hnonneg
      unfold HTTPClient.attemptMade
      dsimp only
      rwa [hslept]
  have hbuilt : ((script index).pause call now).built = .ok () := rfl
  rcases c.attempt_cases hsane.maxRetries (by omega : 0 ≤ call.attempt) hbuilt with
    ⟨hfirst, hwaiting⟩ | ⟨hretry, text, hleft⟩ | ⟨hretry, hbound, hintime, hwaiting⟩
  · have hbound := hsane.maxRetries
    exact .inr ⟨call.backoff, .inl rfl, by omega, hmade (by omega), hwaiting⟩
  · exact .inl ⟨by omega, text, hleft⟩
  · exact .inr ⟨_, .inr rfl, by omega, hmade fun _ ↦ hintime, hwaiting⟩

include hretries

theorem AtRound.next (hcall : AtRound c start index call) (hbound : (index : ℤ) ≤ c.maxRetries)
    {backoff : ℤ} (hbackoff : backoff = call.backoff ∨ backoff = c.nextBackoff call.backoff)
    (text : String) :
    AtRound c start (index + 1)
      { call with
        backoff := backoff
        attempt := wrapped 64 (call.attempt + 1)
        lastErr := some text } where
  attempt := by
    dsimp only
    rw [hcall.attempt, wrapped_of_fits (by omega) (by omega)]
    push_cast
    rfl
  bound := by
    push_cast
    omega
  lastErr := by simp
  deadline := hcall.deadline
  backoff := by
    intro hinitial hmax
    have hfits := hcall.backoff hinitial hmax
    rcases hbackoff with rfl | rfl
    · exact hfits
    · exact HTTPClient.nextBackoff_fits hsane hmax hfits

/-- With fuel for the rounds that are left the loop returns, and more fuel changes nothing. -/
theorem HTTPClient.flushLoop_faithful (hcall : AtRound c start index call) (clock : ℤ) (fuel : ℕ)
    (hfuel : c.maxRetries + 2 ≤ index + fuel) :
    ∃ trace, FaithfulFrom c body script start index trace ∧
      ∀ extra, c.flushLoop body script (fuel + extra) index call clock = some trace := by
  induction fuel generalizing index call clock with
  | zero =>
    have hbound := hcall.bound
    omega
  | succ fuel ih =>
    simp only [Nat.add_right_comm fuel 1]
    rcases hcall.attempt_cases hsane body script (clock + (script index).elapsed) with
      ⟨hindex, text, hleft⟩ | ⟨backoff, hbackoff, hbound, hmade, hwaiting⟩
    · exact ⟨_, faithfulFrom_left hcall hindex text, fun extra ↦ c.flushLoop_left hleft⟩
    · have houtcome := hmade.outcome
      rcases c.respond_cases { call with backoff := backoff } (script index) with
        ⟨outcome, hreturn, hresult⟩ | ⟨text, hretryable, hpausing⟩
      · refine ⟨_, faithfulFrom_last hmade hbound ?_, fun extra ↦ c.flushLoop_last hwaiting hreturn⟩
        rwa [houtcome]
      · have hnext := hcall.next hsane hretries hbound hbackoff text
        obtain ⟨trace, hrest, htrace⟩ := ih hnext
          (c.attemptMade body (script index) call (clock + (script index).elapsed)).startedAt
          (by push_cast at hfuel ⊢; omega)
        refine ⟨_, hrest.cons hmade (houtcome.trans hretryable), fun extra ↦ ?_⟩
        rw [c.flushLoop_retry hwaiting hpausing rfl, htrace extra, Option.map_some]

end Loop

/-- What a `Flush` call of a client does, whatever its options, the batch, the answers, the jitter,
the end of the context and the time the requests take. It returns, after at least one attempt and at
most one more than there are retries. Every attempt sends the same body. All but the last have
failed in a way that is worth a retry. The result is a success exactly if that of the last attempt
is one, and then the same. No sleep is longer than the maximum, and a retry before which the sleep
is not negative starts within the window; the sleeps are not negative if the initial and the maximal
backoff are below `2 ^ 62`. The error returned is never made up for want of a failed attempt.
Assumes: the retry count is not the largest `int`. -/
theorem flush_bounded (apiKey : String) (opts : List HTTPClientOption)
    (hretries : (newHTTPClient apiKey opts).maxRetries < 2 ^ 63 - 1) (body : List UInt8)
    (script : ℕ → Round) (start : ℤ) :
    ∃ trace, FaithfulFrom (newHTTPClient apiKey opts) body script start 0 trace ∧
      ∀ fuel : ℕ, (newHTTPClient apiKey opts).maxRetries + 2 ≤ fuel →
        (newHTTPClient apiKey opts).flush body script start fuel = some trace := by
  have hsane := newHTTPClient_sane apiKey opts
  generalize newHTTPClient apiKey opts = c at hretries hsane ⊢
  have henter : AtRound c start 0
      { deadline := start + c.maxRetryWindow, backoff := c.initialBackoff } :=
    { attempt := rfl
      bound := by
        have hnonneg := hsane.maxRetries
        omega
      lastErr := by omega
      deadline := rfl
      backoff := fun hinitial _ ↦ ⟨hsane.initialBackoff, hinitial⟩ }
  obtain ⟨trace, hfaithful, htrace⟩ := HTTPClient.flushLoop_faithful hsane hretries body script
    henter start (c.maxRetries + 2).toNat (by omega)
  refine ⟨trace, hfaithful, fun fuel hfuel ↦ ?_⟩
  obtain ⟨extra, rfl⟩ := Nat.exists_eq_add_of_le (Int.toNat_le.mpr hfuel)
  exact htrace extra

/-- A jitter factor of one. -/
def evenJitter : JitterFactor where
  value := 1
  low := by norm_num
  high := by norm_num

/-- The shortest jitter. -/
def shortJitter : JitterFactor where
  value := 4 / 5
  low := by norm_num
  high := by norm_num

/-- A server that is overloaded once. -/
def recovering (index : ℕ) : Round where
  elapsed := 0
  factor := evenJitter
  answer :=
    if index = 0 then .read { statusCode := 503 }
    else
      .read
        { statusCode := 202
          body := "3 accepted"
          parsed := .ok { accepted := 3 }
          captureModeRequested := "full" }

/-- The second attempt is the last, and its result the result of the call. -/
theorem flush_bounded_recovering :
    ∃ trace, FaithfulFrom (newHTTPClient "key" []) [123, 125] recovering 0 0 trace ∧
      trace.attempts.length = 2 ∧
      trace.outcome = .ok { accepted := 3, captureModeRequested := "full" } := by
  have hretries : (newHTTPClient "key" []).maxRetries < 2 ^ 63 - 1 := by decide
  obtain ⟨trace, hfaithful, htrace⟩ := flush_bounded "key" [] hretries [123, 125] recovering 0
  have hrun : ((newHTTPClient "key" []).flush [123, 125] recovering 0 7).map
      (fun trace ↦ trace.attempts.length) = some 2 := by
    decide +kernel
  rw [htrace 7 (by decide), Option.map_some, Option.some_inj] at hrun
  have hlt : 1 < trace.attempts.length := by omega
  have hsecond : trace.attempts[1]? = some trace.attempts[1] := List.getElem?_eq_getElem hlt
  have hlast : trace.attempts.getLast? = some trace.attempts[1] := by
    rw [List.getLast?_eq_getElem?, hrun, hsecond]
  refine ⟨trace, hfaithful, hrun, (hfaithful.result _).mpr ⟨_, hlast, ?_⟩⟩
  exact (hfaithful.made 1 _ hsecond).outcome

/-! ### Options out of bounds -/

/-- No server answers; the third request is made after a minute and a half. -/
def refusing (factor : JitterFactor) (wait : ℕ) (index : ℕ) : Round where
  elapsed := if index = 2 then wait else 0
  factor := factor
  answer := .failed "connection refused"

/-- The client that retries as often as an `int` can say, with a pause of a nanosecond. -/
def tireless : HTTPClient :=
  newHTTPClient "key" [.withMaxRetries (2 ^ 63 - 1), .withRetryBackoff 1 1 0]

/-- The state of its loop whenever the clock stands still: the count is an `int` and so within the
bound, and the jittered pause of less than a nanosecond is none. -/
structure Unending (call : FlushCall) : Prop where
  attempt : call.attempt ≤ 2 ^ 63 - 1
  deadline : 0 ≤ call.deadline
  backoff : call.backoff = 1

theorem Unending.jittered {call : FlushCall} (hcall : Unending call) :
    jitteredBackoff call.backoff shortJitter 0 = 0 := by
  rw [hcall.backoff]
  decide +kernel

theorem Unending.attempt_waiting {call : FlushCall} (hcall : Unending call) (index : ℕ) :
    tireless.attempt call ((refusing shortJitter 0 index).pause call 0) = .waiting call := by
  have hnext : tireless.nextBackoff call.backoff = call.backoff := by
    rw [hcall.backoff]
    decide
  have hretries : tireless.maxRetries = 2 ^ 63 - 1 := rfl
  have hmax : tireless.maxBackoff = 1 := rfl
  have hattempt := hcall.attempt
  have hdeadline := hcall.deadline
  unfold HTTPClient.attempt Round.pause refusing
  dsimp only
  rw [hretries, hmax, hcall.jittered, hnext, if_neg (by omega)]
  split_ifs with hretry hlate
  · omega
  · rfl
  · rfl

theorem Unending.startedAt {call : FlushCall} (hcall : Unending call) (index : ℕ) :
    (tireless.attemptMade [] (refusing shortJitter 0 index) call 0).startedAt = 0 := by
  have hsleep : tireless.sleep call ((refusing shortJitter 0 index).pause call 0) = 0 := by
    unfold HTTPClient.sleep Round.pause refusing
    dsimp only
    rw [hcall.jittered]
    split_ifs <;> rfl
  unfold HTTPClient.attemptMade
  dsimp only
  rw [hsleep]
  rfl

theorem Unending.flushLoop_none {call : FlushCall} (hcall : Unending call) (fuel index : ℕ) :
    tireless.flushLoop [] (refusing shortJitter 0) fuel index call 0 = none := by
  induction fuel generalizing index call with
  | zero => rfl
  | succ fuel ih =>
    have hnow : (0 : ℤ) + (refusing shortJitter 0 index).elapsed = 0 := by simp [refusing]
    have hwaiting := hcall.attempt_waiting index
    have hstarted := hcall.startedAt index
    rw [← hnow] at hwaiting hstarted
    rw [tireless.flushLoop_retry hwaiting rfl rfl, hstarted, hnow, ih, Option.map_none]
    have hwrapped := (wrapped_fits (by decide : 0 < 64) (call.attempt + 1)).2
    exact ⟨by dsimp only; omega, hcall.deadline, hcall.backoff⟩

/-- With the largest `int` as retry count the call need not return, and with a backoff that doubling
takes out of range the third attempt starts a hundred seconds after the call, forty after the window
has closed. -/
theorem retry_bounds_overflow :
    (∀ fuel, (newHTTPClient "key" [.withMaxRetries (2 ^ 63 - 1), .withRetryBackoff 1 1 0]).flush []
      (refusing shortJitter 0) 0 fuel = none) ∧
    ((newHTTPClient "key" [.withRetryBackoff (2 ^ 62) 0 0]).flush []
      (refusing evenJitter 85000000000) 0 7).map
        (fun trace ↦ trace.attempts.map fun made ↦ made.startedAt) =
        some [0, 15 * second, 100 * second] := by
  refine ⟨fun fuel ↦ ?_, by decide +kernel⟩
  have hcall : Unending { deadline := 60 * second, backoff := 1 } :=
    ⟨by decide, by decide, rfl⟩
  exact hcall.flushLoop_none fuel 0

end IncidentaryOperator.Client
