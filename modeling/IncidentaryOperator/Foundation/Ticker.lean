import Mathlib

/-!
# Tickers

A ticker of a runtime and the clock it runs on. It fires every period from its start, and its
channel holds one tick: a tick that fires while another one waits is dropped, and a reader that
comes late finds one tick, however many periods it missed. The invariant of a ticker, that the next
tick is due within one period of the clock, is carried by its fields.

Two rules are about loops that work once for each tick they receive. `FreshSince.young` bounds how
long ago something can have happened that every received tick renews, and `Paced.mul_period_le`
bounds how many ticks can have been received.
-/

set_option autoImplicit false
set_option relaxedAutoImplicit false

namespace IncidentaryOperator.Foundation

/-- A ticker at a time of its clock: when it fires next, and whether its channel holds a tick. -/
structure Ticker where
  period : ℤ
  now : ℤ
  nextFire : ℤ
  pending : Bool
  period_pos : 0 < period
  fired : nextFire - period ≤ now
  due : now < nextFire

namespace Ticker

/-- A ticker started at a time. -/
def start (period now : ℤ) (hperiod : 0 < period) : Ticker where
  period := period
  now := now
  nextFire := now + period
  pending := false
  period_pos := hperiod
  fired := by omega
  due := by omega

/-- The time after the last tick due by `now`, in steps of a period. -/
def fireAfter (period nextFire now : ℤ) : ℤ :=
  nextFire + period * ((now - nextFire) / period + 1)

theorem fireAfter_sub_le {period : ℤ} (hperiod : 0 < period) (nextFire now : ℤ) :
    fireAfter period nextFire now - period ≤ now := by
  have hquotient := Int.mul_ediv_self_le (x := now - nextFire) hperiod.ne'
  unfold fireAfter
  rw [mul_add]
  omega

theorem lt_fireAfter {period : ℤ} (hperiod : 0 < period) (nextFire now : ℤ) :
    now < fireAfter period nextFire now := by
  have hquotient := Int.lt_mul_ediv_self_add (x := now - nextFire) hperiod
  unfold fireAfter
  rw [mul_add]
  omega

theorem add_period_le_fireAfter {period : ℤ} (hperiod : 0 < period) {nextFire now : ℤ}
    (hdue : nextFire ≤ now) : nextFire + period ≤ fireAfter period nextFire now := by
  have hquotient : 0 ≤ (now - nextFire) / period :=
    Int.ediv_nonneg (by omega) hperiod.le
  have hproduct := mul_nonneg hperiod.le hquotient
  unfold fireAfter
  rw [mul_add]
  omega

/-- Time passes. A tick that falls due is left in the channel, which holds no more than one. -/
def advance (ticker : Ticker) (elapsed : ℕ) : Ticker :=
  if hwait : ticker.now + elapsed < ticker.nextFire then
    { ticker with
      now := ticker.now + elapsed
      fired := ticker.fired.trans (by omega)
      due := hwait }
  else
    { ticker with
      now := ticker.now + elapsed
      nextFire := fireAfter ticker.period ticker.nextFire (ticker.now + elapsed)
      pending := true
      fired := fireAfter_sub_le ticker.period_pos _ _
      due := lt_fireAfter ticker.period_pos _ _ }

/-- A reader takes the tick out of the channel. -/
def receive (ticker : Ticker) : Ticker :=
  { ticker with pending := false }

@[simp] theorem advance_period (ticker : Ticker) (elapsed : ℕ) :
    (ticker.advance elapsed).period = ticker.period := by
  unfold advance
  split_ifs <;> rfl

@[simp] theorem advance_now (ticker : Ticker) (elapsed : ℕ) :
    (ticker.advance elapsed).now = ticker.now + elapsed := by
  unfold advance
  split_ifs <;> rfl

/-! ### What every tick renews -/

/-- No tick has fired and been taken since a time: one waits in the channel, or the last one fired
no later. -/
def FreshSince (ticker : Ticker) (since : ℤ) : Prop :=
  ticker.pending = true ∨ ticker.nextFire - ticker.period ≤ since

theorem freshSince_now (ticker : Ticker) : ticker.FreshSince ticker.now :=
  Or.inr ticker.fired

theorem FreshSince.advance {ticker : Ticker} {since : ℤ} (hfresh : ticker.FreshSince since)
    (elapsed : ℕ) : (ticker.advance elapsed).FreshSince since := by
  unfold Ticker.advance
  split_ifs
  · exact hfresh
  · exact Or.inl rfl

/-- With no tick in the channel, what every tick renews is younger than a period. -/
theorem FreshSince.young {ticker : Ticker} {since : ℤ} (hfresh : ticker.FreshSince since)
    (hpending : ticker.pending = false) : ticker.now - since < ticker.period := by
  rcases hfresh with htick | hlast
  · exact absurd (hpending.symm.trans htick) (by decide)
  · have hdue := ticker.due
    omega

/-! ### How many ticks are received -/

/-- The ticks received and the one in the channel take a period each, of the time from the start to
the last tick. -/
def Paced (ticker : Ticker) (begun : ℤ) (received : ℕ) : Prop :=
  (received + ticker.pending.toNat : ℤ) * ticker.period ≤
    ticker.nextFire - ticker.period - begun

theorem paced_start {period now begun : ℤ} (hperiod : 0 < period) (hbegun : begun ≤ now) :
    (start period now hperiod).Paced begun 0 := by
  simpa [Paced, start] using hbegun

theorem Paced.advance {ticker : Ticker} {begun : ℤ} {received : ℕ}
    (hpaced : ticker.Paced begun received) (elapsed : ℕ) :
    (ticker.advance elapsed).Paced begun received := by
  unfold Ticker.advance
  split_ifs with hwait
  · exact hpaced
  · have hnext := add_period_le_fireAfter ticker.period_pos (not_lt.mp hwait)
    have hperiod := ticker.period_pos
    unfold Paced at hpaced ⊢
    cases hpending : ticker.pending <;> simp [hpending, add_mul] at hpaced ⊢ <;> omega

theorem Paced.receive {ticker : Ticker} {begun : ℤ} {received : ℕ}
    (hpaced : ticker.Paced begun received) (hpending : ticker.pending = true) :
    ticker.receive.Paced begun (received + 1) := by
  unfold Paced at hpaced ⊢
  simpa [Ticker.receive, hpending] using hpaced

/-- The ticks received take a period each of the time since the start. -/
theorem Paced.mul_period_le {ticker : Ticker} {begun : ℤ} {received : ℕ}
    (hpaced : ticker.Paced begun received) :
    received * ticker.period ≤ ticker.now - begun := by
  have hfired := ticker.fired
  have hchannel : 0 ≤ (ticker.pending.toNat : ℤ) * ticker.period :=
    mul_nonneg (by omega) ticker.period_pos.le
  unfold Paced at hpaced
  rw [add_mul] at hpaced
  omega

end Ticker

end IncidentaryOperator.Foundation
