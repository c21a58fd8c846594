/-
The bandwidth limit of a stream. A limiter is a bucket of `u32::MAX` cells, drained when it is
built to the cells of one second, and a stream pays for a transfer when it attempts the next one.
-/

import Mathlib.Logic.Function.Basic

namespace Warpgate.RateLimiting

/-! ### The limiter -/

inductive RateLimiterDirection where
  | read
  | write
  deriving DecidableEq

inductive WarpgateError where
  | rateLimiterInvalidQuota (quota : Nat)
  | rateLimiterInsufficientCapacity
  deriving DecidableEq

def U32_MAX : Nat := 4294967295

def assertValidQuota (v : Nat) : Except WarpgateError Nat :=
  if v = 0 then .error (.rateLimiterInvalidQuota v) else .ok v

/-- The library's generic cell rate algorithm, on integers: a cell takes `t` ticks, so that a
second of a limiter of `q` cells per second has `q * t` ticks. -/
structure InnerRateLimiter where
  t : Nat
  tau : Nat
  tat : RateLimiterDirection → Option Nat

inductive Decision where
  | allowed
  | notUntil (earliest : Nat)
  | insufficientCapacity

namespace InnerRateLimiter

def keyed (t burst : Nat) : InnerRateLimiter := ⟨t, t * burst, fun _ => none⟩

def checkKeyN (limiter : InnerRateLimiter) (key : RateLimiterDirection) (n now : Nat) :
    Decision × InnerRateLimiter :=
  let additional := limiter.t * (n - 1)
  if limiter.tau < additional + limiter.t then (.insufficientCapacity, limiter)
  else
    let tat := (limiter.tat key).getD (now + limiter.t)
    let earliest := tat + additional - limiter.tau
    if now < earliest then (.notUntil earliest, limiter)
    else
      (.allowed, { limiter with
        tat := Function.update limiter.tat key (some (max tat now + limiter.t + additional)) })

end InnerRateLimiter

/-- `none` is the panic of `unwrap`: no cell is left to drain. -/
def newRateLimiter (t bytesPerSecond now : Nat) : Option InnerRateLimiter :=
  match U32_MAX - bytesPerSecond with
  | 0 => none
  | cells + 1 =>
    let drain limiter key := (InnerRateLimiter.checkKeyN limiter key (cells + 1) now).2
    some (drain (drain (.keyed t U32_MAX) .read) .write)

def InnerRateLimiter.bytesReadyAt (limiter : InnerRateLimiter)
    (direction : RateLimiterDirection) (bytes now : Nat) :
    Except WarpgateError (Option Nat) × InnerRateLimiter :=
  if bytes % (U32_MAX + 1) = 0 then (.ok none, limiter)
  else
    match limiter.checkKeyN direction (bytes % (U32_MAX + 1)) now with
    | (.allowed, limiter) => (.ok none, limiter)
    | (.notUntil earliest, limiter) => (.ok (some earliest), limiter)
    | (.insufficientCapacity, limiter) => (.error .rateLimiterInsufficientCapacity, limiter)

/-! ### The stream -/

inductive PendingWaitState where
  | empty (length : Nat)
  | waiting (length deadline : Nat)
  | ready

/-- One direction of a stream, with the ticks that have passed and the bytes transferred. -/
structure RateLimitedStream where
  limiter : InnerRateLimiter
  direction : RateLimiterDirection
  wait : PendingWaitState
  clock : Nat
  transferred : Nat
  panicked : Bool

/-- A poll of a read or a write, at one turn of the loop of `poll_rate_limit`: the ticks before it,
the jitter it draws, the size of the buffer, and what passes if the inner stream is ready. -/
structure Turn where
  elapsed : Nat
  jitter : Nat
  size : Nat
  inner : Option Nat

namespace RateLimitedStream

def new (limiter : InnerRateLimiter) (direction : RateLimiterDirection) (now : Nat) :
    RateLimitedStream :=
  ⟨limiter, direction, .empty 0, now, 0, false⟩

variable (stream : RateLimitedStream)

def startWait (jitter : Nat) : Bool × RateLimitedStream :=
  match stream.wait with
  | .empty length =>
    match stream.limiter.bytesReadyAt stream.direction length stream.clock with
    | (.ok none, limiter) => (true, { stream with limiter := limiter, wait := .ready })
    | (.ok (some earliest), limiter) =>
      let delta := earliest - stream.clock
      let deadline := stream.clock + delta * 90 / 100 + jitter % (delta * 20 / 100 + 1)
      (true, { stream with limiter := limiter, wait := .waiting length deadline })
    | (.error _, limiter) => (false, { stream with limiter := limiter, wait := .empty 0 })
  | .waiting _ _ | .ready => (true, stream)

def pollNowait : Option Nat → RateLimitedStream
  | none => stream
  | some bytes => { stream with wait := .empty bytes, transferred := stream.transferred + bytes }

/-- A wait that is over is checked again, at the next turn. -/
def poll (turn : Turn) : RateLimitedStream :=
  match stream.startWait turn.jitter with
  | (false, stream) => stream
  | (true, stream) =>
    match stream.wait with
    | .empty _ => { stream with panicked := true }
    | .waiting length deadline =>
      if stream.clock < deadline then stream else { stream with wait := .empty length }
    | .ready => stream.pollNowait turn.inner

def step (turn : Turn) : RateLimitedStream :=
  let stream := { stream with clock := stream.clock + turn.elapsed }
  if turn.size = 0 then stream else stream.poll turn

end RateLimitedStream

def run (stream : RateLimitedStream) (turns : List Turn) : RateLimitedStream :=
  turns.foldl RateLimitedStream.step stream

/-- The bucket holds at most the cells of one second. -/
def RateLimitedStream.Drained (quota : Nat) (stream : RateLimitedStream) : Prop :=
  ∀ tat ∈ stream.limiter.tat stream.direction,
    stream.clock + stream.limiter.t * (U32_MAX - quota + 1) ≤ tat

def PendingWaitState.unpaid : PendingWaitState → Nat
  | .empty length | .waiting length _ => length
  | .ready => 0

/-! ### What is let through within an interval -/

/-- An interval of a stream: a limiter's cell and quota, the greatest chunk, and the instant it
starts at with the bytes transferred until then. -/
structure Interval where
  t : Nat
  quota : Nat
  chunk : Nat
  start : Nat
  before : Nat

/-- Of the bytes transferred in the interval, `paid` have been paid for, in time. -/
structure Interval.Pays (i : Interval) (paid : Nat) (stream : RateLimitedStream) : Prop where
  cell : stream.limiter.t = i.t
  burst : stream.limiter.tau = i.t * U32_MAX
  full : ∃ tat, stream.limiter.tat stream.direction = some tat ∧
    i.start + i.t * (U32_MAX - i.quota + 1 + paid) ≤ tat
  since : i.start ≤ stream.clock
  timely : i.t * paid ≤ stream.clock - i.start + i.t * i.quota
  transferred : stream.transferred ≤ i.before + paid + stream.wait.unpaid
  chunk : stream.wait.unpaid ≤ i.chunk
  sound : stream.panicked = false

def Interval.Within (i : Interval) (stream : RateLimitedStream) : Prop :=
  ∃ paid, i.Pays paid stream

namespace Interval

variable {i : Interval} {s : RateLimitedStream}

section Checks

variable {limiter : InnerRateLimiter} {key : RateLimiterDirection} {n now tat : Nat}

theorem checkKeyN_cases (pos : 0 < n) (fits : limiter.t * n ≤ limiter.tau)
    (isTat : (limiter.tat key).getD (now + limiter.t) = tat) :
    (now + limiter.tau + limiter.t < tat + limiter.t * n ∧
        ∃ earliest, limiter.checkKeyN key n now = (.notUntil earliest, limiter)) ∨
      tat + limiter.t * n ≤ now + limiter.tau + limiter.t ∧
        limiter.checkKeyN key n now = (.allowed, { limiter with
          tat := Function.update limiter.tat key (some (max tat now + limiter.t * n)) }) := by
  have whole : limiter.t * (n - 1) + limiter.t = limiter.t * n := by
    rw [← Nat.mul_succ, Nat.succ_eq_add_one, Nat.sub_add_cancel pos]
  simp only [InnerRateLimiter.checkKeyN, isTat, whole, if_neg (Nat.not_lt.mpr fits)]
  split
  · exact .inl ⟨by omega, _, rfl⟩
  · grind

theorem checkKeyN_of_none (pos : 0 < n) (fits : limiter.t * n ≤ limiter.tau)
    (unused : limiter.tat key = none) :
    (limiter.checkKeyN key n now).2 = { limiter with
      tat := Function.update limiter.tat key (some (now + limiter.t + limiter.t * n)) } := by
  have isTat : (limiter.tat key).getD (now + limiter.t) = now + limiter.t := by rw [unused]; rfl
  rcases checkKeyN_cases pos fits isTat with ⟨early, -⟩ | ⟨-, allowed⟩
  · omega
  · rw [allowed, Nat.max_eq_left (Nat.le_add_right now limiter.t)]

end Checks

theorem within_new (below : i.quota < U32_MAX) (direction : RateLimiterDirection) :
    ∃ limiter, newRateLimiter i.t i.quota i.start = some limiter ∧
      i.Within (.new limiter direction i.start) := by
  obtain ⟨cells, isCells⟩ := Nat.exists_eq_succ_of_ne_zero (Nat.sub_ne_zero_of_lt below)
  have fits : i.t * (cells + 1) ≤ i.t * U32_MAX := Nat.mul_le_mul_left i.t (by omega)
  have read : ((InnerRateLimiter.keyed i.t U32_MAX).checkKeyN .read (cells + 1) i.start).2 = _ :=
    checkKeyN_of_none (Nat.succ_pos cells) fits rfl
  simp only [newRateLimiter, isCells]
  rw [read, checkKeyN_of_none (Nat.succ_pos cells) fits rfl]
  refine ⟨_, rfl, 0, rfl, rfl, ⟨i.start + i.t + i.t * (cells + 1), ?_, ?_⟩, Nat.le_refl _,
    Nat.zero_le _, Nat.zero_le _, Nat.zero_le _, rfl⟩
  · cases direction <;> rfl
  · grind

theorem Pays.pollNowait {paid : Nat} (pays : i.Pays paid s) (isReady : s.wait = .ready)
    {inner : Option Nat} (bounded : ∀ bytes ∈ inner, bytes ≤ i.chunk) :
    i.Within (s.pollNowait inner) := by
  cases inner with
  | none => exact ⟨paid, pays⟩
  | some bytes =>
    have counted := pays.transferred
    rw [isReady] at counted
    exact ⟨paid, { pays with
      transferred := Nat.add_le_add_right counted bytes
      chunk := bounded bytes rfl }⟩

variable (below : i.quota ≤ U32_MAX) (small : i.chunk ≤ U32_MAX)
include below small

/-- A chunk is paid for only once the ticks that its cells take have passed. -/
theorem Pays.bytesReadyAt {paid length : Nat} (pays : i.Pays paid s)
    (isWait : s.wait = .empty length) :
    (∃ earliest, s.limiter.bytesReadyAt s.direction length s.clock =
        (.ok (some earliest), s.limiter)) ∨
      ∃ limiter, s.limiter.bytesReadyAt s.direction length s.clock = (.ok none, limiter) ∧
        i.Pays (paid + length) { s with limiter := limiter, wait := .ready } := by
  obtain ⟨isT, isTau, ⟨tat, isTat, full⟩, since, timely, counted, atMost, sound⟩ := pays
  rw [isWait, PendingWaitState.unpaid] at counted atMost
  have fits : length ≤ U32_MAX := Nat.le_trans atMost small
  have spare : i.t * (U32_MAX - i.quota) + i.t * i.quota = i.t * U32_MAX := by
    rw [← Nat.mul_add, Nat.sub_add_cancel below]
  simp only [Nat.mul_add, Nat.mul_one] at full
  simp only [InnerRateLimiter.bytesReadyAt, Nat.mod_eq_of_lt (Nat.lt_succ_of_le fits)]
  split
  case isTrue isNone =>
    subst isNone
    exact .inr ⟨_, rfl, isT, isTau, ⟨tat, isTat, by simpa [Nat.mul_add] using full⟩, since, timely,
      counted, Nat.zero_le _, sound⟩
  case isFalse due =>
    have isDue : (s.limiter.tat s.direction).getD (s.clock + s.limiter.t) = tat := by
      rw [isTat]
      rfl
    have allows : s.limiter.t * length ≤ s.limiter.tau := by
      rw [isT, isTau]
      exact Nat.mul_le_mul_left _ fits
    rcases checkKeyN_cases (Nat.pos_of_ne_zero due) allows isDue with
      ⟨-, earliest, refused⟩ | ⟨affords, allowed⟩
    · exact .inl ⟨earliest, by rw [refused]⟩
    · rw [allowed]
      rw [isT] at affords ⊢
      refine .inr ⟨_, rfl, rfl, isTau, ⟨_, Function.update_self _ _ _, ?_⟩, since, ?_,
        Nat.add_assoc i.before paid length ▸ counted, Nat.zero_le _, sound⟩
      · simp only [Nat.mul_add, Nat.mul_one]
        omega
      · grind

theorem Within.poll (within : i.Within s) {turn : Turn}
    (bounded : ∀ bytes ∈ turn.inner, bytes ≤ i.chunk) : i.Within (s.poll turn) := by
  obtain ⟨paid, pays⟩ := within
  have counted := pays.transferred
  have atMost := pays.chunk
  unfold RateLimitedStream.poll RateLimitedStream.startWait
  cases isWait : s.wait with
  | ready =>
    simp only [isWait]
    exact pays.pollNowait isWait bounded
  | waiting length deadline =>
    rw [isWait] at counted atMost
    simp only [isWait]
    split
    · exact ⟨paid, pays⟩
    · exact ⟨paid, { pays with transferred := counted, chunk := atMost }⟩
  | empty length =>
    rw [isWait] at counted atMost
    rcases pays.bytesReadyAt below small isWait with ⟨earliest, early⟩ | ⟨limiter, due, paysNow⟩
    · simp only [early]
      split <;> exact ⟨paid, { pays with transferred := counted, chunk := atMost }⟩
    · simp only [due]
      exact paysNow.pollNowait rfl bounded

theorem Within.step (within : i.Within s) {turn : Turn}
    (bounded : ∀ bytes ∈ turn.inner, bytes ≤ i.chunk) : i.Within (s.step turn) := by
  have later : i.Within { s with clock := s.clock + turn.elapsed } := by
    obtain ⟨paid, pays⟩ := within
    have timely := pays.timely
    refine ⟨paid, { pays with
      since := Nat.le_trans pays.since (Nat.le_add_right _ _)
      timely := ?_ }⟩
    show i.t * paid ≤ s.clock + turn.elapsed - i.start + i.t * i.quota
    omega
  unfold RateLimitedStream.step
  dsimp only
  split
  · exact later
  · exact later.poll below small bounded

theorem Within.run (within : i.Within s) {turns : List Turn}
    (bounded : ∀ turn ∈ turns, ∀ bytes ∈ turn.inner, bytes ≤ i.chunk) : i.Within (run s turns) :=
  List.foldlRecOn turns _ within fun _ within _ mem => within.step below small (bounded _ mem)

end Interval

/-- The bytes transferred from one state to a later one are at most the cells of the ticks between
them, of one second and of one chunk. -/
def Keeps (t quota chunk : Nat) (earlier later : RateLimitedStream) : Prop :=
  later.panicked = false ∧ t * later.transferred ≤
    t * earlier.transferred + (later.clock - earlier.clock) + t * (quota + chunk)

theorem transfers_stay_within_quota (t quota chunk now : Nat) (direction : RateLimiterDirection)
    (below : quota < U32_MAX) (small : chunk ≤ U32_MAX) :
    ∃ limiter, newRateLimiter t quota now = some limiter ∧
      ∀ first rest : List Turn,
        (∀ turn ∈ first ++ rest, ∀ bytes ∈ turn.inner, bytes ≤ chunk) →
        (run (.new limiter direction now) first).Drained quota →
        Keeps t quota chunk (run (.new limiter direction now) first)
          (run (run (.new limiter direction now) first) rest) := by
  obtain ⟨limiter, built, within⟩ :=
    Interval.within_new (i := ⟨t, quota, chunk, now, 0⟩) below direction
  refine ⟨limiter, built, fun first rest bounded drained => ?_⟩
  have here := within.run (Nat.le_of_lt below) small fun turn mem =>
    bounded turn (List.mem_append_left _ mem)
  generalize run _ first = s at here drained ⊢
  obtain ⟨_, pays⟩ := here
  obtain ⟨tat, isTat, -⟩ := pays.full
  have again : Interval.Within ⟨t, quota, chunk, s.clock, s.transferred⟩ s :=
    ⟨0, pays.cell, pays.burst, ⟨tat, isTat, pays.cell ▸ drained tat isTat⟩, Nat.le_refl _,
      Nat.zero_le _, Nat.le_add_right _ _, pays.chunk, pays.sound⟩
  obtain ⟨paid, pays⟩ := again.run (Nat.le_of_lt below) small fun turn mem =>
    bounded turn (List.mem_append_right _ mem)
  have timely := pays.timely
  have counted := Nat.mul_le_mul_left t
    (Nat.le_trans pays.transferred (Nat.add_le_add_left pays.chunk _))
  refine ⟨pays.sound, ?_⟩
  simp only [Nat.mul_add] at counted timely ⊢
  omega

theorem download_stays_within_quota :
    ∃ limiter, newRateLimiter 1 1000 0 = some limiter ∧
      Keeps 1 1000 8192 (.new limiter .read 0) (run (.new limiter .read 0)
        [⟨0, 0, 8192, some 8000⟩, ⟨1, 0, 8192, none⟩, ⟨9000, 7, 8192, none⟩,
          ⟨0, 0, 8192, some 8192⟩]) := by
  obtain ⟨limiter, built, keeps⟩ :=
    transfers_stay_within_quota 1 1000 8192 0 .read (by decide) (by decide)
  refine ⟨limiter, built, keeps [] _ (by decide) ?_⟩
  cases built
  rintro _ ⟨⟩
  decide

/-- A limiter of the greatest quota panics when it is built. One of a thousand bytes per second
that has stood idle for fifty days lets ten times as much through in an instant. -/
theorem idle_limiter_lets_more_through :
    assertValidQuota U32_MAX = .ok U32_MAX ∧ newRateLimiter 1 U32_MAX 0 = none ∧
      ∃ limiter, newRateLimiter 1 1000 0 = some limiter ∧
        ¬Keeps 1 1000 1000 (run (.new limiter .read 0) [⟨4294967295, 0, 1000, none⟩])
          (run (run (.new limiter .read 0) [⟨4294967295, 0, 1000, none⟩])
            (List.replicate 10 ⟨0, 0, 1000, some 1000⟩)) := by
  refine ⟨rfl, rfl, _, rfl, ?_⟩
  unfold Keeps
  decide +kernel

end Warpgate.RateLimiting
