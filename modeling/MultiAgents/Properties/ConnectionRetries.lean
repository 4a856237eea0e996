import Mathlib.Tactic.Linarith
import MultiAgents.Services.Connection

/-!
# Retry loops of the connection

The flag `reconnecting` is set exactly as long as a retry loop is active, so there
is one at most.  A loop counts its attempts, and each of its waits is at least as
long as the one before it.
-/

namespace MultiAgents.Connection

open Effects

def RetryOptions.Proper (options : RetryOptions) : Prop :=
  0 ≤ options.initialDelay ∧ options.initialDelay ≤ options.maxDelay

/-- Waits in order, none longer than the next one will be. -/
structure Paced (longest delay : ℚ) (delays : List ℚ) : Prop where
  nonneg : 0 ≤ delay
  bounded : delay ≤ longest
  sorted : delays.Pairwise (· ≤ ·)
  earlier : ∀ wait ∈ delays, wait ≤ delay

section Waits

variable {longest delay : ℚ} {delays : List ℚ}

theorem Paced.grow (paced : Paced longest delay delays) :
    Paced longest (min (delay * (3 / 2)) longest) delays := by
  have grows : delay ≤ min (delay * (3 / 2)) longest :=
    le_min (by linarith [paced.nonneg]) paced.bounded
  exact {
    nonneg := paced.nonneg.trans grows
    bounded := min_le_right _ _
    sorted := paced.sorted
    earlier := fun wait isEarlier => (paced.earlier wait isEarlier).trans grows }

theorem Paced.wait (paced : Paced longest delay delays) :
    Paced longest delay (delays ++ [delay]) where
  nonneg := paced.nonneg
  bounded := paced.bounded
  sorted := by
    refine List.pairwise_append.mpr ⟨paced.sorted, List.pairwise_singleton _ _, ?_⟩
    intro wait isEarlier last isLast
    obtain rfl := List.mem_singleton.mp isLast
    exact paced.earlier wait isEarlier
  earlier := by
    intro wait isWait
    rcases List.mem_append.mp isWait with isEarlier | isLast
    · exact paced.earlier wait isEarlier
    · exact (List.mem_singleton.mp isLast).le

end Waits

namespace RetryLoop

def InPace (loop : RetryLoop) : Prop :=
  loop.options.Proper → Paced loop.options.maxDelay loop.delay loop.delays

/-- At the head of the loop every call of `connect` has been counted as an attempt. -/
structure Ready (loop : RetryLoop) : Prop where
  within : loop.connects ≤ loop.options.maxRetries
  counted : loop.connects ≤ loop.attempt
  inPace : loop.InPace

/-- Elsewhere the last one may not have been counted yet. -/
structure Sound (loop : RetryLoop) : Prop where
  within : loop.connects ≤ loop.options.maxRetries
  counted : loop.connects ≤ loop.attempt + 1
  asleep : loop.stage = .sleep → loop.connects ≤ loop.attempt
  inPace : loop.InPace

end RetryLoop

namespace OpenCodeClient

structure Orderly (service : OpenCodeClient) : Prop where
  flagged : service.loops.countP RetryLoop.active = if service.reconnecting then 1 else 0
  sound : ∀ loop ∈ service.loops, loop.Sound

variable {service : OpenCodeClient} {place : Nat} {loop next : RetryLoop}

section Replaced

variable (orderly : service.Orderly) (found : service.loops[place]? = some loop)
  (active : loop.active = true)
include orderly found active

/-- The one active loop is replaced by what becomes of it. -/
theorem Orderly.set (next : RetryLoop) (sound : next.Sound) (client connected : Bool) :
    Orderly ⟨client, connected, next.active, service.loops.set place next⟩ where
  flagged := by
    obtain ⟨inside, same⟩ := List.getElem?_eq_some_iff.mp found
    have atMostOne : service.loops.countP RetryLoop.active ≤ 1 := by
      rw [orderly.flagged]
      split <;> decide
    dsimp only
    rw [List.countP_set inside, same, if_pos active, Nat.sub_eq_zero_of_le atMostOne, Nat.zero_add]
  sound := by
    intro other isThere
    rcases List.mem_or_eq_of_mem_set isThere with before | rfl
    · exact orderly.sound other before
    · exact sound

theorem Orderly.reconnecting : service.reconnecting = true := by
  have counted : 0 < service.loops.countP RetryLoop.active :=
    List.countP_pos_iff.mpr ⟨loop, List.mem_of_getElem? found, active⟩
  rw [orderly.flagged] at counted
  by_contra unset
  rw [if_neg unset] at counted
  exact Nat.lt_irrefl 0 counted

theorem Orderly.finish (within : next.connects ≤ next.options.maxRetries)
    (counted : next.connects ≤ next.attempt + 1) (inPace : next.InPace) :
    (service.finish place next).Orderly :=
  orderly.set found active { next with stage := .finished }
    ⟨within, counted, by simp, inPace⟩ service.client service.connected

theorem Orderly.attemptNext (ready : next.Ready) : (service.attemptNext place next).Orderly := by
  unfold OpenCodeClient.attemptNext
  split
  · rename_i again
    have counted : next.connects + 1 ≤ next.attempt + 1 := Nat.succ_le_succ ready.counted
    rw [orderly.reconnecting found active]
    exact orderly.set found active { next with stage := .health, connects := next.connects + 1 }
      ⟨counted.trans again.1, counted, by simp, ready.inPace⟩ true service.connected
  · exact orderly.finish found active ready.within (Nat.le_succ_of_le ready.counted) ready.inPace

theorem Orderly.connectFailed : (service.connectFailed place loop).Orderly := by
  have sound := orderly.sound loop (List.mem_of_getElem? found)
  unfold OpenCodeClient.connectFailed
  dsimp only
  split
  · rw [orderly.reconnecting found active]
    exact orderly.set found active
      { loop with
        attempt := loop.attempt + 1, stage := .sleep, delays := loop.delays ++ [loop.delay] }
      ⟨sound.within, Nat.le_succ_of_le sound.counted, fun _ => sound.counted,
        fun proper => (sound.inPace proper).wait⟩ service.client service.connected
  · exact orderly.attemptNext found active ⟨sound.within, sound.counted, sound.inPace⟩

end Replaced

theorem Orderly.flags (orderly : service.Orderly) (client connected : Bool) :
    Orderly { service with client, connected } :=
  ⟨orderly.flagged, orderly.sound⟩

theorem Orderly.connectWithRetry (orderly : service.Orderly) (options : RetryOptions) :
    (service.connectWithRetry options).Orderly := by
  unfold OpenCodeClient.connectWithRetry
  split
  · exact orderly
  · rename_i idle
    rw [Bool.not_eq_true, Bool.or_eq_false_iff] at idle
    have inPace : RetryLoop.InPace { options, delay := options.initialDelay } :=
      fun proper => ⟨proper.1, proper.2, List.Pairwise.nil, by simp⟩
    have started : Orderly { service with
        reconnecting := true
        loops := service.loops ++ [{ options, delay := options.initialDelay }] } := by
      constructor
      · have none := orderly.flagged
        rw [idle.2] at none
        rw [List.countP_append, none]
        rfl
      · intro loop isThere
        rcases List.mem_append.mp isThere with before | new
        · exact orderly.sound loop before
        · obtain rfl := List.mem_singleton.mp new
          exact ⟨Nat.zero_le _, Nat.zero_le _, by simp, inPace⟩
    exact started.attemptNext List.getElem?_concat_length rfl
      ⟨Nat.zero_le _, Nat.zero_le _, inPace⟩

theorem Orderly.resume (orderly : service.Orderly) (place : Nat) (healthy : Bool) :
    (service.resume place healthy).Orderly := by
  unfold OpenCodeClient.resume
  split
  · exact orderly
  · rename_i loop found
    have sound := orderly.sound loop (List.mem_of_getElem? found)
    have active (stage : Stage) (going : stage ≠ .finished) (at_ : loop.stage = stage) :
        loop.active = true := by
      simp [RetryLoop.active, at_, going]
    split
    · rename_i waiting
      have isActive := active .health (by decide) waiting
      split
      · dsimp only
        split
        · rename_i there
          rw [orderly.reconnecting found isActive, there]
          exact orderly.set found isActive { loop with stage := .authentication }
            ⟨sound.within, sound.counted, by simp, sound.inPace⟩ true true
        · exact (orderly.flags service.client true).connectFailed found isActive
      · exact orderly.connectFailed found isActive
    · rename_i waiting
      exact orderly.finish found (active .authentication (by decide) waiting) sound.within
        sound.counted sound.inPace
    · rename_i waiting
      exact orderly.attemptNext found (active .sleep (by decide) waiting)
        ⟨sound.within, sound.asleep waiting, fun proper => (sound.inPace proper).grow⟩
    · exact orderly

theorem Orderly.step (orderly : service.Orderly) (event : Event) :
    (service.step event).Orderly := by
  cases event with
  | connectWithRetry options => exact orderly.connectWithRetry options
  | resume place healthy => exact orderly.resume place healthy
  | connecting => exact orderly.flags true service.connected
  | connected => exact orderly.flags service.client true
  | disconnect => exact orderly.flags false false

theorem Orderly.run (orderly : service.Orderly) (events : List Event) :
    (Machine.run OpenCodeClient.step service events).Orderly := by
  induction events generalizing service with
  | nil => exact orderly
  | cons event events ih => exact ih (orderly.step event)

/-- Whatever happens to the client, one retry loop at most is active, none tries more often than
its limit, and its waits do not decrease and stay within theirs. -/
theorem retryLoops_bounded (events : List Event) :
    (run events).loops.countP RetryLoop.active ≤ 1 ∧
    ∀ loop ∈ (run events).loops, loop.connects ≤ loop.options.maxRetries ∧
      (0 ≤ loop.options.initialDelay → loop.options.initialDelay ≤ loop.options.maxDelay →
        loop.delays.Pairwise (· ≤ ·) ∧ ∀ delay ∈ loop.delays, delay ≤ loop.options.maxDelay) := by
  have initial : Orderly {} := ⟨rfl, by simp⟩
  have orderly := initial.run events
  refine ⟨?_, fun loop isThere => ⟨(orderly.sound loop isThere).within, fun nonneg bounded => ?_⟩⟩
  · rw [orderly.flagged]
    split <;> decide
  · have paced := (orderly.sound loop isThere).inPace ⟨nonneg, bounded⟩
    exact ⟨paced.sorted, fun delay isWait => (paced.earlier delay isWait).trans paced.bounded⟩

example :
    (run [.connectWithRetry { maxRetries := 3 }, .connectWithRetry {}, .resume 0 false,
      .resume 0 false, .resume 0 false]).loops.map RetryLoop.delays = [[1000, 1500]] := by
  decide +kernel

/-- Calls are turned away exactly as long as a retry loop is active. -/
theorem reconnecting_iff_active (events : List Event) :
    (run events).reconnecting = true ↔ ∃ loop ∈ (run events).loops, loop.active = true := by
  have initial : Orderly {} := ⟨rfl, by simp⟩
  rw [← List.countP_pos_iff, (initial.run events).flagged]
  split <;> simp_all

end OpenCodeClient

end MultiAgents.Connection
