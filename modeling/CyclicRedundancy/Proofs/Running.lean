import CyclicRedundancy.Running

/-!
# Courses of steps

A running checksum is known by what can be done to its states. If a relation between the states of
two computations is kept by all that can be done to both of them, every course of steps keeps it:
several buffers and single bytes are nothing but bytes that are fed in pieces.
-/

namespace CyclicRedundancy.Running

variable {γ δ : Type} [Running γ] [Running δ]

/-- A relation between the states of two computations that is kept by all that is done to both. -/
structure Simulation (R : γ → δ → Prop) : Prop where
  feed {s : γ} {t : δ} (h : R s t) (data : List UInt8) :
    R (Running.feed s data) (Running.feed t data)
  reset {s : γ} {t : δ} (h : R s t) : R (Running.reset s) (Running.reset t)
  fresh {s : γ} {t : δ} (h : R s t) : R (Running.fresh s) (Running.fresh t)
  resume {s : γ} {t : δ} (h : R s t) (checksum : UInt64) :
    R (Running.resume s checksum) (Running.resume t checksum)

namespace Simulation

variable {R : γ → δ → Prop} (sim : Simulation R)
include sim

theorem feedAll {s : γ} {t : δ} (h : R s t) (buffers : List (List UInt8)) :
    R (Running.feedAll s buffers) (Running.feedAll t buffers) := by
  induction buffers generalizing s t with
  | nil => exact h
  | cons data buffers ih => exact ih (sim.feed h data)

theorem apply {s : γ} {t : δ} (h : R s t) (step : Step) :
    R (Running.apply s step) (Running.apply t step) := by
  cases step with
  | feed data => exact sim.feed h data
  | feedAll buffers => exact sim.feedAll h buffers
  | eachByte data => exact sim.feedAll h _
  | reset => exact sim.reset h
  | fresh => exact sim.fresh h
  | resume checksum => exact sim.resume h checksum

theorem run {s : γ} {t : δ} (h : R s t) (steps : List Step) :
    R (Running.run s steps) (Running.run t steps) := by
  induction steps generalizing s t with
  | nil => exact h
  | cons step steps ih => exact ih (sim.apply h step)

end Simulation

end CyclicRedundancy.Running
