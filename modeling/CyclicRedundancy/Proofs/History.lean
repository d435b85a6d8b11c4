import CyclicRedundancy.Proofs.Calculator

/-!
# Histories of calculations

A course of calculation may take bytes in any pieces, start again, go on from any checksum, and pass
from one calculator of a model to another. Its history is what is left if all of that is forgotten:
the register that the bytes since the last start were fed to, and these bytes. Every leg of a course
keeps the register at the one that the history leads to, so that neither the pieces nor the
calculators are seen in the end.
-/

namespace CyclicRedundancy

/-- The calculators of a model. -/
abbrev Calculator.Of (m : Model) : Type := {c : Calculator // c.model = m}

/-- One leg of a course of calculation. -/
inductive Leg (m : Model) where
  /-- A step with the same calculator. -/
  | step (step : Running.Step)
  /-- A calculator takes over and resumes from the checksum of the bytes so far. -/
  | handOver (next : Calculator.Of m)
  /-- A calculator takes over and resumes from a checksum, whichever it is. -/
  | resume (next : Calculator.Of m) (checksum : UInt64)

/-- A register that bytes were fed to, and the bytes. -/
structure History where
  origin : UInt64
  bytes : List UInt8

namespace History

variable (m : Model)

/-- The history of a message before its first byte. -/
def ofStart : History := ⟨m.start, []⟩

/-- The history of a message of which only the checksum so far is known. -/
def ofChecksum (checksum : UInt64) : History := ⟨m.registerOf checksum, []⟩

/-- The history after some more bytes. -/
def feed (h : History) (data : List UInt8) : History := { h with bytes := h.bytes ++ data }

/-- The history after a step with the same calculator. -/
def apply (h : History) : Running.Step → History
  | .feed data | .eachByte data => h.feed data
  | .feedAll buffers => h.feed buffers.flatten
  | .reset | .fresh => ofStart m
  | .resume checksum => ofChecksum m checksum

variable {m}

/-- The history after a leg. -/
def follow (h : History) : Leg m → History
  | .step step => h.apply m step
  | .handOver _ => h
  | .resume _ checksum => ofChecksum m checksum

/-- The history of a course. -/
def ofCourse (legs : List (Leg m)) : History := legs.foldl follow (ofStart m)

end History

namespace Calculation

variable {m : Model}

/-- The calculation after a leg. -/
def follow (c : Calculation) : Leg m → Calculation
  | .step step => Running.apply c step
  | .handOver next => next.1.resume c.checksumOf
  | .resume next checksum => next.1.resume checksum

/-- The register of a calculation is the one that a history leads to. -/
structure Has (m : Model) (c : Calculation) (h : History) : Prop where
  model : c.calculator.model = m
  register : c.register = c.calculator.feed h.origin h.bytes

/-! ## What a leg keeps -/

theorem has_calculation (e : Calculator) : Has e.model e.calculation (.ofStart e.model) :=
  ⟨rfl, (e.feed_nil e.model.start).symm⟩

theorem has_resume {e : Calculator} (he : e.model = m) (checksum : UInt64) :
    Has m (e.resume checksum) (.ofChecksum m checksum) := by
  subst he
  exact ⟨rfl, (e.feed_nil _).symm⟩

theorem Has.feed {c : Calculation} {h : History} (hc : Has m c h) (data : List UInt8) :
    Has m (c.feed data) (h.feed data) := by
  refine ⟨hc.model, ?_⟩
  show c.calculator.feed c.register data = c.calculator.feed h.origin (h.bytes ++ data)
  rw [hc.register, Calculator.feed_append]

theorem Has.feedAll {c : Calculation} {h : History} (hc : Has m c h)
    (buffers : List (List UInt8)) : Has m (Running.feedAll c buffers) (h.feed buffers.flatten) := by
  induction buffers generalizing c h with
  | nil =>
    rw [List.flatten_nil, History.feed, List.append_nil]
    exact hc
  | cons data buffers ih =>
    have hnext := ih (hc.feed data)
    rw [History.feed, History.feed, List.append_assoc] at hnext
    exact hnext

theorem Has.apply {c : Calculation} {h : History} (hc : Has m c h) (step : Running.Step) :
    Has m (Running.apply c step) (h.apply m step) := by
  obtain ⟨rfl, hregister⟩ := hc
  cases step with
  | feed data => exact Has.feed ⟨rfl, hregister⟩ data
  | feedAll buffers => exact Has.feedAll ⟨rfl, hregister⟩ buffers
  | eachByte data =>
    have hall := Has.feedAll ⟨rfl, hregister⟩ (data.map fun byte => [byte])
    rw [← List.flatMap_def, List.flatMap_singleton'] at hall
    exact hall
  | reset =>
    refine ⟨rfl, ?_⟩
    show c.calculator.model.start = c.calculator.feed c.calculator.model.start []
    rw [Calculator.feed_nil, Model.start_and_mask]
  | fresh => exact has_calculation c.calculator
  | resume checksum => exact has_resume rfl checksum

/-- What takes over resumes with the register that was reached. -/
theorem Has.handOver {c : Calculation} {h : History} (hc : Has m c h) {e : Calculator}
    (he : e.model = m) : Has m (e.resume c.checksumOf) h := by
  obtain ⟨rfl, hregister⟩ := hc
  have hback : (e.resume c.checksumOf).register =
      e.model.registerOf (c.calculator.model.checksumOf c.register) &&& e.model.mask := rfl
  refine ⟨he, ?_⟩
  show _ = e.feed h.origin h.bytes
  rw [hback, he, Model.registerOf_checksumOf, hregister, Calculator.and_mask_feed,
    Calculator.and_mask_feed, Calculator.feed_congr he]

theorem Has.follow {c : Calculation} {h : History} (hc : Has m c h) (leg : Leg m) :
    Has m (c.follow leg) (h.follow leg) := by
  cases leg with
  | step step => exact hc.apply step
  | handOver next => exact hc.handOver next.2
  | resume next checksum => exact has_resume next.2 checksum

/-- What a leg keeps a whole course keeps. -/
theorem Has.foldl_follow {c : Calculation} {h : History} (hc : Has m c h) (legs : List (Leg m)) :
    Has m (legs.foldl Calculation.follow c) (legs.foldl History.follow h) := by
  induction legs generalizing c h with
  | nil => exact hc
  | cons leg legs ih => exact ih (hc.follow leg)

/-- The history tells the register and the checksum by any calculator of the model. -/
theorem Has.register_and_value {c : Calculation} {h : History} (hc : Has m c h)
    {d : Calculator} (hd : d.model = m) :
    c.register = d.feed h.origin h.bytes ∧
      Running.value c = d.checksumOf (d.feed h.origin h.bytes) := by
  obtain ⟨rfl, hregister⟩ := hc
  have hvalue : Running.value c = c.calculator.model.checksumOf c.register := rfl
  rw [Calculator.feed_congr hd, Calculator.checksumOf, hd, hvalue, ← hregister]
  exact ⟨rfl, rfl⟩

end Calculation

namespace Calculator

/-- A course of calculation that starts with a new message. -/
def course (e : Calculator) (legs : List (Leg e.model)) : Calculation :=
  legs.foldl Calculation.follow e.calculation

theorem has_course (e : Calculator) (legs : List (Leg e.model)) :
    Calculation.Has e.model (e.course legs) (.ofCourse legs) :=
  (Calculation.has_calculation e).foldl_follow legs

end Calculator

/-! ## Messages in pieces -/

/-- A piece of a message, and the calculator that takes over after it, if one does. -/
structure Piece (m : Model) where
  data : List UInt8
  next : Option (Calculator.Of m)

/-- Feeding a piece and handing over. -/
def Piece.legs {m : Model} (p : Piece m) : List (Leg m) :=
  .step (.feed p.data) :: (p.next.map .handOver).toList

theorem History.foldl_follow_pieces {m : Model} (h : History) (pieces : List (Piece m)) :
    (pieces.flatMap Piece.legs).foldl follow h = h.feed (pieces.flatMap Piece.data) := by
  induction pieces generalizing h with
  | nil =>
    show h = h.feed []
    rw [feed, List.append_nil]
  | cons p pieces ih =>
    have hpiece : p.legs.foldl follow h = h.feed p.data := by
      obtain ⟨data, next⟩ := p
      cases next <;> rfl
    rw [List.flatMap_cons, List.foldl_append, hpiece, ih, List.flatMap_cons, feed, feed, feed,
      List.append_assoc]

/-- After every course of feeding, resetting, resuming and handing over, the register is the one
that any calculator of the model reaches by feeding the bytes of the history to its origin at once,
and the checksum is that of this register. In particular a message in pieces, with a calculator
taking over after any of them, has the checksum of the whole message. -/
theorem Calculator.register_course (e : Calculator) :
    (∀ (legs : List (Leg e.model)) (d : Of e.model),
        (e.course legs).register =
            d.1.feed (History.ofCourse legs).origin (History.ofCourse legs).bytes ∧
          Running.value (e.course legs) = d.1.checksumOf
            (d.1.feed (History.ofCourse legs).origin (History.ofCourse legs).bytes)) ∧
      ∀ pieces : List (Piece e.model),
        Running.value (e.course (pieces.flatMap Piece.legs)) =
          e.checksum (pieces.flatMap Piece.data) := by
  refine ⟨fun legs d => (e.has_course legs).register_and_value d.2, fun pieces => ?_⟩
  have hpieces := e.has_course (pieces.flatMap Piece.legs)
  rw [History.ofCourse, History.foldl_follow_pieces] at hpieces
  exact (hpieces.register_and_value rfl).2

end CyclicRedundancy
