/-!
# Calls

A stream is known by its calls: each gives an answer and leads to a stream. If two streams stand in
a relation that every call keeps, and no call tells them apart, then no calls in a row do.
-/

namespace CyclicRedundancy

variable {ρ σ κ α : Type}

/-- Two results of a call: the same answer, which satisfies `P`, over related streams. -/
structure Matches (R : ρ → σ → Prop) (P : α → Prop) (x : α × ρ) (y : α × σ) : Prop where
  answer : x.1 = y.1
  rest : R x.2 y.2
  property : P y.1

/-- Some calls in a row: their answers, and the stream afterwards. -/
def performAll (perform : σ → κ → α × σ) (s : σ) : List κ → List α × σ
  | [] => ([], s)
  | call :: calls =>
    let (answer, rest) := perform s call
    let (answers, last) := performAll perform rest calls
    (answer :: answers, last)

/-- If the results of every call match, those of some calls in a row do. -/
theorem Matches.all {f : ρ → κ → α × ρ} {g : σ → κ → α × σ} {R : ρ → σ → Prop}
    {P : α → Prop} (step : ∀ {r s}, R r s → ∀ call, Matches R P (f r call) (g s call))
    {r : ρ} {s : σ} (h : R r s) (calls : List κ) :
    Matches R (fun answers => ∀ answer ∈ answers, P answer)
      (performAll f r calls) (performAll g s calls) := by
  induction calls generalizing r s with
  | nil => exact ⟨rfl, h, by simp [performAll]⟩
  | cons call calls ih =>
    have hfirst := step h call
    have hlater := ih hfirst.rest
    refine ⟨?_, hlater.rest, ?_⟩
    · exact congr (congrArg List.cons hfirst.answer) hlater.answer
    · intro answer hmem
      rcases List.mem_cons.mp hmem with rfl | hmem
      · exact hfirst.property
      · exact hlater.property answer hmem

end CyclicRedundancy
