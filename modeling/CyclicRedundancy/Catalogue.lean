import CyclicRedundancy.Catalogue.Published
import CyclicRedundancy.Notice

/-!
# The catalogue

Look-up of published algorithms by name, and the list of every algorithm under every method. A name
is found if it spells the published one; the first such algorithm counts.
-/

namespace CyclicRedundancy.Catalogue

/-- The algorithm that a text names, if there is one. -/
def find? (typed : String) : Option Algorithm :=
  algorithms.find? fun a => Text.spells typed a.name

/-- The algorithm that a text names, or the error that there is none. -/
def find (typed : String) : Except Error Algorithm :=
  match find? typed with
  | some a => .ok a
  | none => .error .unknownAlgorithm

/-- An algorithm under a method. -/
structure Entry where
  /-- The algorithm. -/
  algorithm : Algorithm
  /-- The method. -/
  method : Method
  deriving DecidableEq

namespace Entry

/-- The calculator of an entry. -/
def calculator (e : Entry) : Calculator := .ofAlgorithm e.algorithm e.method

/-- An entry in one line. -/
def display (e : Entry) : String := Text.wrapped e.algorithm.name e.method.label

end Entry

/-- Every algorithm under every method: the algorithms in their order, and the methods in theirs
for each. -/
def entries : List Entry :=
  algorithms.flatMap fun algorithm => Method.all.map fun method => { algorithm, method }

/-- The first error among the entries, if one does not reproduce its check value. -/
def firstError? (es : List Entry) : Option Error :=
  es.findSome? fun e =>
    match e.calculator.verify with
    | .ok () => none
    | .error error => some error

/-- The number of some entries, if all of them reproduce their check values. -/
def test (es : List Entry) : Except Error Nat × List Notice :=
  match firstError? es with
  | some error => (.error error, [.selfTestFailed error])
  | none => (.ok es.length, [.selfTestPassed es.length])

/-- The test of every algorithm under every method. -/
def selfTest : Except Error Nat × List Notice := test entries

/-- The calculator of a named algorithm under the method of the settings. The settings are asked for
only if there is such an algorithm. -/
def calculator (p : Surroundings) (typed : String) :
    Except Error Calculator × List Notice × Surroundings :=
  match find typed with
  | .error error => (.error error, [], p)
  | .ok a =>
    let (settings, notices, p) := p.settings
    (.ok (.ofAlgorithm a settings.method), notices ++ [.resolved a.name settings.method], p)

end CyclicRedundancy.Catalogue

namespace CyclicRedundancy

/-- The calculator of a model under the method of the settings. -/
def Calculator.ofSettings (p : Surroundings) (m : Model) :
    Calculator × List Notice × Surroundings :=
  let (settings, notices, p) := p.settings
  (.ofModel m settings.method, notices, p)

end CyclicRedundancy
