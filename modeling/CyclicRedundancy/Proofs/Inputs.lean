import CyclicRedundancy.Command.Run
import CyclicRedundancy.Files
import CyclicRedundancy.Proofs.Contents

/-!
# The inputs of the command

What the inputs of the command hold: a dash stands for standard input, and any other name for what
the path leads to. What a path leads to is not known here, only that it stays the same. Standard
input is used up by the first input that reads it, under whatever name, and nothing else passes from
one input to another, whether it is read to its end or fails half way. So what becomes of the inputs
can be told from what they hold.
-/

namespace CyclicRedundancy

/-! ## Steady worlds -/

namespace Handle

/-- What the same path leads to when `left` is left of standard input. -/
def withInput (left : Cursor) : Handle → Handle
  | input _ => input left
  | handle => handle

/-- Whether a path led to standard input. -/
def isInput : Handle → Bool
  | input _ => true
  | _ => false

/-- What is left of standard input matters only as far as its bytes go. -/
theorem holds_withInput {left left' : Cursor} (h : left.left = left'.left) (handle : Handle) :
    (handle.withInput left).holds = (handle.withInput left').holds := by
  cases handle with
  | input c => exact congrArg Except.ok h
  | file c => rfl
  | directory => rfl
  | stream s honest => rfl

theorem isInput_withInput (left : Cursor) (handle : Handle) :
    (handle.withInput left).isInput = handle.isInput := by
  cases handle <;> rfl

end Handle

namespace Command.World

variable (w : World)

/-- What a path leads to stays the same while the command runs. In particular a path cannot use up
what another one leads to; only standard input is shared, and a path that leads to it is given what
is left of it. -/
def Steady : Prop :=
  ∀ left left' path, w.opener left path = (w.opener left' path).map (Handle.withInput left)

/-- What the command reads for the name of an input when `left` is left of standard input. -/
def access (left : Cursor) (name : String) : Except Failure Handle :=
  if name = "-" then .ok (.input left) else w.opener left name

/-- Whether an input is standard input, under one of its names. -/
def readsInput (name : String) : Bool :=
  (w.access (.ofList []) name).toOption.any Handle.isInput

/-- All the bytes of an input when `left` are left of standard input, or why there are none. -/
def content (left : List UInt8) (name : String) : Except Failure (List UInt8) :=
  w.access (.ofList left) name >>= Handle.holds

/-- Whether an input can be opened and read to its end. -/
def readable (name : String) : Bool := (w.content [] name).isOk

/-- The inputs and what they hold. The first that reads standard input sees all of it, and the
others see the empty message. -/
def contents (input : List UInt8) (names : List String) :
    List (String × Except Failure (List UInt8)) :=
  names.mapIdx fun i name =>
    (name, w.content (if (names.take i).any w.readsInput then [] else input) name)

theorem contents_cons (input : List UInt8) (name : String) (names : List String) :
    w.contents input (name :: names) =
      (name, w.content input name) ::
        w.contents (if w.readsInput name then [] else input) names := by
  -- Of the later inputs, none sees standard input once this one has read it.
  have hlater : ∀ i,
      (if ((name :: names).take (i + 1)).any w.readsInput then [] else input) =
        if (names.take i).any w.readsInput then [] else
          if w.readsInput name then [] else input := by
    intro i
    rw [List.take_succ_cons, List.any_cons]
    cases w.readsInput name
    · rfl
    · exact (ite_self _).symm
  unfold contents
  rw [List.mapIdx_cons]
  simp only [hlater]
  rfl

theorem map_fst_contents (input : List UInt8) (names : List String) :
    (w.contents input names).map (·.1) = names := by
  induction names generalizing input with
  | nil => rfl
  | cons name names ih => rw [contents_cons, List.map_cons, ih]

theorem readsInput_dash : w.readsInput "-" = true := rfl

/-- An input that cannot be read leaves standard input to the others. -/
theorem readsInput_of_not_readable {name : String} (h : w.readable name = false) :
    w.readsInput name = false := by
  revert h
  unfold readable content readsInput
  rcases w.access (.ofList []) name with f | (c | c | _ | ⟨s, honest⟩)
  · exact fun _ => rfl
  · exact fun _ => rfl
  · intro h
    cases h
  · exact fun _ => rfl
  · exact fun _ => rfl

section Steady

variable {w} (hw : w.Steady)
include hw

theorem access_eq (left left' : Cursor) (name : String) :
    w.access left name = (w.access left' name).map (Handle.withInput left) := by
  unfold access
  split
  · rfl
  · exact hw left left' name

theorem access_eq_ok (name : String) (handle : Handle)
    (h : (w.access (.ofList []) name).toOption = some handle) (left : Cursor) :
    w.access left name = .ok (handle.withInput left) := by
  rw [access_eq hw left (.ofList [])]
  cases haccess : w.access (.ofList []) name with
  | error f =>
    rw [haccess] at h
    cases h
  | ok found =>
    rw [haccess] at h
    cases h
    rfl

theorem access_holds (left : Cursor) (name : String) :
    w.access left name >>= Handle.holds = w.content left.left name := by
  have hbytes : left.left = (Cursor.ofList left.left).left := (Cursor.left_ofList _).symm
  unfold content
  rw [access_eq hw left (.ofList []), access_eq hw (.ofList left.left) (.ofList [])]
  cases w.access (.ofList []) name with
  | error f => rfl
  | ok handle => exact Handle.holds_withInput hbytes handle

theorem access_isInput (left : Cursor) (name : String) :
    (w.access left name).toOption.any Handle.isInput = w.readsInput name := by
  unfold readsInput
  rw [access_eq hw left (.ofList [])]
  cases w.access (.ofList []) name with
  | error f => rfl
  | ok handle => exact handle.isInput_withInput left

/-- An input holds what is left of standard input if it reads that, and else the same at all
times. -/
theorem content_eq (left : List UInt8) (name : String) :
    w.content left name = if w.readsInput name then .ok left else w.content [] name := by
  unfold content readsInput
  rw [access_eq hw (.ofList left) (.ofList [])]
  rcases w.access (.ofList []) name with f | (c | c | _ | ⟨s, honest⟩) <;> rfl

theorem isOk_content (left : List UInt8) (name : String) :
    (w.content left name).isOk = w.readable name := by
  unfold readable
  rw [content_eq hw left]
  split
  next hreads =>
    rw [content_eq hw [], if_pos hreads]
    rfl
  next => rfl

end Steady

end Command.World

/-- A tree of files stays as it is. -/
theorem Files.steady_access (t : Files) (environment : Environment) (input : List UInt8) :
    Command.World.Steady { environment, opener := t.access, input } := by
  intro left left' path
  dsimp only
  unfold access
  split
  · rfl
  split
  · rfl
  split
  · rfl
  split <;> rfl

/-! ## Visits -/

namespace Calculator

theorem Filed.left_inputLeft (f : Filed) (input : Cursor) :
    (f.inputLeft input).left = (f.handle.bind Handle.inputLeft?).getD input.left := by
  unfold inputLeft
  cases f.handle with
  | none => rfl
  | some handle => cases handle <;> rfl

/-- With room in the buffer there is an attempt to open the path. The buffer keeps its size, and
what is left of standard input is used up if the path leads there. -/
theorem drainFile_of_room (c : Calculator) (opener : Opener) (path : String) {b : Buffer}
    (hb : b.size ≠ 0) (input : Cursor) :
    let filed := c.drainFile opener path b
    filed.touched = true ∧ filed.buffer.size = b.size ∧
      (filed.inputLeft input).left =
        if (opener path).toOption.any Handle.isInput then [] else input.left := by
  dsimp only
  rw [Filed.left_inputLeft, drainFile, if_neg hb]
  cases opener path with
  | error f => exact ⟨rfl, rfl, rfl⟩
  | ok handle =>
    obtain ⟨-, hsize, hview, -⟩ := c.drain_of_settled Handle.settled (s := handle) trivial hb
    refine ⟨rfl, hsize, ?_⟩
    -- Standard input is all that can be seen of a handle, so the view says what is left of it.
    have hleft : (c.drain handle b).rest.inputLeft? = handle.inputLeft?.map fun _ => [] := hview
    calc (c.drain handle b).rest.inputLeft?.getD input.left
        = (handle.inputLeft?.map fun _ => []).getD input.left := by rw [hleft]
      _ = if handle.isInput then [] else input.left := by cases handle <;> rfl

end Calculator

namespace Command

/-- The buffer that the inputs share has room, be its size chosen or set. -/
theorem Options.room_ne_zero {o : Options} (ho : o.buffer ≠ some 0) (environment : Environment) :
    o.room environment ≠ 0 := by
  unfold room
  cases hsize : o.buffer with
  | none => exact Settings.fileBuffer_ofEnvironment_ne_zero environment
  | some size =>
    rintro rfl
    exact ho hsize

/-- What becomes of an input, under a checksum, if it is known what it holds. -/
def Visited.ofContent (checksum : List UInt8 → UInt64)
    (x : String × Except Failure (List UInt8)) : Visited where
  name := x.1
  result := (x.2.map checksum).mapError .stream
  touched := true

variable (c : Calculator) {w : World} (hw : w.Steady)
include hw

/-- What becomes of one input, and what is left for the others. -/
theorem visit_eq (s : Shared) (hb : s.buffer.size ≠ 0) (name : String) :
    (visit c w.opener s name).1 = .ofContent c.checksum (name, w.content s.input.left name) ∧
      (visit c w.opener s name).2.buffer.size = s.buffer.size ∧
      (visit c w.opener s name).2.input.left =
        if w.readsInput name then [] else s.input.left := by
  have hholds := World.access_holds hw s.input name
  have hreads := World.access_isInput hw s.input name
  rw [← hholds, ← hreads]
  unfold visit World.access
  by_cases hname : name = "-"
  · rw [if_pos hname, if_pos hname]
    obtain ⟨hresult, hsize, hleft, htouched⟩ :=
      c.drain_of_settled Cursor.settled (s := s.input) trivial hb
    refine ⟨?_, hsize, hleft⟩
    dsimp only
    rw [hresult, htouched]
    rfl
  · rw [if_neg hname, if_neg hname]
    obtain ⟨htouched, hsize, hleft⟩ := c.drainFile_of_room (w.opener s.input) name hb s.input
    refine ⟨?_, hsize, hleft⟩
    dsimp only
    rw [c.result_drainFile _ name hb, htouched]
    rfl

/-- What becomes of all inputs, by induction on them. The buffer keeps its room, and of the inputs
before only what they leave of standard input matters. -/
theorem visitAll_eq (s : Shared) (hb : s.buffer.size ≠ 0) (names : List String) :
    visitAll c w.opener s names = (w.contents s.input.left names).map (.ofContent c.checksum) := by
  induction names generalizing s with
  | nil => rfl
  | cons name names ih =>
    obtain ⟨hvisited, hsize, hleft⟩ := visit_eq c hw s hb name
    have hlater := ih (visit c w.opener s name).2 (by rw [hsize]; exact hb)
    rw [hleft] at hlater
    calc visitAll c w.opener s (name :: names)
        = (visit c w.opener s name).1 ::
            visitAll c w.opener (visit c w.opener s name).2 names := rfl
      _ = .ofContent c.checksum (name, w.content s.input.left name) ::
            (w.contents (if w.readsInput name then [] else s.input.left) names).map
              (.ofContent c.checksum) := by rw [hvisited, hlater]
      _ = _ := by rw [w.contents_cons, List.map_cons]

end Command

end CyclicRedundancy
