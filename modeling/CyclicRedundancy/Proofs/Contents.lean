import CyclicRedundancy.Catalogue.Published
import CyclicRedundancy.Proofs.Draining

/-!
# What sources hold

The courses of the sources that are settled. A script that makes no claims of its own holds the
bytes of its events up to the first that is neither an interruption nor some bytes; bytes in memory
are held from the position on; and what a path leads to holds the bytes of the file, refuses, or
holds what a script does.
-/

namespace CyclicRedundancy

/-! ## Scripts -/

namespace Script

/-- Whether a drain goes on after an event: it is an interruption, or delivers some bytes. -/
def Event.passes : Event → Bool
  | deliver bytes => bytes ≠ []
  | fail failure => failure.isInterruption
  | claim .. => false

/-- All the bytes that events deliver before the one that decides, or the failure that it is. -/
def held (events : List Event) : Except Failure (List UInt8) :=
  match (events.dropWhile Event.passes).head? with
  | some (.fail failure) => .error failure
  | _ => .ok ((events.takeWhile Event.passes).flatMap Event.delivered)

/-- The events behind the one that decides. -/
def behind (events : List Event) : List Event := (events.dropWhile Event.passes).tail

theorem held_cons {e : Event} (he : e.passes = true) (later : List Event) :
    held (e :: later) = (held later).map (e.delivered ++ ·) := by
  unfold held
  rw [List.dropWhile_cons_of_pos he, List.takeWhile_cons_of_pos he, List.flatMap_cons]
  split <;> rfl

theorem behind_cons {e : Event} (he : e.passes = true) (later : List Event) :
    behind (e :: later) = behind later := by
  rw [behind, List.dropWhile_cons_of_pos he]
  rfl

theorem behind_cons_of_not {e : Event} (he : ¬ e.passes = true) (later : List Event) :
    behind (e :: later) = later := by
  rw [behind, List.dropWhile_cons_of_neg he]
  rfl

/-- Bytes for which there is no room stay in front of the events to come, and still pass. -/
theorem read_deliver {bytes : List UInt8} (hbytes : bytes ≠ []) (later : List Event) (calls : Nat)
    {b : Buffer} (hb : b.size ≠ 0) :
    let attempt := Script.read { events := .deliver bytes :: later, calls } b
    attempt.Passes ∧
      held (.deliver bytes :: later) = (held attempt.rest.events).map (attempt.brought ++ ·) ∧
      behind (.deliver bytes :: later) = behind attempt.rest.events := by
  have hpos : 0 < bytes.length := List.length_pos_iff.mpr hbytes
  have hpass : (Event.deliver bytes).passes = true := decide_eq_true hbytes
  unfold Script.read
  rw [if_neg hb]
  have hcount : 0 < (bytes.take b.size).length ∧ (bytes.take b.size).length ≤ b.size := by
    rw [List.length_take]
    omega
  refine ⟨hcount, ?_⟩
  unfold Transfer.brought
  dsimp only
  rw [b.take_store, held_cons hpass, behind_cons hpass]
  by_cases hlt : b.size < bytes.length
  · -- The rest of the delivery stays in front, and is not empty.
    have hdrop : (Event.deliver (bytes.drop b.size)).passes = true :=
      decide_eq_true (mt List.drop_eq_nil_iff.mp (by omega))
    rw [if_pos hlt, held_cons hdrop, behind_cons hdrop]
    refine ⟨?_, rfl⟩
    cases held later with
    | error f => rfl
    | ok more =>
      show Except.ok (bytes ++ more) = .ok (bytes.take b.size ++ (bytes.drop b.size ++ more))
      rw [← List.append_assoc, List.take_append_drop]
  · rw [if_neg hlt, List.take_of_length_le (by omega)]
    exact ⟨rfl, rfl⟩

/-- A read of an honest script into a buffer with room passes or decides as its first event does. -/
theorem read_cases {s : Script} (hs : s.Honest) {b : Buffer} (hb : b.size ≠ 0) :
    (s.read b).Passes ∧
        held s.events = (held (s.read b).rest.events).map ((s.read b).brought ++ ·) ∧
        behind s.events = behind (s.read b).rest.events ∨
      ¬ (s.read b).Passes ∧ held s.events = (s.read b).outcome.map (fun _ => []) ∧
        (s.read b).rest.events = behind s.events := by
  obtain ⟨events, calls⟩ := s
  rcases events with _ | ⟨event, later⟩
  · right
    unfold read
    rw [if_neg hb]
    exact ⟨fun h => Nat.lt_irrefl 0 h.1, rfl, rfl⟩
  cases event with
  | deliver bytes =>
    by_cases hbytes : bytes = []
    · subst hbytes
      right
      unfold read
      rw [if_neg hb]
      exact ⟨fun h => by simp [Transfer.Passes] at h, rfl, rfl⟩
    · exact .inl (read_deliver hbytes later calls hb)
  | fail failure =>
    unfold read
    rw [if_neg hb]
    dsimp only
    by_cases hf : (Event.fail failure).passes = true
    · left
      refine ⟨hf, ?_, behind_cons hf later⟩
      rw [held_cons hf]
      rfl
    · right
      refine ⟨hf, ?_, (behind_cons_of_not hf later).symm⟩
      rw [held, List.dropWhile_cons_of_neg hf]
      rfl
  | claim count bytes => exact absurd (hs _ List.mem_cons_self) (by simp [Event.isClaim])

theorem size_read (s : Script) (b : Buffer) : (s.read b).buffer.size = b.size := by
  unfold read
  split
  · rfl
  · split <;> rfl

/-- The course of an honest script, of which the events to come can be seen. -/
def settled : Reader.Settled Script (List Event) where
  sound := Honest
  holds s := held s.events
  view := events
  final s := behind s.events
  size {s} b _ := s.size_read b
  fits {s b n} hs hout := by
    have hcount := (read_of_honest hs b).2
    rw [show (s.read b).outcome = .ok n from hout] at hcount
    exact hcount.1
  passing {s b} hs hb hpasses := by
    rcases read_cases hs hb with ⟨-, hheld, hbehind⟩ | ⟨hstop, -⟩
    · exact ⟨(read_of_honest hs b).1, hheld, hbehind⟩
    · exact absurd hpasses hstop
  deciding {s b} hs hb hstop := by
    rcases read_cases hs hb with ⟨hpasses, -⟩ | ⟨-, hheld, hbehind⟩
    · exact absurd hpasses hstop
    · exact ⟨hheld, hbehind⟩

end Script

/-! ## Cursors -/

namespace Cursor

/-- The bytes from the position on. -/
def left (c : Cursor) : List UInt8 := c.bytes.toList.drop c.position

theorem peek_eq (c : Cursor) (count : Nat) : c.peek count = c.left.take count := by
  rw [peek, Array.toList_extract, List.extract_eq_take_drop, Nat.add_sub_cancel_left]
  rfl

theorem left_advance (c : Cursor) (count : Nat) : (c.advance count).left = c.left.drop count := by
  rw [left, left, List.drop_drop]
  rfl

theorem left_ofList (bytes : List UInt8) : (ofList bytes).left = bytes := rfl

theorem passes_read_iff (c : Cursor) {b : Buffer} (hb : b.size ≠ 0) :
    (c.read b).Passes ↔ c.left ≠ [] := by
  have hcount : (c.read b).Passes ↔
      0 < (c.left.take b.size).length ∧ (c.left.take b.size).length ≤ b.size := by
    rw [← peek_eq]
    exact Iff.rfl
  rw [hcount, List.length_take, ← List.length_pos_iff]
  omega

/-- What a read brings comes from the front of what is left. -/
theorem left_eq_brought_append (c : Cursor) (b : Buffer) :
    c.left = (c.read b).brought ++ (c.read b).rest.left := by
  have hle : (c.left.take b.size).length ≤ b.size := by
    rw [List.length_take]
    exact Nat.min_le_left _ _
  have hbrought : (c.read b).brought = c.left.take b.size := by
    have hstore := b.take_store (c.left.take b.size)
    rw [List.take_of_length_le hle] at hstore
    rw [← hstore, ← peek_eq]
    rfl
  have hrest : (c.read b).rest.left = c.left.drop (c.left.take b.size).length := by
    rw [← peek_eq, ← left_advance]
    rfl
  have htake := List.prefix_iff_eq_take.mp (List.take_prefix b.size c.left)
  calc c.left
      = c.left.take (c.left.take b.size).length ++ c.left.drop (c.left.take b.size).length :=
        (List.take_append_drop _ _).symm
    _ = (c.read b).brought ++ (c.read b).rest.left := by rw [← htake, hbrought, hrest]

/-- The course of bytes in memory, of which those from the position on can be seen. -/
def settled : Reader.Settled Cursor (List UInt8) where
  sound _ := True
  holds c := .ok c.left
  view := left
  final _ := []
  size _ _ := rfl
  fits {c b n} _ hout := by
    have hcount : (c.peek b.size).length = n := Except.ok.inj hout
    have hle : (c.left.take b.size).length ≤ b.size := by
      rw [List.length_take]
      exact Nat.min_le_left _ _
    rw [← peek_eq, hcount] at hle
    exact hle
  passing {c b} _ _ _ := ⟨trivial, congrArg Except.ok (c.left_eq_brought_append b), rfl⟩
  deciding {c b} _ hb hstop := by
    have hnil : c.left = [] := Decidable.not_not.mp (mt (c.passes_read_iff hb).mpr hstop)
    have hrest : (c.read b).rest.left = [] :=
      (List.append_eq_nil_iff.mp ((c.left_eq_brought_append b).symm.trans hnil)).2
    exact ⟨congrArg Except.ok hnil, hrest⟩

end Cursor

/-! ## Handles -/

namespace Handle

/-- All that can be read from what a path led to, or its refusal to be read. -/
def holds : Handle → Except Failure (List UInt8)
  | file c => .ok c.left
  | input c => .ok c.left
  | directory => .error (.system .isADirectory)
  | stream s _ => Script.held s.events

/-- What is left of standard input, if a path led to it. -/
def inputLeft? : Handle → Option (List UInt8)
  | input c => some c.left
  | _ => none

/-- The course of what a path led to, of which standard input can be seen. -/
def settled : Reader.Settled Handle (Option (List UInt8)) where
  sound _ := True
  holds := holds
  view := inputLeft?
  final h := h.inputLeft?.map fun _ => []
  size {h} b _ := by
    cases h with
    | file c => rfl
    | input c => rfl
    | directory => rfl
    | stream s honest => exact s.size_read b
  fits {h b n} _ hout := by
    cases h with
    | file c => exact Cursor.settled.fits (s := c) trivial hout
    | input c => exact Cursor.settled.fits (s := c) trivial hout
    | directory => cases hout
    | stream s honest => exact Script.settled.fits (s := s) honest hout
  passing {h b} _ hb hpasses := by
    cases h with
    | file c => exact ⟨trivial, (Cursor.settled.passing (s := c) trivial hb hpasses).2.1, rfl⟩
    | input c => exact ⟨trivial, (Cursor.settled.passing (s := c) trivial hb hpasses).2.1, rfl⟩
    | directory => cases hpasses
    | stream s honest =>
      exact ⟨trivial, (Script.settled.passing (s := s) honest hb hpasses).2.1, rfl⟩
  deciding {h b} _ hb hstop := by
    cases h with
    | file c => exact ⟨(Cursor.settled.deciding (s := c) trivial hb hstop).1, rfl⟩
    | input c =>
      obtain ⟨hholds, hleft⟩ := Cursor.settled.deciding (s := c) trivial hb hstop
      exact ⟨hholds, congrArg some hleft⟩
    | directory => exact ⟨rfl, rfl⟩
    | stream s honest => exact ⟨(Script.settled.deciding (s := s) honest hb hstop).1, rfl⟩

end Handle

/-! ## Files -/

namespace Calculator

variable (c : Calculator)

theorem result_drainFile (opener : Opener) (path : String) {b : Buffer} (hb : b.size ≠ 0) :
    (c.drainFile opener path b).result =
      ((opener path >>= Handle.holds).map c.checksum).mapError .stream := by
  unfold drainFile
  rw [if_neg hb]
  cases opener path with
  | error f => rfl
  | ok handle => exact (c.drain_of_settled Handle.settled trivial hb).1

/-- A path has the same checksum through a buffer of the size that is set. -/
theorem result_drainPath (p : Surroundings) (opener : Opener) (path : String)
    (hsize : (Settings.ofEnvironment p.environment).fileBuffer ≤ Buffer.largest) :
    (c.drainPath p opener path).1.map Filed.result =
      some (((opener path >>= Handle.holds).map c.checksum).mapError .stream) := by
  have hblank : Buffer.blank? (Settings.ofEnvironment p.environment).fileBuffer = some _ :=
    if_pos hsize
  have hfiled := c.result_drainFile opener path
    (b := .blank (Settings.ofEnvironment p.environment).fileBuffer)
    (Settings.fileBuffer_ofEnvironment_ne_zero p.environment)
  have hpath : (c.drainPath p opener path).1.map Filed.result =
      (Buffer.blank? (Settings.ofEnvironment p.environment).fileBuffer).map fun b =>
        (c.drainFile opener path b).result := Option.map_map ..
  rw [hpath, hblank, Option.map_some, hfiled]

end Calculator

/-- The first outcome of a reader that is neither an interruption nor some bytes for which there was
room decides how a drain ends, and nothing is read after it. There always is one, and the result is
the checksum of all the bytes before it if it is the end, and else its failure, or the failure of
overrunning. So the size of the buffer plays no part if a reader makes no claims of its own; and a
file has the checksum of its bytes, through any buffer with room, be it the caller's or the one that
is set. A buffer without room is refused, and only such a one, before the path is looked at. -/
theorem Calculator.drain_follows_decision (c : Calculator) :
    (∀ {σ : Type} [Reader σ] (s : σ) (b : Buffer), b.size ≠ 0 →
        (∃ bytes last, Reader.Decided s b bytes last) ∧
          ∀ bytes last, Reader.Decided s b bytes last →
            (c.drain s b).result = verdict (c.checksum bytes) last.outcome ∧
              (∀ checksum, (c.drain s b).result = .ok checksum ↔
                last.outcome = .ok 0 ∧ checksum = c.checksum bytes) ∧
              (c.drain s b).rest = last.rest) ∧
      (∀ s : Script, s.Honest → ∀ b : Buffer, b.size ≠ 0 →
        (c.drain s b).result = ((Script.held s.events).map c.checksum).mapError .stream ∧
          (c.drain s b).rest.events = Script.behind s.events) ∧
      (∀ (opener : Opener) (path : String) (b : Buffer),
        ((c.drainFile opener path b).result = .error .emptyBuffer ↔ b.size = 0) ∧
          (b.size = 0 → c.drainFile opener path b =
            { result := .error .emptyBuffer, notices := [], buffer := b, handle := none }) ∧
          (b.size ≠ 0 → (c.drainFile opener path b).result =
            ((opener path >>= Handle.holds).map c.checksum).mapError .stream)) ∧
      ∀ (p : Surroundings) (opener : Opener) (path : String),
        (Settings.ofEnvironment p.environment).fileBuffer ≤ Buffer.largest →
          (c.drainPath p opener path).1.map Filed.result =
            some (((opener path >>= Handle.holds).map c.checksum).mapError .stream) := by
  refine ⟨fun {σ} _ s b hb => ⟨Reader.exists_decided s b, fun bytes last hdecided => ?_⟩,
    fun s hs b hb => ?_, fun opener path b => ?_, c.result_drainPath⟩
  · obtain ⟨hresult, -, hrest, -⟩ := c.drain_of_decided hb hdecided
    refine ⟨hresult, fun checksum => ?_, hrest⟩
    rw [hresult]
    rcases last.outcome with f | (_ | n)
    · simp [verdict]
    · simp [verdict, eq_comm]
    · simp [verdict]
  · obtain ⟨hresult, -, hevents, -⟩ := c.drain_of_settled Script.settled hs hb
    exact ⟨hresult, hevents⟩
  · by_cases hb : b.size = 0
    · have hempty : c.drainFile opener path b =
          { result := .error .emptyBuffer, notices := [], buffer := b, handle := none } :=
        if_pos hb
      rw [hempty]
      exact ⟨⟨fun _ => hb, fun _ => rfl⟩, fun _ => rfl, fun h => absurd hb h⟩
    · have hresult := c.result_drainFile opener path hb
      refine ⟨⟨fun h => ?_, fun h => absurd h hb⟩, fun h => absurd h hb, fun _ => hresult⟩
      rw [hresult] at h
      cases hholds : opener path >>= Handle.holds with
      | error f =>
        rw [hholds] at h
        cases h
      | ok bytes =>
        rw [hholds] at h
        cases h

/-- The interruption is passed over, and the delivery of nothing decides. What comes after it is not
read. -/
theorem Calculator.drain_follows_decision_crc16Arc :
    let e := Calculator.ofAlgorithm Catalogue.crc16Arc .nibbleTable
    let s : Script := { events :=
      [.deliver [1, 2, 3], .fail (.reported .interrupted "again"), .deliver [4], .deliver [],
        .deliver [5]] }
    let opener : Opener := fun _ => .ok (.file (.ofList [1, 2, 3, 4]))
    (Buffer.blank 2).size ≠ 0 ∧ s.Honest ∧
      (∃ bytes last, Reader.Decided s (.blank 2) bytes last ∧
        (e.drain s (.blank 2)).result = verdict (e.checksum bytes) last.outcome) ∧
      (e.drain s (.blank 2)).result = .ok (e.checksum [1, 2, 3, 4]) ∧
      (e.drain s (.blank 2)).rest.events = [.deliver [5]] ∧
      (e.drainFile opener "four" (.blank 2)).result = .ok (e.checksum [1, 2, 3, 4]) ∧
      (Settings.ofEnvironment .empty).fileBuffer ≤ Buffer.largest ∧
      (e.drainPath (.start .empty) opener "four").1.map Filed.result =
        some (.ok (e.checksum [1, 2, 3, 4])) := by
  intro e s opener
  have hb : (Buffer.blank 2).size ≠ 0 := by decide
  have hs : ∀ event ∈ s.events, event.isClaim = false := by decide
  have hsize : (Settings.ofEnvironment .empty).fileBuffer ≤ Buffer.largest := by decide
  obtain ⟨hreader, hscript, hfile, hpath⟩ := drain_follows_decision e
  obtain ⟨⟨bytes, last, hdecided⟩, hresult⟩ := hreader s _ hb
  exact ⟨hb, hs, ⟨bytes, last, hdecided, (hresult bytes last hdecided).1⟩, (hscript s hs _ hb).1,
    (hscript s hs _ hb).2, (hfile opener "four" _).2.2 hb, hsize, hpath (.start .empty) _ _ hsize⟩

end CyclicRedundancy
