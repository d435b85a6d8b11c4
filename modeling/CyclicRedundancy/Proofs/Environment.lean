import CyclicRedundancy.Proofs.Decimal
import CyclicRedundancy.Proofs.Inputs
import CyclicRedundancy.Proofs.Naming

/-!
# The environment

What the two variables of the environment do. Each overrides its own setting if its text, blanks at
the ends apart, is a name of a method or a written count; otherwise the setting stays what it is
without the variable. A buffer of the size that is set always has room, and so has one whose size is
an option of the command. So a buffer without room, which is refused wherever bytes are read, is met
neither by a checksum of a path nor by any run of the command.
-/

namespace CyclicRedundancy

namespace Settings

/-! ## Variables -/

/-- A variable is set to the bytes of a text. -/
def HasText (environment : Environment) (key text : String) : Prop :=
  environment key = some (Text.Utf8.encode text)

/-- An environment names a method. -/
def NamesMethod (environment : Environment) (method : Method) : Prop :=
  ∃ text, HasText environment methodVariable text ∧
    ∃ name ∈ method.spellings, Text.Means text name

/-- An environment gives the size of a buffer: a written count, with blanks around it or without,
that fits in a word. -/
def GivesBuffer (environment : Environment) (size : Nat) : Prop :=
  ∃ text core, HasText environment fileBufferVariable text ∧ Text.Stripped text.toList core ∧
    Text.Decimal.Writes core size ∧ size < 2 ^ 64

namespace Requested

theorem text?_congr {environment environment' : Environment} {key : String}
    (h : environment key = environment' key) : text? environment key = text? environment' key := by
  rw [text?, h, text?]

theorem text?_eq_some_iff {environment : Environment} {key text : String} :
    text? environment key = some text ↔ HasText environment key text := by
  rw [text?, HasText, Option.bind_eq_bind, Option.bind_eq_some_iff]
  simp only [Text.Utf8.decode?_eq_some_iff, exists_eq_right]

theorem method_ofEnvironment_eq_some_iff {environment : Environment} {method : Method} :
    (ofEnvironment environment).method = some method ↔ NamesMethod environment method := by
  show (text? environment methodVariable >>= Method.parse?) = some method ↔ _
  rw [Option.bind_eq_bind, Option.bind_eq_some_iff]
  simp only [text?_eq_some_iff, Method.parse?_eq_some_iff]
  exact Iff.rfl

theorem fileBuffer_ofEnvironment_eq_some_iff {environment : Environment} {size : Nat} :
    (ofEnvironment environment).fileBuffer = some size ↔ GivesBuffer environment size := by
  show (text? environment fileBufferVariable >>= fun text =>
    Text.Decimal.read? Text.Decimal.wordLimit (Text.trim text.toList)) = some size ↔ _
  rw [Option.bind_eq_bind, Option.bind_eq_some_iff]
  simp only [text?_eq_some_iff, Text.Decimal.read?_eq_some_iff]
  constructor
  · rintro ⟨text, htext, hwrites, hlt⟩
    exact ⟨text, _, htext, Text.stripped_trim _, hwrites, hlt⟩
  · rintro ⟨text, core, htext, hcore, hwrites, hlt⟩
    rw [← hcore.trim_eq] at hwrites
    exact ⟨text, htext, hwrites, hlt⟩

end Requested

/-! ## Settings -/

variable {environment : Environment}

theorem method_of_names {method : Method} (h : NamesMethod environment method) :
    (ofEnvironment environment).method = method := by
  have hrequested := Requested.method_ofEnvironment_eq_some_iff.mpr h
  rw [ofEnvironment, Requested.apply, hrequested]
  rfl

theorem method_of_names_none (h : ∀ method, ¬ NamesMethod environment method) :
    (ofEnvironment environment).method = .byteTable := by
  have hrequested : (Requested.ofEnvironment environment).method = none :=
    Option.eq_none_iff_forall_ne_some.mpr fun method hmethod =>
      h method (Requested.method_ofEnvironment_eq_some_iff.mp hmethod)
  rw [ofEnvironment, Requested.apply, hrequested]
  rfl

theorem fileBuffer_of_gives {size : Nat} (h : GivesBuffer environment size) :
    (ofEnvironment environment).fileBuffer = max 1 size := by
  have hrequested := Requested.fileBuffer_ofEnvironment_eq_some_iff.mpr h
  rw [ofEnvironment, Requested.apply, hrequested]
  rfl

theorem fileBuffer_of_gives_none (h : ∀ size, ¬ GivesBuffer environment size) :
    (ofEnvironment environment).fileBuffer = 4096 := by
  have hrequested : (Requested.ofEnvironment environment).fileBuffer = none :=
    Option.eq_none_iff_forall_ne_some.mpr fun size hsize =>
      h size (Requested.fileBuffer_ofEnvironment_eq_some_iff.mp hsize)
  rw [ofEnvironment, Requested.apply, hrequested]
  rfl

theorem method_congr {environment' : Environment}
    (h : environment methodVariable = environment' methodVariable) :
    (ofEnvironment environment).method = (ofEnvironment environment').method := by
  simp only [ofEnvironment, Requested.apply, Requested.ofEnvironment, Requested.text?_congr h]

theorem fileBuffer_congr {environment' : Environment}
    (h : environment fileBufferVariable = environment' fileBufferVariable) :
    (ofEnvironment environment).fileBuffer = (ofEnvironment environment').fileBuffer := by
  simp only [ofEnvironment, Requested.apply, Requested.ofEnvironment, Requested.text?_congr h]

end Settings

/-! ## Checksums through a buffer with room -/

/-- A result that is a checksum or the failure of a stream. -/
def Error.OfStream (result : Except Error UInt64) : Prop :=
  ∀ error, result = .error error → ∃ failure, error = .stream failure

theorem Error.ofStream_mapError (result : Except Failure UInt64) :
    OfStream (result.mapError .stream) := by
  intro error h
  cases result with
  | error failure => exact ⟨failure, (Except.error.inj h).symm⟩
  | ok checksum => cases h

namespace Calculator

variable (c : Calculator)

theorem ofStream_drainFile (opener : Opener) (path : String) {b : Buffer} (hb : b.size ≠ 0) :
    Error.OfStream (c.drainFile opener path b).result := by
  rw [c.result_drainFile opener path hb]
  exact Error.ofStream_mapError _

theorem ofStream_drainPath {p : Surroundings} {opener : Opener} {path : String} {filed : Filed}
    (h : (c.drainPath p opener path).1 = some filed) : Error.OfStream filed.result := by
  have hroom := Settings.fileBuffer_ofEnvironment_ne_zero p.environment
  obtain ⟨b, hb, rfl⟩ := Option.map_eq_some_iff.mp h
  exact c.ofStream_drainFile opener path (by rw [Buffer.size_of_blank? hb]; exact hroom)

end Calculator

namespace Catalogue

theorem firstError?_ne_emptyBuffer {es : List Entry} {error : Error}
    (h : firstError? es = some error) : error ≠ .emptyBuffer := by
  obtain ⟨entry, -, hentry⟩ := List.exists_of_findSome?_eq_some h
  unfold Calculator.verify at hentry
  split at hentry
  next => cases hentry
  next failed hverify =>
    cases hentry
    split at hverify
    · cases hverify
    · cases hverify
      exact Error.noConfusion

theorem test_eq_error_iff (es : List Entry) (error : Error) :
    (test es).1 = .error error ↔ firstError? es = some error := by
  unfold test
  cases firstError? es <;> simp

/-- A test fails only by a check value that is not reproduced. -/
theorem selfTest_ne_emptyBuffer {error : Error} (h : selfTest.1 = .error error) :
    error ≠ .emptyBuffer := by
  rw [selfTest, test_eq_error_iff] at h
  exact firstError?_ne_emptyBuffer h

end Catalogue

namespace Command

variable (c : Calculator) (opener : Cursor → Calculator.Opener)

/-- What becomes of one input; the buffer keeps its room for the others. -/
theorem ofStream_visit {s : Shared} (hb : s.buffer.size ≠ 0) (name : String) :
    Error.OfStream (visit c opener s name).1.result ∧
      (visit c opener s name).2.buffer.size = s.buffer.size := by
  unfold visit
  by_cases hname : name = "-"
  · rw [if_pos hname]
    obtain ⟨hresult, hsize, -, -⟩ := c.drain_of_settled Cursor.settled (s := s.input) trivial hb
    refine ⟨?_, hsize⟩
    dsimp only
    rw [hresult]
    exact Error.ofStream_mapError _
  · rw [if_neg hname]
    exact ⟨c.ofStream_drainFile _ name hb, (c.drainFile_of_room _ name hb s.input).2.1⟩

/-- What becomes of all inputs, by induction on them: each leaves a buffer with room to the next. -/
theorem ofStream_visitAll {s : Shared} (hb : s.buffer.size ≠ 0) (names : List String) :
    ∀ v ∈ visitAll c opener s names, Error.OfStream v.result := by
  induction names generalizing s with
  | nil =>
    intro v hv
    cases hv
  | cons name names ih =>
    obtain ⟨hresult, hsize⟩ := ofStream_visit c opener hb name
    have hroom : (visit c opener s name).2.buffer.size ≠ 0 := by
      rw [hsize]
      exact hb
    intro v hv
    have hcases : v = (visit c opener s name).1 ∨
        v ∈ visitAll c opener (visit c opener s name).2 names := List.mem_cons.mp hv
    rcases hcases with rfl | hlater
    · exact hresult
    · exact ih hroom v hlater

/-! ## Errors of a run -/

/-- The errors that a run meets after its arguments are accepted: in the test, in the look-up of the
algorithm, and with an input. -/
inductive Meets (w : World) (arguments : List String) : Error → Prop
  | test {o : Options} {error : Error} : Options.ofArguments arguments = .ok o →
      o.list = false → o.selfTest = true → Catalogue.selfTest.1 = .error error →
      Meets w arguments error
  | lookUp {o : Options} {error : Error} : Options.ofArguments arguments = .ok o →
      o.list = false → o.selfTest = false → Catalogue.find o.algorithm = .error error →
      Meets w arguments error
  | input {o : Options} {a : Algorithm} {visited : List Visited} {v : Visited} {error : Error} :
      Options.ofArguments arguments = .ok o → o.list = false → o.selfTest = false →
      Catalogue.find o.algorithm = .ok a → visits? w o a = some visited → v ∈ visited →
      v.result = .error error → Meets w arguments error

variable {w : World} {arguments : List String}

theorem Meets.ne_emptyBuffer {error : Error} (h : Meets w arguments error) :
    error ≠ .emptyBuffer := by
  cases h with
  | test _ _ _ htest => exact Catalogue.selfTest_ne_emptyBuffer htest
  | lookUp _ _ _ hfind =>
    rw [((Catalogue.find_eq_error_iff _ _).mp hfind).2]
    exact Error.noConfusion
  | input ho _ _ _ hvisited hv hresult =>
    have hroom := Options.room_ne_zero (Options.buffer_ofArguments_ne_zero ho) w.environment
    obtain ⟨b, hb, rfl⟩ := Option.map_eq_some_iff.mp hvisited
    rw [← Buffer.size_of_blank? hb] at hroom
    obtain ⟨failure, rfl⟩ := ofStream_visitAll _ _ hroom _ _ hv _ hresult
    exact Error.noConfusion

/-! ## Reports -/

/-- A line of a report words an error: that of a test, or that of an input or an algorithm under its
name. -/
def Words (text : String) (error : Error) : Prop :=
  text = "crcsum self-test failed: " ++ error.message ∨ ∃ name, text = complaint name error

/-- All complaints of a report word errors of some kind, it lacks success only for such an error,
and it is broken off only for want of a buffer that would be too large. -/
structure Report.Accounts (r : Report) (P : Error → Prop) : Prop where
  complaints : ∀ text ∈ r.complaints, ∃ error, P error ∧ Words text error
  failure : r.ending = .failure → ∃ error, P error
  panic : ∀ message, r.ending = .panic message → message = Buffer.tooLarge

theorem accounts_of_success (lines : List String) (P : Error → Prop) :
    Report.Accounts { output := lines, ending := .success } P where
  complaints := nofun
  failure := nofun
  panic := nofun

theorem accounts_of_error {P : Error → Prop} {error : Error} {text : String} (herror : P error)
    (htext : Words text error) :
    Report.Accounts { complaints := [text], ending := .failure } P where
  complaints := by
    intro line hline
    rw [List.mem_singleton.mp hline]
    exact ⟨error, herror, htext⟩
  failure := fun _ => ⟨error, herror⟩
  panic := nofun

theorem accounts_of_panic (P : Error → Prop) :
    Report.Accounts { ending := .panic Buffer.tooLarge } P where
  complaints := nofun
  failure := nofun
  panic := by
    intro message h
    cases h
    rfl

theorem accounts_testReport {tested : Except Error Nat} {P : Error → Prop}
    (h : ∀ error, tested = .error error → P error) : (testReport tested).Accounts P := by
  cases tested with
  | ok entries => exact accounts_of_success _ P
  | error error => exact accounts_of_error (h error rfl) (.inl rfl)

theorem accounts_summary (bits : Nat) {visited : List Visited} {P : Error → Prop}
    (h : ∀ v ∈ visited, ∀ error, v.result = .error error → P error) :
    (summary bits visited).Accounts P where
  complaints := by
    intro text htext
    obtain ⟨v, hv, hcomplaint⟩ := List.mem_filterMap.mp htext
    unfold Visited.complaint? at hcomplaint
    split at hcomplaint
    next => cases hcomplaint
    next error hresult =>
      cases hcomplaint
      exact ⟨error, h v hv error hresult, .inr ⟨v.name, rfl⟩⟩
  failure := by
    intro hfailure
    have hall : ¬ visited.all (·.complaint?.isNone) = true := by
      intro hall
      rw [summary, if_pos hall] at hfailure
      cases hfailure
    obtain ⟨v, hv, hcomplaint⟩ := List.all_eq_false.mp (Bool.of_not_eq_true hall)
    unfold Visited.complaint? at hcomplaint
    split at hcomplaint
    next => exact absurd rfl hcomplaint
    next error hresult => exact ⟨error, h v hv error hresult⟩
  panic := by
    intro message hpanic
    unfold summary at hpanic
    dsimp only at hpanic
    split at hpanic <;> cases hpanic

/-- If the arguments are accepted, a run complains of nothing but the errors that it meets. -/
theorem accounts_run {o : Options} (ho : Options.ofArguments arguments = .ok o) (w : World) :
    (run w arguments).Accounts (Meets w arguments) := by
  rw [run, ho]
  dsimp only
  cases hlist : o.list with
  | true =>
    rw [if_pos rfl]
    exact accounts_of_success _ _
  | false =>
    rw [if_neg Bool.false_ne_true]
    cases htest : o.selfTest with
    | true =>
      rw [if_pos rfl]
      exact accounts_testReport fun error => .test ho hlist htest
    | false =>
      rw [if_neg Bool.false_ne_true, sum]
      cases hfind : Catalogue.find o.algorithm with
      | error error => exact accounts_of_error (.lookUp ho hlist htest hfind) (.inr ⟨_, rfl⟩)
      | ok a =>
        dsimp only
        cases hvisited : visits? w o a with
        | none => exact accounts_of_panic _
        | some visited =>
          exact accounts_summary _ fun v hv error hresult =>
            .input ho hlist htest hfind hvisited hv hresult

end Command

open Settings Command

/-- Each variable asks for a value of its own setting exactly if its text, without the blanks at its
ends, is a name of a method or a written count. The setting is then that value, a buffer without
room apart, which gets room for one byte; otherwise it is the usual one. The other variable has no
part in it. So the buffer for files has room, no checksum of a path fails for want of it, and no run
of the command meets that error, whatever the arguments and the environment: the errors that it
does meet are all that it complains of. -/
theorem Surroundings.settings_give_room (p : Surroundings) :
    ((∀ method, (Requested.ofEnvironment p.environment).method = some method ↔
          NamesMethod p.environment method) ∧
        (∀ method, NamesMethod p.environment method → p.settings.1.method = method) ∧
        ((∀ method, ¬ NamesMethod p.environment method) → p.settings.1.method = .byteTable) ∧
        ∀ q : Surroundings, p.environment methodVariable = q.environment methodVariable →
          p.settings.1.method = q.settings.1.method) ∧
      ((∀ size, (Requested.ofEnvironment p.environment).fileBuffer = some size ↔
          GivesBuffer p.environment size) ∧
        (∀ size, GivesBuffer p.environment size → p.settings.1.fileBuffer = max 1 size) ∧
        ((∀ size, ¬ GivesBuffer p.environment size) → p.settings.1.fileBuffer = 4096) ∧
        ∀ q : Surroundings, p.environment fileBufferVariable = q.environment fileBufferVariable →
          p.settings.1.fileBuffer = q.settings.1.fileBuffer) ∧
      1 ≤ p.settings.1.fileBuffer ∧
      (∀ (c : Calculator) (opener : Calculator.Opener) (path : String) (filed : Calculator.Filed),
        (c.drainPath p opener path).1 = some filed → filed.result ≠ .error .emptyBuffer) ∧
      ∀ (w : World) (arguments : List String),
        (∀ error, Meets w arguments error → error ≠ .emptyBuffer) ∧
          ∀ o, Options.ofArguments arguments = .ok o →
            (run w arguments).Accounts (Meets w arguments) := by
  refine ⟨⟨fun _ => Requested.method_ofEnvironment_eq_some_iff, fun _ => method_of_names,
      method_of_names_none, fun _ => method_congr⟩,
    ⟨fun _ => Requested.fileBuffer_ofEnvironment_eq_some_iff, fun _ => fileBuffer_of_gives,
      fileBuffer_of_gives_none, fun _ => fileBuffer_congr⟩,
    Nat.pos_of_ne_zero (fileBuffer_ofEnvironment_ne_zero p.environment), ?_, ?_⟩
  · intro c opener path filed hfiled hempty
    obtain ⟨failure, hfailure⟩ := c.ofStream_drainPath hfiled .emptyBuffer hempty
    cases hfailure
  · exact fun w arguments => ⟨fun error => Meets.ne_emptyBuffer, fun o ho => accounts_run ho w⟩

/-- A name in capitals and a zero, each with blanks around it; the name alone; and an input that
cannot be opened, through a buffer for one byte. -/
theorem Surroundings.settings_give_room_nibble :
    let named : Environment := fun key =>
      if key = methodVariable then some (Text.Utf8.encode " NIBBLE\n") else none
    let environment : Environment := fun key =>
      if key = fileBufferVariable then some (Text.Utf8.encode "\u00a0+00 ") else named key
    let p : Surroundings := .start environment
    let failure : Failure := .system .notFound
    let c : Calculator := .ofAlgorithm Catalogue.crc32IsoHdlc .nibbleTable
    let w : World := { environment, opener := fun _ _ => .error failure, input := [] }
    NamesMethod environment .nibbleTable ∧ p.settings.1.method = .nibbleTable ∧
      GivesBuffer environment 0 ∧ p.settings.1.fileBuffer = 1 ∧
      p.settings.1.method = (Surroundings.start named).settings.1.method ∧
      (Surroundings.start named).settings.1.fileBuffer = 4096 ∧
      (Surroundings.start .empty).settings.1.method = .byteTable ∧
      (∃ filed, (c.drainPath p (fun _ => .error failure) "absent").1 = some filed ∧
        filed.result ≠ .error .emptyBuffer) ∧
      Meets w ["-b", "1", "absent"] (.stream failure) ∧ Error.stream failure ≠ .emptyBuffer ∧
      (run w ["-b", "1", "absent"]).Accounts (Meets w ["-b", "1", "absent"]) := by
  intro named environment p failure c w
  obtain ⟨⟨-, hmethod, -, hsame⟩, ⟨-, hbuffer, -, -⟩, -, hpath, hrun⟩ := settings_give_room p
  obtain ⟨-, ⟨-, -, hunset, -⟩, -⟩ := settings_give_room (.start named)
  obtain ⟨⟨-, -, hstandard, -⟩, -⟩ := settings_give_room (.start .empty)
  have hnames : NamesMethod environment .nibbleTable :=
    ⟨" NIBBLE\n", rfl, "nibble", by decide, (Text.spells_iff _ _).mp (by decide +kernel)⟩
  have hgives : GivesBuffer environment 0 :=
    ⟨"\u00a0+00 ", "+00".toList, rfl, Text.trim_eq_iff.mp (by decide +kernel),
      ⟨1, .inr (by decide +kernel)⟩, by decide⟩
  have hoptions : Options.ofArguments ["-b", "1", "absent"] =
      .ok { buffer := some 1, files := ["absent"] } := by decide +kernel
  have hfind : Catalogue.find Catalogue.crc32IsoHdlc.name = .ok Catalogue.crc32IsoHdlc :=
    (Catalogue.find_eq_ok_iff _ _).mpr (Catalogue.find?_name (by decide +kernel))
  have hmeets : Meets w ["-b", "1", "absent"] (.stream failure) :=
    .input hoptions rfl rfl hfind rfl List.mem_cons_self rfl
  refine ⟨hnames, hmethod _ hnames, hgives, hbuffer _ hgives, hsame (.start named) rfl, ?_, ?_,
    ⟨_, rfl, hpath c _ "absent" _ rfl⟩, hmeets, (hrun _ _).1 _ hmeets, (hrun w _).2 _ hoptions⟩
  · apply hunset
    rintro size ⟨text, core, htext, -⟩
    cases htext
  · apply hstandard
    rintro method ⟨text, htext, -⟩
    cases htext

end CyclicRedundancy
