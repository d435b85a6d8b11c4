import Mathlib.Algebra.Group.Nat.Defs
import CyclicRedundancy.Command.Options
import CyclicRedundancy.Proofs.Decimal

/-!
# The grammar of the command

Which arguments the command accepts, and what they state. Arguments are accepted if they are items,
one after another, and possibly two dashes with anything after them. An item is a mark, a mark and
its value, or the name of an input. All other arguments have a first place, after some items, where
no item can be read, and that place tells why they are refused.
-/

namespace CyclicRedundancy.Command

/-! ## Marks -/

/-- The arguments that are known as a mark. -/
def Mark.spellings : Mark → List String
  | ending => ["--"]
  | list => ["-l", "--list"]
  | selfTest => ["--self-test"]
  | algorithm => ["-a", "--algorithm"]
  | method => ["-s", "--strategy"]
  | buffer => ["-b", "--buffer"]
  | help => ["-h", "--help"]
  | unknown | file => []

/-- The name of an input: one dash alone, or anything that does not start with a dash. -/
def NamesInput (argument : String) : Prop := argument = "-" ∨ argument.toList.head? ≠ some '-'

theorem not_namesInput_iff (argument : String) :
    ¬ NamesInput argument ↔ argument.toList.head? = some '-' ∧ argument ≠ "-" := by
  rw [NamesInput, not_or, not_not, and_comm]

/-- No argument is known as two marks, and none that is known as a mark names an input. -/
theorem Mark.of_mem_spellings {mark : Mark} {argument : String} (h : argument ∈ mark.spellings) :
    Mark.of argument = mark ∧ ¬ NamesInput argument := by
  have hspellings : ∀ mark ∈ [ending, list, selfTest, algorithm, method, buffer, help, unknown,
      file], ∀ argument ∈ mark.spellings, Mark.of argument = mark ∧
        argument.toList.head? = some '-' ∧ argument ≠ "-" := by decide
  obtain ⟨hof, hdash⟩ := hspellings mark (by cases mark <;> decide) argument h
  exact ⟨hof, (not_namesInput_iff argument).mpr hdash⟩

/-- What an argument is taken for: the mark that it is known as, the name of an input, or what is
neither. -/
inductive Mark.Explains (argument : String) : Mark → Prop
  | known {mark : Mark} : argument ∈ mark.spellings → Explains argument mark
  | file : NamesInput argument → Explains argument .file
  | unknown : ¬ NamesInput argument → Explains argument .unknown

theorem Mark.explains_of (argument : String) : Explains argument (Mark.of argument) := by
  unfold Mark.of
  split_ifs with hending hlist hselfTest halgorithm hmethod hbuffer hhelp hunknown
  · exact .known (by simp [spellings, hending])
  · exact .known (by simpa [spellings, or_comm] using hlist)
  · exact .known (by simp [spellings, hselfTest])
  · exact .known (by simpa [spellings, or_comm] using halgorithm)
  · exact .known (by simpa [spellings, or_comm] using hmethod)
  · exact .known (by simpa [spellings, or_comm] using hbuffer)
  · exact .known (by simpa [spellings, or_comm] using hhelp)
  · exact .unknown ((not_namesInput_iff argument).mpr hunknown)
  · exact .file (not_not.mp (mt (not_namesInput_iff argument).mp hunknown))

theorem Mark.of_namesInput {argument : String} (h : NamesInput argument) :
    Mark.of argument = .file := by
  have hexplains := explains_of argument
  generalize Mark.of argument = mark at hexplains ⊢
  cases hexplains with
  | known hmem => exact absurd h (of_mem_spellings hmem).2
  | file => rfl
  | unknown hnot => exact absurd h hnot

theorem Mark.of_unknown {argument : String} (hnot : ¬ NamesInput argument)
    (hnone : ∀ mark : Mark, argument ∉ mark.spellings) : Mark.of argument = .unknown := by
  have hexplains := explains_of argument
  generalize Mark.of argument = mark at hexplains ⊢
  cases hexplains with
  | known hmem => exact absurd hmem (hnone mark)
  | file h => exact absurd h hnot
  | unknown => rfl

/-! ## Sizes of a buffer -/

theorem bufferSize_of_writes {value : String} {size : Nat}
    (h : Text.Decimal.Writes value.toList size) (hlt : size < 2 ^ 64) :
    bufferSize value = if size = 0 then .error .emptyBuffer else .ok size := by
  have hread : Text.Decimal.read? Text.Decimal.wordLimit value.toList = some size :=
    Text.Decimal.read?_eq_some_iff.mpr ⟨h, hlt⟩
  rw [bufferSize, hread]
  cases size <;> rfl

theorem bufferSize_of_not_writes {value : String}
    (h : ∀ size < 2 ^ 64, ¬ Text.Decimal.Writes value.toList size) :
    bufferSize value = .error (.invalidBuffer value) := by
  have hread : Text.Decimal.read? Text.Decimal.wordLimit value.toList = none := by
    refine Option.eq_none_iff_forall_ne_some.mpr fun size hsize => ?_
    obtain ⟨hwrites, hlt⟩ := Text.Decimal.read?_eq_some_iff.mp hsize
    exact h size hlt hwrites
  rw [bufferSize, hread]

/-! ## Items -/

/-- What arguments state, one thing at a time: a list or a test is asked for, an algorithm, a method
or the size of the scratch buffer is chosen, an input is named. -/
inductive Item where
  | list
  | selfTest
  | algorithm (name : String)
  | method (method : Method)
  | buffer (size : Nat)
  | file (name : String)
  deriving DecidableEq

namespace Item

/-- The arguments that write an item. -/
inductive Writes : Item → List String → Prop
  | list {mark : String} : mark ∈ Mark.list.spellings → Writes list [mark]
  | selfTest {mark : String} : mark ∈ Mark.selfTest.spellings → Writes selfTest [mark]
  | algorithm {mark name : String} :
      mark ∈ Mark.algorithm.spellings → Writes (algorithm name) [mark, name]
  | method {mark value : String} {chosen : Method} :
      mark ∈ Mark.method.spellings → Method.parse? value = some chosen →
        Writes (method chosen) [mark, value]
  | buffer {mark value : String} {size : Nat} :
      mark ∈ Mark.buffer.spellings → Text.Decimal.Writes value.toList size → 1 ≤ size →
        size < 2 ^ 64 → Writes (buffer size) [mark, value]
  | file {name : String} : NamesInput name → Writes (file name) [name]

/-- The algorithm that an item names. -/
def algorithm? : Item → Option String
  | algorithm name => some name
  | _ => none

/-- The method that an item chooses. -/
def method? : Item → Option Method
  | method chosen => some chosen
  | _ => none

/-- The size that an item chooses. -/
def buffer? : Item → Option Nat
  | buffer size => some size
  | _ => none

/-- The input that an item names. -/
def file? : Item → Option String
  | file name => some name
  | _ => none

end Item

/-- Arguments begin with items, one after another, and some arguments are left. -/
inductive Begins : List Item → List String → List String → Prop
  | nil {left : List String} : Begins [] left left
  | cons {item : Item} {items : List Item} {written rest left : List String} :
      item.Writes written → Begins items rest left → Begins (item :: items) (written ++ rest) left

/-- Arguments are accepted: they are items, and possibly two dashes and other arguments. -/
def Sentence (items : List Item) (others arguments : List String) : Prop :=
  Begins items arguments [] ∧ others = [] ∨ Begins items arguments ("--" :: others)

/-- Arguments start with what is no item, for a reason that they are refused. -/
inductive Offends : List String → Refusal → Prop
  | help {mark : String} {rest : List String} :
      mark ∈ Mark.help.spellings → Offends (mark :: rest) .help
  | noAlgorithm {mark : String} :
      mark ∈ Mark.algorithm.spellings → Offends [mark] (.missingValue "--algorithm")
  | noMethod {mark : String} :
      mark ∈ Mark.method.spellings → Offends [mark] (.missingValue "--strategy")
  | noBuffer {mark : String} :
      mark ∈ Mark.buffer.spellings → Offends [mark] (.missingValue "--buffer")
  | unknownMethod {mark value : String} {rest : List String} :
      mark ∈ Mark.method.spellings → Method.parse? value = none →
        Offends (mark :: value :: rest) (.unknownMethod value)
  | emptyBuffer {mark value : String} {rest : List String} :
      mark ∈ Mark.buffer.spellings → Text.Decimal.Writes value.toList 0 →
        Offends (mark :: value :: rest) .emptyBuffer
  | invalidBuffer {mark value : String} {rest : List String} :
      mark ∈ Mark.buffer.spellings → (∀ size < 2 ^ 64, ¬ Text.Decimal.Writes value.toList size) →
        Offends (mark :: value :: rest) (.invalidBuffer value)
  | unknownArgument {argument : String} {rest : List String} :
      ¬ NamesInput argument → (∀ mark : Mark, argument ∉ mark.spellings) →
        Offends (argument :: rest) (.unknownArgument argument)

/-! ## Reading items -/

namespace Options

/-- The options after one more item. -/
def take (o : Options) : Item → Options
  | .list => { o with list := true }
  | .selfTest => { o with selfTest := true }
  | .algorithm name => { o with algorithm := name }
  | .method chosen => { o with method := some chosen }
  | .buffer size => { o with buffer := some size }
  | .file name => { o with files := o.files ++ [name] }

/-- The options after some more items and the names of other inputs: of an algorithm, a method and a
size the last counts. -/
def after (o : Options) (items : List Item) (others : List String) : Options where
  list := o.list || Item.list ∈ items
  selfTest := o.selfTest || Item.selfTest ∈ items
  algorithm := (items.filterMap Item.algorithm?).getLast?.getD o.algorithm
  method := (items.filterMap Item.method?).getLast?.or o.method
  buffer := (items.filterMap Item.buffer?).getLast?.or o.buffer
  files := o.files ++ items.filterMap Item.file? ++ others

theorem after_nil (o : Options) (others : List String) :
    o.after [] others = { o with files := o.files ++ others } := by
  simp [after]

theorem after_cons (o : Options) (item : Item) (items : List Item) (others : List String) :
    o.after (item :: items) others = (o.take item).after items others := by
  cases item <;>
    simp [after, take, List.filterMap_cons, Item.algorithm?, Item.method?, Item.buffer?, Item.file?,
      List.getLast?_cons]

theorem extend_method (o : Options) {mark : String} (h : mark ∈ Mark.method.spellings)
    (value : String) (rest : List String) :
    o.extend (mark :: value :: rest) =
      match Method.parse? value with
      | none => .error (.unknownMethod value)
      | some chosen => (o.take (.method chosen)).extend rest := by
  rw [extend.eq_def]
  dsimp only
  rw [(Mark.of_mem_spellings h).1]
  rfl

theorem extend_buffer (o : Options) {mark : String} (h : mark ∈ Mark.buffer.spellings)
    (value : String) (rest : List String) :
    o.extend (mark :: value :: rest) =
      match bufferSize value with
      | .error refusal => .error refusal
      | .ok size => (o.take (.buffer size)).extend rest := by
  rw [extend.eq_def]
  dsimp only
  rw [(Mark.of_mem_spellings h).1]
  rfl

/-- An item is read in one step. -/
theorem extend_item (o : Options) {item : Item} {written : List String} (h : item.Writes written)
    (rest : List String) : o.extend (written ++ rest) = (o.take item).extend rest := by
  cases h with
  | list hmark | selfTest hmark | algorithm hmark =>
    have hof := (Mark.of_mem_spellings hmark).1
    rw [List.cons_append, extend.eq_def]
    dsimp only
    rw [hof]
    rfl
  | method hmark hparse =>
    rw [List.cons_append, List.singleton_append, extend_method o hmark, hparse]
  | buffer hmark hwrites hpos hlt =>
    rw [List.cons_append, List.singleton_append, extend_buffer o hmark,
      bufferSize_of_writes hwrites hlt, if_neg (Nat.ne_of_gt hpos)]
  | file hname =>
    rw [List.cons_append, extend.eq_def]
    dsimp only
    rw [Mark.of_namesInput hname]
    rfl

theorem extend_of_offends (o : Options) {arguments : List String} {refusal : Refusal}
    (h : Offends arguments refusal) : o.extend arguments = .error refusal := by
  cases h with
  | help hmark | noAlgorithm hmark | noMethod hmark | noBuffer hmark =>
    have hof := (Mark.of_mem_spellings hmark).1
    rw [extend.eq_def]
    dsimp only
    rw [hof]
  | unknownMethod hmark hparse => rw [extend_method o hmark, hparse]
  | emptyBuffer hmark hwrites =>
    rw [extend_buffer o hmark, bufferSize_of_writes hwrites (by decide), if_pos rfl]
  | invalidBuffer hmark hnot => rw [extend_buffer o hmark, bufferSize_of_not_writes hnot]
  | unknownArgument hnot hnone =>
    rw [extend.eq_def]
    dsimp only
    rw [Mark.of_unknown hnot hnone]

theorem extend_ending (o : Options) (others : List String) :
    o.extend ("--" :: others) = .ok (o.after [] others) := by
  rw [after_nil]
  rfl

/-- Items are read one after another, by induction on them. -/
theorem extend_of_begins {items : List Item} {arguments left : List String}
    (h : Begins items arguments left) (o : Options) :
    o.extend arguments = (o.after items []).extend left := by
  induction h generalizing o with
  | nil => rw [after_nil, List.append_nil]
  | cons hwrites _ ih => rw [extend_item o hwrites, ih, after_cons]

theorem extend_of_sentence {items : List Item} {others arguments : List String}
    (h : Sentence items others arguments) (o : Options) :
    o.extend arguments = .ok (o.after items others) := by
  rcases h with ⟨hbegins, rfl⟩ | hbegins
  · rw [extend_of_begins hbegins]
    rfl
  · rw [extend_of_begins hbegins, extend_ending]
    simp [after]

end Options

/-! ## Every command line -/

/-- Arguments start with an item, with two dashes, or with a reason that they are refused. -/
theorem starts (argument : String) (rest : List String) :
    (∃ item written left, Item.Writes item written ∧ argument :: rest = written ++ left ∧
        left.length ≤ rest.length) ∨
      argument = "--" ∨ ∃ refusal, Offends (argument :: rest) refusal := by
  by_cases hknown : ∃ mark : Mark, argument ∈ mark.spellings
  · -- A mark decides by itself how many arguments are read, whatever the next one looks like.
    obtain ⟨mark, hmark⟩ := hknown
    cases mark with
    | ending => exact .inr (.inl (List.mem_singleton.mp hmark))
    | list => exact .inl ⟨_, _, rest, .list hmark, rfl, Nat.le_refl _⟩
    | selfTest => exact .inl ⟨_, _, rest, .selfTest hmark, rfl, Nat.le_refl _⟩
    | algorithm =>
      cases rest with
      | nil => exact .inr (.inr ⟨_, .noAlgorithm hmark⟩)
      | cons name rest => exact .inl ⟨_, _, rest, .algorithm hmark, rfl, Nat.le_succ _⟩
    | method =>
      cases rest with
      | nil => exact .inr (.inr ⟨_, .noMethod hmark⟩)
      | cons value rest =>
        cases hparse : Method.parse? value with
        | none => exact .inr (.inr ⟨_, .unknownMethod hmark hparse⟩)
        | some method => exact .inl ⟨_, _, rest, .method hmark hparse, rfl, Nat.le_succ _⟩
    | buffer =>
      cases rest with
      | nil => exact .inr (.inr ⟨_, .noBuffer hmark⟩)
      | cons value rest =>
        by_cases hsize : ∃ size < 2 ^ 64, Text.Decimal.Writes value.toList size
        · obtain ⟨size, hlt, hwrites⟩ := hsize
          cases size with
          | zero => exact .inr (.inr ⟨_, .emptyBuffer hmark hwrites⟩)
          | succ n =>
            exact .inl ⟨_, _, rest, .buffer hmark hwrites (Nat.le_add_left 1 n) hlt, rfl,
              Nat.le_succ _⟩
        · refine .inr (.inr ⟨_, .invalidBuffer hmark fun size hlt hwrites => ?_⟩)
          exact hsize ⟨size, hlt, hwrites⟩
    | help => exact .inr (.inr ⟨_, .help hmark⟩)
    | unknown | file => cases hmark
  · by_cases hname : NamesInput argument
    · exact .inl ⟨_, _, rest, .file hname, rfl, Nat.le_refl _⟩
    · exact .inr (.inr ⟨_, .unknownArgument hname (not_exists.mp hknown)⟩)

/-- After some items, arguments end, go on with two dashes, or are refused. -/
theorem exists_begins (arguments : List String) :
    ∃ items, (∃ others, Sentence items others arguments) ∨
      ∃ left refusal, Begins items arguments left ∧ Offends left refusal := by
  -- Each item takes one argument at least, so that fewer are left.
  induction hlength : arguments.length using Nat.strongRecOn generalizing arguments with
  | ind n ih =>
    cases arguments with
    | nil => exact ⟨[], .inl ⟨[], .inl ⟨.nil, rfl⟩⟩⟩
    | cons argument rest =>
      rcases starts argument rest with ⟨item, written, left, hwrites, heq, hle⟩ | rfl |
        ⟨refusal, hoffends⟩
      · have hlt : left.length < n := by
          rw [← hlength, List.length_cons]
          exact Nat.lt_succ_of_le hle
        rw [heq]
        obtain ⟨items, ⟨others, hsentence⟩ | ⟨left', refusal, hbegins, hoffends⟩⟩ :=
          ih left.length hlt left rfl
        · refine ⟨item :: items, .inl ⟨others, ?_⟩⟩
          exact hsentence.imp (fun h => ⟨.cons hwrites h.1, h.2⟩) (.cons hwrites)
        · exact ⟨item :: items, .inr ⟨left', refusal, .cons hwrites hbegins, hoffends⟩⟩
      · exact ⟨[], .inl ⟨rest, .inr .nil⟩⟩
      · exact ⟨[], .inr ⟨_, refusal, .nil, hoffends⟩⟩

/-- Help is asked for without a word; every other refusal has its wording. -/
theorem Refusal.message_eq_empty_iff (refusal : Refusal) :
    refusal.message = "" ↔ refusal = .help := by
  cases refusal with
  | help => exact iff_of_true rfl rfl
  | missingValue mark =>
    have hne : mark ++ " requires a value" ≠ "" := by simp
    exact iff_of_false hne Refusal.noConfusion
  | unknownMethod value =>
    have hne : Error.unknownMethod.message ++ ": " ++ value ≠ "" := by simp
    exact iff_of_false hne Refusal.noConfusion
  | emptyBuffer => exact iff_of_false (by decide) Refusal.noConfusion
  | invalidBuffer value =>
    have hne : "Invalid value for --buffer: " ++ value ≠ "" := by simp
    exact iff_of_false hne Refusal.noConfusion
  | unknownArgument argument =>
    have hne : "Unknown arg: " ++ argument ≠ "" := by simp
    exact iff_of_false hne Refusal.noConfusion

/-- Arguments are accepted if and only if they are a sentence of the grammar, and the options are
what its items state: whatever is named after two dashes is an input, and of an algorithm, a method
and a size the last one counts. Otherwise they are refused for what comes first after the items
before it, and nothing is said if that is a call for help. -/
theorem Options.ofArguments_grammar (arguments : List String) :
    (∀ o, ofArguments arguments = .ok o ↔
        ∃ items others, Sentence items others arguments ∧ o = ({} : Options).after items others) ∧
      (∀ refusal, ofArguments arguments = .error refusal ↔
        ∃ items left, Begins items arguments left ∧ Offends left refusal) ∧
      ∀ refusal : Refusal, refusal.message = "" ↔ refusal = .help := by
  have haccepted : ∀ items others, Sentence items others arguments →
      ofArguments arguments = .ok (({} : Options).after items others) :=
    fun items others h => extend_of_sentence h {}
  have hrefused : ∀ items left refusal, Begins items arguments left → Offends left refusal →
      ofArguments arguments = .error refusal := by
    intro items left refusal hbegins hoffends
    rw [ofArguments, extend_of_begins hbegins, extend_of_offends _ hoffends]
  obtain ⟨items, houtcome⟩ := exists_begins arguments
  refine ⟨fun o => ⟨fun ho => ?_, ?_⟩, fun refusal => ⟨fun hrefusal => ?_, ?_⟩,
    Refusal.message_eq_empty_iff⟩
  · rcases houtcome with ⟨others, hsentence⟩ | ⟨left, refusal, hbegins, hoffends⟩
    · rw [haccepted items others hsentence] at ho
      exact ⟨items, others, hsentence, (Except.ok.inj ho).symm⟩
    · rw [hrefused items left refusal hbegins hoffends] at ho
      cases ho
  · rintro ⟨items, others, hsentence, rfl⟩
    exact haccepted items others hsentence
  · rcases houtcome with ⟨others, hsentence⟩ | ⟨left, found, hbegins, hoffends⟩
    · rw [haccepted items others hsentence] at hrefusal
      cases hrefusal
    · rw [hrefused items left found hbegins hoffends] at hrefusal
      cases hrefusal
      exact ⟨items, left, hbegins, hoffends⟩
  · rintro ⟨items, left, hbegins, hoffends⟩
    exact hrefused items left refusal hbegins hoffends

/-- A value that looks like the end of the marks is a value, and after that end a mark is none. -/
example : Options.ofArguments ["-a", "--", "-b", "+08", "-", "-b", "9", "--", "-l"] =
    .ok { algorithm := "--", buffer := some 9, files := ["-", "-l"] } := by
  decide +kernel

end CyclicRedundancy.Command
