import Mathlib.Data.List.Basic
import CyclicRedundancy.Command.Run
import CyclicRedundancy.Proofs.Building
import CyclicRedundancy.Proofs.Decimal

/-!
# Reading what is printed

Readers for the two kinds of lines that carry checksums: the display of a model and the line for an
input. Each gives back all that was printed, so that no two models are displayed alike, and a line
tells the checksum and the name of the input.

The fields of a display are separated by blanks, of which digits have none, and the name on a line
begins after the first two blanks, whatever blanks the name has itself.
-/

namespace CyclicRedundancy

namespace Text

/-! ## Digits -/

namespace Hex

/-- The value of a lower-case digit. -/
def digit? (c : Char) : Option Nat :=
  if '0' ≤ c ∧ c ≤ '9' then some (c.toNat - '0'.toNat)
  else if 'a' ≤ c ∧ c ≤ 'f' then some (10 + (c.toNat - 'a'.toNat))
  else none

/-- The number that lower-case digits stand for, the most significant first. -/
def read? (cs : List Char) : Option Nat :=
  cs.foldlM (fun n c => (digit? c).map (16 * n + ·)) 0

/-- A word is written in full: by as many lower-case digits as its bits need. -/
structure InFull (bits : Nat) (v : UInt64) (cs : List Char) : Prop where
  length : cs.length = (bits + 3) / 4
  read : read? cs = some v.toNat

theorem digit?_digitChar {d : Nat} (h : d < 16) : digit? (Nat.digitChar d) = some d := by
  have hall : ∀ d : Fin 16, digit? (Nat.digitChar d) = some d.val := by decide
  exact hall ⟨d, h⟩

theorem read?_append_singleton (cs : List Char) (c : Char) :
    read? (cs ++ [c]) = (read? cs).bind fun n => (digit? c).map (16 * n + ·) := by
  simp only [read?, List.foldlM_append, List.foldlM_cons, List.foldlM_nil, bind_pure]
  rfl

/-- By induction on the number: its last digit is written after those of its sixteenth part. -/
theorem read?_plain (v : Nat) : read? (plain v) = some v := by
  induction v using Nat.strongRecOn with
  | ind v ih =>
    by_cases hdigit : v < 16
    · have hplain : plain v = [] ++ [Nat.digitChar v] := Nat.toDigits_of_lt_base hdigit
      have hvalue : 16 * 0 + v = v := by omega
      rw [hplain, read?_append_singleton, digit?_digitChar hdigit]
      exact congrArg some hvalue
    · have hplain : plain v = plain (v / 16) ++ [Nat.digitChar (v % 16)] :=
        Nat.toDigits_of_base_le (by decide) (by omega)
      have hvalue : 16 * (v / 16) + v % 16 = v := Nat.div_add_mod v 16
      rw [hplain, read?_append_singleton, ih (v / 16) (by omega),
        digit?_digitChar (Nat.mod_lt v (by decide))]
      exact congrArg some hvalue

/-- Zeros in front do not change a number. -/
theorem read?_fixed (count v : Nat) : read? (fixed count v) = some v := by
  have hzeros : ∀ k, read? (List.replicate k '0') = some 0 := by
    intro k
    induction k with
    | zero => rfl
    | succ k ih =>
      rw [List.replicate_succ', read?_append_singleton, ih]
      rfl
  have happend : read? (fixed count v) =
      (read? (List.replicate (count - (plain v).length) '0')).bind fun n =>
        (plain v).foldlM (fun n c => (digit? c).map (16 * n + ·)) n := by
    rw [fixed, List.leftpad, read?, List.foldlM_append]
    rfl
  rw [happend, hzeros]
  exact read?_plain v

theorem digit?_of_mem {cs : List Char} {n : Nat} (h : read? cs = some n) {c : Char} (hc : c ∈ cs) :
    digit? c ≠ none := by
  induction cs using List.reverseRecOn generalizing n with
  | nil => cases hc
  | append_singleton front last ih =>
    rw [read?_append_singleton] at h
    obtain ⟨value, hfront, hlast⟩ := Option.bind_eq_some_iff.mp h
    rcases List.mem_append.mp hc with hmem | hmem
    · exact ih hfront hmem
    · intro hnone
      rw [List.mem_singleton.mp hmem] at hnone
      rw [hnone] at hlast
      cases hlast

/-- No digit is a blank. -/
theorem blank_not_mem_fixed (count v : Nat) : ' ' ∉ fixed count v := fun h =>
  digit?_of_mem (read?_fixed count v) h rfl

theorem inFull_fixed {bits : Nat} (h0 : 0 < bits) (h1 : bits ≤ 64) {v : UInt64}
    (h : v ≤ Word.mask bits) : InFull bits v (fixed (digits bits) v.toNat) := by
  have hcount : 0 < digits bits := by
    unfold digits
    omega
  have hlt : v.toNat < 16 ^ digits bits := by
    calc v.toNat
        < 2 ^ bits := (Word.le_mask_iff h0 h1).mp h
      _ ≤ 2 ^ (4 * digits bits) := by
        apply Nat.pow_le_pow_right (by decide)
        unfold digits
        omega
      _ = 16 ^ digits bits := Nat.pow_mul ..
  have hplain : (plain v.toNat).length ≤ digits bits :=
    (Nat.length_toDigits_le_iff (by decide) hcount).mpr hlt
  exact ⟨length_fixed hplain, read?_fixed _ _⟩

end Hex

/-! ## Fields -/

/-- What follows the label of a field. -/
def labelled? (label : String) (field : List Char) : Option (List Char) :=
  label.toList.isPrefixOf? field

/-- The truth value that a text names. -/
def flag? (cs : List Char) : Option Bool :=
  if cs = "true".toList then some true else if cs = "false".toList then some false else none

theorem labelled?_append (label : String) (cs : List Char) :
    labelled? label (label.toList ++ cs) = some cs :=
  List.isPrefixOf?_eq_some_iff_append_eq.mpr rfl

theorem flag?_toString (b : Bool) : flag? (toString b).toList = some b := by
  cases b
  · rfl
  · rfl

theorem blank_not_mem_toString_bool (b : Bool) : ' ' ∉ (toString b).toList := by
  cases b
  · decide
  · decide

theorem blank_not_mem_toDigits (n : Nat) : ' ' ∉ Nat.toDigits 10 n := by
  intro h
  have hdigit := Nat.isDigit_of_mem_toDigits (by decide) (by decide) h
  cases hdigit

end Text

/-! ## Models -/

namespace Model

open Text

/-- The word of a field. -/
def word? (label : String) (field : List Char) : Option UInt64 :=
  ((labelled? label field).bind Hex.read?).map UInt64.ofNat

/-- The model that is displayed by some fields, if it is. -/
def ofFields? : List (List Char) → Option Model
  | [width, poly, init, refIn, refOut, xorOut, check] => do
    let p : Parameters :=
      { width := ← (labelled? "width=" width).bind (Decimal.read? 65)
        poly := ← word? "poly=0x" poly
        init := ← word? "init=0x" init
        refIn := ← (labelled? "refin=" refIn).bind flag?
        refOut := ← (labelled? "refout=" refOut).bind flag?
        xorOut := ← word? "xorout=0x" xorOut }
    (published p (← word? "check=0x" check)).toOption
  | _ => none

/-- The model that a text displays, if it is the display of one. -/
def ofDisplay? (s : String) : Option Model :=
  (ofFields? (s.toList.splitOn ' ')).filter fun m => m.display = s

/-- The fields of the display of a model. -/
def fields (m : Model) : List (List Char) :=
  ["width=".toList ++ Nat.toDigits 10 m.width,
    "poly=0x".toList ++ m.digits m.poly,
    "init=0x".toList ++ m.digits m.init,
    "refin=".toList ++ (toString m.refIn).toList,
    "refout=".toList ++ (toString m.refOut).toList,
    "xorout=0x".toList ++ m.digits m.xorOut,
    "check=0x".toList ++ m.digits m.check]

variable (m : Model)

theorem toList_display : m.display.toList = [' '].intercalate m.fields := by
  have hwidth : (toString m.width).toList = Nat.toDigits 10 m.width := String.toList_ofList
  have hlabel : ∀ label : String, (" " ++ label).toList = ' ' :: label.toList := by
    intro label
    rw [String.toList_append]
    rfl
  have hdisplay : m.display = "width=" ++ toString m.width ++ (" " ++ "poly=0x") ++
      String.ofList (m.digits m.poly) ++ (" " ++ "init=0x") ++ String.ofList (m.digits m.init) ++
      (" " ++ "refin=") ++ toString m.refIn ++ (" " ++ "refout=") ++ toString m.refOut ++
      (" " ++ "xorout=0x") ++ String.ofList (m.digits m.xorOut) ++ (" " ++ "check=0x") ++
      String.ofList (m.digits m.check) := rfl
  rw [hdisplay, fields]
  simp only [String.toList_append, hlabel, String.toList_ofList, hwidth,
    List.intercalate_cons_cons, List.intercalate_singleton, List.append_assoc, List.cons_append,
    List.nil_append]

theorem blank_not_mem_field : ∀ field ∈ m.fields, ' ' ∉ field := by
  have hword : ∀ v, ' ' ∉ m.digits v := fun v => Hex.blank_not_mem_fixed _ _
  intro field hfield
  simp only [fields, List.mem_cons, List.not_mem_nil, or_false] at hfield
  rcases hfield with rfl | rfl | rfl | rfl | rfl | rfl | rfl
  all_goals
    simp [hword, blank_not_mem_toDigits, blank_not_mem_toString_bool]

theorem splitOn_display : m.display.toList.splitOn ' ' = m.fields := by
  rw [toList_display]
  exact List.splitOn_intercalate ' ' m.blank_not_mem_field (List.cons_ne_nil _ _)

theorem word?_digits (label : String) (v : UInt64) :
    word? label (label.toList ++ m.digits v) = some v := by
  have hread : Hex.read? (m.digits v) = some v.toNat := Hex.read?_fixed _ _
  rw [word?, labelled?_append, Option.bind_some, hread, Option.map_some, UInt64.ofNat_toNat]

theorem read?_width : Decimal.read? 65 (Nat.toDigits 10 m.width) = some m.width := by
  have hle := m.width_le
  exact Decimal.read?_eq_some_iff.mpr ⟨⟨0, .inl rfl⟩, by omega⟩

theorem published_parameters : published m.parameters m.check = .ok m := by
  have hcut := m.cut_parameters m.check
  rw [withCheck_check] at hcut
  exact (dif_pos ⟨m.width_pos, m.width_le⟩).trans (congrArg Except.ok hcut)

theorem ofFields?_fields : ofFields? m.fields = some m := by
  simp only [ofFields?, fields, labelled?_append, word?_digits, Option.bind_some, read?_width,
    flag?_toString, Option.bind_eq_bind]
  have hpublished := m.published_parameters
  rw [parameters] at hpublished
  rw [hpublished]
  rfl

/-- A text is read as a model if and only if it is the display of the model. -/
theorem ofDisplay?_eq_some_iff (s : String) : ofDisplay? s = some m ↔ s = m.display := by
  rw [ofDisplay?, Option.filter_eq_some_iff]
  constructor
  · rintro ⟨-, hdisplay⟩
    exact (of_decide_eq_true hdisplay).symm
  · rintro rfl
    rw [splitOn_display, ofFields?_fields]
    exact ⟨rfl, decide_eq_true rfl⟩

theorem display_inj {m n : Model} : m.display = n.display ↔ m = n := by
  constructor
  · intro h
    have hm := (m.ofDisplay?_eq_some_iff m.display).mpr rfl
    have hn := (n.ofDisplay?_eq_some_iff m.display).mpr h
    exact Option.some.inj (hm.symm.trans hn)
  · intro h
    rw [h]

/-- A word that fits the width has its digits in full. -/
theorem inFull_digits {v : UInt64} (h : v &&& Word.mask m.width = v) :
    Hex.InFull m.width v (m.digits v) := by
  have hle := Word.and_mask_le v m.width
  rw [h] at hle
  exact Hex.inFull_fixed m.width_pos m.width_le hle

end Model

/-! ## Lines for inputs -/

namespace Command

open Text

/-- The checksum and the name on the line for an input. -/
def ofLine? (s : String) : Option (UInt64 × String) :=
  match s.toList.dropWhile (· ≠ ' ') with
  | ' ' :: ' ' :: name =>
    (Hex.read? (s.toList.takeWhile (· ≠ ' '))).map fun v => (UInt64.ofNat v, String.ofList name)
  | _ => none

/-- The first blank on a line is the one after the digits. -/
theorem ofLine?_line (checksum : UInt64) (bits : Nat) (name : String) :
    ofLine? (line checksum bits name) = some (checksum, name) := by
  have hdigits : ∀ c ∈ Hex.fixed (Hex.digits bits) checksum.toNat, decide (c ≠ ' ') = true := by
    intro c hc
    apply decide_eq_true
    rintro rfl
    exact Hex.blank_not_mem_fixed _ _ hc
  have hline : (line checksum bits name).toList =
      Hex.fixed (Hex.digits bits) checksum.toNat ++ ' ' :: ' ' :: name.toList := by
    simp [line]
  rw [ofLine?, hline, List.dropWhile_append_of_pos hdigits, List.takeWhile_append_of_pos hdigits]
  simp [Hex.read?_fixed]

theorem line_inj {checksum checksum' : UInt64} {bits : Nat} {name name' : String} :
    line checksum bits name = line checksum' bits name' ↔ checksum = checksum' ∧ name = name' := by
  constructor
  · intro h
    have hread := ofLine?_line checksum bits name
    rw [h, ofLine?_line] at hread
    cases hread
    exact ⟨rfl, rfl⟩
  · rintro ⟨rfl, rfl⟩
    rfl

end Command

/-- The display of a model has each word in full behind its label, and a text is read as a model if
and only if it is the display of the model, so that no two models are displayed alike. The line for
an input has the checksum in full, as long as the checksum fits the width, then two blanks and the
name. From the line alone, without the width, the checksum and the name are read back, so that lines
of one width are alike only for the same checksum and the same name. -/
theorem display_and_line_decode :
    (∀ m : Model,
        (∃ poly init xorOut check,
          Text.Hex.InFull m.width m.poly poly ∧ Text.Hex.InFull m.width m.init init ∧
            Text.Hex.InFull m.width m.xorOut xorOut ∧ Text.Hex.InFull m.width m.check check ∧
            m.display = "width=" ++ toString m.width ++ " poly=0x" ++ String.ofList poly ++
              " init=0x" ++ String.ofList init ++ " refin=" ++ toString m.refIn ++
              " refout=" ++ toString m.refOut ++ " xorout=0x" ++ String.ofList xorOut ++
              " check=0x" ++ String.ofList check) ∧
          ∀ s, Model.ofDisplay? s = some m ↔ s = m.display) ∧
      (∀ m n : Model, m.display = n.display ↔ m = n) ∧
      (∀ (bits : Nat) (checksum : UInt64) (name : String), 0 < bits → bits ≤ 64 →
        checksum ≤ Word.mask bits →
          ∃ digits, Text.Hex.InFull bits checksum digits ∧
            Command.line checksum bits name = String.ofList digits ++ "  " ++ name) ∧
      (∀ (checksum : UInt64) (bits : Nat) (name : String),
        Command.ofLine? (Command.line checksum bits name) = some (checksum, name)) ∧
      ∀ (checksum checksum' : UInt64) (bits : Nat) (name name' : String),
        Command.line checksum bits name = Command.line checksum' bits name' ↔
          checksum = checksum' ∧ name = name' := by
  refine ⟨fun m => ⟨?_, m.ofDisplay?_eq_some_iff⟩, fun _ _ => Model.display_inj,
    fun bits checksum name h0 h1 h => ?_, Command.ofLine?_line, fun _ _ _ _ _ => Command.line_inj⟩
  · exact ⟨_, _, _, _, m.inFull_digits m.poly_fits, m.inFull_digits m.init_fits,
      m.inFull_digits m.xorOut_fits, m.inFull_digits m.check_fits, rfl⟩
  · exact ⟨_, Text.Hex.inFull_fixed h0 h1 h, rfl⟩

/-- Words with zeros in front, and a name that begins with a blank. -/
theorem display_and_line_decode_crc5Usb :
    let m := (Catalogue.published "CRC-5/USB" 5 0x05 0x1F true true 0x1F 0x19).model
    (0 < 12 ∧ 12 ≤ 64 ∧ (0x1F : UInt64) ≤ Word.mask 12) ∧
      (∃ digits, Text.Hex.InFull 12 0x1F digits ∧
        Command.line 0x1F 12 " f" = String.ofList digits ++ "  " ++ " f") ∧
      Command.ofLine? "01f   f" = some (0x1F, " f") ∧
      Model.ofDisplay?
        "width=5 poly=0x05 init=0x1f refin=true refout=true xorout=0x1f check=0x19" = some m := by
  intro m
  obtain ⟨hdisplay, -, hline, hread, -⟩ := display_and_line_decode
  have hle : (0x1F : UInt64) ≤ Word.mask 12 := by decide
  exact ⟨⟨by decide, by decide, hle⟩, hline 12 0x1F " f" (by decide) (by decide) hle,
    hread 0x1F 12 " f", ((hdisplay m).2 _).mpr (by decide +kernel)⟩

end CyclicRedundancy
