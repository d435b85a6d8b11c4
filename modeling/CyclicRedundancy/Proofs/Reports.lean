import CyclicRedundancy.Proofs.Inputs
import CyclicRedundancy.Proofs.Textbook

/-!
# The report of the command

What the command reports on its inputs, told from what they hold: a line with the checksum by
definition for each that can be read, and a complaint for each that cannot. The method, the size of
the buffer and the settings in the environment play no part in it.
-/

namespace CyclicRedundancy.Command

/-- The line for an input that holds some bytes: the digits of the checksum by definition, after
zeros as far as there are fewer than the width needs, and the name. -/
def lineOf? (m : Model) (x : String × Except Failure (List UInt8)) : Option String :=
  x.2.toOption.map fun bytes =>
    String.ofList ((Text.Hex.plain (m.textbook bytes).toNat).leftpad ((m.width + 3) / 4) '0') ++
      "  " ++ x.1

/-- The complaint about an input that cannot be read. -/
def complaintOf? (x : String × Except Failure (List UInt8)) : Option String :=
  match x.2 with
  | .ok _ => none
  | .error f => some (complaint x.1 (.stream f))

/-- The report on inputs whose contents are known. -/
theorem summary_ofContent (m : Model) (contents : List (String × Except Failure (List UInt8))) :
    summary m.width (contents.map (.ofContent m.textbook)) =
      { output := contents.filterMap (lineOf? m)
        complaints := contents.filterMap complaintOf?
        touched := contents.map (·.1)
        ending := if contents.all (·.2.isOk) then .success else .failure } := by
  have hline : Visited.line? m.width ∘ .ofContent m.textbook = lineOf? m := by
    funext ⟨name, content⟩
    cases content <;> rfl
  have hcomplaint : Visited.complaint? ∘ .ofContent m.textbook = complaintOf? := by
    funext ⟨name, content⟩
    cases content <;> rfl
  have hsuccess : (fun v => v.complaint?.isNone) ∘ Visited.ofContent m.textbook =
      fun x => x.2.isOk := by
    funext ⟨name, content⟩
    cases content <;> rfl
  have htouched : (contents.map (.ofContent m.textbook)).filter Visited.touched =
      contents.map (.ofContent m.textbook) := by
    refine List.filter_eq_self.mpr fun v hv => ?_
    obtain ⟨x, -, rfl⟩ := List.mem_map.mp hv
    rfl
  rw [summary, List.filterMap_map, List.filterMap_map, List.all_map, htouched, List.map_map, hline,
    hcomplaint, hsuccess]
  rfl

section Runs

variable {arguments : List String} {o : Options} {w : World}

theorem run_eq_sum (ho : Options.ofArguments arguments = .ok o) (hlist : o.list = false)
    (htest : o.selfTest = false) (w : World) : run w arguments = sum w o := by
  rw [run, ho]
  simp only [hlist, htest]
  rfl

theorem sum_of_not_found (w : World) (hnone : Catalogue.find? o.algorithm = none) :
    sum w o =
      { complaints := [complaint o.algorithm .unknownAlgorithm], ending := .failure } := by
  rw [sum, Catalogue.find, hnone]

/-- Without a scratch buffer no input is visited. -/
theorem sum_of_too_large {a : Algorithm} (ha : Catalogue.find? o.algorithm = some a)
    (hroom : Buffer.largest < o.room w.environment) :
    sum w o = { ending := .panic Buffer.tooLarge } := by
  have hblank : Buffer.blank? (o.room w.environment) = none := if_neg (Nat.not_le.mpr hroom)
  rw [sum, Catalogue.find, ha]
  dsimp only
  rw [visits?, hblank]
  rfl

/-- The settings, the method and the size of the buffer play no part in the checksums. -/
theorem sum_of_find (hw : w.Steady) (hbuffer : o.buffer ≠ some 0) {a : Algorithm}
    (ha : Catalogue.find? o.algorithm = some a) (hroom : o.room w.environment ≤ Buffer.largest) :
    sum w o =
      { output := (w.contents w.input o.inputs).filterMap (lineOf? a.model)
        complaints := (w.contents w.input o.inputs).filterMap complaintOf?
        touched := o.inputs
        ending :=
          if (w.contents w.input o.inputs).all (·.2.isOk) then .success else .failure } := by
  have hchecksum : ∀ method, (Calculator.ofAlgorithm a method).checksum = a.model.textbook :=
    fun method => funext (Calculator.ofAlgorithm a method).checksum_eq_textbook
  have hblank : Buffer.blank? (o.room w.environment) = some _ := if_pos hroom
  have hvisits : visits? w o a =
      some ((w.contents w.input o.inputs).map (.ofContent a.model.textbook)) := by
    rw [visits?, hblank, Option.map_some]
    dsimp only
    rw [visitAll_eq _ hw _ (Options.room_ne_zero hbuffer w.environment), hchecksum,
      Cursor.left_ofList]
  rw [sum, Catalogue.find, ha]
  dsimp only
  rw [hvisits]
  dsimp only
  rw [summary_ofContent, w.map_fst_contents]

end Runs

/-- The lines are those of the inputs that can be read, as if the others had not been named. -/
theorem lines_filter_readable {w : World} (hw : w.Steady) (m : Model) (input : List UInt8)
    (names : List String) :
    (w.contents input (names.filter w.readable)).filterMap (lineOf? m) =
      (w.contents input names).filterMap (lineOf? m) := by
  induction names generalizing input with
  | nil => rfl
  | cons name names ih =>
    cases hreadable : w.readable name with
    | true =>
      rw [List.filter_cons_of_pos hreadable, w.contents_cons, w.contents_cons, List.filterMap_cons,
        List.filterMap_cons, ih]
    | false =>
      -- It has no line itself, and leaves standard input as it was for the inputs after it.
      have hnone : lineOf? m (name, w.content input name) = none := by
        have hcontent := World.isOk_content hw input name
        rw [hreadable] at hcontent
        unfold lineOf?
        cases hx : w.content input name with
        | error f => rfl
        | ok bytes =>
          rw [hx] at hcontent
          cases hcontent
      rw [List.filter_cons_of_neg (by simp [hreadable]), w.contents_cons,
        List.filterMap_cons_none hnone, w.readsInput_of_not_readable hreadable, ih]
      rfl

/-- What the inputs hold, one by one. -/
theorem getElem?_contents {w : World} (hw : w.Steady) (input : List UInt8) {names : List String}
    {i : Nat} {name : String} (hi : names[i]? = some name) :
    (w.contents input names)[i]? =
      some (name,
        if w.readsInput name then .ok (if (names.take i).any w.readsInput then [] else input)
        else w.opener (.ofList []) name >>= Handle.holds) := by
  rw [World.contents, List.getElem?_mapIdx, hi, Option.map_some, World.content_eq hw]
  cases hreads : w.readsInput name with
  | true => rfl
  | false =>
    have hname : name ≠ "-" := by
      rintro rfl
      cases hreads
    have haccess : w.access (.ofList []) name = w.opener (.ofList []) name := if_neg hname
    rw [World.content, haccess]

/-- Without such an algorithm no input is touched. Otherwise each input is, in order; it has its
line if it can be read to its end, and its complaint if it cannot, even if it fails half way, and
success means that all can be read. The line has the checksum by definition of all that the input
holds; the first input that reads standard input sees all of it, be it a dash or a path that leads
there, and each later one the empty message. An input that cannot be read changes no line of
another, and nothing else in the environment or the arguments changes the report, as long as a
scratch buffer can be provided; without one the command is broken off before it touches any. -/
theorem run_inputs {w : World} (hw : w.Steady) {arguments : List String} {o : Options}
    (ho : Options.ofArguments arguments = .ok o) (hlist : o.list = false)
    (htest : o.selfTest = false) :
    let contents := w.contents w.input o.inputs
    (Catalogue.find? o.algorithm = none →
        (run w arguments).touched = [] ∧ (run w arguments).code = 1 ∧
          (run w arguments).output = [] ∧
          (run w arguments).complaints = [complaint o.algorithm .unknownAlgorithm]) ∧
      (∀ a, Catalogue.find? o.algorithm = some a → o.room w.environment ≤ Buffer.largest →
        (run w arguments).touched = o.inputs ∧
          (run w arguments).output = contents.filterMap (lineOf? a.model) ∧
          (run w arguments).complaints = contents.filterMap complaintOf? ∧
          ((run w arguments).code = 0 ↔ ∀ x ∈ contents, x.2.isOk)) ∧
      (∀ a, Catalogue.find? o.algorithm = some a → Buffer.largest < o.room w.environment →
        run w arguments = { ending := .panic Buffer.tooLarge }) ∧
      (w.readsInput "-" = true ∧ ∀ i name, o.inputs[i]? = some name →
        contents[i]? = some (name,
          if w.readsInput name then .ok (if (o.inputs.take i).any w.readsInput then [] else w.input)
          else w.opener (.ofList []) name >>= Handle.holds)) ∧
      ∀ (environment : Environment) (arguments' : List String) (o' : Options),
        Options.ofArguments arguments' = .ok o' → o'.list = false → o'.selfTest = false →
          o'.algorithm = o.algorithm → o.room w.environment ≤ Buffer.largest →
            o'.room environment ≤ Buffer.largest →
              let w' : World := { w with environment }
              (o'.inputs = o.inputs → run w' arguments' = run w arguments) ∧
                (o'.inputs.filter w.readable = o.inputs.filter w.readable →
                  (run w' arguments').output = (run w arguments).output) := by
  intro contents
  have hbuffer := Options.buffer_ofArguments_ne_zero ho
  have hrun := run_eq_sum ho hlist htest w
  refine ⟨fun hnone => ?_, fun a ha hroom => ?_, fun a ha hroom => ?_,
    ⟨w.readsInput_dash, fun i name => getElem?_contents hw w.input⟩, ?_⟩
  · -- There is no such algorithm.
    rw [hrun, sum_of_not_found w hnone]
    exact ⟨rfl, rfl, rfl, rfl⟩
  · -- There is one, and the report is on all inputs.
    rw [hrun, sum_of_find hw hbuffer ha hroom]
    refine ⟨rfl, rfl, rfl, ?_⟩
    rw [Report.code_eq_zero_iff, ← List.all_eq_true]
    cases contents.all (·.2.isOk) <;> simp
  · rw [hrun, sum_of_too_large ha hroom]
  · -- The reports of two runs are functions of the same contents.
    intro environment arguments' o' ho' hlist' htest' halgorithm hroom hroom' w'
    have hw' : w'.Steady := hw
    have hbuffer' := Options.buffer_ofArguments_ne_zero ho'
    rw [hrun, run_eq_sum ho' hlist' htest' w']
    cases ha : Catalogue.find? o.algorithm with
    | none =>
      rw [sum_of_not_found w ha, sum_of_not_found w' (halgorithm ▸ ha), halgorithm]
      exact ⟨fun _ => rfl, fun _ => rfl⟩
    | some a =>
      rw [sum_of_find hw hbuffer ha hroom, sum_of_find hw' hbuffer' (halgorithm ▸ ha) hroom']
      have hcontents : ∀ names, w'.contents w'.input names = w.contents w.input names :=
        fun _ => rfl
      refine ⟨fun hinputs => by rw [hcontents, hinputs], fun hreadable => ?_⟩
      show List.filterMap _ _ = List.filterMap _ _
      rw [hcontents, ← lines_filter_readable hw, hreadable, lines_filter_readable hw]

/-- The first dash sees standard input and the second does not. The directory stops neither, and nor
does the file that fails after three bytes. -/
theorem run_inputs_crc16Arc :
    let failure : Failure := .reported .other "Input/output error (os error 5)"
    let torn : Script := { events := [.deliver [1, 2, 3], .fail failure] }
    let t : Files :=
      { nodes := Files.common .input ++ [(["tmp", "", "torn"], .stream torn (by decide))] }
    let w : World := { environment := .empty, opener := t.access, input := Model.checkMessage }
    let arguments := ["-a", "CRC-16/ARC", "-s", "bits", "-b", "2", "-", "/tmp", "torn", "-"]
    let o : Options :=
      { algorithm := "CRC-16/ARC", method := some .bitSerial, buffer := some 2
        files := ["-", "/tmp", "torn", "-"] }
    (w.Steady ∧ Options.ofArguments arguments = .ok o ∧ o.list = false ∧ o.selfTest = false ∧
        o.room w.environment ≤ Buffer.largest) ∧
      (run w arguments).touched = ["-", "/tmp", "torn", "-"] ∧
      (run w arguments).output = ["bb3d  -", "0000  -"] ∧
      (run w arguments).complaints =
        ["crcsum: /tmp: i/o error: Is a directory (os error 21)",
          "crcsum: torn: i/o error: Input/output error (os error 5)"] ∧
      (run w arguments).code ≠ 0 ∧
      (run w ["-a", "CRC-16/ARC", "-", "-"]).output = (run w arguments).output := by
  intro failure torn t w arguments o
  have hw : w.Steady := t.steady_access .empty Model.checkMessage
  have ho : Options.ofArguments arguments = .ok o := rfl
  have ho' : Options.ofArguments ["-a", "CRC-16/ARC", "-", "-"] =
      .ok { algorithm := "CRC-16/ARC", files := ["-", "-"] } := rfl
  have hroom : o.room w.environment ≤ Buffer.largest := by decide
  have ha : Catalogue.find? o.algorithm = some Catalogue.crc16Arc := by decide +kernel
  have hdirectory := World.access_eq_ok hw "/tmp" .directory (by decide +kernel)
  have htorn := World.access_eq_ok hw "torn" (.stream torn (by decide)) (by decide +kernel)
  have hdash : ∀ left, w.access left "-" = .ok (.input left) := fun _ => rfl
  have hcontents : w.contents w.input o.inputs =
      [("-", .ok Model.checkMessage), ("/tmp", .error (.system .isADirectory)),
        ("torn", .error failure), ("-", .ok [])] := by
    show w.contents _ ["-", "/tmp", "torn", "-"] = _
    simp only [World.contents_cons, World.content, World.readsInput, hdash, hdirectory, htorn]
    rfl
  have hreadable : ["-", "-"].filter w.readable =
      ["-", "/tmp", "torn", "-"].filter w.readable := by
    simp only [List.filter, World.readable, World.content, hdash, hdirectory, htorn]
    rfl
  obtain ⟨-, hreport, -, -, hothers⟩ := run_inputs hw ho rfl rfl
  obtain ⟨htouched, houtput, hcomplaints, hcode⟩ := hreport _ ha hroom
  rw [hcontents] at houtput hcomplaints hcode
  refine ⟨⟨hw, ho, rfl, rfl, hroom⟩, htouched, ?_, ?_, fun h => ?_, ?_⟩
  · rw [houtput]
    decide +kernel
  · rw [hcomplaints]
    decide +kernel
  · have hdone := hcode.mp h ("torn", .error failure) (by simp)
    cases hdone
  · exact (hothers .empty _ _ ho' rfl rfl rfl hroom (by decide)).2 hreadable

/-- If standard input is a pipe, a path that leads to it uses it up, so the first dash after it sees
none of it. -/
theorem run_input_by_path :
    let arguments := ["/dev/stdin", "-"]
    let t : Files := .ofPaths [] []
    let w : World := { environment := .empty, opener := t.access, input := Model.checkMessage }
    let m := Catalogue.crc32IsoHdlc.model
    Options.ofArguments arguments = .ok { files := ["/dev/stdin", "-"] } ∧
      (run w arguments).output = ["cbf43926  /dev/stdin", "00000000  -"] ∧
      line (m.textbook w.input) m.width "-" ∉ (run w arguments).output := by
  intro arguments t w m
  have hw : w.Steady := t.steady_access .empty Model.checkMessage
  have ho : Options.ofArguments arguments = .ok { files := ["/dev/stdin", "-"] } := rfl
  have ha : Catalogue.find? Catalogue.crc32IsoHdlc.name = some Catalogue.crc32IsoHdlc := by
    decide +kernel
  have hdash : ∀ left, w.access left "-" = .ok (.input left) := fun _ => rfl
  have hpath := World.access_eq_ok hw "/dev/stdin" (.input (.ofList [])) (by decide +kernel)
  have hcontents : w.contents w.input ["/dev/stdin", "-"] =
      [("/dev/stdin", .ok Model.checkMessage), ("-", .ok [])] := by
    simp only [World.contents_cons, World.content, World.readsInput, hdash, hpath]
    rfl
  have hsum : sum w { files := ["/dev/stdin", "-"] } = _ :=
    sum_of_find hw (by decide) ha (by decide)
  have houtput : (run w arguments).output = ["cbf43926  /dev/stdin", "00000000  -"] := by
    rw [run_eq_sum ho rfl rfl, hsum]
    show List.filterMap _ (w.contents w.input ["/dev/stdin", "-"]) = _
    rw [hcontents]
    decide +kernel
  rw [houtput]
  exact ⟨ho, rfl, by decide +kernel⟩

end CyclicRedundancy.Command
