import CyclicRedundancy.Proofs.Verification

/-!
# Building models

What the two ways to a model have in common. They refuse the same widths, and otherwise lead to
models that differ in the check value at most. Of every word only the bits within the width count:
parameters that agree there lead to one model, and parameters that do not lead to different ones. A
model already has its words cut, so that it is built again from its own parameters.
-/

namespace CyclicRedundancy

/-- Parameters agree: they have the same width and the same flags, and their words have the same
bits within the width. -/
structure Parameters.Agree (p q : Parameters) : Prop where
  width : p.width = q.width
  poly : p.poly.toNat % 2 ^ p.width = q.poly.toNat % 2 ^ p.width
  init : p.init.toNat % 2 ^ p.width = q.init.toNat % 2 ^ p.width
  refIn : p.refIn = q.refIn
  refOut : p.refOut = q.refOut
  xorOut : p.xorOut.toNat % 2 ^ p.width = q.xorOut.toNat % 2 ^ p.width

namespace Model

variable {p q : Parameters} {m m' : Model}

/-! ## Cutting -/

/-- Cutting loses the bits above the width and nothing else. -/
theorem cut_eq_cut_iff {check check' : UInt64} (hp0 : 0 < p.width) (hp1 : p.width ≤ 64)
    (hq0 : 0 < q.width) (hq1 : q.width ≤ 64) :
    cut p check hp0 hp1 = cut q check' hq0 hq1 ↔
      p.Agree q ∧ check.toNat % 2 ^ p.width = check'.toNat % 2 ^ p.width := by
  have hword := Word.and_mask_eq_and_mask_iff hp0 hp1
  constructor
  · intro h
    have hwidth : p.width = q.width := congrArg Model.width h
    have hpoly : p.poly &&& Word.mask p.width = q.poly &&& Word.mask q.width :=
      congrArg Model.poly h
    have hinit : p.init &&& Word.mask p.width = q.init &&& Word.mask q.width :=
      congrArg Model.init h
    have hxorOut : p.xorOut &&& Word.mask p.width = q.xorOut &&& Word.mask q.width :=
      congrArg Model.xorOut h
    have hcheck : check &&& Word.mask p.width = check' &&& Word.mask q.width :=
      congrArg Model.check h
    rw [← hwidth, hword] at hpoly hinit hxorOut hcheck
    exact ⟨⟨hwidth, hpoly, hinit, congrArg Model.refIn h, congrArg Model.refOut h, hxorOut⟩, hcheck⟩
  · rintro ⟨hagree, hcheck⟩
    simp only [cut, mk.injEq, ← hagree.width, hword]
    exact ⟨trivial, hagree.poly, hagree.init, hagree.refIn, hagree.refOut, hagree.xorOut, hcheck⟩

/-- The words of a model are cut already. -/
theorem cut_parameters (m : Model) (check : UInt64) :
    cut m.parameters check m.width_pos m.width_le = m.withCheck check := by
  simp only [cut, withCheck, parameters, m.poly_fits, m.init_fits, m.xorOut_fits]

/-- A model has its own check value already. -/
theorem withCheck_check (m : Model) : m.withCheck m.check = m := by
  rw [withCheck]
  simp only [m.check_fits]

/-! ## Two ways to a model -/

theorem ofParameters_of_width (h : 0 < p.width ∧ p.width ≤ 64) :
    ofParameters p =
      .ok ((cut p 0 h.1 h.2).withCheck ((cut p 0 h.1 h.2).textbook checkMessage)) := by
  rw [ofParameters, dif_pos h]
  simp only [serialChecksum_eq_textbook]

theorem ofParameters_eq_error_iff (error : Error) :
    ofParameters p = .error error ↔
      error = .invalidWidth p.width ∧ ¬ (0 < p.width ∧ p.width ≤ 64) := by
  by_cases h : 0 < p.width ∧ p.width ≤ 64
  · rw [ofParameters_of_width h]
    simp [h]
  · rw [ofParameters, dif_neg h]
    simp [h, eq_comm]

theorem published_eq_error_iff (check : UInt64) (breach : Breach) :
    published p check = .error breach ↔ ¬ (0 < p.width ∧ p.width ≤ 64) := by
  cases breach
  by_cases h : 0 < p.width ∧ p.width ≤ 64
  · rw [published, dif_pos h]
    simp [h]
  · rw [published, dif_neg h]
    simp [h]

/-- A model is built of some parameters, in one of the two ways. -/
def BuiltOf (p : Parameters) (m : Model) : Prop :=
  ofParameters p = .ok m ∨ ∃ check, published p check = .ok m

/-- Whatever the way, a model is cut out of the parameters and its check value. -/
theorem BuiltOf.eq_cut (h : BuiltOf p m) :
    ∃ (h0 : 0 < p.width) (h1 : p.width ≤ 64), m = cut p m.check h0 h1 := by
  by_cases hwidth : 0 < p.width ∧ p.width ≤ 64
  · refine ⟨hwidth.1, hwidth.2, ?_⟩
    rcases h with hm | ⟨check, hm⟩
    · rw [ofParameters_of_width hwidth] at hm
      cases hm
      exact (withCheck_check _).symm
    · rw [published, dif_pos hwidth] at hm
      cases hm
      exact (withCheck_check _).symm
  · rcases h with hm | ⟨check, hm⟩
    · rw [(ofParameters_eq_error_iff _).mpr ⟨rfl, hwidth⟩] at hm
      cases hm
    · rw [(published_eq_error_iff check .width).mpr hwidth] at hm
      cases hm

/-- Models that are built of parameters that agree differ in the check value at most. -/
theorem BuiltOf.eq_withCheck (hm : BuiltOf p m) (hm' : BuiltOf q m') (h : p.Agree q) :
    m = m'.withCheck m.check := by
  obtain ⟨hp0, hp1, hp⟩ := hm.eq_cut
  obtain ⟨hq0, hq1, hq⟩ := hm'.eq_cut
  calc m = cut p m.check hp0 hp1 := hp
    _ = cut q m.check hq0 hq1 := (cut_eq_cut_iff hp0 hp1 hq0 hq1).mpr ⟨h, rfl⟩
    _ = (cut q m'.check hq0 hq1).withCheck m.check := rfl
    _ = m'.withCheck m.check := by rw [← hq]

/-- One model is built only of parameters that agree. -/
theorem BuiltOf.agree (hp : BuiltOf p m) (hq : BuiltOf q m) : p.Agree q := by
  obtain ⟨hp0, hp1, hpcut⟩ := hp.eq_cut
  obtain ⟨hq0, hq1, hqcut⟩ := hq.eq_cut
  exact ((cut_eq_cut_iff hp0 hp1 hq0 hq1).mp (hpcut.symm.trans hqcut)).1

theorem published_of_ofParameters (h : ofParameters p = .ok m) (check : UInt64) :
    published p check = .ok (m.withCheck check) := by
  obtain ⟨h0, h1, hcut⟩ := BuiltOf.eq_cut (.inl h)
  rw [published, dif_pos ⟨h0, h1⟩, hcut]
  rfl

theorem ofParameters_eq_iff (hm : ofParameters p = .ok m) :
    ofParameters q = .ok m ↔ p.Agree q := by
  constructor
  · exact fun hq => BuiltOf.agree (.inl hm) (.inl hq)
  · intro h
    obtain ⟨h0, h1, -⟩ := BuiltOf.eq_cut (.inl hm)
    -- The check value is computed from words that are cut, so that it is the same for both.
    have hq0 : 0 < q.width := h.width ▸ h0
    have hq1 : q.width ≤ 64 := h.width ▸ h1
    have hcut : cut p 0 h0 h1 = cut q 0 hq0 hq1 := (cut_eq_cut_iff h0 h1 hq0 hq1).mpr ⟨h, rfl⟩
    rw [← hm, ofParameters_of_width ⟨h0, h1⟩, ofParameters_of_width ⟨hq0, hq1⟩, hcut]

theorem published_eq_iff {check check' : UInt64} (hm : published p check = .ok m) :
    published q check' = .ok m ↔
      p.Agree q ∧ check.toNat % 2 ^ p.width = check'.toNat % 2 ^ p.width := by
  obtain ⟨h0, h1, -⟩ := BuiltOf.eq_cut (.inr ⟨check, hm⟩)
  rw [published, dif_pos ⟨h0, h1⟩] at hm
  by_cases hq : 0 < q.width ∧ q.width ≤ 64
  · rw [published, dif_pos hq, ← hm, Except.ok.injEq, eq_comm, cut_eq_cut_iff]
  · rw [(published_eq_error_iff check' .width).mpr hq]
    simp only [reduceCtorEq, false_iff]
    rintro ⟨hagree, -⟩
    exact hq (hagree.width ▸ ⟨h0, h1⟩)

/-- A model that is built of parameters from outside is built again of its own. -/
theorem ofParameters_parameters (h : ofParameters p = .ok m) :
    ofParameters m.parameters = .ok m := by
  have hagain := ofParameters_of_width (p := m.parameters) ⟨m.width_pos, m.width_le⟩
  rw [cut_parameters] at hagain
  have hcheck : (m.withCheck 0).textbook checkMessage = m.check := (check_of_ofParameters h).symm
  rw [hagain, hcheck]
  exact congrArg Except.ok m.withCheck_check

end Model

/-! ## Calculators -/

namespace Calculator

/-- Two calculators give the same results: for words, for messages, for what readers deliver, after
resuming and in every course of steps. -/
structure Interchangeable (c d : Calculator) : Prop where
  feed : ∀ register data, c.feed register data = d.feed register data
  checksumOf : ∀ register, c.checksumOf register = d.checksumOf register
  checksum : ∀ data, c.checksum data = d.checksum data
  drain : ∀ (σ : Type) [Reader σ] (reader : σ) (b : Buffer),
    (c.drain reader b).result = (d.drain reader b).result
  resume : ∀ checksum, (c.resume checksum).register = (d.resume checksum).register
  run : ∀ steps : List Running.Step,
    (Running.run c.calculation steps).register = (Running.run d.calculation steps).register ∧
      Running.value (Running.run c.calculation steps) =
        Running.value (Running.run d.calculation steps)

/-- Models that differ in the check value at most have calculators with the same results. -/
theorem interchangeable_of_withCheck {c d : Calculator} {check : UInt64}
    (h : c.model = d.model.withCheck check) : c.Interchangeable d where
  feed register data := by rw [feed_of_withCheck h]
  checksumOf register := by rw [checksumOf_of_withCheck h]
  checksum data := by rw [checksum_of_withCheck h]
  drain _ _ reader b := result_drain_of_withCheck h reader b
  resume := register_resume_of_withCheck h
  run steps := by
    have hregister : c.calculation.register = d.calculation.register := by
      show c.model.start &&& c.model.mask = d.model.start &&& d.model.mask
      rw [h]
      rfl
    have hend := Calculation.simulation_alikeButCheck.run ⟨⟨check, h⟩, hregister⟩ steps
    exact ⟨hend.2, hend.value_eq⟩

end Calculator

/-- Both ways refuse the widths outside `1..64` and no others, the one with the width and the other
as a breach. Otherwise they lead to the same model but for the check value, which is either the
checksum by definition or what was given. Other parameters lead to the same model if and only if
they agree within the width, as do the check values, if given; and the calculators of models that
are built of parameters that agree, in whatever way and under whatever methods, give the same
results. A model is built again of its own parameters, with the check value that it has. -/
theorem Model.built_of_low_bits :
    (∀ (p : Parameters) (check : UInt64),
        (∀ error, ofParameters p = .error error ↔
            error = .invalidWidth p.width ∧ ¬ (1 ≤ p.width ∧ p.width ≤ 64)) ∧
          (∀ breach, published p check = .error breach ↔ ¬ (1 ≤ p.width ∧ p.width ≤ 64)) ∧
          (1 ≤ p.width ∧ p.width ≤ 64 → ∃ m, ofParameters p = .ok m)) ∧
      (∀ (p : Parameters) (m : Model), ofParameters p = .ok m →
        m.check = m.textbook checkMessage ∧
          (∀ check, published p check = .ok (m.withCheck check)) ∧
          (∀ q, ofParameters q = .ok m ↔ p.Agree q) ∧
          (∀ q check check', published q check' = .ok (m.withCheck check) ↔
            p.Agree q ∧ check.toNat % 2 ^ p.width = check'.toNat % 2 ^ p.width) ∧
          ofParameters m.parameters = .ok m ∧ published m.parameters m.check = .ok m) ∧
      ∀ (p q : Parameters) (m m' : Model), p.Agree q → BuiltOf p m → BuiltOf q m' →
        ∀ s t : Method, (Calculator.ofModel m s).Interchangeable (.ofModel m' t) := by
  refine ⟨fun p check => ⟨ofParameters_eq_error_iff, published_eq_error_iff check,
      fun hwidth => ⟨_, ofParameters_of_width hwidth⟩⟩, fun p m hm => ?_,
    fun p q m m' hagree hm hm' s t =>
      Calculator.interchangeable_of_withCheck (hm.eq_withCheck hm' hagree)⟩
  have hagain := ofParameters_parameters hm
  have hpublished := published_of_ofParameters hagain m.check
  rw [m.withCheck_check] at hpublished
  exact ⟨check_of_ofParameters hm, published_of_ofParameters hm, fun q => ofParameters_eq_iff hm,
    fun q check check' => published_eq_iff (published_of_ofParameters hm check), hagain, hpublished⟩

/-- Seven bits, with words that have bits above them, and the same without those bits. -/
theorem Model.built_of_low_bits_crc7Mmc :
    let p : Parameters :=
      { width := 7, poly := 0xF09, init := 0x80, refIn := false, refOut := false, xorOut := 0x100 }
    let q : Parameters :=
      { width := 7, poly := 0x09, init := 0, refIn := false, refOut := false, xorOut := 0 }
    let m := (Catalogue.published "CRC-7/MMC" 7 0x09 0x00 false false 0x00 0x75).model
    p.Agree q ∧ ofParameters p = .ok m ∧ ofParameters q = .ok m ∧
      published q 0x174 = .ok (m.withCheck 0x74) ∧ ofParameters m.parameters = .ok m ∧
      (Calculator.ofModel (m.withCheck 0x74) .nibbleTable).Interchangeable
        (.ofModel m .bitSerial) ∧
      ofParameters { p with width := 0 } = .error (.invalidWidth 0) ∧
      published { p with width := 65 } 0x75 = .error .width := by
  intro p q m
  obtain ⟨hrefused, hbuilt, hsame⟩ := built_of_low_bits
  have hagree : p.Agree q := by constructor <;> decide
  have hm : ofParameters p = .ok m := by
    rw [ofParameters, dif_pos (by decide)]
    exact congrArg Except.ok (by decide +kernel)
  obtain ⟨-, hpublished, hagrees, hcheck, hagain, -⟩ := hbuilt p m hm
  have hbuilt' : BuiltOf p (m.withCheck 0x74) := .inr ⟨0x74, hpublished 0x74⟩
  have hq : ofParameters q = .ok m := (hagrees q).mpr hagree
  exact ⟨hagree, hm, hq, (hcheck q 0x74 0x174).mpr ⟨hagree, by decide⟩, hagain,
    hsame p q _ _ hagree hbuilt' (.inl hq) .nibbleTable .bitSerial,
    ((hrefused { p with width := 0 } 0).1 _).mpr ⟨rfl, by decide⟩,
    ((hrefused { p with width := 65 } 0x75).2.1 _).mpr (by decide)⟩

end CyclicRedundancy
