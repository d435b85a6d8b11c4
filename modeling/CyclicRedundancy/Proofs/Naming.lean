import Mathlib.Data.List.Forall2
import Mathlib.Data.List.Nodup
import Mathlib.Data.List.TakeWhile
import CyclicRedundancy.Catalogue

/-!
# Names

Which names are understood. A text means a name if the text without the blanks at its ends differs
from the name at most in the case of letters of ASCII. No two algorithms, and no two methods, have
names that a text could mean at once, so that the order in which names are tried is never seen.
-/

namespace CyclicRedundancy

namespace Text

/-! ## Blanks -/

/-- `core` is what is left of a text when the blanks at both ends are taken off. -/
def Stripped (cs core : List Char) : Prop :=
  ∃ before after, cs = before ++ core ++ after ∧
    (∀ c ∈ before, isBlank c = true) ∧ (∀ c ∈ after, isBlank c = true) ∧
    (∀ c ∈ core.head?, isBlank c = false) ∧ ∀ c ∈ core.getLast?, isBlank c = false

theorem dropWhile_eq_self_of_head? {cs : List Char} (h : ∀ c ∈ cs.head?, isBlank c = false) :
    cs.dropWhile isBlank = cs := by
  cases cs with
  | nil => rfl
  | cons c cs => exact List.dropWhile_cons_of_neg (by simp [h c rfl])

theorem head?_dropWhile (cs : List Char) :
    ∀ c ∈ (cs.dropWhile isBlank).head?, isBlank c = false := by
  intro c hc
  have hnot := List.head?_dropWhile_not isBlank cs
  rw [Option.mem_def.mp hc] at hnot
  exact hnot

theorem Stripped.trim_eq {cs core : List Char} (h : Stripped cs core) : trim cs = core := by
  obtain ⟨before, after, rfl, hbefore, hafter, hhead, hlast⟩ := h
  have hback : (core ++ after).reverse.dropWhile isBlank = core.reverse := by
    have hblank : ∀ c ∈ after.reverse, isBlank c = true := by simpa using hafter
    rw [List.reverse_append, List.dropWhile_append_of_pos hblank]
    exact dropWhile_eq_self_of_head? (by simpa using hlast)
  rw [trim, List.append_assoc, List.dropWhile_append_of_pos hbefore]
  by_cases hcore : core = []
  · -- Nothing but blanks: they are all taken off from the front.
    subst hcore
    rw [List.nil_append, List.dropWhile_eq_nil_iff.mpr hafter]
    rfl
  · have hfront : (core ++ after).dropWhile isBlank = core ++ after :=
      dropWhile_eq_self_of_head? (by rwa [List.head?_append_of_ne_nil _ hcore])
    rw [hfront, hback, List.reverse_reverse]

theorem stripped_trim (cs : List Char) : Stripped cs (trim cs) := by
  have hmem : ∀ {ds : List Char}, ∀ c ∈ ds.takeWhile isBlank, isBlank c = true :=
    fun c hc => List.mem_takeWhile_imp hc
  have hfront : cs = cs.takeWhile isBlank ++ cs.dropWhile isBlank :=
    List.takeWhile_append_dropWhile.symm
  have hback : cs.dropWhile isBlank =
      trim cs ++ ((cs.dropWhile isBlank).reverse.takeWhile isBlank).reverse := by
    rw [trim, ← List.reverse_append, List.takeWhile_append_dropWhile, List.reverse_reverse]
  refine ⟨cs.takeWhile isBlank, ((cs.dropWhile isBlank).reverse.takeWhile isBlank).reverse, ?_,
    hmem, by simpa using hmem, fun c hc => ?_, ?_⟩
  · rw [List.append_assoc, ← hback]
    exact hfront
  · -- What is taken off at the end leaves the first character, if any character is left.
    have hne : trim cs ≠ [] := by
      rintro hnil
      rw [hnil] at hc
      cases hc
    refine head?_dropWhile cs c ?_
    rw [hback, List.head?_append_of_ne_nil _ hne]
    exact hc
  · rw [trim, List.getLast?_reverse]
    exact head?_dropWhile _

theorem trim_eq_iff {cs core : List Char} : trim cs = core ↔ Stripped cs core :=
  ⟨fun h => h ▸ stripped_trim cs, Stripped.trim_eq⟩

/-- Blanks that are put around a text are taken off again. -/
theorem trim_pad {before after : List Char} (hbefore : ∀ c ∈ before, isBlank c = true)
    (hafter : ∀ c ∈ after, isBlank c = true) (cs : List Char) :
    trim (before ++ cs ++ after) = trim cs := by
  obtain ⟨front, back, hcs, hfront, hback, hends⟩ := stripped_trim cs
  apply Stripped.trim_eq
  refine ⟨before ++ front, back ++ after, ?_, ?_, ?_, hends⟩
  · nth_rewrite 1 [hcs]
    simp only [List.append_assoc]
  · simpa [or_imp, forall_and] using ⟨hbefore, hfront⟩
  · simpa [or_imp, forall_and] using ⟨hback, hafter⟩

/-! ## Letters -/

/-- A capital letter of ASCII and its small letter. -/
def Capital (c d : Char) : Prop := 65 ≤ c.toNat ∧ c.toNat ≤ 90 ∧ d.toNat = c.toNat + 32

/-- The same character, or one letter of ASCII in both cases. -/
def SameLetter (c d : Char) : Prop := c = d ∨ Capital c d ∨ Capital d c

/-- Two texts differ at most in the case of letters of ASCII. -/
def SameButCase (a b : List Char) : Prop := List.Forall₂ SameLetter a b

theorem toNat_toLower (c : Char) :
    c.toLower.toNat = if 65 ≤ c.toNat ∧ c.toNat ≤ 90 then c.toNat + 32 else c.toNat := by
  have hcond : (c.val ≥ 'A'.val ∧ c.val ≤ 'Z'.val) ↔ (65 ≤ c.toNat ∧ c.toNat ≤ 90) := by
    rw [ge_iff_le, UInt32.le_iff_toNat_le, UInt32.le_iff_toNat_le]
    exact Iff.rfl
  unfold Char.toLower
  split
  next h =>
    have hbounds := hcond.mp h
    rw [if_pos hbounds]
    show (c.toNat + 32) % 2 ^ 32 = c.toNat + 32
    omega
  next h => rw [if_neg (mt hcond.mpr h)]

theorem toLower_eq_iff (c d : Char) : c.toLower = d.toLower ↔ SameLetter c d := by
  unfold SameLetter Capital
  rw [← Char.toNat_inj, ← Char.toNat_inj, toNat_toLower, toNat_toLower]
  split <;> split <;> omega

theorem sameLetters_iff (a b : List Char) : sameLetters a b = true ↔ SameButCase a b := by
  have hletter : (fun c d : Char => c.toLower = d.toLower) = SameLetter :=
    funext₂ fun c d => propext (toLower_eq_iff c d)
  rw [sameLetters, beq_iff_eq, SameButCase, ← hletter, ← List.forall₂_eq_eq_eq,
    List.forall₂_map_left_iff, List.forall₂_map_right_iff]

/-- Letters are not blank. -/
theorem isBlank_toLower (c : Char) : isBlank c.toLower = isBlank c := by
  rw [Bool.eq_iff_iff, isBlank, isBlank, toNat_toLower]
  simp only [inRanges, blankRanges, List.any_cons, List.any_nil, Bool.or_false, Bool.or_eq_true,
    Bool.and_eq_true, decide_eq_true_eq]
  split <;> omega

theorem trim_map_toLower (cs : List Char) :
    trim (cs.map Char.toLower) = (trim cs).map Char.toLower := by
  have hblank : isBlank ∘ Char.toLower = isBlank := funext isBlank_toLower
  simp only [trim, List.dropWhile_map, ← List.map_reverse, hblank]

/-! ## Meanings -/

/-- A text means a name: without the blanks at its ends it is the name, but for the case of letters
of ASCII. -/
def Means (typed name : String) : Prop :=
  ∃ core, Stripped typed.toList core ∧ SameButCase core name.toList

theorem spells_iff (typed name : String) : spells typed name = true ↔ Means typed name := by
  rw [spells, sameLetters_iff]
  constructor
  · intro h
    exact ⟨_, stripped_trim _, h⟩
  · rintro ⟨core, hcore, hsame⟩
    rwa [hcore.trim_eq]

/-- Neither blanks around a text nor the case of its letters change what it means. -/
theorem spells_pad {before after : List Char} (hbefore : ∀ c ∈ before, isBlank c = true)
    (hafter : ∀ c ∈ after, isBlank c = true) {typed typed' : String}
    (hsame : SameButCase typed.toList typed'.toList) :
    spells (String.ofList (before ++ typed'.toList ++ after)) = spells typed := by
  have hlower : typed.toList.map Char.toLower = typed'.toList.map Char.toLower :=
    beq_iff_eq.mp ((sameLetters_iff _ _).mpr hsame)
  funext name
  rw [spells, spells, String.toList_ofList, trim_pad hbefore hafter, sameLetters, sameLetters,
    ← trim_map_toLower, ← trim_map_toLower, hlower]

/-- A text that means two names makes them the same but for case. -/
theorem sameButCase_of_spells {typed a b : String} (ha : spells typed a = true)
    (hb : spells typed b = true) : SameButCase a.toList b.toList := by
  rw [spells, sameLetters, beq_iff_eq] at ha hb
  rw [← sameLetters_iff, sameLetters, beq_iff_eq, ← ha, hb]

/-- A name without blanks at its ends means itself. -/
theorem means_self {name : String} (h : trim name.toList = name.toList) : Means name name := by
  refine ⟨name.toList, trim_eq_iff.mp h, (sameLetters_iff _ _).mp ?_⟩
  simp [sameLetters]

/-- If no two elements pass a test, the first that passes is the one that does. -/
theorem find?_eq_some_iff_of_unique {α : Type} {xs : List α} {p : α → Bool}
    (hunique : ∀ x ∈ xs, ∀ y ∈ xs, p x = true → p y = true → x = y) {x : α} :
    xs.find? p = some x ↔ x ∈ xs ∧ p x = true := by
  constructor
  · intro h
    exact ⟨List.mem_of_find?_eq_some h, List.find?_some h⟩
  · rintro ⟨hx, hp⟩
    obtain ⟨y, hy⟩ := Option.isSome_iff_exists.mp (List.find?_isSome.mpr ⟨x, hx, hp⟩)
    rw [hy, hunique y (List.mem_of_find?_eq_some hy) x hx (List.find?_some hy) hp]

end Text

open Text

/-! ## Methods -/

namespace Method

theorem mem_all (method : Method) : method ∈ all := by
  cases method <;> decide

/-- The names of different methods differ in more than case. -/
theorem eq_of_sameButCase {s t : Method} {a b : String} (ha : a ∈ s.spellings)
    (hb : b ∈ t.spellings) (h : SameButCase a.toList b.toList) : s = t := by
  have hdistinct : ∀ s ∈ all, ∀ t ∈ all, ∀ a ∈ s.spellings, ∀ b ∈ t.spellings,
      sameLetters a.toList b.toList = true → s = t := by decide +kernel
  exact hdistinct s s.mem_all t t.mem_all a ha b hb ((sameLetters_iff _ _).mpr h)

theorem parse?_eq_some_iff (typed : String) (method : Method) :
    parse? typed = some method ↔ ∃ name ∈ method.spellings, Means typed name := by
  have hunique : ∀ s ∈ all, ∀ t ∈ all, s.spellings.any (spells typed) = true →
      t.spellings.any (spells typed) = true → s = t := by
    intro s _ t _ hs ht
    obtain ⟨a, ha, hspells⟩ := List.any_eq_true.mp hs
    obtain ⟨b, hb, hspells'⟩ := List.any_eq_true.mp ht
    exact eq_of_sameButCase ha hb (sameButCase_of_spells hspells hspells')
  rw [parse?, find?_eq_some_iff_of_unique hunique, List.any_eq_true]
  simp only [spells_iff, method.mem_all, true_and]

theorem parse?_spelling {method : Method} {name : String} (h : name ∈ method.spellings) :
    parse? name = some method := by
  have htrim : ∀ method ∈ all, ∀ name ∈ method.spellings, trim name.toList = name.toList := by
    decide +kernel
  exact (parse?_eq_some_iff name method).mpr
    ⟨name, h, means_self (htrim method method.mem_all name h)⟩

theorem parse_eq_ok_iff (typed : String) (method : Method) :
    parse typed = .ok method ↔ parse? typed = some method := by
  unfold parse
  cases parse? typed <;> simp

theorem parse_eq_error_iff (typed : String) (error : Error) :
    parse typed = .error error ↔ parse? typed = none ∧ error = .unknownMethod := by
  unfold parse
  cases parse? typed <;> simp [eq_comm]

end Method

/-! ## Algorithms -/

namespace Catalogue

/-- The names of different algorithms differ in more than case. -/
theorem nodup_names : (algorithms.map fun a => a.name.toList.map Char.toLower).Nodup := by
  -- Numbers that are made of the letters are compared faster than lists of them.
  have hnumbers : ((algorithms.map fun a => a.name.toList.map Char.toLower).map fun cs =>
      cs.foldl (fun n c => 128 * n + c.toNat) 0).Nodup := by decide +kernel
  exact .of_map _ hnumbers

theorem eq_of_sameButCase {a b : Algorithm} (ha : a ∈ algorithms) (hb : b ∈ algorithms)
    (h : SameButCase a.name.toList b.name.toList) : a = b := by
  have hlower : a.name.toList.map Char.toLower = b.name.toList.map Char.toLower :=
    beq_iff_eq.mp ((sameLetters_iff _ _).mpr h)
  exact List.inj_on_of_nodup_map nodup_names ha hb hlower

theorem find?_eq_some_iff (typed : String) (a : Algorithm) :
    find? typed = some a ↔ a ∈ algorithms ∧ Means typed a.name := by
  have hunique : ∀ a ∈ algorithms, ∀ b ∈ algorithms, spells typed a.name = true →
      spells typed b.name = true → a = b :=
    fun a ha b hb hspells hspells' =>
      eq_of_sameButCase ha hb (sameButCase_of_spells hspells hspells')
  rw [find?, find?_eq_some_iff_of_unique hunique, spells_iff]

theorem find?_name {a : Algorithm} (h : a ∈ algorithms) : find? a.name = some a := by
  have htrim : ∀ a ∈ algorithms, trim a.name.toList = a.name.toList := by decide +kernel
  exact (find?_eq_some_iff a.name a).mpr ⟨h, means_self (htrim a h)⟩

theorem find_eq_ok_iff (typed : String) (a : Algorithm) :
    find typed = .ok a ↔ find? typed = some a := by
  unfold find
  cases find? typed <;> simp

theorem find_eq_error_iff (typed : String) (error : Error) :
    find typed = .error error ↔ find? typed = none ∧ error = .unknownAlgorithm := by
  unfold find
  cases find? typed <;> simp [eq_comm]

end Catalogue

/-- A text finds an algorithm exactly if it means the name under which the algorithm is published,
and a method exactly if it means one of the method's names. Names of different algorithms differ in
more than case, as do names of different methods, and every name finds what it is the name of. So
neither blanks around a text nor the case of its letters change what it finds, and an error is given
exactly if nothing is found. -/
theorem Catalogue.lookups_by_meaning :
    ((∀ typed a, find? typed = some a ↔ a ∈ algorithms ∧ Means typed a.name) ∧
        (∀ a ∈ algorithms, ∀ b ∈ algorithms, SameButCase a.name.toList b.name.toList → a = b) ∧
        ∀ a ∈ algorithms, find? a.name = some a) ∧
      ((∀ typed method, Method.parse? typed = some method ↔
          ∃ name ∈ method.spellings, Means typed name) ∧
        (∀ s t : Method, ∀ a ∈ s.spellings, ∀ b ∈ t.spellings,
          SameButCase a.toList b.toList → s = t) ∧
        ∀ method : Method, ∀ name ∈ method.spellings, Method.parse? name = some method) ∧
      (∀ before after : List Char, (∀ c ∈ before, isBlank c = true) →
        (∀ c ∈ after, isBlank c = true) →
          ∀ typed typed' : String, SameButCase typed.toList typed'.toList →
            find? (String.ofList (before ++ typed'.toList ++ after)) = find? typed ∧
              Method.parse? (String.ofList (before ++ typed'.toList ++ after)) =
                Method.parse? typed) ∧
      ∀ typed,
        (∀ a, find typed = .ok a ↔ find? typed = some a) ∧
          (∀ error, find typed = .error error ↔ find? typed = none ∧ error = .unknownAlgorithm) ∧
          (∀ method, Method.parse typed = .ok method ↔ Method.parse? typed = some method) ∧
          ∀ error, Method.parse typed = .error error ↔
            Method.parse? typed = none ∧ error = .unknownMethod := by
  refine ⟨⟨find?_eq_some_iff, fun a ha b hb => eq_of_sameButCase ha hb, fun a => find?_name⟩,
    ⟨Method.parse?_eq_some_iff, fun s t a ha b hb => Method.eq_of_sameButCase ha hb,
      fun method name => Method.parse?_spelling⟩,
    fun before after hbefore hafter typed typed' hsame => ?_, fun typed => ?_⟩
  · have hspells := spells_pad hbefore hafter hsame
    exact ⟨by rw [find?, hspells, find?], by rw [Method.parse?, hspells, Method.parse?]⟩
  · exact ⟨find_eq_ok_iff typed, find_eq_error_iff typed, Method.parse_eq_ok_iff typed,
      Method.parse_eq_error_iff typed⟩

/-- Blanks of two kinds around a name, and letters in both cases. -/
theorem Catalogue.lookups_by_meaning_crc16Arc :
    let typed := String.ofList (['\t', '\u3000'] ++ "crC-16/aRC".toList ++ ['\u00A0'])
    crc16Arc ∈ algorithms ∧ SameButCase crc16Arc.name.toList "crC-16/aRC".toList ∧
      find? typed = some crc16Arc ∧ Means typed crc16Arc.name ∧ find typed = .ok crc16Arc ∧
      Method.parse? (String.ofList (['\n'] ++ "BitWise".toList ++ [])) = some .bitSerial := by
  intro typed
  obtain ⟨⟨hfind, -, hname⟩, ⟨-, -, hmethod⟩, halike, herror⟩ := lookups_by_meaning
  have hmem : crc16Arc ∈ algorithms := by decide +kernel
  have hsame : SameButCase crc16Arc.name.toList "crC-16/aRC".toList :=
    (sameLetters_iff _ _).mp (by decide +kernel)
  have hbitwise : SameButCase "bitwise".toList "BitWise".toList :=
    (sameLetters_iff _ _).mp (by decide +kernel)
  have hblank : ∀ {cs : List Char}, cs.all isBlank = true → ∀ c ∈ cs, isBlank c = true :=
    List.all_eq_true.mp
  have hfound : find? typed = some crc16Arc :=
    (halike _ _ (hblank rfl) (hblank rfl) _ _ hsame).1.trans (hname _ hmem)
  exact ⟨hmem, hsame, hfound, ((hfind _ _).mp hfound).2, ((herror typed).1 _).mpr hfound,
    (halike _ _ (hblank rfl) (hblank rfl) _ _ hbitwise).2.trans
      (hmethod .bitSerial "bitwise" (by decide))⟩

/-- The sign of the unit kelvin is not a letter of ASCII. -/
example : Catalogue.find? "CRC-16/\u212aERMIT" = none := by decide +kernel

end CyclicRedundancy
