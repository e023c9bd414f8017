import TypeGuards.Guard
import TypeGuards.Proofs.Encoding.Utf8
import TypeGuards.Proofs.Script.Token
/-!
The name of a guard is an identifier if that of its interface is. Upper case takes letters to
letters: no entry of the case tables leads to punctuation.
-/
namespace TypeGuards

open Script TypeScript Text CaseTable

/-- Code points that all punctuation lies in. -/
def punctuationRanges : List (Nat × Nat) :=
  [(0x00, 0x23), (0x25, 0x2f), (0x3a, 0x40), (0x5b, 0x5e), (0x60, 0x60), (0x7b, 0x7e), (0xa0, 0xa0),
   (0x1680, 0x1680), (0x2000, 0x200b), (0x2028, 0x2029), (0x202f, 0x202f), (0x205f, 0x2060),
   (0x3000, 0x3000), (0xfeff, 0xfeff)]

theorem exists_range_of_isPunctuation {c : Char} (h : isPunctuation c = true) :
    ∃ r ∈ punctuationRanges, r.1 ≤ c.toNat ∧ c.toNat ≤ r.2 := by
  have hsigns : ":;\x60\"'@#.,|^&<=>+-*/\\%?!~()[]\x7b\x7d".toList.all (fun d =>
      punctuationRanges.any fun r => r.1 ≤ d.toNat ∧ d.toNat ≤ r.2) = true := by decide
  simp only [List.all_eq_true, List.any_eq_true, decide_eq_true_eq] at hsigns
  simp only [isPunctuation, Bool.or_eq_true, decide_eq_true_eq, List.contains_iff_mem] at h
  rcases h with (hcontrol | hblank) | hmem
  · exact ⟨(0x00, 0x23), by decide, Nat.zero_le _, by omega⟩
  · simp only [isBlank, isAsciiBlank, isSpaceSeparator, Bool.or_eq_true, Bool.and_eq_true,
      decide_eq_true_eq] at hblank
    have hspace : c = ' ' ↔ c.toNat = 0x20 := Char.toNat_inj.symm
    rw [hspace] at hblank
    simp only [punctuationRanges, List.mem_cons, List.not_mem_nil, or_false, or_and_right, exists_or,
      exists_eq_left]
    omega
  · exact hsigns c hmem

/-- Characters from one code point to another, none of which is punctuation. -/
def IsClear (first last : Int) : Prop :=
  (0 ≤ first ∧ last < 0xd800 ∨ 0xe000 ≤ first ∧ last < 0x110000) ∧
    ∀ r ∈ punctuationRanges, last < r.1 ∨ r.2 < first

instance (first last : Int) : Decidable (IsClear first last) := inferInstanceAs (Decidable (_ ∧ _))

theorem IsClear.isPunctuation_ofNat {first last : Int} (h : IsClear first last) {n : Nat}
    (hfirst : first ≤ n) (hlast : n ≤ last) : isPunctuation (Char.ofNat n) = false := by
  obtain ⟨hvalid, hranges⟩ := h
  have hn : (Char.ofNat n).toNat = n := by
    apply Encoding.Utf8.toNat_ofNat
    unfold Nat.isValidChar
    omega
  cases hp : isPunctuation (Char.ofNat n) with
  | false => rfl
  | true =>
    obtain ⟨r, hr, hlow, hhigh⟩ := exists_range_of_isPunctuation hp
    have hout := hranges r hr
    rw [hn] at hlow hhigh
    omega

/-- No character has punctuation for its capital, run by run. -/
theorem isClear_of_mem_upperRuns :
    ∀ r ∈ upperRuns, IsClear (r.first + r.offset) (r.last + r.offset) := by decide +kernel

/-- The same for characters whose capitals are several. -/
theorem isClear_of_mem_upperExpansions :
    ∀ e ∈ upperExpansions, ∀ n ∈ e.2, IsClear n n := by decide +kernel

/-- A character that upper case changes becomes no punctuation. -/
theorem eq_of_mem_upperChar {c d : Char} (hd : d ∈ upperChar c) : isPunctuation d = false ∨ d = c := by
  unfold upperChar mapCase at hd
  split at hd
  next ns hlookup =>
    obtain ⟨n, hn, rfl⟩ := List.mem_map.mp hd
    have hmem : (c.toNat, ns) ∈ upperExpansions := by
      obtain ⟨before, after, heq, -⟩ := List.lookup_eq_some_iff.mp hlookup
      rw [heq]
      exact List.mem_append_right before List.mem_cons_self
    left
    exact (isClear_of_mem_upperExpansions _ hmem n hn).isPunctuation_ofNat (Int.le_refl _)
      (Int.le_refl _)
  next =>
    split at hd
    next r hfind =>
      obtain rfl := List.mem_singleton.mp hd
      have hclear := isClear_of_mem_upperRuns r (List.mem_of_find?_eq_some hfind)
      have hholds := List.find?_some hfind
      simp only [Run.holds, Bool.and_eq_true, decide_eq_true_eq] at hholds
      obtain ⟨⟨hfirst, hlast⟩, -⟩ := hholds
      have hvalid := hclear.1
      left
      apply hclear.isPunctuation_ofNat <;> omega
    next => exact Or.inr (List.mem_singleton.mp hd)

/-- Upper case of a letter has no punctuation. -/
theorem isPunctuation_of_mem_upperChar {c d : Char} (hc : isPunctuation c = false)
    (hd : d ∈ upperChar c) : isPunctuation d = false := by
  rcases eq_of_mem_upperChar hd with hletter | rfl
  · exact hletter
  · exact hc

/-- The guard of an identifier is named by an identifier. -/
theorem guardName_of_isIdentifier {name : String} (h : IsIdentifier name) :
    ∃ guard, guardName name = .ok guard ∧ IsIdentifier guard := by
  obtain ⟨c, more, hname, hc, -, hmore⟩ := h.exists_cons
  refine ⟨String.ofList ('i' :: 's' :: upperChar c ++ more), by rw [guardName, hname], ?_, ?_⟩
  · rw [List.all_eq_true]
    intro d hd
    rw [String.toList_ofList, List.cons_append, List.cons_append] at hd
    simp only [List.mem_cons, List.mem_append] at hd
    rcases hd with rfl | rfl | hd | hd
    · decide
    · decide
    · rw [isPunctuation_of_mem_upperChar hc hd]
      rfl
    · rw [hmore d hd]
      rfl
  · rw [String.toList_ofList]
    rfl

end TypeGuards
