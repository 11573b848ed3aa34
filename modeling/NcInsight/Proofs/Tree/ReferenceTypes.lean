import Mathlib.Data.Nat.Bitwise
import NcInsight.Proofs.Json.Text
import NcInsight.Tree.ReferenceTypes

/-
The written form of a set of uses.

A set is written as its parts between bars, and no part has a blank or a bar in it.  So
splitting the text at the bars and trimming gives the parts back (`map_trimBoth_splitAt`), and
the union of what they stand for is the set (`ofText?_render`), the bits without a name among them.
-/
namespace NcInsight

namespace Number

/-! ## Hexadecimal digits -/

theorem exists_digits_hexFuel {fuel n : Nat} (hn : n < fuel) (tail : List Char) :
    ∃ ds, hexFuel fuel n tail = ds.map hexDigit ++ tail ∧ ds ≠ [] ∧ (∀ d ∈ ds, d < 16) ∧
      ofValues 16 ds = n := by
  induction fuel generalizing n tail with
  | zero => omega
  | succ fuel ih =>
      rw [hexFuel]
      by_cases hlt : n < 16
      · refine ⟨[n % 16], by simp [hlt], List.cons_ne_nil _ _, ?_, ?_⟩
        · intro d hd
          rw [List.mem_singleton.mp hd]
          omega
        · simp only [ofValues, List.foldl_cons, List.foldl_nil]
          omega
      · obtain ⟨ds, hds, -, hsmall, hvalue⟩ :=
          ih (show n / 16 < fuel by omega) (hexDigit (n % 16) :: tail)
        refine ⟨ds ++ [n % 16], by simp [hlt, hds], by simp, ?_, ?_⟩
        · intro d hd
          rcases List.mem_append.mp hd with hd | hd
          · exact hsmall d hd
          · rw [List.mem_singleton.mp hd]
            omega
        · rw [ofValues, List.foldl_append]
          show ofValues 16 ds * 16 + n % 16 = n
          rw [hvalue]
          omega

theorem exists_digits_hex (n : Nat) : ∃ ds, hex n = ds.map hexDigit ∧ ds ≠ [] ∧
    (∀ d ∈ ds, d < 16) ∧ ofValues 16 ds = n := by
  obtain ⟨ds, hds, h⟩ := exists_digits_hexFuel (Nat.lt_succ_self n) []
  rw [List.append_nil] at hds
  exact ⟨ds, hds, h⟩

theorem ofHex?_map_hexDigit {ds : List Nat} (h : ∀ d ∈ ds, d < 16) :
    ofHex? (ds.map hexDigit) = some (ofValues 16 ds) := by
  have hread : (ds.map hexDigit).mapM hexValue? = some ds := by
    induction ds with
    | nil => rfl
    | cons d ds ih =>
        have hd := hexValue?_hexDigit (h d List.mem_cons_self)
        simp [hd, ih fun e he => h e (List.mem_cons_of_mem d he)]
  rw [ofHex?, hread]
  rfl

end Number

namespace Text

/-- Characters that neither trimming nor splitting takes away. -/
def IsSolid (cs : List Char) : Prop := ∀ c ∈ cs, isBlank c = false ∧ c ≠ '|'

theorem trimBoth_of_isSolid {cs : List Char} (h : IsSolid cs) : trimBoth isBlank cs = cs := by
  have hdrop : ∀ ds : List Char, (∀ c ∈ ds, isBlank c = false) → ds.dropWhile isBlank = ds := by
    intro ds hds
    cases ds with
    | nil => rfl
    | cons d ds => simp [hds d List.mem_cons_self]
  rw [trimBoth, hdrop cs fun c hc => (h c hc).1,
    hdrop cs.reverse fun c hc => (h c (List.mem_reverse.mp hc)).1, List.reverse_reverse]

theorem trimBoth_cons_of_isBlank {c : Char} (hc : isBlank c = true) (cs : List Char) :
    trimBoth isBlank (c :: cs) = trimBoth isBlank cs := by
  simp [trimBoth, hc]

theorem trimBoth_concat_of_isBlank {c : Char} (hc : isBlank c = true) (cs : List Char) :
    trimBoth isBlank (cs ++ [c]) = trimBoth isBlank cs := by
  rw [trimBoth, trimBoth, List.dropWhile_append]
  by_cases hall : (cs.dropWhile isBlank).isEmpty = true
  · rw [List.isEmpty_iff.mp hall]
    simp [hc]
  · rw [if_neg hall, List.reverse_append]
    simp [hc]

theorem splitAt_of_not_mem {sep : Char} {cs : List Char} (h : sep ∉ cs) :
    splitAt sep cs = [cs] := by
  induction cs with
  | nil => rfl
  | cons c cs ih =>
      rw [List.mem_cons, not_or] at h
      rw [splitAt, if_neg (Ne.symm h.1), ih h.2]

theorem splitAt_append {sep : Char} {cs : List Char} (h : sep ∉ cs) (r : List Char) :
    splitAt sep (cs ++ sep :: r) = cs :: splitAt sep r := by
  induction cs with
  | nil => simp [splitAt]
  | cons c cs ih =>
      rw [List.mem_cons, not_or] at h
      rw [List.cons_append, splitAt, if_neg (Ne.symm h.1), ih h.2]

/-- A blank in front of a text goes with the first part. -/
theorem map_trimBoth_splitAt_cons {c : Char} (hc : isBlank c = true) (hsep : c ≠ '|')
    (cs : List Char) : (splitAt '|' (c :: cs)).map (trimBoth isBlank) =
      (splitAt '|' cs).map (trimBoth isBlank) := by
  have hne : splitAt '|' cs ≠ [] := by
    cases cs with
    | nil => simp [splitAt]
    | cons d ds =>
        rw [splitAt]
        split
        · simp
        · split <;> simp
  rw [splitAt, if_neg hsep]
  cases hparts : splitAt '|' cs with
  | nil => exact absurd hparts hne
  | cons p ps => simp [trimBoth_cons_of_isBlank hc]

theorem map_trimBoth_splitAt {ps : List (List Char)} (hne : ps ≠ [])
    (hsolid : ∀ p ∈ ps, IsSolid p) :
    (splitAt '|' ([' ', '|', ' '].intercalate ps)).map (trimBoth isBlank) = ps := by
  have hblank : isBlank ' ' = true := by decide
  have hbar : ∀ p ∈ ps, '|' ∉ p := fun p hp hmem => (hsolid p hp '|' hmem).2 rfl
  induction ps with
  | nil => exact absurd rfl hne
  | cons p ps ih =>
      have hp := trimBoth_of_isSolid (hsolid p List.mem_cons_self)
      have hfree := hbar p List.mem_cons_self
      cases ps with
      | nil =>
          rw [List.intercalate_singleton, splitAt_of_not_mem hfree]
          simp [hp]
      | cons q qs =>
          have hrest := ih (List.cons_ne_nil q qs)
            (fun r hr => hsolid r (List.mem_cons_of_mem p hr))
            fun r hr => hbar r (List.mem_cons_of_mem p hr)
          have htext : [' ', '|', ' '].intercalate (p :: q :: qs) =
              (p ++ [' ']) ++ '|' :: ' ' :: [' ', '|', ' '].intercalate (q :: qs) := by
            simp [List.intercalate_cons_cons]
          have hfirst : '|' ∉ p ++ [' '] := by simp [hfree]
          rw [htext, splitAt_append hfirst, List.map_cons, trimBoth_concat_of_isBlank hblank, hp,
            map_trimBoth_splitAt_cons hblank (by decide), hrest]

theorem isSolid_hexDigit {d : Nat} (hd : d < 16) :
    isBlank (Number.hexDigit d) = false ∧ Number.hexDigit d ≠ '|' ∧ Number.hexDigit d ≠ '+' := by
  revert d
  decide

end Text

namespace ReferenceTypes

/-! ## The parts of a set -/

/-- What the parts of the written form stand for. -/
def sets (a : ReferenceTypes) : List ReferenceTypes :=
  (ReferenceType.all.filter a.has).map single ++ if a.rest = 0 then [] else [⟨a.rest⟩]

theorem and_bit (b : UInt8) (r : ReferenceType) : b &&& r.bit = 0 ∨ b &&& r.bit = r.bit := by
  have hpow : ∃ i, r.bit.toNat = 2 ^ i := by
    cases r
    · exact ⟨0, rfl⟩
    · exact ⟨1, rfl⟩
    · exact ⟨2, rfl⟩
    · exact ⟨3, rfl⟩
  obtain ⟨i, hi⟩ := hpow
  have hand : (b &&& r.bit).toNat = (b.toNat.testBit i).toNat * r.bit.toNat := by
    rw [UInt8.toNat_and, hi, Nat.and_two_pow]
  cases hbit : b.toNat.testBit i with
  | false =>
      left
      apply UInt8.toNat_inj.mp
      rw [hand, hbit]
      simp
  | true =>
      right
      apply UInt8.toNat_inj.mp
      rw [hand, hbit]
      simp

/-- The named members add the bits that the set has. -/
theorem foldl_union_has (a : ReferenceTypes) (rs : List ReferenceType) (x : ReferenceTypes) :
    ((rs.filter a.has).map single).foldl union x =
      rs.foldl (fun x r => ⟨x.bits ||| a.bits &&& r.bit⟩) x := by
  induction rs generalizing x with
  | nil => rfl
  | cons r rs ih =>
      have hhas : a.has r = (a.bits &&& r.bit == r.bit) := rfl
      rcases and_bit a.bits r with h | h
      · have hnot : a.has r = false := by
          rw [hhas, h]
          cases r <;> decide
        rw [List.filter_cons_of_neg (by simp [hnot]), ih, List.foldl_cons, h, UInt8.or_zero]
      · have hin : a.has r = true := by
          rw [hhas, h]
          exact beq_self_eq_true r.bit
        rw [List.filter_cons_of_pos hin, List.map_cons, List.foldl_cons, ih, List.foldl_cons, h]
        rfl

/-- The named bits and the others are together all eight. -/
theorem union_bits (b : UInt8) :
    b &&& 1 ||| b &&& 2 ||| b &&& 4 ||| b &&& 8 ||| b &&& 0xF0 = b := by
  apply UInt8.toNat_inj.mp
  have hmask : b.toNat &&& 255 = b.toNat := Nat.and_two_pow_sub_one_of_lt_two_pow b.toNat_lt
  simp only [UInt8.toNat_or, UInt8.toNat_and, ← Nat.and_or_distrib_left]
  exact hmask

theorem foldl_union_sets (a : ReferenceTypes) : a.sets.foldl union empty = a := by
  have hrest : ∀ x : ReferenceTypes, (if a.rest = 0 then [] else [⟨a.rest⟩]).foldl union x =
      ⟨x.bits ||| a.rest⟩ := by
    intro x
    by_cases h : a.rest = 0
    · rw [if_pos h, h, UInt8.or_zero]
      rfl
    · rw [if_neg h]
      rfl
  have hnamed := foldl_union_has a ReferenceType.all empty
  have hbits := union_bits a.bits
  rw [sets, List.foldl_append, hrest, hnamed]
  simp only [ReferenceType.all, List.foldl_cons, List.foldl_nil, ReferenceType.bit, empty, rest,
    UInt8.zero_or]
  rw [hbits]

/-! ## Reading the written form -/

theorem part?_flag (r : ReferenceType) : part? r.flag.toList = some (single r) := by
  cases r <;> decide

theorem isSolid_flag (r : ReferenceType) : Text.IsSolid r.flag.toList := by
  have hall : (r.flag.toList.all fun c => !Text.isBlank c && c != '|') = true := by
    cases r <;> decide
  intro c hc
  simpa using List.all_eq_true.mp hall c hc

theorem part?_hex (b : UInt8) : part? ('0' :: 'x' :: Number.hex b.toNat) = some ⟨b⟩ := by
  have hlt : b.toNat < 256 := b.toNat_lt
  obtain ⟨ds, hds, hne, hsmall, hvalue⟩ := Number.exists_digits_hex b.toNat
  have hread := Number.ofHex?_map_hexDigit hsmall
  cases ds with
  | nil => exact absurd rfl hne
  | cons d ds =>
      have hplus := (Text.isSolid_hexDigit (hsmall d List.mem_cons_self)).2.2
      rw [hvalue, List.map_cons] at hread
      have hbits : hexBits? (Number.hexDigit d :: ds.map Number.hexDigit) = some b := by
        unfold hexBits?
        split
        case h_1 r heq => exact absurd (List.cons.inj heq).1 hplus
        case h_2 => simp [hread, hlt]
      rw [hds, List.map_cons, part?, hbits]
      rfl

theorem isSolid_hex (n : Nat) : Text.IsSolid ('0' :: 'x' :: Number.hex n) := by
  obtain ⟨ds, hds, -, hsmall, -⟩ := Number.exists_digits_hex n
  intro c hc
  rw [hds, List.mem_cons, List.mem_cons, List.mem_map] at hc
  rcases hc with rfl | rfl | ⟨d, hd, rfl⟩
  · decide
  · decide
  · obtain ⟨hblank, hbar, -⟩ := Text.isSolid_hexDigit (hsmall d hd)
    exact ⟨hblank, hbar⟩

/-- The characters of the parts. -/
theorem toList_parts (a : ReferenceTypes) : a.parts.map String.toList =
    (ReferenceType.all.filter a.has).map (fun r => r.flag.toList) ++
      if a.rest = 0 then [] else ['0' :: 'x' :: Number.hex a.rest.toNat] := by
  rw [parts, List.map_append, List.map_map]
  congr 1
  split <;> simp

theorem mapM_parts (a : ReferenceTypes) : (a.parts.map String.toList).mapM part? = some a.sets := by
  have hflags : ∀ rs : List ReferenceType,
      (rs.map fun r => r.flag.toList).mapM part? = some (rs.map single) := by
    intro rs
    induction rs with
    | nil => rfl
    | cons r rs ih => simp [part?_flag, ih]
  rw [toList_parts, List.mapM_append, hflags, sets]
  by_cases h : a.rest = 0
  · simp [h]
  · simp [h, part?_hex]

theorem isSolid_of_mem_parts {a : ReferenceTypes} {cs : List Char}
    (h : cs ∈ a.parts.map String.toList) : Text.IsSolid cs ∧ cs ≠ [] := by
  rw [toList_parts, List.mem_append, List.mem_map] at h
  rcases h with ⟨r, -, rfl⟩ | h
  · exact ⟨isSolid_flag r, by cases r <;> decide⟩
  · split at h
    · cases h
    · rw [List.mem_singleton.mp h]
      exact ⟨isSolid_hex _, List.cons_ne_nil _ _⟩

theorem mem_intercalate_of_mem_head {sep p : List Char} {ps : List (List Char)} {c : Char}
    (hc : c ∈ p) : c ∈ sep.intercalate (p :: ps) := by
  cases ps with
  | nil => simpa using hc
  | cons q qs => simp [List.intercalate_cons_cons, hc]

/-- What is written is read back, the bits without a name too. -/
theorem ofText?_render (a : ReferenceTypes) : ofText? a.render = some a := by
  have htext : a.render.toList = [' ', '|', ' '].intercalate (a.parts.map String.toList) := by
    rw [render, String.toList_intercalate]
    rfl
  have hread := mapM_parts a
  have hunion := foldl_union_sets a
  cases hparts : a.parts.map String.toList with
  | nil =>
      -- without parts the set is the union of nothing
      rw [hparts] at hread htext
      have hsets : a.sets = [] := by simpa using hread.symm
      rw [hsets] at hunion
      rw [ofText?, htext, ← hunion]
      rfl
  | cons p ps =>
      have hsolid : ∀ q ∈ p :: ps, Text.IsSolid q ∧ q ≠ [] := fun q hq =>
        isSolid_of_mem_parts (hparts ▸ hq)
      have hsplit := Text.map_trimBoth_splitAt (List.cons_ne_nil p ps) fun q hq => (hsolid q hq).1
      rw [hparts] at hread htext
      obtain ⟨hp, hne⟩ := hsolid p List.mem_cons_self
      obtain ⟨c, hc⟩ := List.exists_mem_of_ne_nil p hne
      have hnot : ¬ (a.render.toList.all Text.isBlank = true) := by
        intro hall
        have hblank := List.all_eq_true.mp hall c (htext ▸ mem_intercalate_of_mem_head hc)
        rw [(hp c hc).1] at hblank
        cases hblank
      rw [← hsplit, ← htext, List.mapM_map] at hread
      show (if a.render.toList.all Text.isBlank = true then some empty else _) = some a
      rw [if_neg hnot]
      show Option.map _ ((Text.splitAt '|' a.render.toList).mapM
        (part? ∘ Text.trimBoth Text.isBlank)) = some a
      rw [hread, Option.map_some, hunion]

end ReferenceTypes
end NcInsight
