import Mathlib.Order.Basic
import NcInsight.Text.Bytes

/-
Texts in the order of their bytes.

`lt` compares character by character.  Of two characters the one with the smaller code point also
has the smaller encoding, and it shows within the shorter of the two (`utf8EncodeChar_lt`), so `lt`
is the lexicographic order of the encoded texts (`lt_iff_bytes_lt`), and a strict total one.
-/
namespace NcInsight
namespace Text

theorem lt_irrefl (cs : List Char) : lt cs cs = false := by
  induction cs with
  | nil => rfl
  | cons c cs ih => simp [lt, ih]

theorem lt_trans {a b c : List Char} (hab : lt a b = true) (hbc : lt b c = true) :
    lt a c = true := by
  induction a generalizing b c with
  | nil =>
      cases c with
      | nil => cases b <;> simp [lt] at hbc
      | cons z c => rfl
  | cons x a ih =>
      cases b with
      | nil => simp [lt] at hab
      | cons y b =>
          cases c with
          | nil => simp [lt] at hbc
          | cons z c =>
              simp only [lt, Bool.or_eq_true, Bool.and_eq_true, decide_eq_true_eq,
                beq_iff_eq] at hab hbc ⊢
              rcases hab with hxy | ⟨hxy, hab⟩
              · rcases hbc with hyz | ⟨hyz, -⟩
                · exact .inl (Nat.lt_trans hxy hyz)
                · exact .inl (hyz ▸ hxy)
              · rcases hbc with hyz | ⟨hyz, hbc⟩
                · exact .inl (hxy ▸ hyz)
                · exact .inr ⟨hxy.trans hyz, ih hab hbc⟩

theorem lt_asymm {a b : List Char} (h : lt a b = true) : lt b a = false := by
  by_contra hba
  have haa := lt_trans h (by simpa using hba)
  rw [lt_irrefl] at haa
  cases haa

theorem lt_total {a b : List Char} (hab : lt a b = false) (hne : a ≠ b) : lt b a = true := by
  induction a generalizing b with
  | nil =>
      cases b with
      | nil => exact absurd rfl hne
      | cons y b => simp [lt] at hab
  | cons x a ih =>
      cases b with
      | nil => rfl
      | cons y b =>
          simp only [lt, Bool.or_eq_false_iff, Bool.and_eq_false_iff, decide_eq_false_iff_not,
            beq_eq_false_iff_ne, Bool.or_eq_true, Bool.and_eq_true, decide_eq_true_eq,
            beq_iff_eq] at hab ⊢
          rcases Nat.lt_trichotomy x.toNat y.toNat with hlt | heq | hgt
          · exact absurd hlt hab.1
          · refine .inr ⟨heq.symm, ih (hab.2.resolve_left fun h => h heq) ?_⟩
            rintro rfl
            exact hne (by rw [Char.toNat_inj.mp heq])
          · exact .inl hgt

/-! ## The encoding -/

/-- The UTF-8 bytes of a text. -/
def bytes (s : String) : List UInt8 := s.toByteArray.data.toList

theorem bytes_eq (s : String) : bytes s = s.toList.flatMap String.utf8EncodeChar := by
  rw [bytes, ← String.utf8Encode_toList, List.utf8Encode, List.toList_data_toByteArray]

/-- Encodings compare as code points do, whatever follows. -/
theorem utf8EncodeChar_lt {c d : Char} (h : c.toNat < d.toNat) (xs ys : List UInt8) :
    String.utf8EncodeChar c ++ xs < String.utf8EncodeChar d ++ ys := by
  have hvalid : d.val.toNat < 0x110000 := by
    rcases d.valid with hd | ⟨-, hd⟩
    · exact Nat.lt_trans hd (by decide)
    · exact hd
  have hval : c.val.toNat < d.val.toNat := h
  have hbyte (n : Nat) (hn : n < 256) : (UInt8.ofNat n).toNat = n := UInt8.toNat_ofNat_of_lt' hn
  -- the bytes after the first are digits to base 64
  have hdigit (n : Nat) : n / 4096 = n / 64 / 64 ∧ n / 262144 = n / 64 / 64 / 64 := by omega
  unfold String.utf8EncodeChar
  dsimp only
  generalize c.val.toNat = m at hval
  generalize d.val.toNat = n at hval hvalid
  split_ifs
  all_goals
    simp (disch := omega) only [List.cons_append, List.nil_append, List.cons_lt_cons_iff,
      UInt8.lt_iff_toNat_lt, ← UInt8.toNat_inj, hbyte, hdigit]
    omega

theorem flatMap_lt_of_lt {a b : List Char} (h : lt a b = true) :
    a.flatMap String.utf8EncodeChar < b.flatMap String.utf8EncodeChar := by
  induction a generalizing b with
  | nil =>
      cases b with
      | nil => simp [lt] at h
      | cons d b =>
          have hne : String.utf8EncodeChar d ≠ [] := by simp
          obtain ⟨byte, more, he⟩ := List.exists_cons_of_ne_nil hne
          rw [List.flatMap_nil, List.flatMap_cons, he, List.cons_append]
          exact List.nil_lt_cons byte _
  | cons c a ih =>
      cases b with
      | nil => simp [lt] at h
      | cons d b =>
          rw [List.flatMap_cons, List.flatMap_cons]
          simp only [lt, Bool.or_eq_true, Bool.and_eq_true, decide_eq_true_eq, beq_iff_eq] at h
          rcases h with hcd | ⟨hcd, hab⟩
          · exact utf8EncodeChar_lt hcd _ _
          · rw [Char.toNat_inj.mp hcd]
            exact List.append_left_lt (ih hab)

theorem lt_iff_bytes_lt (s t : String) : lt s.toList t.toList = true ↔ bytes s < bytes t := by
  rw [bytes_eq, bytes_eq]
  refine ⟨flatMap_lt_of_lt, fun h => ?_⟩
  by_contra hst
  by_cases he : s.toList = t.toList
  · rw [he] at h
    exact List.lt_irrefl _ h
  · have hts := lt_total (by simpa using hst) he
    exact List.lt_asymm h (flatMap_lt_of_lt hts)

end Text
end NcInsight
