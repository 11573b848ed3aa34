import Mathlib.Data.List.Basic
import Mathlib.Data.List.TakeDrop
import NcInsight.Json.Reader
import NcInsight.Json.Writer

/-
Reading JSON text that was written.

The reader gives back every value that the writer can spell (`parse?_render`): numbers that are
plain naturals and texts, in any nesting.  A reading starts at the text of a value and leaves what
follows it, so each lemma is about a text in front of others; only a number can run on into what
follows, which `Stops` excludes.  The bound that the reader recurses on is two for each character,
since an item of a list takes one for the list and one for itself.
-/
namespace NcInsight

namespace Number

theorem ofDigits_toDigits (n : Nat) : ofDigits (Nat.toDigits 10 n) = n := by
  have hfold : ∀ (ds : List Char) (m : Nat),
      (ds.map fun d => d.toNat - 48).foldl (fun n d => n * 10 + d) m =
        Nat.ofDigitChars 10 ds m := by
    intro ds
    induction ds with
    | nil => intro m; rfl
    | cons d ds ih =>
        intro m
        rw [List.map_cons, List.foldl_cons, ih, Nat.ofDigitChars, Nat.ofDigitChars,
          List.foldl_cons, Nat.mul_comm m 10]
        rfl
  rw [ofDigits, ofValues, hfold]
  exact Nat.ofDigitChars_toDigits (by omega) (by omega)

theorem exists_cons_toDigits (n : Nat) :
    ∃ d ds, Nat.toDigits 10 n = d :: ds ∧ d.isDigit = true := by
  have hall : ∀ c ∈ Nat.toDigits 10 n, c.isDigit = true := fun c hc =>
    Nat.isDigit_of_mem_toDigits (by omega) (by omega) hc
  cases hds : Nat.toDigits 10 n with
  | nil => exact absurd hds Nat.toDigits_ne_nil
  | cons d ds =>
      rw [hds] at hall
      exact ⟨d, ds, rfl, hall d List.mem_cons_self⟩

theorem head?_toDigits_ne_zero {n : Nat} (hn : 0 < n) :
    (Nat.toDigits 10 n).head? ≠ some '0' := by
  induction n using Nat.strongRecOn with
  | ind n ih =>
      by_cases hlt : n < 10
      · have hdigit : ∀ m, m < 10 → 0 < m → [m.digitChar].head? ≠ some '0' := by decide
        rw [Nat.toDigits_of_lt_base hlt]
        exact hdigit n hlt hn
      · rw [Nat.toDigits_of_base_le (by omega) (by omega),
          List.head?_append_of_ne_nil _ Nat.toDigits_ne_nil]
        exact ih (n / 10) (by omega) (by omega)

theorem hexValue?_hexDigit {n : Nat} (hn : n < 16) : hexValue? (hexDigit n) = some n := by
  revert n
  decide

end Number

namespace Json
namespace Reader

/-! ## Texts -/

theorem text_plain {acc : Option (List Char)} {c : Char} {r : List Char} (hq : c ≠ '"')
    (hb : c ≠ '\\') (hc : ¬ c.toNat < 0x20) : text acc (c :: r) = text (acc.map (c :: ·)) r := by
  rw [text.eq_def]
  split
  case h_6 heq =>
    cases heq
    rw [if_neg hc]
  all_goals simp_all

theorem text_letter {acc : Option (List Char)} {e c : Char} {r : List Char} (hu : e ≠ 'u')
    (he : escape e = some c) : text acc ('\\' :: e :: r) = text (acc.map (c :: ·)) r := by
  rw [text.eq_def]
  split
  case h_5 heq =>
    cases heq
    rw [he]
  case h_6 hesc heq =>
    cases heq
    exact absurd rfl (hesc e r rfl)
  all_goals simp_all

theorem text_eq_none_of_hex {acc : Option (List Char)} {a b c d : Char} {r : List Char}
    (h : hex4 a b c d = none) : text acc ('\\' :: 'u' :: a :: b :: c :: d :: r) = none := by
  rw [text.eq_def]
  split
  case h_3 heq =>
    cases heq
    simp [h]
  case h_4 heq =>
    cases heq
    simp [h]
  case h_5 hhex heq =>
    cases heq
    exact absurd rfl (hhex a b c d r rfl)
  case h_6 hesc heq =>
    cases heq
    exact absurd rfl (hesc _ _ rfl)
  all_goals simp_all

/-- A number that is no half of a pair is read alone, whatever follows it. -/
theorem text_unicode {acc : Option (List Char)} {a b c d : Char} {n : Nat} {r : List Char}
    (hn : hex4 a b c d = some n) (hhigh : isHigh n = false) (hlow : isLow n = false) :
    text acc ('\\' :: 'u' :: a :: b :: c :: d :: r) = text (acc.map (Char.ofNat n :: ·)) r := by
  rw [text.eq_def]
  split
  case h_3 e f g h r heq =>
    cases heq
    cases hm : hex4 e f g h with
    | some m => simp [hn, hhigh, hlow]
    | none => simp [hn, text_eq_none_of_hex hm]
  case h_4 heq =>
    cases heq
    simp [hn, hhigh, hlow]
  case h_5 hhex heq =>
    cases heq
    exact absurd rfl (hhex a b c d r rfl)
  case h_6 hesc heq =>
    cases heq
    exact absurd rfl (hesc _ _ rfl)
  all_goals simp_all

theorem escape_of_escapeLetter? {c e : Char} (h : escapeLetter? c = some e) :
    e ≠ 'u' ∧ escape e = some c := by
  unfold escapeLetter? at h
  split at h
  all_goals cases h
  all_goals exact ⟨by decide, rfl⟩

theorem hex4_of_lt {n : Nat} (hn : n < 256) :
    hex4 '0' '0' (Number.hexDigit (n / 16)) (Number.hexDigit (n % 16)) = some n := by
  have hzero : Number.hexValue? '0' = some 0 := by decide
  have hhigh := Number.hexValue?_hexDigit (show n / 16 < 16 by omega)
  have hlow := Number.hexValue?_hexDigit (show n % 16 < 16 by omega)
  have hvalue : Number.ofValues 16 [0, 0, n / 16, n % 16] = n := by
    simp only [Number.ofValues, List.foldl_cons, List.foldl_nil]
    omega
  simp [hex4, Number.ofHex?, hzero, hhigh, hlow, hvalue]

theorem text_escapeChar (acc : List Char) (c : Char) (r : List Char) :
    text (some acc) (escapeChar c ++ r) = text (some (c :: acc)) r := by
  rw [escapeChar]
  cases hletter : escapeLetter? c with
  | some e =>
      obtain ⟨hu, he⟩ := escape_of_escapeLetter? hletter
      exact text_letter hu he
  | none =>
      by_cases hc : c.toNat < 0x20
      · have hhigh : isHigh c.toNat = false := by
          simp only [isHigh, Bool.and_eq_false_iff, decide_eq_false_iff_not]
          omega
        have hlow : isLow c.toNat = false := by
          simp only [isLow, Bool.and_eq_false_iff, decide_eq_false_iff_not]
          omega
        have hread : text (some acc) ('\\' :: 'u' :: '0' :: '0' :: Number.hexDigit (c.toNat / 16) ::
            Number.hexDigit (c.toNat % 16) :: r) = text (some (Char.ofNat c.toNat :: acc)) r :=
          text_unicode (hex4_of_lt (by omega)) hhigh hlow
        rw [Char.ofNat_toNat] at hread
        simp only [if_pos hc]
        exact hread
      · simp only [if_neg hc]
        refine text_plain ?_ ?_ hc
        all_goals
          rintro rfl
          simp [escapeLetter?] at hletter

theorem text_flatMap_escapeChar (acc cs r : List Char) :
    text (some acc) (cs.flatMap escapeChar ++ '"' :: r) =
      some (some (String.ofList (acc.reverse ++ cs)), r) := by
  induction cs generalizing acc with
  | nil => simp [text]
  | cons c cs ih =>
      rw [List.flatMap_cons, List.append_assoc, text_escapeChar, ih, List.reverse_cons,
        List.append_assoc]
      rfl

theorem text_quoted (s : String) (r : List Char) :
    text (some []) (s.toList.flatMap escapeChar ++ '"' :: r) = some (some s, r) := by
  rw [text_flatMap_escapeChar, List.reverse_nil, List.nil_append, String.ofList_toList]

/-! ## Numbers -/

/-- A number in front of these characters ends there. -/
def Stops (r : List Char) : Prop :=
  ∀ c ∈ r.head?, c.isDigit = false ∧ c ≠ '.' ∧ c ≠ 'e' ∧ c ≠ 'E'

theorem stops_nil : Stops [] := by simp [Stops]

theorem stops_cons {c : Char} {r : List Char}
    (hc : c.isDigit = false ∧ c ≠ '.' ∧ c ≠ 'e' ∧ c ≠ 'E') : Stops (c :: r) := by
  simpa [Stops] using hc

theorem digits_toDigits (n : Nat) {r : List Char} (hr : Stops r) :
    digits (Nat.toDigits 10 n ++ r) = some (Nat.toDigits 10 n, r) := by
  have hall : ∀ c ∈ Nat.toDigits 10 n, c.isDigit = true := fun c hc =>
    Nat.isDigit_of_mem_toDigits (by omega) (by omega) hc
  have hspan : (Nat.toDigits 10 n ++ r).span Char.isDigit = (Nat.toDigits 10 n, r) := by
    rw [List.span_eq_takeWhile_dropWhile, List.takeWhile_append_of_pos hall,
      List.dropWhile_append_of_pos hall]
    cases r with
    | nil => simp
    | cons c r =>
        have hc : c.isDigit = false := (hr c rfl).1
        simp [hc]
  obtain ⟨d, ds, hds, -⟩ := Number.exists_cons_toDigits n
  rw [digits, hspan, hds]

theorem integer_toDigits (n : Nat) {r : List Char} (hr : Stops r) :
    integer (Nat.toDigits 10 n ++ r) = some (Nat.toDigits 10 n, r) := by
  rw [integer, digits_toDigits n hr]
  split
  case h_1 d ds r' heq =>
    -- a zero in front of more digits would be the first digit of a positive number
    exfalso
    simp only [Option.some.injEq, Prod.mk.injEq] at heq
    rcases Nat.eq_zero_or_pos n with rfl | hpos
    · simp [Nat.toDigits_of_lt_base (show 0 < 10 by omega)] at heq
    · exact Number.head?_toDigits_ne_zero hpos (by rw [heq.1]; rfl)
  case h_2 => rfl

theorem number_toDigits (n : Nat) {r : List Char} (hr : Stops r) :
    number (Nat.toDigits 10 n ++ r) = some (.natural n, r) := by
  have hfraction : fraction r = some ([], r) := by
    unfold fraction
    split
    · exact absurd rfl (hr '.' rfl).2.1
    · rfl
  have hexponent : exponent r = some ([], r) := by
    unfold exponent
    split
    · exact absurd rfl (hr 'e' rfl).2.2.1
    · exact absurd rfl (hr 'E' rfl).2.2.2
    · rfl
  have hunsigned : unsigned (Nat.toDigits 10 n ++ r) = some (Nat.toDigits 10 n, true, r) := by
    simp [unsigned, integer_toDigits n hr, hfraction, hexponent]
  unfold number
  split
  case h_1 r' heq =>
    -- a digit is no sign
    obtain ⟨d, ds, hds, hd⟩ := Number.exists_cons_toDigits n
    rw [hds, List.cons_append, List.cons.injEq] at heq
    rw [heq.1] at hd
    exact absurd hd (by decide)
  case h_2 => simp [hunsigned, Number.ofDigits_toDigits]

/-! ## Values -/

theorem skip_cons {c : Char} {r : List Char} (hc : isSpace c = false) : skip (c :: r) = c :: r := by
  simp [skip, hc]

theorem isSpace_of_isDigit {c : Char} (hc : c.isDigit = true) : isSpace c = false := by
  rw [Bool.eq_false_iff]
  intro hs
  simp only [isSpace, Bool.or_eq_true, decide_eq_true_eq] at hs
  rcases hs with ((rfl | rfl) | rfl) | rfl <;> exact absurd hc (by decide)

theorem value_of_isDigit {fuel : Nat} {c : Char} {r : List Char} (hc : c.isDigit = true) :
    value (fuel + 1) (c :: r) = number (c :: r) := by
  rw [value, skip_cons (isSpace_of_isDigit hc)]
  split
  case h_7 => rfl
  all_goals
    rename_i heq
    rw [(List.cons.inj heq).1] at hc
    exact absurd hc (by decide)

end Reader

/-- The values that have a text: plain numbers and texts, in any nesting. -/
inductive Written : Json → Prop
  | null : Written .null
  | bool (b : Bool) : Written (.bool b)
  | natural (n : Nat) : Written (.natural n)
  | string (s : String) : Written (.string s)
  | array {js : List Json} (h : ∀ j ∈ js, Written j) : Written (.array js)
  | object {ms : List (String × Json)} (h : ∀ m ∈ ms, Written m.2) : Written (.object ms)

theorem toList_render_natural (n : Nat) : (render (.natural n)).toList = Nat.toDigits 10 n := by
  rw [render, Nat.toString_eq_ofList_toDigits, String.toList_ofList]

theorem toList_quote (s : String) (r : List Char) :
    (quote s).toList ++ r = '"' :: (s.toList.flatMap escapeChar ++ '"' :: r) := by
  simp [quote]

theorem toList_render_array (js : List Json) (r : List Char) :
    (render (.array js)).toList ++ r = '[' :: ((renderItems js).toList ++ ']' :: r) := by
  simp [render]

theorem toList_render_object (ms : List (String × Json)) (r : List Char) :
    (render (.object ms)).toList ++ r = '\x7b' :: ((renderMembers ms).toList ++ '\x7d' :: r) := by
  simp [render]

theorem exists_digit (n : Nat) :
    ∃ c cs, (render (.natural n)).toList = c :: cs ∧ c.isDigit = true := by
  rw [toList_render_natural]
  exact Number.exists_cons_toDigits n

theorem Written.exists_head {j : Json} (h : Written j) : ∃ c cs, j.render.toList = c :: cs ∧
    Reader.isSpace c = false ∧ c ≠ ']' := by
  cases h with
  | null => exact ⟨'n', _, rfl, by decide, by decide⟩
  | bool b => cases b <;> exact ⟨_, _, rfl, by decide, by decide⟩
  | natural n =>
      obtain ⟨c, cs, hcs, hc⟩ := exists_digit n
      refine ⟨c, cs, hcs, Reader.isSpace_of_isDigit hc, ?_⟩
      rintro rfl
      exact absurd hc (by decide)
  | string s => exact ⟨'"', _, by simpa [render] using toList_quote s [], by decide, by decide⟩
  | array h => exact ⟨'[', _, by simpa using toList_render_array _ [], by decide, by decide⟩
  | object h => exact ⟨'\x7b', _, by simpa using toList_render_object _ [], by decide, by decide⟩

theorem Written.exists_fuel {j : Json} (h : Written j) {fuel : Nat}
    (hfuel : 2 * j.render.toList.length ≤ fuel) : ∃ m, fuel = m + 1 := by
  obtain ⟨c, cs, hcs, -⟩ := h.exists_head
  rw [hcs, List.length_cons] at hfuel
  exact ⟨fuel - 1, by omega⟩

/-- The reader gives the value back and leaves what follows its text. -/
def Reads (j : Json) : Prop :=
  ∀ (fuel : Nat) (r : List Char), 2 * j.render.toList.length ≤ fuel → Reader.Stops r →
    Reader.value fuel (j.render.toList ++ r) = some (j, r)

theorem reads_natural (n : Nat) : Reads (.natural n) := by
  intro fuel r hfuel hr
  obtain ⟨fuel, rfl⟩ := (Written.natural n).exists_fuel hfuel
  obtain ⟨c, cs, hcs, hc⟩ := exists_digit n
  have hnumber := Reader.number_toDigits n hr
  rw [← toList_render_natural, hcs] at hnumber
  rw [hcs, List.cons_append, Reader.value_of_isDigit hc]
  exact hnumber

theorem reads_string (s : String) : Reads (.string s) := by
  intro fuel r hfuel hr
  obtain ⟨fuel, rfl⟩ := (Written.string s).exists_fuel hfuel
  rw [render, toList_quote, Reader.value, Reader.skip_cons (by decide)]
  simp [Reader.text_quoted]

/-! ## Lists of items and members

The two inductions are the same: an item is read by what is known of it, and the comma or the
bracket behind it decides whether there is another. -/

theorem items_renderItems {js : List Json} (hjs : js ≠ []) (hread : ∀ j ∈ js, Reads j) {fuel : Nat}
    (hfuel : 2 * (renderItems js).toList.length + 1 ≤ fuel) (r : List Char) :
    Reader.items fuel ((renderItems js).toList ++ ']' :: r) = some (js, r) := by
  induction js generalizing fuel with
  | nil => exact absurd rfl hjs
  | cons j js ih =>
      obtain ⟨fuel, rfl⟩ : ∃ m, fuel = m + 1 := ⟨fuel - 1, by omega⟩
      have hj := hread j List.mem_cons_self
      cases js with
      | nil =>
          rw [renderItems] at hfuel ⊢
          rw [Reader.items, hj fuel _ (by omega) (Reader.stops_cons (by decide))]
          simp [Reader.skip_cons, Reader.isSpace]
      | cons k ks =>
          have htext : (renderItems (j :: k :: ks)).toList =
              j.render.toList ++ ',' :: (renderItems (k :: ks)).toList := by
            simp [renderItems]
          rw [htext, List.length_append, List.length_cons] at hfuel
          have hrest : Reader.items fuel ((renderItems (k :: ks)).toList ++ ']' :: r) =
              some (k :: ks, r) :=
            ih (List.cons_ne_nil k ks) (fun i hi => hread i (List.mem_cons_of_mem j hi)) (by omega)
          rw [htext, List.append_assoc, List.cons_append, Reader.items,
            hj fuel _ (by omega) (Reader.stops_cons (by decide))]
          simp [Reader.skip_cons, Reader.isSpace, hrest]

theorem members_renderMembers {ms : List (String × Json)} (hms : ms ≠ [])
    (hread : ∀ m ∈ ms, Reads m.2) {fuel : Nat}
    (hfuel : 2 * (renderMembers ms).toList.length + 1 ≤ fuel) (r : List Char) :
    Reader.members fuel ((renderMembers ms).toList ++ '\x7d' :: r) =
      some (ms.map fun m => (some m.1, m.2), r) := by
  induction ms generalizing fuel with
  | nil => exact absurd rfl hms
  | cons m ms ih =>
      obtain ⟨key, j⟩ := m
      obtain ⟨fuel, rfl⟩ : ∃ n, fuel = n + 1 := ⟨fuel - 1, by omega⟩
      have hj : Reads j := hread (key, j) List.mem_cons_self
      cases ms with
      | nil =>
          have htext : (renderMembers [(key, j)]).toList =
              (quote key).toList ++ ':' :: j.render.toList := by
            simp [renderMembers]
          rw [htext, List.length_append, List.length_cons] at hfuel
          have hvalue := hj fuel ('\x7d' :: r) (by omega) (Reader.stops_cons (by decide))
          rw [htext, List.append_assoc, List.cons_append, toList_quote, Reader.members,
            Reader.skip_cons (by decide)]
          simp [Reader.text_quoted, Reader.skip_cons, Reader.isSpace, hvalue]
      | cons n ns =>
          have htext : (renderMembers ((key, j) :: n :: ns)).toList =
              (quote key).toList ++ ':' :: (j.render.toList ++
                ',' :: (renderMembers (n :: ns)).toList) := by
            simp [renderMembers]
          rw [htext, List.length_append, List.length_cons, List.length_append,
            List.length_cons] at hfuel
          have hvalue := hj fuel (',' :: ((renderMembers (n :: ns)).toList ++ '\x7d' :: r))
            (by omega) (Reader.stops_cons (by decide))
          have hrest : Reader.members fuel ((renderMembers (n :: ns)).toList ++ '\x7d' :: r) =
              some ((n :: ns).map fun m => (some m.1, m.2), r) :=
            ih (List.cons_ne_nil n ns) (fun i hi => hread i (List.mem_cons_of_mem _ hi)) (by omega)
          rw [htext, List.append_assoc, List.cons_append, List.append_assoc, List.cons_append,
            toList_quote, Reader.members, Reader.skip_cons (by decide)]
          simp [Reader.text_quoted, Reader.skip_cons, Reader.isSpace, hvalue, hrest]

theorem objectOf_map_some (ms : List (String × Json)) :
    Reader.objectOf (ms.map fun m => (some m.1, m.2)) = .object ms := by
  simp [Reader.objectOf, List.filterMap_map, Function.comp_def]

theorem exists_head_renderItems {j : Json} (h : Written j) (js : List Json) :
    ∃ c cs, (renderItems (j :: js)).toList = c :: cs ∧ Reader.isSpace c = false ∧ c ≠ ']' := by
  obtain ⟨c, cs, hcs, hc⟩ := h.exists_head
  cases js with
  | nil => exact ⟨c, cs, hcs, hc⟩
  | cons k ks =>
      exact ⟨c, cs ++ ',' :: (renderItems (k :: ks)).toList, by simp [renderItems, hcs], hc⟩

theorem exists_head_renderMembers (m : String × Json) (ms : List (String × Json)) :
    ∃ cs, (renderMembers (m :: ms)).toList = '"' :: cs := by
  refine List.head?_eq_some_iff.mp ?_
  cases ms with
  | nil => simp [renderMembers, quote]
  | cons n ns => simp [renderMembers, quote]

theorem reads_array {js : List Json} (h : ∀ j ∈ js, Written j) (hread : ∀ j ∈ js, Reads j) :
    Reads (.array js) := by
  intro fuel r hfuel hr
  obtain ⟨fuel, rfl⟩ := (Written.array h).exists_fuel hfuel
  have hlen := congrArg List.length (toList_render_array js [])
  simp only [List.append_nil, List.length_cons, List.length_append, List.length_nil] at hlen
  rw [toList_render_array, Reader.value, Reader.skip_cons (by decide)]
  cases js with
  | nil => simp [renderItems, Reader.skip_cons, Reader.isSpace]
  | cons j js =>
      have hitems : Reader.items fuel ((renderItems (j :: js)).toList ++ ']' :: r) =
          some (j :: js, r) := items_renderItems (List.cons_ne_nil j js) hread (by omega) r
      obtain ⟨c, cs, hcs, hspace, hc⟩ := exists_head_renderItems (h j List.mem_cons_self) js
      rw [hcs, List.cons_append] at hitems
      simp [hcs, Reader.skip_cons hspace, hc, hitems]

theorem reads_object {ms : List (String × Json)} (h : ∀ m ∈ ms, Written m.2)
    (hread : ∀ m ∈ ms, Reads m.2) : Reads (.object ms) := by
  intro fuel r hfuel hr
  obtain ⟨fuel, rfl⟩ := (Written.object h).exists_fuel hfuel
  have hlen := congrArg List.length (toList_render_object ms [])
  simp only [List.append_nil, List.length_cons, List.length_append, List.length_nil] at hlen
  rw [toList_render_object, Reader.value, Reader.skip_cons (by decide)]
  cases ms with
  | nil => simp [renderMembers, Reader.skip_cons, Reader.isSpace]
  | cons m ms =>
      have hmembers : Reader.members fuel ((renderMembers (m :: ms)).toList ++ '\x7d' :: r) =
          some ((m :: ms).map fun m => (some m.1, m.2), r) :=
        members_renderMembers (List.cons_ne_nil m ms) hread (by omega) r
      have hobject := objectOf_map_some (m :: ms)
      obtain ⟨cs, hcs⟩ := exists_head_renderMembers m ms
      rw [hcs, List.cons_append] at hmembers
      rw [hcs, List.cons_append]
      show (Reader.members fuel _).map _ = _
      rw [hmembers, Option.map_some]
      show some (Reader.objectOf _, r) = _
      rw [hobject]

theorem Written.reads {j : Json} (h : Written j) : Reads j := by
  induction h with
  | null =>
      intro fuel r hfuel hr
      obtain ⟨fuel, rfl⟩ := Written.null.exists_fuel hfuel
      simp [render, Reader.value, Reader.skip_cons, Reader.isSpace]
  | bool b =>
      intro fuel r hfuel hr
      obtain ⟨fuel, rfl⟩ := (Written.bool b).exists_fuel hfuel
      cases b with
      | true => simp [render, Reader.value, Reader.skip_cons, Reader.isSpace]
      | false => simp [render, Reader.value, Reader.skip_cons, Reader.isSpace]
  | natural n => exact reads_natural n
  | string s => exact reads_string s
  | array h ih => exact reads_array h ih
  | object h ih => exact reads_object h ih

/-- Reading is the inverse of writing. -/
theorem parse?_render {j : Json} (h : Written j) : parse? j.render = some j := by
  have hread := h.reads (2 * j.render.toList.length + 2) [] (by omega) Reader.stops_nil
  rw [List.append_nil] at hread
  simp [parse?, hread, Reader.skip]

end Json
end NcInsight
