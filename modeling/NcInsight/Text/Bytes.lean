/-
Text measured in UTF-8 bytes, and in UTF-16 code units.

Every offset and span of the library counts bytes; code units count only where a parameter is
marked for an editor.  A cut is made only between characters, so slicing is partial: `slice?` has no
answer when an end falls inside a character or past the text.  The recursion is on the characters,
which makes cuts of a concatenation immediate (`dropBytes_append`, `takeBytes_append`).
-/
namespace NcInsight
namespace Text

/-- Bytes that the characters occupy together. -/
def size : List Char → Nat
  | [] => 0
  | c :: cs => c.utf8Size + size cs

/-- What follows the first `n` bytes. -/
def dropBytes : Nat → List Char → Option (List Char)
  | 0, cs => some cs
  | _ + 1, [] => none
  | n + 1, c :: cs =>
      if c.utf8Size ≤ n + 1 then dropBytes (n + 1 - c.utf8Size) cs else none

/-- The first `n` bytes. -/
def takeBytes : Nat → List Char → Option (List Char)
  | 0, _ => some []
  | _ + 1, [] => none
  | n + 1, c :: cs =>
      if c.utf8Size ≤ n + 1 then (takeBytes (n + 1 - c.utf8Size) cs).map (c :: ·) else none

/-- The characters from byte `start` to byte `stop`. -/
def sliceChars? (cs : List Char) (start stop : Nat) : Option (List Char) :=
  if start ≤ stop then (dropBytes start cs).bind (takeBytes (stop - start)) else none

/-- The text from byte `start` to byte `stop`. -/
def slice? (s : String) (start stop : Nat) : Option String :=
  (sliceChars? s.toList start stop).map String.ofList

/-- The text from byte `start` to the end. -/
def sliceFrom? (s : String) (start : Nat) : Option String :=
  (dropBytes start s.toList).map String.ofList

/-- The text up to byte `stop`. -/
def sliceTo? (s : String) (stop : Nat) : Option String :=
  (takeBytes stop s.toList).map String.ofList

/-- Bytes of a text. -/
def length (s : String) : Nat := s.utf8ByteSize

/-- Text order by bytes.  UTF-8 keeps the order of code points, so this compares
the characters one by one. -/
def lt : List Char → List Char → Bool
  | _, [] => false
  | [], _ :: _ => true
  | a :: as, b :: bs => a.toNat < b.toNat || (a.toNat == b.toNat && lt as bs)

@[simp] theorem size_nil : size [] = 0 := rfl

@[simp] theorem size_cons (c : Char) (cs : List Char) :
    size (c :: cs) = c.utf8Size + size cs := rfl

theorem size_append (a b : List Char) : size (a ++ b) = size a + size b := by
  induction a with
  | nil => simp
  | cons c cs ih => simp [ih, Nat.add_assoc]

theorem size_toList (s : String) : size s.toList = length s := by
  have size_eq : ∀ cs : List Char, size cs = (String.ofList cs).utf8ByteSize := by
    intro cs
    induction cs with
    | nil => rfl
    | cons c cs ih =>
        have hc : String.ofList (c :: cs) = String.singleton c ++ String.ofList cs := by
          rw [String.singleton_eq_ofList, ← String.ofList_append]
          rfl
        rw [size_cons, ih, hc, String.utf8ByteSize_append, String.utf8ByteSize_singleton]
  rw [size_eq, String.ofList_toList, length]

theorem dropBytes_append (a b : List Char) : dropBytes (size a) (a ++ b) = some b := by
  induction a with
  | nil => simp [dropBytes]
  | cons c cs ih =>
      have hc : 0 < c.utf8Size := Char.utf8Size_pos c
      obtain ⟨n, hn⟩ : ∃ n, size (c :: cs) = n + 1 := ⟨size (c :: cs) - 1, by simp; omega⟩
      rw [hn, List.cons_append, dropBytes]
      have hs : n + 1 - c.utf8Size = size cs := by simp at hn; omega
      rw [if_pos (by simp at hn; omega), hs, ih]

theorem takeBytes_append (a b : List Char) : takeBytes (size a) (a ++ b) = some a := by
  induction a with
  | nil => simp [takeBytes]
  | cons c cs ih =>
      have hc : 0 < c.utf8Size := Char.utf8Size_pos c
      obtain ⟨n, hn⟩ : ∃ n, size (c :: cs) = n + 1 := ⟨size (c :: cs) - 1, by simp; omega⟩
      rw [hn, List.cons_append, takeBytes]
      have hs : n + 1 - c.utf8Size = size cs := by simp at hn; omega
      rw [if_pos (by simp at hn; omega), hs, ih]
      rfl

theorem sliceChars?_append (a b c : List Char) :
    sliceChars? (a ++ b ++ c) (size a) (size a + size b) = some b := by
  simp [sliceChars?, dropBytes_append, takeBytes_append]

/-! ## Code units -/

/-- A character outside the basic plane takes two code units. -/
def unitsOf (c : Char) : Nat := if c.toNat < 0x10000 then 1 else 2

def unitsChars : List Char → Nat
  | [] => 0
  | c :: cs => unitsOf c + unitsChars cs

/-- UTF-16 code units of a text. -/
def units (s : String) : Nat := unitsChars s.toList

theorem unitsChars_append (a b : List Char) :
    unitsChars (a ++ b) = unitsChars a + unitsChars b := by
  induction a with
  | nil => simp [unitsChars]
  | cons c cs ih => simp [unitsChars, ih, Nat.add_assoc]

theorem units_append (a b : String) : units (a ++ b) = units a + units b := by
  simp [units, unitsChars_append]

end Text
end NcInsight
