import NcInsight.Proofs.Editor.Lines
import NcInsight.Proofs.Editor.NextNumber
import NcInsight.Proofs.Editor.RenameEdits

/-
The word that is typed, and the text that a proposal replaces.

The word in front of an offset is the longest end of the text in front of it without a delimiter
(`suffix_lastWord`).  Newlines are delimiters, so the word and the offset lie on one line
(`line_ofOffset_eq`).  The one proposal with text to fill in replaces from the start of the word to
the offset, and positions lose nothing, so what it replaces is the word (`snippet_replaces_word`).
-/
namespace NcInsight

/-! ## The word -/

theorem lastWord_suffix (cs : List Char) : lastWord cs <:+ cs := by
  have h := (List.takeWhile_prefix (l := cs.reverse) fun c => !isDelimiter c).reverse
  rw [List.reverse_reverse] at h
  exact h

theorem isDelimiter_of_mem_lastWord {cs : List Char} {c : Char} (h : c ∈ lastWord cs) :
    isDelimiter c = false := by
  have hc := List.all_eq_true.mp List.all_takeWhile c (List.mem_reverse.mp h)
  simpa using hc

/-- An end of the text without a delimiter is an end of the last word. -/
theorem suffix_lastWord {v cs : List Char} (h : v <:+ cs) (hv : ∀ c ∈ v, isDelimiter c = false) :
    v <:+ lastWord cs := by
  obtain ⟨u, rfl⟩ := h
  rw [lastWord, List.reverse_append, List.takeWhile_append_of_pos]
  · rw [List.reverse_append, List.reverse_reverse]
    exact List.suffix_append _ v
  · intro c hc
    rw [hv c (List.mem_reverse.mp hc)]
    rfl

theorem not_newline_of_isDelimiter {cs : List Char} (h : ∀ c ∈ cs, isDelimiter c = false) :
    '\n' ∉ cs := by
  intro hmem
  have hnewline := h '\n' hmem
  exact absurd hnewline (by decide)

theorem currentWord_of_append {source : String} {before after : List Char}
    (h : source.toList = before ++ after) :
    (currentWord source (Text.size before)).toList = lastWord before := by
  have hle : Text.size before ≤ Text.length source := by
    rw [← Text.size_toList, h, Text.size_append]
    omega
  rw [currentWord, String.toList_ofList, Nat.min_eq_left hle, h, Text.takeBytes_append]
  rfl

theorem currentWord_of_not_isCut {source : String} {offset : Nat}
    (hle : offset ≤ Text.length source) (h : ¬Text.IsCut source.toList offset) :
    currentWord source offset = "" := by
  rw [currentWord, Nat.min_eq_left hle]
  cases htake : Text.takeBytes offset source.toList with
  | none => rfl
  | some before =>
      obtain ⟨after, hsplit, hsize⟩ := Text.exists_of_takeBytes htake
      exact absurd ⟨before, after, hsplit, hsize⟩ h

/-- The word stands right in front of the offset, or there is none.  Behind the text the offset is
read as its end. -/
theorem currentWord_split (source : String) (offset : Nat) :
    (∃ front after, source.toList = front ++ (currentWord source offset).toList ++ after ∧
      Text.size front + Text.length (currentWord source offset) =
        min offset (Text.length source)) ∨
    currentWord source offset = "" := by
  have hmin : currentWord source offset = currentWord source (min offset (Text.length source)) := by
    rw [currentWord, currentWord, Nat.min_assoc, Nat.min_self]
  have hle := Nat.min_le_right offset (Text.length source)
  rw [hmin]
  by_cases hcut : Text.IsCut source.toList (min offset (Text.length source))
  · obtain ⟨before, after, hsplit, hsize⟩ := hcut
    rw [← hsize]
    have hword := currentWord_of_append hsplit
    obtain ⟨front, hfront⟩ := lastWord_suffix before
    refine .inl ⟨front, after, ?_, ?_⟩
    · rw [hword, hfront, hsplit]
    · rw [← Text.size_toList, hword, ← Text.size_append, hfront]
  · exact .inr (currentWord_of_not_isCut hle hcut)

theorem not_newline_of_currentWord (source : String) (offset : Nat) :
    '\n' ∉ (currentWord source offset).toList := by
  rw [currentWord, String.toList_ofList]
  exact not_newline_of_isDelimiter fun c hc => isDelimiter_of_mem_lastWord hc

theorem spanText_self (source : String) (o : Nat) : Tree.spanText source ⟨o, o⟩ = "" := by
  show (Text.slice? source o o).getD "" = ""
  cases hslice : Text.slice? source o o with
  | none => rfl
  | some u =>
      obtain ⟨-, -, -, -, hu⟩ := Text.slice?_eq_some_iff.mp hslice
      have hnil : u.toList = [] := Text.eq_nil_of_size_eq_zero (by omega)
      exact String.toList_eq_nil_iff.mp hnil

theorem spanText_currentWord {source : String} {offset : Nat} (h : offset ≤ Text.length source) :
    Text.length (currentWord source offset) ≤ offset ∧
      Tree.spanText source ⟨offset - Text.length (currentWord source offset), offset⟩ =
        currentWord source offset := by
  have hsplit := currentWord_split source offset
  rw [Nat.min_eq_left h] at hsplit
  generalize currentWord source offset = word at hsplit ⊢
  rcases hsplit with ⟨front, after, hsplit, rfl⟩ | rfl
  · refine ⟨Nat.le_add_left _ _, ?_⟩
    have hslice := Text.slice?_of_append hsplit
    rw [Text.size_toList, String.ofList_toList] at hslice
    rw [Nat.add_sub_cancel, Tree.spanText, hslice, Option.getD_some]
  · exact ⟨Nat.zero_le _, spanText_self source offset⟩

/-! ## One line -/

/-- A line does not stop inside of a part of the text without a newline. -/
theorem Line.le_stop {source : String} (l : Line source) {front m after : List Char}
    (h : source.toList = front ++ m ++ after) (hm : '\n' ∉ m) (hfront : Text.size front ≤ l.stop) :
    Text.size front + Text.size m ≤ l.stop := by
  rcases Nat.lt_or_ge l.stop (Text.size front + Text.size m) with hlt | hge
  · have hsize : Text.size (l.front ++ l.text) = l.stop := Text.size_append _ _
    have hall : front ++ (m ++ after) = l.front ++ l.text ++ l.back := by
      rw [← List.append_assoc, ← h, l.split]
    obtain ⟨k, hk, hrest⟩ := Text.exists_of_append_eq_append hall (by omega)
    have hksize := congrArg Text.size hk
    rw [hsize, Text.size_append] at hksize
    obtain ⟨n, hn, hback⟩ := Text.exists_of_append_eq_append hrest.symm (by omega)
    -- what is left of the part starts with the newline behind the line
    cases n with
    | nil =>
        rw [List.append_nil] at hn
        rw [hn] at hlt
        omega
    | cons c n =>
        rcases l.ends with hnil | hhead
        · rw [hnil] at hback
          cases hback
        · rw [hback, List.cons_append, List.head?_cons, Option.some.injEq] at hhead
          rw [hn, hhead] at hm
          exact absurd (List.mem_append_right k List.mem_cons_self) hm
  · exact hge

namespace Position

/-- Offsets at a part of the text without a newline lie on one line. -/
theorem line_ofOffset_eq {source : String} {front m after : List Char}
    (h : source.toList = front ++ m ++ after) (hm : '\n' ∉ m) {i j : Nat}
    (hi : Text.size front ≤ i) (hij : i ≤ j) (hj : j ≤ Text.size front + Text.size m) :
    (ofOffset source i).line = (ofOffset source j).line := by
  have hsize := congrArg Text.size h
  rw [Text.size_append, Text.size_append, Text.size_toList] at hsize
  obtain ⟨l, hlo, hhi⟩ := exists_line_around (show i ≤ Text.length source by omega)
  have hstop := l.le_stop h hm (Nat.le_trans hi hhi)
  rw [l.ofOffset_eq hlo hhi, l.ofOffset_eq (Nat.le_trans hlo hij) (Nat.le_trans hj hstop)]

end Position

namespace Completion

variable {q : Request}

/-! ## The text that is replaced -/

/-- Only sequence numbers come with text to fill in. -/
theorem exists_of_snippet {p : Proposal} {e : Edit} (hp : p ∈ completions q)
    (he : p.snippet = some e) : ∃ next, p = sequenceProposal q next := by
  rw [completions_eq] at hp
  cases hfind : (q.tree.path q.offset).reverse.findSome? (proposals? q) with
  | none =>
      rw [hfind] at hp
      obtain ⟨label, -, rfl⟩ := List.mem_map.mp hp
      cases he
  | some items =>
      rw [hfind] at hp
      obtain ⟨d, -, hd⟩ := List.exists_of_findSome?_eq_some hfind
      have hmem : p ∈ items.filter (·.snippet.isSome) :=
        List.mem_filter.mpr ⟨hp, by rw [he]; rfl⟩
      rw [filter_proposals? hd] at hmem
      split at hmem
      · obtain ⟨next, -, hnext⟩ := Option.map_eq_some_iff.mp (Option.mem_toList.mp hmem)
        exact ⟨next, hnext.symm⟩
      · cases hmem

/-- The word and the offset lie on one line. -/
theorem line_wordRange (q : Request) : (wordRange q).start.line = (wordRange q).stop.line := by
  show (Position.ofOffset q.tree.source (q.offset - Text.length (currentWord _ q.offset))).line =
    (Position.ofOffset q.tree.source q.offset).line
  rcases currentWord_split q.tree.source q.offset with ⟨front, after, hsplit, hsize⟩ | hnone
  · rw [← Position.ofOffset_min, ← Position.ofOffset_min q.tree.source q.offset]
    apply Position.line_ofOffset_eq hsplit (not_newline_of_currentWord _ _)
    · omega
    · omega
    · rw [Text.size_toList]
      omega
  · rw [hnone]
    rfl

/-- The range of the word reads back as its part of the text, cut off at the end of the text. -/
theorem span_wordRange (q : Request) (newText : String) :
    Edit.span q.tree.source ⟨wordRange q, newText⟩ =
      ⟨min (q.offset - Text.length q.word) (Text.length q.tree.source),
        min q.offset (Text.length q.tree.source)⟩ := by
  have h := Edit.span_of_le (s := ⟨min (q.offset - Text.length q.word) (Text.length q.tree.source),
    min q.offset (Text.length q.tree.source)⟩) (Nat.min_le_right _ _) (Nat.min_le_right _ _) newText
  rw [Range.ofSpan, Position.ofOffset_min, Position.ofOffset_min] at h
  exact h

/-- The word in front of a cut of a text is the longest end of the text in front of it that has no
delimiter, and inside of a character there is no word.  Only the sequence number comes with text to
fill in.  It replaces a part of one line, and its positions are of 32 bits if the length of the text
is.  This part starts as far in front of the offset as the word is long and ends at the offset, both
cut off at the end of the text; so at an offset of the text it is the word. -/
theorem snippet_replaces_word :
    (∀ (source : String) (before after : List Char), source.toList = before ++ after →
      let word := (currentWord source (Text.size before)).toList
      word <:+ before ∧ (∀ c ∈ word, isDelimiter c = false) ∧
      ∀ v, v <:+ before → (∀ c ∈ v, isDelimiter c = false) → v <:+ word) ∧
    (∀ (source : String) (offset : Nat), offset ≤ Text.length source →
      ¬Text.IsCut source.toList offset → currentWord source offset = "") ∧
    ∀ (q : Request) (p : Proposal) (e : Edit), p ∈ completions q → p.snippet = some e →
      let source := q.tree.source
      p.label = "N-Number" ∧ e.range.start.line = e.range.stop.line ∧
      (Text.length source < UInt32.size → ∀ n ∈ [e.range.start.line, e.range.start.character,
        e.range.stop.line, e.range.stop.character], n < UInt32.size) ∧
      e.span source = ⟨min (q.offset - Text.length q.word) (Text.length source),
        min q.offset (Text.length source)⟩ ∧
      (q.offset ≤ Text.length source → Text.length q.word ≤ q.offset ∧
        e.span source = ⟨q.offset - Text.length q.word, q.offset⟩ ∧
        Tree.spanText source (e.span source) = q.word) := by
  refine ⟨fun source before after hsplit => ?_, fun source offset hle hcut =>
    currentWord_of_not_isCut hle hcut, fun q p e hp he => ?_⟩
  · have hword := currentWord_of_append hsplit
    simp only [hword]
    exact ⟨lastWord_suffix before, fun c hc => isDelimiter_of_mem_lastWord hc,
      fun v hv hplain => suffix_lastWord hv hplain⟩
  · obtain ⟨next, rfl⟩ := exists_of_snippet hp he
    cases he
    refine ⟨rfl, line_wordRange q, fun hbound n hn => ?_, span_wordRange q _, fun hle => ?_⟩
    · obtain ⟨hl, hc⟩ := Position.ofOffset_le q.tree.source (q.offset - Text.length q.word)
      obtain ⟨hl', hc'⟩ := Position.ofOffset_le q.tree.source q.offset
      simp only [List.mem_cons, List.not_mem_nil, or_false] at hn
      rcases hn with rfl | rfl | rfl | rfl
      · exact Nat.lt_of_le_of_lt hl hbound
      · exact Nat.lt_of_le_of_lt hc hbound
      · exact Nat.lt_of_le_of_lt hl' hbound
      · exact Nat.lt_of_le_of_lt hc' hbound
    · obtain ⟨hlength, htext⟩ := spanText_currentWord hle
      have hspan : ∀ newText, Edit.span q.tree.source ⟨wordRange q, newText⟩ =
          ⟨q.offset - Text.length q.word, q.offset⟩ := by
        intro newText
        rw [span_wordRange, Nat.min_eq_left hle,
          Nat.min_eq_left (Nat.le_trans (Nat.sub_le _ _) hle)]
      refine ⟨hlength, hspan _, ?_⟩
      rw [hspan]
      exact htext

/-- A program with a word at its end, of which one letter takes two bytes. -/
def atWord : Request where
  workspace := {}
  record :=
    { uri := "main.src"
      includes := []
      tree :=
        { source := "O1\nÄB"
          nodes := #[
            { kind := .file .program, span := ⟨0, 6⟩, children := [1] },
            { kind := .function, span := ⟨0, 6⟩, parent := some 0 }]
          declarations := #[] } }
  offset := 6
  settings := {}

theorem facts_atWord : (completions atWord).any (·.snippet.isSome) = true ∧
    Text.length atWord.tree.source = 6 ∧ atWord.word = "ÄB" := by
  decide

theorem snippet_replaces_word_atWord :
    ∃ p ∈ completions atWord, ∃ e, p.snippet = some e ∧
      e.span atWord.tree.source = ⟨3, 6⟩ ∧ Tree.spanText atWord.tree.source ⟨3, 6⟩ = "ÄB" := by
  obtain ⟨hany, hlength, hword⟩ := facts_atWord
  obtain ⟨p, hp, hsome⟩ := List.any_eq_true.mp hany
  obtain ⟨e, he⟩ := Option.isSome_iff_exists.mp hsome
  obtain ⟨-, -, -, -, hexact⟩ := snippet_replaces_word.2.2 atWord p e hp he
  obtain ⟨-, hspan, htext⟩ := hexact (Nat.le_of_eq hlength.symm)
  have hplace : e.span atWord.tree.source = ⟨3, 6⟩ := by
    rw [hspan, hword]
    rfl
  rw [hplace, hword] at htext
  exact ⟨p, hp, e, he, hplace, htext⟩

end Completion
end NcInsight
