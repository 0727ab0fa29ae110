import Mathlib.Data.List.DropRight
import RowDrop.Proofs.Json.CutRecords
import RowDrop.Proofs.Settings.Overlay

/-!
# A file of settings that has been cut off

Settings that are accepted end with a closing bracket and blanks behind it. Any part of the text
that ends in front of that bracket is refused, and the place in the message is where the part ends:
its line, and in that line the number of bytes (`Settings.load_truncated`).
-/

namespace RowDrop

namespace Json

/-- A character other than a line end has no byte that is one. -/
theorem lineEnd_not_mem {c : Char} (h : c ≠ '\n') : lineEnd ∉ String.utf8EncodeChar c := by
  have hvalue : c.val.toNat ≠ 10 := by
    intro heq
    exact h (Char.ext (UInt32.toNat_inj.mp heq))
  have hbyte (n : Nat) (hn : n < 256) (hne : n ≠ 10) : lineEnd ≠ UInt8.ofNat n := by
    intro heq
    have hsame := congrArg UInt8.toNat heq
    rw [UInt8.toNat_ofNat', Nat.mod_eq_of_lt (by omega)] at hsame
    exact hne hsame.symm
  intro hmem
  simp only [String.utf8EncodeChar] at hmem
  split_ifs at hmem <;> simp only [List.mem_cons, List.not_mem_nil, or_false] at hmem
  · exact hbyte _ (by omega) hvalue hmem
  · rcases hmem with h | h <;> exact hbyte _ (by omega) (by omega) h
  · rcases hmem with h | h | h <;> exact hbyte _ (by omega) (by omega) h
  · rcases hmem with h | h | h | h <;> exact hbyte _ (by omega) (by omega) h

/-- The place behind a text: its lines, and the bytes of what stands behind the last line end. -/
theorem place_encode (text : List Char) : place (Utf8.encode text)
    = (text.count '\n', Utf8.size (text.rtakeWhile (· ≠ '\n'))) := by
  induction text using List.reverseRecOn with
  | nil => rfl
  | append_singleton text c ih =>
    obtain ⟨hcount, hcolumn⟩ := Prod.mk.inj ih
    rw [Utf8.encode_append, Utf8.encode_cons, Utf8.encode_nil, List.append_nil, place,
      List.count_append, List.count_append, List.reverse_append, hcount]
    by_cases hc : c = '\n'
    · subst hc
      rw [List.rtakeWhile_concat_neg _ _ _ (by simp)]
      rfl
    · have hpass : ∀ b ∈ (String.utf8EncodeChar c).reverse, decide (b ≠ lineEnd) = true := by
        intro b hb
        rw [decide_eq_true_iff]
        rintro rfl
        exact lineEnd_not_mem hc (List.mem_reverse.mp hb)
      rw [List.takeWhile_append_of_pos hpass, List.length_append, hcolumn,
        List.count_eq_zero_of_not_mem (lineEnd_not_mem hc),
        List.count_singleton, if_neg (by simpa using hc),
        List.rtakeWhile_concat_pos _ _ _ (by simpa using hc), Utf8.size_append]
      simp [String.length_utf8EncodeChar, Nat.add_comm]

/-- A reader that meets the end of a text is refused there. -/
theorem readDocument_of_meetsEnd {α : Type} {read : List Char → Except Fault (α × List Char)}
    {text : List Char} (h : MeetsEnd (read text)) :
    ∃ problem, readDocument read (String.ofList text) = .error (.refused problem
      (text.count '\n' + 1) (Utf8.size (text.rtakeWhile (· ≠ '\n')))) := by
  obtain ⟨problem, h⟩ := h
  refine ⟨problem, ?_⟩
  simp [readDocument, h, Fault.locate, place_encode]

end Json

open Json

theorem StoreSettings.fields_notice : FieldsNotice StoreSettings.fields := by
  have htext : NoticesCut readOptionalText := (noticesCut_readTextAs _).optional
  intro field hfield record
  simp only [fields, List.mem_cons, List.not_mem_nil, or_false] at hfield
  rcases hfield with rfl | rfl | rfl | rfl | rfl
  · exact noticesCut_field_of htext _ _ record
  · exact noticesCut_field_of htext _ _ record
  · exact noticesCut_field_of htext _ _ record
  · exact noticesCut_field_of htext _ _ record
  · exact noticesCut_field_of noticesCut_readBool.optional _ _ record

namespace Settings

theorem fields_notice : FieldsNotice fields := by
  intro field hfield record
  simp only [fields, List.mem_cons, List.not_mem_nil, or_false] at hfield
  rcases hfield with rfl | rfl | rfl
  · exact noticesCut_field_of (noticesCut_readTextAs _) _ _ record
  · exact noticesCut_field_of (noticesCut_readVariant _ _).optional _ _ record
  · exact noticesCut_field_of (noticesCut_readRecord _ StoreSettings.fields_notice _) _ _ record

/-- A text that is accepted is a record or a list up to its closing bracket, and then blanks. -/
theorem bracket_of_parse {defaults settings : Settings} {text : String}
    (accepted : parse defaults text = .ok settings) : ∃ body bracket blanks,
      text.toList = body ++ bracket :: blanks ∧ (bracket = '\x7d' ∨ bracket = ']') ∧
        Blanks blanks ∧
        readRecord "struct MutatorConfig" fields defaults text.toList = .ok (settings, blanks) := by
  unfold parse readDocument at accepted
  dsimp only at accepted
  split at accepted
  · cases accepted
  · next value blanks hread =>
    split at accepted
    · next hskip =>
      cases accepted
      have hblanks : Blanks blanks := by
        intro c hc
        exact isBlank_iff.mp (List.dropWhile_eq_nil_iff.mp hskip c hc)
      have hself := readRecord_agrees "struct MutatorConfig" fields_notice defaults text.toList []
      rw [List.append_nil] at hself
      rcases hself _ hread with ⟨⟨_, left⟩, -, -, hclosed⟩ | ⟨problem, hend⟩
      · have heq : blanks = left := hclosed.eq.trans (List.append_nil left)
        subst heq
        rcases hclosed.bracket with ⟨body, hbody⟩ | ⟨body, hbody⟩
        · exact ⟨body, '\x7d', blanks, hbody.symm, .inl rfl, hblanks, hread⟩
        · exact ⟨body, ']', blanks, hbody.symm, .inr rfl, hblanks, hread⟩
      · rw [hread] at hend
        cases hend
    · cases accepted

/-- In front of the closing bracket every cut is noticed. -/
theorem parse_truncated {defaults settings : Settings} {front back blanks : List Char}
    (accepted : readRecord "struct MutatorConfig" fields defaults (front ++ back)
      = .ok (settings, blanks)) (short : blanks.length < back.length) :
    ∃ problem, parse defaults (String.ofList front) = .error (.refused problem
      (front.count '\n' + 1) (Utf8.size (front.rtakeWhile (· ≠ '\n')))) := by
  rcases readRecord_agrees "struct MutatorConfig" fields_notice defaults front back _ accepted
    with ⟨⟨_, left⟩, -, -, hclosed⟩ | hend
  · have hlength := congrArg List.length hclosed.eq
    rw [List.length_append] at hlength
    dsimp only at hlength
    omega
  · exact readDocument_of_meetsEnd hend

/-- A file whose settings are loaded ends with a closing bracket and blanks. Cut off anywhere in
front of that bracket, it is refused with the line and the column where it ends. -/
theorem load_truncated (environment : Environment) {world : World} {path : Path} {text : String}
    {settings : Settings} (holds : world.Holds path text)
    (loaded : (Operation.run (load environment path) world).1 = .ok settings) :
    ∃ body bracket blanks, text.toList = body ++ bracket :: blanks ∧
      (bracket = '\x7d' ∨ bracket = ']') ∧ Blanks blanks ∧
      ∀ {front : List Char} {world' : World} {path' : Path}, front <+: body →
        world'.Holds path' (String.ofList front) →
        ∃ problem, (Operation.run (load environment path') world').1 = .error (.json (.refused
          problem (front.count '\n' + 1) (Utf8.size (front.rtakeWhile (· ≠ '\n'))))) := by
  have accepted : parse (standard environment) text = .ok settings := by
    rw [load_eq environment holds] at loaded
    cases hparse : parse (standard environment) text with
    | error failure => rw [hparse] at loaded; cases loaded
    | ok found => rw [hparse] at loaded; cases loaded; rfl
  obtain ⟨body, bracket, blanks, htext, hbracket, hblanks, hread⟩ := bracket_of_parse accepted
  refine ⟨body, bracket, blanks, htext, hbracket, hblanks, ?_⟩
  intro front world' path' hprefix holds'
  obtain ⟨more, rfl⟩ := hprefix
  rw [htext, List.append_assoc] at hread
  have hshorter : blanks.length < (more ++ bracket :: blanks).length := by
    simp only [List.length_append, List.length_cons]
    omega
  obtain ⟨problem, hrefused⟩ := parse_truncated hread hshorter
  refine ⟨problem, ?_⟩
  rw [load_eq environment holds', hrefused]
  rfl

/-- A number that is passed over is cut in its middle, in the second line: what is left of it is a
number, too, and the end of the record is missed at that place. -/
theorem load_truncated_number :
    let text := "\x7b\n\"x\": 12\x7d"
    let front := "\x7b\n\"x\": 1".toList
    let path : Path := .ofString "c"
    let holding (text : String) : World := (World.reply ⟨Tree.fresh, .superuser, Store.empty, []⟩
      (.writeFile path (.raw (Utf8.encode text.toList)))).2
    (Operation.run (load .empty path) (holding text)).1 = .ok (standard .empty) ∧
      ∃ problem, (Operation.run (load .empty path) (holding (String.ofList front))).1
        = .error (.json (.refused problem 2 6)) := by
  intro text front path holding
  have holds (text : String) : (holding text).Holds path text := ⟨3, Tree.newFileMode, rfl⟩
  have loaded : (Operation.run (load .empty path) (holding text)).1 = .ok (standard .empty) := by
    have parsed : (parse (standard .empty) text).toOption = some (standard .empty) := by
      decide +kernel
    rw [load_eq .empty (holds text), toOption_eq_some_iff.mp parsed]
    rfl
  refine ⟨loaded, ?_⟩
  obtain ⟨body, bracket, blanks, htext, -, hblanks, refused⟩ :=
    load_truncated .empty (holds text) loaded
  -- A bracket is the last character of the text, so no blanks stand behind it.
  have hbody : front ++ ['2'] = body := by
    have hlast : text.toList = front ++ ['2'] ++ ['\x7d'] := by decide
    rcases List.eq_nil_or_concat blanks with rfl | ⟨before, c, rfl⟩
    · exact (List.append_inj' (hlast.symm.trans htext) rfl).1
    · rw [List.concat_eq_append, ← List.cons_append, ← List.append_assoc] at htext
      have hc : ['\x7d'] = [c] := (List.append_inj' (hlast.symm.trans htext) rfl).2
      have hblank := hblanks c (by simp)
      rw [← (List.cons.inj hc).1] at hblank
      exact absurd hblank (by decide)
  exact refused ⟨['2'], hbody⟩ (holds _)

end Settings

end RowDrop
