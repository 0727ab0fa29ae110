import RowDrop.Proofs.Files.BackupNames

/-!
# The parts of a backup's path

Paths are compared part by part. The suffix of a backup makes the last part of a path longer and
leaves the parts in front of it, unless the last part is hidden behind a slash. So two paths that
show their last part are alike exactly if their backups are (`Path.backup_respects_alike`), and no
path is alike its backup.
-/

namespace RowDrop.Path

/-- The bytes with which a part is written. -/
def Component.bytes : Component → List UInt8
  | root => [slash]
  | current => [dot]
  | parent => [dot, dot]
  | name bytes => bytes

/-- The part that stands at the end of a path which shows its last part. Only a path that is a
single `.` ends with one. -/
def Component.ofLast (piece : List UInt8) : Option Component :=
  if piece = [dot] then some .current else ofPiece piece

/-- The bytes of a path end with its last part: no slash is behind it, nor a slash and a `.`. -/
def ShowsLast (path : Path) : Prop := ¬[slash] <:+ path.bytes ∧ ¬[slash, dot] <:+ path.bytes

instance (path : Path) : Decidable path.ShowsLast :=
  inferInstanceAs (Decidable (¬[slash] <:+ path.bytes ∧ ¬[slash, dot] <:+ path.bytes))

/-- The bytes of the last part; the empty path has none. -/
def lastBytes (path : Path) : List UInt8 := (path.components.getLast?.map Component.bytes).getD []

variable {path : Path} {piece last : List UInt8} {lead : List (List UInt8)}

/-! ## Pieces and parts -/

theorem Component.bytes_ofPiece {part : Component} (h : ofPiece piece = some part) :
    part.bytes = piece := by
  unfold ofPiece at h
  split_ifs at h with none dots
  · obtain rfl := Option.some.inj h
    exact dots.symm
  · obtain rfl := Option.some.inj h
    rfl

/-- A part that is written has the bytes of its piece; a piece without a part is empty. -/
theorem Component.bytes_ofLast (piece : List UInt8) :
    ((ofLast piece).map bytes).getD [] = piece := by
  unfold ofLast
  split_ifs with point
  · exact point.symm
  · cases found : ofPiece piece with
    | some part => exact bytes_ofPiece found
    | none =>
      unfold ofPiece at found
      split_ifs at found with none
      exact (none.resolve_right point).symm

theorem Component.ofPiece_append_backupSuffix (piece : List UInt8) :
    ofPiece (piece ++ backupSuffix) = some (.name (piece ++ backupSuffix)) := by
  have long : 3 ≤ (piece ++ backupSuffix).length := by simp [backupSuffix]
  have short : ∀ bytes : List UInt8, bytes.length < 3 → piece ++ backupSuffix ≠ bytes := by
    rintro bytes less rfl
    exact absurd long (Nat.not_le.mpr less)
  unfold ofPiece
  rw [if_neg (not_or.mpr ⟨short _ (by simp), short _ (by simp)⟩), if_neg (short _ (by simp))]

theorem exists_splitSlash (bytes : List UInt8) :
    ∃ lead last, splitSlash bytes = lead ++ [last] := by
  obtain ⟨lead, last, split, -⟩ := splitSlash_append slash_not_mem_backupSuffix bytes
  exact ⟨lead, last, split⟩

/-- The last piece stands at the end, behind a slash if there are others. -/
theorem suffix_of_splitSlash {bytes : List UInt8} (split : splitSlash bytes = lead ++ [last]) :
    lead = [] ∧ last = bytes ∨ lead ≠ [] ∧ slash :: last <:+ bytes := by
  induction bytes generalizing lead last with
  | nil =>
    obtain ⟨none, same⟩ := List.append_inj' (split.symm.trans (List.nil_append [[]]).symm) rfl
    exact .inl ⟨none, List.singleton_inj.mp same⟩
  | cons byte bytes ih =>
    obtain ⟨pieces, final, parts⟩ := exists_splitSlash bytes
    by_cases mark : byte = slash
    · rw [splitSlash, if_pos mark, parts] at split
      obtain ⟨front, same⟩ := List.append_inj' (split.symm.trans (List.cons_append ..).symm) rfl
      right
      refine ⟨front ▸ List.cons_ne_nil _ _, ?_⟩
      rw [List.singleton_inj.mp same, mark]
      rcases ih parts with ⟨-, whole⟩ | ⟨-, behind⟩
      · obtain rfl := whole
        exact List.suffix_rfl
      · exact behind.trans (List.suffix_cons _ _)
    · rw [splitSlash, if_neg mark, parts] at split
      cases pieces with
      | nil =>
        obtain ⟨front, same⟩ := List.append_inj' (split.symm.trans (List.nil_append _).symm) rfl
        left
        rcases ih parts with ⟨-, whole⟩ | ⟨some, -⟩
        · exact ⟨front, by rw [List.singleton_inj.mp same, whole]⟩
        · exact absurd rfl some
      | cons first pieces =>
        obtain ⟨front, same⟩ := List.append_inj' (split.symm.trans (List.cons_append ..).symm) rfl
        right
        refine ⟨front ▸ List.cons_ne_nil _ _, ?_⟩
        rw [List.singleton_inj.mp same]
        rcases ih parts with ⟨none, -⟩ | ⟨-, behind⟩
        · cases none
        · exact behind.trans (List.suffix_cons _ _)

/-! ## Paths and their backups -/

/-- The part in front of the pieces: the root, or a `.` that opens a relative path. -/
def opening (absolute : Bool) (first : Option (List UInt8)) : List Component :=
  if absolute then [.root] else if first = some [dot] then [.current] else []

theorem components_eq (path : Path) :
    path.components = opening path.isAbsolute (splitSlash path.bytes).head? ++
      (splitSlash path.bytes).filterMap Component.ofPiece := by
  unfold components opening
  by_cases absolute : path.isAbsolute
  · simp [absolute]
  · by_cases point : (splitSlash path.bytes).head? = some [dot] <;> simp [absolute, point]

/-- A path of a single piece is relative. -/
theorem isAbsolute_of_single (split : splitSlash path.bytes = [last]) :
    path.isAbsolute = false := by
  rw [isAbsolute, decide_eq_false_iff_not]
  intro rooted
  obtain ⟨rest, bytes⟩ := List.head?_eq_some_iff.mp rooted
  obtain ⟨pieces, final, parts⟩ := exists_splitSlash rest
  rw [bytes, splitSlash, if_pos rfl, parts] at split
  exact List.append_ne_nil_of_right_ne_nil _ (List.cons_ne_nil _ _) (List.cons.inj split).2

/-- A path and its backup share the parts in front of the last piece. The last piece of the path
is all of it or stands behind a slash, where a `.` counts for nothing. -/
theorem exists_components (path : Path) :
    ∃ parts last, path.backup.components = parts ++ [.name (last ++ backupSuffix)] ∧
      (parts = [] ∧ path.components = (Component.ofLast last).toList ∨
        slash :: last <:+ path.bytes ∧
          path.components = parts ++ (Component.ofPiece last).toList) := by
  obtain ⟨lead, last, split, longer⟩ := splitSlash_append slash_not_mem_backupSuffix path.bytes
  have named : Component.ofPiece (last ++ backupSuffix) = some (.name (last ++ backupSuffix)) :=
    Component.ofPiece_append_backupSuffix last
  rcases suffix_of_splitSlash split with ⟨rfl, -⟩ | ⟨more, behind⟩
  · refine ⟨[], last, ?_, .inl ⟨rfl, ?_⟩⟩
    · have longName : last ++ backupSuffix ≠ [dot] := by
        intro same
        have lengths := congrArg List.length same
        simp [backupSuffix] at lengths
      have relative : path.backup.isAbsolute = false := isAbsolute_of_single longer
      rw [components_eq, relative, bytes_backup, longer]
      simp [opening, named, longName]
    · rw [components_eq, isAbsolute_of_single split, split]
      by_cases point : last = [dot]
      · simp [opening, Component.ofLast, Component.ofPiece, point]
      · rw [Component.ofLast, if_neg point]
        cases found : Component.ofPiece last <;> simp [opening, point, found]
  · have full : path.bytes ≠ [] := by
      rintro none
      rw [none] at behind
      exact absurd (List.suffix_nil.mp behind) (List.cons_ne_nil _ _)
    have head : ∀ piece : List UInt8, (lead ++ [piece]).head? = lead.head? := by
      intro piece
      obtain ⟨first, rest, rfl⟩ := List.exists_cons_of_ne_nil more
      rfl
    refine ⟨opening path.isAbsolute lead.head? ++ lead.filterMap Component.ofPiece, last, ?_,
      .inr ⟨behind, ?_⟩⟩
    · rw [components_eq, isAbsolute_backup full, bytes_backup, longer, head,
        List.filterMap_append, List.append_assoc]
      simp [named]
    · rw [components_eq, split, head, List.filterMap_append, List.append_assoc]
      cases found : Component.ofPiece last <;> simp [found]

/-- Behind the shared parts, a path that shows its last part has this part. -/
theorem ShowsLast.components (h : path.ShowsLast) :
    ∃ parts last, path.backup.components = parts ++ [.name (last ++ backupSuffix)] ∧
      path.components = parts ++ (Component.ofLast last).toList ∧ (last = [] → parts = []) := by
  obtain ⟨parts, last, longer, ⟨rfl, alone⟩ | ⟨behind, shown⟩⟩ := exists_components path
  · exact ⟨[], last, longer, alone, fun _ => rfl⟩
  · have full : last ≠ [] := by
      rintro rfl
      exact h.1 behind
    have noPoint : last ≠ [dot] := by
      rintro rfl
      exact h.2 behind
    refine ⟨parts, last, longer, ?_, fun none => absurd none full⟩
    rw [shown, Component.ofLast, if_neg noPoint]

/-- The parts of a path are the parts in front of the last and the last, as its bytes say it. -/
theorem ShowsLast.split (h : path.ShowsLast) :
    path.components = path.components.dropLast ++ (Component.ofLast path.lastBytes).toList ∧
      path.backup.components =
        path.components.dropLast ++ [.name (path.lastBytes ++ backupSuffix)] := by
  obtain ⟨parts, last, longer, shown, empty⟩ := h.components
  have written : ((Component.ofLast last).map Component.bytes).getD [] = last :=
    Component.bytes_ofLast last
  cases found : Component.ofLast last with
  | some part =>
    have same : path.lastBytes = last := by
      rw [found] at written
      rw [lastBytes, shown, found, Option.toList_some, List.getLast?_concat]
      exact written
    have front : path.components.dropLast = parts := by
      rw [shown, found]
      simp
    rw [same, front]
    exact ⟨shown, longer⟩
  | none =>
    rw [found] at written
    obtain rfl : [] = last := written
    obtain rfl := empty rfl
    rw [found] at shown
    have same : path.lastBytes = [] := by
      rw [lastBytes, shown]
      rfl
    rw [same, shown, found]
    exact ⟨rfl, longer⟩

theorem ShowsLast.alike_iff {first second : Path} (h : first.ShowsLast)
    (h' : second.ShowsLast) : first.Alike second ↔ first.backup.Alike second.backup := by
  obtain ⟨parts, longer⟩ := h.split
  obtain ⟨parts', longer'⟩ := h'.split
  constructor
  · intro alike
    have bytes : first.lastBytes = second.lastBytes := by
      rw [lastBytes, lastBytes, show first.components = second.components from alike]
    unfold Alike
    rw [longer, longer', show first.components = second.components from alike, bytes]
  · intro alike
    unfold Alike at alike
    rw [longer, longer'] at alike
    obtain ⟨front, named⟩ := List.append_inj' alike rfl
    have bytes : first.lastBytes = second.lastBytes :=
      List.append_cancel_right (Component.name.inj (List.singleton_inj.mp named))
    unfold Alike
    rw [parts, parts', front, bytes]

/-- A backup's path never has the parts of its file's path. -/
theorem not_alike_backup (path : Path) : ¬path.backup.Alike path := by
  intro alike
  obtain ⟨parts, last, longer, shown⟩ := exists_components path
  unfold Alike at alike
  have named : ∃ part : Component, part.bytes = last ∧ part = .name (last ++ backupSuffix) := by
    rcases shown with ⟨rfl, alone⟩ | ⟨-, behind⟩
    · rw [longer, alone] at alike
      cases found : Component.ofLast last with
      | none => simp [found] at alike
      | some part =>
        refine ⟨part, ?_, ?_⟩
        · simpa [found] using Component.bytes_ofLast last
        · simpa [found] using alike.symm
    · rw [longer, behind] at alike
      have same := List.append_cancel_left alike
      cases found : Component.ofPiece last with
      | none => simp [found] at same
      | some part =>
        refine ⟨part, Component.bytes_ofPiece found, ?_⟩
        simpa [found] using same.symm
  obtain ⟨part, bytes, rfl⟩ := named
  exact append_backupSuffix_ne last bytes

theorem backup_injective : Function.Injective backup := by
  intro first second same
  have bytes := congrArg Path.bytes same
  rw [bytes_backup, bytes_backup] at bytes
  cases first
  cases second
  exact congrArg Path.mk (List.append_cancel_right bytes)

/-- Among paths that show their last part, those that are alike are those whose backups are. The
backup of such a path has the parts in front of its last part, and behind them the last part with
the suffix. No path is alike its backup, and different bytes have different backups. -/
theorem backup_respects_alike :
    (∀ first second : Path, first.ShowsLast → second.ShowsLast →
      (first.Alike second ↔ first.backup.Alike second.backup)) ∧
    (∀ path : Path, path.ShowsLast →
      path.backup.components =
        path.components.dropLast ++ [.name (path.lastBytes ++ backupSuffix)]) ∧
    (∀ path : Path, ¬path.backup.Alike path) ∧
    Function.Injective backup :=
  ⟨fun _ _ h h' => h.alike_iff h', fun _ h => h.split.2, not_alike_backup, backup_injective⟩

/-- `./x//b` and `././x/./b` are alike, and so are their backups, which are `./x/b.bk`. -/
theorem backup_respects_alike_point :
    let first : Path := ofString "./x//b"
    let second : Path := ofString "././x/./b"
    first.ShowsLast ∧ second.ShowsLast ∧ first ≠ second ∧ first.backup.Alike second.backup ∧
      first.backup.components = [.current, .name [0x78], .name ([0x62] ++ backupSuffix)] := by
  intro first second
  have shown : first.ShowsLast ∧ second.ShowsLast ∧ first ≠ second ∧ first.Alike second ∧
      first.components = [.current, .name [0x78], .name [0x62]] := by decide +kernel
  obtain ⟨shows, shows', other, alike, parts⟩ := shown
  refine ⟨shows, shows', other, ?_, ?_⟩
  · exact (backup_respects_alike.1 first second shows shows').mp alike
  · rw [backup_respects_alike.2.1 first shows, lastBytes, parts]
    rfl

end RowDrop.Path
