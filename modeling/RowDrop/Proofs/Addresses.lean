import Mathlib.Data.List.Basic
import Mathlib.Data.List.TakeWhile
import RowDrop.Proofs.Text.Utf8
import RowDrop.Store.Client
import RowDrop.Store.Key

/-!
# The path of a request

An address is put together as text and read again. What reading changes in a path is known: it
writes some characters by number, ends at a mark, and resolves the segments that stand for a
directory. A path that has none of them is sent as it is (`Url.readPath_of_plain`). What a name is
written as has none of them either, unless one of its segments is `.` or `..` (`Url.plain_encode`).
So a request asks for the bucket and the name behind the path of the endpoint, as long as this path
and the bucket are read as they are written (`Client.EndpointParts.requestPath`).
-/

namespace RowDrop

variable {text path host : List Char} {c : Char}

/-! ## Characters written by number -/

namespace Percent

variable {keep : Char → Bool}

theorem encode_append (keep : Char → Bool) (front behind : List Char) :
    encode keep (front ++ behind) = encode keep front ++ encode keep behind :=
  List.flatMap_append

theorem encode_cons_of_kept (kept : keep c) (text : List Char) :
    encode keep (c :: text) = c :: encode keep text := by
  simp [encode, kept]

/-- A character that is not kept opens with a percent sign and the digits of its first byte. -/
theorem encode_cons_of_not_kept (kept : ¬keep c) (text : List Char) :
    ∃ byte bytes more, String.utf8EncodeChar c = byte :: bytes ∧
      encode keep (c :: text) = writeByte byte ++ more := by
  obtain ⟨byte, bytes, written, -⟩ := Utf8.piece_of_encodeChar c []
  refine ⟨byte, bytes, bytes.flatMap writeByte ++ encode keep text, written, ?_⟩
  simp [encode, kept, writeChar, written]

theorem encode_of_kept (kept : ∀ c ∈ text, keep c) : encode keep text = text := by
  induction text with
  | nil => rfl
  | cons c text ih =>
    rw [encode_cons_of_kept (kept c List.mem_cons_self),
      ih fun c mem => kept c (List.mem_cons_of_mem _ mem)]

theorem eq_nil_of_encode (h : encode keep text = []) : text = [] := by
  cases text with
  | nil => rfl
  | cons c text =>
    by_cases kept : keep c
    · rw [encode_cons_of_kept kept] at h
      cases h
    · obtain ⟨byte, _, more, -, written⟩ := encode_cons_of_not_kept kept text
      cases written.symm.trans h

/-- A mark that is kept stands between the same pieces as before. -/
theorem encode_join {mark : Char} (kept : keep mark) (pieces : List (List Char)) :
    encode keep (Text.join mark pieces) = Text.join mark (pieces.map (encode keep)) := by
  induction pieces with
  | nil => rfl
  | cons piece pieces ih =>
    cases pieces with
    | nil => simp [Text.join]
    | cons next pieces =>
      have full : next :: pieces ≠ [] := by simp
      have mapped : (next :: pieces).map (encode keep) ≠ [] := by simp
      rw [Text.join_cons piece full, encode_append, encode_cons_of_kept kept, ih,
        ← Text.join_cons _ mapped, ← List.map_cons]

theorem mem_encode (h : c ∈ encode keep text) :
    c ∈ text ∧ keep c ∨ c = '%' ∨ ∃ value < 16, c = upperHex value := by
  obtain ⟨d, mem, there⟩ := List.mem_flatMap.mp h
  by_cases kept : keep d
  · rw [if_pos kept, List.mem_singleton] at there
    subst there
    exact .inl ⟨mem, kept⟩
  · rw [if_neg kept] at there
    obtain ⟨byte, -, digit⟩ := List.mem_flatMap.mp there
    have small := byte.toNat_lt
    simp only [writeByte, List.mem_cons, List.not_mem_nil, or_false] at digit
    obtain sign | high | low := digit
    · exact .inr (.inl sign)
    · exact .inr (.inr ⟨_, by omega, high⟩)
    · exact .inr (.inr ⟨_, by omega, low⟩)

end Percent

namespace Url

/-! ## Plain paths -/

/-- A path that an address sends as it is written. -/
structure Plain (path : List Char) : Prop where
  kept : ∀ c ∈ path, keepsInPath c ∧ c ≠ '\\'
  noDots : ∀ segment ∈ Text.split '/' path, ¬isDot segment ∧ ¬isDotDot segment

/-- With a slash in front a plain path has no other characters. -/
theorem Plain.rooted (h : Plain path) : ∀ c ∈ '/' :: path, keepsInPath c ∧ c ≠ '\\' := by
  intro c mem
  obtain rfl | mem := List.mem_cons.mp mem
  · simp [keepsInPath, Host.isGraphic]
  · exact h.kept c mem

theorem plain_append_iff (front behind : List Char) :
    Plain (front ++ '/' :: behind) ↔ Plain front ∧ Plain behind := by
  constructor
  · rintro ⟨kept, noDots⟩
    rw [Text.split_append] at noDots
    exact ⟨⟨fun c mem => kept c (List.mem_append_left _ mem),
        fun segment mem => noDots segment (List.mem_append_left _ mem)⟩,
      ⟨fun c mem => kept c (List.mem_append_right _ (List.mem_cons_of_mem _ mem)),
        fun segment mem => noDots segment (List.mem_append_right _ mem)⟩⟩
  · rintro ⟨first, second⟩
    constructor
    · intro c mem
      obtain mem | mem := List.mem_append.mp mem
      · exact first.kept c mem
      · exact second.rooted c mem
    · intro segment mem
      rw [Text.split_append] at mem
      exact (List.mem_append.mp mem).elim (first.noDots segment) (second.noDots segment)

theorem resolveDots_of_noDots {segments : List (List Char)}
    (h : ∀ segment ∈ segments, ¬isDot segment ∧ ¬isDotDot segment) (front : List (List Char)) :
    resolveDots front segments = front.reverse ++ segments := by
  induction segments generalizing front with
  | nil => simp [resolveDots]
  | cons segment segments ih =>
    obtain ⟨one, two⟩ := h segment List.mem_cons_self
    have behind := ih (fun segment mem => h segment (List.mem_cons_of_mem _ mem))
      (segment :: front)
    simp only [resolveDots, two, one, if_false, behind, List.reverse_cons, List.append_assoc,
      List.singleton_append, Bool.false_eq_true]

/-- Slashes in front of pieces are slashes between them, with one in front. -/
theorem flatMap_slash {pieces : List (List Char)} (full : pieces ≠ []) :
    (pieces.flatMap fun piece => '/' :: piece) = '/' :: Text.join '/' pieces := by
  induction pieces with
  | nil => exact absurd rfl full
  | cons piece pieces ih =>
    cases pieces with
    | nil => simp [Text.join]
    | cons next pieces =>
      have full : next :: pieces ≠ [] := by simp
      rw [List.flatMap_cons, ih full, Text.join_cons piece full, List.cons_append]

theorem readPath_of_plain (h : Plain path) (kind : Kind) :
    readPath kind ('/' :: path) = '/' :: path := by
  have slashes : ('/' :: path).map (fun c => if kind.isSlash c then '/' else c) = '/' :: path := by
    have same : ∀ c ∈ '/' :: path, (if kind.isSlash c then '/' else c) = c := by
      intro c mem
      split_ifs with slash
      · simpa [Kind.isSlash, (h.rooted c mem).2, eq_comm] using slash
      · rfl
    rw [List.map_congr_left same, List.map_id']
  have written : ∀ segment ∈ Text.split '/' path,
      '/' :: Percent.encode keepsInPath segment = '/' :: segment := by
    intro segment mem
    refine congrArg ('/' :: ·) (Percent.encode_of_kept fun c there => (h.kept c ?_).1)
    exact (Text.mem_of_mem_split mem there).1
  simp only [readPath, List.cons_ne_nil, false_and, if_false, slashes, List.head?_cons, if_true,
    List.drop_succ_cons, List.drop_zero]
  rw [resolveDots_of_noDots h.noDots, List.reverse_nil, List.nil_append,
    List.flatMap_congr written, flatMap_slash (Text.split_ne_nil '/' path), Text.join_split]

/-! ## Names of objects -/

/-- The ways in which an address can hold a point, but for the case of the letter. -/
def points : List (List Char) := [['.'], ['%', '2', 'e']]

theorem isDot_iff (segment : List Char) :
    isDot segment ↔ ∃ point ∈ points, segment.map Char.toLower = point := by
  simp [isDot, points, ← String.toList_inj]

theorem isDotDot_iff (segment : List Char) :
    isDotDot segment ↔
      ∃ first ∈ points, ∃ second ∈ points, segment.map Char.toLower = first ++ second := by
  simp [isDotDot, points, ← String.toList_inj, or_assoc]

theorem upperHex_digits : ∀ value < 16, (Percent.upperHex value).isAlphanum ∧
    Percent.upperHex value ≠ '/' ∧ ((Percent.upperHex value).toLower = '2' → value = 2) ∧
    ((Percent.upperHex value).toLower = 'e' → value = 14) := by
  decide

theorem isGraphic_of_isAlphanum (h : c.isAlphanum) : Host.isGraphic c := by
  have value : c.val.toNat = c.toNat := rfl
  change (decide (c.val ≥ 'A'.val ∧ c.val ≤ 'Z'.val)
    || decide (c.val ≥ 'a'.val) && decide (c.val ≤ 'z'.val)
    || decide (c.val ≥ '0'.val) && decide (c.val ≤ '9'.val)) = true at h
  simp only [ge_iff_le, UInt32.le_iff_toNat_le, Bool.or_eq_true, Bool.and_eq_true,
    decide_eq_true_eq, value, Char.reduceVal, UInt32.reduceToNat] at h
  simp only [Host.isGraphic, Bool.and_eq_true, decide_eq_true_eq]
  omega

/-- What a name is not changed in, a path is not changed in. -/
theorem keepsInPath_of_keepsInKey (h : keepsInKey c) : keepsInPath c ∧ c ≠ '\\' := by
  simp only [keepsInKey, Bool.or_eq_true, String.contains_char_eq, decide_eq_true_eq] at h
  obtain letter | mark := h
  · have marks : ∀ d ∈ "\"#<>?`\x7b\x7d\\".toList, ¬d.isAlphanum := by simp
    have apart : c ∉ "\"#<>?`\x7b\x7d\\".toList := fun mem => marks c mem letter
    simp only [String.reduceToList, List.mem_cons, List.not_mem_nil, not_or] at apart
    simp [keepsInPath, isGraphic_of_isAlphanum letter, apart]
  · simp only [String.reduceToList, List.mem_cons, List.not_mem_nil, or_false] at mark
    obtain rfl | rfl | rfl | rfl | rfl := mark <;> simp [keepsInPath, Host.isGraphic]

theorem eq_of_toLower {c d : Char} (lower : c.toLower = d) (nonletter : d.toNat < 0x61) :
    c = d := by
  have numbers := congrArg Char.toNat lower
  rw [Utf8.toNat_toLower] at numbers
  split_ifs at numbers
  · omega
  · exact Char.toNat_inj.mp numbers

/-- A byte that is written like a point is the number of a point. -/
theorem eq_point_of_writeByte {byte : UInt8} {front behind : List Char}
    (h : (Percent.writeByte byte ++ front).map Char.toLower = ['%', '2', 'e'] ++ behind) :
    byte.toNat = '.'.toNat := by
  simp only [Percent.writeByte, List.cons_append, List.map_cons, List.cons.injEq] at h
  obtain ⟨-, high, low, -⟩ := h
  have small := byte.toNat_lt
  have first := (upperHex_digits _ (by omega)).2.2.1 high
  have second := (upperHex_digits _ (by omega)).2.2.2 low
  change byte.toNat = 0x2E
  omega

/-- A point is kept, so a name is written with a point in front only if it has one there. -/
theorem eq_point_of_encode {point more : List Char} (mem : point ∈ points)
    (h : (Percent.encode keepsInKey text).map Char.toLower = point ++ more) :
    ∃ rest, text = '.' :: rest ∧
      (Percent.encode keepsInKey rest).map Char.toLower = more := by
  have either : point = ['.'] ∨ point = ['%', '2', 'e'] := by simpa [points] using mem
  cases text with
  | nil =>
    obtain rfl | rfl := either
    · cases h
    · cases h
  | cons c rest =>
    by_cases kept : keepsInKey c
    · rw [Percent.encode_cons_of_kept kept, List.map_cons] at h
      obtain rfl | rfl := either
      · obtain ⟨lower, behind⟩ := List.cons.inj h
        obtain rfl := eq_of_toLower lower (by decide)
        exact ⟨rest, rfl, behind⟩
      · -- a percent sign is not kept
        obtain ⟨lower, -⟩ := List.cons.inj h
        obtain rfl := eq_of_toLower lower (by decide)
        have mark : '%'.isAlphanum = false := by decide
        simp [keepsInKey, mark] at kept
    · obtain ⟨byte, bytes, _, written, numbers⟩ := Percent.encode_cons_of_not_kept kept rest
      rw [numbers] at h
      obtain rfl | rfl := either
      · cases (List.cons.inj h).1
      · -- a point is kept
        have number := eq_point_of_writeByte h
        have same := Utf8.toNat_of_encodeChar written (by rw [number]; decide)
        obtain rfl : c = '.' := Char.toNat_inj.mp (same.trans number)
        simp [keepsInKey] at kept

/-- A segment is written as one that stands for a directory only if it is one that does. -/
theorem noDots_encode (one : text ≠ ['.']) (two : text ≠ ['.', '.']) :
    ¬isDot (Percent.encode keepsInKey text) ∧ ¬isDotDot (Percent.encode keepsInKey text) := by
  constructor
  · intro dot
    obtain ⟨point, mem, whole⟩ := (isDot_iff _).mp dot
    rw [← List.append_nil point] at whole
    obtain ⟨rest, rfl, behind⟩ := eq_point_of_encode mem whole
    obtain rfl := Percent.eq_nil_of_encode (List.map_eq_nil_iff.mp behind)
    exact one rfl
  · intro dots
    obtain ⟨first, mem, second, mem', whole⟩ := (isDotDot_iff _).mp dots
    obtain ⟨rest, rfl, behind⟩ := eq_point_of_encode mem whole
    rw [← List.append_nil second] at behind
    obtain ⟨last, rfl, nothing⟩ := eq_point_of_encode mem' behind
    obtain rfl := Percent.eq_nil_of_encode (List.map_eq_nil_iff.mp nothing)
    exact two rfl

theorem plain_encode {name : List Char}
    (noDots : ∀ segment ∈ Text.split '/' name, segment ≠ ['.'] ∧ segment ≠ ['.', '.']) :
    Plain (Percent.encode keepsInKey name) := by
  have pieces : Text.split '/' (Percent.encode keepsInKey name) =
      (Text.split '/' name).map (Percent.encode keepsInKey) := by
    have slash : keepsInKey '/' := by simp [keepsInKey]
    have full : (Text.split '/' name).map (Percent.encode keepsInKey) ≠ [] := by
      simpa using Text.split_ne_nil '/' name
    rw [← Text.join_split '/' name, Percent.encode_join slash, Text.join_split,
      Text.split_join full]
    intro segment mem there
    obtain ⟨piece, named, rfl⟩ := List.mem_map.mp mem
    obtain ⟨inside, -⟩ | sign | ⟨value, small, digit⟩ := Percent.mem_encode there
    · exact Text.not_mem_of_mem_split named inside
    · cases sign
    · exact (upperHex_digits value small).2.1 digit.symm
  constructor
  · intro c mem
    obtain ⟨-, kept⟩ | rfl | ⟨value, small, rfl⟩ := Percent.mem_encode mem
    · exact keepsInPath_of_keepsInKey kept
    · simp [keepsInPath, Host.isGraphic]
    · refine keepsInPath_of_keepsInKey ?_
      simp [keepsInKey, (upperHex_digits value small).1]
  · intro segment mem
    rw [pieces] at mem
    obtain ⟨piece, named, rfl⟩ := List.mem_map.mp mem
    exact noDots_encode (noDots piece named).1 (noDots piece named).2

/-- A path in which a name would not be written in another way is plain. -/
theorem plain_of_kept (kept : ∀ c ∈ path, keepsInKey c)
    (noDots : ∀ segment ∈ Text.split '/' path, segment ≠ ['.'] ∧ segment ≠ ['.', '.']) :
    Plain path := by
  rw [← Percent.encode_of_kept kept]
  exact plain_encode noDots

/-! ## Reading an address -/

theorem clean_of_visible (h : ∀ c ∈ text, 0x20 < c.toNat) : clean text = text := by
  have ends (text : List Char) (h : ∀ c ∈ text, 0x20 < c.toNat) :
      text.dropWhile (fun c => decide (c.toNat ≤ 0x20)) = text :=
    List.dropWhile_eq_self_iff.mpr fun full => by simpa using h _ (List.getElem_mem full)
  have inside : ∀ c ∈ text, !"\t\n\r".contains c := by
    intro c mem
    have blanks : ∀ d ∈ "\t\n\r".toList, d.toNat ≤ 0x20 := by simp
    have apart : c ∉ "\t\n\r".toList := fun blank => Nat.not_le.mpr (h c mem) (blanks c blank)
    simpa using apart
  simp only [clean, ends text h, ends text.reverse fun c mem => h c (List.mem_reverse.mp mem),
    List.reverse_reverse, List.filter_eq_self.mpr inside]

theorem cutAt_append {p : Char → Bool} {mark : Char} (plain : ∀ c ∈ text, ¬p c) (stop : p mark)
    (rest : List Char) : cutAt p (text ++ mark :: rest) = (text, mark :: rest) := by
  have before : ∀ c ∈ text, !p c := fun c mem => by simpa using plain c mem
  rw [cutAt, List.takeWhile_append_of_pos before, List.dropWhile_append_of_pos before]
  simp [stop]

theorem cutAt_of_none {p : Char → Bool} (plain : ∀ c ∈ text, ¬p c) : cutAt p text = (text, []) := by
  have before : ∀ c ∈ text, !p c := fun c mem => by simpa using plain c mem
  rw [cutAt, List.takeWhile_eq_self_iff.mpr before, List.dropWhile_eq_nil_iff.mpr before]

/-- Behind the host there is nothing, or a colon with the socket. -/
theorem cutSocket_rest (inside : Bool) (text : List Char) :
    (cutSocket inside text).2 = [] ∨
      ∃ socket, (cutSocket inside text).2 = ':' :: socket ∧ ∀ c ∈ socket, c ∈ text := by
  induction text generalizing inside with
  | nil => exact .inl rfl
  | cons c text ih =>
    rw [cutSocket]
    by_cases colon : c = ':' ∧ !inside
    · rw [if_pos colon]
      exact .inr ⟨text, by rw [colon.1], fun c mem => List.mem_cons_of_mem _ mem⟩
    · rw [if_neg colon]
      rcases ih (if c = '[' then true else if c = ']' then false else inside) with
        nothing | ⟨socket, found, within⟩
      · exact .inl nothing
      · exact .inr ⟨socket, found, fun d mem => List.mem_cons_of_mem c (within d mem)⟩

/-- Behind a socket there is nothing, except for a backslash. -/
theorem rest_of_readSocket? {kind : Kind} {shown rest : List Char} (plain : '\\' ∉ text)
    (h : readSocket? kind (':' :: text) = some (shown, rest)) : rest = [] := by
  obtain ⟨digits, behind, cut⟩ : ∃ digits behind, cutAt (!·.isDigit) text = (digits, behind) :=
    ⟨_, _, rfl⟩
  have within : ∀ c ∈ behind, c ∈ text := by
    intro c mem
    have parts : behind = text.dropWhile (!!·.isDigit) := (congrArg Prod.snd cut).symm
    rw [parts] at mem
    exact (List.dropWhile_suffix _).subset mem
  have noMark : behind.head? ≠ some '\\' :=
    fun mark => plain (within _ (List.mem_of_mem_head? mark))
  simp only [readSocket?, cut, noMark, or_false] at h
  split_ifs at h with more empty
  · exact (Prod.mk.inj (Option.some.inj h)).2.symm.trans (by simpa using more)
  · cases found : Text.number? 10 digits with
    | none =>
      rw [found] at h
      cases h
    | some number =>
      simp only [found] at h
      split_ifs at h
      · exact (Prod.mk.inj (Option.some.inj h)).2.symm.trans (by simpa using more)
      · exact (Prod.mk.inj (Option.some.inj h)).2.symm.trans (by simpa using more)

theorem rest_of_readHost? {socket : Nat} {shown host rest : List Char} (plain : '\\' ∉ text)
    (h : readHost? (.network socket) text = some (shown, host, rest)) : rest = [] := by
  have within : ∀ c ∈ (cutUser text).2, c ∈ text := by
    intro c mem
    have behind : c ∈ text.reverse.takeWhile (· ≠ '@') := by
      unfold cutUser at mem
      simp only at mem
      split_ifs at mem
      · exact List.mem_reverse.mp mem
      · exact List.mem_reverse.mp mem
    exact List.mem_reverse.mp ((List.takeWhile_prefix _).subset behind)
  simp only [readHost?, reduceCtorEq, if_false, Option.bind_eq_bind, Option.bind_eq_some_iff,
    Option.pure_def, Option.some.injEq, Prod.mk.injEq, Prod.exists] at h
  obtain ⟨-, -, shown, more, socket, -, -, rfl⟩ := h
  rcases cutSocket_rest false (cutUser text).2 with nothing | ⟨digits, found, mem⟩
  · rw [nothing] at socket
    exact (Prod.mk.inj (Option.some.inj socket)).2.symm
  · rw [found] at socket
    exact rest_of_readSocket? (fun mark => plain (within _ (mem _ mark))) socket

/-- A scheme of the web, and a host with what stands at it. -/
structure Opens (scheme host : List Char) : Prop where
  web : scheme = "http".toList ∨ scheme = "https".toList
  full : host ≠ []
  visible : ∀ c ∈ host, 0x20 < c.toNat ∧ c ∉ "/\\?#".toList

namespace Opens

variable {scheme : List Char} (opens : Opens scheme host)
include opens

theorem kind : ∃ socket, Kind.ofScheme scheme = .network socket := by
  obtain rfl | rfl := opens.web
  · exact ⟨80, by decide +kernel⟩
  · exact ⟨443, by decide +kernel⟩

theorem clean (plain : Plain path) : clean (scheme ++ "://".toList ++ host ++ '/' :: path) =
    scheme ++ "://".toList ++ host ++ '/' :: path := by
  refine clean_of_visible fun c mem => ?_
  obtain mem | mem := List.mem_append.mp mem
  · obtain mem | mem := List.mem_append.mp mem
    · have schemes : ∀ c ∈ "http://".toList ++ "https://".toList, 0x20 < c.toNat := by simp
      refine schemes c (List.mem_append.mpr ?_)
      obtain rfl | rfl := opens.web
      · exact .inl mem
      · exact .inr mem
    · exact (opens.visible c mem).1
  · have graphic := (plain.rooted c mem).1
    simp only [keepsInPath, Host.isGraphic, Bool.and_eq_true, decide_eq_true_eq] at graphic
    exact graphic.1.1

theorem cutScheme? (rest : List Char) :
    cutScheme? (scheme ++ "://".toList ++ rest) = some (scheme, "//".toList ++ rest) := by
  obtain rfl | rfl := opens.web
  · rfl
  · rfl

theorem cutSlashes? (socket : Nat) (rest : List Char) :
    cutSlashes? (.network socket) ("//".toList ++ (host ++ rest)) = some (host ++ rest) := by
  have slash : (Kind.network socket).isSlash '/' := by simp [Kind.isSlash]
  cases host with
  | nil => exact absurd rfl opens.full
  | cons first host =>
    have noSlash : ¬(Kind.network socket).isSlash first := by
      have apart := (opens.visible first List.mem_cons_self).2
      simp only [String.reduceToList, List.mem_cons, List.not_mem_nil, not_or] at apart
      simp [Kind.isSlash, apart]
    simp [Url.cutSlashes?, slash, noSlash]

theorem cutAt_endsHost (socket : Nat) (path : List Char) :
    cutAt (Kind.network socket).endsHost (host ++ '/' :: path) = (host, '/' :: path) := by
  refine cutAt_append (fun c mem => ?_) ?_ path
  · have apart := (opens.visible c mem).2
    simp only [String.reduceToList, List.mem_cons, List.not_mem_nil, not_or] at apart
    simp [Kind.endsHost, Kind.isSlash, apart]
  · simp [Kind.endsHost, Kind.isSlash]

/-- An address of the web with a plain path is read with this path and without a query. -/
theorem parse? (plain : Plain path) :
    parse? (String.ofList (scheme ++ "://".toList ++ host ++ '/' :: path)) =
      (readHost? (Kind.ofScheme scheme) host).map fun (user, name, _) =>
        ⟨scheme, user, name, '/' :: path, none, none⟩ := by
  obtain ⟨socket, kind⟩ := opens.kind
  have uncut (mark : Char) (h : ¬keepsInPath mark) :
      cutAt (· = mark) ('/' :: path) = ('/' :: path, []) := by
    refine cutAt_of_none fun c mem => ?_
    rw [decide_eq_true_eq]
    rintro rfl
    exact h (plain.rooted c mem).1
  have query := uncut '?' (by simp [keepsInPath])
  have fragment := uncut '#' (by simp [keepsInPath])
  have opened := opens.cutScheme? (host ++ '/' :: path)
  have cleaned := opens.clean plain
  rw [List.append_assoc] at cleaned
  simp only [Url.parse?, String.toList_ofList, List.append_assoc (scheme ++ _), cleaned, opened,
    kind, opens.cutSlashes?, opens.cutAt_endsHost, Option.bind_eq_bind, Option.bind_some,
    reduceCtorEq, if_false, Option.pure_def]
  cases hosted : readHost? (.network socket) host with
  | none => rfl
  | some shown =>
    obtain ⟨user, name, more⟩ := shown
    obtain rfl := rest_of_readHost? (fun mark => (opens.visible _ mark).2 (by decide)) hosted
    simp only [Option.bind_some, Option.map_some, List.nil_append, fragment, query,
      readPath_of_plain plain]
    rfl

end Opens
end Url

/-! ## Addresses of objects -/

namespace Client

/-- The endpoint of a client is a scheme of the web, a host with what stands at it, and a path that
addresses send as it is. -/
structure EndpointParts (client : Client) (scheme host path : String) : Prop where
  endpoint : client.endpoint = scheme ++ "://" ++ host ++ path
  opens : Url.Opens scheme.toList host.toList
  rooted : path = "" ∨ path.toList.head? = some '/'
  plain : Url.Plain path.toList

namespace EndpointParts

variable {client : Client} {scheme host path bucket name : String} {url : Url}
variable (parts : client.EndpointParts scheme host path) (plain : Url.Plain bucket.toList)
variable (noDots : ∀ segment ∈ Text.split '/' name.toList, segment ≠ ['.'] ∧ segment ≠ ['.', '.'])
include parts plain noDots

/-- Behind the path of the endpoint, an address has the bucket and the name, of which only the
characters that are written by number look different. -/
theorem parse?_address :
    Url.parse? (client.address bucket name) =
      (Url.readHost? (.ofScheme scheme.toList) host.toList).map fun (user, shown, _) =>
        ⟨scheme.toList, user, shown, path.toList ++ '/' :: bucket.toList ++
          '/' :: Percent.encode Url.keepsInKey name.toList, none, none⟩ := by
  generalize same : Percent.encode Url.keepsInKey name.toList = written
  have named : Url.Plain written := same ▸ Url.plain_encode noDots
  have together : Url.Plain (path.toList ++ '/' :: bucket.toList ++ '/' :: written) :=
    (Url.plain_append_iff _ _).mpr ⟨(Url.plain_append_iff _ _).mpr ⟨parts.plain, plain⟩, named⟩
  obtain ⟨rest, whole⟩ : ∃ rest,
      path.toList ++ '/' :: bucket.toList ++ '/' :: written = '/' :: rest := by
    obtain rfl | slash := parts.rooted
    · exact ⟨_, rfl⟩
    · obtain ⟨tail, front⟩ := List.head?_eq_some_iff.mp slash
      rw [front]
      exact ⟨_, rfl⟩
  rw [whole] at together
  have address : client.address bucket name =
      String.ofList (scheme.toList ++ "://".toList ++ host.toList ++ '/' :: rest) := by
    rw [← whole, ← String.toList_inj]
    simp [Client.address, parts.endpoint, same]
  rw [address, parts.opens.parse? ((Url.plain_append_iff [] rest).mp together).2, whole]

theorem requestPath (parsed : Url.parse? (client.address bucket name) = some url) :
    url.requestPath = path ++ "/" ++ bucket ++ "/"
      ++ String.ofList (Percent.encode Url.keepsInKey name.toList) := by
  rw [parts.parse?_address plain noDots] at parsed
  obtain ⟨shown, -, rfl⟩ := Option.map_eq_some_iff.mp parsed
  rw [Url.requestPath, ← String.toList_inj]
  simp

end EndpointParts
end Client
end RowDrop
