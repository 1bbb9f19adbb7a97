/-
# YamlShape.Proofs.Patterns -- what a glob is read to

A glob is cut at its slashes, and each text between them becomes a segment.  A pattern
asks for no characters but those of its text (`Pattern.mem_of_readFrom`), so a segment
that stands for a single name has no slash in it.

A glob for the names of a directory is a text for the directory with a pattern behind it.
Whatever the directory, its last segment is what that pattern is read to
(`globSegments_of_place`).
-/
import Mathlib.Data.List.Basic
import YamlShape.Proofs.Paths
import YamlShape.Proofs.Steps

namespace YamlShape.Files

set_option autoImplicit false

namespace Pattern

/-! ## Characters of a pattern -/

theorem closed?_eq_some {part : List CharRange → PatternPart} {first : Char}
    {rest behind : List Char} {found : PatternPart}
    (closed : closed? part first rest = some (found, behind)) :
    (∃ ranges, found = part ranges) ∧ behind ⊆ rest := by
  unfold closed? at closed
  split at closed
  · cases closed
  · next opened =>
    cases closed
    refine ⟨⟨_, rfl⟩, fun c inside => ?_⟩
    have kept := (List.dropWhile_suffix (l := rest) (· ≠ ']')).subset
    rw [opened] at kept
    exact kept (List.mem_cons_of_mem _ inside)

theorem class?_eq_some {text behind : List Char} {found : PatternPart}
    (closed : class? text = some (found, behind)) :
    (∀ c, found ≠ .char c) ∧ behind ⊆ text := by
  unfold class? at closed
  split at closed
  · obtain ⟨⟨ranges, rfl⟩, kept⟩ := closed?_eq_some closed
    exact ⟨nofun, fun c inside => List.mem_cons_of_mem _ (List.mem_cons_of_mem _ (kept inside))⟩
  · cases closed
  · obtain ⟨⟨ranges, rfl⟩, kept⟩ := closed?_eq_some closed
    exact ⟨nofun, fun c inside => List.mem_cons_of_mem _ (kept inside)⟩
  · cases closed

/-- A character of a pattern is its first part, or it comes from what is behind it. -/
theorem mem_cons_of_read {part : PatternPart} {behind : Except PatternError Pattern}
    {pattern : Pattern} {c : Char}
    (read : (do return part :: (← behind)) = (.ok pattern : Except PatternError Pattern))
    (inside : .char c ∈ pattern) :
    part = .char c ∨ ∃ rest, behind = .ok rest ∧ .char c ∈ rest := by
  obtain ⟨rest, found, same⟩ := bind_eq_ok_iff.1 read
  cases same
  rcases List.mem_cons.1 inside with first | later
  · exact .inl first.symm
  · exact .inr ⟨rest, found, later⟩

/-- A pattern asks for no characters but those of its text. -/
theorem mem_of_readFrom {before : Option Char} {position : Nat} {text : List Char}
    {pattern : Pattern} (read : readFrom before position text = .ok pattern) {c : Char}
    (inside : .char c ∈ pattern) : c ∈ text := by
  fun_induction readFrom before position text generalizing pattern with
  | case1 => cases read; cases inside
  | case2 before position rest ih =>
      obtain same | ⟨behind, later, held⟩ := mem_cons_of_read read inside
      · cases same
      · exact List.mem_cons_of_mem _ (ih later held)
  | case3 | case4 | case7 | case9 => cases read
  | case5 =>
      cases read
      rcases List.mem_singleton.1 inside
  | case6 before position alone rest next ih =>
      obtain same | ⟨behind, later, held⟩ := mem_cons_of_read read inside
      · cases same
      · exact List.mem_append_right ['*', '*', '/'] (ih later held)
  | case8 before position rest next other ih =>
      obtain same | ⟨behind, later, held⟩ := mem_cons_of_read read inside
      · cases same
      · exact List.mem_cons_of_mem _ (ih later held)
  | case10 before position rest part behind closed shorter _ =>
      rename_i ih
      obtain ⟨never, kept⟩ := class?_eq_some closed
      obtain same | ⟨later, read, held⟩ := mem_cons_of_read read inside
      · exact absurd same (never c)
      · exact List.mem_cons_of_mem _ (kept (ih read held))
  | case11 before position first rest h1 h2 h3 h4 h5 ih =>
      obtain same | ⟨behind, later, held⟩ := mem_cons_of_read read inside
      · cases same
        exact List.mem_cons_self
      · exact List.mem_cons_of_mem _ (ih later held)

theorem mem_of_literal? {pattern : Pattern} {text : String} (plain : pattern.literal? = some text)
    {c : Char} (inside : c ∈ text.toList) : .char c ∈ pattern := by
  unfold literal? at plain
  dsimp only at plain
  split at plain
  · cases plain
    rw [String.toList_ofList, List.mem_filterMap] at inside
    obtain ⟨part, held, same⟩ := inside
    cases part <;> cases same
    exact held
  · cases plain

/-! ## Names that fit -/

theorem fits_chars {text name : List Char} : fits (text.map .char) name = true ↔ name = text := by
  induction text generalizing name with
  | nil => rw [List.map_nil, fits, List.isEmpty_iff]
  | cons first rest ih =>
      cases name with
      | nil => simp [fits]
      | cons c others =>
          rw [List.map_cons, fits, Bool.and_eq_true, decide_eq_true_eq, ih, List.cons.injEq]

/-- A star with a text behind it stands for the names that end in the text. -/
theorem fits_anyText_chars {text name : List Char} :
    fits (.anyText :: text.map .char) name = true ↔ text <:+ name := by
  rw [fits, List.any_eq_true]
  constructor
  · rintro ⟨taken, _, fitting⟩
    rw [fits_chars] at fitting
    exact fitting ▸ List.drop_suffix taken name
  · rintro ⟨front, rfl⟩
    refine ⟨front.length, ?_, ?_⟩
    · rw [List.mem_range, List.length_append]
      omega
    · rw [List.drop_left, fits_chars]

end Pattern

theorem GlobSegment.mem_of_read {text name : String}
    (read : GlobSegment.read text = .ok (.name name)) {c : Char} (inside : c ∈ name.toList) :
    c ∈ text.toList := by
  obtain ⟨pattern, parts, same⟩ := bind_eq_ok_iff.1 read
  have shape := Except.ok.inj same
  split at shape
  · cases shape
  · next _ plain =>
    cases shape
    exact Pattern.mem_of_readFrom parts (Pattern.mem_of_literal? plain inside)
  · cases shape

/-! ## The texts of a glob -/

theorem dropPrefix_slash (text : String) : (text.dropPrefix "/").toString =
    if "/".toList <+: text.toList then String.ofList text.toList.tail else text := by
  rw [String.dropPrefix, String.Slice.dropPrefix]
  cases dropped : text.toSlice.dropPrefix? "/" with
  | none =>
      have unrooted : ¬ "/".toList <+: text.toList := by
        rw [← String.startsWith_string_iff, Bool.not_eq_true]
        exact String.Slice.dropPrefix?_eq_none_iff.1 dropped
      rw [if_neg unrooted, Option.getD_none]
      exact String.copy_toSlice
  | some behind =>
      obtain rfl : text = "/" ++ behind.copy :=
        String.eq_append_of_dropPrefix?_string_eq_some dropped
      have rooted : "/".toList <+: ("/" ++ behind.copy).toList := by
        rw [String.toList_append]
        exact List.prefix_append _ _
      rw [if_pos rooted, Option.getD_some, String.toList_append]
      exact String.ofList_toList.symm

/-- Without a slash at its front a glob for the names of a directory still is one. -/
theorem exists_place_dropPrefix {front text : String} (place : PathText.IsPlace front)
    (whole : '/' ∉ text.toList) : ∃ rest, PathText.IsPlace rest ∧
      ((front ++ text).dropPrefix "/").toString = rest ++ text := by
  rw [dropPrefix_slash]
  split
  · next rooted =>
    rcases place with rfl | ⟨before, rfl⟩
    · rw [String.empty_append] at rooted
      exact absurd (rooted.subset (by simp)) whole
    · cases start : before.toList with
      | nil =>
          refine ⟨"", .inl rfl, String.toList_inj.1 ?_⟩
          simp [start]
      | cons first others =>
          refine ⟨String.ofList others ++ "/", PathText.isPlace_slash _, String.toList_inj.1 ?_⟩
          simp [start]
  · exact ⟨front, place, rfl⟩

theorem globTexts_of_place {front text : String} (place : PathText.IsPlace front)
    (whole : '/' ∉ text.toList) (filled : text ≠ "") : ∃ around,
      globTexts (front ++ text) = around ++ [text] ∧
      ∀ other ∈ around, '/' ∉ other.toList := by
  obtain ⟨rest, behind, dropped⟩ := exists_place_dropPrefix place whole
  obtain ⟨around, cut, _⟩ := PathText.exists_segments_of_place behind
  refine ⟨around, ?_, ?_⟩
  · rw [globTexts, dropped, cut text whole]
    simp [filled]
  · intro other inside
    have held : other ∈ PathText.segments (rest ++ text) := by
      rw [cut text whole]
      exact List.mem_append_left _ inside
    exact PathText.notMem_of_mem_segments held

/-! ## The segments of a glob -/

/-- Segments without a slash in them. -/
def SlashFree (segments : List GlobSegment) : Prop :=
  ∀ name, .name name ∈ segments → '/' ∉ name.toList

theorem SlashFree.tail {segment : GlobSegment} {rest : List GlobSegment}
    (whole : SlashFree (segment :: rest)) : SlashFree rest :=
  fun name inside => whole name (List.mem_cons_of_mem _ inside)

theorem mem_of_mem_oneDepth {segments : List GlobSegment} {segment : GlobSegment}
    (inside : segment ∈ oneDepth segments) : segment ∈ segments := by
  fun_induction oneDepth segments with
  | case1 => cases inside
  | case2 rest kept same ih =>
      rw [same] at ih
      exact List.mem_cons_of_mem _ (ih inside)
  | case3 rest other ih =>
      rcases List.mem_cons.1 inside with rfl | behind
      · exact List.mem_cons_self
      · exact List.mem_cons_of_mem _ (ih behind)
  | case4 first rest other ih =>
      rcases List.mem_cons.1 inside with rfl | behind
      · exact List.mem_cons_self
      · exact List.mem_cons_of_mem _ (ih behind)

theorem getLast?_oneDepth (segments : List GlobSegment) :
    (oneDepth segments).getLast? = segments.getLast? := by
  fun_induction oneDepth segments with
  | case1 => rfl
  | case2 rest kept same ih =>
      rw [same] at ih
      rw [ih, List.getLast?_cons, ← ih, List.getLast?_cons, Option.getD_some]
  | case3 rest other ih => rw [List.getLast?_cons, List.getLast?_cons, ih]
  | case4 first rest other ih => rw [List.getLast?_cons, List.getLast?_cons, ih]

/-- The segments of a glob for the names of a directory end in what its last text is read
to. -/
theorem globSegments_of_place {front text : String} {pattern : Pattern}
    {segments : List GlobSegment} (place : PathText.IsPlace front) (whole : '/' ∉ text.toList)
    (filled : text ≠ "") (last : GlobSegment.read text = .ok (.wildcard pattern))
    (read : globSegments (front ++ text) = .ok segments) :
    segments.getLast? = some (.wildcard pattern) ∧ SlashFree segments := by
  obtain ⟨around, texts, clear⟩ := globTexts_of_place place whole filled
  rw [globSegments, texts] at read
  obtain ⟨_, _, read⟩ := bind_eq_ok_iff.1 read
  obtain ⟨listed, done, same⟩ := bind_eq_ok_iff.1 read
  cases same
  constructor
  · rw [List.mapM_append] at done
    obtain ⟨others, _, done⟩ := bind_eq_ok_iff.1 done
    rw [List.mapM_cons, last, List.mapM_nil] at done
    cases done
    rw [getLast?_oneDepth]
    exact List.getLast?_concat
  · intro name inside
    obtain ⟨other, held, same⟩ := mem_of_mapM done (mem_of_mem_oneDepth inside)
    have clear_other : '/' ∉ other.toList := by
      rcases List.mem_append.1 held with before | at_end
      · exact clear other before
      · rw [List.mem_singleton.1 at_end]
        exact whole
    exact fun slashed => clear_other (GlobSegment.mem_of_read same slashed)

end YamlShape.Files
