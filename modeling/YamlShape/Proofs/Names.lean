/-
# YamlShape.Proofs.Names -- what names are made of

A name comes from a key: separators vanish, and the first character of every run
gives way to its upper-case form.  That form may be up to three characters long,
so the question is what it can bring in.  The answer is `mem_upperCase`: capital
letters and characters beyond ASCII, and nothing else unless the key had it.

* `mem_pascal`: so a name has no separator, and no line feed if its key has none.
* `isRecordName_recordNameFor`, `isRecordName_rootName`: every name that a run gives
  to a record is filled and free of separators.
* `name_of_mem_writes`: a run gives no other names.
-/
import YamlShape.Proofs.Writes

namespace YamlShape

set_option autoImplicit false

/-! ## Upper case -/

namespace Text

/-- The code points that upper-case forms bring in: those of the capital letters,
and of characters beyond ASCII. -/
def IsCapitalCode (code : Nat) : Prop :=
  65 ≤ code ∧ code ≤ 90 ∨ 128 ≤ code ∧ code.isValidChar

instance (code : Nat) : Decidable (IsCapitalCode code) :=
  inferInstanceAs (Decidable (_ ∨ _))

theorem isCapitalCode_expansions :
    ∀ entry ∈ expansions, ∀ code ∈ entry.2, IsCapitalCode code := by
  decide +kernel

/-- The capitals of a range lie between those of its two ends: among the capital
letters, or beyond ASCII and clear of what is no character. -/
theorem capitals_ranges : ∀ range ∈ ranges,
    65 ≤ range.first + range.shift ∧ range.last + range.shift ≤ 90 ∨
      128 ≤ range.first + range.shift ∧ range.last + range.shift < 0xD800 ∨
      0xDFFF < range.first + range.shift ∧ range.last + range.shift < 0x110000 := by
  decide +kernel

theorem isCapitalCode_of_mem_upperCodes {code result : Nat} (beyond : 128 ≤ code)
    (valid : code.isValidChar) (inside : result ∈ upperCodes code) : IsCapitalCode result := by
  unfold upperCodes at inside
  split at inside
  · next codes found =>
    obtain ⟨before, after, split, _⟩ := List.lookup_eq_some_iff.1 found
    exact isCapitalCode_expansions (code, codes) (by rw [split]; simp) result inside
  · split at inside
    · next range found =>
      rw [List.mem_singleton] at inside
      have among := capitals_ranges range (List.mem_of_find?_eq_some found)
      have within := List.find?_some found
      simp only [CaseRange.contains, Bool.and_eq_true, decide_eq_true_eq] at within
      obtain ⟨⟨low, high⟩, _⟩ := within
      unfold IsCapitalCode Nat.isValidChar
      omega
    · rw [List.mem_singleton] at inside
      exact .inr ⟨inside ▸ beyond, inside ▸ valid⟩

theorem toUpper_ascii : ∀ code < 128,
    (Char.ofNat code).toUpper = Char.ofNat code ∨
      IsCapitalCode (Char.ofNat code).toUpper.toNat := by
  decide

/-- These code points are those of characters. -/
theorem toNat_ofNat_of_isCapitalCode {code : Nat} (capital : IsCapitalCode code) :
    (Char.ofNat code).toNat = code := by
  have valid : code.isValidChar := by
    unfold IsCapitalCode Nat.isValidChar at *
    omega
  have same : Char.ofNat code = Char.ofNatAux code valid := dif_pos valid
  rw [same]
  rfl

/-- A character of an upper-case form is the character itself, a capital letter, or
beyond ASCII. -/
theorem mem_upperCase {c d : Char} (inside : d ∈ upperCase c) : d = c ∨ IsCapitalCode d.toNat := by
  unfold upperCase at inside
  split at inside
  · next ascii =>
    obtain rfl := List.mem_singleton.1 inside
    simpa only [Char.ofNat_toNat] using toUpper_ascii c.toNat ascii
  · next beyond =>
    obtain ⟨code, listed, rfl⟩ := List.mem_map.1 inside
    have capital := isCapitalCode_of_mem_upperCodes (Nat.not_lt.1 beyond) c.valid listed
    rw [toNat_ofNat_of_isCapitalCode capital]
    exact .inr capital

end Text

/-! ## Names of keys -/

namespace Name

open Text (IsCapitalCode mem_upperCase)

/-- A character of an identifier stood in the key, within a run, or came in with an
upper-case form. -/
theorem mem_pascal {opening : Bool} {key : List Char} {c : Char}
    (inside : c ∈ pascal opening key) :
    c ∈ key ∧ isSeparator c = false ∨ IsCapitalCode c.toNat := by
  induction key generalizing opening with
  | nil => cases inside
  | cons first rest ih =>
      have later : ∀ {opening}, c ∈ pascal opening rest →
          c ∈ first :: rest ∧ isSeparator c = false ∨ IsCapitalCode c.toNat :=
        fun below => (ih below).imp_left (.imp_left (List.mem_cons_of_mem _))
      rw [pascal] at inside
      split at inside
      · exact later inside
      · next plain =>
        have own : c = first → c ∈ first :: rest ∧ isSeparator c = false := by
          rintro rfl
          exact ⟨List.mem_cons_self, Bool.eq_false_iff.2 plain⟩
        split at inside
        · rcases List.mem_append.1 inside with upper | below
          · exact (mem_upperCase upper).imp_left own
          · exact later below
        · rcases List.mem_cons.1 inside with same | below
          · exact .inl (own same)
          · exact later below

theorem not_isSeparator_of_isCapitalCode {c : Char} (capital : IsCapitalCode c.toNat) :
    isSeparator c = false := by
  refine Bool.eq_false_iff.2 fun separator => ?_
  simp only [isSeparator, Bool.or_eq_true, decide_eq_true_eq] at separator
  rcases separator with rfl | rfl <;> exact absurd capital (by decide)

theorem not_isSeparator_of_mem_normalize {key : String} {c : Char}
    (inside : c ∈ (normalize key).toList) : isSeparator c = false := by
  rw [normalize, String.toList_ofList] at inside
  rcases mem_pascal inside with ⟨_, plain⟩ | capital
  · exact plain
  · exact not_isSeparator_of_isCapitalCode capital

/-- No line feed comes in with a capital. -/
theorem newline_notMem_normalize {key : String} (clear : '\n' ∉ key.toList) :
    '\n' ∉ (normalize key).toList := by
  intro inside
  rw [normalize, String.toList_ofList] at inside
  rcases mem_pascal inside with ⟨listed, _⟩ | capital
  · exact clear listed
  · exact absurd capital (by decide)

/-- A name as records have it: filled, and without separators. -/
structure IsRecordName (name : String) : Prop where
  ne_empty : name ≠ ""
  joined : ∀ c ∈ name.toList, isSeparator c = false

instance (name : String) : Decidable (IsRecordName name) :=
  decidable_of_iff (name ≠ "" ∧ name.toList.all (fun c => !isSeparator c) = true)
    ⟨fun parts => ⟨parts.1, by simpa using parts.2⟩,
      fun sound => ⟨sound.ne_empty, by simpa using sound.joined⟩⟩

theorem isRecordName_recordNameFor (key : String) : IsRecordName (recordNameFor key) := by
  rw [recordNameFor]
  split
  · decide
  · next filled =>
    exact ⟨fun empty => filled (by rw [empty]; rfl), fun _ => not_isSeparator_of_mem_normalize⟩

end Name

/-! ## Names of records -/

namespace Walk

open Name (recordNameFor nestedFallback IsRecordName isRecordName_recordNameFor)

theorem isRecordName_rootName (index total : Nat) (body : Node) :
    IsRecordName (rootName index total body) := by
  unfold rootName
  split
  · exact isRecordName_recordNameFor _
  · have word : IsRecordName documentRoot := by decide
    split
    · exact word
    · refine ⟨by simp [documentRoot, String.append_eq_empty_iff], fun c inside => ?_⟩
      rw [String.toList_append, List.mem_append] at inside
      rcases inside with letter | number
      · exact word.joined c letter
      · have digit : c.isDigit = true := by
          rw [Nat.toString_eq_repr, Nat.toList_repr] at number
          exact Nat.isDigit_of_mem_toDigits (by decide) (by decide) number
        refine Bool.eq_false_iff.2 fun separator => ?_
        simp only [Name.isSeparator, Bool.or_eq_true, decide_eq_true_eq] at separator
        rcases separator with rfl | rfl <;> exact absurd digit (by decide)

/-- A record has the name of the value it is visited for, or that of a key. -/
theorem name_of_mem_writes {options : Options} {name : String} {node : Node} {record : Record}
    (written : record ∈ writes options name node) :
    record.name = name ∨ ∃ key, record.name = recordNameFor key := by
  induction node using Node.induction generalizing name with
  | scalar => rw [writes] at written; cases written
  | unknown => rw [writes] at written; cases written
  | sequence items ih =>
      cases items with
      | nil => rw [writes] at written; cases written
      | cons first rest =>
          rw [writes_sequence] at written
          rcases ih first List.mem_cons_self written with fallback | keyed
          · exact .inr ⟨"", fallback⟩
          · exact .inr keyed
  | mapping entries ih =>
      by_cases empty : entries = []
      · rw [empty, writes] at written
        cases written
      rcases (mem_writes_mapping empty).1 written with rfl | ⟨entry, member, below⟩
      · exact .inl rfl
      · exact .inr ((ih entry member below).elim (fun same => ⟨entry.1, same⟩) id)

end Walk

/-- What is registered has a record name. -/
theorem Generation.isRecordName_of_get?_run {documents : List Node} {options : Options}
    {name : String} {record : Record}
    (stands : (run documents options).registry.get? name = some record) :
    Name.IsRecordName name := by
  rw [← name_of_get?_run stands]
  obtain ⟨⟨body, root⟩, member, among⟩ := List.mem_flatMap.1 (mem_writes_of_get?_run stands)
  have rooted : Name.IsRecordName root := by
    obtain ⟨index, _, rfl⟩ := List.mem_mapIdx.1 (List.of_mem_zip member).2
    exact Walk.isRecordName_rootName _ _ _
  simp only [Walk.bodyWrites] at among
  split at among
  · rcases Walk.name_of_mem_writes among with same | ⟨key, same⟩
    · exact same ▸ rooted
    · exact same ▸ Name.isRecordName_recordNameFor key
  · cases among

end YamlShape
