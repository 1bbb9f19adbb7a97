/-
# YamlShape.Proofs.Identifiers -- what an identifier keeps of its key

An identifier is the runs of its key, each with a capital at the front, one after the
other (`normalize_eq_runs`).  So the separators do nothing but end runs: how many there
are between two runs, which of them, and whether there are any at the ends, is not seen
(`normalize_joins_runs`).

An identifier is its own identifier (`normalize_idempotent`).  It is a single run, so
this is a matter of its first character, which came from an upper-case form and may be
any of the characters in the tables.  It has to be its own capital: no character is both
in an upper-case form and in need of one (`upperCodes_of_mem_upperCodes`).  The tables
list some thousand characters on either side, and comparing them pair by pair takes
minutes; as the bits of two numbers they are compared at once
(`disjoint_capitalCodes`).
-/
import YamlShape.Proofs.Names

namespace YamlShape

set_option autoImplicit false

/-! ## Capitals of capitals -/

namespace Text

/-- The numbers of a list as the bits of one number. -/
def bitSet (codes : List Nat) : Nat :=
  codes.foldr (fun code bits => bits ||| 1 <<< code) 0

theorem testBit_bitSet (codes : List Nat) (code : Nat) :
    (bitSet codes).testBit code = decide (code ∈ codes) := by
  induction codes with
  | nil => simp [bitSet]
  | cons first rest ih =>
      have step : bitSet (first :: rest) = bitSet rest ||| 1 <<< first := rfl
      rw [step, Nat.testBit_or, ih, Nat.one_shiftLeft, Nat.testBit_two_pow]
      by_cases same : first = code
      · simp [same]
      · have other : ¬ code = first := fun h => same h.symm
        simp [same, other]

theorem notMem_of_land_eq_zero {left right : List Nat} (clear : bitSet left &&& bitSet right = 0)
    {code : Nat} (inside : code ∈ left) : code ∉ right := by
  intro shared
  have bit : (bitSet left &&& bitSet right).testBit code = true := by
    simp [Nat.testBit_and, testBit_bitSet, inside, shared]
  rw [clear, Nat.zero_testBit] at bit
  cases bit

/-- The code points of a range. -/
def CaseRange.codes (range : CaseRange) : List Nat :=
  List.range' range.first ((range.last - range.first) / range.step + 1) range.step

theorem CaseRange.mem_codes_of_contains {range : CaseRange} {code : Nat}
    (within : range.contains code = true) : code ∈ range.codes := by
  simp only [contains, Bool.and_eq_true, decide_eq_true_eq, beq_iff_eq] at within
  obtain ⟨⟨low, high⟩, stepped⟩ := within
  have whole := Nat.div_add_mod (code - range.first) range.step
  rw [stepped, Nat.add_zero] at whole
  have place : (code - range.first) / range.step ≤ (range.last - range.first) / range.step :=
    Nat.div_le_div_right (by omega)
  rw [codes, List.mem_range']
  exact ⟨(code - range.first) / range.step, by omega, by omega⟩

/-- The code points whose upper-case form is another. -/
def casedCodes : List Nat :=
  expansions.map Prod.fst ++ ranges.flatMap CaseRange.codes

/-- The code points in these upper-case forms. -/
def capitalCodes : List Nat :=
  expansions.flatMap Prod.snd ++
    ranges.flatMap fun range => range.codes.map fun code : Nat => (code + range.shift).toNat

theorem disjoint_capitalCodes : bitSet capitalCodes &&& bitSet casedCodes = 0 := by
  decide +kernel

/-- Where the upper-case form of a code point comes from. -/
theorem upperCodes_cases (code : Nat) :
    (code, upperCodes code) ∈ expansions ∨
      (∃ range ∈ ranges, code ∈ range.codes ∧
        upperCodes code = [(code + range.shift).toNat]) ∨
      upperCodes code = [code] := by
  unfold upperCodes
  split
  · next codes found =>
    obtain ⟨before, after, parts, _⟩ := List.lookup_eq_some_iff.1 found
    exact .inl (by rw [parts]; simp)
  · split
    · next range found =>
      have listed := List.mem_of_find?_eq_some found
      have within : range.contains code = true := by simpa using List.find?_some found
      exact .inr (.inl ⟨range, listed, CaseRange.mem_codes_of_contains within, rfl⟩)
    · exact .inr (.inr rfl)

theorem upperCodes_of_notMem {code : Nat} (caseless : code ∉ casedCodes) :
    upperCodes code = [code] := by
  rw [casedCodes, List.mem_append, not_or] at caseless
  rcases upperCodes_cases code with expanded | ⟨range, listed, within, _⟩ | own
  · exact absurd (List.mem_map.2 ⟨_, expanded, rfl⟩) caseless.1
  · exact absurd (List.mem_flatMap.2 ⟨range, listed, within⟩) caseless.2
  · exact own

/-- A code point of an upper-case form is its own upper-case form. -/
theorem upperCodes_of_mem_upperCodes {code result : Nat} (inside : result ∈ upperCodes code) :
    upperCodes result = [result] := by
  have capital : result ∈ capitalCodes → upperCodes result = [result] := by
    intro listed
    exact upperCodes_of_notMem (notMem_of_land_eq_zero disjoint_capitalCodes listed)
  rcases upperCodes_cases code with expanded | ⟨range, listed, within, shifted⟩ | own
  · exact capital (List.mem_append_left _ (List.mem_flatMap.2 ⟨_, expanded, inside⟩))
  · rw [shifted, List.mem_singleton] at inside
    have moved : result ∈ range.codes.map fun code : Nat => (code + range.shift).toNat :=
      List.mem_map.2 ⟨code, within, inside.symm⟩
    exact capital (List.mem_append_right _ (List.mem_flatMap.2 ⟨range, listed, moved⟩))
  · rw [own, List.mem_singleton] at inside
    rw [inside, own]

theorem toUpper_toUpper_ascii : ∀ code < 128,
    (Char.ofNat code).toUpper.toNat < 128 ∧
      (Char.ofNat code).toUpper.toUpper = (Char.ofNat code).toUpper := by
  decide

theorem toUpper_capital_ascii : ∀ code < 128, IsCapitalCode code →
    (Char.ofNat code).toUpper = Char.ofNat code := by
  decide

/-- **A capital is its own capital.** -/
theorem upperCase_of_mem_upperCase {c d : Char} (inside : d ∈ upperCase c) :
    upperCase d = [d] := by
  unfold upperCase at inside
  split at inside
  · next ascii =>
    obtain rfl := List.mem_singleton.1 inside
    have upper := toUpper_toUpper_ascii c.toNat ascii
    rw [Char.ofNat_toNat] at upper
    rw [upperCase_ascii _ upper.1, upper.2]
  · next beyond =>
    obtain ⟨code, listed, rfl⟩ := List.mem_map.1 inside
    have capital := isCapitalCode_of_mem_upperCodes (Nat.not_lt.1 beyond) c.valid listed
    have back := toNat_ofNat_of_isCapitalCode capital
    by_cases ascii : code < 128
    · rw [upperCase_ascii _ (by rwa [back]), toUpper_capital_ascii code ascii capital]
    · rw [upperCase, back, if_neg ascii, upperCodes_of_mem_upperCodes listed, List.map_singleton]

theorem length_expansions : ∀ entry ∈ expansions, entry.2.length = 2 ∨ entry.2.length = 3 := by
  decide

/-- An upper-case form has one, two or three characters. -/
theorem length_upperCase (c : Char) :
    (upperCase c).length = 1 ∨ (upperCase c).length = 2 ∨ (upperCase c).length = 3 := by
  unfold upperCase
  split
  · exact .inl rfl
  · rw [List.length_map]
    rcases upperCodes_cases c.toNat with expanded | ⟨range, _, _, shifted⟩ | own
    · exact .inr (length_expansions _ expanded)
    · exact .inl (by rw [shifted]; rfl)
    · exact .inl (by rw [own]; rfl)

end Text

/-! ## The runs of a key -/

namespace Name

open Text (upperCase upperCase_ne_nil upperCase_of_mem_upperCase)

/-- What stands between the separators of a key, where it is not nothing. -/
def runs (key : String) : List (List Char) :=
  (key.toList.splitOnP isSeparator).filter (· ≠ [])

/-- A run with the upper-case form of its first character. -/
def capitalized : List Char → List Char
  | [] => []
  | c :: rest => upperCase c ++ rest

theorem flatMap_capitalized_filter (parts : List (List Char)) :
    (parts.filter (· ≠ [])).flatMap capitalized = parts.flatMap capitalized := by
  induction parts with
  | nil => rfl
  | cons part rest ih =>
      cases part with
      | nil => simpa [capitalized] using ih
      | cons c more => simpa using ih

/-- The identifier's characters by the parts of the key between separators; within a
run the first part is no longer capitalized. -/
theorem pascal_eq_of_splitOnP {key first : List Char} {others : List (List Char)}
    (parts : key.splitOnP isSeparator = first :: others) :
    pascal true key = capitalized first ++ others.flatMap capitalized ∧
      pascal false key = first ++ others.flatMap capitalized := by
  induction key generalizing first others with
  | nil =>
      rw [List.splitOnP_nil] at parts
      obtain ⟨rfl, rfl⟩ := List.cons.inj parts
      exact ⟨rfl, rfl⟩
  | cons c rest ih =>
      obtain ⟨next, later, below⟩ :=
        List.exists_cons_of_ne_nil (List.splitOnP_ne_nil isSeparator rest)
      obtain ⟨opened, within⟩ := ih below
      rw [List.splitOnP_cons_eq_if_modifyHead, below] at parts
      by_cases separator : isSeparator c
      · rw [if_pos separator] at parts
        obtain ⟨rfl, rfl⟩ := List.cons.inj parts
        rw [pascal, if_pos separator, pascal, if_pos separator, opened]
        exact ⟨rfl, rfl⟩
      · rw [if_neg separator] at parts
        obtain ⟨rfl, rfl⟩ := List.cons.inj parts
        rw [pascal, if_neg separator, if_pos rfl, pascal, if_neg separator, within]
        exact ⟨by rw [capitalized, List.append_assoc], rfl⟩

/-- **An identifier is its key's runs, each with a capital at the front.** -/
theorem normalize_eq_runs (key : String) :
    normalize key = String.ofList ((runs key).flatMap capitalized) := by
  obtain ⟨first, others, parts⟩ :=
    List.exists_cons_of_ne_nil (List.splitOnP_ne_nil isSeparator key.toList)
  rw [normalize, (pascal_eq_of_splitOnP parts).1, runs, flatMap_capitalized_filter, parts,
    List.flatMap_cons]

theorem isSeparator_iff {c : Char} : isSeparator c = true ↔ c = '_' ∨ c = '-' := by
  simp [isSeparator]

/-- A separator cuts a key into two that are named one after the other. -/
theorem normalize_append_separator (first second : String) {s : Char}
    (separator : isSeparator s = true) :
    normalize (first.push s ++ second) = normalize first ++ normalize second := by
  rw [normalize, String.toList_append, String.toList_push, List.append_assoc,
    List.singleton_append, pascal_append_separator true _ _ separator, String.ofList_append]
  rfl

/-- Without separators a key is a single run. -/
theorem pascal_of_plain {c : Char} {rest : List Char}
    (plain : ∀ d ∈ c :: rest, isSeparator d = false) :
    pascal true (c :: rest) = upperCase c ++ rest := by
  obtain ⟨first, others⟩ := List.forall_mem_cons.1 plain
  rw [pascal, if_neg (by simp [first]), if_pos rfl, pascal_run others]

/-- **Separators turn into concatenation.**  The identifier of a key that is cut at a
separator is that of what stands before it and that of what stands behind it, one after
the other; a key without separators has the full upper-case form of its first character
and then the rest.  So an identifier is the runs of its key, each with a capital at the
front: separators at the ends, or beside each other, add nothing, and one can stand for
the other. -/
theorem normalize_joins_runs :
    (∀ (first second : String) (s : Char), s = '_' ∨ s = '-' →
      normalize (first.push s ++ second) = normalize first ++ normalize second) ∧
    (∀ (c : Char) (rest : String), (∀ d ∈ c :: rest.toList, d ≠ '_' ∧ d ≠ '-') →
      normalize (String.singleton c ++ rest) = String.ofList (upperCase c) ++ rest) ∧
    (∀ key : String, normalize key = String.ofList ((runs key).flatMap capitalized)) ∧
    ∀ (first second : String) (s t : Char), (s = '_' ∨ s = '-') → (t = '_' ∨ t = '-') →
      normalize (String.singleton s ++ second) = normalize second ∧
      normalize (first.push s) = normalize first ∧
      normalize ((first.push s).push t ++ second) = normalize (first.push s ++ second) ∧
      normalize (first.push s ++ second) = normalize (first.push t ++ second) := by
  refine ⟨?_, ?_, normalize_eq_runs, ?_⟩
  · intro first second s separator
    exact normalize_append_separator first second (isSeparator_iff.2 separator)
  · intro c rest clear
    have plain : ∀ d ∈ c :: rest.toList, isSeparator d = false := by
      intro d inside
      rw [Bool.eq_false_iff, Ne, isSeparator_iff, not_or]
      exact clear d inside
    rw [normalize, String.toList_append, String.toList_singleton, List.singleton_append,
      pascal_of_plain plain, String.ofList_append, String.ofList_toList]
  · intro first second s t here there
    have leading := normalize_append_separator "" second (isSeparator_iff.2 here)
    have trailing := normalize_append_separator first "" (isSeparator_iff.2 here)
    rw [String.append_empty] at trailing
    refine ⟨?_, ?_, ?_, ?_⟩
    · exact leading.trans String.empty_append
    · exact trailing.trans String.append_empty
    · rw [normalize_append_separator _ _ (isSeparator_iff.2 there),
        normalize_append_separator _ _ (isSeparator_iff.2 here), trailing]
      exact congrArg (· ++ _) String.append_empty
    · rw [normalize_append_separator _ _ (isSeparator_iff.2 here),
        normalize_append_separator _ _ (isSeparator_iff.2 there)]

/-- A doubled separator within a key, and a run that begins with a ligature. -/
theorem normalize_joins_runs_of_mixed_separators :
    normalize (("http".push '_').push '-' ++ "port") = normalize ("http".push '_' ++ "port") ∧
      normalize ("http".push '_' ++ "port") = normalize "http" ++ normalize "port" ∧
      normalize (String.singleton '\uFB01' ++ "x") = String.ofList (upperCase '\uFB01') ++ "x" ∧
      normalize ("http".push '_' ++ "port") = "HttpPort" := by
  obtain ⟨cut, single, _, ends⟩ := normalize_joins_runs
  obtain ⟨_, _, doubled, _⟩ := ends "http" "port" '_' '-' (.inl rfl) (.inr rfl)
  have clear : ∀ d ∈ '\uFB01' :: "x".toList, d ≠ '_' ∧ d ≠ '-' := by simp
  exact ⟨doubled, cut "http" "port" '_' (.inl rfl), single '\uFB01' "x" clear,
    by decide +kernel⟩

/-! ## Identifiers of identifiers -/

theorem pascal_eq_nil_iff {opening : Bool} {key : List Char} :
    pascal opening key = [] ↔ ∀ c ∈ key, isSeparator c = true := by
  induction key generalizing opening with
  | nil => simp [pascal]
  | cons c rest ih =>
      rw [pascal, List.forall_mem_cons]
      by_cases separator : isSeparator c
      · simp [separator, ih]
      · cases opening <;> simp [separator, upperCase_ne_nil]

theorem normalize_eq_empty_iff {key : String} :
    normalize key = "" ↔ ∀ c ∈ key.toList, isSeparator c = true := by
  rw [normalize, String.ofList_eq_empty_iff, pascal_eq_nil_iff]

/-- The first character of an identifier came with an upper-case form. -/
theorem exists_mem_upperCase_of_pascal {key rest : List Char} {d : Char}
    (starts : pascal true key = d :: rest) : ∃ c, d ∈ upperCase c := by
  induction key with
  | nil => cases starts
  | cons c more ih =>
      by_cases separator : isSeparator c
      · rw [pascal, if_pos separator] at starts
        exact ih starts
      · rw [pascal, if_neg separator, if_pos rfl] at starts
        obtain ⟨first, others, form⟩ := List.exists_cons_of_ne_nil (upperCase_ne_nil c)
        rw [form, List.cons_append] at starts
        obtain ⟨rfl, _⟩ := List.cons.inj starts
        exact ⟨c, by rw [form]; exact List.mem_cons_self⟩

/-- **An identifier is its own identifier.** -/
theorem normalize_normalize (key : String) : normalize (normalize key) = normalize key := by
  have plain : ∀ c ∈ pascal true key.toList, isSeparator c = false := by
    intro c inside
    rw [← String.toList_ofList (l := pascal true key.toList)] at inside
    exact not_isSeparator_of_mem_normalize inside
  rw [normalize, normalize, String.toList_ofList]
  cases starts : pascal true key.toList with
  | nil => rfl
  | cons d rest =>
      rw [starts] at plain
      obtain ⟨c, capital⟩ := exists_mem_upperCase_of_pascal starts
      rw [pascal_of_plain plain, upperCase_of_mem_upperCase capital, List.singleton_append]

theorem recordNameFor_of_empty {key : String} (empty : normalize key = "") :
    recordNameFor key = nestedFallback := by
  rw [recordNameFor, empty]
  rfl

theorem recordNameFor_of_ne_empty {key : String} (filled : normalize key ≠ "") :
    recordNameFor key = normalize key := by
  rw [recordNameFor]
  exact if_neg (by simpa using filled)

theorem recordNameFor_recordNameFor (key : String) :
    recordNameFor (recordNameFor key) = recordNameFor key := by
  by_cases empty : normalize key = ""
  · rw [recordNameFor_of_empty empty]
    decide +kernel
  · rw [recordNameFor_of_ne_empty empty, recordNameFor_of_ne_empty (by rwa [normalize_normalize]),
      normalize_normalize]

/-- **Taking the identifier of a key once is enough.**  An identifier is its own
identifier and has no separator; it is empty exactly when its key has nothing but
separators.  A record name is therefore filled, and it is its own record name.  The
capital at the front of a run is the full upper-case form of a character, which may be
two or three characters long, and each of these is its own capital. -/
theorem normalize_idempotent (key : String) :
    normalize (normalize key) = normalize key ∧
    '_' ∉ (normalize key).toList ∧ '-' ∉ (normalize key).toList ∧
    (normalize key = "" ↔ ∀ c ∈ key.toList, c = '_' ∨ c = '-') ∧
    recordNameFor key ≠ "" ∧
    recordNameFor (recordNameFor key) = recordNameFor key ∧
    (∀ (c : Char) (rest : String), c ≠ '_' → c ≠ '-' →
      ∃ more, normalize (String.singleton c ++ rest) = String.ofList (upperCase c) ++ more) ∧
    (∀ c : Char, ((upperCase c).length = 1 ∨ (upperCase c).length = 2 ∨
      (upperCase c).length = 3) ∧ (upperCase c).flatMap upperCase = upperCase c) ∧
    upperCase '\u00DF' = ['S', 'S'] ∧ upperCase '\u0149' = ['\u02BC', 'N'] ∧
    upperCase '\u0390' = ['\u0399', '\u0308', '\u0301'] := by
  have joined : ∀ s, isSeparator s = true → s ∉ (normalize key).toList := by
    intro s separator inside
    rw [not_isSeparator_of_mem_normalize inside] at separator
    cases separator
  refine ⟨normalize_normalize key, joined '_' rfl, joined '-' rfl, ?_,
    (isRecordName_recordNameFor key).ne_empty, recordNameFor_recordNameFor key, ?_, ?_,
    by decide, by decide, by decide⟩
  · simp only [normalize_eq_empty_iff, isSeparator_iff]
  · intro c rest underscore hyphen
    have plain : ¬ isSeparator c = true := by
      rw [isSeparator_iff, not_or]
      exact ⟨underscore, hyphen⟩
    refine ⟨String.ofList (pascal false rest.toList), ?_⟩
    rw [normalize, String.toList_append, String.toList_singleton, List.singleton_append, pascal,
      if_neg plain, if_pos rfl, String.ofList_append]
  · intro c
    refine ⟨Text.length_upperCase c, ?_⟩
    have own : ∀ d ∈ upperCase c, upperCase d = [d] := fun d => upperCase_of_mem_upperCase
    rw [List.flatMap_def, List.map_congr_left own, ← List.flatMap_def, List.flatMap_singleton']

/-- A key whose runs begin with characters that have long upper-case forms. -/
theorem normalize_idempotent_of_sharp_s :
    normalize "\u00DF__\u0149x" = "SS\u02BCNx" ∧
      normalize (normalize "\u00DF__\u0149x") = normalize "\u00DF__\u0149x" ∧
      ∃ more, normalize (String.singleton '\u00DF' ++ "__\u0149x") =
        String.ofList (upperCase '\u00DF') ++ more := by
  obtain ⟨again, _, _, _, _, _, starts, _⟩ := normalize_idempotent "\u00DF__\u0149x"
  exact ⟨by decide +kernel, again, starts '\u00DF' "__\u0149x" (by decide) (by decide)⟩

end Name

end YamlShape
