import IconImports.Proofs.Options.Written

/-!
# Which texts hold options

Options are read from a text exactly if it is written as options are. What a JSON document holds
therefore decides whether it is accepted (`ofValue?`). No accepted text has a comma in it, and if one
accepted text goes on as another, then only by white space (`mem_whiteSpace_of_accepted`): with
anything else behind it a text is refused, and so is a text that lacks its end.

The main statement: `Options.ofJson_accepts`.
-/

namespace IconImports

open Json

namespace Options

variable {s rest : List Char} {options : Options} {tokens : List (List Char)}

/-! ### Commas -/

theorem eq_comma_of_spelling {w : List Char} {c : Char} (h : Spelling w c) (hmem : ',' ∈ w) :
    c = ',' := by
  have noDigit : ∀ {quad : List Char} {n : Nat}, codeUnit? quad = some n → ',' ∉ quad := by
    intro quad n hquad hmem
    unfold codeUnit? at hquad
    split at hquad
    · obtain ⟨digits, hdigits, -⟩ := Option.map_eq_some_iff.1 hquad
      obtain ⟨d, hd⟩ := exists_hexValue?_of_mapM hdigits _ hmem
      cases hd
    · cases hquad
  cases h with
  | itself => exact (List.mem_singleton.1 hmem).symm
  | @letter d _ h =>
    obtain rfl : ',' = d := by simpa using hmem
    cases h
  | unit h => exact absurd (by simpa using hmem) (noDigit h)
  | @pair quad quad' _ _ h h' =>
    have both : ',' ∈ quad ∨ ',' ∈ quad' := by simpa using hmem
    exact both.elim (absurd · (noDigit h)) (absurd · (noDigit h'))

theorem comma_mem_of_spells {body chars : List Char} (h : Spells body chars) (hmem : ',' ∈ body) :
    ',' ∈ chars := by
  induction h with
  | nil => exact hmem
  | cons first others ih =>
    rw [List.mem_append] at hmem
    rcases hmem with hmem | hmem
    · rw [eq_comma_of_spelling first hmem]
      exact List.mem_cons_self
    · exact List.mem_cons_of_mem _ (ih hmem)

theorem Written.comma_not_mem (h : Written options tokens) : ∀ token ∈ tokens, ',' ∉ token := by
  have noWord : ∀ b, ',' ∉ booleanWord b := by decide
  cases h with
  | emptyObject => decide
  | emptyArray => decide
  | array => simp [noWord]
  | object hkey =>
    have noKey : ',' ∉ _ := fun hmem => absurd (comma_mem_of_spells hkey hmem) (by decide)
    simp [noWord, noKey]

/-! ### Values -/

/-- The options that a value stands for, if it stands for some. An object with another member than
`enabled`, or with more than one, stands for none. -/
def ofValue? : Value → Option Options
  | .object [] => some ⟨true⟩
  | .object [(key, .boolean enabled)] => if key = "enabled" then some ⟨enabled⟩ else none
  | .array [] => some ⟨true⟩
  | .array [.boolean enabled] => some ⟨enabled⟩
  | _ => none

theorem Written.exists_reads (h : Written options tokens) (hs : Spaced tokens s rest) :
    ∃ value, Reads s value rest ∧ ofValue? value = some options := by
  cases h with
  | emptyObject =>
    obtain ⟨t, hs, spaced⟩ := (spaced_cons_iff rfl).1 hs
    exact ⟨_, .emptyObject hs ((spaced_singleton_iff rfl).1 spaced), rfl⟩
  | @object key enabled hkey =>
    obtain ⟨t, hs, spaced⟩ := (spaced_cons_iff rfl).1 hs
    obtain ⟨u, v, w, ht, hu, hv, hw⟩ := spaced_member_iff.1 spaced
    exact ⟨.object [("enabled", .boolean enabled)],
      .object hs (.last (.intro ⟨key, ht, hkey⟩ hu (.boolean hv)) hw), rfl⟩
  | emptyArray =>
    obtain ⟨t, hs, spaced⟩ := (spaced_cons_iff rfl).1 hs
    exact ⟨_, .emptyArray hs ((spaced_singleton_iff rfl).1 spaced), rfl⟩
  | @array enabled =>
    obtain ⟨t, hs, spaced⟩ := (spaced_cons_iff rfl).1 hs
    obtain ⟨u, ht, hu⟩ := spaced_element_iff.1 spaced
    exact ⟨.array [.boolean enabled], .array hs (.last (.boolean ht) hu), rfl⟩

/-- A value that stands for options is written with tokens of these. -/
theorem exists_written_of_reads {value : Value} (h : Reads s value rest)
    (hvalue : ofValue? value = some options) :
    ∃ tokens, Written options tokens ∧ Spaced tokens s rest := by
  unfold ofValue? at hvalue
  split at hvalue
  next =>
    cases hvalue
    cases h with
    | emptyObject hs close =>
      exact ⟨_, .emptyObject, (spaced_cons_iff rfl).2 ⟨_, hs, (spaced_singleton_iff rfl).2 close⟩⟩
    | object _ inner => cases inner
  next key enabled =>
    split at hvalue
    next hkey =>
      cases hvalue
      cases h with
      | object hs inner =>
        cases inner with
        | last member close =>
          obtain ⟨⟨body, ht, spells⟩, hu, value⟩ := member
          rw [hkey] at spells
          cases value with
          | boolean hv =>
            have members := spaced_member_iff.2 ⟨_, _, _, ht, hu, hv, close⟩
            exact ⟨_, .object spells, (spaced_cons_iff rfl).2 ⟨_, hs, members⟩⟩
        | cons _ _ others => cases others
    · cases hvalue
  next =>
    cases hvalue
    cases h with
    | emptyArray hs close =>
      exact ⟨_, .emptyArray, (spaced_cons_iff rfl).2 ⟨_, hs, (spaced_singleton_iff rfl).2 close⟩⟩
    | array _ inner => cases inner
  next enabled =>
    cases hvalue
    cases h with
    | array hs inner =>
      cases inner with
      | last element close =>
        cases element with
        | boolean ht =>
          have elements := spaced_element_iff.2 ⟨_, ht, close⟩
          exact ⟨_, .array, (spaced_cons_iff rfl).2 ⟨_, hs, elements⟩⟩
      | cons _ _ others => cases others
  next => cases hvalue

/-! ### Texts that go on -/

theorem exists_error_of_not_accepted {text : String} (h : ∀ options, ofJson text ≠ .ok options) :
    ∃ e, ofJson text = .error e := by
  cases hread : ofJson text with
  | error e => exact ⟨e, rfl⟩
  | ok options => exact absurd hread (h options)

theorem mem_whiteSpace_of_accepted {s t : String} {options' : Options} (h : ofJson s = .ok options)
    (h' : ofJson (s ++ t) = .ok options') : ∀ c ∈ t.toList, c ∈ whiteSpace := by
  obtain ⟨rest, hread, -⟩ := readText_eq_ok_iff.1 (ofJson_eq_ok_iff_readText.1 h)
  obtain ⟨rest', hread', hrest'⟩ := readText_eq_ok_iff.1 (ofJson_eq_ok_iff_readText.1 h')
  obtain ⟨tokens, written, spaced⟩ := readValue_eq_ok_iff.1 hread
  have longer : readValue (s ++ t).toList = .ok (options, rest ++ t.toList) := by
    rw [String.toList_append]
    exact readValue_eq_ok_iff.2 ⟨tokens, written, spaced.append t.toList⟩
  cases longer.symm.trans hread'
  intro c hc
  exact skipSpace_eq_nil_iff.1 hrest' c (List.mem_append_right _ hc)

/-! ### The specification -/

/-- `read` accepts the texts that hold options, and refuses every other text. -/
structure Accepts (read : String → Except OptionsError Options) : Prop where
  /-- What is accepted is made of the tokens of options and of white space. -/
  written : ∀ text options, read text = .ok options ↔
    ∃ tokens rest, Written options tokens ∧ Spaced tokens text.toList rest ∧
      ∀ c ∈ rest, c ∈ whiteSpace
  /-- The value of a document decides, whichever it is. -/
  document : ∀ text value, Json.Holds text value →
    ∀ options, read text = .ok options ↔ ofValue? value = some options
  comma : ∀ text, ',' ∈ text.toList → ∃ e, read text = .error e
  mark : ∀ text, ∃ e, read ("\ufeff" ++ text) = .error e
  /-- Nothing but white space may follow. -/
  trailing : ∀ s t options, read s = .ok options → (∃ c ∈ t.toList, c ∉ whiteSpace) →
    ∃ e, read (s ++ t) = .error e
  /-- Nothing but white space may be missing at the end. -/
  truncated : ∀ s t options, read (s ++ t) = .ok options → (∃ c ∈ t.toList, c ∉ whiteSpace) →
    ∃ e, read s = .error e

/-- Options are read from the texts that hold them, and from no others. -/
theorem ofJson_accepts : Accepts ofJson := by
  constructor
  case written =>
    intro text options
    exact ofJson_eq_ok_iff
  case document =>
    intro text value holds options
    rw [ofJson_eq_ok_iff]
    constructor
    · rintro ⟨tokens, rest, written, spaced, hrest⟩
      obtain ⟨value', reads, hvalue'⟩ := written.exists_reads spaced
      obtain rfl := holds.unique ⟨rest, reads, skipSpace_eq_nil_iff.2 hrest⟩
      exact hvalue'
    · intro hvalue
      obtain ⟨rest, reads, hrest⟩ := holds
      obtain ⟨tokens, written, spaced⟩ := exists_written_of_reads reads hvalue
      exact ⟨tokens, rest, written, spaced, skipSpace_eq_nil_iff.1 hrest⟩
  case comma =>
    intro text hmem
    apply exists_error_of_not_accepted
    intro options h
    obtain ⟨tokens, rest, written, spaced, hrest⟩ := ofJson_eq_ok_iff.1 h
    have visible : ',' ∉ whiteSpace := by decide
    rcases spaced.mem visible hmem with ⟨token, htoken, hmem⟩ | hmem
    · exact written.comma_not_mem token htoken hmem
    · exact visible (hrest ',' hmem)
  case mark =>
    intro text
    apply exists_error_of_not_accepted
    intro options h
    obtain ⟨tokens, rest, written, spaced, -⟩ := ofJson_eq_ok_iff.1 h
    have mark : skipSpace ("\ufeff" ++ text).toList = '\ufeff' :: text.toList := by
      rw [String.toList_append]
      rfl
    obtain ⟨others, rfl | rfl⟩ := written.exists_eq_cons
    · obtain ⟨t, hs, -⟩ := (spaced_cons_iff rfl).1 spaced
      cases mark.symm.trans hs
    · obtain ⟨t, hs, -⟩ := (spaced_cons_iff rfl).1 spaced
      cases mark.symm.trans hs
  case trailing =>
    rintro s t options h ⟨c, hc, visible⟩
    apply exists_error_of_not_accepted
    intro options' h'
    exact visible (mem_whiteSpace_of_accepted h h' c hc)
  case truncated =>
    rintro s t options h ⟨c, hc, visible⟩
    apply exists_error_of_not_accepted
    intro options' h'
    exact visible (mem_whiteSpace_of_accepted h' h c hc)

example : ofJson " \x7b \"en\\u0061bled\"\n: false \x7d\t" = .ok disabled := by decide +kernel

example : ofValue? (.object [("enabled", .boolean true), ("enabled", .boolean true)]) = none := rfl

end Options

end IconImports
