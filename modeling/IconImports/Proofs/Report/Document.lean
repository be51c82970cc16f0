import IconImports.Proofs.Json.Reads
import IconImports.Proofs.List.Mapped
import IconImports.Report.Json
import IconImports.Text.Pieces

/-!
# What a report's document holds

A text writes a value if the value is read from it, whatever follows (`Json.Writes`). What
`Json.string`, `Json.array` and `Json.object` give writes its value, at every depth, because the white
space of the layout is skipped. A report's document therefore holds the value that lists its fields
(`Report.value`), and no other.

The main statement: `Report.documents_toJson`.
-/

namespace IconImports

namespace Json

variable {s rest text : List Char} {value : Value}

/-! ### White space -/

theorem ReadsString.congr {s s' : List Char} {string : String} (heq : skipSpace s = skipSpace s')
    (h : ReadsString s' string rest) : ReadsString s string rest := by
  rwa [ReadsString, heq]

theorem Reads.congr {s s' : List Char} (heq : skipSpace s = skipSpace s')
    (h : Reads s' value rest) : Reads s value rest := by
  cases h with
  | null h => exact .null (heq.trans h)
  | boolean h => exact .boolean (heq.trans h)
  | number h numeral ends => exact .number (heq.trans h) numeral ends
  | string h => exact .string (h.congr heq)
  | emptyArray h close => exact .emptyArray (heq.trans h) close
  | array h inner => exact .array (heq.trans h) inner
  | emptyObject h close => exact .emptyObject (heq.trans h) close
  | object h inner => exact .object (heq.trans h) inner

theorem ReadsMember.congr {s s' : List Char} {member : String × Value}
    (heq : skipSpace s = skipSpace s') (h : ReadsMember s' member rest) :
    ReadsMember s member rest := by
  obtain ⟨h, colon, inner⟩ := h
  exact ⟨h.congr heq, colon, inner⟩

theorem eq_of_mem_newLine {c : Char} {depth : Nat} (h : c ∈ newLine depth) : c = '\n' ∨ c = ' ' := by
  simp only [newLine, List.mem_cons, List.mem_replicate] at h
  exact h.imp_right And.right

theorem skipSpace_newLine_append (depth : Nat) (s : List Char) :
    skipSpace (newLine depth ++ s) = skipSpace s := by
  refine List.dropWhile_append_of_pos fun c hc => ?_
  rcases eq_of_mem_newLine hc with rfl | rfl <;> rfl

/-! ### Strings -/

theorem codeUnit?_control {n : Nat} (h : n < 0x20) :
    codeUnit? ['0', '0', Nat.digitChar (n / 16), Nat.digitChar (n % 16)] = some n := by
  revert n
  decide

theorem spelling_escape (c : Char) : Spelling (escape c) c := by
  unfold escape
  split_ifs with quote backslash backspace formFeed lineFeed carriageReturn tab control
  · obtain rfl := quote
    exact .letter rfl
  · obtain rfl := backslash
    exact .letter rfl
  · obtain rfl := backspace
    exact .letter rfl
  · obtain rfl := formFeed
    exact .letter rfl
  · obtain rfl := lineFeed
    exact .letter rfl
  · obtain rfl := carriageReturn
    exact .letter rfl
  · obtain rfl := tab
    exact .letter rfl
  · have unit := Spelling.unit (codeUnit?_control control) (.inl (by omega))
    rwa [Char.ofNat_toNat] at unit
  · exact .itself quote backslash (by omega)

theorem spells_flatMap_escape (s : List Char) : Spells (s.flatMap escape) s := by
  induction s with
  | nil => exact .nil
  | cons c s ih => exact .cons (spelling_escape c) ih

theorem readsString_string (s : String) (rest : List Char) :
    ReadsString (string s ++ rest) s rest :=
  ⟨s.toList.flatMap escape, by simp [string, skipSpace, isSpace], spells_flatMap_escape s.toList⟩

/-! ### Values -/

/-- The value is read from the text, whatever follows. -/
def Writes (text : List Char) (value : Value) : Prop := ∀ rest, Reads (text ++ rest) value rest

/-- The member of an object is read from the text, whatever follows. -/
def WritesMember (text : List Char) (member : String × Value) : Prop :=
  ∀ rest, ReadsMember (text ++ rest) member rest

theorem writes_string (s : String) : Writes (string s) (.string s) :=
  fun rest => .string (readsString_string s rest)

/-- What an optional string is written as. -/
def Value.ofOption : Option String → Value
  | none => null
  | some s => string s

theorem writes_optional (s : Option String) : Writes (optional s) (.ofOption s) := by
  cases s with
  | none => exact fun rest => .null rfl
  | some s => exact writes_string s

theorem Writes.member (h : Writes text value) (key : String) :
    WritesMember (member key text) (key, value) := by
  intro rest
  refine .intro (t := ':' :: ' ' :: (text ++ rest)) (u := ' ' :: (text ++ rest)) ?_ rfl ?_
  · simpa [Json.member] using readsString_string key (':' :: ' ' :: (text ++ rest))
  · refine (h rest).congr ?_
    rfl

/-! ### Lists of values -/

theorem skipSpace_newLine_close {closing : Char} (h : isSpace closing = false) (depth : Nat)
    (rest : List Char) : skipSpace (newLine depth ++ closing :: rest) = closing :: rest := by
  rw [skipSpace_newLine_append]
  simp [skipSpace, h]

theorem skipSpace_block_append {texts : List (List Char)} (nonempty : texts ≠ []) {opening : Char}
    (h : isSpace opening = false) (depth : Nat) (closing : Char) (rest : List Char) :
    skipSpace (block depth opening closing texts ++ rest) =
      opening :: ([','].intercalate (texts.map (newLine (depth + 1) ++ ·)) ++
        (newLine depth ++ closing :: rest)) := by
  obtain ⟨text, texts, rfl⟩ := List.exists_cons_of_ne_nil nonempty
  simp [block, skipSpace, h]

section Items

variable {α : Type} (item : List Char → α → List Char → Prop)
  {items : List Char → List α → List Char → Prop} {closing : Char} {texts : List (List Char)}
  {as : List α}

/-- Items with commas between them are read one after the other, up to the closing bracket. Elements
and members are both read so. -/
theorem reads_intercalate
    (last : ∀ {s t rest a}, item s a t → skipSpace t = closing :: rest → items s [a] rest)
    (cons : ∀ {s t u rest a as}, item s a t → skipSpace t = ',' :: u → items u as rest →
      items s (a :: as) rest)
    {tail : List Char} (close : skipSpace tail = closing :: rest)
    (h : List.Forall₂ (fun text a => ∀ rest, item (text ++ rest) a rest) texts as)
    (nonempty : texts ≠ []) : items ([','].intercalate texts ++ tail) as rest := by
  induction h with
  | nil => exact absurd rfl nonempty
  | cons first others ih =>
    cases others with
    | nil =>
      rw [List.intercalate_singleton]
      exact last (first tail) close
    | cons second others =>
      rw [List.intercalate_cons_cons, List.append_assoc, List.append_assoc]
      exact cons (first _) rfl (ih (List.cons_ne_nil _ _))

theorem forall₂_newLine
    (congr : ∀ {s s' rest a}, skipSpace s = skipSpace s' → item s' a rest → item s a rest)
    (depth : Nat) (h : List.Forall₂ (fun text a => ∀ rest, item (text ++ rest) a rest) texts as) :
    List.Forall₂ (fun text a => ∀ rest, item (text ++ rest) a rest)
      (texts.map (newLine depth ++ ·)) as := by
  refine List.forall₂_map_left_iff.2 (h.imp fun text a h rest => ?_)
  rw [List.append_assoc]
  exact congr (skipSpace_newLine_append depth _) (h rest)

end Items

variable {texts : List (List Char)}

theorem writes_array (depth : Nat) {elements : List Value} (h : List.Forall₂ Writes texts elements) :
    Writes (array depth texts) (.array elements) := by
  intro rest
  by_cases nonempty : texts = []
  · subst nonempty
    cases h
    exact .emptyArray rfl rfl
  · refine .array (skipSpace_block_append nonempty rfl depth ']' rest) ?_
    exact reads_intercalate Reads ReadsElements.last ReadsElements.cons
      (skipSpace_newLine_close rfl depth rest) (forall₂_newLine Reads Reads.congr (depth + 1) h)
      (mt List.map_eq_nil_iff.1 nonempty)

theorem writes_object (depth : Nat) {members : List (String × Value)}
    (h : List.Forall₂ WritesMember texts members) :
    Writes (object depth texts) (.object members) := by
  intro rest
  by_cases nonempty : texts = []
  · subst nonempty
    cases h
    exact .emptyObject rfl rfl
  · refine .object (skipSpace_block_append nonempty rfl depth '\x7d' rest) ?_
    exact reads_intercalate ReadsMember ReadsMembers.last ReadsMembers.cons
      (skipSpace_newLine_close rfl depth rest)
      (forall₂_newLine ReadsMember ReadsMember.congr (depth + 1) h)
      (mt List.map_eq_nil_iff.1 nonempty)

/-! ### Control characters -/

/-- The only control character in the text is the line feed. Control characters are those that must
be escaped in a string, up to U+001F. -/
def IsPlain (text : List Char) : Prop := ∀ c ∈ text, c.toNat < 0x20 → c = '\n'

instance : DecidablePred IsPlain := fun text => List.decidableBAll _ text

theorem IsPlain.append {s t : List Char} (hs : IsPlain s) (ht : IsPlain t) : IsPlain (s ++ t) :=
  List.forall_mem_append.2 ⟨hs, ht⟩

theorem isPlain_escape (c : Char) : IsPlain (escape c) := by
  have hexadecimal : ∀ n < 0x20, IsPlain
      ['\\', 'u', '0', '0', Nat.digitChar (n / 16), Nat.digitChar (n % 16)] := by
    decide
  unfold escape
  split_ifs with quote backslash backspace formFeed lineFeed carriageReturn tab control
  any_goals decide
  · exact hexadecimal c.toNat control
  · intro d hd hcontrol
    obtain rfl := List.mem_singleton.1 hd
    exact absurd hcontrol control

theorem isPlain_string (s : String) : IsPlain (string s) := by
  have inner : IsPlain (s.toList.flatMap escape) := by
    intro d hd
    obtain ⟨c, -, hc⟩ := List.mem_flatMap.1 hd
    exact isPlain_escape c d hc
  exact (IsPlain.append (s := ['"']) (by decide) inner).append (by decide)

theorem isPlain_optional (s : Option String) : IsPlain (optional s) := by
  cases s with
  | none => decide
  | some s => exact isPlain_string s

theorem isPlain_newLine (depth : Nat) : IsPlain (newLine depth) := by
  intro c hc hcontrol
  rcases eq_of_mem_newLine hc with rfl | rfl
  · rfl
  · exact absurd hcontrol (by decide)

theorem IsPlain.member (h : IsPlain text) (key : String) : IsPlain (member key text) :=
  ((isPlain_string key).append (by decide)).append h

theorem isPlain_intercalate {texts : List (List Char)} (h : ∀ text ∈ texts, IsPlain text) :
    IsPlain ([','].intercalate texts) :=
  intercalate_of_forall (by decide) (fun _ _ => IsPlain.append) (by decide) h

theorem isPlain_block (depth : Nat) {opening closing : Char} (hopening : IsPlain [opening])
    (hclosing : IsPlain [closing]) (h : ∀ text ∈ texts, IsPlain text) :
    IsPlain (block depth opening closing texts) := by
  cases texts with
  | nil => exact hopening.append hclosing
  | cons text texts =>
    have items : IsPlain ([','].intercalate ((text :: texts).map (newLine (depth + 1) ++ ·))) := by
      refine isPlain_intercalate fun item hitem => ?_
      obtain ⟨text, htext, rfl⟩ := List.mem_map.1 hitem
      exact (isPlain_newLine _).append (h text htext)
    exact hopening.append ((items.append (isPlain_newLine depth)).append hclosing)

theorem isPlain_array (depth : Nat) (h : ∀ text ∈ texts, IsPlain text) :
    IsPlain (array depth texts) :=
  isPlain_block depth (by decide) (by decide) h

theorem isPlain_object (depth : Nat) (h : ∀ text ∈ texts, IsPlain text) :
    IsPlain (object depth texts) :=
  isPlain_block depth (by decide) (by decide) h

end Json

/-! ### The values of reports -/

def FileReport.value (file : FileReport) : Json.Value :=
  .object [("path", .string file.path), ("code", .ofOption file.code)]

def ModuleReport.value (module : ModuleReport) : Json.Value :=
  .object [("specifier", .string module.specifier), ("resolvedId", .string module.resolvedId),
    ("source", .string module.source)]

/-- What is to be read from a report's document: every field under its key, in order. -/
def Report.value (report : Report) : Json.Value :=
  .object [("files", .array (report.files.map FileReport.value)),
    ("modules", .array (report.modules.map ModuleReport.value))]

def Json.Value.toOption? : Json.Value → Option (Option String)
  | null => some none
  | string s => some (some s)
  | _ => none

def FileReport.ofValue? : Json.Value → Option FileReport
  | .object [("path", .string path), ("code", code)] => code.toOption?.map fun code => ⟨path, code⟩
  | _ => none

def ModuleReport.ofValue? : Json.Value → Option ModuleReport
  | .object [("specifier", .string specifier), ("resolvedId", .string resolvedId),
      ("source", .string source)] => some ⟨specifier, resolvedId, source⟩
  | _ => none

/-- The report that a value lists. -/
def Report.ofValue? : Json.Value → Option Report
  | .object [("files", .array files), ("modules", .array modules)] => do
    return ⟨← files.mapM FileReport.ofValue?, ← modules.mapM ModuleReport.ofValue?⟩
  | _ => none

theorem FileReport.ofValue?_value (file : FileReport) : ofValue? file.value = some file := by
  obtain ⟨path, code⟩ := file
  cases code <;> rfl

theorem ModuleReport.ofValue?_value (module : ModuleReport) : ofValue? module.value = some module :=
  rfl

theorem Report.ofValue?_value (report : Report) : ofValue? report.value = some report := by
  have files : (report.files.map FileReport.value).mapM FileReport.ofValue? = some report.files := by
    rw [mapM_map_eq_some fun file _ => FileReport.ofValue?_value file, List.map_id']
  have modules : (report.modules.map ModuleReport.value).mapM ModuleReport.ofValue? =
      some report.modules := by
    rw [mapM_map_eq_some fun module _ => ModuleReport.ofValue?_value module, List.map_id']
  rw [value, ofValue?, files, modules]
  rfl

/-! ### The documents of reports -/

open Json in
theorem FileReport.writes_toJson (depth : Nat) (file : FileReport) :
    Writes (file.toJson depth) file.value := by
  apply writes_object
  exact .cons ((writes_string file.path).member "path")
    (.cons ((writes_optional file.code).member "code") .nil)

open Json in
theorem ModuleReport.writes_toJson (depth : Nat) (module : ModuleReport) :
    Writes (module.toJson depth) module.value := by
  apply writes_object
  exact .cons ((writes_string module.specifier).member "specifier")
    (.cons ((writes_string module.resolvedId).member "resolvedId")
      (.cons ((writes_string module.source).member "source") .nil))

open Json in
theorem Report.holds_toJson (report : Report) : Holds report.toJson report.value := by
  have files : List.Forall₂ Writes (report.files.map (·.toJson 2))
      (report.files.map FileReport.value) := by
    rw [List.forall₂_map_left_iff, List.forall₂_map_right_iff, List.forall₂_same]
    exact fun file _ => file.writes_toJson 2
  have modules : List.Forall₂ Writes (report.modules.map (·.toJson 2))
      (report.modules.map ModuleReport.value) := by
    rw [List.forall₂_map_left_iff, List.forall₂_map_right_iff, List.forall₂_same]
    exact fun module _ => module.writes_toJson 2
  have document := writes_object 0 (.cons ((writes_array 1 files).member "files")
    (.cons ((writes_array 1 modules).member "modules") .nil))
  refine ⟨[], ?_, rfl⟩
  rw [toJson, String.toList_ofList, ← List.append_nil (object 0 _)]
  exact document []

open Json in
theorem FileReport.isPlain_toJson (depth : Nat) (file : FileReport) :
    IsPlain (file.toJson depth) := by
  refine isPlain_object depth ?_
  simp only [List.forall_mem_cons]
  exact ⟨(isPlain_string file.path).member "path", (isPlain_optional file.code).member "code",
    List.forall_mem_nil _⟩

open Json in
theorem ModuleReport.isPlain_toJson (depth : Nat) (module : ModuleReport) :
    IsPlain (module.toJson depth) := by
  refine isPlain_object depth ?_
  simp only [List.forall_mem_cons]
  exact ⟨(isPlain_string module.specifier).member "specifier",
    (isPlain_string module.resolvedId).member "resolvedId",
    (isPlain_string module.source).member "source", List.forall_mem_nil _⟩

open Json in
theorem Report.isPlain_toJson (report : Report) : IsPlain report.toJson.toList := by
  have files : IsPlain (array 1 (report.files.map (·.toJson 2))) := by
    refine isPlain_array 1 (List.forall_mem_map.2 ?_)
    exact fun file _ => file.isPlain_toJson 2
  have modules : IsPlain (array 1 (report.modules.map (·.toJson 2))) := by
    refine isPlain_array 1 (List.forall_mem_map.2 ?_)
    exact fun module _ => module.isPlain_toJson 2
  rw [toJson, String.toList_ofList]
  refine isPlain_object 0 ?_
  simp only [List.forall_mem_cons]
  exact ⟨files.member "files", modules.member "modules", List.forall_mem_nil _⟩

/-- A text documents a report. -/
structure Documents (text : String) (report : Report) : Prop where
  /-- It is a document, and it holds what the report lists and nothing else. -/
  holds : ∀ value, Json.Holds text value ↔ value = report.value
  /-- The report is recovered from what the document holds. -/
  recovers : ∀ value, Json.Holds text value → Report.ofValue? value = some report
  /-- No other report has the same document. -/
  unique : ∀ other : Report, other.toJson = text → other = report
  /-- Only line feeds stand in it unescaped, and these belong to the layout, since none can be read
  within a string. -/
  plain : Json.IsPlain text.toList

/-- The document of a report loses nothing of it. -/
theorem Report.documents_toJson (report : Report) : Documents report.toJson report := by
  have holds := report.holds_toJson
  constructor
  case holds =>
    intro value
    constructor
    · exact fun h => holds.unique h
    · rintro rfl
      exact holds
  case recovers =>
    intro value h
    rw [holds.unique h]
    exact report.ofValue?_value
  case unique =>
    intro other heq
    have same : other.value = report.value := holds.unique (heq ▸ other.holds_toJson)
    have recovered := other.ofValue?_value
    rw [same, report.ofValue?_value] at recovered
    exact (Option.some.inj recovered).symm
  case plain => exact report.isPlain_toJson

end IconImports
