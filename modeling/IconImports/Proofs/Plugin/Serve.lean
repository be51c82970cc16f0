import IconImports.Proofs.Plugin.Splice
import IconImports.Proofs.Scan.Read

/-!
# What a redirected statement is served

A redirected statement names its module between its two quotes (`Match.quoted?`): the identifier of
its entry, and the variant after it. From the transformation on, for ever, the name is claimed, and
the module of that name is the one for the statement (`run_serves`).
-/

namespace IconImports

/-- What stands between the quotes of a statement, in a text in which the statement has another name
in the place of the name of the package. -/
def Match.quoted? (found : Match) (text : String) : Option String := do
  let part ← slice? text ⟨found.package.start - 1, found.range.stop⟩
  let (_, part) ← Statement.quote? part.toList
  let _ ← Statement.quote? (part.dropWhile fun c => !isQuote c)
  return String.ofList (part.takeWhile fun c => !isQuote c)

/-- The line that provides one of the names for which a statement asks. -/
def Match.line (found : Match) (name : String) : String :=
  match found.variant with
  | some v =>
    "export \x7b default as " ++ name ++ " \x7d from 'maic/" ++ v ++ "/" ++ name ++ ".js';"
  | none => "export * from 'maic/" ++ name ++ "/index.js';"

/-! ### The name between the quotes -/

namespace Statement

variable {st : Statement}

theorem utf8Size_of_isQuote {c : Char} (h : isQuote c = true) : c.utf8Size = 1 := by
  obtain rfl | rfl := isQuote_iff.1 h <;> rfl

theorem isQuote_eq_false_of_mem_variantText (h : st.WellFormed) {c : Char}
    (hc : c ∈ variantText st.variant) : isQuote c = false := by
  cases hv : st.variant with
  | none => rw [hv] at hc; cases hc
  | some v =>
    rw [hv, variantText, List.mem_cons] at hc
    obtain rfl | hc := hc
    · rfl
    · cases hq : isQuote c with
      | false => rfl
      | true => simpa [isVariantChar_eq_false_of_isQuote hq] using (h.variant v hv).2 c hc

end Statement

theorem ModuleId.isQuote_eq_false_of_mem {i : Nat} {c : Char}
    (h : c ∈ (ofIndex i).text.toList) : isQuote c = false := by
  have unquoted : Base36.digits.all (!isQuote ·) = true := by decide
  rw [toList_text_ofIndex] at h
  simpa using List.all_eq_true.1 unquoted c (Base36.mem_digits_of_mem_numeral h)

theorem Match.quoted?_of_slice?_eq {found : Match} {text : String} {q q' : Char}
    {name rest : List Char} (hq : isQuote q = true) (hq' : isQuote q' = true)
    (hname : ∀ c ∈ name, isQuote c = false)
    (h : slice? text ⟨found.package.start - 1, found.range.stop⟩ =
      some (String.ofList (q :: (name ++ q' :: rest)))) :
    found.quoted? text = some (String.ofList name) := by
  have unquoted : ∀ c ∈ name, (!isQuote c) = true := by
    intro c hc
    rw [hname c hc, Bool.not_false]
  have closed : (name ++ q' :: rest).dropWhile (fun c => !isQuote c) = q' :: rest := by
    rw [List.dropWhile_append_of_pos unquoted]
    simp [hq']
  have taken : (name ++ q' :: rest).takeWhile (fun c => !isQuote c) = name := by
    rw [List.takeWhile_append_of_pos unquoted]
    simp [hq']
  unfold Match.quoted?
  rw [h, Option.bind_eq_bind, Option.bind_some, String.toList_ofList, Statement.quote?_cons hq]
  simp only [Option.bind_eq_bind, Option.bind_some, closed, Statement.quote?_cons hq', taken]
  rfl

/-- Between the quotes of a redirected statement stand an identifier and what is written of the
variant. -/
theorem Match.quoted?_of_toList_eq {st : Statement} (hst : st.WellFormed) {text : String}
    {a b : List Char} {i : Nat}
    (h : text.toList = a ++ st.textWith (ModuleId.ofIndex i).text.toList ++ b) :
    (st.matchAt (byteLength a)).quoted? text =
      some ((ModuleId.ofIndex i).text ++ String.ofList (Statement.variantText st.variant)) := by
  let name := (ModuleId.ofIndex i).text.toList ++ Statement.variantText st.variant
  let part := st.openQuote :: (name ++ st.closeQuote :: if st.semicolon then [';'] else [])
  have unquoted : ∀ c ∈ name, isQuote c = false := by
    intro c hc
    obtain hc | hc := List.mem_append.1 hc
    · exact ModuleId.isQuote_eq_false_of_mem hc
    · exact Statement.isQuote_eq_false_of_mem_variantText hst hc
  obtain ⟨x, hx⟩ : ∃ x, st.beforePackage = x ++ [st.openQuote] := ⟨_, rfl⟩
  have statement : st.textWith (ModuleId.ofIndex i).text.toList = x ++ part := by
    simp [Statement.textWith, Statement.afterPackage, hx, part, name]
  have start : (st.matchAt (byteLength a)).package.start - 1 = byteLength (a ++ x) := by
    simp [Statement.package_matchAt, hx, Statement.utf8Size_of_isQuote hst.openQuote,
      ← Nat.add_assoc]
  have stop : (st.matchAt (byteLength a)).range.stop = byteLength (a ++ x ++ part) := by
    rw [Statement.range_matchAt, byteLength_append, ← st.byteLength_textWith i, statement]
    simp
  have slice : slice? text ⟨byteLength (a ++ x), byteLength (a ++ x ++ part)⟩ =
      some (String.ofList part) :=
    slice?_of_toList_eq (c := b) (by rw [h, statement, List.append_assoc a x])
  rw [← start, ← stop] at slice
  rw [Match.quoted?_of_slice?_eq hst.openQuote hst.closeQuote unquoted slice, String.ofList_append,
    String.ofList_toList]

/-! ### Served modules -/

namespace Plugin

variable {plugin : Plugin}

@[simp]
theorem specifier?_virtualName (specifier : String) :
    specifier? (virtualName specifier) = some specifier := by
  simp [specifier?, virtualName]

theorem resolve_eq_and_load_eq {specifier id : String} {entry : Entry}
    (hid : openingId? specifier = some id) (h : plugin.registry.get? id = some entry) :
    (plugin.resolve specifier).answer = some (virtualName specifier) ∧
      (plugin.load (virtualName specifier)).answer = some entry.moduleSource := by
  have known : plugin.registry.contains id = true := by
    rw [Registry.contains_eq_isSome_get?, h]
    rfl
  constructor
  · rw [resolve, hid]
    simp only [known, if_true]
  · simp only [load, specifier?_virtualName, Option.bind_some, hid, h]

end Plugin

theorem Match.reexport_eq {st : Statement} (hst : st.WellFormed) (offset : Nat) :
    (Target.ofVariant (st.matchAt offset).variant).reexport = (st.matchAt offset).line := by
  funext name
  have variant : (st.matchAt offset).variant = st.variant.map String.ofList := rfl
  rw [line, variant]
  cases hv : st.variant with
  | none => rfl
  | some v =>
    have named : String.ofList v ≠ "" := mt String.ofList_eq_empty_iff.1 (hst.variant v hv).1
    rw [Option.map_some, Target.ofVariant, if_neg named, Target.reexport_variant]
    simp [← String.toList_inj, packageName]

/-- From the transformation on, whatever is called, the name between the quotes of a redirected
statement is claimed, and its module has one line for each name in the list of the statement. -/
theorem Plugin.run_serves {plugin : Plugin} (h : plugin.Reachable) {source unit out : String}
    (hout : (plugin.transform source unit).answer = .ok (some out)) {m : Match}
    (hm : m ∈ scan source) :
    ∃ s names, m.quoted? out = some s ∧ importNames m.content = .ok names ∧
      ∀ calls, let later := ((plugin.transform source unit).plugin.run calls).plugin
        (later.resolve s).answer = some (virtualName s) ∧
          (later.load (virtualName s)).answer = some ("\n".intercalate (names.map m.line)) := by
  have hr := h.numbered
  obtain ⟨entries, -, hentries, hle, code, hplugin⟩ := transform_of_answer_eq_some hr hout
  obtain ⟨i, hi⟩ := List.mem_iff_getElem?.1 hm
  obtain ⟨entry, hentry, hm⟩ := getElem?_of_mapM_eq_ok hentries hi
  obtain ⟨names, hnames, rfl⟩ := Match.entry_eq_ok_iff.1 hm
  have registered := hr.getElem?_append hle hentry
  have stored := (hr.append hle).get?_ofIndex registered
  obtain ⟨st, hst, a, b, rfl, text⟩ :=
    Segments.exists_textWith_of_redirected (a := []) code hi
  have hst := Segments.wellFormed_of_mem_cut hst
  refine ⟨_, names, Match.quoted?_of_toList_eq hst text, hnames, fun calls => ?_⟩
  have kept := extends_run (h.transform source unit).numbered calls
  rw [hplugin] at kept ⊢
  rw [← Match.reexport_eq hst]
  exact resolve_eq_and_load_eq (openingId?_append (ModuleId.utf8ByteSize_ofIndex _) _)
    (kept.get? stored)

theorem Plugin.run_serves_second_statement :
    let plugin := ((start .silent).transform "import { a } from 'maic/v'" "first").plugin
    let source := "import {e} from 'maic'; import { w as é, v, } from 'maic/v'"
    let out := "import {e} from '0001'; import { w as é, v, } from '0002/v'"
    let m : Match := ⟨⟨24, 60⟩, ⟨53, 57⟩, " w as é, v, ", "v", "import { w as é, v, } from 'maic/v'"⟩
    plugin.Reachable ∧ (plugin.transform source "second").answer = .ok (some out) ∧
      m ∈ scan source ∧
      ∃ s names, m.quoted? out = some s ∧ importNames m.content = .ok names ∧
        ∀ calls, let later := ((plugin.transform source "second").plugin.run calls).plugin
          (later.resolve s).answer = some (virtualName s) ∧
            (later.load (virtualName s)).answer = some ("\n".intercalate (names.map m.line)) := by
  have reachable := (Reachable.start .silent).transform "import { a } from 'maic/v'" "first"
  exact ⟨reachable, by decide +kernel, by decide +kernel,
    run_serves reachable (by decide +kernel) (by decide +kernel)⟩

end IconImports
