import IconImports.Proofs.Plugin.Run
import IconImports.Proofs.Text.Bytes

/-!
# What a transformation does to a source

An identifier takes as many bytes as the name of the package (`byteLength_ofIndex`). So a redirected
text is as long as the text was, the statements of the text show where the identifiers stand in it
(`slice?_redirected`), nothing else is different (`getElem?_redirected`), and the text is restored by
writing the name of the package back (`foldlM_replace?_redirected`).

`transform_splices` says this of `Plugin.transform`, together with what is registered.
-/

namespace IconImports

/-! ### Identifiers are as long as the name of the package -/

theorem Base36.byteLength_numeral (width n : Nat) : byteLength (numeral width n) = width := by
  induction width generalizing n with
  | zero => rfl
  | succ width ih =>
    have ascii : digits.all (·.utf8Size == 1) = true := by decide
    have one : (digit (n % 36)).utf8Size = 1 := by
      simpa using List.all_eq_true.1 ascii _ (digit_mem_digits (n % 36))
    simp [numeral, ih, one]

theorem ModuleId.utf8ByteSize_ofIndex (i : Nat) : (ofIndex i).text.utf8ByteSize = width := by
  rw [← byteLength_toList, toList_text_ofIndex, Base36.byteLength_numeral]

theorem ModuleId.byteLength_ofIndex (i : Nat) :
    byteLength (ofIndex i).text.toList = byteLength Statement.packageWord := by
  rw [byteLength_toList, utf8ByteSize_ofIndex]
  decide

theorem Statement.byteLength_textWith (st : Statement) (i : Nat) :
    byteLength (st.textWith (ModuleId.ofIndex i).text.toList) = byteLength st.text := by
  simp only [text, textWith, byteLength_append, ModuleId.byteLength_ofIndex]

/-! ### Redirected texts -/

namespace Segments

variable {a a' : List Char} {statements : List (List Char × Statement)} {tail : List Char}

theorem byteLength_redirected (segments : Segments) (start : Nat) :
    byteLength (segments.redirected start) = byteLength segments.text := by
  obtain ⟨statements, tail⟩ := segments
  induction statements generalizing start with
  | nil => rfl
  | cons p statements ih =>
    obtain ⟨before, st⟩ := p
    simp only [redirected_cons, text_cons, byteLength_append, ModuleId.byteLength_ofIndex, ih]

theorem exists_textWith_of_redirected {s : String} {start i : Nat} {found : Match}
    (h : s.toList = a ++ (mk statements tail).redirected start)
    (hi : (matchesFrom (byteLength a) statements)[i]? = some found) :
    ∃ st ∈ statements.map Prod.snd, ∃ b c, found = st.matchAt (byteLength b) ∧
      s.toList = b ++ st.textWith (ModuleId.ofIndex (start + i)).text.toList ++ c := by
  induction statements generalizing a start i with
  | nil => cases hi
  | cons p statements ih =>
    obtain ⟨before, st⟩ := p
    rw [redirected_cons] at h
    rw [matchesFrom_cons] at hi
    cases i with
    | zero =>
      refine ⟨st, by simp, a ++ before, (mk statements tail).redirected (start + 1),
        (Option.some.inj hi).symm, ?_⟩
      simp [h, Statement.textWith]
    | succ i =>
      rw [List.getElem?_cons_succ] at hi
      let passed := a ++ before ++ st.textWith (ModuleId.ofIndex start).text.toList
      have length : byteLength (a ++ before ++ st.text) = byteLength passed := by
        rw [byteLength_append, ← st.byteLength_textWith start, ← byteLength_append]
      rw [length] at hi
      obtain ⟨st', hst', found⟩ := ih (by simpa [passed, Statement.textWith] using h) hi
      rw [Nat.succ_add_eq_add_succ] at found
      exact ⟨st', List.mem_cons_of_mem _ hst', found⟩

/-- The identifiers stand where the names of the package stood. -/
theorem slice?_redirected {s : String} {start i : Nat} {found : Match}
    (h : s.toList = a ++ (mk statements tail).redirected start)
    (hi : (matchesFrom (byteLength a) statements)[i]? = some found) :
    slice? s found.package = some (ModuleId.ofIndex (start + i)).text := by
  obtain ⟨st, -, b, c, rfl, hs⟩ := exists_textWith_of_redirected h hi
  have slice := slice?_of_toList_eq (s := s) (a := b ++ st.beforePackage)
    (b := (ModuleId.ofIndex (start + i)).text.toList) (by simpa [Statement.textWith] using hs)
  rwa [byteLength_append (b ++ st.beforePackage), ModuleId.byteLength_ofIndex,
    ← byteLength_append, ← Statement.package_matchAt, String.ofList_toList] at slice

/-- Away from the names of the package, a redirected text is as the text was. -/
theorem getElem?_redirected {i : Nat} (hlen : byteLength a = byteLength a')
    (ha : (utf8Bytes (String.ofList a))[i]? = (utf8Bytes (String.ofList a'))[i]?) (start : Nat)
    (hi : ∀ found ∈ matchesFrom (byteLength a') statements,
      i < found.package.start ∨ found.package.stop ≤ i) :
    (utf8Bytes (String.ofList (a ++ (mk statements tail).redirected start)))[i]? =
      (utf8Bytes (String.ofList (a' ++ (mk statements tail).text)))[i]? := by
  induction statements generalizing a a' start with
  | nil => exact getElem?_utf8Bytes_append hlen ha tail
  | cons p statements ih =>
    obtain ⟨before, st⟩ := p
    rw [matchesFrom_cons, List.forall_mem_cons, Statement.package_matchAt] at hi
    obtain ⟨outside, hi⟩ := hi
    have copied := getElem?_utf8Bytes_append hlen ha (before ++ st.beforePackage)
    have redirected : (utf8Bytes (String.ofList (a ++ (before ++ st.beforePackage) ++
        (ModuleId.ofIndex start).text.toList)))[i]? =
        (utf8Bytes (String.ofList (a' ++ (before ++ st.beforePackage) ++
          Statement.packageWord)))[i]? :=
      getElem?_utf8Bytes_append_of_not_mem (by simp [hlen]) (ModuleId.byteLength_ofIndex start)
        copied (by simpa [hlen, ModuleId.byteLength_ofIndex] using outside)
    have copied' := getElem?_utf8Bytes_append (by simp [hlen, ModuleId.byteLength_ofIndex])
      redirected st.afterPackage
    have rest := ih (by simp [hlen, ModuleId.byteLength_ofIndex]) copied' (start + 1)
      (by simpa [Statement.text, Statement.textWith] using hi)
    simpa [redirected_cons, text_cons] using rest

/-- Writing the name of the package back over the identifiers restores the text. -/
theorem foldlM_replace?_redirected {s : String} {start : Nat}
    (h : s.toList = a ++ (mk statements tail).redirected start) :
    (matchesFrom (byteLength a) statements).foldlM
        (fun s found => replace? s found.package packageName) s =
      some (String.ofList (a ++ (mk statements tail).text)) := by
  induction statements generalizing a start s with
  | nil =>
    rw [redirected_nil] at h
    rw [matchesFrom, List.foldlM_nil, ← String.ofList_toList (s := s), h]
    rfl
  | cons p statements ih =>
    obtain ⟨before, st⟩ := p
    rw [redirected_cons] at h
    have replaced := replace?_of_toList_eq (s := s) (a := a ++ before ++ st.beforePackage)
      (b := (ModuleId.ofIndex start).text.toList) (by simpa using h) packageName
    rw [byteLength_append (a ++ before ++ st.beforePackage), ModuleId.byteLength_ofIndex,
      ← byteLength_append, ← Statement.package_matchAt] at replaced
    have rest : (String.ofList (a ++ before ++ st.beforePackage) ++ packageName ++
        String.ofList (st.afterPackage ++ (mk statements tail).redirected (start + 1))).toList =
        a ++ before ++ st.text ++ (mk statements tail).redirected (start + 1) := by
      simp [Statement.text, Statement.textWith, Statement.packageWord_eq]
    rw [matchesFrom_cons, List.foldlM_cons, replaced, Option.bind_eq_bind, Option.bind_some, ih rest]
    simp [text_cons, Statement.text, Statement.textWith]

end Segments

/-! ### Transformations -/

namespace Plugin

variable {plugin : Plugin} {source unit out : String}

/-- What a transformation that redirects something answers and leaves behind. -/
theorem transform_of_answer_eq_some (hr : plugin.registry.Numbered)
    (hout : (plugin.transform source unit).answer = .ok (some out)) :
    ∃ entries, scan source ≠ [] ∧ (scan source).mapM (·.entry unit) = .ok entries ∧
      plugin.registry.size + entries.length ≤ ModuleId.capacity ∧
      out.toList = (Segments.ofText source.toList).redirected plugin.registry.size ∧
      (plugin.transform source unit).plugin = ⟨plugin.registry.append entries, plugin.logger⟩ := by
  obtain ⟨-, h⟩ | ⟨e, -, -, h⟩ | ⟨entries, -, -, -, h⟩ | ⟨entries, hf, hm, hle, h⟩ :=
    transform_cases hr source unit
  · rw [h] at hout
    cases hout
  · rw [h] at hout
    cases hout
  · rw [h] at hout
    cases hout
  · rw [h] at hout ⊢
    injection hout with hout
    injection hout with hout
    exact ⟨entries, hf, hm, hle, by rw [← hout, String.toList_ofList], rfl⟩

/-- `out` is `source` with an identifier in the place of each package name, and the registry has grown
from `r` to `r'` by what the statements ask for. -/
structure Spliced (source out : String) (r r' : Registry) : Prop where
  found : scan source ≠ []
  utf8ByteSize : out.utf8ByteSize = source.utf8ByteSize
  /-- Outside the names of the package, all bytes stay. -/
  outside : ∀ i, (∀ m ∈ scan source, i < m.package.start ∨ m.package.stop ≤ i) →
    (utf8Bytes out)[i]? = (utf8Bytes source)[i]?
  /-- A name of the package has become the number of the entry of its statement, in four digits. -/
  inside : ∀ i m, (scan source)[i]? = some m → ∃ id names, slice? out m.package = some id ∧
    id.length = 4 ∧ Base36.value? id.toList = some (r.size + i) ∧
    importNames m.content = .ok names ∧
    r'.toList[r.size + i]? = some (⟨id⟩, ⟨.ofVariant m.variant, names⟩)
  size : r'.size = r.size + (scan source).length
  /-- The old entries come first and stay as they are. -/
  old : r.toList <+: r'.toList
  /-- Writing the name of the package back restores the source. -/
  restored : (scan source).foldlM (fun s m => replace? s m.package packageName) out = some source

/-- A transformation that redirects something changes the source in the places of the package names
and nowhere else. -/
theorem transform_splices (h : plugin.Reachable)
    (hout : (plugin.transform source unit).answer = .ok (some out)) :
    Spliced source out plugin.registry (plugin.transform source unit).plugin.registry := by
  have hr := h.numbered
  obtain ⟨entries, hf, hm, hle, code, hplugin⟩ := transform_of_answer_eq_some hr hout
  have text := Segments.text_ofText source.toList
  have length : entries.length = (scan source).length := length_of_mapM_eq_ok hm
  have out_eq := String.ofList_toList (s := out)
  have source_eq := String.ofList_toList (s := source)
  rw [code] at out_eq
  rw [← text] at source_eq
  rw [hplugin]
  constructor
  case found => exact hf
  case utf8ByteSize =>
    rw [← byteLength_toList, ← byteLength_toList, code, Segments.byteLength_redirected, text]
  case outside =>
    intro i hi
    let segments := Segments.ofText source.toList
    have bytes : (utf8Bytes (String.ofList (segments.redirected plugin.registry.size)))[i]? =
        (utf8Bytes (String.ofList segments.text))[i]? :=
      Segments.getElem?_redirected (a := []) rfl rfl plugin.registry.size hi
    rwa [out_eq, source_eq] at bytes
  case inside =>
    intro i m hi
    obtain ⟨entry, hentry, hm⟩ := getElem?_of_mapM_eq_ok hm hi
    obtain ⟨names, hnames, rfl⟩ := Match.entry_eq_ok_iff.1 hm
    have registered := hr.getElem?_append hle hentry
    have hlt : plugin.registry.size + i < ModuleId.capacity := by
      have := (List.getElem?_eq_some_iff.1 hentry).1
      omega
    refine ⟨_, names, Segments.slice?_redirected (a := []) code hi, ?_, ?_, hnames, registered⟩
    · rw [← String.length_toList, ModuleId.toList_text_ofIndex, Base36.length_numeral]
      rfl
    · rw [ModuleId.toList_text_ofIndex, Base36.value?_numeral hlt]
  case size => rw [hr.size_append hle, length]
  case old => exact hr.extends_append hle
  case restored =>
    have restored :
        (scan source).foldlM (fun s m => replace? s m.package packageName) out =
          some (String.ofList (Segments.ofText source.toList).text) :=
      Segments.foldlM_replace?_redirected (a := []) code
    rwa [source_eq] at restored

/-- A second source, in which an identifier stands already. -/
theorem transform_splices_second_source :
    let plugin := ((start .silent).transform "import { a } from 'maic/v'" "first").plugin
    let source := "'0001é' import { b as c } from \"maic\"; import\n{d,} from 'maic/v'"
    let out := "'0001é' import { b as c } from \"0001\"; import\n{d,} from '0002/v'"
    plugin.Reachable ∧ (plugin.transform source "second").answer = .ok (some out) ∧
      Spliced source out plugin.registry (plugin.transform source "second").plugin.registry := by
  have reachable := (Reachable.start .silent).transform "import { a } from 'maic/v'" "first"
  exact ⟨reachable, by decide +kernel, transform_splices reachable (by decide +kernel)⟩

end Plugin

end IconImports
